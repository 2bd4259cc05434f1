import GameGateway.Service.CommandLine
import GameGateway.Service.EventLine
import GameGateway.Text.Hex

/-!
# The program

Reads the settings from the environment and serves until its input ends.  Every line of the input is
one connection: the bytes that a player sends, in hexadecimal digits, before it ends its side.  The
bytes that the player gets back are written as a line of digits, between the lines of the events
that are reported.  Nothing else is connected to, so no backend can be reached.
-/

namespace GameGateway

/-- Where the connections of the input come from. -/
def Main.visitor : SocketAddress := ⟨.ofOctets 127 0 0 1, 0, 0⟩

/-- Writes the events that a filter lets through. -/
def Main.show (filter : EventFilter) (events : List Event) : IO Unit :=
  (events.filter filter.allows).forM fun event => IO.println event.toLine

/-- Serves one connection after the other until the input ends. -/
partial def Main.serve (input : IO.FS.Stream) (filter : EventFilter) (service : Service) :
    IO Unit := do
  let line ← input.getLine
  if line.isEmpty then return
  match Hex.decode? (Text.trim line).toList with
  | none =>
    IO.eprintln "not a line of hexadecimal digits"
    Main.serve input filter service
  | some bytes =>
    let (reply, after) := service.visit Main.visitor bytes
    Main.show filter after.events.reverse
    IO.println (String.ofList (Hex.encode reply))
    Main.serve input filter { after with events := [] }

end GameGateway

open GameGateway in
def main : IO UInt32 := do
  let settings ← ("RUST_LOG" :: Config.names).mapM fun name => return (name, ← IO.getEnv name)
  let lookup : Config.Lookup := fun name => (settings.lookup name).join
  match Start.run .isolated lookup with
  | .ended code complaint events filter =>
    Main.show filter events
    IO.eprint complaint
    return UInt32.ofNat code
  | .serving _ service events filter complaint =>
    IO.eprint complaint
    Main.show filter events
    Main.serve (← IO.getStdin) filter service
    Main.show filter [.shutdownRequested]
    return 0
