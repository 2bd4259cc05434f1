import GameGateway.Session.Event

/-!
# Events as lines

Each event is written as one line of JSON: its level, its fields with the message in front, and the
part of the program that reports it.
-/

namespace GameGateway

namespace JsonText

/-- How a character stands in a JSON string: the quote, the backslash and the control characters
are escaped, and nothing else is. -/
def escape (c : Char) : List Char :=
  match c with
  | '"' => ['\\', '"']
  | '\\' => ['\\', '\\']
  | '\n' => ['\\', 'n']
  | '\r' => ['\\', 'r']
  | '\t' => ['\\', 't']
  | '\x08' => ['\\', 'b']
  | '\x0c' => ['\\', 'f']
  | c =>
    if c.toNat < 0x20 then
      ['\\', 'u', '0', '0', Nat.digitChar (c.toNat / 16), Nat.digitChar (c.toNat % 16)]
    else [c]

/-- A JSON string. -/
def quote (text : String) : String :=
  "\"" ++ String.ofList (text.toList.flatMap escape) ++ "\""

/-- A JSON object whose values are JSON already. -/
def object (members : List (String × String)) : String :=
  "\x7b" ++ ",".intercalate (members.map fun (key, value) => quote key ++ ":" ++ value) ++ "\x7d"

end JsonText

/-- The JSON form of a field's value. -/
def FieldValue.toJson : FieldValue → String
  | number n => toString n
  | flag b => if b then "true" else "false"
  | text s => JsonText.quote s

/-- The line of an event. -/
def Event.toLine (event : Event) : String :=
  let fields := ("message", JsonText.quote event.message) ::
    event.fields.map fun (key, value) => (key, value.toJson)
  JsonText.object
    [("level", JsonText.quote event.level.name), ("fields", JsonText.object fields),
      ("target", JsonText.quote event.target)]

end GameGateway
