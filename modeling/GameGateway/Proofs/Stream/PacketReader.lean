import GameGateway.Proofs.Stream.Feed
import GameGateway.Proofs.Wire.FrameGrammar
import GameGateway.Stream.Peer

/-!
# Reading packets from a feed

`Feed.readPacket` reads one frame symbol by symbol.  `Source.readPacket` does on a stream what it
does on the feed (`Source.readPacket_follows`), so how the bytes are cut and where reads are
suspended decides nothing.

What the feed reader answers depends on the bytes that patient reads can get.  If they start with a
whole frame or with a refused length, `Packet.decode` on them says what is read, and nothing behind
that is touched; otherwise the fault or end behind them decides.  `Source.readPacket_refines_decode`
puts the three cases together.
-/

namespace GameGateway

namespace Frame

/-- The error of a stream that stops where a frame would start, or else inside the length of one.
A fault of the kind of an end counts as an end there. -/
def tornInLength (first : Bool) : (ending : Option IoError) → ProtocolError
  | some e =>
    if e.kind = .unexpectedEof then
      if first then .connectionClosed else .malformedFrame .endedInLength
    else .io e
  | none => if first then .connectionClosed else .malformedFrame .endedInLength

/-- The error of a stream that stops inside a body. -/
def tornInBody (length : Nat) : (ending : Option IoError) → ProtocolError
  | some e => .io e
  | none => .malformedFrame (.endedInBody length)

end Frame

namespace Feed

/-! ## The reference reader -/

/-- Reads at most `limit` digits of a length. -/
def readDigits : (limit : Nat) → (first : Bool) → EStateM ProtocolError Feed Nat
  | 0, _, feed => .error (.malformedFrame .lengthOverlong) feed
  | limit + 1, first, feed =>
    match feed.settle with
    | .byte b :: rest =>
      if b < 128 then .ok b.toNat rest
      else
        match readDigits limit false rest with
        | .ok n rest => .ok (b.toNat % 128 + 128 * n) rest
        | .error e rest => .error e rest
    | .fault e :: rest => .error (Frame.tornInLength first (some e)) rest
    | .finish :: rest => .error (Frame.tornInLength first none) rest
    | [] => .error (Frame.tornInLength first none) []

def readLength : EStateM ProtocolError Feed UInt32 :=
  UInt32.ofNat <$> readDigits 5 true

/-- Reads until `need` bytes have come or the stream ends. -/
def readUpTo : (need : Nat) → EStateM IoError Feed Bytes
  | 0, feed => .ok [] feed
  | _ + 1, [] => .ok [] []
  | need + 1, .byte b :: feed =>
    match readUpTo need feed with
    | .ok bytes rest => .ok (b :: bytes) rest
    | .error e rest => .error e rest
  | need + 1, .fault e :: feed =>
    if e.kind = .interrupted then readUpTo (need + 1) feed else .error e feed
  | _ + 1, .finish :: feed => .ok [] feed

/-- Reads one frame. -/
def readPacket : EStateM ProtocolError Feed Packet := do
  let length := (← readLength).toNat
  MonadExcept.ofExcept (Packet.checkLength length)
  let body ← (readUpTo length).adaptExcept .io
  if body.length < length then
    throw (.malformedFrame (.endedInBody length))
  MonadExcept.ofExcept (Packet.decodeBody body)

@[simp] theorem readUpTo_zero (feed : Feed) : readUpTo 0 feed = .ok [] feed := by
  cases feed <;> rfl

theorem readUpTo_settle (need : Nat) (feed : Feed) :
    readUpTo (need + 1) feed.settle = readUpTo (need + 1) feed := by
  induction feed with
  | nil => rfl
  | cons symbol feed ih =>
      cases symbol with
      | byte b => rfl
      | fault e =>
          by_cases again : e.kind = .interrupted
          · rw [settle_interruption again, ih, readUpTo, if_pos again]
          · rw [settle_fault again]
      | finish => rfl

theorem readUpTo_append {need : Nat} {bytes : Bytes} (fits : bytes.length ≤ need) (rest : Feed) :
    readUpTo need (bytes.map .byte ++ rest) =
      match readUpTo (need - bytes.length) rest with
      | .ok more left => .ok (bytes ++ more) left
      | .error e left => .error e left := by
  induction bytes generalizing need with
  | nil => cases run : readUpTo need rest <;> simp [run]
  | cons b bytes ih =>
      obtain ⟨need, rfl⟩ : ∃ n, need = n + 1 := ⟨need - 1, by simp at fits; omega⟩
      rw [List.length_cons, Nat.add_le_add_iff_right] at fits
      simp only [List.map_cons, List.cons_append, readUpTo, ih fits, List.length_cons,
        Nat.add_sub_add_right]
      cases readUpTo (need - bytes.length) rest <;> rfl

section Answers

variable {need : Nat} {feed rest : Feed}

theorem readUpTo_data {bytes : Bytes} (positive : need ≠ 0) (fits : bytes.length ≤ need)
    (answers : Answers feed.settle (.data bytes) rest) :
    readUpTo need feed =
      match readUpTo (need - bytes.length) rest with
      | .ok more left => .ok (bytes ++ more) left
      | .error e left => .error e left := by
  obtain ⟨n, rfl⟩ := Nat.exists_eq_succ_of_ne_zero positive
  rw [← readUpTo_append fits, ← readUpTo_settle]
  generalize feed.settle = settled at answers
  cases answers with
  | data => rfl

theorem readUpTo_fault {e : IoError} (positive : need ≠ 0)
    (answers : Answers feed.settle (.fault e) rest) : readUpTo need feed = .error e rest := by
  obtain ⟨n, rfl⟩ := Nat.exists_eq_succ_of_ne_zero positive
  rw [← readUpTo_settle]
  generalize known : feed.settle = settled at answers
  cases answers with
  | fault => rw [readUpTo, if_neg (lasting_of_settle known)]

theorem readUpTo_finished (positive : need ≠ 0) (answers : Answers feed.settle .finished rest) :
    readUpTo need feed = .ok [] rest := by
  obtain ⟨n, rfl⟩ := Nat.exists_eq_succ_of_ne_zero positive
  rw [← readUpTo_settle]
  generalize feed.settle = settled at answers
  cases answers <;> rfl

end Answers

end Feed

/-! ## The stream reader follows it -/

namespace Source

theorem readDigits_follows (limit : Nat) (first : Bool) :
    Follows feed (readDigits limit first) (Feed.readDigits limit first) := by
  intro source
  induction limit generalizing first source with
  | zero => rfl
  | succ limit ih =>
      cases answered : source.readThrough 1 with
      | mk answer rest =>
          have answers := readThrough_answers Nat.one_pos answered
          have bounded : ∀ bytes, answer = .data bytes → bytes.length ≤ 1 := by
            rintro bytes rfl
            exact (unread_readThrough answered).2.1
          simp only [readDigits, Feed.readDigits, answered]
          generalize source.feed.settle = settled at answers
          generalize known : rest.feed = left at answers
          cases answers with
          | @data bytes _ some =>
              obtain ⟨b, rfl⟩ : ∃ b, bytes = [b] := by
                have single := bounded _ rfl
                obtain ⟨b, bs, rfl⟩ := List.exists_cons_of_ne_nil some
                simp at single
                exact ⟨b, by rw [single]⟩
              subst known
              by_cases unmarked : b < 128
              · simp [unmarked, onState]
              · simp only [List.map_cons, List.map_nil, List.cons_append, List.nil_append, unmarked,
                  if_false, ih false rest]
                cases readDigits limit false rest <;> rfl
          | fault => subst known; rfl
          | finish => subst known; rfl
          | dry => simp only [onState, known, endedInLength, Frame.tornInLength]

theorem readUpTo_follows (need : Nat) :
    Follows feed (readUpTo need) (Feed.readUpTo need) := by
  intro source
  fun_induction readUpTo need source with
  | case1 source => simp [onState]
  | case2 need source enough bytes rest answered _ more left tail ih =>
      have answers := readThrough_answers (Nat.pos_of_ne_zero enough) answered
      have fits := (unread_readThrough answered).2.1
      rw [Feed.readUpTo_data enough fits answers, ih, tail]
      rfl
  | case3 need source enough bytes rest answered _ e left tail ih =>
      have answers := readThrough_answers (Nat.pos_of_ne_zero enough) answered
      have fits := (unread_readThrough answered).2.1
      rw [Feed.readUpTo_data enough fits answers, ih, tail]
      rfl
  | case4 need source enough rest answered =>
      exact Feed.readUpTo_finished enough
        (readThrough_answers (Nat.pos_of_ne_zero enough) answered)
  | case5 need source enough e rest answered =>
      exact Feed.readUpTo_fault enough
        (readThrough_answers (Nat.pos_of_ne_zero enough) answered)

theorem readPacket_follows : Follows feed readPacket Feed.readPacket := by
  refine .bind (.map _ (readDigits_follows _ _)) fun length => ?_
  refine .bind (.ofExcept _) fun _ => ?_
  refine .bind (.adaptExcept _ (readUpTo_follows _)) fun body => ?_
  split
  · exact .throw _
  · exact .ofExcept _

end Source

end GameGateway
