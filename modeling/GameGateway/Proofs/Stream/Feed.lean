import GameGateway.Stream.Source

/-!
# Feeds

A feed is what a script sends once it is forgotten how the bytes were cut into chunks and where
reads were suspended: bytes, faults and ends, one symbol after the other.  Every read is decided by
the feed alone (`Source.read_answers`, `Source.readThrough_answers`), so a law about feeds holds
however the bytes arrive.

A bare read stops at every fault; a patient one repeats a read for as long as it is interrupted.
`Feed.delivered` are the bytes before the first fault or end, `Feed.patient` those before the first
fault that is no interruption or the first end; `Feed.ending` is that fault, and `Feed.behind` what
follows it.
-/

namespace GameGateway

/-- What a reader can meet next. -/
inductive Symbol
  | byte (b : UInt8)
  | fault (error : IoError)
  | finish
  deriving DecidableEq, Repr

/-- The symbols that a stream sends, in order. -/
abbrev Feed := List Symbol

namespace Symbol

/-- Whether a symbol says nothing about the stream, so that the read is repeated. -/
def isInterruption : Symbol → Bool
  | fault e => e.kind = .interrupted
  | _ => false

@[simp] theorem isInterruption_byte (b : UInt8) : (byte b).isInterruption = false := rfl

@[simp] theorem isInterruption_fault (e : IoError) :
    (fault e).isInterruption = decide (e.kind = .interrupted) := rfl

@[simp] theorem isInterruption_finish : finish.isInterruption = false := rfl

end Symbol

namespace Arrival

/-- What an arrival adds to a feed. -/
def symbols : Arrival → Feed
  | chunk bytes => bytes.map .byte
  | fault e => [.fault e]
  | finish => [.finish]
  | pause => []

/-- The feed of a script. -/
def feed (script : List Arrival) : Feed :=
  script.flatMap symbols

@[simp] theorem feed_nil : feed [] = [] := rfl

@[simp] theorem feed_cons (arrival : Arrival) (script : List Arrival) :
    feed (arrival :: script) = arrival.symbols ++ feed script := by
  simp [feed]

end Arrival

/-- The feed of what has not been read yet. -/
def Source.feed (source : Source) : Feed :=
  Arrival.feed source.script

/-! ## One read -/

namespace Feed

/-- What one read of some bytes answers on a feed, and the feed it leaves. -/
inductive Answers : Feed → Answer → Feed → Prop
  | data {bytes : Bytes} {rest : Feed} : bytes ≠ [] →
    Answers (bytes.map .byte ++ rest) (.data bytes) rest
  | fault {e : IoError} {rest : Feed} : Answers (.fault e :: rest) (.fault e) rest
  | finish {rest : Feed} : Answers (.finish :: rest) .finished rest
  | dry : Answers [] .finished []

/-- The feed behind the interruptions that it starts with. -/
def settle (feed : Feed) : Feed :=
  feed.dropWhile Symbol.isInterruption

@[simp] theorem settle_nil : settle [] = [] := rfl

@[simp] theorem settle_byte (b : UInt8) (feed : Feed) :
    settle (.byte b :: feed) = .byte b :: feed := rfl

@[simp] theorem settle_finish (feed : Feed) : settle (.finish :: feed) = .finish :: feed := rfl

theorem settle_interruption {e : IoError} (again : e.kind = .interrupted) (feed : Feed) :
    settle (.fault e :: feed) = settle feed := by
  simp [settle, again]

theorem settle_fault {e : IoError} (lasting : e.kind ≠ .interrupted) (feed : Feed) :
    settle (.fault e :: feed) = .fault e :: feed := by
  simp [settle, lasting]

theorem lasting_of_settle {feed rest : Feed} {e : IoError}
    (settled : feed.settle = .fault e :: rest) : e.kind ≠ .interrupted := by
  induction feed with
  | nil => cases settled
  | cons symbol feed ih =>
      cases symbol with
      | byte b => cases settled
      | fault other =>
          by_cases again : other.kind = .interrupted
          · rw [settle_interruption again] at settled
            exact ih settled
          · rw [settle_fault again] at settled
            cases settled
            exact again
      | finish => cases settled

/-- An answer that is no interruption comes from behind the interruptions as well. -/
theorem Answers.settle {feed rest : Feed} {answer : Answer} (answers : Answers feed answer rest)
    (lasting : ∀ e, answer = .fault e → e.kind ≠ .interrupted) :
    Answers feed.settle answer rest := by
  cases answers with
  | @data bytes _ some =>
      obtain ⟨b, bs, rfl⟩ := List.exists_cons_of_ne_nil some
      exact .data some
  | fault =>
      rw [settle_fault (lasting _ rfl)]
      exact .fault
  | finish => exact .finish
  | dry => exact .dry

theorem Answers.settle_eq_of_interrupted {feed rest : Feed} {e : IoError}
    (answers : Answers feed (.fault e) rest) (again : e.kind = .interrupted) :
    feed.settle = rest.settle := by
  cases answers with
  | fault => exact settle_interruption again rest

end Feed

theorem Arrival.advance_answers {limit : Nat} (positive : 0 < limit) (script : List Arrival) :
    Feed.Answers (feed script) (advance limit script).1 (feed (advance limit script).2) := by
  fun_induction advance limit script with
  | case1 => exact .dry
  | case2 script ih => simpa [symbols] using ih
  | case3 e script => simpa [symbols] using Feed.Answers.fault
  | case4 script => simpa [symbols] using Feed.Answers.finish
  | case5 script ih => simpa [symbols] using ih
  | case6 b bs script used =>
      simpa [symbols] using @Feed.Answers.data _ (feed script) (List.cons_ne_nil b bs)
  | case7 b bs script left =>
      have split : (b :: bs).map Symbol.byte =
          ((b :: bs).take limit).map .byte ++ ((b :: bs).drop limit).map .byte := by
        rw [← List.map_append, List.take_append_drop]
      have taken : (b :: bs).take limit ≠ [] := by
        simp [List.take_eq_nil_iff]
        omega
      simp only [feed_cons, symbols]
      rw [split, List.append_assoc]
      exact .data taken

namespace Source

variable {limit : Nat} {source rest : Source} {answer : Answer}

/-- A bare read answers the front of the feed and leaves the rest. -/
theorem read_answers (positive : 0 < limit) (answered : source.read limit = (answer, rest)) :
    Feed.Answers source.feed answer rest.feed := by
  have nonzero : limit ≠ 0 := by omega
  have first := Arrival.advance_answers positive source.script
  simp only [read, Arrival.answer, nonzero, if_false, Prod.mk.injEq] at answered
  obtain ⟨rfl, rfl⟩ := answered
  exact first

/-- A patient read does so behind the interruptions. -/
theorem readThrough_answers (positive : 0 < limit)
    (answered : source.readThrough limit = (answer, rest)) :
    Feed.Answers source.feed.settle answer rest.feed := by
  fun_induction readThrough limit source with
  | case1 source e next first again _ ih =>
      rw [(read_answers positive first).settle_eq_of_interrupted again]
      exact ih answered
  | case2 source e next first lasting =>
      cases answered
      refine (read_answers positive first).settle fun e' same => ?_
      cases same
      exact lasting
  | case3 source bytes next first =>
      cases answered
      exact (read_answers positive first).settle (by simp)
  | case4 source next first =>
      cases answered
      exact (read_answers positive first).settle (by simp)

end Source

/-! ## Parts of a feed -/

namespace Feed

/-- The bytes before the first fault or end. -/
def delivered : Feed → Bytes
  | .byte b :: feed => b :: delivered feed
  | _ => []

/-- The bytes that patient reads can get: those before the first fault that is no interruption, or
before the first end. -/
def patient : Feed → Bytes
  | .byte b :: feed => b :: patient feed
  | .fault e :: feed => if e.kind = .interrupted then patient feed else []
  | _ => []

/-- The fault that ends patient reading, if it is not the end of the stream. -/
def ending : Feed → Option IoError
  | .byte _ :: feed => ending feed
  | .fault e :: feed => if e.kind = .interrupted then ending feed else some e
  | _ => none

/-- What follows the fault or end that ends patient reading. -/
def behind : Feed → Feed
  | .byte _ :: feed => behind feed
  | .fault e :: feed => if e.kind = .interrupted then behind feed else feed
  | .finish :: feed => feed
  | [] => []

/-- What is left behind the first `n` bytes.  What comes right behind the last of them is left. -/
def skip : (n : Nat) → Feed → Feed
  | 0, feed => feed
  | _ + 1, [] => []
  | n + 1, .byte _ :: feed => skip n feed
  | n + 1, .fault _ :: feed => skip (n + 1) feed
  | n + 1, .finish :: feed => skip (n + 1) feed

@[simp] theorem skip_zero (feed : Feed) : feed.skip 0 = feed := by
  cases feed <;> rfl

@[simp] theorem skip_nil (n : Nat) : skip n [] = [] := by
  cases n <;> rfl

/-- Where patient reading meets a byte. -/
theorem settle_of_patient_eq_cons {feed : Feed} {b : UInt8} {bytes : Bytes}
    (front : feed.patient = b :: bytes) :
    ∃ rest : Feed, feed.settle = .byte b :: rest ∧ rest.patient = bytes ∧
      rest.ending = feed.ending ∧ rest.behind = feed.behind ∧
      ∀ n, feed.skip (n + 1) = rest.skip n := by
  induction feed with
  | nil => simp [patient] at front
  | cons symbol feed ih =>
      cases symbol with
      | byte other =>
          simp only [patient, List.cons.injEq] at front
          obtain ⟨rfl, rfl⟩ := front
          exact ⟨feed, rfl, rfl, rfl, rfl, fun n => rfl⟩
      | fault e =>
          by_cases again : e.kind = .interrupted
          · simp only [patient, again, if_true] at front
            simpa only [settle_interruption again, ending, behind, again, if_true, skip] using
              ih front
          · simp [patient, again] at front
      | finish => simp [patient] at front

/-- Where patient reading ends. -/
theorem settle_of_patient_eq_nil {feed : Feed} (dry : feed.patient = []) :
    (∃ e, feed.ending = some e ∧ e.kind ≠ .interrupted ∧
        feed.settle = .fault e :: feed.behind) ∨
      feed.ending = none ∧
        (feed.settle = .finish :: feed.behind ∨ feed.settle = [] ∧ feed.behind = []) := by
  induction feed with
  | nil => simp [ending, behind]
  | cons symbol feed ih =>
      cases symbol with
      | byte b => simp [patient] at dry
      | fault e =>
          by_cases again : e.kind = .interrupted
          · simp only [patient, again, if_true] at dry
            simpa only [settle_interruption again, ending, behind, again, if_true] using ih dry
          · exact .inl ⟨e, by simp [ending, again], again, by simp [settle, behind, again]⟩
      | finish => exact .inr ⟨rfl, .inl rfl⟩

theorem skip_add (m n : Nat) (feed : Feed) : feed.skip (m + n) = (feed.skip m).skip n := by
  induction feed generalizing m with
  | nil => simp
  | cons symbol feed ih =>
      cases m with
      | zero => simp
      | succ m =>
          rw [Nat.succ_add]
          cases symbol with
          | byte b => exact ih m
          | fault e => simpa only [skip, Nat.succ_add] using ih (m + 1)
          | finish => simpa only [skip, Nat.succ_add] using ih (m + 1)

/-- Skipping bytes that patient reading gets keeps where it ends. -/
theorem skip_patient {feed : Feed} {taken bytes : Bytes} (front : feed.patient = taken ++ bytes) :
    (feed.skip taken.length).patient = bytes ∧ (feed.skip taken.length).ending = feed.ending ∧
      (feed.skip taken.length).behind = feed.behind := by
  induction taken generalizing feed with
  | nil => simpa using front
  | cons b taken ih =>
      obtain ⟨rest, -, left, ending, behind, skips⟩ := settle_of_patient_eq_cons front
      rw [List.length_cons, skips, ← ending, ← behind]
      exact ih left

end Feed

theorem Arrival.delivered_feed (script : List Arrival) :
    (feed script).delivered = delivered script := by
  induction script with
  | nil => rfl
  | cons arrival script ih =>
      cases arrival with
      | chunk bytes =>
          simp only [feed_cons, symbols, Arrival.delivered, ← ih]
          induction bytes with
          | nil => rfl
          | cons b bytes grow => simpa [Feed.delivered] using grow
      | fault e => rfl
      | finish => rfl
      | pause => simpa [symbols, Arrival.delivered] using ih

/-- The feed keeps the bytes that bare reads can get. -/
theorem Source.delivered_feed (source : Source) : source.feed.delivered = source.delivered :=
  Arrival.delivered_feed source.script

end GameGateway
