/-!
# Verdicts

Something that is checked comes to an answer or to an error.  `Decides answers fails outcome` gives
a condition for each answer and one for each error.  For a sequence of checks the conditions are put
together from those of its parts (`Decides.bind`): a part is blamed only where everything in front
of it gave an answer, and what comes behind it does not matter then.
-/

namespace GameGateway

variable {ε α β : Type}

/-- The condition under which an outcome is each answer, and the one under which it is each
error. -/
structure Decides (answers : α → Prop) (fails : ε → Prop) (outcome : Except ε α) : Prop where
  ok_iff : ∀ a, outcome = .ok a ↔ answers a
  error_iff : ∀ e, outcome = .error e ↔ fails e

namespace Decides

variable {answers : α → Prop} {fails : ε → Prop} {outcome : Except ε α}

/-- Conditions that are good enough decide if one of them always holds. -/
theorem of_cases (cases : (∃ a, answers a) ∨ ∃ e, fails e)
    (ok : ∀ a, answers a → outcome = .ok a) (error : ∀ e, fails e → outcome = .error e) :
    Decides answers fails outcome := by
  rcases cases with ⟨a, holds⟩ | ⟨e, holds⟩
  · have answered := ok a holds
    refine ⟨fun a' => ⟨fun same => ?_, ok a'⟩, fun e => ⟨fun same => ?_, error e⟩⟩
    · rw [answered] at same
      cases same
      exact holds
    · rw [answered] at same
      cases same
  · have failed := error e holds
    refine ⟨fun a => ⟨fun same => ?_, ok a⟩, fun e' => ⟨fun same => ?_, error e'⟩⟩
    · rw [failed] at same
      cases same
    · rw [failed] at same
      cases same
      exact holds

/-- Something that is looked for is the answer, or its absence is the error. -/
theorem of_option {found : Option α} {e : ε} (there : ∀ a, found = some a → outcome = .ok a)
    (absent : found = none → outcome = .error e) :
    Decides (found = some ·) (fun e' => found = none ∧ e = e') outcome := by
  refine .of_cases ?_ there ?_
  · cases found with
    | none => exact .inr ⟨e, rfl, rfl⟩
    | some a => exact .inl ⟨a, rfl⟩
  · rintro _ ⟨nothing, rfl⟩
    exact absent nothing

/-- There is one answer at most. -/
theorem unique (decides : Decides answers fails outcome) {a a' : α} (holds : answers a)
    (holds' : answers a') : a = a' :=
  Except.ok.inj (((decides.ok_iff a).2 holds).symm.trans ((decides.ok_iff a').2 holds'))

theorem exists_ok_iff (decides : Decides answers fails outcome) :
    (∃ a, outcome = .ok a) ↔ ∃ a, answers a :=
  exists_congr decides.ok_iff

theorem pure (a : α) : Decides (a = ·) (fun _ => False) (Pure.pure a : Except ε α) :=
  ⟨fun _ => ⟨fun same => Except.ok.inj same, congrArg Except.ok⟩, fun _ => ⟨nofun, False.elim⟩⟩

/-- The second part is checked only behind an answer of the first one. -/
theorem bind {next : α → Except ε β} {answers' : α → β → Prop} {fails' : α → ε → Prop}
    (first : Decides answers fails outcome)
    (second : ∀ a, Decides (answers' a) (fails' a) (next a)) :
    Decides (fun b => ∃ a, answers a ∧ answers' a b)
      (fun e => fails e ∨ ∃ a, answers a ∧ fails' a e) (outcome >>= next) := by
  cases outcome with
  | error e =>
      refine ⟨fun b => ⟨nofun, ?_⟩, fun e' => ⟨fun same => ?_, ?_⟩⟩
      · rintro ⟨a, holds, -⟩
        cases (first.ok_iff a).2 holds
      · exact .inl ((first.error_iff e').1 (congrArg _ (Except.error.inj same)))
      · rintro (holds | ⟨a, holds, -⟩)
        · cases (first.error_iff e').2 holds
          rfl
        · cases (first.ok_iff a).2 holds
  | ok a =>
      have answered := (first.ok_iff a).1 rfl
      constructor
      · intro b
        refine ((second a).ok_iff b).trans ⟨fun holds => ⟨a, answered, holds⟩, ?_⟩
        rintro ⟨a', answered', holds⟩
        cases (first.ok_iff a').2 answered'
        exact holds
      · intro e
        refine ((second a).error_iff e).trans ⟨fun holds => .inr ⟨a, answered, holds⟩, ?_⟩
        rintro (holds | ⟨a', answered', holds⟩)
        · cases (first.error_iff e).2 holds
        · cases (first.ok_iff a').2 answered'
          exact holds

theorem mapError {ε' : Type} (f : ε → ε') (decides : Decides answers fails outcome) :
    Decides answers (fun e' => ∃ e, fails e ∧ f e = e') (outcome.mapError f) := by
  cases outcome with
  | error e =>
      refine .of_cases (.inr ⟨f e, e, (decides.error_iff e).1 rfl, rfl⟩) (fun a holds => ?_) ?_
      · cases (decides.ok_iff a).2 holds
      · rintro _ ⟨e', holds, rfl⟩
        cases (decides.error_iff e').2 holds
        rfl
  | ok a =>
      refine .of_cases (.inl ⟨a, (decides.ok_iff a).1 rfl⟩) (fun a' holds => ?_) ?_
      · cases (decides.ok_iff a').2 holds
        rfl
      · rintro _ ⟨e', holds, -⟩
        cases (decides.error_iff e').2 holds

end Decides

end GameGateway
