import GameGateway.Proofs.TwoRun

/-!
# Contracts

What an action leaves, if something holds where it starts: one condition where it answers, which may
depend on the answer, and another one where it fails.  `Meets` is kept by sequences, where the
condition behind the first part is what the second one starts from, by changes of the error type and
by actions on a part of the state (`Meets.onPart`).

`FailsWith` is about the error alone: it says with which errors an action may fail.
-/

namespace GameGateway

variable {ε ε' σ τ α β : Type}

/-- Started where `pre` holds, an action leaves what `post` says of its answer, or what `fail` says
where it fails. -/
def Meets (pre : σ → Prop) (act : EStateM ε σ α) (post : α → σ → Prop) (fail : σ → Prop) : Prop :=
  ∀ s, pre s → match act s with
    | .ok a s' => post a s'
    | .error _ s' => fail s'

namespace Meets

variable {pre : σ → Prop} {post : α → σ → Prop} {fail : σ → Prop} {act : EStateM ε σ α}

theorem ok (meets : Meets pre act post fail) {s s' : σ} {a : α} (holds : pre s)
    (run : act s = .ok a s') : post a s' := by
  have left := meets s holds
  rwa [run] at left

theorem error (meets : Meets pre act post fail) {s s' : σ} {e : ε} (holds : pre s)
    (run : act s = .error e s') : fail s' := by
  have left := meets s holds
  rwa [run] at left

/-- A contract may count on more, -/
theorem before {pre' : σ → Prop} (meets : Meets pre act post fail) (more : ∀ s, pre' s → pre s) :
    Meets pre' act post fail :=
  fun s holds => meets s (more s holds)

/-- and say less of the answer. -/
theorem after {post' : α → σ → Prop} (meets : Meets pre act post fail)
    (less : ∀ a s, post a s → post' a s) : Meets pre act post' fail := by
  intro s holds
  cases run : act s with
  | ok a s' => exact less a s' (meets.ok holds run)
  | error e s' => exact meets.error holds run

theorem pure {a : α} (holds : ∀ s, pre s → post a s) :
    Meets pre (Pure.pure a : EStateM ε σ α) post fail :=
  holds

theorem throw {e : ε} (holds : ∀ s, pre s → fail s) :
    Meets pre (MonadExcept.throw e : EStateM ε σ α) post fail :=
  holds

/-- An answer that is known leaves the state alone. -/
theorem ofExcept (holds : ∀ s, pre s → fail s) (answer : Except ε α) :
    Meets pre (MonadExcept.ofExcept answer : EStateM ε σ α) (fun _ => pre) fail := by
  cases answer with
  | ok a => exact fun _ => id
  | error e => exact holds

theorem modify {f : σ → σ} {post : σ → Prop} (holds : ∀ s, pre s → post (f s)) :
    Meets pre (modify f : EStateM ε σ PUnit) (fun _ => post) fail :=
  holds

/-- The state may be looked at. -/
theorem get_bind {next : σ → EStateM ε σ α} (second : ∀ t, Meets pre (next t) post fail) :
    Meets pre ((get : EStateM ε σ σ) >>= next) post fail :=
  fun s holds => second s s holds

theorem bind {mid : α → σ → Prop} {post : β → σ → Prop} {next : α → EStateM ε σ β}
    (first : Meets pre act mid fail) (second : ∀ a, Meets (mid a) (next a) post fail) :
    Meets pre (act >>= next) post fail := by
  intro s holds
  cases run : act s with
  | ok a s' =>
      rw [bind_ok run]
      exact second a s' (first.ok holds run)
  | error e s' =>
      rw [bind_error run]
      exact first.error holds run

theorem map {post : σ → Prop} (f : α → β) (meets : Meets pre act (fun _ => post) fail) :
    Meets pre (f <$> act) (fun _ => post) fail := by
  intro s holds
  simp only [Functor.map, EStateM.map]
  cases run : act s with
  | ok a s' => exact meets.ok holds run
  | error e s' => exact meets.error holds run

theorem adaptExcept (f : ε → ε') (meets : Meets pre act post fail) :
    Meets pre (act.adaptExcept f) post fail := by
  intro s holds
  cases run : act s with
  | ok a s' =>
      rw [adaptExcept_ok f run]
      exact meets.ok holds run
  | error e s' =>
      rw [adaptExcept_error f run]
      exact meets.error holds run

/-- An action on a part of the state leaves in it what it leaves alone. -/
theorem onPart {P : τ → Prop} {Q : α → τ → Prop} {R : τ → Prop} {act : EStateM ε τ α}
    (part : σ → τ) (put : σ → τ → σ) (meets : Meets P act Q R) (enter : ∀ s, pre s → P (part s))
    (leave : ∀ s, pre s → ∀ a t, Q a t → post a (put s t))
    (quit : ∀ s, pre s → ∀ t, R t → fail (put s t)) :
    Meets pre (GameGateway.onPart part put act) post fail := by
  intro s holds
  unfold GameGateway.onPart
  cases run : act (part s) with
  | ok a t => exact leave s holds a t (meets.ok (enter s holds) run)
  | error e t => exact quit s holds t (meets.error (enter s holds) run)

end Meets

/-! ## Errors -/

/-- An action that fails with no other errors than those that `P` allows. -/
def FailsWith (P : ε → Prop) (act : EStateM ε σ α) : Prop :=
  ∀ s e s', act s = .error e s' → P e

namespace FailsWith

variable {P : ε → Prop} {act : EStateM ε σ α}

theorem pure (a : α) : FailsWith P (Pure.pure a : EStateM ε σ α) := nofun

theorem modify (f : σ → σ) : FailsWith P (modify f : EStateM ε σ PUnit) := nofun

theorem throw {e : ε} (allowed : P e) : FailsWith P (MonadExcept.throw e : EStateM ε σ α) := by
  intro s e' s' run
  cases run
  exact allowed

theorem ofExcept {answer : Except ε α} (allowed : ∀ e, answer = .error e → P e) :
    FailsWith P (MonadExcept.ofExcept answer : EStateM ε σ α) := by
  cases answer with
  | ok a => exact pure a
  | error e => exact throw (allowed e rfl)

theorem get_bind {next : σ → EStateM ε σ α} (second : ∀ t, FailsWith P (next t)) :
    FailsWith P ((get : EStateM ε σ σ) >>= next) :=
  fun s => second s s

theorem bind {next : α → EStateM ε σ β} (first : FailsWith P act)
    (second : ∀ a, FailsWith P (next a)) : FailsWith P (act >>= next) := by
  intro s e s' failed
  cases run : act s with
  | ok a middle =>
      rw [bind_ok run] at failed
      exact second a middle e s' failed
  | error e' middle =>
      rw [bind_error run] at failed
      cases failed
      exact first s e s' run

/-- Whatever an action fails with, its errors may be changed to allowed ones. -/
theorem adaptExcept {Q : ε' → Prop} {f : ε → ε'} (allowed : ∀ e, Q (f e))
    (act : EStateM ε σ α) : FailsWith Q (act.adaptExcept f) := by
  intro s e s' failed
  cases run : act s with
  | ok a middle =>
      rw [adaptExcept_ok f run] at failed
      cases failed
  | error e' middle =>
      rw [adaptExcept_error f run] at failed
      cases failed
      exact allowed e'

theorem onPart {act : EStateM ε τ α} (part : σ → τ) (put : σ → τ → σ) (fails : FailsWith P act) :
    FailsWith P (GameGateway.onPart part put act) := by
  intro s e s' failed
  unfold GameGateway.onPart at failed
  cases run : act (part s) with
  | ok a t =>
      rw [run] at failed
      cases failed
  | error e' t =>
      rw [run] at failed
      cases failed
      exact fails _ e t run

end FailsWith

end GameGateway
