import GameGateway.Proofs.StateAction

/-!
# Two runs

An action is run on two states.  `TwoRun R S act` says that from states related by `R` both runs
answer the same value or fail with the same error, and leave states related by `S`.  It is kept by
sequences, by changes of the error type and by actions on a part of the state, so that a composed
action needs no more than its parts.
-/

namespace GameGateway

variable {ε ε' σ τ α β : Type}

/-- Two results that differ at most in their states, which are related. -/
inductive Related (S : σ → σ → Prop) :
    EStateM.Result ε σ α → EStateM.Result ε σ α → Prop
  | ok {s t : σ} (a : α) : S s t → Related S (.ok a s) (.ok a t)
  | error {s t : σ} (e : ε) : S s t → Related S (.error e s) (.error e t)

/-- An action that answers alike on related states. -/
def TwoRun (R S : σ → σ → Prop) (act : EStateM ε σ α) : Prop :=
  ∀ s t, R s t → Related S (act s) (act t)

/-- Both runs answer, or both fail. -/
theorem Related.split {S : σ → σ → Prop} {first second : EStateM.Result ε σ α}
    (related : Related S first second) :
    (∃ a s t, first = .ok a s ∧ second = .ok a t ∧ S s t) ∨
      ∃ e s t, first = .error e s ∧ second = .error e t ∧ S s t := by
  cases related with
  | ok a same => exact .inl ⟨a, _, _, rfl, rfl, same⟩
  | error e same => exact .inr ⟨e, _, _, rfl, rfl, same⟩

theorem Related.mono {S T : σ → σ → Prop} {first second : EStateM.Result ε σ α}
    (related : Related S first second) (weaker : ∀ s t, S s t → T s t) :
    Related T first second := by
  cases related with
  | ok a same => exact .ok a (weaker _ _ same)
  | error e same => exact .error e (weaker _ _ same)

/-- Results whose states are changed alike. -/
theorem Related.onState {S : σ → σ → Prop} {T : τ → τ → Prop} {f g : σ → τ}
    {first second : EStateM.Result ε σ α} (related : Related S first second)
    (change : ∀ s t, S s t → T (f s) (g t)) :
    Related T (GameGateway.onState f first) (GameGateway.onState g second) := by
  cases related with
  | ok a same => exact .ok a (change _ _ same)
  | error e same => exact .error e (change _ _ same)

namespace TwoRun

variable {R S T : σ → σ → Prop}

theorem mono {act : EStateM ε σ α} (run : TwoRun R S act) (weaker : ∀ s t, S s t → T s t) :
    TwoRun R T act :=
  fun s t same => (run s t same).mono weaker

theorem pure (a : α) : TwoRun R R (Pure.pure a : EStateM ε σ α) :=
  fun _ _ same => .ok a same

theorem throw (e : ε) : TwoRun R R (MonadExcept.throw e : EStateM ε σ α) :=
  fun _ _ same => .error e same

theorem ofExcept (answer : Except ε α) :
    TwoRun R R (MonadExcept.ofExcept answer : EStateM ε σ α) := by
  cases answer with
  | ok a => exact pure a
  | error e => exact throw e

theorem change {f : σ → σ} (same : ∀ s t, R s t → S (f s) (f t)) :
    TwoRun R S (modify f : EStateM ε σ PUnit) := by
  intro s t related
  have changed : Related S (.ok PUnit.unit (f s) : EStateM.Result ε σ PUnit)
      (.ok PUnit.unit (f t)) := .ok _ (same s t related)
  exact changed

/-- The state may be looked at, as long as what is seen of it is the same. -/
theorem get_bind {next : σ → EStateM ε σ α}
    (second : ∀ s t, R s t → Related S (next s s) (next t t)) :
    TwoRun R S ((get : EStateM ε σ σ) >>= next) :=
  second

/-- The second action may count on less than the first one keeps, and on a value that the first one
can answer. -/
theorem bind_of {act : EStateM ε σ α} {next : α → EStateM ε σ β} (first : TwoRun R S act)
    (second : ∀ s a s', act s = .ok a s' → TwoRun S T (next a)) (weaker : ∀ s t, S s t → T s t) :
    TwoRun R T (act >>= next) := by
  intro s t same
  rcases (first s t same).split with
    ⟨a, s', t', left, right, after⟩ | ⟨e, s', t', left, right, after⟩
  · rw [bind_ok left, bind_ok right]
    exact second s a s' left s' t' after
  · rw [bind_error left, bind_error right]
    exact .error e (weaker s' t' after)

theorem bind {act : EStateM ε σ α} {next : α → EStateM ε σ β} (first : TwoRun R S act)
    (second : ∀ a, TwoRun S T (next a)) (weaker : ∀ s t, S s t → T s t) :
    TwoRun R T (act >>= next) :=
  first.bind_of (fun _ a _ _ => second a) weaker

/-- A sequence of which both parts keep the relation. -/
theorem seq {act : EStateM ε σ α} {next : α → EStateM ε σ β} (first : TwoRun R R act)
    (second : ∀ a, TwoRun R R (next a)) : TwoRun R R (act >>= next) :=
  first.bind second fun _ _ same => same

theorem map {act : EStateM ε σ α} (f : α → β) (run : TwoRun R S act) : TwoRun R S (f <$> act) := by
  intro s t same
  simp only [Functor.map, EStateM.map]
  rcases (run s t same).split with ⟨a, s', t', left, right, after⟩ | ⟨e, s', t', left, right, after⟩
  · rw [left, right]
    exact .ok (f a) after
  · rw [left, right]
    exact .error e after

theorem adaptExcept {act : EStateM ε σ α} (f : ε → ε') (run : TwoRun R S act) :
    TwoRun R S (act.adaptExcept f) := by
  intro s t same
  rcases (run s t same).split with ⟨a, s', t', left, right, after⟩ | ⟨e, s', t', left, right, after⟩
  · rw [adaptExcept_ok f left, adaptExcept_ok f right]
    exact .ok a after
  · rw [adaptExcept_error f left, adaptExcept_error f right]
    exact .error (f e) after

/-- What follows a specification on a view answers alike where the views are the same. -/
theorem of_follows {view : σ → τ} {act : EStateM ε σ α} {spec : EStateM ε τ α}
    (follows : Follows view act spec) :
    TwoRun (fun s t => view s = view t) (fun s t => view s = view t) act := by
  intro s t same
  have first := follows s
  have second := follows t
  rw [← same, first] at second
  cases left : act s <;> cases right : act t <;> rw [left, right] at second
  · injection second with value state
    subst value
    exact .ok _ state
  · cases second
  · cases second
  · injection second with error state
    subst error
    exact .error _ state

end TwoRun

/-! ## A part of the state -/

/-- An action on a part of the state. -/
def onPart (part : σ → τ) (put : σ → τ → σ) (act : EStateM ε τ α) : EStateM ε σ α := fun s =>
  match act (part s) with
  | .ok a t => .ok a (put s t)
  | .error e t => .error e (put s t)

theorem TwoRun.onPart {R S : τ → τ → Prop} {P Q : σ → σ → Prop} {act : EStateM ε τ α}
    (part : σ → τ) (put : σ → τ → σ) (run : TwoRun R S act)
    (enter : ∀ s t, P s t → R (part s) (part t))
    (leave : ∀ s t, P s t → ∀ x y, S x y → Q (put s x) (put t y)) :
    TwoRun P Q (onPart part put act) := by
  intro s t same
  unfold GameGateway.onPart
  rcases (run (part s) (part t) (enter s t same)).split with
    ⟨a, x, y, left, right, after⟩ | ⟨e, x, y, left, right, after⟩
  · rw [left, right]
    exact .ok a (leave s t same x y after)
  · rw [left, right]
    exact .error e (leave s t same x y after)

end GameGateway
