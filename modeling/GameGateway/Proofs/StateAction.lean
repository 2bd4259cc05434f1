/-!
# Runs of state actions

Everything that reads, writes or serves is an action on a state that either answers a value or
fails, and keeps what it did to the state in both cases.  The lemmas here run one step of such an
action: a sequence whose first part is known (`bind_ok`, `bind_error`), a change of the error type
(`adaptExcept_ok`, `adaptExcept_error`), and an action on a part of the state.

`stateAfter` and `outcomes` run actions one after another, also behind those that fail.
`Repeated act` is what comes of an action that is repeated until it fails, and `Moves R act` says
that an action takes every state along a relation, whether or not it fails.

`Follows view act spec` says that `act` does on a state what `spec` does on a view of it.  It is
kept by sequences, so a composed action follows the composed specification.
-/

namespace GameGateway

variable {ε ε' σ τ α β : Type}

/-! ## One step -/

theorem bind_ok {act : EStateM ε σ α} {next : α → EStateM ε σ β} {s s' : σ} {a : α}
    (run : act s = .ok a s') : (act >>= next) s = next a s' := by
  simp only [bind, EStateM.bind, run]

theorem bind_error {act : EStateM ε σ α} {next : α → EStateM ε σ β} {s s' : σ} {e : ε}
    (run : act s = .error e s') : (act >>= next) s = .error e s' := by
  simp only [bind, EStateM.bind, run]

/-- What comes behind a step depends on what the step came to, and not on where it started. -/
theorem bind_of_eq {act act' : EStateM ε σ α} {s t : σ} (same : act s = act' t)
    (next : α → EStateM ε σ β) : (act >>= next) s = (act' >>= next) t := by
  simp only [bind, EStateM.bind, same]

@[simp] theorem bind_get (next : σ → EStateM ε σ β) (s : σ) : (get >>= next) s = next s s :=
  rfl

@[simp] theorem bind_set (t : σ) (next : PUnit → EStateM ε σ β) (s : σ) :
    (set t >>= next) s = next ⟨⟩ t :=
  rfl

@[simp] theorem bind_modify (f : σ → σ) (next : PUnit → EStateM ε σ β) (s : σ) :
    (modify f >>= next) s = next ⟨⟩ (f s) :=
  rfl

theorem adaptExcept_ok {act : EStateM ε σ α} {s s' : σ} {a : α} (f : ε → ε')
    (run : act s = .ok a s') : act.adaptExcept f s = .ok a s' := by
  simp only [EStateM.adaptExcept, run]

theorem adaptExcept_error {act : EStateM ε σ α} {s s' : σ} {e : ε} (f : ε → ε')
    (run : act s = .error e s') : act.adaptExcept f s = .error (f e) s' := by
  simp only [EStateM.adaptExcept, run]

@[simp] theorem ofExcept_ok (a : α) (s : σ) :
    (MonadExcept.ofExcept (.ok a : Except ε α) : EStateM ε σ α) s = .ok a s :=
  rfl

@[simp] theorem ofExcept_error (e : ε) (s : σ) :
    (MonadExcept.ofExcept (.error e : Except ε α) : EStateM ε σ α) s = .error e s :=
  rfl

/-- The state that a result leaves. -/
def stateOf : EStateM.Result ε σ α → σ
  | .ok _ s => s
  | .error _ s => s

@[simp] theorem stateOf_ofExcept (outcome : Except ε α) (s : σ) :
    stateOf ((MonadExcept.ofExcept outcome : EStateM ε σ α) s) = s := by
  cases outcome <;> rfl

/-- The value that a result answers, unless it failed. -/
def answerOf : EStateM.Result ε σ α → Option α
  | .ok a _ => some a
  | .error _ _ => none

/-! ## Actions that are run in any case -/

/-- What an action came to. -/
def outcomeOf : EStateM.Result ε σ α → Except ε α
  | .ok a _ => .ok a
  | .error e _ => .error e

/-- The state that actions leave, each of them run where the one before it left off. -/
def stateAfter (acts : List (EStateM ε σ α)) (s : σ) : σ :=
  acts.foldl (fun s act => stateOf (act s)) s

/-- What each of these actions comes to. -/
def outcomes : List (EStateM ε σ α) → σ → List (Except ε α)
  | [], _ => []
  | act :: acts, s => outcomeOf (act s) :: outcomes acts (stateOf (act s))

theorem stateAfter_append_singleton (acts : List (EStateM ε σ α)) (act : EStateM ε σ α) (s : σ) :
    stateAfter (acts ++ [act]) s = stateOf (act (stateAfter acts s)) :=
  List.foldl_append

theorem length_outcomes (acts : List (EStateM ε σ α)) (s : σ) :
    (outcomes acts s).length = acts.length := by
  induction acts generalizing s with
  | nil => rfl
  | cons act acts ih => rw [outcomes, List.length_cons, ih, List.length_cons]

/-- An action is run on what the actions in front of it leave. -/
theorem getElem?_outcomes (acts : List (EStateM ε σ α)) (s : σ) (i : Nat) :
    (outcomes acts s)[i]? =
      acts[i]?.map fun act => outcomeOf (act (stateAfter (acts.take i) s)) := by
  induction acts generalizing s i with
  | nil => rfl
  | cons act acts ih =>
      cases i with
      | zero => rfl
      | succ i => exact ih (stateOf (act s)) i

/-! ## Repetition -/

/-- The runs of an action that is repeated until it fails: what it answered before, the failure,
and the state that is left. -/
inductive Repeated (act : EStateM ε σ α) : σ → List α → ε → σ → Prop
  | failed {s s' : σ} {e : ε} : act s = .error e s' → Repeated act s [] e s'
  | answered {s s' t : σ} {a : α} {answers : List α} {e : ε} :
    act s = .ok a s' → Repeated act s' answers e t → Repeated act s (a :: answers) e t

/-! ## Moving along a relation -/

/-- An action that takes every state along a relation, whether it answers or fails. -/
def Moves (R : σ → σ → Prop) (act : EStateM ε σ α) : Prop :=
  ∀ s, R s (stateOf (act s))

namespace Moves

variable {R : σ → σ → Prop} {act : EStateM ε σ α} {next : α → EStateM ε σ β}

theorem pure (refl : ∀ s, R s s) (a : α) : Moves R (Pure.pure a : EStateM ε σ α) :=
  refl

theorem throw (refl : ∀ s, R s s) (e : ε) : Moves R (MonadExcept.throw e : EStateM ε σ α) :=
  refl

theorem ofExcept (refl : ∀ s, R s s) (answer : Except ε α) :
    Moves R (MonadExcept.ofExcept answer : EStateM ε σ α) := by
  cases answer with
  | ok a => exact pure refl a
  | error e => exact throw refl e

/-- The second part of a sequence moves on from where the first part leaves, if it is run. -/
theorem from_first (refl : ∀ s, R s s) (act : EStateM ε σ α) (second : ∀ a, Moves R (next a))
    (s : σ) : R (stateOf (act s)) (stateOf ((act >>= next) s)) := by
  cases run : act s with
  | ok a s' =>
      rw [bind_ok run]
      exact second a s'
  | error e s' =>
      rw [bind_error run]
      exact refl s'

theorem bind (refl : ∀ s, R s s) (trans : ∀ a b c, R a b → R b c → R a c) (first : Moves R act)
    (second : ∀ a, Moves R (next a)) : Moves R (act >>= next) :=
  fun s => trans _ _ _ (first s) (from_first refl act second s)

end Moves

@[simp] theorem stateOf_map (f : α → β) (act : EStateM ε σ α) (s : σ) :
    stateOf ((f <$> act) s) = stateOf (act s) := by
  simp only [Functor.map, EStateM.map]
  cases act s <;> rfl

/-! ## Following a specification -/

/-- The state of a result seen through a view. -/
def onState (view : σ → τ) : EStateM.Result ε σ α → EStateM.Result ε τ α
  | .ok a s => .ok a (view s)
  | .error e s => .error e (view s)

@[simp] theorem stateOf_onState (view : σ → τ) (result : EStateM.Result ε σ α) :
    stateOf (onState view result) = view (stateOf result) := by
  cases result <;> rfl

@[simp] theorem answerOf_onState (view : σ → τ) (result : EStateM.Result ε σ α) :
    answerOf (onState view result) = answerOf result := by
  cases result <;> rfl

@[simp] theorem outcomeOf_onState (view : σ → τ) (result : EStateM.Result ε σ α) :
    outcomeOf (onState view result) = outcomeOf result := by
  cases result <;> rfl

@[simp] theorem onState_ofExcept (view : σ → τ) (outcome : Except ε α) (s : σ) :
    onState view ((MonadExcept.ofExcept outcome : EStateM ε σ α) s) =
      (MonadExcept.ofExcept outcome : EStateM ε τ α) (view s) := by
  cases outcome <;> rfl

/-- An action that does on a state what a specification does on a view of the state. -/
def Follows (view : σ → τ) (act : EStateM ε σ α) (spec : EStateM ε τ α) : Prop :=
  ∀ s, spec (view s) = onState view (act s)

namespace Follows

variable {view : σ → τ}

theorem ok {act : EStateM ε σ α} {spec : EStateM ε τ α} (follows : Follows view act spec) {s : σ}
    {a : α} {t : τ} (run : spec (view s) = .ok a t) : ∃ s', act s = .ok a s' ∧ view s' = t := by
  rw [follows s] at run
  cases done : act s with
  | ok a' s' =>
      rw [done] at run
      cases run
      exact ⟨s', rfl, rfl⟩
  | error e s' =>
      rw [done] at run
      cases run

theorem error {act : EStateM ε σ α} {spec : EStateM ε τ α} (follows : Follows view act spec)
    {s : σ} {e : ε} {t : τ} (run : spec (view s) = .error e t) :
    ∃ s', act s = .error e s' ∧ view s' = t := by
  rw [follows s] at run
  cases done : act s with
  | ok a s' =>
      rw [done] at run
      cases run
  | error e' s' =>
      rw [done] at run
      cases run
      exact ⟨s', rfl, rfl⟩

theorem pure (a : α) : Follows view (Pure.pure a : EStateM ε σ α) (Pure.pure a) :=
  fun _ => rfl

theorem throw (e : ε) : Follows view (MonadExcept.throw e : EStateM ε σ α) (MonadExcept.throw e) :=
  fun _ => rfl

theorem ofExcept (answer : Except ε α) :
    Follows view (MonadExcept.ofExcept answer : EStateM ε σ α) (MonadExcept.ofExcept answer) :=
  fun s => (onState_ofExcept view answer s).symm

theorem bind {act : EStateM ε σ α} {spec : EStateM ε τ α} {next : α → EStateM ε σ β}
    {specNext : α → EStateM ε τ β} (first : Follows view act spec)
    (second : ∀ a, Follows view (next a) (specNext a)) :
    Follows view (act >>= next) (spec >>= specNext) := by
  intro s
  have start := first s
  cases run : act s with
  | ok a s' =>
      rw [run] at start
      rw [bind_ok run, bind_ok start]
      exact second a s'
  | error e s' =>
      rw [run] at start
      rw [bind_error run, bind_error start]
      rfl

theorem map {act : EStateM ε σ α} {spec : EStateM ε τ α} (f : α → β)
    (first : Follows view act spec) : Follows view (f <$> act) (f <$> spec) := by
  intro s
  have start := first s
  cases run : act s <;> rw [run] at start <;>
    simp only [Functor.map, EStateM.map, start, run, onState]

theorem adaptExcept {act : EStateM ε σ α} {spec : EStateM ε τ α} (f : ε → ε')
    (first : Follows view act spec) :
    Follows view (act.adaptExcept f) (spec.adaptExcept f) := by
  intro s
  have start := first s
  cases run : act s <;> rw [run] at start <;>
    simp only [EStateM.adaptExcept, start, run, onState]

/-- Actions that follow others on a view come to the same there. -/
theorem runEach {act : β → EStateM ε σ α} {spec : β → EStateM ε τ α}
    (follows : ∀ x, Follows view (act x) (spec x)) (xs : List β) (s : σ) :
    outcomes (xs.map spec) (view s) = outcomes (xs.map act) s ∧
      stateAfter (xs.map spec) (view s) = view (stateAfter (xs.map act) s) := by
  induction xs generalizing s with
  | nil => exact ⟨rfl, rfl⟩
  | cons x xs ih =>
      obtain ⟨answers, state⟩ := ih (stateOf (act x s))
      have first : outcomeOf (spec x (view s)) = outcomeOf (act x s) := by
        rw [follows x s, outcomeOf_onState]
      have moved : stateOf (spec x (view s)) = view (stateOf (act x s)) := by
        rw [follows x s, stateOf_onState]
      refine ⟨?_, ?_⟩
      · rw [List.map_cons, List.map_cons, outcomes, outcomes, first, moved, answers]
      · simp only [stateAfter, List.map_cons, List.foldl_cons, moved] at state ⊢
        exact state

end Follows

end GameGateway
