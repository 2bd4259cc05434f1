import GameGateway.Service.Listener

/-!
# The accounts of a listener

Connections are served side by side, and each of them takes a permit, changes the counters and gives
the permit back in steps of its own.  `Listener.Traffic` is a listener with every connection that
came in, by the stage that the connection is in, and a `Listener.Move` is one step of any of them,
so a list of moves is an order in which the steps of all connections happen.

Every counter is the number of the connections in the stages that it counts
(`Traffic.Accounted`).  A move keeps that (`Traffic.step_accounted`), hence any order of moves does,
and `Traffic.run_balanced` draws the balance.  The steps of one connection, taken in a row, are what
`Listener.accept` and `Listener.finish` do (`Traffic.Undisturbed`).
-/

namespace GameGateway

namespace Listener

/-! ## Connections -/

/-- How far a connection has come.  From `recorded` on the result of its session is known. -/
inductive Stage
  /-- There was no permit for it. -/
  | refused
  /-- It was counted as rejected. -/
  | rejected
  /-- It got a permit. -/
  | admitted
  /-- It was counted as accepted. -/
  | accepted
  /-- It was counted as active, and its session is served. -/
  | running
  /-- Its end was counted. -/
  | recorded (result : Except GatewayError Outcome)
  /-- It is not counted as active any more. -/
  | inactive (result : Except GatewayError Outcome)
  /-- It was counted as closed. -/
  | closed (result : Except GatewayError Outcome)
  /-- It gave its permit back. -/
  | gone (result : Except GatewayError Outcome)

namespace Stage

/-- The next step of a connection.  A session that is served may end with any result. -/
def step (result : Except GatewayError Outcome) (listener : Listener) : Stage → Stage × Listener
  | refused => (rejected, listener.countRejected)
  | rejected => (rejected, listener)
  | admitted => (accepted, listener.countAccepted)
  | accepted => (running, listener.countActive)
  | running => (recorded result, listener.countEnd result)
  | recorded result => (inactive result, listener.countInactive)
  | inactive result => (closed result, listener.countClosed)
  | closed result => (gone result, listener.returnPermit)
  | gone result => (gone result, listener)

/-- So many steps of a connection. -/
def steps (result : Except GatewayError Outcome) : Nat → Stage → Listener → Stage × Listener
  | 0, stage, listener => (stage, listener)
  | count + 1, stage, listener =>
    steps result count (stage.step result listener).1 (stage.step result listener).2

/-- How a session ended, once that was counted. -/
def result? : Stage → Option (Except GatewayError Outcome)
  | recorded result | inactive result | closed result | gone result => some result
  | _ => none

/-- Whether a connection got no permit. -/
def isTurnedAway : Stage → Bool
  | refused | rejected => true
  | _ => false

/-- Whether a connection is not between two of its steps: it was turned away and counted, or its
session is served, or it is over. -/
def isSettled : Stage → Bool
  | rejected | running | gone _ => true
  | _ => false

/-- Whether a session is over because its peer went away. -/
def endedEarly : Stage → Bool
  | gone (.error e) => e.isEndOfStream
  | _ => false

end Stage

/-! ## Counters -/

/-- The ends of a session that are counted.  A peer that went away is not. -/
inductive Ending
  | statusServed
  | loginProxied
  | routeFailed
  | sessionError
  deriving DecidableEq

namespace Ending

def ofResult? : Except GatewayError Outcome → Option Ending
  | .ok .status => some statusServed
  | .ok .login => some loginProxied
  | .ok (.rejected _) => some routeFailed
  | .error e => if e.isEndOfStream then none else some sessionError

/-- How many sessions ended this way. -/
def count (stats : ListenerStats) : Ending → Nat
  | statusServed => stats.statusServed
  | loginProxied => stats.loginsProxied
  | routeFailed => stats.routesFailed
  | sessionError => stats.sessionErrors

end Ending

/-- What a listener keeps count of. -/
inductive Counter
  | taken
  | accepted
  | active
  | closed
  | rejected
  | ended (ending : Ending)

namespace Counter

/-- What a counter shows. -/
def value (listener : Listener) : Counter → Int
  | taken => listener.taken
  | accepted => listener.stats.accepted
  | active => listener.stats.active
  | closed => listener.stats.closed
  | rejected => listener.stats.rejected
  | ended ending => ending.count listener.stats

/-- The connections that a counter counts. -/
def counts : Counter → Stage → Bool
  | taken, .admitted | taken, .accepted | taken, .running | taken, .recorded _
  | taken, .inactive _ | taken, .closed _ => true
  | accepted, .accepted | accepted, .running | accepted, .recorded _ | accepted, .inactive _
  | accepted, .closed _ | accepted, .gone _ => true
  | active, .running | active, .recorded _ => true
  | closed, .closed _ | closed, .gone _ => true
  | rejected, .rejected => true
  | ended ending, stage => stage.result?.bind Ending.ofResult? == some ending
  | _, _ => false

end Counter

/-! ## Steps of a connection -/

/-- The end of a session goes to the counter of its result, if there is one, and to no other. -/
theorem count_countEnd (result : Except GatewayError Outcome) (listener : Listener)
    (ending : Ending) :
    ending.count (listener.countEnd result).stats =
      ending.count listener.stats + (Ending.ofResult? result == some ending).toNat := by
  cases result with
  | ok outcome => cases outcome <;> cases ending <;> rfl
  | error e =>
      cases early : e.isEndOfStream <;> cases ending <;>
        simp [countEnd, count, Ending.count, Ending.ofResult?, early]

theorem value_countEnd (result : Except GatewayError Outcome) (listener : Listener)
    (counter : Counter) :
    counter.value (listener.countEnd result) + (counter.counts .running).toNat =
      counter.value listener + (counter.counts (.recorded result)).toNat := by
  cases counter with
  | ended ending =>
      simp [Counter.value, Counter.counts, Stage.result?, count_countEnd]
  | _ =>
      rcases result with e | _ | _ | _
      · cases early : e.isEndOfStream <;>
          simp [Counter.value, Counter.counts, countEnd, count, early]
      all_goals simp [Counter.value, Counter.counts, countEnd, count]

theorem value_returnPermit (result : Except GatewayError Outcome) (listener : Listener)
    (counter : Counter) (held : 0 < listener.taken) :
    counter.value listener.returnPermit + (counter.counts (.closed result)).toNat =
      counter.value listener + (counter.counts (.gone result)).toNat := by
  cases counter with
  | taken =>
      have back : ((listener.taken - 1 : Nat) : Int) + 1 = listener.taken := by omega
      simpa [Counter.value, Counter.counts, returnPermit] using back
  | _ => simp [Counter.value, Counter.counts, Stage.result?, returnPermit]

/-- **A step of a connection changes a counter by what the counter counts of the connection.**  A
permit that is given back must have been taken. -/
theorem Stage.step_value (stage : Stage) (result : Except GatewayError Outcome)
    (listener : Listener) (counter : Counter)
    (held : Counter.taken.counts stage → 0 < listener.taken) :
    counter.value (stage.step result listener).2 + (counter.counts stage).toNat =
      counter.value listener + (counter.counts (stage.step result listener).1).toNat := by
  cases stage with
  | running => exact value_countEnd result listener counter
  | closed ended => exact value_returnPermit ended listener counter (held rfl)
  | _ =>
      -- Every other step changes one counter or none, by a constant.
      rcases counter with _ | _ | _ | _ | _ | _ | _ | _ | _ <;>
        simp [step, Counter.value, Counter.counts, Ending.count, result?, count, countRejected,
          countAccepted, countActive, countInactive, countClosed]

/-- A step leaves the cap alone, and takes no permit. -/
theorem Stage.step_permits (stage : Stage) (result : Except GatewayError Outcome)
    (listener : Listener) :
    (stage.step result listener).2.cap = listener.cap ∧
      (stage.step result listener).2.taken ≤ listener.taken := by
  cases stage with
  | closed ended => exact ⟨rfl, Nat.sub_le listener.taken 1⟩
  | _ => exact ⟨rfl, Nat.le_refl listener.taken⟩

theorem Stage.step_isTurnedAway (stage : Stage) (result : Except GatewayError Outcome)
    (listener : Listener) : (stage.step result listener).1.isTurnedAway = stage.isTurnedAway := by
  cases stage <;> rfl

/-! ## Traffic -/

/-- A listener with the connections that came in, oldest first. -/
structure Traffic where
  listener : Listener
  connections : List Stage := []

/-- What happens next: a connection comes in, or one that came in takes a step. -/
inductive Move
  | arrive
  | advance (number : Nat) (result : Except GatewayError Outcome)

namespace Traffic

def step (traffic : Traffic) : Move → Traffic
  | .arrive =>
    match traffic.listener.takePermit with
    | some listener => ⟨listener, traffic.connections ++ [.admitted]⟩
    | none => ⟨traffic.listener, traffic.connections ++ [.refused]⟩
  | .advance number result =>
    match traffic.connections[number]? with
    | some stage =>
      let (stage, listener) := stage.step result traffic.listener
      ⟨listener, traffic.connections.set number stage⟩
    | none => traffic

/-- What is left behind some moves. -/
def after (traffic : Traffic) (moves : List Move) : Traffic :=
  moves.foldl step traffic

/-- A listener that was just set up, behind some moves. -/
def run (cap : Nat) (moves : List Move) : Traffic :=
  after { listener := { cap } } moves

/-- How many connections a counter counts. -/
def tally (traffic : Traffic) (counter : Counter) : Nat :=
  traffic.connections.countP counter.counts

section Steps

variable (traffic : Traffic)

theorem step_arrive_free (free : traffic.listener.taken < traffic.listener.cap) :
    traffic.step .arrive =
      ⟨{ traffic.listener with taken := traffic.listener.taken + 1 },
        traffic.connections ++ [.admitted]⟩ := by
  simp only [step, takePermit, if_pos free]

theorem step_arrive_full (full : ¬ traffic.listener.taken < traffic.listener.cap) :
    traffic.step .arrive = ⟨traffic.listener, traffic.connections ++ [.refused]⟩ := by
  simp only [step, takePermit, if_neg full]

theorem step_advance {number : Nat} {stage : Stage}
    (there : traffic.connections[number]? = some stage) (result : Except GatewayError Outcome) :
    traffic.step (.advance number result) =
      ⟨(stage.step result traffic.listener).2,
        traffic.connections.set number (stage.step result traffic.listener).1⟩ := by
  simp only [step, there]

theorem step_nobody {number : Nat} (nobody : traffic.connections[number]? = none)
    (result : Except GatewayError Outcome) : traffic.step (.advance number result) = traffic := by
  simp only [step, nobody]

/-- A connection that comes in is counted where it comes in. -/
theorem tally_append (listener : Listener) (stage : Stage) (counter : Counter) :
    tally ⟨listener, traffic.connections ++ [stage]⟩ counter =
      traffic.tally counter + (counter.counts stage).toNat := by
  unfold tally
  rw [List.countP_append, List.countP_singleton]
  cases counter.counts stage <;> rfl

/-- A connection that goes on changes what a counter counts by itself alone. -/
theorem tally_set (listener : Listener) {number : Nat} {stage : Stage} (next : Stage)
    (there : traffic.connections[number]? = some stage) (counter : Counter) :
    tally ⟨listener, traffic.connections.set number next⟩ counter + (counter.counts stage).toNat =
      traffic.tally counter + (counter.counts next).toNat := by
  obtain ⟨within, at_number⟩ := List.getElem?_eq_some_iff.mp there
  have among := List.boole_getElem_le_countP (p := counter.counts) within
  have replaced : tally ⟨listener, traffic.connections.set number next⟩ counter = _ :=
    List.countP_set within
  rw [at_number] at among replaced
  have as_ite : ∀ b : Bool, b.toNat = if b then 1 else 0 := by decide
  rw [replaced, as_ite, as_ite]
  unfold tally
  omega

end Steps

/-! ## Whole sessions

Between no steps of another connection, the steps of a connection are what `Listener.accept` does
where it comes in, and what `Listener.finish` does where its session ends. -/

/-- A connection that goes on for so many steps in a row. -/
def goOn (number : Nat) (result : Except GatewayError Outcome) (steps : Nat) : List Move :=
  List.replicate steps (.advance number result)

theorem after_goOn (traffic : Traffic) {number : Nat} {stage : Stage}
    (there : traffic.connections[number]? = some stage) (result : Except GatewayError Outcome)
    (steps : Nat) :
    traffic.after (goOn number result steps) =
      ⟨(Stage.steps result steps stage traffic.listener).2,
        traffic.connections.set number (Stage.steps result steps stage traffic.listener).1⟩ := by
  induction steps generalizing traffic stage with
  | zero =>
      obtain ⟨within, rfl⟩ := List.getElem?_eq_some_iff.mp there
      rw [Stage.steps, List.set_getElem_self]
      rfl
  | succ steps ih =>
      obtain ⟨within, -⟩ := List.getElem?_eq_some_iff.mp there
      rw [goOn, List.replicate_succ, after, List.foldl_cons, step_advance traffic there]
      have next := ih ⟨(stage.step result traffic.listener).2,
        traffic.connections.set number (stage.step result traffic.listener).1⟩
        (List.getElem?_set_self within)
      rwa [List.set_set] at next

/-- A connection that just came in goes on at the end of the list. -/
theorem after_goOn_last (listener : Listener) (connections : List Stage) (stage : Stage)
    (result : Except GatewayError Outcome) (steps : Nat) :
    after ⟨listener, connections ++ [stage]⟩ (goOn connections.length result steps) =
      ⟨(Stage.steps result steps stage listener).2,
        connections ++ [(Stage.steps result steps stage listener).1]⟩ := by
  rw [after_goOn ⟨listener, connections ++ [stage]⟩ List.getElem?_concat_length,
    List.set_append_right connections.length _ (Nat.le_refl _), Nat.sub_self, List.set_cons_zero]

theorem after_accept (traffic : Traffic) (result : Except GatewayError Outcome) :
    traffic.after (.arrive :: goOn traffic.connections.length result 2) =
      ⟨traffic.listener.accept.2,
        traffic.connections ++ [if traffic.listener.accept.1 then .running else .rejected]⟩ := by
  rw [after, List.foldl_cons]
  by_cases free : traffic.listener.taken < traffic.listener.cap
  · have took : traffic.listener.takePermit =
        some { traffic.listener with taken := traffic.listener.taken + 1 } := if_pos free
    rw [step_arrive_free traffic free, accept, took]
    exact after_goOn_last _ traffic.connections .admitted result 2
  · have none_left : traffic.listener.takePermit = none := if_neg free
    rw [step_arrive_full traffic free, accept, none_left]
    exact after_goOn_last _ traffic.connections .refused result 2

theorem after_finish (traffic : Traffic) {number : Nat}
    (running : traffic.connections[number]? = some .running)
    (result : Except GatewayError Outcome) :
    traffic.after (goOn number result 4) =
      ⟨traffic.listener.finish result, traffic.connections.set number (.gone result)⟩ :=
  after_goOn traffic running result 4

/-- What the steps of a connection come to while no other connection takes one. -/
structure Undisturbed (traffic : Traffic) : Prop where
  /-- It comes in: it is accepted and its session is served, or it is rejected. -/
  accept : ∀ result, traffic.after (.arrive :: goOn traffic.connections.length result 2) =
    ⟨traffic.listener.accept.2,
      traffic.connections ++ [if traffic.listener.accept.1 then .running else .rejected]⟩
  /-- Its session ends, and the connection is gone. -/
  finish : ∀ number result, traffic.connections[number]? = some .running →
    traffic.after (goOn number result 4) =
      ⟨traffic.listener.finish result, traffic.connections.set number (.gone result)⟩

theorem undisturbed (traffic : Traffic) : Undisturbed traffic where
  accept := after_accept traffic
  finish _ result running := after_finish traffic running result

/-! ## The invariant -/

/-- Every counter shows how many connections it counts, and no more permits are taken than there
are. -/
structure Accounted (cap : Nat) (traffic : Traffic) : Prop where
  cap_eq : traffic.listener.cap = cap
  taken_le : traffic.listener.taken ≤ cap
  shows : ∀ counter : Counter, counter.value traffic.listener = traffic.tally counter

variable {cap : Nat} {traffic : Traffic}

/-- A connection that has a permit has one that was taken. -/
theorem Accounted.held (accounted : Accounted cap traffic) {number : Nat} {stage : Stage}
    (there : traffic.connections[number]? = some stage) (holds : Counter.taken.counts stage) :
    0 < traffic.listener.taken := by
  have shown : (traffic.listener.taken : Int) = traffic.tally .taken := accounted.shows .taken
  have counted : 0 < traffic.tally .taken :=
    List.countP_pos_iff.mpr ⟨stage, List.mem_of_getElem? there, holds⟩
  omega

theorem start_accounted (cap : Nat) : Accounted cap { listener := { cap } } where
  cap_eq := rfl
  taken_le := Nat.zero_le cap
  shows := by rintro (_ | _ | _ | _ | _ | (_ | _ | _ | _)) <;> rfl

/-- The accounts are kept where a connection comes in and each counter changes by what it counts of
that connection. -/
theorem Accounted.append (accounted : Accounted cap traffic) {listener : Listener} (stage : Stage)
    (cap_eq : listener.cap = cap) (taken_le : listener.taken ≤ cap)
    (changed : ∀ counter : Counter, counter.value listener =
      counter.value traffic.listener + (counter.counts stage).toNat) :
    Accounted cap ⟨listener, traffic.connections ++ [stage]⟩ := by
  refine ⟨cap_eq, taken_le, fun counter => ?_⟩
  rw [tally_append, Int.natCast_add, ← accounted.shows counter]
  exact changed counter

theorem arrive_accounted (accounted : Accounted cap traffic) :
    Accounted cap (traffic.step .arrive) := by
  by_cases free : traffic.listener.taken < traffic.listener.cap
  · rw [step_arrive_free traffic free]
    refine accounted.append .admitted accounted.cap_eq (accounted.cap_eq ▸ free) fun counter => ?_
    cases counter <;> simp [Counter.value, Counter.counts, Stage.result?]
  · rw [step_arrive_full traffic free]
    refine accounted.append .refused accounted.cap_eq accounted.taken_le fun counter => ?_
    cases counter <;> simp [Counter.counts, Stage.result?]

theorem advance_accounted (accounted : Accounted cap traffic) (number : Nat)
    (result : Except GatewayError Outcome) :
    Accounted cap (traffic.step (.advance number result)) := by
  cases there : traffic.connections[number]? with
  | none =>
      rw [step_nobody traffic there]
      exact accounted
  | some stage =>
      rw [step_advance traffic there]
      obtain ⟨same_cap, fewer⟩ := stage.step_permits result traffic.listener
      refine ⟨same_cap.trans accounted.cap_eq, Nat.le_trans fewer accounted.taken_le,
        fun counter => ?_⟩
      have changed := stage.step_value result traffic.listener counter (accounted.held there)
      have counted := tally_set traffic (stage.step result traffic.listener).2
        (stage.step result traffic.listener).1 there counter
      have before := accounted.shows counter
      simp only
      omega

/-- **Every step keeps the accounts.** -/
theorem step_accounted (accounted : Accounted cap traffic) (move : Move) :
    Accounted cap (traffic.step move) := by
  cases move with
  | arrive => exact arrive_accounted accounted
  | advance number result => exact advance_accounted accounted number result

theorem after_accounted (accounted : Accounted cap traffic) (moves : List Move) :
    Accounted cap (traffic.after moves) := by
  induction moves generalizing traffic with
  | nil => exact accounted
  | cons move moves ih => exact ih (step_accounted accounted move)

/-! ## The balance -/

/-- How many connections meet each of some conditions, in all. -/
def countAll (connections : List Stage) : List (Stage → Bool) → Nat
  | [] => 0
  | condition :: conditions => connections.countP condition + countAll connections conditions

theorem countAll_nil (conditions : List (Stage → Bool)) : countAll [] conditions = 0 := by
  induction conditions with
  | nil => rfl
  | cons condition conditions ih => rw [countAll, ih, List.countP_nil]

/-- One connection more counts as many times as there are conditions that it meets. -/
theorem countAll_cons (stage : Stage) (connections : List Stage)
    (conditions : List (Stage → Bool)) :
    countAll (stage :: connections) conditions =
      countAll connections conditions + conditions.countP (· stage) := by
  induction conditions with
  | nil => rfl
  | cons condition conditions ih =>
      rw [countAll, ih, countAll, List.countP_cons, List.countP_cons]
      omega

/-- If no connection meets more of the conditions `low` than of the conditions `high`, then counting
by all of `low` gives no more than counting by all of `high`. -/
theorem countAll_le (low high : List (Stage → Bool)) (connections : List Stage)
    (each : ∀ stage ∈ connections, low.countP (· stage) ≤ high.countP (· stage)) :
    countAll connections low ≤ countAll connections high := by
  induction connections with
  | nil => exact Nat.le_of_eq ((countAll_nil low).trans (countAll_nil high).symm)
  | cons stage connections ih =>
      have here := each stage List.mem_cons_self
      have there := ih fun other among => each other (List.mem_cons_of_mem stage among)
      rw [countAll_cons, countAll_cons]
      omega

theorem countAll_eq (left right : List (Stage → Bool)) (connections : List Stage)
    (each : ∀ stage ∈ connections, left.countP (· stage) = right.countP (· stage)) :
    countAll connections left = countAll connections right :=
  Nat.le_antisymm
    (countAll_le left right connections fun stage among => Nat.le_of_eq (each stage among))
    (countAll_le right left connections fun stage among => Nat.le_of_eq (each stage among).symm)

/-! ### At any time -/

theorem tally_active_le (traffic : Traffic) : traffic.tally .active ≤ traffic.tally .taken :=
  countAll_le [Counter.active.counts] [Counter.taken.counts] traffic.connections
    fun stage _ => by cases stage <;> simp [Counter.counts]

/-- What is active or closed was accepted. -/
theorem tally_active_closed_le (traffic : Traffic) :
    traffic.tally .active + traffic.tally .closed ≤ traffic.tally .accepted :=
  countAll_le [Counter.active.counts, Counter.closed.counts] [Counter.accepted.counts]
    traffic.connections fun stage _ => by
      cases stage <;> simp [List.countP_cons, Counter.counts]

/-- What was accepted is closed or has a permit. -/
theorem tally_accepted_le (traffic : Traffic) :
    traffic.tally .accepted ≤ traffic.tally .closed + traffic.tally .taken :=
  countAll_le [Counter.accepted.counts] [Counter.closed.counts, Counter.taken.counts]
    traffic.connections fun stage _ => by
      cases stage <;> simp [List.countP_cons, Counter.counts]

/-- What holds of the counters at any time. -/
structure Balanced (cap : Nat) (listener : Listener) : Prop where
  active_nonneg : 0 ≤ listener.stats.active
  active_le : listener.stats.active ≤ listener.taken
  taken_le : listener.taken ≤ cap
  over_le : listener.stats.active + listener.stats.closed ≤ listener.stats.accepted
  accepted_le : listener.stats.accepted ≤ listener.stats.closed + listener.taken

/-- What the counters show that every accepted session goes through. -/
theorem Accounted.figures (accounted : Accounted cap traffic) :
    traffic.listener.taken = traffic.tally .taken ∧
      traffic.listener.stats.accepted = traffic.tally .accepted ∧
      traffic.listener.stats.active = traffic.tally .active ∧
      traffic.listener.stats.closed = traffic.tally .closed :=
  ⟨Int.ofNat_inj.mp (accounted.shows .taken), Int.ofNat_inj.mp (accounted.shows .accepted),
    accounted.shows .active, Int.ofNat_inj.mp (accounted.shows .closed)⟩

theorem Accounted.balanced (accounted : Accounted cap traffic) :
    Balanced cap traffic.listener := by
  obtain ⟨taken, accepted, active, closed⟩ := accounted.figures
  have running := traffic.tally_active_le
  have begun := traffic.tally_active_closed_le
  have kept := traffic.tally_accepted_le
  exact ⟨by omega, by omega, accounted.taken_le, by omega, by omega⟩

/-! ### Between no steps -/

/-- No connection is between two of its steps. -/
def Settled (traffic : Traffic) : Prop :=
  ∀ stage ∈ traffic.connections, stage.isSettled

namespace Settled

theorem cases (settled : Settled traffic) {stage : Stage} (among : stage ∈ traffic.connections) :
    stage = .rejected ∨ stage = .running ∨ ∃ result, stage = .gone result := by
  have here := settled stage among
  cases stage with
  | rejected => exact .inl rfl
  | running => exact .inr (.inl rfl)
  | gone result => exact .inr (.inr ⟨result, rfl⟩)
  | _ => cases here

theorem tally_accepted (settled : Settled traffic) :
    traffic.tally .accepted = traffic.tally .active + traffic.tally .closed := by
  refine countAll_eq [Counter.accepted.counts] [Counter.active.counts, Counter.closed.counts]
    traffic.connections fun stage among => ?_
  obtain rfl | rfl | ⟨result, rfl⟩ := settled.cases among <;>
    simp [List.countP_cons, Counter.counts]

theorem tally_active (settled : Settled traffic) :
    traffic.tally .active = traffic.tally .taken := by
  refine countAll_eq [Counter.active.counts] [Counter.taken.counts] traffic.connections
    fun stage among => ?_
  obtain rfl | rfl | ⟨result, rfl⟩ := settled.cases among <;> simp [Counter.counts]

theorem tally_arrived (settled : Settled traffic) :
    traffic.tally .accepted + traffic.tally .rejected = traffic.connections.length := by
  rw [← congrFun List.countP_true traffic.connections]
  refine countAll_eq [Counter.accepted.counts, Counter.rejected.counts] [fun _ => true]
    traffic.connections fun stage among => ?_
  obtain rfl | rfl | ⟨result, rfl⟩ := settled.cases among <;>
    simp [List.countP_cons, Counter.counts]

/-- A session that is over is counted by its end, unless its peer went away. -/
theorem gone_by_ending (result : Except GatewayError Outcome) :
    [(Counter.ended .statusServed).counts, (Counter.ended .loginProxied).counts,
      (Counter.ended .routeFailed).counts, (Counter.ended .sessionError).counts,
      Stage.endedEarly].countP (· (.gone result)) = 1 := by
  rcases result with e | _ | _ | _
  · cases early : e.isEndOfStream <;>
      simp [Counter.counts, Stage.result?, Ending.ofResult?, Stage.endedEarly, early]
  all_goals simp [Counter.counts, Stage.result?, Ending.ofResult?, Stage.endedEarly]

theorem tally_closed (settled : Settled traffic) :
    traffic.tally .closed =
      traffic.tally (.ended .statusServed) + (traffic.tally (.ended .loginProxied) +
        (traffic.tally (.ended .routeFailed) + (traffic.tally (.ended .sessionError) +
          traffic.connections.countP Stage.endedEarly))) := by
  refine countAll_eq [Counter.closed.counts]
    [(Counter.ended .statusServed).counts, (Counter.ended .loginProxied).counts,
      (Counter.ended .routeFailed).counts, (Counter.ended .sessionError).counts,
      Stage.endedEarly] traffic.connections fun stage among => ?_
  obtain rfl | rfl | ⟨result, rfl⟩ := settled.cases among
  · simp [Counter.counts, Stage.result?, Stage.endedEarly]
  · simp [Counter.counts, Stage.result?, Stage.endedEarly]
  · rw [gone_by_ending]
    rfl

end Settled

/-- What holds of the counters while no connection is between two of its steps. -/
structure Squared (traffic : Traffic) : Prop where
  accepted_eq : (traffic.listener.stats.accepted : Int) =
    traffic.listener.stats.active + traffic.listener.stats.closed
  active_eq : traffic.listener.stats.active = traffic.listener.taken
  arrived_eq : traffic.listener.stats.accepted + traffic.listener.stats.rejected =
    traffic.connections.length
  closed_eq : traffic.listener.stats.closed =
    traffic.listener.stats.statusServed + traffic.listener.stats.loginsProxied +
      traffic.listener.stats.routesFailed + traffic.listener.stats.sessionErrors +
      traffic.connections.countP Stage.endedEarly

theorem Accounted.squared (accounted : Accounted cap traffic) (settled : Settled traffic) :
    Squared traffic := by
  obtain ⟨taken, accepted, active, closed⟩ := accounted.figures
  have rejected : traffic.listener.stats.rejected = traffic.tally .rejected :=
    Int.ofNat_inj.mp (accounted.shows .rejected)
  have ended (ending : Ending) :
      ending.count traffic.listener.stats = traffic.tally (.ended ending) :=
    Int.ofNat_inj.mp (accounted.shows (.ended ending))
  have started := settled.tally_accepted
  have running := settled.tally_active
  have arrived := settled.tally_arrived
  have completed := settled.tally_closed
  rw [← ended, ← ended, ← ended, ← ended] at completed
  simp only [Ending.count] at completed
  exact ⟨by omega, by omega, by omega, by omega⟩

/-! ## Connections that are turned away -/

/-- Whether the connection of this number was turned away. -/
def turnedAway (traffic : Traffic) (number : Nat) : Bool :=
  traffic.connections[number]?.any Stage.isTurnedAway

/-- A connection that was turned away had been turned away before, or it just came in and no permit
was left. -/
theorem step_turnedAway {move : Move} {number : Nat}
    (away : (traffic.step move).turnedAway number) :
    traffic.turnedAway number ∨
      (move = .arrive ∧ traffic.connections.length = number ∧
        ¬ traffic.listener.taken < traffic.listener.cap) := by
  cases move with
  | arrive =>
      by_cases free : traffic.listener.taken < traffic.listener.cap
      · rw [step_arrive_free traffic free] at away
        left
        simp only [turnedAway, List.getElem?_append] at away ⊢
        split at away
        · exact away
        · rw [List.getElem?_singleton] at away
          split at away <;> cases away
      · rw [step_arrive_full traffic free] at away
        simp only [turnedAway, List.getElem?_append] at away
        split at away
        · exact .inl away
        · rw [List.getElem?_singleton] at away
          split at away
          · exact .inr ⟨rfl, by omega, free⟩
          · cases away
  | advance other result =>
      left
      cases there : traffic.connections[other]? with
      | none => rwa [step_nobody traffic there] at away
      | some stage =>
          rw [step_advance traffic there] at away
          simp only [turnedAway, List.getElem?_set] at away ⊢
          split at away
          case isTrue same =>
            subst same
            rw [there]
            split at away
            · simpa [Stage.step_isTurnedAway] using away
            · cases away
          case isFalse => exact away

/-- So a connection that was turned away was so at the start, or it came in at a move in front of
which all permits were taken. -/
theorem after_turnedAway {moves : List Move} {number : Nat}
    (away : (traffic.after moves).turnedAway number) :
    traffic.turnedAway number ∨ ∃ earlier later, moves = earlier ++ .arrive :: later ∧
      (traffic.after earlier).connections.length = number ∧
      ¬ (traffic.after earlier).listener.taken < (traffic.after earlier).listener.cap := by
  induction moves generalizing traffic with
  | nil => exact .inl away
  | cons move moves ih =>
      rcases ih away with before | ⟨earlier, later, rfl, last, full⟩
      · rcases step_turnedAway before with before | ⟨rfl, last, full⟩
        · exact .inl before
        · exact .inr ⟨[], moves, rfl, last, full⟩
      · exact .inr ⟨move :: earlier, later, rfl, last, full⟩

/-! ## Every run -/

/-- **The accounts of a listener balance in every order of events.**  Behind any moves of any number
of connections, whatever their sessions end with: no more connections are active than permits are
taken, and no more of these than there are; the active connections and the closed ones were
accepted, and the accepted ones are closed or have a permit.  While no connection is between two of
its steps, the counters add up exactly, the closed connections by how their sessions ended.  A
connection is turned away only by a listener whose permits are all taken.  And the steps are those of
the listener itself: in a row, they do what `Listener.accept` does to a connection that comes in and
what `Listener.finish` does to one whose session ends. -/
theorem run_balanced (cap : Nat) (moves : List Move) :
    Balanced cap (run cap moves).listener ∧
      (Settled (run cap moves) → Squared (run cap moves)) ∧
      (∀ number, (run cap moves).turnedAway number → ∃ earlier later,
        moves = earlier ++ .arrive :: later ∧ (run cap earlier).connections.length = number ∧
          (run cap earlier).listener.taken = cap) ∧
      Undisturbed (run cap moves) := by
  have accounted (moves : List Move) : Accounted cap (run cap moves) :=
    after_accounted (start_accounted cap) moves
  refine ⟨(accounted moves).balanced, (accounted moves).squared, fun number away => ?_,
    undisturbed (run cap moves)⟩
  rcases after_turnedAway away with at_start | ⟨earlier, later, rfl, last, full⟩
  · cases at_start
  · refine ⟨earlier, later, rfl, last, Nat.le_antisymm (accounted earlier).taken_le ?_⟩
    calc cap = (run cap earlier).listener.cap := (accounted earlier).cap_eq.symm
      _ ≤ (run cap earlier).listener.taken := Nat.le_of_not_lt full

/-- The second of two connections finds the only permit taken, and is counted as rejected after the
first one has given it back. -/
example :
    (run 1 (.arrive :: .arrive :: goOn 0 (.ok .login) 6 ++ goOn 1 (.ok .login) 1)).listener =
      { cap := 1, stats := { accepted := 1, closed := 1, rejected := 1, loginsProxied := 1 } } := by
  decide

end Traffic

end Listener

end GameGateway
