import GameGateway.Proofs.StateAction
import GameGateway.Session.Tunnel

/-!
# Tunnels step by step

`Tunnel.join` runs one direction to its end and then the other.  A tunnel that is driven by an event
loop does not: it takes one poll of a read, one write, one flush or one shutdown of either direction
at a time, in whatever order the loop comes to them.  Here `Tunnel.Pipe` is such a tunnel, two peers
with a direction each way, and a schedule says which side takes the next step.

A direction sees one half of each peer, its `Tunnel.Lane`.  A step of a side moves its own lane on
and leaves the other as it is (`Pipe.step_eq_some`), so behind any schedule each lane is where it
would be if it had taken as many steps alone (`Pipe.run_lane`).  Alone, a lane ends where
`Tunnel.copy` does (`Lane.reaches_copy`).  So every schedule that leaves no step to take has come to
`Tunnel.join` (`Pipe.every_schedule_joins`).
-/

namespace GameGateway

/-! ## Suspended reads -/

/-- What a suspended read leaves of a script, if a read is suspended by it. -/
def Arrival.suspended : List Arrival → Option (List Arrival)
  | pause :: script => some script
  | chunk [] :: script => suspended script
  | _ => none

theorem Arrival.suspended_eq_some {script later : List Arrival}
    (waits : suspended script = some later) :
    later.length < script.length ∧ ∀ limit, advance limit later = advance limit script := by
  fun_induction suspended script with
  | case1 script =>
      obtain rfl := Option.some.inj waits
      exact ⟨Nat.lt_succ_self _, fun limit => by rw [advance]⟩
  | case2 script ih =>
      obtain ⟨shorter, same⟩ := ih waits
      exact ⟨Nat.lt_succ_of_lt shorter, fun limit => by rw [same, advance]⟩
  | case3 => cases waits

namespace Source

/-- What a suspended read leaves of a source, if a read of it is suspended. -/
def suspended (source : Source) : Option Source :=
  (Arrival.suspended source.script).map fun script => { source with script }

/-- A read that was suspended answers what it would have answered at once. -/
theorem suspended_eq_some {source later : Source} (waits : source.suspended = some later) :
    later.script.length < source.script.length ∧
      ∀ limit, 0 < limit → later.read limit = source.read limit := by
  obtain ⟨script, left, rfl⟩ := Option.map_eq_some_iff.1 waits
  obtain ⟨shorter, same⟩ := Arrival.suspended_eq_some left
  refine ⟨shorter, fun limit positive => ?_⟩
  have asks : limit ≠ 0 := by omega
  simp only [read, Arrival.answer, asks, if_false, same limit]

end Source

namespace Tunnel

/-! ## One direction -/

/-- What a direction does next. -/
inductive Stage
  | reading
  /-- So many bytes were read, and these of them are still to be written. -/
  | writing (count : Nat) (left : Bytes)
  | closing
  | ended (fault : Option IoError)
  deriving DecidableEq, Repr

/-- What a direction does with the answer of a read. -/
def Stage.behind : Answer → Stage
  | .data (b :: bs) => .writing (b :: bs).length (b :: bs)
  | .fault e => .ended (some e)
  | .finished | .data [] => .closing

/-- How far a direction has come. -/
structure Progress where
  total : Nat := 0
  stage : Stage := .reading
  deriving DecidableEq, Repr

/-- A direction with the two halves that it uses: the source of the peer that it reads and the sink
of the peer that it writes. -/
structure Lane where
  source : Source
  sink : Sink
  progress : Progress
  deriving DecidableEq, Repr

namespace Lane

/-- One step of a direction, unless it has ended. -/
def step : Lane → Option Lane
  | ⟨source, sink, total, .reading⟩ =>
    match source.suspended with
    | some later => some ⟨later, sink, total, .reading⟩
    | none =>
      let (answer, rest) := source.read bufferSize
      some ⟨rest, sink, total, .behind answer⟩
  | ⟨source, sink, total, .writing count (b :: bs)⟩ =>
    match Sink.write (b :: bs) sink with
    | .ok 0 sink => some ⟨source, sink, total, .ended (some .writeZero)⟩
    | .ok (n + 1) sink => some ⟨source, sink, total, .writing count (bs.drop n)⟩
    | .error e sink => some ⟨source, sink, total, .ended (some e)⟩
  | ⟨source, sink, total, .writing count []⟩ =>
    match Sink.flush sink with
    | .ok _ sink => some ⟨source, sink, total + count, .reading⟩
    | .error e sink => some ⟨source, sink, total, .ended (some e)⟩
  | ⟨source, sink, total, .closing⟩ =>
    match Sink.shutdown sink with
    | .ok _ sink => some ⟨source, sink, total, .ended none⟩
    | .error e sink => some ⟨source, sink, total, .ended (some e)⟩
  | ⟨_, _, _, .ended _⟩ => none

/-- The lane behind so many steps of its own, if it takes that many. -/
def after : Nat → Lane → Option Lane
  | 0, lane => some lane
  | n + 1, lane => lane.step.bind (after n)

/-- A direction that has ended as `copy` answers. -/
def ofCopied : Copied × Source × Sink → Lane
  | (copied, source, sink) => ⟨source, sink, copied.total, .ended copied.fault⟩

/-- What `copy` makes of a lane that it finds reading. -/
def finished (lane : Lane) : Lane :=
  ofCopied (copy lane.progress.total lane.source lane.sink)

theorem step_finished (lane : Lane) : lane.finished.step = none :=
  rfl

theorem after_add (m n : Nat) (lane : Lane) :
    lane.after (m + n) = (lane.after m).bind (after n) := by
  induction m generalizing lane with
  | zero => simp [after]
  | succ m ih =>
      rw [Nat.succ_add, after, after]
      cases lane.step with
      | none => rfl
      | some next => exact ih next

section Ends

variable {lane last now : Lane} {n k : Nat}

/-- A lane takes all the steps before its end. -/
theorem exists_after (ends : lane.after n = some last) (within : k ≤ n) :
    ∃ now, lane.after k = some now ∧ now.after (n - k) = some last := by
  rw [← Nat.add_sub_cancel' within, after_add] at ends
  exact Option.bind_eq_some_iff.1 ends

/-- A lane takes no step behind its end. -/
theorem le_of_after (ends : lane.after n = some last) (done : last.step = none)
    (reached : lane.after k = some now) : k ≤ n := by
  refine Nat.le_of_not_lt fun beyond => ?_
  obtain ⟨d, rfl⟩ : ∃ d, k = n + (d + 1) := ⟨k - n - 1, by omega⟩
  rw [after_add, ends, Option.bind_some, after, done, Option.bind_none] at reached
  cases reached

/-- A lane is stuck at its end only. -/
theorem step_eq_none_iff (ends : lane.after n = some last) (done : last.step = none)
    (reached : lane.after k = some now) : now.step = none ↔ k = n := by
  constructor
  · intro stuck
    exact Nat.le_antisymm (le_of_after ends done reached) (le_of_after reached stuck ends)
  · rintro rfl
    obtain rfl := Option.some.inj (ends.symm.trans reached)
    exact done

end Ends

/-! ## Where a direction ends alone -/

/-- A lane comes to another by steps of its own. -/
def Reaches (lane last : Lane) : Prop :=
  ∃ n, lane.after n = some last

namespace Reaches

theorem refl (lane : Lane) : Reaches lane lane :=
  ⟨0, rfl⟩

theorem trans {lane middle last : Lane} (first : Reaches lane middle)
    (second : Reaches middle last) : Reaches lane last := by
  obtain ⟨m, first⟩ := first
  obtain ⟨n, second⟩ := second
  exact ⟨m + n, by rw [after_add, first, Option.bind_some, second]⟩

theorem head {lane next last : Lane} (stepped : lane.step = some next)
    (onward : Reaches next last) : Reaches lane last := by
  obtain ⟨n, onward⟩ := onward
  exact ⟨n + 1, by rw [after, stepped, Option.bind_some, onward]⟩

theorem single {lane next : Lane} (stepped : lane.step = some next) : Reaches lane next :=
  head stepped (refl next)

end Reaches

/-- However often a read is suspended, the direction comes to its answer. -/
theorem reaches_read (source : Source) (sink : Sink) (total : Nat) :
    Reaches ⟨source, sink, total, .reading⟩
      ⟨(source.read bufferSize).2, sink, total, .behind (source.read bufferSize).1⟩ := by
  have positive : 0 < bufferSize := by decide
  cases waits : source.suspended with
  | none =>
      refine .single ?_
      simp only [step, waits]
  | some later =>
      obtain ⟨shorter, same⟩ := Source.suspended_eq_some waits
      have onward := reaches_read later sink total
      rw [same bufferSize positive] at onward
      refine .head ?_ onward
      simp only [step, waits]
termination_by source.script.length

/-- The writes of a direction come to what `Sink.writeAll` does. -/
theorem reaches_writeAll (source : Source) (bytes : Bytes) (sink : Sink) (total count : Nat) :
    Reaches ⟨source, sink, total, .writing count bytes⟩
      (match Sink.writeAll bytes sink with
        | .ok _ sink => ⟨source, sink, total, .writing count []⟩
        | .error e sink => ⟨source, sink, total, .ended (some e)⟩) := by
  fun_induction Sink.writeAll bytes sink with
  | case1 sink => exact .refl _
  | case2 sink b rest e after' run =>
      refine .single ?_
      simp only [step, run]
  | case3 sink b rest after' run =>
      refine .single ?_
      simp only [step, run]
  | case4 sink b rest n after' run ih =>
      refine .head ?_ ih
      simp only [step, run]

/-- A piece that was read is written and flushed, or the direction ends with the fault. -/
theorem reaches_flush (source : Source) (bytes : Bytes) (sink : Sink) (total count : Nat) :
    Reaches ⟨source, sink, total, .writing count bytes⟩
      (match (do Sink.writeAll bytes; Sink.flush : EStateM IoError Sink Unit) sink with
        | .ok _ sink => ⟨source, sink, total + count, .reading⟩
        | .error e sink => ⟨source, sink, total, .ended (some e)⟩) := by
  have written := reaches_writeAll source bytes sink total count
  cases wrote : Sink.writeAll bytes sink with
  | error e sink' =>
      rw [wrote] at written
      rw [bind_error wrote]
      exact written
  | ok _ sink' =>
      rw [wrote] at written
      rw [bind_ok wrote]
      refine written.trans (.single ?_)
      cases flushed : Sink.flush sink' <;> simp only [step, flushed]

theorem reaches_shutdown (source : Source) (sink : Sink) (total : Nat) :
    Reaches ⟨source, sink, total, .closing⟩
      (match Sink.shutdown sink with
        | .ok _ sink => ⟨source, sink, total, .ended none⟩
        | .error e sink => ⟨source, sink, total, .ended (some e)⟩) := by
  refine .single ?_
  cases shut : Sink.shutdown sink <;> simp only [step, shut]

/-- **A direction that runs alone ends as `copy` says.** -/
theorem reaches_copy (total : Nat) (source : Source) (sink : Sink) :
    Reaches ⟨source, sink, total, .reading⟩ (ofCopied (copy total source sink)) := by
  have start := reaches_read source sink total
  fun_induction copy total source sink
  case case1 total source sink b bs rest answered _ _ middle run ih =>
    rw [answered] at start
    have piece := reaches_flush rest (b :: bs) sink total (b :: bs).length
    rw [run] at piece
    exact (start.trans piece).trans (ih (reaches_read rest middle _))
  case case2 total source sink b bs rest answered _ e sink' run =>
    rw [answered] at start
    have piece := reaches_flush rest (b :: bs) sink total (b :: bs).length
    rw [run] at piece
    exact start.trans piece
  case case3 total source sink e rest answered =>
    rw [answered] at start
    exact start
  -- no more bytes: the shutdown may answer or fail
  case case4 | case5 | case6 | case7 =>
    rename_i total source sink rest answered _ sink' run
    rw [answered] at start
    have shut := reaches_shutdown rest sink total
    rw [run] at shut
    exact start.trans shut

end Lane

/-! ## Both directions -/

/-- Which direction of a tunnel takes a step. -/
inductive Side
  | forth
  | back
  deriving DecidableEq, Repr

/-- A tunnel under way: two peers that both directions use. -/
structure Pipe where
  a : Peer
  b : Peer
  forth : Progress := {}
  back : Progress := {}
  deriving DecidableEq, Repr

namespace Pipe

/-- A tunnel between two peers before its first step. -/
def start (a b : Peer) : Pipe :=
  { a, b }

/-- What a direction sees of the tunnel. -/
def lane (pipe : Pipe) : Side → Lane
  | .forth => ⟨pipe.a.source, pipe.b.sink, pipe.forth⟩
  | .back => ⟨pipe.b.source, pipe.a.sink, pipe.back⟩

/-- The tunnel with what a direction has made of its lane. -/
def withLane (pipe : Pipe) (lane : Lane) : Side → Pipe
  | .forth =>
    { pipe with
      a := { pipe.a with source := lane.source }
      b := { pipe.b with sink := lane.sink }
      forth := lane.progress }
  | .back =>
    { pipe with
      a := { pipe.a with sink := lane.sink }
      b := { pipe.b with source := lane.source }
      back := lane.progress }

/-- One step of one direction, unless it has ended. -/
def step (pipe : Pipe) (side : Side) : Option Pipe :=
  (pipe.lane side).step.map (pipe.withLane · side)

/-- The tunnel behind the steps of a schedule, if each of them can be taken. -/
def run (pipe : Pipe) (schedule : List Side) : Option Pipe :=
  schedule.foldlM step pipe

/-- What a tunnel has done, once both directions have ended. -/
def outcome (pipe : Pipe) : Option Joined :=
  match pipe.forth.stage, pipe.back.stage with
  | .ended forth, .ended back =>
    some {
      forth := ⟨pipe.forth.total, forth⟩
      back := ⟨pipe.back.total, back⟩
      a := pipe.a
      b := pipe.b }
  | _, _ => none

variable {pipe next last : Pipe} {side : Side} {schedule : List Side}

/-! ### One step -/

@[simp] theorem lane_withLane_self (pipe : Pipe) (lane : Lane) (side : Side) :
    (pipe.withLane lane side).lane side = lane := by
  cases side <;> rfl

theorem lane_withLane_of_ne (pipe : Pipe) (lane : Lane) {side other : Side} (ne : other ≠ side) :
    (pipe.withLane lane side).lane other = pipe.lane other := by
  cases side <;> cases other <;> first | rfl | exact absurd rfl ne

theorem released_withLane (pipe : Pipe) (lane : Lane) (side : Side) :
    (pipe.withLane lane side).a.released = pipe.a.released ∧
      (pipe.withLane lane side).b.released = pipe.b.released := by
  cases side <;> exact ⟨rfl, rfl⟩

theorem step_eq_none : pipe.step side = none ↔ (pipe.lane side).step = none := by
  rw [step, Option.map_eq_none_iff]

/-- **A step moves its own lane on**, and the tunnel is the same in everything else. -/
theorem step_eq_some (stepped : pipe.step side = some next) :
    (pipe.lane side).step = some (next.lane side) ∧
      (∀ other, other ≠ side → next.lane other = pipe.lane other) ∧
      next.a.released = pipe.a.released ∧ next.b.released = pipe.b.released := by
  obtain ⟨lane, moved, rfl⟩ := Option.map_eq_some_iff.1 stepped
  refine ⟨by rw [lane_withLane_self, moved], fun other ne => ?_, released_withLane pipe lane side⟩
  exact lane_withLane_of_ne pipe lane ne

/-- What a schedule asks of a lane, seen behind its first step. -/
theorem after_count_cons (stepped : pipe.step side = some next) (schedule : List Side)
    (own : Side) :
    (pipe.lane own).after ((side :: schedule).count own) =
      (next.lane own).after (schedule.count own) := by
  obtain ⟨moved, kept, -⟩ := step_eq_some stepped
  by_cases same : own = side
  · subst same
    rw [List.count_cons_self, Lane.after, moved, Option.bind_some]
  · rw [List.count_cons_of_ne (Ne.symm same), kept own same]

/-! ### Schedules -/

theorem run_cons (pipe : Pipe) (side : Side) (schedule : List Side) :
    pipe.run (side :: schedule) = (pipe.step side).bind (·.run schedule) :=
  rfl

/-- **Behind a schedule each lane is where as many steps of its own take it.** -/
theorem run_lane (ran : pipe.run schedule = some last) (own : Side) :
    (pipe.lane own).after (schedule.count own) = some (last.lane own) := by
  induction schedule generalizing pipe with
  | nil =>
      obtain rfl := Option.some.inj ran
      rfl
  | cons side schedule ih =>
      rw [run_cons] at ran
      obtain ⟨next, stepped, onward⟩ := Option.bind_eq_some_iff.1 ran
      rw [after_count_cons stepped]
      exact ih onward

theorem run_released (ran : pipe.run schedule = some last) :
    last.a.released = pipe.a.released ∧ last.b.released = pipe.b.released := by
  induction schedule generalizing pipe with
  | nil =>
      obtain rfl := Option.some.inj ran
      exact ⟨rfl, rfl⟩
  | cons side schedule ih =>
      rw [run_cons] at ran
      obtain ⟨next, stepped, onward⟩ := Option.bind_eq_some_iff.1 ran
      obtain ⟨-, -, keptA, keptB⟩ := step_eq_some stepped
      exact ⟨(ih onward).1.trans keptA, (ih onward).2.trans keptB⟩

/-- A schedule runs if each lane takes the steps that it gets. -/
theorem exists_run
    (enough : ∀ own, ∃ lane, (pipe.lane own).after (schedule.count own) = some lane) :
    ∃ last, pipe.run schedule = some last := by
  induction schedule generalizing pipe with
  | nil => exact ⟨pipe, rfl⟩
  | cons side schedule ih =>
      obtain ⟨lane, moves⟩ := enough side
      rw [List.count_cons_self, Lane.after] at moves
      obtain ⟨moved, first, -⟩ := Option.bind_eq_some_iff.1 moves
      have stepped : pipe.step side = some (pipe.withLane moved side) := by
        rw [step, first, Option.map_some]
      obtain ⟨last, ran⟩ := ih fun own => by
        rw [← after_count_cons stepped]
        exact enough own
      exact ⟨last, by rw [run_cons, stepped, Option.bind_some, ran]⟩

/-! ### The end -/

theorem outcome_eq_none (pending : pipe.step side ≠ none) : pipe.outcome = none := by
  unfold outcome
  split
  · next forth back endedForth endedBack =>
      obtain ⟨a, b, ⟨_, _⟩, ⟨_, _⟩⟩ := pipe
      cases endedForth
      cases endedBack
      cases side <;> exact absurd rfl pending
  · rfl

/-- Where both lanes have ended as copies, the outcome is what `join` builds of the copies. -/
theorem outcome_eq_join {a b : Peer}
    (ends : ∀ side, pipe.lane side = ((start a b).lane side).finished)
    (keptA : pipe.a.released = a.released) (keptB : pipe.b.released = b.released) :
    pipe.outcome = some (join a b) := by
  have forth := ends .forth
  have back := ends .back
  obtain ⟨⟨aSource, aSink, aReleased⟩, ⟨bSource, bSink, bReleased⟩, forth', back'⟩ := pipe
  simp only [lane, start, Lane.finished, Lane.ofCopied, Lane.mk.injEq] at forth back
  obtain ⟨rfl, rfl, rfl⟩ := forth
  obtain ⟨rfl, rfl, rfl⟩ := back
  subst keptA keptB
  rfl

/-- Alone, each lane of a tunnel comes to what `copy` makes of it, in steps that only it decides. -/
theorem exists_steps :
    ∃ steps : Lane → Nat, ∀ (a b : Peer) (side : Side),
      ((start a b).lane side).after (steps ((start a b).lane side)) =
        some ((start a b).lane side).finished := by
  have alone (lane : Lane) : ∃ n, lane.progress.stage = .reading →
      lane.after n = some lane.finished := by
    obtain ⟨source, sink, total, stage⟩ := lane
    by_cases reading : stage = .reading
    · subst reading
      obtain ⟨n, ends⟩ := Lane.reaches_copy total source sink
      exact ⟨n, fun _ => ends⟩
    · exact ⟨0, fun same => absurd same reading⟩
  obtain ⟨steps, ends⟩ := Classical.axiomOfChoice alone
  refine ⟨steps, fun a b side => ends _ ?_⟩
  cases side <;> rfl

theorem count_one_after_other {first second : Side} (ne : first ≠ second) (steps : Side → Nat)
    (own : Side) :
    (List.replicate (steps first) first ++ List.replicate (steps second) second).count own =
      steps own := by
  cases first <;> cases second <;> cases own <;>
    first | exact absurd rfl ne | simp [List.count_append, List.count_replicate]

/-- **Every order of single steps joins the peers.**  Each lane has a number of steps that it takes
alone.

* A schedule can be run just if it gives no direction more steps than that, in whatever order; so
  there is no endless run, and every run can be continued to the end.
* Behind a schedule each lane is where as many steps alone would have taken it, wherever the other
  one is by then.  It is stuck just if it has taken all its steps, and then it has become what
  `copy` makes of it.
* The tunnel is over just if both directions have ended, and then it has done what `join` does.
* So it has if one direction ran to its end before the other one started. -/
theorem every_schedule_joins :
    ∃ steps : Lane → Nat, ∀ a b : Peer,
      (∀ schedule, (∃ last, (start a b).run schedule = some last) ↔
        ∀ side, schedule.count side ≤ steps ((start a b).lane side)) ∧
      (∀ schedule last, (start a b).run schedule = some last → ∀ side,
        ((start a b).lane side).after (schedule.count side) = some (last.lane side) ∧
        (last.step side = none ↔ schedule.count side = steps ((start a b).lane side)) ∧
        (last.step side = none → last.lane side = ((start a b).lane side).finished)) ∧
      (∀ schedule last, (start a b).run schedule = some last →
        ((∀ side, last.step side = none) → last.outcome = some (join a b)) ∧
        (∀ side, last.step side ≠ none → last.outcome = none)) ∧
      ∀ first second, first ≠ second → ∃ last,
        (start a b).run
            (List.replicate (steps ((start a b).lane first)) first ++
              List.replicate (steps ((start a b).lane second)) second) = some last ∧
          last.outcome = some (join a b) := by
  obtain ⟨steps, alone⟩ := exists_steps
  refine ⟨steps, fun a b => ?_⟩
  have done (side : Side) : ((start a b).lane side).finished.step = none := Lane.step_finished _
  have runs (schedule : List Side) : (∃ last, (start a b).run schedule = some last) ↔
      ∀ side, schedule.count side ≤ steps ((start a b).lane side) := by
    constructor
    · rintro ⟨last, ran⟩ side
      exact Lane.le_of_after (alone a b side) (done side) (run_lane ran side)
    · intro within
      refine exists_run fun side => ?_
      obtain ⟨now, reached, -⟩ := Lane.exists_after (alone a b side) (within side)
      exact ⟨now, reached⟩
  have stuck {schedule : List Side} {last : Pipe} (ran : (start a b).run schedule = some last)
      (side : Side) :
      last.step side = none ↔ schedule.count side = steps ((start a b).lane side) := by
    rw [step_eq_none]
    exact Lane.step_eq_none_iff (alone a b side) (done side) (run_lane ran side)
  have ends {schedule : List Side} {last : Pipe} (ran : (start a b).run schedule = some last)
      {side : Side} (none' : last.step side = none) :
      last.lane side = ((start a b).lane side).finished := by
    have reached := run_lane ran side
    rw [(stuck ran side).1 none', alone a b side] at reached
    exact (Option.some.inj reached).symm
  have joins {schedule : List Side} {last : Pipe} (ran : (start a b).run schedule = some last)
      (ended : ∀ side, last.step side = none) : last.outcome = some (join a b) := by
    obtain ⟨keptA, keptB⟩ := run_released ran
    exact outcome_eq_join (fun side => ends ran (ended side)) keptA keptB
  refine ⟨runs, fun schedule last ran side => ?_, fun schedule last ran => ?_, ?_⟩
  · exact ⟨run_lane ran side, stuck ran side, ends ran⟩
  · exact ⟨joins ran, fun side => outcome_eq_none⟩
  · intro first second ne
    have counts := count_one_after_other ne fun side => steps ((start a b).lane side)
    obtain ⟨last, ran⟩ := (runs _).2 fun side => Nat.le_of_eq (counts side)
    exact ⟨last, ran, joins ran fun side => (stuck ran side).2 (counts side)⟩

end Pipe

end Tunnel

end GameGateway
