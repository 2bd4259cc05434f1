import GameGateway.Proofs.Session.TunnelCopy

/-!
# One direction of a tunnel, read by read

The source of a direction is read in pieces (`Source.Pieces`).  A direction writes and flushes one
piece after the other and counts a piece once both are done, so it ends in one of four ways
(`Tunnel.Copies`): at the end of the source, where it shuts the sink down, at a fault of the source,
at a piece that does not get through, or at a first piece that is not flushed.

`Tunnel.copy_piecewise` says what each of them leaves: which bytes were accepted, which of them are
counted, how many flushes and shutdowns were called and which reads were made.
-/

namespace GameGateway

namespace Source

/-- A read is on record with its answer. -/
theorem answers_of_read {limit : Nat} {source after : Source} {answer : Answer}
    (read : source.read limit = (answer, after)) : after.answers = answer :: source.answers := by
  obtain ⟨rfl, rfl⟩ := Prod.mk.inj read
  rfl

/-- One read after the other, of at most `limit` bytes each: the pieces that they answered. -/
inductive Pieces (limit : Nat) : Source → List Bytes → Source → Prop
  | none {source : Source} : Pieces limit source [] source
  | next {source middle after : Source} {piece : Bytes} {pieces : List Bytes} :
    source.read limit = (.data piece, middle) → Pieces limit middle pieces after →
    Pieces limit source (piece :: pieces) after

/-- Reads up to the first one that brings nothing: the pieces, and what that read answers. -/
structure ReadOut (limit : Nat) (source : Source) (pieces : List Bytes) (ending : Answer)
    (last : Source) : Prop where
  reads : ∃ middle, source.Pieces limit pieces middle ∧ middle.read limit = (ending, last)
  nothing : ∀ bytes, ending ≠ .data bytes

theorem ReadOut.of_fault {limit : Nat} {source last : Source} {e : IoError}
    (read : source.read limit = (.fault e, last)) : source.ReadOut limit [] (.fault e) last :=
  ⟨⟨source, .none, read⟩, nofun⟩

theorem ReadOut.of_finished {limit : Nat} {source last : Source}
    (read : source.read limit = (.finished, last)) : source.ReadOut limit [] .finished last :=
  ⟨⟨source, .none, read⟩, nofun⟩

namespace Pieces

variable {limit : Nat} {source middle after : Source} {pieces more : List Bytes}

theorem append (first : source.Pieces limit pieces middle)
    (second : middle.Pieces limit more after) : source.Pieces limit (pieces ++ more) after := by
  induction first with
  | none => exact second
  | next read _ ih => exact .next read (ih second)

/-- The pieces are what was delivered, cut where the reads ended. -/
theorem delivered_eq (positive : 0 < limit) (reads : source.Pieces limit pieces after) :
    source.delivered = pieces.flatten ++ after.delivered := by
  induction reads with
  | none => rfl
  | next read _ ih =>
      rw [Tunnel.delivered_of_read_data positive read, ih, List.flatten_cons, List.append_assoc]

/-- Every piece has a byte and no more than were asked for. -/
theorem length_bounds (positive : 0 < limit) (reads : source.Pieces limit pieces after) :
    ∀ piece ∈ pieces, 0 < piece.length ∧ piece.length ≤ limit := by
  induction reads with
  | none => exact nofun
  | next read _ ih =>
      obtain ⟨-, most, some⟩ := unread_read read
      intro piece member
      rcases List.mem_cons.1 member with rfl | later
      · exact ⟨some positive, most⟩
      · exact ih piece later

/-- The reads are on record. -/
theorem answers_eq (reads : source.Pieces limit pieces after) :
    after.answers = (pieces.map Answer.data).reverse ++ source.answers := by
  induction reads with
  | none => rfl
  | next read _ ih =>
      rw [ih, answers_of_read read, List.map_cons, List.reverse_cons, List.append_assoc,
        List.singleton_append]

end Pieces

/-- Reading a source comes to a read that brings nothing. -/
theorem exists_readOut {limit : Nat} (positive : 0 < limit) (source : Source) :
    ∃ pieces ending last, source.ReadOut limit pieces ending last := by
  induction left : source.unread using Nat.strongRecOn generalizing source with
  | ind n ih =>
      subst left
      obtain ⟨answer, middle, read⟩ : ∃ answer middle, source.read limit = (answer, middle) :=
        ⟨_, _, rfl⟩
      cases answer with
      | data piece =>
          obtain ⟨taken, -, some⟩ := unread_read read
          obtain ⟨pieces, ending, last, ⟨stop, reads, stops⟩, nothing⟩ :=
            ih middle.unread (by have := some positive; omega) middle rfl
          exact ⟨piece :: pieces, ending, last, ⟨stop, .next read reads, stops⟩, nothing⟩
      | fault e => exact ⟨[], .fault e, middle, .of_fault read⟩
      | finished => exact ⟨[], .finished, middle, .of_finished read⟩

namespace ReadOut

variable {limit : Nat} {source middle last : Source} {pieces more : List Bytes} {ending : Answer}

theorem flatten_eq (positive : 0 < limit) (readOut : source.ReadOut limit pieces ending last) :
    pieces.flatten = source.delivered := by
  obtain ⟨⟨stop, reads, stops⟩, nothing⟩ := readOut
  rw [reads.delivered_eq positive, Tunnel.delivered_of_read_other positive stops nothing,
    List.append_nil]

theorem length_bounds (positive : 0 < limit) (readOut : source.ReadOut limit pieces ending last) :
    ∀ piece ∈ pieces, 0 < piece.length ∧ piece.length ≤ limit := by
  obtain ⟨stop, reads, -⟩ := readOut.reads
  exact reads.length_bounds positive

/-- What was read before belongs to the pieces. -/
theorem after_pieces (reads : source.Pieces limit pieces middle)
    (readOut : middle.ReadOut limit more ending last) :
    source.ReadOut limit (pieces ++ more) ending last := by
  obtain ⟨⟨stop, reads', stops⟩, nothing⟩ := readOut
  exact ⟨⟨stop, reads.append reads', stops⟩, nothing⟩

/-- Reads that answered pieces are the first ones of reading a source out. -/
theorem of_pieces (readOut : source.ReadOut limit pieces ending last)
    (reads : source.Pieces limit more middle) :
    ∃ rest, pieces = more ++ rest ∧ middle.ReadOut limit rest ending last := by
  induction reads generalizing pieces with
  | none => exact ⟨pieces, rfl, readOut⟩
  | next read _ ih =>
      obtain ⟨⟨stop, reads', stops⟩, nothing⟩ := readOut
      cases reads' with
      | none =>
          rw [read] at stops
          exact absurd (Prod.mk.inj stops).1.symm (nothing _)
      | next read' reads' =>
          rw [read] at read'
          cases read'
          obtain ⟨rest, rfl, readOut⟩ := ih ⟨⟨stop, reads', stops⟩, nothing⟩
          exact ⟨rest, rfl, readOut⟩

/-- There is one way to read a source out. -/
theorem unique {ending' : Answer} {last' : Source}
    (readOut : source.ReadOut limit pieces ending last)
    (readOut' : source.ReadOut limit more ending' last') :
    pieces = more ∧ ending = ending' ∧ last = last' := by
  obtain ⟨⟨stop, reads, stops⟩, nothing⟩ := readOut'
  obtain ⟨rest, rfl, ⟨stop', reads', stops'⟩, -⟩ := readOut.of_pieces reads
  cases reads' with
  | none =>
      rw [stops] at stops'
      cases stops'
      exact ⟨List.append_nil _, rfl, rfl⟩
  | next read _ =>
      rw [stops] at read
      exact absurd (Prod.mk.inj read).1 (nothing _)

/-- A source that was read out has not been left at a piece. -/
theorem ne_of_pieces {through : List Bytes} {piece : Bytes} {left : Source}
    (readOut : source.ReadOut limit pieces ending last)
    (reads : source.Pieces limit (through ++ [piece]) left) : left ≠ last := by
  rintro rfl
  obtain ⟨⟨stop, -, stops⟩, nothing⟩ := readOut
  have record := reads.answers_eq
  rw [List.map_append, List.reverse_append, answers_of_read stops] at record
  exact nothing piece (List.cons.inj record).1

end ReadOut

end Source

/-- What gets through does so also in front of something else. -/
theorem Sink.prefix_admits_append {sink : Sink} {bytes : Bytes}
    (through : sink.admits bytes = bytes) (more : Bytes) :
    bytes <+: sink.admits (bytes ++ more) := by
  unfold admits at through ⊢
  cases limit : sink.allowance with
  | none => exact List.prefix_append bytes more
  | some n =>
      rw [limit] at through
      have fits : bytes.length ≤ n := by
        have whole := congrArg List.length through
        rw [List.length_take] at whole
        omega
      simp only [List.take_append, List.take_of_length_le fits]
      exact List.prefix_append bytes _

/-- A shutdown is one call, whether or not it fails. -/
theorem Sink.shutdown_grown (sink : Sink) : sink.Grown [] 0 1 (stateOf (shutdown sink)) := by
  obtain ⟨after, grown, run⟩ := shutdown_spec sink
  rw [run]
  cases sink.shutdownFault <;> exact grown

/-- What a shutdown answers is known before. -/
theorem Sink.shutdownFault_eq (sink : Sink) :
    sink.shutdownFault = match shutdown sink with
      | .ok _ _ => none
      | .error e _ => some e := by
  unfold shutdown
  cases sink.shutdownFault <;> rfl

namespace Tunnel

/-- How a direction ends that has counted `total` bytes already.  All pieces but the last one were
written and flushed. -/
inductive Copies (total : Nat) (source : Source) (sink : Sink) : Copied × Source × Sink → Prop
  /-- The source has ended: the sink is shut down behind the last piece. -/
  | ended {pieces : List Bytes} {last : Source} {written after : Sink} :
    source.ReadOut bufferSize pieces .finished last →
    sink.admits pieces.flatten = pieces.flatten → (pieces ≠ [] → sink.flushFault = none) →
    sink.Grown pieces.flatten pieces.length 0 written → after = stateOf (Sink.shutdown written) →
    Copies total source sink (⟨total + pieces.flatten.length, sink.shutdownFault⟩, last, after)
  /-- A read has failed. -/
  | cut {pieces : List Bytes} {e : IoError} {last : Source} {after : Sink} :
    source.ReadOut bufferSize pieces (.fault e) last →
    sink.admits pieces.flatten = pieces.flatten → (pieces ≠ [] → sink.flushFault = none) →
    sink.Grown pieces.flatten pieces.length 0 after →
    Copies total source sink (⟨total + pieces.flatten.length, some e⟩, last, after)
  /-- A write has failed, behind a front of the last piece. -/
  | stuck {pieces : List Bytes} {piece : Bytes} {left : Source} {after : Sink} :
    source.Pieces bufferSize (pieces ++ [piece]) left →
    sink.admits pieces.flatten = pieces.flatten → (pieces ≠ [] → sink.flushFault = none) →
    sink.admits (pieces.flatten ++ piece) ≠ pieces.flatten ++ piece →
    sink.Grown (sink.admits (pieces.flatten ++ piece)) pieces.length 0 after →
    Copies total source sink (⟨total + pieces.flatten.length, some sink.refusal⟩, left, after)
  /-- The first flush has failed. -/
  | unflushed {piece : Bytes} {e : IoError} {left : Source} {after : Sink} :
    source.Pieces bufferSize [piece] left → sink.admits piece = piece →
    sink.flushFault = some e → sink.Grown piece 1 0 after →
    Copies total source sink (⟨total, some e⟩, left, after)

namespace Copies

variable {total : Nat} {source rest : Source} {sink middle : Sink} {piece : Bytes}
  {result : Copied × Source × Sink}

/-- A piece that was written and flushed comes before the others. -/
theorem after_piece (read : source.read bufferSize = (.data piece, rest)) (some : piece ≠ [])
    (through : sink.admits piece = piece) (flushes : sink.flushFault = none)
    (grown : sink.Grown piece 1 0 middle)
    (more : Copies (total + piece.length) rest middle result) :
    Copies total source sink result := by
  have reads : source.Pieces bufferSize [piece] rest := .next read .none
  have admits (bytes : Bytes) : sink.admits (piece ++ bytes) = piece ++ middle.admits bytes :=
    Sink.admits_append through grown bytes
  have count (pieces : List Bytes) :
      total + piece.length + pieces.flatten.length = total + (piece :: pieces).flatten.length := by
    rw [List.flatten_cons, List.length_append, Nat.add_assoc]
  have flushed (pieces : List Bytes) : 1 + pieces.length = (piece :: pieces).length := by
    rw [List.length_cons, Nat.add_comm]
  cases more with
  | @ended pieces last written after out through' _ grown' shut =>
      rw [count, grown.shutdownFault]
      refine .ended (.after_pieces reads out) ?_ (fun _ => flushes) ?_ shut
      · rw [List.flatten_cons, admits, through']
      · rw [← flushed]
        exact grown.trans grown'
  | @cut pieces e last after out through' _ grown' =>
      rw [count]
      refine .cut (.after_pieces reads out) ?_ (fun _ => flushes) ?_
      · rw [List.flatten_cons, admits, through']
      · rw [← flushed]
        exact grown.trans grown'
  | @stuck pieces torn left after reads' through' _ stuck grown' =>
      rw [count, grown.refusal_eq through some]
      refine .stuck (reads.append reads') ?_ (fun _ => flushes) ?_ ?_
      · rw [List.flatten_cons, admits, through']
      · rw [List.flatten_cons, List.append_assoc, admits]
        exact fun whole => stuck (List.append_cancel_left whole)
      · rw [List.flatten_cons, List.append_assoc, admits, ← flushed]
        exact grown.trans grown'
  | unflushed _ _ fault _ =>
      rw [grown.flushFault, flushes] at fault
      cases fault

end Copies

/-- **A direction ends in one of four ways.** -/
theorem copy_copies (total : Nat) (source : Source) (sink : Sink) :
    Copies total source sink (copy total source sink) := by
  have positive : 0 < bufferSize := by decide
  have nothing (sink : Sink) : sink.admits [] = [] := List.prefix_nil.1 (sink.admits_prefix [])
  fun_induction copy total source sink with
  | case1 total source sink b bs rest answered _ _ middle run ih =>
      rcases Sink.writeAll_flush_spec (b :: bs) sink with
        ⟨through, after, grown, flushed⟩ | ⟨stuck, after, grown, failed⟩
      · cases flushes : sink.flushFault with
        | none =>
            rw [flushed, flushes] at run
            cases run
            exact .after_piece answered (List.cons_ne_nil b bs) through flushes grown ih
        | some e =>
            rw [flushed, flushes] at run
            cases run
      · rw [failed] at run
        cases run
  | case2 total source sink b bs rest answered _ e after run =>
      have read : source.Pieces bufferSize [b :: bs] rest := .next answered .none
      rcases Sink.writeAll_flush_spec (b :: bs) sink with
        ⟨through, after', grown, flushed⟩ | ⟨stuck, after', grown, failed⟩
      · cases flushes : sink.flushFault with
        | none =>
            rw [flushed, flushes] at run
            cases run
        | some e' =>
            rw [flushed, flushes] at run
            cases run
            exact .unflushed read through flushes grown
      · rw [failed] at run
        cases run
        have torn : source.Pieces bufferSize ([] ++ [b :: bs]) rest := read
        exact .stuck torn (nothing sink) (absurd rfl) stuck grown
  | case3 total source sink e rest answered =>
      exact .cut (.of_fault answered) (nothing sink) (absurd rfl) (.refl sink)
  | case4 total source sink rest answered _ after run =>
      have clean : sink.shutdownFault = none := by rw [sink.shutdownFault_eq, run]
      have shut : after = stateOf (Sink.shutdown sink) := by rw [run, stateOf]
      rw [← clean]
      exact .ended (.of_finished answered) (nothing sink) (absurd rfl) (.refl sink) shut
  | case5 total source sink rest answered e after run =>
      have fault : sink.shutdownFault = some e := by rw [sink.shutdownFault_eq, run]
      have shut : after = stateOf (Sink.shutdown sink) := by rw [run, stateOf]
      rw [← fault]
      exact .ended (.of_finished answered) (nothing sink) (absurd rfl) (.refl sink) shut
  -- a read that asks for some bytes never answers none
  | case6 total source sink rest answered _ after run =>
      exact absurd ((Source.unread_read answered).2.2 positive) (Nat.lt_irrefl 0)
  | case7 total source sink rest answered e after run =>
      exact absurd ((Source.unread_read answered).2.2 positive) (Nat.lt_irrefl 0)

namespace Copies

variable {source last : Source} {sink : Sink} {result : Copied × Source × Sink}
  {pieces : List Bytes} {ending : Answer}

/-- Where everything gets through and is flushed, everything is copied, and the sink is shut down
behind it if the source has ended. -/
theorem whole (copies : Copies 0 source sink result)
    (readOut : source.ReadOut bufferSize pieces ending last)
    (through : sink.admits source.delivered = source.delivered)
    (flushes : sink.flushFault = none) :
    result.2.1 = last ∧ result.1.total = source.delivered.length ∧
      sink.Grown source.delivered pieces.length (if ending = .finished then 1 else 0) result.2.2 ∧
      (ending = .finished → ∃ written, sink.Grown source.delivered pieces.length 0 written ∧
        result.2.2 = stateOf (Sink.shutdown written)) := by
  have positive : 0 < bufferSize := by decide
  rw [← readOut.flatten_eq positive] at through ⊢
  cases copies with
  | @ended _ _ written _ readOut' _ _ grown shut =>
      obtain ⟨rfl, rfl, rfl⟩ := readOut.unique readOut'
      subst shut
      have closed := grown.trans written.shutdown_grown
      rw [List.append_nil] at closed
      exact ⟨rfl, Nat.zero_add _, closed, fun _ => ⟨written, grown, rfl⟩⟩
  | cut readOut' _ _ grown =>
      obtain ⟨rfl, rfl, rfl⟩ := readOut.unique readOut'
      exact ⟨rfl, Nat.zero_add _, grown, nofun⟩
  | @stuck front piece _ _ reads _ _ stuck _ =>
      obtain ⟨rest, rfl, -⟩ := readOut.of_pieces reads
      have torn := Sink.admits_append_ne stuck rest.flatten
      simp only [List.flatten_append, List.flatten_singleton] at through
      exact absurd through torn
  | unflushed _ _ fault _ =>
      rw [flushes] at fault
      cases fault

/-- Where not everything gets through, the pieces that do are counted, and of the next one a front
is accepted. -/
theorem limited (copies : Copies 0 source sink result)
    (readOut : source.ReadOut bufferSize pieces ending last)
    (stuck : sink.admits source.delivered ≠ source.delivered) (flushes : sink.flushFault = none) :
    ∃ counted piece rest, pieces = counted ++ piece :: rest ∧
      counted.flatten.length ≤ (sink.admits source.delivered).length ∧
      (sink.admits source.delivered).length < counted.flatten.length + piece.length ∧
      result.1.total = counted.flatten.length ∧
      source.Pieces bufferSize (counted ++ [piece]) result.2.1 ∧
      sink.Grown (sink.admits source.delivered) counted.length 0 result.2.2 := by
  have positive : 0 < bufferSize := by decide
  rw [← readOut.flatten_eq positive] at stuck ⊢
  cases copies with
  | ended readOut' through _ _ _ =>
      obtain ⟨rfl, -, -⟩ := readOut.unique readOut'
      exact absurd through stuck
  | cut readOut' through _ _ =>
      obtain ⟨rfl, -, -⟩ := readOut.unique readOut'
      exact absurd through stuck
  | @stuck counted piece _ _ reads through _ torn grown =>
      obtain ⟨rest, rfl, -⟩ := readOut.of_pieces reads
      have accepted : sink.admits (counted ++ [piece] ++ rest).flatten =
          sink.admits (counted.flatten ++ piece) := by
        rw [List.flatten_append, List.flatten_append, List.flatten_singleton]
        exact Sink.admits_append_of_ne torn rest.flatten
      rw [accepted]
      refine ⟨counted, piece, rest, by simp, ?_, ?_, Nat.zero_add _, reads, grown⟩
      · exact (Sink.prefix_admits_append through piece).length_le
      · have front := sink.admits_prefix (counted.flatten ++ piece)
        have short := Nat.lt_of_le_of_ne front.length_le
          fun same => torn (front.eq_of_length same)
        rwa [List.length_append] at short
  | unflushed _ _ fault _ =>
      rw [flushes] at fault
      cases fault

/-- Where flushes fail, nothing is read behind the first piece, and nothing is counted. -/
theorem first_unflushed {piece : Bytes} {rest : List Bytes} {e : IoError}
    (copies : Copies 0 source sink result)
    (readOut : source.ReadOut bufferSize (piece :: rest) ending last)
    (fault : sink.flushFault = some e) (through : sink.admits piece = piece) :
    result.1.total = 0 ∧ source.Pieces bufferSize [piece] result.2.1 ∧
      sink.Grown piece 1 0 result.2.2 := by
  cases copies with
  | ended readOut' _ flushes _ _ =>
      obtain ⟨rfl, -, -⟩ := readOut.unique readOut'
      rw [flushes (List.cons_ne_nil _ _)] at fault
      cases fault
  | cut readOut' _ flushes _ =>
      obtain ⟨rfl, -, -⟩ := readOut.unique readOut'
      rw [flushes (List.cons_ne_nil _ _)] at fault
      cases fault
  | @stuck counted torn _ _ reads _ flushes stuck _ =>
      have none' : counted = [] := by
        refine Decidable.byContradiction fun some => ?_
        rw [flushes some] at fault
        cases fault
      subst none'
      obtain ⟨more, same, -⟩ := readOut.of_pieces reads
      cases same
      exact absurd through stuck
  | unflushed reads _ _ grown =>
      obtain ⟨more, same, -⟩ := readOut.of_pieces reads
      cases same
      exact ⟨rfl, reads, grown⟩

/-- What is counted was accepted, and of what was accepted all but a part of the last piece is
counted.  A direction that has read its source out has counted everything. -/
theorem total_bounds (copies : Copies 0 source sink result)
    (readOut : source.ReadOut bufferSize pieces ending last) :
    ∃ accepted, result.2.2.written = sink.written ++ accepted ∧
      result.1.total ≤ accepted.length ∧ accepted.length ≤ result.1.total + bufferSize ∧
      (result.2.1 = last → accepted.length = result.1.total) := by
  have positive : 0 < bufferSize := by decide
  cases copies with
  | @ended pieces' _ written _ _ _ _ grown shut =>
      subst shut
      have closed := (grown.trans written.shutdown_grown).written
      rw [List.append_nil] at closed
      refine ⟨pieces'.flatten, closed, ?_, ?_, fun _ => ?_⟩ <;> dsimp only <;> omega
  | @cut pieces' _ _ _ _ _ _ grown =>
      refine ⟨pieces'.flatten, grown.written, ?_, ?_, fun _ => ?_⟩ <;> dsimp only <;> omega
  | @stuck counted piece _ _ reads through _ _ grown =>
      have least := (Sink.prefix_admits_append through piece).length_le
      have most := (sink.admits_prefix (counted.flatten ++ piece)).length_le
      have one := (reads.length_bounds positive piece (by simp)).2
      rw [List.length_append] at most
      refine ⟨_, grown.written, ?_, ?_, fun same => absurd same (readOut.ne_of_pieces reads)⟩
      · dsimp only
        omega
      · dsimp only
        omega
  | @unflushed piece _ _ _ reads _ _ grown =>
      have one := (reads.length_bounds positive piece (by simp)).2
      refine ⟨piece, grown.written, Nat.zero_le _, ?_, fun same => ?_⟩
      · dsimp only
        omega
      · have first : source.Pieces bufferSize ([] ++ [piece]) _ := reads
        exact absurd same (readOut.ne_of_pieces first)

end Copies

/-- **One direction of a tunnel, read by read.**  A source is read in pieces of at most 65536 bytes
until a read brings nothing.  What the direction leaves depends on what the sink goes along with:

* all that is delivered: all of it is copied and counted, with a flush for each piece, and the sink
  is shut down once, behind the last byte, if the source has ended, and not at all if a read failed;
* only a front of it: that front is written, the pieces wholly inside it are counted, and behind the
  piece that was torn nothing is read, flushed or shut down;
* no flush: the first piece, if it gets through, is written and not counted, and is the last one.

In every case no more is counted than was accepted, and what was accepted and is not counted is at
most one piece. -/
theorem copy_piecewise (source : Source) (sink : Sink) :
    let bytes := source.delivered
    let copied := (copy 0 source sink).1
    let left := (copy 0 source sink).2.1
    let after := (copy 0 source sink).2.2
    ∃ pieces ending last, source.ReadOut bufferSize pieces ending last ∧
      pieces.flatten = bytes ∧ (∀ piece ∈ pieces, 0 < piece.length ∧ piece.length ≤ 65536) ∧
      (sink.admits bytes = bytes → sink.flushFault = none →
        left = last ∧ copied.total = bytes.length ∧
          sink.Grown bytes pieces.length (if ending = .finished then 1 else 0) after ∧
          (ending = .finished → ∃ written, sink.Grown bytes pieces.length 0 written ∧
            after = stateOf (Sink.shutdown written))) ∧
      (sink.admits bytes ≠ bytes → sink.flushFault = none →
        ∃ counted piece rest, pieces = counted ++ piece :: rest ∧
          counted.flatten.length ≤ (sink.admits bytes).length ∧
          (sink.admits bytes).length < counted.flatten.length + piece.length ∧
          copied.total = counted.flatten.length ∧
          source.Pieces bufferSize (counted ++ [piece]) left ∧
          sink.Grown (sink.admits bytes) counted.length 0 after) ∧
      (∀ e piece rest, sink.flushFault = some e → pieces = piece :: rest →
        sink.admits piece = piece → copied.total = 0 ∧ source.Pieces bufferSize [piece] left ∧
          sink.Grown piece 1 0 after) ∧
      ∃ accepted, after.written = sink.written ++ accepted ∧ copied.total ≤ accepted.length ∧
        accepted.length ≤ copied.total + 65536 ∧
        (left = last → accepted.length = copied.total) := by
  intro bytes copied left after
  have positive : 0 < bufferSize := by decide
  have copies : Copies 0 source sink (copied, left, after) := copy_copies 0 source sink
  obtain ⟨pieces, ending, last, readOut⟩ := source.exists_readOut positive
  refine ⟨pieces, ending, last, readOut, readOut.flatten_eq positive,
    readOut.length_bounds positive, copies.whole readOut, copies.limited readOut, ?_,
    copies.total_bounds readOut⟩
  rintro e piece rest fault rfl through
  exact copies.first_unflushed readOut fault through

end Tunnel

end GameGateway
