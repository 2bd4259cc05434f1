import GameGateway.Proofs.Stream.Acceptance
import GameGateway.Proofs.Stream.Feed
import GameGateway.Session.Tunnel

/-!
# What one direction of a tunnel carries

A direction takes what bare reads can get of its source, and its sink gets a front of that: all that
the sink admits, if no flush fails (`Tunnel.copy_carries`).  How the bytes were cut decides nothing.
-/

namespace GameGateway

/-- What an answer takes of the bytes that bare reads can get. -/
theorem Feed.Answers.delivered_eq {feed rest : Feed} {answer : Answer}
    (answers : Feed.Answers feed answer rest) :
    (∃ bytes, answer = .data bytes ∧ feed.delivered = bytes ++ rest.delivered) ∨
      (∀ bytes, answer ≠ .data bytes) ∧ feed.delivered = [] := by
  cases answers with
  | @data bytes _ some =>
      refine .inl ⟨bytes, rfl, ?_⟩
      clear some
      induction bytes with
      | nil => rfl
      | cons b bytes ih => simpa [delivered] using ih
  | fault => exact .inr ⟨by simp, rfl⟩
  | finish => exact .inr ⟨by simp, rfl⟩
  | dry => exact .inr ⟨by simp, rfl⟩

namespace Tunnel

theorem delivered_of_read_data {limit : Nat} {source rest : Source} {bytes : Bytes}
    (positive : 0 < limit) (answered : source.read limit = (.data bytes, rest)) :
    source.delivered = bytes ++ rest.delivered := by
  rw [← source.delivered_feed, ← rest.delivered_feed]
  rcases (Source.read_answers positive answered).delivered_eq with ⟨_, same, split⟩ | ⟨other, -⟩
  · cases same
    exact split
  · exact absurd rfl (other bytes)

theorem delivered_of_read_other {limit : Nat} {source rest : Source} {answer : Answer}
    (positive : 0 < limit) (answered : source.read limit = (answer, rest))
    (other : ∀ bytes, answer ≠ .data bytes) : source.delivered = [] := by
  rw [← source.delivered_feed]
  rcases (Source.read_answers positive answered).delivered_eq with ⟨bytes, same, -⟩ | ⟨-, nothing⟩
  · exact absurd same (other bytes)
  · exact nothing

/-- **A direction carries what its source delivers.** -/
theorem copy_carries (total : Nat) (source : Source) (sink : Sink) :
    Sink.Carried source.delivered sink (copy total source sink).2.2 := by
  have positive : 0 < bufferSize := by decide
  fun_induction copy total source sink with
  | case1 total source sink b bs rest answered _ _ middle run ih =>
      have chunk := Sink.writeAll_flush_carried (b :: bs) rest.delivered sink
      rw [run] at chunk
      rw [delivered_of_read_data positive answered]
      exact chunk _ ih
  | case2 total source sink b bs rest answered _ e after run =>
      have chunk := Sink.writeAll_flush_carried (b :: bs) rest.delivered sink
      rw [run] at chunk
      rw [delivered_of_read_data positive answered]
      exact chunk
  | case3 total source sink e rest answered =>
      rw [delivered_of_read_other positive answered (by simp)]
      exact .nothing (.refl sink)
  | case4 total source sink rest answered _ after run =>
      have shut := sink.shutdown_carried
      rw [run] at shut
      rw [delivered_of_read_other positive answered (by simp)]
      exact shut
  | case5 total source sink rest answered e after run =>
      have shut := sink.shutdown_carried
      rw [run] at shut
      rw [delivered_of_read_other positive answered (by simp)]
      exact shut
  -- a read that asks for some bytes never answers none
  | case6 total source sink rest answered _ after run =>
      exact absurd ((Source.unread_read answered).2.2 positive) (Nat.lt_irrefl 0)
  | case7 total source sink rest answered e after run =>
      exact absurd ((Source.unread_read answered).2.2 positive) (Nat.lt_irrefl 0)

end Tunnel

end GameGateway
