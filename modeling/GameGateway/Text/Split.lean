/-!
# Cutting a text at a separator

`splitAll` cuts at every occurrence of a separator, `splitFirst` at the first one and `splitLast` at
the last one.  Nothing but the separators is lost: `intercalate_splitAll`, `splitFirst_eq_some` and
`splitLast_eq_some` put the parts together again.
-/

namespace GameGateway.Text

/-- The part before the first `sep`, and the parts behind it. -/
def cut (sep : Char) (cs : List Char) : List Char × List (List Char) :=
  cs.foldr (fun c (part, parts) => if c = sep then ([], part :: parts) else (c :: part, parts))
    ([], [])

/-- The parts between the occurrences of `sep`; a text without one is a single part. -/
def splitAll (sep : Char) (cs : List Char) : List (List Char) :=
  (cut sep cs).1 :: (cut sep cs).2

/-- What stands before and behind the first `sep`, if there is one. -/
def splitFirst (sep : Char) (cs : List Char) : Option (List Char × List Char) :=
  match cs.dropWhile (· != sep) with
  | [] => none
  | _ :: behind => some (cs.takeWhile (· != sep), behind)

/-- What stands before and behind the last `sep`, if there is one. -/
def splitLast (sep : Char) (cs : List Char) : Option (List Char × List Char) :=
  (splitFirst sep cs.reverse).map fun (behind, before) => (before.reverse, behind.reverse)

theorem cut_cons (sep c : Char) (cs : List Char) :
    cut sep (c :: cs) =
      if c = sep then ([], (cut sep cs).1 :: (cut sep cs).2)
      else (c :: (cut sep cs).1, (cut sep cs).2) := rfl

/-- The parts, joined by the separator, are the text. -/
theorem intercalate_splitAll (sep : Char) (cs : List Char) :
    [sep].intercalate (splitAll sep cs) = cs := by
  induction cs with
  | nil => simp [splitAll, cut]
  | cons c cs ih =>
    rw [splitAll] at ih ⊢
    rw [cut_cons]
    by_cases hc : c = sep
    · subst hc
      simpa [List.intercalate, List.intersperse] using ih
    · rw [if_neg hc]
      cases h : (cut sep cs).2 <;> rw [h] at ih <;>
        simpa [List.intercalate, List.intersperse] using ih

/-- No part holds the separator. -/
theorem not_mem_of_mem_splitAll {sep : Char} {cs part : List Char} (h : part ∈ splitAll sep cs) :
    sep ∉ part := by
  induction cs generalizing part with
  | nil =>
    simp [splitAll, cut] at h
    simp [h]
  | cons c cs ih =>
    rw [splitAll, cut_cons] at h
    by_cases hc : c = sep
    · rw [if_pos hc] at h
      rcases List.mem_cons.1 h with rfl | h
      · simp
      · exact ih h
    · rw [if_neg hc] at h
      rcases List.mem_cons.1 h with rfl | h
      · simp [Ne.symm hc, ih (List.mem_cons_self ..)]
      · exact ih (List.mem_cons_of_mem _ h)

theorem not_mem_takeWhile_bne (sep : Char) (cs : List Char) :
    sep ∉ cs.takeWhile (· != sep) := fun present => by
  simpa using List.all_eq_true.1 (List.all_takeWhile (p := (· != sep)) (l := cs)) sep present

theorem splitFirst_eq_some {sep : Char} {cs before behind : List Char} :
    splitFirst sep cs = some (before, behind) ↔ cs = before ++ sep :: behind ∧ sep ∉ before := by
  unfold splitFirst
  constructor
  · intro h
    split at h
    · contradiction
    · next c rest rest_eq =>
      cases h
      have head := List.head?_dropWhile_not (· != sep) cs
      have whole := List.takeWhile_append_dropWhile (p := (· != sep)) (l := cs)
      simp only [rest_eq, List.head?_cons, bne_eq_false_iff_eq] at head whole
      subst head
      exact ⟨whole.symm, not_mem_takeWhile_bne _ cs⟩
  · rintro ⟨rfl, absent⟩
    have passed : ∀ c ∈ before, (c != sep) = true := fun c hc => by
      simpa using fun same : c = sep => absent (same ▸ hc)
    simp [List.takeWhile_append_of_pos passed, List.dropWhile_append_of_pos passed]

theorem splitFirst_eq_none {sep : Char} {cs : List Char} :
    splitFirst sep cs = none ↔ sep ∉ cs := by
  constructor
  · intro h
    have whole := List.takeWhile_append_dropWhile (p := (· != sep)) (l := cs)
    unfold splitFirst at h
    split at h
    · next rest_eq =>
      rw [rest_eq, List.append_nil] at whole
      exact whole ▸ not_mem_takeWhile_bne sep cs
    · contradiction
  · intro absent
    cases h : splitFirst sep cs with
    | none => rfl
    | some parts => exact absurd (by simp [(splitFirst_eq_some.1 h).1]) absent

theorem splitLast_eq_none {sep : Char} {cs : List Char} :
    splitLast sep cs = none ↔ sep ∉ cs := by
  simp [splitLast, splitFirst_eq_none]

theorem splitLast_eq_some {sep : Char} {cs before behind : List Char} :
    splitLast sep cs = some (before, behind) ↔ cs = before ++ sep :: behind ∧ sep ∉ behind := by
  simp only [splitLast, Option.map_eq_some_iff, Prod.exists, Prod.mk.injEq, splitFirst_eq_some]
  constructor
  · rintro ⟨behind', before', ⟨whole, absent⟩, rfl, rfl⟩
    refine ⟨?_, by simpa using absent⟩
    have reversed := congrArg List.reverse whole
    simpa using reversed
  · rintro ⟨whole, absent⟩
    exact ⟨behind.reverse, before.reverse, ⟨by simp [whole], by simpa using absent⟩, by simp,
      by simp⟩

end GameGateway.Text
