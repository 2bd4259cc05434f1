import GameGateway.Text.Blank
import GameGateway.Text.Split

/-!
# Texts between blanks

`Trims` says what a text is without the blanks around it, and trimming finds just that
(`trimChars_eq_iff`).  Where a text is cut at a character that is no blank, it does not matter for
the two parts whether the text was trimmed before (`exists_trimChars_append_cons`).

Parts that were joined by a separator that none of them holds are found again by cutting at it
(`splitAll_intercalate`).
-/

namespace GameGateway.Text

/-- A text of blanks only. -/
def Blank (cs : List Char) : Prop :=
  ∀ c ∈ cs, isBlank c = true

instance (cs : List Char) : Decidable (Blank cs) :=
  inferInstanceAs (Decidable (∀ c ∈ cs, isBlank c = true))

/-- A text that neither starts nor ends with a blank. -/
structure Trimmed (cs : List Char) : Prop where
  head : ∀ c, cs.head? = some c → isBlank c = false
  last : ∀ c, cs.getLast? = some c → isBlank c = false

/-- What a text is without the blanks around it. -/
def Trims (cs inner : List Char) : Prop :=
  ∃ front behind, cs = front ++ (inner ++ behind) ∧ Blank front ∧ Blank behind ∧ Trimmed inner

theorem blank_append {front behind : List Char} (first : Blank front) (second : Blank behind) :
    Blank (front ++ behind) :=
  fun c member => (List.mem_append.mp member).elim (first c) (second c)

theorem blank_reverse {cs : List Char} (blank : Blank cs) : Blank cs.reverse :=
  fun c member => blank c (List.mem_reverse.mp member)

theorem not_mem_of_blank {cs : List Char} {c : Char} (blank : Blank cs)
    (solid : isBlank c = false) : c ∉ cs := by
  intro member
  rw [blank c member] at solid
  cases solid

theorem trimmed_nil : Trimmed [] :=
  ⟨nofun, nofun⟩

theorem trimmed_reverse {cs : List Char} (trimmed : Trimmed cs) : Trimmed cs.reverse where
  head c first := trimmed.last c (by rwa [List.head?_reverse] at first)
  last c final := trimmed.head c (by rwa [List.getLast?_reverse] at final)

/-! ## Trimming -/

/-- Blanks in front of what does not start with one are dropped. -/
theorem dropWhile_blank_append {front cs : List Char} (blank : Blank front)
    (solid : ∀ c, cs.head? = some c → isBlank c = false) :
    (front ++ cs).dropWhile isBlank = cs := by
  rw [List.dropWhile_append_of_pos blank]
  cases cs with
  | nil => rfl
  | cons c cs => exact List.dropWhile_cons_of_neg (by simp [solid c rfl])

theorem dropWhile_blank {cs : List Char} (blank : Blank cs) : cs.dropWhile isBlank = [] := by
  have dropped : (cs ++ []).dropWhile isBlank = [] := dropWhile_blank_append blank nofun
  rwa [List.append_nil] at dropped

theorem trimChars_of_trims {cs inner : List Char} (trims : Trims cs inner) :
    trimChars cs = inner := by
  obtain ⟨front, behind, rfl, blank, blank', trimmed⟩ := trims
  unfold trimChars
  cases inner with
  | nil =>
      rw [List.nil_append, dropWhile_blank (blank_append blank blank')]
      rfl
  | cons c inner =>
      have first : (front ++ (c :: inner ++ behind)).dropWhile isBlank = c :: inner ++ behind :=
        dropWhile_blank_append blank trimmed.head
      rw [first, List.reverse_append,
        dropWhile_blank_append (blank_reverse blank') (trimmed_reverse trimmed).head,
        List.reverse_reverse]

/-- A text from its first character on that is no blank. -/
theorem exists_blank_front (cs : List Char) :
    ∃ front rest, cs = front ++ rest ∧ Blank front ∧
      ∀ c, rest.head? = some c → isBlank c = false := by
  refine ⟨cs.takeWhile isBlank, cs.dropWhile isBlank, List.takeWhile_append_dropWhile.symm,
    List.all_eq_true.mp List.all_takeWhile, fun c first => ?_⟩
  have solid := List.head?_dropWhile_not isBlank cs
  rw [first] at solid
  exact solid

/-- A text up to its last character that is no blank. -/
theorem exists_blank_behind (cs : List Char) :
    ∃ rest behind, cs = rest ++ behind ∧ Blank behind ∧
      ∀ c, rest.getLast? = some c → isBlank c = false := by
  obtain ⟨front, rest, split, blank, solid⟩ := exists_blank_front cs.reverse
  refine ⟨rest.reverse, front.reverse, ?_, blank_reverse blank, fun c final => ?_⟩
  · have reversed := congrArg List.reverse split
    rwa [List.reverse_reverse, List.reverse_append] at reversed
  · exact solid c (by rwa [List.getLast?_reverse] at final)

theorem exists_trims (cs : List Char) : ∃ inner, Trims cs inner := by
  obtain ⟨front, rest, rfl, blank, solid⟩ := exists_blank_front cs
  obtain ⟨inner, behind, rfl, blank', solid'⟩ := exists_blank_behind rest
  refine ⟨inner, front, behind, rfl, blank, blank', fun c first => solid c ?_, solid'⟩
  rw [List.head?_append, first]
  rfl

/-- **Trimming takes off the blanks around a text**, and nothing else. -/
theorem trimChars_eq_iff {cs inner : List Char} : trimChars cs = inner ↔ Trims cs inner := by
  constructor
  · rintro rfl
    obtain ⟨inner, trims⟩ := exists_trims cs
    rw [trimChars_of_trims trims]
    exact trims
  · exact trimChars_of_trims

theorem trims_trimChars (cs : List Char) : Trims cs (trimChars cs) :=
  trimChars_eq_iff.mp rfl

theorem Trims.trimmed {cs inner : List Char} (trims : Trims cs inner) : Trimmed inner := by
  obtain ⟨front, behind, -, -, -, trimmed⟩ := trims
  exact trimmed

theorem Trims.unique {cs inner inner' : List Char} (trims : Trims cs inner)
    (trims' : Trims cs inner') : inner = inner' :=
  (trimChars_of_trims trims).symm.trans (trimChars_of_trims trims')

theorem Trims.mem {cs inner : List Char} {c : Char} (trims : Trims cs inner)
    (member : c ∈ inner) : c ∈ cs := by
  obtain ⟨front, behind, rfl, -⟩ := trims
  exact List.mem_append_right front (List.mem_append_left behind member)

/-- More blanks in front are trimmed as well, -/
theorem Trims.blank_append {front cs inner : List Char} (blank : Blank front)
    (trims : Trims cs inner) : Trims (front ++ cs) inner := by
  obtain ⟨front', behind, rfl, blank', blank'', trimmed⟩ := trims
  exact ⟨front ++ front', behind, (List.append_assoc _ _ _).symm, Text.blank_append blank blank',
    blank'', trimmed⟩

/-- and so are more blanks behind. -/
theorem Trims.append_blank {cs behind inner : List Char} (trims : Trims cs inner)
    (blank : Blank behind) : Trims (cs ++ behind) inner := by
  obtain ⟨front, behind', rfl, blank', blank'', trimmed⟩ := trims
  refine ⟨front, behind' ++ behind, ?_, blank', Text.blank_append blank'' blank, trimmed⟩
  simp only [List.append_assoc]

theorem trims_nil_iff {cs : List Char} : Trims cs [] ↔ Blank cs := by
  constructor
  · rintro ⟨front, behind, rfl, blank, blank', -⟩
    exact blank_append blank blank'
  · intro blank
    exact ⟨cs, [], (List.append_nil cs).symm, blank, nofun, trimmed_nil⟩

theorem trimChars_eq_nil_iff {cs : List Char} : trimChars cs = [] ↔ Blank cs :=
  trimChars_eq_iff.trans trims_nil_iff

/-- A text that is cut at a character that is no blank: trimming it trims the front of the first
part and the end of the second one. -/
theorem exists_trimChars_append_cons {sep : Char} (solid : isBlank sep = false)
    (before behind : List Char) :
    ∃ before' behind', trimChars (before ++ sep :: behind) = before' ++ sep :: behind' ∧
      (sep ∉ before → sep ∉ before') ∧ trimChars before' = trimChars before ∧
      trimChars behind' = trimChars behind := by
  obtain ⟨front, before', rfl, blank, first⟩ := exists_blank_front before
  obtain ⟨behind', tail, rfl, blank', final⟩ := exists_blank_behind behind
  have trimmed : Trimmed (before' ++ sep :: behind') := by
    refine ⟨fun c head => ?_, fun c last => ?_⟩
    · cases before' with
      | nil =>
          cases head
          exact solid
      | cons d before' => exact first c head
    · rw [List.getLast?_append, List.getLast?_cons] at last
      cases tail' : behind'.getLast? with
      | none =>
          rw [tail'] at last
          cases last
          exact solid
      | some d =>
          rw [tail'] at last
          cases last
          exact final _ tail'
  refine ⟨before', behind', ?_, ?_, ?_, ?_⟩
  · exact trimChars_of_trims ⟨front, tail, by simp, blank, blank', trimmed⟩
  · exact fun absent member => absent (List.mem_append_right front member)
  · exact (trimChars_of_trims ((trims_trimChars before').blank_append blank)).symm
  · exact (trimChars_of_trims ((trims_trimChars behind').append_blank blank')).symm

/-! ## Parts between separators -/

theorem splitAll_of_not_mem {sep : Char} {cs : List Char} (absent : sep ∉ cs) :
    splitAll sep cs = [cs] := by
  induction cs with
  | nil => rfl
  | cons c cs ih =>
      obtain ⟨differs, absent⟩ := List.ne_and_not_mem_of_not_mem_cons absent
      have rest : (cut sep cs).1 = cs ∧ (cut sep cs).2 = [] := by
        simpa [splitAll] using ih absent
      rw [splitAll, cut_cons, if_neg (Ne.symm differs), rest.1, rest.2]

theorem splitAll_append_cons {sep : Char} {part : List Char} (absent : sep ∉ part)
    (cs : List Char) : splitAll sep (part ++ sep :: cs) = part :: splitAll sep cs := by
  induction part with
  | nil => rw [List.nil_append, splitAll, cut_cons, if_pos rfl, splitAll]
  | cons c part ih =>
      obtain ⟨differs, absent⟩ := List.ne_and_not_mem_of_not_mem_cons absent
      obtain ⟨first, others⟩ := List.cons.inj (ih absent)
      rw [List.cons_append, splitAll, cut_cons, if_neg (Ne.symm differs), first, others]

/-- Joined parts are found again. -/
theorem splitAll_intercalate {sep : Char} {parts : List (List Char)} (some : parts ≠ [])
    (absent : ∀ part ∈ parts, sep ∉ part) : splitAll sep ([sep].intercalate parts) = parts := by
  induction parts with
  | nil => exact absurd rfl some
  | cons part parts ih =>
      obtain ⟨first, others⟩ := List.forall_mem_cons.mp absent
      cases parts with
      | nil => simpa [List.intercalate] using splitAll_of_not_mem first
      | cons next parts =>
          have joined : [sep].intercalate (part :: next :: parts) =
              part ++ sep :: [sep].intercalate (next :: parts) := by
            simp [List.intercalate, List.intersperse]
          rw [joined, splitAll_append_cons first, ih (List.cons_ne_nil _ _) others]

end GameGateway.Text
