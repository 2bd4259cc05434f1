import GameGateway.Text.Numeral

/-!
# The grammar of numerals

A numeral is digits, perhaps behind a plus sign (`Numeral.Spells`).  A digit is one of ten characters
and counts as its place among them (`Numeral.decimal`).  A numeral is read if the number it spells is
within the limit (`Numeral.parse_eq_ok_iff`).  Everything else is refused for what is met first from
the left: a character that is no digit, or a digit that takes the number above the limit
(`Numeral.Refuses`, `Numeral.parse_eq_error_iff`).
-/

namespace GameGateway.Numeral

/-- The digits, each in the place that it counts. -/
def decimal : List Char :=
  ['0', '1', '2', '3', '4', '5', '6', '7', '8', '9']

/-- The number that digits spell behind a part of value `n`. -/
def valueFrom (n : Nat) (digits : List Char) : Nat :=
  digits.foldl (fun n c => 10 * n + decimal.idxOf c) n

/-- Whether all characters are digits. -/
def Digits (cs : List Char) : Prop :=
  ∀ c ∈ cs, c ∈ decimal

/-- A text, and what it is without one plus sign in front. -/
inductive Unsigned : List Char → List Char → Prop
  | plus (cs : List Char) : Unsigned ('+' :: cs) cs
  | bare {cs : List Char} : cs.head? ≠ some '+' → Unsigned cs cs

/-- A text that is the numeral of a number. -/
def Spells (cs : List Char) (n : Nat) : Prop :=
  ∃ digits, Unsigned cs digits ∧ digits ≠ [] ∧ Digits digits ∧ valueFrom 0 digits = n

/-- Where reading digits behind a part of value `n` stops, and why. -/
inductive Stops (limit n : Nat) : List Char → NumeralError → Prop
  | invalidDigit (digits : List Char) {behind : List Char} {c : Char} :
    Digits digits → valueFrom n digits ≤ limit → c ∉ decimal →
    Stops limit n (digits ++ c :: behind) .invalidDigit
  | tooLarge (digits : List Char) {behind : List Char} {c : Char} :
    Digits digits → valueFrom n digits ≤ limit → c ∈ decimal →
    limit < valueFrom n (digits ++ [c]) →
    Stops limit n (digits ++ c :: behind) .tooLarge

/-- A text that is no numeral of a number within the limit, and why. -/
inductive Refuses (limit : Nat) : List Char → NumeralError → Prop
  | empty : Refuses limit [] .empty
  | sign : Refuses limit ['+'] .invalidDigit
  | stops {cs digits : List Char} {cause : NumeralError} :
    Unsigned cs digits → Stops limit 0 digits cause → Refuses limit cs cause

/-! ## One digit -/

section Digit

variable {c : Char}

/-- A character that is read as a digit has the code of one. -/
theorem exists_place (digit : c.isDigit = true) : ∃ n < 10, c = Char.ofNat (48 + n) := by
  have code : 48 ≤ c.toNat ∧ c.toNat ≤ 57 := Char.isDigit_iff_toNat.mp digit
  refine ⟨c.toNat - 48, by omega, ?_⟩
  rw [Nat.add_sub_cancel' code.1, Char.ofNat_toNat]

theorem isDigit_iff_mem_decimal : c.isDigit = true ↔ c ∈ decimal := by
  have read : decimal.all Char.isDigit = true := by decide
  have listed : ∀ n < 10, Char.ofNat (48 + n) ∈ decimal := by decide
  constructor
  · intro digit
    obtain ⟨n, few, rfl⟩ := exists_place digit
    exact listed n few
  · exact List.all_eq_true.mp read c

/-- A digit is read as what it counts. -/
theorem digitValue_eq_idxOf (digit : c ∈ decimal) : digitValue c = decimal.idxOf c := by
  have counted : decimal.all (fun c => digitValue c == decimal.idxOf c) = true := by decide
  exact eq_of_beq (List.all_eq_true.mp counted c digit)

/-- A digit that keeps the number within the limit is read on from. -/
theorem readDigits_digit {limit n : Nat} (digit : c ∈ decimal)
    (within : 10 * n + decimal.idxOf c ≤ limit) (cs : List Char) :
    readDigits limit n (c :: cs) = readDigits limit (10 * n + decimal.idxOf c) cs := by
  rw [readDigits, isDigit_iff_mem_decimal.mpr digit, digitValue_eq_idxOf digit,
    if_neg (by simp), if_neg (Nat.not_lt.mpr within)]

theorem readDigits_above {limit n : Nat} (digit : c ∈ decimal)
    (above : limit < 10 * n + decimal.idxOf c) (cs : List Char) :
    readDigits limit n (c :: cs) = .error .tooLarge := by
  rw [readDigits, isDigit_iff_mem_decimal.mpr digit, digitValue_eq_idxOf digit,
    if_neg (by simp), if_pos above]

theorem readDigits_other (limit n : Nat) (other : c ∉ decimal) (cs : List Char) :
    readDigits limit n (c :: cs) = .error .invalidDigit := by
  have unread : c.isDigit = false :=
    Bool.eq_false_iff.mpr fun digit => other (isDigit_iff_mem_decimal.mp digit)
  rw [readDigits, unread]
  rfl

end Digit

/-! ## Digits -/

theorem digits_cons {c : Char} {cs : List Char} :
    Digits (c :: cs) ↔ c ∈ decimal ∧ Digits cs := by
  unfold Digits
  exact List.forall_mem_cons

theorem valueFrom_cons (n : Nat) (c : Char) (cs : List Char) :
    valueFrom n (c :: cs) = valueFrom (10 * n + decimal.idxOf c) cs := by
  rw [valueFrom, List.foldl_cons, valueFrom]

theorem valueFrom_append_singleton (n : Nat) (cs : List Char) (c : Char) :
    valueFrom n (cs ++ [c]) = 10 * valueFrom n cs + decimal.idxOf c := by
  rw [valueFrom, List.foldl_append]
  rfl

theorem le_valueFrom (n : Nat) (cs : List Char) : n ≤ valueFrom n cs := by
  induction cs generalizing n with
  | nil => exact Nat.le_refl n
  | cons c cs ih =>
      rw [valueFrom_cons]
      have more := ih (10 * n + decimal.idxOf c)
      omega

/-- A first digit that keeps the number within the limit leaves it to the others where reading
stops. -/
theorem Stops.cons {limit n : Nat} {c : Char} {cs : List Char} {cause : NumeralError}
    (digit : c ∈ decimal) (stops : Stops limit (10 * n + decimal.idxOf c) cs cause) :
    Stops limit n (c :: cs) cause := by
  cases stops with
  | invalidDigit front digits within other =>
      exact .invalidDigit (c :: front) (digits_cons.mpr ⟨digit, digits⟩) within other
  | tooLarge front digits within last above =>
      exact .tooLarge (c :: front) (digits_cons.mpr ⟨digit, digits⟩) within last above

theorem readDigits_of_digits {limit n : Nat} {cs : List Char} (digits : Digits cs)
    (within : valueFrom n cs ≤ limit) : readDigits limit n cs = .ok (valueFrom n cs) := by
  induction cs generalizing n with
  | nil => rfl
  | cons c cs ih =>
      obtain ⟨digit, digits⟩ := digits_cons.mp digits
      rw [valueFrom_cons] at within ⊢
      have below := Nat.le_trans (le_valueFrom _ cs) within
      rw [readDigits_digit digit below, ih digits within]

theorem readDigits_of_stops {limit n : Nat} {cs : List Char} {cause : NumeralError}
    (stops : Stops limit n cs cause) : readDigits limit n cs = .error cause := by
  -- the induction is on the digits that are read before
  have front : ∀ (digits rest : List Char) (n : Nat), Digits digits → valueFrom n digits ≤ limit →
      readDigits limit n (digits ++ rest) = readDigits limit (valueFrom n digits) rest := by
    intro digits rest
    induction digits with
    | nil => exact fun _ _ _ => rfl
    | cons c digits ih =>
        intro n all within
        obtain ⟨digit, all⟩ := digits_cons.mp all
        rw [valueFrom_cons] at within ⊢
        have below := Nat.le_trans (le_valueFrom _ digits) within
        rw [List.cons_append, readDigits_digit digit below, ih _ all within]
  cases stops with
  | invalidDigit _ digits within other =>
      rw [front _ _ _ digits within, readDigits_other limit _ other]
  | tooLarge _ digits within last above =>
      rw [valueFrom_append_singleton] at above
      rw [front _ _ _ digits within, readDigits_above last above]

theorem Stops.ne_nil {limit n : Nat} {cs : List Char} {cause : NumeralError}
    (stops : Stops limit n cs cause) : cs ≠ [] := by
  cases stops with
  | invalidDigit => exact List.append_ne_nil_of_right_ne_nil _ (List.cons_ne_nil _ _)
  | tooLarge => exact List.append_ne_nil_of_right_ne_nil _ (List.cons_ne_nil _ _)

/-- Digits are all read, or reading stops at one of them. -/
theorem digits_or_stops {limit n : Nat} (cs : List Char) (within : n ≤ limit) :
    (Digits cs ∧ valueFrom n cs ≤ limit) ∨ ∃ cause, Stops limit n cs cause := by
  induction cs generalizing n with
  | nil => exact .inl ⟨nofun, within⟩
  | cons c cs ih =>
      by_cases digit : c ∈ decimal
      · by_cases above : limit < 10 * n + decimal.idxOf c
        · exact .inr ⟨_, .tooLarge [] nofun within digit above⟩
        · rcases ih (Nat.not_lt.mp above) with ⟨digits, within⟩ | ⟨cause, stops⟩
          · exact .inl ⟨digits_cons.mpr ⟨digit, digits⟩, within⟩
          · exact .inr ⟨cause, stops.cons digit⟩
      · exact .inr ⟨_, .invalidDigit [] nofun within digit⟩

/-! ## Numerals -/

theorem exists_unsigned (cs : List Char) : ∃ digits, Unsigned cs digits := by
  by_cases signed : cs.head? = some '+'
  · obtain ⟨digits, rfl⟩ := List.head?_eq_some_iff.mp signed
    exact ⟨digits, .plus digits⟩
  · exact ⟨cs, .bare signed⟩

/-- Reading is reading the digits behind the sign. -/
theorem parse_of_unsigned {cs digits : List Char} (unsigned : Unsigned cs digits)
    (some : digits ≠ []) (limit : Nat) : parse limit cs = readDigits limit 0 digits := by
  cases unsigned with
  | plus =>
      obtain ⟨c, rest, rfl⟩ := List.exists_cons_of_ne_nil some
      rfl
  | bare bare =>
      obtain ⟨c, rest, rfl⟩ := List.exists_cons_of_ne_nil some
      have other : c ≠ '+' := fun same => bare (congrArg Option.some same)
      unfold parse
      split
      · cases ‹c :: rest = []›
      · exact absurd (List.cons.inj ‹c :: rest = ['+']›).1 other
      · exact absurd (List.cons.inj ‹c :: rest = '+' :: _›).1 other
      · rfl

/-- Every text is a numeral of a number within the limit, or is refused for some cause. -/
theorem spells_or_refuses (limit : Nat) (cs : List Char) :
    (∃ n, Spells cs n ∧ n ≤ limit) ∨ ∃ cause, Refuses limit cs cause := by
  obtain ⟨digits, unsigned⟩ := exists_unsigned cs
  rcases digits_or_stops digits (Nat.zero_le limit) with ⟨all, within⟩ | ⟨cause, stops⟩
  · by_cases some : digits = []
    · subst some
      cases unsigned with
      | plus => exact .inr ⟨_, .sign⟩
      | bare => exact .inr ⟨_, .empty⟩
    · exact .inl ⟨_, ⟨digits, unsigned, some, all, rfl⟩, within⟩
  · exact .inr ⟨cause, .stops unsigned stops⟩

theorem parse_of_spells {limit n : Nat} {cs : List Char} (spells : Spells cs n)
    (within : n ≤ limit) : parse limit cs = .ok n := by
  obtain ⟨digits, unsigned, some, all, rfl⟩ := spells
  rw [parse_of_unsigned unsigned some, readDigits_of_digits all within]

theorem parse_of_refuses {limit : Nat} {cs : List Char} {cause : NumeralError}
    (refuses : Refuses limit cs cause) : parse limit cs = .error cause := by
  cases refuses with
  | empty => rfl
  | sign => rfl
  | stops unsigned stops =>
      rw [parse_of_unsigned unsigned stops.ne_nil, readDigits_of_stops stops]

/-- **A text is read as a number just where it is a numeral of it within the limit.** -/
theorem parse_eq_ok_iff {limit n : Nat} {cs : List Char} :
    parse limit cs = .ok n ↔ Spells cs n ∧ n ≤ limit := by
  constructor
  · intro read
    rcases spells_or_refuses limit cs with ⟨m, spells, within⟩ | ⟨cause, refuses⟩
    · rw [parse_of_spells spells within] at read
      cases read
      exact ⟨spells, within⟩
    · rw [parse_of_refuses refuses] at read
      cases read
  · rintro ⟨spells, within⟩
    exact parse_of_spells spells within

/-- **and is refused for a cause just where that is met first.** -/
theorem parse_eq_error_iff {limit : Nat} {cs : List Char} {cause : NumeralError} :
    parse limit cs = .error cause ↔ Refuses limit cs cause := by
  constructor
  · intro failed
    rcases spells_or_refuses limit cs with ⟨m, spells, within⟩ | ⟨cause', refuses⟩
    · rw [parse_of_spells spells within] at failed
      cases failed
    · rw [parse_of_refuses refuses] at failed
      cases failed
      exact refuses
  · exact parse_of_refuses

end GameGateway.Numeral
