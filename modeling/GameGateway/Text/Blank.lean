/-!
# Blank characters

A character is blank if it has the Unicode property `White_Space`: twenty-five code points, six of
them the ASCII ones.  `trim` strips them from both ends of a text.  No-break spaces are blank;
zero-width spaces and the byte order mark are not.
-/

namespace GameGateway.Text

/-- The ranges of code points with the property `White_Space`, in ascending order. -/
def blankRanges : List (Nat × Nat) :=
  [(0x09, 0x0D), (0x20, 0x20), (0x85, 0x85), (0xA0, 0xA0), (0x1680, 0x1680), (0x2000, 0x200A),
    (0x2028, 0x2029), (0x202F, 0x202F), (0x205F, 0x205F), (0x3000, 0x3000)]

/-- Whether a character has the property `White_Space`. -/
def isBlank (c : Char) : Bool :=
  blankRanges.any fun (first, last) => first ≤ c.toNat && c.toNat ≤ last

/-- What ASCII counts as white space is blank. -/
theorem isBlank_of_isWhitespace {c : Char} (h : c.isWhitespace = true) : isBlank c = true := by
  simp only [Char.isWhitespace, Bool.or_eq_true, decide_eq_true_eq] at h
  rcases h with ((h | h) | h) | h <;> subst h <;> decide

/-- A text without the blanks at its two ends. -/
def trimChars (cs : List Char) : List Char :=
  ((cs.dropWhile isBlank).reverse.dropWhile isBlank).reverse

/-- A text without the blanks at its two ends. -/
def trim (text : String) : String :=
  String.ofList (trimChars text.toList)

example : trimChars ['\t', ' ', 'a', ' ', 'b', '\u3000'] = ['a', ' ', 'b'] := by decide
example : trimChars ['\u200B', 'a', '\uFEFF'] = ['\u200B', 'a', '\uFEFF'] := by decide
example : (blankRanges.map fun (first, last) => last - first + 1).sum = 25 := by decide

end GameGateway.Text
