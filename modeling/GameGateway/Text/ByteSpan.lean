/-!
# Stretches of a text

A text is a list of characters, but the places in it are counted in the bytes of its UTF-8 form.
`dropBytes?` and `takeBytes?` cut a text at such a place, unless it falls inside a character;
`dropBytes?_append` and `takeBytes?_append` say that they find every place between two characters.
-/

namespace GameGateway.Text

/-- How many bytes a text takes in UTF-8. -/
def byteWidth (cs : List Char) : Nat :=
  cs.foldr (fun c width => c.utf8Size + width) 0

/-- The text behind its first `n` bytes. -/
def dropBytes? (n : Nat) (cs : List Char) : Option (List Char) :=
  match cs with
  | [] => if n = 0 then some [] else none
  | c :: cs =>
    if n = 0 then some (c :: cs)
    else if n < c.utf8Size then none
    else dropBytes? (n - c.utf8Size) cs

/-- The first `n` bytes of a text. -/
def takeBytes? (n : Nat) (cs : List Char) : Option (List Char) :=
  match cs with
  | [] => if n = 0 then some [] else none
  | c :: cs =>
    if n = 0 then some []
    else if n < c.utf8Size then none
    else (takeBytes? (n - c.utf8Size) cs).map (c :: ·)

theorem byteWidth_cons (c : Char) (cs : List Char) :
    byteWidth (c :: cs) = c.utf8Size + byteWidth cs := by
  simp [byteWidth]

theorem dropBytes?_append (front rest : List Char) :
    dropBytes? (byteWidth front) (front ++ rest) = some rest := by
  induction front with
  | nil => cases rest <;> simp [byteWidth, dropBytes?]
  | cons c front ih =>
    have positive := c.utf8Size_pos
    rw [List.cons_append, dropBytes?, byteWidth_cons, if_neg (by omega), if_neg (by omega),
      Nat.add_sub_cancel_left, ih]

theorem takeBytes?_append (front rest : List Char) :
    takeBytes? (byteWidth front) (front ++ rest) = some front := by
  induction front with
  | nil => cases rest <;> simp [byteWidth, takeBytes?]
  | cons c front ih =>
    have positive := c.utf8Size_pos
    rw [List.cons_append, takeBytes?, byteWidth_cons, if_neg (by omega), if_neg (by omega),
      Nat.add_sub_cancel_left, ih, Option.map_some]

/-- A stretch of a text. -/
structure ByteSpan where
  start : Nat
  /-- Without a width the stretch reaches to the end of the text. -/
  width : Option Nat := none
  deriving DecidableEq, Repr

namespace ByteSpan

/-- What stands in a stretch, unless it starts or ends inside a character. -/
def cut? (span : ByteSpan) (cs : List Char) : Option (List Char) :=
  match span.width with
  | none => dropBytes? span.start cs
  | some width => (dropBytes? span.start cs).bind (takeBytes? width)

end ByteSpan

end GameGateway.Text
