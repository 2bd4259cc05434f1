import GameGateway.Session.Event
import GameGateway.Text.Alphanumeric
import GameGateway.Text.Blank
import GameGateway.Text.ByteSpan
import GameGateway.Text.Numeral
import GameGateway.Text.Split

/-!
# Event filters

Which events are reported.  A filter is a list of directives between commas.  A directive is a level
(`info`, or a number from 0 to 5), a target (`some_part`), or a target with a level
(`some_part=debug`); a target stands for every part whose name starts with it.  Behind the target,
or instead of it, square brackets may hold the name of a span and in curly brackets a field, as in
`some_part[span]=debug` and `[{field}]=debug`.  A directive with a field concerns the events that
have this field; one that names a span, or a value that the field must have, concerns spans only,
and no event stands in a span here.

Of the directives that concern an event the most specific one decides: the one with the longest
target, then one with a field, then the one whose field comes last in order, and of equals the last
one.  Without any directive only errors are reported.

Blanks around a directive are no part of its form, but its parts are cut out of the text as it
stands: behind leading blanks every part starts as many bytes too early as they take, and the last
part keeps trailing blanks.  So a directive with blanks around it seldom means what it seems to.
-/

namespace GameGateway

/-- One directive of a filter. -/
structure FilterDirective where
  /-- What the names of the concerned parts start with; without it, every part is concerned. -/
  target : Option String
  /-- A field that the concerned events have. -/
  field : Option String
  /-- The highest verbosity that is reported; zero reports nothing. -/
  verbosity : Nat
  /-- Whether the directive concerns spans only. -/
  spansOnly : Bool := false
  deriving DecidableEq, Repr

/-- Why a directive cannot be read. -/
inductive FilterError
  | invalidDirective
  | invalidLevel
  deriving DecidableEq, Repr

def FilterError.message : FilterError → String
  | invalidDirective => "invalid filter directive"
  | invalidLevel =>
    "error parsing level filter: expected one of \"off\", \"error\", \"warn\", \"info\", " ++
      "\"debug\", \"trace\", or a number 0-5"

namespace FilterDirective

/-- The verbosity that a word stands for, in any letter case. -/
def verbosity? (word : List Char) : Option Nat :=
  match Numeral.parse Numeral.maxWord64 word with
  | .ok n => if n ≤ 5 then some n else none
  | .error _ =>
    ["off", "error", "warn", "info", "debug", "trace"].findIdx?
      (· == (String.ofList word).toLower)

/-! ### The form of a directive -/

/-- Where the parts of a directive stand, in bytes from its first character that is not blank. -/
inductive Outline
  /-- The whole directive is a level, or else a target. -/
  | word
  | parts (target span field level : Option Text.ByteSpan)
  deriving DecidableEq, Repr

/-- What a directive may start with, other than a bracket. -/
def startsTarget (c : Char) : Bool :=
  c == '-' || c == ':' || c == '_' || Text.isAlphanumeric c

/-- What stands behind the brackets, at `place`: nothing, or an equality sign and a level. -/
def levelSpan? (place : Nat) : List Char → Option (Option Text.ByteSpan)
  | [] => some none
  | '=' :: _ => some (some { start := place + 1 })
  | _ => none

/-- A field, which stands at `place` behind a curly bracket, and the level behind it. -/
def fieldSpan? (place : Nat) (cs : List Char) :
    Option (Text.ByteSpan × Option Text.ByteSpan) :=
  match Text.splitFirst '\x7d' cs with
  | some (c :: field, ']' :: rest) =>
    let width := Text.byteWidth (c :: field)
    (levelSpan? (place + width + 2) rest).map (⟨place, some width⟩, ·)
  | _ => none

/-- What stands at `place` behind a square bracket.  The name of a span may be left out only in
front of a field. -/
def bracketOutline? (target : Option Text.ByteSpan) (place : Nat) (cs : List Char) :
    Option Outline :=
  let ends (c : Char) : Bool := c == ']' || c == '\x7b'
  let width := Text.byteWidth (cs.takeWhile fun c => !ends c)
  match cs.dropWhile fun c => !ends c with
  | ']' :: rest =>
    (levelSpan? (place + width + 1) rest).map (.parts target (some ⟨place, some width⟩) none)
  | _ :: rest =>
    (fieldSpan? (place + width + 1) rest).map fun (field, level) =>
      .parts target (if width = 0 then none else some ⟨place, some width⟩) (some field) level
  | [] => none

/-- The form of a directive without the blanks around it, if it has one. -/
def outline? (cs : List Char) : Option Outline :=
  let ends (c : Char) : Bool := c == '=' || c == '['
  let width := Text.byteWidth (cs.takeWhile fun c => !ends c)
  let target : Text.ByteSpan := ⟨0, some width⟩
  match cs with
  | [] => none
  | '[' :: rest => bracketOutline? none 1 rest
  | c :: _ =>
    if !startsTarget c then none
    else
      match cs.dropWhile fun c => !ends c with
      | [] => some .word
      | '=' :: _ => some (.parts (some target) none none (some { start := width + 1 }))
      | _ :: rest => bracketOutline? (some target) (width + 1) rest

example : outline? "a=b".toList = some (.parts (some ⟨0, some 1⟩) none none (some ⟨2, none⟩)) := by
  decide +kernel
example : outline? "a[b]c".toList = none := by decide +kernel

/-! ### Reading a directive -/

/-- The text of a part, if the directive has that part. -/
def cutPart (cs : List Char) : Option Text.ByteSpan → Except FilterError (Option (List Char))
  | none => .ok none
  | some span =>
    match span.cut? cs with
    | some part => .ok (some part)
    | none => .error .invalidDirective

/-- The verbosity that a level stands for.  Without a level everything is reported. -/
def readLevel : Option (List Char) → Except FilterError Nat
  | none | some [] => .ok Level.trace.verbosity
  | some level =>
    match verbosity? level with
    | some n => .ok n
    | none => .error .invalidLevel

/-- Reads a directive, with the blanks around it. -/
def parse (cs : List Char) : Except FilterError FilterDirective :=
  match outline? (Text.trimChars cs) with
  | none => .error .invalidDirective
  | some .word =>
    match verbosity? cs with
    | some n => .ok ⟨none, none, n, false⟩
    | none => .ok ⟨some (String.ofList cs), none, Level.trace.verbosity, false⟩
  | some (.parts target span field level) => do
    let target ← cutPart cs target
    let field ← cutPart cs field
    let verbosity ← readLevel (← cutPart cs level)
    let (name, hasValue) := match field with
      | none => (none, false)
      | some field =>
        match Text.splitFirst '=' field with
        | none => (some (String.ofList field), false)
        | some (name, _) => (some (String.ofList name), true)
    return ⟨target.map String.ofList, name, verbosity, span.isSome || hasValue⟩

/-! ### What a directive concerns -/

/-- Whether a directive concerns an event. -/
def concerns (directive : FilterDirective) (event : Event) : Bool :=
  !directive.spansOnly
    && (directive.target.all fun target => target.toList.isPrefixOf event.target.toList)
    && directive.field.all event.fieldNames.contains

/-- Whether a directive is at most as specific as another one that concerns the same event. -/
def yieldsTo (directive other : FilterDirective) : Bool :=
  let weight (d : FilterDirective) : Nat :=
    match d.target with
    | none => 0
    | some target => target.utf8ByteSize + 1
  if weight directive = weight other then
    match directive.field, other.field with
    | none, _ => true
    | some _, none => false
    | some field, some otherField => decide (field ≤ otherField)
  else decide (weight directive < weight other)

end FilterDirective

/-- A filter for events. -/
structure EventFilter where
  directives : List FilterDirective
  deriving DecidableEq, Repr

namespace EventFilter

/-- The directives of a filter, each as it stands there. -/
def parts (text : String) : List (List Char) :=
  (Text.splitAll ',' text.toList).filter fun part => !part.isEmpty

/-- Reads a filter in which every directive has to be sound. -/
def parse? (text : String) : Option EventFilter :=
  match (parts text).mapM FilterDirective.parse with
  | .ok directives => some ⟨directives⟩
  | .error _ => none

/-- Reads a filter, leaving out the directives that are not sound; answers a complaint for each. -/
def parseLenient (text : String) : EventFilter × List String :=
  let outcomes := (parts text).map fun part => (part, FilterDirective.parse part)
  (⟨outcomes.filterMap fun (_, outcome) => outcome.toOption⟩,
    outcomes.filterMap fun (part, outcome) =>
      match outcome with
      | .ok _ => none
      | .error e => some s!"ignoring \x60{String.ofList part}\x60: {e.message}")

/-- The directive that decides about an event. -/
def deciding (filter : EventFilter) (event : Event) : Option FilterDirective :=
  (filter.directives.filter (·.concerns event)).foldl
    (fun best directive =>
      match best with
      | none => some directive
      | some other => if other.yieldsTo directive then some directive else some other)
    none

/-- The highest verbosity that is reported of events like this one. -/
def verbosity (filter : EventFilter) (event : Event) : Nat :=
  if filter.directives.isEmpty then Level.error.verbosity
  else ((filter.deciding event).map FilterDirective.verbosity).getD 0

/-- Whether an event is reported. -/
def allows (filter : EventFilter) (event : Event) : Bool :=
  event.level.verbosity ≤ filter.verbosity event

end EventFilter

end GameGateway
