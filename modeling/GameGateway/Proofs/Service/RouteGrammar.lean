import GameGateway.Proofs.Text.Numerals
import GameGateway.Proofs.Text.Trimming
import GameGateway.Service.Config

/-!
# The grammar of route lists

A part between commas is blank, or assigns a backend to an address (`Route.Assigns`), or is blamed
(`Route.Blames`).  Both are said of the part as it stands there: the address is what stands in front
of the first equality sign and the backend what stands behind it, both without the blanks around
them, and the backend is of the form `host:port`.

A list is read as the assignments of its parts, in their order (`Route.Reads`,
`Route.parseList_eq_ok_iff`), and otherwise refused for its first part that is blamed, or because
all parts are blank (`Route.parseList_eq_error_iff`).

Writing a list of routes puts any blanks around addresses and backends, and any blank parts between
(`Route.Item`, `Route.write`).  A text is read as some routes just where it is a way to write them
(`Route.parseList_eq_ok_iff_write`).
-/

namespace GameGateway

open Text

namespace Route

/-! ## Backends -/

/-- A text `host:port`: behind its last colon stands the numeral of a port, and in front of that
something. -/
def IsHostPort (value : List Char) : Prop :=
  ∃ host port n, value = host ++ ':' :: port ∧ host ≠ [] ∧ ':' ∉ port ∧
    Numeral.Spells port n ∧ n ≤ 65535

/-- A text that is no `host:port`, and why. -/
inductive Misses : List Char → BackendAddressError → Prop
  | port {value : List Char} : ':' ∉ value → Misses value (.missingPort (String.ofList value))
  | host {port : List Char} : ':' ∉ port →
    Misses (':' :: port) (.missingHost (String.ofList (':' :: port)))
  | numeral {host port : List Char} {cause : NumeralError} : host ≠ [] → ':' ∉ port →
    Numeral.Refuses 65535 port cause →
    Misses (host ++ ':' :: port) (.invalidPort (String.ofList (host ++ ':' :: port)) cause)

theorem isHostPort_or_misses (value : List Char) :
    IsHostPort value ∨ ∃ cause, Misses value cause := by
  cases split : splitLast ':' value with
  | none => exact .inr ⟨_, .port (splitLast_eq_none.mp split)⟩
  | some parts =>
      obtain ⟨host, port⟩ := parts
      obtain ⟨rfl, absent⟩ := splitLast_eq_some.mp split
      by_cases some : host = []
      · subst some
        exact .inr ⟨_, .host absent⟩
      · rcases Numeral.spells_or_refuses 65535 port with
          ⟨n, spells, within⟩ | ⟨cause, refuses⟩
        · exact .inl ⟨host, port, n, rfl, some, absent, spells, within⟩
        · exact .inr ⟨_, .numeral some absent refuses⟩

section Backend

variable {cs value : List Char}

theorem parseBackend_of_isHostPort (trims : Trims cs value) (form : IsHostPort value) :
    parseBackend cs = .ok (String.ofList value) := by
  obtain ⟨host, port, n, rfl, some, absent, spells, within⟩ := form
  obtain ⟨c, host, rfl⟩ := List.exists_cons_of_ne_nil some
  have split : splitLast ':' (c :: host ++ ':' :: port) = .some (c :: host, port) :=
    splitLast_eq_some.mpr ⟨rfl, absent⟩
  simp only [parseBackend, trimChars_of_trims trims, split, Numeral.maxWord16,
    Numeral.parse_of_spells spells within]

theorem parseBackend_of_misses {cause : BackendAddressError} (trims : Trims cs value)
    (misses : Misses value cause) : parseBackend cs = .error cause := by
  unfold parseBackend
  rw [trimChars_of_trims trims]
  cases misses with
  | port absent => simp only [splitLast_eq_none.mpr absent]
  | @host port absent =>
      have split : splitLast ':' (':' :: port) = .some ([], port) :=
        splitLast_eq_some.mpr ⟨rfl, absent⟩
      simp only [split]
  | @numeral host port cause some absent refuses =>
      obtain ⟨c, host, rfl⟩ := List.exists_cons_of_ne_nil some
      have split : splitLast ':' (c :: host ++ ':' :: port) = .some (c :: host, port) :=
        splitLast_eq_some.mpr ⟨rfl, absent⟩
      simp only [split, Numeral.maxWord16, Numeral.parse_of_refuses refuses]

/-- A backend is read just where the text is a `host:port` between blanks. -/
theorem parseBackend_eq_ok_iff {backend : String} :
    parseBackend cs = .ok backend ↔ Trims cs backend.toList ∧ IsHostPort backend.toList := by
  constructor
  · intro read
    have trims := trims_trimChars cs
    rcases isHostPort_or_misses (trimChars cs) with form | ⟨cause, misses⟩
    · rw [parseBackend_of_isHostPort trims form] at read
      cases read
      rw [String.toList_ofList]
      exact ⟨trims, form⟩
    · rw [parseBackend_of_misses trims misses] at read
      cases read
  · rintro ⟨trims, form⟩
    rw [parseBackend_of_isHostPort trims form, String.ofList_toList]

end Backend

/-! ## Parts -/

/-- A part of a list that assigns a backend to an address. -/
def Assigns (part : List Char) (route : Route) : Prop :=
  ∃ before behind, part = before ++ '=' :: behind ∧ '=' ∉ before ∧
    Trims before route.address.toList ∧ route.address.toList ≠ [] ∧
    Trims behind route.backend.toList ∧ IsHostPort route.backend.toList

/-- A part of a list that assigns nothing, and what it is blamed for. -/
inductive Blames : List Char → RouteError → Prop
  | notAssignment {part entry : List Char} : '=' ∉ part → Trims part entry →
    Blames part (.notAssignment (String.ofList entry))
  | emptyAddress {before behind entry : List Char} : '=' ∉ before → Blank before →
    Trims (before ++ '=' :: behind) entry →
    Blames (before ++ '=' :: behind) (.emptyAddress (String.ofList entry))
  | backend {before behind value : List Char} {cause : BackendAddressError} : '=' ∉ before →
    ¬ Blank before → Trims behind value → Misses value cause →
    Blames (before ++ '=' :: behind) (.backend cause)

theorem assigns_or_blames (part : List Char) :
    (∃ route, Assigns part route) ∨ ∃ cause, Blames part cause := by
  cases split : splitFirst '=' part with
  | none => exact .inr ⟨_, .notAssignment (splitFirst_eq_none.mp split) (trims_trimChars part)⟩
  | some halves =>
      obtain ⟨before, behind⟩ := halves
      obtain ⟨rfl, absent⟩ := splitFirst_eq_some.mp split
      by_cases blank : Blank before
      · exact .inr ⟨_, .emptyAddress absent blank (trims_trimChars _)⟩
      · rcases isHostPort_or_misses (trimChars behind) with form | ⟨cause, misses⟩
        · refine .inl ⟨⟨String.ofList (trimChars before), String.ofList (trimChars behind)⟩,
            before, behind, rfl, absent, ?_⟩
          simp only [String.toList_ofList]
          exact ⟨trims_trimChars before, mt trimChars_eq_nil_iff.mp blank, trims_trimChars behind,
            form⟩
        · exact .inr ⟨_, .backend absent blank (trims_trimChars behind) misses⟩

theorem isBlank_equals : isBlank '=' = false := by
  decide

/-- An assignment is no blank part. -/
theorem Assigns.not_blank {part : List Char} {route : Route} (assigns : Assigns part route) :
    ¬ Blank part := by
  obtain ⟨before, behind, rfl, -⟩ := assigns
  exact fun blank => not_mem_of_blank blank isBlank_equals (by simp)

/-- Reading an entry cuts the part that it was trimmed from. -/
theorem parseEntry_trimChars {before : List Char} (absent : '=' ∉ before) (behind : List Char) :
    parseEntry (trimChars (before ++ '=' :: behind)) =
      match trimChars before with
      | [] => .error (.emptyAddress (String.ofList (trimChars (before ++ '=' :: behind))))
      | address =>
        match parseBackend behind with
        | .error e => .error (.backend e)
        | .ok backend => .ok ⟨String.ofList address, backend⟩ := by
  obtain ⟨before', behind', entry, absent', same, same'⟩ :=
    exists_trimChars_append_cons isBlank_equals before behind
  have split : splitFirst '=' (before' ++ '=' :: behind') = some (before', behind') :=
    splitFirst_eq_some.mpr ⟨rfl, absent' absent⟩
  have backend : parseBackend behind' = parseBackend behind := by
    rw [parseBackend, parseBackend, same']
  cases address : trimChars before with
  | nil => simp only [entry, parseEntry, split, same, address]
  | cons c address' =>
      cases read : parseBackend behind <;>
        simp only [entry, parseEntry, split, same, address, backend, read]

theorem parseEntry_of_assigns {part : List Char} {route : Route} (assigns : Assigns part route) :
    parseEntry (trimChars part) = .ok route := by
  obtain ⟨before, behind, rfl, absent, address, some, trims, form⟩ := assigns
  rw [parseEntry_trimChars absent, parseBackend_eq_ok_iff.mpr ⟨trims, form⟩,
    trimChars_of_trims address]
  split
  · next nothing => exact absurd nothing some
  · rw [String.ofList_toList]

theorem parseEntry_of_blames {part : List Char} {cause : RouteError} (blames : Blames part cause) :
    parseEntry (trimChars part) = .error cause := by
  cases blames with
  | notAssignment absent trims =>
      have absent' : '=' ∉ trimChars part := fun member =>
        absent ((trims_trimChars part).mem member)
      rw [parseEntry, splitFirst_eq_none.mpr absent', trimChars_of_trims trims]
  | emptyAddress absent blank trims =>
      rw [parseEntry_trimChars absent, trimChars_eq_nil_iff.mpr blank, trimChars_of_trims trims]
  | backend absent solid trims misses =>
      rw [parseEntry_trimChars absent, parseBackend_of_misses trims misses]
      split
      · next nothing => exact absurd (trimChars_eq_nil_iff.mp nothing) solid
      · rfl

/-! ## Lists -/

/-- The routes that the parts of a list assign, in their order. -/
inductive Reads : List (List Char) → List Route → Prop
  | nil : Reads [] []
  | blank {part : List Char} {parts : List (List Char)} {routes : List Route} :
    Blank part → Reads parts routes → Reads (part :: parts) routes
  | route {part : List Char} {parts : List (List Char)} {route : Route} {routes : List Route} :
    Assigns part route → Reads parts routes → Reads (part :: parts) (route :: routes)

/-- The entries of some parts. -/
def entriesOf (parts : List (List Char)) : List (List Char) :=
  (parts.map trimChars).filter fun entry => !entry.isEmpty

theorem entriesOf_cons_blank {part : List Char} (blank : Blank part) (parts : List (List Char)) :
    entriesOf (part :: parts) = entriesOf parts := by
  simp [entriesOf, trimChars_eq_nil_iff.mpr blank]

theorem entriesOf_cons {part : List Char} (solid : ¬ Blank part) (parts : List (List Char)) :
    entriesOf (part :: parts) = trimChars part :: entriesOf parts := by
  have some : trimChars part ≠ [] := mt trimChars_eq_nil_iff.mp solid
  simp [entriesOf, some]

section Parts

variable {part : List Char} {parts : List (List Char)} {route : Route} {routes : List Route}
  {cause : RouteError}

theorem mapM_of_reads (reads : Reads parts routes) :
    (entriesOf parts).mapM parseEntry = .ok routes := by
  induction reads with
  | nil => rfl
  | blank blank _ ih => rwa [entriesOf_cons_blank blank]
  | route assigns _ ih =>
      rw [entriesOf_cons assigns.not_blank, List.mapM_cons, parseEntry_of_assigns assigns, ih]
      rfl

/-- A part that is blamed, behind parts that could be read. -/
theorem mapM_of_blames {behind : List (List Char)} (reads : Reads parts routes)
    (solid : ¬ Blank part) (blames : Blames part cause) :
    (entriesOf (parts ++ part :: behind)).mapM parseEntry = .error cause := by
  induction reads with
  | nil =>
      rw [List.nil_append, entriesOf_cons solid, List.mapM_cons, parseEntry_of_blames blames]
      rfl
  | blank blank _ ih => rwa [List.cons_append, entriesOf_cons_blank blank]
  | route assigns _ ih =>
      rw [List.cons_append, entriesOf_cons assigns.not_blank, List.mapM_cons,
        parseEntry_of_assigns assigns, ih]
      rfl

/-- All parts can be read, or there is a first one that is blamed. -/
theorem reads_or_blames (parts : List (List Char)) :
    (∃ routes, Reads parts routes) ∨ ∃ front part behind routes cause,
      parts = front ++ part :: behind ∧ Reads front routes ∧ ¬ Blank part ∧ Blames part cause := by
  induction parts with
  | nil => exact .inl ⟨[], .nil⟩
  | cons part parts ih =>
      by_cases blank : Blank part
      · rcases ih with
          ⟨routes, reads⟩ | ⟨front, blamed, behind, routes, cause, rfl, reads, solid, blames⟩
        · exact .inl ⟨routes, .blank blank reads⟩
        · exact .inr ⟨part :: front, blamed, behind, routes, cause, rfl, .blank blank reads, solid,
            blames⟩
      · rcases assigns_or_blames part with ⟨route, assigns⟩ | ⟨cause, blames⟩
        · rcases ih with
            ⟨routes, reads⟩ | ⟨front, blamed, behind, routes, cause, rfl, reads, solid, blames⟩
          · exact .inl ⟨route :: routes, .route assigns reads⟩
          · exact .inr ⟨part :: front, blamed, behind, route :: routes, cause, rfl,
              .route assigns reads, solid, blames⟩
        · exact .inr ⟨[], part, parts, [], cause, rfl, .nil, blank, blames⟩

theorem Reads.ne_nil_iff (reads : Reads parts routes) :
    routes ≠ [] ↔ ∃ part ∈ parts, ¬ Blank part := by
  induction reads with
  | nil => simp
  | blank blank _ ih => simp [blank, ih]
  | route assigns _ _ => simp [assigns.not_blank]

/-- Parts can be read if each of them is blank or an assignment. -/
theorem exists_reads_iff :
    (∃ routes, Reads parts routes) ↔
      ∀ part ∈ parts, ¬ Blank part → ∃ route, Assigns part route := by
  constructor
  · rintro ⟨routes, reads⟩
    induction reads with
    | nil => simp
    | blank blank _ ih => exact List.forall_mem_cons.mpr ⟨fun solid => absurd blank solid, ih⟩
    | route assigns _ ih => exact List.forall_mem_cons.mpr ⟨fun _ => ⟨_, assigns⟩, ih⟩
  · intro all
    induction parts with
    | nil => exact ⟨[], .nil⟩
    | cons part parts ih =>
        obtain ⟨first, others⟩ := List.forall_mem_cons.mp all
        obtain ⟨routes, reads⟩ := ih others
        by_cases blank : Blank part
        · exact ⟨routes, .blank blank reads⟩
        · obtain ⟨route, assigns⟩ := first blank
          exact ⟨route :: routes, .route assigns reads⟩

end Parts

/-- What reading a list makes of its entries. -/
theorem parseList_eq (text : String) :
    parseList text = match (entriesOf (splitAll ',' text.toList)).mapM parseEntry with
      | .ok [] => .error .noRoutes
      | outcome => outcome := rfl

theorem parseList_of_reads {text : String} {routes : List Route}
    (reads : Reads (splitAll ',' text.toList) routes) :
    parseList text = if routes = [] then .error .noRoutes else .ok routes := by
  rw [parseList_eq, mapM_of_reads reads]
  cases routes with
  | nil => rfl
  | cons route routes => rw [if_neg (List.cons_ne_nil _ _)]

theorem parseList_of_blames {text : String} {front behind : List (List Char)} {part : List Char}
    {routes : List Route} {cause : RouteError}
    (split : splitAll ',' text.toList = front ++ part :: behind) (reads : Reads front routes)
    (solid : ¬ Blank part) (blames : Blames part cause) : parseList text = .error cause := by
  rw [parseList_eq, split, mapM_of_blames reads solid blames]

/-- A list is read as what its parts assign, if that is something. -/
theorem parseList_eq_ok_iff {text : String} {routes : List Route} :
    parseList text = .ok routes ↔ routes ≠ [] ∧ Reads (splitAll ',' text.toList) routes := by
  constructor
  · intro read
    rcases reads_or_blames (splitAll ',' text.toList) with
      ⟨routes', reads⟩ | ⟨front, part, behind, routes', cause, split, reads, solid, blames⟩
    · rw [parseList_of_reads reads] at read
      split at read
      · cases read
      · next some =>
        cases read
        exact ⟨some, reads⟩
    · rw [parseList_of_blames split reads solid blames] at read
      cases read
  · rintro ⟨some, reads⟩
    rw [parseList_of_reads reads, if_neg some]

/-- A list is refused because all its parts are blank, or for the first one that is blamed. -/
theorem parseList_eq_error_iff {text : String} {cause : RouteError} :
    parseList text = .error cause ↔
      (cause = .noRoutes ∧ ∀ part ∈ splitAll ',' text.toList, Blank part) ∨
        ∃ front part behind routes, splitAll ',' text.toList = front ++ part :: behind ∧
          Reads front routes ∧ ¬ Blank part ∧ Blames part cause := by
  constructor
  · intro failed
    rcases reads_or_blames (splitAll ',' text.toList) with
      ⟨routes, reads⟩ | ⟨front, part, behind, routes, cause', split, reads, solid, blames⟩
    · rw [parseList_of_reads reads] at failed
      split at failed
      · next nothing =>
        cases failed
        refine .inl ⟨rfl, fun part member => Decidable.byContradiction fun solid => ?_⟩
        exact reads.ne_nil_iff.mpr ⟨part, member, solid⟩ nothing
      · cases failed
    · rw [parseList_of_blames split reads solid blames] at failed
      cases failed
      exact .inr ⟨front, part, behind, routes, split, reads, solid, blames⟩
  · rintro (⟨rfl, blank⟩ | ⟨front, part, behind, routes, split, reads, solid, blames⟩)
    · have reads : ∀ parts : List (List Char), (∀ part ∈ parts, Blank part) → Reads parts [] := by
        intro parts
        induction parts with
        | nil => exact fun _ => .nil
        | cons part parts ih =>
            intro all
            obtain ⟨first, others⟩ := List.forall_mem_cons.mp all
            exact .blank first (ih others)
      rw [parseList_of_reads (reads _ blank), if_pos rfl]
    · exact parseList_of_blames split reads solid blames

/-! ## Writing -/

/-- Any blanks, or none. -/
abbrev Blanks := { cs : List Char // Blank cs }

/-- The blanks around the address and around the backend of a written route. -/
structure Spacing where
  beforeAddress : Blanks
  behindAddress : Blanks
  beforeBackend : Blanks
  behindBackend : Blanks

/-- A part of a written list. -/
inductive Item
  | gap (blanks : Blanks)
  | assignment (route : Route) (spacing : Spacing)

namespace Item

/-- What an item looks like. -/
def text : Item → List Char
  | gap blanks => blanks.val
  | assignment route spacing =>
    spacing.beforeAddress.val ++ (route.address.toList ++ spacing.behindAddress.val) ++
      '=' :: (spacing.beforeBackend.val ++ (route.backend.toList ++ spacing.behindBackend.val))

/-- The route of an item, unless it is a gap. -/
def route? : Item → Option Route
  | gap _ => none
  | assignment route _ => some route

end Item

/-- The items of a list, with commas between. -/
def write (items : List Item) : String :=
  String.ofList ([','].intercalate (items.map Item.text))

/-- A route that can be written: its halves have no blanks at their ends and no commas, the address
is something without an equality sign, and the backend is a `host:port`. -/
structure Writable (route : Route) : Prop where
  address_ne_nil : route.address.toList ≠ []
  address_trimmed : Trimmed route.address.toList
  address_comma : ',' ∉ route.address.toList
  address_equals : '=' ∉ route.address.toList
  backend_trimmed : Trimmed route.backend.toList
  backend_comma : ',' ∉ route.backend.toList
  backend_isHostPort : IsHostPort route.backend.toList

theorem isBlank_comma : isBlank ',' = false := by
  decide

section Writing

variable {route : Route} {routes : List Route} {items : List Item}

theorem Writable.assigns (writable : Writable route) (spacing : Spacing) :
    Assigns (Item.assignment route spacing).text route := by
  refine ⟨_, _, rfl, ?_, ?_, writable.address_ne_nil, ?_, writable.backend_isHostPort⟩
  · simp only [List.mem_append, not_or]
    exact ⟨not_mem_of_blank spacing.beforeAddress.property isBlank_equals, writable.address_equals,
      not_mem_of_blank spacing.behindAddress.property isBlank_equals⟩
  · exact ⟨_, _, rfl, spacing.beforeAddress.property, spacing.behindAddress.property,
      writable.address_trimmed⟩
  · exact ⟨_, _, rfl, spacing.beforeBackend.property, spacing.behindBackend.property,
      writable.backend_trimmed⟩

theorem Writable.not_mem_comma (writable : Writable route) (spacing : Spacing) :
    ',' ∉ (Item.assignment route spacing).text := by
  have absent (blanks : Blanks) : ',' ∉ blanks.val := not_mem_of_blank blanks.property isBlank_comma
  simp only [Item.text, List.mem_append, List.mem_cons, not_or]
  exact ⟨⟨absent _, writable.address_comma, absent _⟩, by decide, absent _, writable.backend_comma,
    absent _⟩

/-- An assignment without a comma is a written route. -/
theorem Assigns.exists_spacing {part : List Char} (assigns : Assigns part route)
    (absent : ',' ∉ part) :
    Writable route ∧ ∃ spacing, part = (Item.assignment route spacing).text := by
  obtain ⟨before, behind, rfl, equals, address, some, backend, form⟩ := assigns
  have comma : ',' ∉ before ∧ ',' ∉ behind := by
    simp only [List.mem_append, List.mem_cons, not_or] at absent
    exact ⟨absent.1, absent.2.2⟩
  refine ⟨⟨some, address.trimmed, fun member => comma.1 (address.mem member),
    fun member => equals (address.mem member), backend.trimmed,
    fun member => comma.2 (backend.mem member), form⟩, ?_⟩
  obtain ⟨b₁, b₂, rfl, blank₁, blank₂, -⟩ := address
  obtain ⟨b₃, b₄, rfl, blank₃, blank₄, -⟩ := backend
  exact ⟨⟨⟨b₁, blank₁⟩, ⟨b₂, blank₂⟩, ⟨b₃, blank₃⟩, ⟨b₄, blank₄⟩⟩, rfl⟩

theorem reads_items (writable : ∀ route ∈ items.filterMap Item.route?, Writable route) :
    Reads (items.map Item.text) (items.filterMap Item.route?) ∧
      ∀ part ∈ items.map Item.text, ',' ∉ part := by
  induction items with
  | nil => exact ⟨.nil, nofun⟩
  | cons item items ih =>
      cases item with
      | gap blanks =>
          obtain ⟨reads, absent⟩ := ih writable
          have comma := not_mem_of_blank blanks.property isBlank_comma
          exact ⟨.blank blanks.property reads, List.forall_mem_cons.mpr ⟨comma, absent⟩⟩
      | assignment route spacing =>
          obtain ⟨first, others⟩ := List.forall_mem_cons.mp writable
          obtain ⟨reads, absent⟩ := ih others
          exact ⟨.route (first.assigns spacing) reads,
            List.forall_mem_cons.mpr ⟨first.not_mem_comma spacing, absent⟩⟩

theorem Reads.exists_items {parts : List (List Char)} (reads : Reads parts routes)
    (absent : ∀ part ∈ parts, ',' ∉ part) :
    (∀ route ∈ routes, Writable route) ∧
      ∃ items : List Item, items.map Item.text = parts ∧ items.filterMap Item.route? = routes := by
  induction reads with
  | nil => exact ⟨nofun, [], rfl, rfl⟩
  | @blank part parts routes blank _ ih =>
      obtain ⟨writable, items, rfl, rfl⟩ := ih (List.forall_mem_cons.mp absent).2
      exact ⟨writable, .gap ⟨part, blank⟩ :: items, rfl, rfl⟩
  | @route part parts route routes assigns _ ih =>
      obtain ⟨comma, others⟩ := List.forall_mem_cons.mp absent
      obtain ⟨writable, items, rfl, rfl⟩ := ih others
      obtain ⟨first, spacing, rfl⟩ := assigns.exists_spacing comma
      exact ⟨List.forall_mem_cons.mpr ⟨first, writable⟩, .assignment route spacing :: items, rfl,
        rfl⟩

/-- Reading finds just what was written. -/
theorem parseList_eq_ok_iff_write {text : String} :
    parseList text = .ok routes ↔ routes ≠ [] ∧ (∀ route ∈ routes, Writable route) ∧
      ∃ items, items.filterMap Item.route? = routes ∧ text = write items := by
  rw [parseList_eq_ok_iff]
  constructor
  · rintro ⟨some, reads⟩
    obtain ⟨writable, items, parts, routes⟩ :=
      reads.exists_items fun part member => not_mem_of_mem_splitAll member
    refine ⟨some, writable, items, routes, ?_⟩
    rw [write, parts, intercalate_splitAll, String.ofList_toList]
  · rintro ⟨some, writable, items, rfl, rfl⟩
    obtain ⟨reads, absent⟩ := reads_items writable
    have items' : items.map Item.text ≠ [] := by
      rintro nothing
      obtain rfl := List.map_eq_nil_iff.mp nothing
      exact some rfl
    rw [write, String.toList_ofList, splitAll_intercalate items' absent]
    exact ⟨some, reads⟩

end Writing

/-- **Route lists are read by their grammar.**

* A list is accepted if some part of it is not blank and every part that is not blank is an
  assignment.
* It is read as what its parts assign, in their order.
* Otherwise it is refused for the first part that is neither blank nor an assignment, or because all
  parts are blank.
* Written routes are read as themselves, whatever blanks and blank parts were put between, and
  nothing else is read as them. -/
theorem parseList_grammar (text : String) :
    let parts := splitAll ',' text.toList
    ((∃ routes, parseList text = .ok routes) ↔ (∃ part ∈ parts, ¬ Blank part) ∧
      ∀ part ∈ parts, ¬ Blank part → ∃ route, Assigns part route) ∧
    (∀ routes, parseList text = .ok routes ↔ routes ≠ [] ∧ Reads parts routes) ∧
    (∀ cause, parseList text = .error cause ↔
      (cause = .noRoutes ∧ ∀ part ∈ parts, Blank part) ∨
        ∃ front part behind, parts = front ++ part :: behind ∧
          (∀ earlier ∈ front, ¬ Blank earlier → ∃ route, Assigns earlier route) ∧
          ¬ Blank part ∧ Blames part cause) ∧
    ∀ routes, parseList text = .ok routes ↔ routes ≠ [] ∧ (∀ route ∈ routes, Writable route) ∧
      ∃ items, items.filterMap Item.route? = routes ∧ text = write items := by
  intro parts
  refine ⟨?_, fun routes => parseList_eq_ok_iff, fun cause => ?_,
    fun routes => parseList_eq_ok_iff_write⟩
  · rw [← exists_reads_iff]
    constructor
    · rintro ⟨routes, read⟩
      obtain ⟨some, reads⟩ := parseList_eq_ok_iff.mp read
      exact ⟨reads.ne_nil_iff.mp some, routes, reads⟩
    · rintro ⟨solid, routes, reads⟩
      exact ⟨routes, parseList_eq_ok_iff.mpr ⟨reads.ne_nil_iff.mpr solid, reads⟩⟩
  · rw [parseList_eq_error_iff]
    refine or_congr Iff.rfl ⟨?_, ?_⟩
    · rintro ⟨front, part, behind, routes, split, reads, solid, blames⟩
      exact ⟨front, part, behind, split, exists_reads_iff.mp ⟨routes, reads⟩, solid, blames⟩
    · rintro ⟨front, part, behind, split, earlier, solid, blames⟩
      obtain ⟨routes, reads⟩ := exists_reads_iff.mpr earlier
      exact ⟨front, part, behind, routes, split, reads, solid, blames⟩

example : parseList " a = h:1 ,,\tb=[::1]:00080" = .ok [⟨"a", "h:1"⟩, ⟨"b", "[::1]:00080"⟩] := by
  cbv

end Route

end GameGateway
