import GameGateway.Proofs.Routing.RegistryLookup

/-!
# A registry behind its changes

Addresses are registered and removed while connections come in.  However long that has gone on, an
address has the backend of its last registration, unless it was removed since, and everything else
that a registry can be asked agrees with that: what a removal answers, the list of the addresses,
how many they are and whether there are any (`Store.after_reflects`).

A change is looked at by one equation, `Store.get?_apply`, and a run of changes by what its first
change leaves for the others (`Store.Latest`, `Store.get?_after`).
-/

namespace GameGateway

variable {β : Type}

namespace Registry

/-- The addresses are those that have a backend. -/
theorem mem_addresses (registry : Registry β) (address : String) :
    address ∈ registry.addresses ↔ ∃ backend, registry.get? address = some backend := by
  rw [← Option.isSome_iff_exists, get?, List.lookup_isSome_iff, addresses]
  constructor
  · intro listed
    obtain ⟨entry, among, rfl⟩ := List.mem_map.mp listed
    exact ⟨entry, among, beq_self_eq_true _⟩
  · rintro ⟨entry, among, same⟩
    exact List.mem_map.mpr ⟨entry, among, (eq_of_beq same).symm⟩

theorem addresses_ascending (registry : Registry β) : registry.addresses.Pairwise Before :=
  List.pairwise_map.mpr registry.ascending

/-- No address is listed twice, since none comes before itself. -/
theorem addresses_nodup (registry : Registry β) : registry.addresses.Nodup := by
  refine registry.addresses_ascending.imp fun before => ?_
  rintro rfl
  exact List.lt_irrefl _ before

theorem size_eq_length (registry : Registry β) : registry.size = registry.addresses.length :=
  (List.length_map Prod.fst).symm

theorem isEmpty_iff (registry : Registry β) : registry.isEmpty ↔ registry.size = 0 := by
  rw [isEmpty, List.isEmpty_iff, size, List.length_eq_zero_iff]

end Registry

namespace Store

/-! ## Changes -/

/-- A change of what is registered. -/
inductive Change (β : Type)
  | register (address : String) (backend : β) (id : String)
  | remove (address : String)

/-- The address that a change is about. -/
def Change.address : Change β → String
  | register address _ _ => address
  | remove address => address

/-- What an address is bound to behind a change that is about it. -/
def Change.bound? : Change β → Option β
  | register _ backend _ => some backend
  | remove _ => none

def apply (store : Store β) : Change β → Store β
  | .register address backend id => (store.register address backend id).1
  | .remove address => (store.remove address).2.1

/-- A policy behind some changes. -/
def after (store : Store β) (changes : List (Change β)) : Store β :=
  changes.foldl apply store

/-- A policy that goes by address still does behind a change, and the change binds its own address
alone. -/
theorem get?_apply (registry : Registry β) (change : Change β) :
    ∃ next : Registry β, apply (.byAddress registry) change = .byAddress next ∧
      ∀ address, next.get? address =
        if address = change.address then change.bound? else registry.get? address := by
  cases change with
  | register address backend id =>
      exact ⟨registry.insert address backend, rfl, registry.get?_insert address backend⟩
  | remove address => exact ⟨registry.erase address, rfl, registry.get?_erase address⟩

/-! ## Runs of changes -/

/-- The last of some changes that is about an address registers this backend under it. -/
def Latest (changes : List (Change β)) (address : String) (backend : β) : Prop :=
  ∃ earlier id later, changes = earlier ++ .register address backend id :: later ∧
    ∀ change ∈ later, change.address ≠ address

/-- No change is about an address. -/
def Untouched (changes : List (Change β)) (address : String) : Prop :=
  ∀ change ∈ changes, change.address ≠ address

theorem untouched_cons (change : Change β) (changes : List (Change β)) (address : String) :
    Untouched (change :: changes) address ↔
      change.address ≠ address ∧ Untouched changes address :=
  List.forall_mem_cons

theorem latest_cons (change : Change β) (changes : List (Change β)) (address : String)
    (backend : β) :
    Latest (change :: changes) address backend ↔
      Latest changes address backend ∨
        (Untouched changes address ∧ address = change.address ∧ change.bound? = some backend) := by
  constructor
  · rintro ⟨earlier, id, later, split, untouched⟩
    cases earlier with
    | nil =>
        obtain ⟨rfl, rfl⟩ := List.cons.inj split
        exact .inr ⟨untouched, rfl, rfl⟩
    | cons first earlier =>
        obtain ⟨rfl, rfl⟩ := List.cons.inj split
        exact .inl ⟨earlier, id, later, rfl, untouched⟩
  · rintro (⟨earlier, id, later, rfl, untouched⟩ | ⟨untouched, rfl, binds⟩)
    · exact ⟨change :: earlier, id, later, rfl, untouched⟩
    · cases change with
      | register address bound id =>
          cases binds
          exact ⟨[], id, changes, rfl, untouched⟩
      | remove address => cases binds

/-- Behind some changes an address has what the last change about it has left, or, without one, what
it had. -/
theorem get?_after (registry : Registry β) (changes : List (Change β)) :
    ∃ last : Registry β, after (.byAddress registry) changes = .byAddress last ∧
      ∀ address backend, last.get? address = some backend ↔
        Latest changes address backend ∨
          (Untouched changes address ∧ registry.get? address = some backend) := by
  induction changes generalizing registry with
  | nil =>
      refine ⟨registry, rfl, fun address backend => ⟨fun bound => .inr ⟨nofun, bound⟩, ?_⟩⟩
      rintro (⟨earlier, id, later, split, -⟩ | ⟨-, bound⟩)
      · simp at split
      · exact bound
  | cons change changes ih =>
      obtain ⟨next, applied, step⟩ := get?_apply registry change
      obtain ⟨last, run, bound⟩ := ih next
      refine ⟨last, by rw [after, List.foldl_cons, applied]; exact run, fun address backend => ?_⟩
      rw [bound, latest_cons, untouched_cons, step]
      by_cases own : address = change.address
      · subst own
        simp
      · simp only [own, false_and, and_false, or_false, if_false, Ne, eq_comm, not_false_eq_true,
          true_and]

/-! ## What a registry can be asked -/

/-- What a registry shows is what some changes, which began with nothing, have left. -/
structure Reflects (changes : List (Change β)) (registry : Registry β) : Prop where
  /-- An address has the backend of its last registration that was not undone, -/
  get?_iff : ∀ address backend,
    registry.get? address = some backend ↔ Latest changes address backend
  /-- or none. -/
  get?_none : ∀ address, (∀ backend, ¬ Latest changes address backend) →
    registry.get? address = none
  /-- A removal answers what its address had, -/
  removed : ∀ address, (remove (.byAddress registry) address).1 = registry.get? address
  /-- takes that away and nothing else. -/
  remains : ∀ address, ∃ rest : Registry β,
    (remove (.byAddress registry) address).2.1 = .byAddress rest ∧ rest.get? address = none ∧
      ∀ other, other ≠ address → rest.get? other = registry.get? other
  /-- The addresses ascend by their UTF-8 bytes, -/
  ascending : registry.addresses.Pairwise fun one other => Utf8.encode one < Utf8.encode other
  /-- so each is listed once, -/
  nodup : registry.addresses.Nodup
  /-- and they are those with a backend. -/
  listed : ∀ address,
    address ∈ registry.addresses ↔ ∃ backend, registry.get? address = some backend
  size_eq : registry.size = registry.addresses.length
  isEmpty_iff : registry.isEmpty ↔ registry.size = 0

/-- **A registry is a finite map under every run.**  Whatever was registered and removed since it
was empty, in whatever order: what a registry answers for an address, what it answers when the
address is removed, the addresses it lists and how many it counts all come from the last change
about each address. -/
theorem after_reflects (changes : List (Change β)) :
    ∃ registry : Registry β, after (.byAddress {}) changes = .byAddress registry ∧
      Reflects changes registry := by
  obtain ⟨registry, run, bound⟩ := get?_after {} changes
  have get?_iff (address : String) (backend : β) :
      registry.get? address = some backend ↔ Latest changes address backend := by
    rw [bound]
    exact or_iff_left fun untouched => nomatch untouched.2
  refine ⟨registry, run, ?_⟩
  exact {
    get?_iff
    get?_none := fun address unbound =>
      Option.eq_none_iff_forall_ne_some.mpr fun backend found =>
        unbound backend ((get?_iff address backend).mp found)
    removed := fun _ => rfl
    remains := fun address => by
      refine ⟨registry.erase address, rfl, ?_, fun other differs => ?_⟩
      · rw [Registry.get?_erase, if_pos rfl]
      · rw [Registry.get?_erase, if_neg differs]
    ascending := registry.addresses_ascending
    nodup := registry.addresses_nodup
    listed := registry.mem_addresses
    size_eq := registry.size_eq_length
    isEmpty_iff := registry.isEmpty_iff }

/-- An address that was removed and registered again, beside one that was replaced. -/
example :
    let changes : List (Change Nat) :=
      [.register "b" 1 "one", .register "a" 2 "two", .remove "b", .register "a" 3 "three",
        .register "b" 4 "four"]
    ["a", "b", "B"].map (after (.byAddress {}) changes).lookup = [some 3, some 4, none] := by
  decide

end Store

end GameGateway
