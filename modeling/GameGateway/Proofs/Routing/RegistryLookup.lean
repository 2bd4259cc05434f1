import GameGateway.Routing.Store

/-!
# Looking an address up

Registering an address binds it and striking it off unbinds it; every other address keeps what it is
bound to (`Registry.get?_insert`, `Registry.get?_erase`).  `Store.lookup` is what a routing policy
has for an address, whoever asks.
-/

namespace GameGateway

variable {β : Type}

namespace Registry

theorem lookup_entry (other : String) (bound : β) (entries : List (String × β)) (asked : String) :
    ((other, bound) :: entries).lookup asked =
      if asked = other then some bound else entries.lookup asked := by
  by_cases same : asked = other
  · simp [same]
  · have differ : (asked == other) = false := by simpa using same
    simp [List.lookup_cons, same, differ]

theorem lookup_insertEntry (address : String) (backend : β) (entries : List (String × β))
    (asked : String) :
    (insertEntry address backend entries).lookup asked =
      if asked = address then some backend else entries.lookup asked := by
  induction entries with
  | nil => exact lookup_entry address backend [] asked
  | cons entry entries ih =>
      obtain ⟨other, bound⟩ := entry
      unfold insertEntry
      by_cases replaced : other = address
      · subst replaced
        rw [if_pos rfl, lookup_entry, lookup_entry]
        by_cases same : asked = other
        · rw [if_pos same, if_pos same]
        · rw [if_neg same, if_neg same, if_neg same]
      · rw [if_neg replaced]
        split
        · rw [lookup_entry, lookup_entry, ih]
          by_cases same : asked = other
          · subst same
            rw [if_pos rfl, if_neg replaced, if_pos rfl]
          · rw [if_neg same, if_neg same]
        · exact lookup_entry address backend ((other, bound) :: entries) asked

theorem lookup_filter (entries : List (String × β)) (address asked : String) :
    (entries.filter fun entry => entry.1 != address).lookup asked =
      if asked = address then none else entries.lookup asked := by
  induction entries with
  | nil => simp
  | cons entry entries ih =>
      obtain ⟨other, bound⟩ := entry
      by_cases struck : other = address
      · subst struck
        have dropped : ¬ (other != other) = true := by simp
        rw [List.filter_cons, if_neg dropped, ih, lookup_entry]
        by_cases same : asked = other
        · rw [if_pos same, if_pos same]
        · rw [if_neg same, if_neg same, if_neg same]
      · have kept : (other != address) = true := by simpa using struck
        rw [List.filter_cons, if_pos kept, lookup_entry, lookup_entry, ih]
        by_cases same : asked = other
        · subst same
          rw [if_pos rfl, if_neg struck, if_pos rfl]
        · rw [if_neg same, if_neg same]

theorem get?_insert (registry : Registry β) (address : String) (backend : β) (asked : String) :
    (registry.insert address backend).get? asked =
      if asked = address then some backend else registry.get? asked :=
  lookup_insertEntry address backend registry.entries asked

theorem get?_erase (registry : Registry β) (address asked : String) :
    (registry.erase address).get? asked =
      if asked = address then none else registry.get? asked :=
  lookup_filter registry.entries address asked

end Registry

namespace Store

/-- The backend that a policy has for an address. -/
def lookup : Store β → String → Option β
  | single backend, _ => backend
  | byAddress registry, address => registry.get? address

end Store

end GameGateway
