import GameGateway.Session.Event
import GameGateway.Text.Utf8

/-!
# The registry

Which backend is registered under which address.  Addresses are compared byte for byte, and a
registry lists them in the order of their UTF-8 bytes, each once.
-/

namespace GameGateway

/-- Backends by address. -/
structure Registry (β : Type) where
  /-- The entries, in the order of their addresses. -/
  entries : List (String × β) := []
  /-- Addresses ascend by their UTF-8 bytes. -/
  ascending : entries.Pairwise fun a b => Utf8.encode a.1 < Utf8.encode b.1 := by simp

namespace Registry

variable {β : Type}

/-- Whether one address comes before another. -/
abbrev Before (a b : String) : Prop := Utf8.encode a < Utf8.encode b

/-- The entries with `address` bound to `backend`. -/
def insertEntry (address : String) (backend : β) : List (String × β) → List (String × β)
  | [] => [(address, backend)]
  | (other, bound) :: entries =>
    if other = address then (address, backend) :: entries
    else if Before other address then (other, bound) :: insertEntry address backend entries
    else (address, backend) :: (other, bound) :: entries

theorem mem_insertEntry {address : String} {backend : β} {entries : List (String × β)}
    {entry : String × β} (h : entry ∈ insertEntry address backend entries) :
    entry = (address, backend) ∨ entry ∈ entries := by
  induction entries with
  | nil => simpa [insertEntry] using h
  | cons first rest ih =>
    obtain ⟨other, bound⟩ := first
    rw [insertEntry] at h
    split at h
    · rcases List.mem_cons.1 h with h | h <;> simp [h]
    · split at h
      · rcases List.mem_cons.1 h with h | h
        · simp [h]
        · rcases ih h with h | h <;> simp [h]
      · rcases List.mem_cons.1 h with h | h
        · simp [h]
        · exact .inr h

theorem ascending_insertEntry (address : String) (backend : β) {entries : List (String × β)}
    (h : entries.Pairwise fun a b => Before a.1 b.1) :
    (insertEntry address backend entries).Pairwise fun a b => Before a.1 b.1 := by
  induction entries with
  | nil => simp [insertEntry]
  | cons first rest ih =>
    obtain ⟨other, bound⟩ := first
    obtain ⟨above, tail⟩ := List.pairwise_cons.1 h
    rw [insertEntry]
    split
    · next same =>
      subst same
      exact List.pairwise_cons.2 ⟨above, tail⟩
    · next different =>
      split
      · next before =>
        refine List.pairwise_cons.2 ⟨fun entry member => ?_, ih tail⟩
        rcases mem_insertEntry member with rfl | member
        · exact before
        · exact above entry member
      · next notBefore =>
        have after : Before address other := by
          rcases Std.lt_trichotomy (Utf8.encode address) (Utf8.encode other) with h | h | h
          · exact h
          · refine absurd ?_ different
            have := congrArg Utf8.decode? h
            simpa using this.symm
          · exact absurd h notBefore
        refine List.pairwise_cons.2 ⟨fun entry member => ?_, h⟩
        rcases List.mem_cons.1 member with rfl | member
        · exact after
        · exact List.lt_trans after (above entry member)

/-- Registers a backend, in place of any other one under the same address. -/
def insert (registry : Registry β) (address : String) (backend : β) : Registry β where
  entries := insertEntry address backend registry.entries
  ascending := ascending_insertEntry address backend registry.ascending

/-- Strikes an address off. -/
def erase (registry : Registry β) (address : String) : Registry β where
  entries := registry.entries.filter fun entry => entry.1 != address
  ascending := registry.ascending.filter _

/-- The backend under an address. -/
def get? (registry : Registry β) (address : String) : Option β :=
  registry.entries.lookup address

/-- How many addresses there are. -/
def size (registry : Registry β) : Nat :=
  registry.entries.length

def isEmpty (registry : Registry β) : Bool :=
  registry.entries.isEmpty

/-- The addresses, in order. -/
def addresses (registry : Registry β) : List String :=
  registry.entries.map Prod.fst

end Registry

end GameGateway
