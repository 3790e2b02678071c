import Mathlib.Algebra.BigOperators.Group.List.Basic
import Mathlib.Algebra.Order.BigOperators.Group.List
import Mathlib.Algebra.Order.Ring.Nat
import Mathlib.Data.List.AList

/-! Finite keyed stores, and the totals of a measure over everything they hold. -/

/-- A finite map holding each key at most once. -/
abbrev Store (κ ν : Type) := AList fun _ : κ => ν

namespace Store

variable {κ ν : Type}

/-- The sum of a measure over every value held. -/
def total (measure : ν → Nat) (store : Store κ ν) : Nat :=
  (store.entries.map fun entry => measure entry.2).sum

/-- An empty store totals nothing. -/
@[simp] theorem total_empty (measure : ν → Nat) : total measure (∅ : Store κ ν) = 0 := rfl

/-- Measures that agree on every value have equal totals. -/
theorem total_congr {left right : ν → Nat} {store : Store κ ν}
    (agree : ∀ entry ∈ store.entries, left entry.2 = right entry.2) :
    total left store = total right store := by
  unfold total
  rw [List.map_congr_left agree]

/-- A measure that is nowhere larger than another has no larger total. -/
theorem total_le_total {left right : ν → Nat} (smaller : ∀ value, left value ≤ right value)
    (store : Store κ ν) : total left store ≤ total right store := by
  apply List.sum_le_sum
  intro entry _
  exact smaller entry.2

variable [DecidableEq κ]

/-- Removing a key's entry from the list removes exactly that entry's share of the sum. -/
private theorem sum_kerase (measure : ν → Nat) (key : κ) (entries : List (Sigma fun _ : κ => ν)) :
    ((entries.kerase key).map fun entry => measure entry.2).sum
        + (entries.dlookup key).elim 0 measure
      = (entries.map fun entry => measure entry.2).sum := by
  -- Both the removal and the lookup stop at the first entry with the key.
  induction entries with
  | nil => rfl
  | cons entry rest ih =>
    obtain ⟨held, value⟩ := entry
    by_cases same : key = held
    · -- The entry is the key's own: it is what is removed and what is looked up.
      subst same
      have removed : List.kerase key (⟨key, value⟩ :: rest) = rest := List.kerase_cons_eq rfl
      rw [removed, List.dlookup_cons_eq]
      simp [Nat.add_comm]
    · -- Both pass over the entry of another key.
      rw [List.kerase_cons_ne same, List.dlookup_cons_ne _ _ same]
      simp only [List.map_cons, List.sum_cons]
      omega

/-- Writing a key trades the measure of its old value for that of its new one. -/
theorem total_insert (measure : ν → Nat) (key : κ) (value : ν) (store : Store κ ν) :
    total measure (store.insert key value) + (store.lookup key).elim 0 measure
      = total measure store + measure value := by
  -- An insertion removes the key's entry and puts the new one in front.
  have traded := sum_kerase measure key store.entries
  simp only [total, AList.entries_insert, List.map_cons, List.sum_cons, AList.lookup] at traded ⊢
  omega

/-- Erasing a key takes away the measure of the value it held. -/
theorem total_erase (measure : ν → Nat) (key : κ) (store : Store κ ν) :
    total measure (store.erase key) + (store.lookup key).elim 0 measure = total measure store :=
  sum_kerase measure key store.entries

/-- Writing a key whose old and new values measure the same leaves the total alone. -/
theorem total_insert_same {measure : ν → Nat} {key : κ} {value : ν} {store : Store κ ν}
    (same : (store.lookup key).elim 0 measure = measure value) :
    total measure (store.insert key value) = total measure store := by
  have traded := total_insert measure key value store
  omega

/-- No single value measures more than the whole store. -/
theorem le_total (measure : ν → Nat) {key : κ} {value : ν} {store : Store κ ν}
    (found : store.lookup key = some value) : measure value ≤ total measure store := by
  -- It is what erasing its key would take away.
  have traded := total_erase measure key store
  rw [found] at traded
  simp only [Option.elim_some] at traded
  omega

/-- Values under two different keys together measure no more than the whole store. -/
theorem add_le_total (measure : ν → Nat) {first second : κ} {one two : ν} {store : Store κ ν}
    (differ : first ≠ second) (foundOne : store.lookup first = some one)
    (foundTwo : store.lookup second = some two) :
    measure one + measure two ≤ total measure store := by
  -- The second value survives the removal of the first.
  have traded := total_erase measure first store
  have kept : (store.erase first).lookup second = some two := by
    rw [AList.lookup_erase_ne differ.symm, foundTwo]
  have bound := le_total measure kept
  rw [foundOne] at traded
  simp only [Option.elim_some] at traded
  omega

/-- What one value lacks of a larger measure, the total lacks as well. -/
theorem total_add_le {left right : ν → Nat} (smaller : ∀ value, left value ≤ right value)
    {key : κ} {value : ν} {store : Store κ ν} (found : store.lookup key = some value) :
    total left store + right value ≤ total right store + left value := by
  -- Set the one value aside, and compare what is left.
  have less := total_erase left key store
  have more := total_erase right key store
  have rest := total_le_total smaller (store.erase key)
  rw [found, Option.elim_some] at less more
  omega

/-- An entry listed in the store is what looking up its key answers. -/
theorem lookup_of_mem {store : Store κ ν} {entry : Sigma fun _ : κ => ν}
    (member : entry ∈ store.entries) : store.lookup entry.1 = some entry.2 :=
  AList.mem_lookup_iff.mpr member

/-- A store of which every value measures nothing totals zero. -/
theorem total_eq_zero {measure : ν → Nat} {store : Store κ ν}
    (zero : ∀ key value, store.lookup key = some value → measure value = 0) :
    total measure store = 0 := by
  apply List.sum_eq_zero
  intro share member
  -- Every summand is the measure of some value held.
  obtain ⟨entry, inStore, rfl⟩ := List.mem_map.mp member
  exact zero entry.1 entry.2 (lookup_of_mem inStore)

end Store
