import Mathlib.Data.List.AList
import Mathlib.Order.Lattice
import Mathlib.Tactic.Common

namespace Keyed

/-!
# Values under their keys

A map whose values know their key, filled from one list, changed from another and read out in
the order of the keys.

* `insertAll` — the last of the elements with a key is kept.
* `modify`, `modifyAll` — a change to the value of a key, if there is one.
* `KeysOwn` — each value is under its own key.
* `sorted` — the values in the order of their keys: `mem_sorted`, `pairwise_sorted`.
-/

variable {κ ν α : Type*} [DecidableEq κ]

/-- A map from keys to values. -/
abbrev Map (κ ν : Type*) [DecidableEq κ] := AList (fun _ : κ => ν)

/-! ### Filling -/

/-- Each element under its key; a later one takes the place of an earlier one. -/
def insertAll (key : α → κ) (value : α → ν) (l : List α) : Map κ ν :=
  l.foldl (fun m a => m.insert (key a) (value a)) ∅

theorem lookup_foldl_insert (key : α → κ) (value : α → ν) (l : List α) (m : Map κ ν) (k : κ) :
    (l.foldl (fun m a => m.insert (key a) (value a)) m).lookup k =
      (((l.filter (fun a => key a = k)).getLast?).map value).or (m.lookup k) := by
  induction l generalizing m with
  | nil => rfl
  | cons a l ih =>
    rw [List.foldl_cons, ih]
    by_cases h : key a = k
    · rw [List.filter_cons_of_pos (by simpa using h), ← h, AList.lookup_insert,
        List.getLast?_cons]
      cases (l.filter (fun b => key b = key a)).getLast? <;> simp
    · rw [List.filter_cons_of_neg (by simpa using h), AList.lookup_insert_ne (Ne.symm h)]

/-- The last element with the key. -/
theorem lookup_insertAll (key : α → κ) (value : α → ν) (l : List α) (k : κ) :
    (insertAll key value l).lookup k = ((l.filter (fun a => key a = k)).getLast?).map value := by
  rw [insertAll, lookup_foldl_insert, AList.lookup_empty, Option.or_none]

/-! ### Changing -/

/-- The value of a key is changed, if there is one. -/
def modify (k : κ) (f : ν → ν) (m : Map κ ν) : Map κ ν :=
  match m.lookup k with
  | some v => m.insert k (f v)
  | none => m

theorem lookup_modify (k : κ) (f : ν → ν) (m : Map κ ν) (k' : κ) :
    (modify k f m).lookup k' = if k' = k then (m.lookup k').map f else m.lookup k' := by
  unfold modify
  cases h : m.lookup k with
  | none =>
    show m.lookup k' = _
    by_cases heq : k' = k
    · rw [if_pos heq, heq, h]
      rfl
    · rw [if_neg heq]
  | some v =>
    show (m.insert k (f v)).lookup k' = _
    by_cases heq : k' = k
    · rw [if_pos heq, heq, AList.lookup_insert, h]
      rfl
    · rw [if_neg heq, AList.lookup_insert_ne heq]

/-- One change for each element of a list. -/
def modifyAll (key : α → κ) (change : α → ν → ν) (l : List α) (m : Map κ ν) : Map κ ν :=
  l.foldl (fun m a => modify (key a) (change a) m) m

/-- The changes of a key, in their order. -/
theorem lookup_modifyAll (key : α → κ) (change : α → ν → ν) (l : List α) (m : Map κ ν) (k : κ) :
    (modifyAll key change l m).lookup k =
      (m.lookup k).map (fun v => (l.filter (fun a => key a = k)).foldl (fun v a => change a v) v)
        := by
  unfold modifyAll
  induction l generalizing m with
  | nil => simp
  | cons a l ih =>
    rw [List.foldl_cons, ih, lookup_modify]
    by_cases h : key a = k
    · rw [if_pos h.symm, List.filter_cons_of_pos (by simpa using h), Option.map_map]
      rfl
    · rw [if_neg (Ne.symm h), List.filter_cons_of_neg (by simpa using h)]

/-! ### Reading -/

section Sorted

variable [LinearOrder κ] {key : ν → κ} {m : Map κ ν}

/-- Each value is under its own key. -/
def KeysOwn (key : ν → κ) (m : Map κ ν) : Prop := ∀ k v, m.lookup k = some v → key v = k

/-- The values in the order of their keys. -/
def sorted (key : ν → κ) (m : Map κ ν) : List ν :=
  (m.entries.map Sigma.snd).mergeSort (fun a b => key a ≤ key b)

theorem mem_sorted (h : KeysOwn key m) (v : ν) : v ∈ sorted key m ↔ m.lookup (key v) = some v := by
  rw [sorted, List.mem_mergeSort, List.mem_map]
  constructor
  · rintro ⟨⟨k, v⟩, hmem, rfl⟩
    have hlookup : m.lookup k = some v := AList.mem_lookup_iff.mpr hmem
    show m.lookup (key v) = some v
    rw [h k v hlookup]
    exact hlookup
  · intro hlookup
    exact ⟨⟨key v, v⟩, AList.mem_lookup_iff.mp hlookup, rfl⟩

theorem nodup_sorted (h : KeysOwn key m) : ((sorted key m).map key).Nodup := by
  have hperm : ((sorted key m).map key).Perm (m.entries.map (fun e => key e.2)) := by
    have hsorted := (List.mergeSort_perm (m.entries.map Sigma.snd)
      (fun a b => decide (key a ≤ key b))).map key
    rw [List.map_map] at hsorted
    exact hsorted
  have hkeys : m.entries.map (fun e => key e.2) = m.keys := by
    apply List.map_congr_left
    intro e he
    exact h e.1 e.2 (AList.mem_lookup_iff.mpr he)
  rw [hperm.nodup_iff, hkeys]
  exact m.keys_nodup

/-- The keys ascend strictly. -/
theorem pairwise_sorted (h : KeysOwn key m) :
    (sorted key m).Pairwise (fun a b => key a < key b) := by
  have hle : (sorted key m).Pairwise (fun a b => decide (key a ≤ key b) = true) := by
    apply List.pairwise_mergeSort
    · intro a b c hab hbc
      rw [decide_eq_true_eq] at hab hbc ⊢
      exact hab.trans hbc
    · intro a b
      simpa using le_total (key a) (key b)
  have hne := List.pairwise_map.mp (nodup_sorted h)
  apply (hle.and hne).imp
  intro a b hab
  exact lt_of_le_of_ne (of_decide_eq_true hab.1) hab.2

end Sorted

end Keyed
