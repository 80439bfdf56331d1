import Mathlib.Data.List.Perm.Basic
import Mathlib.Order.Lattice
import Mathlib.Tactic.Common

namespace Sorted

/-!
# Lists sorted by a comparison

What a stable sort does to the searches that follow it, and how a list sorted by a key falls
apart into the lists of the keys.

* `Chosen` — the first of the least elements of a list among those that meet a condition.
* `find?_mergeSort_eq_some_iff` — a search in the sorted list finds that one.
* `dedup` — a list without its repetitions; `pairwise_dedup` for a sorted one.
* `flatMap_filter_key` — the lists of the keys, one after the other, are the sorted list.
-/

variable {α : Type*} {le : α → α → Bool} {p : α → Bool} {l : List α}

/-! ### The first of the least -/

/-- `a` meets `p`, is least among what does, and nothing that is alike comes before it. -/
def Chosen (le : α → α → Bool) (p : α → Bool) (l : List α) (a : α) : Prop :=
  ∃ before after, l = before ++ a :: after ∧ p a = true ∧
    (∀ b ∈ before, p b = true → le a b = true ∧ le b a = false) ∧
    ∀ b ∈ after, p b = true → le a b = true

theorem Chosen.mem {a : α} (h : Chosen le p l a) : a ∈ l := by
  obtain ⟨before, after, rfl, -⟩ := h
  simp

theorem Chosen.meets {a : α} (h : Chosen le p l a) : p a = true := by
  obtain ⟨_, _, _, hp, _⟩ := h
  exact hp

theorem Chosen.least {a : α} (h : Chosen le p l a) (refl : ∀ b, le b b = true) :
    ∀ b ∈ l, p b = true → le a b = true := by
  obtain ⟨before, after, rfl, -, hbefore, hafter⟩ := h
  intro b hb hpb
  rcases List.mem_append.mp hb with hb | hb
  · exact (hbefore b hb hpb).1
  · rcases List.mem_cons.mp hb with rfl | hb
    · exact refl b
    · exact hafter b hb hpb

/-- No list has two of them. -/
theorem Chosen.unique {a b : α} (ha : Chosen le p l a) (hb : Chosen le p l b) : a = b := by
  obtain ⟨before, after, hl, hpa, hbefore, hafter⟩ := ha
  obtain ⟨before', after', hl', hpb, hbefore', hafter'⟩ := hb
  rw [hl] at hl'
  rcases List.append_eq_append_iff.mp hl' with ⟨between, hb', hrest⟩ | ⟨between, hb', hrest⟩
  · cases between with
    | nil => exact (List.cons.inj hrest).1
    | cons c between =>
      -- `a` is before `b`, so it is strictly less, and `b` is after `a`
      obtain ⟨rfl, rfl⟩ := List.cons.inj hrest
      have hless := (hbefore' a (by simp [hb']) hpa).2
      rw [hafter b (by simp) hpb] at hless
      cases hless
  · cases between with
    | nil => exact (List.cons.inj hrest).1.symm
    | cons c between =>
      obtain ⟨rfl, rfl⟩ := List.cons.inj hrest
      have hless := (hbefore b (by simp [hb']) hpb).2
      rw [hafter' a (by simp) hpa] at hless
      cases hless

section Stable

variable (trans : ∀ a b c, le a b = true → le b c = true → le a c = true)
  (total : ∀ a b, (le a b || le b a) = true)

include trans total

/-- What a search in the sorted list finds when one more element was in front. -/
theorem find?_mergeSort_cons (a : α) (l : List α) :
    ((a :: l).mergeSort le).find? p =
      match (l.mergeSort le).find? p with
      | none => if p a then some a else none
      | some b => if p a && le a b then some a else some b := by
  obtain ⟨front, back, hcons, hl, hfront⟩ := List.mergeSort_cons trans total a l
  have hsorted := List.pairwise_mergeSort trans total (a :: l)
  rw [hcons, List.pairwise_append, List.pairwise_cons] at hsorted
  obtain ⟨-, ⟨hback, -⟩, -⟩ := hsorted
  rw [hcons, hl, List.find?_append, List.find?_append, List.find?_cons]
  cases hfound : front.find? p with
  | some b =>
    -- what stands in front of `a` is strictly less
    have hb := hfront b (List.mem_of_find?_eq_some hfound)
    simp_all
  | none =>
    cases hrest : back.find? p with
    | none => cases p a <;> simp
    | some b =>
      have hb := hback b (List.mem_of_find?_eq_some hrest)
      cases p a <;> simp [hb]

/-- **A search in the sorted list** finds the first of the least elements of the list as it
    came. -/
theorem chosen_of_find?_mergeSort {a : α} (h : (l.mergeSort le).find? p = some a) :
    Chosen le p l a := by
  have hrefl : ∀ b, le b b = true := fun b => by simpa using total b b
  induction l generalizing a with
  | nil => simp at h
  | cons x l ih =>
    rw [find?_mergeSort_cons trans total x l] at h
    cases hfound : (l.mergeSort le).find? p with
    | none =>
      have hnone : ∀ b ∈ l, p b = false := by simpa using hfound
      simp only [hfound, Option.ite_none_right_eq_some, Option.some.injEq] at h
      obtain ⟨hp, rfl⟩ := h
      refine ⟨[], l, rfl, hp, by simp, ?_⟩
      intro b hb hpb
      rw [hnone b hb] at hpb
      cases hpb
    | some b =>
      have hb := ih hfound
      simp only [hfound] at h
      -- The new element is taken if it qualifies and is not greater than the one found so far.
      cases hx : p x && le x b with
      | true =>
        simp only [hx, if_true, Option.some.injEq] at h
        subst h
        rw [Bool.and_eq_true] at hx
        refine ⟨[], l, rfl, hx.1, by simp, ?_⟩
        intro c hc hpc
        exact trans x b c hx.2 (hb.least hrefl c hc hpc)
      | false =>
        simp only [hx, Bool.false_eq_true, if_false, Option.some.injEq] at h
        subst h
        obtain ⟨before, after, rfl, hpb, hbefore, hafter⟩ := hb
        refine ⟨x :: before, after, rfl, hpb, ?_, hafter⟩
        intro c hc hpc
        rcases List.mem_cons.mp hc with rfl | hc
        · have hle : le c b = false := by simpa [hpc] using hx
          exact ⟨by simpa [hle] using total c b, hle⟩
        · exact hbefore c hc hpc

theorem find?_mergeSort_eq_some_iff {a : α} :
    (l.mergeSort le).find? p = some a ↔ Chosen le p l a := by
  constructor
  · intro h
    exact chosen_of_find?_mergeSort trans total h
  · intro h
    cases hfound : (l.mergeSort le).find? p with
    | none =>
      have hnone := List.find?_eq_none.mp hfound a (List.mem_mergeSort.mpr h.mem)
      exact absurd h.meets hnone
    | some b => rw [h.unique (chosen_of_find?_mergeSort trans total hfound)]

end Stable

/-! ### Without repetitions -/

/-- The list without the elements that equal the one before them. -/
def dedup [DecidableEq α] : List α → List α
  | [] => []
  | [a] => [a]
  | a :: b :: l => if a = b then dedup (b :: l) else a :: dedup (b :: l)

theorem mem_dedup [DecidableEq α] (l : List α) (x : α) : x ∈ dedup l ↔ x ∈ l := by
  fun_induction dedup l with
  | case1 => rfl
  | case2 a => rfl
  | case3 a l ih => simp [ih]
  | case4 a b l h ih => simp [ih]

/-- A list in ascending order is strictly ascending without its repetitions. -/
theorem pairwise_dedup [LinearOrder α] (l : List α) (h : l.Pairwise (· ≤ ·)) :
    (dedup l).Pairwise (· < ·) := by
  fun_induction dedup l with
  | case1 => exact List.Pairwise.nil
  | case2 a => exact List.pairwise_singleton _ a
  | case3 a l ih => exact ih h.tail
  | case4 a b l hne ih =>
    obtain ⟨hhead, htail⟩ := List.pairwise_cons.mp h
    apply List.Pairwise.cons ?_ (ih htail)
    intro c hc
    have hb : a < b := lt_of_le_of_ne (hhead b List.mem_cons_self) hne
    rcases List.mem_cons.mp ((mem_dedup (b :: l) c).mp hc) with rfl | hc
    · exact hb
    · exact lt_of_lt_of_le hb ((List.pairwise_cons.mp htail).1 c hc)

/-! ### One list for each key -/

section Key

variable {κ : Type*} [LinearOrder κ] {key : α → κ}

/-- In a list sorted by the key the elements with a least key come first. -/
theorem filter_least_append {k : κ} (hsorted : l.Pairwise (fun a b => key a ≤ key b))
    (hleast : ∀ a ∈ l, k ≤ key a) :
    l.filter (fun a => key a = k) ++ l.filter (fun a => key a ≠ k) = l := by
  induction l with
  | nil => rfl
  | cons a l ih =>
    obtain ⟨hhead, htail⟩ := List.pairwise_cons.mp hsorted
    by_cases heq : key a = k
    · have hrest := ih htail (fun b hb => hleast b (List.mem_cons_of_mem a hb))
      rw [List.filter_cons_of_pos (by simpa using heq),
        List.filter_cons_of_neg (by simpa using heq), List.cons_append, hrest]
    · -- a greater key: none of the rest has the least one
      have hlt : k < key a := lt_of_le_of_ne (hleast a List.mem_cons_self) (Ne.symm heq)
      have hne : ∀ b ∈ a :: l, key b ≠ k := by
        intro b hb
        rcases List.mem_cons.mp hb with rfl | hb
        · exact heq
        · exact ne_of_gt (lt_of_lt_of_le hlt (hhead b hb))
      have hnone : (a :: l).filter (fun a => key a = k) = [] := by
        rw [List.filter_eq_nil_iff]
        simpa using hne
      have hall : (a :: l).filter (fun a => key a ≠ k) = a :: l := by
        rw [List.filter_eq_self]
        simpa using hne
      rw [hnone, hall, List.nil_append]

/-- **The lists of the keys.**  With strictly ascending keys that leave no element out, they
    are the sorted list in parts. -/
theorem flatMap_filter_key {keys : List κ} (hkeys : keys.Pairwise (· < ·))
    (hsorted : l.Pairwise (fun a b => key a ≤ key b)) (hall : ∀ a ∈ l, key a ∈ keys) :
    keys.flatMap (fun k => l.filter (fun a => key a = k)) = l := by
  induction keys generalizing l with
  | nil =>
    have : l = [] := List.eq_nil_iff_forall_not_mem.mpr (fun a ha => by simpa using hall a ha)
    simp [this]
  | cons k keys ih =>
    obtain ⟨hhead, htail⟩ := List.pairwise_cons.mp hkeys
    have hleast : ∀ a ∈ l, k ≤ key a := by
      intro a ha
      rcases List.mem_cons.mp (hall a ha) with heq | hmem
      · exact le_of_eq heq.symm
      · exact le_of_lt (hhead _ hmem)
    have hrest := ih htail (hsorted.filter (fun a => key a ≠ k)) (by
      intro a ha
      obtain ⟨hmem, hne⟩ := List.mem_filter.mp ha
      rcases List.mem_cons.mp (hall a hmem) with heq | hlater
      · simp [heq] at hne
      · exact hlater)
    -- the later keys find the same elements in what is left
    have hsame : ∀ k' ∈ keys, (l.filter (fun a => key a ≠ k)).filter (fun a => key a = k') =
        l.filter (fun a => key a = k') := by
      intro k' hk'
      rw [List.filter_filter]
      apply List.filter_congr
      intro a _
      have hlt := hhead k' hk'
      by_cases heq : key a = k'
      · simp [heq, ne_of_gt hlt]
      · simp [heq]
    rw [List.flatMap_cons, ← List.flatMap_congr hsame, hrest]
    exact filter_least_append hsorted hleast

end Key

end Sorted
