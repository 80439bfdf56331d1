import Mathlib.Algebra.BigOperators.Group.List.Basic
import Mathlib.Algebra.Ring.Nat
import Mathlib.Tactic.Common

namespace OnesComplement

/-!
# Ones' complement arithmetic

Words of `w` bits added with the carry brought around: the arithmetic of the Internet checksum.

* `fold` — the bits above the word, added to the word; `add`, `sum` — words added so.
* `norm` — the number modulo `2 ^ w - 1`, where a number other than 0 is never taken to 0:
  ones' complement has a second zero, all ones.

Everything is a statement about `norm`: folding keeps it (`norm_fold`), it passes through
addition (`norm_norm_add`), and a word is its own (`norm_of_lt`).  So the order of folding
and adding does not matter, nor how often one folds.
-/

variable {w a b s : Nat}

/-- The bits above the lower `w`, added to them. -/
def fold (w s : Nat) : Nat := s % 2 ^ w + s / 2 ^ w

/-- Ones' complement addition of two words. -/
def add (w a b : Nat) : Nat := fold w (a + b)

/-- The ones' complement sum of words. -/
def sum (w : Nat) (words : List Nat) : Nat := words.foldl (add w) 0

/-- The word that stands for a number. -/
def norm (w s : Nat) : Nat := if s = 0 then 0 else (s - 1) % (2 ^ w - 1) + 1

/-! ### Folding -/

/-- Folding takes away a multiple of the largest word. -/
theorem fold_add_mul (w s : Nat) : fold w s + (2 ^ w - 1) * (s / 2 ^ w) = s := by
  have hpos : 0 < 2 ^ w := Nat.two_pow_pos w
  have hdiv := Nat.mod_add_div s (2 ^ w)
  have hmul : 2 ^ w * (s / 2 ^ w) = (2 ^ w - 1) * (s / 2 ^ w) + s / 2 ^ w := by
    rw [← Nat.succ_mul, Nat.succ_eq_add_one, Nat.sub_add_cancel hpos]
  rw [fold]
  omega

/-- Folding makes a number smaller that is not a word yet. -/
theorem fold_lt (hw : 0 < w) (hs : 2 ^ w ≤ s) : fold w s < s := by
  have hpow : 2 ^ 1 ≤ 2 ^ w := Nat.pow_le_pow_right (by omega) hw
  have hquot : 1 ≤ s / 2 ^ w := (Nat.one_le_div_iff (by omega)).mpr hs
  have hmul : 1 * 1 ≤ (2 ^ w - 1) * (s / 2 ^ w) := Nat.mul_le_mul (by omega) hquot
  have := fold_add_mul w s
  omega

/-- A sum that is not zero does not fold to zero. -/
theorem fold_pos (hs : 0 < s) : 0 < fold w s := by
  by_contra hzero
  have hsum := fold_add_mul w s
  have hquot : s / 2 ^ w = 0 := by
    rw [fold, Nat.not_lt, Nat.le_zero, Nat.add_eq_zero_iff] at hzero
    exact hzero.2
  rw [hquot, Nat.mul_zero] at hsum
  omega

/-- A word folds to itself. -/
theorem fold_of_lt (hs : s < 2 ^ w) : fold w s = s := by
  rw [fold, Nat.mod_eq_of_lt hs, Nat.div_eq_of_lt hs, Nat.add_zero]

/-- The sum of two words folds to a word. -/
theorem add_lt (ha : a < 2 ^ w) (hb : b < 2 ^ w) : add w a b < 2 ^ w := by
  rw [add]
  by_cases hs : a + b < 2 ^ w
  · rw [fold_of_lt hs]
    exact hs
  · have hquot : (a + b) / 2 ^ w = 1 := by
      rw [Nat.div_eq_iff (by omega)]
      omega
    have := fold_add_mul w (a + b)
    rw [hquot] at this
    omega

/-! ### The word of a number -/

/-- Zero stays zero. -/
@[simp] theorem norm_zero : norm w 0 = 0 := rfl

/-- Any other sum becomes its remainder, in the range from one. -/
theorem norm_of_pos (hs : 0 < s) : norm w s = (s - 1) % (2 ^ w - 1) + 1 := if_neg (by omega)

/-- A word is its own normal form. -/
theorem norm_of_lt (hs : s < 2 ^ w) : norm w s = s := by
  rcases Nat.eq_zero_or_pos s with rfl | hpos
  · rfl
  · rw [norm_of_pos hpos, Nat.mod_eq_of_lt (by omega)]
    omega

/-- A normal form is a word. -/
theorem norm_lt (hw : 0 < w) : norm w s < 2 ^ w := by
  have hpow : 2 ^ 1 ≤ 2 ^ w := Nat.pow_le_pow_right (by omega) hw
  rcases Nat.eq_zero_or_pos s with rfl | hpos
  · rw [norm_zero]
    omega
  · have := Nat.mod_lt (s - 1) (by omega : 0 < 2 ^ w - 1)
    rw [norm_of_pos hpos]
    omega

/-- Multiples of the modulus do not count, as long as something else is there. -/
theorem norm_add_mul (ha : 0 < a) (k : Nat) : norm w (a + (2 ^ w - 1) * k) = norm w a := by
  have hsub : a + (2 ^ w - 1) * k - 1 = (a - 1) + (2 ^ w - 1) * k := by omega
  rw [norm_of_pos (by omega), norm_of_pos ha, hsub, Nat.add_mul_mod_self_left]

/-- Folding does not change the normal form. -/
theorem norm_fold (w s : Nat) : norm w (fold w s) = norm w s := by
  rcases Nat.eq_zero_or_pos s with rfl | hpos
  · rw [fold_of_lt (Nat.two_pow_pos w)]
  · conv_rhs => rw [← fold_add_mul w s]
    exact (norm_add_mul (fold_pos hpos) _).symm

/-- Normalising early does not change the normal form of a sum. -/
theorem norm_norm_add (w a b : Nat) : norm w (norm w a + b) = norm w (a + b) := by
  rcases Nat.eq_zero_or_pos a with rfl | hpos
  · rfl
  · have hdiv := Nat.mod_add_div (a - 1) (2 ^ w - 1)
    have hsplit : a + b = norm w a + b + (2 ^ w - 1) * ((a - 1) / (2 ^ w - 1)) := by
      rw [norm_of_pos hpos]
      omega
    have hnorm : 0 < norm w a + b := by
      rw [norm_of_pos hpos]
      omega
    rw [hsplit, norm_add_mul hnorm]

/-- The ones' complement sum is the word of the sum. -/
theorem sum_eq_norm {words : List Nat} (h : ∀ x ∈ words, x < 2 ^ w) :
    sum w words = norm w words.sum := by
  suffices hacc : ∀ acc < 2 ^ w, words.foldl (add w) acc = norm w (acc + words.sum) by
    have := hacc 0 (Nat.two_pow_pos w)
    rwa [Nat.zero_add] at this
  induction words with
  | nil =>
    intro acc hlt
    rw [List.sum_nil, Nat.add_zero, norm_of_lt hlt]
    rfl
  | cons x words ih =>
    intro acc hlt
    have hx : x < 2 ^ w := h x List.mem_cons_self
    have hadd : add w acc x = norm w (acc + x) := by
      rw [← norm_of_lt (add_lt hlt hx), add, norm_fold]
    rw [List.foldl_cons, ih (fun y hy => h y (List.mem_cons_of_mem x hy)) _ (add_lt hlt hx), hadd,
      norm_norm_add, List.sum_cons, Nat.add_assoc]

/-- A sum and the complement of its word make all ones. -/
theorem norm_add_complement (hw : 0 < w) (s : Nat) :
    norm w (s + (2 ^ w - 1 - norm w s)) = 2 ^ w - 1 := by
  have hlt : norm w s < 2 ^ w := norm_lt hw
  rw [← norm_norm_add, Nat.add_sub_cancel' (by omega)]
  exact norm_of_lt (by omega)

end OnesComplement
