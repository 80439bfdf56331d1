import Mathlib.Algebra.Ring.Nat
import Mathlib.Data.List.Basic
import Mathlib.Tactic.Common

namespace Checked

/-!
# Checked computations

A computation that can fail in two ways: with an error it returns itself, or with a panic,
which an index, a slice or an arithmetic operation outside its range raises.

* `index`, `slice`, `add`, `mul`, `copyFromSlice` — the operations that panic.
* `Returns m Q` — `m` does not panic, and what it returns satisfies `Q`.

A proof about a program of such operations goes through it with `Returns.bind` and one
rule for each operation; `index_eq`, `slice_eq`, `add_eq` and `mul_eq` compute them.
A `Slice` carries the bound its length has in memory.
-/

/-- What makes a computation panic. -/
inductive Panic
  | outOfBounds
  | overflow
  | lengthMismatch
  deriving DecidableEq, Repr

/-- How a computation ends that does not return a value. -/
inductive Fault (ε : Type)
  | panic (p : Panic)
  | bail (e : ε)
  deriving DecidableEq, Repr

/-- A computation whose own errors are in `ε`; one that has none takes `Empty`. -/
abbrev Run (ε α : Type) := Except (Fault ε) α

variable {ε α β : Type}

/-! ### Operations -/

/-- Return an error. -/
def bail (e : ε) : Run ε α := .error (.bail e)

/-- Addition of unsigned words of `w` bits. -/
def add (w a b : Nat) : Run ε Nat :=
  if a + b < 2 ^ w then .ok (a + b) else .error (.panic .overflow)

/-- Multiplication of unsigned words of `w` bits. -/
def mul (w a b : Nat) : Run ε Nat :=
  if a * b < 2 ^ w then .ok (a * b) else .error (.panic .overflow)

/-- `xs[i]`. -/
def index (xs : List α) (i : Nat) : Run ε α :=
  match xs[i]? with
  | some x => .ok x
  | none => .error (.panic .outOfBounds)

/-- `&xs[i..j]`. -/
def slice (xs : List α) (i j : Nat) : Run ε (List α) :=
  if i ≤ j ∧ j ≤ xs.length then .ok ((xs.take j).drop i) else .error (.panic .outOfBounds)

/-- `&xs[i..]`. -/
def sliceFrom (xs : List α) (i : Nat) : Run ε (List α) := slice xs i xs.length

/-- `copy_from_slice` into an array of `n` elements. -/
def copyFromSlice (n : Nat) (xs : List α) : Run ε (List α) :=
  if xs.length = n then .ok xs else .error (.panic .lengthMismatch)

section Equations

variable {w a b i j n : Nat} {xs : List α}

/-- A sum that fits is returned. -/
theorem add_eq (h : a + b < 2 ^ w) : (add w a b : Run ε Nat) = .ok (a + b) := if_pos h

/-- A product that fits is returned. -/
theorem mul_eq (h : a * b < 2 ^ w) : (mul w a b : Run ε Nat) = .ok (a * b) := if_pos h

/-- An index inside the list reads it. -/
theorem index_eq (h : i < xs.length) : (index xs i : Run ε α) = .ok xs[i] := by
  simp [index, h]

/-- A slice inside the list is returned. -/
theorem slice_eq (hij : i ≤ j) (hj : j ≤ xs.length) :
    (slice xs i j : Run ε (List α)) = .ok ((xs.take j).drop i) := if_pos ⟨hij, hj⟩

/-- A rest that begins inside the list is returned. -/
theorem sliceFrom_eq (h : i ≤ xs.length) :
    (sliceFrom xs i : Run ε (List α)) = .ok (xs.drop i) := by
  rw [sliceFrom, slice_eq h le_rfl, List.take_length]

/-- As many elements as were asked for are copied. -/
theorem copyFromSlice_eq (h : xs.length = n) :
    (copyFromSlice n xs : Run ε (List α)) = .ok xs := if_pos h

/-- What comes after a result runs on it. -/
@[simp] theorem ok_bind (x : α) (f : α → Run ε β) : (Except.ok x >>= f : Run ε β) = f x := rfl

/-- A running total that fits at the end fits all the way. -/
theorem foldlM_add_eq (f : α → Nat) (h : a + (xs.map f).sum < 2 ^ w) :
    xs.foldlM (fun total x => (add w total (f x) : Run ε Nat)) a =
      .ok (a + (xs.map f).sum) := by
  induction xs generalizing a with
  | nil => rfl
  | cons x xs ih =>
    rw [List.map_cons, List.sum_cons, ← Nat.add_assoc] at h ⊢
    rw [List.foldlM_cons, add_eq (by omega), ok_bind, ih h]

end Equations

/-! ### Postconditions -/

/-- No panic, and what is returned satisfies `Q`; an error of its own is allowed. -/
def Returns (m : Run ε α) (Q : α → Prop) : Prop :=
  match m with
  | .ok x => Q x
  | .error (.bail _) => True
  | .error (.panic _) => False

section Rules

variable {m : Run ε α} {f : α → Run ε β} {P Q : α → Prop} {R : β → Prop} {x : α}

/-- A value meets what holds of it. -/
theorem Returns.pure (h : Q x) : Returns (Pure.pure x : Run ε α) Q := h

/-- An error that is meant is no panic. -/
theorem Returns.bail (e : ε) : Returns (bail e) Q := trivial

/-- A run followed by another, each with what the first one promises. -/
theorem Returns.bind (hm : Returns m P) (hf : ∀ x, P x → Returns (f x) R) :
    Returns (m >>= f) R := by
  cases m with
  | ok x => exact hf x hm
  | error fault =>
    cases fault with
    | bail e => exact trivial
    | panic p => exact hm.elim

/-- A weaker promise. -/
theorem Returns.mono (h : Returns m P) (hPQ : ∀ x, P x → Q x) : Returns m Q := by
  cases m with
  | ok x => exact hPQ x h
  | error fault =>
    cases fault with
    | bail e => exact trivial
    | panic p => exact h.elim

/-- A known result meets what holds of it. -/
theorem Returns.of_eq (heq : m = .ok x) (h : Q x) : Returns m Q := by
  subst heq; exact h

/-- What holds of every value the computation returns. -/
theorem Returns.of_ok (h : Returns m Q) (heq : m = .ok x) : Q x := by
  subst heq; exact h

/-- A run that returns does not panic. -/
theorem Returns.not_panic (h : Returns m Q) (p : Panic) : m ≠ .error (.panic p) := by
  rintro rfl; exact h

/-- A computation without errors of its own returns. -/
theorem Returns.exists_ok {m : Run Empty α} {Q : α → Prop} (h : Returns m Q) :
    ∃ x, m = .ok x ∧ Q x := by
  cases m with
  | ok x => exact ⟨x, rfl, h⟩
  | error fault =>
    cases fault with
    | bail e => exact e.elim
    | panic p => exact h.elim

end Rules

/-! ### Slices in memory -/

/-- A target: the number of bits of its `usize`, at least 32. -/
structure Target where
  bits : Nat
  le_bits : 32 ≤ bits
  deriving DecidableEq, Repr

/-- A word of any target has thirty-two bits at least. -/
theorem Target.word_le (t : Target) : 2 ^ 32 ≤ 2 ^ t.bits :=
  Nat.pow_le_pow_right (by omega) t.le_bits

/-- Half the range of a word has thirty-one bits at least. -/
theorem Target.half_le (t : Target) : 2 ^ 31 ≤ 2 ^ (t.bits - 1) := by
  have hbits := t.le_bits
  exact Nat.pow_le_pow_right (by omega) (by omega)

/-- A slice in the memory of a target, which holds at most `isize::MAX` elements. -/
structure Slice (t : Target) (α : Type) where
  elems : List α
  length_lt : elems.length < 2 ^ (t.bits - 1)
  deriving DecidableEq, Repr

/-- Offsets up to `2 ^ 31` past the end of a slice are still words. -/
theorem Slice.length_add_le {t : Target} (s : Slice t α) {k : Nat} (hk : k ≤ 2 ^ 31) :
    s.elems.length + k ≤ 2 ^ t.bits := by
  have hbits := t.le_bits
  have hhalf := t.half_le
  have htwo : 2 ^ t.bits = 2 ^ (t.bits - 1) + 2 ^ (t.bits - 1) := by
    rw [← Nat.two_mul, ← Nat.pow_succ', Nat.succ_eq_add_one, Nat.sub_add_cancel (by omega)]
  have := s.length_lt
  omega

end Checked
