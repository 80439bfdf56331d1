import Mathlib.Algebra.Ring.Nat
import Mathlib.Data.List.Basic
import Mathlib.Tactic.Common

namespace Vectors

/-!
# Length-prefixed data

A vector is a field of `k` octets, most significant first, and as much data as the field gives.

* `takeN`, `takeVec` — read data, or a vector, off the front; `wholeVec` — a vector that goes
  on to the end.
* `takeEntries` — vectors behind tags, up to the end.
* `takeVec_append`, `wholeVec_append`, `takeEntries_flatMap` — what was written, read back.
-/

/-- The number in a field. -/
def bigEndian (bytes : List (BitVec 8)) : Nat := bytes.foldl (fun n b => 256 * n + b.toNat) 0

/-- `n` octets, and what follows them. -/
def takeN (n : Nat) (bytes : List (BitVec 8)) : Option (List (BitVec 8) × List (BitVec 8)) :=
  if n ≤ bytes.length then some (bytes.take n, bytes.drop n) else none

/-- The data of a vector, and what follows it. -/
def takeVec (k : Nat) (bytes : List (BitVec 8)) : Option (List (BitVec 8) × List (BitVec 8)) := do
  let (len, rest) ← takeN k bytes
  takeN (bigEndian len) rest

/-- The data of a vector that nothing follows. -/
def wholeVec (k : Nat) (bytes : List (BitVec 8)) : Option (List (BitVec 8)) := do
  let (data, rest) ← takeVec k bytes
  if rest.isEmpty then return data else none

/-- Vectors behind tags of `j` octets, up to the end; at most as many as the first argument. -/
def takeEntries (j k : Nat) :
    Nat → List (BitVec 8) → Option (List (List (BitVec 8) × List (BitVec 8)))
  | _, [] => some []
  | 0, _ :: _ => none
  | n + 1, b :: bytes => do
    let (tag, rest) ← takeN j (b :: bytes)
    let (data, rest) ← takeVec k rest
    let entries ← takeEntries j k n rest
    return (tag, data) :: entries

variable {j k n : Nat} {len data rest : List (BitVec 8)}

theorem takeN_append (h : data.length = n) : takeN n (data ++ rest) = some (data, rest) := by
  have hle : n ≤ (data ++ rest).length := by
    rw [List.length_append]
    omega
  rw [takeN, if_pos hle, ← h, List.take_left, List.drop_left]

theorem takeVec_append (hk : len.length = k) (h : bigEndian len = data.length) :
    takeVec k (len ++ (data ++ rest)) = some (data, rest) := by
  show (takeN k (len ++ (data ++ rest)) >>= _) = _
  rw [takeN_append hk]
  exact takeN_append h.symm

/-- The field has to give exactly what is there. -/
theorem wholeVec_append (hk : len.length = k) :
    wholeVec k (len ++ data) = if bigEndian len = data.length then some data else none := by
  have hvec : takeVec k (len ++ data) = takeN (bigEndian len) data := by
    show (takeN k (len ++ data) >>= _) = _
    rw [takeN_append hk]
    rfl
  show (takeVec k (len ++ data) >>= _) = _
  rw [hvec, takeN]
  -- The field may give too little, or more than is there.
  split
  · rename_i hle
    show (if (data.drop (bigEndian len)).isEmpty = true then some (data.take (bigEndian len))
      else none) = _
    by_cases heq : bigEndian len = data.length
    · rw [if_pos heq, heq, List.drop_length, List.take_length]
      rfl
    · have hmore : ¬ (data.drop (bigEndian len)).isEmpty = true := by
        rw [List.isEmpty_iff, List.drop_eq_nil_iff]
        omega
      rw [if_neg heq, if_neg hmore]
  · rename_i hlt
    rw [if_neg (by omega)]
    rfl

theorem takeEntries_flatMap (field : Nat → List (BitVec 8)) (hk : ∀ m, (field m).length = k)
    (hj : 0 < j) {entries : List (List (BitVec 8) × List (BitVec 8))}
    (htag : ∀ e ∈ entries, e.1.length = j)
    (hlen : ∀ e ∈ entries, bigEndian (field e.2.length) = e.2.length)
    (hn : entries.length ≤ n) :
    takeEntries j k n (entries.flatMap fun e => e.1 ++ (field e.2.length ++ e.2)) =
      some entries := by
  induction entries generalizing n with
  | nil => cases n <;> rfl
  | cons e entries ih =>
    obtain ⟨m, rfl⟩ : ∃ m, n = m + 1 := ⟨n - 1, by rw [List.length_cons] at hn; omega⟩
    have hrest := ih (n := m) (fun e' h => htag e' (List.mem_cons_of_mem _ h))
      (fun e' h => hlen e' (List.mem_cons_of_mem _ h)) (Nat.le_of_succ_le_succ hn)
    have htag₁ := htag e List.mem_cons_self
    rw [List.flatMap_cons, List.append_assoc, List.append_assoc]
    -- The first tag is not empty, so the list is not.
    obtain ⟨b, bytes, hcons⟩ := List.exists_cons_of_ne_nil
      (List.ne_nil_of_length_pos (by omega : 0 < e.1.length))
    rw [hcons, List.cons_append, takeEntries, ← List.cons_append, ← hcons, takeN_append htag₁]
    show (takeVec k (field e.2.length ++ (e.2 ++ _)) >>= _) = _
    rw [takeVec_append (hk _) (hlen e List.mem_cons_self)]
    show (takeEntries j k m _ >>= _) = _
    rw [hrest]
    rfl

end Vectors
