import Mathlib.Data.List.Basic

namespace Broadcast

/-!
# A bounded broadcast channel

One log of sent values, any number of receivers with a cursor into it each, and a buffer
that holds the last `capacity` values only.

* `oldest` — the position of the oldest value still in the buffer.
* `recv` — what a receiver at `next` gets: the value at its cursor, the news that it has
  fallen behind (and by how many values), or nothing yet.
* `recv_cases` — the inversion of `recv`; proofs about a receiver start from it.
* `sublist_take_succ` / `sublist_take_mono` — what a receiver has got so far stays a
  sublist of what lies behind its cursor, whatever it has missed.
-/

variable {α : Type*}

/-- What `recv` returns. -/
inductive Recv (α : Type*)
  | value (a : α)
  | lagged (missed : Nat)
  | empty
  deriving DecidableEq, Repr

/-- The oldest position whose value has not been overwritten. -/
def oldest (capacity : Nat) (sent : List α) : Nat := sent.length - capacity

/-- Receive at cursor `next`; also the cursor afterwards.  A receiver that has been
    overtaken is moved to the oldest value left. -/
def recv (capacity : Nat) (sent : List α) (next : Nat) : Recv α × Nat :=
  if next < oldest capacity sent then
    (.lagged (oldest capacity sent - next), oldest capacity sent)
  else
    match sent[next]? with
    | some a => (.value a, next + 1)
    | none => (.empty, next)

/-- Inversion of `recv`. -/
theorem recv_cases (capacity : Nat) (sent : List α) (next : Nat) :
    (∃ a, sent[next]? = some a ∧ recv capacity sent next = (.value a, next + 1)) ∨
    (next < oldest capacity sent ∧
      recv capacity sent next =
        (.lagged (oldest capacity sent - next), oldest capacity sent)) ∨
    recv capacity sent next = (.empty, next) := by
  unfold recv
  split
  · rename_i hlag
    exact .inr (.inl ⟨hlag, rfl⟩)
  · cases h : sent[next]? with
    | some a => exact .inl ⟨a, rfl, rfl⟩
    | none => exact .inr (.inr rfl)

theorem oldest_le_length (capacity : Nat) (sent : List α) :
    oldest capacity sent ≤ sent.length := Nat.sub_le _ _

/-- Taking one value more than the cursor. -/
theorem take_succ_of_getElem? {sent : List α} {next : Nat} {a : α} (h : sent[next]? = some a) :
    sent.take (next + 1) = sent.take next ++ [a] := by
  rw [List.take_add_one, h]
  rfl

/-- A value received at the cursor extends a sublist of what lies behind it. -/
theorem sublist_take_succ {sent got : List α} {next : Nat} {a : α} (h : sent[next]? = some a)
    (hgot : got.Sublist (sent.take next)) : (got ++ [a]).Sublist (sent.take (next + 1)) := by
  rw [take_succ_of_getElem? h]
  exact hgot.append (List.Sublist.refl [a])

/-- A cursor that moves on keeps what was received a sublist of what lies behind it. -/
theorem sublist_take_mono {sent got : List α} {next next' : Nat} (hle : next ≤ next')
    (hgot : got.Sublist (sent.take next)) : got.Sublist (sent.take next') := by
  refine hgot.trans ?_
  rw [show sent.take next = (sent.take next').take next from by
    rw [List.take_take, Nat.min_eq_left hle]]
  exact List.take_sublist _ _

end Broadcast
