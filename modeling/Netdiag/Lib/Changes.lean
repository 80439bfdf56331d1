import Mathlib.Tactic.Common

namespace Changes

/-!
# Changes of a watched value

A watcher sees values one after the other and reports each that differs from the one it
remembers; now and then it is told to forget.

* `Note`, `changes` — what it is told, and what it reports.
* `epochs`, `differences` — the values between two forgets, and the neighbours in them that differ.
* `changes_eq` — it reports the differences of each epoch, one epoch after the other.
-/

variable {τ α : Type*}

/-- A value, with what comes along with it, or the end of what is remembered. -/
inductive Note (τ α : Type*)
  | seen (tag : τ) (value : α)
  | forget
  deriving DecidableEq, Repr

/-- `now` came with `tag`. -/
structure Change (τ α : Type*) where
  tag : τ
  before : α
  now : α
  deriving DecidableEq, Repr

/-- What is remembered after a note. -/
def Note.value : Note τ α → Option α
  | .seen _ value => some value
  | .forget => none

/-- The values between two forgets, before the first and after the last one. -/
def epochs : List (Note τ α) → List (List (τ × α))
  | [] => [[]]
  | .forget :: notes => [] :: epochs notes
  | .seen tag value :: notes => (epochs notes).modifyHead ((tag, value) :: ·)

theorem epochs_ne_nil (notes : List (Note τ α)) : epochs notes ≠ [] := by
  induction notes with
  | nil => exact List.cons_ne_nil _ _
  | cons note notes ih =>
    cases note with
    | forget => exact List.cons_ne_nil _ _
    | seen tag value =>
      show (epochs notes).modifyHead _ ≠ []
      obtain ⟨e, es, eq⟩ := List.exists_cons_of_ne_nil ih
      rw [eq]
      exact List.cons_ne_nil _ _

variable [DecidableEq α]

/-- What is reported at a note. -/
def Note.change (known : Option α) : Note τ α → Option (Change τ α)
  | .seen tag now =>
    known.bind (fun before => if before ≠ now then some { tag, before, now } else none)
  | .forget => none

/-- What is reported, note by note. -/
def changes (known : Option α) : List (Note τ α) → List (Change τ α)
  | [] => []
  | note :: notes => (note.change known).toList ++ changes note.value notes

/-- The values that differ from the one before them. -/
def differences : List (τ × α) → List (Change τ α)
  | a :: b :: values =>
    if a.2 ≠ b.2 then { tag := b.1, before := a.2, now := b.2 } :: differences (b :: values)
    else differences (b :: values)
  | [_] | [] => []

/-- The watcher reports the differences of each epoch. -/
theorem changes_eq (notes : List (Note τ α)) :
    changes none notes = (epochs notes).flatMap differences := by
  induction notes with
  | nil => rfl
  | cons note notes ih =>
    cases note with
    | forget => exact ih
    | seen tag value =>
      show changes (some value) notes = ((epochs notes).modifyHead ((tag, value) :: ·)).flatMap _
      cases notes with
      | nil => rfl
      | cons next notes =>
        cases next with
        | forget => exact ih
        | seen tag' value' =>
          -- the next value continues the same epoch
          have same : changes (none : Option α) (.seen tag' value' :: notes) =
              changes (some value') notes := rfl
          rw [same] at ih
          show (Note.change (some value) (.seen tag' value')).toList ++
            changes (some value') notes = _
          rw [ih]
          obtain ⟨e, es, eq⟩ := List.exists_cons_of_ne_nil (epochs_ne_nil notes)
          have next : epochs (.seen tag' value' :: notes) = ((tag', value') :: e) :: es := by
            show (epochs notes).modifyHead _ = _
            rw [eq, List.modifyHead_cons]
          rw [next, List.modifyHead_cons, List.flatMap_cons, List.flatMap_cons, ← List.append_assoc]
          congr 1
          show (if value ≠ value' then some (Change.mk tag' value value') else none).toList ++
              differences ((tag', value') :: e) =
            if value ≠ value' then ⟨tag', value, value'⟩ :: differences ((tag', value') :: e)
            else differences ((tag', value') :: e)
          split_ifs <;> rfl

end Changes
