import Mathlib.Data.List.Nodup
import Mathlib.Logic.Function.Basic

namespace Maps

/-!
# Updates of a partial map

A list of updates `(key, value)` applied to a partial map, one after the other; `none` removes
the key.

* `replay` — the map after the updates.
* `IsDiff f g us` — `us` is a difference from `f` to `g`: at most one update for each key, each
  to the value of `g`, and one for each key where the two differ.
* `IsDiff.replay_eq` — replaying a difference leads from `f` to `g`, in whatever order its
  updates come.
-/

variable {κ ν : Type*} [DecidableEq κ] {f g : κ → Option ν} {us : List (κ × Option ν)} {k : κ}
  {v : Option ν}

/-- The map after the updates. -/
def replay (f : κ → Option ν) (us : List (κ × Option ν)) : κ → Option ν :=
  us.foldl (fun f u => Function.update f u.1 u.2) f

theorem replay_cons (f : κ → Option ν) (u : κ × Option ν) (us : List (κ × Option ν)) :
    replay f (u :: us) = replay (Function.update f u.1 u.2) us := rfl

/-- A key without an update keeps its value. -/
theorem replay_of_notMem (h : k ∉ us.map Prod.fst) : replay f us k = f k := by
  induction us generalizing f with
  | nil => rfl
  | cons u us ih =>
    rw [List.map_cons, List.mem_cons, not_or] at h
    rw [replay_cons, ih h.2, Function.update_of_ne h.1]

/-- The only update of a key decides its value. -/
theorem replay_of_mem (hnodup : (us.map Prod.fst).Nodup) (h : (k, v) ∈ us) :
    replay f us k = v := by
  induction us generalizing f with
  | nil => simp at h
  | cons u us ih =>
    rw [List.map_cons, List.nodup_cons] at hnodup
    rw [replay_cons]
    rcases List.mem_cons.mp h with rfl | h
    · rw [replay_of_notMem hnodup.1, Function.update_self]
    · exact ih hnodup.2 h

/-- The updates lead from `f` to `g`. -/
structure IsDiff (f g : κ → Option ν) (us : List (κ × Option ν)) : Prop where
  nodup : (us.map Prod.fst).Nodup
  sound : ∀ u ∈ us, g u.1 = u.2
  complete : ∀ k, f k ≠ g k → k ∈ us.map Prod.fst

theorem IsDiff.replay_eq (h : IsDiff f g us) : replay f us = g := by
  funext k
  by_cases hk : k ∈ us.map Prod.fst
  · obtain ⟨u, hu, rfl⟩ := List.mem_map.mp hk
    rw [replay_of_mem h.nodup hu, h.sound u hu]
  · rw [replay_of_notMem hk]
    by_contra hne
    exact hk (h.complete k hne)

end Maps
