import Mathlib.Data.List.Basic

namespace Mealy

/-!
# Machines that may answer

A machine takes its inputs one after the other.  An input changes the state and is answered by
one output or by none.

* `run` — the outputs of a list of inputs, and the last state.
* `projected` — the share of the inputs that belongs to one component.
* `Simulates` / `Simulates.run` — a component that is given its share answers as the whole
  machine does, whatever other inputs come in between.
* `Along` / `run_follows` — a state that can be followed from the outputs alone, and what every
  output says of the view before it.
-/

variable {σ τ ι κ ω ω' ν : Type*}

/-- The outputs, and the last state. -/
def run (step : ι → σ → Option ω × σ) : σ → List ι → List ω × σ
  | s, [] => ([], s)
  | s, i :: is =>
    ((step i s).1.toList ++ (run step (step i s).2 is).1, (run step (step i s).2 is).2)

/-- The inputs that a component is given; an input may be passed on with something of the state
    it meets. -/
def projected (step : ι → σ → Option ω × σ) (share : ι → σ → Option κ) : σ → List ι → List κ
  | _, [] => []
  | s, i :: is => (share i s).toList ++ projected step share (step i s).2 is

variable {step : ι → σ → Option ω × σ} {step' : κ → τ → Option ω' × τ}

theorem run_append (s : σ) (is js : List ι) :
    run step s (is ++ js) =
      ((run step s is).1 ++ (run step (run step s is).2 js).1,
        (run step (run step s is).2 js).2) := by
  induction is generalizing s with
  | nil => rfl
  | cons i is ih =>
    show ((step i s).1.toList ++ (run step (step i s).2 (is ++ js)).1,
      (run step (step i s).2 (is ++ js)).2) = _
    rw [ih]
    simp only [run, List.append_assoc]

theorem projected_eq_filterMap (share : ι → Option κ) (s : σ) (is : List ι) :
    projected step (fun i _ => share i) s is = is.filterMap share := by
  induction is generalizing s with
  | nil => rfl
  | cons i is ih =>
    rw [projected, ih, List.filterMap_cons]
    cases share i <;> rfl

/-! ### Components -/

/-- Step by step: an input of the component's share is answered the same by both, any other
    input is answered by nothing the component could see. -/
structure Simulates (step : ι → σ → Option ω × σ) (step' : κ → τ → Option ω' × τ)
    (share : ι → σ → Option κ) (seen : ω → Option ω') (R : σ → τ → Prop) : Prop where
  own : ∀ {i s t k}, R s t → share i s = some k →
    (step i s).1.bind seen = (step' k t).1 ∧ R (step i s).2 (step' k t).2
  other : ∀ {i s t}, R s t → share i s = none →
    (step i s).1.bind seen = none ∧ R (step i s).2 t

/-- **Runs.**  What is seen of the outputs is what the component answers to its share. -/
theorem Simulates.run {share : ι → σ → Option κ} {seen : ω → Option ω'} {R : σ → τ → Prop}
    (h : Simulates step step' share seen R) {s : σ} {t : τ} (hR : R s t) (is : List ι) :
    (Mealy.run step s is).1.filterMap seen =
        (Mealy.run step' t (projected step share s is)).1 ∧
      R (Mealy.run step s is).2 (Mealy.run step' t (projected step share s is)).2 := by
  have hone : ∀ o : Option ω, o.toList.filterMap seen = (o.bind seen).toList := by
    intro o
    cases o with
    | none => rfl
    | some o => cases hseen : seen o <;> simp [hseen]
  induction is generalizing s t with
  | nil => exact ⟨rfl, hR⟩
  | cons i is ih =>
    -- An input of the others leaves the part where it is.
    cases hshare : share i s with
    | none =>
      obtain ⟨hout, hnext⟩ := h.other hR hshare
      obtain ⟨houts, hlast⟩ := ih hnext
      simp only [Mealy.run, projected, hshare, List.filterMap_append, hone, hout]
      exact ⟨houts, hlast⟩
    | some k =>
      obtain ⟨hout, hnext⟩ := h.own hR hshare
      obtain ⟨houts, hlast⟩ := ih hnext
      simp only [Mealy.run, projected, hshare, List.filterMap_append, hone, hout, houts]
      exact ⟨rfl, hlast⟩

/-! ### Following the state -/

/-- Every output is as `P` says, given the view after the outputs before it. -/
def Along (apply : ν → ω → ν) (P : ν → ω → Prop) : ν → List ω → Prop
  | _, [] => True
  | v, o :: os => P v o ∧ Along apply P (apply v o) os

theorem along_append {apply : ν → ω → ν} {P : ν → ω → Prop} {v : ν} {os os' : List ω} :
    Along apply P v (os ++ os') ↔ Along apply P v os ∧ Along apply P (os.foldl apply v) os' := by
  induction os generalizing v with
  | nil => exact ⟨fun h => ⟨trivial, h⟩, fun h => h.2⟩
  | cons o os ih =>
    show (P v o ∧ Along apply P _ (os ++ os')) ↔ _
    rw [ih, ← and_assoc]
    rfl

/-- Whoever applies each output to a view follows the state, if every step keeps the two
    related. -/
theorem run_follows {apply : ν → ω → ν} {P : ν → ω → Prop} {R : σ → ν → Prop}
    (hstep : ∀ i s v, R s v → (∀ o ∈ (step i s).1, P v o) ∧
      R (step i s).2 ((step i s).1.toList.foldl apply v)) {s : σ} {v : ν}
    (hR : R s v) (is : List ι) :
    Along apply P v (run step s is).1 ∧ R (run step s is).2 ((run step s is).1.foldl apply v) := by
  induction is generalizing s v with
  | nil => exact ⟨trivial, hR⟩
  | cons i is ih =>
    obtain ⟨hout, hnext⟩ := hstep i s v hR
    obtain ⟨houts, hlast⟩ := ih hnext
    have hfirst : Along apply P v (step i s).1.toList := by
      cases hanswer : (step i s).1 with
      | none => trivial
      | some o => exact ⟨hout o hanswer, trivial⟩
    show Along apply P v ((step i s).1.toList ++ (run step (step i s).2 is).1) ∧
      R _ (((step i s).1.toList ++ (run step (step i s).2 is).1).foldl apply v)
    rw [List.foldl_append]
    exact ⟨along_append.mpr ⟨hfirst, houts⟩, hlast⟩

end Mealy
