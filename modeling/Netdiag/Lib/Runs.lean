import Mathlib.Logic.Function.Basic

namespace Runs

/-!
# Runs of an executable step function

A system is a partial step function `step : σ → α → Option σ` over states `σ` and actions
`α`; an action that is not enabled steps to `none`.

* `Steps step ok s t` — `t` is reached from `s` by a run whose every step meets the
  condition `ok` (read in the state *before* the step).  The unconditional runs are those
  under `fun _ _ => True`.
* `Steps.invariant` — the induction rule: what holds at the start and survives every
  allowed step holds wherever such a run gets to.
* `exec` / `Steps.of_exec` — the executable side: running a concrete list of actions,
  with the condition decided at every step, yields a run.
* `World` — any number of components over one shared state, each step moving one
  component (and the shared state).  `Steps.component` lifts an invariant of a single
  component to every component of every reachable world, `Steps.of_component` a run of one
  component to a run of the world.
* `set_cases` / `push_cases` — what is found in a table of components after one of them
  moved, or after one was added.
-/

variable {σ α : Type*}

/-! ### Guarded runs -/

/-- `Steps step ok s t`: a run from `s` to `t` whose steps all meet `ok`. -/
inductive Steps (step : σ → α → Option σ) (ok : σ → α → Prop) : σ → σ → Prop
  | refl (s : σ) : Steps step ok s s
  | tail {s t u : σ} (a : α) :
      Steps step ok s t → ok t a → step t a = some u → Steps step ok s u

variable {step : σ → α → Option σ} {ok : σ → α → Prop}

/-- **Invariant rule.**  A property of the first state that every allowed step preserves
    holds in every state the run reaches. -/
theorem Steps.invariant {Inv : σ → Prop} {s t : σ} (hrun : Steps step ok s t) (h0 : Inv s)
    (hstep : ∀ s a s', Inv s → ok s a → step s a = some s' → Inv s') : Inv t := by
  induction hrun with
  | refl => exact h0
  | tail a _ hok hs ih => exact hstep _ a _ ih hok hs

/-- Runs compose. -/
theorem Steps.trans {s t u : σ} (h₁ : Steps step ok s t) (h₂ : Steps step ok t u) :
    Steps step ok s u := by
  induction h₂ with
  | refl => exact h₁
  | tail a _ hok hs ih => exact .tail a ih hok hs

/-- A run whose steps meet a condition is one whose steps meet a weaker one. -/
theorem Steps.mono {ok' : σ → α → Prop} {s t : σ} (hrun : Steps step ok s t)
    (hok : ∀ s a, ok s a → ok' s a) : Steps step ok' s t := by
  induction hrun with
  | refl => exact .refl s
  | tail a _ ha hs ih => exact .tail a ih (hok _ a ha) hs

/-! ### Executing a list of actions -/

/-- Run a list of actions; `none` as soon as one is not enabled or breaks `ok`. -/
def exec (step : σ → α → Option σ) (ok : σ → α → Prop) [∀ s a, Decidable (ok s a)] :
    σ → List α → Option σ
  | s, [] => some s
  | s, a :: as => if ok s a then (step s a).bind (fun s' => exec step ok s' as) else none

/-- A successful execution is a run, also under a condition that says more than the one that
    is decided, if it does so of the actions executed. -/
theorem Steps.of_exec_mem [∀ s a, Decidable (ok s a)] {ok' : σ → α → Prop} (as : List α)
    {s t : σ} (hok' : ∀ a ∈ as, ∀ s, ok s a → ok' s a) (h : exec step ok s as = some t) :
    Steps step ok' s t := by
  induction as generalizing s with
  | nil => cases h; exact .refl _
  | cons a as ih =>
    simp only [exec] at h
    split at h
    · rename_i hok
      obtain ⟨s', hs, hrest⟩ := Option.bind_eq_some_iff.mp h
      have hfirst := Steps.tail a (.refl s) (hok' a List.mem_cons_self s hok) hs
      exact hfirst.trans (ih (fun b hb => hok' b (List.mem_cons_of_mem a hb)) hrest)
    · cases h

/-- A successful execution is a run. -/
theorem Steps.of_exec [∀ s a, Decidable (ok s a)] (as : List α) {s t : σ}
    (h : exec step ok s as = some t) : Steps step ok s t :=
  .of_exec_mem as (fun _ _ _ hok => hok) h

/-- What a successful execution ends in is reached by such a run. -/
theorem Steps.exists_of_exec_mem (ok : σ → α → Prop) [∀ s a, Decidable (ok s a)]
    {ok' : σ → α → Prop} {s : σ} (as : List α) (hok' : ∀ a ∈ as, ∀ s, ok s a → ok' s a)
    (P : σ → Prop) [DecidablePred P]
    (h : (exec step ok s as).any (fun t => decide (P t)) = true) :
    ∃ t, Steps step ok' s t ∧ P t := by
  obtain ⟨t, ht, hP⟩ := (Option.any_eq_true _ _).mp h
  exact ⟨t, .of_exec_mem as hok' ht, of_decide_eq_true hP⟩

/-- The same under the condition that is decided. -/
theorem Steps.exists_of_exec [∀ s a, Decidable (ok s a)] {s : σ} (as : List α) (P : σ → Prop)
    [DecidablePred P] (h : (exec step ok s as).any (fun t => decide (P t)) = true) :
    ∃ t, Steps step ok s t ∧ P t :=
  exists_of_exec_mem ok as (fun _ _ _ hok => hok) P h

/-! ### Components over a shared state -/

/-- Components `comp i` beside one state they all share. -/
structure World (ι γ σ : Type*) where
  shared : γ
  comp : ι → σ

variable {ι γ : Type*} [DecidableEq ι]

/-- One component takes a step, which may also move the shared state. -/
def World.move (cstep : ι → γ → σ → α → Option (γ × σ)) (w : World ι γ σ) (ia : ι × α) :
    Option (World ι γ σ) :=
  (cstep ia.1 w.shared (w.comp ia.1) ia.2).map
    (fun r => { shared := r.1, comp := Function.update w.comp ia.1 r.2 })

/-- Inversion of `World.move`: which component moved, and how. -/
theorem World.move_eq_some {cstep : ι → γ → σ → α → Option (γ × σ)} {w w' : World ι γ σ}
    {i : ι} {a : α} (h : World.move cstep w (i, a) = some w') :
    cstep i w.shared (w.comp i) a = some (w'.shared, w'.comp i) ∧
      ∀ j, j ≠ i → w'.comp j = w.comp j := by
  simp only [World.move, Option.map_eq_some_iff] at h
  obtain ⟨r, hr, rfl⟩ := h
  refine ⟨by simpa using hr, fun j hj => ?_⟩
  simp [Function.update_of_ne hj]

/-- **Component invariants.**  If component `i` starts with `Inv`, and every step of `i`
    allowed by `ok` keeps it whatever the shared state, then it holds of `i` in every state
    of every run: the other components cannot touch it. -/
theorem Steps.component {cstep : ι → γ → σ → α → Option (γ × σ)} {i : ι}
    {ok : World ι γ σ → ι × α → Prop} {Inv : σ → Prop} {w w' : World ι γ σ}
    (hrun : Steps (World.move cstep) ok w w') (h0 : Inv (w.comp i))
    (hstep : ∀ (v : World ι γ σ) a g' s', Inv (v.comp i) → ok v (i, a) →
      cstep i v.shared (v.comp i) a = some (g', s') → Inv s') :
    Inv (w'.comp i) := by
  let InvAt : World ι γ σ → Prop := fun w => Inv (w.comp i)
  suffices h : InvAt w' from h
  refine hrun.invariant h0 ?_
  rintro v ⟨j, a⟩ v' hinv hok hs
  obtain ⟨hmoved, hrest⟩ := World.move_eq_some hs
  by_cases hij : j = i
  · subst hij
    exact hstep v a _ _ hinv hok hmoved
  · show Inv (v'.comp i)
    rw [hrest i (Ne.symm hij)]
    exact hinv

/-- **Component runs.**  What one component can do beside the shared state, the world can do
    with the others standing still. -/
theorem Steps.of_component {cstep : ι → γ → σ → α → Option (γ × σ)} {i : ι}
    {ok : World ι γ σ → ι × α → Prop} {okc : γ × σ → α → Prop} {w : World ι γ σ} {t : γ × σ}
    (hok : ∀ (v : World ι γ σ) a, okc (v.shared, v.comp i) a → ok v (i, a))
    (hrun : Steps (fun (p : γ × σ) a => cstep i p.1 p.2 a) okc (w.shared, w.comp i) t) :
    ∃ w', Steps (World.move cstep) ok w w' ∧ w'.shared = t.1 ∧ w'.comp i = t.2 := by
  induction hrun with
  | refl => exact ⟨w, .refl w, rfl, rfl⟩
  | @tail u v a _ ha hs ih =>
    obtain ⟨w₁, hrun, hshared, hcomp⟩ := ih
    let w₂ : World ι γ σ := { shared := v.1, comp := Function.update w₁.comp i v.2 }
    have hmove : World.move cstep w₁ (i, a) = some w₂ := by
      simp only [World.move, hshared, hcomp, hs, Option.map_some, w₂]
    have hoka : okc (w₁.shared, w₁.comp i) a := by
      rw [hshared, hcomp]
      exact ha
    exact ⟨w₂, .tail (i, a) hrun (hok w₁ a hoka) hmove, rfl, Function.update_self i v.2 w₁.comp⟩

/-! ### Tables of components -/

/-- What is found in a table one entry of which was overwritten. -/
theorem set_cases {table : List σ} {i j : Nat} {old new x : σ} (hold : table[i]? = some old)
    (hx : (table.set i new)[j]? = some x) :
    (i = j ∧ x = new) ∨ (i ≠ j ∧ table[j]? = some x) := by
  have hlt : i < table.length := (List.getElem?_eq_some_iff.mp hold).1
  by_cases hij : i = j
  · subst hij
    rw [List.getElem?_set_self hlt, Option.some.injEq] at hx
    exact .inl ⟨rfl, hx.symm⟩
  · rw [List.getElem?_set_ne hij] at hx
    exact .inr ⟨hij, hx⟩

/-- What holds of an entry still holds of what is in its place after one entry, which it
    survives in, was overwritten. -/
theorem exists_set {table : List σ} {i j : Nat} {old new x : σ} (P : σ → Prop)
    (hold : table[i]? = some old) (hx : table[j]? = some x) (hPx : P x)
    (hnew : P old → P new) : ∃ y, (table.set i new)[j]? = some y ∧ P y := by
  have hlt : i < table.length := (List.getElem?_eq_some_iff.mp hold).1
  by_cases hij : i = j
  · subst hij
    rw [hold, Option.some.injEq] at hx
    subst hx
    exact ⟨new, List.getElem?_set_self hlt, hnew hPx⟩
  · exact ⟨x, by rw [List.getElem?_set_ne hij, hx], hPx⟩

/-- What is found in a table one entry was added to. -/
theorem push_cases {table : List σ} {j : Nat} {new x : σ}
    (hx : (table ++ [new])[j]? = some x) :
    table[j]? = some x ∨ (j = table.length ∧ x = new) := by
  rw [List.getElem?_append] at hx
  split at hx
  · exact .inl hx
  · -- past the old table there is one index only, the new entry's
    have hlen : j = table.length := by
      have := (List.getElem?_eq_some_iff.mp hx).1
      simp only [List.length_singleton] at this
      omega
    subst hlen
    simp only [Nat.sub_self, List.getElem?_cons_zero, Option.some.injEq] at hx
    exact .inr ⟨rfl, hx.symm⟩

/-- An entry that is in the table stays there when another is added. -/
theorem getElem?_push {table : List σ} {j : Nat} {new x : σ} (hx : table[j]? = some x) :
    (table ++ [new])[j]? = some x := by
  rw [List.getElem?_append_left (List.getElem?_eq_some_iff.mp hx).1, hx]

/-- An entry has a successor in a table of the same length in which every entry has a
    predecessor. -/
theorem exists_next {table next : List σ} {i : Nat} {x : σ} {R : σ → σ → Prop}
    (hlen : next.length = table.length)
    (hprev : ∀ y, next[i]? = some y → ∃ x, table[i]? = some x ∧ R x y)
    (hx : table[i]? = some x) : ∃ y, next[i]? = some y ∧ R x y := by
  have hlt : i < next.length := by
    rw [hlen]
    exact (List.getElem?_eq_some_iff.mp hx).1
  have hy := List.getElem?_eq_getElem hlt
  obtain ⟨x₀, hx₀, hR⟩ := hprev _ hy
  rw [hx, Option.some.injEq] at hx₀
  subst hx₀
  exact ⟨_, hy, hR⟩

end Runs
