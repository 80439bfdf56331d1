import Netdiag.App.Requests

namespace Netdiag.App

/-!
# App — the socket watch toggle

`on_toggle_socket_watch` of `wire_timeline` in `slint-app/src/app.rs`.  One toggle turns a
`WatchSockets` stream on and off; `AppState.socket_watch` keeps its id and `watching_sockets`
shows whether it runs.

* `WatchScreen` / `WatchScreen.step` — the toggle, the event loop and the stream tasks, above the
  streams of `Net`.
* `Consistent` — at rest, what the toggle shows and keeps is the one stream that is active.
* `Orderly` / `Stage` — as long as the toggle waits for the task before it, there is one task at a
  time and it goes through four stages.
* `consistent_of_orderly` — then the toggle is right.  It does not wait by itself: a toggle that is
  turned off before the id is stored has nothing to cancel, and a stream that ends clears the id
  and the flag of the next one.
-/

variable {F : Type}

/-- The toggle.  `slot` is the client the app holds, by its connection; `posted` counts the
    closures on the event loop that are going to clear `watchingSockets`. -/
structure WatchScreen (F : Type) where
  net : Net F
  slot : Option Nat
  socketWatch : Option Nat
  watchingSockets : Bool
  posted : Nat

namespace WatchScreen

/-- The app has just started. -/
def init : WatchScreen F :=
  { net := .init, slot := none, socketWatch := none, watchingSockets := false, posted := 0 }

/-- Who moves, and with what from the environment. -/
inductive Action (F : Type)
  /-- The task of Connect sets the client. -/
  | connect
  /-- Disconnect is pressed. -/
  | disconnect
  | toggle
  /-- The event loop runs a posted closure. -/
  | ui
  /-- Something moves below the screen. -/
  | net (a : Net.Action F)
  deriving DecidableEq

/-- The handler of the toggle, with the client on connection `c`: it takes the stored id and
    cancels it, flips the flag, and spawns a stream task if that is on now. -/
def toggle (s : WatchScreen F) (c : Nat) : WatchScreen F :=
  let net := match s.socketWatch with
    | some id => s.net.spawnCancel c id
    | none => s.net
  let wanted := !s.watchingSockets
  { s with net := if wanted then net.spawn c else net
           socketWatch := none
           watchingSockets := wanted }

/-- What a stream task adds to its step: it stores the id, or clears it at the end and posts that
    the flag be cleared.  Events it receives go to the timeline. -/
def react (s : WatchScreen F) (a : Net.Action F) (net : Net F) : WatchScreen F :=
  let s' := { s with net }
  match a with
  | .open t _ =>
      match net.calls[t]? with
      -- A request that failed leaves the id as it is.
      | some call => if call.pc = .returned then { s' with posted := s.posted + 1 } else s'
      | none => s'
  | .store t =>
      match net.calls[t]? with
      | some call => { s' with socketWatch := some call.id }
      | none => s'
  | .recv t =>
      match s.net.calls[t]? with
      | some call =>
        match call.inbox with
        | _ :: _ => s'
        -- The end clears the id whoever stored it.
        | [] => { s' with socketWatch := none, posted := s.posted + 1 }
      | none => s'
  | _ => s'

/-- One step; `valid` says which frame the daemon may send after which. -/
def step (valid : List F → F → Bool) (s : WatchScreen F) : Action F → Option (WatchScreen F)
  | .connect => some { s with net := s.net.connect, slot := some s.net.conns.length }
  | .disconnect =>
      match s.slot with
      | some c => some { s with net := s.net.disconnect c, slot := none }
      | none => none
  | .toggle =>
      match s.slot with
      | some c => some (s.toggle c)
      | none => none
  | .ui =>
      -- The flag is cleared whatever is running by then.
      if 0 < s.posted then some { s with posted := s.posted - 1, watchingSockets := false }
      else none
  | .net a => (s.net.step valid a).map (s.react a)

/-- A run of the screen whose steps all meet `ok`. -/
abbrev Run (valid : List F → F → Bool) (ok : WatchScreen F → Action F → Prop)
    (s : WatchScreen F) : Prop :=
  Runs.Steps (step valid) ok init s

/-- Executing a list of actions of the screen gives a run. -/
theorem exists_run (valid : List F → F → Bool) (ok : WatchScreen F → Action F → Prop)
    [∀ s a, Decidable (ok s a)] (as : List (Action F)) (P : WatchScreen F → Prop)
    [DecidablePred P]
    (h : (Runs.exec (step valid) ok init as).any (fun s => decide (P s)) = true) :
    ∃ s, Run valid ok s ∧ P s :=
  Runs.Steps.exists_of_exec as P h

/-! ### The property -/

/-- No toggle task and no cancel is in progress: every task waits for a frame of a stream that
    runs or has returned, no cancel is under way and nothing is posted. -/
def AtRest (s : WatchScreen F) : Prop :=
  s.net.Quiet ∧ (∀ call ∈ s.net.calls, call.phase = .over → call.pc = .returned) ∧
    (∀ x ∈ s.net.cancels, x.pc = .done) ∧ s.posted = 0

/-- At rest at most one stream is active, its id is the one that is kept, and the flag is set
    exactly if there is one. -/
def Consistent (s : WatchScreen F) : Prop :=
  s.AtRest →
    (∀ (t u : Nat) call call', s.net.calls[t]? = some call → s.net.calls[u]? = some call' →
      call.phase = .active → call'.phase = .active → t = u) ∧
    (∀ call ∈ s.net.calls, call.phase = .active → s.socketWatch = some call.id) ∧
    (s.watchingSockets = true ↔ ∃ call ∈ s.net.calls, call.phase = .active)

/-- The toggle is turned off when no start is under way and by the client that the stream runs on,
    it is turned on when every task before has returned and the flag it posted is cleared, and no
    connection is shut down under a cancel that has yet to be written. -/
def Orderly (s : WatchScreen F) : Action F → Prop
  | .toggle =>
      if s.watchingSockets then
        ∀ call ∈ s.net.calls, call.pc ≠ .calling ∧ call.pc ≠ .opened ∧
          (call.phase = .requested ∨ call.phase = .active → s.slot = some call.conn)
      else s.posted = 0 ∧ ∀ call ∈ s.net.calls, call.pc = .returned
  | .net a => s.net.ShutsAfter a
  | _ => True

/-! ### One task at a time -/

/-- Every task but `t` has returned. -/
def Alone (s : WatchScreen F) (t : Nat) : Prop :=
  ∀ (u : Nat) call, s.net.calls[u]? = some call → u ≠ t → call.pc = .returned

/-- Where the toggle is, if it waits for the task before. -/
inductive Stage (s : WatchScreen F) : Prop
  /-- No task runs; the last one may have left a closure. -/
  | off (hcalls : ∀ (t : Nat) call, s.net.calls[t]? = some call → call.pc = .returned)
      (hwatch : s.socketWatch = none) (hflag : s.posted = 0 → s.watchingSockets = false)
  /-- The task has not stored an id. -/
  | starting (t : Nat) (call : AppCall F) (hcall : s.net.calls[t]? = some call)
      (hpc : call.pc = .calling ∨ call.pc = .opened) (halone : s.Alone t)
      (hwatch : s.socketWatch = none) (hflag : s.watchingSockets = true) (hposted : s.posted = 0)
  | on (t : Nat) (call : AppCall F) (hcall : s.net.calls[t]? = some call)
      (hpc : call.pc = .receiving) (halone : s.Alone t) (hwatch : s.socketWatch = some call.id)
      (hflag : s.watchingSockets = true) (hposted : s.posted = 0)
  /-- The toggle is off, and the task will find its stream cancelled. -/
  | stopping (t : Nat) (call : AppCall F) (hcall : s.net.calls[t]? = some call)
      (hpc : call.pc = .receiving) (halone : s.Alone t) (hwatch : s.socketWatch = none)
      (hflag : s.watchingSockets = false) (hposted : s.posted = 0) (hdoomed : s.net.Doomed t)

/-- What holds of the toggle in an orderly run. -/
structure Inv (s : WatchScreen F) : Prop where
  tracked : s.net.Tracked
  slot : ∀ c, s.slot = some c → ∃ conn, s.net.conns[c]? = some conn ∧ conn.closing = false ∧
    conn.shut = false
  stage : s.Stage

theorem inv_init : (init : WatchScreen F).Inv where
  tracked := Net.tracked_init
  slot c h := by cases h
  stage := .off (fun t call h => by simp [init, Net.init] at h) rfl (fun _ => rfl)

variable {valid : List F → F → Bool} {s s' : WatchScreen F} {a : Net.Action F} {net : Net F}

/-! ### Steps below the screen -/

theorem react_fields (s : WatchScreen F) (a : Net.Action F) (net : Net F) :
    (s.react a net).net = net ∧ (s.react a net).slot = s.slot := by
  cases a with
  | «open» t ok =>
    simp only [react]
    split
    · split <;> exact ⟨rfl, rfl⟩
    · exact ⟨rfl, rfl⟩
  | store t =>
    simp only [react]
    split <;> exact ⟨rfl, rfl⟩
  | recv t =>
    simp only [react]
    split
    · split <;> exact ⟨rfl, rfl⟩
    · exact ⟨rfl, rfl⟩
  | other | send | fail | shutdown | serve | frame | finish | reset | close => exact ⟨rfl, rfl⟩

theorem react_of_task_none (h : a.task = none) : s.react a net = { s with net } := by
  cases a with
  | «open» | store | recv => cases h
  | other | send | fail | shutdown | serve | frame | finish | reset | close => rfl

/-- Tasks that have returned stay so. -/
theorem Alone.step {t : Nat} (halone : s.Alone t) (h : s.net.step valid a = some net)
    (hnet : s'.net = net) : s'.Alone t := by
  intro u call' hcall' hne
  rw [hnet] at hcall'
  obtain ⟨call, hcall, hmove⟩ := Net.step_move h hcall'
  exact hmove.returned (halone u call hcall hne)

/-- The one task that runs is the one that takes a step. -/
theorem Alone.task {t u : Nat} (halone : s.Alone t) (h : s.net.step valid a = some net)
    (hu : a.task = some u) : u = t := by
  by_contra hne
  obtain ⟨call, hcall, hpc⟩ := Net.step_task h hu
  exact hpc (halone u call hcall hne)

/-- A task that stays where it is adds nothing. -/
theorem Alone.react {t : Nat} {call call' : AppCall F} (halone : s.Alone t)
    (hcall : s.net.calls[t]? = some call) (hcall' : net.calls[t]? = some call')
    (h : s.net.step valid a = some net) (hpc : call'.pc = call.pc) :
    s.react a net = { s with net } := by
  cases htask : a.task with
  | none => exact react_of_task_none htask
  | some u =>
    obtain rfl := halone.task h htask
    cases a with
    | «open» t ok =>
      cases htask
      obtain ⟨old, hold, hcalling, -⟩ := Net.open_cases h
      rw [hcall, Option.some.injEq] at hold
      have hne : call'.pc ≠ .returned := by
        rw [hpc, hold, hcalling]
        decide
      simp only [WatchScreen.react, hcall', if_neg hne]
    | store t =>
      cases htask
      cases Net.step_effect h with
      | stored t old hold hopened =>
        rw [hcall, Option.some.injEq] at hold
        subst hold
        rcases Runs.set_cases hcall hcall' with ⟨-, rfl⟩ | ⟨hne, -⟩
        · rw [hopened] at hpc; cases hpc
        · exact absurd rfl hne
      | gaveUp a j x conn hx hconn hwhy ha => rcases ha with ha | ha <;> cases ha
      | hungUp a c conn rest hconn hrest ha => rcases ha with ⟨ok, ha⟩ | ha <;> cases ha
    | recv t =>
      cases htask
      obtain ⟨running, hrunning, hne⟩ := Net.step_task h rfl
      obtain ⟨old, hold, ⟨f, rest, hinbox, -⟩ | ⟨-, rfl⟩⟩ := Net.recv_cases h
      · simp only [WatchScreen.react, hold, hinbox]
      · rw [hcall, Option.some.injEq] at hold hrunning
        subst hold hrunning
        rcases Runs.set_cases hcall hcall' with ⟨-, rfl⟩ | ⟨hne', -⟩
        · exact absurd hpc.symm hne
        · exact absurd rfl hne'
    | other | send | fail | shutdown | serve | frame | finish | reset | close => cases htask

/-- The task at the end of its stream, or without one, leaves nothing but a closure. -/
theorem Alone.off {t : Nat} {call' : AppCall F} (halone : s'.Alone t)
    (hcall' : s'.net.calls[t]? = some call') (hpc : call'.pc = .returned)
    (hwatch : s'.socketWatch = none) (hposted : s'.posted ≠ 0) : s'.Stage := by
  refine .off (fun u other hother => ?_) hwatch (fun h => absurd h hposted)
  by_cases hut : u = t
  · subst hut
    rw [hcall', Option.some.injEq] at hother
    rw [← hother, hpc]
  · exact halone u other hother hut

/-- A stream ends. -/
theorem Alone.drained {t : Nat} {call : AppCall F} (halone : s.Alone t)
    (hcall : s.net.calls[t]? = some call) (hinbox : call.inbox = [])
    (hcall' : net.calls[t]? = some { call with pc := .returned })
    (h : s.net.step valid (.recv t) = some net) : (s.react (.recv t) net).Stage := by
  have hreact : s.react (.recv t) net =
      { s with net, socketWatch := none, posted := s.posted + 1 } := by
    simp only [WatchScreen.react, hcall, hinbox]
  rw [hreact]
  exact Alone.off (halone.step h rfl) hcall' rfl rfl (Nat.succ_ne_zero _)

/-- The task that runs, after a step. -/
theorem move_next (h : s.net.step valid a = some net) {t : Nat} {call : AppCall F}
    (hcall : s.net.calls[t]? = some call) :
    ∃ call', net.calls[t]? = some call' ∧ Net.Move a t call call' :=
  Runs.exists_next (Net.step_effect h).length_calls (fun _ => Net.step_move h) hcall

/-- A task that receives goes on as before, or its stream ends. -/
theorem Alone.receiving {t : Nat} {call : AppCall F} (halone : s.Alone t)
    (hcall : s.net.calls[t]? = some call) (hpc : call.pc = .receiving)
    (h : s.net.step valid a = some net) :
    (∃ call', net.calls[t]? = some call' ∧ call'.pc = .receiving ∧ call'.id = call.id ∧
      s.react a net = { s with net }) ∨ (s.react a net).Stage := by
  obtain ⟨call', hcall', hmove⟩ := move_next h hcall
  cases hmove with
  | carried hconn hid hsame =>
    exact .inl ⟨call', hcall', hsame.trans hpc, hid, halone.react hcall hcall' h hsame⟩
  | drained ha _ hinbox _ he =>
    subst ha he
    exact .inr (halone.drained hcall hinbox hcall' h)
  | opened _ h' | refused _ _ h' | stored _ h' => rw [hpc] at h'; cases h'

/-- A task that has not stored an id comes closer to it, or returns. -/
theorem Alone.starting {t : Nat} {call : AppCall F} (halone : s.Alone t)
    (hcall : s.net.calls[t]? = some call) (hpc : call.pc = .calling ∨ call.pc = .opened)
    (hwatch : s.socketWatch = none) (hflag : s.watchingSockets = true) (hposted : s.posted = 0)
    (h : s.net.step valid a = some net) : (s.react a net).Stage := by
  obtain ⟨call', hcall', hmove⟩ := move_next h hcall
  cases hmove with
  | carried hconn hid hsame =>
    rw [halone.react hcall hcall' h hsame]
    exact .starting t call' hcall' (hsame ▸ hpc) (halone.step h rfl) hwatch hflag hposted
  | opened ha _ hpc' =>
    subst ha
    have hreact : s.react (.open t true) net = { s with net } := by
      simp only [WatchScreen.react, hcall', hpc', reduceCtorEq, if_false]
    rw [hreact]
    exact .starting t call' hcall' (.inr hpc') (halone.step h rfl) hwatch hflag hposted
  | refused ok ha _ hpc' =>
    subst ha
    have hreact : s.react (.open t ok) net = { s with net, posted := s.posted + 1 } := by
      simp only [WatchScreen.react, hcall', hpc', if_true]
    rw [hreact]
    exact Alone.off (halone.step h rfl) hcall' hpc' hwatch (Nat.succ_ne_zero _)
  -- The id is stored, and the watch is on.
  | stored ha _ he =>
    subst ha
    have hreact : s.react (.store t) net = { s with net, socketWatch := some call'.id } := by
      simp only [WatchScreen.react, hcall']
    rw [hreact]
    exact .on t call' hcall' (by rw [he]) (halone.step h rfl) rfl hflag hposted
  | drained ha hreceiving => simp [hreceiving] at hpc

/-- One step below the screen takes the toggle to a stage. -/
theorem Inv.stage_step (hs : s.Inv) (h : s.net.step valid a = some net) :
    (s.react a net).Stage := by
  cases hs.stage with
  | off hcalls hwatch hflag =>
    -- Every call has returned, so no task moves.
    have htask : a.task = none := by
      rw [Option.eq_none_iff_forall_ne_some]
      intro t ht
      obtain ⟨call, hcall, hpc⟩ := Net.step_task h ht
      exact hpc (hcalls t call hcall)
    rw [react_of_task_none htask]
    refine .off (fun t call' hcall' => ?_) hwatch hflag
    obtain ⟨call, hcall, hmove⟩ := Net.step_move h hcall'
    exact hmove.returned (hcalls t call hcall)
  | starting t call hcall hpc halone hwatch hflag hposted =>
    exact halone.starting hcall hpc hwatch hflag hposted h
  | on t call hcall hpc halone hwatch hflag hposted =>
    rcases halone.receiving hcall hpc h with ⟨call', hcall', hpc', hid, hreact⟩ | hstage
    · rw [hreact]
      exact .on t call' hcall' hpc' (halone.step h rfl) (hid ▸ hwatch) hflag hposted
    · exact hstage
  | stopping t call hcall hpc halone hwatch hflag hposted hdoomed =>
    have hreceiving : ∀ old, s.net.calls[t]? = some old → old.pc = .receiving := by
      intro old hold
      rw [hcall, Option.some.injEq] at hold
      rw [← hold, hpc]
    -- A cancel that is under way stays under way.
    have hdoomed' : net.Doomed t :=
      Net.step_doomed h hs.tracked.sound hs.tracked.requests hreceiving hdoomed
    rcases halone.receiving hcall hpc h with ⟨call', hcall', hpc', -, hreact⟩ | hstage
    · rw [hreact]
      exact .stopping t call' hcall' hpc' (halone.step h rfl) hwatch hflag hposted hdoomed'
    · exact hstage

/-! ### The toggle -/

/-- Turned off, the toggle stops the stream it stored. -/
theorem Inv.toggle_off (hs : s.Inv) {c : Nat} (hslot : s.slot = some c)
    (hflag : s.watchingSockets = true) (hok : s.Orderly .toggle) : (s.toggle c).Inv := by
  obtain ⟨conn, hconn, -, hopen⟩ := hs.slot c hslot
  simp only [Orderly, hflag, if_true] at hok
  cases hs.stage with
  | off hcalls hwatch _ =>
    have htoggle : s.toggle c = { s with watchingSockets := false } := by
      simp [toggle, hflag, hwatch]
    rw [htoggle]
    exact ⟨hs.tracked, hs.slot, .off hcalls hwatch (fun _ => rfl)⟩
  | starting t call hcall hpc =>
    obtain ⟨hcalling, hopened, -⟩ := hok call (List.mem_of_getElem? hcall)
    exact (hpc.elim hcalling hopened).elim
  | on t call hcall hpc halone hwatch _ hposted =>
    have htoggle : s.toggle c = { s with
        net := s.net.spawnCancel c call.id, socketWatch := none, watchingSockets := false } := by
      simp [toggle, hflag, hwatch]
    -- The cancel goes over the connection the stream came from.
    have hdoomed : (s.net.spawnCancel c call.id).Doomed t := by
      refine hs.tracked.doomed_spawnCancel fun old hold hrun => ?_
      rw [hcall, Option.some.injEq] at hold
      subst hold
      have hsame := (hok call (List.mem_of_getElem? hcall)).2.2 hrun
      rw [hslot, Option.some.injEq] at hsame
      exact ⟨hsame.symm, rfl⟩
    rw [htoggle]
    exact ⟨hs.tracked.spawnCancel hconn hopen, hs.slot,
      .stopping t call hcall hpc halone rfl rfl hposted hdoomed⟩
  | stopping t call hcall hpc halone hwatch hoff => rw [hflag] at hoff; cases hoff

/-- Turned on, it starts the one task that runs. -/
theorem Inv.toggle_on (hs : s.Inv) {c : Nat} (hflag : s.watchingSockets = false)
    (hok : s.Orderly .toggle) : (s.toggle c).Inv := by
  simp only [Orderly, hflag, Bool.false_eq_true, if_false] at hok
  obtain ⟨hposted, hreturned⟩ := hok
  cases hs.stage with
  | off hcalls hwatch _ =>
    have htoggle : s.toggle c = { s with net := s.net.spawn c, watchingSockets := true } := by
      simp [toggle, hflag, hwatch]
    rw [htoggle]
    refine ⟨hs.tracked.spawn c, hs.slot, .starting s.net.calls.length _
      List.getElem?_concat_length (.inl rfl) (fun u call hcall hne => ?_) hwatch rfl hposted⟩
    rcases Runs.push_cases hcall with hold | ⟨he, -⟩
    · exact hcalls u call hold
    · exact absurd he hne
  | starting t call hcall hpc halone hwatch hon => rw [hflag] at hon; cases hon
  | on t call hcall hpc halone hwatch hon => rw [hflag] at hon; cases hon
  | stopping t call hcall hpc =>
    rw [hreturned call (List.mem_of_getElem? hcall)] at hpc; cases hpc

/-- A stage does not depend on the client, nor on what a connection is told. -/
theorem Stage.of_net (h : s.Stage) (hcalls : s'.net.calls = s.net.calls)
    (hwatch : s'.socketWatch = s.socketWatch) (hflag : s'.watchingSockets = s.watchingSockets)
    (hposted : s'.posted = s.posted) (hdoomed : ∀ t, s.net.Doomed t → s'.net.Doomed t) :
    s'.Stage := by
  have halone {t : Nat} (halone : s.Alone t) : s'.Alone t := by
    unfold Alone
    rw [hcalls]
    exact halone
  cases h with
  | off hc hw hf =>
    exact .off (hcalls ▸ hc) (hwatch.trans hw) (fun hp => hflag.trans (hf (hposted ▸ hp)))
  | starting t call hcall hpc ha hw hf hp =>
    exact .starting t call (hcalls ▸ hcall) hpc (halone ha) (hwatch.trans hw) (hflag.trans hf)
      (hposted.trans hp)
  | on t call hcall hpc ha hw hf hp =>
    exact .on t call (hcalls ▸ hcall) hpc (halone ha) (hwatch.trans hw) (hflag.trans hf)
      (hposted.trans hp)
  | stopping t call hcall hpc ha hw hf hp hd =>
    exact .stopping t call (hcalls ▸ hcall) hpc (halone ha) (hwatch.trans hw) (hflag.trans hf)
      (hposted.trans hp) (hdoomed t hd)

/-- One orderly step keeps the invariant. -/
theorem Inv.step {b : Action F} (hs : s.Inv) (hok : s.Orderly b) (h : s.step valid b = some s') :
    s'.Inv := by
  cases b with
  | connect =>
    cases h
    refine ⟨hs.tracked.connect, fun c hc => ?_, hs.stage.of_net rfl rfl rfl rfl fun t => .connect⟩
    cases hc
    exact ⟨.new, List.getElem?_concat_length, rfl, rfl⟩
  | disconnect =>
    simp only [WatchScreen.step] at h
    split at h
    · rename_i c hslot
      cases h
      exact ⟨hs.tracked.disconnect c, (fun d hd => by cases hd),
        hs.stage.of_net rfl rfl rfl rfl fun t hd => hd.disconnect c⟩
    · cases h
  -- The button starts a watch or stops the one that is there.
  | toggle =>
    simp only [WatchScreen.step] at h
    split at h
    · rename_i c hslot
      cases h
      cases hflag : s.watchingSockets with
      | true => exact hs.toggle_off hslot hflag hok
      | false => exact hs.toggle_on hflag hok
    · cases h
  -- A posted closure runs, and only a watch that has ended posts one.
  | ui =>
    simp only [WatchScreen.step, Option.ite_none_right_eq_some] at h
    obtain ⟨hpos, he⟩ := h
    cases he
    refine ⟨hs.tracked, hs.slot, ?_⟩
    cases hs.stage with
    | off hcalls hwatch _ => exact .off hcalls hwatch (fun _ => rfl)
    | starting _ _ _ _ _ _ _ hposted | on _ _ _ _ _ _ _ hposted
    | stopping _ _ _ _ _ _ _ hposted => omega
  -- The network moves, and the screen's tasks react to it.
  | net a =>
    obtain ⟨net, hnet, rfl⟩ := Option.map_eq_some_iff.mp h
    obtain ⟨hfield, hslot⟩ := s.react_fields a net
    refine ⟨?_, fun c hc => ?_, hs.stage_step hnet⟩
    · rw [hfield]
      exact hs.tracked.step hok hnet
    · rw [hfield]
      exact (Net.step_effect hnet).takes_writes (hs.slot c (hslot ▸ hc))

theorem inv_of_run (hrun : Run valid Orderly s) : s.Inv :=
  Runs.Steps.invariant hrun inv_init (fun _ _ _ hs hok h => hs.step hok h)

/-! ### At rest -/

/-- A stream that is active is the one of the task that runs. -/
theorem Inv.active_eq (hs : s.Inv) {t u : Nat} {call : AppCall F} (halone : s.Alone t)
    (hcall : s.net.calls[u]? = some call) (hactive : call.phase = .active) : u = t := by
  by_contra hne
  have hover := (hs.tracked.inStep u call hcall).ended (.inr (halone u call hcall hne))
  rw [hactive] at hover; cases hover

/-- At rest, a task that waits for a frame waits on a stream that is active. -/
theorem Inv.active_of_receiving (hs : s.Inv) (hrest : s.AtRest) {t : Nat} {call : AppCall F}
    (hcall : s.net.calls[t]? = some call) (hpc : call.pc = .receiving) :
    call.phase = .active := by
  obtain ⟨hquiet, hover, -, -⟩ := hrest
  have hbegun := (hs.tracked.inStep t call hcall).begun (.inr hpc)
  have hread := (hquiet t call hcall).2.2
  cases hphase : call.phase with
  | unsent => exact absurd hphase hbegun
  | requested => exact absurd hphase hread
  | active => rfl
  | «over» =>
    have hreturned := hover call (List.mem_of_getElem? hcall) hphase
    rw [hpc] at hreturned; cases hreturned

/-- The toggle shows and keeps what runs, in every run in which it waits for the task before. -/
theorem consistent_of_orderly (valid : List F → F → Bool) {s : WatchScreen F}
    (hrun : Run valid Orderly s) : s.Consistent := by
  have hs := inv_of_run hrun
  intro hrest
  have hposted : s.posted = 0 := hrest.2.2.2
  cases hs.stage with
  | off hcalls hwatch hflag =>
    -- no task runs, so no stream does
    have hnone : ∀ (t : Nat) call, s.net.calls[t]? = some call → call.phase ≠ .active := by
      intro t call hcall hactive
      have hover := (hs.tracked.inStep t call hcall).ended (.inr (hcalls t call hcall))
      rw [hactive] at hover; cases hover
    refine ⟨fun t _ call _ hcall _ hactive => absurd hactive (hnone t call hcall), ?_, ?_⟩
    · exact fun call hmem hactive => absurd hactive (Net.forall_calls.mpr hnone call hmem)
    · rw [hflag hposted]
      constructor
      · intro h; cases h
      · rintro ⟨call, hmem, hactive⟩
        exact absurd hactive (Net.forall_calls.mpr hnone call hmem)
  | starting t call hcall hpc =>
    obtain ⟨hcalling, hopened, -⟩ := hrest.1 t call hcall
    exact (hpc.elim hcalling hopened).elim
  | on t call hcall hpc halone hwatch hflag =>
    have hactive := hs.active_of_receiving hrest hcall hpc
    refine ⟨fun u v _ _ hu hv hau hav => ?_, fun other hmem hother => ?_, ?_⟩
    · rw [hs.active_eq halone hu hau, hs.active_eq halone hv hav]
    · obtain ⟨u, hu⟩ := List.mem_iff_getElem?.mp hmem
      obtain rfl := hs.active_eq halone hu hother
      rw [hcall, Option.some.injEq] at hu
      rw [hwatch, hu]
    · rw [hflag]
      exact ⟨fun _ => ⟨call, List.mem_of_getElem? hcall, hactive⟩, fun _ => rfl⟩
  | stopping t call hcall hpc halone hwatch hflag _ hdoomed =>
    -- its cancel has returned, and it did not outlive it
    have hactive := hs.active_of_receiving hrest hcall hpc
    obtain ⟨j, x, hx, hpcx, -⟩ := hdoomed call hcall (.inr hactive)
    exact absurd (hrest.2.2.1 x (List.mem_of_getElem? hx)) hpcx

/-! ### Runs -/

instance (s : WatchScreen F) : Decidable s.AtRest :=
  inferInstanceAs (Decidable (_ ∧ _ ∧ _ ∧ _))

instance (s : WatchScreen F) (a : Action F) : Decidable (s.Orderly a) := by
  unfold Orderly
  split <;> infer_instance

/-- The task of call `t` gets its stream, stores the id and the session takes the stream. -/
def opens (t : Nat) : List (Action Unit) :=
  [.net (.open t true), .net (.store t), .net (.serve 0 true)]

/-- The frames of a stream that sends nothing. -/
def silent (_ : List Unit) (_ : Unit) : Bool := false

/-- A watch that is turned on, off and on again, each time after the task before. -/
theorem consistent_of_orderly_twice : ∃ s, Run silent Orderly s ∧ s.AtRest ∧
    s.watchingSockets = true ∧ s.net.calls.length = 2 ∧ s.Consistent := by
  obtain ⟨s, hrun, hrest, hflag, hlen⟩ := exists_run silent Orderly
    (List.flatten [[.connect, .toggle], opens 0,
      [.toggle, .net (.send 0), .net (.serve 0 true), .net (.close 0), .net (.recv 0), .ui,
        .toggle], opens 1])
    (fun s => s.AtRest ∧ s.watchingSockets = true ∧ s.net.calls.length = 2) (by decide +kernel)
  exact ⟨s, hrun, hrest, hflag, hlen, consistent_of_orderly silent hrun⟩

/-- Turned off before the id is stored, the toggle has nothing to cancel and the stream goes on
    with the flag cleared.  Turned on again before the old stream has ended, it has its own id and
    flag cleared by that end. -/
theorem not_consistent_of_hasty_toggle :
    (∃ s, Run silent (fun _ _ => True) s ∧ s.AtRest ∧ s.watchingSockets = false ∧
      (∃ call ∈ s.net.calls, call.phase = .active) ∧ ¬ s.Consistent) ∧
    (∃ s, Run silent (fun _ _ => True) s ∧ s.AtRest ∧ s.socketWatch = none ∧
      (∃ call ∈ s.net.calls, call.phase = .active) ∧ ¬ s.Consistent) := by
  constructor
  · obtain ⟨s, hrun, hrest, hflag, hactive⟩ := exists_run silent (fun _ _ => True)
      (List.flatten [[.connect, .toggle, .toggle], opens 0])
      (fun s => s.AtRest ∧ s.watchingSockets = false ∧ ∃ call ∈ s.net.calls, call.phase = .active)
      (by decide +kernel)
    refine ⟨s, hrun, hrest, hflag, hactive, fun hc => ?_⟩
    have hon := (hc hrest).2.2.mpr hactive
    rw [hflag] at hon; cases hon
  · obtain ⟨s, hrun, hrest, hwatch, hactive⟩ := exists_run silent (fun _ _ => True)
      (List.flatten [[.connect, .toggle], opens 0,
        [.toggle, .toggle, .net (.send 0), .net (.serve 0 true)], opens 1,
        [.net (.close 0), .net (.recv 0), .ui]])
      (fun s => s.AtRest ∧ s.socketWatch = none ∧ ∃ call ∈ s.net.calls, call.phase = .active)
      (by decide +kernel)
    refine ⟨s, hrun, hrest, hwatch, hactive, fun hc => ?_⟩
    obtain ⟨call, hmem, hrunning⟩ := hactive
    have hkept := (hc hrest).2.1 call hmem hrunning
    rw [hwatch] at hkept; cases hkept

end WatchScreen

end Netdiag.App
