import Netdiag.App.Cancels

namespace Netdiag.App

/-!
# App — the capture screen

`wire_capture` and `write_pcap` of `slint-app/src/app.rs`.  All captures share one
`Capture`: Start resets it, the task Start spawns fills it, Stop reads its `streamId`, Save
writes it out.

* `Capture`, `writePcap` — what a capture keeps, and the file made of it.
* `CaptureScreen` / `CaptureScreen.step` — the screen above the streams of `Net`: the two
  buttons, the event loop and the tasks.
* `cleared_of_stopsAll` — when a screen that shows nothing running has nothing running.

Start is shown while nothing runs, Stop while something does (`ui/app.slint`).
-/

/-! ### What a capture keeps -/

/-- The fields of `CapturedPacket` the app uses. -/
structure CapturedPacket where
  unixMs : Int
  unixUsFraction : UInt32
  originalLength : UInt32
  data : List UInt8
  deriving DecidableEq, Repr

/-- `Capture`. -/
structure Capture where
  pcapHeader : List UInt8 := []
  interface : String := ""
  packets : List CapturedPacket := []
  bytes : Nat := 0
  streamId : Option Nat := none
  deriving DecidableEq, Repr

/-- `u32::to_le_bytes`. -/
def le32 (x : UInt32) : List UInt8 :=
  [x.toUInt8, (x >>> 8).toUInt8, (x >>> 16).toUInt8, (x >>> 24).toUInt8]

/-- A record of the file: the 16-byte classic header and the bytes. -/
def CapturedPacket.record (p : CapturedPacket) : List UInt8 :=
  let seconds := UInt32.ofInt (p.unixMs / 1000)
  let micros := UInt32.ofInt (p.unixMs % 1000) * 1000 + p.unixUsFraction
  le32 seconds ++ le32 micros ++ le32 (UInt32.ofNat p.data.length) ++ le32 p.originalLength
    ++ p.data

/-- A file `write_pcap` writes. -/
structure PcapFile where
  name : String
  contents : List UInt8
  deriving DecidableEq, Repr

/-- `write_pcap`, at `now` seconds of Unix time, on a file system that works. -/
def writePcap (now : Nat) (capture : Capture) : Except String PcapFile :=
  if capture.packets.isEmpty then .error "nothing captured yet"
  else if capture.pcapHeader.isEmpty then
    .error "the daemon never sent a pcap header, so the link type is unknown"
  else
    let interface := if capture.interface.isEmpty then "any" else capture.interface
    .ok { name := s!"netdiag-{interface}-{now}.pcap"
          contents := capture.pcapHeader ++ capture.packets.flatMap CapturedPacket.record }

/-- The frames of a `StartCapture` stream. -/
inductive CaptureFrame
  | started (pcapFileHeader : List UInt8) (interfaceName : String)
  | packet (packet : CapturedPacket)
  | finished
  | other
  deriving DecidableEq, Repr

namespace CaptureFrame

def isStarted : CaptureFrame → Bool
  | .started _ _ => true
  | _ => false

/-- The frame goes into the shared `Capture`. -/
def isKept : CaptureFrame → Bool
  | .started _ _ => true
  | .packet _ => true
  | _ => false

/-- The daemon announces a capture first, and once. -/
def valid (sent : List CaptureFrame) (f : CaptureFrame) : Bool := sent.isEmpty == f.isStarted

end CaptureFrame

/-! ### The screen -/

/-- History: which task's frames the shared `Capture` was filled with. -/
structure Source where
  header : Option Nat := none
  packets : List Nat := []
  deriving DecidableEq, Repr

/-- The capture screen.  `slot` is the client the app holds, by its connection; `posted`
    counts the closures on the event loop that are going to clear `running`. -/
structure CaptureScreen where
  net : Net CaptureFrame
  slot : Option Nat
  capture : Capture
  running : Bool
  posted : Nat
  source : Source

namespace CaptureScreen

/-- The app has just started. -/
def init : CaptureScreen :=
  { net := .init, slot := none, capture := {}, running := false, posted := 0
    source := {} }

/-- Who moves, and with what from the environment. -/
inductive Action
  /-- The task of Connect sets the client. -/
  | connect
  /-- Disconnect is pressed. -/
  | disconnect
  /-- Start is pressed. -/
  | start (interface : String)
  /-- Stop is pressed. -/
  | stop
  /-- The event loop runs a posted closure. -/
  | ui
  /-- Something moves below the screen. -/
  | net (a : Net.Action CaptureFrame)
  deriving DecidableEq

/-- What the task of call `t` does with a frame. -/
def handle (s : CaptureScreen) (t : Nat) : CaptureFrame → CaptureScreen
  | .started pcapFileHeader interfaceName =>
      { s with capture := { s.capture with pcapHeader := pcapFileHeader
                                           interface := interfaceName }
               source := { s.source with header := some t } }
  | .packet packet =>
      { s with capture := { s.capture with bytes := s.capture.bytes + packet.originalLength.toNat
                                           packets := s.capture.packets ++ [packet] }
               source := { s.source with packets := s.source.packets ++ [t] } }
  -- The closure that clears `running` is posted, and the task goes on to read the end.
  | .finished => { s with posted := s.posted + 1 }
  | .other => s

/-- What a task adds to its step: it stores the id, handles a frame, or posts that the
    capture is over. -/
def react (s : CaptureScreen) (a : Net.Action CaptureFrame) (net : Net CaptureFrame) :
    CaptureScreen :=
  let s' := { s with net }
  match a with
  | .open t _ =>
      match net.calls[t]? with
      -- A request that failed ends the task, and its closure clears `running` too.
      | some call => if call.pc = .returned then { s' with posted := s.posted + 1 } else s'
      | none => s'
  | .store t =>
      match net.calls[t]? with
      | some call => { s' with capture := { s.capture with streamId := some call.id } }
      | none => s'
  | .recv t =>
      match s.net.calls[t]? with
      | some call =>
        match call.inbox with
        | f :: _ => s'.handle t f
        -- The channel is closed and empty.
        | [] => { s' with posted := s.posted + 1 }
      | none => s'
  | _ => s'

/-- One step. -/
def step (s : CaptureScreen) : Action → Option CaptureScreen
  | .connect => some { s with net := s.net.connect, slot := some s.net.conns.length }
  | .disconnect =>
      match s.slot with
      | some c => some { s with net := s.net.disconnect c, slot := none }
      | none => none
  | .start interface =>
      -- The button of a running capture is that of `stop`.
      if s.running then none
      else match s.slot with
        | some c =>
            some { s with net := s.net.spawn c, capture := { interface }, running := true
                          source := {} }
        | none => none
  | .stop =>
      if s.running then
        -- The id of whichever task stored one last; no capture has to have it still.
        let net := match s.slot, s.capture.streamId with
          | some c, some id => s.net.spawnCancel c id
          | _, _ => s.net
        some { s with net, running := false }
      else none
  -- A closure does not say whose it is.
  | .ui => if 0 < s.posted then some { s with posted := s.posted - 1, running := false } else none
  | .net a => (s.net.step CaptureFrame.valid a).map (s.react a)

/-- A run of the screen whose steps all meet `ok`. -/
abbrev Run (ok : CaptureScreen → Action → Prop) (s : CaptureScreen) : Prop :=
  Runs.Steps step ok init s

/-- Executing a list of actions of the screen gives a run. -/
theorem exists_run (ok : CaptureScreen → Action → Prop) [∀ s a, Decidable (ok s a)]
    (as : List Action) (P : CaptureScreen → Prop) [DecidablePred P]
    (h : (Runs.exec step ok init as).any (fun s => decide (P s)) = true) :
    ∃ s, Run ok s ∧ P s :=
  Runs.Steps.exists_of_exec as P h

variable {s s' : CaptureScreen} {a : Action}

/-- Handling a frame leaves the streams, the client and what is shown alone: the closures
    that clear `running` are only posted. -/
@[simp] theorem handle_fields (s : CaptureScreen) (t : Nat) (f : CaptureFrame) :
    (s.handle t f).net = s.net ∧ (s.handle t f).slot = s.slot ∧
      (s.handle t f).running = s.running := by
  cases f <;> exact ⟨rfl, rfl, rfl⟩

/-- So does everything else a task adds to its step. -/
theorem react_fields (s : CaptureScreen) (a : Net.Action CaptureFrame) (net : Net CaptureFrame) :
    (s.react a net).net = net ∧ (s.react a net).slot = s.slot ∧
      (s.react a net).running = s.running := by
  cases a with
  | «open» t ok =>
    simp only [react]
    split
    · split <;> exact ⟨rfl, rfl, rfl⟩
    · exact ⟨rfl, rfl, rfl⟩
  | store t =>
    simp only [react]
    split <;> exact ⟨rfl, rfl, rfl⟩
  | recv t =>
    simp only [react]
    split
    · split
      · simp
      · exact ⟨rfl, rfl, rfl⟩
    · exact ⟨rfl, rfl, rfl⟩
  | other | send | fail | shutdown | serve | frame | finish | reset | close => exact ⟨rfl, rfl, rfl⟩

/-- Everything a step of the screen can do. -/
inductive Effect (s : CaptureScreen) : Action → CaptureScreen → Prop
  | connected : Effect s .connect { s with net := s.net.connect, slot := some s.net.conns.length }
  | disconnected (c : Nat) (hslot : s.slot = some c) :
      Effect s .disconnect { s with net := s.net.disconnect c, slot := none }
  | started (interface : String) (c : Nat) (hslot : s.slot = some c) :
      Effect s (.start interface)
        { s with net := s.net.spawn c, capture := { interface }, running := true
                 source := {} }
  /-- Stop has a client and an id to cancel. -/
  | stopped (c id : Nat) (hslot : s.slot = some c) (hid : s.capture.streamId = some id) :
      Effect s .stop { s with net := s.net.spawnCancel c id, running := false }
  /-- Stop has nothing to cancel. -/
  | stoppedOnly (hnone : ∀ c id, s.slot = some c → s.capture.streamId = some id → False) :
      Effect s .stop { s with running := false }
  | refreshed (posted : Nat) : Effect s .ui { s with posted, running := false }
  | moved (a : Net.Action CaptureFrame) (net : Net CaptureFrame)
      (hstep : s.net.step CaptureFrame.valid a = some net) : Effect s (.net a) (s.react a net)

/-- The inversion lemma. -/
theorem step_effect (h : s.step a = some s') : Effect s a s' := by
  cases a with
  | connect => cases h; exact .connected
  | disconnect =>
    simp only [step] at h
    split at h
    · rename_i c hslot; cases h; exact .disconnected c hslot
    · cases h
  | start interface =>
    simp only [step] at h
    split at h
    · cases h
    · split at h
      · rename_i c hslot; cases h; exact .started interface c hslot
      · cases h
  -- Stop posts a cancel if there is a stream to cancel, and clears the flag anyway.
  | stop =>
    simp only [step] at h
    split at h
    · cases h
      split
      · rename_i c id hslot hid; exact .stopped c id hslot hid
      · rename_i hnone; exact .stoppedOnly hnone
    · cases h
  | ui =>
    simp only [step] at h
    split at h
    · cases h; exact .refreshed _
    · cases h
  | net a =>
    obtain ⟨net, hnet, rfl⟩ := Option.map_eq_some_iff.mp h
    exact .moved a net hnet

/-! ### Stop -/

/-- While the screen shows that nothing runs, no start is pending and no cancel is in
    flight, no capture of the app is active in the daemon. -/
def Cleared (s : CaptureScreen) : Prop :=
  s.running = false → s.net.Quiet → (∀ x ∈ s.net.cancels, x.pc = .done) →
    ∀ call ∈ s.net.calls, call.phase ≠ .active

/-- Stop is pressed when no start is pending and every capture that is active is the one it
    finds stored, or is being cancelled already.  A posted closure clears `running` only when
    no start is pending and whatever is active is being cancelled: the closures do not say
    which capture they are about.  And no connection is shut down under a cancel that has
    yet to be written. -/
def StopsAll (s : CaptureScreen) : Action → Prop
  | .stop => s.net.Quiet ∧ ∀ (t : Nat) call, s.net.calls[t]? = some call → call.phase = .active →
      (s.slot = some call.conn ∧ s.capture.streamId = some call.id) ∨ s.net.Cancelling call
  | .ui => s.running = true → s.net.Quiet ∧ s.net.Covered
  | .net a => s.net.ShutsAfter a
  | _ => True

/-- What holds of the screen as long as what clears `running` stops everything. -/
structure Stopping (s : CaptureScreen) : Prop where
  sound : s.net.Sound
  slot : ∀ c, s.slot = some c → ∃ conn, s.net.conns[c]? = some conn ∧ conn.closing = false ∧
    conn.shut = false
  stopped : s.running = false → s.net.Quiet ∧ s.net.Covered

/-- An app that has just started has nothing to stop. -/
theorem stopping_init : init.Stopping where
  sound := Net.sound_init
  slot c h := by cases h
  stopped _ := ⟨fun t call h => by simp [init, Net.init] at h,
    fun t call h => by simp [init, Net.init] at h⟩

/-- One step keeps `Stopping`. -/
theorem Effect.stopping (h : Effect s a s') (hok : s.StopsAll a) (hs : s.Stopping) :
    s'.Stopping := by
  cases h with
  | connected =>
    refine ⟨hs.sound.connect, fun c hc => ?_, hs.stopped⟩
    cases hc
    exact ⟨.new, List.getElem?_concat_length, rfl, rfl⟩
  | disconnected c hslot => exact ⟨hs.sound.disconnect c, (fun c hc => by cases hc), hs.stopped⟩
  | started interface c hslot =>
    exact ⟨hs.sound.spawn c, hs.slot, (fun hrunning => by cases hrunning)⟩
  | stopped c id hslot hid =>
    obtain ⟨conn, hconn, -, hopen⟩ := hs.slot c hslot
    refine ⟨hs.sound.spawnCancel hconn hopen, hs.slot, fun _ => ⟨hok.1, ?_⟩⟩
    refine Net.covered_spawnCancel fun t call hcall hactive => ?_
    refine (hok.2 t call hcall hactive).imp_left fun ⟨hc, hi⟩ => ?_
    rw [hslot, Option.some.injEq] at hc
    rw [hid, Option.some.injEq] at hi
    exact ⟨hc.symm, hi.symm⟩
  | stoppedOnly hnone =>
    refine ⟨hs.sound, hs.slot, fun _ => ⟨hok.1, fun t call hcall hactive => ?_⟩⟩
    -- with nothing to cancel, whatever is active is being cancelled already
    rcases hok.2 t call hcall hactive with ⟨hc, hi⟩ | hcancelling
    · exact (hnone _ _ hc hi).elim
    · exact hcancelling
  | refreshed posted =>
    refine ⟨hs.sound, hs.slot, fun _ => ?_⟩
    -- a closure that finds `running` cleared changes nothing
    cases hrunning : s.running with
    | false => exact hs.stopped hrunning
    | true => exact hok hrunning
  | moved b net hstep =>
    obtain ⟨hnet, hslot, hrunning⟩ := s.react_fields b net
    have heffect := Net.step_effect hstep
    refine ⟨?_, fun c hc => ?_, fun hp => ?_⟩
    · rw [hnet]
      exact heffect.sound hok hs.sound
    · rw [hnet]
      exact heffect.takes_writes (hs.slot c (hslot ▸ hc))
    · rw [hnet]
      obtain ⟨hquiet, hcovered⟩ := hs.stopped (hrunning ▸ hp)
      exact ⟨heffect.quiet hquiet, heffect.covered hs.sound hquiet hcovered⟩

/-- **A screen that shows nothing running has nothing running**, in every run in which what
    clears `running` comes when it can: no capture of the app is active in the daemon once
    no start is pending and no cancel is in flight. -/
theorem cleared_of_stopsAll (hrun : Run StopsAll s) : s.Cleared := by
  have hstopping : s.Stopping := by
    refine hrun.invariant stopping_init ?_
    intro s a s' hinv hok hs
    exact (step_effect hs).stopping hok hinv
  intro hrunning _ hdone call hmem hactive
  obtain ⟨t, hcall⟩ := List.mem_iff_getElem?.mp hmem
  -- what is active is being cancelled, and a cancel in flight is not done
  obtain ⟨j, x, hx, hpc, -⟩ := (hstopping.stopped hrunning).2 t call hcall hactive
  exact hpc (hdone x (List.mem_of_getElem? hx))

instance (s : CaptureScreen) (a : Action) : Decidable (s.StopsAll a) :=
  match a with
  | .stop =>
    decidable_of_iff (s.net.Quiet ∧ ∀ call ∈ s.net.calls, call.phase = .active →
      (s.slot = some call.conn ∧ s.capture.streamId = some call.id) ∨ s.net.Cancelling call)
      (and_congr_right' Net.forall_calls)
  | .ui =>
    decidable_of_iff (s.running = true → s.net.Quiet ∧ ∀ call ∈ s.net.calls,
      call.phase = .active → s.net.Cancelling call)
      (imp_congr_right fun _ => and_congr_right' Net.forall_calls)
  | .net a => inferInstanceAs (Decidable (s.net.ShutsAfter a))
  | .connect => isTrue trivial
  | .disconnect => isTrue trivial
  | .start _ => isTrue trivial

/-- The task of call `t` gets its stream, stores the id and the session takes the stream. -/
def opens (t : Nat) : List Action :=
  [.net (.open t true), .net (.store t), .net (.serve 0 true)]

/-- The stream of call `t` is over: its channel closes, and its task finds out and posts. -/
def ends (t : Nat) : List Action := [.net (.close t), .net (.recv t)]

/-- One capture is stopped once it runs, and cancelled in the daemon; its closure comes
    late, but before the next Start.  The second capture ends by itself. -/
theorem cleared_of_stopsAll_running :
    ∃ s, Run StopsAll s ∧ s.running = false ∧ s.net.calls.length = 2 ∧ s.net.Quiet ∧
      (∀ x ∈ s.net.cancels, x.pc = .done) ∧ ∀ call ∈ s.net.calls, call.phase ≠ .active := by
  obtain ⟨s, hrun, hrunning, hlen, hquiet, hdone⟩ := exists_run StopsAll
    (List.flatten [[.connect, .start "wlan0"], opens 0,
      [.stop, .net (.send 0), .net (.serve 0 true)], ends 0, [.ui, .start "lo"], opens 1,
      [.net (.finish 1)], ends 1, [.ui]])
    (fun s => s.running = false ∧ s.net.calls.length = 2 ∧ s.net.Quiet ∧
      ∀ x ∈ s.net.cancels, x.pc = .done) (by decide +kernel)
  exact ⟨s, hrun, hrunning, hlen, hquiet, hdone, cleared_of_stopsAll hrun hrunning hquiet hdone⟩

/-- Stop pressed before the id is stored finds nothing to cancel, and the capture it was
    meant for goes on.  And where Stop is followed by the next Start, the closure of the
    stopped capture clears `running` under the new one. -/
theorem not_cleared_of_early_stop :
    (∃ s, Run (fun _ _ => True) s ∧ s.net.calls.length = 1 ∧ ¬ s.Cleared) ∧
    ∃ s, Run (fun _ _ => True) s ∧ s.net.calls.length = 2 ∧ ¬ s.Cleared := by
  have hnot : ∀ s : CaptureScreen, (s.running = false ∧ s.net.Quiet ∧
      (∀ x ∈ s.net.cancels, x.pc = .done) ∧ ∃ call ∈ s.net.calls, call.phase = .active) →
      ¬ s.Cleared := by
    rintro s ⟨hrunning, hquiet, hdone, call, hcall, hactive⟩ hcleared
    exact hcleared hrunning hquiet hdone call hcall hactive
  refine ⟨?_, ?_⟩
  · obtain ⟨s, hrun, hlen, hleft⟩ := exists_run (fun _ _ => True)
      (List.flatten [[.connect, .start "wlan0", .stop], opens 0])
      (fun s => s.net.calls.length = 1 ∧ s.running = false ∧ s.net.Quiet ∧
        (∀ x ∈ s.net.cancels, x.pc = .done) ∧ ∃ call ∈ s.net.calls, call.phase = .active)
      (by decide +kernel)
    exact ⟨s, hrun, hlen, hnot s hleft⟩
  · obtain ⟨s, hrun, hlen, hleft⟩ := exists_run (fun _ _ => True)
      (List.flatten [[.connect, .start "wlan0"], opens 0,
        [.stop, .net (.send 0), .net (.serve 0 true)], ends 0, [.start "lo"], opens 1, [.ui]])
      (fun s => s.net.calls.length = 2 ∧ s.running = false ∧ s.net.Quiet ∧
        (∀ x ∈ s.net.cancels, x.pc = .done) ∧ ∃ call ∈ s.net.calls, call.phase = .active)
      (by decide +kernel)
    exact ⟨s, hrun, hlen, hnot s hleft⟩

end CaptureScreen

end Netdiag.App
