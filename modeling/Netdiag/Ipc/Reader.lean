import Netdiag.Ipc.Client

namespace Netdiag.Ipc

/-!
# IPC — one reader for every call

`read_loop` is the only task that moves replies, so what holds it up holds up every call.
Two ways it can leave a call without its reply:

* **it is gone.**  `read_loop` clears `pending` once, on its way out.  A caller that files
  its sender after that, and whose write still succeeds, waits for ever: `Stranded`.
  `SentInTime` is the condition on a write that rules it out.
* **it is busy.**  `sender.send(frame).await` waits while the reply queue of that one call
  is full, and whatever is behind it on the socket waits too: `HeadOfLine`.
  `RoomAtLookup` is the condition on a lookup that rules it out.
-/

/-- The request is out and the call's task still expects frames. -/
def ClientCall.listening (call : ClientCall) : Bool :=
  match call.pc with
  | .waiting => true
  | .forwarding => true
  | .passing _ => true
  | _ => false

theorem ClientCall.listening_of_receiving {call : ClientCall} (h : call.receiving = true) :
    call.listening = true := by
  unfold receiving at h
  unfold listening
  split at h <;> simp_all

namespace DaemonClient

variable {c c' : DaemonClient} {a : Action} {i j : Nat} {call call' : ClientCall}

/-! ### Calls that outlive the reader -/

/-- `read_loop` has returned while call `i` waits on its reply queue, whose sender is
    still in `pending`. -/
def Stranded (c : DaemonClient) (i : Nat) : Prop :=
  c.reader = .exited ∧ ∃ call, c.calls[i]? = some call ∧ call.receiving = true ∧
    c.pending.lookup call.id = some i

/-- A request is written while the reader runs, or by a call whose sender it has dropped. -/
def SentInTime (c : DaemonClient) : Action → Prop
  | .task i (.send none) =>
      c.reader = .exited → ∀ call ∈ c.calls[i]?, c.pending.lookup call.id ≠ some i
  | _ => True

instance (c : DaemonClient) (a : Action) : Decidable (SentInTime c a) := by
  unfold SentInTime
  split <;> infer_instance

/-- Once the reader is gone, no sender in `pending` belongs to a call that listens. -/
def Unheard (c : DaemonClient) : Prop :=
  c.reader = .exited → ∀ i call, c.calls[i]? = some call → c.pending.lookup call.id = some i →
    call.listening = false

theorem Unheard.not_stranded (h : c.Unheard) (i : Nat) : ¬ c.Stranded i := by
  rintro ⟨hreader, call, hcall, hreceiving, hlookup⟩
  have hquiet := h hreader i call hcall hlookup
  rw [ClientCall.listening_of_receiving hreceiving] at hquiet
  cases hquiet

/-- A call that does not listen and is not about to write does not start to. -/
theorem listening_of_move {sender : Bool} {act : ClientCall.Act}
    (hmove : ClientCall.Move sender call act call') (hsend : act ≠ .send none)
    (hquiet : call.listening = false) : call'.listening = false := by
  cases hmove with
  | sent error hpc =>
    cases error with
    | none => exact absurd rfl hsend
    | some e => cases hk : call.kind <;> simp [ClientCall.listening, ClientCall.afterSend, hk]
  | got f rest hpc hraw =>
    rw [ClientCall.listening_of_receiving hpc] at hquiet
    cases hquiet
  | hungUp hpc hraw hsender =>
    rw [ClientCall.listening_of_receiving hpc] at hquiet
    cases hquiet
  | gaveUp f hpc hheld => rfl
  | passed f hpc hroom => simp [ClientCall.listening, hpc] at hquiet
  | used act out held => exact hquiet

/-- One step keeps `Unheard`. -/
theorem Effect.unheard (h : Effect c a c') (hok : SentInTime c a) (hinv : c.Unheard) :
    c'.Unheard := by
  intro hreader i call hcall hlookup
  have hentry := h.lookup hlookup
  cases h with
  | called kind body hmay =>
    rcases Runs.push_cases hcall with hold | ⟨-, rfl⟩
    · exact hinv hreader i call hold hlookup
    · rfl
  | inserted k filed hfiled hpc =>
    rcases Runs.set_cases hfiled hcall with ⟨-, rfl⟩ | ⟨hne, hcall⟩
    · rfl
    · rcases hentry with hold | ⟨hinsert, -⟩
      · exact hinv hreader i call hcall hold
      · cases hinsert; exact absurd rfl hne
  | moved k act old new hold hstep =>
    have hmove := ClientCall.step_move hstep
    rcases Runs.set_cases hold hcall with ⟨rfl, rfl⟩ | ⟨-, hcall⟩
    · rw [hmove.fixed.2.1] at hlookup
      by_cases hsend : act = .send none
      · subst hsend
        exact absurd hlookup (hok hreader old hold)
      · exact listening_of_move hmove hsend (hinv hreader k old hold hlookup)
    · exact hinv hreader i call hcall hlookup
  | removed k old pc hold hpc =>
    rcases Runs.set_cases hold hcall with ⟨-, rfl⟩ | ⟨-, hcall⟩
    · unfold ClientCall.afterRemove at hpc
      split at hpc <;> cases hpc <;> rfl
    · rcases hentry with hkept | ⟨hinsert, -⟩
      · exact hinv hreader i call hcall hkept
      · cases hinsert
  | arrived f => exact hinv hreader i call hcall hlookup
  | cleared hexits => simp at hlookup
  -- every other step leaves the reader in its loop
  | read | ended | unknown | found | lost | delivered => cases hreader

/-- Every run whose writes are in time keeps `Unheard`. -/
theorem unheard_of_run (hrun : Run SentInTime c) : c.Unheard := by
  refine hrun.invariant ?_ ?_
  · intro hexited; cases hexited
  · intro c a c' hinv hok hs
    exact (step_effect hs).unheard hok hinv

/-- A write that comes too late strands its call. -/
theorem stranded_of_late (hs : c.step a = some c') (hlate : ¬ SentInTime c a) :
    ∃ i, c'.Stranded i := by
  unfold SentInTime at hlate
  split at hlate
  · rename_i i
    push Not at hlate
    obtain ⟨hreader, call, hcall, hlookup⟩ := hlate
    cases step_effect hs with
    | moved k act old new hold hstep =>
      have hold' : call = old := by
        rw [hold] at hcall
        exact (Option.some.inj hcall).symm
      subst hold'
      simp only [ClientCall.step] at hstep
      split at hstep
      · cases hstep
        have hlt : i < c.calls.length := (List.getElem?_eq_some_iff.mp hold).1
        refine ⟨i, hreader, _, List.getElem?_set_self hlt, ?_, hlookup⟩
        cases hk : call.kind <;> simp [ClientCall.receiving, ClientCall.afterSend, hk]
      · cases hstep
  · exact absurd trivial hlate

/-- **No call outlives the reader**, as long as every write is in time; and the first
    write that is not strands its call. -/
theorem not_stranded_iff_sentInTime (hrun : Run SentInTime c) :
    (∀ i, ¬ c.Stranded i) ∧
      ∀ a c', c.step a = some c' → ((∀ i, ¬ c'.Stranded i) ↔ SentInTime c a) := by
  refine ⟨(unheard_of_run hrun).not_stranded, fun a c' hs => ⟨fun hnone => ?_, fun hok => ?_⟩⟩
  · by_contra hlate
    obtain ⟨i, hi⟩ := stranded_of_late hs hlate
    exact hnone i hi
  · exact ((step_effect hs).unheard hok (unheard_of_run hrun)).not_stranded

instance (c : DaemonClient) (i : Nat) : Decidable (c.Stranded i) :=
  match hcall : c.calls[i]? with
  | some call =>
    decidable_of_iff (c.reader = .exited ∧ call.receiving = true ∧
      c.pending.lookup call.id = some i) (by simp [Stranded, hcall])
  | none => isFalse (by simp [Stranded, hcall])

/-- A unary call in flight when the connection ends returns, and so does one whose write
    fails after that. -/
theorem not_stranded_iff_sentInTime_hangup :
    ∃ c, Run SentInTime c ∧ c.reader = .exited ∧ c.calls.length = 3 ∧ ∀ i, ¬ c.Stranded i := by
  obtain ⟨c, hrun, hreader, hlen⟩ := exists_run SentInTime
    (List.flatten [handshake, [.call .unary (.unary .getRoutes), .insert 1, .task 1 (.send none),
      .readEnd, .clear, .call .unary (.unary .getRoutes), .insert 2,
      .task 2 (.send (some "broken pipe"))]])
    (fun c => c.reader = .exited ∧ c.calls.length = 3) (by decide +kernel)
  exact ⟨c, hrun, hreader, hlen, (not_stranded_iff_sentInTime hrun).1⟩

/-- A malformed frame ends the reader while the socket still takes writes: the next call
    waits for ever. -/
theorem stranded_after_malformed : ∃ c, Reachable c ∧ ∃ i, c.Stranded i := by
  obtain ⟨c, hrun, hi⟩ := exists_run (fun _ _ => True)
    (List.flatten [handshake, [.readEnd, .clear, .call .unary (.unary .getRoutes), .insert 1,
      .task 1 (.send none)]]) (fun c => c.Stranded 1) (by decide +kernel)
  exact ⟨c, hrun, 1, hi⟩

/-! ### Calls behind a full queue -/

/-- `sender.send(frame).await` waits: the receiver of call `i` is there and its reply queue
    is full. -/
def Blocked (c : DaemonClient) (i : Nat) : Prop :=
  (∃ f, c.reader = .delivering f i) ∧
    ∃ call, c.calls[i]? = some call ∧ call.gone = false ∧ call.hasRoom = false

/-- A frame waits on the socket for a call other than `i` whose reply queue has room. -/
def Behind (c : DaemonClient) (i : Nat) : Prop :=
  ∃ f ∈ c.inbox, ∃ j call, c.pending.lookup f.id = some j ∧ j ≠ i ∧ c.calls[j]? = some call ∧
    call.gone = false ∧ call.hasRoom = true

/-- The full queue of one call holds up the reply of another. -/
def HeadOfLine (c : DaemonClient) : Prop := ∃ i, c.Blocked i ∧ c.Behind i

/-- The call a lookup finds takes another frame, or wants none. -/
def RoomAtLookup (c : DaemonClient) (a : Action) : Prop :=
  a = .look → ∀ f, c.reader = .looking f → ∀ i, c.pending.lookup f.id = some i →
    ∀ call, c.calls[i]? = some call → call.gone = true ∨ call.hasRoom = true

instance (c : DaemonClient) (a : Action) : Decidable (RoomAtLookup c a) :=
  match hreader : c.reader with
  | .looking f =>
    decidable_of_iff (a = .look → ∀ i ∈ c.pending.lookup f.id, ∀ call ∈ c.calls[i]?,
      call.gone = true ∨ call.hasRoom = true) (by simp [RoomAtLookup, hreader])
  | .reading => isTrue (by simp [RoomAtLookup, hreader])
  | .delivering _ _ => isTrue (by simp [RoomAtLookup, hreader])
  | .clearing => isTrue (by simp [RoomAtLookup, hreader])
  | .exited => isTrue (by simp [RoomAtLookup, hreader])

/-- What the reader holds, it can deliver. -/
def Deliverable (c : DaemonClient) : Prop :=
  ∀ f i call, c.reader = .delivering f i → c.calls[i]? = some call →
    call.gone = true ∨ call.hasRoom = true

theorem Deliverable.not_blocked (h : c.Deliverable) (i : Nat) : ¬ c.Blocked i := by
  rintro ⟨⟨f, hreader⟩, call, hcall, hgone, hfull⟩
  rcases h f i call hreader hcall with hg | hr
  · rw [hg] at hgone; cases hgone
  · rw [hr] at hfull; cases hfull

/-- A call on its own never comes back and never fills its own reply queue. -/
theorem deliverable_of_move {sender : Bool} {act : ClientCall.Act}
    (hmove : ClientCall.Move sender call act call')
    (h : call.gone = true ∨ call.hasRoom = true) : call'.gone = true ∨ call'.hasRoom = true := by
  cases hmove with
  | sent error hpc =>
    -- a call that is sending is not gone
    refine .inr (h.resolve_left ?_)
    simp [ClientCall.gone, hpc]
  | got f rest hpc hraw =>
    refine .inr ?_
    rcases h with hgone | hroom
    · unfold ClientCall.receiving at hpc
      unfold ClientCall.gone at hgone
      split at hgone <;> simp_all
    · simp only [ClientCall.hasRoom, hraw, List.length_cons, decide_eq_true_eq] at hroom ⊢
      omega
  | hungUp hpc hraw hsender => exact .inr (by simp [ClientCall.hasRoom, hraw, replyQueueDepth])
  | gaveUp f hpc hheld =>
    refine .inr (h.resolve_left ?_)
    simp [ClientCall.gone, hpc]
  | passed f hpc hroom =>
    refine .inr (h.resolve_left ?_)
    simp [ClientCall.gone, hpc]
  | used act out held => exact h

/-- One step keeps `Deliverable`. -/
theorem Effect.deliverable (h : Effect c a c') (hok : RoomAtLookup c a) (hinv : c.Deliverable) :
    c'.Deliverable := by
  intro f i call hreader hcall
  cases h with
  | called kind body hmay =>
    rcases Runs.push_cases hcall with hold | ⟨-, rfl⟩
    · exact hinv f i call hreader hold
    · exact .inr rfl
  | inserted k filed hfiled hpc =>
    rcases Runs.set_cases hfiled hcall with ⟨rfl, rfl⟩ | ⟨-, hcall⟩
    · refine .inr ((hinv f k filed hreader hfiled).resolve_left ?_)
      simp [ClientCall.gone, hpc]
    · exact hinv f i call hreader hcall
  | moved k act old new hold hstep =>
    rcases Runs.set_cases hold hcall with ⟨rfl, rfl⟩ | ⟨-, hcall⟩
    · exact deliverable_of_move (ClientCall.step_move hstep) (hinv f k old hreader hold)
    · exact hinv f i call hreader hcall
  | removed k old pc hold hpc =>
    rcases Runs.set_cases hold hcall with ⟨rfl, rfl⟩ | ⟨-, hcall⟩
    · left
      unfold ClientCall.afterRemove at hpc
      split at hpc <;> cases hpc <;> rfl
    · exact hinv f i call hreader hcall
  | arrived g => exact hinv f i call hreader hcall
  -- This is where there must be room, or no receiver.
  | found g k hlooking hhit =>
    cases hreader
    exact hok rfl f hlooking i hhit call hcall
  | read | ended | unknown | lost | delivered | cleared => cases hreader

theorem deliverable_of_run (hrun : Run RoomAtLookup c) : c.Deliverable := by
  refine hrun.invariant ?_ ?_
  · intro f i call hreader; cases hreader
  · intro c a c' hinv hok hs
    exact (step_effect hs).deliverable hok hinv

/-- A lookup that finds a full queue blocks the reader. -/
theorem blocked_of_full (hs : c.step a = some c') (hfull : ¬ RoomAtLookup c a) :
    ∃ i, c'.Blocked i := by
  unfold RoomAtLookup at hfull
  push Not at hfull
  obtain ⟨rfl, f, hreader, i, hhit, call, hcall, hgone, hroom⟩ := hfull
  cases step_effect hs with
  | unknown g hlooking hmiss =>
    rw [hreader] at hlooking
    cases hlooking
    rw [hhit] at hmiss
    cases hmiss
  | found g k hlooking hhit' =>
    rw [hreader] at hlooking
    cases hlooking
    rw [hhit] at hhit'
    cases hhit'
    exact ⟨i, ⟨f, rfl⟩, call, hcall, by simpa using hgone, by simpa using hroom⟩

/-- A frame of the `WatchNetwork` below. -/
def watched : ServerFrame := ⟨2, .event⟩

/-- A consumer that starts a `WatchNetwork` (call 1) and then awaits `cancel` of it (call 2). -/
def watchAndCancel : List Action :=
  [.call .stream (.stream .watchNetwork), .insert 1, .task 1 (.send none),
    .call .unary (.cancel 2), .insert 2, .task 2 (.send none)]

/-- **No call waits behind another**, as long as every lookup finds room: the reader never
    blocks at all.  The first lookup that finds a full queue blocks it. -/
theorem not_headOfLine_of_roomAtLookup (hrun : Run RoomAtLookup c) :
    ¬ c.HeadOfLine ∧
      ∀ a c', c.step a = some c' → ((∀ i, ¬ c'.Blocked i) ↔ RoomAtLookup c a) := by
  have hinv := deliverable_of_run hrun
  refine ⟨?_, fun a c' hs => ⟨fun hnone => ?_, fun hok => ?_⟩⟩
  · rintro ⟨i, hblocked, -⟩
    exact hinv.not_blocked i hblocked
  · by_contra hfull
    obtain ⟨i, hi⟩ := blocked_of_full hs hfull
    exact hnone i hi
  · exact ((step_effect hs).deliverable hok hinv).not_blocked

/-- A stream whose frames are taken as they come lets the reply of a unary call through. -/
theorem not_headOfLine_of_roomAtLookup_drained :
    ∃ c, Run RoomAtLookup c ∧ c.reader = .delivering watched 1 ∧
      c.inbox = [⟨3, .cancel true⟩] ∧ ¬ c.HeadOfLine := by
  obtain ⟨c, hrun, hreader, hinbox⟩ := exists_run RoomAtLookup
    (List.flatten [handshake, watchAndCancel, [.arrive watched, .read, .look, .deliver,
      .task 1 .recv, .task 1 .pass, .task 1 .take, .arrive watched, .read, .look,
      .arrive ⟨3, .cancel true⟩]])
    (fun c => c.reader = .delivering watched 1 ∧ c.inbox = [⟨3, .cancel true⟩])
    (by decide +kernel)
  exact ⟨c, hrun, hreader, hinbox, (not_headOfLine_of_roomAtLookup hrun).1⟩

/-- Call 1 has `raw` frames in its reply queue and `out` in the queue of the caller's
    receiver, and nobody takes them. -/
def Undrained (pc : CallPc) (raw out : Nat) (call : ClientCall) : Prop :=
  call.kind = .stream ∧ call.pc = pc ∧ call.held = true ∧
    call.raw = List.replicate raw watched ∧ call.out.length = out

/-- A state after `watchAndCancel` in which the daemon goes on sending frames of call 1. -/
structure Fed (pc : CallPc) (raw out : Nat) (c : DaemonClient) : Prop where
  reachable : Reachable c
  reader : c.reader = .reading
  inbox : c.inbox = []
  stream : ∃ call, c.calls[1]? = some call ∧ Undrained pc raw out call
  cancel : ∃ call, c.calls[2]? = some call ∧ call.gone = false ∧ call.hasRoom = true
  filed : c.pending.lookup 2 = some 1 ∧ c.pending.lookup 3 = some 2

variable {pc pc' : CallPc} {raw raw' out out' : Nat}

/-- A step that moves nothing but call 1. -/
theorem Fed.set (h : Fed pc raw out c) (new : ClientCall) (hreach : Reachable c')
    (hcalls : c'.calls = c.calls.set 1 new) (hreader : c'.reader = .reading)
    (hinbox : c'.inbox = []) (hpending : c'.pending = c.pending)
    (hnew : Undrained pc' raw' out' new) : Fed pc' raw' out' c' := by
  obtain ⟨old, hold, -⟩ := h.stream
  obtain ⟨other, hother, hrest⟩ := h.cancel
  refine ⟨hreach, hreader, hinbox, ⟨new, ?_, hnew⟩, ⟨other, ?_, hrest⟩, ?_⟩
  · rw [hcalls, List.getElem?_set_self (List.getElem?_eq_some_iff.mp hold).1]
  · rw [hcalls, List.getElem?_set_ne (by decide), hother]
  · rw [hpending]
    exact h.filed

/-- Another frame of call 1 arrives and is looked up. -/
theorem Fed.look (h : Fed pc raw out c) :
    Reachable { c with reader := .delivering watched 1, seen := c.seen ++ [watched] } := by
  have harrive := h.reachable.tail (.arrive watched) trivial rfl
  have hread := harrive.tail .read trivial (by simp [step, h.reader, h.inbox]; rfl)
  refine hread.tail .look trivial ?_
  simp [step, watched, h.filed.1, h.inbox]

/-- One more frame of call 1 goes into its reply queue. -/
theorem Fed.deliver (h : Fed pc raw out c) (hroom : raw < replyQueueDepth)
    (hpc : pc = .forwarding ∨ pc = .passing watched) : ∃ c', Fed pc (raw + 1) out c' := by
  obtain ⟨call, hcall, hkind, hat, hheld, hraw, hout⟩ := h.stream
  have hgone : call.gone = false := by
    rcases hpc with rfl | rfl <;> simp [ClientCall.gone, hat]
  have hfits : call.hasRoom = true := by simp [ClientCall.hasRoom, hraw, hroom]
  let call' := { call with raw := call.raw ++ [watched], got := call.got ++ [watched] }
  refine ⟨{ c with seen := c.seen ++ [watched], reader := .reading }.setCall 1 call',
    h.set call' (h.look.tail .deliver trivial ?_) rfl rfl h.inbox rfl ⟨hkind, hat, hheld, ?_, hout⟩⟩
  · simp [step, hcall, hgone, hfits, call']
  · show call.raw ++ [watched] = _
    rw [hraw, List.replicate_succ']

/-- The forwarder of call 1 takes a frame up. -/
theorem Fed.recv (h : Fed .forwarding (raw + 1) out c) :
    ∃ c', Fed (.passing watched) raw out c' := by
  obtain ⟨call, hcall, hkind, hat, hheld, hraw, hout⟩ := h.stream
  let call' := { call with raw := List.replicate raw watched, pc := .passing watched }
  have hstep : call.step (c.senderLeft 1 call) .recv = some call' := by
    simp [ClientCall.step, ClientCall.receiving, hat, hraw, List.replicate_succ,
      ClientCall.onFrame, hkind, watched, Reply.isStreamEnd, call']
  refine ⟨c.setCall 1 call', h.set call' (h.reachable.tail (.task 1 .recv) trivial ?_) rfl h.reader
    h.inbox rfl ⟨hkind, rfl, hheld, rfl, hout⟩⟩
  simp [step, hcall, hstep]

/-- The forwarder of call 1 hands a frame on. -/
theorem Fed.pass (h : Fed (.passing watched) raw out c) (hroom : out < replyQueueDepth) :
    ∃ c', Fed .forwarding raw (out + 1) c' := by
  obtain ⟨call, hcall, hkind, hat, hheld, hraw, hout⟩ := h.stream
  let call' := { call with out := call.out ++ [watched], pc := .forwarding }
  have hstep : call.step (c.senderLeft 1 call) .pass = some call' := by
    simp [ClientCall.step, hat, hheld, hout, hroom, call']
  refine ⟨c.setCall 1 call', h.set call' (h.reachable.tail (.task 1 .pass) trivial ?_) rfl h.reader
    h.inbox rfl ⟨hkind, rfl, hheld, hraw, by simp [call', hout]⟩⟩
  simp [step, hcall, hstep]

/-- The queue of the caller's receiver fills up. -/
theorem exists_fed_out (out : Nat) (h : out ≤ replyQueueDepth) : ∃ c, Fed .forwarding 0 out c := by
  induction out with
  | zero =>
    let watching := { ClientCall.new .stream 2 (.stream .watchNetwork) with
      pc := .forwarding, since := 1 }
    let cancelling := { ClientCall.new .unary 3 (.cancel 2) with pc := .waiting, since := 1 }
    obtain ⟨c, hrun, hreader, hinbox, hstream, hcancel, hfiled⟩ := exists_run (fun _ _ => True)
      (handshake ++ watchAndCancel)
      (fun c => c.reader = .reading ∧ c.inbox = [] ∧ c.calls[1]? = some watching ∧
        c.calls[2]? = some cancelling ∧ c.pending.lookup 2 = some 1 ∧ c.pending.lookup 3 = some 2)
      (by decide +kernel)
    exact ⟨c, hrun, hreader, hinbox, ⟨watching, hstream, rfl, rfl, rfl, rfl, rfl⟩,
      ⟨cancelling, hcancel, rfl, rfl⟩, hfiled⟩
  | succ out ih =>
    obtain ⟨c₁, h₁⟩ := ih (by omega)
    obtain ⟨c₂, h₂⟩ := h₁.deliver (by decide) (.inl rfl)
    obtain ⟨c₃, h₃⟩ := h₂.recv
    exact h₃.pass (by omega)

/-- With the forwarder stuck on one more frame, its reply queue fills up as well. -/
theorem exists_fed_raw (raw : Nat) (h : raw ≤ replyQueueDepth) :
    ∃ c, Fed (.passing watched) raw replyQueueDepth c := by
  induction raw with
  | zero =>
    obtain ⟨c₁, h₁⟩ := exists_fed_out replyQueueDepth le_rfl
    obtain ⟨c₂, h₂⟩ := h₁.deliver (by decide) (.inl rfl)
    exact h₂.recv
  | succ raw ih =>
    obtain ⟨c, hc⟩ := ih (by omega)
    exact hc.deliver (by omega) (.inr rfl)

/-- A consumer that awaits `cancel` of its stream instead of draining it keeps the reply to
    that very `cancel` from being read. -/
theorem headOfLine_of_undrained : ∃ c, Reachable c ∧ c.HeadOfLine := by
  obtain ⟨c, hfed⟩ := exists_fed_raw replyQueueDepth le_rfl
  obtain ⟨call, hcall, -, hat, -, hraw, -⟩ := hfed.stream
  obtain ⟨other, hother, halive, hroom⟩ := hfed.cancel
  refine ⟨_, hfed.look.tail (.arrive ⟨3, .cancel true⟩) trivial rfl, 1, ?_, ?_⟩
  · refine ⟨⟨watched, rfl⟩, call, hcall, ?_, ?_⟩
    · simp [ClientCall.gone, hat]
    · simp [ClientCall.hasRoom, hraw]
  · exact ⟨⟨3, .cancel true⟩, by simp, 2, other, hfed.filed.2, by decide, hother, halive, hroom⟩

end DaemonClient

end Netdiag.Ipc
