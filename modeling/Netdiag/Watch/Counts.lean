import Netdiag.Watch.Gaps
import Netdiag.Watch.Replay

namespace Netdiag.Watch

/-!
# Watch — how many items a subscription was sent

Each of the loops counts by hand what it sends, and `spawn_stream` puts the number into the
`StreamEnd` of the call.

* `callFrames` — what a watch call queues: an `Event` for each item, and a `StreamEnd` when the
  loop has returned; `EndCounts` — the number in it is that of the events.
* `Subscription.Tallied`, `SocketWatch.Tallied` — what the two counters do count: neither the
  notices of `watch_network` nor the sockets that are gone.
* `items_sent_exact` — the runs in which that is everything.

`SocketWatch.stepIn` is a poll with the orders in which its two loops go through their maps.
-/

open Collect

/-! ### The frames of a call -/

/-- The frames of a call whose loop has sent this many events and, if so, has returned. -/
def callFrames (events : Nat) (outcome : Option Ipc.StreamOutcome) : List Ipc.Reply :=
  List.replicate events .event ++ outcome.toList.map .streamEnd

/-- A `StreamEnd` has the number of the call's events. -/
def EndCounts (frames : List Ipc.Reply) : Prop :=
  ∀ outcome, .streamEnd outcome ∈ frames → outcome.itemsSent = frames.count .event

/-- The end of a call counts its events when its outcome does. -/
theorem endCounts_callFrames {events : Nat} {outcome : Option Ipc.StreamOutcome} :
    EndCounts (callFrames events outcome) ↔ ∀ o, outcome = some o → o.itemsSent = events := by
  have hcount : (callFrames events outcome).count .event = events := by
    unfold callFrames
    rw [List.count_append, List.count_replicate_self]
    cases outcome with
    | none => rfl
    | some o => rfl
  have hmem : ∀ o, Ipc.Reply.streamEnd o ∈ callFrames events outcome ↔ outcome = some o := by
    intro o
    unfold callFrames
    rw [List.mem_append, List.mem_replicate]
    cases outcome with
    | none => simp
    | some o' => simp [eq_comm]
  unfold EndCounts
  rw [hcount]
  constructor
  · intro h o ho
    exact h o ((hmem o).mpr ho)
  · intro h o ho
    exact h o ((hmem o).mp ho)

/-! ### Subscriptions of the bus -/

/-- The frame is the notice of a lag. -/
def Queued.isNotice : Queued → Bool
  | .notice _ => true
  | _ => false

namespace Subscription

/-- What the loop has returned. -/
def outcome (s : Subscription) : Option Ipc.StreamOutcome :=
  match s.pc with
  | .ended outcome => some outcome
  | _ => none

/-- The frames of the call. -/
def frames (s : Subscription) : List Ipc.Reply := callFrames s.out.length s.outcome

/-- The frames the loop counts. -/
def tally (out : List Queued) : Nat := (out.filter fun frame => !frame.isNotice).length

/-- The counter has the frames queued, notices apart, and that is what the loop returns. -/
structure Tallied (s : Subscription) : Prop where
  sent : s.sent = tally s.out
  outcome : ∀ o, s.outcome = some o → o.itemsSent = tally s.out

section Steps

variable {s s' : Subscription}

/-- A frame more adds what it counts for. -/
theorem tally_concat (out : List Queued) (frame : Queued) :
    tally (out ++ [frame]) = tally out + counts frame := by
  unfold tally
  rw [List.filter_append, List.length_append]
  cases frame <;> rfl

/-- All frames are counted when none of them is a notice. -/
theorem tally_eq_length {out : List Queued} :
    tally out = out.length ↔ ∀ frame ∈ out, frame.isNotice = false := by
  unfold tally
  rw [List.length_filter_eq_length_iff]
  simp

/-- A loop that has not ended has no outcome. -/
theorem outcome_of_running (hpc : ∀ o, s.pc ≠ .ended o) : s.outcome = none := by
  unfold Subscription.outcome
  split
  · rename_i o ended
    exact absurd ended (hpc o)
  · rfl

/-- A move that only changes where the loop stands, and not to its end. -/
theorem Tallied.moves (h : s.Tallied) {pc : WatchPc} (hpc : ∀ o, pc ≠ .ended o) (next : Nat)
    (received : List BusEvent) : Tallied { s with pc, next, received } where
  sent := h.sent
  outcome o ho := by
    rw [outcome_of_running hpc] at ho
    cases ho

/-- A move of the receiver alone. -/
theorem Tallied.passes (h : s.Tallied) (next : Nat) (received : List BusEvent) :
    Tallied { s with next, received } where
  sent := h.sent
  outcome := h.outcome

/-- The loop may end with the count it has. -/
theorem Tallied.ends (h : s.Tallied) {o : Ipc.StreamOutcome} (ho : o.itemsSent = s.sent) :
    Tallied { s with pc := .ended o } where
  sent := h.sent
  outcome o' ho' := by
    cases ho'
    exact ho.trans h.sent

/-- A frame goes out and is counted, unless it is a notice. -/
theorem Tallied.sends (h : s.Tallied) {pc : WatchPc} (hpc : ∀ o, pc ≠ .ended o) (frame : Queued) :
    Tallied { s with pc, sent := s.sent + counts frame, out := s.out ++ [frame] } where
  sent := by
    show s.sent + counts frame = tally (s.out ++ [frame])
    rw [tally_concat, h.sent]
  outcome o ho := by
    rw [outcome_of_running hpc] at ho
    cases ho

/-- The replay of interfaces does not end the loop. -/
theorem replayFrom_ne (events : List BusEvent) (o : Ipc.StreamOutcome) :
    replayFrom events ≠ .ended o := by
  cases events <;> simp [replayFrom]

/-- A new subscription has sent nothing and counted nothing. -/
theorem tallied_new (request : WatchRequest) (tail : Nat) : Tallied (.new request tail) where
  sent := rfl
  outcome o ho := by
    unfold Subscription.outcome Subscription.new at ho
    dsimp only at ho
    split at ho
    · rename_i hpc
      split at hpc <;> cases hpc
    · cases ho

/-- Reading the interfaces counts nothing. -/
theorem Tallied.replay (h : s.Tallied) {answer : Except Ipc.Error (List Interface)}
    (hmove : s.replay answer = some s') : s'.Tallied := by
  unfold Subscription.replay at hmove
  split at hmove
  · cases answer with
    | error e =>
      cases hmove
      exact h.ends rfl
    | ok interfaces =>
      cases hmove
      exact h.moves (replayFrom_ne _) s.next s.received
  · cases hmove

/-- Receiving counts nothing; the count goes up with the reply. -/
theorem Tallied.recv (h : s.Tallied) {channel : List BusEvent}
    (hmove : s.recv channel = some s') : s'.Tallied := by
  obtain ⟨-, ⟨event, -, -, rfl⟩ | ⟨event, -, -, rfl⟩ | ⟨-, -, notice, rfl⟩ | ⟨-, -, rfl⟩⟩ :=
    recv_cases hmove
  · exact h.moves (by simp) _ _
  · exact h.passes _ _
  · exact h.moves (by simp) _ _
  · exact h.passes _ s.received

/-- A reply is counted unless it carries a notice. -/
theorem Tallied.reply (h : s.Tallied) {ok : Bool} (hmove : s.reply ok = some s') :
    s'.Tallied := by
  unfold Subscription.reply at hmove
  split at hmove
  · rename_i event events hpc
    cases ok with
    | true =>
      cases hmove
      exact h.sends (replayFrom_ne _) (.replayed event)
    | false =>
      cases hmove
      exact h.ends rfl
  · rename_i frame hpc
    cases ok with
    | true =>
      cases hmove
      exact h.sends (by simp) frame
    | false =>
      cases hmove
      exact h.ends rfl
  · cases hmove

end Steps

end Subscription

/-- Every counter on the bus, in every run. -/
theorem Bus.Run.tallied {b : Bus} {ok : Bus → BusAction → Prop} (hrun : Bus.Run ok b) :
    ∀ s ∈ b.subscriptions, s.Tallied :=
  hrun.subscriptions (P := fun _ s => s.Tallied) (fun _ _ => Subscription.tallied_new _ _)
    (fun _ _ _ h => h) (fun _ _ _ _ h hmove => h.replay hmove)
    (fun _ _ _ _ _ _ h hmove => h.recv hmove) (fun _ _ _ _ h hmove => h.reply hmove)

/-- What is returned is right exactly if no notice was sent. -/
theorem Subscription.Tallied.endCounts_iff {s : Subscription} (h : s.Tallied)
    (hended : s.outcome.isSome = true) :
    EndCounts s.frames ↔ ∀ frame ∈ s.out, frame.isNotice = false := by
  obtain ⟨o, ho⟩ := Option.isSome_iff_exists.mp hended
  unfold Subscription.frames
  rw [endCounts_callFrames, ← tally_eq_length, ← h.outcome o ho, ho]
  simp

/-- No `WatchNetwork` receives after the buffer has overtaken it. -/
def KeepsUp (b : Bus) (a : BusAction) : Prop :=
  ∀ i s, a = .recv i → b.subscriptions[i]? = some s → s.request.isRoutes = false →
    Broadcast.oldest eventChannelCapacity b.channel ≤ s.next

/-- No frame is the notice of a lag, nor is the one in hand. -/
structure Subscription.Unlagged (s : Subscription) : Prop where
  out : ∀ frame ∈ s.out, frame.isNotice = false
  hand : ∀ frame, s.pc = .replying frame → frame.isNotice = false

namespace Subscription

variable {s s' : Subscription}

/-- A new subscription has no notice. -/
theorem unlagged_new (request : WatchRequest) (tail : Nat) : Unlagged (.new request tail) where
  out frame hframe := by cases hframe
  hand frame hpc := by
    unfold Subscription.new at hpc
    dsimp only at hpc
    split at hpc <;> cases hpc

/-- The replay queues no notice. -/
theorem Unlagged.replay (h : s.Unlagged) {answer : Except Ipc.Error (List Interface)}
    (hmove : s.replay answer = some s') : s'.Unlagged := by
  obtain ⟨-, ⟨events, rfl⟩ | ⟨outcome, rfl⟩⟩ := replay_cases hmove
  · refine ⟨h.out, fun frame hpc => ?_⟩
    cases events <;> cases hpc
  · exact ⟨h.out, fun frame hpc => by cases hpc⟩

/-- A loop that is not overtaken takes no notice in hand. -/
theorem Unlagged.recv (h : s.Unlagged) {channel : List BusEvent}
    (hkept : s.request.isRoutes = false → Broadcast.oldest eventChannelCapacity channel ≤ s.next)
    (hmove : s.recv channel = some s') : s'.Unlagged := by
  obtain ⟨hpc, ⟨event, -, -, rfl⟩ | ⟨event, -, -, rfl⟩ | ⟨hlag, hreq, notice, rfl⟩ |
    ⟨-, -, rfl⟩⟩ := recv_cases hmove
  · refine ⟨h.out, fun frame hframe => ?_⟩
    cases hframe
    rfl
  · exact ⟨h.out, h.hand⟩
  · exact absurd (hkept hreq) (Nat.not_le.mpr hlag)
  · generalize Broadcast.oldest eventChannelCapacity channel = next
    exact ⟨h.out, h.hand⟩

/-- What is queued is what was in hand, and that is no notice. -/
theorem Unlagged.reply (h : s.Unlagged) {ok : Bool} (hmove : s.reply ok = some s') :
    s'.Unlagged := by
  obtain ⟨event, events, hpc, rfl⟩ | ⟨frame, hpc, rfl⟩ | ⟨outcome, rfl⟩ := reply_cases hmove
  · refine ⟨fun frame hframe => ?_, fun frame hframe => ?_⟩
    · rcases List.mem_append.mp hframe with hframe | hframe
      · exact h.out frame hframe
      · cases List.mem_singleton.mp hframe
        rfl
    · cases events <;> cases hframe
  · refine ⟨fun other hother => ?_, fun other hother => by cases hother⟩
    rcases List.mem_append.mp hother with hother | hother
    · exact h.out other hother
    · cases List.mem_singleton.mp hother
      exact h.hand frame hpc
  · exact ⟨h.out, fun frame hframe => by cases hframe⟩

end Subscription

/-- Where every loop keeps up there are no notices. -/
theorem Bus.Run.unlagged {b : Bus} (hrun : Bus.Run KeepsUp b) :
    ∀ s ∈ b.subscriptions, s.Unlagged :=
  hrun.subscriptions (P := fun _ s => s.Unlagged) (fun _ _ => Subscription.unlagged_new _ _)
    (fun _ _ _ h => h) (fun _ _ _ _ h hmove => h.replay hmove)
    (fun _ i s _ hkeeps hs h hmove => h.recv (hkeeps i s rfl hs) hmove)
    (fun _ _ _ _ h hmove => h.reply hmove)

/-! ### Polls of sockets -/

namespace SocketWatch

/-- The events of a pass that goes through its maps in these orders. -/
def eventsIn (w : SocketWatch) (order : Order) (current : SocketMap) : List SocketNotice :=
  if w.firstPass then [] else diffInOrder order w.previous current

/-- One poll, with the orders of its maps. -/
def stepIn (w : SocketWatch) (a : Order × Poll) : Option SocketWatch :=
  match w.outcome with
  | some _ => none
  | none =>
    match a.2.ifNames with
    | .error e => some { w with outcome := some (.failed e w.sent) }
    | .ok ifNames =>
      match getSockets w.filter ifNames a.2.kernel with
      | .error e => some { w with outcome := some (.failed e w.sent) }
      | .ok dump =>
        let current := currentSockets dump.sockets
        let events := w.eventsIn a.1 current
        -- What was sent before the failing reply counts.
        match a.2.failsAt.filter (fun n => n < events.length) with
        | some n =>
          let done := events.take n
          some { w with outcome := some (.done "client disconnected" (w.sent + counted done)),
                        log := w.logged a.2 done }
        | none => some { w with previous := current, firstPass := false,
                                sent := w.sent + counted events, log := w.logged a.2 events,
                                last := some a.2.table }

/-- In the order of the entries this is a poll of the loop. -/
theorem stepIn_asFiled (w : SocketWatch) (p : Poll) : w.stepIn (.asFiled, p) = w.step p := rfl

/-- A run of the loop for this filter whose polls all meet `ok`. -/
def RunIn (ok : SocketWatch → Order × Poll → Prop) (filter : SocketFilter) (w : SocketWatch) :
    Prop :=
  Runs.Steps stepIn ok (new filter) w

/-- The frames of the call. -/
def frames (w : SocketWatch) : List Ipc.Reply := callFrames w.log.length w.outcome

/-- The events sent so far. -/
def notices (w : SocketWatch) : List SocketNotice := w.log.map Emitted.notice

/-- The counter has the events sent but for sockets that are gone, and that is what the loop
    returns. -/
structure Tallied (w : SocketWatch) : Prop where
  sent : w.outcome = none → w.sent = counted w.notices
  outcome : ∀ o, w.outcome = some o → o.itemsSent = counted w.notices

/-- Every socket of the last pass is still in the dump. -/
def NothingGone (w : SocketWatch) (a : Order × Poll) : Prop :=
  ∀ ifNames dump, a.2.ifNames = .ok ifNames → getSockets w.filter ifNames a.2.kernel = .ok dump →
    w.firstPass = true ∨ ∀ key ∈ w.previous, key ∈ currentSockets dump.sockets

section Steps

variable {w w' : SocketWatch} {a : Order × Poll} {filter : SocketFilter}

/-- The counted events of two batches. -/
theorem counted_append (xs ys : List SocketNotice) :
    counted (xs ++ ys) = counted xs + counted ys := by
  unfold counted
  rw [List.filter_append, List.length_append]

/-- All events are counted when none of them is of a socket that disappeared. -/
theorem counted_eq_length {events : List SocketNotice} :
    counted events = events.length ↔ ∀ e ∈ events, e.disappeared = false := by
  unfold counted
  rw [List.length_filter_eq_length_iff]
  simp

/-- A poll that is delivered adds its events behind the others. -/
theorem notices_logged (w : SocketWatch) (p : Poll) (events : List SocketNotice) :
    (w.logged p events).map Emitted.notice = w.notices ++ events := by
  unfold logged notices
  rw [List.map_append, List.map_map]
  congr 1
  exact List.map_id events

/-- Everything one poll can do: fail, or send these events, all or the first of them. -/
theorem stepIn_cases (h : w.stepIn a = some w') : w.outcome = none ∧
    ((∃ e, w' = { w with outcome := some (.failed e w.sent) }) ∨
    ∃ ifNames dump, a.2.ifNames = .ok ifNames ∧ getSockets w.filter ifNames a.2.kernel = .ok dump ∧
      ((∃ n, w' = { w with
          outcome := some (.done "client disconnected"
            (w.sent + counted ((w.eventsIn a.1 (currentSockets dump.sockets)).take n)))
          log := w.logged a.2 ((w.eventsIn a.1 (currentSockets dump.sockets)).take n) }) ∨
        w' = { w with
          previous := currentSockets dump.sockets
          firstPass := false
          sent := w.sent + counted (w.eventsIn a.1 (currentSockets dump.sockets))
          log := w.logged a.2 (w.eventsIn a.1 (currentSockets dump.sockets))
          last := some a.2.table })) := by
  unfold stepIn at h
  split at h
  · cases h
  rename_i hrunning
  refine ⟨hrunning, ?_⟩
  split at h
  · exact .inl ⟨_, (Option.some.inj h).symm⟩
  -- The dump fails, the client hangs up during the pass, or the pass is sent whole.
  rename_i ifNames hnames
  split at h
  · exact .inl ⟨_, (Option.some.inj h).symm⟩
  rename_i dump hdump
  refine .inr ⟨ifNames, dump, hnames, hdump, ?_⟩
  simp only at h
  split at h
  · exact .inl ⟨_, (Option.some.inj h).symm⟩
  · exact .inr (Option.some.inj h).symm

/-- A new loop has sent nothing and counted nothing. -/
theorem tallied_new (filter : SocketFilter) : Tallied (new filter) where
  sent _ := rfl
  outcome o ho := by cases ho

/-- One pass over a poll counts what it sends, apart from disappearances. -/
theorem Tallied.step (h : w.Tallied) (hstep : w.stepIn a = some w') : w'.Tallied := by
  obtain ⟨hrunning, ⟨e, rfl⟩ | ⟨ifNames, dump, -, -, ⟨n, rfl⟩ | rfl⟩⟩ := stepIn_cases hstep
  · refine ⟨fun hnone => (by cases hnone), fun o ho => ?_⟩
    cases ho
    exact h.sent hrunning
  · refine ⟨fun hnone => (by cases hnone), fun o ho => ?_⟩
    cases ho
    show w.sent + counted _ = counted ((w.logged a.2 _).map Emitted.notice)
    rw [notices_logged, counted_append, h.sent hrunning]
  · refine ⟨fun _ => ?_, fun o ho => by rw [hrunning] at ho; cases ho⟩
    show w.sent + counted _ = counted ((w.logged a.2 _).map Emitted.notice)
    rw [notices_logged, counted_append, h.sent hrunning]

/-- The count is kept over a whole run. -/
theorem tallied_of_run {ok : SocketWatch → Order × Poll → Prop} (hrun : RunIn ok filter w) :
    w.Tallied :=
  hrun.invariant (tallied_new filter) fun _ _ _ h _ hstep => h.step hstep

/-- What is returned is right exactly if no socket was reported as gone. -/
theorem Tallied.endCounts_iff (h : w.Tallied) (hended : w.outcome.isSome = true) :
    EndCounts w.frames ↔ ∀ e ∈ w.notices, e.disappeared = false := by
  obtain ⟨o, ho⟩ := Option.isSome_iff_exists.mp hended
  have hlength : w.log.length = w.notices.length := (List.length_map _).symm
  unfold frames
  rw [endCounts_callFrames, ← counted_eq_length, ← h.outcome o ho, hlength, ho]
  simp

/-- A dump that still has every socket leads to no such event. -/
theorem eventsIn_kept {current : SocketMap} (order : Order)
    (hkept : w.firstPass = true ∨ ∀ key ∈ w.previous, key ∈ current) :
    ∀ e ∈ w.eventsIn order current, e.disappeared = false := by
  intro e he
  unfold eventsIn at he
  split at he
  · cases he
  rename_i hpass
  have hall : ∀ key ∈ w.previous, key ∈ current := hkept.resolve_left hpass
  rcases mem_diffInOrder.mp he with ⟨key, s, -, -, rfl⟩ | ⟨key, s, old, -, -, -, rfl⟩ |
    ⟨key, s, hprevious, hgone, -⟩
  · rfl
  · rfl
  · have hmem : key ∈ w.previous := AList.lookup_isSome.mp (by rw [hprevious]; rfl)
    exact absurd (hall key hmem) (AList.lookup_eq_none.mp hgone)

/-- Where nothing disappears no event says so. -/
theorem kept_of_run (hrun : RunIn NothingGone filter w) :
    ∀ e ∈ w.notices, e.disappeared = false := by
  let Kept : SocketWatch → Prop := fun w => ∀ e ∈ w.notices, e.disappeared = false
  suffices h : Kept w from h
  refine Runs.Steps.invariant hrun (fun e he => by cases he) (fun w a w' h hok hstep => ?_)
  obtain ⟨-, ⟨e, rfl⟩ | ⟨ifNames, dump, hnames, hdump, ⟨n, rfl⟩ | rfl⟩⟩ := stepIn_cases hstep
  · exact h
  · intro e he
    have he : e ∈ (w.logged a.2 _).map Emitted.notice := he
    rw [notices_logged] at he
    rcases List.mem_append.mp he with he | he
    · exact h e he
    · exact eventsIn_kept a.1 (hok ifNames dump hnames hdump) e (List.mem_of_mem_take he)
  · intro e he
    have he : e ∈ (w.logged a.2 _).map Emitted.notice := he
    rw [notices_logged] at he
    rcases List.mem_append.mp he with he | he
    · exact h e he
    · exact eventsIn_kept a.1 (hok ifNames dump hnames hdump) e he

end Steps

end SocketWatch

/-! ### The number in the `StreamEnd` -/

/-- **The items of a `StreamEnd`** are the events of its call in every run in which no
    `WatchNetwork` is overtaken and no socket disappears; and what a call has lost in other runs
    are just the notices and the sockets that are gone. -/
theorem items_sent_exact (b : Bus) (filter : SocketFilter) (w : SocketWatch) :
    (b.Run KeepsUp → ∀ s ∈ b.subscriptions, EndCounts s.frames) ∧
    (SocketWatch.RunIn SocketWatch.NothingGone filter w → EndCounts w.frames) ∧
    (b.Run (fun _ _ => True) → ∀ s ∈ b.subscriptions, s.outcome.isSome = true →
      (EndCounts s.frames ↔ ∀ frame ∈ s.out, frame.isNotice = false)) ∧
    (SocketWatch.RunIn (fun _ _ => True) filter w → w.outcome.isSome = true →
      (EndCounts w.frames ↔ ∀ e ∈ w.notices, e.disappeared = false)) := by
  refine ⟨fun hrun s hs => ?_, fun hrun => ?_, fun hrun s hs hended => ?_,
    fun hrun hended => ?_⟩
  -- Before the end there is nothing to compare.
  · cases hended : s.outcome with
    | none => exact endCounts_callFrames.mpr fun o ho => by rw [hended] at ho; cases ho
    | some o =>
      refine ((hrun.tallied s hs).endCounts_iff ?_).mpr (hrun.unlagged s hs).out
      rw [hended]
      rfl
  · cases hended : w.outcome with
    | none => exact endCounts_callFrames.mpr fun o ho => by rw [hended] at ho; cases ho
    | some o =>
      refine ((SocketWatch.tallied_of_run hrun).endCounts_iff ?_).mpr
        (SocketWatch.kept_of_run hrun)
      rw [hended]
      rfl
  · exact (hrun.tallied s hs).endCounts_iff hended
  · exact (SocketWatch.tallied_of_run hrun).endCounts_iff hended

/-- A poll of a daemon that cannot read the interface names any more. -/
def pollFailing : Poll := { pollOne with ifNames := .error { code := .internal, message := "" } }

/-- Polls of both connections, of the first alone, and of none. -/
def connectionCloses : List (Order × Poll) :=
  [(.asFiled, pollTwo [connection 1, connection 2]), (.asFiled, pollOne), (.asFiled, pollFailing)]

/-- What the condition asks of a `recv`. -/
theorem keepsUp_recv {b : Bus} {i : Nat} : KeepsUp b (.recv i) ↔
    ∀ s ∈ b.subscriptions[i]?, s.request.isRoutes = false →
      Broadcast.oldest eventChannelCapacity b.channel ≤ s.next := by
  constructor
  · intro h s hs hnetwork
    exact h i s rfl hs hnetwork
  · intro h j s hj hs hnetwork
    cases hj
    exact h s hs hnetwork

/-- Any other action meets the condition. -/
theorem keepsUp_of_ne {b : Bus} {a : BusAction} (h : ∀ i, a ≠ .recv i) : KeepsUp b a :=
  fun i _ hrecv => absurd hrecv (h i)

instance (b : Bus) (a : BusAction) : Decidable (KeepsUp b a) :=
  match a with
  | .recv _ => decidable_of_iff _ keepsUp_recv.symm
  | .stamp _ _ => isTrue (keepsUp_of_ne (fun _ => by simp))
  | .send _ => isTrue (keepsUp_of_ne (fun _ => by simp))
  | .subscribe _ => isTrue (keepsUp_of_ne (fun _ => by simp))
  | .replay _ _ => isTrue (keepsUp_of_ne (fun _ => by simp))
  | .reply _ _ => isTrue (keepsUp_of_ne (fun _ => by simp))

namespace SocketWatch

variable {w : SocketWatch} {a : Order × Poll}

/-- A pass that cannot read the interface names emits nothing. -/
theorem nothingGone_of_error {e : Ipc.Error} (h : a.2.ifNames = .error e) : NothingGone w a := by
  intro ifNames dump hnames
  rw [h] at hnames
  cases hnames

/-- What the condition asks of a pass that gets to its dump. -/
theorem nothingGone_of_ok {names : Nat → Option String} (h : a.2.ifNames = .ok names) :
    NothingGone w a ↔ ∀ dump ∈ (getSockets w.filter names a.2.kernel).toOption,
      w.firstPass = true ∨ ∀ key ∈ w.previous.keys, key ∈ currentSockets dump.sockets := by
  constructor
  · intro hgone dump hdump
    refine hgone names dump h ?_
    cases hget : getSockets w.filter names a.2.kernel with
    | error e => rw [hget] at hdump; cases hdump
    | ok found => rw [hget] at hdump; cases hdump; rfl
  · intro hgone ifNames dump hnames hdump
    rw [h] at hnames
    cases hnames
    exact hgone dump (by rw [hdump]; rfl)

instance (w : SocketWatch) (a : Order × Poll) : Decidable (NothingGone w a) :=
  match h : a.2.ifNames with
  | .error _ => isTrue (nothingGone_of_error h)
  | .ok _ => decidable_of_iff _ (nothingGone_of_ok h).symm

end SocketWatch

/-- A `WatchNetwork` is sent the first of two events; its client is gone before the second. -/
def clientLeaves : List BusAction :=
  [.subscribe (.network {}), .stamp .monitor {}, .send .monitor, .recv 0, .reply 0 true,
    .stamp .monitor {}, .send .monitor, .recv 0, .reply 0 false]

/-- Two runs that end by themselves with one item each: the client of a `WatchNetwork` leaves,
    and after a connection has appeared the diag socket does not open any more. -/
theorem items_sent_exact_ended :
    ∃ (b : Bus) (s : Subscription) (w : SocketWatch), b.Run KeepsUp ∧ s ∈ b.subscriptions ∧
      s.outcome.map (·.itemsSent) = some 1 ∧ EndCounts s.frames ∧
      (∀ frame ∈ s.out, frame.isNotice = false) ∧
      SocketWatch.RunIn SocketWatch.NothingGone {} w ∧ w.outcome.map (·.itemsSent) = some 1 ∧
      EndCounts w.frames ∧ ∀ e ∈ w.notices, e.disappeared = false := by
  obtain ⟨b, hb, s, hs, hitems⟩ := Bus.exists_run KeepsUp clientLeaves
    (fun b => ∃ s ∈ b.subscriptions, s.outcome.map (·.itemsSent) = some 1) (by decide +kernel)
  obtain ⟨w, hw, hitems'⟩ : ∃ w, SocketWatch.RunIn SocketWatch.NothingGone {} w ∧
      w.outcome.map (·.itemsSent) = some 1 := by
    apply Runs.Steps.exists_of_exec [(.asFiled, pollOne),
      (.asFiled, pollTwo [connection 1, connection 2]), (.asFiled, pollRefused)]
    decide +kernel
  have hcounts := items_sent_exact b {} w
  have hend := hcounts.1 hb s hs
  have hend' := hcounts.2.1 hw
  -- and in all runs that have ended a right number means that nothing uncounted was sent
  have hsome : s.outcome.isSome = true := by
    rw [← Option.isSome_map, hitems]
    rfl
  have hsome' : w.outcome.isSome = true := by
    rw [← Option.isSome_map, hitems']
    rfl
  have hnotice := (hcounts.2.2.1 (hb.mono fun _ _ _ => trivial) s hs hsome).mp hend
  have hgone := (hcounts.2.2.2 (hw.mono fun _ _ _ => trivial) hsome').mp hend'
  exact ⟨b, s, w, hb, hs, hitems, hend, hnotice, hw, hitems', hend', hgone⟩

/-- An overtaken `WatchNetwork` has a notice in hand. -/
theorem Subscription.recv_noticed {s : Subscription} {channel : List BusEvent} {oldest : Nat}
    {request : WatchNetworkRequest} (hpc : s.pc = .receiving) (hreq : s.request = .network request)
    (holdest : Broadcast.oldest eventChannelCapacity channel = oldest) (hlag : s.next < oldest) :
    s.recv channel = some { s with
      next := oldest, pc := .replying (.notice (lagNotice (oldest - s.next))) } := by
  simp [Subscription.recv, Broadcast.recv, hpc, hreq, holdest, hlag]

/-- The reply of the only subscription returns. -/
theorem Bus.step_reply_only (b : Bus) {s s' : Subscription} {ok : Bool}
    (hreply : s.reply ok = some s') :
    Bus.step { b with subscriptions := [s] } (.reply 0 ok) =
      some { b with subscriptions := [s'] } := by
  simp [Bus.step, Bus.onSubscription, hreply]

/-- The frame in hand goes out. -/
theorem Subscription.reply_queued {s : Subscription} {frame : Queued}
    (hpc : s.pc = .replying frame) :
    s.reply true = some { s with
      pc := .receiving, sent := s.sent + counts frame, out := s.out ++ [frame] } := by
  simp [Subscription.reply, hpc]

/-- The client is gone. -/
theorem Subscription.reply_refused {s : Subscription} {frame : Queued}
    (hpc : s.pc = .replying frame) :
    s.reply false = some { s with pc := .ended (.done "client disconnected" s.sent) } := by
  simp [Subscription.reply, hpc]

/-- An overtaken `WatchNetwork` sends the notice and takes up the oldest event left; then its
    client is gone. -/
theorem Bus.Run.overtaken_noticed {b : Bus} {s : Subscription} {request : WatchNetworkRequest}
    {event : BusEvent} {oldest : Nat}
    (hrun : Bus.Run (fun _ _ => True) { b with subscriptions := [s] })
    (hpc : s.pc = .receiving) (hreq : s.request = .network request)
    (holdest : Broadcast.oldest eventChannelCapacity b.channel = oldest) (hlag : s.next < oldest)
    (hat : b.channel[oldest]? = some event) (hwants : s.request.wants event = true) :
    ∃ s' notice, Bus.Run (fun _ _ => True) { b with subscriptions := [s'] } ∧
      s'.out = s.out ++ [.notice notice] ∧
      s'.outcome = some (.done "client disconnected" s.sent) := by
  -- Four steps: the notice, sent; the event behind it, refused.
  have hnotice := Subscription.recv_noticed hpc hreq holdest hlag
  have hsent := Subscription.reply_queued
    (s := { s with next := oldest, pc := .replying (.notice (lagNotice (oldest - s.next))) }) rfl
  have hheld := Subscription.recv_wanted
    (s := { s with
      next := oldest
      pc := .receiving
      out := s.out ++ [.notice (lagNotice (oldest - s.next))] })
    rfl (Nat.le_of_eq holdest) hat hwants
  have hgone := Subscription.reply_refused
    (s := { s with
      next := oldest + 1
      received := s.received ++ [event]
      pc := .replying (.event oldest event)
      out := s.out ++ [.notice (lagNotice (oldest - s.next))] }) rfl
  refine ⟨_, _, (((hrun.tail _ trivial (b.step_recv_only hnotice)).tail _ trivial
    (b.step_reply_only hsent)).tail _ trivial (b.step_recv_only hheld)).tail _ trivial
    (b.step_reply_only hgone), rfl, rfl⟩

/-- A connection closes: one event, and a `StreamEnd` that says there was none.  A
    `WatchNetwork` is overtaken by 1025 events and told so: one event, and none again. -/
theorem uncounted_items :
    (∃ w, SocketWatch.RunIn (fun _ _ => True) {} w ∧ w.log.length = 1 ∧
      (∃ o, w.outcome = some o ∧ o.itemsSent = 0) ∧ ¬ EndCounts w.frames) ∧
    ∃ b s, Bus.Run (fun _ _ => True) b ∧ s ∈ b.subscriptions ∧ s.out.length = 1 ∧
      (∃ o, s.outcome = some o ∧ o.itemsSent = 0) ∧ ¬ EndCounts s.frames := by
  constructor
  -- The event of a socket that disappeared is sent and not counted.
  · obtain ⟨w, hrun, hlog, hitems⟩ : ∃ w, SocketWatch.RunIn (fun _ _ => True) {} w ∧
        w.log.length = 1 ∧ w.outcome.map (·.itemsSent) = some 0 := by
      apply Runs.Steps.exists_of_exec connectionCloses
      decide +kernel
    obtain ⟨o, ho, hitems⟩ := Option.map_eq_some_iff.mp hitems
    refine ⟨w, hrun, hlog, ⟨o, ho, hitems⟩, fun h => ?_⟩
    have hcount := endCounts_callFrames.mp h o ho
    omega
  -- The notice of a gap is sent and not counted.
  · obtain ⟨b, numbers, hrun, -, hsubs, hlen, hchannel⟩ := Bus.publish_many (fun _ _ => True)
      (fun _ _ => ⟨trivial, trivial⟩) aRoute 1025
      { Bus.new with subscriptions := [.new (.network {}) 0] } rfl rfl
    have hlength : b.channel.length = 1025 := by simp [hchannel, hlen, Bus.new]
    have holdest : Broadcast.oldest eventChannelCapacity b.channel = 1 := by
      simp [Broadcast.oldest, eventChannelCapacity, hlength]
    have hwants : ∀ e ∈ b.channel, (WatchRequest.network {}).wants e = true := by
      intro e he
      rw [hchannel] at he
      obtain ⟨k, _, rfl⟩ := List.mem_map.mp he
      rfl
    obtain ⟨event, hat⟩ : ∃ e, b.channel[1]? = some e :=
      ⟨_, List.getElem?_eq_getElem (by omega)⟩
    have hsub : Bus.Run (fun _ _ => True)
        { b with subscriptions := [.new (.network {}) 0] } := by
      have hsubs : b.subscriptions = [.new (.network {}) 0] := hsubs
      rw [← hsubs]
      exact Runs.Steps.trans (.tail (.subscribe (.network {})) (.refl _) trivial rfl) hrun
    obtain ⟨s, notice, hended, hout, houtcome⟩ := hsub.overtaken_noticed rfl rfl holdest
      Nat.zero_lt_one hat (hwants event (List.mem_of_getElem? hat))
    have hone : s.out.length = 1 := by
      rw [hout]
      rfl
    refine ⟨_, s, hended, by simp, hone, ⟨_, houtcome, rfl⟩, fun h => ?_⟩
    have hcount := endCounts_callFrames.mp h _ houtcome
    rw [hone] at hcount
    exact absurd hcount (by decide)

end Netdiag.Watch
