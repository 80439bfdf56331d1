import Netdiag.Capture.Refine
import Netdiag.Watch.Counts
import Netdiag.Watch.Sequence

namespace Netdiag.Watch

/-!
# Watch — the loops as stream bodies

A session sees `watch_network`, `watch_routes` and `watch_sockets` as one stream body
(`Ipc.bodyStep`) that knows neither the bus nor the dumps.  The loops of `Subscription` and
`SocketWatch` refine it: every run of a loop, from the first poll of its task on, is a run of the
body with the same frames, the same count and the same end.

* `Subscription.streamPc`, `SocketWatch.streamPc` — what the session sees of a loop.
* `Subscription.Refines`, `SocketWatch.stepIn_simulates` — from step to step.
* `watch_loops_refine` — the runs.
-/

open Collect Relation
open Capture.CaptureCall (StreamMove)

/-- The frames of a loop that has sent this many events. -/
def eventReplies (n : Nat) : List Ipc.Reply := List.replicate n .event

/-- The replies of two batches of events, in order. -/
theorem eventReplies_add (m n : Nat) : eventReplies (m + n) = eventReplies m ++ eventReplies n :=
  List.replicate_append_replicate.symm

/-- What the session sees of a loop: its count while it runs, its outcome when it has returned. -/
def loopPc (call : Ipc.StreamCall) (sent : Nat) : Option Ipc.StreamOutcome → Ipc.Pc
  | none => .body (.watch call sent)
  | some outcome => .ending outcome

section Moves

variable {ref : Ipc.TaskRef} {d : Ipc.Daemon} {task : Ipc.StreamTask} {call : Ipc.StreamCall}
  {sent n : Nat}

/-- An event goes through. -/
theorem streamMove_event (counted : Bool) :
    StreamMove ref d task (loopPc call sent none, eventReplies n)
      (loopPc call (sent + counted.toNat) none, eventReplies (n + 1)) := by
  refine ⟨.watch call sent, .event counted, true, _, rfl, rfl, ?_, eventReplies_add n 1⟩
  cases counted <;> rfl

/-- The client is gone. -/
theorem streamMove_gone :
    StreamMove ref d task (loopPc call sent none, eventReplies n)
      (loopPc call sent (some (.done "client disconnected" sent)), eventReplies n) := by
  refine ⟨.watch call sent, .event true, false, _, rfl, rfl, rfl, ?_⟩
  exact (List.append_nil _).symm

/-- What the loop needs to know of the kernel cannot be had. -/
theorem streamMove_failed (collects : call.collects = true) (e : Ipc.Error) :
    StreamMove ref d task (loopPc call sent none, eventReplies n)
      (loopPc call sent (some (.failed e sent)), eventReplies n) := by
  refine ⟨.watch call sent, .collectFailed e, true,
    ⟨d, { task with pc := .ending (.failed e sent) }, none⟩, rfl, ?_, rfl, ?_⟩
  · exact if_pos collects
  · exact (List.append_nil _).symm

end Moves

/-! ### Subscriptions of the bus -/

/-- The call that makes the subscription. -/
def WatchRequest.call : WatchRequest → Ipc.StreamCall
  | .network _ => .watchNetwork
  | .routes _ => .watchRoutes

namespace Subscription

variable {ref : Ipc.TaskRef} {d : Ipc.Daemon} {task : Ipc.StreamTask} {s s' : Subscription}

/-- Where the body stands. -/
def streamPc (s : Subscription) : Ipc.Pc := loopPc s.request.call s.sent s.outcome

/-- What the session sees. -/
def view (s : Subscription) : Ipc.Pc × List Ipc.Reply := (s.streamPc, eventReplies s.out.length)

/-- While the loop runs, the session sees its place and one reply for each frame queued. -/
theorem view_of_running (running : ∀ o, s.pc ≠ .ended o) :
    s.view = (loopPc s.request.call s.sent none, eventReplies s.out.length) := by
  rw [view, streamPc, outcome_of_running running]

/-- A place in the loop that is no end. -/
theorem running_of_eq {pc : WatchPc} (h : s.pc = pc) (running : ∀ o, pc ≠ .ended o) :
    ∀ o, s.pc ≠ .ended o := fun o ended => running o (h.symm.trans ended)

/-- Only `watch_network` replays the current state. -/
structure Replays (s : Subscription) : Prop where
  network : s.pc = .interfaces → s.request.isRoutes = false

/-- A new subscription to routes does not begin with the interfaces. -/
theorem replays_new (request : WatchRequest) (tail : Nat) : Replays (.new request tail) := by
  constructor
  intro interfaces
  cases request with
  | network request => rfl
  | routes request => cases interfaces

/-- Past the replay there is nothing to keep. -/
theorem Replays.of_ne (ne : s.pc ≠ .interfaces) : s.Replays := ⟨fun h => absurd h ne⟩

/-- Once the interfaces are read the loop does not ask for them again. -/
theorem replayFrom_ne_interfaces (events : List BusEvent) : replayFrom events ≠ .interfaces := by
  cases events with
  | nil => exact nofun
  | cons event events => exact nofun

/-- Once the interfaces were asked for, the loop is past them. -/
theorem replays_replay {answer : Except Ipc.Error (List Interface)}
    (h : s.replay answer = some s') : s'.Replays := by
  obtain ⟨-, ⟨events, rfl⟩ | ⟨outcome, rfl⟩⟩ := replay_cases h
  · exact .of_ne (replayFrom_ne_interfaces events)
  · exact .of_ne nofun

/-- A loop that receives is past the interfaces. -/
theorem replays_recv {channel : List BusEvent} (h : s.recv channel = some s') : s'.Replays := by
  obtain ⟨receiving, ⟨event, -, -, rfl⟩ | ⟨event, -, -, rfl⟩ | ⟨-, -, notice, rfl⟩ | ⟨-, -, rfl⟩⟩ :=
    recv_cases h
  · exact .of_ne nofun
  · exact .of_ne (by simp [receiving])
  · exact .of_ne nofun
  · exact .of_ne (by simp [receiving])

/-- A reply does not lead back to the interfaces. -/
theorem replays_reply {ok : Bool} (h : s.reply ok = some s') : s'.Replays := by
  obtain ⟨event, events, -, rfl⟩ | ⟨frame, -, rfl⟩ | ⟨outcome, rfl⟩ := reply_cases h
  · exact .of_ne (replayFrom_ne_interfaces events)
  · exact .of_ne nofun
  · exact .of_ne nofun

/-- Reading the interfaces is a step the session does not see, or the end of the stream. -/
theorem replay_simulates (replays : s.Replays) {answer : Except Ipc.Error (List Interface)}
    (h : s.replay answer = some s') : s'.view = s.view ∨ StreamMove ref d task s.view s'.view := by
  unfold replay at h
  split at h
  · rename_i interfaces
    have running := running_of_eq interfaces (by simp)
    cases answer with
    -- Interfaces that cannot be listed end the stream.
    | error e =>
      cases h
      refine .inr ?_
      rw [view_of_running running]
      apply streamMove_failed
      cases request : s.request with
      | network r => rfl
      | routes r =>
        have network := replays.network interfaces
        rw [request] at network
        cases network
    | ok found =>
      cases h
      refine .inl ?_
      rw [view_of_running running, view_of_running (replayFrom_ne _)]
  · cases h

/-- The session does not see what the loop receives. -/
theorem recv_simulates {channel : List BusEvent} (h : s.recv channel = some s') :
    s'.view = s.view := by
  obtain ⟨receiving, moved⟩ := recv_cases h
  have running := running_of_eq receiving (by simp)
  rw [view_of_running running]
  -- An event in hand, an event filtered out, a lag with a notice, a lag without.
  obtain ⟨event, -, -, rfl⟩ | ⟨event, -, -, rfl⟩ | ⟨-, -, notice, rfl⟩ | ⟨-, -, rfl⟩ := moved
  · exact view_of_running (by simp)
  · exact view_of_running running
  · exact view_of_running (by simp)
  · exact view_of_running running

/-- A reply of the loop is a reply of the session's stream body. -/
theorem reply_simulates {ok : Bool} (h : s.reply ok = some s') :
    StreamMove ref d task s.view s'.view := by
  unfold reply at h
  split at h
  -- One of the replayed interfaces.
  · rename_i event events replaying
    have running := running_of_eq replaying (by simp)
    rw [view_of_running running]
    cases ok with
    | true =>
      cases h
      rw [view_of_running (replayFrom_ne _)]
      show StreamMove ref d task _ (_, eventReplies (s.out ++ [Queued.replayed event]).length)
      rw [List.length_append]
      exact streamMove_event true
    | false =>
      cases h
      exact streamMove_gone
  -- What the channel gave: an event, or the notice of a lag.
  · rename_i frame replying
    have running := running_of_eq replying (by simp)
    rw [view_of_running running]
    cases ok with
    | true =>
      cases h
      rw [view_of_running (by simp)]
      show StreamMove ref d task _
        (loopPc s.request.call (s.sent + counts frame) none,
          eventReplies (s.out ++ [frame]).length)
      rw [List.length_append]
      -- the notice of a lag is not counted
      cases frame with
      | notice event => exact streamMove_event false
      | replayed event => exact streamMove_event true
      | event pos event => exact streamMove_event true
    | false =>
      cases h
      exact streamMove_gone
  · cases h

/-- The replay leaves the request alone. -/
theorem request_replay {answer : Except Ipc.Error (List Interface)}
    (h : s.replay answer = some s') : s'.request = s.request := by
  obtain ⟨-, ⟨events, rfl⟩ | ⟨outcome, rfl⟩⟩ := replay_cases h
  · rfl
  · rfl

/-- Receiving leaves the request alone. -/
theorem request_recv {channel : List BusEvent} (h : s.recv channel = some s') :
    s'.request = s.request := by
  obtain ⟨-, ⟨event, -, -, rfl⟩ | ⟨event, -, -, rfl⟩ | ⟨-, -, notice, rfl⟩ | ⟨-, -, rfl⟩⟩ :=
    recv_cases h
  · rfl
  · rfl
  · rfl
  · rfl

/-- Replying leaves the request alone. -/
theorem request_reply {ok : Bool} (h : s.reply ok = some s') : s'.request = s.request := by
  obtain ⟨event, events, -, rfl⟩ | ⟨frame, -, rfl⟩ | ⟨outcome, rfl⟩ := reply_cases h
  · rfl
  · rfl
  · rfl

/-- The session polls the body until it looks like this. -/
def Refines (ref : Ipc.TaskRef) (task : Ipc.StreamTask) (s : Subscription) : Prop :=
  ReflTransGen (fun x y => ∃ d, StreamMove ref d task x y)
    (.body (.start s.request.call), []) s.view

/-- A new subscription is where the session's stream body starts. -/
theorem refines_new (request : WatchRequest) (tail : Nat) :
    Refines ref task (.new request tail) := by
  refine .single ⟨.new, .start request.call, .go, true,
    ⟨.new, { task with pc := loopPc request.call 0 none }, none⟩, rfl, ?_, ?_, ?_⟩
  · cases request with
    | network r => rfl
    | routes r => rfl
  -- Whether it replays or not, nothing has been sent.
  · rw [view_of_running]
    · rfl
    · intro o ended
      unfold new at ended
      dsimp only at ended
      split at ended <;> cases ended
  · rfl

/-- The refinement goes on through a step that the session does not see or makes itself. -/
theorem Refines.step (h : Refines ref task s) (request : s'.request = s.request)
    (simulates : s'.view = s.view ∨ ∃ d, StreamMove ref d task s.view s'.view) :
    Refines ref task s' := by
  unfold Refines
  rw [request]
  rcases simulates with same | move
  · rw [same]
    exact h
  · exact h.tail move

end Subscription

/-- Every subscription of every run refines the session's stream body. -/
theorem Bus.Run.refines {b : Bus} {ok : Bus → BusAction → Prop} (run : Bus.Run ok b)
    (ref : Ipc.TaskRef) (task : Ipc.StreamTask) : ∀ s ∈ b.subscriptions, s.Refines ref task := by
  have both : ∀ s ∈ b.subscriptions, s.Replays ∧ s.Refines ref task := by
    -- A new one, one that is published to, and the three moves of its own.
    refine run.subscriptions (P := fun _ s => s.Replays ∧ s.Refines ref task) ?_ ?_ ?_ ?_ ?_
    · exact fun channel request => ⟨Subscription.replays_new _ _, Subscription.refines_new _ _⟩
    · exact fun channel event s h => h
    · intro channel s s' answer h moved
      exact ⟨Subscription.replays_replay moved, h.2.step (Subscription.request_replay moved)
        ((Subscription.replay_simulates h.1 moved).imp_right fun move => ⟨.new, move⟩)⟩
    · intro b i s s' _ _ h moved
      exact ⟨Subscription.replays_recv moved, h.2.step (Subscription.request_recv moved)
        (.inl (Subscription.recv_simulates moved))⟩
    · intro channel s s' ok h moved
      exact ⟨Subscription.replays_reply moved, h.2.step (Subscription.request_reply moved)
        (.inr ⟨.new, Subscription.reply_simulates moved⟩)⟩
  exact fun s mem => (both s mem).2

/-! ### Polls of sockets -/

namespace SocketWatch

variable {ref : Ipc.TaskRef} {d : Ipc.Daemon} {task : Ipc.StreamTask} {w w' : SocketWatch}
  {a : Order × Poll}

/-- Where the body stands. -/
def streamPc (w : SocketWatch) : Ipc.Pc :=
  loopPc .watchSockets w.sent w.outcome

/-- What the session sees. -/
def view (w : SocketWatch) : Ipc.Pc × List Ipc.Reply := (w.streamPc, eventReplies w.log.length)

/-- The events of a pass go out one after the other. -/
theorem streamMoves_events (ref : Ipc.TaskRef) (task : Ipc.StreamTask)
    (events : List SocketNotice) (sent n : Nat) :
    ReflTransGen (fun x y => ∃ d, StreamMove ref d task x y)
      (loopPc .watchSockets sent none, eventReplies n)
      (loopPc .watchSockets (sent + counted events) none, eventReplies (n + events.length)) := by
  induction events generalizing sent n with
  | nil => exact .refl
  | cons event events ih =>
    have first : StreamMove ref .new task (loopPc .watchSockets sent none, eventReplies n)
        (loopPc .watchSockets (sent + (!event.disappeared).toNat) none, eventReplies (n + 1)) :=
      streamMove_event (!event.disappeared)
    have rest := ih (sent + (!event.disappeared).toNat) (n + 1)
    -- A disappearance is sent, and not counted.
    have count : sent + counted (event :: events) =
        sent + (!event.disappeared).toNat + counted events := by
      unfold counted
      rw [List.filter_cons]
      cases event.disappeared with
      | true => rfl
      | false =>
        show sent + (List.length _ + 1) = _
        simp only [Bool.not_false, Bool.toNat_true]
        omega
    rw [count, List.length_cons, Nat.add_comm events.length, ← Nat.add_assoc]
    exact .head ⟨.new, first⟩ rest

/-- A poll that is delivered adds its events to the log. -/
theorem length_logged (w : SocketWatch) (p : Poll) (events : List SocketNotice) :
    (w.logged p events).length = w.log.length + events.length := by
  rw [logged, List.length_append, List.length_map]

/-- A poll is a run of the body. -/
theorem stepIn_simulates (h : w.stepIn a = some w') :
    ReflTransGen (fun x y => ∃ d, StreamMove ref d task x y) w.view w'.view := by
  obtain ⟨running, ⟨e, rfl⟩ | ⟨ifNames, dump, -, -, ⟨n, rfl⟩ | rfl⟩⟩ := stepIn_cases h
  -- The kernel refuses.
  · refine .single ⟨.new, ?_⟩
    rw [view, streamPc, running]
    exact streamMove_failed rfl e
  -- The client goes away in the middle of the pass.
  · have sends := streamMoves_events ref task
      ((w.eventsIn a.1 (currentSockets dump.sockets)).take n) w.sent w.log.length
    rw [view, streamPc, running]
    refine .tail sends ⟨.new, ?_⟩
    rw [← length_logged w a.2]
    exact streamMove_gone
  -- The pass is sent whole.
  · have sends := streamMoves_events ref task
      (w.eventsIn a.1 (currentSockets dump.sockets)) w.sent w.log.length
    rw [view, streamPc, running]
    rw [← length_logged w a.2] at sends
    exact sends

end SocketWatch

/-- Every run of the socket loop is one of the session's stream body, step by step. -/
theorem SocketWatch.refines_of_run {filter : SocketFilter} {w : SocketWatch}
    {ok : SocketWatch → Order × Poll → Prop} (run : SocketWatch.RunIn ok filter w)
    (ref : Ipc.TaskRef) (task : Ipc.StreamTask) :
    ReflTransGen (fun x y => ∃ d, StreamMove ref d task x y) (.body (.start .watchSockets), [])
      w.view := by
  induction run with
  | refl =>
    exact .single ⟨.new, .start .watchSockets, .go, true,
      ⟨.new, { task with pc := loopPc .watchSockets 0 none }, none⟩, rfl, rfl, rfl, rfl⟩
  | tail a before _ moved ih => exact ih.trans (SocketWatch.stepIn_simulates moved)

/-- What a session sees of the watch loops, in all their runs (whatever is published when, however
    the kernel answers and in whatever order a map is gone through), is a run of the stream body,
    beside some daemon at each step: the same frames, the same count, the same outcome. -/
theorem watch_loops_refine (ref : Ipc.TaskRef) (task : Ipc.StreamTask) (b : Bus)
    (filter : SocketFilter) (w : SocketWatch) :
    (b.Run (fun _ _ => True) → ∀ s ∈ b.subscriptions,
      ReflTransGen (fun x y => ∃ d, StreamMove ref d task x y)
        (.body (.start s.request.call), []) (s.streamPc, eventReplies s.out.length)) ∧
    (SocketWatch.RunIn (fun _ _ => True) filter w →
      ReflTransGen (fun x y => ∃ d, StreamMove ref d task x y)
        (.body (.start .watchSockets), []) (w.streamPc, eventReplies w.log.length)) :=
  ⟨fun run => run.refines ref task, fun run => SocketWatch.refines_of_run run ref task⟩

/-- Polls of both connections, of one of them by a kernel that leaves the other out, and of a
    kernel that refuses. -/
def leavesOneOut : List (Order × Poll) :=
  [(.asFiled, pollTwo [connection 1, connection 2]), (.asFiled, pollTwo [connection 1]),
    (.asFiled, pollRefused)]

/-- A subscriber that was sent one event and has another one in hand; and a watch of sockets that
    reports a socket the kernel has left out of a dump, and ends when a dump fails. -/
theorem watch_loops_refine_takingTurns :
    ∃ (s : Subscription) (w : SocketWatch), s.sent = 1 ∧ s.outcome = none ∧ s.out.length = 1 ∧
      ReflTransGen (fun x y => ∃ d, StreamMove ⟨0, 0⟩ d (.spawned 1 .watchNetwork) x y)
        (.body (.start .watchNetwork), []) (s.streamPc, eventReplies s.out.length) ∧
      w.outcome.map (·.itemsSent) = some 0 ∧ w.log.length = 1 ∧
      ReflTransGen (fun x y => ∃ d, StreamMove ⟨0, 0⟩ d (.spawned 1 .watchNetwork) x y)
        (.body (.start .watchSockets), []) (w.streamPc, eventReplies w.log.length) := by
  obtain ⟨b, run, s, mem, request, sent, running, out⟩ := Bus.exists_run (fun _ _ => True)
    takingTurns
    (fun b => ∃ s ∈ b.subscriptions, s.request = .network {} ∧ s.sent = 1 ∧ s.outcome = none ∧
      s.out.length = 1) (by decide +kernel)
  -- Three polls; the second leaves a socket out, the third is refused.
  obtain ⟨w, run', items, logged⟩ : ∃ w, SocketWatch.RunIn (fun _ _ => True) {} w ∧
      w.outcome.map (·.itemsSent) = some 0 ∧ w.log.length = 1 := by
    apply Runs.Steps.exists_of_exec leavesOneOut
    decide +kernel
  have refines := watch_loops_refine ⟨0, 0⟩ (.spawned 1 .watchNetwork) b {} w
  have seen := refines.1 run s mem
  rw [request] at seen
  exact ⟨s, w, sent, running, out, seen, items, logged, refines.2 run'⟩

end Netdiag.Watch
