import Netdiag.Watch.Event
import Netdiag.Net.Messages
import Netdiag.Lib.Runs
import Netdiag.Lib.Broadcast
import Mathlib.Algebra.Ring.Nat

namespace Netdiag.Watch

/-!
# Watch — the event bus and its subscriptions

`EventBus` (`daemon/src/watch.rs`) and the two loops that read it, `Daemon::watch_network`
and `Daemon::watch_routes` (`daemon/src/daemon.rs`).

* `BusEvent` — a `NetworkEvent` on the bus, with its source, its sequence number and any
  of the payloads; `matchesFilter` / `routeEventMatches` — what a subscription wants.
* `Publisher` — the kernel monitor and the tasks of `push_framework_event`.  Publishing is
  two steps another thread can come between: `publish` takes the sequence number and then
  sends.
* `Subscription` — one watch loop: its receiver, where it stands and what it has queued
  for its client.
* `Bus.step` — all of them together.

The channel is the bounded broadcast channel of `Broadcast`.  A watch loop holds the daemon
and with it a sender, so `RecvError::Closed` does not occur.  The clock readings `publish`
adds are left out; nothing modelled reads them.
-/

/-! ### Events on the bus -/

/-- `EventSource`. -/
inductive EventSource
  | unspecified
  | kernel
  | framework
  | daemon
  deriving DecidableEq, Repr

/-- The number of a severity on the wire. -/
def Severity.toInt : Severity → Int
  | .unspecified => 0
  | .debug => 1
  | .info => 2
  | .notice => 3
  | .warning => 4

/-- What the filters read of the `Route` or `RoutingRule` of an event.  The app may have
    filled it in, so the family is the `i32` of the message. -/
structure RouteRecord where
  family : Int
  table : Nat
  deriving DecidableEq, Repr

/-- `network_event::Payload`; of a neighbour the state, of a socket the uid, if the record
    is there at all. -/
inductive BusPayload
  | link (event : LinkEvent)
  | address (event : AddressEvent)
  | route (route : Option RouteRecord)
  | rule (rule : Option RouteRecord)
  | neighbor (state : Option Int)
  | socket (uid : Option Nat)
  | framework
  | daemon
  deriving DecidableEq, Repr

/-- `NetworkEvent`. -/
structure BusEvent where
  source : EventSource := .unspecified
  severity : Int := 0
  summary : String := ""
  sequence : Nat := 0
  payload : Option BusPayload := none
  deriving DecidableEq, Repr

/-! ### What a subscription wants -/

/-- `EventFilter`. -/
structure EventFilter where
  links : Bool := false
  addresses : Bool := false
  routes : Bool := false
  rules : Bool := false
  neighbors : Bool := false
  sockets : Bool := false
  socketUids : List Nat := []
  excludeNeighborProbeNoise : Bool := false
  minSeverity : Int := 0
  deriving DecidableEq, Repr

/-- An all-false filter means everything. -/
def EventFilter.nothingSelected (filter : EventFilter) : Bool :=
  !filter.links && !filter.addresses && !filter.routes && !filter.rules && !filter.neighbors &&
    !filter.sockets

/-- The numbers of `NeighborState::Delay` and `NeighborState::Probe`. -/
def probeNoise : List Int := [4, 5]

/-- `matches_filter`. -/
def matchesFilter (event : BusEvent) (filter : EventFilter) : Bool :=
  if event.severity < filter.minSeverity then false
  else
    match event.payload with
    | some (.link _) => filter.nothingSelected || filter.links
    | some (.address _) => filter.nothingSelected || filter.addresses
    | some (.route _) => filter.nothingSelected || filter.routes
    | some (.rule _) => filter.nothingSelected || filter.rules
    | some (.neighbor state) =>
      if !(filter.nothingSelected || filter.neighbors) then false
      else !(filter.excludeNeighborProbeNoise && probeNoise.contains (state.getD 0))
    | some (.socket uid) =>
      if !(filter.nothingSelected || filter.sockets) then false
      else if filter.socketUids.isEmpty then true
      else (uid.map filter.socketUids.contains).getD false
    -- framework and daemon events are always delivered
    | _ => true

/-- The number of a family on the wire. -/
def familyNumber : IpFamily → Int
  | .unspecified => 0
  | .v4 => 1
  | .v6 => 2

/-- `IpFamily::try_from(..).unwrap_or(Unspecified)`. -/
def familyOf (n : Int) : IpFamily :=
  if n = 1 then .v4 else if n = 2 then .v6 else .unspecified

/-- The check `route_event_matches` makes on a route and on a rule. -/
def recordMatches (record : Option RouteRecord) (family : IpFamily) (table : Nat) : Bool :=
  match record with
  | none => true
  | some r =>
    if family ≠ .unspecified ∧ r.family ≠ familyNumber family then false
    else decide (table = 0 ∨ r.table = table)

/-- `route_event_matches`. -/
def routeEventMatches (event : BusEvent) (family : IpFamily) (table : Nat) : Bool :=
  match event.payload with
  | some (.route route) => recordMatches route family table
  | some (.rule rule) => recordMatches rule family table
  | _ => true

/-- `WatchNetworkRequest`. -/
structure WatchNetworkRequest where
  filter : Option EventFilter := none
  replayInitialState : Bool := false
  deriving DecidableEq, Repr

/-- `WatchRoutesRequest`. -/
structure WatchRoutesRequest where
  family : Int := 0
  table : Nat := 0
  includeRules : Bool := false
  deriving DecidableEq, Repr

/-- The two requests that subscribe to the bus. -/
inductive WatchRequest
  | network (request : WatchNetworkRequest)
  | routes (request : WatchRoutesRequest)
  deriving DecidableEq, Repr

namespace WatchRequest

/-- The `EventFilter` of the loop. -/
def filter : WatchRequest → EventFilter
  | .network request => request.filter.getD {}
  | .routes request => { routes := true, rules := request.includeRules }

/-- The checks an event passes before the loop replies with it. -/
def wants (request : WatchRequest) (event : BusEvent) : Bool :=
  match request with
  | .network _ => matchesFilter event request.filter
  | .routes r =>
    matchesFilter event request.filter && routeEventMatches event (familyOf r.family) r.table

/-- Is this a `WatchRoutes`? -/
def isRoutes : WatchRequest → Bool
  | .network _ => false
  | .routes _ => true

end WatchRequest

/-! ### Subscriptions -/

/-- `EVENT_CHANNEL_CAPACITY`. -/
def eventChannelCapacity : Nat := 1024

/-- A frame queued for the client: an event replayed from the current state, the event at a
    position of the channel, or the notice of a lag. -/
inductive Queued
  | replayed (event : BusEvent)
  | event (pos : Nat) (event : BusEvent)
  | notice (event : BusEvent)
  deriving DecidableEq, Repr

/-- The next await of a watch loop. -/
inductive WatchPc
  /-- `links::get_interfaces(..).await` in `replay_state`. -/
  | interfaces
  /-- `responder.reply(..).await` in the loop of `replay_state`. -/
  | replaying (events : List BusEvent)
  /-- `receiver.recv().await`. -/
  | receiving
  /-- `responder.reply(..).await` with an event or a notice. -/
  | replying (frame : Queued)
  /-- Returned. -/
  | ended (outcome : Ipc.StreamOutcome)
  deriving DecidableEq, Repr

/-- One call of `watch_network` or `watch_routes`.  `next` is the receiver's cursor;
    `start`, `received` and `out` are history: where the receiver began, what `recv` has
    returned and what the client has been sent. -/
structure Subscription where
  request : WatchRequest
  start : Nat
  next : Nat
  pc : WatchPc
  sent : Nat
  received : List BusEvent
  out : List Queued
  deriving DecidableEq, Repr

/-- The synthetic event `replay_state` builds for an interface. -/
def replayEvent (interface : Interface) : BusEvent :=
  let state := if interface.isUp then "up" else "down"
  { source := .daemon, severity := Severity.info.toInt,
    summary := s!"{interface.name} is {state} (initial state)",
    payload := some (.link
      { added := true, index := interface.index, name := interface.name, mtu := interface.mtu,
        wentUp := interface.isUp, wentDown := false, mtuChanged := false, previousMtu := 0 }) }

/-- The notice `watch_network` sends after a lag. -/
def lagNotice (missed : Nat) : BusEvent :=
  { source := .daemon, severity := Severity.warning.toInt,
    summary := s!"{missed} event(s) were dropped because this subscription could not keep up" }

namespace Subscription

/-- The loop has not returned, so its receiver exists. -/
def live (s : Subscription) : Bool :=
  match s.pc with
  | .ended _ => false
  | _ => true

/-- `self.events.subscribe()` and what follows it up to the first await. -/
def new (request : WatchRequest) (tail : Nat) : Subscription :=
  { request, start := tail, next := tail, sent := 0, received := [], out := [],
    pc := match request with
      | .network ⟨_, true⟩ => .interfaces
      | _ => .receiving }

/-- Where `replay_state` goes on with these events left. -/
def replayFrom : List BusEvent → WatchPc
  | [] => .receiving
  | events => .replaying events

/-- `get_interfaces` answers. -/
def replay (s : Subscription) (answer : Except Ipc.Error (List Interface)) :
    Option Subscription :=
  match s.pc with
  | .interfaces =>
    match answer with
    | .error e => some { s with pc := .ended (.failed e s.sent) }
    | .ok interfaces =>
      let events := (interfaces.map replayEvent).filter (matchesFilter · s.request.filter)
      some { s with pc := replayFrom events }
  | _ => none

/-- One turn of the loop: `receiver.recv()` and the `match` on what it returns. -/
def recv (s : Subscription) (channel : List BusEvent) : Option Subscription :=
  match s.pc with
  | .receiving =>
    match Broadcast.recv eventChannelCapacity channel s.next with
    | (.value event, next) =>
      let s' := { s with next, received := s.received ++ [event] }
      some (if s.request.wants event then { s' with pc := .replying (.event s.next event) } else s')
    | (.lagged missed, next) =>
      match s.request with
      | .network _ => some { s with next, pc := .replying (.notice (lagNotice missed)) }
      -- `watch_routes` goes on without a word
      | .routes _ => some { s with next }
    | (.empty, _) => none
  | _ => none

/-- Does the loop count this frame as sent? -/
def counts : Queued → Nat
  | .notice _ => 0
  | _ => 1

/-- `responder.reply` returns: `ok` unless the connection is gone. -/
def reply (s : Subscription) (ok : Bool) : Option Subscription :=
  match s.pc with
  -- The backlog is sent before the subscription is read.
  | .replaying (event :: events) =>
    some (if ok then
        { s with pc := replayFrom events, sent := s.sent + 1, out := s.out ++ [.replayed event] }
      else { s with pc := .ended (.done "client disconnected" s.sent) })
  | .replying frame =>
    some (if ok then
        { s with pc := .receiving, sent := s.sent + counts frame, out := s.out ++ [frame] }
      else { s with pc := .ended (.done "client disconnected" s.sent) })
  | _ => none

end Subscription

/-! ### The bus -/

/-- Whoever calls `publish`: the kernel monitor, or the task of a `PushFrameworkEvent`. -/
inductive Publisher
  | monitor
  | push (task : Nat)
  deriving DecidableEq, Repr

/-- The event a publisher hands to `publish`; `push_framework_event` forces the source. -/
def Publisher.prepare (p : Publisher) (event : BusEvent) : BusEvent :=
  match p with
  | .monitor => event
  | .push _ => { event with source := .framework }

/-- The bus.  `stamped` counts the calls of `fetch_add`, `unsent` holds the events between
    their `fetch_add` and their `send`, `channel` is all that was ever sent. -/
structure Bus where
  stamped : Nat
  unsent : List (Publisher × BusEvent)
  channel : List BusEvent
  subscriptions : List Subscription
  deriving DecidableEq, Repr

/-- What can happen next. -/
inductive BusAction
  /-- A publisher that is not inside `publish` enters it and takes the sequence number. -/
  | stamp (p : Publisher) (event : BusEvent)
  /-- It sends. -/
  | send (p : Publisher)
  /-- A client subscribes. -/
  | subscribe (request : WatchRequest)
  /-- `get_interfaces` answers subscription `i`. -/
  | replay (i : Nat) (answer : Except Ipc.Error (List Interface))
  /-- Subscription `i` receives. -/
  | recv (i : Nat)
  /-- A reply of subscription `i` returns. -/
  | reply (i : Nat) (ok : Bool)

namespace Bus

/-- `EventBus::new`. -/
def new : Bus := { stamped := 0, unsent := [], channel := [], subscriptions := [] }

/-- The value `fetch_add` returns: the counter is a `u64`. -/
def sequence (b : Bus) : Nat := b.stamped % 2 ^ 64

/-- The channel after `sender.send(event)`: without a receiver the event is gone. -/
def sendTo (b : Bus) (event : BusEvent) : List BusEvent :=
  if b.subscriptions.any Subscription.live then b.channel ++ [event] else b.channel

/-- Subscription `i` moves. -/
def onSubscription (b : Bus) (i : Nat) (move : Subscription → Option Subscription) : Option Bus :=
  (b.subscriptions[i]?.bind move).map
    (fun s => { b with subscriptions := b.subscriptions.set i s })

/-- One step. -/
def step (b : Bus) : BusAction → Option Bus
  | .stamp p event =>
    -- A publisher stamps one event at a time and sends it before the next.
    if b.unsent.any (fun x => x.1 = p) then none
    else
      let event := { p.prepare event with sequence := b.sequence }
      some { b with stamped := b.stamped + 1, unsent := b.unsent ++ [(p, event)] }
  -- Others may have stamped, and sent, in between.
  | .send p =>
    (b.unsent.find? (fun x => x.1 = p)).map (fun x =>
      { b with unsent := b.unsent.filter (fun x => x.1 ≠ p), channel := b.sendTo x.2 })
  | .subscribe request =>
    some { b with subscriptions := b.subscriptions ++ [.new request b.channel.length] }
  | .replay i answer => b.onSubscription i (Subscription.replay · answer)
  | .recv i => b.onSubscription i (Subscription.recv · b.channel)
  | .reply i ok => b.onSubscription i (Subscription.reply · ok)

/-- A run from the new bus whose steps all meet `ok`. -/
def Run (ok : Bus → BusAction → Prop) (b : Bus) : Prop := Runs.Steps step ok new b

/-- What a list of actions ends in is reached by a run. -/
theorem exists_run (ok : Bus → BusAction → Prop) [∀ b a, Decidable (ok b a)]
    (as : List BusAction) (P : Bus → Prop) [DecidablePred P]
    (h : (Runs.exec step ok new as).any (fun b => decide (P b)) = true) : ∃ b, Run ok b ∧ P b :=
  Runs.Steps.exists_of_exec as P h

end Bus

/-! ### What a step can do -/

namespace Subscription

/-- Inversion of `recv`: the loop was waiting, and got an event it wants, an event it does
    not want, or the news of a lag. -/
theorem recv_cases {s s' : Subscription} {channel : List BusEvent}
    (h : s.recv channel = some s') :
    s.pc = .receiving ∧
    ((∃ event, channel[s.next]? = some event ∧ s.request.wants event = true ∧
        s' = { s with next := s.next + 1, received := s.received ++ [event],
                      pc := .replying (.event s.next event) }) ∨
     (∃ event, channel[s.next]? = some event ∧ s.request.wants event = false ∧
        s' = { s with next := s.next + 1, received := s.received ++ [event] }) ∨
     (s.next < Broadcast.oldest eventChannelCapacity channel ∧ s.request.isRoutes = false ∧
        ∃ notice, s' = { s with next := Broadcast.oldest eventChannelCapacity channel,
                                pc := .replying (.notice notice) }) ∨
     (s.next < Broadcast.oldest eventChannelCapacity channel ∧ s.request.isRoutes = true ∧
        s' = { s with next := Broadcast.oldest eventChannelCapacity channel })) := by
  unfold recv at h
  split at h
  · rename_i hpc
    refine ⟨hpc, ?_⟩
    obtain ⟨event, hat, hrecv⟩ | ⟨hlag, hrecv⟩ | hrecv :=
      Broadcast.recv_cases eventChannelCapacity channel s.next
    · rw [hrecv] at h
      -- An event in reach is forwarded or filtered out.
      cases hwants : s.request.wants event with
      | true =>
        simp only [hwants, if_true, Option.some.injEq] at h
        exact .inl ⟨event, hat, hwants, h.symm⟩
      | false =>
        simp only [hwants, Bool.false_eq_true, if_false, Option.some.injEq] at h
        exact .inr (.inl ⟨event, hat, hwants, h.symm⟩)
    · rw [hrecv] at h
      -- A lag is answered by a notice, and by nothing where routes are watched.
      cases hreq : s.request with
      | network r =>
        simp only [hreq, Option.some.injEq] at h
        exact .inr (.inr (.inl ⟨hlag, rfl, _, h.symm⟩))
      | routes r =>
        simp only [hreq, Option.some.injEq] at h
        exact .inr (.inr (.inr ⟨hlag, rfl, h.symm⟩))
    · rw [hrecv] at h
      cases h
  · cases h

/-- Inversion of `reply`: a replayed event or a frame of the loop has been queued, or the
    loop has returned because the connection is gone. -/
theorem reply_cases {s s' : Subscription} {ok : Bool} (h : s.reply ok = some s') :
    (∃ event events, s.pc = .replaying (event :: events) ∧
        s' = { s with pc := replayFrom events, sent := s.sent + 1,
                      out := s.out ++ [.replayed event] }) ∨
    (∃ frame, s.pc = .replying frame ∧
        s' = { s with pc := .receiving, sent := s.sent + counts frame,
                      out := s.out ++ [frame] }) ∨
    (∃ outcome, s' = { s with pc := .ended outcome }) := by
  unfold reply at h
  split at h
  · rename_i event events hpc
    cases ok with
    | true => exact .inl ⟨event, events, hpc, (Option.some.inj h).symm⟩
    | false => exact .inr (.inr ⟨_, (Option.some.inj h).symm⟩)
  · rename_i frame hpc
    cases ok with
    | true => exact .inr (.inl ⟨frame, hpc, (Option.some.inj h).symm⟩)
    | false => exact .inr (.inr ⟨_, (Option.some.inj h).symm⟩)
  · cases h

/-- Inversion of `replay`: the events to replay are known, or the loop has returned. -/
theorem replay_cases {s s' : Subscription} {answer : Except Ipc.Error (List Interface)}
    (h : s.replay answer = some s') :
    s.pc = .interfaces ∧
    ((∃ events, s' = { s with pc := replayFrom events }) ∨
     (∃ outcome, s' = { s with pc := .ended outcome })) := by
  unfold replay at h
  split at h
  · rename_i hpc
    refine ⟨hpc, ?_⟩
    cases answer with
    | error e => exact .inr ⟨_, (Option.some.inj h).symm⟩
    | ok interfaces => exact .inl ⟨_, (Option.some.inj h).symm⟩
  · cases h

end Subscription

namespace Bus

variable {b b' : Bus}

/-- Inversion of `onSubscription`. -/
theorem onSubscription_cases {i : Nat} {move : Subscription → Option Subscription}
    (h : b.onSubscription i move = some b') :
    ∃ s s', b.subscriptions[i]? = some s ∧ move s = some s' ∧
      b' = { b with subscriptions := b.subscriptions.set i s' } := by
  simp only [onSubscription, Option.map_eq_some_iff, Option.bind_eq_some_iff] at h
  obtain ⟨s', ⟨s, hs, hmove⟩, rfl⟩ := h
  exact ⟨s, s', hs, hmove, rfl⟩

/-- Inversion of a stamp. -/
theorem stamp_cases {p : Publisher} {event : BusEvent}
    (h : b.step (.stamp p event) = some b') :
    (∀ x ∈ b.unsent, x.1 ≠ p) ∧
      b' = { b with stamped := b.stamped + 1,
                    unsent := b.unsent ++
                      [(p, { p.prepare event with sequence := b.sequence })] } := by
  simp only [step] at h
  split at h
  · cases h
  · rename_i hfree
    refine ⟨fun x hx hp => hfree ?_, (Option.some.inj h).symm⟩
    exact List.any_eq_true.mpr ⟨x, hx, decide_eq_true hp⟩

/-- Inversion of a send. -/
theorem send_cases {p : Publisher} (h : b.step (.send p) = some b') :
    ∃ event, (p, event) ∈ b.unsent ∧
      b' = { b with unsent := b.unsent.filter (fun x => x.1 ≠ p), channel := b.sendTo event } := by
  simp only [step, Option.map_eq_some_iff] at h
  obtain ⟨⟨q, event⟩, hfind, rfl⟩ := h
  have hq : q = p := by simpa using List.find?_some hfind
  subst hq
  exact ⟨event, List.mem_of_find?_eq_some hfind, rfl⟩

/-- A send leaves the channel as it was or appends the event. -/
theorem sendTo_cases (b : Bus) (event : BusEvent) :
    b.sendTo event = b.channel ∨ b.sendTo event = b.channel ++ [event] := by
  unfold sendTo
  split
  · exact .inr rfl
  · exact .inl rfl

/-- **Invariants of a subscription.**  What holds of a new subscription, survives what is
    sent later and survives every move of the loop holds of every subscription in every
    state of a run. -/
theorem Run.subscriptions {ok : Bus → BusAction → Prop} {P : List BusEvent → Subscription → Prop}
    (hrun : Run ok b) (hnew : ∀ channel request, P channel (.new request channel.length))
    (hsend : ∀ channel event s, P channel s → P (channel ++ [event]) s)
    (hreplay : ∀ channel s s' answer, P channel s → s.replay answer = some s' → P channel s')
    (hrecv : ∀ (b : Bus) i s s', ok b (.recv i) → b.subscriptions[i]? = some s →
      P b.channel s → s.recv b.channel = some s' → P b.channel s')
    (hreply : ∀ channel s s' ok, P channel s → s.reply ok = some s' → P channel s') :
    ∀ s ∈ b.subscriptions, P b.channel s := by
  let Holds : Bus → Prop := fun b => ∀ s ∈ b.subscriptions, P b.channel s
  suffices h : Holds b from h
  refine Runs.Steps.invariant hrun ?_ ?_
  · intro s hs
    cases hs
  intro b a b' hinv hok hstep
  -- a move of one subscription, whichever of the three it is
  have hmove : ∀ {i : Nat} {move : Subscription → Option Subscription},
      b.onSubscription i move = some b' →
      (∀ s s', b.subscriptions[i]? = some s → move s = some s' → P b.channel s') →
      ∀ s ∈ b'.subscriptions, P b'.channel s := by
    intro i move h hkeeps s hs
    obtain ⟨t, t', ht, hmoved, rfl⟩ := onSubscription_cases h
    rcases List.mem_or_eq_of_mem_set hs with hs | rfl
    · exact hinv s hs
    · exact hkeeps t s ht hmoved
  have hmem : ∀ {i : Nat} {s : Subscription}, b.subscriptions[i]? = some s → P b.channel s :=
    fun h => hinv _ (List.mem_of_getElem? h)
  cases a with
  | stamp p event =>
    obtain ⟨_, rfl⟩ := stamp_cases hstep
    exact hinv
  | send p =>
    obtain ⟨event, _, rfl⟩ := send_cases hstep
    intro s hs
    rcases sendTo_cases b event with hsame | hmore
    · simpa only [hsame] using hinv s hs
    · simpa only [hmore] using hsend _ _ s (hinv s hs)
  | subscribe request =>
    cases Option.some.inj hstep
    intro s hs
    rcases List.mem_append.mp hs with hs | hs
    · exact hinv s hs
    · rw [List.mem_singleton.mp hs]
      exact hnew _ _
  | replay i answer =>
    exact hmove hstep (fun s s' hs hmoved => hreplay _ _ _ answer (hmem hs) hmoved)
  | recv i => exact hmove hstep (fun s s' hs hmoved => hrecv b i s s' hok hs (hmem hs) hmoved)
  | reply i ok => exact hmove hstep (fun s s' hs hmoved => hreply _ _ _ ok (hmem hs) hmoved)

end Bus

end Netdiag.Watch
