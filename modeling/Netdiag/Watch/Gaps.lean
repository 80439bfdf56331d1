import Netdiag.Watch.Bus

namespace Netdiag.Watch

/-!
# Watch — gaps in a subscription

A subscriber that falls a whole buffer behind loses events.  "A timeline with a hole in it
is worse than one that admits to the hole": `watch_network` sends a notice then,
`watch_routes` just goes on.

* `NoSilentGap` — every wanted event the loop has passed was delivered, in order, or its
  gap was announced before the next delivery.
* `SkipsNothing` — the condition: a `WatchRoutes` lag skips only events its filter rejects.
* `Gapless` — the invariant behind it, about the frames queued and the one in hand (`log`).
* `no_silent_gap` — in every run under the condition there is no silent gap.
-/

/-! ### What was delivered and what was announced -/

/-- The event at position `q` of the channel is among these frames. -/
def Delivered (log : List Queued) (q : Nat) : Prop := ∃ event, Queued.event q event ∈ log

/-- A notice stands where the event at position `q` would have stood: after every delivery
    before it and before every delivery after it. -/
def Announced (log : List Queued) (q : Nat) : Prop :=
  ∃ before notice after, log = before ++ .notice notice :: after ∧
    (∀ p, Delivered before p → p < q) ∧ ∀ p, Delivered after p → q < p

/-- The positions these frames deliver, in their order. -/
def positions (log : List Queued) : List Nat :=
  log.filterMap (fun frame => match frame with
    | .event pos _ => some pos
    | _ => none)

/-- The positions are those of the events delivered. -/
theorem mem_positions {log : List Queued} {q : Nat} : q ∈ positions log ↔ Delivered log q := by
  simp only [positions, List.mem_filterMap, Delivered]
  constructor
  · rintro ⟨frame, hmem, hpos⟩
    cases frame with
    | event pos event =>
      cases Option.some.inj hpos
      exact ⟨event, hmem⟩
    | replayed event => cases hpos
    | notice event => cases hpos
  · rintro ⟨event, hmem⟩
    exact ⟨_, hmem, rfl⟩

/-- What was delivered in two batches of frames. -/
theorem delivered_append {log more : List Queued} {q : Nat} :
    Delivered (log ++ more) q ↔ Delivered log q ∨ Delivered more q := by
  simp only [← mem_positions, positions, List.filterMap_append, List.mem_append]

/-- An announcement survives deliveries of later positions. -/
theorem Announced.append {log : List Queued} {q : Nat} (h : Announced log q) {more : List Queued}
    (hlater : ∀ p, Delivered more p → q < p) : Announced (log ++ more) q := by
  obtain ⟨before, notice, after, rfl, hbefore, hafter⟩ := h
  refine ⟨before, notice, after ++ more, by simp, hbefore, fun p hp => ?_⟩
  rcases delivered_append.mp hp with hp | hp
  · exact hafter p hp
  · exact hlater p hp

/-- A notice queued last announces every position after the deliveries so far. -/
theorem announced_last {log : List Queued} {q : Nat} (notice : BusEvent)
    (hbelow : ∀ p, Delivered log p → p < q) : Announced (log ++ [.notice notice]) q := by
  refine ⟨log, notice, [], rfl, hbelow, ?_⟩
  rintro p ⟨event, hmem⟩
  cases hmem

/-! ### No gap is silent -/

/-- Every event the subscription wants, from its start up to position `bound`, is in the
    log or announced there. -/
def Accounted (channel : List BusEvent) (s : Subscription) (log : List Queued) (bound : Nat) :
    Prop :=
  ∀ q event, s.start ≤ q → q < bound → channel[q]? = some event →
    s.request.wants event = true → Delivered log q ∨ Announced log q

/-- A frame that delivers a position carries the event that was sent there. -/
def Genuine (channel : List BusEvent) (log : List Queued) : Prop :=
  ∀ q event, Queued.event q event ∈ log → channel[q]? = some event

/-- The client gets the events as they were sent and in order, every event before a delivered one
    is accounted for, and while the loop waits for the next event all that it has passed are. -/
structure NoSilentGap (channel : List BusEvent) (s : Subscription) : Prop where
  genuine : Genuine channel s.out
  ordered : (positions s.out).Pairwise (· < ·)
  before_delivered : ∀ p, Delivered s.out p → Accounted channel s s.out p
  at_rest : s.pc = .receiving → Accounted channel s s.out s.next

/-- A `WatchRoutes` that has been overtaken has lost only events it does not want. -/
def SkipsNothing (b : Bus) : BusAction → Prop
  | .recv i => ∀ s ∈ b.subscriptions[i]?, s.request.isRoutes = true →
      ∀ event ∈ (b.channel.take (Broadcast.oldest eventChannelCapacity b.channel)).drop s.next,
        s.request.wants event = false
  | _ => True

instance (b : Bus) (a : BusAction) : Decidable (SkipsNothing b a) := by
  unfold SkipsNothing
  split <;> infer_instance

/-! ### The invariant -/

/-- The frames queued, and the one the loop is about to queue. -/
def Subscription.log (s : Subscription) : List Queued :=
  s.out ++ match s.pc with
    | .replying frame => [frame]
    | _ => []

/-- The log is in order and behind the cursor, and accounts for everything up to the cursor
    as long as the loop runs. -/
structure Gapless (channel : List BusEvent) (s : Subscription) : Prop where
  next_le : s.next ≤ channel.length
  genuine : Genuine channel s.log
  ordered : (positions s.log).Pairwise (· < ·)
  below : ∀ p, Delivered s.log p → p < s.next
  before_delivered : ∀ p, Delivered s.out p → Accounted channel s s.out p
  accounted : s.live = true → Accounted channel s s.log s.next

variable {channel : List BusEvent} {s s' : Subscription}

/-- What is queued is part of the log. -/
theorem delivered_log_of_out {p : Nat} (h : Delivered s.out p) : Delivered s.log p :=
  delivered_append.mpr (.inl h)

/-- What is queued is as genuine as the log. -/
theorem Genuine.out (h : Genuine channel s.log) : Genuine channel s.out :=
  fun q event hmem => h q event (List.mem_append_left _ hmem)

/-- What was queued is in order. -/
theorem Gapless.ordered_out (h : Gapless channel s) : (positions s.out).Pairwise (· < ·) := by
  refine h.ordered.sublist ?_
  unfold Subscription.log positions
  rw [List.filterMap_append]
  exact List.sublist_append_left _ _

/-- More frames of later positions do not take anything away. -/
theorem Accounted.append {log : List Queued} {bound : Nat} (h : Accounted channel s log bound)
    {more : List Queued} (hlater : ∀ p, Delivered more p → bound ≤ p) :
    Accounted channel s (log ++ more) bound := by
  intro q event hstart hq hat hwants
  rcases h q event hstart hq hat hwants with hdel | hann
  · exact .inl (delivered_append.mpr (.inl hdel))
  · exact .inr (hann.append (fun p hp => Nat.lt_of_lt_of_le hq (hlater p hp)))

/-- Accounting goes on past the bound where the positions in between are accounted for. -/
theorem Accounted.extend {log : List Queued} {bound bound' : Nat}
    (h : Accounted channel s log bound)
    (hnew : ∀ q event, bound ≤ q → q < bound' → channel[q]? = some event →
      s.request.wants event = true → Delivered log q ∨ Announced log q) :
    Accounted channel s log bound' := by
  intro q event hstart hq hat hwants
  by_cases hold : q < bound
  · exact h q event hstart hold hat hwants
  · exact hnew q event (Nat.le_of_not_lt hold) hq hat hwants

/-- A smaller bound asks for less. -/
theorem Accounted.mono {log : List Queued} {bound bound' : Nat}
    (h : Accounted channel s log bound) (hle : bound' ≤ bound) :
    Accounted channel s log bound' :=
  fun q event hstart hq hat hwants => h q event hstart (Nat.lt_of_lt_of_le hq hle) hat hwants

/-- Later sends do not change what lies before the bound. -/
theorem Accounted.sent {log : List Queued} {bound : Nat} (h : Accounted channel s log bound)
    (hle : bound ≤ channel.length) (event : BusEvent) :
    Accounted (channel ++ [event]) s log bound := by
  intro q e hstart hq hat hwants
  rw [List.getElem?_append_left (Nat.lt_of_lt_of_le hq hle)] at hat
  exact h q e hstart hq hat hwants

/-- Two batches of genuine frames. -/
theorem Genuine.append {log more : List Queued} (h : Genuine channel log)
    (hmore : Genuine channel more) : Genuine channel (log ++ more) := by
  intro q event hmem
  rcases List.mem_append.mp hmem with hmem | hmem
  · exact h q event hmem
  · exact hmore q event hmem

/-- Frames that deliver nothing are genuine. -/
theorem genuine_of_none {log : List Queued} (h : ∀ q, ¬ Delivered log q) : Genuine channel log :=
  fun q event hmem => absurd ⟨event, hmem⟩ (h q)

/-- The order of the log with one more frame of a later position. -/
theorem positions_append_ordered {log more : List Queued} {bound : Nat}
    (hlog : (positions log).Pairwise (· < ·)) (hbelow : ∀ p, Delivered log p → p < bound)
    (hmore : (positions more).Pairwise (· < ·)) (hlater : ∀ p, Delivered more p → bound ≤ p) :
    (positions (log ++ more)).Pairwise (· < ·) := by
  rw [positions, List.filterMap_append]
  refine List.pairwise_append.mpr ⟨hlog, hmore, fun p hp q hq => ?_⟩
  exact Nat.lt_of_lt_of_le (hbelow p (mem_positions.mp hp)) (hlater q (mem_positions.mp hq))

/-! ### The loop keeps it -/

/-- While the loop waits nothing is in hand. -/
theorem log_of_receiving (hpc : s.pc = .receiving) : s.log = s.out := by
  simp [Subscription.log, hpc]

/-- A loop that receives is running. -/
theorem live_of_receiving (hpc : s.pc = .receiving) : s.live = true := by
  simp [Subscription.live, hpc]

/-- The cursor of a waiting loop moves on to `bound`, with `more` taken in hand: enough that
    every wanted event in between is in `more` or announced by it. -/
theorem Gapless.advance (h : Gapless channel s) (hpc : s.pc = .receiving) {bound : Nat}
    {received : List BusEvent} {pc : WatchPc} {more : List Queued}
    (hlog : ({ s with next := bound, received := received, pc := pc } : Subscription).log =
      s.out ++ more)
    (hnext : s.next ≤ bound) (hbound : bound ≤ channel.length) (hgenuine : Genuine channel more)
    (hmore : (positions more).Pairwise (· < ·))
    (hwithin : ∀ p, Delivered more p → s.next ≤ p ∧ p < bound)
    (hnew : ∀ q event, s.next ≤ q → q < bound → channel[q]? = some event →
      s.request.wants event = true →
      Delivered (s.out ++ more) q ∨ Announced (s.out ++ more) q) :
    Gapless channel { s with next := bound, received := received, pc := pc } := by
  have hout : ∀ p, Delivered s.out p → p < s.next := fun p hp =>
    h.below p (delivered_log_of_out hp)
  -- What was passed is accounted for in the frames already sent.
  have hpassed : Accounted channel s s.out s.next := by
    have hacc := h.accounted (live_of_receiving hpc)
    rwa [log_of_receiving hpc] at hacc
  refine ⟨hbound, ?_, ?_, ?_, h.before_delivered, fun _ => ?_⟩
  · rw [hlog]
    exact (log_of_receiving hpc ▸ h.genuine).append hgenuine
  · rw [hlog]
    exact positions_append_ordered h.ordered_out hout hmore (fun p hp => (hwithin p hp).1)
  · intro p hp
    rw [hlog] at hp
    rcases delivered_append.mp hp with hp | hp
    · exact Nat.lt_of_lt_of_le (hout p hp) hnext
    · exact (hwithin p hp).2
  · rw [hlog]
    exact (hpassed.append (fun p hp => (hwithin p hp).1)).extend hnew

/-- Nothing in hand, nothing delivered. -/
theorem not_delivered_nil {q : Nat} : ¬ Delivered [] q := by
  rintro ⟨event, hmem⟩
  cases hmem

/-- A notice delivers nothing. -/
theorem not_delivered_notice {q : Nat} {notice : BusEvent} : ¬ Delivered [.notice notice] q := by
  rintro ⟨event, hmem⟩
  cases List.mem_singleton.mp hmem

/-- An event delivers its own position and no other. -/
theorem delivered_singleton {q p : Nat} {event : BusEvent} :
    Delivered [.event p event] q ↔ q = p := by
  simp [← mem_positions, positions]

/-- A position a lag skips is one of the events `SkipsNothing` looks at. -/
theorem mem_skipped {next bound q : Nat} {event : BusEvent} (hnext : next ≤ q) (hq : q < bound)
    (hat : channel[q]? = some event) : event ∈ (channel.take bound).drop next := by
  refine List.mem_of_getElem? (i := q - next) ?_
  rw [List.getElem?_drop, Nat.add_sub_cancel' hnext, List.getElem?_take_of_lt hq]
  exact hat

/-- `recv`: an event more, or a lag that is announced or skips nothing wanted. -/
theorem Gapless.recv (h : Gapless channel s)
    (hskips : s.request.isRoutes = true →
      ∀ event ∈ (channel.take (Broadcast.oldest eventChannelCapacity channel)).drop s.next,
        s.request.wants event = false)
    (hrecv : s.recv channel = some s') : Gapless channel s' := by
  obtain ⟨hpc, ⟨event, hat, hwants, rfl⟩ | ⟨event, hat, hwants, rfl⟩ |
    ⟨hlag, _, notice, rfl⟩ | ⟨hlag, hroutes, rfl⟩⟩ := Subscription.recv_cases hrecv
  · -- a wanted event is in hand
    have hlt : s.next < channel.length := (List.getElem?_eq_some_iff.mp hat).1
    refine h.advance hpc rfl (Nat.le_succ _) hlt ?_ (List.pairwise_singleton _ _) ?_ ?_
    · intro q event' hmem
      cases List.mem_singleton.mp hmem
      exact hat
    · intro p hp
      rw [delivered_singleton.mp hp]
      exact ⟨Nat.le_refl _, Nat.lt_succ_self _⟩
    · intro q _ hle hq _ _
      have hqn : q = s.next := by omega
      exact .inl (delivered_append.mpr (.inr (delivered_singleton.mpr hqn)))
  · -- an event the filter rejects is passed over
    have hlt : s.next < channel.length := (List.getElem?_eq_some_iff.mp hat).1
    refine h.advance hpc (?_ : _ = s.out ++ []) (Nat.le_succ _) hlt
      (genuine_of_none fun _ => not_delivered_nil) .nil ?_ ?_
    · rw [log_of_receiving (by exact hpc), List.append_nil]
    · intro p hp
      exact absurd hp not_delivered_nil
    · intro q event' hle hq hat' hwants'
      have hqn : q = s.next := by omega
      rw [hqn, hat] at hat'
      cases Option.some.inj hat'
      rw [hwants] at hwants'
      cases hwants'
  · -- the notice in hand announces all that the lag skips
    refine h.advance hpc rfl (Nat.le_of_lt hlag) (Broadcast.oldest_le_length _ _)
      (genuine_of_none fun _ => not_delivered_notice) .nil ?_ ?_
    · intro p hp
      exact absurd hp not_delivered_notice
    · intro q _ hle _ _ _
      refine .inr (announced_last notice (fun p hp => ?_))
      exact Nat.lt_of_lt_of_le (h.below p (delivered_log_of_out hp)) hle
  · -- no notice: nothing that was wanted may be among the skipped
    refine h.advance hpc (?_ : _ = s.out ++ []) (Nat.le_of_lt hlag) (Broadcast.oldest_le_length _ _)
      (genuine_of_none fun _ => not_delivered_nil) .nil ?_ ?_
    · rw [log_of_receiving (by exact hpc), List.append_nil]
    · intro p hp
      exact absurd hp not_delivered_nil
    · intro q event hle hq hat hwants
      rw [hskips hroutes event (mem_skipped hle hq hat)] at hwants
      cases hwants

/-- A move that only goes on to another await with nothing in hand. -/
theorem Gapless.goesOn (h : Gapless channel s) {pc : WatchPc}
    (hlog : s.log = s.out) (hlog' : ({ s with pc := pc } : Subscription).log = s.out)
    (hlive : ({ s with pc := pc } : Subscription).live = true → s.live = true) :
    Gapless channel { s with pc := pc } := by
  refine ⟨h.next_le, ?_, ?_, ?_, h.before_delivered, fun hl => ?_⟩
  · rw [hlog', ← hlog]
    exact h.genuine
  · rw [hlog', ← hlog]
    exact h.ordered
  · rw [hlog', ← hlog]
    exact h.below
  · rw [hlog', ← hlog]
    exact h.accounted (hlive hl)

/-- The loop returns; what it had in hand is lost with the connection. -/
theorem Gapless.ends (h : Gapless channel s) (outcome : Ipc.StreamOutcome) :
    Gapless channel { s with pc := .ended outcome } := by
  have hlog : ({ s with pc := .ended outcome } : Subscription).log = s.out :=
    List.append_nil _
  refine ⟨h.next_le, ?_, ?_, ?_, h.before_delivered, fun hlive => by cases hlive⟩
  · rw [hlog]
    exact h.genuine.out
  · rw [hlog]
    exact h.ordered_out
  · intro p hp
    rw [hlog] at hp
    exact h.below p (delivered_log_of_out hp)

/-- What was in hand has been queued. -/
theorem Gapless.queued (h : Gapless channel s) {frame : Queued} (hpc : s.pc = .replying frame)
    (sent : Nat) :
    Gapless channel { s with pc := .receiving, sent := sent, out := s.out ++ [frame] } := by
  have hlog : s.log = s.out ++ [frame] := by simp [Subscription.log, hpc]
  have hlive : s.live = true := by simp [Subscription.live, hpc]
  have hpassed : Accounted channel s (s.out ++ [frame]) s.next := hlog ▸ h.accounted hlive
  have hlog' : ({ s with pc := .receiving, sent := sent, out := s.out ++ [frame] } :
      Subscription).log = s.log := by
    rw [hlog]
    exact List.append_nil _
  refine ⟨h.next_le, ?_, ?_, ?_, fun p hp => ?_, fun _ => ?_⟩
  · rw [hlog']
    exact h.genuine
  · rw [hlog']
    exact h.ordered
  · rw [hlog']
    exact h.below
  · -- a delivered position lies behind the cursor
    exact hpassed.mono (Nat.le_of_lt (h.below p (hlog ▸ hp)))
  · rw [hlog', hlog]
    exact hpassed

/-- A replayed event is none of the channel's. -/
theorem Gapless.replayed (h : Gapless channel s) {event : BusEvent} {events : List BusEvent}
    (hpc : s.pc = .replaying (event :: events)) (sent : Nat) :
    Gapless channel { s with pc := Subscription.replayFrom events, sent := sent,
                             out := s.out ++ [.replayed event] } := by
  -- A replayed event stands for no position of the channel.
  have hnone : ∀ p, ¬ Delivered [.replayed event] p := by
    rintro p ⟨e, hmem⟩
    cases List.mem_singleton.mp hmem
  have hlog : s.log = s.out := by simp [Subscription.log, hpc]
  have hlog' : ({ s with pc := Subscription.replayFrom events, sent := sent,
                         out := s.out ++ [.replayed event] } : Subscription).log =
      s.out ++ [.replayed event] := by
    cases events <;> exact List.append_nil _
  have hdel : ∀ p, Delivered (s.out ++ [.replayed event]) p → Delivered s.out p := by
    intro p hp
    exact (delivered_append.mp hp).resolve_right (hnone p)
  have hkeeps : ∀ bound, Accounted channel s s.out bound →
      Accounted channel s (s.out ++ [.replayed event]) bound :=
    fun bound hacc => hacc.append (fun p hp => absurd hp (hnone p))
  refine ⟨h.next_le, ?_, ?_, fun p hp => ?_, fun p hp => ?_, fun _ => ?_⟩
  · rw [hlog']
    exact h.genuine.out.append (genuine_of_none hnone)
  · rw [hlog']
    refine positions_append_ordered (hlog ▸ h.ordered) (hlog ▸ h.below) .nil ?_
    intro p hp
    exact absurd hp (hnone p)
  · rw [hlog'] at hp
    exact h.below p (delivered_log_of_out (hdel p hp))
  · exact hkeeps p (h.before_delivered p (hdel p hp))
  · rw [hlog']
    exact hkeeps _ (hlog ▸ h.accounted (by simp [Subscription.live, hpc]))

/-- In every run under the condition, every subscription is gapless. -/
theorem Bus.Run.gapless {b : Bus} (hrun : Bus.Run SkipsNothing b) :
    ∀ s ∈ b.subscriptions, Gapless b.channel s := by
  refine hrun.subscriptions ?_ ?_ ?_ ?_ ?_
  · intro channel request
    have hlog : (Subscription.new request channel.length).log = [] := by
      unfold Subscription.log Subscription.new
      split <;> rfl
    refine ⟨Nat.le_refl _, ?_, ?_, fun p hp => ?_, fun p hp => ?_, fun _ q _ hstart hq => ?_⟩
    · rw [hlog]
      exact genuine_of_none fun _ => not_delivered_nil
    · rw [hlog]
      exact .nil
    · rw [hlog] at hp
      exact absurd hp not_delivered_nil
    · exact absurd hp not_delivered_nil
    · -- nothing lies between the start and the cursor yet
      exact absurd hq (Nat.not_lt.mpr hstart)
  · intro channel event s h
    refine ⟨?_, fun q e hmem => ?_, h.ordered, h.below, fun p hp => ?_, fun hlive => ?_⟩
    · rw [List.length_append]
      exact Nat.le_add_right_of_le h.next_le
    · have hlt := Nat.lt_of_lt_of_le (h.below q ⟨e, hmem⟩) h.next_le
      rw [List.getElem?_append_left hlt]
      exact h.genuine q e hmem
    · have hlt := h.below p (delivered_log_of_out hp)
      exact (h.before_delivered p hp).sent (Nat.le_of_lt (Nat.lt_of_lt_of_le hlt h.next_le)) event
    · exact (h.accounted hlive).sent h.next_le event
  · intro channel s s' answer h hreplay
    obtain ⟨hpc, ⟨events, rfl⟩ | ⟨outcome, rfl⟩⟩ := Subscription.replay_cases hreplay
    · refine h.goesOn (by simp [Subscription.log, hpc]) ?_
        (fun _ => by simp [Subscription.live, hpc])
      cases events <;> exact List.append_nil _
    · exact h.ends outcome
  · intro b i s s' hok hs h hrecv
    exact h.recv (hok s hs) hrecv
  · intro channel s s' ok h hreply
    obtain ⟨event, events, hpc, rfl⟩ | ⟨frame, hpc, rfl⟩ | ⟨outcome, rfl⟩ :=
      Subscription.reply_cases hreply
    · exact h.replayed hpc _
    · exact h.queued hpc _
    · exact h.ends outcome

/-! ### No silent gap -/

/-- What holds of the log says that no gap in it is silent. -/
theorem Gapless.noSilentGap (h : Gapless channel s) : NoSilentGap channel s where
  genuine := h.genuine.out
  ordered := h.ordered_out
  before_delivered := h.before_delivered
  at_rest hpc := by
    have hacc := h.accounted (live_of_receiving hpc)
    rwa [log_of_receiving hpc] at hacc

/-- **No silent gap.**  In every state of every run in which `WatchRoutes` loops skip only
    events they do not want, no subscription has a silent gap, whatever was published and
    however far the subscribers fell behind. -/
theorem no_silent_gap (b : Bus) (hrun : Bus.Run SkipsNothing b) :
    ∀ s ∈ b.subscriptions, NoSilentGap b.channel s :=
  fun s hs => (hrun.gapless s hs).noSilentGap

/-- The monitor publishes `event` any number of times while somebody listens. -/
theorem Bus.publish_many (ok : Bus → BusAction → Prop)
    (hpublish : ∀ b event, ok b (.stamp .monitor event) ∧ ok b (.send .monitor))
    (event : BusEvent) (n : Nat) (b : Bus) (hidle : b.unsent = [])
    (hlive : b.subscriptions.any Subscription.live = true) :
    ∃ (b' : Bus) (numbers : List Nat), Runs.Steps Bus.step ok b b' ∧
      b'.unsent = [] ∧ b'.subscriptions = b.subscriptions ∧ numbers.length = n ∧
      b'.channel = b.channel ++ numbers.map (fun k => { event with sequence := k }) := by
  induction n generalizing b with
  | zero => exact ⟨b, [], .refl b, hidle, rfl, rfl, by simp⟩
  | succ n ih =>
    let event' : BusEvent := { event with sequence := b.sequence }
    let stamped : Bus := { b with stamped := b.stamped + 1, unsent := [(.monitor, event')] }
    let sent : Bus := { stamped with unsent := [], channel := b.channel ++ [event'] }
    -- Each is stamped and sent before the next is stamped.
    have hstamp : b.step (.stamp .monitor event) = some stamped := by
      simp [Bus.step, hidle, stamped, event', Publisher.prepare]
    have hsend : stamped.step (.send .monitor) = some sent := by
      simp [Bus.step, Bus.sendTo, stamped, sent, hlive]
    have hrun : Runs.Steps Bus.step ok b sent :=
      (Runs.Steps.tail _ (.refl b) (hpublish b event).1 hstamp).tail _ (hpublish stamped event).2
        hsend
    obtain ⟨b', numbers, hmore, hidle', hsubs, hlen, hchannel⟩ := ih sent rfl hlive
    refine ⟨b', b.sequence :: numbers, hrun.trans hmore, hidle', hsubs, by simp [hlen], ?_⟩
    rw [hchannel]
    simp [sent, event']

/-- A waiting loop that has not been overtaken takes the next event it wants in hand. -/
theorem Subscription.recv_wanted {s : Subscription} {channel : List BusEvent} {event : BusEvent}
    (hpc : s.pc = .receiving) (hkept : Broadcast.oldest eventChannelCapacity channel ≤ s.next)
    (hat : channel[s.next]? = some event) (hwants : s.request.wants event = true) :
    s.recv channel = some { s with next := s.next + 1, received := s.received ++ [event],
                                   pc := .replying (.event s.next event) } := by
  simp [Subscription.recv, Broadcast.recv, hpc, Nat.not_lt.mpr hkept, hat, hwants]

/-- An overtaken `WatchRoutes` goes on at the oldest event left. -/
theorem Subscription.recv_overtaken {s : Subscription} {channel : List BusEvent}
    {request : WatchRoutesRequest} (hpc : s.pc = .receiving) (hreq : s.request = .routes request)
    (hlag : s.next < Broadcast.oldest eventChannelCapacity channel) :
    s.recv channel =
      some { s with next := Broadcast.oldest eventChannelCapacity channel } := by
  simp [Subscription.recv, Broadcast.recv, hpc, hreq, hlag]

/-- The only subscription receives. -/
theorem Bus.step_recv_only (b : Bus) {s s' : Subscription} (hrecv : s.recv b.channel = some s') :
    Bus.step { b with subscriptions := [s] } (.recv 0) =
      some { b with subscriptions := [s'] } := by
  simp [Bus.step, Bus.onSubscription, hrecv]

/-- An overtaken `WatchRoutes` serves the oldest event left, and that is all its client
    sees. -/
theorem Bus.Run.overtaken_served {ok : Bus → BusAction → Prop} {b : Bus} {s : Subscription}
    {request : WatchRoutesRequest} {event : BusEvent}
    (hrun : Bus.Run ok { b with subscriptions := [s] })
    (hskips : ok { b with subscriptions := [s] } (.recv 0))
    (hgoes : ∀ t, t.next = Broadcast.oldest eventChannelCapacity b.channel →
      ok { b with subscriptions := [t] } (.recv 0))
    (hreply : ∀ b, ok b (.reply 0 true))
    (hpc : s.pc = .receiving) (hreq : s.request = .routes request)
    (hlag : s.next < Broadcast.oldest eventChannelCapacity b.channel)
    (hat : b.channel[Broadcast.oldest eventChannelCapacity b.channel]? = some event)
    (hwants : s.request.wants event = true) :
    ∃ s', Bus.Run ok { b with subscriptions := [s'] } ∧ s'.start = s.start ∧
      s'.request = s.request ∧
      s'.out = s.out ++ [.event (Broadcast.oldest eventChannelCapacity b.channel) event] := by
  have hskip := Subscription.recv_overtaken hpc hreq hlag
  have hrecv := Subscription.recv_wanted
    (s := { s with next := Broadcast.oldest eventChannelCapacity b.channel }) hpc (Nat.le_refl _)
    hat hwants
  have hheld := (hrun.tail _ hskips (b.step_recv_only hskip)).tail _ (hgoes _ rfl)
    (b.step_recv_only hrecv)
  exact ⟨_, hheld.tail (.reply 0 true) (hreply _) rfl, rfl, rfl, rfl⟩

/-- A route of the main table. -/
def aRoute : BusEvent := { source := .kernel, payload := some (.route (some ⟨1, 254⟩)) }

/-- A neighbour that stopped answering. -/
def aNeighbor : BusEvent := { source := .kernel, payload := some (.neighbor (some 32)) }

/-- A `WatchRoutes` that sleeps through a neighbour change and 1024 route changes is overtaken
    by the neighbour alone. -/
theorem no_silent_gap_overtaken :
    ∃ b, Bus.Run SkipsNothing b ∧ b.channel.length = 1025 ∧
      b.subscriptions.map (fun s => positions s.out) = [[1]] ∧
      ∀ s ∈ b.subscriptions, NoSilentGap b.channel s := by
  have hpublish : ∀ b event, SkipsNothing b (.stamp .monitor event) ∧
      SkipsNothing b (.send .monitor) := fun _ _ => ⟨trivial, trivial⟩
  obtain ⟨b₁, first, hfirst, hidle, hsubs₁, hlen₁, hchannel₁⟩ :=
    Bus.publish_many SkipsNothing hpublish aNeighbor 1
      { Bus.new with subscriptions := [.new (.routes {}) 0] } rfl rfl
  obtain ⟨b, numbers, hmore, -, hsubs, hlen, hchannel⟩ :=
    Bus.publish_many SkipsNothing hpublish aRoute 1024 b₁ hidle (by rw [hsubs₁]; rfl)
  obtain ⟨k, rfl⟩ := List.length_eq_one_iff.mp hlen₁
  have hchannel : b.channel =
      { aNeighbor with sequence := k } :: numbers.map (fun k => { aRoute with sequence := k }) := by
    rw [hchannel, hchannel₁]
    rfl
  have hlength : b.channel.length = 1025 := by simp [hchannel, hlen]
  have holdest : Broadcast.oldest eventChannelCapacity b.channel = 1 := by
    simp [Broadcast.oldest, eventChannelCapacity, hlength]
  have hsub : Bus.Run SkipsNothing { b with subscriptions := [.new (.routes {}) 0] } := by
    have hsubs : b.subscriptions = [.new (.routes {}) 0] := hsubs.trans hsubs₁
    rw [← hsubs]
    exact (Runs.Steps.trans (.tail (.subscribe (.routes {})) (.refl _) trivial rfl) hfirst).trans
      hmore
  -- the lag skips the neighbour, and the second receive skips nothing
  have hskips : SkipsNothing { b with subscriptions := [.new (.routes {}) 0] } (.recv 0) := by
    intro s hs _ event hevent
    cases Option.mem_some_iff.mp hs
    change event ∈ (b.channel.take (Broadcast.oldest eventChannelCapacity b.channel)).drop 0
      at hevent
    rw [holdest, List.drop_zero, hchannel] at hevent
    cases List.mem_singleton.mp hevent
    rfl
  have hgoes : ∀ t : Subscription,
      t.next = Broadcast.oldest eventChannelCapacity b.channel →
      SkipsNothing { b with subscriptions := [t] } (.recv 0) := by
    intro t hnext s hs _ event hevent
    cases Option.mem_some_iff.mp hs
    rw [hnext, List.drop_eq_nil_of_le (List.length_take_le _ _)] at hevent
    cases hevent
  obtain ⟨route, hat⟩ : ∃ e, b.channel[1]? = some e :=
    ⟨_, List.getElem?_eq_getElem (by omega)⟩
  have hwants : (WatchRequest.routes {}).wants route = true := by
    rw [hchannel, List.getElem?_cons_succ] at hat
    obtain ⟨n, -, rfl⟩ := List.mem_map.mp (List.mem_of_getElem? hat)
    rfl
  obtain ⟨s, hserved, -, -, hout⟩ := hsub.overtaken_served hskips hgoes (fun _ => trivial) rfl rfl
    (by rw [holdest]; exact Nat.zero_lt_one) (by rw [holdest]; exact hat) hwants
  rw [holdest] at hout
  have hpositions : positions s.out = [1] := by
    rw [hout]
    rfl
  exact ⟨_, hserved, hlength, by simp [hpositions], no_silent_gap _ hserved⟩

/-- A `WatchRoutes` that sleeps through 1025 route changes has lost the first of them, and
    goes on with the second as if nothing had happened. -/
theorem lagging_routes_silent :
    ¬ ∀ b, Bus.Run (fun _ _ => True) b → ∀ s ∈ b.subscriptions, NoSilentGap b.channel s := by
  intro hall
  obtain ⟨b, numbers, hrun, _, hsubs, hlen, hchannel⟩ := Bus.publish_many (fun _ _ => True)
    (fun _ _ => ⟨trivial, trivial⟩) aRoute 1025
    { Bus.new with subscriptions := [.new (.routes {}) 0] } rfl rfl
  have hlength : b.channel.length = 1025 := by simp [hchannel, hlen, Bus.new]
  have holdest : Broadcast.oldest eventChannelCapacity b.channel = 1 := by
    simp [Broadcast.oldest, eventChannelCapacity, hlength]
  have hwants : ∀ e ∈ b.channel, (WatchRequest.routes {}).wants e = true := by
    intro e he
    rw [hchannel] at he
    obtain ⟨k, _, rfl⟩ := List.mem_map.mp he
    rfl
  obtain ⟨e₀, hat₀⟩ : ∃ e, b.channel[0]? = some e :=
    ⟨_, List.getElem?_eq_getElem (by omega)⟩
  obtain ⟨e₁, hat₁⟩ : ∃ e, b.channel[1]? = some e :=
    ⟨_, List.getElem?_eq_getElem (by omega)⟩
  have hsub : Bus.Run (fun _ _ => True)
      { b with subscriptions := [.new (.routes {}) 0] } := by
    have hsubs : b.subscriptions = [.new (.routes {}) 0] := hsubs
    rw [← hsubs]
    exact Runs.Steps.trans (.tail (.subscribe (.routes {})) (.refl _) trivial rfl) hrun
  obtain ⟨s, hserved, hstart, hreq, hout⟩ := hsub.overtaken_served trivial
    (fun _ _ => trivial) (fun _ => trivial) rfl rfl
    (by rw [holdest]; exact Nat.zero_lt_one) (by rw [holdest]; exact hat₁)
    (hwants e₁ (List.mem_of_getElem? hat₁))
  rw [holdest] at hout
  have hout : s.out = [.event 1 e₁] := hout
  have hdel : Delivered s.out 1 := ⟨e₁, by simp [hout]⟩
  have hgap := (hall _ hserved s (by simp)).before_delivered 1 hdel 0 e₀ (Nat.le_of_eq hstart)
    Nat.zero_lt_one hat₀ (by rw [hreq]; exact hwants e₀ (List.mem_of_getElem? hat₀))
  -- the client has one frame, which is neither the lost event nor a notice
  rcases hgap with ⟨event, hmem⟩ | ⟨before, notice, after, hsplit, _⟩
  · rw [hout] at hmem
    cases List.mem_singleton.mp hmem
  · have hmem : Queued.notice notice ∈ s.out := by simp [hsplit]
    rw [hout] at hmem
    cases List.mem_singleton.mp hmem

end Netdiag.Watch
