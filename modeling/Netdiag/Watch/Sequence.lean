import Netdiag.Watch.Bus

namespace Netdiag.Watch

/-!
# Watch — the order of sequence numbers

`publish` promises sequence numbers that are "strictly increasing in publication order".
It takes the number first and sends afterwards, so with two publishers the order of the
numbers and the order of the sends can differ.

* `SendsInTurn` — the condition: whoever sends holds the smallest number not yet sent, and
  the counter has not gone round.
* `InOrder` — under it, the channel is sorted and everything unsent comes after it.
* `Follows` — in any run, what a subscriber has received is a sublist of the channel.
* `received_increasing` — so every subscriber receives strictly increasing numbers.
-/

/-! ### The channel -/

/-- A send comes in turn when no other publisher still holds a smaller number; a stamp when
    the counter has numbers left. -/
def SendsInTurn (b : Bus) : BusAction → Prop
  | .stamp _ _ => b.stamped < 2 ^ 64
  | .send p => ∀ x ∈ b.unsent, x.1 = p → ∀ y ∈ b.unsent, y.1 ≠ p → x.2.sequence < y.2.sequence
  | _ => True

instance (b : Bus) (a : BusAction) : Decidable (SendsInTurn b a) := by
  unfold SendsInTurn
  split <;> infer_instance

/-- The channel is sorted, what is not sent yet comes after it, and the counter after both. -/
structure InOrder (b : Bus) : Prop where
  channel : b.channel.Pairwise (fun e e' => e.sequence < e'.sequence)
  unsent_after : ∀ e ∈ b.channel, ∀ x ∈ b.unsent, e.sequence < x.2.sequence
  channel_stamped : ∀ e ∈ b.channel, e.sequence < b.stamped
  unsent_stamped : ∀ x ∈ b.unsent, x.2.sequence < b.stamped

/-- Stamping gives out the next number. -/
theorem InOrder.stamp {b : Bus} {p : Publisher} {event : BusEvent} (h : InOrder b)
    (hseq : event.sequence = b.stamped) :
    InOrder { b with stamped := b.stamped + 1, unsent := b.unsent ++ [(p, event)] } where
  channel := h.channel
  unsent_after e he x hx := by
    rcases List.mem_append.mp hx with hx | hx
    · exact h.unsent_after e he x hx
    · rw [List.mem_singleton.mp hx, hseq]
      exact h.channel_stamped e he
  channel_stamped e he := Nat.lt_succ_of_lt (h.channel_stamped e he)
  unsent_stamped x hx := by
    rcases List.mem_append.mp hx with hx | hx
    · exact Nat.lt_succ_of_lt (h.unsent_stamped x hx)
    · rw [List.mem_singleton.mp hx, hseq]
      exact Nat.lt_succ_self _

/-- Sending the smallest number that is out keeps the channel sorted. -/
theorem InOrder.send {b : Bus} {p : Publisher} {event : BusEvent} (h : InOrder b)
    (hmem : (p, event) ∈ b.unsent)
    (hfirst : ∀ y ∈ b.unsent, y.1 ≠ p → event.sequence < y.2.sequence) :
    InOrder { b with unsent := b.unsent.filter (fun x => x.1 ≠ p), channel := b.sendTo event } := by
  have hkept : ∀ x ∈ b.unsent.filter (fun x => x.1 ≠ p), x ∈ b.unsent ∧ x.1 ≠ p := by
    intro x hx
    simpa using List.mem_filter.mp hx
  -- With no subscriber the event is lost, and the order with it stays.
  rcases b.sendTo_cases event with hsame | hmore
  · rw [hsame]
    exact ⟨h.channel, fun e he x hx => h.unsent_after e he x (hkept x hx).1, h.channel_stamped,
      fun x hx => h.unsent_stamped x (hkept x hx).1⟩
  · rw [hmore]
    refine ⟨?_, ?_, ?_, fun x hx => h.unsent_stamped x (hkept x hx).1⟩
    · rw [List.pairwise_append]
      refine ⟨h.channel, List.pairwise_singleton _ _, fun e he e' he' => ?_⟩
      rw [List.mem_singleton.mp he']
      exact h.unsent_after e he _ hmem
    · intro e he x hx
      rcases List.mem_append.mp he with he | he
      · exact h.unsent_after e he x (hkept x hx).1
      · rw [List.mem_singleton.mp he]
        exact hfirst x (hkept x hx).1 (hkept x hx).2
    · intro e he
      rcases List.mem_append.mp he with he | he
      · exact h.channel_stamped e he
      · rw [List.mem_singleton.mp he]
        exact h.unsent_stamped _ hmem

/-- The moves of a subscription do not touch the channel or the publishers. -/
theorem InOrder.onSubscription {b b' : Bus} {i : Nat} {move : Subscription → Option Subscription}
    (h : InOrder b) (hmove : b.onSubscription i move = some b') : InOrder b' := by
  obtain ⟨_, s', _, _, rfl⟩ := Bus.onSubscription_cases hmove
  exact ⟨h.channel, h.unsent_after, h.channel_stamped, h.unsent_stamped⟩

/-- One step in turn. -/
theorem InOrder.step {b b' : Bus} {a : BusAction} (h : InOrder b) (hok : SendsInTurn b a)
    (hstep : b.step a = some b') : InOrder b' := by
  cases a with
  | stamp p event =>
    obtain ⟨_, rfl⟩ := Bus.stamp_cases hstep
    -- below 2 ^ 64 the counter is the number it gives out
    exact h.stamp (Nat.mod_eq_of_lt hok)
  | send p =>
    obtain ⟨event, hmem, rfl⟩ := Bus.send_cases hstep
    exact h.send hmem (hok _ hmem rfl)
  | subscribe request =>
    cases Option.some.inj hstep
    exact ⟨h.channel, h.unsent_after, h.channel_stamped, h.unsent_stamped⟩
  | replay i answer => exact h.onSubscription hstep
  | recv i => exact h.onSubscription hstep
  | reply i ok => exact h.onSubscription hstep

/-- The channel of a run in turn. -/
theorem Bus.Run.inOrder {b : Bus} (hrun : Bus.Run SendsInTurn b) : InOrder b := by
  refine Runs.Steps.invariant hrun ⟨.nil, ?_, ?_, ?_⟩ (fun _ _ _ hinv hok hstep => hinv.step hok hstep)
  all_goals
    intro x hx
    cases hx

/-! ### The receivers -/

/-- The cursor is within the channel, and what was received lies behind it. -/
def Subscription.Follows (channel : List BusEvent) (s : Subscription) : Prop :=
  s.next ≤ channel.length ∧ s.received.Sublist (channel.take s.next)

/-- Moves that leave the receiver alone. -/
theorem Subscription.Follows.congr {channel : List BusEvent} {s s' : Subscription}
    (h : s.Follows channel) (hnext : s'.next = s.next) (hreceived : s'.received = s.received) :
    s'.Follows channel := by
  unfold Subscription.Follows
  rw [hnext, hreceived]
  exact h

/-- What `recv` does to the receiver: one value more, or a lag. -/
theorem Subscription.Follows.recv {channel : List BusEvent} {s s' : Subscription}
    (h : s.Follows channel) (hrecv : s.recv channel = some s') : s'.Follows channel := by
  obtain ⟨hle, hsub⟩ := h
  have hvalue : ∀ event, channel[s.next]? = some event →
      s.next + 1 ≤ channel.length ∧
        (s.received ++ [event]).Sublist (channel.take (s.next + 1)) :=
    fun event hat => ⟨(List.getElem?_eq_some_iff.mp hat).1, Broadcast.sublist_take_succ hat hsub⟩
  have hlagged : s.next < Broadcast.oldest eventChannelCapacity channel →
      Broadcast.oldest eventChannelCapacity channel ≤ channel.length ∧
        s.received.Sublist
          (channel.take (Broadcast.oldest eventChannelCapacity channel)) :=
    fun hlag => ⟨Broadcast.oldest_le_length _ _,
      Broadcast.sublist_take_mono (Nat.le_of_lt hlag) hsub⟩
  obtain ⟨_, ⟨event, hat, _, rfl⟩ | ⟨event, hat, _, rfl⟩ | ⟨hlag, _, notice, rfl⟩ |
    ⟨hlag, _, rfl⟩⟩ := Subscription.recv_cases hrecv
  · exact hvalue event hat
  · exact hvalue event hat
  · exact hlagged hlag
  · exact hlagged hlag

/-- In any run every subscriber has received a part of the channel, in its order. -/
theorem Bus.Run.follows {ok : Bus → BusAction → Prop} {b : Bus} (hrun : Bus.Run ok b) :
    ∀ s ∈ b.subscriptions, s.Follows b.channel := by
  refine hrun.subscriptions ?_ ?_ ?_ ?_ ?_
  · intro channel request
    exact ⟨Nat.le_refl _, List.nil_sublist _⟩
  · rintro channel event s ⟨hle, hsub⟩
    refine ⟨by simp only [List.length_append]; omega, ?_⟩
    rw [List.take_append_of_le_length hle]
    exact hsub
  · intro channel s s' answer h hreplay
    obtain ⟨_, ⟨events, rfl⟩ | ⟨outcome, rfl⟩⟩ := Subscription.replay_cases hreplay
    · exact h.congr rfl rfl
    · exact h.congr rfl rfl
  · intro b i s s' _ _ h hrecv
    exact h.recv hrecv
  · intro channel s s' ok h hreply
    obtain ⟨event, events, _, rfl⟩ | ⟨frame, _, rfl⟩ | ⟨outcome, rfl⟩ :=
      Subscription.reply_cases hreply
    · exact h.congr rfl rfl
    · exact h.congr rfl rfl
    · exact h.congr rfl rfl

/-! ### What subscribers see -/

/-- The subscriber has received strictly increasing sequence numbers. -/
def Subscription.Increasing (s : Subscription) : Prop :=
  s.received.Pairwise (fun e e' => e.sequence < e'.sequence)

instance (s : Subscription) : Decidable s.Increasing :=
  inferInstanceAs (Decidable (List.Pairwise _ _))

/-- **Sequence order.**  In every state of every run whose publishers send in turn, every
    subscriber has received its events in strictly increasing sequence order. -/
theorem received_increasing (b : Bus) (hrun : Bus.Run SendsInTurn b) :
    ∀ s ∈ b.subscriptions, s.Increasing := by
  intro s hs
  have hsub : s.received.Sublist b.channel := (hrun.follows s hs).2.trans (List.take_sublist _ _)
  exact hrun.inOrder.channel.sublist hsub

/-- A subscriber, two publishers one after the other, two events received. -/
def takingTurns : List BusAction :=
  [.subscribe (.network {}), .stamp .monitor {}, .send .monitor, .stamp (.push 0) {},
    .send (.push 0), .recv 0, .reply 0 true, .recv 0]

theorem received_increasing_takingTurns :
    ∃ b, Bus.Run SendsInTurn b ∧ (b.subscriptions.map (fun s => s.received.length)) = [2] ∧
      ∀ s ∈ b.subscriptions, s.Increasing := by
  obtain ⟨b, hrun, hlen⟩ := Bus.exists_run SendsInTurn takingTurns
    (fun b => (b.subscriptions.map (fun s => s.received.length)) = [2]) (by decide +kernel)
  exact ⟨b, hrun, hlen, received_increasing b hrun⟩

/-- The monitor has its number and is overtaken by a pushed event before it sends. -/
def overtaken : List BusAction :=
  [.subscribe (.network {}), .stamp .monitor {}, .stamp (.push 0) {}, .send (.push 0),
    .send .monitor, .recv 0, .reply 0 true, .recv 0]

theorem overtaken_not_increasing :
    ¬ ∀ b, Bus.Run (fun _ _ => True) b → ∀ s ∈ b.subscriptions, s.Increasing := by
  intro hall
  obtain ⟨b, hrun, hbad⟩ := Bus.exists_run (fun _ _ => True) overtaken
    (fun b => ¬ ∀ s ∈ b.subscriptions, s.Increasing) (by decide +kernel)
  exact hbad (hall b hrun)

end Netdiag.Watch
