import Netdiag.Net.AddrDisplay
import Netdiag.Net.Messages
import Netdiag.Watch.Event
import Mathlib.Data.List.Chain
import Mathlib.Tactic.IntervalCases

namespace Netdiag.Watch

/-!
# Watch — neighbours

`neighbor_event` of `daemon/src/watch.rs`: neighbour notifications are frequent, so only those
that change whether the neighbour is usable become events.

* `neighborToProto`, `neighborEvent` — a notification's neighbour, its event and the cache
  after it.
* `sinceRemoval` — the states of an address on an interface since it was last removed.
* `cacheAfter_eq` — the cache holds the latest of them.
* `Transitional` — what the events of a sequence of notifications are to be.
* `transitional_iff` — they are that exactly when no unusable state follows an unknown one.
-/

/-! ### Notifications -/

/-- `NeighbourState` of the netlink header. -/
inductive NeighbourState
  | incomplete
  | reachable
  | stale
  | delay
  | probe
  | failed
  | noarp
  | permanent
  | none
  | other (n : Nat)
  deriving DecidableEq, Repr

/-- `neighbour_state_to_proto`. -/
def neighbourStateToProto : NeighbourState → NeighborState
  | .incomplete => .incomplete
  | .reachable => .reachable
  | .stale => .stale
  | .delay => .delay
  | .probe => .probe
  | .failed => .failed
  | .noarp => .noarp
  | .permanent => .permanent
  | .none => .none
  | .other _ => .unspecified

/-- The `NDA_*` attributes `neighbor_to_proto` looks at; a destination of another family than
    the two has no address. -/
inductive NeighbourAttribute
  | destination (ip : Option IpAddr)
  | linkLayerAddress (mac : List (BitVec 8))
  | other
  deriving DecidableEq, Repr

/-- `NeighbourMessage`: header index, state and router flag, attributes. -/
structure NeighbourMessage where
  ifindex : Nat
  state : NeighbourState
  router : Bool
  attributes : List NeighbourAttribute
  deriving DecidableEq, Repr

/-- `IpAddress::from_ip`. -/
def fromIp (ip : IpAddr) : IpAddress := ⟨ip.octets⟩

/-- `Neighbor` with the fields `neighbor_event` reads besides. -/
structure WatchedNeighbor extends Neighbor where
  interfaceName : String := ""
  isRouter : Bool := false
  deriving DecidableEq, Repr

/-- One attribute of `neighbor_to_proto`. -/
def WatchedNeighbor.applyAttribute (n : WatchedNeighbor) : NeighbourAttribute → WatchedNeighbor
  | .destination ip => { n with address := ip.map fromIp }
  | .linkLayerAddress mac => { n with linkAddress := mac }
  | .other => n

/-- `neighbor_to_proto`. -/
def neighborToProto (msg : NeighbourMessage) (ifNames : Nat → Option String) : WatchedNeighbor :=
  msg.attributes.foldl WatchedNeighbor.applyAttribute
    { interfaceIndex := msg.ifindex
      interfaceName := (ifNames msg.ifindex).getD ""
      state := neighbourStateToProto msg.state
      isRouter := msg.router }

/-- The `NetworkEvent` with a `NeighborEvent` that `neighbor_event` builds. -/
structure NeighborNotice where
  severity : Severity
  summary : String
  added : Bool
  neighbor : WatchedNeighbor
  previousState : NeighborState
  isGateway : Bool
  deriving DecidableEq, Repr

/-- `neighbor_states`. -/
abbrev NeighborStates := Nat × String → Option NeighborState

/-- The event of a neighbour that came or went, with the state it had before. -/
def neighborNotice (neighbor : WatchedNeighbor) (address : String) (added : Bool)
    (previous : NeighborState) : NeighborNotice :=
  let name := if neighbor.interfaceName = "" then s!"if{neighbor.interfaceIndex}"
    else neighbor.interfaceName
  let isUsable := neighbor.state.isUsable
  { severity := if added && !isUsable then .warning else .info
    summary :=
      if !added then s!"neighbour {address} removed on {name}"
      else if isUsable then s!"neighbour {address} reachable on {name}"
      else s!"neighbour {address} is {neighbor.state.debug} on {name}"
    added, neighbor, previousState := previous, isGateway := neighbor.isRouter }

/-- `neighbor_event`: the event, if there is one, and the cache after the notification. -/
def neighborEvent (msg : NeighbourMessage) (added : Bool) (ifNames : Nat → Option String)
    (cache : NeighborStates) : Option NeighborNotice × NeighborStates :=
  let neighbor := neighborToProto msg ifNames
  match neighbor.address with
  | none => (none, cache)
  | some ip =>
    let address := ip.display
    let state := neighbor.state
    let key := (neighbor.interfaceIndex, address)
    let previous := (cache key).getD .unspecified
    let inserted := Function.update cache key (some state)
    let cache := if !added then Function.update inserted key none else inserted
    -- Only transitions that change whether the neighbour is usable are worth an entry.
    let wasUsable := previous.isUsable
    let isUsable := state.isUsable
    if added && wasUsable == isUsable && previous != .unspecified then (none, cache)
    else (some (neighborNotice neighbor address added previous), cache)

/-! ### One notification -/

/-- The address of a destination, and else the one before it. -/
def NeighbourAttribute.destinationOr (address : Option IpAddr) :
    NeighbourAttribute → Option IpAddr
  | .destination ip => ip
  | .linkLayerAddress _ | .other => address

/-- A notification: a neighbour was added or changed, or removed; `ifNames` are the names the
    cache has by then. -/
structure Notification where
  msg : NeighbourMessage
  added : Bool
  ifNames : Nat → Option String

namespace Notification

/-- The address of a notification: that of its last destination. -/
def address (n : Notification) : Option IpAddr :=
  n.msg.attributes.foldl NeighbourAttribute.destinationOr none

/-- The interface and address it is about. -/
def key (n : Notification) : Option (Nat × IpAddr) := n.address.map (fun ip => (n.msg.ifindex, ip))

/-- The state it reports. -/
def state (n : Notification) : NeighborState := neighbourStateToProto n.msg.state

end Notification

/-- An address is read back from its bytes. -/
theorem toIp_fromIp (ip : IpAddr) : (fromIp ip).toIp = some ip := by
  cases ip with
  | v4 bits =>
    refine congrArg (fun b => some (IpAddr.v4 b)) (ofBytes_eq fun k hk => ?_)
    have hk : k < 4 := by omega
    interval_cases k <;> rfl
  | v6 bits =>
    refine congrArg (fun b => some (IpAddr.v6 b)) (ofBytes_eq fun k hk => ?_)
    have hk : k < 16 := by omega
    interval_cases k <;> rfl

/-- What `neighbor_to_proto` takes over from a message. -/
theorem neighborToProto_spec (n : Notification) :
    (neighborToProto n.msg n.ifNames).address = n.address.map fromIp ∧
      (neighborToProto n.msg n.ifNames).interfaceIndex = n.msg.ifindex ∧
      (neighborToProto n.msg n.ifNames).state = n.state := by
  have hfold : ∀ (attributes : List NeighbourAttribute) (w : WatchedNeighbor) (ip : Option IpAddr),
      w.address = ip.map fromIp →
      (attributes.foldl WatchedNeighbor.applyAttribute w).address =
        (attributes.foldl NeighbourAttribute.destinationOr ip).map fromIp ∧
      (attributes.foldl WatchedNeighbor.applyAttribute w).interfaceIndex = w.interfaceIndex ∧
      (attributes.foldl WatchedNeighbor.applyAttribute w).state = w.state := by
    intro attributes
    induction attributes with
    | nil => exact fun w ip h => ⟨h, rfl, rfl⟩
    | cons a attributes ih =>
      intro w ip h
      cases a with
      | destination ip' => exact ih (w.applyAttribute (.destination ip')) ip' rfl
      | linkLayerAddress mac => exact ih (w.applyAttribute (.linkLayerAddress mac)) ip h
      | other => exact ih w ip h
  exact hfold n.msg.attributes _ none rfl

/-- The event of a notification, given the state remembered for its key. -/
def Notification.event (n : Notification) (ip : IpAddr) (previous : Option NeighborState) :
    Option NeighborNotice :=
  let previous := previous.getD .unspecified
  if n.added && previous.isUsable == n.state.isUsable && previous != .unspecified then none
  else some (neighborNotice (neighborToProto n.msg n.ifNames) ip.display n.added previous)

/-- A notification without an address does nothing. -/
theorem neighborEvent_of_none {n : Notification} (hkey : n.key = none) (cache : NeighborStates) :
    neighborEvent n.msg n.added n.ifNames cache = (none, cache) := by
  have haddress := (neighborToProto_spec n).1
  rw [Notification.key, Option.map_eq_none_iff] at hkey
  rw [hkey] at haddress
  unfold neighborEvent
  dsimp only
  rw [haddress]
  rfl

/-- One notification: the event from the remembered state, which the new one replaces until the
    removal. -/
theorem neighborEvent_of_key {n : Notification} {index : Nat} {ip : IpAddr}
    (hkey : n.key = some (index, ip)) (cache : NeighborStates) :
    neighborEvent n.msg n.added n.ifNames cache =
      (n.event ip (cache (index, ip.display)),
        Function.update cache (index, ip.display) (if n.added then some n.state else none)) := by
  obtain ⟨haddress, hindex, hstate⟩ := neighborToProto_spec n
  obtain ⟨ip', hip, heq⟩ := Option.map_eq_some_iff.mp hkey
  obtain ⟨rfl, rfl⟩ := Prod.mk.inj heq
  have hdisplay : (fromIp ip').display = ip'.display := by
    rw [IpAddress.display, toIp_fromIp]
  unfold neighborEvent
  dsimp only
  rw [haddress, hindex, hstate, hip]
  simp only [Option.map_some, hdisplay, Notification.event]
  cases n.added with
  | false => simp
  | true =>
    simp only [Bool.true_and, Bool.not_true, Bool.false_eq_true, if_false, if_true]
    split <;> rfl

/-! ### Sequences of notifications -/

/-- The cache after these notifications. -/
def cacheAfter (seq : List Notification) : NeighborStates :=
  seq.foldl (fun cache n => (neighborEvent n.msg n.added n.ifNames cache).2) (fun _ => none)

/-- The event of a notification behind these. -/
def eventAfter (past : List Notification) (n : Notification) : Option NeighborNotice :=
  (neighborEvent n.msg n.added n.ifNames (cacheAfter past)).1

/-- One more state for a key, or none any more. -/
def recordState (key : Nat × IpAddr) (states : List NeighborState) (n : Notification) :
    List NeighborState :=
  if n.key = some key then if n.added then n.state :: states else [] else states

/-- The states reported for a key since its last removal, the latest first. -/
def sinceRemoval (key : Nat × IpAddr) (seq : List Notification) : List NeighborState :=
  seq.foldl (recordState key) []

/-- One more event for a key, kept as whether the neighbour is usable. -/
def recordEvent (key : Nat × IpAddr) (past : List Notification) (events : List Bool)
    (n : Notification) : List Bool :=
  if n.key = some key then
    if n.added then
      if (eventAfter past n).isSome then n.state.isUsable :: events else events
    else []
  else events

/-- Whether the neighbour was usable in the events sent for a key when it was added or
    changed, since its last removal, the latest first. -/
def announced (key : Nat × IpAddr) (seq : List Notification) : List Bool :=
  (seq.foldl (fun acc n => (acc.1 ++ [n], recordEvent key acc.1 acc.2 n))
    (([], []) : List Notification × List Bool)).2

section Snoc

variable (key : Nat × IpAddr) (past : List Notification) (n : Notification)

/-- The cache after one notification more. -/
theorem cacheAfter_snoc :
    cacheAfter (past ++ [n]) = (neighborEvent n.msg n.added n.ifNames (cacheAfter past)).2 := by
  rw [cacheAfter, List.foldl_append]
  rfl

/-- The states since the last removal, with one notification more. -/
theorem sinceRemoval_snoc :
    sinceRemoval key (past ++ [n]) = recordState key (sinceRemoval key past) n := by
  rw [sinceRemoval, List.foldl_append]
  rfl

/-- The loop over the past goes through it. -/
theorem announced_fst (seq : List Notification) :
    (seq.foldl (fun acc n => (acc.1 ++ [n], recordEvent key acc.1 acc.2 n))
      (([], []) : List Notification × List Bool)).1 = seq := by
  induction seq using List.reverseRecOn with
  | nil => rfl
  | append_singleton seq n ih => simp [List.foldl_append, ih]

/-- What was announced, with one notification more. -/
theorem announced_snoc :
    announced key (past ++ [n]) = recordEvent key past (announced key past) n := by
  rw [announced, List.foldl_append, List.foldl_cons, List.foldl_nil, announced_fst]
  rfl

end Snoc

/-- The cache remembers the latest state of every key since its removal. -/
theorem cacheAfter_eq (seq : List Notification) (index : Nat) (ip : IpAddr) :
    cacheAfter seq (index, ip.display) = (sinceRemoval (index, ip) seq).head? := by
  induction seq using List.reverseRecOn with
  | nil => rfl
  | append_singleton seq n ih =>
    rw [cacheAfter_snoc, sinceRemoval_snoc, recordState]
    cases hkey : n.key with
    | none => simpa [neighborEvent_of_none hkey] using ih
    | some key =>
      obtain ⟨index', ip'⟩ := key
      rw [neighborEvent_of_key hkey]
      by_cases heq : (index', ip') = (index, ip)
      · obtain ⟨rfl, rfl⟩ := Prod.mk.inj heq
        cases n.added <;> simp
      · -- Another key has another text, because `display` is injective.
        have hne : (index, ip.display) ≠ (index', ip'.display) := by
          intro h
          obtain ⟨rfl, htext⟩ := Prod.mk.inj h
          exact heq (by rw [IpAddr.display_injective htext])
        dsimp only
        rw [Function.update_of_ne hne, if_neg (by simpa using heq), ih]

/-! ### Transitions only -/

/-- The event of a notification, against the history of its key: the first one and every change
    of usability become an event, and the event carries the state before it. -/
structure TransitionalAt (past : List Notification) (n : Notification) : Prop where
  emits : ∀ key, n.key = some key → n.added = true →
    ((eventAfter past n).isSome = true ↔ sinceRemoval key past = [] ∨
      ∃ s, (sinceRemoval key past).head? = some s ∧ s.isUsable ≠ n.state.isUsable)
  previous : ∀ key e, n.key = some key → eventAfter past n = some e →
    e.previousState = (sinceRemoval key past).head?.getD .unspecified

/-- So it is along a sequence, and the events of a key alternate. -/
structure Transitional (seq : List Notification) : Prop where
  each : ∀ past n rest, seq = past ++ n :: rest → TransitionalAt past n
  alternate : ∀ key past rest, seq = past ++ rest → (announced key past).IsChain (· ≠ ·)

/-- An unusable state does not follow an unknown one. -/
def Known (past : List Notification) (n : Notification) : Prop :=
  ∀ key, n.key = some key → n.added = true →
    (sinceRemoval key past).head? = some .unspecified → n.state.isUsable = true

/-- The event depends on the last state since the neighbour was removed. -/
theorem eventAfter_eq {past : List Notification} {n : Notification} {index : Nat} {ip : IpAddr}
    (hkey : n.key = some (index, ip)) :
    eventAfter past n = n.event ip (sinceRemoval (index, ip) past).head? := by
  rw [eventAfter, neighborEvent_of_key hkey, ← cacheAfter_eq]

/-- A state is announced if none was known, or an unspecified one, or one of the other usability. -/
theorem event_isSome {n : Notification} (hadded : n.added = true) (ip : IpAddr)
    (previous : Option NeighborState) :
    (n.event ip previous).isSome = true ↔
      ∀ s ∈ previous, s = .unspecified ∨ s.isUsable ≠ n.state.isUsable := by
  cases previous with
  | none => simp [Notification.event]
  | some s =>
    simp only [Notification.event, hadded, Bool.true_and, Option.getD_some, Option.mem_def,
      Option.some.injEq, forall_eq']
    by_cases hs : s = .unspecified
    · simp [hs]
    · by_cases hu : s.isUsable = n.state.isUsable <;> simp [hs, hu]

/-- An event carries the state before it. -/
theorem event_previousState {n : Notification} {ip : IpAddr} {previous : Option NeighborState}
    {e : NeighborNotice} (h : n.event ip previous = some e) :
    e.previousState = previous.getD .unspecified := by
  unfold Notification.event at h
  dsimp only at h
  split at h
  · cases h
  · obtain rfl := Option.some.inj h
    rfl

/-- A notification is treated as a transition exactly when it does not follow an unknown state
    unusable. -/
theorem transitionalAt_iff (past : List Notification) (n : Notification) :
    TransitionalAt past n ↔ Known past n := by
  constructor
  -- From an unknown state an event is always published.
  · rintro ⟨hemits, -⟩ ⟨index, ip⟩ hkey hadded hunknown
    have hsome : (eventAfter past n).isSome = true := by
      rw [eventAfter_eq hkey, event_isSome hadded, hunknown]
      simp
    rcases (hemits _ hkey hadded).mp hsome with hnil | ⟨s, hs, hne⟩
    · rw [hnil] at hunknown
      cases hunknown
    · obtain rfl := Option.some.inj (hunknown.symm.trans hs)
      simpa [NeighborState.isUsable] using hne.symm
  · intro hknown
    refine ⟨?_, ?_⟩
    · rintro ⟨index, ip⟩ hkey hadded
      rw [eventAfter_eq hkey, event_isSome hadded]
      have hknown := hknown _ hkey hadded
      cases hlist : sinceRemoval (index, ip) past with
      | nil => simp
      | cons s rest =>
        rw [hlist] at hknown
        simp only [List.head?_cons, Option.mem_def, Option.some.injEq, forall_eq', reduceCtorEq,
          false_or, exists_eq_left'] at hknown ⊢
        refine ⟨fun h => h.elim (fun hs => ?_) id, .inr⟩
        subst hs
        rw [hknown rfl]
        decide
    · rintro ⟨index, ip⟩ e hkey he
      rw [eventAfter_eq hkey] at he
      exact event_previousState he

/-- The last event for a key tells whether it is usable now. -/
def Informed (key : Nat × IpAddr) (past : List Notification) : Prop :=
  (announced key past).head? = (sinceRemoval key past).head?.map NeighborState.isUsable ∧
    (announced key past).IsChain (· ≠ ·)

/-- Who was informed stays informed by a transition that is announced as it should be. -/
theorem Informed.snoc {key : Nat × IpAddr} {past : List Notification} {n : Notification}
    (h : Informed key past) (hn : TransitionalAt past n) : Informed key (past ++ [n]) := by
  unfold Informed
  rw [announced_snoc, sinceRemoval_snoc, recordEvent, recordState]
  by_cases hkey : n.key = some key
  · rw [if_pos hkey, if_pos hkey]
    cases hadded : n.added with
    | false => simp
    | true =>
      have hemits := hn.emits key hkey hadded
      obtain ⟨hhead, hchain⟩ := h
      simp only [if_true, List.head?_cons, Option.map_some]
      -- An event announces the new state; silence means it was announced already.
      by_cases hsome : (eventAfter past n).isSome = true
      · rw [if_pos hsome]
        refine ⟨rfl, List.isChain_cons.mpr ⟨fun y hy => ?_, hchain⟩⟩
        rw [hhead] at hy
        obtain ⟨s, hs, rfl⟩ := Option.mem_map.mp hy
        rcases hemits.mp hsome with hnil | ⟨s', hs', hne⟩
        · rw [hnil] at hs
          cases hs
        · obtain rfl := Option.some.inj (hs'.symm.trans hs)
          exact hne.symm
      · rw [if_neg hsome]
        refine ⟨?_, hchain⟩
        have hquiet := fun h => hsome (hemits.mpr h)
        cases hlist : sinceRemoval key past with
        | nil => exact absurd (.inl hlist) hquiet
        | cons s rest =>
          rw [hlist] at hhead
          by_contra hne
          refine hquiet (.inr ⟨s, by rw [hlist]; rfl, fun heq => hne ?_⟩)
          rw [hhead, ← heq]
          rfl
  · rw [if_neg hkey, if_neg hkey]
    exact h

/-- Who is told of each transition is informed. -/
theorem informed_of_each (key : Nat × IpAddr) (past : List Notification)
    (h : ∀ before n rest, past = before ++ n :: rest → TransitionalAt before n) :
    Informed key past := by
  induction past using List.reverseRecOn with
  | nil => exact ⟨rfl, .nil⟩
  | append_singleton past n ih =>
    refine (ih fun before m rest heq => ?_).snoc (h past n [] rfl)
    exact h before m (rest ++ [n]) (by rw [heq]; simp)

/-- The events of a sequence are its transitions exactly when no notification reports an
    unusable state right after an unknown one, for the same key and with no removal between. -/
theorem transitional_iff (seq : List Notification) :
    Transitional seq ↔ ∀ past n rest, seq = past ++ n :: rest → Known past n := by
  constructor
  · intro h past n rest hseq
    exact (transitionalAt_iff past n).mp (h.each past n rest hseq)
  · intro h
    have heach : ∀ past n rest, seq = past ++ n :: rest → TransitionalAt past n :=
      fun past n rest hseq => (transitionalAt_iff past n).mpr (h past n rest hseq)
    refine ⟨heach, fun key past rest hseq => ?_⟩
    refine (informed_of_each key past fun before n later hpast => ?_).2
    exact heach before n (later ++ rest) (by rw [hseq, hpast]; simp)

/-- A neighbour on interface 3 in this state. -/
def neighborIn (state : NeighbourState) : Notification where
  msg := { ifindex := 3, state, router := false,
           attributes := [.destination (some (.v4 0xc0a80101))] }
  added := true
  ifNames _ := none

/-- An unknown state, then a failed one: both become events, and neither is usable. -/
theorem unknown_then_failed :
    ¬Transitional [neighborIn (.other 3), neighborIn .failed] := by
  intro h
  have hlast := (h.each [neighborIn (.other 3)] (neighborIn .failed) [] rfl).emits
    (3, .v4 0xc0a80101) rfl rfl
  have hsome : (eventAfter [neighborIn (.other 3)] (neighborIn .failed)).isSome = true := by
    decide +kernel
  rcases hlast.mp hsome with hnil | ⟨s, hs, hne⟩
  · cases hnil
  · obtain rfl := Option.some.inj hs
    exact hne rfl

end Netdiag.Watch
