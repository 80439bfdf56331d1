import Netdiag.Collect.Neighbors
import Netdiag.Watch.Families
import Netdiag.Watch.Monitor

namespace Netdiag.Watch

/-!
# Watch — the events tell the state

What a subscriber that gets every event of the monitor knows: everything the monitor remembers
of interfaces and addresses, and of every neighbour whether it is usable.

* `Mirror` — what is put together from the events; `Mirror.apply` takes one more.
* `KernelEvent.Named` — an event names interfaces as the events before it announced them.
* `Mirror.keeps_step` — one notification.
* `events_tell_state` — after any run of the monitor.
-/

/-- What is known from the events. -/
structure Mirror where
  state : StateCache
  usable : Nat × String → Option Bool

namespace Mirror

/-- Nothing has been published. -/
def empty : Mirror := ⟨.default, fun _ => none⟩

/-- A link event: the interface as announced, or gone with everything on it. -/
def applyLink (s : StateCache) (e : LinkEvent) : StateCache :=
  if e.added then
    { s with
      ifNames := Function.update s.ifNames e.index (some e.name)
      ifMtu := if e.mtu ≠ 0 then Function.update s.ifMtu e.index (some e.mtu) else s.ifMtu }
  else
    { ifNames := Function.update s.ifNames e.index none
      ifMtu := Function.update s.ifMtu e.index none
      hasGlobalV4 := s.hasGlobalV4.erase e.index
      hasGlobalV6 := s.hasGlobalV6.erase e.index
      addresses := Function.update s.addresses e.index ∅ }

/-- The flags of an address event. -/
def applyFlags (s : StateCache) (e : AddressEvent) : StateCache :=
  let set := s.hasGlobal e.family
  if e.added && e.familyGained then s.setGlobal e.family (insert e.interfaceIndex set)
  else if e.familyLost then s.setGlobal e.family (set.erase e.interfaceIndex)
  else s

/-- An address event: the address comes or goes. -/
def applyAddress (s : StateCache) (e : AddressEvent) : StateCache :=
  let a : Address := (e.address.address, e.address.prefixLen)
  let entry := s.addresses e.interfaceIndex
  let entry := if e.added then insert a entry else entry.erase a
  applyFlags { s with addresses := Function.update s.addresses e.interfaceIndex entry } e

/-- The key of a neighbour event. -/
def neighborKey (e : NeighborNotice) : Option (Nat × String) :=
  e.neighbor.address.map (fun a => (e.neighbor.interfaceIndex, a.display))

/-- A link or address event. -/
def applyInterface (v : Mirror) (event : NetworkEvent) : Mirror :=
  match event.payload with
  | .link e => { v with state := applyLink v.state e }
  | .address e => { v with state := applyAddress v.state e }

/-- A neighbour event: usable or not, or gone. -/
def applyNeighbor (v : Mirror) (e : NeighborNotice) : Mirror :=
  match neighborKey e with
  | some key =>
    { v with
      usable := Function.update v.usable key
        (if e.added then some e.neighbor.state.isUsable else none) }
  | none => v

/-- One event. -/
def apply (v : Mirror) : KernelEvent → Mirror
  | .interface event => v.applyInterface event
  | .neighbor event => v.applyNeighbor event
  | .route _ | .rule _ => v

/-- The monitor's cache is what the mirror shows, apart from the states of neighbours. -/
def Shows (cache : MonitorCache) (v : Mirror) : Prop :=
  ∃ neighbors, cache = .ofState v.state neighbors ∧
    ∀ key, v.usable key = (neighbors key).map NeighborState.isUsable

end Mirror

/-- The interfaces an event names have the names that were announced last; the number stands for
    the name of an interface with an address, and nothing for any other. -/
def KernelEvent.Named (names : Nat → Option String) : KernelEvent → Prop
  | .interface event =>
    ∀ e, event.payload = .address e →
      e.interfaceName = (names e.interfaceIndex).getD s!"if{e.interfaceIndex}"
  | .rule _ => True
  | .route e => ∀ hop ∈ e.route.nextHops, hop.Named names
  | .neighbor e => e.neighbor.interfaceName = (names e.neighbor.interfaceIndex).getD ""

namespace Mirror

/-! ### Interfaces and addresses -/

/-- The event of a link message says what the message did to the cache. -/
theorem linkEvent_tells (msg : LinkMessage) (added : Bool) (s : StateCache) :
    ∃ e, (linkEvent msg added s).1.payload = .link e ∧
      (linkEvent msg added s).2 = applyLink s e := by
  cases added with
  | true => exact ⟨_, rfl, rfl⟩
  | false => exact ⟨_, rfl, rfl⟩

/-- Setting a set to itself changes nothing. -/
theorem setGlobal_hasGlobal (s : StateCache) (family : IpFamily) :
    s.setGlobal family (s.hasGlobal family) = s := by
  cases family <;> rfl

/-- The second half of `track_address`, once the address is in the cache or out of it. -/
def trackFlags (index : Nat) (family : IpFamily) (isGlobal added : Bool) (cache : StateCache) :
    FamilyChange × StateCache :=
  let set := cache.hasGlobal family
  let had := decide (index ∈ set)
  if isGlobal = false then ({ had, hasNow := had }, cache)
  else if added then ({ had, hasNow := true }, cache.setGlobal family (insert index set))
  else
    -- As the daemon decides it.
    let left := anyLeft (cache.addresses index) family
    ({ had, hasNow := left }, if left then cache else cache.setGlobal family (set.erase index))

/-- What is gained by an addition, and what is lost, tells the sets of interfaces. -/
theorem trackFlags_tells (index : Nat) (family : IpFamily) (isGlobal added : Bool)
    (cache : StateCache) :
    (trackFlags index family isGlobal added cache).2 =
      let change := (trackFlags index family isGlobal added cache).1
      if added && (!change.had && change.hasNow) then
        cache.setGlobal family (insert index (cache.hasGlobal family))
      else if change.had && !change.hasNow then
        cache.setGlobal family ((cache.hasGlobal family).erase index)
      else cache := by
  have hsame := setGlobal_hasGlobal cache family
  unfold trackFlags
  generalize anyLeft (cache.addresses index) family = left
  by_cases hmem : index ∈ cache.hasGlobal family
  · have hinsert : insert index (cache.hasGlobal family) = cache.hasGlobal family :=
      Finset.insert_eq_of_mem hmem
    cases isGlobal <;> cases added <;> cases left <;> simp [hmem, hinsert, hsame]
  · cases isGlobal <;> cases added <;> cases left <;> simp [hmem, hsame]

/-- The event of an address tells its part of the cache. -/
theorem addressEvent_tells (msg : AddressMessage) (added : Bool) (s : StateCache) :
    addressEvent msg added s = (none, s) ∨
      ∃ event e, addressEvent msg added s = (some event, applyAddress s e) ∧
        event.payload = .address e ∧
        e.interfaceName = (s.ifNames e.interfaceIndex).getD s!"if{e.interfaceIndex}" := by
  unfold addressEvent
  cases hip : addressAttributes msg.attributes with
  | none => exact .inl rfl
  | some ip =>
    refine .inr ⟨_, _, Prod.ext rfl ?_, rfl, rfl⟩
    exact trackFlags_tells msg.index ip.family (decide (msg.scope = .universe)) added _

/-! ### Neighbours -/

/-- A suppressed event leaves the neighbour as usable as it was. -/
theorem event_none {n : Notification} {ip : IpAddr} {previous : Option NeighborState}
    (h : n.event ip previous = none) :
    n.added = true ∧ previous.map NeighborState.isUsable = some n.state.isUsable := by
  unfold Notification.event at h
  dsimp only at h
  split at h
  · rename_i hquiet
    rw [Bool.and_eq_true, Bool.and_eq_true, beq_iff_eq, bne_iff_ne] at hquiet
    obtain ⟨⟨hadded, husable⟩, hknown⟩ := hquiet
    refine ⟨hadded, ?_⟩
    cases previous with
    | none => exact absurd rfl hknown
    | some state => exact congrArg some husable
  · cases h

/-- The event of a neighbour says which neighbour, and in which state. -/
theorem event_some {n : Notification} {ip : IpAddr} {previous : Option NeighborState}
    {e : NeighborNotice} (h : n.event ip previous = some e) :
    ∃ state, e = neighborNotice (neighborToProto n.msg n.ifNames) ip.display n.added state := by
  unfold Notification.event at h
  dsimp only at h
  split at h
  · cases h
  · exact ⟨_, (Option.some.inj h).symm⟩

/-- The event of a neighbour, applied to a mirror. -/
theorem apply_neighbor {v : Mirror} {n : Notification} {index : Nat} {ip : IpAddr}
    (hkey : n.key = some (index, ip)) (previous : NeighborState) :
    v.applyNeighbor (neighborNotice (neighborToProto n.msg n.ifNames) ip.display n.added
        previous) =
      { v with
        usable := Function.update v.usable (index, ip.display)
          (if n.added then some n.state.isUsable else none) } := by
  obtain ⟨haddress, hindex, hstate⟩ := neighborToProto_spec n
  obtain ⟨ip', hip, heq⟩ := Option.map_eq_some_iff.mp hkey
  obtain ⟨rfl, rfl⟩ := Prod.mk.inj heq
  have hdisplay : (fromIp ip').display = ip'.display := by
    rw [IpAddress.display, toIp_fromIp]
  -- The notice names the neighbour it is about.
  have hnotice : neighborKey (neighborNotice (neighborToProto n.msg n.ifNames) ip'.display n.added
      previous) = some (n.msg.ifindex, ip'.display) := by
    show (neighborToProto n.msg n.ifNames).address.map _ = _
    rw [haddress, hip]
    show some ((neighborToProto n.msg n.ifNames).interfaceIndex, (fromIp ip').display) = _
    rw [hindex, hdisplay]
  unfold applyNeighbor
  rw [hnotice]
  show { v with usable := Function.update v.usable _ (if n.added then some
    (neighborToProto n.msg n.ifNames).state.isUsable else none) } = _
  rw [hstate]

/-- The event of a neighbour says what its message did to the use of it; no event, no change. -/
theorem neighborEvent_tells (n : Notification) {neighbors : NeighborStates} {v : Mirror}
    (h : ∀ key, v.usable key = (neighbors key).map NeighborState.isUsable) :
    (neighborStep n neighbors).1 = none ∧
        (∀ key, v.usable key = ((neighborStep n neighbors).2 key).map NeighborState.isUsable) ∨
      ∃ e, (neighborStep n neighbors).1 = some e ∧
        (KernelEvent.neighbor e).Named n.ifNames ∧ (v.applyNeighbor e).state = v.state ∧
        ∀ key, (v.applyNeighbor e).usable key =
          ((neighborStep n neighbors).2 key).map NeighborState.isUsable := by
  unfold neighborStep
  cases hkey : n.key with
  -- Silent events leave the usability as it was.
  | none =>
    rw [neighborEvent_of_none hkey]
    exact .inl ⟨rfl, h⟩
  | some key =>
    obtain ⟨index, ip⟩ := key
    rw [neighborEvent_of_key hkey]
    cases hevent : n.event ip (neighbors (index, ip.display)) with
    | none =>
      obtain ⟨hadded, husable⟩ := event_none hevent
      refine .inl ⟨rfl, fun key => ?_⟩
      rw [h key, hadded, if_pos rfl]
      by_cases hk : key = (index, ip.display)
      · subst hk
        show _ = (Function.update neighbors _ _ _).map _
        rw [Function.update_self, husable]
        rfl
      · show _ = (Function.update neighbors _ _ _).map _
        rw [Function.update_of_ne hk]
    -- An event that is published says the new usability.
    | some e =>
      obtain ⟨previous, rfl⟩ := event_some hevent
      refine .inr ⟨_, rfl, Collect.neighborToProto_named n.msg n.ifNames, ?_⟩
      rw [apply_neighbor hkey]
      refine ⟨rfl, fun key => ?_⟩
      show Function.update v.usable _ _ key = (Function.update neighbors _ _ key).map _
      by_cases hk : key = (index, ip.display)
      · rw [hk, Function.update_self, Function.update_self]
        cases n.added <;> rfl
      · rw [Function.update_of_ne hk, Function.update_of_ne hk, h key]

/-! ### Runs -/

/-- One notification: its event names interfaces as the mirror does, and tells the mirror what
    the notification did to the cache. -/
def Keeps (message : NetlinkMessage) (cache : MonitorCache) (v : Mirror) : Prop :=
  (∀ e ∈ (MonitorCache.translate message cache).1, e.Named v.state.ifNames) ∧
    Shows (MonitorCache.translate message cache).2
      ((MonitorCache.translate message cache).1.toList.foldl apply v)

section Step

variable {message : NetlinkMessage} {cache cache' : MonitorCache} {v : Mirror}
  {neighbors : NeighborStates}

/-- A message without an event keeps the mirror. -/
theorem keeps_of_none (hstep : MonitorCache.translate message cache = (none, cache'))
    (h : Shows cache' v) : Keeps message cache v := by
  unfold Keeps
  rw [hstep]
  exact ⟨fun _ he => absurd he (Option.not_mem_none _), h⟩

/-- A message with an event keeps the mirror, if the event says what it did. -/
theorem keeps_of_some {e : KernelEvent}
    (hstep : MonitorCache.translate message cache = (some e, cache'))
    (hnamed : e.Named v.state.ifNames) (h : Shows cache' (v.apply e)) :
    Keeps message cache v := by
  unfold Keeps
  rw [hstep]
  refine ⟨fun e' he' => ?_, h⟩
  obtain rfl := Option.some.inj he'
  exact hnamed

/-- A link message keeps the mirror. -/
theorem keeps_link (msg : LinkMessage) (added : Bool)
    (hstep : MonitorCache.translate message (.ofState v.state neighbors) =
      (some (.interface (linkEvent msg added v.state).1),
        .ofState (linkEvent msg added v.state).2 neighbors))
    (h : ∀ key, v.usable key = (neighbors key).map NeighborState.isUsable) :
    Keeps message (.ofState v.state neighbors) v := by
  obtain ⟨e, hpayload, hstate⟩ := linkEvent_tells msg added v.state
  have happly : v.apply (.interface (linkEvent msg added v.state).1) =
      { v with state := applyLink v.state e } := by
    rw [apply, applyInterface, hpayload]
  rw [hstate] at hstep
  apply keeps_of_some hstep
  · intro e' he'
    rw [hpayload] at he'
    cases he'
  · rw [happly]
    exact ⟨neighbors, rfl, h⟩

/-- An address message keeps the mirror. -/
theorem keeps_address (msg : AddressMessage) (added : Bool)
    (hstep : MonitorCache.translate message (.ofState v.state neighbors) =
      ((addressEvent msg added v.state).1.map .interface,
        .ofState (addressEvent msg added v.state).2 neighbors))
    (h : ∀ key, v.usable key = (neighbors key).map NeighborState.isUsable) :
    Keeps message (.ofState v.state neighbors) v := by
  rcases addressEvent_tells msg added v.state with hnone | ⟨event, e, hsome, hpayload, hname⟩
  · rw [hnone] at hstep
    exact keeps_of_none hstep ⟨neighbors, rfl, h⟩
  · have happly : v.apply (.interface event) = { v with state := applyAddress v.state e } := by
      rw [apply, applyInterface, hpayload]
    rw [hsome] at hstep
    apply keeps_of_some hstep
    · intro e' he'
      rw [hpayload] at he'
      cases he'
      exact hname
    · rw [happly]
      exact ⟨neighbors, rfl, h⟩

/-- A neighbour message keeps the mirror. -/
theorem keeps_neighbor (n : Notification) (hnames : n.ifNames = v.state.ifNames)
    (hstep : MonitorCache.translate message (.ofState v.state neighbors) =
      ((neighborStep n neighbors).1.map .neighbor,
        .ofState v.state (neighborStep n neighbors).2))
    (h : ∀ key, v.usable key = (neighbors key).map NeighborState.isUsable) :
    Keeps message (.ofState v.state neighbors) v := by
  rcases neighborEvent_tells n h with ⟨hnone, husable⟩ | ⟨e, hsome, hnamed, hstate, husable⟩
  · rw [hnone] at hstep
    exact keeps_of_none hstep ⟨_, rfl, husable⟩
  · rw [hsome] at hstep
    rw [hnames] at hnamed
    exact keeps_of_some hstep hnamed ⟨_, by rw [apply, hstate], husable⟩

end Step

/-- **One notification.** -/
theorem keeps_step (message : NetlinkMessage) (cache : MonitorCache) (v : Mirror)
    (h : Shows cache v) : Keeps message cache v := by
  obtain ⟨neighbors, rfl, husable⟩ := h
  have hlink := fun msg added => congrArg (fun r => (some (KernelEvent.interface r.1), r.2))
    (MonitorCache.linkEvent_ofState v.state neighbors msg added)
  have haddress := fun msg added => congrArg (fun r => (r.1.map KernelEvent.interface, r.2))
    (MonitorCache.addressEvent_ofState v.state neighbors msg added)
  cases message with
  | newLink msg => exact keeps_link msg true (hlink msg true) husable
  | delLink msg => exact keeps_link msg false (hlink msg false) husable
  | newAddress msg => exact keeps_address msg true (haddress msg true) husable
  | delAddress msg => exact keeps_address msg false (haddress msg false) husable
  | newRoute msg | delRoute msg =>
    exact keeps_of_some rfl (Collect.routeToProto_named msg v.state.ifNames)
      ⟨neighbors, rfl, husable⟩
  | newRule version msg | delRule version msg =>
    exact keeps_of_some rfl trivial ⟨neighbors, rfl, husable⟩
  | newNeighbour msg => exact keeps_neighbor ⟨msg, true, v.state.ifNames⟩ rfl rfl husable
  | delNeighbour msg => exact keeps_neighbor ⟨msg, false, v.state.ifNames⟩ rfl rfl husable
  | other => exact keeps_of_none rfl ⟨neighbors, rfl, husable⟩

end Mirror

/-- **The events tell the state.**  After any run of the monitor its events, applied one after
    the other, give the names, MTUs and addresses of the cache, the interfaces with a global
    address of either family, and for every neighbour whether it is usable; and every event
    names interfaces as the events before it announced them. -/
theorem events_tell_state (messages : List NetlinkMessage) :
    Mealy.Along Mirror.apply (fun v e => e.Named v.state.ifNames) .empty (monitor messages).1 ∧
      Mirror.Shows (monitor messages).2 ((monitor messages).1.foldl Mirror.apply .empty) :=
  Mealy.run_follows Mirror.keeps_step ⟨fun _ => none, rfl, fun _ => rfl⟩ messages

end Netdiag.Watch
