import Netdiag.Collect.Routes
import Netdiag.Lib.Mealy
import Netdiag.Net.AddrRead
import Mathlib.Data.Finset.Image

namespace Netdiag.Watch

/-!
# Watch — the kernel event monitor

`run` and `translate` of `daemon/src/watch.rs` over everything the multicast groups deliver, with
the cache as the daemon keeps it: addresses as texts, whose family is parsed back out of them.

* `NetlinkMessage`, `KernelEvent` — what comes in and what is published.
* `MonitorCache` — the whole `StateCache`.
* `routeEvent`, `ruleEvent` — the events that need no memory but the interface names.
* `translate_ofState` — the texts stand for the addresses they print.
* `monitor_refines` — whatever comes in between, the events about interfaces and addresses are
  those of their own notifications alone, and so are the events about neighbours.
-/

open Netdiag.Collect (RouteMessage DumpedRoute routeToProto IpVersion RuleMessage FibRule
  ruleToProto)

/-! ### Messages and events -/

/-- `RouteNetlinkMessage`; the two rule groups deliver rules of the two families. -/
inductive NetlinkMessage
  | newLink (msg : LinkMessage)
  | delLink (msg : LinkMessage)
  | newAddress (msg : AddressMessage)
  | delAddress (msg : AddressMessage)
  | newRoute (msg : RouteMessage)
  | delRoute (msg : RouteMessage)
  | newRule (version : IpVersion) (msg : RuleMessage version.width)
  | delRule (version : IpVersion) (msg : RuleMessage version.width)
  | newNeighbour (msg : NeighbourMessage)
  | delNeighbour (msg : NeighbourMessage)
  | other

/-- The `NetworkEvent` with a `RouteEvent` that `route_event` builds. -/
structure RouteNotice where
  severity : Severity
  summary : String
  added : Bool
  route : DumpedRoute
  defaultRouteChanged : Bool
  deriving DecidableEq, Repr

/-- The `NetworkEvent` with a `RuleEvent` that `rule_event` builds. -/
structure RuleNotice where
  severity : Severity
  summary : String
  added : Bool
  version : IpVersion
  rule : FibRule version.width

/-- What the monitor publishes. -/
inductive KernelEvent
  | interface (event : NetworkEvent)
  | route (event : RouteNotice)
  | rule (event : RuleNotice)
  | neighbor (event : NeighborNotice)

/-- The link and address events. -/
def KernelEvent.interface? : KernelEvent → Option NetworkEvent
  | .interface event => some event
  | .route _ | .rule _ | .neighbor _ => none

/-- The neighbour events. -/
def KernelEvent.neighbor? : KernelEvent → Option NeighborNotice
  | .neighbor event => some event
  | .interface _ | .route _ | .rule _ => none

/-! ### Routes and rules -/

/-- The verb of a summary. -/
def verb (added : Bool) : String := if added then "added" else "removed"

/-- `route_event`. -/
def routeEvent (msg : RouteMessage) (added : Bool) (ifNames : Nat → Option String) :
    RouteNotice :=
  let route := routeToProto msg ifNames
  let hop := route.nextHops.head?
  let destination :=
    match route.destination with
    -- The default route has a destination too, of length zero.
    | some d => if route.isDefault then "default" else d.display
    | none => "?"
  let via :=
    match hop.bind (·.gateway) with
    | some g => s!" via {g.display}"
    | none => ""
  let name := (hop.map (·.outInterfaceName)).getD ""
  let dev := if name = "" then "" else s!" dev {name}"
  { severity := if route.isDefault then .notice else .debug
    summary := s!"route {verb added}: {destination}{via}{dev} table {route.table}"
    added, route, defaultRouteChanged := route.isDefault }

/-- `{:x}`. -/
def hex {n : Nat} (bits : BitVec n) : String := String.ofList (Nat.toDigits 16 bits.toNat)

/-- `rule_event`. -/
def ruleEvent (version : IpVersion) (msg : RuleMessage version.width) (added : Bool) :
    RuleNotice :=
  let rule := ruleToProto msg
  let selector :=
    if rule.hasUidRange then s!" uidrange {rule.uidRangeStart}-{rule.uidRangeEnd}"
    else if rule.hasFwmark then s!" fwmark 0x{hex rule.fwmark}/0x{hex rule.fwmask}"
    else ""
  { severity := .notice
    summary := s!"rule {verb added}: priority {rule.priority}{selector} lookup {rule.table}"
    added, version, rule }

/-! ### The cache -/

/-- `StateCache`. -/
@[ext] structure MonitorCache where
  ifNames : Nat → Option String
  ifMtu : Nat → Option Nat
  hasGlobalV4 : Finset Nat
  hasGlobalV6 : Finset Nat
  addresses : Nat → Finset String
  neighborStates : NeighborStates

namespace MonitorCache

/-- `StateCache::default`. -/
def default : MonitorCache where
  ifNames := fun _ => none
  ifMtu := fun _ => none
  hasGlobalV4 := ∅
  hasGlobalV6 := ∅
  addresses := fun _ => ∅
  neighborStates := fun _ => none

/-- What `link_event` reads and writes besides the addresses. -/
def links (c : MonitorCache) : StateCache where
  ifNames := c.ifNames
  ifMtu := c.ifMtu
  hasGlobalV4 := c.hasGlobalV4
  hasGlobalV6 := c.hasGlobalV6
  addresses := fun _ => ∅

/-- The same, written back. -/
def withLinks (c : MonitorCache) (links : StateCache) : MonitorCache :=
  { c with
    ifNames := links.ifNames
    ifMtu := links.ifMtu
    hasGlobalV4 := links.hasGlobalV4
    hasGlobalV6 := links.hasGlobalV6 }

/-- `link_event`. -/
def linkEvent (msg : LinkMessage) (added : Bool) (cache : MonitorCache) :
    NetworkEvent × MonitorCache :=
  let (event, links) := Watch.linkEvent msg added cache.links
  let cache := cache.withLinks links
  let addresses :=
    if added then cache.addresses else Function.update cache.addresses msg.index ∅
  (event, { cache with addresses })

/-- The text the cache keeps of an address. -/
def text (a : Address) : String := s!"{a.1.display}/{a.2}"

/-- Is what stands before the slash an address of this family? -/
def isOfFamily (family : IpFamily) (text : String) : Bool :=
  (((text.toList.splitOn '/').head?.bind IpAddr.parse).map
    (fun parsed => parsed.isIpv6 == (family == .v6))).getD false

/-- Does the cache hold a text of this family on the interface? -/
def anyLeft (addresses : Finset String) (family : IpFamily) : Bool :=
  decide (∃ a ∈ addresses, isOfFamily family a = true)

/-- The set `address_event` selects by family. -/
def hasGlobal (c : MonitorCache) (family : IpFamily) : Finset Nat :=
  match family with
  | .v6 => c.hasGlobalV6
  | _ => c.hasGlobalV4

/-- The same, written back. -/
def setGlobal (c : MonitorCache) (family : IpFamily) (set : Finset Nat) : MonitorCache :=
  match family with
  | .v6 => { c with hasGlobalV6 := set }
  | _ => { c with hasGlobalV4 := set }

/-- The cache update of `address_event`. -/
def trackAddress (index : Nat) (ip : IpAddr) (prefixLen : Nat) (isGlobal added : Bool)
    (cache : MonitorCache) : FamilyChange × MonitorCache :=
  let family := ip.family
  let entry := cache.addresses index
  let entry :=
    if added then insert (text (ip, prefixLen)) entry else entry.erase (text (ip, prefixLen))
  let cache := { cache with addresses := Function.update cache.addresses index entry }
  let set := cache.hasGlobal family
  let had := decide (index ∈ set)
  -- Other scopes change what is held but not the flag.
  if isGlobal = false then ({ had, hasNow := had }, cache)
  else if added then ({ had, hasNow := true }, cache.setGlobal family (insert index set))
  else
    -- Whatever is left of the family counts, link-local addresses too.
    let anyLeft := anyLeft (cache.addresses index) family
    ({ had, hasNow := anyLeft },
      if anyLeft then cache else cache.setGlobal family (set.erase index))

/-- The event of an address that came or went, with what that did to its family. -/
def addressNotice (msg : AddressMessage) (added : Bool) (name : String) (ip : IpAddr)
    (change : FamilyChange) : NetworkEvent :=
  let text := text (ip, msg.prefixLen)
  let gained := !change.had && change.hasNow
  let lost := change.had && !change.hasNow
  let familyName := if ip.family = .v6 then "IPv6" else "IPv4"
  { severity := if lost then .warning else if gained then .notice else .debug
    summary :=
      if gained then s!"{name} gained {familyName} ({text})"
      else if lost then s!"{name} lost {familyName} (last global address {text} removed)"
      else if added then s!"{name} address added {text}"
      else s!"{name} address removed {text}"
    payload := .address
      { added, interfaceIndex := msg.index, interfaceName := name, address := ⟨ip, msg.prefixLen⟩
        scope := if decide (msg.scope = .universe) then .global else .unspecified
        familyGained := gained, familyLost := lost, family := ip.family } }

/-- `address_event`. -/
def addressEvent (msg : AddressMessage) (added : Bool) (cache : MonitorCache) :
    Option NetworkEvent × MonitorCache :=
  let name := (cache.ifNames msg.index).getD s!"if{msg.index}"
  match addressAttributes msg.attributes with
  -- A message without an address says nothing.
  | none => (none, cache)
  | some ip =>
    let isGlobal := decide (msg.scope = .universe)
    let (change, cache) := trackAddress msg.index ip msg.prefixLen isGlobal added cache
    (some (addressNotice msg added name ip change), cache)

/-- `neighbor_event`. -/
def neighborEvent (msg : NeighbourMessage) (added : Bool) (cache : MonitorCache) :
    Option NeighborNotice × MonitorCache :=
  let (event, neighborStates) := Watch.neighborEvent msg added cache.ifNames cache.neighborStates
  (event, { cache with neighborStates })

/-- `translate`. -/
def translate (message : NetlinkMessage) (cache : MonitorCache) :
    Option KernelEvent × MonitorCache :=
  match message with
  | .newLink msg =>
    let (event, cache) := cache.linkEvent msg true
    (some (.interface event), cache)
  | .delLink msg =>
    let (event, cache) := cache.linkEvent msg false
    (some (.interface event), cache)
  | .newAddress msg =>
    let (event, cache) := cache.addressEvent msg true
    (event.map .interface, cache)
  | .delAddress msg =>
    let (event, cache) := cache.addressEvent msg false
    (event.map .interface, cache)
  | .newRoute msg => (some (.route (routeEvent msg true cache.ifNames)), cache)
  | .delRoute msg => (some (.route (routeEvent msg false cache.ifNames)), cache)
  | .newRule version msg => (some (.rule (ruleEvent version msg true)), cache)
  | .delRule version msg => (some (.rule (ruleEvent version msg false)), cache)
  | .newNeighbour msg =>
    let (event, cache) := cache.neighborEvent msg true
    (event.map .neighbor, cache)
  | .delNeighbour msg =>
    let (event, cache) := cache.neighborEvent msg false
    (event.map .neighbor, cache)
  | .other => (none, cache)

end MonitorCache

/-- The loop of `run`: the published events, and the cache after them. -/
def monitor (messages : List NetlinkMessage) : List KernelEvent × MonitorCache :=
  Mealy.run MonitorCache.translate .default messages

/-! ### Texts -/

namespace MonitorCache

/-- The address, a slash and the length of its prefix. -/
theorem toList_text (a : Address) :
    (text a).toList = a.1.display.toList ++ '/' :: Nat.toDigits 10 a.2 := by
  simp [text]
  rfl

/-- No address has a slash in its text. -/
theorem slash_not_mem (ip : IpAddr) : '/' ∉ ip.display.toList :=
  IpAddr.not_mem_display (by decide) ip

/-- Different addresses have different texts. -/
theorem text_injective : Function.Injective text := by
  intro a b h
  have hlist := congrArg String.toList h
  rw [toList_text, toList_text] at hlist
  obtain ⟨hip, hlen⟩ := Text.append_cons_inj (slash_not_mem a.1) (slash_not_mem b.1) hlist
  apply Prod.ext
  · exact IpAddr.display_injective (String.toList_inj.mp hip)
  · exact IpAddr.toDigits_injective (by decide) (by decide) hlen

/-- The family is read back from a text. -/
theorem isOfFamily_text (family : IpFamily) (a : Address) :
    isOfFamily family (text a) = (a.1.isIpv6 == (family == .v6)) := by
  have hsplit : ((text a).toList.splitOn '/').head? = some a.1.display.toList := by
    rw [toList_text, List.splitOn_append_cons_self_of_not_mem (slash_not_mem a.1)]
    rfl
  rw [isOfFamily, hsplit, Option.bind_some, IpAddr.parse_display]
  rfl

/-- The texts of these addresses. -/
def texts (s : Finset Address) : Finset String := s.image text

/-- An address more is a text more. -/
theorem texts_insert (a : Address) (s : Finset Address) :
    texts (insert a s) = insert (text a) (texts s) := Finset.image_insert text a s

/-- An address less is a text less. -/
theorem texts_erase (a : Address) (s : Finset Address) :
    texts (s.erase a) = (texts s).erase (text a) := Finset.image_erase text_injective s a

/-- Some address of the family is left exactly where a text of the family is. -/
theorem anyLeft_texts (s : Finset Address) (family : IpFamily) :
    anyLeft (texts s) family = Watch.anyLeft s family := by
  unfold anyLeft Watch.anyLeft texts
  congr 1
  simp [isOfFamily_text]

/-! ### The cache of pairs behind the cache of texts -/

/-- A cache of addresses, written out as texts, beside the neighbour states. -/
def ofState (s : StateCache) (neighbors : NeighborStates) : MonitorCache where
  ifNames := s.ifNames
  ifMtu := s.ifMtu
  hasGlobalV4 := s.hasGlobalV4
  hasGlobalV6 := s.hasGlobalV6
  addresses := fun index => texts (s.addresses index)
  neighborStates := neighbors

variable (s : StateCache) (neighbors : NeighborStates)

/-- One more interface with other addresses. -/
theorem texts_update (index : Nat) (set : Finset Address) :
    Function.update (ofState s neighbors).addresses index (texts set) =
      fun i => texts (Function.update s.addresses index set i) :=
  (Function.comp_update texts s.addresses index set).symm

/-- The real cache does with a link message what its model does. -/
theorem linkEvent_ofState (msg : LinkMessage) (added : Bool) :
    linkEvent msg added (ofState s neighbors) =
      ((Watch.linkEvent msg added s).1, ofState (Watch.linkEvent msg added s).2 neighbors) := by
  apply Prod.ext
  · cases added <;> rfl
  · cases added with
    | true => rfl
    | false => exact MonitorCache.ext rfl rfl rfl rfl (texts_update s neighbors msg.index ∅) rfl

/-- It tracks an address as its model does. -/
theorem trackAddress_ofState (index : Nat) (ip : IpAddr) (prefixLen : Nat)
    (isGlobal added : Bool) :
    trackAddress index ip prefixLen isGlobal added (ofState s neighbors) =
      ((Watch.trackAddress index ip prefixLen isGlobal added s).1,
        ofState (Watch.trackAddress index ip prefixLen isGlobal added s).2 neighbors) := by
  let entry : Finset Address :=
    if added then insert (ip, prefixLen) (s.addresses index)
    else (s.addresses index).erase (ip, prefixLen)
  have hentry : (if added then insert (text (ip, prefixLen)) (texts (s.addresses index))
      else (texts (s.addresses index)).erase (text (ip, prefixLen))) = texts entry := by
    show _ = texts (if added then _ else _)
    cases added with
    | true => exact (texts_insert _ _).symm
    | false => exact (texts_erase _ _).symm
  -- both caches with the new entry, before the flags
  have hcache : { ofState s neighbors with
        addresses := Function.update (ofState s neighbors).addresses index (texts entry) } =
      ofState { s with addresses := Function.update s.addresses index entry } neighbors :=
    MonitorCache.ext rfl rfl rfl rfl (texts_update s neighbors index entry) rfl
  have hleft : anyLeft (Function.update (ofState s neighbors).addresses index (texts entry) index)
      ip.family = Watch.anyLeft (Function.update s.addresses index entry index) ip.family := by
    rw [Function.update_self, Function.update_self, anyLeft_texts]
  unfold trackAddress Watch.trackAddress
  dsimp only
  rw [show (ofState s neighbors).addresses index = texts (s.addresses index) from rfl, hentry]
  simp only [hcache, hleft]
  cases isGlobal with
  | false => cases ip <;> rfl
  | true =>
    cases added with
    | true => cases ip <;> rfl
    | false =>
      -- the flag stays while a text of the family is left
      show (_, ite (Watch.anyLeft (Function.update s.addresses index entry index) ip.family = true)
        _ _) = (_, ofState (ite (Watch.anyLeft (Function.update s.addresses index entry index)
          ip.family = true) _ _) neighbors)
      cases Watch.anyLeft (Function.update s.addresses index entry index) ip.family with
      | true => rfl
      | false => cases ip <;> rfl

/-- It does with an address message what its model does. -/
theorem addressEvent_ofState (msg : AddressMessage) (added : Bool) :
    addressEvent msg added (ofState s neighbors) =
      ((Watch.addressEvent msg added s).1,
        ofState (Watch.addressEvent msg added s).2 neighbors) := by
  unfold addressEvent Watch.addressEvent
  cases hip : addressAttributes msg.attributes with
  | none => rfl
  | some ip =>
    dsimp only
    rw [trackAddress_ofState]
    rfl

/-- The sets of interfaces are apart from the neighbours. -/
theorem setGlobal_neighborStates (cache : MonitorCache) (family : IpFamily) (set : Finset Nat) :
    (cache.setGlobal family set).neighborStates = cache.neighborStates := by
  cases family <;> rfl

/-- An address message does not touch the neighbours. -/
theorem addressEvent_neighborStates (msg : AddressMessage) (added : Bool) (cache : MonitorCache) :
    (cache.addressEvent msg added).2.neighborStates = cache.neighborStates := by
  unfold addressEvent
  cases addressAttributes msg.attributes with
  | none => rfl
  | some ip =>
    show (trackAddress msg.index ip msg.prefixLen _ added cache).2.neighborStates = _
    unfold trackAddress
    dsimp only
    -- the flags are written to one of two sets, or to none
    split_ifs <;> first | rfl | exact setGlobal_neighborStates _ _ _

end MonitorCache

/-! ### The parts of the monitor -/

/-- A notification about an interface or an address. -/
def NetlinkMessage.interface? : NetlinkMessage → Option Message
  | .newLink msg => some (.newLink msg)
  | .delLink msg => some (.delLink msg)
  | .newAddress msg => some (.newAddress msg)
  | .delAddress msg => some (.delAddress msg)
  | _ => none

/-- A notification about a neighbour, with the names the cache has by then. -/
def NetlinkMessage.neighbor? (message : NetlinkMessage) (cache : MonitorCache) :
    Option Notification :=
  match message with
  | .newNeighbour msg => some ⟨msg, true, cache.ifNames⟩
  | .delNeighbour msg => some ⟨msg, false, cache.ifNames⟩
  | _ => none

/-- The neighbour notifications among these. -/
def notifications (messages : List NetlinkMessage) : List Notification :=
  Mealy.projected MonitorCache.translate NetlinkMessage.neighbor? .default messages

/-- `neighbor_event`, for one notification. -/
def neighborStep (n : Notification) (cache : NeighborStates) :
    Option NeighborNotice × NeighborStates := neighborEvent n.msg n.added n.ifNames cache

/-- An event that is published is seen where it belongs, and nowhere else. -/
theorem seen_map {α β : Type} (f : α → KernelEvent) {seen : KernelEvent → Option β}
    {g : α → Option β} (h : ∀ a, seen (f a) = g a) (o : Option α) :
    (o.map f).bind seen = o.bind g := by
  cases o with
  | none => rfl
  | some a => exact h a

/-- About interfaces the monitor does what the machine of the interfaces does. -/
theorem interface_simulates :
    Mealy.Simulates MonitorCache.translate translate (fun m _ => m.interface?)
      KernelEvent.interface? (fun c s => ∃ neighbors, c = .ofState s neighbors) where
  own := by
    rintro message _ s m ⟨neighbors, rfl⟩ hshare
    cases message with
    | newLink msg | delLink msg =>
      obtain rfl := Option.some.inj hshare
      simp only [MonitorCache.translate, MonitorCache.linkEvent_ofState]
      exact ⟨rfl, neighbors, rfl⟩
    | newAddress msg | delAddress msg =>
      obtain rfl := Option.some.inj hshare
      simp only [MonitorCache.translate, MonitorCache.addressEvent_ofState]
      refine ⟨(seen_map _ (fun _ => rfl) _).trans (Option.bind_fun_some _), neighbors, rfl⟩
    | newRoute _ | delRoute _ | newRule _ _ | delRule _ _ | newNeighbour _ | delNeighbour _
      | other => cases hshare
  other := by
    rintro message _ s ⟨neighbors, rfl⟩ hshare
    cases message with
    | newLink _ | delLink _ | newAddress _ | delAddress _ => cases hshare
    | newRoute _ | delRoute _ | newRule _ _ | delRule _ _ | other => exact ⟨rfl, neighbors, rfl⟩
    -- Neighbours use a part of the cache the interfaces do not see.
    | newNeighbour msg | delNeighbour msg =>
      exact ⟨(seen_map _ (fun _ => rfl) _).trans (Option.bind_fun_none _), _, rfl⟩

/-- About neighbours it does what the machine of the neighbours does. -/
theorem neighbor_simulates :
    Mealy.Simulates MonitorCache.translate neighborStep NetlinkMessage.neighbor?
      KernelEvent.neighbor? (fun c neighbors => c.neighborStates = neighbors) where
  own := by
    rintro message cache _ n rfl hshare
    cases message with
    | newNeighbour msg | delNeighbour msg =>
      obtain rfl := Option.some.inj hshare
      exact ⟨(seen_map _ (fun _ => rfl) _).trans (Option.bind_fun_some _), rfl⟩
    | newLink _ | delLink _ | newAddress _ | delAddress _ | newRoute _ | delRoute _ | newRule _ _
      | delRule _ _ | other => cases hshare
  other := by
    rintro message cache _ rfl hshare
    cases message with
    | newNeighbour _ | delNeighbour _ => cases hshare
    | newLink _ | delLink _ | newRoute _ | delRoute _ | newRule _ _ | delRule _ _ | other =>
      exact ⟨rfl, rfl⟩
    | newAddress msg | delAddress msg =>
      exact ⟨(seen_map _ (fun _ => rfl) _).trans (Option.bind_fun_none _),
        MonitorCache.addressEvent_neighborStates msg _ cache⟩

/-- The link and address notifications alone, over a cache of addresses. -/
def interfaceRun (messages : List NetlinkMessage) : List NetworkEvent × StateCache :=
  Mealy.run translate .default (messages.filterMap NetlinkMessage.interface?)

/-- The neighbour notifications alone. -/
def neighborRun (messages : List NetlinkMessage) : List NeighborNotice × NeighborStates :=
  Mealy.run neighborStep (fun _ => none) (notifications messages)

/-- **The monitor is its parts.**  Whatever comes in between, the link and address events are
    those of the link and address notifications alone, over a cache of addresses instead of
    texts; the neighbour events are those of the neighbour notifications alone, given the names
    of the moment; and the cache is what the two leave. -/
theorem monitor_refines (messages : List NetlinkMessage) :
    (monitor messages).1.filterMap KernelEvent.interface? = (interfaceRun messages).1 ∧
      (monitor messages).1.filterMap KernelEvent.neighbor? = (neighborRun messages).1 ∧
      (monitor messages).2 = .ofState (interfaceRun messages).2 (neighborRun messages).2 := by
  have hstart : MonitorCache.default = .ofState .default (fun _ => none) := rfl
  obtain ⟨hevents, neighborStates, hcache⟩ :=
    interface_simulates.run ⟨fun _ => none, hstart⟩ messages
  obtain ⟨hneighbors, hstates⟩ := neighbor_simulates.run
    (show MonitorCache.default.neighborStates = fun _ => none from rfl) messages
  rw [Mealy.projected_eq_filterMap] at hevents hcache
  refine ⟨hevents, hneighbors, ?_⟩
  rw [hcache] at hstates
  exact hcache.trans (congrArg _ hstates)

end Netdiag.Watch
