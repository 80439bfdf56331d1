import Netdiag.Net.Addr
import Mathlib.Data.Finset.Basic

namespace Netdiag.Watch

/-!
# Watch — from netlink notifications to events

`daemon/src/watch.rs`: the kernel event monitor turns link and address notifications into
timeline events, with a `StateCache` that remembers enough of the past to say which
notifications are transitions.

* `Message` — the link and address notifications, with the attributes the code looks at.
* `StateCache` — what is remembered; `HashMap`s are functions, `HashSet`s finite sets.
* `linkEvent` / `addressEvent` / `translate` — the event of a notification and the cache
  after it.

The cache keeps an address as the text `ip/prefix_len` and parses the part before the slash
to find its family.  `Display` and `FromStr` of `IpAddr` are inverse to each other and print
no slash, so the pair itself stands for the text here (`Address`).
-/

/-! ### Notifications -/

/-- The `IFLA_*` attributes `link_event` looks at. -/
inductive LinkAttribute
  | ifName (name : String)
  | mtu (mtu : Nat)
  | other
  deriving DecidableEq, Repr

/-- `LinkMessage`: header index and flags, attributes. -/
structure LinkMessage where
  index : Nat
  up : Bool
  running : Bool
  attributes : List LinkAttribute
  deriving DecidableEq, Repr

/-- `AddressScope` of the netlink header. -/
inductive Scope
  | universe
  | site
  | link
  | host
  | nowhere
  | other (n : Nat)
  deriving DecidableEq, Repr

/-- The `IFA_*` attributes `address_event` looks at. -/
inductive AddressAttribute
  | local (ip : IpAddr)
  | address (ip : IpAddr)
  | other
  deriving DecidableEq, Repr

/-- `AddressMessage`: header index, prefix length and scope, attributes. -/
structure AddressMessage where
  index : Nat
  prefixLen : Nat
  scope : Scope
  attributes : List AddressAttribute
  deriving DecidableEq, Repr

/-- The notifications that touch interfaces and addresses. -/
inductive Message
  | newLink (msg : LinkMessage)
  | delLink (msg : LinkMessage)
  | newAddress (msg : AddressMessage)
  | delAddress (msg : AddressMessage)
  deriving DecidableEq, Repr

/-! ### Events -/

/-- `EventSeverity` of `event.proto`. -/
inductive Severity
  | unspecified
  | debug
  | info
  | notice
  | warning
  deriving DecidableEq, Repr

/-- `LinkEvent`; of the interface only the three fields `link_event` fills. -/
structure LinkEvent where
  added : Bool
  index : Nat
  name : String
  mtu : Nat
  wentUp : Bool
  wentDown : Bool
  mtuChanged : Bool
  previousMtu : Nat
  deriving DecidableEq, Repr

/-- `AddressScope` of `link.proto`, as far as `address_event` uses it. -/
inductive ProtoScope
  | unspecified
  | global
  deriving DecidableEq, Repr

/-- `AddressEvent`. -/
structure AddressEvent where
  added : Bool
  interfaceIndex : Nat
  interfaceName : String
  address : IpPrefix
  scope : ProtoScope
  familyGained : Bool
  familyLost : Bool
  family : IpFamily
  deriving DecidableEq, Repr

/-- `network_event::Payload`. -/
inductive Payload
  | link (event : LinkEvent)
  | address (event : AddressEvent)
  deriving DecidableEq, Repr

/-- `NetworkEvent` as `base_event` and its callers build it; the source is the kernel. -/
structure NetworkEvent where
  severity : Severity
  summary : String
  payload : Payload
  deriving DecidableEq, Repr

/-! ### The cache -/

/-- An address as the cache keeps it: the pair that the text `ip/prefix_len` prints. -/
abbrev Address := IpAddr × Nat

/-- `StateCache`, without the neighbour states. -/
structure StateCache where
  ifNames : Nat → Option String
  ifMtu : Nat → Option Nat
  hasGlobalV4 : Finset Nat
  hasGlobalV6 : Finset Nat
  addresses : Nat → Finset Address

namespace StateCache

/-- `StateCache::default`. -/
def default : StateCache :=
  { ifNames := fun _ => none, ifMtu := fun _ => none, hasGlobalV4 := ∅, hasGlobalV6 := ∅,
    addresses := fun _ => ∅ }

/-- The set `address_event` selects by family. -/
def hasGlobal (c : StateCache) (family : IpFamily) : Finset Nat :=
  match family with
  | .v6 => c.hasGlobalV6
  | _ => c.hasGlobalV4

/-- The same, written back. -/
def setGlobal (c : StateCache) (family : IpFamily) (set : Finset Nat) : StateCache :=
  match family with
  | .v6 => { c with hasGlobalV6 := set }
  | _ => { c with hasGlobalV4 := set }

end StateCache

/-! ### Links -/

/-- The name and the MTU after the attributes have been read. -/
def linkAttributes (attributes : List LinkAttribute) (name : String) : String × Nat :=
  attributes.foldl (fun acc attr => match attr with
    | .ifName n => (n, acc.2)
    | .mtu m => (acc.1, m)
    | .other => acc) (name, 0)

/-- `link_event`. -/
def linkEvent (msg : LinkMessage) (added : Bool) (cache : StateCache) :
    NetworkEvent × StateCache :=
  let index := msg.index
  let (name, mtu) := linkAttributes msg.attributes ((cache.ifNames index).getD "")
  -- A link that no message has named yet.
  let name := if name = "" then s!"if{index}" else name
  let previousMtu := (cache.ifMtu index).getD 0
  let mtuChanged := decide (mtu ≠ 0 ∧ previousMtu ≠ 0 ∧ mtu ≠ previousMtu)
  let cache :=
    if added then
      { cache with
        ifNames := Function.update cache.ifNames index (some name),
        -- A message without an MTU keeps the one that is known.
        ifMtu := if mtu ≠ 0 then Function.update cache.ifMtu index (some mtu) else cache.ifMtu }
    else
      { ifNames := Function.update cache.ifNames index none,
        ifMtu := Function.update cache.ifMtu index none,
        hasGlobalV4 := cache.hasGlobalV4.erase index,
        hasGlobalV6 := cache.hasGlobalV6.erase index,
        addresses := Function.update cache.addresses index ∅ }
  let summary :=
    if added = false then s!"{name} removed"
    else if mtuChanged then s!"{name} MTU {previousMtu} -> {mtu}"
    else if msg.up ∧ msg.running then s!"{name} up"
    else if msg.up then s!"{name} up, no carrier"
    else s!"{name} down"
  let severity := if added = false ∨ msg.up = false then .notice else .info
  ({ severity, summary,
     payload := .link
      { added, index, name, mtu, wentUp := added && msg.up, wentDown := added && !msg.up,
        mtuChanged, previousMtu } }, cache)

/-! ### Addresses -/

/-- The address of a notification: `IFA_LOCAL`, else the first `IFA_ADDRESS` before it. -/
def addressAttributes (attributes : List AddressAttribute) : Option IpAddr :=
  attributes.foldl (fun ip attr => match attr with
    | .local a => some a
    | .address a => if ip.isNone then some a else ip
    | .other => ip) none

/-- Does the cache hold an address of this family on the interface? -/
def anyLeft (addresses : Finset Address) (family : IpFamily) : Bool :=
  decide (∃ a ∈ addresses, a.1.isIpv6 = (family == .v6))

/-- What `address_event` says about the family before and after the notification. -/
structure FamilyChange where
  had : Bool
  hasNow : Bool
  deriving DecidableEq, Repr

/-- The cache update of `address_event`: the addresses of the interface, then the set of
    interfaces with a global address of the family. -/
def trackAddress (index : Nat) (ip : IpAddr) (prefixLen : Nat) (isGlobal added : Bool)
    (cache : StateCache) : FamilyChange × StateCache :=
  let family := ip.family
  let entry := cache.addresses index
  let entry := if added then insert (ip, prefixLen) entry else entry.erase (ip, prefixLen)
  let cache := { cache with addresses := Function.update cache.addresses index entry }
  let set := cache.hasGlobal family
  let had := decide (index ∈ set)
  if isGlobal = false then ({ had, hasNow := had }, cache)
  else if added then ({ had, hasNow := true }, cache.setGlobal family (insert index set))
  else
    -- recomputed from the tracked addresses, whatever their scope
    let anyLeft := anyLeft (cache.addresses index) family
    ({ had, hasNow := anyLeft },
      if anyLeft then cache else cache.setGlobal family (set.erase index))

/-- `address_event`. -/
def addressEvent (msg : AddressMessage) (added : Bool) (cache : StateCache) :
    Option NetworkEvent × StateCache :=
  let index := msg.index
  let name := (cache.ifNames index).getD s!"if{index}"
  match addressAttributes msg.attributes with
  | none => (none, cache)
  | some ip =>
    let text := s!"{ip.display}/{msg.prefixLen}"
    let isGlobal := decide (msg.scope = .universe)
    let (change, cache) := trackAddress index ip msg.prefixLen isGlobal added cache
    let gained := !change.had && change.hasNow
    let lost := change.had && !change.hasNow
    let familyName := if ip.family = .v6 then "IPv6" else "IPv4"
    let summary :=
      if gained then s!"{name} gained {familyName} ({text})"
      else if lost then s!"{name} lost {familyName} (last global address {text} removed)"
      else if added then s!"{name} address added {text}"
      else s!"{name} address removed {text}"
    let severity := if lost then .warning else if gained then .notice else .debug
    (some { severity, summary,
            payload := .address
              { added, interfaceIndex := index, interfaceName := name,
                address := ⟨ip, msg.prefixLen⟩,
                scope := if isGlobal then .global else .unspecified,
                familyGained := gained, familyLost := lost, family := ip.family } }, cache)

/-- `translate`, for these notifications. -/
def translate (message : Message) (cache : StateCache) : Option NetworkEvent × StateCache :=
  match message with
  | .newLink msg => let (event, cache) := linkEvent msg true cache; (some event, cache)
  | .delLink msg => let (event, cache) := linkEvent msg false cache; (some event, cache)
  | .newAddress msg => addressEvent msg true cache
  | .delAddress msg => addressEvent msg false cache

end Netdiag.Watch
