import Netdiag.Collect.Links
import Netdiag.Lib.Keyed
import Netdiag.Lib.Words
import Netdiag.Watch.Neighbors

namespace Netdiag.Collect

/-!
# Collectors — interfaces

`get_interfaces` of `daemon/src/collect/links.rs`: the link dump by index, the addresses of the
address dump under their interfaces, the sysctls of each from `/proc`.

* `linkToProto`, `addressToProto` — a message of either dump.
* `readInterfaceSysctls` — the sysctls of an interface, over the files that can be read.
* `getInterfaces` — the report.
* `Describes` — what one reported interface has to say, from all of the two dumps.
* `getInterfaces_iff` — the report holds the interfaces of the dump, once each and by ascending
  index, and each says what it has to.
-/

open Netdiag.Watch (fromIp Scope)

/-! ### Link messages -/

/-- `InfoKind`: a kind the crate has a variant for, by its name, or any other. -/
inductive InfoKind
  | named (variant : String)
  | other (s : String)
  deriving DecidableEq, Repr

/-- `LinkInfo`. -/
inductive LinkInfo
  | kind (kind : InfoKind)
  | other
  deriving DecidableEq, Repr

/-- `State` of `IFLA_OPERSTATE`. -/
inductive LinkState
  | unknown
  | notPresent
  | down
  | lowerLayerDown
  | testing
  | dormant
  | up
  | other (n : Nat)
  deriving DecidableEq, Repr

/-- `LinkStats`. -/
structure LinkStats where
  rxPackets : Nat := 0
  txPackets : Nat := 0
  rxBytes : Nat := 0
  txBytes : Nat := 0
  rxErrors : Nat := 0
  txErrors : Nat := 0
  rxDropped : Nat := 0
  txDropped : Nat := 0
  deriving DecidableEq, Repr

/-- `LinkAttribute`; of `IFLA_XDP` how many entries it has. -/
inductive LinkAttribute
  | ifName (name : String)
  | ifAlias (alias_ : String)
  | mtu (mtu : Nat)
  | address (mac : List (BitVec 8))
  | broadcast (mac : List (BitVec 8))
  | txQueueLen (len : Nat)
  | qdisc (q : String)
  | link (index : Nat)
  | controller (index : Nat)
  | group (g : Nat)
  | linkNetNsId (id : Int)
  | operState (state : LinkState)
  | xdp (entries : Nat)
  | linkInfo (infos : List LinkInfo)
  | stats64 (stats : LinkStats)
  | other
  deriving DecidableEq, Repr

/-- `LinkMessage`. -/
structure LinkMessage where
  index : Nat
  linkLayerType : LinkLayerType
  flags : BitVec 32
  attributes : List LinkAttribute
  deriving DecidableEq, Repr

/-! ### Address messages -/

/-- `AddressAttribute`; of `IFA_CACHEINFO` the two lifetimes. -/
inductive AddressAttribute
  | address (ip : IpAddr)
  | local (ip : IpAddr)
  | label (l : String)
  | broadcast (b : BitVec 32)
  | flags (f : BitVec 32)
  | cacheInfo (valid preferred : Nat)
  | other
  deriving DecidableEq, Repr

/-- `AddressMessage`. -/
structure AddressMessage where
  index : Nat
  prefixLen : Nat
  scope : Scope
  flags : BitVec 8
  attributes : List AddressAttribute
  deriving DecidableEq, Repr

/-! ### Interfaces -/

/-- `LinkFlags` with all the flags. -/
structure DumpedLinkFlags extends LinkFlags where
  loopback : Bool := false
  pointToPoint : Bool := false
  broadcast : Bool := false
  multicast : Bool := false
  noArp : Bool := false
  promisc : Bool := false
  lowerUp : Bool := false
  dormant : Bool := false
  raw : BitVec 32 := 0
  deriving DecidableEq, Repr

/-- `AddressFlags` with all the flags. -/
structure DumpedAddressFlags extends AddressFlags where
  permanent : Bool := false
  temporary : Bool := false
  deprecated : Bool := false
  managedTemp : Bool := false
  noPrefixRoute : Bool := false
  optimistic : Bool := false
  home : Bool := false
  stablePrivacy : Bool := false
  raw : BitVec 32 := 0
  deriving DecidableEq, Repr

/-- `LinkAddress`. -/
structure DumpedAddress where
  ipPrefix : Option WirePrefix
  scope : AddressScope
  flags : Option DumpedAddressFlags
  validLifetimeSec : Nat
  preferredLifetimeSec : Nat
  label : String
  broadcast : Option IpAddress
  deriving DecidableEq, Repr

/-- `InterfaceSysctls`. -/
structure DumpedSysctls extends InterfaceSysctls where
  acceptRaDefrtr : Int
  acceptRaRtInfoMaxPlen : Int
  autoconf : Int
  useTempaddr : Int
  forwardingV4 : Int
  forwardingV6 : Int
  rpFilter : Int
  arpIgnore : Int
  dadTransmits : Int
  mtuV6 : Int
  hopLimit : Int
  deriving DecidableEq, Repr

/-- `Interface` with everything `get_interfaces` fills in. -/
structure DumpedInterface where
  index : Nat := 0
  name : String := ""
  alias_ : String := ""
  kind : LinkKind := .unspecified
  linkType : String := ""
  flags : Option DumpedLinkFlags := none
  operState : OperState := .unspecified
  mtu : Nat := 0
  macAddress : List (BitVec 8) := []
  broadcastAddress : List (BitVec 8) := []
  txQueueLen : Nat := 0
  qdisc : String := ""
  linkIndex : Nat := 0
  netnsId : Int := 0
  group : Nat := 0
  stats : Option LinkStats := none
  addresses : List DumpedAddress := []
  sysctls : Option DumpedSysctls := none
  masterIndex : Nat := 0
  hasXdp : Bool := false
  deriving DecidableEq, Repr

/-- The fields the diagnosis and the per-app view read. -/
def DumpedAddress.toLinkAddress (a : DumpedAddress) : LinkAddress where
  ipPrefix := a.ipPrefix
  scope := a.scope
  flags := a.flags.map DumpedAddressFlags.toAddressFlags

/-- The fields the diagnosis and the per-app view read. -/
def DumpedInterface.toInterface (i : DumpedInterface) : Interface where
  index := i.index
  name := i.name
  kind := i.kind
  flags := i.flags.map DumpedLinkFlags.toLinkFlags
  operState := i.operState
  mtu := i.mtu
  addresses := i.addresses.map DumpedAddress.toLinkAddress
  sysctls := i.sysctls.map DumpedSysctls.toInterfaceSysctls

/-! ### From messages to interfaces -/

/-- `info_kind_name`. -/
def infoKindName : InfoKind → String
  | .named variant => variant.toLower
  | .other s => s

/-- `link_flags_to_proto`. -/
def linkFlagsToProto (flags : BitVec 32) : DumpedLinkFlags where
  up := flags.getLsbD 0
  broadcast := flags.getLsbD 1
  loopback := flags.getLsbD 3
  pointToPoint := flags.getLsbD 4
  running := flags.getLsbD 6
  noArp := flags.getLsbD 7
  promisc := flags.getLsbD 8
  multicast := flags.getLsbD 12
  lowerUp := flags.getLsbD 16
  dormant := flags.getLsbD 17
  raw := flags

/-- `oper_state_to_proto`. -/
def operStateToProto : LinkState → OperState
  | .unknown => .unknown
  | .notPresent => .notPresent
  | .down => .down
  | .lowerLayerDown => .lowerLayerDown
  | .testing => .testing
  | .dormant => .dormant
  | .up => .up
  | .other _ => .unspecified

/-- The kind among the entries of `IFLA_LINKINFO`: the last one. -/
def kindOf (infos : List LinkInfo) (infoKind : Option String) : Option String :=
  infos.foldl (fun kind info => match info with
    | .kind k => some (infoKindName k)
    | .other => kind) infoKind

/-- One attribute of `link_to_proto`, beside `info_kind`. -/
def applyLinkAttribute (includeStats : Bool) (acc : DumpedInterface × Option String) :
    LinkAttribute → DumpedInterface × Option String
  | .ifName name => ({ acc.1 with name }, acc.2)
  | .ifAlias alias_ => ({ acc.1 with alias_ }, acc.2)
  | .mtu mtu => ({ acc.1 with mtu }, acc.2)
  | .address mac => ({ acc.1 with macAddress := mac }, acc.2)
  | .broadcast mac => ({ acc.1 with broadcastAddress := mac }, acc.2)
  | .txQueueLen len => ({ acc.1 with txQueueLen := len }, acc.2)
  | .qdisc q => ({ acc.1 with qdisc := q }, acc.2)
  | .link index => ({ acc.1 with linkIndex := index }, acc.2)
  | .controller index => ({ acc.1 with masterIndex := index }, acc.2)
  | .group g => ({ acc.1 with group := g }, acc.2)
  | .linkNetNsId id => ({ acc.1 with netnsId := id }, acc.2)
  | .operState state => ({ acc.1 with operState := operStateToProto state }, acc.2)
  | .xdp entries => ({ acc.1 with hasXdp := entries != 0 }, acc.2)
  -- The kind is nested in its own attribute.
  | .linkInfo infos => (acc.1, kindOf infos acc.2)
  | .stats64 stats => if includeStats then ({ acc.1 with stats := some stats }, acc.2) else acc
  | .other => acc

/-- `link_to_proto`. -/
def linkToProto (msg : LinkMessage) (includeStats : Bool) : DumpedInterface :=
  let (iface, infoKind) := msg.attributes.foldl (applyLinkAttribute includeStats)
    ({ index := msg.index, flags := some (linkFlagsToProto msg.flags), netnsId := -1 }, none)
  { iface with
    linkType := infoKind.getD ""
    kind := classifyLink iface.name msg.linkLayerType infoKind msg.flags }

/-- `scope_to_proto`. -/
def scopeToProto : Scope → AddressScope
  | .universe => .global
  | .site => .site
  | .link => .link
  | .host => .host
  | .nowhere => .nowhere
  | .other _ => .unspecified

/-- The variables of `address_to_proto`. -/
structure AddressFields where
  address : Option IpAddr := none
  localIp : Option IpAddr := none
  label : String := ""
  broadcast : Option IpAddress := none
  flags : BitVec 32
  valid : Nat := 0
  preferred : Nat := 0
  deriving DecidableEq, Repr

/-- One attribute. -/
def AddressFields.applyAttribute (f : AddressFields) : AddressAttribute → AddressFields
  | .address ip => { f with address := some ip }
  | .local ip => { f with localIp := some ip }
  | .label l => { f with label := l }
  | .broadcast b => { f with broadcast := some (fromIp (.v4 b)) }
  | .flags flags => { f with flags }
  | .cacheInfo valid preferred => { f with valid, preferred }
  | .other => f

/-- The `IFA_F_*` flags. -/
def addressFlagsToProto (flags : BitVec 32) : DumpedAddressFlags where
  temporary := flags.getLsbD 0
  optimistic := flags.getLsbD 2
  dadfailed := flags.getLsbD 3
  home := flags.getLsbD 4
  deprecated := flags.getLsbD 5
  tentative := flags.getLsbD 6
  permanent := flags.getLsbD 7
  managedTemp := flags.getLsbD 8
  noPrefixRoute := flags.getLsbD 9
  stablePrivacy := flags.getLsbD 11
  raw := flags

/-- `address_to_proto`. -/
def addressToProto (msg : AddressMessage) : Option DumpedAddress :=
  let f := msg.attributes.foldl AddressFields.applyAttribute { flags := msg.flags.setWidth 32 }
  -- `IFA_LOCAL` is this end of a point-to-point link, `IFA_ADDRESS` the peer.
  (f.localIp.or f.address).map (fun ip =>
    { ipPrefix := some ⟨some (fromIp ip), msg.prefixLen⟩
      scope := scopeToProto msg.scope
      flags := some (addressFlagsToProto f.flags)
      validLifetimeSec := f.valid
      preferredLifetimeSec := f.preferred
      label := f.label
      broadcast := f.broadcast })

/-! ### Sysctls -/

/-- What the files are read as; `none` for one that cannot be read. -/
abbrev Files := String → Option (List Char)

/-- `util::read_trimmed`. -/
def readTrimmed (files : Files) (path : String) : Option (List Char) := (files path).map Text.trim

/-- `util::read_i32`. -/
def readI32 (files : Files) (path : String) : Option Int := do
  let text ← readTrimmed files path
  let word ← (Text.splitWhitespace text).head?
  Text.parseSigned 31 word

/-- `read_interface_sysctls`. -/
def readInterfaceSysctls (files : Files) (name : String) : DumpedSysctls :=
  let v6 (key : String) := (readI32 files s!"/proc/sys/net/ipv6/conf/{name}/{key}")
  let v4 (key : String) := (readI32 files s!"/proc/sys/net/ipv4/conf/{name}/{key}")
  { ipv6Disabled := (v6 "disable_ipv6").getD 0 != 0
    acceptRa := (v6 "accept_ra").getD (-1)
    acceptRaDefrtr := (v6 "accept_ra_defrtr").getD (-1)
    acceptRaRtInfoMaxPlen := (v6 "accept_ra_rt_info_max_plen").getD (-1)
    autoconf := (v6 "autoconf").getD (-1)
    useTempaddr := (v6 "use_tempaddr").getD (-1)
    forwardingV4 := (v4 "forwarding").getD (-1)
    forwardingV6 := (v6 "forwarding").getD (-1)
    rpFilter := (v4 "rp_filter").getD (-1)
    arpIgnore := (v4 "arp_ignore").getD (-1)
    dadTransmits := (v6 "dad_transmits").getD (-1)
    mtuV6 := (v6 "mtu").getD (-1)
    hopLimit := (v6 "hop_limit").getD (-1) }

/-! ### The report -/

/-- The answers of the kernel to the two dumps. -/
structure LinkDumps where
  links : Except String (List LinkMessage)
  addresses : Except String (List AddressMessage)

/-- What the loop over the addresses does to the interface of a message. -/
def addAddress (msg : AddressMessage) (iface : DumpedInterface) : DumpedInterface :=
  match addressToProto msg with
  | some addr => { iface with addresses := iface.addresses ++ [addr] }
  | none => iface

/-- `by_index` after the two dumps. -/
def byIndex (links : List LinkMessage) (addresses : List AddressMessage) (includeStats : Bool) :
    Keyed.Map Nat DumpedInterface :=
  Keyed.modifyAll AddressMessage.index addAddress addresses
    (Keyed.insertAll LinkMessage.index (linkToProto · includeStats) links)

/-- The loop over the interfaces that adds the sysctls. -/
def addSysctls (files : Files) (includeSysctls : Bool) (iface : DumpedInterface) :
    DumpedInterface :=
  if includeSysctls then { iface with sysctls := some (readInterfaceSysctls files iface.name) }
  else iface

/-- `get_interfaces`. -/
def getInterfaces (dumps : LinkDumps) (files : Files) (includeStats includeSysctls : Bool) :
    Except String (List DumpedInterface) := do
  let links ← dumps.links
  let addresses ← dumps.addresses
  let out := Keyed.sorted DumpedInterface.index (byIndex links addresses includeStats)
  return out.map (addSysctls files includeSysctls)

/-! ### What one interface says -/

/-- The interface is that of the last link message with its index, with the addresses of all
    the address messages with its index, in their order. -/
def Describes (links : List LinkMessage) (addresses : List AddressMessage) (files : Files)
    (includeStats includeSysctls : Bool) (iface : DumpedInterface) : Prop :=
  ∃ msg, (links.filter (fun msg => msg.index = iface.index)).getLast? = some msg ∧
    iface = addSysctls files includeSysctls
      { linkToProto msg includeStats with
        addresses := (addresses.filter (fun msg => msg.index = iface.index)).filterMap
          addressToProto }

/-- No attribute changes the index. -/
theorem applyLinkAttribute_index (includeStats : Bool) (acc : DumpedInterface × Option String)
    (attr : LinkAttribute) : (applyLinkAttribute includeStats acc attr).1.index = acc.1.index := by
  unfold applyLinkAttribute
  split <;> try rfl
  split <;> rfl

/-- No attribute of the link touches the addresses. -/
theorem applyLinkAttribute_addresses (includeStats : Bool)
    (acc : DumpedInterface × Option String) (attr : LinkAttribute) :
    (applyLinkAttribute includeStats acc attr).1.addresses = acc.1.addresses := by
  unfold applyLinkAttribute
  split <;> try rfl
  split <;> rfl

/-- The attributes leave the index and the addresses alone. -/
theorem foldl_applyLinkAttribute (includeStats : Bool) (attrs : List LinkAttribute)
    (acc : DumpedInterface × Option String) :
    (attrs.foldl (applyLinkAttribute includeStats) acc).1.index = acc.1.index ∧
      (attrs.foldl (applyLinkAttribute includeStats) acc).1.addresses = acc.1.addresses := by
  induction attrs generalizing acc with
  | nil => exact ⟨rfl, rfl⟩
  | cons attr attrs ih =>
    obtain ⟨hindex, haddresses⟩ := ih (applyLinkAttribute includeStats acc attr)
    rw [List.foldl_cons, hindex, haddresses, applyLinkAttribute_index,
      applyLinkAttribute_addresses]
    exact ⟨rfl, rfl⟩

/-- An interface has the index of its message. -/
@[simp] theorem linkToProto_index (msg : LinkMessage) (includeStats : Bool) :
    (linkToProto msg includeStats).index = msg.index :=
  (foldl_applyLinkAttribute includeStats msg.attributes _).1

/-- It has no addresses before those are collected. -/
@[simp] theorem linkToProto_addresses (msg : LinkMessage) (includeStats : Bool) :
    (linkToProto msg includeStats).addresses = [] :=
  (foldl_applyLinkAttribute includeStats msg.attributes _).2

/-- An address is added behind the others. -/
theorem addAddress_eq (msg : AddressMessage) (iface : DumpedInterface) :
    addAddress msg iface =
      { iface with addresses := iface.addresses ++ (addressToProto msg).toList } := by
  unfold addAddress
  cases addressToProto msg <;> simp

/-- The addresses of an interface, one message after the other. -/
theorem foldl_addAddress (msgs : List AddressMessage) (iface : DumpedInterface) :
    msgs.foldl (fun iface msg => addAddress msg iface) iface =
      { iface with addresses := iface.addresses ++ msgs.filterMap addressToProto } := by
  induction msgs generalizing iface with
  | nil => simp
  | cons msg msgs ih =>
    rw [List.foldl_cons, ih, addAddress_eq]
    cases h : addressToProto msg <;> simp [h]

/-- What is under an index after the two dumps. -/
theorem lookup_byIndex (links : List LinkMessage) (addresses : List AddressMessage)
    (includeStats : Bool) (index : Nat) :
    (byIndex links addresses includeStats).lookup index =
      ((links.filter (fun msg => msg.index = index)).getLast?).map (fun msg =>
        { linkToProto msg includeStats with
          addresses := (addresses.filter (fun msg => msg.index = index)).filterMap
            addressToProto }) := by
  rw [byIndex, Keyed.lookup_modifyAll, Keyed.lookup_insertAll, Option.map_map]
  congr 1
  funext msg
  show (addresses.filter (fun msg => msg.index = index)).foldl _ (linkToProto msg includeStats) = _
  rw [foldl_addAddress, linkToProto_addresses, List.nil_append]

/-- Each interface stands under its own index. -/
theorem keysOwn_byIndex (links : List LinkMessage) (addresses : List AddressMessage)
    (includeStats : Bool) :
    Keyed.KeysOwn DumpedInterface.index (byIndex links addresses includeStats) := by
  intro index iface h
  rw [lookup_byIndex, Option.map_eq_some_iff] at h
  obtain ⟨msg, hmsg, rfl⟩ := h
  have hmem := List.mem_of_getLast? hmsg
  show (linkToProto msg includeStats).index = index
  rw [linkToProto_index]
  exact of_decide_eq_true (List.mem_filter.mp hmem).2

/-- The sysctls do not change the index. -/
@[simp] theorem addSysctls_index (files : Files) (includeSysctls : Bool)
    (iface : DumpedInterface) : (addSysctls files includeSysctls iface).index = iface.index := by
  unfold addSysctls
  split <;> rfl

/-- The indexes of a report ascend strictly. -/
theorem getInterfaces_sorted {dumps : LinkDumps} {files : Files}
    {includeStats includeSysctls : Bool} {out : List DumpedInterface}
    (h : getInterfaces dumps files includeStats includeSysctls = .ok out) :
    out.Pairwise (fun a b => a.index < b.index) := by
  unfold getInterfaces at h
  cases hlinks : dumps.links with
  | error e => simp [hlinks, bind, Except.bind] at h
  | ok links =>
  cases haddresses : dumps.addresses with
  | error e => simp [hlinks, haddresses, bind, Except.bind] at h
  | ok addresses =>
    simp only [hlinks, haddresses, bind, Except.bind, pure, Except.pure, Except.ok.injEq] at h
    subst h
    rw [List.pairwise_map]
    simpa only [addSysctls_index] using
      Keyed.pairwise_sorted (keysOwn_byIndex links addresses includeStats)

/-- **What `get_interfaces` reports.**  The indexes ascend strictly, and an interface is in the
    report exactly when it is the one its dumps describe: no interface is missing, none is there
    twice, each has all of its own addresses and no others. -/
theorem getInterfaces_iff {dumps : LinkDumps} {files : Files} {includeStats includeSysctls : Bool}
    {out : List DumpedInterface}
    (h : getInterfaces dumps files includeStats includeSysctls = .ok out) :
    ∃ links addresses, dumps.links = .ok links ∧ dumps.addresses = .ok addresses ∧
      out.Pairwise (fun a b => a.index < b.index) ∧
      ∀ iface, iface ∈ out ↔ Describes links addresses files includeStats includeSysctls iface := by
  have hsorted := getInterfaces_sorted h
  unfold getInterfaces at h
  cases hlinks : dumps.links with
  | error e => simp [hlinks, bind, Except.bind] at h
  | ok links =>
  cases haddresses : dumps.addresses with
  | error e => simp [hlinks, haddresses, bind, Except.bind] at h
  | ok addresses =>
    simp only [hlinks, haddresses, bind, Except.bind, pure, Except.pure, Except.ok.injEq] at h
    subst h
    have hown := keysOwn_byIndex links addresses includeStats
    refine ⟨links, addresses, rfl, rfl, hsorted, ?_⟩
    intro iface
    rw [List.mem_map]
    constructor
    -- What is stored under an index comes from the last message with it.
    · rintro ⟨stored, hstored, rfl⟩
      rw [Keyed.mem_sorted hown, lookup_byIndex, Option.map_eq_some_iff] at hstored
      obtain ⟨msg, hmsg, hstored⟩ := hstored
      refine ⟨msg, by simpa only [addSysctls_index] using hmsg, ?_⟩
      rw [addSysctls_index, hstored]
    -- And what the last message describes is stored under its index.
    · rintro ⟨msg, hmsg, heq⟩
      refine ⟨_, ?_, heq.symm⟩
      have hindex : msg.index = iface.index :=
        of_decide_eq_true (List.mem_filter.mp (List.mem_of_getLast? hmsg)).2
      rw [Keyed.mem_sorted hown, lookup_byIndex, Option.map_eq_some_iff]
      refine ⟨msg, ?_, ?_⟩
      · show (links.filter (fun m => m.index = (linkToProto msg includeStats).index)).getLast? = _
        rw [linkToProto_index, hindex]
        exact hmsg
      · show ({ linkToProto msg includeStats with
          addresses := (addresses.filter (fun m =>
            m.index = (linkToProto msg includeStats).index)).filterMap addressToProto } :
          DumpedInterface) = _
        rw [linkToProto_index, hindex]

/-- The link message of `v4-wlan0`. -/
def clatLink : LinkMessage := ⟨7, .none, 0x41, [.ifName "v4-wlan0", .mtu 1472]⟩

/-- The message of its address. -/
def clatAddress : AddressMessage := ⟨7, 32, .universe, 0, [.local (.v4 0xc0000004)]⟩

/-- `v4-wlan0` and `wlan0`, and an address of an interface that is not there. -/
def clatDumps : LinkDumps where
  links := .ok [clatLink, ⟨2, .ether, 0x41, [.ifName "wlan0"]⟩]
  addresses := .ok [clatAddress, ⟨9, 24, .universe, 0, []⟩]

/-- The report of `clatDumps`, in the order of the indexes. -/
theorem getInterfaces_iff_clat :
    ∃ out, getInterfaces clatDumps (fun _ => none) false false = .ok out ∧
      out.Pairwise (fun a b => a.index < b.index) ∧
      ∃ iface ∈ out, iface.kind = .clat ∧ iface.addresses.length = 1 := by
  have hok : ∃ out, getInterfaces clatDumps (fun _ => none) false false = .ok out := ⟨_, rfl⟩
  obtain ⟨out, hout⟩ := hok
  obtain ⟨links, addresses, hlinks, haddresses, hsorted, hmem⟩ := getInterfaces_iff hout
  obtain rfl := Except.ok.inj hlinks
  obtain rfl := Except.ok.inj haddresses
  let clat : DumpedInterface :=
    { linkToProto clatLink false with addresses := [clatAddress].filterMap addressToProto }
  have hclat : clat ∈ out := (hmem clat).mpr ⟨clatLink, rfl, rfl⟩
  exact ⟨out, hout, hsorted, clat, hclat, by decide +kernel, by decide +kernel⟩

/-! ### Names -/

/-- One interface of the map from indexes to names. -/
def nameInterface (names : Nat → Option String) (iface : DumpedInterface) : Nat → Option String :=
  Function.update names iface.index (some iface.name)

/-- `collect::interface_names`. -/
def interfaceNames (interfaces : List DumpedInterface) : Nat → Option String :=
  interfaces.foldl nameInterface (fun _ => none)

/-- The name of an index is that of the interface with it. -/
theorem foldl_nameInterface (interfaces : List DumpedInterface)
    (hsorted : interfaces.Pairwise (fun a b => a.index < b.index)) (names : Nat → Option String)
    (index : Nat) : interfaces.foldl nameInterface names index =
      ((interfaces.find? (fun i => i.index == index)).map DumpedInterface.name).or (names index)
        := by
  induction interfaces generalizing names with
  | nil => rfl
  | cons iface interfaces ih =>
    obtain ⟨hhead, htail⟩ := List.pairwise_cons.mp hsorted
    rw [List.foldl_cons, ih htail, nameInterface]
    by_cases h : iface.index = index
    · -- no later interface has this index
      have hnone : interfaces.find? (fun i => i.index == index) = none := by
        rw [List.find?_eq_none]
        intro i hi
        have := hhead i hi
        rw [beq_iff_eq]
        omega
      rw [hnone, ← h, Function.update_self, List.find?_cons_of_pos (by simp)]
      rfl
    · rw [Function.update_of_ne (Ne.symm h), List.find?_cons_of_neg (by simpa using h)]

/-- The name of an index: that of the interface with this index. -/
theorem interfaceNames_eq {interfaces : List DumpedInterface}
    (hsorted : interfaces.Pairwise (fun a b => a.index < b.index)) (index : Nat) :
    interfaceNames interfaces index =
      (interfaces.find? (fun i => i.index == index)).map DumpedInterface.name := by
  rw [interfaceNames, foldl_nameInterface interfaces hsorted, Option.or_none]

end Netdiag.Collect
