import Netdiag.Net.Messages
import Netdiag.Platform.Framework

namespace Netdiag.Platform

/-!
# Framework snapshot — the Rust side

`parse_framework_snapshot` of `slint-app/src/platform/shim.rs`, and what becomes of the text the
Java side writes.

* `parseFrameworkSnapshot`, `parseNetwork`, `transport`, `capabilitiesFrom`, `ipAddress`.
* `Conveys` — a parsed network is the one that was collected.
* `snapshot_iff` — when the whole snapshot comes through.  Two transports have a number on the
  wire that `transport` does not know, and scopes of DNS servers are written as they are.
-/

/-! ### The parser -/

/-- `transport`. -/
def transport (name : List Char) : Option Transport :=
  match String.ofList name with
  | "CELLULAR" => some .cellular
  | "WIFI" => some .wifi
  | "BLUETOOTH" => some .bluetooth
  | "ETHERNET" => some .ethernet
  | "VPN" => some .vpn
  | "USB" => some .usb
  -- "WIFI_AWARE and LOWPAN have no wire value".
  | _ => none

/-- `capabilities_from`. -/
def capabilitiesFrom (list : List Char) : NetworkCapabilitiesInfo :=
  let has (name : String) : Bool := (list.splitOn ',').any (fun entry => entry == name.toList)
  { internet := has "INTERNET"
    validated := has "VALIDATED"
    captivePortal := has "CAPTIVE_PORTAL"
    notRestricted := has "NOT_RESTRICTED"
    notMetered := has "NOT_METERED"
    notRoaming := has "NOT_ROAMING"
    notCongested := has "NOT_CONGESTED"
    notSuspended := has "NOT_SUSPENDED"
    notVpn := has "NOT_VPN"
    trusted := has "TRUSTED"
    foreground := has "FOREGROUND" }

/-- The text an address is read from: up to a scope, trimmed. -/
def unscoped (text : List Char) : List Char := Text.trim ((text.splitOn '%').headD [])

/-- `ip_address`. -/
def ipAddress (text : List Char) : Option IpAddress :=
  if (unscoped text).isEmpty then none
  else (IpAddr.parse (unscoped text)).map (fun ip => ⟨ip.octets⟩)

/-- `(handle >> 32) as i32`. -/
def netIdOf (handle : Nat) : Int := (BitVec.ofNat 32 (handle >>> 32)).toInt

/-- `parse_network`, on the fields after the tag. -/
def parseNetwork (fields : List (List Char)) (activeHandle : Nat) : Option AndroidNetwork := do
  let handle ← fields[0]?.bind (Text.parseUnsigned (2 ^ 64 - 1))
  let transports := fields[1]?.getD []
  let capabilities := fields[2]?.getD []
  let interfaceName := String.ofList (fields[3]?.getD [])
  -- Fields that are missing read as empty, or as zero.
  let mtu := (Text.parseSigned 31 (fields[4]?.getD ['0'])).getD 0
  let privateDnsActive := fields[5]?.getD ['0'] == ['1']
  let privateDnsServerName := String.ofList (fields[6]?.getD [])
  let domains := fields[7]?.getD []
  let dns := fields[8]?.getD []
  return {
    networkHandle := handle
    netId := netIdOf handle
    isDefault := handle != 0 && handle == activeHandle
    transports := ((transports.splitOn ',').filterMap transport).map Transport.toInt
    capabilities := some (capabilitiesFrom capabilities)
    linkProperties := some
      { interfaceName
        mtu
        privateDnsMode :=
          -- A host name means strict, whatever the flag says.
          (if !privateDnsServerName.isEmpty then PrivateDnsMode.strict
           else if privateDnsActive then .opportunistic
           else .off).toInt
        privateDnsServerName
        privateDnsActive
        domains := ((domains.splitOn ' ').filter (fun d => !d.isEmpty)).map String.ofList
        dnsServers := (dns.splitOn ',').filterMap ipAddress } }

/-- One line: the state so far, and whether the header was seen.  `none` gives up. -/
def parseLine (acc : AndroidNetworkState × Bool) (line : List Char) :
    Option (AndroidNetworkState × Bool) :=
  match line.splitOn '\t' with
  | ['V'] :: fields => do
    -- A snapshot of another version is not read at all.
    if fields[0]? ≠ some ['1'] then none
    else
      let sdkInt ← fields[1]?.bind (Text.parseSigned 31)
      let handle ← fields[2]?.bind (Text.parseUnsigned (2 ^ 64 - 1))
      let status ← fields[3]?
      -- The field has to be there, but may say anything.
      let status := (Text.parseSigned 31 status).getD 0
      some ({ acc.1 with
        sdkInt
        activeNetworkHandle := handle
        activeNetId := netIdOf handle
        hasActiveNetwork := handle != 0
        restrictBackgroundStatus := status
        dataSaverEnabled := status == 3 }, true)
  | ['N'] :: fields =>
    -- The handle of the `V` line, which has to come first to mark the default.
    match parseNetwork fields acc.1.activeNetworkHandle with
    | some network => some ({ acc.1 with networks := acc.1.networks ++ [network] }, acc.2)
    -- A network without a handle is left out.
    | none => some acc
  | _ => some acc

/-- `parse_framework_snapshot`, at `now`. -/
def parseFrameworkSnapshot (now : Int) (text : List Char) : Option AndroidNetworkState := do
  let (state, seenHeader) ← (Text.lines text).foldlM parseLine ({ capturedAtUnixMs := now }, false)
  if seenHeader then some state else none

/-! ### What a network is worth -/

/-- The value of a transport in the `Transport` enumeration; each of them has one. -/
def SdkTransport.value : SdkTransport → Transport
  | .cellular => .cellular
  | .wifi => .wifi
  | .bluetooth => .bluetooth
  | .ethernet => .ethernet
  | .vpn => .vpn
  | .wifiAware => .wifiAware
  | .lowpan => .lowpan
  | .usb => .usb

/-- A capability is granted. -/
def hasCapability (caps : Option NetworkCapabilities) (c : SdkCapability) : Bool :=
  (caps.map (·.hasCapability c)).getD false

/-- A text with its separators replaced by blanks; empty for null. -/
def blanked (value : Option String) : String :=
  String.ofList ((value.getD "").toList.map (fun c => if isSeparator c then ' ' else c))

/-- The non-empty parts of a domain string between blanks and separators. -/
def domainsOf (value : Option String) : List String :=
  (((value.getD "").toList.splitOnP (fun c => c == ' ' || isSeparator c)).filter
    (fun d => !d.isEmpty)).map String.ofList

/-- Parsed link properties are the ones collected. -/
structure ConveysLink (link : LinkProperties) (parsed : LinkPropertiesInfo) : Prop where
  interfaceName : parsed.interfaceName = blanked link.interfaceName
  mtu : parsed.mtu = link.mtu.toInt
  privateDnsActive : parsed.privateDnsActive = link.privateDnsActive
  privateDnsServerName : parsed.privateDnsServerName = blanked link.privateDnsServerName
  domains : parsed.domains = domainsOf link.domains
  dnsServers : parsed.dnsServers = link.dnsServers.map (fun s => ⟨s.addr.octets⟩)

/-- A parsed network is the one collected. -/
structure Conveys (activeHandle : Nat) (n : Network) (parsed : AndroidNetwork) : Prop where
  networkHandle : parsed.networkHandle = n.handle.val
  netId : parsed.netId = ((n.handle.val >>> 32 : Nat) : Int)
  isDefault : parsed.isDefault = decide (n.handle.val = activeHandle)
  transports : parsed.transports = (emitted n.capabilities).map (·.value.toInt)
  capabilities : parsed.capabilities = some
    { internet := hasCapability n.capabilities .internet
      validated := hasCapability n.capabilities .validated
      captivePortal := hasCapability n.capabilities .captivePortal
      notRestricted := hasCapability n.capabilities .notRestricted
      notMetered := hasCapability n.capabilities .notMetered
      notRoaming := hasCapability n.capabilities .notRoaming
      notCongested := hasCapability n.capabilities .notCongested
      notSuspended := hasCapability n.capabilities .notSuspended
      notVpn := hasCapability n.capabilities .notVpn
      trusted := hasCapability n.capabilities .trusted
      foreground := hasCapability n.capabilities .foreground }
  link : ∃ link, parsed.linkProperties = some link ∧ ConveysLink n.link link

/-! ### Field by field -/

/-- A text field has blanks where there were separators. -/
theorem text_eq (value : Option String) :
    text value = (value.getD "").toList.map (fun c => if isSeparator c then ' ' else c) := by
  cases value with
  | none => rfl
  | some value =>
    show replace ',' ' ' (replace '\n' ' ' (replace '\t' ' ' value.toList)) = _
    rw [replace, replace, replace, List.map_map, List.map_map, Option.getD_some]
    apply List.map_congr_left
    intro c _
    simp only [Function.comp_apply, isSeparator, Bool.or_eq_true, beq_iff_eq]
    split_ifs <;> simp_all

/-- So it is read as the value with blanks for separators. -/
theorem ofList_text (value : Option String) : String.ofList (text value) = blanked value := by
  rw [text_eq, blanked]

/-- Domains: blanks in the place of separators, then split at blanks. -/
theorem domains_text (value : Option String) :
    (((text value).splitOn ' ').filter (fun d => !d.isEmpty)).map String.ofList =
      domainsOf value := by
  have keep : ∀ c : Char, ((if isSeparator c then ' ' else c) == ' ') = false →
      (if isSeparator c then ' ' else c) = c := by
    intro c h
    split_ifs at h ⊢
    · exact absurd h (by decide)
    · rfl
  have same : (fun c => (if isSeparator c then ' ' else c) == ' ') =
      (fun c => c == ' ' || isSeparator c) := by
    funext c
    cases isSeparator c with
    | true => simp
    | false => simp
  rw [text_eq, Text.splitOn_map ' ' _ keep, same, domainsOf]

/-- The network id is the upper half of the handle. -/
theorem netIdOf_handle (h : Handle) : netIdOf h.val = ((h.val >>> 32 : Nat) : Int) := by
  have lt : h.val >>> 32 < 2 ^ 31 := by
    have := h.property.2
    rw [Nat.shiftRight_eq_div_pow]
    omega
  rw [netIdOf, BitVec.toInt_eq_toNat_of_lt]
  · rw [BitVec.toNat_ofNat, Nat.mod_eq_of_lt (by omega)]
  · rw [BitVec.toNat_ofNat, Nat.mod_eq_of_lt (by omega)]
    omega

/-- A transport `transport` has no name for. -/
def unnamed : SdkTransport → Bool
  | .wifiAware | .lowpan => true
  | _ => false

/-- The name of a transport is read back, if it has one. -/
theorem transport_name (t : SdkTransport) :
    transport t.name.toList = if unnamed t then none else some t.value := by
  cases t <;> decide +kernel

/-- Transports come through exactly when all of them have a name. -/
theorem transports_iff (caps : Option NetworkCapabilities) :
    ((([','].intercalate ((emitted caps).map (·.name.toList))).splitOn ',').filterMap transport).map
        Transport.toInt = (emitted caps).map (·.value.toInt) ↔
      ∀ t ∈ emitted caps, unnamed t = false := by
  have comma : ∀ p ∈ (emitted caps).map (·.name.toList), ',' ∉ p := by
    intro p hp
    obtain ⟨t, -, rfl⟩ := List.mem_map.mp hp
    exact transport_name_chars t (by simp)
  have pieces : (([','].intercalate ((emitted caps).map (·.name.toList))).splitOn ',').filterMap
      transport = (emitted caps).filterMap (fun t => transport t.name.toList) := by
    rw [Text.filterMap_splitOn_of_not_mem ',' _ (by decide +kernel) comma, List.filterMap_map]
    rfl
  rw [pieces]
  constructor
  · intro eq t mem
    -- A transport without a name shortens the list.
    have len := congrArg List.length eq
    rw [List.length_map, List.length_map, List.filterMap_length_eq_length] at len
    have named := len t mem
    rw [transport_name] at named
    cases h : unnamed t with
    | false => rfl
    | true => simp [h] at named
  · intro named
    have values : (emitted caps).filterMap (fun t => transport t.name.toList) =
        (emitted caps).map SdkTransport.value := by
      rw [← List.filterMap_eq_map]
      apply List.filterMap_congr
      intro t mem
      rw [transport_name, named t mem]
      rfl
    rw [values, List.map_map]
    rfl

/-- A capability is reported exactly when it is granted. -/
theorem any_granted (caps : Option NetworkCapabilities) (k : SdkCapability) :
    (([','].intercalate ((granted caps).map (·.name.toList))).splitOn ',').any
        (fun entry => entry == k.name.toList) = hasCapability caps k := by
  have comma : ∀ p ∈ (granted caps).map (·.name.toList), ',' ∉ p := by
    intro p hp
    obtain ⟨c, -, rfl⟩ := List.mem_map.mp hp
    exact capability_name_chars c (by simp)
  have empty : ([] == k.name.toList) = false := by
    cases k <;> decide +kernel
  have listed : k ∈ SdkCapability.all := by
    cases k <;> decide
  -- No two capabilities share a name.
  have injective (c : SdkCapability) (eq : (c.name.toList == k.name.toList) = true) : c = k := by
    rw [beq_iff_eq, String.toList_inj] at eq
    cases c <;> cases k <;> simp [SdkCapability.name] at eq ⊢
  rw [Text.any_splitOn ',' _ empty comma, Bool.eq_iff_iff, List.any_eq_true]
  constructor
  · rintro ⟨name, mem, eq⟩
    obtain ⟨c, hc, rfl⟩ := List.mem_map.mp mem
    rw [← injective c eq]
    exact (List.mem_filter.mp hc).2
  · intro has
    refine ⟨k.name.toList, List.mem_map.mpr ⟨k, ?_, rfl⟩, beq_self_eq_true _⟩
    exact List.mem_filter.mpr ⟨listed, has⟩

/-- The granted capabilities are read back by their names. -/
theorem capabilitiesFrom_granted (caps : Option NetworkCapabilities) :
    capabilitiesFrom ([','].intercalate ((granted caps).map (·.name.toList))) =
      { internet := hasCapability caps .internet
        validated := hasCapability caps .validated
        captivePortal := hasCapability caps .captivePortal
        notRestricted := hasCapability caps .notRestricted
        notMetered := hasCapability caps .notMetered
        notRoaming := hasCapability caps .notRoaming
        notCongested := hasCapability caps .notCongested
        notSuspended := hasCapability caps .notSuspended
        notVpn := hasCapability caps .notVpn
        trusted := hasCapability caps .trusted
        foreground := hasCapability caps .foreground } := by
  simp only [← any_granted]
  rfl

/-! ### DNS servers -/

/-- A part of a scope that reads as an address of its own. -/
def ReadsAsAddress (piece : List Char) : Prop := ∃ ip, IpAddr.parse (unscoped piece) = some ip

/-- A piece that is no address is passed over. -/
theorem ipAddress_eq_none_iff (piece : List Char) :
    ipAddress piece = none ↔ ¬ ReadsAsAddress piece := by
  unfold ipAddress ReadsAsAddress
  split_ifs with empty
  · rw [List.isEmpty_iff] at empty
    simp [empty, IpAddr.parse_nil]
  · rw [Option.map_eq_none_iff, Option.eq_none_iff_forall_ne_some, not_exists]

/-- Only characters of addresses stand in a printed address. -/
theorem not_mem_presentation (s : InetAddress) {c : Char} (h : IpAddr.isAddressChar c = false) :
    c ∉ s.presentation.toList := by
  intro mem
  rw [IpAddr.parse_chars s.presents c mem] at h
  exact absurd h (by decide)

/-- The address is read back, whatever its scope. -/
theorem ipAddress_presentation (s : InetAddress) {text : List Char}
    (head : (text.splitOn '%').head? = some s.presentation.toList) :
    ipAddress text = some ⟨s.addr.octets⟩ := by
  have trimmed : unscoped text = s.presentation.toList := by
    rw [unscoped, List.headD_eq_head?_getD, head, Option.getD_some]
    apply Text.trim_of_forall
    intro c mem
    exact IpAddr.not_isWhitespace (IpAddr.parse_chars s.presents c mem)
  have ne : s.presentation.toList.isEmpty = false := by
    rw [List.isEmpty_eq_false_iff]
    intro empty
    have parsed := s.presents
    rw [empty, IpAddr.parse_nil] at parsed
    exact absurd parsed (by simp)
  rw [ipAddress, trimmed, ne, if_neg (by decide), s.presents, Option.map_some]

/-- The parts of a server's scope after its first comma. -/
def InetAddress.strays (s : InetAddress) : List (List Char) :=
  (s.scope.map (fun scope => (scope.toList.splitOn ',').tail)).getD []

/-- What comes back for a server: its address, and what its scope holds after a comma. -/
theorem filterMap_getHostAddress (s : InetAddress) :
    (s.getHostAddress.splitOn ',').filterMap ipAddress =
      ⟨s.addr.octets⟩ :: s.strays.filterMap ipAddress := by
  have comma : ',' ∉ s.presentation.toList := not_mem_presentation s (by decide)
  have percent : '%' ∉ s.presentation.toList := not_mem_presentation s (by decide)
  unfold InetAddress.getHostAddress InetAddress.strays
  cases s.scope with
  | none =>
    have alone : ipAddress s.presentation.toList = some ⟨s.addr.octets⟩ := by
      apply ipAddress_presentation
      rw [List.splitOn_eq_singleton percent, List.head?_cons]
    rw [Option.map_none, Option.getD_none, List.append_nil, List.splitOn_eq_singleton comma]
    simp [alone]
  -- A scope may have commas of its own, and each piece is read as an address.
  | some scope =>
    obtain ⟨first, rest, split⟩ := List.exists_cons_of_ne_nil (List.splitOn_ne_nil ',' scope.toList)
    have read : ipAddress (s.presentation.toList ++ '%' :: first) = some ⟨s.addr.octets⟩ := by
      apply ipAddress_presentation
      rw [List.splitOn_append_cons_self_of_not_mem percent, List.head?_cons]
    have sign : ('%' :: scope.toList).splitOn ',' = ('%' :: first) :: rest := by
      rw [List.splitOn_cons_eq_if_modifyHead, split]
      rfl
    rw [Option.map_some, Option.getD_some, Text.splitOn_append_of_not_mem comma sign,
      List.filterMap_cons, read, Option.map_some, Option.getD_some, split, List.tail_cons]

/-- DNS servers come through exactly when no scope holds another address. -/
theorem dnsServers_iff (servers : List InetAddress) :
    (([','].intercalate (servers.map InetAddress.getHostAddress)).splitOn ',').filterMap ipAddress =
        servers.map (fun s => ⟨s.addr.octets⟩) ↔
      ∀ s ∈ servers, ∀ piece ∈ s.strays, ¬ ReadsAsAddress piece := by
  rw [Text.filterMap_splitOn ',' _ (by decide), List.flatMap_map]
  simp only [filterMap_getHostAddress, ← ipAddress_eq_none_iff]
  rw [Text.flatMap_cons_eq_map_iff]
  simp only [List.filterMap_eq_nil_iff]

/-! ### Networks -/

/-- What comes through: every transport has a name, and no scope of a DNS server holds another
    address behind a comma. -/
structure Readable (n : Network) : Prop where
  transports : ∀ t ∈ emitted n.capabilities, unnamed t = false
  scopes : ∀ s ∈ n.link.dnsServers, ∀ piece ∈ s.strays, ¬ ReadsAsAddress piece

/-- What `parse_network` makes of a network's line. -/
def readBack (activeHandle : Nat) (n : Network) : AndroidNetwork where
  networkHandle := n.handle.val
  netId := netIdOf n.handle.val
  isDefault := n.handle.val != 0 && n.handle.val == activeHandle
  transports :=
    ((([','].intercalate ((emitted n.capabilities).map (·.name.toList))).splitOn ',').filterMap
      transport).map Transport.toInt
  capabilities :=
    some (capabilitiesFrom ([','].intercalate ((granted n.capabilities).map (·.name.toList))))
  linkProperties := some
    { interfaceName := String.ofList (text n.link.interfaceName)
      mtu := n.link.mtu.toInt
      privateDnsMode :=
        (if !(String.ofList (text n.link.privateDnsServerName)).isEmpty then PrivateDnsMode.strict
         else if n.link.privateDnsActive then .opportunistic
         else .off).toInt
      privateDnsServerName := String.ofList (text n.link.privateDnsServerName)
      privateDnsActive := n.link.privateDnsActive
      domains :=
        (((text n.link.domains).splitOn ' ').filter (fun d => !d.isEmpty)).map String.ofList
      dnsServers :=
        (([','].intercalate (n.link.dnsServers.map InetAddress.getHostAddress)).splitOn ',').filterMap
          ipAddress }

/-- **A line gives one network.** -/
theorem parseNetwork_networkFields (n : Network) (activeHandle : Nat) :
    parseNetwork (networkFields n).tail activeHandle = some (readBack activeHandle n) := by
  have handle : Text.parseUnsigned (2 ^ 64 - 1) (Text.decimal n.handle.val) = some n.handle.val := by
    apply Text.parseUnsigned_decimal
    have := n.handle.property.2
    omega
  have mtu : Text.parseSigned 31 (Text.decimal n.link.mtu.toInt) = some n.link.mtu.toInt :=
    Text.parseSigned_decimal n.link.mtu.le_toInt n.link.mtu.toInt_lt
  have active : (Text.decimal (if n.link.privateDnsActive then 1 else 0) == ['1']) =
      n.link.privateDnsActive := by
    cases n.link.privateDnsActive with
    | false => decide +kernel
    | true => decide +kernel
  unfold networkFields parseNetwork readBack
  simp only [List.tail_cons, List.getElem?_cons_zero, List.getElem?_cons_succ, Option.bind_some,
    Option.getD_some, handle, mtu, active, bind, pure]

/-- It is the network collected exactly when it is readable. -/
theorem conveys_readBack_iff (n : Network) (activeHandle : Nat) :
    Conveys activeHandle n (readBack activeHandle n) ↔ Readable n := by
  have isDefault : (n.handle.val != 0 && n.handle.val == activeHandle) =
      decide (n.handle.val = activeHandle) := by
    have pos : (n.handle.val != 0) = true := by
      rw [bne_iff_ne]
      exact Nat.pos_iff_ne_zero.mp n.handle.property.1
    rw [pos, Bool.true_and]
    rfl
  constructor
  · intro conveys
    obtain ⟨link, eq, same⟩ := conveys.link
    cases eq
    exact ⟨(transports_iff _).mp conveys.transports, (dnsServers_iff _).mp same.dnsServers⟩
  · intro readable
    refine ⟨rfl, netIdOf_handle n.handle, isDefault, (transports_iff _).mpr readable.transports,
      congrArg some (capabilitiesFrom_granted _), _, rfl, ?_⟩
    exact ⟨ofList_text _, rfl, rfl, ofList_text _, domains_text _,
      (dnsServers_iff _).mpr readable.scopes⟩

/-! ### The snapshot -/

/-- The fields of a network are split again at the tabs. -/
theorem splitOn_networkFields (n : Network) :
    (['\t'].intercalate (networkFields n)).splitOn '\t' = networkFields n :=
  List.splitOn_intercalate '\t' (networkFields_chars n (Or.inl rfl)) (by simp [networkFields])

/-- The fields of the header are split again at the tabs. -/
theorem splitOn_headerFields (c : ConnectivityManager) :
    (['\t'].intercalate (headerFields c)).splitOn '\t' = headerFields c :=
  List.splitOn_intercalate '\t' (headerFields_chars c (Or.inl rfl)) (by simp [headerFields])

/-- The line of a network is one network more. -/
theorem parseLine_network (acc : AndroidNetworkState × Bool) (n : Network) :
    parseLine acc (['\t'].intercalate (networkFields n)) =
      some ({ acc.1 with
        networks := acc.1.networks ++ [readBack acc.1.activeNetworkHandle n] }, acc.2) := by
  have read := parseNetwork_networkFields n acc.1.activeNetworkHandle
  unfold parseLine
  rw [splitOn_networkFields]
  unfold networkFields at read ⊢
  rw [List.tail_cons] at read
  simp only [read]

/-- The networks of the snapshot, one after the other. -/
theorem foldlM_networks (networks : List Network) (acc : AndroidNetworkState × Bool) :
    (networks.map (fun n => ['\t'].intercalate (networkFields n))).foldlM parseLine acc =
      some ({ acc.1 with
        networks := acc.1.networks ++ networks.map (readBack acc.1.activeNetworkHandle) },
        acc.2) := by
  induction networks generalizing acc with
  | nil => simp
  | cons n networks ih =>
    rw [List.map_cons, List.foldlM_cons, parseLine_network]
    simp only [bind, Option.bind_some, ih]
    simp

/-- The header says which network is active, and adds none. -/
theorem parseLine_header (c : ConnectivityManager) (state : AndroidNetworkState) :
    ∃ state', parseLine (state, false) (['\t'].intercalate (headerFields c)) = some (state', true) ∧
      state'.networks = state.networks ∧ state'.activeNetworkHandle = c.activeHandle := by
  have sdk : Text.parseSigned 31 (Text.decimal c.sdkInt.toInt) = some c.sdkInt.toInt :=
    Text.parseSigned_decimal c.sdkInt.le_toInt c.sdkInt.toInt_lt
  have active : Text.parseUnsigned (2 ^ 64 - 1) (Text.decimal c.activeHandle) =
      some c.activeHandle := by
    apply Text.parseUnsigned_decimal
    unfold ConnectivityManager.activeHandle
    cases c.activeNetwork with
    | none => simp
    | some h =>
      have := h.property.2
      simp only [Option.map_some, Option.getD_some]
      omega
  unfold parseLine
  rw [splitOn_headerFields]
  unfold headerFields
  simp only [List.getElem?_cons_zero, List.getElem?_cons_succ, Option.bind_some, sdk, active, bind,
    ne_eq, not_true_eq_false, if_false]
  exact ⟨_, rfl, rfl, rfl⟩

/-- The snapshot is accepted, with one network for every network. -/
theorem parseFrameworkSnapshot_collect (c : ConnectivityManager) (now : Int) :
    ∃ state, parseFrameworkSnapshot now (collectNetworkSnapshot c) = some state ∧
      state.networks = c.allNetworks.map (readBack c.activeHandle) := by
  obtain ⟨state, header, none_, active⟩ := parseLine_header c { capturedAtUnixMs := now }
  refine ⟨{ state with
    networks := c.allNetworks.map (readBack c.activeHandle)
    activeNetworkHandle := c.activeHandle }, ?_, rfl⟩
  unfold parseFrameworkSnapshot
  rw [lines_collectNetworkSnapshot, List.map_cons, List.map_map, List.foldlM_cons, header]
  have rest := foldlM_networks c.allNetworks (state, true)
  simp only [none_, active, List.nil_append] at rest
  simp only [bind, Option.bind_some]
  rw [show (fun n => ['\t'].intercalate n) ∘ networkFields =
    fun n => ['\t'].intercalate (networkFields n) from rfl, rest]
  rfl

/-- **When the snapshot comes through.**  What Java collects, Rust reads as the same networks in
    the same order exactly when no network has a transport `transport` does not name and no
    scope of a DNS server holds an address behind a comma. -/
theorem snapshot_iff (c : ConnectivityManager) (now : Int) :
    (∃ state, parseFrameworkSnapshot now (collectNetworkSnapshot c) = some state ∧
      List.Forall₂ (Conveys c.activeHandle) c.allNetworks state.networks) ↔
    ∀ n ∈ c.allNetworks, Readable n := by
  obtain ⟨state, parsed, networks⟩ := parseFrameworkSnapshot_collect c now
  have same : List.Forall₂ (Conveys c.activeHandle) c.allNetworks state.networks ↔
      ∀ n ∈ c.allNetworks, Readable n := by
    rw [networks, List.forall₂_map_right_iff, List.forall₂_same]
    simp only [conveys_readBack_iff]
  rw [← same]
  constructor
  · rintro ⟨state', parsed', conveys⟩
    rw [parsed, Option.some.injEq] at parsed'
    rw [parsed']
    exact conveys
  · intro conveys
    exact ⟨state, parsed, conveys⟩

/-- A Wi-Fi Aware network. -/
def wifiAware : ConnectivityManager where
  sdkInt := 35
  activeNetwork := none
  restrictBackgroundStatus := 1
  allNetworks :=
    [{ handle := ⟨432902426637, by decide⟩
       capabilities := some { hasTransport := fun t => t == .wifiAware } }]

/-- Its transport, number six on the wire, gets lost. -/
theorem wifiAware_lost :
    ¬ ∀ (c : ConnectivityManager) (now : Int),
      ∃ state, parseFrameworkSnapshot now (collectNetworkSnapshot c) = some state ∧
        List.Forall₂ (Conveys c.activeHandle) c.allNetworks state.networks := by
  intro all
  obtain ⟨state, parsed, conveys⟩ := all wifiAware 0
  obtain ⟨state', parsed', networks⟩ := parseFrameworkSnapshot_collect wifiAware 0
  rw [parsed, Option.some.injEq] at parsed'
  rw [parsed', networks] at conveys
  obtain ⟨first, -⟩ := List.forall₂_cons.mp conveys
  have named := ((conveys_readBack_iff _ _).mp first).transports .wifiAware (by decide)
  exact absurd named (by decide)

end Netdiag.Platform
