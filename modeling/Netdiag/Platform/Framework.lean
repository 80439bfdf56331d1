import Netdiag.Net.AddrText

namespace Netdiag.Platform

/-!
# Framework snapshot — the Java side

`NetdiagFramework.java`: everything the framework knows of its networks, as text of one header
line and one line per network.

* `ConnectivityManager`, `Network` — what the SDK answers; link properties and capabilities may
  be null.
* `collectNetworkSnapshot` — the text, appended as the source does it.
* `collectNetworkSnapshot_eq` — the same text as lines of joined fields; `networkFields_chars`
  says that no field holds a separator.
-/

/-! ### What the SDK answers -/

/-- The transports the class asks for, `NetworkCapabilities.TRANSPORT_*`. -/
inductive SdkTransport
  | cellular
  | wifi
  | bluetooth
  | ethernet
  | vpn
  | wifiAware
  | lowpan
  | usb
  deriving DecidableEq, Repr

namespace SdkTransport

/-- The name the class chose. -/
def name : SdkTransport → String
  | .cellular => "CELLULAR"
  | .wifi => "WIFI"
  | .bluetooth => "BLUETOOTH"
  | .ethernet => "ETHERNET"
  | .vpn => "VPN"
  | .wifiAware => "WIFI_AWARE"
  | .lowpan => "LOWPAN"
  | .usb => "USB"

/-- In the order of `appendTransports`. -/
def all : List SdkTransport :=
  [.cellular, .wifi, .bluetooth, .ethernet, .vpn, .wifiAware, .lowpan, .usb]

end SdkTransport

/-- The capabilities the class asks for, `NetworkCapabilities.NET_CAPABILITY_*`. -/
inductive SdkCapability
  | internet
  | validated
  | captivePortal
  | notRestricted
  | notMetered
  | notRoaming
  | notCongested
  | notSuspended
  | notVpn
  | trusted
  | foreground
  deriving DecidableEq, Repr

namespace SdkCapability

/-- The name the class chose. -/
def name : SdkCapability → String
  | .internet => "INTERNET"
  | .validated => "VALIDATED"
  | .captivePortal => "CAPTIVE_PORTAL"
  | .notRestricted => "NOT_RESTRICTED"
  | .notMetered => "NOT_METERED"
  | .notRoaming => "NOT_ROAMING"
  | .notCongested => "NOT_CONGESTED"
  | .notSuspended => "NOT_SUSPENDED"
  | .notVpn => "NOT_VPN"
  | .trusted => "TRUSTED"
  | .foreground => "FOREGROUND"

/-- In the order of `appendCapabilities`. -/
def all : List SdkCapability :=
  [.internet, .validated, .captivePortal, .notRestricted, .notMetered, .notRoaming, .notCongested,
    .notSuspended, .notVpn, .trusted, .foreground]

end SdkCapability

/-- `NetworkCapabilities`. -/
structure NetworkCapabilities where
  hasTransport : SdkTransport → Bool := fun _ => false
  hasCapability : SdkCapability → Bool := fun _ => false

/-- `InetAddress`.  The platform chooses how it writes the address; a scope is a number or the
    name of an interface, which has no tabs and no line ends. -/
structure InetAddress where
  addr : IpAddr
  presentation : String
  presents : IpAddr.parse presentation.toList = some addr
  scope : Option String := none
  scope_chars : ∀ s ∈ scope, '\t' ∉ s.toList ∧ '\n' ∉ s.toList ∧ '\r' ∉ s.toList := by simp

/-- `InetAddress.getHostAddress`: the address, and the scope after a percent sign. -/
def InetAddress.getHostAddress (a : InetAddress) : List Char :=
  a.presentation.toList ++ (a.scope.map (fun s => '%' :: s.toList)).getD []

/-- `LinkProperties`. -/
structure LinkProperties where
  interfaceName : Option String := none
  mtu : Int32 := 0
  privateDnsActive : Bool := false
  privateDnsServerName : Option String := none
  domains : Option String := none
  dnsServers : List InetAddress := []

/-- `Network.getNetworkHandle()`: a positive `long`. -/
abbrev Handle := { h : Nat // 0 < h ∧ h < 2 ^ 63 }

/-- `Network`, with what the connectivity manager says of it. -/
structure Network where
  handle : Handle
  capabilities : Option NetworkCapabilities := none
  linkProperties : Option LinkProperties := none

/-- `ConnectivityManager`. -/
structure ConnectivityManager where
  sdkInt : Int32
  activeNetwork : Option Handle
  restrictBackgroundStatus : Int32
  allNetworks : List Network

/-- `activeHandle`, zero without an active network. -/
def ConnectivityManager.activeHandle (c : ConnectivityManager) : Nat :=
  (c.activeNetwork.map (·.val)).getD 0

/-! ### The text -/

/-- A character that separates fields, lines or list elements: `FIELD`, `RECORD`, `LIST`. -/
def isSeparator (c : Char) : Bool := c == '\t' || c == '\n' || c == ','

/-- `String.replace` of a character. -/
def replace (old new : Char) (s : List Char) : List Char := s.map (fun c => if c = old then new else c)

/-- `text`: never null, and never containing a separator. -/
def text (value : Option String) : List Char :=
  match value with
  | none => []
  | some value => replace ',' ' ' (replace '\n' ' ' (replace '\t' ' ' value.toList))

/-- `appendIf`, on what a list has so far and its count. -/
def appendIf (out : List Char × Nat) (present : Bool) (name : List Char) : List Char × Nat :=
  if !present then out
  else ((if 0 < out.2 then out.1 ++ [','] else out.1) ++ name, out.2 + 1)

/-- `appendTransports`. -/
def appendTransports (caps : Option NetworkCapabilities) : List Char :=
  match caps with
  | none => []
  | some caps =>
    (SdkTransport.all.foldl (fun out t => appendIf out (caps.hasTransport t) t.name.toList)
      ([], 0)).1

/-- `appendCapabilities`. -/
def appendCapabilities (caps : Option NetworkCapabilities) : List Char :=
  match caps with
  | none => []
  | some caps =>
    (SdkCapability.all.foldl (fun out c => appendIf out (caps.hasCapability c) c.name.toList)
      ([], 0)).1

/-- `appendDnsServers`. -/
def appendDnsServers (servers : List InetAddress) : List Char :=
  (servers.foldl (fun out s => appendIf out true s.getHostAddress) ([], 0)).1

/-- `appendNetwork`. -/
def appendNetwork (network : Network) : List Char :=
  ['N'] ++ ['\t'] ++ Text.decimal network.handle.val ++ ['\t'] ++
    appendTransports network.capabilities ++ ['\t'] ++
    appendCapabilities network.capabilities ++ ['\t'] ++
    match network.linkProperties with
    | none =>
      ['\t'] ++ Text.decimal 0 ++ ['\t'] ++ Text.decimal 0 ++ ['\t'] ++ ['\t'] ++ ['\t'] ++ ['\n']
    | some link =>
      text link.interfaceName ++ ['\t'] ++ Text.decimal link.mtu.toInt ++ ['\t'] ++
        Text.decimal (if link.privateDnsActive then 1 else 0) ++ ['\t'] ++
        text link.privateDnsServerName ++ ['\t'] ++ text link.domains ++ ['\t'] ++
        appendDnsServers link.dnsServers ++ ['\n']

/-- `collectNetworkSnapshot`. -/
def collectNetworkSnapshot (c : ConnectivityManager) : List Char :=
  ['V'] ++ ['\t'] ++ ['1'] ++ ['\t'] ++ Text.decimal c.sdkInt.toInt ++ ['\t'] ++
    Text.decimal c.activeHandle ++ ['\t'] ++ Text.decimal c.restrictBackgroundStatus.toInt ++
    ['\n'] ++ c.allNetworks.flatMap appendNetwork

/-! ### Lines and fields -/

/-- The transports a network has. -/
def emitted (caps : Option NetworkCapabilities) : List SdkTransport :=
  SdkTransport.all.filter (fun t => (caps.map (·.hasTransport t)).getD false)

/-- The capabilities a network has. -/
def granted (caps : Option NetworkCapabilities) : List SdkCapability :=
  SdkCapability.all.filter (fun c => (caps.map (·.hasCapability c)).getD false)

/-- Link properties of a network that has none. -/
def Network.link (n : Network) : LinkProperties := n.linkProperties.getD {}

/-- The fields of a network's line. -/
def networkFields (n : Network) : List (List Char) :=
  [['N'], Text.decimal n.handle.val,
   [','].intercalate ((emitted n.capabilities).map (·.name.toList)),
   [','].intercalate ((granted n.capabilities).map (·.name.toList)),
   text n.link.interfaceName, Text.decimal n.link.mtu.toInt,
   Text.decimal (if n.link.privateDnsActive then 1 else 0),
   text n.link.privateDnsServerName, text n.link.domains,
   [','].intercalate (n.link.dnsServers.map InetAddress.getHostAddress)]

/-- The fields of the header. -/
def headerFields (c : ConnectivityManager) : List (List Char) :=
  [['V'], ['1'], Text.decimal c.sdkInt.toInt, Text.decimal c.activeHandle,
   Text.decimal c.restrictBackgroundStatus.toInt]

/-- The loop with its separator joins the names of what is present. -/
theorem foldl_appendIf {α : Type} (present : α → Bool) (name : α → List Char) (l : List α)
    (pieces : List (List Char)) :
    l.foldl (fun out x => appendIf out (present x) (name x))
        ([','].intercalate pieces, pieces.length) =
      ([','].intercalate (pieces ++ (l.filter present).map name),
        (pieces ++ (l.filter present).map name).length) := by
  induction l generalizing pieces with
  | nil => simp
  | cons x l ih =>
    rw [List.foldl_cons]
    cases hx : present x with
    | false =>
      have skip : appendIf ([','].intercalate pieces, pieces.length) false (name x) =
          ([','].intercalate pieces, pieces.length) := rfl
      rw [skip, ih, List.filter_cons, hx, if_neg (by decide)]
    | true =>
      -- The comma goes before every name but the first.
      have append : appendIf ([','].intercalate pieces, pieces.length) true (name x) =
          ([','].intercalate (pieces ++ [name x]), (pieces ++ [name x]).length) := by
        unfold appendIf
        cases pieces with
        | nil => simp
        | cons p ps =>
          rw [Text.intercalate_concat (name x) (List.cons_ne_nil p ps)]
          simp
      rw [append, ih, List.filter_cons, hx, if_pos rfl, List.map_cons, List.append_assoc,
        List.singleton_append]

/-- A list is its names joined by commas. -/
theorem foldl_appendIf_nil {α : Type} (present : α → Bool) (name : α → List Char) (l : List α) :
    (l.foldl (fun out x => appendIf out (present x) (name x)) ([], 0)).1 =
      [','].intercalate ((l.filter present).map name) := by
  have h := foldl_appendIf present name l []
  simp only [List.intercalate_nil, List.length_nil, List.nil_append] at h
  rw [h]

/-- The transports are the names of those the network has, joined. -/
theorem appendTransports_eq (caps : Option NetworkCapabilities) :
    appendTransports caps = [','].intercalate ((emitted caps).map (·.name.toList)) := by
  cases caps with
  | none => rfl
  | some caps => exact foldl_appendIf_nil caps.hasTransport (·.name.toList) SdkTransport.all

/-- The capabilities are the names of those it was granted, joined. -/
theorem appendCapabilities_eq (caps : Option NetworkCapabilities) :
    appendCapabilities caps = [','].intercalate ((granted caps).map (·.name.toList)) := by
  cases caps with
  | none => rfl
  | some caps => exact foldl_appendIf_nil caps.hasCapability (·.name.toList) SdkCapability.all

/-- The servers are their addresses, joined. -/
theorem appendDnsServers_eq (servers : List InetAddress) :
    appendDnsServers servers = [','].intercalate (servers.map InetAddress.getHostAddress) := by
  have h := foldl_appendIf_nil (fun _ => true) InetAddress.getHostAddress servers
  rw [List.filter_true] at h
  exact h

/-- **Both branches write the same ten fields.** -/
theorem appendNetwork_eq (n : Network) :
    appendNetwork n = ['\t'].intercalate (networkFields n) ++ ['\n'] := by
  unfold appendNetwork networkFields Network.link
  rw [appendTransports_eq, appendCapabilities_eq]
  cases n.linkProperties with
  | none => simp [List.intercalate_cons_cons, text]
  | some link => simp [List.intercalate_cons_cons, appendDnsServers_eq]

/-- The text is one line for the header and one for each network. -/
theorem collectNetworkSnapshot_eq (c : ConnectivityManager) :
    collectNetworkSnapshot c =
      ((headerFields c :: c.allNetworks.map networkFields).map
        (['\t'].intercalate ·)).flatMap (· ++ ['\n']) := by
  have networks : c.allNetworks.flatMap appendNetwork =
      ((c.allNetworks.map networkFields).map (['\t'].intercalate ·)).flatMap (· ++ ['\n']) := by
    rw [List.map_map, List.flatMap_map]
    exact List.flatMap_congr (fun n _ => appendNetwork_eq n)
  unfold collectNetworkSnapshot
  rw [networks, List.map_cons, List.flatMap_cons]
  simp [headerFields, List.intercalate_cons_cons]

/-! ### No separator inside a field -/

/-- What is replaced by a blank is gone. -/
theorem not_mem_replace_self {old : Char} (blank : old ≠ ' ') (s : List Char) :
    old ∉ replace old ' ' s := by
  intro mem
  obtain ⟨d, -, eq⟩ := List.mem_map.mp mem
  split_ifs at eq with h
  · exact blank eq.symm
  · exact h eq

/-- A replacement by a blank brings nothing else in. -/
theorem not_mem_replace (old : Char) {d : Char} (blank : d ≠ ' ') {s : List Char} (h : d ∉ s) :
    d ∉ replace old ' ' s := by
  intro mem
  obtain ⟨e, he, eq⟩ := List.mem_map.mp mem
  split_ifs at eq
  · exact blank eq.symm
  · exact h (eq ▸ he)

/-- A text field holds no separator. -/
theorem text_chars (value : Option String) {c : Char} (sep : c = '\t' ∨ c = '\n' ∨ c = ',') :
    c ∉ text value := by
  cases value with
  | none => simp [text]
  | some value =>
    unfold text
    rcases sep with rfl | rfl | rfl
    · exact not_mem_replace _ (by decide)
        (not_mem_replace _ (by decide) (not_mem_replace_self (by decide) _))
    · exact not_mem_replace _ (by decide) (not_mem_replace_self (by decide) _)
    · exact not_mem_replace_self (by decide) _

/-- A printed address holds no separator. -/
theorem getHostAddress_chars (a : InetAddress) {c : Char} (h : c = '\t' ∨ c = '\n' ∨ c = '\r') :
    c ∉ a.getHostAddress := by
  have presentation : c ∉ a.presentation.toList := by
    intro mem
    have accepted := IpAddr.parse_chars a.presents c mem
    rcases h with rfl | rfl | rfl
    · exact absurd accepted (by decide)
    · exact absurd accepted (by decide)
    · exact absurd accepted (by decide)
  unfold InetAddress.getHostAddress
  rw [List.mem_append, not_or]
  refine ⟨presentation, ?_⟩
  cases scope : a.scope with
  | none => simp
  | some s =>
    obtain ⟨tab, feed, cr⟩ := a.scope_chars s scope
    rw [Option.map_some, Option.getD_some, List.mem_cons, not_or]
    rcases h with rfl | rfl | rfl
    · exact ⟨by decide, tab⟩
    · exact ⟨by decide, feed⟩
    · exact ⟨by decide, cr⟩

/-- A name without separators, from a test that can be run. -/
theorem not_mem_of_any_isSeparator {name : List Char} (none_ : name.any isSeparator = false)
    {c : Char} (h : c = '\t' ∨ c = '\n' ∨ c = ',') : c ∉ name := by
  have sep : isSeparator c = true := by
    rcases h with rfl | rfl | rfl
    · decide
    · decide
    · decide
  intro mem
  have := List.any_eq_false.mp none_ c mem
  exact this sep

/-- A number holds no separator. -/
theorem decimal_chars (n : Int) {c : Char} (h : c = '\t' ∨ c = '\n') : c ∉ Text.decimal n := by
  rcases h with rfl | rfl
  · exact Text.not_mem_decimal (by decide) (by decide)
  · exact Text.not_mem_decimal (by decide) (by decide)

/-- The name of a transport holds no separator. -/
theorem transport_name_chars (t : SdkTransport) {c : Char} (h : c = '\t' ∨ c = '\n' ∨ c = ',') :
    c ∉ t.name.toList := by
  have none_ : t.name.toList.any isSeparator = false := by
    cases t <;> decide +kernel
  exact not_mem_of_any_isSeparator none_ h

/-- The name of a capability holds no separator. -/
theorem capability_name_chars (k : SdkCapability) {c : Char} (h : c = '\t' ∨ c = '\n' ∨ c = ',') :
    c ∉ k.name.toList := by
  have none_ : k.name.toList.any isSeparator = false := by
    cases k <;> decide +kernel
  exact not_mem_of_any_isSeparator none_ h

/-- **No field holds a separator of fields or lines.** -/
theorem networkFields_chars (n : Network) {c : Char} (h : c = '\t' ∨ c = '\n') :
    ∀ f ∈ networkFields n, c ∉ f := by
  -- The fields that are lists have commas, and no other separator.
  have comma : c ≠ ',' := by
    rcases h with rfl | rfl
    · decide
    · decide
  have sep : c = '\t' ∨ c = '\n' ∨ c = ',' := by tauto
  have tag : c ∉ ['N'] := by
    rcases h with rfl | rfl
    · decide
    · decide
  have transports : c ∉ [','].intercalate ((emitted n.capabilities).map (·.name.toList)) := by
    apply Text.not_mem_intercalate comma
    intro p hp
    obtain ⟨t, -, rfl⟩ := List.mem_map.mp hp
    exact transport_name_chars t sep
  have capabilities : c ∉ [','].intercalate ((granted n.capabilities).map (·.name.toList)) := by
    apply Text.not_mem_intercalate comma
    intro p hp
    obtain ⟨k, -, rfl⟩ := List.mem_map.mp hp
    exact capability_name_chars k sep
  have servers : c ∉ [','].intercalate (n.link.dnsServers.map InetAddress.getHostAddress) := by
    apply Text.not_mem_intercalate comma
    intro p hp
    obtain ⟨a, -, rfl⟩ := List.mem_map.mp hp
    exact getHostAddress_chars a (by tauto)
  simp only [networkFields, List.forall_mem_cons, List.not_mem_nil, false_implies, implies_true,
    and_true]
  exact ⟨tag, decimal_chars _ h, transports, capabilities, text_chars _ sep, decimal_chars _ h,
    decimal_chars _ h, text_chars _ sep, text_chars _ sep, servers⟩

/-- No field of the header holds a separator. -/
theorem headerFields_chars (m : ConnectivityManager) {c : Char} (h : c = '\t' ∨ c = '\n') :
    ∀ f ∈ headerFields m, c ∉ f := by
  have tag : c ∉ ['V'] ∧ c ∉ ['1'] := by
    rcases h with rfl | rfl
    · decide
    · decide
  simp only [headerFields, List.forall_mem_cons, List.not_mem_nil, false_implies, implies_true,
    and_true]
  exact ⟨tag.1, tag.2, decimal_chars _ h, decimal_chars _ h, decimal_chars _ h⟩

/-- A line of the snapshot ends in its last field, which has no carriage return. -/
theorem networkFields_getLast (n : Network) :
    (['\t'].intercalate (networkFields n)).getLast? ≠ some '\r' := by
  have servers : '\r' ∉ [','].intercalate (n.link.dnsServers.map InetAddress.getHostAddress) := by
    apply Text.not_mem_intercalate (by decide)
    intro p hp
    obtain ⟨a, -, rfl⟩ := List.mem_map.mp hp
    exact getHostAddress_chars a (by tauto)
  have ne : (networkFields n).dropLast ≠ [] := by simp [networkFields]
  exact Text.getLast?_intercalate_concat (by decide) ne servers

/-- The header does not end in a carriage return. -/
theorem headerFields_getLast (m : ConnectivityManager) :
    (['\t'].intercalate (headerFields m)).getLast? ≠ some '\r' := by
  have status : '\r' ∉ Text.decimal m.restrictBackgroundStatus.toInt :=
    Text.not_mem_decimal (by decide) (by decide)
  have ne : (headerFields m).dropLast ≠ [] := by simp [headerFields]
  exact Text.getLast?_intercalate_concat (by decide) ne status

/-- The lines of the snapshot. -/
theorem lines_collectNetworkSnapshot (c : ConnectivityManager) :
    Text.lines (collectNetworkSnapshot c) =
      (headerFields c :: c.allNetworks.map networkFields).map (['\t'].intercalate ·) := by
  rw [collectNetworkSnapshot_eq]
  apply Text.lines_flatMap
  · intro l hl
    obtain ⟨fields, mem, rfl⟩ := List.mem_map.mp hl
    apply Text.not_mem_intercalate (by decide)
    rcases List.mem_cons.mp mem with rfl | mem
    · exact headerFields_chars c (by simp)
    · obtain ⟨n, -, rfl⟩ := List.mem_map.mp mem
      exact networkFields_chars n (by simp)
  · intro l hl
    obtain ⟨fields, mem, rfl⟩ := List.mem_map.mp hl
    rcases List.mem_cons.mp mem with rfl | mem
    · exact headerFields_getLast c
    · obtain ⟨n, -, rfl⟩ := List.mem_map.mp mem
      exact networkFields_getLast n

end Netdiag.Platform
