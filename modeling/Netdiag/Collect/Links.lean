import Netdiag.Capture.Socket

namespace Netdiag.Collect

/-!
# Collect — kinds of interfaces

`classify_link` of `daemon/src/collect/links.rs`, beside the capture path's own guess from the
name, `link_type_for`.

* `classifyLink` — the kind of an interface from its name, its ARPHRD type, the kernel's name
  for its driver and its flags.
* `framing_agrees_iff` — when an interface that the collector takes for one of bare IP packets
  is captured as one.

The two lists of names are kept apart, and only the collector sees the driver.
-/

open Netdiag.Capture (LinkType linkTypeFor)

/-- `LinkLayerType`, the ARPHRD types that are told apart. -/
inductive LinkLayerType
  | ether
  | loopback
  | ieee80211
  | rawip
  | none
  | other (type : BitVec 16)
  deriving DecidableEq, Repr

/-- `LinkFlags::Loopback`. -/
def loopbackFlag : BitVec 32 := 0x8

/-- The drivers of tunnels. -/
def tunnelKinds : List String := ["tun", "wireguard", "ppp", "ipip", "ip6tnl"]

/-- `classify_link`. -/
def classifyLink (name : String) (llType : LinkLayerType) (infoKind : Option String)
    (flags : BitVec 32) : LinkKind :=
  if flags &&& loopbackFlag ≠ 0 ∨ llType = .loopback then .loopback
  -- clat is implemented as a tun device, so this comes before the driver.
  else if name.startsWith "v4-" then .clat
  else if ∃ k ∈ tunnelKinds, infoKind = some k then .vpnTun
  else if infoKind = some "bridge" then .bridge
  else if infoKind = some "dummy" then .dummy
  else if llType = .ieee80211 ∨ name.startsWith "wlan" ∨ name.startsWith "ap_" then .wifi
  else if name.startsWith "rmnet" ∨ name.startsWith "ccmni" ∨ name.startsWith "pdp" ∨
      name.startsWith "seth" ∨ name.startsWith "wwan" ∨ llType = .rawip then .cellular
  else if name.startsWith "tun" ∨ name.startsWith "tap" ∨ name.startsWith "ppp" then .vpnTun
  else if name.startsWith "bt-" ∨ name.startsWith "bnep" then .bluetooth
  else if llType = .ether then .ethernet
  else .other

/-- The kinds of interfaces that carry IP packets without a link header, if their type says
    so. -/
def LinkKind.carriesIp (kind : LinkKind) : Prop :=
  kind = .cellular ∨ kind = .clat ∨ kind = .vpnTun

/-- An interface of bare IP packets, by type and kind, is captured as one. -/
def FramingAgrees (name : String) (llType : LinkLayerType) (infoKind : Option String)
    (flags : BitVec 32) : Prop :=
  (llType = .rawip ∨ llType = .none) →
    LinkKind.carriesIp (classifyLink name llType infoKind flags) → linkTypeFor name = .raw

/-- The names the capture path knows. -/
def rawNames : List String := ["rmnet", "ccmni", "pdp", "tun", "v4-", "ppp"]

/-- The collector has another reason than the name: a tunnel's driver; or, without the driver or
    the name of something else, one of the names the capture path does not know, or the type of
    a cellular interface. -/
def OtherReason (name : String) (llType : LinkLayerType) (infoKind : Option String) : Prop :=
  (∃ k ∈ tunnelKinds, infoKind = some k) ∨
    infoKind ≠ some "bridge" ∧ infoKind ≠ some "dummy" ∧
      name.startsWith "wlan" = false ∧ name.startsWith "ap_" = false ∧
      (name.startsWith "seth" = true ∨ name.startsWith "wwan" = true ∨
        name.startsWith "tap" = true ∨ llType = .rawip)

section Framing

variable {name : String} {llType : LinkLayerType} {infoKind : Option String} {flags : BitVec 32}

theorem linkTypeFor_eq_raw :
    linkTypeFor name = .raw ↔ ∃ p ∈ rawNames, name.startsWith p = true := by
  unfold linkTypeFor
  rw [← List.any_eq_true]
  show (if rawNames.any (name.startsWith ·) = true then LinkType.raw else .ethernet) = .raw ↔ _
  split
  · rename_i hraw
    simp [hraw]
  · rename_i hraw
    simp [hraw]

/-- Away from the names of the capture path, the collector needs another reason. -/
theorem carriesIp_iff (hother : ∀ p ∈ rawNames, name.startsWith p = false)
    (hll : llType = .rawip ∨ llType = .none) :
    LinkKind.carriesIp (classifyLink name llType infoKind flags) ↔
      flags &&& loopbackFlag = 0 ∧ OtherReason name llType infoKind := by
  have hloop : llType ≠ .loopback := by rcases hll with rfl | rfl <;> decide
  have hwifi : llType ≠ .ieee80211 := by rcases hll with rfl | rfl <;> decide
  have hether : llType ≠ .ether := by rcases hll with rfl | rfl <;> decide
  have hname : ∀ p ∈ rawNames, ¬ name.startsWith p = true := by
    intro p hp
    rw [hother p hp]
    decide
  have hrmnet := hname "rmnet" (by decide)
  have hccmni := hname "ccmni" (by decide)
  have hpdp := hname "pdp" (by decide)
  have htun := hname "tun" (by decide)
  have hv4 := hname "v4-" (by decide)
  have hppp := hname "ppp" (by decide)
  unfold classifyLink OtherReason LinkKind.carriesIp
  simp only [hloop, hwifi, hether, hrmnet, hccmni, hpdp, htun, hv4, hppp, or_false, false_or,
    if_false, Bool.false_eq_true]
  by_cases hflag : flags &&& loopbackFlag = 0
  swap
  · rw [if_pos hflag]
    exact iff_of_false (by decide) fun h => hflag h.1
  rw [if_neg (not_not.mpr hflag), and_iff_right hflag]
  by_cases htunnel : ∃ k ∈ tunnelKinds, infoKind = some k
  · rw [if_pos htunnel]
    exact iff_of_true (by decide) (.inl htunnel)
  rw [if_neg htunnel, or_iff_right htunnel]
  by_cases hbridge : infoKind = some "bridge"
  · rw [if_pos hbridge]
    exact iff_of_false (by decide) fun h => h.1 hbridge
  rw [if_neg hbridge, and_iff_right hbridge]
  by_cases hdummy : infoKind = some "dummy"
  · rw [if_pos hdummy]
    exact iff_of_false (by decide) fun h => h.1 hdummy
  rw [if_neg hdummy, and_iff_right hdummy]
  by_cases hwlan : name.startsWith "wlan" = true ∨ name.startsWith "ap_" = true
  · rw [if_pos hwlan]
    refine iff_of_false (by decide) fun h => ?_
    rcases hwlan with hwlan | hap
    · exact Bool.false_ne_true (h.1.symm.trans hwlan)
    · exact Bool.false_ne_true (h.2.1.symm.trans hap)
  have hnotWifi : name.startsWith "wlan" = false ∧ name.startsWith "ap_" = false := by
    rw [← Bool.not_eq_true, ← Bool.not_eq_true]
    exact not_or.mp hwlan
  rw [if_neg hwlan, and_iff_right hnotWifi.1, and_iff_right hnotWifi.2]
  -- What is left is decided by the three names and the type.
  by_cases hcell : name.startsWith "seth" = true ∨ name.startsWith "wwan" = true ∨ llType = .rawip
  · rw [if_pos hcell]
    refine iff_of_true (by decide) ?_
    rcases hcell with hseth | hwwan | hrawip
    · exact .inl hseth
    · exact .inr (.inl hwwan)
    · exact .inr (.inr (.inr hrawip))
  rw [if_neg hcell]
  by_cases htap : name.startsWith "tap" = true
  · rw [if_pos htap]
    exact iff_of_true (by decide) (.inr (.inr (.inl htap)))
  rw [if_neg htap]
  refine iff_of_false (by split <;> decide) ?_
  rintro (hseth | hwwan | hap | hrawip)
  · exact hcell (.inl hseth)
  · exact hcell (.inr (.inl hwwan))
  · exact htap hap
  · exact hcell (.inr (.inr hrawip))

/-- **The two guesses agree** exactly when the name is one the capture path knows or the collector
    has no other reason to take the interface for one of bare IP packets. -/
theorem framing_agrees_iff (name : String) (llType : LinkLayerType) (infoKind : Option String)
    (flags : BitVec 32) :
    FramingAgrees name llType infoKind flags ↔
      ((llType = .rawip ∨ llType = .none) → flags &&& loopbackFlag = 0 →
        OtherReason name llType infoKind → ∃ p ∈ rawNames, name.startsWith p = true) := by
  unfold FramingAgrees
  rw [linkTypeFor_eq_raw]
  by_cases hraw : ∃ p ∈ rawNames, name.startsWith p = true
  · exact iff_of_true (fun _ _ => hraw) fun _ _ _ => hraw
  have hother : ∀ p ∈ rawNames, name.startsWith p = false := by
    intro p hp
    rw [Bool.eq_false_iff]
    exact fun h => hraw ⟨p, hp, h⟩
  constructor
  · intro h hll hflag hreason
    exact h hll ((carriesIp_iff hother hll).mpr ⟨hflag, hreason⟩)
  · intro h hll hcarries
    obtain ⟨hflag, hreason⟩ := (carriesIp_iff hother hll).mp hcarries
    exact h hll hflag hreason

/-- A WireGuard tunnel and a modem's interface are of bare IP packets for the collector and
    Ethernet for a capture. -/
theorem framing_disagrees :
    classifyLink "wg0" .none (some "wireguard") 0 = .vpnTun ∧ linkTypeFor "wg0" = .ethernet ∧
    ¬ FramingAgrees "wg0" .none (some "wireguard") 0 ∧
    classifyLink "wwan0" .rawip none 0 = .cellular ∧ linkTypeFor "wwan0" = .ethernet ∧
    ¬ FramingAgrees "wwan0" .rawip none 0 := by
  have hwg : classifyLink "wg0" .none (some "wireguard") 0 = .vpnTun := by decide +kernel
  have hwwan : classifyLink "wwan0" .rawip none 0 = .cellular := by decide +kernel
  have hwgType : linkTypeFor "wg0" = .ethernet := by decide +kernel
  have hwwanType : linkTypeFor "wwan0" = .ethernet := by decide +kernel
  refine ⟨hwg, hwgType, fun h => ?_, hwwan, hwwanType, fun h => ?_⟩
  · have hraw := h (.inr rfl) (.inr (.inr hwg))
    rw [hwgType] at hraw
    cases hraw
  · have hraw := h (.inl rfl) (.inl hwwan)
    rw [hwwanType] at hraw
    cases hraw

end Framing

end Netdiag.Collect
