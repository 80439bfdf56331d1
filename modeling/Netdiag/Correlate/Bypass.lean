import Netdiag.Correlate.Agreement
import Netdiag.Correlate.AppState

namespace Netdiag.Correlate

/-!
# Per-app view — the reason for a bypass

`assess_vpn` takes `app_bypasses_vpn` from the route lookups and `bypass_reason` from a cascade
over the rules.

* `outsideReason` — the text that blames a gap between the uid ranges.
* `Explained` — there is a reason exactly when there is a bypass, and the gap is one.
* `bypassReason_spec` — what each arm of the cascade says, by its first letter.
* `explained_iff` — the inputs on which the cascade and the lookups agree.
-/

open Netdiag.Diag

/-- The reason that no uid range into the VPN's table holds `uid`. -/
def outsideReason (uid count : Nat) : String :=
  s!"uid {uid} falls outside all {count} uid range(s) that route into the " ++
    "VPN's table, so the VPN app's per-app list excludes this app"

/-- A reason is given exactly for a bypass, and a gap is blamed only where no uid range rule
    into a VPN table can match the uid. -/
structure Explained (rules : List RoutingRule) (vpnTables : List Nat) (uid : Nat)
    (a : VpnAssessment) : Prop where
  reason_iff : a.bypassReason ≠ "" ↔ a.appBypassesVpn = true
  outside : (∃ count, a.bypassReason = outsideReason uid count) →
    ∀ r ∈ rules, r.hasUidRange = true → r.table ∈ vpnTables → ruleCanMatchUid r uid = false

/-! ### The arms of the cascade -/

section Cascade

variable (rules : List RoutingRule) (vpnTables : List Nat) (uid : Nat)

/-- An inverted rule names the uid. -/
def Excluded : Prop := ∃ r ∈ rules, coversUid r uid = true ∧ r.invert = true

/-- A rule into a VPN table names the uid. -/
def Included : Prop :=
  ∃ r ∈ rules, r.hasUidRange = true ∧ r.table ∈ vpnTables ∧ coversUid r uid = true ∧
    r.invert = false

/-- The first letter of a text. -/
def firstChar (text : String) : Option Char := text.toList.head?

/-- The first letter of a text is that of its first part. -/
theorem firstChar_append {a : String} {c : Char} (b : String)
    (h : firstChar a = some c) : firstChar (a ++ b) = some c := by
  unfold firstChar at h ⊢
  rw [String.toList_append, List.head?_append, h, Option.some_or]

/-- Texts that begin differently differ. -/
theorem ne_of_firstChar {a b : String} {c d : Char} (ha : firstChar a = some c)
    (hb : firstChar b = some d) (hne : c ≠ d) : a ≠ b := by
  rintro rfl
  rw [ha, Option.some.injEq] at hb
  exact hne hb

/-- A text that begins is not empty. -/
theorem ne_empty_of_firstChar {a : String} {c : Char} (ha : firstChar a = some c) :
    a ≠ "" := by
  rintro rfl
  have hnone : firstChar "" = none := by decide +kernel
  rw [hnone] at ha
  cases ha

/-- The reason that blames a gap begins with its own letter. -/
theorem firstChar_outsideReason (count : Nat) :
    firstChar (outsideReason uid count) = some 'u' := by
  unfold outsideReason
  repeat apply firstChar_append
  decide +kernel

/-- A plain rule with a uid range into a VPN table covers the uid. -/
theorem any_rangedRules_iff :
    (rules.filter (fun r => r.hasUidRange && vpnTables.contains r.table)).any
      (fun r => decide (r.uidRangeStart ≤ uid) && decide (uid ≤ r.uidRangeEnd) && !r.invert) =
        true ↔ Included rules vpnTables uid := by
  simp only [List.any_filter, List.any_eq_true, Included, coversUid, Bool.and_eq_true,
    decide_eq_true_eq, Bool.not_eq_true', List.contains_iff_mem]
  grind

/-- No rule with a uid range leads into a VPN table. -/
theorem isEmpty_rangedRules_iff :
    (rules.filter (fun r => r.hasUidRange && vpnTables.contains r.table)).isEmpty = true ↔
      ∀ r ∈ rules, r.hasUidRange = true → r.table ∉ vpnTables := by
  simp [List.isEmpty_iff, List.filter_eq_nil_iff]

/-- The arms of `bypass_reason`, by the first letter of their texts. -/
theorem bypassReason_spec (usesVpn : Bool) :
    let reason := bypassReason rules vpnTables uid usesVpn
    (Excluded rules uid ∧ firstChar reason = some 'r') ∨
    (¬Excluded rules uid ∧ usesVpn = true ∧ reason = "") ∨
    (¬Excluded rules uid ∧ usesVpn = false ∧ ¬Included rules vpnTables uid ∧
      (∃ r ∈ rules, r.hasUidRange = true ∧ r.table ∈ vpnTables) ∧
      ∃ count, reason = outsideReason uid count) ∨
    (¬Excluded rules uid ∧ usesVpn = false ∧
      (Included rules vpnTables uid ∨ ∀ r ∈ rules, r.hasUidRange = true → r.table ∉ vpnTables) ∧
      (firstChar reason = some 'r' ∨ firstChar reason = some 't')) := by
  intro reason
  have hincluded := any_rangedRules_iff rules vpnTables uid
  have hempty := isEmpty_rangedRules_iff rules vpnTables
  have hreason : reason = bypassReason rules vpnTables uid usesVpn := rfl
  unfold bypassReason at hreason
  dsimp only at hreason
  -- The cascade asks for an excluding rule first.
  cases hfind : rules.find? (fun r => coversUid r uid && r.invert) with
  | some rule =>
    left
    have hrule := List.find?_some hfind
    rw [Bool.and_eq_true] at hrule
    refine ⟨⟨rule, List.mem_of_find?_eq_some hfind, hrule⟩, ?_⟩
    rw [hreason, hfind]
    dsimp only
    repeat apply firstChar_append
    decide +kernel
  | none =>
    right
    have hnot : ¬Excluded rules uid := by
      rintro ⟨r, hr, hcovers⟩
      have := List.find?_eq_none.mp hfind r hr
      simp [hcovers] at this
    rw [hfind] at hreason
    dsimp only at hreason
    -- Nothing excludes the app, so the lookup decides.
    cases usesVpn with
    | true => exact .inl ⟨hnot, rfl, by simpa using hreason⟩
    | false =>
      right
      simp only [Bool.not_false, Bool.true_and, Bool.and_eq_true, Bool.not_eq_true', if_true]
        at hreason
      -- There are ranges into a VPN table, and none holds the uid: the gap.
      split at hreason
      · rename_i hgap
        left
        refine ⟨hnot, rfl, ?_, ?_, _, hreason⟩
        · rw [← hincluded, hgap.2]
          decide
        · by_contra hnone
          refine absurd (hempty.mpr ?_) (by rw [hgap.1]; decide)
          intro r hr hrange htable
          exact hnone ⟨r, hr, hrange, htable⟩
      · rename_i hgap
        right
        refine ⟨hnot, rfl, ?_, ?_⟩
        · rw [← hincluded, ← hempty]
          grind
        · split at hreason
          · left
            rw [hreason]
            repeat apply firstChar_append
            decide +kernel
          · right
            rw [hreason]
            decide +kernel

end Cascade

/-! ### Agreement of the reason and the flag -/

/-- The lookups and the rules tell one story: no inverted rule names an app whose traffic uses
    the VPN, and where the gap would be blamed no inverted rule leads into a VPN table. -/
def Consistent (vpn : Interface) (rules : List RoutingRule) (vpnTables : List Nat) (uid : Nat)
    (lookupV4 lookupV6 : RouteLookup) : Prop :=
  (LeavesBy vpn.index lookupV4 ∨ LeavesBy vpn.index lookupV6 → ¬Excluded rules uid) ∧
  (LeavesBy vpn.index lookupV4 ∨ LeavesBy vpn.index lookupV6 ∨ Excluded rules uid ∨
    Included rules vpnTables uid ∨
    ∀ r ∈ rules, r.hasUidRange = true → r.table ∈ vpnTables → r.invert = false)

/-- Outside its range an inverted rule matches, and inside a plain one does. -/
theorem ruleCanMatchUid_eq {r : RoutingRule} (hrange : r.hasUidRange = true) (uid : Nat) :
    ruleCanMatchUid r uid = (coversUid r uid != r.invert) := by
  unfold ruleCanMatchUid coversUid
  cases r.invert <;> simp [hrange]

/-- For an app that is neither excluded nor included, no range into a VPN table holds it exactly
    when none of them is inverted. -/
theorem gap_iff {rules : List RoutingRule} {vpnTables : List Nat} {uid : Nat}
    (hexcluded : ¬Excluded rules uid) (hincluded : ¬Included rules vpnTables uid) :
    (∀ r ∈ rules, r.hasUidRange = true → r.table ∈ vpnTables → ruleCanMatchUid r uid = false) ↔
      ∀ r ∈ rules, r.hasUidRange = true → r.table ∈ vpnTables → r.invert = false := by
  have hcover : ∀ r ∈ rules, r.hasUidRange = true → r.table ∈ vpnTables →
      coversUid r uid = false := by
    intro r hr hrange htable
    rw [Bool.eq_false_iff]
    intro hcovers
    cases hinv : r.invert with
    | true => exact hexcluded ⟨r, hr, hcovers, hinv⟩
    | false => exact hincluded ⟨r, hr, hrange, htable, hcovers, hinv⟩
  refine forall₂_congr fun r hr => forall₂_congr fun hrange htable => ?_
  rw [ruleCanMatchUid_eq hrange, hcover r hr hrange htable]
  simp

/-- With a VPN present the reason explains the flag exactly on consistent inputs. -/
theorem explained_iff (interfaces : List Interface) (vpn : Interface)
    (hvpn : interfaces.find? Interface.isUpVpn = some vpn) (rules : List RoutingRule)
    (vpnTables : List Nat) (uid : Nat) (lookupV4 lookupV6 : RouteLookup)
    (androidState : Option AndroidNetworkState) :
    Explained rules vpnTables uid
        (assessVpn interfaces rules vpnTables uid lookupV4 lookupV6 androidState) ↔
      Consistent vpn rules vpnTables uid lookupV4 lookupV6 := by
  generalize ha : assessVpn interfaces rules vpnTables uid lookupV4 lookupV6 androidState = a
  let usesVpn := inVpn lookupV4 vpn.index || inVpn lookupV6 vpn.index
  have huses : usesVpn = true ↔ LeavesBy vpn.index lookupV4 ∨ LeavesBy vpn.index lookupV6 := by
    simp only [usesVpn, Bool.or_eq_true, inVpn_iff]
  have hflag : a.appBypassesVpn = !usesVpn := by simp [← ha, assessVpn, hvpn, usesVpn]
  have hreason : a.bypassReason = bypassReason rules vpnTables uid usesVpn := by
    simp [← ha, assessVpn, hvpn, usesVpn]
  have hdisj : ∀ P, (LeavesBy vpn.index lookupV4 ∨ LeavesBy vpn.index lookupV6 ∨ P) ↔
      (usesVpn = true ∨ P) := fun P => by rw [huses, or_assoc]
  have htext : ∀ {c : Char}, firstChar a.bypassReason = some c → c ≠ 'u' →
      a.bypassReason ≠ "" ∧ ¬∃ count, a.bypassReason = outsideReason uid count := by
    rintro c hc hne
    refine ⟨ne_empty_of_firstChar hc, ?_⟩
    rintro ⟨count, heq⟩
    exact ne_of_firstChar hc (firstChar_outsideReason uid count) hne heq
  unfold Consistent
  rw [← huses, hdisj]
  rcases bypassReason_spec rules vpnTables uid usesVpn with
    ⟨hexcl, hc⟩ | ⟨hexcl, hu, hr⟩ | ⟨hexcl, hu, hincl, -, count, hr⟩ | ⟨hexcl, hu, hincl, hc⟩
  · -- An inverted rule names the uid: the reason is given whatever the lookups are.
    rw [← hreason] at hc
    obtain ⟨hne, hnot⟩ := htext hc (by decide)
    cases hu : usesVpn with
    | true =>
      refine iff_of_false (fun h => ?_) (fun h => h.1 rfl hexcl)
      have := h.reason_iff.mp hne
      rw [hflag, hu] at this
      cases this
    | false =>
      refine iff_of_true ⟨?_, fun h => absurd h hnot⟩ ⟨by simp, .inr (.inl hexcl)⟩
      rw [hflag, hu]
      simpa using hne
  · rw [← hreason] at hr
    refine iff_of_true ⟨?_, ?_⟩ ⟨fun _ => hexcl, .inl hu⟩
    · rw [hflag, hu, hr]
      simp
    · rintro ⟨count, heq⟩
      rw [hr] at heq
      exact absurd heq.symm (ne_empty_of_firstChar (firstChar_outsideReason uid count))
  · -- The gap is blamed: only inverted rules into the table can contradict it.
    rw [← hreason] at hr
    have hne : a.bypassReason ≠ "" := by
      rw [hr]
      exact ne_empty_of_firstChar (firstChar_outsideReason uid count)
    have hgap := gap_iff hexcl hincl
    constructor
    · intro h
      exact ⟨by simp [hu], .inr (.inr (.inr (hgap.mp (h.outside ⟨count, hr⟩))))⟩
    · rintro ⟨-, h⟩
      refine ⟨?_, fun _ => hgap.mpr ?_⟩
      · rw [hflag, hu]
        simpa using hne
      · simpa [hu, hexcl, hincl] using h
  · rw [← hreason] at hc
    have hne : a.bypassReason ≠ "" ∧ ¬∃ count, a.bypassReason = outsideReason uid count := by
      rcases hc with hc | hc
      · exact htext hc (by decide)
      · exact htext hc (by decide)
    refine iff_of_true ⟨?_, fun h => absurd h hne.2⟩ ⟨by simp [hu], .inr (.inr ?_)⟩
    · rw [hflag, hu]
      simpa using hne.1
    · rcases hincl with hincl | hnone
      · exact .inl hincl
      · exact .inr fun r hr hrange htable => absurd htable (hnone r hr hrange)

/-- The tunnel of the two examples. -/
def tun0 : Interface :=
  { index := 42, name := "tun0", kind := .vpnTun, flags := some { up := true } }

/-- A lookup that leaves by interface `index`. -/
def lookupVia (index : Nat) : RouteLookup :=
  { route := some { nextHops := [{ outInterfaceIndex := index }] } }

/-- A plain rule sends every uid into the VPN's table, and an inverted one names 10342. -/
def excludedButRouted : List RoutingRule :=
  [{ priority := 13000, hasUidRange := true, uidRangeStart := 0, uidRangeEnd := 99999,
     table := 1042 },
   { priority := 16000, hasUidRange := true, uidRangeStart := 10342, uidRangeEnd := 10342,
     table := 1003, invert := true }]

/-- The kernel routes 10342 into the VPN, and the assessment says how it gets around it. -/
theorem reason_without_bypass :
    ¬Explained excludedButRouted [1042] 10342
      (assessVpn [tun0] excludedButRouted [1042] 10342 (lookupVia 42) (lookupVia 42) none) := by
  intro h
  exact absurd (h.reason_iff.mp (by decide +kernel)) (by decide +kernel)

/-- The per-app list of the test: 10400 sits in the gap between the two ranges. -/
def gapRules : List RoutingRule :=
  [{ priority := 13000, hasUidRange := true, uidRangeStart := 0, uidRangeEnd := 10399,
     table := 1051 },
   { priority := 13000, hasUidRange := true, uidRangeStart := 10401, uidRangeEnd := 99999,
     table := 1051 }]

/-- The app between two uid ranges is told of the gap. -/
theorem explained_gapRules :
    Explained gapRules [1051] 10400
      (assessVpn [tun0] gapRules [1051] 10400 (lookupVia 3) (lookupVia 3) none) :=
  (explained_iff [tun0] tun0 rfl gapRules [1051] 10400 (lookupVia 3) (lookupVia 3) none).mpr
    ⟨fun _ h => by simp [Excluded, gapRules] at h,
      .inr (.inr (.inr (.inr (by simp [gapRules]))))⟩

end Netdiag.Correlate
