import Netdiag.Correlate.AppState

namespace Netdiag.Collect

/-!
# Collectors — routing rules

`rule_to_proto` and `get_rules` of `daemon/src/collect/routes.rs`, and what the kernel makes of
a rule: all present selectors match, and the `invert` flag negates the whole.

* `ruleToProto`, `getRules` — from the dump to the reported list, with the filter for a uid.
* `fires` — whether a packet is matched by a rule; `Applies` — whether some packet of a uid is.
* `applies_iff` — which uids a rule applies to, selector by selector.
* `rule_listed_iff` — where `rule_can_match_uid` says what the kernel does, the reported lists
  hold the rules that apply.
-/

open Netdiag.Correlate (ruleCanMatchUid coversUid)

/-! ### Rules -/

/-- `IpVersion` of a dump. -/
inductive IpVersion
  | v4
  | v6
  deriving DecidableEq, Repr

/-- The bits of an address. -/
def IpVersion.width : IpVersion → Nat
  | .v4 => 32
  | .v6 => 128

theorem IpVersion.width_pos (v : IpVersion) : 0 < v.width := by
  cases v <;> decide

/-- An address selector: the first `prefixLen` bits of `address`. -/
structure AddrSelector (n : Nat) where
  address : BitVec n
  prefixLen : Nat
  deriving DecidableEq, Repr

/-- `RoutingRule` with the selectors beside the uid range, over addresses of `n` bits. -/
structure FibRule (n : Nat) extends RoutingRule where
  source : Option (AddrSelector n) := none
  destination : Option (AddrSelector n) := none
  inputInterface : String := ""
  outputInterface : String := ""
  fwmark : BitVec 32 := 0
  fwmask : BitVec 32 := 0
  tos : BitVec 8 := 0
  deriving DecidableEq, Repr

/-- A rule of one of the two dumps. -/
structure DumpedRule where
  version : IpVersion
  rule : FibRule version.width

/-- `RuleAttribute`. -/
inductive RuleAttribute (n : Nat)
  | priority (p : Nat)
  | table (t : Nat)
  | fwMark (m : BitVec 32)
  | fwMask (m : BitVec 32)
  | iifname (name : String)
  | oifname (name : String)
  | source (a : BitVec n)
  | destination (a : BitVec n)
  | uidRange (start stop : Nat)
  | goto (g : Nat)
  | other
  deriving DecidableEq, Repr

/-- `RuleMessage`: the fields of its header, and its attributes. -/
structure RuleMessage (n : Nat) where
  srcLen : Nat
  dstLen : Nat
  tos : BitVec 8
  table : Nat
  invert : Bool
  attributes : List (RuleAttribute n)
  deriving DecidableEq, Repr

/-- One attribute of `rule_to_proto`. -/
def FibRule.applyAttribute {n : Nat} (msg : RuleMessage n) (rule : FibRule n) :
    RuleAttribute n → FibRule n
  | .priority p => { rule with priority := p }
  | .table t => { rule with table := t }
  | .fwMark m => { rule with fwmark := m, hasFwmark := true }
  | .fwMask m => { rule with fwmask := m }
  | .iifname name => { rule with inputInterface := name }
  | .oifname name => { rule with outputInterface := name }
  | .source a => { rule with source := some ⟨a, msg.srcLen⟩ }
  | .destination a => { rule with destination := some ⟨a, msg.dstLen⟩ }
  | .uidRange start stop =>
    { rule with uidRangeStart := start, uidRangeEnd := stop, hasUidRange := true }
  | .goto g => { rule with table := g }
  | .other => rule

/-- `rule_to_proto`. -/
def ruleToProto {n : Nat} (msg : RuleMessage n) : FibRule n :=
  msg.attributes.foldl (FibRule.applyAttribute msg)
    { table := msg.table, tos := msg.tos, invert := msg.invert }

/-- The answers of the kernel to the two `RTM_GETRULE` dumps. -/
structure RuleDump where
  v4 : Except String (List (RuleMessage 32))
  v6 : Except String (List (RuleMessage 128))

/-- The rules of one dump. -/
def RuleDump.rules (dump : RuleDump) : IpVersion → Except String (List DumpedRule)
  | .v4 => dump.v4.map (fun msgs => msgs.map (fun msg => ⟨.v4, ruleToProto msg⟩))
  | .v6 => dump.v6.map (fun msgs => msgs.map (fun msg => ⟨.v6, ruleToProto msg⟩))

/-- The dumps `get_rules` asks for. -/
def versions : IpFamily → List IpVersion
  | .v4 => [.v4]
  | .v6 => [.v6]
  | .unspecified => [.v4, .v6]

/-- `(r.family, r.priority)` in order. -/
def DumpedRule.le (a b : DumpedRule) : Bool :=
  decide (a.version.width < b.version.width) ||
    (a.version.width == b.version.width && decide (a.rule.priority ≤ b.rule.priority))

/-- `get_rules`: a rule that cannot match the uid is passed over. -/
def getRules (dump : RuleDump) (family : IpFamily) (uidFilter : Option Nat) :
    Except String (List DumpedRule) := do
  let dumped ← (versions family).mapM dump.rules
  let kept := dumped.flatten.filter (fun r =>
    match uidFilter with
    | some uid => ruleCanMatchUid r.rule.toRoutingRule uid
    | none => true)
  return kept.mergeSort DumpedRule.le

/-! ### What the kernel matches -/

/-- A packet, as the rules see it. -/
structure Packet (n : Nat) where
  source : BitVec n
  destination : BitVec n
  inputInterface : String
  outputInterface : String
  mark : BitVec 32
  tos : BitVec 8
  uid : Nat
  deriving DecidableEq, Repr

section Kernel

variable {n : Nat}

/-- The first bits agree. -/
def AddrSelector.contains (s : AddrSelector n) (a : BitVec n) : Bool :=
  (a ^^^ s.address) >>> (n - s.prefixLen) == 0

/-- A selector that is not present matches everything. -/
def selects (selector : Option (AddrSelector n)) (a : BitVec n) : Bool :=
  (selector.map (·.contains a)).getD true

/-- The selectors other than the uid range. -/
def othersMatch (rule : FibRule n) (packet : Packet n) : Bool :=
  selects rule.source packet.source && selects rule.destination packet.destination &&
    (rule.inputInterface == "" || rule.inputInterface == packet.inputInterface) &&
    (rule.outputInterface == "" || rule.outputInterface == packet.outputInterface) &&
    (rule.fwmark ^^^ packet.mark) &&& rule.fwmask == 0 &&
    (rule.tos == 0 || rule.tos == packet.tos)

/-- The uid range. -/
def uidMatches (rule : FibRule n) (uid : Nat) : Bool :=
  !rule.hasUidRange || coversUid rule.toRoutingRule uid

/-- The kernel's match: all present selectors, negated as a whole by `invert`. -/
def fires (rule : FibRule n) (packet : Packet n) : Bool :=
  (othersMatch rule packet && uidMatches rule packet.uid) != rule.invert

/-- Some packet of the uid is matched. -/
def Applies (rule : FibRule n) (uid : Nat) : Prop :=
  ∃ packet : Packet n, packet.uid = uid ∧ fires rule packet = true

/-- A selector other than the uid range that some packet does not match. -/
def CanFail (rule : FibRule n) : Prop :=
  (∃ s ∈ rule.source, 0 < s.prefixLen) ∨ (∃ s ∈ rule.destination, 0 < s.prefixLen) ∨
    rule.inputInterface ≠ "" ∨ rule.outputInterface ≠ "" ∨ rule.fwmask ≠ 0 ∨ rule.tos ≠ 0

/-- The packet a rule is made for. -/
def aimed (rule : FibRule n) (uid : Nat) : Packet n where
  source := (rule.source.map (·.address)).getD 0
  destination := (rule.destination.map (·.address)).getD 0
  inputInterface := rule.inputInterface
  outputInterface := rule.outputInterface
  mark := rule.fwmark
  tos := rule.tos
  uid

theorem selects_self (selector : Option (AddrSelector n)) :
    selects selector ((selector.map (·.address)).getD 0) = true := by
  cases selector with
  | none => rfl
  | some s => simp [selects, AddrSelector.contains]

theorem othersMatch_aimed (rule : FibRule n) (uid : Nat) :
    othersMatch rule (aimed rule uid) = true := by
  have hsource := selects_self rule.source
  have hdestination := selects_self rule.destination
  simp only [othersMatch, aimed, hsource, hdestination]
  simp

theorem not_xor_self {w : Nat} (a : BitVec w) : ~~~a ^^^ a = BitVec.allOnes w := by
  apply BitVec.eq_of_getLsbD_eq
  intro i hi
  simp [hi]

/-- An address selector of at least one bit leaves some address out. -/
theorem exists_not_selects {selector : Option (AddrSelector n)} (hn : 0 < n)
    (h : ∃ s ∈ selector, 0 < s.prefixLen) : ∃ a, selects selector a = false := by
  obtain ⟨s, hs, hlen⟩ := h
  rw [Option.mem_def] at hs
  subst hs
  refine ⟨~~~s.address, ?_⟩
  have hne : BitVec.allOnes n >>> (n - s.prefixLen) ≠ 0 := by
    intro hzero
    have hbit := congrArg (fun x => x.getLsbD 0) hzero
    simp at hbit
    omega
  simpa [selects, AddrSelector.contains, not_xor_self] using hne

theorem selects_of_not {selector : Option (AddrSelector n)}
    (h : ¬∃ s ∈ selector, 0 < s.prefixLen) (a : BitVec n) : selects selector a = true := by
  cases selector with
  | none => rfl
  | some s =>
    have hzero : s.prefixLen = 0 := by simpa using h
    simp [selects, AddrSelector.contains, hzero, BitVec.ushiftRight_eq_zero]

/-- With a selector that can fail some packet of any uid fails it. -/
theorem CanFail.exists_packet {rule : FibRule n} (hn : 0 < n) (h : CanFail rule) (uid : Nat) :
    ∃ packet : Packet n, packet.uid = uid ∧ othersMatch rule packet = false := by
  let packet := aimed rule uid
  rcases h with hs | hd | hi | ho | hm | ht
  · obtain ⟨a, ha⟩ := exists_not_selects hn hs
    exact ⟨{ packet with source := a }, rfl, by simp [othersMatch, ha]⟩
  · obtain ⟨a, ha⟩ := exists_not_selects hn hd
    exact ⟨{ packet with destination := a }, rfl, by simp [othersMatch, ha]⟩
  · exact ⟨{ packet with inputInterface := "" }, rfl, by simp [othersMatch, hi]⟩
  · exact ⟨{ packet with outputInterface := "" }, rfl, by simp [othersMatch, ho]⟩
  · refine ⟨{ packet with mark := ~~~rule.fwmark }, rfl, ?_⟩
    have hmark : ((rule.fwmark ^^^ ~~~rule.fwmark) &&& rule.fwmask == 0) = false := by
      rw [BitVec.xor_comm, not_xor_self, BitVec.allOnes_and]
      simpa using hm
    simp only [othersMatch, hmark, Bool.and_false, Bool.false_and]
  · refine ⟨{ packet with tos := 0 }, rfl, ?_⟩
    have htos : (rule.tos == 0) = false := by simpa using ht
    simp only [othersMatch, htos, Bool.or_self, Bool.and_false]

theorem othersMatch_of_not {rule : FibRule n} (h : ¬CanFail rule) (packet : Packet n) :
    othersMatch rule packet = true := by
  simp only [CanFail, not_or, ne_eq, not_not] at h
  obtain ⟨hs, hd, hi, ho, hm, ht⟩ := h
  have hsource := selects_of_not hs packet.source
  have hdestination := selects_of_not hd packet.destination
  simp [othersMatch, hsource, hdestination, hi, ho, hm, ht]

/-- A rule applies to a uid in its range; an inverted one outside its range, or anywhere when
    another selector can fail. -/
theorem applies_iff (rule : FibRule n) (hn : 0 < n) (uid : Nat) :
    Applies rule uid ↔
      if rule.invert then uidMatches rule uid = false ∨ CanFail rule
      else uidMatches rule uid = true := by
  unfold Applies fires
  cases rule.invert with
  | false =>
    simp only [Bool.bne_false, Bool.and_eq_true, Bool.false_eq_true, if_false]
    constructor
    · rintro ⟨packet, rfl, -, huid⟩
      exact huid
    · intro huid
      exact ⟨aimed rule uid, rfl, othersMatch_aimed rule uid, huid⟩
  | true =>
    simp only [Bool.bne_true, Bool.not_eq_true', Bool.and_eq_false_iff, if_true]
    constructor
    · rintro ⟨packet, rfl, hothers | huid⟩
      · right
        by_contra hfail
        rw [othersMatch_of_not hfail packet] at hothers
        cases hothers
      · exact .inl huid
    -- Inverted, the rule fires where the uid does not match or something else can fail.
    · rintro (huid | hfail)
      · exact ⟨aimed rule uid, rfl, .inr huid⟩
      · obtain ⟨packet, huid, hothers⟩ := hfail.exists_packet hn uid
        exact ⟨packet, huid, .inl hothers⟩

/-- An inverted rule whose uid range is not its only selector: its range holds the uid and
    another selector can fail, or it has neither. -/
def InvertedBeyondUid (rule : FibRule n) (uid : Nat) : Prop :=
  rule.invert = true ∧ ((coversUid rule.toRoutingRule uid = true ∧ CanFail rule) ∨
    (rule.hasUidRange = false ∧ ¬CanFail rule))

/-- `rule_can_match_uid` says whether the rule applies, for every rule whose inversion is about
    the uid range. -/
theorem ruleCanMatchUid_iff {rule : FibRule n} (hn : 0 < n) {uid : Nat}
    (h : ¬InvertedBeyondUid rule uid) :
    ruleCanMatchUid rule.toRoutingRule uid = true ↔ Applies rule uid := by
  rw [applies_iff rule hn]
  unfold InvertedBeyondUid at h
  unfold ruleCanMatchUid uidMatches
  cases hrange : rule.hasUidRange with
  | false => cases hinv : rule.invert <;> simp_all
  | true =>
    have hcovers : coversUid rule.toRoutingRule uid =
        (decide (rule.uidRangeStart ≤ uid) && decide (uid ≤ rule.uidRangeEnd)) := by
      simp [coversUid, hrange]
    simp only [Bool.not_true, Bool.false_eq_true, if_false, Bool.false_or, ← hcovers]
    cases hcov : coversUid rule.toRoutingRule uid <;> cases hinv : rule.invert <;> simp_all

end Kernel

/-! ### The reported lists -/

/-- The filter for a uid keeps the rules that can match it. -/
theorem getRules_some {dump : RuleDump} {family : IpFamily} {all : List DumpedRule}
    (h : getRules dump family none = .ok all) (uid : Nat) :
    ∃ kept, getRules dump family (some uid) = .ok kept ∧
      ∀ r, r ∈ kept ↔ r ∈ all ∧ ruleCanMatchUid r.rule.toRoutingRule uid = true := by
  unfold getRules at h ⊢
  cases hdump : (versions family).mapM dump.rules with
  | error e =>
    rw [hdump] at h
    cases h
  | ok dumped =>
    rw [hdump] at h
    obtain rfl := Except.ok.inj h
    refine ⟨_, rfl, fun r => ?_⟩
    simp only [List.mem_mergeSort, List.mem_filter, and_true]

open Netdiag.Correlate (KernelView CorrelationInput AppNetworkState appNetworkState)

/-- The rules of the per-app view. -/
theorem matchingRules_eq {kernel : KernelView} {interfaces : List Interface}
    {ifNames : Nat → Option String} {input : CorrelationInput} {state : AppNetworkState}
    {rules : List RoutingRule} (hrules : kernel.rules = .ok rules)
    (h : appNetworkState kernel interfaces ifNames input = .ok state) :
    state.routing.matchingRules =
      (rules.filter (fun r => ruleCanMatchUid r input.app.uid)).filter
        (fun r => r.hasUidRange || r.hasFwmark) := by
  unfold appNetworkState at h
  rw [hrules] at h
  dsimp only at h
  split at h
  · cases h
  · obtain rfl := Except.ok.inj h
    rfl

/-- A rule that applies to a uid is in the list `GetRoutingRules` returns for it, and in the
    per-app view if it names uids or a mark. -/
theorem rule_listed_iff (r : DumpedRule) (uid : Nat) (h : ¬InvertedBeyondUid r.rule uid) :
    (ruleCanMatchUid r.rule.toRoutingRule uid = true ↔ Applies r.rule uid) ∧
    (∀ dump family all, getRules dump family none = .ok all → r ∈ all →
      ∃ kept, getRules dump family (some uid) = .ok kept ∧ (r ∈ kept ↔ Applies r.rule uid)) ∧
    (∀ kernel interfaces ifNames input state (all : List DumpedRule),
      kernel.rules = .ok (all.map (·.rule.toRoutingRule)) → r ∈ all → input.app.uid = uid →
      appNetworkState kernel interfaces ifNames input = .ok state →
      (r.rule.toRoutingRule ∈ state.routing.matchingRules ↔
        Applies r.rule uid ∧ (r.rule.hasUidRange = true ∨ r.rule.hasFwmark = true))) := by
  have hmatch := ruleCanMatchUid_iff r.version.width_pos h
  refine ⟨hmatch, ?_, ?_⟩
  · intro dump family all hall hr
    obtain ⟨kept, hkept, hmem⟩ := getRules_some hall uid
    refine ⟨kept, hkept, ?_⟩
    rw [hmem, ← hmatch]
    exact and_iff_right hr
  · rintro kernel interfaces ifNames input state all hrules hr rfl hstate
    have hin : r.rule.toRoutingRule ∈ all.map (·.rule.toRoutingRule) :=
      List.mem_map_of_mem hr
    rw [matchingRules_eq hrules hstate, List.mem_filter, List.mem_filter, hmatch, Bool.or_eq_true]
    exact and_congr_left' (and_iff_right hin)

/-- The last rule of every table: `from all lookup main`. -/
def mainRule : DumpedRule := ⟨.v4, { priority := 32766, table := 254 }⟩

/-- `not from all fwmark 0x20000/0x20000 uidrange 10342-10342 lookup 1003`. -/
def exceptMarked : DumpedRule :=
  ⟨.v4, { priority := 16000, table := 1003, hasUidRange := true, uidRangeStart := 10342,
          uidRangeEnd := 10342, hasFwmark := true, fwmark := 0x20000, fwmask := 0x20000,
          invert := true }⟩

/-- The main rule applies to every app and is not in the per-app view; the inverted rule applies
    to the unmarked packets of 10342 and is left out for it. -/
theorem applicable_rules_omitted :
    (Applies mainRule.rule 10001 ∧
      ∃ state, appNetworkState
          { Correlate.tunnelled with rules := .ok [mainRule.rule.toRoutingRule] } []
          (fun _ => none) { app := { uid := 10001 } } = .ok state ∧
        mainRule.rule.toRoutingRule ∉ state.routing.matchingRules) ∧
    Applies exceptMarked.rule 10342 ∧
      ruleCanMatchUid exceptMarked.rule.toRoutingRule 10342 = false := by
  refine ⟨⟨⟨aimed mainRule.rule 10001, rfl, by decide⟩, _, rfl, by decide⟩, ?_, by decide⟩
  exact ⟨{ aimed exceptMarked.rule 10342 with mark := 0 }, rfl, by decide⟩

/-- `not from all uidrange 10342-10342 lookup 1003`. -/
def exceptRange : DumpedRule :=
  ⟨.v4, { priority := 16000, table := 1003, hasUidRange := true, uidRangeStart := 10342,
          uidRangeEnd := 10342, invert := true }⟩

/-- A kernel with this rule before the main rule. -/
def exceptRangeDump : RuleDump where
  v4 := .ok
    [{ srcLen := 0, dstLen := 0, tos := 0, table := 1003, invert := true
       attributes := [.priority 16000, .uidRange 10342 10342] },
      { srcLen := 0, dstLen := 0, tos := 0, table := 254, invert := false
        attributes := [.priority 32766] }]
  v6 := .ok []

/-- The inverted rule is listed for an app outside its range, and for no app in it. -/
theorem rule_listed_exceptRange :
    (∃ kept, getRules exceptRangeDump .unspecified (some 10001) = .ok kept ∧
      exceptRange ∈ kept) ∧
    (∃ kept, getRules exceptRangeDump .unspecified (some 10342) = .ok kept ∧
      exceptRange ∉ kept) ∧
    ∃ state, appNetworkState
        { Correlate.tunnelled with
          rules := .ok [exceptRange.rule.toRoutingRule, mainRule.rule.toRoutingRule] } []
        (fun _ => none) { app := { uid := 10001 } } = .ok state ∧
      exceptRange.rule.toRoutingRule ∈ state.routing.matchingRules := by
  -- Inverted over its range and nothing else.
  have hbeyond : ∀ uid, ¬InvertedBeyondUid exceptRange.rule uid := by
    rintro uid ⟨-, ⟨-, hfail⟩ | ⟨hrange, -⟩⟩
    · rcases hfail with ⟨s, hs, -⟩ | ⟨s, hs, -⟩ | hname | hname | hmask | htos
      · cases hs
      · cases hs
      · exact hname rfl
      · exact hname rfl
      · exact hmask rfl
      · exact htos rfl
    · exact absurd hrange (by decide)
  obtain ⟨all, hall, hr⟩ : ∃ all, getRules exceptRangeDump .unspecified none = .ok all ∧
      exceptRange ∈ all := by
    refine ⟨_, rfl, List.mem_mergeSort.mpr ?_⟩
    exact List.mem_cons_self
  have happlies : Applies exceptRange.rule 10001 := ⟨aimed exceptRange.rule 10001, rfl, by decide⟩
  obtain ⟨-, houtside, hview⟩ := rule_listed_iff exceptRange 10001 (hbeyond 10001)
  obtain ⟨hmatch, hwithin, -⟩ := rule_listed_iff exceptRange 10342 (hbeyond 10342)
  have hnot : ¬Applies exceptRange.rule 10342 := hmatch.not.mp (by decide)
  obtain ⟨kept, hkept, hmem⟩ := houtside _ _ all hall hr
  obtain ⟨kept', hkept', hmem'⟩ := hwithin _ _ all hall hr
  obtain ⟨state, hstate⟩ : ∃ state, appNetworkState
      { Correlate.tunnelled with
        rules := .ok [exceptRange.rule.toRoutingRule, mainRule.rule.toRoutingRule] } []
      (fun _ => none) { app := { uid := 10001 } } = .ok state := ⟨_, rfl⟩
  refine ⟨⟨kept, hkept, hmem.mpr happlies⟩, ⟨kept', hkept', hmem'.not.mpr hnot⟩, state, hstate, ?_⟩
  exact (hview _ _ _ _ _ [exceptRange, mainRule] rfl List.mem_cons_self rfl hstate).mpr
    ⟨happlies, .inl rfl⟩

end Netdiag.Collect
