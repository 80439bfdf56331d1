import Netdiag.Diag.Engine

namespace Netdiag.Diag

/-!
# Diagnosis — what the rules make of the checks

All nineteen rules taken together, and the response built from their findings.

* `evaluate_perm` — the order of the checks does not matter, as long as their keys differ.
* `evaluate_sorted`, `evaluate_ids_nodup` — the shape of the findings.
* `finish_evaluate` — all of it, with the summary and the counts of the response.
* `quiet_iff` — a run without failures and warnings has no finding above `Info`, unless
  `addr.v6` passes on an interface whose `disable_ipv6` is set.
-/

open Netdiag.Probe

/-! ### The order of the checks -/

/-- With distinct keys, a check is what the index holds under its key. -/
theorem CheckIndex.get_eq_some_iff {checks : List Check}
    (nodup : (checks.map Check.key).Nodup) (key : String) (c : Check) :
    (⟨checks⟩ : CheckIndex).get key = some c ↔ c ∈ checks ∧ c.key = key := by
  unfold CheckIndex.get
  constructor
  · intro found
    have here := List.mem_reverse.mp (List.mem_of_find?_eq_some found)
    exact ⟨here, by simpa using List.find?_some found⟩
  · rintro ⟨mem, rfl⟩
    -- Some check of that key is found, and there is only one.
    have some_ : (checks.reverse.find? (fun d => d.key == c.key)).isSome :=
      List.find?_isSome.mpr ⟨c, List.mem_reverse.mpr mem, by simp⟩
    obtain ⟨d, found⟩ := Option.isSome_iff_exists.mp some_
    have here := List.mem_reverse.mp (List.mem_of_find?_eq_some found)
    have keys : d.key = c.key := by simpa using List.find?_some found
    have same : d = c := List.inj_on_of_nodup_map nodup here mem keys
    rw [found, same]

/-- The index of a list does not depend on its order. -/
theorem CheckIndex.get_perm {a b : List Check} (perm : a.Perm b)
    (nodup : (a.map Check.key).Nodup) (key : String) :
    (⟨a⟩ : CheckIndex).get key = (⟨b⟩ : CheckIndex).get key := by
  have nodup' : (b.map Check.key).Nodup := (perm.map Check.key).nodup_iff.mp nodup
  apply Option.ext
  intro c
  rw [CheckIndex.get_eq_some_iff nodup, CheckIndex.get_eq_some_iff nodup', perm.mem_iff]

/-- A rule sees the checks through the index only. -/
theorem rule_congr {entry : FindingId × Rule} (mem : entry ∈ rules) {a b : CheckIndex}
    (same : ∀ key, a.get key = b.get key) (state : DiagState) :
    entry.2 a state = entry.2 b state := by
  have status : a.status = b.status := by
    funext key
    simp only [CheckIndex.status, same]
  have detail : a.detail = b.detail := by
    funext key
    simp only [CheckIndex.detail, same]
  have evidence : a.evidence = b.evidence := by
    funext key field
    simp only [CheckIndex.evidence, same]
  simp only [rules, List.mem_cons, List.not_mem_nil, or_false] at mem
  rcases mem with rfl | rfl | rfl | rfl | rfl | rfl | rfl | rfl | rfl | rfl | rfl | rfl | rfl |
    rfl | rfl | rfl | rfl | rfl | rfl
  all_goals
    simp only [ruleNoConnectivityAtAll, ruleBrokenUpstreamIpv6, ruleIpv6ConfiguredNoRoute,
      ruleIpv6DisabledBySysctl, ruleGatewayUnreachable, ruleDnsBrokenTransportOk,
      rulePrivateDnsBlocking, ruleCaptivePortal, ruleValidatedButBroken,
      ruleFrameworkKernelDisagreement, ruleVpnLeak, ruleVpnIpv6Blackhole, ruleMtuBlackhole,
      ruleNat64WithoutClat, ruleFirewallBlockingUid, ruleSocketsStuckSynSent,
      ruleSocketsStuckCloseWait, ruleMultipleDefaultRoutes, ruleMeteredRestriction,
      CheckIndex.passed, CheckIndex.failed, CheckIndex.warned, CheckIndex.skipped,
      status, detail, evidence]
  all_goals congr!

/-- **The order of the checks does not matter.** -/
theorem evaluate_perm {a b : List Check} (perm : a.Perm b) (nodup : (a.map Check.key).Nodup)
    (state : DiagState) : evaluate a state = evaluate b state := by
  have same : rules.filterMap (fun rule => rule.2 ⟨a⟩ state) =
      rules.filterMap (fun rule => rule.2 ⟨b⟩ state) := by
    apply List.filterMap_congr
    intro entry mem
    exact rule_congr mem (CheckIndex.get_perm perm nodup) state
  unfold evaluate
  dsimp only
  rw [same]

/-! ### The shape of the findings -/

/-- No two severities have one number. -/
theorem FindingSeverity.toNat_injective : Function.Injective FindingSeverity.toNat := by
  intro a b h
  cases a <;> cases b <;> first | rfl | exact absurd h (by decide)

instance : Std.Total Finding.before where
  total a b := by
    unfold Finding.before
    rcases Nat.lt_trichotomy a.severity.toNat b.severity.toNat with h | h | h
    · exact Or.inr (Or.inl h)
    · have := FindingSeverity.toNat_injective h
      rcases Nat.le_total a.confidence b.confidence with hc | hc
      · exact Or.inr (Or.inr ⟨this.symm, hc⟩)
      · exact Or.inl (Or.inr ⟨this, hc⟩)
    · exact Or.inl (Or.inl h)

instance : IsTrans Finding Finding.before where
  trans a b c := by
    unfold Finding.before
    rintro (hab | ⟨hab, hc⟩) (hbc | ⟨hbc, hd⟩)
    · exact Or.inl (by omega)
    · exact Or.inl (by rw [← hbc]; exact hab)
    · exact Or.inl (by rw [hab]; exact hbc)
    · exact Or.inr ⟨hab.trans hbc, by omega⟩

/-- Findings are reported by severity, then by confidence, both descending. -/
theorem evaluate_sorted (checks : List Check) (state : DiagState) :
    (evaluate checks state).Pairwise Finding.before :=
  List.pairwise_insertionSort _ _

/-- No finding is reported twice. -/
theorem evaluate_ids_nodup (checks : List Check) (state : DiagState) :
    ((evaluate checks state).map Finding.id).Nodup := by
  have perm : (evaluate checks state).Perm
      (rules.filterMap (fun rule => rule.2 ⟨checks⟩ state)) := List.perm_insertionSort _ _
  rw [(perm.map Finding.id).nodup_iff]
  -- The ids are those of the rules that fire, in the order of the rules.
  have ids : ∀ l : List (FindingId × Rule), l ⊆ rules →
      ((l.filterMap (fun rule => rule.2 ⟨checks⟩ state)).map Finding.id).Sublist
        (l.map Prod.fst) := by
    intro l sub
    induction l with
    | nil => exact List.Sublist.refl _
    | cons entry rest ih =>
      have rest' := ih (List.subset_of_cons_subset sub)
      cases fires : entry.2 ⟨checks⟩ state with
      | none =>
        rw [List.filterMap_cons, fires]
        exact List.Sublist.cons _ rest'
      | some f =>
        rw [List.filterMap_cons, fires, List.map_cons, List.map_cons,
          (finding_of_rule (sub List.mem_cons_self) fires).1]
        exact rest'.cons_cons _
  exact rules_nodup.sublist (ids rules (List.Subset.refl _))

/-! ### The response -/

/-- The severity of findings in order is that of the first one. -/
theorem worstSeverity_cons {f : Finding} {rest : List Finding}
    (sorted : (f :: rest).Pairwise Finding.before) :
    worstSeverity (f :: rest) = f.severity := by
  have below : ∀ g ∈ rest, g.severity.toNat ≤ f.severity.toNat := by
    intro g mem
    rcases (List.pairwise_cons.mp sorted).1 g mem with h | ⟨h, -⟩
    · exact Nat.le_of_lt h
    · rw [h]
  -- Once the worst severity is that of `f`, no later finding changes it.
  have keep : ∀ l : List Finding, (∀ g ∈ l, g.severity.toNat ≤ f.severity.toNat) →
      l.foldl (fun worst g => if worst.toNat ≤ g.severity.toNat then g.severity else worst)
        f.severity = f.severity := by
    intro l hl
    induction l with
    | nil => rfl
    | cons g l ih =>
      have hg := hl g List.mem_cons_self
      have step : (if f.severity.toNat ≤ g.severity.toNat then g.severity else f.severity) =
          f.severity := by
        by_cases h : f.severity.toNat ≤ g.severity.toNat
        · rw [if_pos h]
          exact FindingSeverity.toNat_injective (Nat.le_antisymm hg h)
        · rw [if_neg h]
      rw [List.foldl_cons, step]
      exact ih (fun g' mem => hl g' (List.mem_cons_of_mem _ mem))
  unfold worstSeverity
  have start : FindingSeverity.unspecified.toNat ≤ f.severity.toNat := Nat.zero_le _
  rw [List.foldl_cons, if_pos start]
  exact keep rest below

/-- The checks whose `status` is the number of none of the seven. -/
def countUnknown (checks : List Check) : Nat :=
  (checks.filter (fun c => CheckStatus.tryFrom c.status.toInt == none)).length

/-- Every check has one of the seven statuses or a number that is none of theirs. -/
theorem countStatus_sum (checks : List Check) :
    countStatus checks .pass + countStatus checks .fail + countStatus checks .warn +
        countStatus checks .skip +
      (countStatus checks .info + countStatus checks .unspecified +
        countStatus checks .running + countUnknown checks) = checks.length := by
  induction checks with
  | nil => rfl
  | cons c rest ih =>
    unfold countStatus countUnknown at ih ⊢
    rw [List.length_cons, ← ih]
    cases known : CheckStatus.tryFrom c.status.toInt with
    | none => simp [known]; omega
    | some s =>
      cases s with
      | other number unknown => exact absurd known (CheckStatus.tryFrom_ne_other number unknown)
      | _ => simp [known]; omega

/-- **Findings and response.**  For checks with distinct keys: the findings do not depend on
    the order of the checks, come by severity and then confidence, each at most once and with
    a confidence from 1 to 100; the summary is the title of a finding of the worst severity,
    and the counts miss exactly the `Info`, unspecified and running checks and those whose
    status is none of the seven. -/
theorem finish_evaluate (checks : List Check) (nodup : (checks.map Check.key).Nodup)
    (state : DiagState) :
    (∀ other, checks.Perm other → evaluate other state = evaluate checks state) ∧
    (evaluate checks state).Pairwise Finding.before ∧
    ((evaluate checks state).map Finding.id).Nodup ∧
    (∀ f ∈ evaluate checks state, 1 ≤ f.confidence ∧ f.confidence ≤ 100) ∧
    (let response := finish checks (evaluate checks state);
      (response.findings ≠ [] →
        ∃ f ∈ response.findings, response.summary = f.title ∧
          f.severity = response.worstSeverity) ∧
      response.passed + response.failed + response.warned + response.skipped +
        (countStatus checks .info + countStatus checks .unspecified +
          countStatus checks .running + countUnknown checks) = checks.length) := by
  refine ⟨?_, evaluate_sorted checks state, evaluate_ids_nodup checks state, ?_, ?_, ?_⟩
  · intro other perm
    exact (evaluate_perm perm nodup state).symm
  · intro f mem
    obtain ⟨entry, rule, produced⟩ := (mem_evaluate_iff _ _ _).mp mem
    exact (finding_of_rule rule produced).2
  -- The summary is of the first finding, and none is worse.
  · have sorted := evaluate_sorted checks state
    intro some_
    cases findings : evaluate checks state with
    | nil => exact absurd findings some_
    | cons f rest =>
      rw [findings] at sorted
      exact ⟨f, List.mem_cons_self, rfl, (worstSeverity_cons sorted).symm⟩
  · exact countStatus_sum checks

/-- A check that is still running, as the wire format can say it. -/
def runningCheck : Check :=
  { id := .tcpV4, key := "tcp.v4", title := "TCP connection over IPv4", status := .running }

/-- A check whose status no version of the format names. -/
def unnamedCheck : Check :=
  { id := .tcpV6, key := "tcp.v6", title := "TCP connection over IPv6"
    status := .other 99 (by decide) }

/-- A check that failed, one that runs and one of an unknown status. -/
theorem finish_evaluate_runningCheck :
    let checks := [{ runningCheck with id := .dnsA, key := "dns.a", status := .fail },
      runningCheck, unnamedCheck]
    (∀ other, checks.Perm other → evaluate other emptyState = evaluate checks emptyState) ∧
    (finish checks (evaluate checks emptyState)).failed = 1 ∧
    (finish checks (evaluate checks emptyState)).failed +
      (countStatus checks .running + countUnknown checks) = checks.length := by
  intro checks
  have all := finish_evaluate checks (by decide +kernel) emptyState
  refine ⟨all.1, by decide +kernel, ?_⟩
  have sum := all.2.2.2.2.2
  have none_ : (finish checks (evaluate checks emptyState)).passed = 0 ∧
      (finish checks (evaluate checks emptyState)).warned = 0 ∧
      (finish checks (evaluate checks emptyState)).skipped = 0 ∧
      countStatus checks .info = 0 ∧ countStatus checks .unspecified = 0 := by
    decide +kernel
  simp only [none_] at sum
  omega

/-- A running check is counted nowhere, so the four counts and the `Info` and unspecified
    checks need not add up to all checks; nor is one of an unknown status. -/
theorem running_not_counted :
    ¬ ∀ checks : List Check, (checks.map Check.key).Nodup → ∀ state : DiagState,
      let response := finish checks (evaluate checks state)
      response.passed + response.failed + response.warned + response.skipped +
        (countStatus checks .info + countStatus checks .unspecified) = checks.length := by
  intro all
  have two := all [runningCheck, unnamedCheck] (by decide) emptyState
  have none_ : countStatus [runningCheck, unnamedCheck] .pass = 0 ∧
      countStatus [runningCheck, unnamedCheck] .fail = 0 ∧
      countStatus [runningCheck, unnamedCheck] .warn = 0 ∧
      countStatus [runningCheck, unnamedCheck] .skip = 0 ∧
      countStatus [runningCheck, unnamedCheck] .info = 0 ∧
      countStatus [runningCheck, unnamedCheck] .unspecified = 0 := by
    decide +kernel
  exact absurd two (by simp [finish, none_])

/-! ### Runs without failures and warnings -/

/-- Every check passed, was skipped or only informs. -/
def Calm (checks : List Check) : Prop :=
  ∀ c ∈ checks, c.status = .pass ∨ c.status = .info ∨ c.status = .skip

/-- No finding is more than information. -/
def Quiet (findings : List Finding) : Prop :=
  ∀ f ∈ findings, f.severity.toNat ≤ FindingSeverity.info.toNat

section Calm

variable {checks : List Check} {key : String} {c : Check}

/-- What the index holds is one of the checks. -/
theorem CheckIndex.mem_of_get (h : (⟨checks⟩ : CheckIndex).get key = some c) : c ∈ checks :=
  List.mem_reverse.mp (List.mem_of_find?_eq_some h)

/-- A status under a key is one that a calm list has. -/
theorem Calm.status (calm : Calm checks) {s : CheckStatus} (h : s ≠ .pass ∧ s ≠ .info ∧ s ≠ .skip) :
    ((⟨checks⟩ : CheckIndex).status key == some s) = false := by
  unfold CheckIndex.status
  cases found : (⟨checks⟩ : CheckIndex).get key with
  | none => rfl
  | some c =>
    rw [Option.bind_some, beq_eq_false_iff_ne, ne_eq, CheckStatus.tryFrom_toInt_eq_some_iff]
    rintro ⟨rfl, -⟩
    rcases calm c (CheckIndex.mem_of_get found) with h' | h' | h'
    · exact h.1 h'
    · exact h.2.1 h'
    · exact h.2.2 h'

/-- Nothing fails in calm checks. -/
theorem Calm.failed (calm : Calm checks) (key : String) :
    (⟨checks⟩ : CheckIndex).failed key = false := calm.status (by decide)

/-- Nothing warns in calm checks. -/
theorem Calm.warned (calm : Calm checks) (key : String) :
    (⟨checks⟩ : CheckIndex).warned key = false := calm.status (by decide)

/-- Over a calm list only the three rules that read nothing but evidence can say more than
    `Info`. -/
theorem evidence_of_loud (calm : Calm checks) {entry : FindingId × Rule} (mem : entry ∈ rules)
    {state : DiagState} {f : Finding} (h : entry.2 ⟨checks⟩ state = some f)
    (loud : FindingSeverity.info.toNat < f.severity.toNat) :
    let evidence := (⟨checks⟩ : CheckIndex).evidence
    evidence "addr.v6" "disable_ipv6" = some "true" ∨
      evidence "vpn.routing" "egress_is_vpn" = some "false" ∨
      (evidence "vpn.routing" "vpn_has_ipv6_routes" = some "false" ∧
        evidence "vpn.routing" "egress_is_vpn" = some "true" ∧
        evidence "vpn.routing" "ipv6_blackholed_in_vpn_table" ≠ some "true") := by
  simp only [rules, List.mem_cons, List.not_mem_nil, or_false] at mem
  rcases mem with rfl | rfl | rfl | rfl | rfl | rfl | rfl | rfl | rfl | rfl | rfl | rfl | rfl |
    rfl | rfl | rfl | rfl | rfl | rfl
  all_goals
    simp only [ruleNoConnectivityAtAll, ruleBrokenUpstreamIpv6, ruleIpv6ConfiguredNoRoute,
      ruleIpv6DisabledBySysctl, ruleGatewayUnreachable, ruleDnsBrokenTransportOk,
      rulePrivateDnsBlocking, ruleCaptivePortal, ruleValidatedButBroken,
      ruleFrameworkKernelDisagreement, ruleVpnLeak, ruleVpnIpv6Blackhole, ruleMtuBlackhole,
      ruleNat64WithoutClat, ruleFirewallBlockingUid, ruleSocketsStuckSynSent,
      ruleSocketsStuckCloseWait, ruleMultipleDefaultRoutes, ruleMeteredRestriction,
      calm.failed, calm.warned, Bool.and_false, Bool.false_and, Bool.or_false, Bool.or_self,
      Bool.not_false, Bool.or_true, if_true, Option.ite_none_left_eq_some, Option.some.injEq,
      reduceCtorEq, and_false, bne_iff_ne, ne_eq, not_not] at h
  · exact Or.inl h.1
  · exact Or.inr (Or.inl h.1)
  · obtain ⟨routes, egress, rfl⟩ := h
    refine Or.inr (Or.inr ⟨routes, egress, ?_⟩)
    -- A deliberate blackhole is reported as information.
    intro blackholed
    simp [blackholed] at loud
  · obtain ⟨-, -, rfl⟩ := h
    exact absurd loud (Nat.lt_irrefl _)

/-- The interface `addr.v6` looks at. -/
def ipv6AddressInterface (state : DiagState) : Option Interface :=
  (state.egressV6.or state.egressV4).or state.egressV6

/-- The evidence `rule_ipv6_disabled_by_sysctl` reads. -/
theorem checkAddress_disabled_evidence (state : DiagState) :
    (checkAddress state .v6).check.evidenceOf "disable_ipv6" =
      (ipv6AddressInterface state).map
        (fun iface => toString (iface.sysctls.getD {}).ipv6Disabled) := by
  unfold checkAddress ipv6AddressInterface
  dsimp only
  cases (state.egressV6.or state.egressV4).or state.egressV6 with
  | none => rfl
  | some iface =>
    simp only [if_true]
    split_ifs
    · simp [CheckBuilder.pass]
    · simp [CheckBuilder.warn]
    · simp [CheckBuilder.fail]
    · simp [CheckBuilder.fail]

end Calm

section Run

variable {probes : Probes} {request : DiagnoseRequest} {state : DiagState}

/-- What a run files under the key of a check it implements. -/
theorem evidence_runChecks {entry : (id : CheckId) × Report id}
    (mem : entry ∈ enginePlan probes request state) (field : String) :
    (⟨runChecks probes request state⟩ : CheckIndex).evidence (checkKey entry.1) field =
      if wanted request entry.1 then entry.2.check.evidenceOf field else none := by
  unfold CheckIndex.evidence
  rw [get_runChecks mem]
  by_cases want : wanted request entry.1 = true
  · rw [if_pos want, if_pos want, Option.bind_some]
  · rw [if_neg want, if_neg want, Option.bind_none]

/-- The structural checks are part of every plan. -/
theorem mem_enginePlan_of_structural {entry : (id : CheckId) × Report id}
    (mem : entry ∈ structuralPlan probes request state) :
    entry ∈ enginePlan probes request state := by
  unfold enginePlan
  dsimp only
  split_ifs
  · exact List.mem_append_left _ mem
  · exact List.mem_append_left _ (List.mem_append_left _ mem)

/-- The VPN check of a calm run never supports a leak or an open IPv6 path. -/
theorem vpn_evidence_of_calm (calm : Calm (runChecks probes request state)) :
    let evidence := (⟨runChecks probes request state⟩ : CheckIndex).evidence
    evidence "vpn.routing" "egress_is_vpn" ≠ some "false" ∧
      ¬ (evidence "vpn.routing" "vpn_has_ipv6_routes" = some "false" ∧
        evidence "vpn.routing" "egress_is_vpn" = some "true" ∧
        evidence "vpn.routing" "ipv6_blackholed_in_vpn_table" ≠ some "true") := by
  have mem : (⟨_, checkVpn state⟩ : (id : CheckId) × Report id) ∈
      enginePlan probes request state :=
    mem_enginePlan_of_structural (by simp [structuralPlan])
  have filed (field : String) := evidence_runChecks mem field
  have key : checkKey .vpnRouting = "vpn.routing" := rfl
  rw [key] at filed
  dsimp only
  rw [filed, filed, filed]
  by_cases want : wanted request .vpnRouting = true
  · simp only [want, if_true, checkVpn_egress_evidence, checkVpn_ipv6_evidence,
      checkVpn_blackholed_evidence]
    -- The check itself is one of the calm ones.
    have status := calm (checkVpn state).check
      (CheckIndex.mem_of_get ((get_runChecks mem).trans (if_pos want)))
    rw [checkVpn_status] at status
    cases vpns : vpnInterfaces state.interfaces with
    | nil => simp
    | cons vpn rest =>
      simp only [vpns, List.head?_cons, Option.map_some, Option.some.injEq] at status ⊢
      cases egress : egressIsVpn state vpn with
      | false => simp [egress] at status
      | true =>
        refine ⟨by decide, ?_⟩
        rintro ⟨routes, -, open_⟩
        cases v6 : defaultThrough state.routes .v6 vpn.index with
        | true => exact absurd routes (by rw [v6]; decide)
        | false =>
          cases hole : ipv6Blackholed state.routes (vpnTable state) with
          | true => exact open_ (by rw [hole]; rfl)
          | false => simp [egress, v6, hole] at status
  · simp [want]

/-- `addr.v6` reports a set `disable_ipv6` exactly when it is wanted and finds one. -/
theorem disabled_evidence_iff :
    (⟨runChecks probes request state⟩ : CheckIndex).evidence "addr.v6" "disable_ipv6" =
        some "true" ↔
      wanted request .ipv6Address = true ∧
        ∃ iface, ipv6AddressInterface state = some iface ∧
          (iface.sysctls.getD {}).ipv6Disabled = true := by
  have mem : (⟨_, checkAddress state .v6⟩ : (id : CheckId) × Report id) ∈
      enginePlan probes request state :=
    mem_enginePlan_of_structural (by simp [structuralPlan])
  have filed := evidence_runChecks mem "disable_ipv6"
  have key : checkKey (addressId .v6) = "addr.v6" := rfl
  have id : addressId .v6 = .ipv6Address := rfl
  rw [key, checkAddress_disabled_evidence] at filed
  rw [filed]
  simp only [id]
  -- A check that is not asked for files nothing.
  by_cases want : wanted request .ipv6Address = true
  · rw [if_pos want]
    simp only [want, true_and, Option.map_eq_some_iff]
    constructor
    · rintro ⟨iface, found, text⟩
      refine ⟨iface, found, ?_⟩
      cases disabled : (iface.sysctls.getD {}).ipv6Disabled with
      | true => rfl
      | false =>
        rw [disabled] at text
        exact absurd text (by decide)
    · rintro ⟨iface, found, disabled⟩
      exact ⟨iface, found, by rw [disabled]; rfl⟩
  · simp [want]

/-- The sysctl's rule fires on the evidence alone, whatever the status of the check. -/
theorem not_quiet_of_evidence {checks : List Check}
    (disabled : (⟨checks⟩ : CheckIndex).evidence "addr.v6" "disable_ipv6" = some "true") :
    ¬ Quiet (evaluate checks state) := by
  intro quiet
  have rule : (FindingId.ipv6DisabledBySysctl, ruleIpv6DisabledBySysctl) ∈ rules := by
    simp [rules]
  have fires : (ruleIpv6DisabledBySysctl ⟨checks⟩ state).isSome := by
    unfold ruleIpv6DisabledBySysctl
    rw [disabled]
    rfl
  obtain ⟨f, produced⟩ := Option.isSome_iff_exists.mp fires
  have severity : f.severity = .medium := by
    simp only [ruleIpv6DisabledBySysctl, Option.ite_none_left_eq_some,
      Option.some.injEq] at produced
    rw [← produced.2]
  have low := quiet f ((mem_evaluate_iff _ _ _).mpr ⟨_, rule, produced⟩)
  rw [severity] at low
  exact absurd low (by decide)

/-- **When a calm run stays quiet.**  If every check of a run is `Pass`, `Info` or `Skip`,
    no finding is above `Info` exactly when `addr.v6` was not wanted or does not look at an
    interface with `disable_ipv6` set. -/
theorem quiet_iff (probes : Probes) (request : DiagnoseRequest) (state : DiagState)
    (calm : Calm (runChecks probes request state)) :
    Quiet (evaluate (runChecks probes request state) state) ↔
      ¬ (wanted request .ipv6Address = true ∧
        ∃ iface, ipv6AddressInterface state = some iface ∧
          (iface.sysctls.getD {}).ipv6Disabled = true) := by
  rw [← @disabled_evidence_iff probes request state]
  constructor
  · intro quiet disabled
    exact not_quiet_of_evidence disabled quiet
  · intro enabled f mem
    by_contra loud
    obtain ⟨entry, rule, produced⟩ := (mem_evaluate_iff _ _ _).mp mem
    have vpn := vpn_evidence_of_calm calm
    rcases evidence_of_loud calm rule produced (by omega) with h | h | h
    · exact enabled h
    · exact vpn.1 h
    · exact vpn.2 h

end Run

/-- A healthy dual-stack Wi-Fi network, whose interface has `disable_ipv6` set or not. -/
def dualStack (disabled : Bool) : DiagState :=
  let wlan0 : Interface :=
    { index := 3, name := "wlan0", kind := .wifi, mtu := 1500
      flags := some { up := true, running := true }
      addresses := [
        { ipPrefix := some ⟨some ⟨[192, 0, 2, 7]⟩, 24⟩, scope := .global },
        { ipPrefix := some ⟨some ⟨[0x20, 1, 0xd, 0xb8] ++ List.replicate 11 0 ++ [7]⟩, 64⟩
          scope := .global }]
      sysctls := some { ipv6Disabled := disabled } }
  let byWlan0 (family : IpFamily) : Route :=
    { family, table := 1003, isDefault := true
      nextHops := [{ outInterfaceIndex := 3, outInterfaceName := "wlan0" }] }
  { emptyState with
    interfaces := [wlan0]
    rules := [{ table := 1003, hasFwmark := true }]
    routes := [byWlan0 .v4, byWlan0 .v6]
    lookupV4 := { route := some (byWlan0 .v4) }
    lookupV6 := { route := some (byWlan0 .v6) }
    egressV4 := some wlan0
    egressV6 := some wlan0 }

/-- The sample network is calm. -/
theorem calm_dualStack (disabled : Bool) :
    Calm (runChecks .unanswered { passiveOnly := true } (dualStack disabled)) := by
  unfold Calm
  cases disabled with
  | false => decide +kernel
  | true => decide +kernel

/-- Nothing worse than information is found on it. -/
theorem quiet_dualStack :
    Quiet (evaluate (runChecks .unanswered { passiveOnly := true } (dualStack false))
      (dualStack false)) := by
  refine (quiet_iff _ _ _ (calm_dualStack false)).mpr ?_
  rintro ⟨-, iface, found, disabled⟩
  simp only [ipv6AddressInterface, dualStack, Option.or_some, Option.some.injEq] at found
  rw [← found] at disabled
  exact absurd disabled (by decide)

/-- With the sysctl set the same calm run has a finding of medium severity. -/
theorem dualStack_disabled_not_quiet :
    ¬ ∀ (probes : Probes) (request : DiagnoseRequest) (state : DiagState),
      Calm (runChecks probes request state) →
        Quiet (evaluate (runChecks probes request state) state) := by
  intro all
  have quiet := all .unanswered { passiveOnly := true } (dualStack true) (calm_dualStack true)
  refine not_quiet_of_evidence ?_ quiet
  exact disabled_evidence_iff.mpr ⟨by decide, _, rfl, rfl⟩

end Netdiag.Diag
