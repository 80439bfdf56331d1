import Netdiag.Diag.Blackhole
import Netdiag.Diag.Findings

namespace Netdiag.Diag

/-!
# Diagnosis — what a finding rests on

The checks a finding cites are the ones its rule decided on: asked for these alone, the engine
comes to the same finding again.

* `CheckIndex.FocusedOn` — an index with the cited checks of another, and no others.
* `RuleReads` — a rule that reads the checks it cites and no others, as most do.
* `rules_grounded` — every rule comes to the same finding on the checks it cites, if perhaps
  less sure of it; `rule_cites` — one of them was made.
* `focus`, `run_focus` — the request for the cited checks of a run, and what it finds.
-/

/-! ### Rules over the cited checks -/

/-- `b` has the checks of `a` under these keys, and no others. -/
def CheckIndex.FocusedOn (keys : List String) (a b : CheckIndex) : Prop :=
  ∀ key, b.get key = if key ∈ keys then a.get key else none

/-- The two indices have the same checks under these keys. -/
def CheckIndex.Agree (keys : List String) (a b : CheckIndex) : Prop :=
  ∀ key ∈ keys, a.get key = b.get key

/-- What a rule cites: checks of the engine, and the connections along with the handshake. -/
structure Citable (keys : List String) : Prop where
  known : ∀ key ∈ keys, ∃ id ∈ engineIds, checkKey id = key
  tls : "tls.handshake" ∈ keys → "tcp.v4" ∈ keys ∧ "tcp.v6" ∈ keys

namespace CheckIndex

variable {keys : List String} {a b : CheckIndex}

/-- A focused index agrees with the whole one on the cited keys. -/
theorem FocusedOn.agree (focused : FocusedOn keys a b) : Agree keys a b := by
  intro key mem
  rw [focused key, if_pos mem]

/-- A focused index has nothing under a key that is not cited. -/
theorem FocusedOn.status_other (focused : FocusedOn keys a b) {key : String} (h : key ∉ keys) :
    b.status key = none := by
  rw [status, focused key, if_neg h]
  rfl

/-- What is under a cited key has the same status in both. -/
theorem Agree.status (agree : Agree keys a b) {key : String} (mem : key ∈ keys) :
    a.status key = b.status key := by
  rw [CheckIndex.status, CheckIndex.status, agree key mem]

/-- A cited check passed in both or in neither. -/
theorem Agree.passed (agree : Agree keys a b) {key : String} (mem : key ∈ keys) :
    a.passed key = b.passed key := by
  rw [CheckIndex.passed, CheckIndex.passed, agree.status mem]

/-- A cited check failed in both or in neither. -/
theorem Agree.failed (agree : Agree keys a b) {key : String} (mem : key ∈ keys) :
    a.failed key = b.failed key := by
  rw [CheckIndex.failed, CheckIndex.failed, agree.status mem]

/-- A cited check warned in both or in neither. -/
theorem Agree.warned (agree : Agree keys a b) {key : String} (mem : key ∈ keys) :
    a.warned key = b.warned key := by
  rw [CheckIndex.warned, CheckIndex.warned, agree.status mem]

/-- A cited check was skipped in both or in neither. -/
theorem Agree.skipped (agree : Agree keys a b) {key : String} (mem : key ∈ keys) :
    a.skipped key = b.skipped key := by
  rw [CheckIndex.skipped, CheckIndex.skipped, agree.status mem]

/-- A cited check has one detail. -/
theorem Agree.detail (agree : Agree keys a b) {key : String} (mem : key ∈ keys) :
    a.detail key = b.detail key := by
  rw [CheckIndex.detail, CheckIndex.detail, agree key mem]

/-- A cited check has one body of evidence. -/
theorem Agree.evidence (agree : Agree keys a b) {key : String} (mem : key ∈ keys)
    (field : String) : a.evidence key field = b.evidence key field := by
  rw [CheckIndex.evidence, CheckIndex.evidence, agree key mem]

end CheckIndex

/-- What the diagnosis relies on of every rule. -/
structure RuleGrounded (rule : Rule) : Prop where
  /-- On the checks it cites it comes to the same finding, if perhaps less sure of it. -/
  again : ∀ {a b : CheckIndex} {state : DiagState} {f : Finding}, rule a state = some f →
    CheckIndex.FocusedOn f.supportingChecks a b →
    ∃ confidence ≤ f.confidence, rule b state = some { f with confidence }
  /-- It cites checks that the engine can make again. -/
  citable : ∀ {index : CheckIndex} {state : DiagState} {f : Finding},
    rule index state = some f → Citable f.supportingChecks
  /-- It says nothing about a run without checks. -/
  silent : ∀ state : DiagState, rule ⟨[]⟩ state = none

/-- A rule that reads the checks it cites and no others. -/
structure RuleReads (rule : Rule) (keys : List String) : Prop where
  cites : ∀ {index : CheckIndex} {state : DiagState} {f : Finding},
    rule index state = some f → f.supportingChecks = keys
  congr : ∀ {a b : CheckIndex} (state : DiagState), CheckIndex.Agree keys a b →
    rule a state = rule b state

/-- Such a rule cannot tell the cited checks from all of them. -/
theorem RuleReads.grounded {rule : Rule} {keys : List String} (reads : RuleReads rule keys)
    (citable : Citable keys) (silent : ∀ state : DiagState, rule ⟨[]⟩ state = none) :
    RuleGrounded rule where
  again h focused := by
    rw [reads.cites h] at focused
    refine ⟨_, Nat.le_refl _, ?_⟩
    rw [← reads.congr _ focused.agree, h]
  citable h := by
    rw [reads.cites h]
    exact citable
  silent := silent

/-- `iface.active` is read and not cited, but can only silence the rule. -/
theorem ruleNoConnectivityAtAll_grounded : RuleGrounded ruleNoConnectivityAtAll where
  again {a b state f} h focused := by
    simp only [ruleNoConnectivityAtAll, Option.ite_none_left_eq_some, Option.some.injEq] at h ⊢
    obtain ⟨hdead, -, rfl⟩ := h
    have agree := focused.agree
    have hiface : b.failed "iface.active" = false := by
      rw [CheckIndex.failed, focused.status_other (by decide)]
      rfl
    refine ⟨_, Nat.le_refl _, ?_, by simp [hiface], rfl⟩
    simpa (disch := decide) only [agree.failed, agree.skipped] using hdead
  citable h := by
    simp only [ruleNoConnectivityAtAll, Option.ite_none_left_eq_some, Option.some.injEq] at h
    obtain ⟨-, -, rfl⟩ := h
    exact ⟨by decide, by decide⟩
  silent _ := rfl

/-- Without `gateway.v6`, which is read and not cited, the rule is five percent less sure. -/
theorem ruleBrokenUpstreamIpv6_grounded : RuleGrounded ruleBrokenUpstreamIpv6 where
  again {a b state f} h focused := by
    simp only [ruleBrokenUpstreamIpv6, Option.ite_none_left_eq_some, Option.some.injEq] at h ⊢
    obtain ⟨hguard, rfl⟩ := h
    dsimp only at focused
    have agree := focused.agree
    have hpassed : b.passed "gateway.v6" = false := by
      rw [CheckIndex.passed, focused.status_other (by decide)]
      rfl
    have hwarned : b.warned "gateway.v6" = false := by
      rw [CheckIndex.warned, focused.status_other (by decide)]
      rfl
    simp (disch := decide) only [agree.passed, agree.failed] at hguard ⊢
    refine ⟨_, ?_, hguard, rfl⟩
    rw [hpassed, hwarned]
    apply min_le_min_right
    apply Nat.add_le_add_left
    exact Nat.zero_le _
  citable h := by
    simp only [ruleBrokenUpstreamIpv6, Option.ite_none_left_eq_some, Option.some.injEq] at h
    obtain ⟨-, rfl⟩ := h
    dsimp only
    exact ⟨by decide, by decide⟩
  silent _ := rfl

/-- The address and the default route, and the latter's detail. -/
theorem ruleIpv6ConfiguredNoRoute_reads :
    RuleReads ruleIpv6ConfiguredNoRoute ["addr.v6", "route.v6.default"] where
  cites h := by
    simp only [ruleIpv6ConfiguredNoRoute, Option.ite_none_left_eq_some, Option.some.injEq] at h
    obtain ⟨-, rfl⟩ := h
    rfl
  congr _ agree := by
    simp (disch := decide) only [ruleIpv6ConfiguredNoRoute, agree.passed, agree.failed,
      agree.detail]

/-- The sysctl is evidence of the address check. -/
theorem ruleIpv6DisabledBySysctl_reads : RuleReads ruleIpv6DisabledBySysctl ["addr.v6"] where
  cites h := by
    simp only [ruleIpv6DisabledBySysctl, Option.ite_none_left_eq_some, Option.some.injEq] at h
    obtain ⟨-, rfl⟩ := h
    rfl
  congr _ agree := by
    simp (disch := decide) only [ruleIpv6DisabledBySysctl, agree.evidence]

/-- The detail is that of one of the gateways, and both are cited. -/
theorem ruleGatewayUnreachable_reads :
    RuleReads ruleGatewayUnreachable ["gateway.v4", "gateway.v6"] where
  cites h := by
    simp only [ruleGatewayUnreachable, Option.ite_none_left_eq_some, Option.some.injEq] at h
    obtain ⟨-, rfl⟩ := h
    rfl
  congr {a b} _ agree := by
    have hdetail : ∀ v4 : Bool, a.detail (if v4 then "gateway.v4" else "gateway.v6") =
        b.detail (if v4 then "gateway.v4" else "gateway.v6") := by
      intro v4
      cases v4 with
      | true => exact agree.detail (by decide)
      | false => exact agree.detail (by decide)
    simp (disch := decide) only [ruleGatewayUnreachable, agree.failed, hdetail]

/-- Both name lookups, and the two connections that show the network works. -/
theorem ruleDnsBrokenTransportOk_reads :
    RuleReads ruleDnsBrokenTransportOk ["dns.a", "dns.aaaa", "tcp.v4", "tcp.v6"] where
  cites h := by
    simp only [ruleDnsBrokenTransportOk, Option.ite_none_left_eq_some, Option.some.injEq] at h
    obtain ⟨-, rfl⟩ := h
    rfl
  congr _ agree := by
    simp (disch := decide) only [ruleDnsBrokenTransportOk, agree.passed, agree.failed,
      agree.evidence]

/-- The check of Private DNS alone; `dns.a` is cited for the reader. -/
theorem rulePrivateDnsBlocking_reads :
    RuleReads rulePrivateDnsBlocking ["dns.private", "dns.a"] where
  cites h := by
    simp only [rulePrivateDnsBlocking, Option.ite_none_left_eq_some, Option.some.injEq] at h
    obtain ⟨-, rfl⟩ := h
    rfl
  congr _ agree := by
    simp (disch := decide) only [rulePrivateDnsBlocking, agree.failed, agree.detail]

/-- The portal check alone; the framework state is cited for the reader. -/
theorem ruleCaptivePortal_reads :
    RuleReads ruleCaptivePortal ["captive.portal", "android.state"] where
  cites h := by
    simp only [ruleCaptivePortal, Option.ite_none_left_eq_some, Option.some.injEq] at h
    obtain ⟨-, rfl⟩ := h
    rfl
  congr _ agree := by
    simp (disch := decide) only [ruleCaptivePortal, agree.failed]

/-- The capabilities come from the state, which both runs share. -/
theorem ruleValidatedButBroken_reads :
    RuleReads ruleValidatedButBroken
      ["android.state", "tcp.v4", "tcp.v6", "dns.a", "dns.aaaa"] where
  cites h := by
    simp only [ruleValidatedButBroken, Option.ite_none_left_eq_some, Option.some.injEq] at h
    obtain ⟨-, -, rfl⟩ := h
    rfl
  congr _ agree := by
    simp (disch := decide) only [ruleValidatedButBroken, agree.failed]

/-- Whatever the framework says, without checks nothing is broken. -/
theorem ruleValidatedButBroken_silent (state : DiagState) :
    ruleValidatedButBroken ⟨[]⟩ state = none := by
  unfold ruleValidatedButBroken
  dsimp only
  split
  · rfl
  · rfl

/-- One check and its detail. -/
theorem ruleFrameworkKernelDisagreement_reads :
    RuleReads ruleFrameworkKernelDisagreement ["framework.kernel"] where
  cites h := by
    simp only [ruleFrameworkKernelDisagreement, Option.ite_none_left_eq_some,
      Option.some.injEq] at h
    obtain ⟨-, rfl⟩ := h
    rfl
  congr _ agree := by
    simp (disch := decide) only [ruleFrameworkKernelDisagreement, agree.failed, agree.detail]

/-- The evidence of the VPN check; the lookups are cited for the reader. -/
theorem ruleVpnLeak_reads :
    RuleReads ruleVpnLeak ["vpn.routing", "route.lookup.v4", "route.lookup.v6"] where
  cites h := by
    simp only [ruleVpnLeak, Option.ite_none_left_eq_some, Option.some.injEq] at h
    obtain ⟨-, -, rfl⟩ := h
    rfl
  congr _ agree := by
    simp (disch := decide) only [ruleVpnLeak, agree.evidence]

/-- The evidence of the VPN check; the failures it explains are cited for the reader. -/
theorem ruleVpnIpv6Blackhole_reads :
    RuleReads ruleVpnIpv6Blackhole ["vpn.routing", "tcp.v6", "route.v6.default"] where
  cites h := by
    simp only [ruleVpnIpv6Blackhole, Option.ite_none_left_eq_some, Option.some.injEq] at h
    obtain ⟨-, -, rfl⟩ := h
    rfl
  congr _ agree := by
    simp (disch := decide) only [ruleVpnIpv6Blackhole, agree.evidence]

/-- The connections, the handshake, and the measurement that could contradict it. -/
theorem ruleMtuBlackhole_reads :
    RuleReads ruleMtuBlackhole ["tcp.v4", "tcp.v6", "tls.handshake", "mtu.pmtu"] where
  cites h := by
    simp only [ruleMtuBlackhole, Option.ite_none_left_eq_some, Option.some.injEq] at h
    obtain ⟨-, -, rfl⟩ := h
    rfl
  congr _ agree := by
    simp (disch := decide) only [ruleMtuBlackhole, agree.passed, agree.failed, agree.detail,
      agree.evidence]

/-- DNS64 and the IPv4 address; 464XLAT is in the state, which both runs share. -/
theorem ruleNat64WithoutClat_reads :
    RuleReads ruleNat64WithoutClat ["nat64.dns64", "addr.v4"] where
  cites h := by
    simp only [ruleNat64WithoutClat, Option.ite_none_left_eq_some, Option.some.injEq] at h
    obtain ⟨-, -, rfl⟩ := h
    rfl
  congr _ agree := by
    simp (disch := decide) only [ruleNat64WithoutClat, agree.passed, agree.warned, agree.detail]

/-- One check and its detail. -/
theorem ruleFirewallBlockingUid_reads :
    RuleReads ruleFirewallBlockingUid ["firewall.anomaly"] where
  cites h := by
    simp only [ruleFirewallBlockingUid, Option.ite_none_left_eq_some, Option.some.injEq] at h
    obtain ⟨-, rfl⟩ := h
    rfl
  congr _ agree := by
    simp (disch := decide) only [ruleFirewallBlockingUid, agree.failed, agree.detail]

/-- The counts are evidence of the socket check. -/
theorem ruleSocketsStuckSynSent_reads : RuleReads ruleSocketsStuckSynSent ["sockets.states"] where
  cites h := by
    simp only [ruleSocketsStuckSynSent, Option.ite_none_left_eq_some, Option.some.injEq] at h
    obtain ⟨-, rfl⟩ := h
    rfl
  congr _ agree := by
    simp (disch := decide) only [ruleSocketsStuckSynSent, agree.failed, agree.evidence]

/-- The counts are evidence of the socket check. -/
theorem ruleSocketsStuckCloseWait_reads :
    RuleReads ruleSocketsStuckCloseWait ["sockets.states"] where
  cites h := by
    simp only [ruleSocketsStuckCloseWait, Option.ite_none_left_eq_some, Option.some.injEq] at h
    obtain ⟨-, -, rfl⟩ := h
    rfl
  congr _ agree := by
    simp (disch := decide) only [ruleSocketsStuckCloseWait, agree.warned, agree.evidence]

/-- Of the two routes only the one that is looked at is cited; without the other it is looked
    at again. -/
theorem ruleMultipleDefaultRoutes_grounded : RuleGrounded ruleMultipleDefaultRoutes where
  again {a b state f} h focused := by
    simp only [ruleMultipleDefaultRoutes, Option.ite_none_left_eq_some, Option.some.injEq] at h ⊢
    obtain ⟨hguard, hrest, rfl⟩ := h
    have agree := focused.agree
    dsimp only at focused agree
    refine ⟨_, Nat.le_refl _, ?_⟩
    -- The rule looks at IPv4 first, and cites the check it found.
    cases hv4 : a.warned "route.v4.default" with
    | true =>
      simp only [hv4, if_true] at focused agree hrest ⊢
      have hb4 : b.warned "route.v4.default" = true := by
        rw [← agree.warned (by decide), hv4]
      simp only [hb4, if_true, ← agree.detail (List.mem_singleton_self _)]
      exact ⟨by simp, hrest, trivial⟩
    | false =>
      simp only [hv4, Bool.false_eq_true, if_false, Bool.false_or] at focused agree hguard hrest ⊢
      have hb4 : b.warned "route.v4.default" = false := by
        rw [CheckIndex.warned, focused.status_other (by decide)]
        rfl
      have hb6 : b.warned "route.v6.default" = a.warned "route.v6.default" :=
        (agree.warned (by decide)).symm
      simp only [hb4, hb6, Bool.false_eq_true, if_false, Bool.false_or,
        ← agree.detail (List.mem_singleton_self _)]
      exact ⟨hguard, hrest, trivial⟩
  citable h := by
    simp only [ruleMultipleDefaultRoutes, Option.ite_none_left_eq_some, Option.some.injEq] at h
    obtain ⟨-, -, rfl⟩ := h
    dsimp only
    split
    · exact ⟨by decide, by decide⟩
    · exact ⟨by decide, by decide⟩
  silent _ := rfl

/-- Whether the network is metered is evidence; the restriction is in the state. -/
theorem ruleMeteredRestriction_reads : RuleReads ruleMeteredRestriction ["android.state"] where
  cites h := by
    simp only [ruleMeteredRestriction, Option.ite_none_left_eq_some, Option.some.injEq] at h
    obtain ⟨-, -, rfl⟩ := h
    rfl
  congr _ agree := by
    simp (disch := decide) only [ruleMeteredRestriction, agree.evidence]

/-- **Every rule decides on the checks it cites.** -/
theorem rules_grounded : ∀ entry ∈ rules, RuleGrounded entry.2 := by
  simp only [rules, List.forall_mem_cons]
  exact
    ⟨ruleNoConnectivityAtAll_grounded,
      ruleBrokenUpstreamIpv6_grounded,
      ruleIpv6ConfiguredNoRoute_reads.grounded ⟨by decide, by decide⟩ fun _ => rfl,
      ruleIpv6DisabledBySysctl_reads.grounded ⟨by decide, by decide⟩ fun _ => rfl,
      ruleGatewayUnreachable_reads.grounded ⟨by decide, by decide⟩ fun _ => rfl,
      ruleDnsBrokenTransportOk_reads.grounded ⟨by decide, by decide⟩ fun _ => rfl,
      rulePrivateDnsBlocking_reads.grounded ⟨by decide, by decide⟩ fun _ => rfl,
      ruleCaptivePortal_reads.grounded ⟨by decide, by decide⟩ fun _ => rfl,
      ruleValidatedButBroken_reads.grounded ⟨by decide, by decide⟩ ruleValidatedButBroken_silent,
      ruleFrameworkKernelDisagreement_reads.grounded ⟨by decide, by decide⟩ fun _ => rfl,
      ruleVpnLeak_reads.grounded ⟨by decide, by decide⟩ fun _ => rfl,
      ruleVpnIpv6Blackhole_reads.grounded ⟨by decide, by decide⟩ fun _ => rfl,
      ruleMtuBlackhole_reads.grounded ⟨by decide, by decide⟩ fun _ => rfl,
      ruleNat64WithoutClat_reads.grounded ⟨by decide, by decide⟩ fun _ => rfl,
      ruleFirewallBlockingUid_reads.grounded ⟨by decide, by decide⟩ fun _ => rfl,
      ruleSocketsStuckSynSent_reads.grounded ⟨by decide, by decide⟩ fun _ => rfl,
      ruleSocketsStuckCloseWait_reads.grounded ⟨by decide, by decide⟩ fun _ => rfl,
      ruleMultipleDefaultRoutes_grounded,
      ruleMeteredRestriction_reads.grounded ⟨by decide, by decide⟩ fun _ => rfl,
      List.forall_mem_nil _⟩

/-- A finding cites checks of the engine by their names, and one of them was made. -/
theorem rule_cites {rule : Rule} (grounded : RuleGrounded rule) {checks : List Check}
    {state : DiagState} {f : Finding} (h : rule ⟨checks⟩ state = some f) :
    ∃ c ∈ checks, c.key ∈ f.supportingChecks := by
  by_contra hnone
  -- Without the cited checks nothing is left to decide on.
  have focused : CheckIndex.FocusedOn f.supportingChecks ⟨checks⟩ ⟨[]⟩ := by
    intro key
    split
    · rename_i cited
      cases hget : (⟨checks⟩ : CheckIndex).get key with
      | none => rfl
      | some c =>
        have hkey : c.key = key := by simpa using List.find?_some hget
        exact absurd ⟨c, CheckIndex.mem_of_get hget, hkey ▸ cited⟩ hnone
    · rfl
  obtain ⟨confidence, -, hfires⟩ := grounded.again h focused
  rw [grounded.silent state] at hfires
  cases hfires

/-! ### The cited checks of a run -/

/-- The checks of a run that a finding cites. -/
def cited (request : DiagnoseRequest) (f : Finding) : List CheckId :=
  engineIds.filter (fun id => wanted request id && f.supportingChecks.contains (checkKey id))

/-- The request for these checks alone. -/
def focus (request : DiagnoseRequest) (f : Finding) : DiagnoseRequest :=
  { request with only := (cited request f).map CheckId.toInt, skip := [] }

/-- No two checks have one number on the wire. -/
theorem toInt_injective : Function.Injective CheckId.toInt := by
  intro a b h
  cases a <;> cases b <;> first | rfl | exact absurd h (by decide)

section Run

variable {probes : Probes} {request : DiagnoseRequest} {state : DiagState} {f : Finding}

/-- A cited check is one of the engine's that was asked for. -/
theorem mem_cited {id : CheckId} :
    id ∈ cited request f ↔
      id ∈ engineIds ∧ wanted request id = true ∧ checkKey id ∈ f.supportingChecks := by
  rw [cited, List.mem_filter, Bool.and_eq_true, List.contains_iff_mem]

/-- The focused request wants the cited checks and no others. -/
theorem wanted_focus (hne : cited request f ≠ []) (id : CheckId) :
    wanted (focus request f) id = true ↔ id ∈ cited request f := by
  have hempty : ((cited request f).map CheckId.toInt).isEmpty = false := by
    rw [List.isEmpty_eq_false_iff, Ne, List.map_eq_nil_iff]
    exact hne
  show (if ([] : List Int).contains id.toInt then false
    else ((cited request f).map CheckId.toInt).isEmpty ||
      ((cited request f).map CheckId.toInt).contains id.toInt) = true ↔ _
  rw [hempty, Bool.false_or, if_neg (by simp), List.contains_iff_mem,
    List.mem_map_of_injective toInt_injective]

/-- A check of a run comes from its plan, under a key of the engine. -/
theorem mem_runChecks {c : Check} (h : c ∈ runChecks probes request state) :
    ∃ entry ∈ enginePlan probes request state,
      entry.1 ∈ engineIds ∧ wanted request entry.1 = true ∧ c.key = checkKey entry.1 := by
  rw [runChecks_eq, pushWanted, List.mem_filterMap] at h
  obtain ⟨entry, mem, pushed⟩ := h
  rw [Option.ite_none_right_eq_some, Option.some.injEq] at pushed
  obtain ⟨want, rfl⟩ := pushed
  refine ⟨entry, mem, ?_, want, entry.2.key_eq⟩
  rw [← enginePlan_ids probes request state]
  exact List.mem_map_of_mem mem

/-- The keys of a run: those of the wanted checks, in the order of the engine. -/
theorem runChecks_keys (probes : Probes) (request : DiagnoseRequest) (state : DiagState) :
    (runChecks probes request state).map Check.key =
      (engineIds.filter (wanted request)).map checkKey := by
  rw [runChecks_eq, ← enginePlan_ids probes request state, pushWanted]
  induction enginePlan probes request state with
  | nil => rfl
  | cons entry rest ih =>
    by_cases want : wanted request entry.1 = true
    · rw [List.filterMap_cons, if_pos want, List.map_cons, List.map_cons,
        List.filter_cons_of_pos want, List.map_cons, ih, entry.2.key_eq]
    · rw [List.filterMap_cons, if_neg want, List.map_cons, List.filter_cons_of_neg want, ih]

/-- No key comes twice, since no check does. -/
theorem runChecks_keys_nodup (probes : Probes) (request : DiagnoseRequest) (state : DiagState) :
    ((runChecks probes request state).map Check.key).Nodup := by
  rw [runChecks_keys]
  exact ((by decide : engineIds.Nodup).filter _).map checkKey_injective

/-- The TLS check looks at the connections only. -/
theorem checkTls_congr (probes : Probes) (state : DiagState) {a b : List Check}
    (h : ∀ family : IpFamily, family ≠ .unspecified →
      a.any (fun c => c.key == checkKey (tcpId family) && c.status == .pass) =
        b.any (fun c => c.key == checkKey (tcpId family) && c.status == .pass)) :
    checkTls probes state a = checkTls probes state b := by
  have h4 := h .v4 (by decide)
  have h6 := h .v6 (by decide)
  dsimp only [tcpId, checkKey] at h4 h6
  unfold checkTls
  simp only [h4, h6]

/-- The focused run connects over the families the run connects over. -/
theorem tcpConnects_focus (hne : cited request f ≠ [])
    (hcited : "tcp.v4" ∈ f.supportingChecks ∧ "tcp.v6" ∈ f.supportingChecks) (family : IpFamily) :
    TcpConnects probes request state family ↔
      TcpConnects probes (focus request f) state family := by
  have hwanted (id : CheckId) (hid : id ∈ engineIds) (hkey : checkKey id ∈ f.supportingChecks) :
      wanted request id = true ↔ wanted (focus request f) id = true := by
    rw [wanted_focus hne, mem_cited]
    exact ⟨fun want => ⟨hid, want, hkey⟩, fun h => h.2.1⟩
  have h4 := hwanted .tcpV4 (by decide) hcited.1
  have h6 := hwanted .tcpV6 (by decide) hcited.2
  cases family with
  | v6 => exact and_congr_left' h6
  | v4 => exact and_congr_left' h4
  | unspecified => exact and_congr_left' h4

/-- A cited check is the same in both plans. -/
theorem mem_enginePlan_focus (hne : cited request f ≠ []) (citable : Citable f.supportingChecks)
    {entry : (id : CheckId) × Report id} (mem : entry ∈ enginePlan probes request state)
    (hcited : checkKey entry.1 ∈ f.supportingChecks) :
    entry ∈ enginePlan probes (focus request f) state := by
  by_cases passive : request.passiveOnly = true
  · have hplan : enginePlan probes (focus request f) state = enginePlan probes request state := by
      have passive' : (focus request f).passiveOnly = true := passive
      rw [enginePlan, enginePlan, if_pos passive, if_pos passive']
      rfl
    rw [hplan]
    exact mem
  · have passive' : ¬ (focus request f).passiveOnly = true := passive
    rw [enginePlan, if_neg passive, List.mem_append] at mem
    rw [enginePlan, if_neg passive', List.mem_append]
    rcases mem with before | after
    · exact .inl before
    · right
      rcases List.mem_cons.mp after with rfl | rest
      · -- The handshake is cited with the connections, which the focused run makes as well.
        have htls := checkTls_congr probes state
          (fun family hf => Bool.eq_iff_iff.mpr ((existing_passed_iff probes request state hf).trans
            ((tcpConnects_focus hne (citable.tls hcited) family).trans
              (existing_passed_iff probes (focus request f) state hf).symm)))
        exact List.mem_cons.mpr (.inl (Sigma.ext rfl (heq_of_eq htls)))
      · exact List.mem_cons_of_mem _ rest

/-- The focused run has the cited checks of the run, and no others. -/
theorem focusedOn_focus (hne : cited request f ≠ []) (citable : Citable f.supportingChecks) :
    CheckIndex.FocusedOn f.supportingChecks ⟨runChecks probes request state⟩
      ⟨runChecks probes (focus request f) state⟩ := by
  intro key
  split
  · rename_i hkey
    obtain ⟨id, hid, rfl⟩ := citable.known key hkey
    rw [← enginePlan_ids probes request state] at hid
    obtain ⟨entry, mem, rfl⟩ := List.mem_map.mp hid
    rw [get_runChecks mem, get_runChecks (mem_enginePlan_focus hne citable mem hkey)]
    have hwanted : wanted (focus request f) entry.1 = wanted request entry.1 := by
      have hid : entry.1 ∈ engineIds := by
        rw [← enginePlan_ids probes request state]
        exact List.mem_map_of_mem mem
      rw [Bool.eq_iff_iff, wanted_focus hne, mem_cited]
      exact ⟨fun h => h.2.1, fun want => ⟨hid, want, hkey⟩⟩
    rw [hwanted]
  · rename_i hkey
    cases hget : (⟨runChecks probes (focus request f) state⟩ : CheckIndex).get key with
    | none => rfl
    | some c =>
      -- Whatever the focused run makes is cited.
      obtain ⟨entry, -, -, want, hc⟩ := mem_runChecks (CheckIndex.mem_of_get hget)
      have hsame : c.key = key := by simpa using List.find?_some hget
      have hcited := (mem_cited.mp ((wanted_focus hne _).mp want)).2.2
      rw [← hc, hsame] at hcited
      exact absurd hcited hkey

/-- The checks of the focused run are the cited ones of the run. -/
theorem mem_runChecks_focus (hne : cited request f ≠ []) (citable : Citable f.supportingChecks)
    (c : Check) : c ∈ runChecks probes (focus request f) state ↔
      c ∈ runChecks probes request state ∧ c.key ∈ f.supportingChecks := by
  have hfocus := CheckIndex.get_eq_some_iff
    (runChecks_keys_nodup probes (focus request f) state) c.key c
  have hrun := CheckIndex.get_eq_some_iff (runChecks_keys_nodup probes request state) c.key c
  rw [focusedOn_focus hne citable c.key] at hfocus
  by_cases hkey : c.key ∈ f.supportingChecks
  · rw [if_pos hkey, hrun] at hfocus
    simpa [hkey] using hfocus.symm
  · rw [if_neg hkey] at hfocus
    simpa [hkey] using hfocus

end Run

/-! ### Findings -/

/-- What a finding of a diagnosis rests on. -/
structure Grounded (kernel : Kernel) (probes : Probes) (request : DiagnoseRequest)
    (f : Finding) : Prop where
  /-- It cites checks by the names the engine gives them. -/
  known : ∀ key ∈ f.supportingChecks, ∃ id ∈ engineIds, checkKey id = key
  /-- One of them was made. -/
  made : ∃ c ∈ (run kernel probes request).checks, c.key ∈ f.supportingChecks
  /-- Asked for them alone, the engine makes those and no others, with the same results. -/
  checks : ∀ c, c ∈ (run kernel probes (focus request f)).checks ↔
    c ∈ (run kernel probes request).checks ∧ c.key ∈ f.supportingChecks
  /-- It comes to the same finding, if perhaps less sure of it. -/
  again : ∃ confidence ≤ f.confidence,
    { f with confidence } ∈ (run kernel probes (focus request f)).findings

/-- **A diagnosis can be repeated on what its findings cite.** -/
theorem run_focus (kernel : Kernel) (probes : Probes) (request : DiagnoseRequest) (f : Finding)
    (h : f ∈ (run kernel probes request).findings) : Grounded kernel probes request f := by
  -- The state does not depend on which checks are asked for.
  have hgather : gather kernel (focus request f) = gather kernel request := rfl
  cases hstate : gather kernel request with
  | error e =>
    rw [run, hstate] at h
    cases h
  | ok state =>
    have hrun : run kernel probes request =
        finish (runChecks probes request state)
          (evaluate (runChecks probes request state) state) := by
      rw [run, hstate]
    have hfocus : run kernel probes (focus request f) =
        finish (runChecks probes (focus request f) state)
          (evaluate (runChecks probes (focus request f) state) state) := by
      rw [run, hgather, hstate]
    rw [hrun] at h
    obtain ⟨entry, mem, hfires⟩ := (mem_evaluate_iff _ _ _).mp h
    have grounded := rules_grounded entry mem
    have citable := grounded.citable hfires
    obtain ⟨c, hc, hkey⟩ := rule_cites grounded hfires
    have hne : cited request f ≠ [] := by
      obtain ⟨other, -, hid, want, hother⟩ := mem_runChecks hc
      exact List.ne_nil_of_mem (mem_cited.mpr ⟨hid, want, hother ▸ hkey⟩)
    obtain ⟨confidence, hle, hagain⟩ := grounded.again hfires (focusedOn_focus hne citable)
    exact
      { known := citable.known
        made := ⟨c, hrun ▸ hc, hkey⟩
        checks := fun c => by
          rw [hrun, hfocus]
          exact mem_runChecks_focus hne citable c
        again := ⟨confidence, hle, hfocus ▸ (mem_evaluate_iff _ _ _).mpr ⟨entry, mem, hagain⟩⟩ }

/-- A kernel without interfaces. -/
def interfacelessKernel : Kernel where
  interfaces := .ok []
  routes := .ok []
  rules := .ok []
  neighbors := .ok []
  sockets := .ok ([], {})
  routeLookup _ _ _ := {}

/-- A passive diagnosis behind a captive portal. -/
def portalRequest : DiagnoseRequest :=
  { passiveOnly := true
    androidState := some { networks := [{ capabilities := some { captivePortal := true }
                                          isDefault := true }] } }

/-- The finding about a captive portal rests on the portal check. -/
theorem run_focus_portal : ∃ f : Finding, f.id = .captivePortal ∧
    Grounded interfacelessKernel .unanswered portalRequest f := by
  have hfound : ∃ f ∈ (run interfacelessKernel .unanswered portalRequest).findings,
      f.id = .captivePortal := by decide +kernel
  obtain ⟨f, hf, hid⟩ := hfound
  exact ⟨f, hid, run_focus interfacelessKernel .unanswered portalRequest f hf⟩

end Netdiag.Diag
