import Netdiag.Diag.Active
import Netdiag.Diag.Rules
import Netdiag.Diag.Vpn

namespace Netdiag.Diag

/-!
# Diagnosis — the engine

`run` and `finish` of `daemon/src/diag/mod.rs`: which checks are made, in which order, and
the response built from them.

* `wanted` — the `only` / `skip` lists of a request.
* `structuralPlan`, `probePlan`, `passivePlan` — the checks in the order of the source; a
  plan pairs a check id with its report, and `pushWanted` keeps the wanted ones.
* `runChecks`, `finish`, `run` — the engine.
* `runChecks_eq` — whatever the request, the checks made are the wanted ones of one plan with
  distinct ids (`enginePlan`), so `get_runChecks` can say what the rules find under a key.
-/

open Netdiag.Probe
open Netdiag.Probe.Dns

/-! ### Plans -/

/-- The `wanted` closure of `run`. -/
def wanted (request : DiagnoseRequest) (id : CheckId) : Bool :=
  if request.skip.contains id.toInt then false
  else request.only.isEmpty || request.only.contains id.toInt

/-- Checks in the order they are made. -/
abbrev Plan := List ((id : CheckId) × Report id)

/-- `if wanted(id) { push(check, &mut checks) }`, for every entry of a plan. -/
def pushWanted (request : DiagnoseRequest) (plan : Plan) : List Check :=
  plan.filterMap (fun entry => if wanted request entry.1 then some entry.2.check else none)

/-- The structural checks. -/
def structuralPlan (probes : Probes) (request : DiagnoseRequest) (state : DiagState) : Plan :=
  [⟨_, checkAndroidState state request⟩,
    ⟨_, checkActiveInterface state⟩,
    ⟨_, checkRouteLookup state .v4⟩,
    ⟨_, checkRouteLookup state .v6⟩,
    ⟨_, checkAddress state .v4⟩,
    ⟨_, checkAddress state .v6⟩,
    ⟨_, checkDefaultRoute state .v4⟩,
    ⟨_, checkDefaultRoute state .v6⟩,
    ⟨_, checkRuleCoverage state⟩,
    ⟨_, checkVpn state⟩,
    ⟨_, checkFirewall request probes.firewall probes.readUidFirewall⟩,
    ⟨_, checkSocketStates state⟩,
    ⟨_, checkFrameworkAgreement state⟩,
    ⟨_, checkCaptivePortal state⟩]

/-- The probes that are sent before the TLS handshake. -/
def transportPlan (probes : Probes) (state : DiagState) : Plan :=
  [⟨_, checkGateway probes state .v4⟩,
    ⟨_, checkGateway probes state .v6⟩,
    ⟨_, checkDns probes state typeA⟩,
    ⟨_, checkDns probes state typeAaaa⟩,
    ⟨_, checkTcp probes state .v4⟩,
    ⟨_, checkTcp probes state .v6⟩]

/-- The TLS handshake, which looks at the checks made so far, and the probes after it. -/
def tlsPlan (probes : Probes) (state : DiagState) (existing : List Check) : Plan :=
  [⟨_, checkTls probes state existing⟩,
    ⟨_, checkPrivateDns probes state⟩,
    ⟨_, checkNat64 probes state⟩,
    ⟨_, checkMtu probes state⟩]

/-- `probe_check_title`. -/
def probeCheckTitle : CheckId → String
  | .gatewayReachabilityV4 => "IPv4 gateway reachable"
  | .gatewayReachabilityV6 => "IPv6 gateway reachable"
  | .dnsA => "DNS A lookup"
  | .dnsAaaa => "DNS AAAA lookup"
  | .tcpV4 => "TCP connection over IPv4"
  | .tcpV6 => "TCP connection over IPv6"
  | .tlsHandshake => "TLS handshake"
  | .privateDns => "Private DNS"
  | .nat64Dns64 => "NAT64 / DNS64"
  | .mtuPmtu => "MTU / path MTU"
  | _ => "Check"

/-- The probes as a passive run reports them. -/
def passivePlan : Plan :=
  [.gatewayReachabilityV4, .gatewayReachabilityV6, .dnsA, .dnsAaaa, .tcpV4, .tcpV6,
    .tlsHandshake, .privateDns, .nat64Dns64, .mtuPmtu].map (fun id =>
      ⟨id, (CheckBuilder.new id (probeCheckTitle id)).skip
        "skipped: the request asked for passive analysis only"⟩)

/-! ### The run -/

/-- The checks `run` makes over a gathered state. -/
def runChecks (probes : Probes) (request : DiagnoseRequest) (state : DiagState) : List Check :=
  let structural := pushWanted request (structuralPlan probes request state)
  if request.passiveOnly then structural ++ pushWanted request passivePlan
  else
    -- Gateway, DNS, transport: a failure is reported at the lowest layer that broke.
    let existing := structural ++ pushWanted request (transportPlan probes state)
    existing ++ pushWanted request (tlsPlan probes state existing)

/-- `DiagnoseResponse`. -/
structure DiagnoseResponse where
  checks : List Check
  findings : List Finding
  summary : String
  worstSeverity : FindingSeverity
  passed : Nat
  failed : Nat
  warned : Nat
  skipped : Nat
  deriving DecidableEq, Repr

/-- The checks in whose `status` this one of the seven is read. -/
def countStatus (checks : List Check) (status : CheckStatus) : Nat :=
  (checks.filter (fun c => CheckStatus.tryFrom c.status.toInt == some status)).length

/-- `findings.iter().map(|f| f.severity).max()`, `Unspecified` when there are none. -/
def worstSeverity (findings : List Finding) : FindingSeverity :=
  findings.foldl (fun worst f => if worst.toNat ≤ f.severity.toNat then f.severity else worst)
    .unspecified

/-- `finish`. -/
def finish (checks : List Check) (findings : List Finding) : DiagnoseResponse :=
  let failed := countStatus checks .fail
  let warned := countStatus checks .warn
  let summary :=
    match findings with
    | finding :: _ => finding.title
    | [] =>
      if failed = 0 && warned = 0 then
        "No problems found; connectivity looks healthy on every layer checked"
      else if failed = 0 then s!"{warned} warning(s), nothing conclusive"
      else s!"{failed} check(s) failed but no known pattern matched"
  { checks, findings, summary, failed, warned
    worstSeverity := worstSeverity findings
    passed := countStatus checks .pass
    skipped := countStatus checks .skip }

/-- `run`. -/
def run (kernel : Kernel) (probes : Probes) (request : DiagnoseRequest) : DiagnoseResponse :=
  match gather kernel request with
  -- Nothing can be checked, and the report says so in one failed check.
  | .error e =>
    let report := (CheckBuilder.new .activeInterface "Collect kernel state").fail
      s!"could not read kernel networking state: {e}"
    finish [report.check] []
  | .ok state =>
    let checks := runChecks probes request state
    finish checks (evaluate checks state)

/-! ### What the rules find under a key -/

section Plans

variable (request : DiagnoseRequest) {plan : Plan} {entry : (id : CheckId) × Report id}

/-- **A key belongs to one entry of the plan.** -/
theorem mem_pushWanted_iff (nodup : (plan.map Sigma.fst).Nodup) (mem : entry ∈ plan)
    (c : Check) :
    (c ∈ pushWanted request plan ∧ c.key = checkKey entry.1) ↔
      wanted request entry.1 = true ∧ c = entry.2.check := by
  unfold pushWanted
  rw [List.mem_filterMap]
  constructor
  · rintro ⟨⟨other, mem', pushed⟩, key⟩
    rw [Option.ite_none_right_eq_some, Option.some.injEq] at pushed
    obtain ⟨want, rfl⟩ := pushed
    -- The check carries the key of the entry that made it, and keys name entries.
    have ids : other.1 = entry.1 := checkKey_injective (other.2.key_eq.symm.trans key)
    have same : other = entry := List.inj_on_of_nodup_map nodup mem' mem ids
    subst same
    exact ⟨want, rfl⟩
  · rintro ⟨want, rfl⟩
    exact ⟨⟨entry, mem, by rw [if_pos want]⟩, entry.2.key_eq⟩

/-- What a rule finds under the key of an entry: its check, if it was wanted. -/
theorem get_pushWanted (nodup : (plan.map Sigma.fst).Nodup) (mem : entry ∈ plan) :
    (⟨pushWanted request plan⟩ : CheckIndex).get (checkKey entry.1) =
      if wanted request entry.1 then some entry.2.check else none := by
  -- The index keeps the last check of a key; there is only one.
  unfold CheckIndex.get
  have unique := mem_pushWanted_iff request nodup mem
  cases found : (pushWanted request plan).reverse.find? (fun c => c.key == checkKey entry.1) with
  | some c =>
    have key : c.key = checkKey entry.1 := by simpa using List.find?_some found
    have here := List.mem_reverse.mp (List.mem_of_find?_eq_some found)
    obtain ⟨want, rfl⟩ := (unique c).mp ⟨here, key⟩
    rw [if_pos want]
  | none =>
    rw [List.find?_eq_none] at found
    by_cases want : wanted request entry.1 = true
    · obtain ⟨here, key⟩ := (unique entry.2.check).mpr ⟨want, rfl⟩
      exact absurd (by simpa using key) (found _ (List.mem_reverse.mpr here))
    · rw [if_neg want]

end Plans

theorem pushWanted_append (request : DiagnoseRequest) (a b : Plan) :
    pushWanted request (a ++ b) = pushWanted request a ++ pushWanted request b :=
  List.filterMap_append

/-- The one plan behind a run. -/
def enginePlan (probes : Probes) (request : DiagnoseRequest) (state : DiagState) : Plan :=
  let structural := structuralPlan probes request state
  if request.passiveOnly then structural ++ passivePlan
  else
    let before := structural ++ transportPlan probes state
    before ++ tlsPlan probes state (pushWanted request before)

/-- **A run makes the wanted checks of its plan.** -/
theorem runChecks_eq (probes : Probes) (request : DiagnoseRequest) (state : DiagState) :
    runChecks probes request state = pushWanted request (enginePlan probes request state) := by
  unfold runChecks enginePlan
  by_cases passive : request.passiveOnly = true
  · simp only [passive, if_true, pushWanted_append]
  · simp only [passive, if_false, Bool.false_eq_true, pushWanted_append]

/-- The checks the engine implements, in the order it makes them. -/
def engineIds : List CheckId :=
  [.androidNetworkState, .activeInterface, .routeLookupV4, .routeLookupV6, .ipv4Address,
    .ipv6Address, .ipv4DefaultRoute, .ipv6DefaultRoute, .routingRuleCoverage, .vpnRouting,
    .firewallAnomaly, .suspiciousTcpStates, .frameworkKernelAgreement, .captivePortal,
    .gatewayReachabilityV4, .gatewayReachabilityV6, .dnsA, .dnsAaaa, .tcpV4, .tcpV6,
    .tlsHandshake, .privateDns, .nat64Dns64, .mtuPmtu]

/-- Passive or not, a plan lists the same checks in the same order. -/
theorem enginePlan_ids (probes : Probes) (request : DiagnoseRequest) (state : DiagState) :
    (enginePlan probes request state).map Sigma.fst = engineIds := by
  unfold enginePlan
  by_cases passive : request.passiveOnly = true
  · simp only [passive, if_true]
    rfl
  · simp only [passive, if_false, Bool.false_eq_true]
    rfl

/-- No check is made twice. -/
theorem enginePlan_nodup (probes : Probes) (request : DiagnoseRequest) (state : DiagState) :
    ((enginePlan probes request state).map Sigma.fst).Nodup := by
  rw [enginePlan_ids]
  decide

/-- What the rules find under a key of the plan. -/
theorem get_runChecks {probes : Probes} {request : DiagnoseRequest} {state : DiagState}
    {entry : (id : CheckId) × Report id} (mem : entry ∈ enginePlan probes request state) :
    (⟨runChecks probes request state⟩ : CheckIndex).get (checkKey entry.1) =
      if wanted request entry.1 then some entry.2.check else none := by
  rw [runChecks_eq]
  exact get_pushWanted request (enginePlan_nodup probes request state) mem

end Netdiag.Diag
