import Netdiag.Diag.Engine

namespace Netdiag.Diag

/-!
# Diagnosis — MTU black holes

The rule for MTU black holes stays silent when a full-size probe got through: the path
demonstrably carries large packets.  It learns that from the *status* of the MTU check, which
`check_mtu` rewrites to `Info` as soon as the kernel has cached a smaller path MTU.

* `MeasuresFullSize`, `CachesSmallerMtu`, `HandshakeFails` — the three facts that matter, on
  the request, the state and the probes.
* `mtuBlackhole_silenced_iff` — a successful full-size probe silences the rule except where
  all three meet.
-/

open Netdiag.Probe

variable (probes : Probes) (request : DiagnoseRequest) (state : DiagState)

/-! ### The facts -/

/-- The run sends the MTU probe, and it gets through at the full interface size. -/
def MeasuresFullSize : Prop :=
  request.passiveOnly = false ∧ wanted request .mtuPmtu = true ∧
    ∃ iface target ctx family,
      state.egressV4.or state.egressV6 = some iface ∧
      mtuTarget state = some (target, ctx, family) ∧
      (Mtu.discover (probes.ping .mtuPmtu) probes.kernelPathMtu target iface.mtu ctx).ok = true

/-- The route the MTU is measured along has a cached path MTU below the interface's. -/
def CachesSmallerMtu : Prop :=
  ∃ iface target ctx family,
    state.egressV4.or state.egressV6 = some iface ∧
    mtuTarget state = some (target, ctx, family) ∧
    0 < routeMtu state family ∧ routeMtu state family < iface.mtu

/-- The TCP check of a family is asked for, has a route and connects. -/
def TcpConnects : IpFamily → Prop
  | .v6 => wanted request .tcpV6 = true ∧ state.lookupV6.route.isSome = true ∧
      (probes.connect .tcpV6 0 state.v6Endpoint state.probeCtxV6).ok = true
  | _ => wanted request .tcpV4 = true ∧ state.lookupV4.route.isSome = true ∧
      (probes.connect .tcpV4 0 state.v4Endpoint state.probeCtxV4).ok = true

/-- The TLS check is asked for and its handshake fails, over IPv6 if that connects and else
    over IPv4 if that does. -/
def HandshakeFails : Prop :=
  wanted request .tlsHandshake = true ∧
    ((TcpConnects probes request state .v6 ∧
        (probes.tls state.v6Endpoint state.hostname state.probeCtxV6).ok = false) ∨
      (¬ TcpConnects probes request state .v6 ∧ TcpConnects probes request state .v4 ∧
        (probes.tls state.v4Endpoint state.hostname state.probeCtxV4).ok = false))

/-! ### The rule -/

/-- The rule fires on a connection without a handshake, unless the MTU check passed. -/
theorem ruleMtuBlackhole_isSome_iff (index : CheckIndex) :
    (ruleMtuBlackhole index state).isSome = true ↔
      (index.passed "tcp.v4" = true ∨ index.passed "tcp.v6" = true) ∧
        index.failed "tls.handshake" = true ∧ index.passed "mtu.pmtu" = false := by
  simp only [ruleMtuBlackhole, isSome_guard, Option.isSome_some, and_true, Bool.not_eq_true',
    Bool.not_eq_false, Bool.and_eq_true, Bool.or_eq_true, Bool.not_eq_true, and_assoc]

/-- What the index says of a check of an active run, of one of the seven statuses. -/
theorem status_runChecks {entry : (id : CheckId) × Report id}
    (mem : entry ∈ enginePlan probes request state) (status : CheckStatus)
    (known : CheckStatus.tryFrom status.toInt ≠ none) :
    ((⟨runChecks probes request state⟩ : CheckIndex).status (checkKey entry.1) == some status)
        = true ↔
      wanted request entry.1 = true ∧ entry.2.check.status = status := by
  unfold CheckIndex.status
  rw [get_runChecks mem, beq_iff_eq]
  by_cases want : wanted request entry.1 = true
  · simp [want, CheckStatus.tryFrom_toInt_eq_some_iff, known]
  · simp [want]

/-! ### The checks -/

/-- A TCP check passes exactly when there is a route and the connection succeeds. -/
theorem checkTcp_passes_iff (family : IpFamily) :
    (wanted request (tcpId family) = true ∧ (checkTcp probes state family).check.status = .pass) ↔
      TcpConnects probes request state family := by
  cases family with
  | v6 =>
    unfold checkTcp TcpConnects tcpId
    cases state.lookupV6.route.isSome with
    | false => simp
    | true => simp [CheckBuilder.withProbe_status]
  | v4 =>
    unfold checkTcp TcpConnects tcpId
    cases state.lookupV4.route.isSome with
    | false => simp
    | true => simp [CheckBuilder.withProbe_status]
  | unspecified =>
    unfold checkTcp TcpConnects tcpId
    cases state.lookupV4.route.isSome with
    | false => simp
    | true => simp [CheckBuilder.withProbe_status]

/-- The checks made before the TLS handshake. -/
private def beforeTls : Plan := structuralPlan probes request state ++ transportPlan probes state

private theorem beforeTls_nodup : ((beforeTls probes request state).map Sigma.fst).Nodup := by
  have ids : (beforeTls probes request state).map Sigma.fst = engineIds.take 20 := rfl
  rw [ids]
  decide

/-- The TCP checks are made before the TLS handshake. -/
private theorem tcp_mem_beforeTls {family : IpFamily} (h : family ≠ .unspecified) :
    ⟨tcpId family, checkTcp probes state family⟩ ∈ beforeTls probes request state := by
  apply List.mem_append_right
  cases family with
  | unspecified => exact absurd rfl h
  | v4 => exact .tail _ (.tail _ (.tail _ (.tail _ (.head _))))
  | v6 => exact .tail _ (.tail _ (.tail _ (.tail _ (.tail _ (.head _)))))

/-- The TLS check sees a connection exactly when there is one. -/
theorem existing_passed_iff {family : IpFamily} (h : family ≠ .unspecified) :
    (pushWanted request (beforeTls probes request state)).any
        (fun c => c.key == checkKey (tcpId family) && c.status == .pass) = true ↔
      TcpConnects probes request state family := by
  have unique := mem_pushWanted_iff request (beforeTls_nodup probes request state)
    (tcp_mem_beforeTls probes request state h)
  rw [← checkTcp_passes_iff, List.any_eq_true]
  simp only [Bool.and_eq_true, beq_iff_eq]
  constructor
  · rintro ⟨c, here, key, pass⟩
    obtain ⟨want, rfl⟩ := (unique c).mp ⟨here, key⟩
    exact ⟨want, pass⟩
  · rintro ⟨want, pass⟩
    obtain ⟨here, key⟩ := (unique _).mpr ⟨want, rfl⟩
    exact ⟨_, here, key, pass⟩

/-- The TLS check fails exactly when the handshake over the family it prefers does. -/
theorem checkTls_fails_iff :
    (wanted request .tlsHandshake = true ∧
      (checkTls probes state (pushWanted request (beforeTls probes request state))).check.status
        = .fail) ↔ HandshakeFails probes request state := by
  have v6 := existing_passed_iff probes request state (by decide : IpFamily.v6 ≠ .unspecified)
  have v4 := existing_passed_iff probes request state (by decide : IpFamily.v4 ≠ .unspecified)
  unfold HandshakeFails checkTls
  rw [← v6, ← v4]
  apply and_congr_right
  intro _
  dsimp only [tcpId, checkKey]
  by_cases h6 : (pushWanted request (beforeTls probes request state)).any
      (fun c => c.key == "tcp.v6" && c.status == .pass) = true
  · simp [h6, CheckBuilder.withProbe_status]
  · by_cases h4 : (pushWanted request (beforeTls probes request state)).any
      (fun c => c.key == "tcp.v4" && c.status == .pass) = true
    · simp [h6, h4, CheckBuilder.withProbe_status]
    · simp [h6, h4]

/-- A successful MTU probe is reported as passed exactly when the kernel has cached nothing
    smaller. -/
theorem checkMtu_passes_iff (full : MeasuresFullSize probes request state) :
    (checkMtu probes state).check.status = .pass ↔ ¬ CachesSmallerMtu state := by
  obtain ⟨-, -, iface, target, ctx, family, egress, along, ok⟩ := full
  have caches : CachesSmallerMtu state ↔
      0 < routeMtu state family ∧ routeMtu state family < iface.mtu := by
    constructor
    · rintro ⟨iface', target', ctx', family', egress', along', small⟩
      rw [egress, Option.some.injEq] at egress'
      rw [along, Option.some.injEq, Prod.mk.injEq, Prod.mk.injEq] at along'
      obtain ⟨-, -, rfl⟩ := along'
      subst egress'
      exact small
    · intro small
      exact ⟨iface, target, ctx, family, egress, along, small⟩
  rw [caches]
  unfold checkMtu
  rw [egress, along]
  dsimp only
  by_cases small : 0 < routeMtu state family ∧ routeMtu state family < iface.mtu
  · simp [small]
  · rw [if_neg (by simpa using small), CheckBuilder.withProbe_status, if_pos ok]
    simp [small]

/-! ### When the rule is silenced -/

section Active

variable (active : request.passiveOnly = false)
include active

/-- The plan of an active run. -/
private theorem enginePlan_active : enginePlan probes request state =
    beforeTls probes request state ++
      tlsPlan probes state (pushWanted request (beforeTls probes request state)) := by
  unfold enginePlan beforeTls
  simp [active]

/-- What the rules learn about TCP. -/
theorem passed_tcp_iff (family : IpFamily) (h : family ≠ .unspecified) :
    (⟨runChecks probes request state⟩ : CheckIndex).passed (checkKey (tcpId family)) = true ↔
      TcpConnects probes request state family := by
  have mem := List.mem_append_left
    (tlsPlan probes state (pushWanted request (beforeTls probes request state)))
    (tcp_mem_beforeTls probes request state h)
  rw [← enginePlan_active probes request state active] at mem
  exact (status_runChecks probes request state mem .pass (by decide)).trans
    (checkTcp_passes_iff probes request state family)

/-- What the rules learn about TLS. -/
theorem failed_tls_iff :
    (⟨runChecks probes request state⟩ : CheckIndex).failed "tls.handshake" = true ↔
      HandshakeFails probes request state := by
  have mem : ⟨.tlsHandshake,
      checkTls probes state (pushWanted request (beforeTls probes request state))⟩ ∈
      enginePlan probes request state := by
    rw [enginePlan_active probes request state active]
    exact List.mem_append_right _ (.head _)
  exact (status_runChecks probes request state mem .fail (by decide)).trans
    (checkTls_fails_iff probes request state)

/-- What the rules learn about the path MTU. -/
theorem passed_mtu_iff :
    (⟨runChecks probes request state⟩ : CheckIndex).passed "mtu.pmtu" = true ↔
      wanted request .mtuPmtu = true ∧ (checkMtu probes state).check.status = .pass := by
  have mem : ⟨.mtuPmtu, checkMtu probes state⟩ ∈ enginePlan probes request state := by
    rw [enginePlan_active probes request state active]
    exact List.mem_append_right _ (.tail _ (.tail _ (.tail _ (.head _))))
  exact status_runChecks probes request state mem .pass (by decide)

/-- Over an active run that asks for the MTU check, the finding is reported exactly when the
    handshake fails and the MTU check did not pass. -/
theorem reports_mtuBlackhole_iff (want : wanted request .mtuPmtu = true) :
    (∃ f ∈ evaluate (runChecks probes request state) state, f.id = .mtuBlackhole) ↔
      HandshakeFails probes request state ∧ (checkMtu probes state).check.status ≠ .pass := by
  have tcpV4 : (⟨runChecks probes request state⟩ : CheckIndex).passed "tcp.v4" = true ↔
      TcpConnects probes request state .v4 :=
    passed_tcp_iff probes request state active .v4 (by decide)
  have tcpV6 : (⟨runChecks probes request state⟩ : CheckIndex).passed "tcp.v6" = true ↔
      TcpConnects probes request state .v6 :=
    passed_tcp_iff probes request state active .v6 (by decide)
  have rule : (.mtuBlackhole, ruleMtuBlackhole) ∈ rules := by simp [rules]
  rw [evaluate_reports_iff rule, ruleMtuBlackhole_isSome_iff, tcpV4, tcpV6,
    failed_tls_iff probes request state active, ← Bool.not_eq_true,
    passed_mtu_iff probes request state active]
  constructor
  · rintro ⟨-, fails, notPassed⟩
    exact ⟨fails, fun pass => notPassed ⟨want, pass⟩⟩
  · rintro ⟨fails, notPassed⟩
    -- A handshake is only attempted over a connection.
    have connected :
        TcpConnects probes request state .v4 ∨ TcpConnects probes request state .v6 := by
      obtain ⟨-, ⟨v6, -⟩ | ⟨-, v4, -⟩⟩ := fails
      · exact Or.inr v6
      · exact Or.inl v4
    exact ⟨connected, fails, fun passed => notPassed passed.2⟩

end Active

/-- **When a successful probe silences the rule.**  A run whose MTU probe got through at the
    full interface size reports no MTU black hole exactly when the kernel has no smaller path
    MTU cached for the measured route or the TLS handshake does not fail. -/
theorem mtuBlackhole_silenced_iff :
    (MeasuresFullSize probes request state →
        ¬ ∃ f ∈ evaluate (runChecks probes request state) state, f.id = .mtuBlackhole) ↔
      (MeasuresFullSize probes request state →
        ¬ (CachesSmallerMtu state ∧ HandshakeFails probes request state)) := by
  apply imp_congr_right
  intro full
  rw [reports_mtuBlackhole_iff probes request state full.1 full.2.1, ne_eq,
    checkMtu_passes_iff probes request state full, not_not, and_comm]

/-- Wi-Fi of MTU 1500, with a path MTU of 1400 cached for the IPv4 route. -/
def cachedState : DiagState :=
  let wlan0 : Interface :=
    { index := 3, name := "wlan0", kind := .wifi, flags := some { up := true }, mtu := 1500 }
  { emptyState with
    interfaces := [wlan0]
    egressV4 := some wlan0
    lookupV4 :=
      { route := some
          { family := .v4, table := 1003, isDefault := true
            nextHops := [{ outInterfaceIndex := 3, outInterfaceName := "wlan0" }]
            metrics := some { mtu := 1400 } } } }

/-- Every echo and every connection is answered, the TLS handshake is not. -/
def filteredTls : Probes where
  ping _ _ _ _ _ := ProbeResult.success "reply"
  kernelPathMtu _ _ := some 1400
  query _ _ _ _ _ _ := .error "no response within 100 ms"
  connect _ _ _ _ := ProbeResult.success "connected"
  tls _ _ _ := ProbeResult.failure "no ServerHello"
  firewall := {}
  readUidFirewall _ := {}

/-- There a full-size probe gets through and the rule blames the MTU all the same. -/
theorem cached_mtu_revives_blackhole :
    ¬ ∀ (probes : Probes) (request : DiagnoseRequest) (state : DiagState),
      MeasuresFullSize probes request state →
        ¬ ∃ f ∈ evaluate (runChecks probes request state) state, f.id = .mtuBlackhole := by
  intro silenced
  have full : MeasuresFullSize filteredTls {} cachedState := by
    refine ⟨rfl, rfl, _, _, _, _, rfl, rfl, ?_⟩
    rw [Mtu.discover_ok_iff]
    decide
  have caches : CachesSmallerMtu cachedState :=
    ⟨_, _, _, _, rfl, rfl, by decide, by decide⟩
  have fails : HandshakeFails filteredTls {} cachedState := by
    refine ⟨rfl, Or.inr ⟨?_, ⟨rfl, rfl, rfl⟩, rfl⟩⟩
    rintro ⟨-, route, -⟩
    exact absurd route (by decide)
  refine silenced filteredTls {} cachedState full ?_
  rw [reports_mtuBlackhole_iff _ _ _ full.1 full.2.1, ne_eq, checkMtu_passes_iff _ _ _ full]
  exact ⟨fails, not_not.mpr caches⟩

end Netdiag.Diag
