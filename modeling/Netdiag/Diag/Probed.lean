import Netdiag.Diag.Active

namespace Netdiag.Diag

/-!
# Diagnosis — a pass needs a probe that succeeded

Each probe-backed check of `daemon/src/diag/mod.rs` chooses whom to probe in its own way, and
has its own way to end in `Pass`.

* `gatewayProbes` … `mtuProbes` — the probes each check sends over a state, as their outcomes
  in the order they are made.
* `probeBacked` — the ten checks, each with its probes.
* `probed_iff` — no check passes without a probe that succeeded, except for `dns.private` over
  an active Private DNS whose servers come to nothing; a failed DNS check has tried every
  configured server.
-/

open Netdiag.Probe
open Netdiag.Probe.Dns

/-! ### The probes of a check -/

/-- Probes made one after the other until one succeeds. -/
def untilOk : List Bool → List Bool
  | [] => []
  | ok :: rest => if ok then [ok] else ok :: untilOk rest

/-- `check_gateway` pings the gateway of the family's route. -/
def gatewayProbes (probes : Probes) (state : DiagState) (family : IpFamily) : List Bool :=
  let (lookup, ctx) :=
    match family with
    | .v6 => (state.lookupV6, state.probeCtxV6)
    | _ => (state.lookupV4, state.probeCtxV4)
  match lookup.route with
  | none => []
  | some route =>
    match (route.nextHops.head?.getD {}).gateway.bind IpAddress.toIp with
    | none => []
    | some gateway => [(probes.ping (gatewayId family) gateway 2 56 ctx).ok]

/-- The probe `check_dns` makes of its server number `index`. -/
def dnsProbe (probes : Probes) (state : DiagState) (qtype index : Nat) (server : IpAddr) :
    ProbeResult :=
  let ctx := contextFor state server
  let addr : SocketAddr := ⟨server, 53⟩
  Dns.probe (probes.query (dnsId qtype) index addr state.hostname qtype ctx) addr
    state.hostname qtype ctx

/-- `check_dns` asks the servers in turn. -/
def dnsProbes (probes : Probes) (state : DiagState) (qtype : Nat) : List Bool :=
  untilOk (state.dnsServers.zipIdx.map (fun s => (dnsProbe probes state qtype s.2 s.1).ok))

/-- `check_tcp` connects once, if there is a route. -/
def tcpProbes (probes : Probes) (state : DiagState) (family : IpFamily) : List Bool :=
  let (endpoint, ctx, hasRoute) :=
    match family with
    | .v6 => (state.v6Endpoint, state.probeCtxV6, state.lookupV6.route.isSome)
    | _ => (state.v4Endpoint, state.probeCtxV4, state.lookupV4.route.isSome)
  if hasRoute then [(probes.connect (tcpId family) 0 endpoint ctx).ok] else []

/-- `check_tls` shakes hands over the family whose TCP check passed. -/
def tlsProbes (probes : Probes) (state : DiagState) (existing : List Check) : List Bool :=
  let passed (key : String) : Bool := existing.any (fun c => c.key == key && c.status == .pass)
  if passed "tcp.v6" then [(probes.tls state.v6Endpoint state.hostname state.probeCtxV6).ok]
  else if passed "tcp.v4" then [(probes.tls state.v4Endpoint state.hostname state.probeCtxV4).ok]
  else []

/-- The servers `check_private_dns` connects to. -/
def privateDnsServers (state : DiagState) (lp : LinkPropertiesInfo) : List IpAddr :=
  if lp.validatedPrivateDnsServers.isEmpty then state.dnsServers
  else lp.validatedPrivateDnsServers.filterMap IpAddress.toIp

/-- The link properties `check_private_dns` works with, unless Private DNS is off. -/
def privateDnsOn (state : DiagState) : Option LinkPropertiesInfo :=
  (state.network.bind (·.linkProperties)).filter (fun lp =>
    let mode := (PrivateDnsMode.tryFrom lp.privateDnsMode).getD .unspecified
    !(mode == .off || mode == .unspecified))

/-- `check_private_dns` connects to port 853 of every server. -/
def privateDnsProbes (probes : Probes) (state : DiagState) : List Bool :=
  match privateDnsOn state with
  | none => []
  | some lp => (privateDnsServers state lp).zipIdx.map (fun s =>
      (probes.connect .privateDns s.2 ⟨s.1, 853⟩ (contextFor state s.1)).ok)

/-- `check_nat64` asks the first server once; the query succeeds when it is answered. -/
def nat64Probes (probes : Probes) (state : DiagState) : List Bool :=
  match state.dnsServers with
  | [] => []
  | server :: _ =>
    [(probes.query .nat64Dns64 0 ⟨server, 53⟩ dns64ProbeName typeAaaa
      (contextFor state server)).isOk]

/-- `check_mtu` sends echoes of decreasing size. -/
def mtuProbes (probes : Probes) (state : DiagState) : List Bool :=
  match state.egressV4.or state.egressV6, mtuTarget state with
  | some iface, some (target, ctx, _) =>
    untilOk ((Mtu.candidateMtus (Mtu.effectiveMtu iface.mtu) target.isIpv6).map (fun mtu =>
      (probes.ping .mtuPmtu target 1 (Mtu.payloadForMtu mtu target.isIpv6) ctx).ok))
  | _, _ => []

/-- The probe-backed checks of a run, each with the outcomes of the probes it made;
    `existing` are the checks made before the TLS handshake. -/
def probeBacked (probes : Probes) (state : DiagState) (existing : List Check) :
    List (Check × List Bool) :=
  [((checkGateway probes state .v4).check, gatewayProbes probes state .v4),
    ((checkGateway probes state .v6).check, gatewayProbes probes state .v6),
    ((checkDns probes state typeA).check, dnsProbes probes state typeA),
    ((checkDns probes state typeAaaa).check, dnsProbes probes state typeAaaa),
    ((checkTcp probes state .v4).check, tcpProbes probes state .v4),
    ((checkTcp probes state .v6).check, tcpProbes probes state .v6),
    ((checkTls probes state existing).check, tlsProbes probes state existing),
    ((checkPrivateDns probes state).check, privateDnsProbes probes state),
    ((checkNat64 probes state).check, nat64Probes probes state),
    ((checkMtu probes state).check, mtuProbes probes state)]

/-! ### Servers in turn -/

section Servers

variable {id : CheckId} {probe : Nat → IpAddr → ProbeResult}

/-- A check that reports a probe passes when the probe did. -/
theorem withProbe_passes (b : CheckBuilder id) (r : ProbeResult) :
    (b.withProbe r).check.status = .pass ↔ r.ok = true := by
  rw [CheckBuilder.withProbe_status]
  cases r.ok with
  | false => simp
  | true => simp

/-- The loop passes only on a server that answered. -/
theorem tryServers_pass {b : CheckBuilder id} {servers : List IpAddr} {index : Nat}
    {last : Option ProbeResult} (failed : ∀ r ∈ last, r.ok = false)
    (h : (tryServers probe b servers index last).check.status = .pass) :
    true ∈ untilOk ((servers.zipIdx index).map (fun s => (probe s.2 s.1).ok)) := by
  induction servers generalizing b index last with
  | nil =>
    cases last with
    | none => simp [tryServers] at h
    | some r =>
      have ok := (withProbe_passes b r).mp h
      rw [failed r rfl] at ok
      exact absurd ok (by decide)
  | cons server rest ih =>
    simp only [List.zipIdx_cons, List.map_cons, untilOk]
    cases ok : (probe index server).ok with
    | true => simp
    | false =>
      simp only [tryServers, ok, Bool.false_eq_true, if_false] at h ⊢
      refine List.mem_cons_of_mem _ (ih ?_ h)
      rintro r ⟨⟩
      exact ok

/-- The loop fails only when no server answered. -/
theorem tryServers_fail {b : CheckBuilder id} {servers : List IpAddr} {index : Nat}
    {last : Option ProbeResult}
    (h : (tryServers probe b servers index last).check.status = .fail) :
    ∀ s ∈ servers.zipIdx index, (probe s.2 s.1).ok = false := by
  induction servers generalizing b index last with
  | nil => simp
  | cons server rest ih =>
    cases ok : (probe index server).ok with
    | true =>
      simp only [tryServers, ok, if_true] at h
      rw [CheckBuilder.withProbe_status, ok] at h
      exact absurd h (by decide)
    | false =>
      simp only [tryServers, ok, Bool.false_eq_true, if_false] at h
      intro s mem
      rw [List.zipIdx_cons, List.mem_cons] at mem
      rcases mem with rfl | mem
      · exact ok
      · exact ih h s mem

end Servers

/-! ### One check at a time -/

section Checks

variable {probes : Probes} {state : DiagState}

/-- A gateway that is said to answer has answered a probe. -/
theorem checkGateway_pass {family : IpFamily}
    (h : (checkGateway probes state family).check.status = .pass) :
    true ∈ gatewayProbes probes state family := by
  unfold checkGateway at h
  -- The families differ in the lookup and the context only.
  cases family
  all_goals
    dsimp only at h
    split at h
    · simp at h
    · rename_i route found
      split at h
      · simp at h
      · rename_i gateway parsed
        split at h
        · rename_i ok
          simp [gatewayProbes, found, parsed, ok]
        · split at h
          · simp at h
          · simp at h

/-- A lookup that is said to work has been answered by a server. -/
theorem checkDns_pass {qtype : Nat} (h : (checkDns probes state qtype).check.status = .pass) :
    true ∈ dnsProbes probes state qtype := by
  unfold checkDns at h
  dsimp only at h
  split at h
  · simp at h
  · exact tryServers_pass (by simp) h

/-- A failed DNS check has tried every configured server, in vain. -/
theorem checkDns_fail {qtype : Nat} (h : (checkDns probes state qtype).check.status = .fail) :
    ∀ s ∈ state.dnsServers.zipIdx, (dnsProbe probes state qtype s.2 s.1).ok = false := by
  unfold checkDns at h
  dsimp only at h
  split at h
  · simp at h
  · exact tryServers_fail h

/-- A family that is said to connect has connected. -/
theorem checkTcp_pass {family : IpFamily}
    (h : (checkTcp probes state family).check.status = .pass) :
    true ∈ tcpProbes probes state family := by
  unfold checkTcp at h
  unfold tcpProbes
  cases family
  all_goals
    dsimp only at h ⊢
    split_ifs at h with route
    · simp at h
    · rw [withProbe_passes] at h
      simp only [Bool.not_eq_true', Bool.not_eq_false] at route
      simp [route, h]

/-- A handshake that is said to complete has completed. -/
theorem checkTls_pass {existing : List Check}
    (h : (checkTls probes state existing).check.status = .pass) :
    true ∈ tlsProbes probes state existing := by
  unfold checkTls at h
  unfold tlsProbes
  dsimp only at h ⊢
  split_ifs at h ⊢
  · rw [withProbe_passes] at h
    simp [h]
  · rw [withProbe_passes] at h
    simp [h]
  · simp at h

/-- A prefix that is said to be there has been found by a probe. -/
theorem checkNat64_pass (h : (checkNat64 probes state).check.status = .pass) :
    true ∈ nat64Probes probes state := by
  unfold checkNat64 at h
  unfold nat64Probes
  dsimp only at h
  cases servers : state.dnsServers with
  | nil => simp [servers] at h
  | cons server rest =>
    simp only [servers] at h
    dsimp only
    cases answer : probes.query .nat64Dns64 0 ⟨server, 53⟩ dns64ProbeName typeAaaa
        (contextFor state server) with
    | ok a => simp [Except.isOk, Except.toBool]
    | error e =>
      -- Without an answer nothing was synthesised.
      simp only [answer] at h
      cases clat : state.clat.active with
      | true => simp [clat] at h
      | false => simp [clat] at h

/-- A path MTU that is said to be whole has carried a probe. -/
theorem checkMtu_pass (h : (checkMtu probes state).check.status = .pass) :
    true ∈ mtuProbes probes state := by
  unfold checkMtu at h
  unfold mtuProbes
  dsimp only at h
  split at h
  · simp at h
  · rename_i iface egress
    rw [egress]
    split at h
    · simp at h
    · rename_i target ctx family measured
      rw [measured]
      dsimp only
      split at h
      · simp at h
      · rw [withProbe_passes, Mtu.discover_ok_iff] at h
        -- The first size tried is the one that got through.
        have first := Mtu.head?_candidateMtus (Mtu.effectiveMtu iface.mtu) target.isIpv6
        rw [if_pos h.1, List.head?_eq_some_iff] at first
        obtain ⟨rest, sizes⟩ := first
        rw [sizes, List.map_cons, h.2]
        simp [untilOk]

/-- Private DNS is on and reported active, but there is no server to connect to: nothing
    is configured, or nothing of what was validated is an address. -/
def PrivateDnsUnprobed (state : DiagState) : Prop :=
  ∃ lp, privateDnsOn state = some lp ∧ lp.privateDnsActive = true ∧
    privateDnsServers state lp = []

/-- **`dns.private` passes on a server that answers, or on the framework's word alone.** -/
theorem checkPrivateDns_pass_iff :
    (checkPrivateDns probes state).check.status = .pass ↔
      ∃ lp, privateDnsOn state = some lp ∧ lp.privateDnsActive = true ∧
        (privateDnsServers state lp = [] ∨ true ∈ privateDnsProbes probes state) := by
  unfold checkPrivateDns privateDnsProbes privateDnsOn
  cases state.network with
  | none => simp
  | some network =>
  cases props : network.linkProperties with
  | none => simp [props]
  | some lp =>
    simp only [Option.bind_some, props, Option.filter_some]
    by_cases off : ((PrivateDnsMode.tryFrom lp.privateDnsMode).getD .unspecified == .off ||
        (PrivateDnsMode.tryFrom lp.privateDnsMode).getD .unspecified == .unspecified) = true
    · simp [off]
    · simp only [off, Bool.false_eq_true, if_false, Bool.not_false, if_true, Option.some.injEq,
        exists_eq_left']
      have on : ((PrivateDnsMode.tryFrom lp.privateDnsMode).getD .unspecified != .off) = true := by
        rw [Bool.not_eq_true, Bool.or_eq_false_iff] at off
        rw [bne, off.1]
        rfl
      have fold : (if lp.validatedPrivateDnsServers.isEmpty = true then state.dnsServers
          else lp.validatedPrivateDnsServers.filterMap IpAddress.toIp) =
        privateDnsServers state lp := rfl
      simp only [fold, on, Bool.and_true]
      generalize privateDnsServers state lp = servers
      -- The reachable servers are those whose probe succeeded.
      have answered : ((servers.zipIdx.map (fun s =>
            (s.1, probes.connect .privateDns s.2 ⟨s.1, 853⟩ (contextFor state s.1)))).filter
              (·.2.ok)).map (·.1.display) = [] ↔
          true ∉ servers.zipIdx.map (fun s =>
            (probes.connect .privateDns s.2 ⟨s.1, 853⟩ (contextFor state s.1)).ok) := by
        rw [List.map_eq_nil_iff, List.filter_map, List.map_eq_nil_iff, List.filter_eq_nil_iff,
          List.mem_map]
        simp
      split
      · rename_i unanswered
        rw [Bool.and_eq_true, List.isEmpty_iff, answered, Bool.not_eq_true',
          List.isEmpty_eq_false_iff] at unanswered
        have bad : ¬ (lp.privateDnsActive = true ∧ (servers = [] ∨ true ∈ servers.zipIdx.map
            (fun s => (probes.connect .privateDns s.2 ⟨s.1, 853⟩ (contextFor state s.1)).ok))) := by
          tauto
        rw [iff_false_right bad]
        split
        · simp
        · simp
      · rename_i some_
        rw [Bool.and_eq_true, List.isEmpty_iff, answered, Bool.not_eq_true',
          List.isEmpty_eq_false_iff] at some_
        cases active : lp.privateDnsActive with
        | false => simp
        | true =>
          simp only [Bool.not_true, Bool.false_eq_true, if_false, CheckBuilder.pass_status,
            true_and, true_iff]
          tauto

/-- Away from the one exception, every passing check has a probe that succeeded. -/
theorem mem_probes_of_pass (probed : ¬ PrivateDnsUnprobed state) {existing : List Check}
    {entry : Check × List Bool} (mem : entry ∈ probeBacked probes state existing)
    (h : entry.1.status = .pass) : true ∈ entry.2 := by
  simp only [probeBacked, List.mem_cons, List.not_mem_nil, or_false] at mem
  rcases mem with rfl | rfl | rfl | rfl | rfl | rfl | rfl | rfl | rfl | rfl
  · exact checkGateway_pass h
  · exact checkGateway_pass h
  · exact checkDns_pass h
  · exact checkDns_pass h
  · exact checkTcp_pass h
  · exact checkTcp_pass h
  · exact checkTls_pass h
  · obtain ⟨lp, on, active, none_ | answered⟩ := checkPrivateDns_pass_iff.mp h
    · exact absurd ⟨lp, on, active, none_⟩ probed
    · exact answered
  · exact checkNat64_pass h
  · exact checkMtu_pass h

/-- In the exception `dns.private` passes although it probed nothing. -/
theorem checkPrivateDns_unprobed (unprobed : PrivateDnsUnprobed state) :
    (checkPrivateDns probes state).check.status = .pass ∧ privateDnsProbes probes state = [] := by
  obtain ⟨lp, on, active, none_⟩ := unprobed
  refine ⟨checkPrivateDns_pass_iff.mpr ⟨lp, on, active, Or.inl none_⟩, ?_⟩
  unfold privateDnsProbes
  rw [on]
  dsimp only
  rw [none_]
  rfl

end Checks

/-- What the claims of the probe-backed checks rest on: a pass has a probe that succeeded,
    and a failed DNS check has no server that answered. -/
structure Probed (probes : Probes) (state : DiagState) (existing : List Check) : Prop where
  pass : ∀ entry ∈ probeBacked probes state existing, entry.1.status = .pass → true ∈ entry.2
  fail : ∀ qtype ∈ [typeA, typeAaaa], (checkDns probes state qtype).check.status = .fail →
    ∀ s ∈ state.dnsServers.zipIdx, (dnsProbe probes state qtype s.2 s.1).ok = false

/-- **No pass without a probe.**  Whatever the probes return, every probe-backed check that
    passes has a probe that succeeded and a failed DNS check has tried all servers, exactly
    when Private DNS is off, inactive or has a server to connect to. -/
theorem probed_iff (probes : Probes) (state : DiagState) (existing : List Check) :
    Probed probes state existing ↔ ¬ PrivateDnsUnprobed state := by
  constructor
  · intro all unprobed
    obtain ⟨passes, none_⟩ : (checkPrivateDns probes state).check.status = .pass ∧
        privateDnsProbes probes state = [] := checkPrivateDns_unprobed unprobed
    have answered := all.pass ((checkPrivateDns probes state).check,
      privateDnsProbes probes state) (by simp [probeBacked]) passes
    rw [none_] at answered
    exact absurd answered List.not_mem_nil
  · intro probed
    refine ⟨fun entry mem h => mem_probes_of_pass probed mem h, ?_⟩
    intro qtype _ h
    exact checkDns_fail h

/-- Strict Private DNS, reported active, whose one validated server has no bytes: an address
    without its payload. -/
def emptyValidatedServer : DiagState :=
  { emptyState with
    network := some
      { netId := 100
        linkProperties := some
          { privateDnsMode := 3, privateDnsActive := true
            privateDnsServerName := "dns.example"
            validatedPrivateDnsServers := [⟨[]⟩] } } }

/-- There `dns.private` reports a working Private DNS without having probed anything. -/
theorem emptyValidatedServer_not_probed :
    ¬ ∀ (probes : Probes) (state : DiagState) (existing : List Check),
      Probed probes state existing := by
  intro all
  have unprobed : PrivateDnsUnprobed emptyValidatedServer := ⟨_, rfl, rfl, rfl⟩
  obtain ⟨passes, none_⟩ : (checkPrivateDns .unanswered emptyValidatedServer).check.status = .pass ∧
      privateDnsProbes .unanswered emptyValidatedServer = [] := checkPrivateDns_unprobed unprobed
  have answered := (all .unanswered emptyValidatedServer []).pass
    ((checkPrivateDns .unanswered emptyValidatedServer).check,
      privateDnsProbes .unanswered emptyValidatedServer) (by simp [probeBacked]) passes
  rw [none_] at answered
  exact absurd answered List.not_mem_nil

end Netdiag.Diag
