import Netdiag.Probe.Context

namespace Netdiag.Diag

/-!
# Diagnosis — checks

The `Check` message of `diag.proto` and the builder of `daemon/src/diag/mod.rs`.

* `CheckStatus` — the number in `Check.status`, an open enumeration: `toInt_bijective`;
  `CheckStatus.tryFrom` — what the daemon reads in it.
* `CheckId`, `checkKey` — the checks and their stable string keys; `checkKey_injective`.
* `CheckBuilder id` / `Report id` — a check under construction and a finished one.  Both
  carry that id and key are those of `id`, so a check filed under a foreign key cannot be
  built and the engine never has to ask.
* `Check.evidenceOf` — the evidence map, a `HashMap` in the source: the newest entry for a
  field hides the older ones.

Durations are left out.
-/

open Netdiag.Probe

/-- The field `status` of a `Check`.  It is an `i32`: the number of one of the seven values of
    `CheckStatus`, or any `other`. -/
inductive CheckStatus
  | unspecified
  | pass
  | fail
  | warn
  | skip
  | info
  | running
  | other (number : Int) (unknown : number < 0 ∨ 6 < number)
  deriving DecidableEq, Repr

namespace CheckStatus

/-- The number on the wire. -/
def toInt : CheckStatus → Int
  | unspecified => 0
  | pass => 1
  | fail => 2
  | warn => 3
  | skip => 4
  | info => 5
  | running => 6
  | other number _ => number

/-- `CheckStatus::try_from`. -/
def tryFrom (number : Int) : Option CheckStatus :=
  if number = 0 then some unspecified
  else if number = 1 then some pass
  else if number = 2 then some fail
  else if number = 3 then some warn
  else if number = 4 then some skip
  else if number = 5 then some info
  else if number = 6 then some running
  else none

/-- A number is refused exactly if none of the seven has it. -/
theorem tryFrom_eq_none_iff {number : Int} :
    tryFrom number = none ↔ number < 0 ∨ 6 < number := by
  unfold tryFrom
  split_ifs <;> simp <;> omega

/-- What is read in a number has that number. -/
theorem toInt_of_tryFrom {number : Int} {s : CheckStatus} (h : tryFrom number = some s) :
    s.toInt = number := by
  unfold tryFrom at h
  split_ifs at h <;> cases h <;> symm <;> assumption

/-- What is read is one of the seven. -/
theorem tryFrom_ne_other {number : Int} (m : Int) (unknown : m < 0 ∨ 6 < m) :
    tryFrom number ≠ some (other m unknown) := by
  intro h
  have same : m = number := toInt_of_tryFrom h
  rw [← same, tryFrom_eq_none_iff.mpr unknown] at h
  cases h

/-- **Every number is that of one status**, so nothing an `i32` can say is left out. -/
theorem toInt_bijective : Function.Bijective toInt := by
  refine ⟨fun s t h => ?_, fun number => ?_⟩
  · cases s <;> cases t <;> simp only [toInt] at h <;>
      first | rfl | (subst h; rfl) | omega
  · cases known : tryFrom number with
    | some s => exact ⟨s, toInt_of_tryFrom known⟩
    | none => exact ⟨other number (tryFrom_eq_none_iff.mp known), rfl⟩

/-- Each of the seven is read back from its number, and no other status is. -/
theorem tryFrom_toInt_eq_some_iff {s t : CheckStatus} :
    tryFrom s.toInt = some t ↔ s = t ∧ tryFrom t.toInt ≠ none := by
  constructor
  · intro h
    have hst : s = t := toInt_bijective.injective (toInt_of_tryFrom h).symm
    refine ⟨hst, ?_⟩
    rw [← hst, h]
    simp
  · rintro ⟨rfl, known⟩
    obtain ⟨t, ht⟩ := Option.ne_none_iff_exists'.mp known
    rw [ht, toInt_bijective.injective (toInt_of_tryFrom ht)]

end CheckStatus

/-- `CheckId`. -/
inductive CheckId
  | unspecified
  | androidNetworkState
  | activeInterface
  | ipv4Address
  | ipv6Address
  | ipv4DefaultRoute
  | ipv6DefaultRoute
  | gatewayReachabilityV4
  | gatewayReachabilityV6
  | dnsA
  | dnsAaaa
  | tcpV4
  | tcpV6
  | tlsHandshake
  | privateDns
  | nat64Dns64
  | vpnRouting
  | firewallAnomaly
  | mtuPmtu
  | suspiciousTcpStates
  | frameworkKernelAgreement
  | routingRuleCoverage
  | dnsLatency
  | captivePortal
  | routeLookupV4
  | routeLookupV6
  deriving DecidableEq, Repr

/-- The number of a check on the wire: its position in the enumeration. -/
def CheckId.toInt (id : CheckId) : Int := id.ctorIdx

/-- `check_key`. -/
def checkKey : CheckId → String
  | .unspecified => "unspecified"
  | .androidNetworkState => "android.state"
  | .activeInterface => "iface.active"
  | .ipv4Address => "addr.v4"
  | .ipv6Address => "addr.v6"
  | .ipv4DefaultRoute => "route.v4.default"
  | .ipv6DefaultRoute => "route.v6.default"
  | .gatewayReachabilityV4 => "gateway.v4"
  | .gatewayReachabilityV6 => "gateway.v6"
  | .dnsA => "dns.a"
  | .dnsAaaa => "dns.aaaa"
  | .tcpV4 => "tcp.v4"
  | .tcpV6 => "tcp.v6"
  | .tlsHandshake => "tls.handshake"
  | .privateDns => "dns.private"
  | .nat64Dns64 => "nat64.dns64"
  | .vpnRouting => "vpn.routing"
  | .firewallAnomaly => "firewall.anomaly"
  | .mtuPmtu => "mtu.pmtu"
  | .suspiciousTcpStates => "sockets.states"
  | .frameworkKernelAgreement => "framework.kernel"
  | .routingRuleCoverage => "rules.coverage"
  | .dnsLatency => "dns.latency"
  | .captivePortal => "captive.portal"
  | .routeLookupV4 => "route.lookup.v4"
  | .routeLookupV6 => "route.lookup.v6"

/-- **Keys are unique**, as the source's own test demands. -/
theorem checkKey_injective : Function.Injective checkKey := by
  intro a b h
  cases a <;> cases b <;> first | rfl | simp [checkKey] at h

/-- `Check`. -/
structure Check where
  id : CheckId
  key : String
  title : String
  status : CheckStatus := .unspecified
  detail : String := ""
  evidence : List (String × String) := []
  family : IpFamily := .unspecified
  error : Option Ipc.Error := none
  dependsOn : List String := []
  deriving DecidableEq, Repr

/-- The evidence a check holds under a field. -/
def Check.evidenceOf (c : Check) (field : String) : Option String := c.evidence.lookup field

/-! ### Building -/

/-- `CheckBuilder`: a check under construction, filed under `id`. -/
structure CheckBuilder (id : CheckId) where
  check : Check
  id_eq : check.id = id
  key_eq : check.key = checkKey id

/-- A finished check of `id`. -/
structure Report (id : CheckId) where
  check : Check
  id_eq : check.id = id
  key_eq : check.key = checkKey id

namespace CheckBuilder

variable {id : CheckId}

/-- `CheckBuilder::new`. -/
def new (id : CheckId) (title : String) : CheckBuilder id :=
  ⟨{ id, key := checkKey id, title }, rfl, rfl⟩

/-- `CheckBuilder::family`. -/
def family (b : CheckBuilder id) (family : IpFamily) : CheckBuilder id :=
  ⟨{ b.check with family }, b.id_eq, b.key_eq⟩

/-- `CheckBuilder::depends_on`. -/
def dependsOn (b : CheckBuilder id) (keys : List String) : CheckBuilder id :=
  ⟨{ b.check with dependsOn := keys }, b.id_eq, b.key_eq⟩

/-- `CheckBuilder::ev`. -/
def ev (b : CheckBuilder id) (key value : String) : CheckBuilder id :=
  ⟨{ b.check with evidence := (key, value) :: b.check.evidence }, b.id_eq, b.key_eq⟩

/-- `CheckBuilder::finish`. -/
def finish (b : CheckBuilder id) (status : CheckStatus) (detail : String) : Report id :=
  ⟨{ b.check with status, detail }, b.id_eq, b.key_eq⟩

/-- `CheckBuilder::pass`. -/
def pass (b : CheckBuilder id) (detail : String) : Report id := b.finish .pass detail

/-- `CheckBuilder::fail`. -/
def fail (b : CheckBuilder id) (detail : String) : Report id := b.finish .fail detail

/-- `CheckBuilder::warn`. -/
def warn (b : CheckBuilder id) (detail : String) : Report id := b.finish .warn detail

/-- `CheckBuilder::skip`. -/
def skip (b : CheckBuilder id) (detail : String) : Report id := b.finish .skip detail

/-- `CheckBuilder::info`. -/
def info (b : CheckBuilder id) (detail : String) : Report id := b.finish .info detail

/-- `CheckBuilder::with_probe`. -/
def withProbe (b : CheckBuilder id) (result : ProbeResult) : Report id :=
  let b : CheckBuilder id := ⟨{ b.check with error := result.toError }, b.id_eq, b.key_eq⟩
  let b := result.evidence.foldl (fun b e => b.ev e.1 e.2) b
  if result.ok then b.pass result.detail else b.fail result.detail

/-! ### What a finished check says -/

/-- `pass` reports a pass. -/
@[simp] theorem pass_status (b : CheckBuilder id) (d : String) : (b.pass d).check.status = .pass :=
  rfl

/-- `fail` reports a failure. -/
@[simp] theorem fail_status (b : CheckBuilder id) (d : String) : (b.fail d).check.status = .fail :=
  rfl

/-- `warn` reports a warning. -/
@[simp] theorem warn_status (b : CheckBuilder id) (d : String) : (b.warn d).check.status = .warn :=
  rfl

/-- `skip` reports a check that was skipped. -/
@[simp] theorem skip_status (b : CheckBuilder id) (d : String) : (b.skip d).check.status = .skip :=
  rfl

/-- `info` reports an observation. -/
@[simp] theorem info_status (b : CheckBuilder id) (d : String) : (b.info d).check.status = .info :=
  rfl

/-- A probe's check passes exactly when the probe succeeded, and fails otherwise. -/
theorem withProbe_status (b : CheckBuilder id) (result : ProbeResult) :
    (b.withProbe result).check.status = if result.ok then .pass else .fail := by
  unfold withProbe
  by_cases h : result.ok = true
  · simp [h]
  · simp [h]

/-- The evidence is there before the status is. -/
@[simp] theorem finish_evidenceOf (b : CheckBuilder id) (s : CheckStatus) (d field : String) :
    (b.finish s d).check.evidenceOf field = b.check.evidenceOf field := rfl

/-- A new check has no evidence. -/
@[simp] theorem evidenceOf_new (id : CheckId) (title field : String) :
    (new id title).check.evidenceOf field = none := rfl

/-- Writing a field hides what stood there and nothing else. -/
@[simp] theorem evidenceOf_ev (b : CheckBuilder id) (key value field : String) :
    (b.ev key value).check.evidenceOf field =
      if field = key then some value else b.check.evidenceOf field := by
  unfold Check.evidenceOf ev
  rw [List.lookup_cons]
  by_cases h : field = key
  · simp [h]
  · have hb : (field == key) = false := beq_false_of_ne h
    rw [hb, if_neg h]

end CheckBuilder

end Netdiag.Diag
