import Netdiag.Probe.Context

namespace Netdiag.Probe.Dns

/-!
# Probes — DNS

`daemon/src/probe/dns.rs`, above the wire format: what a query's outcome is turned into.

* `DnsAnswer` — a decoded response; a query answers with one or with an error text.
* `probe` — a query packaged as a `ProbeResult`.
* `extractNat64Prefix` — the NAT64 prefix of a synthesised AAAA record (RFC 7050).
-/

/-- `TYPE_A`. -/
def typeA : Nat := 1

/-- `TYPE_AAAA`. -/
def typeAaaa : Nat := 28

/-- `RCode`. -/
inductive RCode
  | noError
  | formErr
  | servFail
  | nxDomain
  | notImp
  | refused
  | other (v : Nat)
  deriving DecidableEq, Repr

/-- `RCode::name`. -/
def RCode.name : RCode → String
  | .noError => "NOERROR"
  | .formErr => "FORMERR"
  | .servFail => "SERVFAIL"
  | .nxDomain => "NXDOMAIN"
  | .notImp => "NOTIMP"
  | .refused => "REFUSED"
  | .other v => s!"RCODE{v}"

/-- `Display` of a socket address. -/
def displaySocketAddr (a : SocketAddr) : String :=
  if a.ip.isIpv6 then s!"[{a.ip.display}]:{a.port}" else s!"{a.ip.display}:{a.port}"

/-- `DnsAnswer`. -/
structure DnsAnswer where
  addresses : List IpAddr
  rcode : RCode
  truncated : Bool
  authoritative : Bool
  answerCount : Nat
  durationMs : Nat
  server : SocketAddr
  deriving DecidableEq, Repr

open ProbeResult

/-- `dns::probe`, given the outcome of its query. -/
def probe (outcome : Except String DnsAnswer) (server : SocketAddr) (name : String) (qtype : Nat)
    (ctx : ProbeContext) : ProbeResult :=
  let typeName := if qtype = typeA then "A" else "AAAA"
  match outcome with
  | .ok answer =>
    let addresses := answer.addresses.map IpAddr.display
    -- An answer without addresses is a failure, though no error.
    let ok := answer.rcode == .noError && !answer.addresses.isEmpty
    let detail :=
      if ok then
        s!"{typeName} {name} -> " ++ ", ".intercalate addresses ++ s!" in {answer.durationMs} ms"
      else if answer.rcode = .noError then
        s!"{typeName} {name} returned NOERROR with no records"
      else s!"{typeName} {name} returned {answer.rcode.name}"
    let result := if ok then success detail else failure detail
    let result :=
      ((((result.with_ "server" (displaySocketAddr answer.server)).with_ "rcode"
        answer.rcode.name).with_ "answers" (toString answer.answerCount)).with_ "authoritative"
        (toString answer.authoritative)).with_ "routing" ctx.describe
    let result :=
      if addresses.isEmpty then result
      else result.with_ "addresses" (", ".intercalate addresses)
    if answer.truncated then
      result.with_ "truncated" "yes (response exceeded 512 bytes over UDP)"
    else result
  | .error e =>
    ((failure s!"{typeName} {name} failed: {e}").with_ "server" (displaySocketAddr server)).with_
      "routing" ctx.describe

/-! ### NAT64 -/

/-- `DNS64_PROBE_NAME`. -/
def dns64ProbeName : String := "ipv4only.arpa"

/-- `Ipv6Addr::octets`. -/
def octets (bits : BitVec 128) : List (BitVec 8) :=
  (List.range 16).map (fun i => (bits >>> (8 * (15 - i))).setWidth 8)

/-- `WKA`: the well-known addresses 192.0.0.170 and 192.0.0.171. -/
def wka : List (List (BitVec 8)) := [[192, 0, 0, 170], [192, 0, 0, 171]]

/-- The four octets from `offset` on that would hold an embedded address; the 40 to 64 bit
    variants step over the reserved octet 8. -/
def embedded (octets : List (BitVec 8)) (offset prefixLen : Nat) : List (BitVec 8) :=
  (((octets.zipIdx.drop offset).filter
    (fun o => !(o.2 == 8 && decide (prefixLen < 96) && prefixLen != 32))).take 4).map Prod.fst

/-- `extract_nat64_prefix`. -/
def extractNat64Prefix (addr : BitVec 128) : Option (BitVec 128 × Nat) :=
  let octets := octets addr
  [(4, 32), (5, 40), (6, 48), (8, 56), (9, 64), (12, 96)].findSome? (fun variant =>
    let (offset, prefixLen) := variant
    let candidate := embedded octets offset prefixLen
    -- Too short to hold an IPv4 address behind the prefix.
    if candidate.length < 4 then none
    else if wka.contains candidate then
      let kept := octets.zipIdx.map (fun o => if o.2 < prefixLen / 8 then o.1 else 0)
      some (ofBytes 128 kept, prefixLen)
    else none)

end Netdiag.Probe.Dns
