import Mathlib.Data.BitVec

namespace Netdiag

/-!
# Addresses

`std::net::IpAddr` and the `IpFamily` / `IpPrefix` messages of `common.proto`.

* `IpAddr` — an address of either family; `IpAddr.family`.
* `IpAddr.display` — its `Display` text: dotted quads for IPv4, the compressed form of the
  standard library for IPv6.
* `IpPrefix` — an address with a prefix length, built by `IpPrefix::new`.
-/

/-- `IpFamily` of `common.proto`. -/
inductive IpFamily
  | unspecified
  | v4
  | v6
  deriving DecidableEq, Repr

/-- `std::net::IpAddr`. -/
inductive IpAddr
  | v4 (bits : BitVec 32)
  | v6 (bits : BitVec 128)
  deriving DecidableEq, Repr

namespace IpAddr

/-- `IpAddr::is_ipv4`. -/
def isIpv4 : IpAddr → Bool
  | .v4 _ => true
  | .v6 _ => false

/-- `IpAddr::is_ipv6`. -/
def isIpv6 : IpAddr → Bool
  | .v4 _ => false
  | .v6 _ => true

/-- The family an address belongs to. -/
def family (ip : IpAddr) : IpFamily := if ip.isIpv4 then .v4 else .v6

@[simp] theorem family_v4 (bits : BitVec 32) : (IpAddr.v4 bits).family = .v4 := rfl

@[simp] theorem family_v6 (bits : BitVec 128) : (IpAddr.v6 bits).family = .v6 := rfl

/-! ### Text -/

/-- `Display` of an IPv4 address. -/
def displayV4 (bits : BitVec 32) : String :=
  ".".intercalate ([24, 16, 8, 0].map (fun k => toString ((bits >>> k).toNat % 256)))

/-- The eight groups of an IPv6 address. -/
def segments (bits : BitVec 128) : List Nat :=
  [112, 96, 80, 64, 48, 32, 16, 0].map (fun k => (bits >>> k).toNat % 65536)

/-- Start and length of the first longest run of zero groups. -/
def longestZeroes (segments : List Nat) : Nat × Nat :=
  let step (acc : (Nat × Nat) × (Nat × Nat)) (e : Nat × Nat) :=
    let (longest, current) := acc
    if e.1 = 0 then
      let current := if current.2 = 0 then (e.2, 1) else (current.1, current.2 + 1)
      (if longest.2 < current.2 then current else longest, current)
    else (longest, (0, 0))
  (segments.zipIdx.foldl step ((0, 0), (0, 0))).1

/-- Groups in hexadecimal, separated by colons. -/
def displaySegments (segments : List Nat) : String :=
  ":".intercalate (segments.map (fun n => String.ofList (Nat.toDigits 16 n)))

/-- `Display` of an IPv6 address. -/
def displayV6 (bits : BitVec 128) : String :=
  let groups := segments bits
  if groups.take 6 = [0, 0, 0, 0, 0, 65535] then
    "::ffff:" ++ displayV4 (bits.setWidth 32)
  else
    let (start, len) := longestZeroes groups
    if 1 < len then
      displaySegments (groups.take start) ++ "::" ++ displaySegments (groups.drop (start + len))
    else displaySegments groups

/-- `Display` of an address. -/
def display : IpAddr → String
  | .v4 bits => displayV4 bits
  | .v6 bits => displayV6 bits

end IpAddr

/-- `proto::IpPrefix` with its address set. -/
structure IpPrefix where
  address : IpAddr
  prefixLen : Nat
  deriving DecidableEq, Repr

/-- `IpPrefix::display`. -/
def IpPrefix.display (p : IpPrefix) : String := s!"{p.address.display}/{p.prefixLen}"

end Netdiag
