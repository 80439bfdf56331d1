import Netdiag.Lib.Vectors
import Netdiag.Probe.DnsQuery

namespace Netdiag.Probe.Tls

/-!
# Probes — the TLS ClientHello

`client_hello` of `daemon/src/probe/tls.rs`, with every cast to a length field as the source
makes it, and the record as RFC 8446 reads it.

* `clientHello` — the bytes that are sent; the two seeds are the readings of the clock.
* `parseHello` — reads a record in which every length gives exactly what it covers.
* `wellFormed_clientHello_iff` — the record is read exactly as long as the name leaves room for
  its own length.
-/

open Vectors Dns

/-! ### The code -/

/-- `as u16` and `to_be_bytes`. -/
def u16 (n : Nat) : List (BitVec 8) := field16 (BitVec.ofNat 16 n)

/-- An extension behind its type and length. -/
def extension (kind : Nat) (data : List (BitVec 8)) : List (BitVec 8) :=
  u16 kind ++ (u16 data.length ++ data)

/-- The data of `server_name`: a list of one host name. -/
def sni (host : List (BitVec 8)) : List (BitVec 8) :=
  u16 (host.length + 3) ++ (0 :: (u16 host.length ++ host))

/-- The x25519 entry of `key_share`. -/
def keyShareEntry (seed : BitVec 64) : List (BitVec 8) :=
  u16 0x001d ++ (u16 32 ++ (List.range 32).map fun i =>
    (seed.rotateLeft (i % 63) ^^^ BitVec.ofNat 64 i * 97).setWidth 8)

/-- `key_share`. -/
def keyShare (entry : List (BitVec 8)) : List (BitVec 8) :=
  u16 0x0033 ++ (u16 (entry.length + 2) ++ (u16 entry.length ++ entry))

/-- The client random. -/
def random (seed : BitVec 64) : List (BitVec 8) :=
  (List.range 32).map fun i => (seed >>> (i % 56) ^^^ BitVec.ofNat 64 i * 31).setWidth 8

/-- The name is sent: it is neither empty nor an IP literal. -/
def named (serverName : String) : Bool :=
  !serverName.isEmpty && (IpAddr.parse serverName.toList).isNone

/-- `server_name.as_bytes()`. -/
def hostBytes (serverName : String) : List (BitVec 8) := labelBytes serverName.toList

/-- The extensions. -/
def extensions (keySeed : BitVec 64) (serverName : String) : List (BitVec 8) :=
  (if named serverName then extension 0x0000 (sni (hostBytes serverName)) else []) ++
    (extension 0x002b [0x04, 0x03, 0x04, 0x03, 0x03] ++
      (extension 0x000a [0x00, 0x04, 0x00, 0x1d, 0x00, 0x17] ++
        (extension 0x000d [0x00, 0x04, 0x04, 0x03, 0x08, 0x04] ++
          keyShare (keyShareEntry keySeed))))

/-- `cipher_suites`. -/
def cipherSuites : List (BitVec 8) := [0x13, 0x01, 0x13, 0x02, 0x13, 0x03, 0xc0, 0x2f]

/-- The ClientHello: version, random, no session id, the cipher suites, one compression method
    and the extensions. -/
def helloBody (randomSeed : BitVec 64) (exts : List (BitVec 8)) : List (BitVec 8) :=
  u16 0x0303 ++ (random randomSeed ++ ([0] ++ (u16 cipherSuites.length ++ (cipherSuites ++
    ([1] ++ ([0] ++ (u16 exts.length ++ exts)))))))

/-- The handshake message around it. -/
def handshake (body : List (BitVec 8)) : List (BitVec 8) :=
  0x01 :: ([BitVec.ofNat 8 (body.length >>> 16), BitVec.ofNat 8 (body.length >>> 8),
    BitVec.ofNat 8 body.length] ++ body)

/-- The record around that. -/
def record (fragment : List (BitVec 8)) : List (BitVec 8) :=
  0x16 :: (u16 0x0301 ++ (u16 fragment.length ++ fragment))

/-- `client_hello`. -/
def clientHello (keySeed randomSeed : BitVec 64) (serverName : String) : List (BitVec 8) :=
  record (handshake (helloBody randomSeed (extensions keySeed serverName)))

/-! ### Reading a record -/

/-- A ClientHello, taken apart. -/
structure Hello where
  version : List (BitVec 8)
  random : List (BitVec 8)
  sessionId : List (BitVec 8)
  cipherSuites : List (BitVec 8)
  compression : List (BitVec 8)
  extensions : List (List (BitVec 8) × List (BitVec 8))
  deriving DecidableEq, Repr

/-- The fragment of a handshake record, which is all that follows. -/
def parseRecord (bytes : List (BitVec 8)) : Option (List (BitVec 8)) :=
  if bytes.head? = some 0x16 then wholeVec 2 (bytes.drop 3) else none

/-- The body of a ClientHello message, which is all that follows. -/
def parseHandshake (bytes : List (BitVec 8)) : Option (List (BitVec 8)) :=
  if bytes.head? = some 0x01 then wholeVec 3 (bytes.drop 1) else none

/-- The fields of the body; the extensions go on to its end. -/
def parseBody (bytes : List (BitVec 8)) : Option Hello := do
  let (version, rest) ← takeN 2 bytes
  let (random, rest) ← takeN 32 rest
  let (sessionId, rest) ← takeVec 1 rest
  let (cipherSuites, rest) ← takeVec 2 rest
  let (compression, rest) ← takeVec 1 rest
  let exts ← wholeVec 2 rest
  let extensions ← takeEntries 2 2 exts.length exts
  return { version, random, sessionId, cipherSuites, compression, extensions }

/-- A record that is one ClientHello. -/
def parseHello (bytes : List (BitVec 8)) : Option Hello := do
  parseBody (← parseHandshake (← parseRecord bytes))

/-- The host name in the data of `server_name`: the list fills the data, and the name the
    list. -/
def hostName (data : List (BitVec 8)) : Option (List (BitVec 8)) := do
  let list ← wholeVec 2 data
  if list.head? = some 0 then wholeVec 2 (list.drop 1) else none

/-- The extensions `server_name`, as host names. -/
def Hello.serverNames (hello : Hello) : List (Option (List (BitVec 8))) :=
  (hello.extensions.filter fun e => e.1 == u16 0x0000).map fun e => hostName e.2

/-- The record is read to the end, and has the name exactly if it is one to send. -/
def WellFormed (bytes : List (BitVec 8)) (serverName : String) : Prop :=
  ∃ hello, parseHello bytes = some hello ∧
    hello.serverNames = if named serverName then [some (hostBytes serverName)] else []

/-! ### Length fields -/

/-- A half word is two octets, whatever it is. -/
@[simp] theorem length_u16 (n : Nat) : (u16 n).length = 2 := rfl

/-- A half word is read back up to the bits that were cut off. -/
theorem bigEndian_u16 (n : Nat) : bigEndian (u16 n) = n % 2 ^ 16 := by
  simp only [bigEndian, u16, field16, List.foldl_cons, List.foldl_nil, BitVec.toNat_setWidth,
    BitVec.toNat_ushiftRight, BitVec.toNat_ofNat, Nat.shiftRight_eq_div_pow]
  omega

/-- A half word that fits is read back. -/
theorem bigEndian_u16_of_lt {n : Nat} (h : n < 2 ^ 16) : bigEndian (u16 n) = n := by
  rw [bigEndian_u16, Nat.mod_eq_of_lt h]

/-- A record is read exactly if its length fits the field. -/
theorem parseRecord_record (fragment : List (BitVec 8)) :
    parseRecord (record fragment) = if fragment.length < 2 ^ 16 then some fragment else none := by
  have hwhole : wholeVec 2 ((record fragment).drop 3) =
      if bigEndian (u16 fragment.length) = fragment.length then some fragment else none :=
    wholeVec_append (length_u16 _)
  unfold parseRecord
  rw [if_pos (show (record fragment).head? = some 0x16 from rfl), hwhole, bigEndian_u16]
  -- A cast to 16 bits keeps a length only if it was smaller than 2^16.
  by_cases hlt : fragment.length < 2 ^ 16
  · rw [if_pos hlt, if_pos (Nat.mod_eq_of_lt hlt)]
  · have hmod := Nat.mod_lt fragment.length (show 0 < 2 ^ 16 by decide)
    rw [if_neg hlt, if_neg (by omega)]

/-- A handshake message is read back as long as its length fits. -/
theorem parseHandshake_handshake {body : List (BitVec 8)} (h : body.length < 2 ^ 24) :
    parseHandshake (handshake body) = some body := by
  have hwhole : wholeVec 3 ((handshake body).drop 1) =
      if bigEndian [BitVec.ofNat 8 (body.length >>> 16), BitVec.ofNat 8 (body.length >>> 8),
        BitVec.ofNat 8 body.length] = body.length then some body else none :=
    wholeVec_append rfl
  have hvalue : bigEndian [BitVec.ofNat 8 (body.length >>> 16), BitVec.ofNat 8 (body.length >>> 8),
      BitVec.ofNat 8 body.length] = body.length := by
    simp only [bigEndian, List.foldl_cons, List.foldl_nil, BitVec.toNat_ofNat,
      Nat.shiftRight_eq_div_pow]
    omega
  unfold parseHandshake
  rw [if_pos (show (handshake body).head? = some 0x01 from rfl), hwhole, if_pos hvalue]

/-- The server name is read back as long as its lengths fit. -/
theorem hostName_sni {host : List (BitVec 8)} (h : host.length + 3 < 2 ^ 16) :
    hostName (sni host) = some host := by
  have hlist : wholeVec 2 (sni host) = some (0 :: (u16 host.length ++ host)) := by
    have hlen : (0 :: (u16 host.length ++ host)).length = host.length + 3 := by
      simp only [List.length_cons, List.length_append, length_u16]
      omega
    unfold sni
    rw [wholeVec_append (length_u16 _), hlen, if_pos (bigEndian_u16_of_lt h)]
  have hname : wholeVec 2 (u16 host.length ++ host) = some host := by
    rw [wholeVec_append (length_u16 _), if_pos (bigEndian_u16_of_lt (by omega))]
  unfold hostName
  rw [hlist]
  exact hname

/-! ### The extensions -/

/-- The extensions that are always there, each with its type. -/
def fixedEntries (keySeed : BitVec 64) : List (List (BitVec 8) × List (BitVec 8)) :=
  [(u16 0x002b, [0x04, 0x03, 0x04, 0x03, 0x03]),
    (u16 0x000a, [0x00, 0x04, 0x00, 0x1d, 0x00, 0x17]),
    (u16 0x000d, [0x00, 0x04, 0x04, 0x03, 0x08, 0x04]),
    (u16 0x0033, u16 (keyShareEntry keySeed).length ++ keyShareEntry keySeed)]

/-- The extensions, each with its type. -/
def entries (keySeed : BitVec 64) (serverName : String) :
    List (List (BitVec 8) × List (BitVec 8)) :=
  (if named serverName then [(u16 0x0000, sni (hostBytes serverName))] else []) ++
    fixedEntries keySeed

variable {keySeed randomSeed : BitVec 64} {serverName : String}

/-- The server name extension has five octets around the name. -/
theorem length_sni (host : List (BitVec 8)) : (sni host).length = host.length + 5 := by
  simp only [sni, List.length_append, List.length_cons, length_u16]
  omega

/-- The extensions are printed one after the other, each with its length. -/
theorem extensions_eq : extensions keySeed serverName =
    (entries keySeed serverName).flatMap fun e => e.1 ++ (u16 e.2.length ++ e.2) := by
  -- `key_share` adds two to the length of its entry, which is the length of its data.
  have hkey : keyShare (keyShareEntry keySeed) = extension 0x0033
      (u16 (keyShareEntry keySeed).length ++ keyShareEntry keySeed) := rfl
  unfold extensions entries
  rw [List.flatMap_append, hkey]
  congr 1
  split
  · exact (List.append_nil _).symm
  · rfl

/-- The bytes of the name, if it is sent. -/
def nameLength (serverName : String) : Nat :=
  if named serverName then (hostBytes serverName).length + 9 else 0

/-- Of the extensions only the server name has a length that varies. -/
theorem length_extensions :
    (extensions keySeed serverName).length = nameLength serverName + 71 := by
  unfold extensions nameLength
  rw [List.length_append]
  split
  · have hrest : (extension 0x002b [0x04, 0x03, 0x04, 0x03, 0x03] ++
        (extension 0x000a [0x00, 0x04, 0x00, 0x1d, 0x00, 0x17] ++
          (extension 0x000d [0x00, 0x04, 0x04, 0x03, 0x08, 0x04] ++
            keyShare (keyShareEntry keySeed)))).length = 71 := rfl
    rw [hrest, extension, List.length_append, List.length_append, length_u16, length_u16,
      length_sni]
    omega
  · rfl

/-- The hello has forty-nine octets besides its extensions. -/
theorem length_helloBody (exts : List (BitVec 8)) :
    (helloBody randomSeed exts).length = exts.length + 49 := by
  have hrandom : (random randomSeed).length = 32 := rfl
  simp only [helloBody, List.length_append, length_u16, hrandom, List.length_singleton]
  show 2 + (32 + (1 + (2 + (8 + (1 + (1 + (2 + exts.length))))))) = _
  omega

/-- The handshake header has four octets. -/
theorem length_handshake (body : List (BitVec 8)) : (handshake body).length = body.length + 4 := rfl

/-! ### The record -/

/-- The extensions that do not depend on the name fit. -/
theorem lengths_fixedEntries (keySeed : BitVec 64) :
    ∀ e ∈ fixedEntries keySeed, e.1.length = 2 ∧ e.2.length < 2 ^ 16 := by
  have hkey : (u16 (keyShareEntry keySeed).length ++ keyShareEntry keySeed).length = 38 := rfl
  simp [fixedEntries, hkey]

/-- All extensions fit if the name does. -/
theorem lengths_entries (h : nameLength serverName < 2 ^ 16) :
    ∀ e ∈ entries keySeed serverName, e.1.length = 2 ∧ e.2.length < 2 ^ 16 := by
  intro e he
  rcases List.mem_append.mp he with he | he
  · split at he
    · rename_i hnamed
      rw [List.mem_singleton] at he
      subst he
      rw [nameLength, if_pos hnamed] at h
      refine ⟨rfl, ?_⟩
      rw [length_sni]
      omega
    · cases he
  · exact lengths_fixedEntries keySeed e he

/-- The extensions parse to the end. -/
theorem takeEntries_extensions (h : nameLength serverName < 2 ^ 16) :
    takeEntries 2 2 (extensions keySeed serverName).length (extensions keySeed serverName) =
      some (entries keySeed serverName) := by
  have hlengths : ∀ e ∈ entries keySeed serverName, _ := lengths_entries h
  have hcount : (entries keySeed serverName).length ≤ 5 := by
    unfold entries
    split <;> exact Nat.le_of_ble_eq_true rfl
  rw [length_extensions, extensions_eq]
  exact takeEntries_flatMap u16 length_u16 (by decide) (fun e he => (hlengths e he).1)
    (fun e he => bigEndian_u16_of_lt (hlengths e he).2) (by omega)

/-- The hello is read back as long as its extensions fit. -/
theorem parseBody_helloBody {exts : List (BitVec 8)}
    {es : List (List (BitVec 8) × List (BitVec 8))} (hlen : exts.length < 2 ^ 16)
    (hes : takeEntries 2 2 exts.length exts = some es) :
    parseBody (helloBody randomSeed exts) = some {
      version := u16 0x0303, random := random randomSeed, sessionId := [], cipherSuites,
      compression := [0], extensions := es } := by
  have hexts : wholeVec 2 (u16 exts.length ++ exts) = some exts := by
    rw [wholeVec_append (length_u16 _), if_pos (bigEndian_u16_of_lt hlen)]
  have hrandom : (random randomSeed).length = 32 := rfl
  have hcompression : takeVec 1 ([1] ++ ([0] ++ (u16 exts.length ++ exts))) =
      some ([0], u16 exts.length ++ exts) := takeVec_append rfl rfl
  have hsuites : takeVec 2 (u16 cipherSuites.length ++ (cipherSuites ++
      ([1] ++ ([0] ++ (u16 exts.length ++ exts))))) =
        some (cipherSuites, [1] ++ ([0] ++ (u16 exts.length ++ exts))) :=
    takeVec_append rfl rfl
  have hsession : ∀ rest, takeVec 1 ([0] ++ rest) = some ([], rest) := by
    intro rest
    show takeVec 1 ([0] ++ ([] ++ rest)) = some ([], rest)
    exact takeVec_append rfl rfl
  unfold parseBody helloBody
  simp only [takeN_append (length_u16 _), takeN_append hrandom, hsession, hsuites, hcompression,
    hexts, hes, Option.bind_eq_bind, Option.bind_some, Option.pure_def]

/-- The names found in the extensions. -/
theorem serverNames_entries {hello : Hello} (h : nameLength serverName < 2 ^ 16)
    (hes : hello.extensions = entries keySeed serverName) :
    hello.serverNames = if named serverName then [some (hostBytes serverName)] else [] := by
  have hfixed : (fixedEntries keySeed).filter (fun e => e.1 == u16 0x0000) = [] := rfl
  unfold Hello.serverNames
  rw [hes, entries, List.filter_append, hfixed, List.append_nil]
  split
  · rename_i hnamed
    rw [nameLength, if_pos hnamed] at h
    show [hostName (sni (hostBytes serverName))] = _
    rw [hostName_sni (by omega)]
  · rfl

/-- The length that the record header has to say. -/
theorem length_fragment (keySeed randomSeed : BitVec 64) (serverName : String) :
    (handshake (helloBody randomSeed (extensions keySeed serverName))).length =
      nameLength serverName + 124 := by
  rw [length_handshake, length_helloBody, length_extensions]

/-- What is read from a record that fits. -/
theorem parseHello_clientHello (keySeed randomSeed : BitVec 64)
    (h : nameLength serverName + 124 < 2 ^ 16) :
    parseHello (clientHello keySeed randomSeed serverName) = some {
      version := u16 0x0303, random := random randomSeed, sessionId := [], cipherSuites,
      compression := [0], extensions := entries keySeed serverName } := by
  have hexts : (extensions keySeed serverName).length < 2 ^ 16 := by
    rw [length_extensions]
    omega
  have hbody : (helloBody randomSeed (extensions keySeed serverName)).length < 2 ^ 24 := by
    rw [length_helloBody]
    omega
  have hentries : takeEntries 2 2 (extensions keySeed serverName).length
      (extensions keySeed serverName) = some (entries keySeed serverName) :=
    takeEntries_extensions (by omega)
  simp only [parseHello, clientHello, parseRecord_record, length_fragment, if_pos h,
    Option.bind_eq_bind, Option.bind_some, parseHandshake_handshake hbody,
    parseBody_helloBody hexts hentries]

/-- The record is well-formed exactly if the fragment fits its length field. -/
theorem wellFormed_iff_lt (keySeed randomSeed : BitVec 64) (serverName : String) :
    WellFormed (clientHello keySeed randomSeed serverName) serverName ↔
      nameLength serverName + 124 < 2 ^ 16 := by
  constructor
  · rintro ⟨hello, hparse, -⟩
    -- The record is refused at its own length, whatever is in it.
    by_contra hlong
    unfold parseHello clientHello at hparse
    rw [parseRecord_record, length_fragment, if_neg hlong] at hparse
    cases hparse
  · intro hlt
    exact ⟨_, parseHello_clientHello keySeed randomSeed hlt, serverNames_entries (by omega) rfl⟩

/-- **The record of `client_hello`.**  Every length gives what it covers, and the name is there
    exactly if it is one to send, as long as such a name has at most 65402 bytes. -/
theorem wellFormed_clientHello_iff (keySeed randomSeed : BitVec 64) (serverName : String) :
    WellFormed (clientHello keySeed randomSeed serverName) serverName ↔
      serverName.isEmpty = true ∨ (IpAddr.parse serverName.toList).isSome = true ∨
        (hostBytes serverName).length ≤ 65402 := by
  rw [wellFormed_iff_lt, nameLength, named]
  -- 65402 = 65535 - 124 - 9.
  cases serverName.isEmpty <;> cases IpAddr.parse serverName.toList <;> simp
  omega

/-- A name of this many bytes that is no address. -/
def longHost (n : Nat) : String := String.ofList (List.replicate n 'z')

/-- A name of ordinary letters has an octet for each. -/
theorem length_hostBytes_longHost (n : Nat) : (hostBytes (longHost n)).length = n := by
  have hz : String.utf8EncodeChar 'z' = [122] := by decide
  have hbytes : Text.utf8 (List.replicate n 'z') = List.replicate n 122 := by
    induction n with
    | zero => rfl
    | succ n ih =>
      rw [List.replicate_succ, Text.utf8, List.flatMap_cons, hz]
      exact congrArg (122 :: ·) ih
  rw [hostBytes, longHost, String.toList_ofList, labelBytes, hbytes, List.length_map,
    List.length_replicate]

/-- Such a name is printed whole in its extension. -/
theorem nameLength_longHost {n : Nat} (hn : 0 < n) : nameLength (longHost n) = n + 9 := by
  have hempty : (longHost n).isEmpty = false := by
    rw [← Bool.not_eq_true, String.isEmpty_iff]
    intro h
    have hnil := congrArg String.toList h
    rw [longHost, String.toList_ofList, String.toList_empty, List.replicate_eq_nil_iff] at hnil
    omega
  have hparse : IpAddr.parse (longHost n).toList = none := by
    rw [longHost, String.toList_ofList, Option.eq_none_iff_forall_ne_some]
    intro ip hip
    have hz := IpAddr.parse_chars hip 'z' (List.mem_replicate.mpr ⟨by omega, rfl⟩)
    exact absurd hz (by decide)
  rw [nameLength, named, hempty, hparse, length_hostBytes_longHost]
  rfl

/-- With 65403 bytes the length of the record comes out as 0. -/
theorem record_length_wraps :
    ¬ WellFormed (clientHello 0 0 (longHost 65403)) (longHost 65403) ∧
      bigEndian (((clientHello 0 0 (longHost 65403)).drop 3).take 2) = 0 ∧
      (clientHello 0 0 (longHost 65403)).length = 5 + 65536 := by
  have hname : nameLength (longHost 65403) = 65403 + 9 := nameLength_longHost (by omega)
  have hfield : ∀ fragment, ((record fragment).drop 3).take 2 = u16 fragment.length := by
    intro fragment
    rfl
  have hlength : ∀ fragment, (record fragment).length = 5 + fragment.length := by
    intro fragment
    exact Nat.add_comm fragment.length 5
  refine ⟨?_, ?_, ?_⟩
  · rw [wellFormed_iff_lt, hname]
    omega
  · rw [clientHello, hfield, bigEndian_u16, length_fragment, hname]
    omega
  · rw [clientHello, hlength, length_fragment, hname]

end Netdiag.Probe.Tls
