import Netdiag.Probe.DnsResponse

namespace Netdiag.Probe.Dns

/-!
# Probes — DNS queries

`encode_query` of `daemon/src/probe/dns.rs`, and what stands in the message it makes.

* `readName` — the labels of a name on the wire, up to the root label.
* `hostLabels` — the labels of a host name: what stands between its dots, where that is not
  empty.
* `qname_encodeQuery`, `encodeQuery_wireName` — the name in the query is the host name.

Empty labels are left out, not only behind the last dot, and nothing looks at the length of
the whole name.
-/

open Text

/-- The bytes of a label. -/
def labelBytes (label : List Char) : List (BitVec 8) := (utf8 label).map UInt8.toBitVec

/-- The loop of `encode_query`. -/
def pushLabels (buf : List (BitVec 8)) : List (List Char) → Except String (List (BitVec 8))
  | [] => .ok buf
  | label :: labels =>
    -- `continue`: an empty label is no error.
    if label.isEmpty then pushLabels buf labels
    else if 63 < (labelBytes label).length then
      .error s!"DNS label '{String.ofList label}' exceeds 63 bytes"
    else pushLabels (buf ++ encodeLabel (labelBytes label)) labels

/-- What stands before the question: a recursive query with one question. -/
def queryHeader (id : BitVec 16) : List (BitVec 8) :=
  field16 id ++ field16 0x0100 ++ field16 1 ++ field16 0 ++ field16 0 ++ field16 0

/-- `encode_query`. -/
def encodeQuery (id : BitVec 16) (name : String) (qtype : BitVec 16) :
    Except String (List (BitVec 8)) := do
  let buf ← pushLabels (queryHeader id) ((trimEndMatches '.' name.toList).splitOn '.')
  return buf ++ [0] ++ field16 qtype ++ field16 1

/-! ### Reading a name -/

/-- The labels of an uncompressed name, and what follows it. -/
def readName : Nat → List (BitVec 8) → Option (List (List (BitVec 8)) × List (BitVec 8))
  | 0, _ => none
  | _ + 1, [] => none
  | fuel + 1, b :: rest =>
    if b = 0 then some ([], rest)
    -- The two high bits are those of a compression pointer.
    else if 63 < b.toNat ∨ rest.length < b.toNat then none
    else (readName fuel (rest.drop b.toNat)).map fun r => (rest.take b.toNat :: r.1, r.2)

/-- The name that is asked for: it follows the header. -/
def qname (buf : List (BitVec 8)) : Option (List (List (BitVec 8)) × List (BitVec 8)) :=
  readName buf.length (buf.drop 12)

theorem readName_encodeLabel {label : List (BitVec 8)} (hpos : 1 ≤ label.length)
    (hle : label.length ≤ 63) (fuel : Nat) (rest : List (BitVec 8)) :
    readName (fuel + 1) (encodeLabel label ++ rest) =
      (readName fuel rest).map fun r => (label :: r.1, r.2) := by
  have hnat : (BitVec.ofNat 8 label.length).toNat = label.length := by
    rw [BitVec.toNat_ofNat, Nat.mod_eq_of_lt (by omega)]
  have hzero : BitVec.ofNat 8 label.length ≠ 0 := by
    intro h
    rw [h] at hnat
    have hnone : label.length = 0 := hnat.symm
    omega
  have hfits : ¬ (63 < label.length ∨ (label ++ rest).length < label.length) := by
    rw [List.length_append]
    omega
  show readName (fuel + 1) (BitVec.ofNat 8 label.length :: (label ++ rest)) = _
  rw [readName, if_neg hzero, hnat, if_neg hfits, List.drop_left, List.take_left]

theorem readName_labels (labels : List (List (BitVec 8))) (rest : List (BitVec 8))
    (hlen : ∀ l ∈ labels, 1 ≤ l.length ∧ l.length ≤ 63) {n : Nat} (hn : labels.length < n) :
    readName n (labels.flatMap encodeLabel ++ 0 :: rest) = some (labels, rest) := by
  induction labels generalizing n with
  | nil =>
    obtain ⟨k, rfl⟩ := Nat.exists_eq_add_of_lt hn
    simp [readName]
  | cons label labels ih =>
    rw [List.length_cons] at hn
    obtain ⟨k, rfl⟩ : ∃ k, n = k + 1 := ⟨n - 1, by omega⟩
    obtain ⟨hpos, hle⟩ := hlen label List.mem_cons_self
    have hrest := ih (n := k) (fun l hl => hlen l (List.mem_cons_of_mem _ hl)) (by omega)
    rw [List.flatMap_cons, List.append_assoc, readName_encodeLabel hpos hle, hrest]
    rfl

/-! ### The labels of a host name -/

/-- What stands between the dots of a host name, where that is not empty. -/
def hostLabels (name : String) : List (List Char) :=
  (name.toList.splitOn '.').filter (!·.isEmpty)

/-- The labels between the dots before the last, one between any two. -/
def dottedLabels (name : String) : List (List Char) :=
  if trimEndMatches '.' name.toList = [] then []
  else (trimEndMatches '.' name.toList).splitOn '.'

theorem labelBytes_injective : Function.Injective labelBytes := by
  intro a b h
  have hbytes : utf8 a = utf8 b :=
    List.map_injective_iff.mpr (fun _ _ => UInt8.toBitVec_inj.mp) h
  exact utf8_injective hbytes

theorem length_labelBytes_pos {name : String} {label : List Char} (h : label ∈ hostLabels name) :
    1 ≤ (labelBytes label).length := by
  have hne : label ≠ [] := by
    have := (List.mem_filter.mp h).2
    simpa using this
  rw [labelBytes, List.length_map]
  exact length_utf8_pos hne

theorem pushLabels_ok_iff {buf out : List (BitVec 8)} {labels : List (List Char)} :
    pushLabels buf labels = .ok out ↔
      (∀ label ∈ labels.filter (!·.isEmpty), (labelBytes label).length ≤ 63) ∧
        out = buf ++ ((labels.filter (!·.isEmpty)).map labelBytes).flatMap encodeLabel := by
  induction labels generalizing buf with
  | nil => simp [pushLabels, eq_comm]
  | cons label labels ih =>
    rw [pushLabels]
    split
    -- An empty label is skipped.
    · rename_i hempty
      rw [ih, List.filter_cons_of_neg (by simp [hempty])]
    · rename_i hempty
      rw [List.filter_cons_of_pos (by simp [hempty])]
      split
      -- A label over 63 bytes ends the encoding.
      · rename_i hlong
        constructor
        · intro h
          cases h
        · rintro ⟨hall, -⟩
          have := hall label List.mem_cons_self
          omega
      · rename_i hshort
        rw [ih, List.map_cons, List.flatMap_cons, List.append_assoc]
        simp only [List.forall_mem_cons]
        constructor
        · rintro ⟨hall, hout⟩
          exact ⟨⟨by omega, hall⟩, hout⟩
        · rintro ⟨⟨-, hall⟩, hout⟩
          exact ⟨hall, hout⟩

/-- The error names a label that is too long. -/
theorem pushLabels_error {buf : List (BitVec 8)} {labels : List (List Char)} {e : String}
    (h : pushLabels buf labels = .error e) :
    ∃ label ∈ labels.filter (!·.isEmpty), 63 < (labelBytes label).length ∧
      e = s!"DNS label '{String.ofList label}' exceeds 63 bytes" := by
  induction labels generalizing buf with
  | nil => cases h
  | cons label labels ih =>
    rw [pushLabels] at h
    split at h
    · rename_i hempty
      rw [List.filter_cons_of_neg (by simp [hempty])]
      exact ih h
    · rename_i hempty
      rw [List.filter_cons_of_pos (by simp [hempty])]
      split at h
      · rename_i hlong
        cases h
        exact ⟨label, List.mem_cons_self, hlong, rfl⟩
      · obtain ⟨l, hl, hlong, he⟩ := ih h
        exact ⟨l, List.mem_cons_of_mem _ hl, hlong, he⟩

variable {id qtype : BitVec 16} {name : String} {buf : List (BitVec 8)}

/-- When a query is made, and its octets. -/
theorem encodeQuery_ok_iff :
    encodeQuery id name qtype = .ok buf ↔
      (∀ label ∈ hostLabels name, (labelBytes label).length ≤ 63) ∧
        buf = queryHeader id ++ (((hostLabels name).map labelBytes).flatMap encodeLabel ++
          0 :: (field16 qtype ++ field16 1)) := by
  have hlabels := filter_splitOn_trimEndMatches '.' name.toList
  unfold encodeQuery hostLabels
  rw [← hlabels]
  cases hpush : pushLabels (queryHeader id) ((trimEndMatches '.' name.toList).splitOn '.') with
  | error e =>
    constructor
    · intro h
      cases h
    · rintro ⟨hall, -⟩
      cases hpush.symm.trans (pushLabels_ok_iff.mpr ⟨hall, rfl⟩)
  | ok out =>
    obtain ⟨hall, rfl⟩ := pushLabels_ok_iff.mp hpush
    show Except.ok _ = Except.ok buf ↔ _
    rw [Except.ok.injEq, and_iff_right hall, eq_comm]
    simp only [List.append_assoc, List.cons_append, List.nil_append]

/-- Every label of a query has one to 63 octets. -/
theorem encodeQuery_labels (h : encodeQuery id name qtype = .ok buf) :
    ∀ l ∈ (hostLabels name).map labelBytes, 1 ≤ l.length ∧ l.length ≤ 63 := by
  intro l hl
  obtain ⟨label, hlabel, rfl⟩ := List.mem_map.mp hl
  exact ⟨length_labelBytes_pos hlabel, (encodeQuery_ok_iff.mp h).1 label hlabel⟩

/-- The name in the query is the host name. -/
theorem qname_encodeQuery (h : encodeQuery id name qtype = .ok buf) :
    qname buf = some ((hostLabels name).map labelBytes, field16 qtype ++ field16 1) := by
  have hlen := encodeQuery_labels h
  obtain ⟨-, rfl⟩ := encodeQuery_ok_iff.mp h
  -- The message is longer than it has labels, so reading does not stop short.
  have htwo := two_mul_labels_length_le hlen
  unfold qname
  rw [List.drop_left' (show (queryHeader id).length = 12 from rfl)]
  apply readName_labels _ _ hlen
  rw [List.length_append, List.length_append, List.length_cons]
  omega

/-- A host name of at most 255 octets on the wire is a legal DNS name, and is asked for. -/
theorem encodeQuery_wireName (id qtype : BitVec 16)
    (hlen : ∀ label ∈ hostLabels name, (labelBytes label).length ≤ 63)
    (hsize : (((hostLabels name).map labelBytes).flatMap encodeLabel).length + 1 ≤ 255) :
    ∃ w : WireName, w.labels = (hostLabels name).map labelBytes ∧ w.ending = .root ∧
      encodeQuery id name qtype = .ok (queryHeader id ++
        Question.encode { name := w, qtype := qtype, qclass := 1 }) := by
  have hok : encodeQuery id name qtype = .ok _ := encodeQuery_ok_iff.mpr ⟨hlen, rfl⟩
  refine ⟨⟨_, .root, encodeQuery_labels hok, hsize⟩, rfl, rfl, ?_⟩
  rw [hok]
  simp [Question.encode, WireName.encode, NameEnd.encode]

/-- **The name in a query.**  A label of more than 63 bytes is refused by name.  A query that is
    made asks for the labels of the host name, of 1 to 63 bytes each; a host name of at most 255
    octets is a legal DNS name, and is asked for.  Queries for names with other labels
    differ. -/
theorem encodeQuery_faithful (id : BitVec 16) (name : String) (qtype : BitVec 16) :
    ((∃ label ∈ hostLabels name, 63 < (labelBytes label).length) →
      ∃ label ∈ hostLabels name, 63 < (labelBytes label).length ∧
        encodeQuery id name qtype =
          .error s!"DNS label '{String.ofList label}' exceeds 63 bytes") ∧
      (∀ buf, encodeQuery id name qtype = .ok buf →
        qname buf = some ((hostLabels name).map labelBytes, field16 qtype ++ field16 1) ∧
        (∀ l ∈ (hostLabels name).map labelBytes, 1 ≤ l.length ∧ l.length ≤ 63) ∧
        ∀ name', encodeQuery id name' qtype = .ok buf → hostLabels name' = hostLabels name) ∧
      ((∀ label ∈ hostLabels name, (labelBytes label).length ≤ 63) →
        (((hostLabels name).map labelBytes).flatMap encodeLabel).length + 1 ≤ 255 →
        ∃ w : WireName, w.labels = (hostLabels name).map labelBytes ∧ w.ending = .root ∧
          encodeQuery id name qtype = .ok (queryHeader id ++
            Question.encode { name := w, qtype := qtype, qclass := 1 })) := by
  refine ⟨?_, ?_, encodeQuery_wireName id qtype⟩
  · rintro ⟨label, hlabel, hlong⟩
    have hlabels : ((trimEndMatches '.' name.toList).splitOn '.').filter (!·.isEmpty) =
        hostLabels name := filter_splitOn_trimEndMatches '.' name.toList
    cases hpush : pushLabels (queryHeader id)
        ((trimEndMatches '.' name.toList).splitOn '.') with
    | error e =>
      obtain ⟨l, hl, hlen, rfl⟩ := pushLabels_error hpush
      refine ⟨l, hlabels ▸ hl, hlen, ?_⟩
      unfold encodeQuery
      rw [hpush]
      rfl
    | ok out =>
      have hshort := (pushLabels_ok_iff.mp hpush).1 label (hlabels ▸ hlabel)
      omega
  · intro buf hbuf
    refine ⟨qname_encodeQuery hbuf, encodeQuery_labels hbuf, fun name' hbuf' => ?_⟩
    -- The labels are read back from the message.
    have hsame := (qname_encodeQuery hbuf').symm.trans (qname_encodeQuery hbuf)
    rw [Option.some.injEq, Prod.mk.injEq] at hsame
    exact List.map_injective_iff.mpr labelBytes_injective hsame.1

/-- Four labels of 63 bytes and one of one. -/
def longLabels : List (List Char) :=
  [List.replicate 63 'a', List.replicate 63 'b', List.replicate 63 'c', List.replicate 63 'd',
    ['e']]

/-- An empty label inside a name is lost, and a name of 259 octets is asked for. -/
theorem encodeQuery_skips_empty :
    dottedLabels "a..b" ≠ dottedLabels "a.b" ∧
      (∃ buf, encodeQuery 1 "a..b" 1 = .ok buf ∧ encodeQuery 1 "a.b" 1 = .ok buf ∧
        qname buf = some ([labelBytes ['a'], labelBytes ['b']], field16 1 ++ field16 1)) ∧
      ∃ buf, encodeQuery 1 (String.ofList (['.'].intercalate longLabels)) 1 = .ok buf ∧
        qname buf = some (longLabels.map labelBytes, field16 1 ++ field16 1) ∧
        buf.length = 12 + 259 + 4 := by
  have hab : hostLabels "a..b" = [['a'], ['b']] := by decide
  have hab' : hostLabels "a.b" = [['a'], ['b']] := by decide
  have hlong : hostLabels (String.ofList (['.'].intercalate longLabels)) = longLabels := by
    rw [hostLabels, String.toList_ofList, List.splitOn_intercalate '.' (by decide) (by decide)]
    rfl
  -- Two names with one encoding, and a name of 259 octets.
  refine ⟨by decide, ?_, ?_⟩
  · have hlen : ∀ label ∈ [['a'], ['b']], (labelBytes label).length ≤ 63 := by decide
    have hbuf : encodeQuery 1 "a..b" 1 = .ok _ := encodeQuery_ok_iff.mpr ⟨by rwa [hab], rfl⟩
    have hbuf' : encodeQuery 1 "a.b" 1 = .ok _ := encodeQuery_ok_iff.mpr ⟨by rwa [hab'], rfl⟩
    rw [hab] at hbuf
    rw [hab'] at hbuf'
    refine ⟨_, hbuf, hbuf', ?_⟩
    rw [qname_encodeQuery hbuf, hab]
    rfl
  · have hlen : ∀ label ∈ longLabels, (labelBytes label).length ≤ 63 := by decide +kernel
    have hbuf : encodeQuery 1 (String.ofList (['.'].intercalate longLabels)) 1 = .ok _ :=
      encodeQuery_ok_iff.mpr ⟨by rwa [hlong], rfl⟩
    refine ⟨_, hbuf, ?_, ?_⟩
    · rw [qname_encodeQuery hbuf, hlong]
    · rw [hlong]
      decide +kernel

end Netdiag.Probe.Dns
