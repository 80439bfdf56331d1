import Netdiag.Probe.DnsWire
import Mathlib.Tactic.IntervalCases

namespace Netdiag.Probe.Dns

/-!
# Probes — well-formed DNS responses

The response a resolver sends, as RFC 1035 lays it out, and what `decode_response` makes of
its octets.

* `WireName` — a name on the wire: labels, then the root label or a compression pointer.
* `Response` — header, questions, answers of class `IN`, and whatever follows them.
* `nameAt_encode`, `questionsAt_encode`, `recordsAt_encode` — an encoded section follows the
  grammar of `DnsWire`, wherever it stands in the message.
* `decodeResponse_encode` — the answer the probe sees is the response's own.
-/

open Checked

/-! ### The octets of a message -/

/-- A 16-bit field, most significant octet first. -/
def field16 (x : BitVec 16) : List (BitVec 8) := [(x >>> 8).setWidth 8, x.setWidth 8]

/-- A 32-bit field, most significant octet first. -/
def field32 (x : BitVec 32) : List (BitVec 8) :=
  [(x >>> 24).setWidth 8, (x >>> 16).setWidth 8, (x >>> 8).setWidth 8, x.setWidth 8]

/-- A field of two octets is read back. -/
theorem ofBytes_field16 (x : BitVec 16) : ofBytes 16 (field16 x) = x := by
  apply ofBytes_eq
  intro k hk
  obtain rfl | rfl : k = 0 ∨ k = 1 := by omega
  · rw [Nat.mul_zero, BitVec.ushiftRight_zero]
    rfl
  · rfl

/-- How a name ends: in the root label, or in a pointer to another name. -/
inductive NameEnd
  | root
  | pointer (target : BitVec 14)
  deriving DecidableEq, Repr

/-- The octets of the end of a name. -/
def NameEnd.encode : NameEnd → List (BitVec 8)
  | .root => [0]
  | .pointer target => [0xc0 ||| (target >>> 8).setWidth 8, target.setWidth 8]

/-- A label behind its length. -/
def encodeLabel (label : List (BitVec 8)) : List (BitVec 8) :=
  BitVec.ofNat 8 label.length :: label

/-- A name on the wire.  Labels have 1 to 63 octets, and a whole name at most 255. -/
structure WireName where
  labels : List (List (BitVec 8))
  ending : NameEnd
  label_length : ∀ l ∈ labels, 1 ≤ l.length ∧ l.length ≤ 63
  size_le : (labels.flatMap encodeLabel).length + 1 ≤ 255
  deriving DecidableEq, Repr

/-- The octets of a name. -/
def WireName.encode (name : WireName) : List (BitVec 8) :=
  name.labels.flatMap encodeLabel ++ name.ending.encode

/-- A question. -/
structure Question where
  name : WireName
  qtype : BitVec 16
  qclass : BitVec 16
  deriving DecidableEq, Repr

/-- The octets of a question. -/
def Question.encode (q : Question) : List (BitVec 8) :=
  q.name.encode ++ (field16 q.qtype ++ field16 q.qclass)

/-- An answer record of class `IN`. -/
structure Answer where
  name : WireName
  rtype : BitVec 16
  ttl : BitVec 32
  rdata : List (BitVec 8)
  rdata_length : rdata.length < 2 ^ 16
  deriving DecidableEq, Repr

namespace Answer

/-- The fields between the name and the data. -/
def fixed (a : Answer) : List (BitVec 8) :=
  field16 a.rtype ++ field16 1 ++ field32 a.ttl ++ field16 (BitVec.ofNat 16 a.rdata.length)

/-- The octets of a record. -/
def encode (a : Answer) : List (BitVec 8) := a.name.encode ++ (a.fixed ++ a.rdata)

/-- The address of a record of the asked type: `A` with four octets, `AAAA` with sixteen. -/
def address (qtype : BitVec 16) (a : Answer) : Option IpAddr :=
  if a.rtype = qtype ∧ qtype.toNat = typeA ∧ a.rdata.length = 4 then
    some (.v4 (ofBytes 32 a.rdata))
  else if a.rtype = qtype ∧ qtype.toNat = typeAaaa ∧ a.rdata.length = 16 then
    some (.v6 (ofBytes 128 a.rdata))
  else none

end Answer

/-- A response.  `rest` are the authority and additional sections. -/
structure Response where
  id : BitVec 16
  flags : BitVec 16
  questions : List Question
  answers : List Answer
  nscount : BitVec 16
  arcount : BitVec 16
  rest : List (BitVec 8)
  questions_length : questions.length < 2 ^ 16
  answers_length : answers.length < 2 ^ 16
  deriving DecidableEq, Repr

namespace Response

/-- The twelve octets of the header. -/
def header (m : Response) : List (BitVec 8) :=
  field16 m.id ++ field16 m.flags ++ field16 (BitVec.ofNat 16 m.questions.length) ++
    field16 (BitVec.ofNat 16 m.answers.length) ++ field16 m.nscount ++ field16 m.arcount

/-- The octets of the message. -/
def encode (m : Response) : List (BitVec 8) :=
  m.header ++ (m.questions.flatMap Question.encode ++
    (m.answers.flatMap Answer.encode ++ m.rest))

/-- The response code: the low four bits of the flags. -/
def rcode (m : Response) : RCode := RCode.fromU8 ((m.flags.extractLsb' 0 4).setWidth 8)

/-- TC. -/
def truncated (m : Response) : Bool := m.flags.getLsbD 9

/-- AA. -/
def authoritative (m : Response) : Bool := m.flags.getLsbD 10

end Response

/-! ### Sections follow the grammar -/

section Grammar

variable (front back : List (BitVec 8))

/-- The end of a name is read where it stands. -/
theorem nameAt_ending (ending : NameEnd) :
    NameAt (front ++ (ending.encode ++ back)) 0 front.length
      (front.length + ending.encode.length) := by
  cases ending with
  | root => exact .root (by simp [NameEnd.encode])
  | pointer target =>
    refine .pointer (b := 0xc0 ||| (target >>> 8).setWidth 8) (by simp [NameEnd.encode]) ?_
      (by simp [NameEnd.encode])
    apply BitVec.eq_of_getLsbD_eq
    intro i hi
    simp only [BitVec.getLsbD_and, BitVec.getLsbD_or]
    cases (0xc0 : BitVec 8).getLsbD i <;> simp

/-- The labels of a name are read one by one, up to its end. -/
theorem nameAt_labels (labels : List (List (BitVec 8))) (ending : NameEnd)
    (hlen : ∀ l ∈ labels, 1 ≤ l.length ∧ l.length ≤ 63) :
    NameAt (front ++ (labels.flatMap encodeLabel ++ (ending.encode ++ back))) labels.length
      front.length (front.length + (labels.flatMap encodeLabel ++ ending.encode).length) := by
  induction labels generalizing front with
  | nil => simpa using nameAt_ending front back ending
  | cons l labels ih =>
    have hl := hlen l List.mem_cons_self
    have hrest := ih (front ++ encodeLabel l) (fun l' h => hlen l' (List.mem_cons_of_mem _ h))
    have hnat : (BitVec.ofNat 8 l.length).toNat = l.length := by
      rw [BitVec.toNat_ofNat, Nat.mod_eq_of_lt (by omega)]
    refine .label (b := BitVec.ofNat 8 l.length) (by simp [encodeLabel]) ?_ ?_ ?_
    -- A length octet is not zero, and has neither of the pointer bits.
    · intro h
      have hlength := congrArg BitVec.toNat h
      have hzero : (0 : BitVec 8).toNat = 0 := rfl
      rw [hnat] at hlength
      omega
    · intro h
      have hle : (BitVec.ofNat 8 l.length &&& 0xc0).toNat ≤ l.length := by
        rw [BitVec.toNat_and, hnat]
        exact Nat.and_le_left
      rw [h] at hle
      have : (0xc0 : BitVec 8).toNat = 192 := rfl
      omega
    · rw [hnat]
      convert hrest using 1 <;> simp [encodeLabel] <;> omega

/-- A label takes at least two octets. -/
theorem two_mul_labels_length_le {labels : List (List (BitVec 8))}
    (hlen : ∀ l ∈ labels, 1 ≤ l.length ∧ l.length ≤ 63) :
    2 * labels.length ≤ (labels.flatMap encodeLabel).length := by
  induction labels with
  | nil => simp
  | cons l labels ih =>
    have hl := hlen l List.mem_cons_self
    have hrest := ih (fun l' h => hlen l' (List.mem_cons_of_mem _ h))
    simp only [List.flatMap_cons, List.length_append, List.length_cons, encodeLabel]
    omega

/-- A name is read where it stands, with fewer labels than the decoder allows. -/
theorem nameAt_encode (name : WireName) :
    ∃ k ≤ 128, NameAt (front ++ (name.encode ++ back)) k front.length
      (front.length + name.encode.length) := by
  refine ⟨name.labels.length, ?_, ?_⟩
  · have hlabels := two_mul_labels_length_le name.label_length
    have hsize := name.size_le
    omega
  · have h := nameAt_labels front back name.labels name.ending name.label_length
    rwa [← List.append_assoc (name.labels.flatMap encodeLabel)] at h

/-- Questions follow the grammar. -/
theorem questionsAt_encode (questions : List Question) :
    QuestionsAt (front ++ (questions.flatMap Question.encode ++ back)) questions.length
      front.length (front.length + (questions.flatMap Question.encode).length) := by
  induction questions generalizing front with
  | nil => exact .done
  | cons q questions ih =>
    obtain ⟨k, hk, name⟩ := nameAt_encode front
      (field16 q.qtype ++ field16 q.qclass ++ (questions.flatMap Question.encode ++ back)) q.name
    have hrest := ih (front ++ q.encode)
    have hbuf : front ++ ((q :: questions).flatMap Question.encode ++ back) =
        front ++ (q.name.encode ++ (field16 q.qtype ++ field16 q.qclass ++
          (questions.flatMap Question.encode ++ back))) := by
      simp [Question.encode]
    have hbuf' : front ++ ((q :: questions).flatMap Question.encode ++ back) =
        front ++ q.encode ++ (questions.flatMap Question.encode ++ back) := by
      simp
    rw [← hbuf] at name
    rw [← hbuf'] at hrest
    refine .next hk name ?_
    convert hrest using 1 <;> simp [Question.encode, field16] <;> omega

/-- The record that an answer becomes behind `front`. -/
def Answer.record (a : Answer) : Record := ⟨front.length, front.length + a.name.encode.length⟩

/-- What stands behind the name of an answer. -/
theorem drop_nameEnd (a : Answer) (k : Nat) :
    (front ++ (a.encode ++ back)).drop ((a.record front).nameEnd + k) =
      (a.fixed ++ (a.rdata ++ back)).drop k := by
  have hbuf : front ++ (a.encode ++ back) =
      (front ++ a.name.encode) ++ (a.fixed ++ (a.rdata ++ back)) := by
    simp [Answer.encode]
  have hlen : (a.record front).nameEnd = (front ++ a.name.encode).length := by
    simp [Answer.record]
  rw [hbuf, hlen, List.drop_append]
  simp

section Read

variable (a : Answer)

/-- The type of a record is read where it was written. -/
theorem record_rtype : (a.record front).rtype (front ++ (a.encode ++ back)) = a.rtype := by
  have hdrop := drop_nameEnd front back a 0
  rw [Nat.add_zero, List.drop_zero] at hdrop
  rw [Record.rtype, hdrop]
  exact ofBytes_field16 a.rtype

/-- So is the length of its data. -/
theorem record_rdlength :
    (a.record front).rdlength (front ++ (a.encode ++ back)) = a.rdata.length := by
  rw [Record.rdlength, drop_nameEnd front back a 8]
  have htwo : ((a.fixed ++ (a.rdata ++ back)).drop 8).take 2 =
      field16 (BitVec.ofNat 16 a.rdata.length) := by
    simp [Answer.fixed, field16, field32]
  rw [htwo, ofBytes_field16, BitVec.toNat_ofNat, Nat.mod_eq_of_lt a.rdata_length]

/-- So are its data. -/
theorem record_rdata : (a.record front).rdata (front ++ (a.encode ++ back)) = a.rdata := by
  rw [Record.rdata, record_rdlength, drop_nameEnd front back a 10]
  simp [Answer.fixed, field16, field32]

/-- A record ends where the next one begins. -/
theorem record_stop :
    (a.record front).stop (front ++ (a.encode ++ back)) = (front ++ a.encode).length := by
  rw [Record.stop, record_rdlength]
  simp [Answer.record, Answer.encode, Answer.fixed, field16, field32]
  omega

/-- The address is the one in the data. -/
theorem record_address (qtype : BitVec 16) :
    (a.record front).address (front ++ (a.encode ++ back)) qtype = a.address qtype := by
  rw [Record.address, record_rtype, record_rdlength, record_rdata, Answer.address]
  by_cases h : a.rtype = qtype <;> simp [h]

/-- A record is read where it stands. -/
theorem recordAt_encode : RecordAt (front ++ (a.encode ++ back)) (a.record front) := by
  refine ⟨?_, ?_⟩
  · have hname := nameAt_encode front (a.fixed ++ a.rdata ++ back) a.name
    simpa [Answer.encode, Answer.record] using hname
  · rw [record_stop]
    simp

end Read

/-- Answers follow the grammar, and their records hold their addresses. -/
theorem recordsAt_encode (answers : List Answer) :
    ∃ rs, RecordsAt (front ++ (answers.flatMap Answer.encode ++ back)) front.length rs ∧
      rs.length = answers.length ∧
      ∀ qtype, rs.filterMap
        (·.address (front ++ (answers.flatMap Answer.encode ++ back)) qtype) =
          answers.filterMap (Answer.address qtype) := by
  induction answers generalizing front with
  | nil => exact ⟨[], .nil, rfl, fun _ => rfl⟩
  | cons a answers ih =>
    obtain ⟨rs, hrs, hlen, haddr⟩ := ih (front ++ a.encode)
    let tail := answers.flatMap Answer.encode ++ back
    have hbuf : front ++ ((a :: answers).flatMap Answer.encode ++ back) =
        front ++ (a.encode ++ tail) := by simp [tail]
    have hbuf' : front ++ a.encode ++ (answers.flatMap Answer.encode ++ back) =
        front ++ (a.encode ++ tail) := by simp [tail]
    rw [hbuf'] at hrs haddr
    rw [hbuf]
    refine ⟨a.record front :: rs, .cons rfl (recordAt_encode front tail a) ?_, ?_, ?_⟩
    · rwa [record_stop]
    · rw [List.length_cons, List.length_cons, hlen]
    · intro qtype
      rw [List.filterMap_cons, List.filterMap_cons, record_address, haddr]

end Grammar

/-! ### Decoding -/

namespace Response

variable (m : Response)

/-- The header has twelve octets. -/
theorem header_length : m.header.length = 12 := rfl

/-- The fields of the header, read back. -/
theorem headerField_encode :
    headerField m.encode 0 = m.id ∧ headerField m.encode 2 = m.flags ∧
      headerField m.encode 4 = BitVec.ofNat 16 m.questions.length ∧
      headerField m.encode 6 = BitVec.ofNat 16 m.answers.length :=
  ⟨ofBytes_field16 _, ofBytes_field16 _, ofBytes_field16 _, ofBytes_field16 _⟩

/-- The questions and the answers lie behind the header. -/
theorem answersAt_encode :
    ∃ rs, AnswersAt m.encode rs ∧ rs.length = m.answers.length ∧
      ∀ qtype, rs.filterMap (·.address m.encode qtype) =
        m.answers.filterMap (Answer.address qtype) := by
  have hquestions := questionsAt_encode m.header
    (m.answers.flatMap Answer.encode ++ m.rest) m.questions
  obtain ⟨rs, hrs, hlen, haddr⟩ := recordsAt_encode
    (m.header ++ m.questions.flatMap Question.encode) m.rest m.answers
  have hbuf : m.header ++ m.questions.flatMap Question.encode ++
      (m.answers.flatMap Answer.encode ++ m.rest) = m.encode := by
    rw [encode, List.append_assoc]
  rw [hbuf] at hrs haddr
  refine ⟨rs, ⟨_, ?_, hrs⟩, hlen, haddr⟩
  rw [m.headerField_encode.2.2.1, BitVec.toNat_ofNat, Nat.mod_eq_of_lt m.questions_length]
  rwa [List.length_append]

/-- The response code is the low four bits of the flags. -/
theorem rcode_eq : RCode.fromU8 ((m.flags &&& 0x000f).setWidth 8) = m.rcode := by
  have hlow : (m.flags &&& 0x000f).setWidth 8 = (m.flags.extractLsb' 0 4).setWidth 8 := by
    apply BitVec.eq_of_getLsbD_eq
    intro i hi
    interval_cases i <;> simp
  rw [hlow, rcode]

/-- A bit tested with its mask. -/
theorem and_twoPow_ne_zero (x : BitVec 16) {i : Nat} (hi : i < 16) :
    (x &&& BitVec.twoPow 16 i != 0) = x.getLsbD i := by
  rw [BitVec.and_twoPow]
  cases h : x.getLsbD i with
  | false => simp
  | true =>
    have hne : BitVec.twoPow 16 i ≠ 0 := by
      intro hzero
      have hbit := congrArg (fun y => y.getLsbD i) hzero
      simp [hi] at hbit
    simpa using hne

end Response

/-- `decode_response` of a well-formed response with the expected id, in memory as `buf`. -/
theorem decodeResponse_encode (t : Target) (m : Response) (buf : Slice t (BitVec 8))
    (hbuf : buf.elems = m.encode) (qtype : BitVec 16) :
    decodeResponse t.bits buf.elems m.id qtype =
      .ok (m.answers.filterMap (Answer.address qtype), m.rcode, m.truncated, m.authoritative,
        BitVec.ofNat 16 m.answers.length) := by
  have hw := buf.length_add_le (k := 2 ^ 16) (by decide)
  obtain ⟨rs, hrs, hlen, haddr⟩ := m.answersAt_encode
  obtain ⟨hid, hflags, -, hancount⟩ := m.headerField_encode
  have hheader : 12 ≤ m.encode.length := by
    rw [Response.encode, List.length_append, m.header_length]
    omega
  have hcount : rs.length = (headerField m.encode 6).toNat := by
    rw [hlen, hancount, BitVec.toNat_ofNat, Nat.mod_eq_of_lt m.answers_length]
  rw [hbuf] at hw ⊢
  have htc : (m.flags &&& 0x0200 != 0) = m.truncated :=
    Response.and_twoPow_ne_zero m.flags (i := 9) (by decide)
  have haa : (m.flags &&& 0x0400 != 0) = m.authoritative :=
    Response.and_twoPow_ne_zero m.flags (i := 10) (by decide)
  have heq := decodeResponse_eq hw hheader hrs hcount qtype
  rw [hid, hflags, hancount, haddr, m.rcode_eq, htc, haa] at heq
  exact heq

/-- The response of the test `decodes_an_a_response`: one question for `example.com`, and an
    answer that points back to it. -/
def exampleResponse : Response where
  id := 0xabcd
  flags := 0x8180
  questions := [⟨⟨[[101, 120, 97, 109, 112, 108, 101], [99, 111, 109]], .root, by decide,
    by decide⟩, 1, 1⟩]
  answers := [⟨⟨[], .pointer 12, by decide, by decide⟩, 1, 300, [93, 184, 216, 34], by decide⟩]
  nscount := 0
  arcount := 0
  rest := []
  questions_length := by decide
  answers_length := by decide

/-- The example response is decoded. -/
theorem decodeResponse_exampleResponse :
    decodeResponse 64 exampleResponse.encode 0xabcd 1 =
      .ok ([.v4 0x5db8d822], .noError, false, false, 1) :=
  decodeResponse_encode ⟨64, by decide⟩ exampleResponse ⟨exampleResponse.encode, by decide +kernel⟩
    rfl 1

end Netdiag.Probe.Dns
