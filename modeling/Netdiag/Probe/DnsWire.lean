import Netdiag.Lib.Checked
import Netdiag.Net.AddrText
import Netdiag.Probe.Dns

namespace Netdiag.Probe.Dns

/-!
# Probes — DNS responses

The wire format of `daemon/src/probe/dns.rs`: `skip_name` and `decode_response`, with every
index, slice and addition checked as the compiled code checks it.

* `NameAt`, `QuestionsAt`, `RecordsAt` — the grammar of a message: where a name, the
  questions and the answer records start and end in the buffer.
* `skipName_returns`, `decodeResponse_returns` — the parsers never panic, and what they
  return follows the grammar.
* `decodeResponse_eq` — a message that follows the grammar is decoded to the addresses of its
  records.
* `Response` — a well-formed response and its octets; `Response.decodeResponse`.
-/

open Checked

/-! ### The parsers -/

/-- `u16::from_be_bytes([buf[i], buf[j]])`. -/
def be16 {ε : Type} (buf : List (BitVec 8)) (i j : Nat) : Run ε (BitVec 16) := do
  let high ← index buf i
  let low ← index buf j
  return ofBytes 16 [high, low]

/-- `RCode::from_u8`. -/
def RCode.fromU8 (v : BitVec 8) : RCode :=
  if v = 0 then .noError
  else if v = 1 then .formErr
  else if v = 2 then .servFail
  else if v = 3 then .nxDomain
  else if v = 4 then .notImp
  else if v = 5 then .refused
  else .other v.toNat

/-- The loop of `skip_name`; a `usize` has `w` bits. -/
def skipNameLoop (w : Nat) (buf : List (BitVec 8)) (offset steps : Nat) (jumped : Bool) :
    Run String Nat :=
  if buf.length ≤ offset then bail "DNS name runs past the end of the message"
  else do
    let len ← index buf offset
    if len &&& 0xc0 = 0xc0 then
      -- Compression pointer: two bytes, and the name ends here.
      let next ← add w offset 1
      if buf.length ≤ next then bail "truncated DNS compression pointer"
      else if !jumped then add w offset 2
      else return offset
    else
      let offset ← add w offset 1
      if len = 0 then return offset
      else
        let offset ← add w offset len.toNat
        -- `steps` is an `i32`.
        let _ ← add 31 steps 1
        if _h : 128 < steps + 1 then bail "DNS name has too many labels; refusing to loop"
        else skipNameLoop w buf offset (steps + 1) false
termination_by 129 - steps

/-- `skip_name`. -/
def skipName (w : Nat) (buf : List (BitVec 8)) (offset : Nat) : Run String Nat :=
  skipNameLoop w buf offset 0 false

/-- The loop of `decode_response` over `QDCOUNT`. -/
def skipQuestions (w : Nat) (buf : List (BitVec 8)) : Nat → Nat → Run String Nat
  | 0, offset => return offset
  | n + 1, offset => do
    let offset ← skipName w buf offset
    let offset ← add w offset 4
    skipQuestions w buf n offset

/-- The addresses with the one that this record holds, if it holds one of the asked type.
    CNAMEs in the chain are skipped; only the address records matter. -/
def pushAddress (rtype qtype : BitVec 16) (rdlength : Nat) (rdata : List (BitVec 8))
    (addresses : List IpAddr) : Run String (List IpAddr) :=
  if rtype = qtype then
    -- An A record holds four octets; one of another length is passed over.
    if qtype.toNat = typeA ∧ rdlength = 4 then do
      let a ← index rdata 0
      let b ← index rdata 1
      let c ← index rdata 2
      let d ← index rdata 3
      return addresses ++ [.v4 (ofBytes 32 [a, b, c, d])]
    else if qtype.toNat = typeAaaa ∧ rdlength = 16 then do
      let octets ← copyFromSlice 16 rdata
      return addresses ++ [.v6 (ofBytes 128 octets)]
    else return addresses
  else return addresses

/-- The loop of `decode_response` over `ANCOUNT`. -/
def decodeAnswers (w : Nat) (buf : List (BitVec 8)) (qtype : BitVec 16) :
    Nat → Nat → List IpAddr → Run String (List IpAddr)
  | 0, _, addresses => return addresses
  | n + 1, offset, addresses =>
    -- Fewer records than the header says: what was read counts.
    if buf.length ≤ offset then return addresses
    else do
      let offset ← skipName w buf offset
      let fixed ← add w offset 10
      -- A record cut off in its fixed part ends the list without an error.
      if buf.length < fixed then return addresses
      else
        let rtype ← be16 buf offset (← add w offset 1)
        let rdlength ← be16 buf (← add w offset 8) (← add w offset 9)
        let offset ← add w offset 10
        let stop ← add w offset rdlength.toNat
        -- So does one cut off in its data.
        if buf.length < stop then return addresses
        else
          let rdata ← slice buf offset (← add w offset rdlength.toNat)
          let addresses ← pushAddress rtype qtype rdlength.toNat rdata addresses
          let offset ← add w offset rdlength.toNat
          decodeAnswers w buf qtype n offset addresses

/-- `decode_response`: the addresses, the response code, TC, AA and `ANCOUNT`. -/
def decodeResponse (w : Nat) (buf : List (BitVec 8)) (expectId qtype : BitVec 16) :
    Run String (List IpAddr × RCode × Bool × Bool × BitVec 16) :=
  if buf.length < 12 then bail "DNS response is shorter than a header"
  else do
    let id ← be16 buf 0 1
    if id ≠ expectId then
      bail s!"DNS response id {id.toNat} does not match the query id {expectId.toNat}"
    else
      let flags ← be16 buf 2 3
      -- QR and the opcode are not looked at.
      let rcode := RCode.fromU8 ((flags &&& 0x000f).setWidth 8)
      let truncated := flags &&& 0x0200 != 0
      let authoritative := flags &&& 0x0400 != 0
      let qdcount ← be16 buf 4 5
      let ancount ← be16 buf 6 7
      -- An error of a question is one of the response.
      let offset ← skipQuestions w buf qdcount.toNat 12
      let addresses ← decodeAnswers w buf qtype ancount.toNat offset []
      return (addresses, rcode, truncated, authoritative, ancount)

/-! ### The grammar of a message -/

/-- A name of `n` labels lies at `start`, up to `stop`: it ends in the root label or in a
    compression pointer. -/
inductive NameAt (buf : List (BitVec 8)) : (n start stop : Nat) → Prop
  | root {o : Nat} (h : buf[o]? = some 0) : NameAt buf 0 o (o + 1)
  | pointer {o : Nat} {b : BitVec 8} (h : buf[o]? = some b) (hp : b &&& 0xc0 = 0xc0)
      (hlow : o + 1 < buf.length) : NameAt buf 0 o (o + 2)
  | label {n o e : Nat} {b : BitVec 8} (h : buf[o]? = some b) (hb : b ≠ 0)
      (hp : b &&& 0xc0 ≠ 0xc0) (rest : NameAt buf n (o + 1 + b.toNat) e) : NameAt buf (n + 1) o e

/-- `n` questions lie at `start`, up to `stop`. -/
inductive QuestionsAt (buf : List (BitVec 8)) : (n start stop : Nat) → Prop
  | done {o : Nat} : QuestionsAt buf 0 o o
  | next {n k o e stop : Nat} (hk : k ≤ 128) (name : NameAt buf k o e)
      (rest : QuestionsAt buf n (e + 4) stop) : QuestionsAt buf (n + 1) o stop

/-- Where a resource record starts, and where its name ends. -/
structure Record where
  start : Nat
  nameEnd : Nat
  deriving DecidableEq, Repr

namespace Record

variable (buf : List (BitVec 8)) (r : Record)

/-- `TYPE`. -/
def rtype : BitVec 16 := ofBytes 16 ((buf.drop r.nameEnd).take 2)

/-- `RDLENGTH`. -/
def rdlength : Nat := (ofBytes 16 ((buf.drop (r.nameEnd + 8)).take 2)).toNat

/-- `RDATA`. -/
def rdata : List (BitVec 8) := (buf.drop (r.nameEnd + 10)).take (r.rdlength buf)

/-- The end of the record. -/
def stop : Nat := r.nameEnd + 10 + r.rdlength buf

/-- The address in a record of the asked type. -/
def address (qtype : BitVec 16) : Option IpAddr :=
  if r.rtype buf = qtype then
    if qtype.toNat = typeA ∧ r.rdlength buf = 4 then some (.v4 (ofBytes 32 (r.rdata buf)))
    else if qtype.toNat = typeAaaa ∧ r.rdlength buf = 16 then
      some (.v6 (ofBytes 128 (r.rdata buf)))
    else none
  else none

end Record

/-- The record lies inside the buffer, behind a name. -/
structure RecordAt (buf : List (BitVec 8)) (r : Record) : Prop where
  name : ∃ k ≤ 128, NameAt buf k r.start r.nameEnd
  inside : r.stop buf ≤ buf.length

/-- The records lie one after the other from `start` on. -/
inductive RecordsAt (buf : List (BitVec 8)) : (start : Nat) → List Record → Prop
  | nil {o : Nat} : RecordsAt buf o []
  | cons {o : Nat} {r : Record} {rs : List Record} (hstart : r.start = o) (h : RecordAt buf r)
      (rest : RecordsAt buf (r.stop buf) rs) : RecordsAt buf o (r :: rs)

/-! ### Names -/

section Names

variable {w : Nat} {buf : List (BitVec 8)} {n o e steps : Nat}

/-- A name takes some octets, and lies in the buffer. -/
theorem NameAt.bounds (h : NameAt buf n o e) : o < e ∧ e ≤ buf.length := by
  induction h with
  | root h =>
    have := (List.getElem?_eq_some_iff.mp h).1
    omega
  | pointer h hp hlow => omega
  | label h hb hp rest ih => omega

/-- A name is skipped to its end. -/
theorem skipNameLoop_eq (hw : buf.length + 2 ^ 16 ≤ 2 ^ w) (h : NameAt buf n o e)
    (hn : steps + n ≤ 128) : skipNameLoop w buf o steps false = .ok e := by
  induction h generalizing steps with
  | root h =>
    obtain ⟨hlt, hb⟩ := List.getElem?_eq_some_iff.mp h
    rw [skipNameLoop, if_neg (by omega), index_eq hlt, hb, ok_bind, if_neg (by decide),
      add_eq (by omega)]
    simp [pure, Except.pure]
  | pointer h hp hlow =>
    obtain ⟨hlt, hb⟩ := List.getElem?_eq_some_iff.mp h
    rw [skipNameLoop, if_neg (by omega), index_eq hlt, hb, ok_bind, if_pos hp,
      add_eq (by omega), ok_bind, if_neg (by omega), add_eq (by omega)]
    rfl
  | @label n o e b h hb hp rest ih =>
    obtain ⟨hlt, hbyte⟩ := List.getElem?_eq_some_iff.mp h
    have := b.isLt
    have hsteps : steps + 1 < 2 ^ 31 := by omega
    rw [skipNameLoop, if_neg (by omega), index_eq hlt, hbyte, ok_bind, if_neg hp,
      add_eq (by omega), ok_bind, if_neg hb, add_eq (by omega), ok_bind, add_eq hsteps, ok_bind,
      dif_neg (by omega)]
    exact ih (by omega)

/-- Skipping a name stays inside the buffer and follows the grammar. -/
theorem skipNameLoop_returns (hw : buf.length + 2 ^ 16 ≤ 2 ^ w) (o : Nat) {steps : Nat}
    (hsteps : steps ≤ 128) :
    Returns (skipNameLoop w buf o steps false)
      (fun e => ∃ n, steps + n ≤ 128 ∧ NameAt buf n o e) := by
  rw [skipNameLoop]
  split
  · exact Returns.bail _
  rename_i hlt
  have hlt : o < buf.length := by omega
  have hsome : buf[o]? = some buf[o] := List.getElem?_eq_getElem hlt
  have hbyte := buf[o].isLt
  rw [index_eq hlt, ok_bind, add_eq (by omega), ok_bind]
  split
  · rename_i hp
    split
    · exact Returns.bail _
    · rename_i hlow
      rw [add_eq (by omega)]
      exact ⟨0, by omega, .pointer hsome hp (by omega)⟩
  · rename_i hp
    rw [ok_bind]
    split
    · rename_i hzero
      exact ⟨0, by omega, .root (by rw [hsome, hzero])⟩
    · rename_i hb
      have hsteps' : steps + 1 < 2 ^ 31 := by omega
      rw [add_eq (by omega), ok_bind, add_eq hsteps', ok_bind]
      split
      · exact Returns.bail _
      · rename_i hmore
        refine (skipNameLoop_returns hw (o + 1 + buf[o].toNat) (by omega)).mono ?_
        rintro e ⟨n, hn, hname⟩
        exact ⟨n + 1, by omega, .label hsome hb hp hname⟩
termination_by 129 - steps

/-- A name that is there is skipped. -/
theorem skipName_eq (hw : buf.length + 2 ^ 16 ≤ 2 ^ w) (h : NameAt buf n o e) (hn : n ≤ 128) :
    skipName w buf o = .ok e := skipNameLoop_eq hw h (by omega)

/-- The loop over the labels ends, and only ever skips a name. -/
theorem skipName_returns (hw : buf.length + 2 ^ 16 ≤ 2 ^ w) (o : Nat) :
    Returns (skipName w buf o) (fun e => ∃ n ≤ 128, NameAt buf n o e) :=
  (skipNameLoop_returns hw o (by omega)).mono (fun _ ⟨n, hn, hname⟩ => ⟨n, by omega, hname⟩)

end Names

/-! ### Sections -/

section Sections

variable {w : Nat} {buf : List (BitVec 8)} {n o e stop : Nat} {r : Record} {rs : List Record}
  {qtype : BitVec 16} {addresses : List IpAddr}

/-- A half word is the two octets that are there. -/
theorem be16_eq {ε : Type} {i : Nat} (h : i + 1 < buf.length) :
    (be16 buf i (i + 1) : Run ε (BitVec 16)) = .ok (ofBytes 16 ((buf.drop i).take 2)) := by
  have htwo : (buf.drop i).take 2 = [buf[i], buf[i + 1]] := by
    rw [List.drop_eq_getElem_cons (by omega), List.drop_eq_getElem_cons h]
    rfl
  rw [be16, index_eq (by omega), ok_bind, index_eq h, ok_bind, htwo]
  rfl

/-- Questions that are there are skipped. -/
theorem skipQuestions_eq (hw : buf.length + 2 ^ 16 ≤ 2 ^ w) (h : QuestionsAt buf n o stop) :
    skipQuestions w buf n o = .ok stop := by
  induction h with
  | done => rfl
  | @next n k o e stop hk name rest ih =>
    have hbounds := name.bounds
    rw [skipQuestions, skipName_eq hw name hk, ok_bind, add_eq (by omega), ok_bind, ih]

/-- Only questions that are there are skipped. -/
theorem skipQuestions_returns (hw : buf.length + 2 ^ 16 ≤ 2 ^ w) (n o : Nat) :
    Returns (skipQuestions w buf n o) (QuestionsAt buf n o) := by
  induction n generalizing o with
  | zero => exact .done
  | succ n ih =>
    rw [skipQuestions]
    refine (skipName_returns hw o).bind ?_
    rintro e ⟨k, hk, name⟩
    have hbounds := name.bounds
    rw [add_eq (by omega), ok_bind]
    exact (ih (e + 4)).mono (fun stop => .next hk name)

/-- The questions end at most four octets past the end of the buffer. -/
theorem QuestionsAt.bounds (h : QuestionsAt buf n o stop) :
    stop = o ∨ stop ≤ buf.length + 4 := by
  induction h with
  | done => exact .inl rfl
  | next hk name rest ih =>
    have := name.bounds
    omega

/-- The data of a record that lies in the buffer are as long as it says. -/
theorem length_rdata (h : r.stop buf ≤ buf.length) : (r.rdata buf).length = r.rdlength buf := by
  unfold Record.stop at h
  simp [Record.rdata]
  omega

/-- A record inside the buffer pushes its address. -/
theorem pushAddress_eq (qtype : BitVec 16) (addresses : List IpAddr)
    (h : r.stop buf ≤ buf.length) :
    pushAddress (r.rtype buf) qtype (r.rdlength buf) (r.rdata buf) addresses =
      .ok (addresses ++ (r.address buf qtype).toList) := by
  have hlen := length_rdata h
  unfold Record.address pushAddress
  split
  · split
    · rename_i hv4
      obtain ⟨a, b, c, d, hfour⟩ := List.length_eq_four.mp (hlen.trans hv4.2)
      simp only [hfour]
      rfl
    · split
      · rename_i hv6
        rw [copyFromSlice_eq (by omega)]
        rfl
      · simp [pure, Except.pure]
  · simp [pure, Except.pure]

/-- One record inside the buffer: its address is pushed, and the loop goes on behind it. -/
theorem decodeAnswers_succ (hw : buf.length + 2 ^ 16 ≤ 2 ^ w)
    (hskip : skipName w buf o = .ok r.nameEnd) (ho : o < buf.length)
    (hinside : r.stop buf ≤ buf.length) :
    decodeAnswers w buf qtype (n + 1) o addresses =
      decodeAnswers w buf qtype n (r.stop buf)
        (addresses ++ (r.address buf qtype).toList) := by
  -- Ten octets of header, then the data, all inside the buffer.
  have hstop : r.nameEnd + 10 + r.rdlength buf ≤ buf.length := hinside
  have hdata : (buf.take (r.nameEnd + 10 + r.rdlength buf)).drop (r.nameEnd + 10) =
      r.rdata buf := by
    rw [List.drop_take, Nat.add_sub_cancel_left]
    rfl
  have hpush := pushAddress_eq qtype addresses hinside
  rw [decodeAnswers, if_neg (by omega), hskip, ok_bind, add_eq (by omega), ok_bind,
    if_neg (by omega), add_eq (by omega), ok_bind, be16_eq (by omega), ok_bind,
    add_eq (by omega), ok_bind, add_eq (by omega), ok_bind, be16_eq (by omega), ok_bind]
  change (do
      let stop ← add w (r.nameEnd + 10) (r.rdlength buf)
      if buf.length < stop then pure addresses
      else do
        let rdata ← slice buf (r.nameEnd + 10) (← add w (r.nameEnd + 10) (r.rdlength buf))
        let addresses ← pushAddress (r.rtype buf) qtype (r.rdlength buf) rdata addresses
        let offset ← add w (r.nameEnd + 10) (r.rdlength buf)
        decodeAnswers w buf qtype n offset addresses) = _
  rw [add_eq (by omega), ok_bind, if_neg (by omega), ok_bind, slice_eq (by omega) hstop, ok_bind,
    hdata, hpush, ok_bind, ok_bind]
  rfl

/-- The records of a message are decoded to their addresses, in order. -/
theorem decodeAnswers_eq (hw : buf.length + 2 ^ 16 ≤ 2 ^ w) (h : RecordsAt buf o rs)
    (qtype : BitVec 16) (addresses : List IpAddr) :
    decodeAnswers w buf qtype rs.length o addresses =
      .ok (addresses ++ rs.filterMap (·.address buf qtype)) := by
  induction h generalizing addresses with
  | nil => simp [decodeAnswers, pure, Except.pure]
  | @cons o r rs hstart h rest ih =>
    obtain ⟨k, hk, name⟩ := h.name
    have hbounds := name.bounds
    rw [hstart] at name hbounds
    rw [List.length_cons, decodeAnswers_succ hw (skipName_eq hw name hk) (by omega) h.inside, ih]
    cases haddr : r.address buf qtype with
    | none => simp [haddr]
    | some a => simp [haddr]

/-- A record that runs past the end of the buffer ends the loop. -/
theorem decodeAnswers_short (hw : buf.length + 2 ^ 16 ≤ 2 ^ w)
    (hskip : skipName w buf o = .ok r.nameEnd) (ho : o < buf.length)
    (hend : r.nameEnd ≤ buf.length) (hshort : ¬r.stop buf ≤ buf.length) :
    decodeAnswers w buf qtype (n + 1) o addresses = .ok addresses := by
  have hstop : ¬r.nameEnd + 10 + r.rdlength buf ≤ buf.length := hshort
  rw [decodeAnswers, if_neg (by omega), hskip, ok_bind, add_eq (by omega), ok_bind]
  by_cases hfixed : buf.length < r.nameEnd + 10
  · rw [if_pos hfixed]
    rfl
  have hlen : r.rdlength buf < 2 ^ 16 := BitVec.isLt _
  rw [if_neg hfixed, add_eq (by omega), ok_bind, be16_eq (by omega), ok_bind,
    add_eq (by omega), ok_bind, add_eq (by omega), ok_bind, be16_eq (by omega), ok_bind, ok_bind]
  have hadd : (add w (r.nameEnd + 10) (ofBytes 16 ((buf.drop (r.nameEnd + 8)).take 2)).toNat :
      Run String Nat) = .ok (r.nameEnd + 10 + r.rdlength buf) :=
    add_eq (by change r.nameEnd + 10 + r.rdlength buf < _; omega)
  rw [hadd, ok_bind, if_pos (by omega)]
  rfl

/-- What the loop returns are the addresses of records that lie one after the other inside the
    buffer, however many of the announced ones these are. -/
theorem decodeAnswers_returns (hw : buf.length + 2 ^ 16 ≤ 2 ^ w) (n o : Nat)
    (addresses : List IpAddr) :
    Returns (decodeAnswers w buf qtype n o addresses) (fun result => ∃ rs, RecordsAt buf o rs ∧
      rs.length ≤ n ∧ result = addresses ++ rs.filterMap (·.address buf qtype)) := by
  induction n generalizing o addresses with
  | zero => exact ⟨[], .nil, le_rfl, by simp⟩
  | succ n ih =>
    by_cases ho : buf.length ≤ o
    · rw [decodeAnswers, if_pos ho]
      exact ⟨[], .nil, Nat.zero_le _, by simp⟩
    have hskip := skipName_returns hw o
    cases hm : skipName w buf o with
    | error fault =>
      rw [hm] at hskip
      rw [decodeAnswers, if_neg ho, hm]
      cases fault with
      | bail e => exact trivial
      | panic p => exact hskip.elim
    | ok e =>
      obtain ⟨k, hk, name⟩ := hskip.of_ok hm
      have hbounds := name.bounds
      let r : Record := ⟨o, e⟩
      -- A record that is cut off ends the answers.
      by_cases hstop : r.stop buf ≤ buf.length
      · rw [decodeAnswers_succ (r := r) hw hm (by omega) hstop]
        refine (ih (r.stop buf) _).mono ?_
        rintro result ⟨rs, hrs, hlen, rfl⟩
        refine ⟨r :: rs, .cons rfl ⟨⟨k, hk, name⟩, hstop⟩ hrs, by simpa using hlen, ?_⟩
        cases haddr : r.address buf qtype with
        | none => simp [haddr]
        | some a => simp [haddr]
      · rw [decodeAnswers_short (r := r) hw hm (by omega) hbounds.2 hstop]
        exact ⟨[], .nil, Nat.zero_le _, by simp⟩

/-- The field of the header at `i`. -/
def headerField (buf : List (BitVec 8)) (i : Nat) : BitVec 16 := ofBytes 16 ((buf.drop i).take 2)

/-- The questions the header announces lie behind it, and these records behind them. -/
def AnswersAt (buf : List (BitVec 8)) (rs : List Record) : Prop :=
  ∃ stop, QuestionsAt buf (headerField buf 4).toNat 12 stop ∧ RecordsAt buf stop rs

/-- Every buffer is decoded: to an error, or to the addresses of answers that lie in it. -/
theorem decodeResponse_returns (hw : buf.length + 2 ^ 16 ≤ 2 ^ w) (expectId qtype : BitVec 16) :
    Returns (decodeResponse w buf expectId qtype) (fun result => ∃ rs, AnswersAt buf rs ∧
      rs.length ≤ (headerField buf 6).toNat ∧
      result.1 = rs.filterMap (·.address buf qtype)) := by
  rw [decodeResponse]
  split
  · exact Returns.bail _
  rename_i hlen
  rw [be16_eq (by omega), ok_bind]
  split
  · exact Returns.bail _
  rw [be16_eq (by omega), ok_bind, be16_eq (by omega), ok_bind, be16_eq (by omega), ok_bind]
  refine (skipQuestions_returns hw _ 12).bind ?_
  intro stop hquestions
  refine (decodeAnswers_returns hw _ stop []).bind ?_
  rintro result ⟨rs, hrs, hcount, rfl⟩
  exact ⟨rs, ⟨stop, hquestions, hrs⟩, hcount, by simp⟩

/-- A message whose header announces what follows it is decoded to the addresses of its
    records. -/
theorem decodeResponse_eq (hw : buf.length + 2 ^ 16 ≤ 2 ^ w) (hheader : 12 ≤ buf.length)
    (hrs : AnswersAt buf rs) (hcount : rs.length = (headerField buf 6).toNat)
    (qtype : BitVec 16) :
    decodeResponse w buf (headerField buf 0) qtype =
      .ok (rs.filterMap (·.address buf qtype),
        RCode.fromU8 ((headerField buf 2 &&& 0x000f).setWidth 8),
        headerField buf 2 &&& 0x0200 != 0, headerField buf 2 &&& 0x0400 != 0,
        headerField buf 6) := by
  obtain ⟨stop, hquestions, hrs⟩ := hrs
  have hanswers := decodeAnswers_eq hw hrs qtype []
  rw [hcount] at hanswers
  rw [decodeResponse, if_neg (by omega), be16_eq (by omega), ok_bind,
    if_neg (by simp [headerField]), be16_eq (by omega), ok_bind, be16_eq (by omega), ok_bind,
    be16_eq (by omega), ok_bind]
  change (skipQuestions w buf (headerField buf 4).toNat 12 >>= fun offset =>
    decodeAnswers w buf qtype (headerField buf 6).toNat offset [] >>= fun _ => _) = _
  rw [skipQuestions_eq hw hquestions, ok_bind, hanswers, ok_bind]
  rfl

end Sections

end Netdiag.Probe.Dns
