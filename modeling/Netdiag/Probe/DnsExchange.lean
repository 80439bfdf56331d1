import Netdiag.Probe.DnsQuery

namespace Netdiag.Probe.Dns

/-!
# Probes — one DNS exchange

`query` of `daemon/src/probe/dns.rs`: a query is sent, and one datagram is read.  What the
system calls answer and what arrives before the timeout are inputs.

* `Arrival.decides` — the datagram comes from the server, has QR set and carries the id of the
  query, or the receive fails.
* `Determined` — the outcome is that of the first arrival that decides, whatever the others
  are.
* `determined_iff` — exactly when the first arrival of all is one that decides.
-/

open Checked

/-! ### The code -/

/-- What the socket brings, `atMs` after the query was sent.  The text of an error is that of
    `explain_io_error`. -/
inductive Arrival
  | datagram (source : SocketAddr) (bytes : List (BitVec 8)) (atMs : Nat)
  | error (e : String)
  deriving DecidableEq, Repr

/-- The errors of the system calls before the wait: those that make the socket, and
    `send_to`. -/
structure UdpCalls where
  socket : Option String := none
  send : Option String := none
  deriving DecidableEq, Repr

/-- A call that fails with this error, if any. -/
def UdpCalls.check (error : Option String) : Run String Unit :=
  match error with
  | some e => bail e
  | none => .ok ()

/-- The id of a query, from the clock. -/
def queryId (monotonicNs : Nat) : BitVec 16 := BitVec.ofNat 16 monotonicNs ||| 1

section Query

variable (t : Target) (os : UdpCalls) (monotonicNs : Nat) (server : SocketAddr) (name : String)
  (qtype : BitVec 16) (ctx : ProbeContext)

/-- What `query` makes of what it received, if anything.  The buffer has 4096 bytes. -/
def answerOf (received : Option Arrival) : Run String DnsAnswer :=
  match received with
  | none => bail s!"no response within {ctx.timeoutMs} ms"
  | some (.error e) => bail e
  | some (.datagram _ bytes atMs) => do
    let (addresses, rcode, truncated, authoritative, answerCount) ←
      decodeResponse t.bits (bytes.take 4096) (queryId monotonicNs) qtype
    return {
      addresses, rcode, truncated, authoritative
      answerCount := answerCount.toNat
      durationMs := atMs
      server }

/-- A query that receives this. -/
def queryReceiving (received : Option Arrival) : Run String DnsAnswer := do
  let _ ← (encodeQuery (queryId monotonicNs) name qtype).mapError Fault.bail
  -- `bind`, `set_nonblocking`, `apply_context` and `from_std`, then `send_to`.
  UdpCalls.check os.socket
  UdpCalls.check os.send
  answerOf t monotonicNs server qtype ctx received

/-- `query`: one `recv`, which takes what arrives first. -/
def query (arrivals : List Arrival) : Run String DnsAnswer :=
  queryReceiving t os monotonicNs server name qtype ctx arrivals.head?

end Query

/-! ### Replies -/

/-- The datagram is from the server, has QR set and carries the id. -/
def Arrival.isReply (server : SocketAddr) (id : BitVec 16) : Arrival → Bool
  | .datagram source bytes _ => source == server && decide (4 ≤ bytes.length) &&
      headerField bytes 0 == id && (headerField bytes 2).getLsbD 15
  | .error _ => false

/-- A reply, or an error of the receive. -/
def Arrival.decides (server : SocketAddr) (id : BitVec 16) (a : Arrival) : Bool :=
  match a with
  | .datagram _ _ _ => a.isReply server id
  | .error _ => true

/-- The arrival, if it decides; of the others only the place is left. -/
def Arrival.mask (server : SocketAddr) (id : BitVec 16) (a : Arrival) : Option Arrival :=
  if a.decides server id then some a else none

/-- Whatever else arrives in the places of the others, the outcome is that of the first arrival
    that decides. -/
def Determined (t : Target) (os : UdpCalls) (monotonicNs : Nat) (server : SocketAddr)
    (name : String) (qtype : BitVec 16) (ctx : ProbeContext) (arrivals : List Arrival) : Prop :=
  ∀ arrivals' : List Arrival,
    arrivals'.map (Arrival.mask server (queryId monotonicNs)) =
      arrivals.map (Arrival.mask server (queryId monotonicNs)) →
    query t os monotonicNs server name qtype ctx arrivals' =
      queryReceiving t os monotonicNs server name qtype ctx
        (arrivals.find? (Arrival.decides server (queryId monotonicNs)))

/-- No query leaves: a label is too long, or a call before the wait fails. -/
def Unsent (os : UdpCalls) (name : String) : Prop :=
  (∃ label ∈ hostLabels name, 63 < (labelBytes label).length) ∨ os.socket ≠ none ∨ os.send ≠ none

section Exchange

variable {t : Target} {os : UdpCalls} {monotonicNs : Nat} {server : SocketAddr} {name : String}
  {qtype : BitVec 16} {ctx : ProbeContext} {arrivals arrivals' : List Arrival}

/-- Without a query nothing that arrives matters. -/
theorem queryReceiving_of_unsent (h : Unsent os name) (received received' : Option Arrival) :
    queryReceiving t os monotonicNs server name qtype ctx received =
      queryReceiving t os monotonicNs server name qtype ctx received' := by
  unfold queryReceiving
  cases hquery : encodeQuery (queryId monotonicNs) name qtype with
  | error e => rfl
  | ok buf =>
    rcases h with ⟨label, hlabel, hlong⟩ | hsocket | hsend
    · have := (encodeQuery_ok_iff.mp hquery).1 label hlabel
      omega
    · obtain ⟨e, he⟩ := Option.ne_none_iff_exists'.mp hsocket
      rw [he]
      rfl
    · obtain ⟨e, he⟩ := Option.ne_none_iff_exists'.mp hsend
      rw [he]
      cases os.socket <;> rfl

/-- A query that leaves ends in what is received. -/
theorem queryReceiving_of_sent (h : ¬ Unsent os name) (received : Option Arrival) :
    queryReceiving t os monotonicNs server name qtype ctx received =
      answerOf t monotonicNs server qtype ctx received := by
  unfold Unsent at h
  simp only [not_or, not_exists, not_and, not_not, Nat.not_lt] at h
  obtain ⟨hlabels, hsocket, hsend⟩ := h
  have hquery : encodeQuery (queryId monotonicNs) name qtype = .ok _ :=
    encodeQuery_ok_iff.mpr ⟨hlabels, rfl⟩
  unfold queryReceiving
  rw [hquery, hsocket, hsend]
  rfl

/-- A message with the id of the query and nothing in it: QR is not set. -/
def bareHeader (id : BitVec 16) : Response where
  id := id
  flags := 0
  questions := []
  answers := []
  nscount := 0
  arcount := 0
  rest := []
  questions_length := by decide
  answers_length := by decide

/-- It is taken for an answer. -/
theorem decodeResponse_bareHeader (t : Target) (id qtype : BitVec 16) :
    ∃ r, decodeResponse t.bits ((bareHeader id).encode.take 4096) id qtype = .ok r := by
  have hhalf := t.half_le
  have hlen : (bareHeader id).encode.length = 12 := rfl
  obtain ⟨rs, hrs, hrslen, -⟩ := (bareHeader id).answersAt_encode
  obtain ⟨hid, -, -, hancount⟩ := (bareHeader id).headerField_encode
  have hcount : rs.length = (headerField (bareHeader id).encode 6).toNat := by
    rw [hrslen, hancount]
    rfl
  let buf : Slice t (BitVec 8) := ⟨(bareHeader id).encode, by rw [hlen]; omega⟩
  have hw : (bareHeader id).encode.length + 2 ^ 16 ≤ 2 ^ t.bits :=
    buf.length_add_le (k := 2 ^ 16) (by decide)
  rw [List.take_of_length_le (by rw [hlen]; omega)]
  have heq := decodeResponse_eq hw (by rw [hlen]) hrs hcount qtype
  rw [hid] at heq
  exact ⟨_, heq⟩

theorem decides_bareHeader (source : SocketAddr) (id : BitVec 16) (atMs : Nat) :
    Arrival.decides server id (.datagram source (bareHeader id).encode atMs) = false := by
  obtain ⟨-, hflags, -, -⟩ := (bareHeader id).headerField_encode
  have hqr : (headerField (bareHeader id).encode 2).getLsbD 15 = false := by
    rw [hflags]
    exact BitVec.getLsbD_zero
  show (_ && _ && _ && (headerField (bareHeader id).encode 2).getLsbD 15) = false
  rw [hqr, Bool.and_false]

/-- A first arrival that does not decide could be another with another outcome. -/
theorem not_determined {a : Arrival} (hsent : ¬ Unsent os name)
    (ha : a.decides server (queryId monotonicNs) = false) :
    ¬ Determined t os monotonicNs server name qtype ctx (a :: arrivals) := by
  intro hdetermined
  -- Whatever stands in the place of `a` and does not decide, the outcome is the same.
  have hother : ∀ b : Arrival, b.decides server (queryId monotonicNs) = false →
      answerOf t monotonicNs server qtype ctx (some b) =
        answerOf t monotonicNs server qtype ctx
          ((a :: arrivals).find? (Arrival.decides server (queryId monotonicNs))) := by
    intro b hb
    have hb' := hdetermined (b :: arrivals) (by simp [Arrival.mask, ha, hb])
    rwa [query, queryReceiving_of_sent hsent, queryReceiving_of_sent hsent] at hb'
  -- One of these is an error and the other is not.
  have hshort := hother (.datagram server [] 0) (by simp [Arrival.decides, Arrival.isReply])
  have hheader := hother _ (decides_bareHeader server (queryId monotonicNs) 0)
  rw [← hshort] at hheader
  obtain ⟨r, hr⟩ := decodeResponse_bareHeader t (queryId monotonicNs) qtype
  change (decodeResponse _ _ _ _ >>= _) = _ at hheader
  rw [hr] at hheader
  cases hheader

/-- Nothing comes before the first arrival that decides. -/
theorem find?_decides {id : BitVec 16} (h : ∀ a ∈ arrivals.head?, a.decides server id = true) :
    arrivals.find? (Arrival.decides server id) = arrivals.head? := by
  cases arrivals with
  | nil => rfl
  | cons a rest => exact List.find?_cons_of_pos (h a rfl)

/-- **What decides a query.**  The outcome is that of the first reply exactly when no query
    leaves or nothing else arrives before that reply; then other datagrams may be put in or taken
    out behind it. -/
theorem determined_iff (t : Target) (os : UdpCalls) (monotonicNs : Nat) (server : SocketAddr)
    (name : String) (qtype : BitVec 16) (ctx : ProbeContext) (arrivals : List Arrival) :
    (Determined t os monotonicNs server name qtype ctx arrivals ↔
      Unsent os name ∨ ∀ a ∈ arrivals.head?, a.decides server (queryId monotonicNs) = true) ∧
      ((∀ a ∈ arrivals.head?, a.decides server (queryId monotonicNs) = true) →
        ∀ arrivals' : List Arrival,
          (∀ a ∈ arrivals'.head?, a.decides server (queryId monotonicNs) = true) →
          arrivals'.filter (Arrival.decides server (queryId monotonicNs)) =
            arrivals.filter (Arrival.decides server (queryId monotonicNs)) →
          query t os monotonicNs server name qtype ctx arrivals' =
            query t os monotonicNs server name qtype ctx arrivals) := by
  refine ⟨⟨?_, ?_⟩, ?_⟩
  · intro hdetermined
    by_contra hnot
    rw [not_or] at hnot
    obtain ⟨hsent, hfirst⟩ := hnot
    cases arrivals with
    | nil => exact hfirst (by simp)
    | cons a rest =>
      have ha : a.decides server (queryId monotonicNs) = false := by simpa using hfirst
      exact not_determined hsent ha hdetermined
  · rintro (hunsent | hfirst) arrivals' hmask
    · exact queryReceiving_of_unsent hunsent _ _
    · rw [find?_decides hfirst, query]
      congr 1
      -- The first arrival decides, and its place is the first.
      cases arrivals with
      | nil => rw [List.map_eq_nil_iff.mp hmask]
      | cons a rest =>
        obtain ⟨b, rest', rfl, hb, -⟩ := List.map_eq_cons_iff.mp hmask
        have ha := hfirst a rfl
        simp only [Arrival.mask, ha, if_true] at hb
        split at hb
        · cases hb
          rfl
        · cases hb
  · intro hfirst arrivals' hfirst' hfilter
    -- Both begin with the first of the arrivals that decide.
    have hhead : arrivals'.head? = arrivals.head? := by
      rw [← find?_decides hfirst, ← find?_decides hfirst', ← List.head?_filter,
        ← List.head?_filter, hfilter]
    rw [query, query, hhead]

end Exchange

/-- A resolver. -/
def resolver : SocketAddr := ⟨.v4 0x08080808, 53⟩

/-- Its reply to a query with the id `0xabcd`. -/
def resolverReply : Arrival := .datagram resolver exampleResponse.encode 20

/-- A datagram from elsewhere with another id. -/
def strayReply : Arrival := .datagram ⟨.v4 0x0a000001, 53⟩ (bareHeader 2).encode 10

/-- A stray datagram fails a query that its server answers. -/
theorem stray_fails_query :
    query ⟨64, by decide⟩ {} 0xabcd resolver "example.com" 1 {} [strayReply, resolverReply] =
        bail "DNS response id 2 does not match the query id 43981" ∧
      query ⟨64, by decide⟩ {} 0xabcd resolver "example.com" 1 {} [resolverReply] =
        .ok ⟨[.v4 0x5db8d822], .noError, false, false, 1, 20, resolver⟩ ∧
      resolverReply.isReply resolver 0xabcd = true ∧
      ¬ Determined ⟨64, by decide⟩ {} 0xabcd resolver "example.com" 1 {}
        [strayReply, resolverReply] := by
  -- The query itself can be encoded and sent.
  have hsent : ¬ Unsent {} "example.com" := by
    rintro (⟨label, hlabel, hlong⟩ | h | h)
    · have hlabels : hostLabels "example.com" = ["example".toList, "com".toList] := by decide
      have hshort : ∀ l ∈ ["example".toList, "com".toList], (labelBytes l).length ≤ 63 := by
        decide
      rw [hlabels] at hlabel
      have := hshort label hlabel
      omega
    · exact h rfl
    · exact h rfl
  refine ⟨?_, ?_, by decide +kernel, ?_⟩
  · rw [query, queryReceiving_of_sent hsent]
    decide +kernel
  · rw [query, queryReceiving_of_sent hsent]
    decide +kernel
  · exact not_determined hsent (by decide +kernel)

end Netdiag.Probe.Dns
