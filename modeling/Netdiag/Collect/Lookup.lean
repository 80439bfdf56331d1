import Netdiag.Collect.Routes

namespace Netdiag.Collect

/-!
# Collectors — the kernel's own route lookup

`route_lookup` of `daemon/src/collect/routes.rs`: the kernel is asked where one packet would go.

* `lookupRequest` — the `RTM_GETROUTE` message; `Question.ofMessage` is how the kernel reads it.
* `lookupAnswer`, `routeLookup` — the replies, and the report.
* `asks_lookupRequest` — the kernel is asked what was meant, for the whole route and its table.
* `route_lookup_faithful` — and the report is the first reply that decides, or says why there is
  none.
-/

open Netdiag.Watch (fromIp)

/-! ### The question -/

/-- What `route_lookup` is asked: zero stands for any interface. -/
structure Question where
  destination : IpAddr
  sourceHint : Option IpAddr := none
  uid : Option Nat := none
  fwmark : Option Nat := none
  outInterfaceIndex : Nat := 0
  deriving DecidableEq, Repr

/-- The `RouteAddress` of an address. -/
def routeAddress : IpAddr → RouteAddress
  | .v4 a => .inet a
  | .v6 a => .inet6 a

/-- The length of the prefix that is one address. -/
def hostPrefix : IpAddr → Nat
  | .v4 _ => 32
  | .v6 _ => 128

/-- `RouteHeader::RT_TABLE_UNSPEC`. -/
def rtTableUnspec : Nat := 0

/-- `RTM_F_LOOKUP_TABLE`. -/
def lookupTableFlag : Nat := 0x1000

/-- The request `do_route_lookup` sends. -/
def lookupRequest (q : Question) : RouteMessage where
  header :=
    { addressFamily := match q.destination with
        | .v4 _ => .inet
        | .v6 _ => .inet6
      destinationPrefixLength := hostPrefix q.destination
      sourcePrefixLength := (q.sourceHint.map hostPrefix).getD 0
      table := rtTableUnspec
      flags := lookupTableFlag }
  attributes :=
    [.destination (routeAddress q.destination)] ++
      (q.sourceHint.map (fun src => RouteAttribute.source (routeAddress src))).toList ++
      (q.uid.map RouteAttribute.uid).toList ++ (q.fwmark.map RouteAttribute.mark).toList ++
      (if q.outInterfaceIndex ≠ 0 then [.oif q.outInterfaceIndex] else [])

/-! ### How the kernel reads it -/

/-- The attribute of a kind, as the kernel's parser keeps it: the last one. -/
def lastAttribute {α : Type} (select : RouteAttribute → Option α) (attrs : List RouteAttribute) :
    Option α :=
  (attrs.filterMap select).getLast?

/-- The question in a message: what to look up, for whom, with which mark and which way out. -/
def Question.ofMessage (msg : RouteMessage) : Option Question :=
  (lastAttribute (fun a => match a with
    | .destination a => routeAddressToIp a
    | _ => none) msg.attributes).map (fun destination =>
  { destination
    sourceHint := lastAttribute (fun a => match a with
      | .source a => routeAddressToIp a
      | _ => none) msg.attributes
    uid := lastAttribute (fun a => match a with
      | .uid uid => some uid
      | _ => none) msg.attributes
    fwmark := lastAttribute (fun a => match a with
      | .mark mark => some mark
      | _ => none) msg.attributes
    outInterfaceIndex := (lastAttribute (fun a => match a with
      | .oif i => some i
      | _ => none) msg.attributes).getD 0 })

@[simp] theorem routeAddressToIp_routeAddress (ip : IpAddr) :
    routeAddressToIp (routeAddress ip) = some ip := by
  cases ip <;> rfl

/-- Every question is read back from its message. -/
theorem ofMessage_lookupRequest (q : Question) :
    Question.ofMessage (lookupRequest q) = some q := by
  obtain ⟨destination, sourceHint, uid, fwmark, oif⟩ := q
  cases sourceHint <;> cases uid <;> cases fwmark <;> by_cases h : oif = 0 <;>
    simp [Question.ofMessage, lookupRequest, lastAttribute, h]

/-- The family a route to the address is of. -/
def destinationFamily : IpAddr → AddressFamily
  | .v4 _ => .inet
  | .v6 _ => .inet6

/-- The message asks the question: for a route of the destination's family to that one address
    (and from that one source), in whatever table the rules lead to, which the kernel is to
    name. -/
structure Asks (request : RouteMessage) (q : Question) : Prop where
  question : Question.ofMessage request = some q
  family : request.header.addressFamily = destinationFamily q.destination
  destinationPrefix : request.header.destinationPrefixLength = hostPrefix q.destination
  sourcePrefix : request.header.sourcePrefixLength = (q.sourceHint.map hostPrefix).getD 0
  anyTable : request.header.table = rtTableUnspec
  lookupTable : request.header.flags = lookupTableFlag

/-- The kernel is asked what was meant. -/
theorem asks_lookupRequest (q : Question) : Asks (lookupRequest q) q where
  question := ofMessage_lookupRequest q
  family := by
    unfold lookupRequest destinationFamily
    cases q.destination <;> rfl
  destinationPrefix := rfl
  sourcePrefix := rfl
  anyTable := rfl
  lookupTable := rfl

/-! ### The answer -/

/-- `NetlinkPayload` of a reply; of an error what it says. -/
inductive LookupReply
  | newRoute (msg : RouteMessage)
  | error (text : String)
  | other
  deriving DecidableEq, Repr

/-- The kernel: what comes back for a request, or why it could not be sent. -/
abbrev LookupKernel := RouteMessage → Except String (List LookupReply)

/-- The loop over the replies. -/
def lookupAnswer (destination : IpAddr) : List LookupReply → Except String RouteMessage
  | .newRoute msg :: _ => .ok msg
  | .error text :: _ => .error text
  | .other :: rest => lookupAnswer destination rest
  | [] => .error s!"kernel returned no route for {destination.display}"

/-- `do_route_lookup`. -/
def doRouteLookup (kernel : LookupKernel) (q : Question) : Except String RouteMessage :=
  match kernel (lookupRequest q) with
  | .error e => .error s!"failed to send RTM_GETROUTE: {e}"
  | .ok replies => lookupAnswer q.destination replies

/-- `RouteLookup` with everything `route_lookup` fills in. -/
structure DumpedLookup where
  destination : Option IpAddress
  sourceHint : Option IpAddress
  uid : Nat
  fwmark : Nat
  outInterfaceIndex : Nat
  table : Nat := 0
  route : Option DumpedRoute := none
  error : Option Ipc.Error := none
  deriving DecidableEq, Repr

/-- The fields the diagnosis and the per-app view read. -/
def DumpedLookup.toRouteLookup (l : DumpedLookup) : RouteLookup where
  uid := l.uid
  fwmark := l.fwmark
  route := l.route.map DumpedRoute.toRoute
  error := l.error

/-- `route_lookup`. -/
def routeLookup (kernel : LookupKernel) (q : Question) (ifNames : Nat → Option String) :
    DumpedLookup :=
  let lookup : DumpedLookup :=
    { destination := some (fromIp q.destination)
      sourceHint := q.sourceHint.map fromIp
      uid := q.uid.getD 0
      fwmark := q.fwmark.getD 0
      outInterfaceIndex := q.outInterfaceIndex }
  match doRouteLookup kernel q with
  | .ok msg =>
    let route := routeToProto msg ifNames
    { lookup with table := route.table, route := some route }
  -- No route is an answer too: it says what the kernel said.
  | .error e =>
    { lookup with
      error := some { code := .kernel, message := e
                      detail := s!"RTM_GETROUTE to {q.destination.display}" } }

/-- A reply that ends the loop. -/
def LookupReply.decides : LookupReply → Bool
  | .other => false
  | _ => true

/-- The replies that decide nothing are passed over. -/
theorem lookupAnswer_eq (destination : IpAddr) (replies : List LookupReply) :
    lookupAnswer destination replies =
      match replies.find? LookupReply.decides with
      | some (.newRoute msg) => .ok msg
      | some (.error text) => .error text
      | _ => .error s!"kernel returned no route for {destination.display}" := by
  induction replies with
  | nil => rfl
  | cons reply replies ih =>
    cases reply with
    | newRoute msg => rfl
    | error text => rfl
    | other => exact ih

/-- The first reply that decides is a route. -/
def Routed (answer : Except String (List LookupReply)) (msg : RouteMessage) : Prop :=
  ∃ replies, answer = .ok replies ∧ replies.find? LookupReply.decides = some (.newRoute msg)

/-- Why there is no route: the request was not sent, the first reply that decides is an error,
    or no reply decides. -/
inductive NoRoute (destination : IpAddr) : Except String (List LookupReply) → String → Prop
  | unsent (e : String) :
      NoRoute destination (.error e) s!"failed to send RTM_GETROUTE: {e}"
  | refused (replies : List LookupReply) (text : String)
      (hfirst : replies.find? LookupReply.decides = some (.error text)) :
      NoRoute destination (.ok replies) text
  | silent (replies : List LookupReply) (hnone : replies.find? LookupReply.decides = none) :
      NoRoute destination (.ok replies)
        s!"kernel returned no route for {destination.display}"

/-- The lookup returns what the first reply that decides says: the route, or why there is
    none. -/
theorem doRouteLookup_cases (kernel : LookupKernel) (q : Question) :
    (∃ msg, Routed (kernel (lookupRequest q)) msg ∧ doRouteLookup kernel q = .ok msg) ∨
    ∃ text, NoRoute q.destination (kernel (lookupRequest q)) text ∧
      doRouteLookup kernel q = .error text := by
  unfold doRouteLookup
  cases kernel (lookupRequest q) with
  | error e => exact .inr ⟨_, .unsent e, rfl⟩
  | ok replies =>
    simp only [lookupAnswer_eq]
    cases hfind : replies.find? LookupReply.decides with
    | none => exact .inr ⟨_, .silent replies hfind, rfl⟩
    | some reply =>
      cases reply with
      | newRoute msg => exact .inl ⟨msg, ⟨replies, rfl, hfind⟩, rfl⟩
      | error text => exact .inr ⟨text, .refused replies text hfind, rfl⟩
      | other =>
        -- what is found decides
        have hdecides := List.find?_some hfind
        cases hdecides

/-- The answer gives one route at most. -/
theorem Routed.unique {answer : Except String (List LookupReply)} {msg msg' : RouteMessage}
    (h : Routed answer msg) (h' : Routed answer msg') : msg = msg' := by
  obtain ⟨replies, rfl, hfirst⟩ := h
  obtain ⟨_, ⟨⟩, hfirst'⟩ := h'
  rw [hfirst] at hfirst'
  cases hfirst'
  rfl

/-- The answer gives one reason at most. -/
theorem NoRoute.unique {destination : IpAddr} {answer : Except String (List LookupReply)}
    {text text' : String} (h : NoRoute destination answer text)
    (h' : NoRoute destination answer text') : text = text' := by
  cases h with
  | unsent e => cases h'; rfl
  | refused replies _ hfirst =>
    cases h' with
    | refused _ _ hfirst' => rw [hfirst] at hfirst'; cases hfirst'; rfl
    | silent _ hnone => rw [hfirst] at hnone; cases hnone
  | silent replies hnone =>
    cases h' with
    | refused _ _ hfirst => rw [hnone] at hfirst; cases hfirst
    | silent => rfl

/-- The answer does not give a route and a reason why there is none. -/
theorem Routed.not_noRoute {destination : IpAddr} {answer : Except String (List LookupReply)}
    {msg : RouteMessage} {text : String} (h : Routed answer msg) :
    ¬ NoRoute destination answer text := by
  obtain ⟨replies, rfl, hfirst⟩ := h
  rintro (_ | ⟨_, _, hrefused⟩ | ⟨_, hnone⟩)
  · rw [hfirst] at hrefused; cases hrefused
  · rw [hfirst] at hnone; cases hnone

/-- The report repeats the question. -/
structure DumpedLookup.Echoes (lookup : DumpedLookup) (q : Question) : Prop where
  destination : lookup.destination = some (fromIp q.destination)
  sourceHint : lookup.sourceHint = q.sourceHint.map fromIp
  uid : lookup.uid = q.uid.getD 0
  fwmark : lookup.fwmark = q.fwmark.getD 0
  outInterfaceIndex : lookup.outInterfaceIndex = q.outInterfaceIndex

/-- The route of a report is a converted message. -/
theorem routeLookup_route {kernel : LookupKernel} {q : Question} {ifNames : Nat → Option String}
    {route : DumpedRoute} (h : (routeLookup kernel q ifNames).route = some route) :
    ∃ msg, doRouteLookup kernel q = .ok msg ∧ route = routeToProto msg ifNames := by
  unfold routeLookup at h
  cases hanswer : doRouteLookup kernel q with
  | ok msg =>
    rw [hanswer] at h
    exact ⟨msg, rfl, (Option.some.inj h).symm⟩
  | error e =>
    rw [hanswer] at h
    cases h

/-- Whatever comes back, the question is in the report. -/
theorem routeLookup_echoes (kernel : LookupKernel) (q : Question) (ifNames : Nat → Option String) :
    (routeLookup kernel q ifNames).Echoes q := by
  unfold routeLookup
  cases doRouteLookup kernel q <;> exact ⟨rfl, rfl, rfl, rfl, rfl⟩

/-- **A lookup is faithful.**  The kernel is asked the question it was meant to be asked, with the
    uid and the mark, for the one route and the table it is in.  The report repeats the question;
    its route is that of the first reply that decides, with its table, when that is a route, and
    its error says why there is no route when there is none. -/
theorem route_lookup_faithful (kernel : LookupKernel) (q : Question)
    (ifNames : Nat → Option String) :
    ∃ request, Asks request q ∧
      (∀ route, (routeLookup kernel q ifNames).route = some route ↔
        ∃ msg, Routed (kernel request) msg ∧ route = routeToProto msg ifNames) ∧
      (∀ error, (routeLookup kernel q ifNames).error = some error ↔
        ∃ text, NoRoute q.destination (kernel request) text ∧
          error = { code := .kernel, message := text
                    detail := s!"RTM_GETROUTE to {q.destination.display}" }) ∧
      (routeLookup kernel q ifNames).table
        = ((routeLookup kernel q ifNames).route.map DumpedRoute.table).getD 0 ∧
      (routeLookup kernel q ifNames).route.isSome = (routeLookup kernel q ifNames).error.isNone ∧
      (routeLookup kernel q ifNames).Echoes q := by
  refine ⟨lookupRequest q, asks_lookupRequest q, ?_⟩
  have hechoes := routeLookup_echoes kernel q ifNames
  -- By the first reply that decides: a route, or an error.
  rcases doRouteLookup_cases kernel q with ⟨msg, hrouted, hanswer⟩ | ⟨text, hnone, hanswer⟩
  · refine ⟨fun route => ?_, fun error => ?_, by rw [routeLookup, hanswer]; rfl,
      by rw [routeLookup, hanswer]; rfl, hechoes⟩ <;> rw [routeLookup, hanswer]
    · constructor
      · rintro ⟨⟩
        exact ⟨msg, hrouted, rfl⟩
      · rintro ⟨msg', hrouted', rfl⟩
        rw [hrouted.unique hrouted']
    · refine iff_of_false nofun ?_
      rintro ⟨text, htext, -⟩
      exact hrouted.not_noRoute htext
  · refine ⟨fun route => ?_, fun error => ?_, by rw [routeLookup, hanswer]; rfl,
      by rw [routeLookup, hanswer]; rfl, hechoes⟩ <;> rw [routeLookup, hanswer]
    · refine iff_of_false nofun ?_
      rintro ⟨msg, hrouted, -⟩
      exact hrouted.not_noRoute hnone
    · constructor
      · rintro ⟨⟩
        exact ⟨text, hnone, rfl⟩
      · rintro ⟨text', hnone', rfl⟩
        rw [hnone.unique hnone']

end Netdiag.Collect
