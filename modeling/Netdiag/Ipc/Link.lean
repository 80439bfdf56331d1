import Netdiag.Ipc.Answers
import Netdiag.Ipc.Ending

namespace Netdiag.Ipc

/-!
# IPC — the client and the daemon on one socket

`DaemonClient` at one end, a session of the daemon at the other, and the frames under way
between them.  The client is connection 0; the daemon serves any number of others.

* `Link` / `Link.step` — the two step functions over one socket: a request is read by the
  session in the order it was written, a frame the session's writer takes off its queue
  arrives at the client.
* `Joined` — what holds across the socket: what the client reads the session has queued,
  and an `error` is never for a stream as long as the stream limit is not hit.
* `agreed_of_unrefused` — then the two agree on when a stream is over.
-/

/-- The frame the writer takes off the outbound queue next. -/
def Session.untaken (s : Session) : Option ServerFrame :=
  s.queued[s.queued.length - s.pending]?

/-- The request a step of the client writes. -/
def DaemonClient.written (c : DaemonClient) : DaemonClient.Action → Option ClientFrame
  | .task i (.send none) => c.calls[i]?.map (fun call => ⟨call.id, some call.body⟩)
  | _ => none

/-- A daemon, one of its clients, and the requests that client has written and the daemon
    has not read. -/
structure Link where
  server : Server
  client : DaemonClient
  wire : List ClientFrame

namespace Link

/-- Nothing has been sent yet. -/
def init : Link := { server := Server.init, client := DaemonClient.init, wire := [] }

/-- The session of this client. -/
def session (l : Link) : Session := l.server.comp 0

/-- Which end moves. -/
inductive Action
  | daemon (conn : Nat) (a : Session.Action)
  | client (a : DaemonClient.Action)
  deriving DecidableEq

/-- The daemon moves.  On connection 0 it reads what this client wrote, and what its writer
    takes goes to this client. -/
def daemonStep (l : Link) (conn : Nat) (a : Session.Action) : Option Link :=
  (Server.step l.server (conn, a)).bind fun server =>
    if conn = 0 then
      match a with
      -- The session reads what this client wrote first.
      | .receive frame =>
          match l.wire with
          | f :: rest => if f = frame then some { l with server, wire := rest } else none
          | [] => none
      -- What the writer takes is written, and arrives in this order.
      | .writerTake =>
          l.session.untaken.map fun f =>
            { l with server, client := { l.client with inbox := l.client.inbox ++ [f] } }
      | _ => some { l with server }
    else some { l with server }

/-- The client moves.  Frames come from the daemon only. -/
def clientStep (l : Link) (a : DaemonClient.Action) : Option Link :=
  match a with
  | .arrive _ => none
  | a => (l.client.step a).map fun client =>
      { l with client, wire := l.wire ++ (l.client.written a).toList }

/-- One step of either end. -/
def step (l : Link) : Action → Option Link
  | .daemon conn a => l.daemonStep conn a
  | .client a => l.clientStep a

/-- A run of the two ends whose steps all meet `ok`. -/
abbrev Run (ok : Link → Action → Prop) (l : Link) : Prop := Runs.Steps step ok init l

variable {l l' : Link} {a : Action}

/-! ### What a step can do -/

/-- Everything a step of the link can do to the client, its session and the wire. -/
inductive Effect (l : Link) : Action → Link → Prop
  /-- Another connection moves. -/
  | elsewhere (conn : Nat) (a : Session.Action) (l' : Link) (hsession : l'.session = l.session)
      (hclient : l'.client = l.client) (hwire : l'.wire = l.wire) :
      Effect l (.daemon conn a) l'
  /-- The session reads a request. -/
  | read (f : ClientFrame) (l' : Link) (hwire : l.wire = f :: l'.wire)
      (hsession : l'.session = l.session.receive f)
      (hstep : Session.Effect l.server.shared l.session (.receive f) l'.session)
      (hclient : l'.client = l.client) : Effect l (.daemon 0 (.receive f)) l'
  /-- The session's writer writes a frame. -/
  | wrote (f : ServerFrame) (l' : Link) (hf : f ∈ l.session.queued)
      (hstep : Session.Effect l.server.shared l.session .writerTake l'.session)
      (hgreeted : l'.session.greeted = l.session.greeted)
      (hclient : l'.client = { l.client with inbox := l.client.inbox ++ [f] })
      (hwire : l'.wire = l.wire) : Effect l (.daemon 0 .writerTake) l'
  /-- The session moves by itself. -/
  | served (a : Session.Action) (l' : Link) (ha : ∀ f, a ≠ .receive f)
      (hstep : Session.Effect l.server.shared l.session a l'.session)
      (hgreeted : l'.session.greeted = l.session.greeted)
      (hclient : l'.client = l.client) (hwire : l'.wire = l.wire) : Effect l (.daemon 0 a) l'
  /-- The client moves. -/
  | client (a : DaemonClient.Action) (l' : Link) (ha : ∀ f, a ≠ .arrive f)
      (hstep : DaemonClient.Effect l.client a l'.client) (hsession : l'.session = l.session)
      (hwire : l'.wire = l.wire ++ (l.client.written a).toList) : Effect l (.client a) l'

theorem clientStep_effect {a : DaemonClient.Action} (h : l.clientStep a = some l') :
    Effect l (.client a) l' := by
  unfold clientStep at h
  split at h
  · cases h
  · rename_i hne
    obtain ⟨c, hc, rfl⟩ := Option.map_eq_some_iff.mp h
    exact .client a _ (fun f hf => hne f hf) (DaemonClient.step_effect hc) rfl rfl

/-- The inversion lemma. -/
theorem step_effect (h : l.step a = some l') : Effect l a l' := by
  cases a with
  | client a => exact clientStep_effect h
  | daemon conn a =>
    obtain ⟨server, hserver, h⟩ := Option.bind_eq_some_iff.mp h
    obtain ⟨hmoved, hrest⟩ := Runs.World.move_eq_some hserver
    -- Connection 0 is the client's; the others are strangers'.
    by_cases hconn : conn = 0
    · subst hconn
      have hs := Session.step_effect hmoved
      rw [if_pos rfl] at h
      split at h
      · rename_i f
        split at h
        · rename_i g rest hwire
          split at h
          · rename_i hgf
            subst hgf
            cases h
            refine .read g _ hwire ?_ hs rfl
            simp only [Session.step] at hmoved
            split at hmoved
            · exact ((Prod.mk.inj (Option.some.inj hmoved)).2).symm
            · cases hmoved
          · cases h
        · cases h
      · obtain ⟨f, hf, rfl⟩ := Option.map_eq_some_iff.mp h
        have hgreeted := Session.step_greeted hmoved (by simp)
        exact .wrote f _ (List.mem_of_getElem? hf) hs hgreeted rfl rfl
      · rename_i hreceive _
        cases h
        have ha : ∀ f, a ≠ .receive f := fun f hf => hreceive f hf
        exact .served a _ ha hs (Session.step_greeted hmoved ha) rfl rfl
    · rw [if_neg hconn] at h
      cases h
      exact .elsewhere conn a _ (hrest 0 (Ne.symm hconn)) rfl rfl

/-! ### What holds across the socket -/

/-- The id was given to a call that opens no stream. -/
def Plain (c : DaemonClient) (id : Nat) : Prop :=
  ∃ (i : Nat) (call : ClientCall), c.calls[i]? = some call ∧ call.id = id ∧
    ∀ stream, call.body ≠ .stream stream

/-- What the session has to do for this client, and what it has told it. -/
structure Answering (s : Session) (c : DaemonClient) : Prop where
  read : ∀ f ∈ c.seen ++ c.inbox, f ∈ s.queued
  errors : ∀ f ∈ s.queued ++ s.replies, ∀ e, f.body = .error e → f.id = 0 ∨ Plain c f.id
  unaries : ∀ u ∈ s.unaries, Plain c u.id
  calling : ∀ id, s.calling = some id → Plain c id
  admitted : ∀ id t e, s.loop ≠ .refused id t e
  greeted : s.greeted = true ∨ (s.Fresh ∧ c.calls.length ≤ 1)

/-- What holds of the link in every run in which no stream is refused. -/
structure Joined (l : Link) : Prop where
  sound : l.client.Sound
  numbered : l.client.Numbered
  tracked : l.client.Tracked
  heeded : l.client.Heeded
  first : ∀ call, l.client.calls[0]? = some call → call.body = .hello
  wire : ∀ f ∈ l.wire, ∃ (i : Nat) (call : ClientCall), l.client.calls[i]? = some call ∧
    f = ⟨call.id, some call.body⟩
  answering : Answering l.session l.client

theorem joined_init : init.Joined where
  sound := DaemonClient.sound_init
  numbered := DaemonClient.numbered_init
  tracked := DaemonClient.tracked_init
  heeded := DaemonClient.heeded_init
  first call h := by simp [init, DaemonClient.init] at h
  wire f h := by simp [init] at h
  answering :=
    { read := by simp [init, DaemonClient.init]
      errors := by simp [init, session, Server.init, Session.init, Session.queued, Session.replies]
      unaries := by simp [init, session, Server.init, Session.init]
      calling := by simp [init, session, Server.init, Session.init, Session.calling]
      admitted := by simp [init, session, Server.init, Session.init]
      greeted := .inr ⟨Session.fresh_init, by simp [init, DaemonClient.init]⟩ }

theorem Plain.mono {c c' : DaemonClient} {a : DaemonClient.Action} {id : Nat}
    (h : DaemonClient.Effect c a c') (hp : Plain c id) : Plain c' id := by
  obtain ⟨i, call, hcall, hid, hbody⟩ := hp
  obtain ⟨call', hcall', hid', -, hbody'⟩ := h.calls_mono hcall
  exact ⟨i, call', hcall', hid'.trans hid, by rw [hbody']; exact hbody⟩

/-- An id that was given to a stream was given to nothing else. -/
theorem not_plain_of_streams {c : DaemonClient} {i : Nat} {call : ClientCall} (hn : c.Numbered)
    (hcall : c.calls[i]? = some call) (hstreams : call.streams = true) : ¬ Plain c call.id := by
  rintro ⟨j, other, hother, hid, hbody⟩
  have hij : j = i := by
    rw [hn.ids i call hcall, hn.ids j other hother] at hid
    omega
  subst hij
  rw [hcall, Option.some.injEq] at hother
  subst hother
  unfold ClientCall.streams at hstreams
  split at hstreams
  · rename_i stream _ hb
    exact hbody stream hb
  · cases hstreams

/-- The client reads nothing that has not arrived. -/
theorem subset_read {c c' : DaemonClient} {a : DaemonClient.Action}
    (h : DaemonClient.Effect c a c') (ha : ∀ f, a ≠ .arrive f) :
    c'.seen ++ c'.inbox ⊆ c.seen ++ c.inbox := by
  cases h with
  | arrived f => exact absurd rfl (ha f)
  | read f rest hreader hinbox =>
    rw [hinbox]
    show c.seen ++ [f] ++ rest ⊆ _
    rw [List.append_assoc]
    exact fun _ hf => hf
  | called | inserted | moved | removed | ended | unknown | found | lost | delivered | cleared =>
    exact fun _ hf => hf

/-- Until the session is greeted, the client makes no second call. -/
theorem length_calls_of_fresh {s : Session} {c c' : DaemonClient} {a : DaemonClient.Action}
    (h : DaemonClient.Effect c a c') (hs : c.Sound) (hn : c.Numbered)
    (hread : ∀ f ∈ c.seen ++ c.inbox, f ∈ s.queued) (hfresh : s.Fresh)
    (hlen : c.calls.length ≤ 1) : c'.calls.length ≤ 1 := by
  cases h with
  | called kind body hmay =>
    unfold DaemonClient.mayCall at hmay
    split at hmay
    · rename_i hempty
      simp [List.isEmpty_iff.mp hempty]
    · -- the answer to `Hello` would be a frame for call 1
      obtain ⟨f, hseen, call, hcall, hid⟩ := hs.read_of_connected hmay
      have hqueued := hread f (List.mem_append_left _ hseen)
      have hzero := hfresh.frames f (List.mem_append_left _ hqueued)
      rw [hid, hn.ids 0 call hcall] at hzero
      cases hzero
  | inserted | moved | removed | delivered =>
    simpa [DaemonClient.setCall] using hlen
  | arrived | read | ended | unknown | found | lost | cleared => exact hlen

/-- An `error` that arrives is for no stream. -/
theorem Joined.streamEnd_of_arrived (h : l.Joined) (f : ServerFrame) (rest : List ServerFrame)
    (hinbox : l.client.inbox = f :: rest) (i : Nat) (call : ClientCall)
    (hcall : l.client.calls[i]? = some call) (hstreams : call.streams = true)
    (hid : f.id = call.id) (hterm : f.body.isTerminator = true) :
    f.body.isStreamEnd = true := by
  cases hb : f.body with
  | streamEnd outcome => rfl
  | error e =>
    have hqueued : f ∈ l.session.queued := by
      refine h.answering.read f (List.mem_append_right _ ?_)
      rw [hinbox]
      exact .head rest
    rcases h.answering.errors f (List.mem_append_left _ hqueued) e hb with hzero | hplain
    · rw [hid, h.numbered.ids i call hcall] at hzero
      cases hzero
    · rw [hid] at hplain
      exact absurd hplain (not_plain_of_streams h.numbered hcall hstreams)
  | hello | unary | diagnose | event | captureStarted | packet | captureStats | captureFinished
  | cancel => simp [Reply.isTerminator, hb] at hterm

/-- A step of the client keeps the link together. -/
theorem Joined.of_client {a : DaemonClient.Action} (h : l.Joined) (ha : ∀ f, a ≠ .arrive f)
    (hstep : DaemonClient.Effect l.client a l'.client) (hok : l.client.CountsOn a)
    (hsession : l'.session = l.session)
    (hwire : l'.wire = l.wire ++ (l.client.written a).toList) : l'.Joined where
  sound := hstep.sound h.sound
  numbered := hstep.numbered hok h.numbered
  tracked := hstep.tracked h.numbered h.tracked
  heeded := hstep.heeded h.tracked h.streamEnd_of_arrived h.heeded
  first call hcall := by
    rcases hstep.calls_of hcall with ⟨old, hold, hbody⟩ | ⟨hlen, kind, hmay⟩
    · rw [hbody]
      exact h.first old hold
    · -- the first call is the one `connect` makes
      have hempty : l.client.calls = [] := List.length_eq_zero_iff.mp hlen.symm
      simp only [DaemonClient.mayCall, hempty, List.isEmpty_nil, if_true,
        decide_eq_true_eq] at hmay
      exact hmay.2
  wire f hf := by
    have hold : ∃ (i : Nat) (call : ClientCall), l.client.calls[i]? = some call ∧
        f = ⟨call.id, some call.body⟩ := by
      rw [hwire] at hf
      rcases List.mem_append.mp hf with hf | hf
      · exact h.wire f hf
      · rw [Option.mem_toList] at hf
        unfold DaemonClient.written at hf
        split at hf
        · rename_i i _
          obtain ⟨call, hcall, rfl⟩ := Option.map_eq_some_iff.mp hf
          exact ⟨i, call, hcall, rfl⟩
        · cases hf
    obtain ⟨i, call, hcall, rfl⟩ := hold
    obtain ⟨call', hcall', hid, -, hbody⟩ := hstep.calls_mono hcall
    exact ⟨i, call', hcall', by rw [hid, hbody]⟩
  answering := by
    rw [hsession]
    refine ⟨fun f hf => h.answering.read f (subset_read hstep ha hf), ?_, ?_, ?_,
      h.answering.admitted, ?_⟩
    · exact fun f hf e he => (h.answering.errors f hf e he).imp_right (.mono hstep)
    · exact fun u hu => (h.answering.unaries u hu).mono hstep
    · exact fun id hid => (h.answering.calling id hid).mono hstep
    · rcases h.answering.greeted with hgreeted | ⟨hfresh, hlen⟩
      · exact .inl hgreeted
      · refine .inr ⟨hfresh, ?_⟩
        exact length_calls_of_fresh hstep h.sound h.numbered h.answering.read hfresh hlen

/-- A request the session reads was made by a call of this client; unless the call opens a
    stream, whatever the session does about it is for a plain call. -/
theorem Joined.plain_of_wire (h : l.Joined) {f : ClientFrame} (hf : f ∈ l.wire)
    (hstream : f.isStream = false) : Plain l.client f.id := by
  obtain ⟨i, call, hcall, rfl⟩ := h.wire f hf
  refine ⟨i, call, hcall, rfl, fun stream hbody => ?_⟩
  simp [ClientFrame.isStream, hbody] at hstream

/-- The session greets this client before it reads any other request of it. -/
theorem Joined.greeted_of_read (h : l.Joined) {f : ClientFrame} (hf : f ∈ l.wire) :
    (l.session.receive f).greeted = true := by
  rcases h.answering.greeted with hgreeted | ⟨-, hlen⟩
  · exact Session.receive_greeted f hgreeted
  · obtain ⟨i, call, hcall, rfl⟩ := h.wire f hf
    have hi : i = 0 := by
      have := (List.getElem?_eq_some_iff.mp hcall).1
      omega
    subst hi
    rw [h.first call hcall]
    exact Session.receive_hello (by rw [h.numbered.ids 0 call hcall]; decide)

/-- A stream this client asks for is not turned away as it is read. -/
theorem Joined.replies_of_stream (h : l.Joined) {f : ClientFrame} (hf : f ∈ l.wire)
    (hstream : f.isStream = true) : (l.session.receive f).replies = [] := by
  obtain ⟨i, call, hcall, rfl⟩ := h.wire f hf
  obtain ⟨stream, hbody⟩ := ClientFrame.body_of_isStream hstream
  simp only [Option.some.injEq] at hbody
  rw [hbody]
  have hid : call.id ≠ 0 := by rw [h.numbered.ids i call hcall]; omega
  refine Session.receive_stream hid stream (h.answering.greeted.resolve_right ?_)
  rintro ⟨-, hlen⟩
  have hi : i = 0 := by
    have := (List.getElem?_eq_some_iff.mp hcall).1
    omega
  subst hi
  rw [h.first call hcall] at hbody
  cases hbody

/-- The dispatch of a stream finds room in the registry. -/
def Admits (s : Session) (a : Session.Action) : Prop :=
  a = .loop → ∀ id t, s.loop = .inserting id t → s.registry.streams.keys.length < maxStreams

/-- A step of the session keeps what it has to do for this client. -/
theorem Answering.of_session {d : Daemon} {s s' : Session} {c : DaemonClient}
    {a : Session.Action} (h : Answering s c) (hstep : Session.Effect d s a s')
    (hok : Admits s a)
    (hframe : ∀ f ∈ a.frame, f.isStream = false → Plain c f.id)
    (hturned : ∀ f, a = .receive f → f.isStream = true → s'.replies = [])
    (hgreeted : s'.greeted = true ∨ (s'.Fresh ∧ c.calls.length ≤ 1)) : Answering s' c where
  read f hf := hstep.queued_mono (h.read f hf)
  errors f hf e he := by
    rcases hstep.error hf he with hold | hnew
    · exact h.errors f hold e he
    · cases hnew with
      | malformed hid => exact .inl hid
      | call hcalling => exact .inr (h.calling _ hcalling)
      | unary u hu hid => exact .inr (hid ▸ h.unaries u hu)
      | limit t e hloop => exact absurd hloop (h.admitted _ t e)
      | read g ha hid hreplies =>
        cases hstream : g.isStream with
        | true => exact absurd (hturned g ha hstream) hreplies
        | false => exact .inr (hid ▸ hframe g (by rw [ha]; rfl) hstream)
  unaries u hu := by
    rcases hstep.unaries hu with hold | ⟨f, hf, hid, hstream⟩
    · exact h.unaries u hold
    · exact hid ▸ hframe f hf hstream
  calling id hid := by
    rcases hstep.calling hid with hold | ⟨f, hf, hid, hstream⟩
    · exact h.calling id hold
    · exact hid ▸ hframe f hf hstream
  admitted id t e hloop := by
    rcases hstep.refused_of hloop with hold | ⟨ha, hinserting, hfull⟩
    · exact h.admitted id t e hold
    · have := hok ha id t hinserting
      omega
  greeted := hgreeted

/-- `Joined` reads no more of the link than these. -/
theorem Joined.congr (h : l.Joined) (hclient : l'.client = l.client)
    (hwire : ∀ f ∈ l'.wire, f ∈ l.wire) (hanswering : Answering l'.session l'.client) :
    l'.Joined where
  sound := by rw [hclient]; exact h.sound
  numbered := by rw [hclient]; exact h.numbered
  tracked := by rw [hclient]; exact h.tracked
  heeded := by rw [hclient]; exact h.heeded
  first := by rw [hclient]; exact h.first
  wire f hf := by rw [hclient]; exact h.wire f (hwire f hf)
  answering := hanswering

/-- A frame the session has queued reaches the client. -/
theorem Joined.arrive (h : l.Joined) {f : ServerFrame} (hf : f ∈ l.session.queued) :
    Joined { l with client := { l.client with inbox := l.client.inbox ++ [f] } } := by
  have hstep := DaemonClient.Effect.arrived (c := l.client) f
  refine ⟨hstep.sound h.sound, hstep.numbered trivial h.numbered,
    hstep.tracked h.numbered h.tracked, hstep.heeded h.tracked h.streamEnd_of_arrived h.heeded,
    h.first, h.wire, ?_⟩
  refine ⟨fun g hg => ?_, h.answering.errors, h.answering.unaries, h.answering.calling,
    h.answering.admitted, h.answering.greeted⟩
  rw [← List.append_assoc] at hg
  rcases List.mem_append.mp hg with hg | hg
  · exact h.answering.read g hg
  · rw [List.mem_singleton.mp hg]
    exact hf

/-- A step of the session that reads nothing. -/
theorem Answering.of_served {d : Daemon} {s s' : Session} {c : DaemonClient}
    {a : Session.Action} (h : Answering s c) (hstep : Session.Effect d s a s')
    (ha : ∀ f, a ≠ .receive f) (hgreeted : s'.greeted = s.greeted) (hok : Admits s a) :
    Answering s' c := by
  refine h.of_session hstep hok ?_ (fun f hf => absurd hf (ha f)) ?_
  · intro f hf
    cases a with
    | receive g => exact absurd rfl (ha g)
    | malformed | disconnect | loop | poll | yield | task | forwarder | unary | writerTake
    | writerClose => cases hf
  · exact h.greeted.imp (hgreeted.trans ·) fun ⟨hfresh, hlen⟩ => ⟨hstep.fresh ha hfresh, hlen⟩

/-- The condition: whenever the session files a new stream its registry has room, and the
    client's ids do not wrap around. -/
def Unrefused (l : Link) : Action → Prop
  | .daemon conn a => conn = 0 → Admits l.session a
  | .client a => l.client.CountsOn a

/-- One step keeps the link together. -/
theorem Effect.joined (h : Effect l a l') (hok : l.Unrefused a) (hj : l.Joined) : l'.Joined := by
  cases h with
  | elsewhere conn a l' hsession hclient hwire =>
    exact hj.congr hclient (by simp [hwire]) (by rw [hsession, hclient]; exact hj.answering)
  -- The session reads a frame of this client.
  | read f l' hwire hsession hstep hclient =>
    have hf : f ∈ l.wire := by rw [hwire]; exact .head _
    refine hj.congr hclient (fun g hg => by rw [hwire]; exact .tail f hg) ?_
    rw [hclient]
    refine hj.answering.of_session hstep (hok rfl) ?_ ?_ (.inl ?_)
    · rintro g ⟨rfl⟩ hstream
      exact hj.plain_of_wire hf hstream
    · rintro g ⟨rfl⟩ hstream
      rw [hsession]
      exact hj.replies_of_stream hf hstream
    · rw [hsession]
      exact hj.greeted_of_read hf
  -- A frame of the session reaches this client.
  | wrote f l' hf hstep hgreeted hclient hwire =>
    have hj' := hj.arrive hf
    refine hj'.congr hclient (by simp [hwire]) ?_
    rw [hclient]
    exact hj'.answering.of_served hstep (by simp) hgreeted (hok rfl)
  | served a l' ha hstep hgreeted hclient hwire =>
    refine hj.congr hclient (by simp [hwire]) ?_
    rw [hclient]
    exact hj.answering.of_served hstep ha hgreeted (hok rfl)
  | client a l' ha hstep hsession hwire => exact hj.of_client ha hstep hok hsession hwire

/-- **Client and daemon agree on when a stream is over**, in every run in which no stream is
    refused. -/
theorem agreed_of_unrefused (hrun : Run Unrefused l) : l.client.Agreed := by
  have hjoined : l.Joined := by
    refine hrun.invariant joined_init ?_
    intro l a l' hinv hok hs
    exact (step_effect hs).joined hok hinv
  exact hjoined.heeded.agreed hjoined.tracked

instance (s : Session) (a : Session.Action) : Decidable (Admits s a) :=
  match hloop : s.loop with
  | .inserting _ _ =>
    decidable_of_iff (a = .loop → s.registry.streams.keys.length < maxStreams)
      (by simp [Admits, hloop])
  | .reading => isTrue (by simp [Admits, hloop])
  | .replying _ _ => isTrue (by simp [Admits, hloop])
  | .cancelling _ _ => isTrue (by simp [Admits, hloop])
  | .refused _ _ _ => isTrue (by simp [Admits, hloop])
  | .stopping _ _ => isTrue (by simp [Admits, hloop])
  | .stoppingDaemon _ _ => isTrue (by simp [Admits, hloop])
  | .teardown => isTrue (by simp [Admits, hloop])
  | .closed => isTrue (by simp [Admits, hloop])

instance (l : Link) (a : Action) : Decidable (l.Unrefused a) :=
  match a with
  | .daemon conn a => inferInstanceAs (Decidable (conn = 0 → Admits l.session a))
  | .client a => inferInstanceAs (Decidable (l.client.CountsOn a))

/-- Executing a list of actions of the link gives a run. -/
theorem exists_run (ok : Link → Action → Prop) [∀ l a, Decidable (ok l a)] (as : List Action)
    (P : Link → Prop) [DecidablePred P]
    (h : (Runs.exec step ok init as).any (fun l => decide (P l)) = true) : ∃ l, Run ok l ∧ P l :=
  Runs.Steps.exists_of_exec as P h

/-- Call `i` is made and its request read. -/
def asks (i : Nat) (kind : CallKind) (body : Request) : List Action :=
  [.client (.call kind body), .client (.insert i), .client (.task i (.send none)),
    .daemon 0 (.receive ⟨i + 1, some body⟩)]

/-- A queued frame is written, arrives and is handed to call `i`. -/
def hears (i : Nat) : List Action :=
  [.daemon 0 .writerTake, .client .read, .client .look, .client .deliver,
    .client (.task i .recv)]

/-- The actions of `connect`. -/
def handshake : List Action :=
  List.flatten [asks 0 .unary .hello, [.daemon 0 .loop, .daemon 0 .loop], hears 0,
    [.client (.remove 0)]]

/-- Call `i` starts a `WatchNetwork`. -/
def watches (i : Nat) : List Action :=
  asks i .stream (.stream .watchNetwork) ++ [Action.daemon 0 .loop]

/-- The client has read that call `i`, a stream, is over. -/
def ToldOver (i : Nat) (l : Link) : Prop :=
  ∃ call ∈ l.client.calls[i]?, call.streams = true ∧ call.handedOut = true ∧
    l.client.TerminatorRead call

instance (i : Nat) : DecidablePred (ToldOver i) := fun l =>
  match hcall : l.client.calls[i]? with
  | some call =>
    decidable_of_iff (call.streams = true ∧ call.handedOut = true ∧ l.client.TerminatorRead call)
      (by simp [ToldOver, hcall])
  | none => isFalse (by simp [ToldOver, hcall])

/-- A stream that is cancelled is over for the client, too. -/
theorem agreed_of_unrefused_cancelled :
    ∃ l, Run Unrefused l ∧ ToldOver 1 l ∧ l.client.Ends 1 := by
  obtain ⟨l, hrun, hover⟩ := exists_run Unrefused
    (List.flatten [handshake, watches 1, asks 2 .unary (.cancel 2),
      [.daemon 0 .loop, .daemon 0 .loop, .daemon 0 .writerTake, .client .read]])
    (ToldOver 1) (by decide +kernel)
  obtain ⟨call, hcall, hstreams, hout, hread⟩ := hover
  exact ⟨l, hrun, ⟨call, hcall, hstreams, hout, hread⟩,
    agreed_of_unrefused hrun 1 call hcall hstreams hout hread⟩

/-- The seventeenth stream is refused with an `error`.  Its forwarder hands the frame on like
    any other and waits for a `stream_end` that never comes. -/
theorem not_agreed_at_limit : ∃ l, Run (fun _ _ => True) l ∧ ¬ l.client.Agreed := by
  obtain ⟨l, hrun, hreader, hfiled, hover, hwaits⟩ := exists_run (fun _ _ => True)
    (List.flatten [handshake, (List.range 17).flatMap (fun i => watches (i + 1)),
      [.daemon 0 .loop, .daemon 0 .loop], hears 17, [.client (.task 17 .pass)]])
    (fun l => l.client.reader = .reading ∧ l.client.pending.lookup 18 = some 17 ∧ ToldOver 17 l ∧
      ∀ call ∈ l.client.calls[17]?, call.pc = .forwarding ∧ call.raw = [] ∧ call.id = 18)
    (by decide +kernel)
  obtain ⟨call, hcall, hstreams, hout, hread⟩ := hover
  obtain ⟨hpc, hraw, hid⟩ := hwaits call hcall
  refine ⟨l, hrun, fun hagreed => ?_⟩
  exact DaemonClient.not_ends_of_idle hreader hcall hpc hraw (by rw [hid]; exact hfiled)
    (hagreed 17 call hcall hstreams hout hread)

end Link

end Netdiag.Ipc
