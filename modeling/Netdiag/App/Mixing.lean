import Mathlib.Data.List.Forall2
import Netdiag.App.Capture

namespace Netdiag.App.CaptureScreen

/-!
# App — packets of one capture

Start resets the shared `Capture`, but the task of an earlier Start may still have frames
to receive, and it fills the same `Capture`.

* `Unmixed` — every packet kept came from the capture whose header is kept.
* `Sourced` — what the history in `source` says is what is in `capture`; unconditional.
* `HandledByNewest` / `Pure` — as long as frames that are kept are handled by the task of
  the latest Start only, its header comes first and its packets follow.
* `unmixed_of_newest` — so the packets kept, and a file made of them, are of one capture.
-/

variable {s s' : CaptureScreen} {a : Action}

/-- Every packet kept came from the capture stream whose header is kept. -/
def Unmixed (s : CaptureScreen) : Prop := ∀ t ∈ s.source.packets, s.source.header = some t

/-- The frame `recv` gives to the task of call `t`. -/
def nextFrame (s : CaptureScreen) (t : Nat) : Option CaptureFrame :=
  s.net.calls[t]?.bind (fun call => call.inbox.head?)

/-- A frame that goes into the shared `Capture` is handled by the task of the latest Start. -/
def HandledByNewest (s : CaptureScreen) : Action → Prop
  | .net (.recv t) => ∀ f ∈ s.nextFrame t, f.isKept = true → t + 1 = s.net.calls.length
  | _ => True

instance (s : CaptureScreen) (a : Action) : Decidable (s.HandledByNewest a) := by
  unfold HandledByNewest
  split <;> infer_instance

/-! ### Where the contents come from -/

/-- The stream of call `t` sent the frame. -/
def SentBy (net : Net CaptureFrame) (t : Nat) (f : CaptureFrame) : Prop :=
  ∃ call, net.calls[t]? = some call ∧ f ∈ call.sent

/-- The history tells where the contents of `capture` come from. -/
structure Sourced (s : CaptureScreen) : Prop where
  inbox : ∀ (t : Nat) call, s.net.calls[t]? = some call → ∀ f ∈ call.inbox, f ∈ call.sent
  header : s.capture.pcapHeader = [] ∨ ∃ t ∈ s.source.header, ∃ interface,
    SentBy s.net t (.started s.capture.pcapHeader interface)
  packets : List.Forall₂ (fun t p => SentBy s.net t (.packet p)) s.source.packets s.capture.packets

theorem sourced_init : init.Sourced where
  inbox t call h := by simp [init, Net.init] at h
  header := .inl rfl
  packets := .nil

/-- What was sent stays sent. -/
theorem SentBy.step {net net' : Net CaptureFrame} {b : Net.Action CaptureFrame} {t : Nat}
    {f : CaptureFrame} (h : net.step CaptureFrame.valid b = some net') (hf : SentBy net t f) :
    SentBy net' t f := by
  obtain ⟨call, hcall, hmem⟩ := hf
  obtain ⟨call', hcall', hsub⟩ := Net.sent_mono h hcall
  exact ⟨call', hcall', hsub hmem⟩

/-- The frames a task has yet to receive were sent, whatever step is taken. -/
theorem inbox_of_step {net net' : Net CaptureFrame} {b : Net.Action CaptureFrame}
    (h : net.step CaptureFrame.valid b = some net')
    (hinbox : ∀ (t : Nat) call, net.calls[t]? = some call → ∀ f ∈ call.inbox, f ∈ call.sent)
    (t : Nat) (call' : AppCall CaptureFrame) (hcall' : net'.calls[t]? = some call') :
    ∀ f ∈ call'.inbox, f ∈ call'.sent := by
  obtain ⟨call, hcall, hframes⟩ := Net.step_frames h hcall'
  have hold := hinbox t call hcall
  intro f hf
  rcases hframes with (⟨hsent, hin⟩ | ⟨g, -, hsent, hin⟩) | ⟨-, hsent, g, hin⟩
  · rw [hsent]
    exact hold f (hin ▸ hf)
  · rw [hin] at hf
    rw [hsent]
    rcases List.mem_append.mp hf with hf | hf
    · exact List.mem_append_left _ (hold f hf)
    · exact List.mem_append_right _ hf
  · rw [hsent]
    exact hold f (by rw [hin]; exact .tail g hf)

/-- What a task adds to a step other than `recv` leaves the contents and their history. -/
theorem react_contents (b : Net.Action CaptureFrame) (net : Net CaptureFrame)
    (hb : ∀ t, b ≠ .recv t) :
    (s.react b net).source = s.source ∧
      (s.react b net).capture.pcapHeader = s.capture.pcapHeader ∧
      (s.react b net).capture.packets = s.capture.packets := by
  cases b with
  | recv t => exact absurd rfl (hb t)
  | «open» t ok =>
    simp only [react]
    split
    · split <;> exact ⟨rfl, rfl, rfl⟩
    · exact ⟨rfl, rfl, rfl⟩
  | store t =>
    simp only [react]
    split <;> exact ⟨rfl, rfl, rfl⟩
  | other | send | fail | shutdown | serve | frame | finish | reset | close => exact ⟨rfl, rfl, rfl⟩

/-- A `recv` hands a frame to its task, or ends the task. -/
theorem recv_effect {t : Nat} {net : Net CaptureFrame}
    (h : s.net.step CaptureFrame.valid (.recv t) = some net) :
    ∃ call, s.net.calls[t]? = some call ∧
      ((∃ f rest, call.inbox = f :: rest ∧ net = s.net.setCall t { call with inbox := rest } ∧
          s.react (.recv t) net = { s with net }.handle t f) ∨
        (call.inbox = [] ∧ net = s.net.setCall t { call with pc := .returned } ∧
          s.react (.recv t) net = { s with net, posted := s.posted + 1 })) := by
  obtain ⟨call, hcall, ⟨f, rest, hinbox, hnet⟩ | ⟨hinbox, hnet⟩⟩ := Net.recv_cases h
  · exact ⟨call, hcall, .inl ⟨f, rest, hinbox, hnet, by simp [react, hcall, hinbox]⟩⟩
  · exact ⟨call, hcall, .inr ⟨hinbox, hnet, by simp [react, hcall, hinbox]⟩⟩

/-- A step below the screen that changes no contents. -/
theorem Sourced.of_contents {b : Net.Action CaptureFrame} {net : Net CaptureFrame}
    (hs : s.Sourced) (hstep : s.net.step CaptureFrame.valid b = some net) (hnet : s'.net = net)
    (hsource : s'.source = s.source) (hheader : s'.capture.pcapHeader = s.capture.pcapHeader)
    (hpackets : s'.capture.packets = s.capture.packets) : s'.Sourced where
  inbox := by rw [hnet]; exact inbox_of_step hstep hs.inbox
  header := by
    rw [hnet, hsource, hheader]
    exact hs.header.imp_right fun ⟨t, ht, interface, hf⟩ => ⟨t, ht, interface, hf.step hstep⟩
  packets := by
    rw [hnet, hsource, hpackets]
    exact hs.packets.imp fun _ _ hf => hf.step hstep

/-- One step keeps `Sourced`. -/
theorem Effect.sourced (h : Effect s a s') (hs : s.Sourced) : s'.Sourced := by
  cases h with
  | connected => exact ⟨hs.inbox, hs.header, hs.packets⟩
  | disconnected c hslot => exact ⟨hs.inbox, hs.header, hs.packets⟩
  -- A start clears the header and the packets.
  | started interface c hslot =>
    refine ⟨fun t call hcall => ?_, .inl rfl, .nil⟩
    rcases Runs.push_cases hcall with hold | ⟨-, rfl⟩
    · exact hs.inbox t call hold
    · simp [AppCall.new]
  | stopped c id hslot hid => exact ⟨hs.inbox, hs.header, hs.packets⟩
  | stoppedOnly hnone => exact ⟨hs.inbox, hs.header, hs.packets⟩
  | refreshed posted => exact ⟨hs.inbox, hs.header, hs.packets⟩
  | moved b net hstep =>
    -- Only a received frame changes what is shown.
    by_cases hrecv : ∃ t, b = .recv t
    · obtain ⟨t, rfl⟩ := hrecv
      obtain ⟨call, hcall, ⟨f, rest, hinbox, hnet, hreact⟩ | ⟨-, -, hreact⟩⟩ := recv_effect hstep
      · have hmem : f ∈ call.inbox := by rw [hinbox]; exact .head rest
        have hsent : SentBy net t f :=
          SentBy.step hstep ⟨call, hcall, hs.inbox t call hcall f hmem⟩
        have hmid : Sourced { s with net } := hs.of_contents hstep rfl rfl rfl rfl
        rw [hreact]
        cases f with
        | started header interface =>
          exact ⟨hmid.inbox, .inr ⟨t, rfl, interface, hsent⟩, hmid.packets⟩
        | packet p =>
          exact ⟨hmid.inbox, hmid.header, List.rel_append hmid.packets (.cons hsent .nil)⟩
        | finished => exact ⟨hmid.inbox, hmid.header, hmid.packets⟩
        | other => exact hmid
      · rw [hreact]
        exact hs.of_contents hstep rfl rfl rfl rfl
    · obtain ⟨hsource, hheader, hpackets⟩ :=
        react_contents (s := s) b net (fun t ht => hrecv ⟨t, ht⟩)
      exact hs.of_contents hstep (s.react_fields b net).1 hsource hheader hpackets

/-! ### As long as the newest task handles them -/

/-- A stream announces its capture in its first frame, and a task has received the frames
    before those it has yet to receive. -/
structure Framed (call : AppCall CaptureFrame) : Prop where
  suffix : call.inbox <:+ call.sent
  first : ∀ f ∈ call.sent.head?, f.isStarted = true
  later : ∀ f ∈ call.sent.tail, f.isStarted = false

theorem framed_new (c : Nat) : Framed (.new c) where
  suffix := List.suffix_refl _
  first f hf := by simp [AppCall.new] at hf
  later f hf := by simp [AppCall.new] at hf

/-- A task that receives the announcement has received nothing before it. -/
theorem Framed.isStarted_iff {call : AppCall CaptureFrame} {f : CaptureFrame}
    {rest : List CaptureFrame} (h : Framed call) (hinbox : call.inbox = f :: rest) :
    f.isStarted = true ↔ call.inbox = call.sent := by
  obtain ⟨got, hgot⟩ := h.suffix
  rw [hinbox] at hgot ⊢
  cases got with
  | nil =>
    have hfirst := h.first f (by rw [← hgot]; rfl)
    simp [hfirst, ← hgot]
  | cons g got =>
    have hlater := h.later f (by rw [← hgot]; simp)
    have hne : f :: rest ≠ call.sent := by
      intro heq
      have hlen := congrArg List.length (hgot.trans heq.symm)
      simp at hlen
      omega
    simp [hlater, hne]

/-- Steps that hand out no frame keep `Framed`, and who has received something. -/
theorem Framed.move {call call' : AppCall CaptureFrame} (h : Framed call)
    (hmove : Net.FramesMove CaptureFrame.valid call call') :
    Framed call' ∧ (call'.inbox = call'.sent ↔ call.inbox = call.sent) := by
  -- Frames stay, or a valid one is sent.
  rcases hmove with ⟨hsent, hinbox⟩ | ⟨f, hvalid, hsent, hinbox⟩
  · refine ⟨⟨?_, ?_, ?_⟩, by rw [hsent, hinbox]⟩
    · rw [hsent, hinbox]; exact h.suffix
    · rw [hsent]; exact h.first
    · rw [hsent]; exact h.later
  · refine ⟨⟨?_, ?_, ?_⟩, by rw [hsent, hinbox, List.append_left_inj]⟩
    · obtain ⟨got, hgot⟩ := h.suffix
      exact ⟨got, by rw [hsent, hinbox, ← hgot, List.append_assoc]⟩
    · rw [hsent]
      cases hcase : call.sent with
      | nil => simpa [CaptureFrame.valid, hcase] using hvalid
      | cons g sent => simpa [hcase] using h.first
    · rw [hsent]
      cases hcase : call.sent with
      | nil => simp
      | cons g sent =>
        intro x hx
        rcases List.mem_append.mp hx with hx | hx
        · exact h.later x (by rw [hcase]; exact hx)
        · rw [List.mem_singleton.mp hx]
          simpa [CaptureFrame.valid, hcase] using hvalid

/-- The shared `Capture` is the newest task's alone: it holds a header as soon as that
    task has received a frame, and packets of no other. -/
structure Pure (s : CaptureScreen) : Prop where
  framed : ∀ (t : Nat) call, s.net.calls[t]? = some call → Framed call
  newest : ∀ t, s.source.header = some t → t + 1 = s.net.calls.length
  begun : ∀ (t : Nat) call, s.net.calls[t]? = some call → t + 1 = s.net.calls.length →
    (call.inbox = call.sent ↔ s.source.header ≠ some t)
  unmixed : s.Unmixed

theorem pure_init : init.Pure where
  framed t call h := by simp [init, Net.init] at h
  newest t h := by cases h
  begun t call h := by simp [init, Net.init] at h
  unmixed t h := by cases h

/-- Before the newest task has received anything, nothing is kept. -/
theorem Pure.empty (hs : s.Pure) {t : Nat} {call : AppCall CaptureFrame}
    (hcall : s.net.calls[t]? = some call) (ht : t + 1 = s.net.calls.length)
    (hinbox : call.inbox = call.sent) : s.source = {} := by
  have hnone : s.source.header = none := by
    rcases hheader : s.source.header with - | u
    · rfl
    · have hu := hs.newest u hheader
      obtain rfl : u = t := by omega
      exact absurd hheader ((hs.begun u call hcall ht).mp hinbox)
  have hpackets : s.source.packets = [] := by
    refine List.eq_nil_iff_forall_not_mem.mpr fun u hu => ?_
    rw [hs.unmixed u hu] at hnone
    cases hnone
  cases hsource : s.source with
  | mk header packets =>
    rw [hsource] at hnone hpackets
    exact congrArg₂ Source.mk hnone hpackets

/-- A step below the screen that hands out no frame. -/
theorem Pure.of_frames (hs : s.Pure) (hsource : s'.source = s.source)
    (hlen : s'.net.calls.length = s.net.calls.length)
    (hframes : ∀ (t : Nat) call', s'.net.calls[t]? = some call' →
      ∃ call, s.net.calls[t]? = some call ∧ Net.FramesMove CaptureFrame.valid call call') :
    s'.Pure where
  framed t call' hcall' := by
    obtain ⟨call, hcall, hmove⟩ := hframes t call' hcall'
    exact ((hs.framed t call hcall).move hmove).1
  newest := by rw [hsource, hlen]; exact hs.newest
  begun t call' hcall' ht := by
    obtain ⟨call, hcall, hmove⟩ := hframes t call' hcall'
    rw [hsource, ((hs.framed t call hcall).move hmove).2]
    exact hs.begun t call hcall (hlen ▸ ht)
  unmixed := by
    unfold Unmixed
    rw [hsource]
    exact hs.unmixed

/-- A task receives a frame: the header is its own if it is the newest, and else stays. -/
theorem Pure.of_received (hs : s.Pure) {t : Nat} {call : AppCall CaptureFrame} {f : CaptureFrame}
    {rest : List CaptureFrame} (hcall : s.net.calls[t]? = some call)
    (hinbox : call.inbox = f :: rest)
    (hnet : s'.net = s.net.setCall t { call with inbox := rest })
    (hnew : t + 1 = s.net.calls.length → s'.source.header = some t)
    (hold : t + 1 ≠ s.net.calls.length → s'.source.header = s.source.header)
    (hunmixed : s'.Unmixed) : s'.Pure := by
  have hlen : s'.net.calls.length = s.net.calls.length := by rw [hnet]; simp [Net.setCall]
  have hset : s'.net.calls = s.net.calls.set t { call with inbox := rest } := by rw [hnet]; rfl
  have hsuffix := (hs.framed t call hcall).suffix
  rw [hinbox] at hsuffix
  refine ⟨fun u call' hcall' => ?_, fun u hu => ?_, fun u call' hcall' hu => ?_, hunmixed⟩
  · rw [hset] at hcall'
    rcases Runs.set_cases hcall hcall' with ⟨rfl, rfl⟩ | ⟨-, hcall'⟩
    · have hframed := hs.framed t call hcall
      exact ⟨(List.suffix_cons f rest).trans hsuffix, hframed.first, hframed.later⟩
    · exact hs.framed u call' hcall'
  · rw [hlen]
    -- Only the newest call may be the source of the header.
    by_cases ht : t + 1 = s.net.calls.length
    · rw [hnew ht, Option.some.injEq] at hu
      omega
    · rw [hold ht] at hu
      exact hs.newest u hu
  · rw [hlen] at hu
    rw [hset] at hcall'
    rcases Runs.set_cases hcall hcall' with ⟨rfl, rfl⟩ | ⟨hne, hcall'⟩
    · have hlt := hsuffix.length_le
      have hne : rest ≠ call.sent := by
        intro heq
        rw [← heq, List.length_cons] at hlt
        omega
      simp [hnew hu, hne]
    · rw [hold (by omega)]
      exact hs.begun u call' hcall' hu

/-- One `recv` keeps `Pure` when frames that are kept are the newest task's. -/
theorem Pure.received (hs : s.Pure) {t : Nat} {call : AppCall CaptureFrame} {f : CaptureFrame}
    {rest : List CaptureFrame} (hcall : s.net.calls[t]? = some call)
    (hinbox : call.inbox = f :: rest)
    (hkept : f.isKept = true → t + 1 = s.net.calls.length) :
    ({ s with net := s.net.setCall t { call with inbox := rest } }.handle t f).Pure := by
  have hstarted := (hs.framed t call hcall).isStarted_iff hinbox
  -- any frame but the first finds the header of its task, if that is the newest
  have hbegun : f.isStarted = false → t + 1 = s.net.calls.length →
      s.source.header = some t := by
    intro hf ht
    by_contra hheader
    rw [hstarted.mpr ((hs.begun t call hcall ht).mpr hheader)] at hf
    cases hf
  cases f with
  | started header interface =>
    have ht := hkept rfl
    refine hs.of_received hcall hinbox rfl (fun _ => rfl) (fun hne => absurd ht hne) ?_
    intro u hu
    rw [show s.source = {} from hs.empty hcall ht (hstarted.mp rfl)] at hu
    cases hu
  | packet p =>
    have ht := hkept rfl
    have hheader := hbegun rfl ht
    refine hs.of_received hcall hinbox rfl (fun _ => hheader) (fun _ => rfl) ?_
    intro u hu
    rcases List.mem_append.mp hu with hu | hu
    · exact hs.unmixed u hu
    · rw [List.mem_singleton.mp hu]
      exact hheader
  | finished => exact hs.of_received hcall hinbox rfl (hbegun rfl) (fun _ => rfl) hs.unmixed
  | other => exact hs.of_received hcall hinbox rfl (hbegun rfl) (fun _ => rfl) hs.unmixed

/-- One step keeps `Pure`. -/
theorem Effect.pure (h : Effect s a s') (hok : s.HandledByNewest a) (hs : s.Pure) : s'.Pure := by
  cases h with
  | connected => exact ⟨hs.framed, hs.newest, hs.begun, hs.unmixed⟩
  | disconnected c hslot => exact ⟨hs.framed, hs.newest, hs.begun, hs.unmixed⟩
  | started interface c hslot =>
    -- the reset comes with a task that has received nothing
    refine ⟨fun t call hcall => ?_, (fun t ht => by cases ht), fun t call hcall ht => ?_,
      (fun t ht => by cases ht)⟩
    · rcases Runs.push_cases hcall with hold | ⟨-, rfl⟩
      · exact hs.framed t call hold
      · exact framed_new c
    · rcases Runs.push_cases hcall with hold | ⟨-, rfl⟩
      · have hlt := (List.getElem?_eq_some_iff.mp hold).1
        simp [Net.spawn] at ht
        omega
      · simp [AppCall.new]
  | stopped c id hslot hid => exact ⟨hs.framed, hs.newest, hs.begun, hs.unmixed⟩
  | stoppedOnly hnone => exact ⟨hs.framed, hs.newest, hs.begun, hs.unmixed⟩
  | refreshed posted => exact ⟨hs.framed, hs.newest, hs.begun, hs.unmixed⟩
  | moved b net hstep =>
    by_cases hrecv : ∃ t, b = .recv t
    · obtain ⟨t, rfl⟩ := hrecv
      obtain ⟨call, hcall, ⟨f, rest, hinbox, rfl, hreact⟩ | ⟨-, rfl, hreact⟩⟩ := recv_effect hstep
      · rw [hreact]
        exact hs.received hcall hinbox (hok f (by simp [nextFrame, hcall, hinbox]))
      · rw [hreact]
        refine hs.of_frames rfl (by simp [Net.setCall]) fun u call' hcall' => ?_
        exact Net.FramesMove.of_set hcall hcall' (.inl ⟨rfl, rfl⟩)
    · have hne : ∀ t, b ≠ .recv t := fun t ht => hrecv ⟨t, ht⟩
      have hnet := (s.react_fields b net).1
      refine hs.of_frames (react_contents b net hne).1 ?_ fun u call' hcall' => ?_
      · rw [hnet]
        exact (Net.step_effect hstep).length_calls
      · rw [hnet] at hcall'
        exact (Net.step_effect hstep).frames hne hcall'

/-! ### The packets kept, and the file made of them -/

/-- Every packet kept was sent on a stream the history names. -/
theorem Sourced.sentBy_of_mem (hs : s.Sourced) {p : CapturedPacket}
    (hp : p ∈ s.capture.packets) : ∃ t ∈ s.source.packets, SentBy s.net t (.packet p) := by
  obtain ⟨i, hi, rfl⟩ := List.getElem_of_mem hp
  have hi' : i < s.source.packets.length := by rw [hs.packets.length_eq]; exact hi
  exact ⟨s.source.packets[i], List.getElem_mem hi', hs.packets.get hi' hi⟩

/-- What a file is made of. -/
theorem writePcap_ok {now : Nat} {capture : Capture} {file : PcapFile}
    (h : writePcap now capture = .ok file) :
    capture.packets ≠ [] ∧ capture.pcapHeader ≠ [] ∧
      file.contents = capture.pcapHeader ++ capture.packets.flatMap CapturedPacket.record := by
  unfold writePcap at h
  split at h
  · cases h
  · split at h
    · cases h
    · rename_i hpackets hheader
      cases h
      exact ⟨by simpa using hpackets, by simpa using hheader, rfl⟩

/-- Unmixed contents make a file of one capture. -/
theorem Sourced.file_of_unmixed (hs : s.Sourced) (hunmixed : s.Unmixed) {now : Nat}
    {file : PcapFile} (hfile : writePcap now s.capture = .ok file) :
    ∃ t interface, SentBy s.net t (.started s.capture.pcapHeader interface) ∧
      (∀ p ∈ s.capture.packets, SentBy s.net t (.packet p)) ∧
      file.contents = s.capture.pcapHeader ++ s.capture.packets.flatMap CapturedPacket.record := by
  obtain ⟨-, hheader, hcontents⟩ := writePcap_ok hfile
  obtain ⟨t, ht, interface, hstarted⟩ := hs.header.resolve_left hheader
  refine ⟨t, interface, hstarted, fun p hp => ?_, hcontents⟩
  obtain ⟨u, hu, hpacket⟩ := hs.sentBy_of_mem hp
  have heq := hunmixed u hu
  rw [Option.mem_def.mp ht, Option.some.injEq] at heq
  exact heq ▸ hpacket

/-- A packet that is handled by another task mixes the contents. -/
theorem Pure.unmixed_iff (hs : s.Pure) {t : Nat} {p : CapturedPacket}
    (hframe : s.nextFrame t = some (.packet p)) (hstep : s.step (.net (.recv t)) = some s') :
    s'.Unmixed ↔ t + 1 = s.net.calls.length := by
  have heffect := step_effect hstep
  constructor
  · intro hunmixed
    cases heffect with
    | moved b net hnet =>
      obtain ⟨call, hcall, ⟨f, rest, hinbox, -, hreact⟩ | ⟨hinbox, -, -⟩⟩ := recv_effect hnet
      · obtain rfl : f = .packet p := by simpa [nextFrame, hcall, hinbox] using hframe
        rw [hreact] at hunmixed
        exact hs.newest t (hunmixed t (List.mem_append_right _ (.head [])))
      · simp [nextFrame, hcall, hinbox] at hframe
  · intro ht
    exact (heffect.pure (fun _ _ _ => ht) hs).unmixed

/-- **The packets kept are those of one capture**, and the file made of them too, in every
    run in which only the task of the latest Start handles frames that are kept.  A packet
    that another task handles mixes them. -/
theorem unmixed_of_newest (hrun : Run HandledByNewest s) :
    s.Unmixed ∧
      (∀ now file, writePcap now s.capture = .ok file →
        ∃ t interface, SentBy s.net t (.started s.capture.pcapHeader interface) ∧
          (∀ p ∈ s.capture.packets, SentBy s.net t (.packet p)) ∧
          file.contents =
            s.capture.pcapHeader ++ s.capture.packets.flatMap CapturedPacket.record) ∧
      ∀ t p s', s.nextFrame t = some (.packet p) → s.step (.net (.recv t)) = some s' →
        (s'.Unmixed ↔ t + 1 = s.net.calls.length) := by
  have hsourced : s.Sourced := by
    refine hrun.invariant sourced_init ?_
    intro s a s' hinv _ hs
    exact (step_effect hs).sourced hinv
  have hpure : s.Pure := by
    refine hrun.invariant pure_init ?_
    intro s a s' hinv hok hs
    exact (step_effect hs).pure hok hinv
  refine ⟨hpure.unmixed, fun now file hfile => ?_, fun t p s' hframe hstep => ?_⟩
  · exact hsourced.file_of_unmixed hpure.unmixed hfile
  · exact hpure.unmixed_iff hframe hstep

/-- A packet. -/
def ping : CapturedPacket := { unixMs := 0, unixUsFraction := 0, originalLength := 1, data := [1] }

/-- A capture is announced, sends a packet and is stopped; then a second one is announced. -/
def twice : List Action :=
  List.flatten [[.connect, .start "wlan0"], opens 0,
    [.net (.frame 0 (.started [1] "wlan0")), .net (.recv 0), .net (.frame 0 (.packet ping)),
      .stop, .start "eth0"], opens 1,
    [.net (.frame 1 (.started [2] "eth0")), .net (.recv 1)]]

/-- The packets of the second capture are kept alone. -/
theorem unmixed_of_newest_second :
    ∃ s, Run HandledByNewest s ∧ s.capture.packets = [ping] ∧ s.source.header = some 1 ∧
      s.Unmixed := by
  obtain ⟨s, hrun, hpackets, hheader⟩ := exists_run HandledByNewest
    (List.flatten [twice, [.net (.frame 1 (.packet ping)), .net (.recv 1)]])
    (fun s => s.capture.packets = [ping] ∧ s.source.header = some 1) (by decide +kernel)
  exact ⟨s, hrun, hpackets, hheader, (unmixed_of_newest hrun).1⟩

/-- The task of the first capture still has a packet to receive, and keeps it under the
    header of the second. -/
theorem not_unmixed_of_late_packet :
    ∃ s, Run (fun _ _ => True) s ∧ ¬ s.Unmixed ∧ s.capture.pcapHeader = [2] ∧
      SentBy s.net 0 (.packet ping) ∧ s.capture.packets = [ping] := by
  obtain ⟨s, hrun, hmixed, hheader, hsent, hpackets⟩ := exists_run (fun _ _ => True)
    (List.flatten [twice, [.net (.recv 0)]])
    (fun s => ¬ (∀ t ∈ s.source.packets, s.source.header = some t) ∧
      s.capture.pcapHeader = [2] ∧
      (∃ call ∈ s.net.calls[0]?, CaptureFrame.packet ping ∈ call.sent) ∧
      s.capture.packets = [ping]) (by decide +kernel)
  exact ⟨s, hrun, hmixed, hheader, hsent, hpackets⟩

end Netdiag.App.CaptureScreen
