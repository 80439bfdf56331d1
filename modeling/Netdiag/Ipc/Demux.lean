import Mathlib.Data.List.Perm.Subperm
import Netdiag.Ipc.Ending

namespace Netdiag.Ipc

/-!
# IPC — one socket, many calls

`read_loop` shares one socket between all calls of a `DaemonClient`: it looks each frame's id
up in `pending` and hands the frame to the call that is filed there.

* `Log` / `observe` — an onlooker that follows one call of a run: when it is registered, which
  frames `read_loop` looks up from then on, which of them its caller takes.
* `Follows` — the reply queue is given every frame of the call's id that is looked up, until
  the call has left `pending`; from then on it is given none.
* `Flow` — what the forwarder of a stream hands on is the beginning of its reply queue.
* `Shared` — the queues divide the frames that were read among themselves.
* `replies_of_call` — the three together.
-/

namespace DaemonClient

variable {c c' : DaemonClient} {a : Action} {i j : Nat} {call call' : ClientCall}

/-! ### Following a call -/

/-- What an onlooker notes of one call. -/
structure Log where
  /-- The call is past `pending.lock().await.insert(id, tx)`. -/
  registered : Bool
  /-- The frames `read_loop` has looked up since. -/
  looked : List ServerFrame
  /-- The frames the caller has taken from the receiver of `stream`. -/
  taken : List ServerFrame
  deriving DecidableEq

/-- The onlooker before the first step. -/
def Log.new : Log := { registered := false, looked := [], taken := [] }

/-- The frame at the head of the receiver of call `i`. -/
def firstOut (c : DaemonClient) (i : Nat) : List ServerFrame :=
  (c.calls[i]?.bind (fun call => call.out.head?)).toList

/-- What the onlooker of call `i` notes of a step. -/
def Log.note (i : Nat) (c : DaemonClient) (log : Log) : Action → Log
  | .insert j => if j = i then { log with registered := true } else log
  | .look =>
      match c.reader with
      | .looking f =>
        -- Before its sender is in the table a frame is not the call's.
        if log.registered then { log with looked := log.looked ++ [f] } else log
      | _ => log
  | .task j .take => if j = i then { log with taken := log.taken ++ c.firstOut i } else log
  | _ => log

/-- A step of the client under the eyes of the onlooker. -/
def observe (i : Nat) (p : DaemonClient × Log) (a : Action) : Option (DaemonClient × Log) :=
  (p.1.step a).map (fun c => (c, p.2.note i p.1 a))

/-- A run of the client, from `connect` on, with what the onlooker of call `i` noted. -/
abbrev Observed (i : Nat) (c : DaemonClient) (log : Log) : Prop :=
  Runs.Steps (observe i) (fun _ _ => True) (init, Log.new) (c, log)

/-- The onlooker is in nobody's way. -/
theorem observed_of_reachable (h : Reachable c) (i : Nat) : ∃ log, Observed i c log := by
  induction h with
  | refl => exact ⟨Log.new, .refl _⟩
  | @tail t u a _ _ hs ih =>
    obtain ⟨log, hrun⟩ := ih
    have hstep : observe i (t, log) a = some (u, log.note i t a) := by simp [observe, hs]
    exact ⟨log.note i t a, .tail a hrun trivial hstep⟩

/-! ### The reply queue -/

/-- The frames of call `call` that were looked up after it was registered. -/
def Log.matching (log : Log) (call : ClientCall) : List ServerFrame :=
  log.looked.filter (fun f => f.id == call.id)

/-- What the reply queue of call `i` has to do with what was looked up. -/
structure Follows (i : Nat) (c : DaemonClient) (log : Log) (call : ClientCall) : Prop where
  /-- Before it is registered nobody knows the call. -/
  fresh : call.pc = .inserting → log.registered = false ∧ log.looked = [] ∧ call.got = [] ∧
    c.pending.lookup call.id ≠ some i ∧ ∀ f, c.reader ≠ .delivering f i
  registered : call.pc ≠ .inserting → log.registered = true
  got : call.got <+: log.matching call
  /-- As long as it is in `pending` it misses nothing. -/
  filed : call.gone = false → c.pending.lookup call.id = some i →
    (∀ f, c.reader ≠ .delivering f i) → call.got = log.matching call
  /-- The frame `read_loop` holds for it is the one it lacks. -/
  handing : ∀ f, c.reader = .delivering f i → call.gone = false →
    call.got ++ [f] = log.matching call

variable {log log' : Log}

/-- A step that neither looks a frame up nor gives one to call `i`. -/
theorem Follows.frame (h : Follows i c log call) (hregistered : log'.registered = log.registered)
    (hlooked : log'.looked = log.looked) (hid : call'.id = call.id) (hgot : call'.got = call.got)
    (hpc : call'.pc = .inserting ↔ call.pc = .inserting)
    (hgone : call'.gone = false → call.gone = false)
    (hlookup : c'.pending.lookup call.id = some i → c.pending.lookup call.id = some i)
    (hreader : ∀ f, c'.reader = .delivering f i ↔ c.reader = .delivering f i) :
    Follows i c' log' call' := by
  -- Nothing was looked up, so the same frames match.
  have hmatching : log'.matching call' = log.matching call := by
    simp only [Log.matching, hlooked, hid]
  refine ⟨?_, ?_, ?_, ?_, ?_⟩
  · intro hnew
    obtain ⟨hreg, hlook, hnone, hpending, hidle⟩ := h.fresh (hpc.mp hnew)
    refine ⟨hregistered.trans hreg, hlooked.trans hlook, hgot.trans hnone, ?_, ?_⟩
    · rw [hid]
      exact fun hl => hpending (hlookup hl)
    · exact fun f hf => hidle f ((hreader f).mp hf)
  · intro hold
    exact hregistered.trans (h.registered (fun hnew => hold (hpc.mpr hnew)))
  · rw [hgot, hmatching]
    exact h.got
  · intro hthere hl hfree
    rw [hid] at hl
    rw [hgot, hmatching]
    exact h.filed (hgone hthere) (hlookup hl) (fun f hf => hfree f ((hreader f).mpr hf))
  · intro f hf hthere
    rw [hgot, hmatching]
    exact h.handing f ((hreader f).mp hf) (hgone hthere)

/-- A call that is not there has not been noticed; one that is is followed. -/
structure Following (i : Nat) (c : DaemonClient) (log : Log) : Prop where
  sound : c.Sound
  absent : c.calls[i]? = none → log.registered = false ∧ log.looked = []
  present : ∀ call, c.calls[i]? = some call → Follows i c log call

/-- Nothing is registered before the first call. -/
theorem following_init (i : Nat) : Following i init Log.new where
  sound := sound_init
  absent _ := ⟨rfl, rfl⟩
  present call h := by simp [init] at h

/-- The onlooker notes a registration and a lookup, and no other step of the reader. -/
theorem Log.note_frame (log : Log) (c : DaemonClient) (hinsert : a ≠ .insert i)
    (hlook : a ≠ .look) :
    (log.note i c a).registered = log.registered ∧ (log.note i c a).looked = log.looked := by
  unfold Log.note
  split
  · rename_i j
    rw [if_neg (by rintro rfl; exact hinsert rfl)]
    exact ⟨rfl, rfl⟩
  · exact absurd rfl hlook
  · split
    · exact ⟨rfl, rfl⟩
    · exact ⟨rfl, rfl⟩
  · exact ⟨rfl, rfl⟩

/-- A frame that is looked up is noted if the call is registered by then. -/
theorem Log.note_look {f : ServerFrame} (hreader : c.reader = .looking f) :
    log.note i c .look =
      if log.registered then { log with looked := log.looked ++ [f] } else log := by
  simp only [Log.note, hreader]

/-- `read_loop` looks a frame up. -/
theorem Follows.look {f : ServerFrame} (h : Follows i c log call) (hs : c.Sound)
    (hcall : c.calls[i]? = some call) (hreader : c.reader = .looking f)
    (hpending : c'.pending = c.pending)
    (hnext : ∀ g (j : Nat), c'.reader = .delivering g j ↔ g = f ∧ c.pending.lookup f.id = some j) :
    Follows i c' (log.note i c .look) call := by
  have hidle : ∀ g, c.reader ≠ .delivering g i := by simp [hreader]
  have hown (hl : c.pending.lookup f.id = some i) : f.id = call.id := by
    obtain ⟨call₀, hcall₀, hid⟩ := hs.filed f.id i hl
    rw [hcall, Option.some.injEq] at hcall₀
    rw [hcall₀, hid]
  rw [Log.note_look hreader]
  by_cases hpc : call.pc = .inserting
  · -- the frame goes unnoticed, and it is not for a call nobody knows
    obtain ⟨hreg, hlooked, hgot, hunfiled, -⟩ := h.fresh hpc
    have hunknown : ∀ g, c'.reader ≠ .delivering g i := by
      intro g hg
      have hl := ((hnext g i).mp hg).2
      exact hunfiled (hown hl ▸ hl)
    rw [if_neg (by simp [hreg])]
    refine ⟨?_, ?_, h.got, ?_, ?_⟩
    · exact fun _ => ⟨hreg, hlooked, hgot, hpending ▸ hunfiled, hunknown⟩
    · exact fun hne => absurd hpc hne
    · exact fun _ hl _ => absurd (hpending ▸ hl) hunfiled
    · exact fun g hg _ => absurd hg (hunknown g)
  · have hreg := h.registered hpc
    rw [if_pos hreg]
    have hmatching : ({ log with looked := log.looked ++ [f] } : Log).matching call =
        log.matching call ++ if f.id = call.id then [f] else [] := by
      simp only [Log.matching, List.filter_append, List.filter_cons, List.filter_nil, beq_iff_eq]
    refine ⟨?_, ?_, ?_, ?_, ?_⟩
    · exact fun hnew => absurd hnew hpc
    · exact fun _ => hreg
    · exact hmatching ▸ h.got.trans (List.prefix_append _ _)
    · intro hthere hl hfree
      have hother : f.id ≠ call.id := by
        intro hid
        exact hfree f ((hnext f i).mpr ⟨rfl, by rw [hid, ← hpending]; exact hl⟩)
      rw [hmatching, if_neg hother, List.append_nil]
      exact h.filed hthere (hpending ▸ hl) hidle
    · intro g hg hthere
      obtain ⟨rfl, hl⟩ := (hnext g i).mp hg
      rw [hmatching, if_pos (hown hl), ← h.filed hthere (hown hl ▸ hl) hidle]

/-- `read_loop` gives a frame to the call it looked up. -/
theorem Follows.deliver {f : ServerFrame} (h : Follows i c log call)
    (hreader : c.reader = .delivering f i) (hgone : call.gone = false)
    (hnext : c'.reader = .reading) :
    Follows i c' log { call with raw := call.raw ++ [f], got := call.got ++ [f] } := by
  have hall : call.got ++ [f] = log.matching call := h.handing f hreader hgone
  refine ⟨?_, h.registered, ?_, ?_, ?_⟩
  · intro hpc
    exact absurd hreader ((h.fresh hpc).2.2.2.2 f)
  · exact hall ▸ List.prefix_refl _
  · exact fun _ _ _ => hall
  · intro g hg
    rw [hnext] at hg
    cases hg

/-- A call that is filed misses nothing from now on. -/
theorem Follows.insert (h : Follows i c log call) (hpc : call.pc = .inserting)
    (hreader : c'.reader = c.reader) (n : Nat) :
    Follows i c' (log.note i c (.insert i)) { call with pc := .sending, since := n } := by
  obtain ⟨-, hlooked, hgot, -, hidle⟩ := h.fresh hpc
  have hlog : log.note i c (.insert i) = { log with registered := true } := by simp [Log.note]
  rw [hlog]
  have hmatching : ({ log with registered := true } : Log).matching
      ({ call with pc := .sending, since := n } : ClientCall) = [] := by
    simp [Log.matching, hlooked]
  refine ⟨?_, fun _ => rfl, ?_, ?_, ?_⟩
  · intro hnew
    cases hnew
  · exact hgot ▸ List.nil_prefix
  · intro _ _ _
    rw [hmatching]
    exact hgot
  · intro f hf
    exact absurd (hreader ▸ hf) (hidle f)

/-- No move of a call puts it back to where it inserts itself. -/
theorem inserting_of_move {sender : Bool} {act : ClientCall.Act}
    (hmove : ClientCall.Move sender call act call') :
    call'.pc = .inserting ↔ call.pc = .inserting := by
  have hreceiving (hpc : call.receiving = true) : call.pc ≠ .inserting := by
    intro hnew
    simp [ClientCall.receiving, hnew] at hpc
  cases hmove with
  | sent error hpc =>
    cases hk : call.kind <;> cases error <;> simp [ClientCall.afterSend, hk, hpc]
  | got f rest hpc hraw =>
    refine iff_of_false ?_ (hreceiving hpc)
    cases hk : call.kind with
    | unary => simp [ClientCall.onFrame, hk]
    | stream =>
      simp only [ClientCall.onFrame, hk]
      split <;> simp
  | hungUp hpc hraw hsender =>
    refine iff_of_false ?_ (hreceiving hpc)
    cases hk : call.kind <;> simp [ClientCall.onNone, hk]
  | gaveUp f hpc hheld => simp [hpc]
  | passed f hpc hroom => simp [hpc]
  | used act out held => rfl

/-- A call that is still there was there before. -/
theorem gone_of_move {sender : Bool} {act : ClientCall.Act}
    (hmove : ClientCall.Move sender call act call') (hgone : call'.gone = false) :
    call.gone = false := by
  cases hmove with
  | sent error hpc => simp [ClientCall.gone, hpc]
  | got f rest hpc hraw =>
    unfold ClientCall.receiving at hpc
    unfold ClientCall.gone
    split at hpc <;> simp_all
  | hungUp hpc hraw hsender =>
    unfold ClientCall.receiving at hpc
    unfold ClientCall.gone
    split at hpc <;> simp_all
  | gaveUp f hpc hheld => simp [ClientCall.gone, hpc]
  | passed f hpc hroom => simp [ClientCall.gone, hpc]
  | used act out held => exact hgone

/-- A step that leaves call `i` to itself: nothing is looked up, nothing is given to it, and
    it is not filed. -/
theorem Follows.of_effect (h : Follows i c log call) (heffect : Effect c a c')
    (hinsert : a ≠ .insert i) (hlook : a ≠ .look) (hid : call'.id = call.id)
    (hgot : call'.got = call.got) (hpc : call'.pc = .inserting ↔ call.pc = .inserting)
    (hgone : call'.gone = false → call.gone = false)
    (hreader : ∀ f, c'.reader = .delivering f i ↔ c.reader = .delivering f i) :
    Follows i c' (log.note i c a) call' := by
  obtain ⟨hregistered, hlooked⟩ := log.note_frame c hinsert hlook
  refine h.frame hregistered hlooked hid hgot hpc hgone ?_ hreader
  intro hl
  rcases heffect.lookup hl with hold | ⟨hnew, -⟩
  · exact hold
  · exact absurd hnew hinsert

/-- A step in which the reader does not take its hands off call `i`, or lay them on it, and
    call `i` stays as it is. -/
theorem Follows.same (h : Follows i c log call) (heffect : Effect c a c')
    (hinsert : a ≠ .insert i) (hlook : a ≠ .look)
    (hreader : ∀ f, c'.reader = .delivering f i ↔ c.reader = .delivering f i) :
    Follows i c' (log.note i c a) call :=
  h.of_effect heffect hinsert hlook rfl rfl Iff.rfl (fun hg => hg) hreader

/-- Nobody can have heard of a call that is being made. -/
theorem Following.new (hf : Following i c log) (hnone : c.calls[i]? = none) {id : Nat}
    {kind : CallKind} {body : Request} (hpending : c'.pending = c.pending)
    (hreader : c'.reader = c.reader) : Follows i c' log (.new kind id body) := by
  obtain ⟨hregistered, hlooked⟩ := hf.absent hnone
  have hunfiled : c'.pending.lookup id ≠ some i := by
    intro hl
    rw [hpending] at hl
    obtain ⟨call, hcall, -⟩ := hf.sound.filed id i hl
    rw [hnone] at hcall
    cases hcall
  have hidle (f : ServerFrame) : c'.reader ≠ .delivering f i := by
    intro hr
    rw [hreader] at hr
    obtain ⟨-, call, hcall, -⟩ := hf.sound.delivering f i hr
    rw [hnone] at hcall
    cases hcall
  refine ⟨?_, ?_, List.nil_prefix, ?_, ?_⟩
  · exact fun _ => ⟨hregistered, hlooked, rfl, hunfiled, hidle⟩
  · exact fun hne => absurd rfl hne
  · exact fun _ hl => absurd hl hunfiled
  · exact fun f hr => absurd hr (hidle f)

/-- The receiver is gone: nothing is asked about the frame `read_loop` holds for it. -/
theorem Follows.lost {f : ServerFrame} (h : Follows i c log call)
    (hreader : c.reader = .delivering f i) (hgone : call.gone = true) :
    Follows i c' log call := by
  have hthere : call.gone ≠ false := by simp [hgone]
  refine ⟨?_, h.registered, h.got, ?_, ?_⟩
  · exact fun hpc => absurd hreader ((h.fresh hpc).2.2.2.2 f)
  · exact fun hf => absurd hf hthere
  · exact fun _ _ hf => absurd hf hthere

/-- **One step of the client, followed.** -/
theorem Effect.follows (h : Effect c a c') (hf : Following i c log)
    (hcall' : c'.calls[i]? = some call') : Follows i c' (log.note i c a) call' := by
  have heffect := h
  cases h with
  -- A new call has been noted nothing of.
  | called kind body hmay =>
    rcases Runs.push_cases hcall' with hold | ⟨rfl, rfl⟩
    · exact (hf.present call' hold).same heffect (by simp) (by simp) (fun f => Iff.rfl)
    · exact hf.new (by simp) (by rfl) (by rfl)
  -- Filing a call opens its own account; the others do not see it.
  | inserted k filed hfiled hpc =>
    rcases Runs.set_cases hfiled hcall' with ⟨rfl, rfl⟩ | ⟨hne, hold⟩
    · exact (hf.present filed hfiled).insert hpc (by rfl) _
    · have hinsert : Action.insert k ≠ .insert i := by
        intro he
        cases he
        exact hne rfl
      exact (hf.present call' hold).same heffect hinsert (by simp) (fun f => Iff.rfl)
  | moved k act old new hold hstep =>
    rcases Runs.set_cases hold hcall' with ⟨rfl, rfl⟩ | ⟨hne, hsame⟩
    · have hmove := ClientCall.step_move hstep
      obtain ⟨-, hid, -, -, hgot⟩ := hmove.fixed
      exact (hf.present old hold).of_effect heffect (by simp) (by simp) hid hgot
        (inserting_of_move hmove) (gone_of_move hmove) (fun f => Iff.rfl)
    · exact (hf.present call' hsame).same heffect (by simp) (by simp) (fun f => Iff.rfl)
  | removed k old pc hold hpc =>
    rcases Runs.set_cases hold hcall' with ⟨rfl, rfl⟩ | ⟨hne, hsame⟩
    · refine (hf.present old hold).of_effect heffect (by simp) (by simp) rfl rfl ?_ ?_
        (fun f => Iff.rfl)
      · unfold ClientCall.afterRemove at hpc
        split at hpc <;> cases hpc <;> simp_all
      · unfold ClientCall.afterRemove at hpc
        split at hpc <;> cases hpc <;> simp [ClientCall.gone]
    · exact (hf.present call' hsame).same heffect (by simp) (by simp) (fun f => Iff.rfl)
  | arrived f => exact (hf.present call' hcall').same heffect (by simp) (by simp) (fun f => Iff.rfl)
  | read f rest hreader hinbox =>
    exact (hf.present call' hcall').same heffect (by simp) (by simp) (by simp [hreader])
  | ended hreader =>
    exact (hf.present call' hcall').same heffect (by simp) (by simp) (by simp [hreader])
  | unknown f hreader hmiss =>
    exact (hf.present call' hcall').look hf.sound hcall' hreader rfl (by simp [hmiss])
  -- The reader has looked: the frame is in hand for the call it found.
  | found f k hreader hhit =>
    refine (hf.present call' hcall').look hf.sound hcall' hreader rfl ?_
    intro g j
    simp only [ReaderPc.delivering.injEq, hhit, Option.some.injEq]
    exact and_congr_left' eq_comm
  -- The receiver is gone, and the frame in hand is dropped.
  | lost f k call hreader hcall hgone =>
    by_cases hki : k = i
    · subst hki
      rw [hcall, Option.some.injEq] at hcall'
      subst hcall'
      exact (hf.present call hcall).lost hreader hgone
    · exact (hf.present call' hcall').same heffect (by simp) (by simp) (by simp [hreader, hki])
  -- The frame in hand goes into the channel of the call it was found for.
  | delivered f k old hreader hold hgone hroom =>
    rcases Runs.set_cases hold hcall' with ⟨rfl, rfl⟩ | ⟨hne, hsame⟩
    · exact (hf.present old hold).deliver hreader hgone rfl
    · refine (hf.present call' hsame).same heffect (by simp) (by simp) ?_
      simp [setCall, hreader, hne]
  | cleared hreader =>
    exact (hf.present call' hcall').same heffect (by simp) (by simp) (by simp [hreader])

/-- A call that is not there yet was not there before. -/
theorem Effect.absent_before (h : Effect c a c') (hnone : c'.calls[i]? = none) :
    c.calls[i]? = none := by
  by_contra hsome
  obtain ⟨call, hcall⟩ := Option.ne_none_iff_exists'.mp hsome
  obtain ⟨call', hcall', -⟩ := h.calls_mono hcall
  rw [hnone] at hcall'
  cases hcall'

/-- A call that is not there goes unnoticed. -/
theorem Effect.absent (h : Effect c a c') (hf : Following i c log)
    (hnone : c'.calls[i]? = none) :
    (log.note i c a).registered = false ∧ (log.note i c a).looked = [] := by
  have hbefore : c.calls[i]? = none := h.absent_before hnone
  obtain ⟨hregistered, hlooked⟩ := hf.absent hbefore
  have hinsert : a ≠ .insert i := by
    rintro rfl
    cases h with
    | inserted k call hcall hpc =>
      rw [hbefore] at hcall
      cases hcall
  by_cases hlook : a = .look
  · subst hlook
    obtain ⟨f, hreader⟩ : ∃ f, c.reader = .looking f := by
      cases h with
      | unknown f hreader hmiss => exact ⟨f, hreader⟩
      | found f j hreader hhit => exact ⟨f, hreader⟩
    rw [Log.note_look hreader, if_neg (by simp [hregistered])]
    exact ⟨hregistered, hlooked⟩
  · obtain ⟨hreg, hlk⟩ := log.note_frame c hinsert hlook
    exact ⟨hreg.trans hregistered, hlk.trans hlooked⟩

/-- Every step keeps the log in line with the call. -/
theorem Following.step (hf : Following i c log) (hs : c.step a = some c') :
    Following i c' (log.note i c a) where
  sound := (step_effect hs).sound hf.sound
  absent hnone := (step_effect hs).absent hf hnone
  present _ hcall := (step_effect hs).follows hf hcall

/-! ### The receiver of a stream -/

/-- The frame the forwarder is handing on. -/
def passing (call : ClientCall) : List ServerFrame :=
  match call.pc with
  | .passing f => [f]
  | _ => []

/-- Nothing was taken from the reply queue that is not on its way to the caller. -/
def flowing (call : ClientCall) : Bool :=
  match call.pc with
  | .inserting => true
  | .sending => true
  | .waiting => true
  | .forwarding => true
  | .passing _ => true
  | _ => false

/-- What the caller is given is what the reply queue was given, in that order. -/
structure Flow (taken : List ServerFrame) (call : ClientCall) : Prop where
  begins : taken ++ call.out <+: call.got
  whole : flowing call = true → call.held = true →
    call.got = taken ++ call.out ++ passing call ++ call.raw
  dropped : call.held = false → call.out = []
  unary : call.kind = .unary →
    taken = [] ∧ call.out = [] ∧ call.held = true ∧ call.handedOut = false
  result : ∀ f, call.pc = .removing (.ok f) ∨ call.pc = .returned (.ok f) →
    call.got.head? = some f

variable {taken : List ServerFrame}

/-- A new call has had no frames. -/
theorem flow_new (kind : CallKind) (id : Nat) (body : Request) :
    Flow [] (ClientCall.new kind id body) where
  begins := List.nil_prefix
  whole _ _ := rfl
  dropped h := by cases h
  unary _ := ⟨rfl, rfl, rfl, rfl⟩
  result f h := by simp [ClientCall.new] at h

/-- A change of place that takes nothing from the reply queue. -/
theorem Flow.goto (h : Flow taken call) (pc : CallPc)
    (hflowing : flowing { call with pc } = true → flowing call = true)
    (hpassing : flowing { call with pc } = true → passing { call with pc } = passing call)
    (hunary : call.kind = .unary → ({ call with pc } : ClientCall).handedOut = false)
    (hresult : ∀ f, pc = .removing (.ok f) ∨ pc = .returned (.ok f) →
      call.got.head? = some f) : Flow taken { call with pc } where
  begins := h.begins
  whole hflow hheld := by
    rw [hpassing hflow]
    exact h.whole (hflowing hflow) hheld
  dropped := h.dropped
  unary hkind := ⟨(h.unary hkind).1, (h.unary hkind).2.1, (h.unary hkind).2.2.1, hunary hkind⟩
  result := hresult

/-- `send` returns. -/
theorem Flow.send (h : Flow taken call) (hpc : call.pc = .sending) (error : Option String) :
    Flow taken { call with pc := call.afterSend error } := by
  have hflowing : flowing call = true := by simp [flowing, hpc]
  have hpassing : passing call = [] := by simp [passing, hpc]
  refine h.goto _ (fun _ => hflowing) ?_ ?_ ?_
  · intro _
    rw [hpassing]
    cases hk : call.kind <;> cases error <;> simp [passing, ClientCall.afterSend, hk]
  · intro hk
    cases error <;> simp [ClientCall.handedOut, ClientCall.afterSend, hk]
  · intro f hf
    cases hk : call.kind <;> cases error <;> simp [ClientCall.afterSend, hk] at hf

/-- A call that waits in `recv` has nothing in its hands. -/
theorem Flow.of_receiving (h : Flow taken call) (hpc : call.receiving = true)
    (hheld : call.held = true) : call.got = taken ++ call.out ++ call.raw := by
  have hflowing : flowing call = true := by
    unfold ClientCall.receiving at hpc
    unfold flowing
    split at hpc <;> simp_all
  have hpassing : passing call = [] := by
    unfold ClientCall.receiving at hpc
    unfold passing
    split at hpc <;> simp_all
  rw [h.whole hflowing hheld, hpassing, List.append_nil]

/-- `recv` returns a frame. -/
theorem Flow.recv {f : ServerFrame} {rest : List ServerFrame} (h : Flow taken call)
    (hpc : call.receiving = true) (hraw : call.raw = f :: rest) :
    Flow taken { call with raw := rest, pc := call.onFrame f } := by
  cases hk : call.kind with
  | unary =>
    obtain ⟨htaken, hout, hheld, hhanded⟩ := h.unary hk
    have hgot : call.got = f :: rest := by
      rw [h.of_receiving hpc hheld, htaken, hout, hraw]
      rfl
    refine ⟨h.begins, ?_, h.dropped, fun _ => ⟨htaken, hout, hheld, ?_⟩, ?_⟩
    · intro hflow
      simp [flowing, ClientCall.onFrame, hk] at hflow
    · simp [ClientCall.handedOut, ClientCall.onFrame, hk]
    · -- `unary` returns the one frame it takes
      intro g hg
      simp only [ClientCall.onFrame, hk, checkError, reduceCtorEq, or_false] at hg
      split at hg <;> cases hg
      simp [hgot]
  | stream =>
    have hplace : call.onFrame f = if f.body.isStreamEnd then .closing else .passing f := by
      simp [ClientCall.onFrame, hk]
    rw [hplace]
    refine ⟨h.begins, ?_, h.dropped, ?_, ?_⟩
    · intro hflow hheld
      split at hflow
      · cases hflow
      · rename_i hend
        rw [if_neg hend]
        show call.got = taken ++ call.out ++ [f] ++ rest
        rw [h.of_receiving hpc hheld, hraw]
        simp
    · intro hkind
      cases hkind
    · intro g hg
      split at hg <;> simp at hg

/-- `recv` returns `None`: nothing flows any more. -/
theorem Flow.runDry (h : Flow taken call) : Flow taken { call with pc := call.onNone } := by
  refine h.goto _ ?_ ?_ ?_ ?_
  · intro hflow
    cases hk : call.kind <;> simp [flowing, ClientCall.onNone, hk] at hflow
  · intro hflow
    cases hk : call.kind <;> simp [flowing, ClientCall.onNone, hk] at hflow
  · intro hk
    simp [ClientCall.handedOut, ClientCall.onNone, hk]
  · intro f hf
    cases hk : call.kind <;> simp [ClientCall.onNone, hk] at hf

/-- The forwarder's `tx.send` hands a frame on. -/
theorem Flow.pass {f : ServerFrame} (h : Flow taken call) (hpc : call.pc = .passing f)
    (hheld : call.held = true) :
    Flow taken { call with out := call.out ++ [f], pc := .forwarding } := by
  have hgot : call.got = taken ++ (call.out ++ [f]) ++ call.raw := by
    rw [h.whole (by simp [flowing, hpc]) hheld]
    simp [passing, hpc]
  refine ⟨?_, ?_, ?_, ?_, ?_⟩
  · exact hgot ▸ List.prefix_append _ _
  · intro _ _
    show call.got = taken ++ (call.out ++ [f]) ++ [] ++ call.raw
    rw [hgot, List.append_nil]
  · intro hdropped
    exact absurd (hheld.symm.trans hdropped) (by simp)
  · intro hk
    have hhanded := (h.unary hk).2.2.2
    simp [ClientCall.handedOut, hpc] at hhanded
  · intro g hg
    simp at hg

/-- The forwarder leaves its loop. -/
theorem Flow.close (h : Flow taken call) (hhanded : call.handedOut = true) (pc : CallPc)
    (hpc : pc = .closing ∨ pc = .closed) : Flow taken { call with pc } := by
  refine h.goto _ ?_ ?_ ?_ ?_
  · intro hflow
    rcases hpc with rfl | rfl <;> simp [flowing] at hflow
  · intro hflow
    rcases hpc with rfl | rfl <;> simp [flowing] at hflow
  · intro hk
    rw [(h.unary hk).2.2.2] at hhanded
    cases hhanded
  · intro f hf
    rcases hpc with rfl | rfl <;> simp at hf

/-- The caller takes a frame. -/
theorem Flow.take {f : ServerFrame} {rest : List ServerFrame} (h : Flow taken call)
    (hout : call.out = f :: rest) : Flow (taken ++ [f]) { call with out := rest } := by
  have hmoved : taken ++ [f] ++ rest = taken ++ call.out := by
    rw [hout]
    simp
  refine ⟨?_, ?_, ?_, ?_, h.result⟩
  · rw [hmoved]
    exact h.begins
  · intro hflow hheld
    rw [hmoved]
    exact h.whole hflow hheld
  · intro hdropped
    rw [h.dropped hdropped] at hout
    cases hout
  · intro hk
    rw [(h.unary hk).2.1] at hout
    cases hout

/-- The caller drops its receiver. -/
theorem Flow.drop (h : Flow taken call) (hhanded : call.handedOut = true) :
    Flow taken { call with held := false, out := [] } := by
  refine ⟨?_, ?_, fun _ => rfl, ?_, h.result⟩
  · rw [List.append_nil]
    exact (List.prefix_append taken call.out).trans h.begins
  · intro _ hheld
    cases hheld
  · intro hk
    rw [(h.unary hk).2.2.2] at hhanded
    cases hhanded

/-- The task of a call, or its caller, moves. -/
theorem Flow.act {sender : Bool} {act : ClientCall.Act} (h : Flow taken call)
    (hstep : call.step sender act = some call') :
    Flow (taken ++ if act = .take then call.out.head?.toList else []) call' := by
  have hnothing (hact : act ≠ .take) :
      taken ++ (if act = .take then call.out.head?.toList else []) = taken := by
    rw [if_neg hact, List.append_nil]
  -- Only `take` hands a frame to the app; the others move frames inside the call.
  cases act with
  | send error =>
    rw [hnothing (by simp)]
    simp only [ClientCall.step] at hstep
    split_ifs at hstep with hpc
    cases hstep
    exact h.send hpc error
  | recv =>
    rw [hnothing (by simp)]
    by_cases hpc : call.receiving = true
    · simp only [ClientCall.step, if_pos hpc] at hstep
      split at hstep
      · rename_i f rest hraw
        cases hstep
        exact h.recv hpc hraw
      · split_ifs at hstep
        cases hstep
        exact h.runDry
    · simp [ClientCall.step, hpc] at hstep
  | pass =>
    rw [hnothing (by simp)]
    simp only [ClientCall.step] at hstep
    split at hstep
    · rename_i f hpc
      split_ifs at hstep with hheld hroom
      · cases hstep
        exact h.close (by simp [ClientCall.handedOut, hpc]) .closing (.inl rfl)
      · cases hstep
        exact h.pass hpc (by simpa using hheld)
    · cases hstep
  | take =>
    simp only [ClientCall.step] at hstep
    split at hstep
    · rename_i f rest hout
      cases hstep
      rw [if_pos rfl, hout]
      exact h.take hout
    · cases hstep
  | drop =>
    rw [hnothing (by simp)]
    simp only [ClientCall.step] at hstep
    split_ifs at hstep with hhanded
    cases hstep
    exact h.drop hhanded

/-- The call takes itself out of `pending`. -/
theorem Flow.remove {pc : CallPc} (h : Flow taken call) (hpc : call.afterRemove = some pc) :
    Flow taken { call with pc } := by
  unfold ClientCall.afterRemove at hpc
  split at hpc
  · rename_i result hold
    cases hpc
    refine h.goto _ ?_ ?_ ?_ ?_
    · exact fun hflow => by simp [flowing] at hflow
    · exact fun hflow => by simp [flowing] at hflow
    · exact fun _ => rfl
    · intro f hf
      refine h.result f (.inl ?_)
      simpa [hold] using hf
  · rename_i hold
    cases hpc
    exact h.close (by simp [ClientCall.handedOut, hold]) .closed (.inr rfl)
  · cases hpc

/-- The reply queue is given a frame. -/
theorem Flow.deliver (h : Flow taken call) (f : ServerFrame) :
    Flow taken { call with raw := call.raw ++ [f], got := call.got ++ [f] } where
  begins := h.begins.trans (List.prefix_append _ _)
  whole hflow hheld := by
    have hgot := h.whole hflow hheld
    show call.got ++ [f] = taken ++ call.out ++ passing call ++ (call.raw ++ [f])
    rw [hgot]
    simp
  dropped := h.dropped
  unary := h.unary
  result g hg := by
    rw [List.head?_append, h.result g hg]
    rfl

/-- Only a `take` of this call adds to what it took. -/
theorem Log.note_taken (log : Log) (i : Nat) (c : DaemonClient) (a : Action) :
    (log.note i c a).taken = log.taken ++ if a = .task i .take then c.firstOut i else [] := by
  unfold Log.note
  split
  · split <;> simp
  · split
    · split <;> simp
    · simp
  · rename_i j
    by_cases hj : j = i <;> simp [hj]
  · rename_i hother
    rw [if_neg (hother i), List.append_nil]

/-- Call `i` stays as it is. -/
theorem Flow.same (h : Flow log.taken call) (ha : a ≠ .task i .take) :
    Flow (log.note i c a).taken call := by
  rw [log.note_taken, if_neg ha, List.append_nil]
  exact h

/-- **One step of the client, seen from the caller.** -/
theorem Effect.flow (h : Effect c a c') (habsent : c.calls[i]? = none → log.taken = [])
    (hpresent : ∀ call, c.calls[i]? = some call → Flow log.taken call)
    (hcall' : c'.calls[i]? = some call') : Flow (log.note i c a).taken call' := by
  cases h with
  | called kind body hmay =>
    rcases Runs.push_cases hcall' with hold | ⟨rfl, rfl⟩
    · exact (hpresent call' hold).same (by simp)
    · refine Flow.same ?_ (by simp)
      rw [habsent (by simp)]
      exact flow_new kind c.nextId body
  -- Filing moves no frame.
  | inserted k filed hfiled hpc =>
    rcases Runs.set_cases hfiled hcall' with ⟨rfl, rfl⟩ | ⟨-, hold⟩
    · have hold := hpresent filed hfiled
      refine Flow.same ⟨hold.begins, ?_, hold.dropped, ?_, ?_⟩ (by simp)
      · intro _ hheld
        have hgot := hold.whole (by simp [flowing, hpc]) hheld
        rw [hgot]
        simp [passing, hpc]
      · exact fun hk => ⟨(hold.unary hk).1, (hold.unary hk).2.1, (hold.unary hk).2.2.1, rfl⟩
      · exact fun f hf => by simp at hf
    · exact (hpresent call' hold).same (by simp)
  -- What the step takes is the first frame on the way out.
  | moved k act old new hold hstep =>
    rcases Runs.set_cases hold hcall' with ⟨rfl, rfl⟩ | ⟨hne, hsame⟩
    · have hfirst : c.firstOut k = old.out.head?.toList := by simp [firstOut, hold]
      have hflow := (hpresent old hold).act hstep
      rw [log.note_taken, hfirst]
      simpa using hflow
    · exact (hpresent call' hsame).same (by simp [hne])
  | removed k old pc hold hpc =>
    rcases Runs.set_cases hold hcall' with ⟨rfl, rfl⟩ | ⟨-, hsame⟩
    · exact ((hpresent old hold).remove hpc).same (by simp)
    · exact (hpresent call' hsame).same (by simp)
  | delivered f k old hreader hold hgone hroom =>
    rcases Runs.set_cases hold hcall' with ⟨rfl, rfl⟩ | ⟨-, hsame⟩
    · exact ((hpresent old hold).deliver f).same (by simp)
    · exact (hpresent call' hsame).same (by simp)
  | arrived | read | ended | unknown | found | lost | cleared =>
    exact (hpresent call' hcall').same (by simp)

/-- Nobody takes a frame from a call that is not there. -/
theorem Effect.taken_absent (h : Effect c a c') (habsent : c.calls[i]? = none → log.taken = [])
    (hnone : c'.calls[i]? = none) : (log.note i c a).taken = [] := by
  have hbefore : c.calls[i]? = none := h.absent_before hnone
  rw [log.note_taken, habsent hbefore]
  simp [firstOut, hbefore]

/-! ### One frame, one call -/

/-- The frame `read_loop` holds. -/
def inHand (c : DaemonClient) : List ServerFrame :=
  match c.reader with
  | .looking f => [f]
  | .delivering f _ => [f]
  | _ => []

/-- Every frame that was read is in one reply queue at most. -/
def Shared (c : DaemonClient) : Prop :=
  (c.calls.flatMap ClientCall.got ++ c.inHand).Subperm c.seen

/-- A call that got nothing leaves what was got. -/
theorem flatMap_got_set (hcall : c.calls[i]? = some call) (hgot : call'.got = call.got) :
    (c.calls.set i call').flatMap ClientCall.got = c.calls.flatMap ClientCall.got := by
  have hlt : i < c.calls.length := (List.getElem?_eq_some_iff.mp hcall).1
  have hsame : (c.calls.map ClientCall.got).set i call.got = c.calls.map ClientCall.got := by
    apply List.ext_getElem?
    intro k
    by_cases hk : i = k
    · subst hk
      rw [List.getElem?_set_self (by simpa using hlt), List.getElem?_map, hcall]
      rfl
    · rw [List.getElem?_set_ne hk]
  rw [List.flatMap_def, List.flatMap_def, List.map_set, hgot, hsame]

/-- A frame delivered to a call is one more that was got. -/
theorem flatMap_got_deliver {f : ServerFrame} (hcall : c.calls[i]? = some call)
    (hgot : call'.got = call.got ++ [f]) :
    ((c.calls.set i call').flatMap ClientCall.got).Perm
      (c.calls.flatMap ClientCall.got ++ [f]) := by
  have hlt : i < c.calls.length := (List.getElem?_eq_some_iff.mp hcall).1
  have hget : c.calls[i] = call := (List.getElem?_eq_some_iff.mp hcall).2
  have hnew : ((c.calls.set i call').flatMap ClientCall.got).Perm
      (call.got ++ ([f] ++ (c.calls.eraseIdx i).flatMap ClientCall.got)) := by
    refine ((List.set_perm_cons_eraseIdx hlt call').flatMap_right _).trans (.of_eq ?_)
    rw [List.flatMap_cons, hgot, List.append_assoc]
  have hold : (call.got ++ (c.calls.eraseIdx i).flatMap ClientCall.got).Perm
      (c.calls.flatMap ClientCall.got) := by
    rw [← List.flatMap_cons, ← hget]
    exact (List.getElem_cons_eraseIdx_perm hlt).flatMap_right _
  refine hnew.trans ((List.perm_append_comm.append_left call.got).trans ?_)
  rw [← List.append_assoc]
  exact hold.append_right [f]

/-- A step of one call that is given no frame. -/
theorem Shared.setCall (h : c.Shared) (hcall : c.calls[i]? = some call)
    (hgot : call'.got = call.got) : (c.setCall i call').Shared := by
  show ((c.calls.set i call').flatMap ClientCall.got ++ c.inHand).Subperm c.seen
  rw [flatMap_got_set hcall hgot]
  exact h

/-- `read_loop` lets go of what it holds. -/
theorem Shared.dropped (h : c.Shared) (hcalls : c'.calls = c.calls) (hseen : c'.seen = c.seen)
    (hempty : c'.inHand = []) : c'.Shared := by
  unfold Shared
  rw [hcalls, hseen, hempty, List.append_nil]
  exact (List.sublist_append_left _ c.inHand).subperm.trans h

/-- **One step keeps the frames apart.** -/
theorem Effect.shared (h : Effect c a c') (hshared : c.Shared) : c'.Shared := by
  cases h with
  | called kind body hmay => simpa [Shared, inHand, ClientCall.new] using hshared
  | inserted k filed hfiled hpc =>
    refine Shared.setCall ?_ hfiled rfl
    exact hshared
  | moved k act old new hold hstep =>
    exact hshared.setCall hold (ClientCall.step_move hstep).fixed.2.2.2.2
  | removed k old pc hold hpc =>
    refine Shared.setCall ?_ hold rfl
    exact hshared
  | arrived f => exact hshared
  | read f rest hreader hinbox =>
    have hbefore : (c.calls.flatMap ClientCall.got).Subperm c.seen := by
      simpa [Shared, inHand, hreader] using hshared
    exact (List.subperm_append_right [f]).mpr hbefore
  | ended hreader => simpa [Shared, inHand, hreader] using hshared
  | unknown f hreader hmiss => exact hshared.dropped rfl rfl rfl
  | found f k hreader hhit => simpa [Shared, inHand, hreader] using hshared
  | lost f k call hreader hcall hgone => exact hshared.dropped rfl rfl rfl
  | delivered f k old hreader hold hgone hroom =>
    have hbefore : (c.calls.flatMap ClientCall.got ++ [f]).Subperm c.seen := by
      simpa [Shared, inHand, hreader] using hshared
    -- The frame in hand becomes the call's: nothing is read twice.
    let new : ClientCall := { old with raw := old.raw ++ [f], got := old.got ++ [f] }
    have hgiven : ((c.calls.set k new).flatMap ClientCall.got).Perm _ :=
      flatMap_got_deliver hold rfl
    show (_ ++ []).Subperm c.seen
    rw [List.append_nil]
    exact hgiven.subperm.trans hbefore
  | cleared hreader => simpa [Shared, inHand, hreader] using hshared

/-! ### Whole runs -/

/-- What holds of call `i` and of the client in every run. -/
structure Divided (i : Nat) (c : DaemonClient) (log : Log) : Prop where
  following : Following i c log
  untaken : c.calls[i]? = none → log.taken = []
  flow : ∀ call, c.calls[i]? = some call → Flow log.taken call
  shared : c.Shared

/-- Every step keeps what holds of the call and of the client. -/
theorem Divided.step (h : Divided i c log) (hs : c.step a = some c') :
    Divided i c' (log.note i c a) where
  following := h.following.step hs
  untaken hnone := (step_effect hs).taken_absent h.untaken hnone
  flow _ hcall := (step_effect hs).flow h.untaken h.flow hcall
  shared := (step_effect hs).shared h.shared

/-- So it holds in every run. -/
theorem divided_of_observed (hrun : Observed i c log) : Divided i c log := by
  let Inv : DaemonClient × Log → Prop := fun p => Divided i p.1 p.2
  suffices hinv : Inv (c, log) from hinv
  refine hrun.invariant ?_ ?_
  · exact ⟨following_init i, fun _ => rfl, fun call h => by simp [init] at h, List.nil_subperm⟩
  · rintro ⟨c, log⟩ a ⟨c', log'⟩ hinv - hs
    obtain ⟨c₁, hstep, he⟩ := Option.map_eq_some_iff.mp hs
    cases he
    exact hinv.step hstep

/-- **Every call gets its own replies, in order.**  Whatever the server sends and however the
    tasks interleave: what the reply queue of call `i` was given is the beginning of the frames
    of its id that `read_loop` looked up after its registration; what a stream hands to its
    caller is the beginning of that, and what `unary` returns its first frame; and no frame that
    was read is given out twice. -/
theorem replies_of_call (hrun : Observed i c log) (hcall : c.calls[i]? = some call) :
    call.got <+: log.looked.filter (fun f => f.id == call.id) ∧
      log.taken ++ call.out <+: call.got ∧
      (∀ f, call.pc = .returned (.ok f) → call.got.head? = some f) ∧
      (c.calls.flatMap ClientCall.got).Subperm c.seen := by
  have hinv := divided_of_observed hrun
  refine ⟨?_, ?_, ?_, ?_⟩
  · exact (hinv.following.present call hcall).got
  · exact (hinv.flow call hcall).begins
  · exact fun f hf => (hinv.flow call hcall).result f (.inr hf)
  · exact (List.sublist_append_left _ _).subperm.trans hinv.shared

/-- A watch, two events of which have been looked up and one taken; a frame of nobody in
    between. -/
theorem replies_of_call_watched :
    ∃ c log call, Observed 1 c log ∧ c.calls[1]? = some call ∧ log.taken = [⟨2, .event⟩] ∧
      log.taken ++ call.out <+: call.got ∧ call.got <+: [⟨2, .event⟩, ⟨2, .event⟩] := by
  have hexec : ∃ p, Runs.Steps (observe 1) (fun _ _ => True) (init, Log.new) p ∧
      ((p.1.calls[1]?).map ClientCall.id = some 2 ∧ p.2.taken = [⟨2, .event⟩] ∧
        p.2.looked = [⟨2, .event⟩, ⟨7, .event⟩, ⟨2, .event⟩]) :=
    Runs.Steps.exists_of_exec (handshake ++ [.call .stream (.stream .watchNetwork), .insert 1,
      .task 1 (.send none), .arrive ⟨2, .event⟩, .arrive ⟨7, .event⟩, .arrive ⟨2, .event⟩,
      .read, .look, .deliver, .task 1 .recv, .task 1 .pass, .task 1 .take, .read, .look, .read,
      .look, .deliver]) _ (by decide +kernel)
  obtain ⟨⟨c, log⟩, hrun, hid, htaken, hlooked⟩ := hexec
  obtain ⟨call, hcall, hid⟩ := Option.map_eq_some_iff.mp hid
  obtain ⟨hgot, hout, -⟩ := replies_of_call hrun hcall
  refine ⟨c, log, call, hrun, hcall, htaken, hout, ?_⟩
  dsimp only at hlooked
  rw [hlooked, hid] at hgot
  exact hgot

/-- A frame that was read before its call was registered and looked up after it: the call is
    given a frame although none has arrived since. -/
theorem early_frame_delivered :
    ∃ c, Reachable c ∧ ∃ call ∈ c.calls,
      ¬ call.got <+: (c.seen.drop call.since).filter (fun f => f.id == call.id) := by
  obtain ⟨c, hrun, hearly⟩ := exists_run (fun _ _ => True)
    (handshake ++ [.arrive ⟨2, .event⟩, .call .stream (.stream .watchNetwork), .read, .insert 1,
      .look, .deliver])
    (fun c => ∃ call ∈ c.calls,
      ¬ call.got <+: (c.seen.drop call.since).filter (fun f => f.id == call.id))
    (by decide +kernel)
  exact ⟨c, hrun, hearly⟩

end DaemonClient

end Netdiag.Ipc
