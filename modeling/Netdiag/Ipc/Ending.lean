import Netdiag.Ipc.Client

namespace Netdiag.Ipc

/-!
# IPC — how the client learns that a stream is over

The forwarder `stream` spawns ends at `stream_end`; this file follows that frame from the
socket to the forwarder.

* `Sound` — what the client's tables mean: an entry of `pending` names the call of that id,
  and every frame a call holds was read for it.
* `Numbered` / `Tracked` — as long as the ids do not wrap around, a call is in `pending`
  from the moment it is filed until it takes itself out (or the reader clears the map).
* `Heeded` — a `stream_end` that was read is on its way to its forwarder until the
  forwarder has left its loop.
* `ends_of_due` — from there the client's own steps for that call close it.
-/

/-- The call is a streaming call: made by `stream`, of a request that opens a stream. -/
def ClientCall.streams (call : ClientCall) : Bool :=
  match call.kind, call.body with
  | .stream, .stream _ => true
  | _, _ => false

/-- A call that streams is a streaming call. -/
theorem ClientCall.kind_of_streams {call : ClientCall} (h : call.streams = true) :
    call.kind = .stream := by
  unfold streams at h
  split at h
  · assumption
  · cases h

/-- The call has filed its sender and still owns its reply queue. -/
def ClientCall.engaged (call : ClientCall) : Bool :=
  match call.pc with
  | .inserting => false
  | .returned _ => false
  | .closed => false
  | _ => true

namespace DaemonClient

variable {c c' : DaemonClient} {a : Action} {i j : Nat} {call call' : ClientCall}

/-! ### What the tables mean -/

/-- What one call holds was read for it. -/
structure SoundCall (seen : List ServerFrame) (call : ClientCall) : Prop where
  got : ∀ f ∈ call.got, f ∈ seen ∧ f.id = call.id
  raw : ∀ f ∈ call.raw, f ∈ call.got
  result : ∀ f, call.pc = .removing (.ok f) ∨ call.pc = .returned (.ok f) → f ∈ call.got

/-- What the client's tables mean. -/
structure Sound (c : DaemonClient) : Prop where
  filed : ∀ id (i : Nat), c.pending.lookup id = some i →
    ∃ call, c.calls[i]? = some call ∧ call.id = id
  looking : ∀ f, c.reader = .looking f → f ∈ c.seen
  delivering : ∀ f (i : Nat), c.reader = .delivering f i →
    f ∈ c.seen ∧ ∃ call, c.calls[i]? = some call ∧ call.id = f.id
  calls : ∀ (i : Nat) call, c.calls[i]? = some call → SoundCall c.seen call

/-- Before the first call everything is sound. -/
theorem sound_init : init.Sound where
  filed id i h := by simp [init] at h
  looking f h := by cases h
  delivering f i h := by cases h
  calls i call h := by simp [init] at h

/-- A call stays sound when more frames have been seen. -/
theorem SoundCall.mono {seen seen' : List ServerFrame} (h : SoundCall seen call)
    (hseen : seen ⊆ seen') : SoundCall seen' call where
  got f hf := ⟨hseen (h.got f hf).1, (h.got f hf).2⟩
  raw := h.raw
  result := h.result

/-- A call stays sound by what it does itself. -/
theorem SoundCall.move {seen : List ServerFrame} {sender : Bool} {act : ClientCall.Act}
    (h : SoundCall seen call) (hmove : ClientCall.Move sender call act call') :
    SoundCall seen call' := by
  refine ⟨?_, ?_, ?_⟩
  · obtain ⟨-, hid, -, -, hgot⟩ := hmove.fixed
    rw [hgot, hid]
    exact h.got
  · cases hmove with
    | got f rest hpc hraw => exact fun g hg => h.raw g (by rw [hraw]; exact .tail f hg)
    | sent | hungUp | gaveUp | passed | used => exact h.raw
  · cases hmove with
    | sent error hpc =>
      intro f hf
      cases hk : call.kind <;> cases error <;> simp [ClientCall.afterSend, hk] at hf
    | got f rest hpc hraw =>
      -- only `unary` returns a frame, and it is the one it has just taken
      intro g hg
      have hf : f ∈ call.got := h.raw f (by rw [hraw]; exact .head rest)
      cases hk : call.kind with
      | unary =>
        simp only [ClientCall.onFrame, hk, checkError, reduceCtorEq, or_false] at hg
        split at hg <;> cases hg
        exact hf
      | stream =>
        simp only [ClientCall.onFrame, hk] at hg
        split at hg <;> simp at hg
    | hungUp hpc hraw hsender =>
      intro f hf
      cases hk : call.kind <;> simp [ClientCall.onNone, hk] at hf
    | gaveUp f hpc hheld => simp
    | passed f hpc hroom => simp
    | used act out held => exact h.result

/-- A call stays what it is. -/
theorem Effect.calls_mono (h : Effect c a c') (hcall : c.calls[i]? = some call) :
    ∃ call', c'.calls[i]? = some call' ∧
      call'.id = call.id ∧ call'.kind = call.kind ∧ call'.body = call.body := by
  let Same : ClientCall → Prop :=
    fun x => x.id = call.id ∧ x.kind = call.kind ∧ x.body = call.body
  have hsame : Same call := ⟨rfl, rfl, rfl⟩
  cases h with
  | called kind body hmay => exact ⟨call, Runs.getElem?_push hcall, hsame⟩
  | inserted k filed hfiled hpc => exact Runs.exists_set Same hfiled hcall hsame id
  | moved k act old new hold hstep =>
    refine Runs.exists_set Same hold hcall hsame fun hP => ?_
    obtain ⟨hkind, hid, hbody, -⟩ := (ClientCall.step_move hstep).fixed
    exact ⟨hid.trans hP.1, hkind.trans hP.2.1, hbody.trans hP.2.2⟩
  | removed k old pc hold hpc => exact Runs.exists_set Same hold hcall hsame id
  | delivered f k old hreader hold hgone hroom => exact Runs.exists_set Same hold hcall hsame id
  | arrived | read | ended | unknown | found | lost | cleared => exact ⟨call, hcall, hsame⟩

/-- A call was there before the step, and is what it was, or it has just been made. -/
theorem Effect.calls_of (h : Effect c a c') (hcall' : c'.calls[i]? = some call') :
    (∃ call, c.calls[i]? = some call ∧ call'.body = call.body) ∨
      (i = c.calls.length ∧ ∃ kind, c.mayCall kind call'.body = true) := by
  rcases h.call_of hcall' with ⟨call, hcall, hstep⟩ | ⟨hi, kind, body, -, hmay, rfl⟩
  · exact .inl ⟨call, hcall, hstep.fixed.2.2⟩
  · exact .inr ⟨hi, kind, hmay⟩

/-- What was read stays read. -/
theorem Effect.seen_mono (h : Effect c a c') : c.seen ⊆ c'.seen := by
  cases h with
  | read f rest hreader hinbox => exact List.subset_append_left _ _
  | called | inserted | moved | removed | arrived | ended | unknown | found | lost | delivered
  | cleared => exact fun _ hf => hf

/-- What a call holds after a step was read for it. -/
theorem Sound.callStep (hs : c.Sound) (hcall : c.calls[i]? = some call)
    (hstep : CallStep c i call call') : SoundCall c.seen call' := by
  have hold := hs.calls i call hcall
  cases hstep with
  | same => exact hold
  | inserted hpc => exact ⟨hold.got, hold.raw, by simp⟩
  | moved act call' hmove => exact hold.move hmove
  | removed pc hpc =>
    refine ⟨hold.got, hold.raw, fun f hf => hold.result f ?_⟩
    unfold ClientCall.afterRemove at hpc
    split at hpc <;> cases hpc <;> simp_all
  -- The frame in hand was read from the wire, and has the id of the call.
  | delivered f hreader =>
    obtain ⟨hseen, call₀, hcall₀, hid⟩ := hs.delivering f i hreader
    rw [hcall, Option.some.injEq] at hcall₀
    subst hcall₀
    refine ⟨fun g hg => ?_, fun g hg => ?_, fun g hg => ?_⟩
    · rcases List.mem_append.mp hg with hg | hg
      · exact hold.got g hg
      · rw [List.mem_singleton.mp hg]
        exact ⟨hseen, hid.symm⟩
    · rcases List.mem_append.mp hg with hg | hg
      · exact List.mem_append_left _ (hold.raw g hg)
      · exact List.mem_append_right _ hg
    · exact List.mem_append_left _ (hold.result g hg)

/-- One step keeps `Sound`. -/
theorem Effect.sound (h : Effect c a c') (hs : c.Sound) : c'.Sound := by
  have hmono := h.seen_mono
  refine ⟨fun id i hl => ?_, ?_, ?_, ?_⟩
  · -- the entry was there, or its call has just filed it
    have hcall : ∃ call, c.calls[i]? = some call ∧ call.id = id := by
      rcases h.lookup hl with hold | ⟨-, hnew⟩
      · exact hs.filed id i hold
      · exact hnew
    obtain ⟨call, hcall, hid⟩ := hcall
    obtain ⟨call', hcall', hid', -⟩ := h.calls_mono hcall
    exact ⟨call', hcall', hid'.trans hid⟩
  · intro f hf
    cases h with
    | read g rest hreader hinbox => cases hf; simp
    | called | inserted | moved | removed | arrived => exact hs.looking f hf
    | ended | unknown | found | lost | delivered | cleared => cases hf
  · intro f i hf
    have hold : f ∈ c.seen ∧ ∃ call, c.calls[i]? = some call ∧ call.id = f.id := by
      cases h with
      | found g k hreader hhit => cases hf; exact ⟨hs.looking f hreader, hs.filed f.id i hhit⟩
      | called | inserted | moved | removed | arrived => exact hs.delivering f i hf
      | read | ended | unknown | lost | delivered | cleared => cases hf
    obtain ⟨hseen, call, hcall, hid⟩ := hold
    obtain ⟨call', hcall', hid', -⟩ := h.calls_mono hcall
    exact ⟨hmono hseen, call', hcall', hid'.trans hid⟩
  · intro i call hcall
    suffices hsound : SoundCall c.seen call from hsound.mono hmono
    rcases h.call_of hcall with ⟨old, hold, hstep⟩ | ⟨-, kind, body, -, -, rfl⟩
    · exact hs.callStep hold hstep
    · exact ⟨by simp [ClientCall.new], by simp [ClientCall.new], by simp [ClientCall.new]⟩

/-- A client that is connected has read a frame for its first call. -/
theorem Sound.read_of_connected (hs : c.Sound) (h : c.connected = true) :
    ∃ f ∈ c.seen, ∃ call, c.calls[0]? = some call ∧ f.id = call.id := by
  unfold connected at h
  split at h
  · rename_i call hcall
    split at h
    · rename_i f hpc
      have hsound := hs.calls 0 call hcall
      obtain ⟨hseen, hid⟩ := hsound.got f (hsound.result f (.inr hpc))
      exact ⟨f, hseen, call, hcall, hid⟩
    · cases h
  · cases h

/-! ### Calls and their entries -/

/-- The calls are numbered from 1, and the counter follows. -/
structure Numbered (c : DaemonClient) : Prop where
  next : c.nextId = (c.calls.length + 1) % 2 ^ 64
  ids : ∀ (i : Nat) call, c.calls[i]? = some call → call.id = i + 1

/-- The id counter has not wrapped around. -/
def CountsOn (c : DaemonClient) : Action → Prop
  | .call _ _ => c.calls.length + 1 < 2 ^ 64
  | _ => True

instance (c : DaemonClient) (a : Action) : Decidable (CountsOn c a) := by
  unfold CountsOn
  split <;> infer_instance

/-- Before the first call there are no ids to confuse. -/
theorem numbered_init : init.Numbered := ⟨rfl, fun i call h => by simp [init] at h⟩

/-- One step keeps the numbers. -/
theorem Effect.numbered (h : Effect c a c') (hok : CountsOn c a) (hn : c.Numbered) :
    c'.Numbered := by
  refine ⟨?_, fun i call' hcall' => ?_⟩
  · cases h with
    | called kind body hmay =>
      simp only [List.length_append, List.length_singleton]
      rw [hn.next, Nat.mod_eq_of_lt hok]
    | inserted | moved | removed | delivered => simpa [setCall] using hn.next
    | arrived | read | ended | unknown | found | lost | cleared => exact hn.next
  · rcases h.call_of hcall' with ⟨call, hcall, hstep⟩ | ⟨rfl, kind, body, rfl, -, rfl⟩
    · rw [hstep.fixed.2.1]
      exact hn.ids i call hcall
    · show c.nextId = _
      rw [hn.next, Nat.mod_eq_of_lt hok]

/-- A call is in `pending` exactly as long as its own steps say. -/
structure Tracked (c : DaemonClient) : Prop where
  engaged : ∀ (i : Nat) call, c.calls[i]? = some call → call.engaged = true →
    c.pending.lookup call.id = some i ∨ c.reader = .exited
  closed : ∀ (i : Nat) call, c.calls[i]? = some call → call.pc = .closed →
    c.pending.lookup call.id = none

/-- Before the first call nothing is tracked. -/
theorem tracked_init : init.Tracked where
  engaged i call h := by simp [init] at h
  closed i call h := by simp [init] at h

/-- A call that is engaged after a move of its own was so before. -/
theorem engaged_of_move {sender : Bool} {act : ClientCall.Act}
    (hmove : ClientCall.Move sender call act call') (h : call'.engaged = true) :
    call.engaged = true := by
  cases hmove with
  | sent error hpc => simp [ClientCall.engaged, hpc]
  | got f rest hpc hraw =>
    unfold ClientCall.receiving at hpc
    unfold ClientCall.engaged
    split at hpc <;> simp_all
  | hungUp hpc hraw hsender =>
    unfold ClientCall.receiving at hpc
    unfold ClientCall.engaged
    split at hpc <;> simp_all
  | gaveUp f hpc hheld => simp [ClientCall.engaged, hpc]
  | passed f hpc hroom => simp [ClientCall.engaged, hpc]
  | used act out held => exact h

/-- A move of its own does not close a call. -/
theorem closed_of_move {sender : Bool} {act : ClientCall.Act}
    (hmove : ClientCall.Move sender call act call') (h : call'.pc = .closed) :
    call.pc = .closed := by
  cases hmove with
  | sent error hpc =>
    cases hk : call.kind <;> cases error <;> simp [ClientCall.afterSend, hk] at h
  | got f rest hpc hraw =>
    simp only [ClientCall.onFrame] at h
    split at h
    · cases h
    · split at h <;> cases h
  | hungUp hpc hraw hsender =>
    simp only [ClientCall.onNone] at h
    split at h <;> cases h
  | gaveUp f hpc hheld => cases h
  | passed f hpc hroom => cases h
  | used act out held => exact h

/-- What a call becomes when it has taken itself out of `pending`. -/
theorem not_engaged_of_remove {pc : CallPc} (h : call.afterRemove = some pc) :
    ({ call with pc } : ClientCall).engaged = false := by
  unfold ClientCall.afterRemove at h
  split at h <;> cases h <;> rfl

/-- Different calls have different ids. -/
theorem Numbered.id_ne (h : c.Numbered) (hcall : c.calls[i]? = some call)
    (hcall' : c.calls[j]? = some call') (hne : i ≠ j) : call'.id ≠ call.id := by
  rw [h.ids i call hcall, h.ids j call' hcall']
  omega

/-- One step keeps `Tracked`. -/
theorem Effect.tracked (h : Effect c a c') (hn : c.Numbered) (ht : c.Tracked) : c'.Tracked := by
  cases h with
  | called kind body hmay =>
    refine ⟨fun i call hcall hengaged => ?_, fun i call hcall hclosed => ?_⟩
    · rcases Runs.push_cases hcall with hold | ⟨-, rfl⟩
      · exact ht.engaged i call hold hengaged
      · cases hengaged
    · rcases Runs.push_cases hcall with hold | ⟨-, rfl⟩
      · exact ht.closed i call hold hclosed
      · cases hclosed
  | inserted k filed hfiled hpc =>
    refine ⟨fun i call hcall hengaged => ?_, fun i call hcall hclosed => ?_⟩
    · rcases Runs.set_cases hfiled hcall with ⟨rfl, rfl⟩ | ⟨hne, hcall⟩
      · exact .inl (AList.lookup_insert _)
      · have hid := hn.id_ne hfiled hcall hne
        exact (ht.engaged i call hcall hengaged).imp_left ((AList.lookup_insert_ne hid).trans ·)
    · rcases Runs.set_cases hfiled hcall with ⟨rfl, rfl⟩ | ⟨hne, hcall⟩
      · cases hclosed
      · have hid := hn.id_ne hfiled hcall hne
        exact (AList.lookup_insert_ne hid).trans (ht.closed i call hcall hclosed)
  | moved k act old new hold hstep =>
    have hmove := ClientCall.step_move hstep
    refine ⟨fun i call hcall hengaged => ?_, fun i call hcall hclosed => ?_⟩
    · rcases Runs.set_cases hold hcall with ⟨rfl, rfl⟩ | ⟨-, hcall⟩
      · rw [hmove.fixed.2.1]
        exact ht.engaged k old hold (engaged_of_move hmove hengaged)
      · exact ht.engaged i call hcall hengaged
    · rcases Runs.set_cases hold hcall with ⟨rfl, rfl⟩ | ⟨-, hcall⟩
      · rw [hmove.fixed.2.1]
        exact ht.closed k old hold (closed_of_move hmove hclosed)
      · exact ht.closed i call hcall hclosed
  | removed k old pc hold hpc =>
    refine ⟨fun i call hcall hengaged => ?_, fun i call hcall hclosed => ?_⟩
    · rcases Runs.set_cases hold hcall with ⟨rfl, rfl⟩ | ⟨hne, hcall⟩
      · rw [not_engaged_of_remove hpc] at hengaged
        cases hengaged
      · have hid := hn.id_ne hold hcall hne
        exact (ht.engaged i call hcall hengaged).imp_left ((AList.lookup_erase_ne hid).trans ·)
    · rcases Runs.set_cases hold hcall with ⟨rfl, rfl⟩ | ⟨hne, hcall⟩
      · exact AList.lookup_erase _ _
      · have hid := hn.id_ne hold hcall hne
        exact (AList.lookup_erase_ne hid).trans (ht.closed i call hcall hclosed)
  | delivered f k old hreader hold hgone hroom =>
    refine ⟨fun i call hcall hengaged => ?_, fun i call hcall hclosed => ?_⟩
    · left
      rcases Runs.set_cases hold hcall with ⟨rfl, rfl⟩ | ⟨-, hcall⟩
      · exact (ht.engaged k old hold hengaged).resolve_right (by simp [hreader])
      · exact (ht.engaged i call hcall hengaged).resolve_right (by simp [hreader])
    · rcases Runs.set_cases hold hcall with ⟨rfl, rfl⟩ | ⟨-, hcall⟩
      · exact ht.closed k old hold hclosed
      · exact ht.closed i call hcall hclosed
  | cleared hreader => exact ⟨fun _ _ _ _ => .inr rfl, fun _ _ _ _ => by simp⟩
  | arrived f => exact ⟨ht.engaged, ht.closed⟩
  -- the reader was in its loop, so every engaged call has its entry
  | read f rest hreader hinbox | ended hreader | unknown f hreader hmiss | found f k hreader hhit
  | lost f k old hreader hold hgone =>
    exact ⟨fun i call hcall he => .inl ((ht.engaged i call hcall he).resolve_right
      (by simp [hreader])), ht.closed⟩

/-! ### The end of a stream -/

/-- A frame that ends the call was read off the socket after the call was filed. -/
def TerminatorRead (c : DaemonClient) (call : ClientCall) : Prop :=
  ∃ f ∈ c.seen.drop call.since, f.id = call.id ∧ f.body.isTerminator = true

instance (c : DaemonClient) (call : ClientCall) : Decidable (c.TerminatorRead call) :=
  inferInstanceAs (Decidable (∃ f ∈ c.seen.drop call.since, _))

/-- The forwarder has a `stream_end` in its queue, or has left its loop. -/
def DueHere (call : ClientCall) : Prop :=
  (∃ f ∈ call.raw, f.body.isStreamEnd = true) ∨ call.pc = .closing ∨ call.pc = .closed

/-- The reader has a `stream_end` of call `i` in hand. -/
def DueSoon (c : DaemonClient) (i : Nat) (call : ClientCall) : Prop :=
  ∃ f, f.id = call.id ∧ f.body.isStreamEnd = true ∧
    (c.reader = .looking f ∨ c.reader = .delivering f i)

/-- A terminator of a stream that was read is on its way to the forwarder. -/
def Heeded (c : DaemonClient) : Prop :=
  ∀ (i : Nat) call, c.calls[i]? = some call → call.streams = true →
    call.engaged = true ∨ call.pc = .closed → c.TerminatorRead call →
    DueSoon c i call ∨ DueHere call

/-- Before the first call there is nothing to heed. -/
theorem heeded_init : init.Heeded := fun i call h => by simp [init] at h

/-- A forwarder does not lose sight of the end. -/
theorem DueHere.move {sender : Bool} {act : ClientCall.Act} (hkind : call.kind = .stream)
    (hmove : ClientCall.Move sender call act call') (h : DueHere call) : DueHere call' := by
  cases hmove with
  | sent error hpc =>
    refine .inl (h.resolve_right ?_)
    simp [hpc]
  | got f rest hpc hraw =>
    cases hend : f.body.isStreamEnd with
    | true => exact .inr (.inl (by simp [ClientCall.onFrame, hkind, hend]))
    | false =>
      -- the frame taken is not the end, so the end is still in the queue
      rcases h with ⟨g, hg, hgend⟩ | hpc'
      · rw [hraw] at hg
        rcases List.mem_cons.mp hg with rfl | hg
        · rw [hend] at hgend; cases hgend
        · exact .inl ⟨g, hg, hgend⟩
      · unfold ClientCall.receiving at hpc
        rcases hpc' with hpc' | hpc' <;> simp [hpc'] at hpc
  | hungUp hpc hraw hsender => exact .inr (.inl (by simp [ClientCall.onNone, hkind]))
  | gaveUp f hpc hheld => exact .inr (.inl rfl)
  | passed f hpc hroom =>
    refine .inl (h.resolve_right ?_)
    simp [hpc]
  | used act out held => exact h

/-- While the reader holds no frame, the end is with the forwarder. -/
theorem DueHere.of_reader (h : DueSoon c i call ∨ DueHere call)
    (hlooking : ∀ f, c.reader ≠ .looking f) (hdelivering : ∀ f, c.reader ≠ .delivering f i) :
    DueHere call := by
  refine h.resolve_left ?_
  rintro ⟨f, -, -, hf | hf⟩
  · exact hlooking f hf
  · exact hdelivering f hf

/-- A call that is engaged has its entry, so a frame of its id finds it. -/
theorem Tracked.lookup_of_looking {f : ServerFrame} (ht : c.Tracked)
    (hcall : c.calls[i]? = some call) (halive : call.engaged = true ∨ call.pc = .closed)
    (hreader : c.reader = .looking f) (hid : f.id = call.id) :
    c.pending.lookup f.id = some i ∨ call.pc = .closed := by
  rcases halive with he | hclosed
  · rcases ht.engaged i call hcall he with hl | hexited
    · exact .inl (hid ▸ hl)
    · rw [hreader] at hexited; cases hexited
  · exact .inr hclosed

/-- One step keeps `Heeded`, provided that an `Error` that is read is for no stream. -/
theorem Effect.heeded (h : Effect c a c') (ht : c.Tracked)
    (herror : ∀ f rest, c.inbox = f :: rest → ∀ (i : Nat) call, c.calls[i]? = some call →
      call.streams = true → f.id = call.id → f.body.isTerminator = true →
      f.body.isStreamEnd = true)
    (hh : c.Heeded) : c'.Heeded := by
  intro i call hcall hstreams halive hread
  cases h with
  | called kind body hmay =>
    rcases Runs.push_cases hcall with hold | ⟨-, rfl⟩
    · exact hh i call hold hstreams halive hread
    · rcases halive with he | he <;> cases he
  | inserted k filed hfiled hpc =>
    rcases Runs.set_cases hfiled hcall with ⟨rfl, rfl⟩ | ⟨-, hcall⟩
    · -- nothing was read since
      obtain ⟨f, hf, -⟩ := hread
      simp [setCall] at hf
    · exact hh i call hcall hstreams halive hread
  | moved k act old new hold hstep =>
    rcases Runs.set_cases hold hcall with ⟨rfl, rfl⟩ | ⟨-, hcall⟩
    · have hmove := ClientCall.step_move hstep
      obtain ⟨hkind, hid, hbody, hsince, -⟩ := hmove.fixed
      have hstreams' : old.streams = true := by
        simpa only [ClientCall.streams, hkind, hbody] using hstreams
      have halive' : old.engaged = true ∨ old.pc = .closed :=
        halive.imp (engaged_of_move hmove) (closed_of_move hmove)
      have hread' : c.TerminatorRead old := by
        simpa only [TerminatorRead, setCall, hsince, hid] using hread
      refine (hh k old hold hstreams' halive' hread').imp ?_ ?_
      · rintro ⟨f, hf, hrest⟩
        exact ⟨f, hf.trans hid.symm, hrest⟩
      · exact fun hdue => hdue.move (ClientCall.kind_of_streams hstreams') hmove
    · exact hh i call hcall hstreams halive hread
  | removed k old pc hold hpc =>
    rcases Runs.set_cases hold hcall with ⟨rfl, rfl⟩ | ⟨-, hcall⟩
    · rw [not_engaged_of_remove hpc] at halive
      exact .inr (.inr (.inr (halive.resolve_left (by simp))))
    · exact hh i call hcall hstreams halive hread
  | arrived f => exact hh i call hcall hstreams halive hread
  | read f rest hreader hinbox =>
    obtain ⟨g, hg, hid, hterm⟩ := hread
    have hsplit : g ∈ c.seen.drop call.since ∨ g = f := by
      rw [List.drop_append] at hg
      rcases List.mem_append.mp hg with hg | hg
      · exact .inl hg
      · exact .inr (List.mem_singleton.mp (List.mem_of_mem_drop hg))
    rcases hsplit with hold | rfl
    · have hdue := hh i call hcall hstreams halive ⟨g, hold, hid, hterm⟩
      exact .inr (.of_reader hdue (by simp [hreader]) (by simp [hreader]))
    · exact .inl ⟨g, hid, herror g rest hinbox i call hcall hstreams hid hterm, .inl rfl⟩
  | ended hreader | cleared hreader =>
    have hdue := hh i call hcall hstreams halive hread
    exact .inr (.of_reader hdue (by simp [hreader]) (by simp [hreader]))
  | unknown f hreader hmiss =>
    rcases hh i call hcall hstreams halive hread with ⟨g, hid, hend, hg | hg⟩ | hdue
    · rw [hreader] at hg
      cases hg
      rcases ht.lookup_of_looking hcall halive hreader hid with hl | hclosed
      · rw [hmiss] at hl; cases hl
      · exact .inr (.inr (.inr hclosed))
    · rw [hreader] at hg; cases hg
    · exact .inr hdue
  | found f k hreader hhit =>
    rcases hh i call hcall hstreams halive hread with ⟨g, hid, hend, hg | hg⟩ | hdue
    · rw [hreader] at hg
      cases hg
      rcases ht.lookup_of_looking hcall halive hreader hid with hl | hclosed
      · rw [hhit] at hl
        cases hl
        exact .inl ⟨f, hid, hend, .inr rfl⟩
      · exact .inr (.inr (.inr hclosed))
    · rw [hreader] at hg; cases hg
    · exact .inr hdue
  | lost f k old hreader hold hgone =>
    rcases hh i call hcall hstreams halive hread with ⟨g, hid, hend, hg | hg⟩ | hdue
    · rw [hreader] at hg; cases hg
    · -- the receiver of this call is gone, so it is closed
      rw [hreader] at hg
      cases hg
      rw [hold, Option.some.injEq] at hcall
      subst hcall
      rcases halive with he | hclosed
      · unfold ClientCall.engaged at he
        unfold ClientCall.gone at hgone
        split at hgone <;> simp_all
      · exact .inr (.inr (.inr hclosed))
    · exact .inr hdue
  | delivered f k old hreader hold hgone hroom =>
    rcases Runs.set_cases hold hcall with ⟨rfl, rfl⟩ | ⟨hne, hcall⟩
    · rcases hh k old hold hstreams halive hread with ⟨g, hid, hend, hg | hg⟩ | hdue
      · rw [hreader] at hg; cases hg
      · rw [hreader] at hg
        cases hg
        exact .inr (.inl ⟨f, by simp, hend⟩)
      · refine .inr (hdue.imp_left ?_)
        rintro ⟨g, hg, hend⟩
        exact ⟨g, List.mem_append_left _ hg, hend⟩
    · have hdue := hh i call hcall hstreams halive hread
      exact .inr (.of_reader hdue (by simp [hreader]) (by simp [hreader, hne]))

/-! ### Closing -/

/-- The receiver `stream` returned is closed and its id is out of `pending`. -/
def Over (c : DaemonClient) (call : ClientCall) : Prop :=
  call.pc = .closed ∧ c.pending.lookup call.id = none

/-- The steps the client takes for call `i` with nothing new from the daemon: the reader
    hands over what it has read, the forwarder works off its queue, the caller takes what
    it is handed. -/
def Own (i : Nat) (_ : DaemonClient) (a : Action) : Prop :=
  a ∈ [.look, .deliver, .task i .recv, .task i .pass, .task i .take, .remove i]

/-- The client's own steps for call `i` end it. -/
def Ends (c : DaemonClient) (i : Nat) : Prop :=
  ∃ c' call, Runs.Steps step (Own i) c c' ∧ c'.calls[i]? = some call ∧ c'.Over call

/-- A call that can end after some steps of its own can end before them. -/
theorem Ends.of_steps (hsteps : Runs.Steps step (Own i) c c') (h : c'.Ends i) : c.Ends i := by
  obtain ⟨c'', call, hrest, hcall, hover⟩ := h
  exact ⟨c'', call, hsteps.trans hrest, hcall, hover⟩

/-- So it is for one step. -/
theorem Ends.of_step (hown : Own i c a) (hstep : c.step a = some c') (h : c'.Ends i) :
    c.Ends i :=
  .of_steps (.tail a (.refl c) hown hstep) h

/-- A step of the call's own task. -/
theorem step_task {act : ClientCall.Act} (hcall : c.calls[i]? = some call)
    (hstep : call.step (c.senderLeft i call) act = some call') :
    c.step (.task i act) = some (c.setCall i call') := by
  simp [step, hcall, hstep]

/-- The call that was put there is there. -/
theorem calls_setCall (hcall : c.calls[i]? = some call) :
    (c.setCall i call').calls[i]? = some call' :=
  List.getElem?_set_self (List.getElem?_eq_some_iff.mp hcall).1

/-- A forwarder that has left its loop closes. -/
theorem ends_of_closing (hcall : c.calls[i]? = some call) (hpc : call.pc = .closing) :
    c.Ends i := by
  let c' := { c with pending := c.pending.erase call.id }.setCall i { call with pc := .closed }
  have hstep : c.step (.remove i) = some c' := by
    simp [step, hcall, ClientCall.afterRemove, hpc, c']
  refine .of_step (by simp [Own]) hstep
    ⟨c', { call with pc := .closed }, .refl c', ?_, rfl, AList.lookup_erase _ _⟩
  exact List.getElem?_set_self (List.getElem?_eq_some_iff.mp hcall).1

/-- A forwarder that takes a frame either closes the call, or goes on without it. -/
theorem ends_of_recv {f : ServerFrame} {rest : List ServerFrame}
    (hcall : c.calls[i]? = some call) (hkind : call.kind = .stream) (hpc : call.pc = .forwarding)
    (hraw : call.raw = f :: rest)
    (hnext : f.body.isStreamEnd = false →
      (c.setCall i { call with raw := rest, pc := .passing f }).Ends i) : c.Ends i := by
  let call' := { call with raw := rest, pc := call.onFrame f }
  have hstep : call.step (c.senderLeft i call) .recv = some call' := by
    simp [ClientCall.step, ClientCall.receiving, hpc, hraw, call']
  refine .of_step (by simp [Own]) (step_task hcall hstep) ?_
  cases hend : f.body.isStreamEnd with
  | true =>
    refine ends_of_closing (calls_setCall hcall) ?_
    simp [call', ClientCall.onFrame, hkind, hend]
  | false =>
    have hpassing : call' = { call with raw := rest, pc := .passing f } := by
      simp [call', ClientCall.onFrame, hkind, hend]
    rw [hpassing]
    exact hnext hend

/-- A forwarder that holds a frame hands it on once there is room for it, or closes the
    call because the caller has gone. -/
theorem ends_of_pass {f : ServerFrame} (hcall : c.calls[i]? = some call)
    (hpc : call.pc = .passing f)
    (hnext : ∀ (c' : DaemonClient) (call' : ClientCall), c'.reader = c.reader →
      c'.calls[i]? = some call' → call'.kind = call.kind → call'.raw = call.raw →
      call'.pc = .forwarding → c'.Ends i) : c.Ends i := by
  cases hheld : call.held with
  | false =>
    have hstep : call.step (c.senderLeft i call) .pass = some { call with pc := .closing } := by
      simp [ClientCall.step, hpc, hheld]
    exact .of_step (by simp [Own]) (step_task hcall hstep)
      (ends_of_closing (calls_setCall hcall) rfl)
  | true =>
    -- by the length of the receiver's queue: the caller takes a frame until there is room
    induction hlen : call.out.length generalizing c call with
    | zero =>
      have hstep : call.step (c.senderLeft i call) .pass
          = some { call with out := call.out ++ [f], pc := .forwarding } := by
        simp [ClientCall.step, hpc, hheld, hlen, replyQueueDepth]
      exact .of_step (by simp [Own]) (step_task hcall hstep)
        (hnext _ _ rfl (calls_setCall hcall) rfl rfl rfl)
    | succ n ih =>
      obtain ⟨g, rest, hout⟩ := List.exists_cons_of_length_eq_add_one hlen
      have hstep : call.step (c.senderLeft i call) .take = some { call with out := rest } := by
        simp [ClientCall.step, hout]
      refine .of_step (by simp [Own]) (step_task hcall hstep) ?_
      refine ih (calls_setCall hcall) hpc (fun c' call' hr hc hk hraw hf => ?_) hheld ?_
      · exact hnext c' call' hr hc hk hraw hf
      · simpa [hout] using hlen

/-- A forwarder works off its queue: it closes the call, or empties the queue without having
    met the end. -/
theorem ends_of_drain (n : Nat) (hn : call.raw.length = n) (hcall : c.calls[i]? = some call)
    (hkind : call.kind = .stream) (hpc : call.pc = .forwarding)
    (hnext : (∀ f ∈ call.raw, f.body.isStreamEnd = false) → ∀ (c' : DaemonClient)
      (call' : ClientCall), c'.reader = c.reader → c'.calls[i]? = some call' →
      call'.kind = .stream → call'.raw = [] → call'.pc = .forwarding → c'.Ends i) :
    c.Ends i := by
  induction n generalizing c call with
  | zero =>
    have hraw := List.length_eq_zero_iff.mp hn
    exact hnext (by simp [hraw]) c call rfl hcall hkind hraw hpc
  | succ n ih =>
    obtain ⟨f, rest, hraw⟩ := List.exists_cons_of_length_eq_add_one hn
    -- The forwarder takes the first frame and passes it on.
    refine ends_of_recv hcall hkind hpc hraw fun hf => ?_
    refine ends_of_pass (calls_setCall hcall) rfl fun c₁ call₁ hr₁ hc₁ hk₁ hraw₁ hpc₁ => ?_
    refine ih ?_ hc₁ (hk₁.trans hkind) hpc₁ fun hrest c₂ call₂ hr₂ hc₂ hk₂ hraw₂ hpc₂ => ?_
    · rw [hraw₁]
      simpa [hraw] using hn
    · refine hnext ?_ c₂ call₂ (hr₂.trans hr₁) hc₂ hk₂ hraw₂ hpc₂
      intro g hg
      rw [hraw] at hg
      rcases List.mem_cons.mp hg with rfl | hg
      · exact hf
      · exact hrest g (by rw [hraw₁]; exact hg)

/-- With a `stream_end` in the reader's hand, an empty queue takes it and the forwarder
    closes the call. -/
theorem ends_of_delivering {f : ServerFrame} (hcall : c.calls[i]? = some call)
    (hkind : call.kind = .stream) (hpc : call.pc = .forwarding) (hraw : call.raw = [])
    (hreader : c.reader = .delivering f i) (hend : f.body.isStreamEnd = true) : c.Ends i := by
  let call' := { call with raw := call.raw ++ [f], got := call.got ++ [f] }
  have hstep : c.step .deliver = some ({ c with reader := .reading }.setCall i call') := by
    simp [step, hreader, hcall, ClientCall.gone, hpc, ClientCall.hasRoom, hraw, replyQueueDepth,
      call']
  have hraw' : call'.raw = [f] := by simp [call', hraw]
  refine .of_step (by simp [Own]) hstep (ends_of_recv (calls_setCall hcall) hkind hpc hraw' ?_)
  intro hfalse
  rw [hend] at hfalse
  cases hfalse

/-- A forwarder in its loop, with a `stream_end` in its queue or about to be put there. -/
theorem ends_of_forwarding (hcall : c.calls[i]? = some call) (hkind : call.kind = .stream)
    (hpc : call.pc = .forwarding)
    (hdue : (∃ f, f.body.isStreamEnd = true ∧ c.reader = .delivering f i) ∨
      ∃ f ∈ call.raw, f.body.isStreamEnd = true) : c.Ends i := by
  refine ends_of_drain _ rfl hcall hkind hpc fun hnone c' call' hr hc hk hraw hf => ?_
  rcases hdue with ⟨f, hend, hreader⟩ | ⟨f, hf', hend⟩
  · exact ends_of_delivering hc hk hf hraw (hr.trans hreader) hend
  · rw [hnone f hf'] at hend
    cases hend

/-- **A stream whose end was read is closed** by the client's own steps. -/
theorem ends_of_due (ht : c.Tracked) (hcall : c.calls[i]? = some call)
    (hkind : call.kind = .stream) (hout : call.handedOut = true)
    (hdue : DueSoon c i call ∨ DueHere call) : c.Ends i := by
  -- a lookup first, if that is where the reader stands
  have hlook : (∀ c' : DaemonClient, c'.calls[i]? = some call →
      ((∃ f, f.body.isStreamEnd = true ∧ c'.reader = .delivering f i) ∨
        ∃ f ∈ call.raw, f.body.isStreamEnd = true) → c'.Ends i) →
      call.engaged = true → call.pc ≠ .closing → c.Ends i := by
    intro hends hengaged hopen
    rcases hdue with ⟨f, hid, hend, hreader | hreader⟩ | hhere | hpc | hpc
    · have hhit : c.pending.lookup f.id = some i := by
        rw [hid]
        exact (ht.engaged i call hcall hengaged).resolve_right (by simp [hreader])
      have hstep : c.step .look = some { c with reader := .delivering f i } := by
        simp [step, hreader, hhit]
      exact .of_step (by simp [Own]) hstep (hends _ hcall (.inl ⟨f, hend, rfl⟩))
    · exact hends c hcall (.inl ⟨f, hend, hreader⟩)
    · exact hends c hcall (.inr hhere)
    · exact absurd hpc hopen
    · simp [ClientCall.engaged, hpc] at hengaged
  cases hpc : call.pc with
  | forwarding =>
    refine hlook (fun c' hcall' hdue' => ?_) (by simp [ClientCall.engaged, hpc]) (by simp [hpc])
    exact ends_of_forwarding hcall' hkind hpc hdue'
  | passing f =>
    refine hlook (fun c' hcall' hdue' => ?_) (by simp [ClientCall.engaged, hpc]) (by simp [hpc])
    refine ends_of_pass hcall' hpc fun c₁ call₁ hr hc hk hraw hf => ?_
    refine ends_of_forwarding hc (hk.trans hkind) hf ?_
    rw [hr, hraw]
    exact hdue'
  | closing => exact ends_of_closing hcall hpc
  | closed => exact ⟨c, call, .refl c, hcall, hpc, ht.closed i call hcall hpc⟩
  | inserting | sending | waiting | removing | returned => simp [ClientCall.handedOut, hpc] at hout

/-- **Agreement.**  Once the client has read a frame that ends a stream, the receiver it
    handed out closes and the id leaves `pending`, with nothing more from the daemon. -/
def Agreed (c : DaemonClient) : Prop :=
  ∀ (i : Nat) call, c.calls[i]? = some call → call.streams = true → call.handedOut = true →
    c.TerminatorRead call → c.Ends i

/-- A terminator that is heeded ends the call. -/
theorem Heeded.agreed (hh : c.Heeded) (ht : c.Tracked) : c.Agreed := by
  intro i call hcall hstreams hout hread
  have halive : call.engaged = true ∨ call.pc = .closed := by
    unfold ClientCall.handedOut at hout
    unfold ClientCall.engaged
    split at hout <;> simp_all
  exact ends_of_due ht hcall (ClientCall.kind_of_streams hstreams) hout
    (hh i call hcall hstreams halive hread)

/-- A forwarder that waits on an empty queue for a reader that waits on the socket does not
    get past that by the client's own steps. -/
theorem not_ends_of_idle (hreader : c.reader = .reading) (hcall : c.calls[i]? = some call)
    (hpc : call.pc = .forwarding) (hraw : call.raw = [])
    (hfiled : c.pending.lookup call.id = some i) : ¬ c.Ends i := by
  let Idle : DaemonClient → Prop := fun c => c.reader = .reading ∧ ∃ call : ClientCall,
    c.calls[i]? = some call ∧ call.pc = .forwarding ∧ call.raw = [] ∧
      c.pending.lookup call.id = some i
  rintro ⟨c', call', hsteps, hcall', hover, -⟩
  have hidle : Idle c' := by
    refine hsteps.invariant ⟨hreader, call, hcall, hpc, hraw, hfiled⟩ ?_
    rintro c a c' ⟨hreader, call, hcall, hpc, hraw, hfiled⟩ hown hs
    have heffect := step_effect hs
    simp only [Own, List.mem_cons, List.not_mem_nil, or_false] at hown
    rcases hown with rfl | rfl | rfl | rfl | rfl | rfl
    · simp [step, hreader] at hs
    · simp [step, hreader] at hs
    · simp [step, hcall, ClientCall.step, hraw, senderLeft, hfiled] at hs
    · simp [step, hcall, ClientCall.step, hpc] at hs
    · -- the caller may take what it was handed before
      cases heffect with
      | moved k act old new hold hstep =>
        rw [hcall, Option.some.injEq] at hold
        subst hold
        simp only [ClientCall.step] at hstep
        split at hstep
        · cases hstep
          exact ⟨hreader, _, calls_setCall hcall, hpc, hraw, hfiled⟩
        · cases hstep
    · simp [step, hcall, ClientCall.afterRemove, hpc] at hs
  obtain ⟨-, call₁, hcall₁, hpc₁, -⟩ := hidle
  rw [hcall', Option.some.injEq] at hcall₁
  subst hcall₁
  rw [hover] at hpc₁
  cases hpc₁

end DaemonClient

end Netdiag.Ipc
