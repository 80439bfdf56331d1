import Netdiag.Ipc.Ending

namespace Netdiag.Ipc

/-!
# IPC — a call whose request could not be sent

`unary` takes its sender out of `pending` whatever becomes of the request; `stream` leaves by
`?` when the request cannot be sent, before the task that would take the sender out is spawned.

* `Beside` — the client next to a second `pending`, on which every caller and the reader act
  as they do on the first, except call `i`; and the error of call `i`'s `send`.
* `Abandoned` — the error is returned, and nothing of the call is left.
* `CleanSend` — call `i` does not fail to send a stream request that is filed.

Each of the two maps is a function of the same steps; `Apart` is what relates them.
-/

namespace DaemonClient

variable {c c' : DaemonClient} {a : Action} {i j : Nat} {call call' : ClientCall}

/-- `pending`: the call whose sender is filed under an id. -/
abbrev Pending := AList (fun _ : Nat => Nat)

/-- What a step does to a map that is kept as `pending` is. -/
def pendingAfter (c : DaemonClient) (a : Action) (pending : Pending) : Pending :=
  match a with
  | .insert j =>
    match c.calls[j]? with
    | some call => pending.insert call.id j
    | none => pending
  | .remove j =>
    match c.calls[j]? with
    | some call => pending.erase call.id
    | none => pending
  | .clear => ∅
  | _ => pending

/-- `pending` itself is kept so. -/
theorem Effect.pending (h : Effect c a c') : c'.pending = pendingAfter c a c.pending := by
  cases h with
  | inserted i call hcall hpc => simp [pendingAfter, hcall, setCall]
  | removed i call pc hcall hpc => simp [pendingAfter, hcall, setCall]
  | called | moved | arrived | read | ended | unknown | found | lost | delivered | cleared => rfl

/-- The step is one of call `i`. -/
def OfCall (i : Nat) : Action → Prop
  | .insert j => j = i
  | .task j _ => j = i
  | .remove j => j = i
  | _ => False

instance (i : Nat) (a : Action) : Decidable (OfCall i a) := by
  unfold OfCall
  split <;> infer_instance

/-- The error of call `i`'s `send`, when it has failed by now. -/
def sendError (i : Nat) (a : Action) (failed : Option String) : Option String :=
  match a with
  | .task j (.send (some e)) => if j = i then some e else failed
  | _ => failed

/-- The client, what `pending` would be without call `i`, and the error of its `send`. -/
structure Beside where
  client : DaemonClient
  others : Pending
  failed : Option String

namespace Beside

variable {b b' : Beside}

/-- Before `connect`. -/
def init : Beside := { client := DaemonClient.init, others := ∅, failed := none }

/-- A step of the client; those of call `i` leave the second map alone. -/
def step (i : Nat) (b : Beside) (a : Action) : Option Beside :=
  (b.client.step a).map fun c' =>
    { client := c'
      others := if OfCall i a then b.others else pendingAfter b.client a b.others
      failed := sendError i a b.failed }

/-- Once its `send` has failed, call `i` is about to return the error, or has returned it and
    left `pending` as it would be without the call. -/
def Abandoned (i : Nat) (b : Beside) : Prop :=
  ∀ e, b.failed = some e → ∃ call, b.client.calls[i]? = some call ∧
    ((call.pc = .removing (.error e) ∧ ∃ c', b.client.step (.remove i) = some c' ∧
        c'.calls[i]? = some { call with pc := .returned (.error e) }) ∨
      (call.pc = .returned (.error e) ∧ (∀ id, b.client.pending.lookup id ≠ some i) ∧
        ∀ id, b.client.pending.lookup id = b.others.lookup id))

/-- Call `i` does not fail to send while it is a `stream` call with its sender in
    `pending`. -/
def CleanSend (i : Nat) (c : DaemonClient) : Action → Prop
  | .task j (.send (some _)) =>
      j = i → ∀ call ∈ c.calls[j]?, call.kind = .unary ∨ c.pending.lookup call.id ≠ some i
  | _ => True

instance (i : Nat) (c : DaemonClient) (a : Action) : Decidable (CleanSend i c a) := by
  unfold CleanSend
  split <;> infer_instance

/-- Ids are not reused, and call `i` does not leave its sender behind. -/
def Clean (i : Nat) (b : Beside) (a : Action) : Prop :=
  CountsOn b.client a ∧ CleanSend i b.client a

instance (i : Nat) (b : Beside) (a : Action) : Decidable (Clean i b a) :=
  inferInstanceAs (Decidable (_ ∧ _))

/-! ### The two maps -/

/-- The maps differ in the entry of call `i` only, which is gone once the call has returned
    the error of its `send`. -/
structure Apart (i : Nat) (b : Beside) : Prop where
  numbered : b.client.Numbered
  sound : b.client.Sound
  same : ∀ id, id ≠ i + 1 → b.client.pending.lookup id = b.others.lookup id
  without : b.others.lookup (i + 1) = none
  failed : ∀ e, b.failed = some e → ∃ call, b.client.calls[i]? = some call ∧
    (call.pc = .removing (.error e) ∨
      (call.pc = .returned (.error e) ∧ b.client.pending.lookup (i + 1) = none))

theorem apart_init : Apart i init where
  numbered := numbered_init
  sound := sound_init
  same _ _ := rfl
  without := rfl
  failed e h := by cases h

/-- Who has an entry under the id of call `i`. -/
theorem Apart.own (h : Apart i b) {id : Nat} (hl : b.client.pending.lookup id = some j) :
    id = j + 1 := by
  obtain ⟨call, hcall, rfl⟩ := h.sound.filed id j hl
  exact h.numbered.ids j call hcall

/-- A step of call `i` changes no other entry. -/
theorem lookup_pendingAfter_of_own (hn : c.Numbered) (ha : OfCall i a) {id : Nat}
    (hid : id ≠ i + 1) (p : Pending) : (pendingAfter c a p).lookup id = p.lookup id := by
  unfold OfCall at ha
  split at ha <;> try subst ha
  · unfold pendingAfter
    simp only
    split
    · rename_i call hcall
      exact AList.lookup_insert_ne (by rw [hn.ids _ call hcall]; exact hid)
    · rfl
  · rfl
  · unfold pendingAfter
    simp only
    split
    · rename_i call hcall
      exact AList.lookup_erase_ne (by rw [hn.ids _ call hcall]; exact hid)
    · rfl
  · exact ha.elim

/-- Any step changes an entry by what stands there before it. -/
theorem lookup_pendingAfter_congr {p q : Pending} {id : Nat} (h : p.lookup id = q.lookup id) :
    (pendingAfter c a p).lookup id = (pendingAfter c a q).lookup id := by
  unfold pendingAfter
  split
  · split
    · rename_i j _ call _
      by_cases hid : id = call.id
      · subst hid
        rw [AList.lookup_insert, AList.lookup_insert]
      · rw [AList.lookup_insert_ne hid, AList.lookup_insert_ne hid, h]
    · exact h
  · split
    · rename_i j _ call _
      by_cases hid : id = call.id
      · subst hid
        rw [AList.lookup_erase, AList.lookup_erase]
      · rw [AList.lookup_erase_ne hid, AList.lookup_erase_ne hid, h]
    · exact h
  · rfl
  · exact h

/-- A step of another call files nothing under the id of call `i`. -/
theorem lookup_pendingAfter_none (hn : c.Numbered) (ha : ¬ OfCall i a) {p : Pending}
    (h : p.lookup (i + 1) = none) : (pendingAfter c a p).lookup (i + 1) = none := by
  unfold pendingAfter
  split
  · rename_i j
    have hne : j ≠ i := ha
    split
    · rename_i call hcall
      have hid : i + 1 ≠ call.id := by
        rw [hn.ids j call hcall]
        omega
      rw [AList.lookup_insert_ne hid, h]
    · exact h
  · split
    · rename_i j _ call _
      by_cases hid : i + 1 = call.id
      · rw [hid, AList.lookup_erase]
      · rw [AList.lookup_erase_ne hid, h]
    · exact h
  · rfl
  · exact h

/-! ### The call -/

/-- What a failing `send` makes of its call. -/
theorem failedSend {e : String} (hs : c.step (.task i (.send (some e))) = some c') :
    ∃ call, c.calls[i]? = some call ∧
      c' = c.setCall i { call with pc := call.afterSend (some e) } := by
  cases step_effect hs with
  | moved k act call call' hcall hstep =>
    simp only [ClientCall.step] at hstep
    split at hstep
    · cases hstep
      exact ⟨call, hcall, rfl⟩
    · cases hstep

/-- A call that is about to return, or has returned, does nothing else on its own. -/
theorem pc_of_move {sender : Bool} {act : ClientCall.Act} {r : Except String ServerFrame}
    (h : ClientCall.Move sender call act call')
    (hpc : call.pc = .removing r ∨ call.pc = .returned r) : call'.pc = call.pc := by
  have hrecv : call.receiving = false := by
    unfold ClientCall.receiving
    rcases hpc with hpc | hpc <;> rw [hpc]
  cases h with
  | sent error hsend => rcases hpc with hpc | hpc <;> (rw [hpc] at hsend; cases hsend)
  | got f rest hgot hraw =>
    rw [hrecv] at hgot
    cases hgot
  | hungUp hgot hraw hsender =>
    rw [hrecv] at hgot
    cases hgot
  | gaveUp f hpass hheld => rcases hpc with hpc | hpc <;> (rw [hpc] at hpass; cases hpass)
  | passed f hpass hroom => rcases hpc with hpc | hpc <;> (rw [hpc] at hpass; cases hpass)
  | used act out held => rfl

/-- Such a call stays where it is, or it is at its `remove`. -/
theorem pc_of_effect {r : Except String ServerFrame} (heff : Effect c a c')
    (hcall : c.calls[i]? = some call) (hcall' : c'.calls[i]? = some call')
    (hpc : call.pc = .removing r ∨ call.pc = .returned r) :
    call'.pc = call.pc ∨ (a = .remove i ∧ call'.pc = .returned r) := by
  -- A step overwrites one call: call `i`, or another one.
  have hset : ∀ {k : Nat} {old new : ClientCall}, c.calls[k]? = some old →
      (c.calls.set k new)[i]? = some call' →
      call' = call ∨ k = i ∧ old = call ∧ call' = new := by
    intro k old new hold hget
    rcases Runs.set_cases hold hget with ⟨rfl, rfl⟩ | ⟨-, hget⟩
    · rw [hcall, Option.some.injEq] at hold
      exact .inr ⟨rfl, hold.symm, rfl⟩
    · rw [hcall, Option.some.injEq] at hget
      exact .inl hget.symm
  cases heff with
  | called kind body hmay =>
    rw [Runs.getElem?_push hcall, Option.some.injEq] at hcall'
    exact .inl (by rw [hcall'])
  | inserted k old hold hins =>
    rcases hset hold hcall' with rfl | ⟨rfl, rfl, rfl⟩
    · exact .inl rfl
    · rcases hpc with hpc | hpc <;> (rw [hpc] at hins; cases hins)
  | moved k act old new hold hstep =>
    rcases hset hold hcall' with rfl | ⟨rfl, rfl, rfl⟩
    · exact .inl rfl
    · exact .inl (pc_of_move (ClientCall.step_move hstep) hpc)
  | removed k old pc hold hrem =>
    rcases hset hold hcall' with rfl | ⟨rfl, rfl, rfl⟩
    · exact .inl rfl
    · unfold ClientCall.afterRemove at hrem
      rcases hpc with hpc | hpc <;> rw [hpc] at hrem
      · cases hrem
        exact .inr ⟨rfl, rfl⟩
      · cases hrem
  | delivered f k old hreader hold hgone hroom =>
    rcases hset hold hcall' with rfl | ⟨rfl, rfl, rfl⟩
    · exact .inl rfl
    · exact .inl rfl
  | arrived | read | ended | unknown | found | lost | cleared =>
    have hcall'' : c.calls[i]? = some call' := hcall'
    rw [hcall, Option.some.injEq] at hcall''
    exact .inl (by rw [hcall''])

/-- An entry that is gone does not come back once the call has been filed. -/
theorem lookup_none_of_effect (hn : c.Numbered) (heff : Effect c a c')
    (hcall : c.calls[i]? = some call) (hpc : call.pc ≠ .inserting)
    (hnone : c.pending.lookup (i + 1) = none) : c'.pending.lookup (i + 1) = none := by
  by_contra hsome
  obtain ⟨k, hk⟩ := Option.ne_none_iff_exists'.mp hsome
  rcases heff.lookup hk with hold | ⟨rfl, filed, hfiled, hid⟩
  · rw [hnone] at hold
    cases hold
  · have hki : k = i := by
      have := hn.ids k filed hfiled
      omega
    subst hki
    cases heff with
    | inserted k old hold hins =>
      rw [hcall, Option.some.injEq] at hold
      subst hold
      exact hpc hins

/-- Call `i` after the step, when its `send` has failed by then. -/
theorem Apart.failed_step (h : Apart i b) (hclean : CleanSend i b.client a)
    (hs : b.client.step a = some c') {e : String} (he : sendError i a b.failed = some e) :
    ∃ call, c'.calls[i]? = some call ∧ (call.pc = .removing (.error e) ∨
      (call.pc = .returned (.error e) ∧ c'.pending.lookup (i + 1) = none)) := by
  have heff := step_effect hs
  by_cases hnow : a = .task i (.send (some e))
  · -- The `send` fails in this step.
    subst hnow
    obtain ⟨call, hcall, rfl⟩ := failedSend hs
    refine ⟨_, calls_setCall hcall, ?_⟩
    cases hk : call.kind with
    | unary => exact .inl (by simp [ClientCall.afterSend, hk])
    | stream =>
      refine .inr ⟨by simp [ClientCall.afterSend, hk], ?_⟩
      have hgone : b.client.pending.lookup call.id ≠ some i := by
        rcases hclean rfl call hcall with hunary | hgone
        · rw [hk] at hunary
          cases hunary
        · exact hgone
      rw [h.numbered.ids i call hcall] at hgone
      show b.client.pending.lookup (i + 1) = none
      by_contra hsome
      obtain ⟨k, hl⟩ := Option.ne_none_iff_exists'.mp hsome
      have hki : k = i := by
        have := h.own hl
        omega
      exact hgone (hki ▸ hl)
  · have hbefore : b.failed = some e := by
      unfold sendError at he
      split at he
      · split at he
        · rename_i hji
          rw [Option.some.injEq] at he
          subst hji he
          exact absurd rfl hnow
        · exact he
      · exact he
    obtain ⟨call, hcall, hpc⟩ := h.failed e hbefore
    obtain ⟨call', hcall', -⟩ := heff.calls_mono hcall
    have hlate : call.pc = .removing (.error e) ∨ call.pc = .returned (.error e) :=
      hpc.imp_right And.left
    refine ⟨call', hcall', ?_⟩
    rcases pc_of_effect heff hcall hcall' hlate with hsame | ⟨rfl, hret⟩
    · rw [hsame]
      refine hpc.imp_right fun hret => ⟨hret.1, ?_⟩
      exact lookup_none_of_effect h.numbered heff hcall (by rw [hret.1]; simp) hret.2
    · -- `remove(&id)`.
      refine .inr ⟨hret, ?_⟩
      rw [heff.pending, pendingAfter]
      simp only [hcall]
      rw [h.numbered.ids i call hcall, AList.lookup_erase]

/-- One step keeps the maps apart in call `i` only. -/
theorem Apart.step (h : Apart i b) (hok : Clean i b a) (hs : Beside.step i b a = some b') :
    Apart i b' := by
  obtain ⟨c', hc, rfl⟩ := Option.map_eq_some_iff.mp hs
  have heff := step_effect hc
  refine ⟨heff.numbered hok.1 h.numbered, heff.sound h.sound, ?_, ?_, ?_⟩
  · intro id hid
    show c'.pending.lookup id = _
    rw [heff.pending]
    split
    · rename_i hown
      rw [lookup_pendingAfter_of_own h.numbered hown hid]
      exact h.same id hid
    · exact lookup_pendingAfter_congr (h.same id hid)
  · show (if OfCall i a then b.others else _).lookup (i + 1) = none
    split
    · exact h.without
    · rename_i hother
      exact lookup_pendingAfter_none h.numbered hother h.without
  · intro e he
    exact h.failed_step hok.2 hc he

theorem apart_of_run (hrun : Runs.Steps (Beside.step i) (Clean i) init b) : Apart i b :=
  hrun.invariant apart_init fun _ _ _ h hok hs => h.step hok hs

/-- Where the maps differ in call `i` only, the failed call leaves nothing. -/
theorem Apart.abandoned (h : Apart i b) : Abandoned i b := by
  intro e he
  obtain ⟨call, hcall, hpc⟩ := h.failed e he
  refine ⟨call, hcall, ?_⟩
  rcases hpc with hpc | ⟨hpc, hnone⟩
  · refine .inl ⟨hpc, { b.client with pending := b.client.pending.erase call.id }.setCall i
      { call with pc := .returned (.error e) }, ?_, calls_setCall hcall⟩
    simp [DaemonClient.step, hcall, ClientCall.afterRemove, hpc]
  · refine .inr ⟨hpc, ?_, ?_⟩
    · intro id hl
      have hid := h.own hl
      subst hid
      rw [hnone] at hl
      cases hl
    · intro id
      by_cases hid : id = i + 1
      · rw [hid, hnone, h.without]
      · exact h.same id hid

/-- A `stream` whose `send` fails while its sender is filed leaves it there. -/
theorem not_abandoned (hs : Beside.step i b a = some b') (hdirty : ¬ CleanSend i b.client a) :
    ¬ Abandoned i b' := by
  obtain ⟨c', hc, rfl⟩ := Option.map_eq_some_iff.mp hs
  unfold CleanSend at hdirty
  split at hdirty
  · rename_i j e
    push Not at hdirty
    obtain ⟨rfl, call, hcall, hkind, hl⟩ := hdirty
    obtain ⟨call₀, hcall₀, rfl⟩ := failedSend hc
    have hsame : call₀ = call := by
      rw [hcall₀] at hcall
      exact Option.some.inj hcall
    subst hsame
    intro hab
    obtain ⟨call', hcall', hpc⟩ := hab e (by simp [sendError])
    rw [calls_setCall hcall₀, Option.some.injEq] at hcall'
    subst hcall'
    rcases hpc with ⟨hpc, -⟩ | ⟨-, hnone, -⟩
    · cases hk : call₀.kind with
      | unary => exact hkind hk
      | stream => simp [ClientCall.afterSend, hk] at hpc
    · exact hnone call₀.id hl
  · exact absurd trivial hdirty

/-- **A call that could not send leaves nothing**, in every run in which it is not a stream
    that is filed when its `send` fails; and such a failure leaves an entry at once. -/
theorem abandoned_iff_cleanSend (hrun : Runs.Steps (Beside.step i) (Clean i) init b) :
    Abandoned i b ∧ ∀ a b', CountsOn b.client a → Beside.step i b a = some b' →
      (Abandoned i b' ↔ CleanSend i b.client a) := by
  have hapart := apart_of_run hrun
  refine ⟨hapart.abandoned, fun a b' hcount hs => ⟨fun hab => ?_, fun hclean => ?_⟩⟩
  · by_contra hdirty
    exact not_abandoned hs hdirty hab
  · exact (hapart.step ⟨hcount, hclean⟩ hs).abandoned

/-- A unary call fails to send while another call is filed, and takes only itself out. -/
theorem abandoned_iff_cleanSend_unary :
    ∃ b, Runs.Steps (Beside.step 2) (Clean 2) init b ∧ b.failed = some "broken pipe" ∧
      b.client.pending.lookup 2 = some 1 ∧ b.client.pending.lookup 3 = none ∧
      Abandoned 2 b := by
  obtain ⟨b, hrun, hfailed, hother, hown⟩ : ∃ b, Runs.Steps (Beside.step 2) (Clean 2) init b ∧
      b.failed = some "broken pipe" ∧ b.client.pending.lookup 2 = some 1 ∧
      b.client.pending.lookup 3 = none :=
    Runs.Steps.exists_of_exec (List.flatten [handshake,
      [.call .stream (.stream .watchNetwork), .insert 1, .call .unary (.unary .getRoutes),
        .insert 2, .task 2 (.send (some "broken pipe")), .remove 2]]) _ (by decide +kernel)
  exact ⟨b, hrun, hfailed, hother, hown, (abandoned_iff_cleanSend hrun).1⟩

/-- A stream whose request is not written: the error is returned, the entry stays. -/
theorem stream_left_pending :
    ∃ b, Runs.Steps (Beside.step 1) (fun _ _ => True) init b ∧
      b.failed = some "broken pipe" ∧
      b.client.calls[1]?.map (·.pc) = some (.returned (.error "broken pipe")) ∧
      b.client.pending.lookup 2 = some 1 ∧ b.others.lookup 2 = none ∧ ¬ Abandoned 1 b := by
  obtain ⟨b, hrun, hfailed, hpc, hleft, hothers⟩ :
      ∃ b, Runs.Steps (Beside.step 1) (fun _ _ => True) init b ∧
        b.failed = some "broken pipe" ∧
        b.client.calls[1]?.map (·.pc) = some (.returned (.error "broken pipe")) ∧
        b.client.pending.lookup 2 = some 1 ∧ b.others.lookup 2 = none :=
    Runs.Steps.exists_of_exec (List.flatten [handshake,
      [.call .stream (.stream .watchNetwork), .insert 1,
        .task 1 (.send (some "broken pipe"))]]) _ (by decide +kernel)
  refine ⟨b, hrun, hfailed, hpc, hleft, hothers, fun hab => ?_⟩
  obtain ⟨call, hcall, hend⟩ := hab _ hfailed
  rw [hcall, Option.map_some, Option.some.injEq] at hpc
  rcases hend with ⟨hrem, -⟩ | ⟨-, hnone, -⟩
  · rw [hrem] at hpc
    cases hpc
  · exact hnone 2 hleft

end Beside

end DaemonClient

end Netdiag.Ipc
