import Netdiag.Ipc.Call

namespace Netdiag.Ipc

/-!
# IPC — how a streaming call ends

Two properties of the frames queued for one streaming call, over every run:

* `at_most_one_stream_end` — the call gets at most one `StreamEnd`;
* `nothing_after_the_terminator` — no frame of the call follows its terminator.

`Cancel` and `StopCapture` queue the `StreamEnd` of the call they abort themselves, at
once, while the abort takes effect only when the task next gives up the thread, does not
reach a `Diagnose` forwarder, and finds nothing to stop in a task that has queued its own
`StreamEnd` already.  Both properties therefore hold in the runs in which the read loop
meets the task *parked* short of its end (for the second also *drained*), and in which no
`StopCapture` names the call without meaning it; the runs after each theorem show that they
fail otherwise.
-/

namespace Session

variable {d : Daemon} {s s' : Session} {a : Action} {i : Nat}

/-! ### A call id that is used once -/

/-- No frame with id `i` is read if one was read before. -/
def UsedOnce (i : Nat) (s : Session) (a : Action) : Prop :=
  ∀ f ∈ a.frame, f.id = i → s.asked i = false

instance (i : Nat) (s : Session) (a : Action) : Decidable (UsedOnce i s a) :=
  inferInstanceAs (Decidable (∀ f ∈ _, _))

/-- Every call id is used at most once. -/
def FreshIds (_ : Daemon) (s : Session) (a : Action) : Prop :=
  ∀ f ∈ a.frame, s.asked f.id = false

instance (d : Daemon) (s : Session) (a : Action) : Decidable (FreshIds d s a) :=
  inferInstanceAs (Decidable (∀ f ∈ _, _))

/-- At most one stream task has id `i`, and only if a frame with that id was read. -/
structure Single (i : Nat) (s : Session) : Prop where
  filed : s.Filed
  asked : ∀ (t : Nat) task, s.tasks[t]? = some task → task.id = i → s.asked i = true
  single : ∀ (t u : Nat) x y, s.tasks[t]? = some x → s.tasks[u]? = some y → x.id = i →
    y.id = i → t = u

theorem Single.init (i : Nat) : Single i Session.init where
  filed := .init
  asked := by simp [Session.init]
  single := by simp [Session.init]

/-- A task with id `i` was there before the step if the id was in use. -/
theorem UsedOnce.origin (hok : UsedOnce i s a) (hasked : s.asked i = true)
    (he : Effect d s a s') {t : Nat} {task' : StreamTask} (ht : s'.tasks[t]? = some task')
    (hid : task'.id = i) : ∃ task, s.tasks[t]? = some task ∧ task.Later task' := by
  rcases he.origin t task' ht with hold | ⟨-, f, call, ha, htask'⟩
  · exact hold
  · subst ha htask'
    have hnot : s.asked i = false := hok f rfl hid
    rw [hasked] at hnot
    cases hnot

theorem Single.step (hs : Single i s) (hok : UsedOnce i s a) (he : Effect d s a s') :
    Single i s' := by
  refine ⟨hs.filed.step he.table, fun t task' ht hid => ?_, fun t u x' y' hx hy hxi hyi => ?_⟩
  · rcases he.origin t task' ht with ⟨task, htask, hlater⟩ | ⟨-, f, call, ha, htask'⟩
    · exact he.asked_mono (hs.asked t task htask (hlater.id_eq ▸ hid))
    · subst ha htask'
      rw [← hid]
      exact he.asked_receive
  -- once the id is in use no second task can be spawned with it
  · by_cases hasked : s.asked i = true
    · obtain ⟨x, hx, hxl⟩ := hok.origin hasked he hx hxi
      obtain ⟨y, hy, hyl⟩ := hok.origin hasked he hy hyi
      exact hs.single t u x y hx hy (hxl.id_eq ▸ hxi) (hyl.id_eq ▸ hyi)
    · -- no task had the id before, so both are the one just spawned
      have hnew : ∀ (v : Nat) z', s'.tasks[v]? = some z' → z'.id = i → v = s.tasks.length := by
        intro v z' hz hzi
        rcases he.origin v z' hz with ⟨z, hz, hlater⟩ | ⟨hv, -⟩
        · exact absurd (hs.asked v z hz (hlater.id_eq ▸ hzi)) hasked
        · exact hv
      rw [hnew t x' hx hxi, hnew u y' hy hyi]

/-! ### At most one `StreamEnd` -/

/-- The id is used once; whatever `Cancel` or `StopCapture` takes the handle of call `i`
    out of the registry finds its task parked short of its `StreamEnd`; and no
    `StopCapture` names `i` as a capture while the registry has no such entry. -/
def EndsOnce (i : Nat) (d : Daemon) (s : Session) (a : Action) : Prop :=
  UsedOnce i s a ∧
  (a = .loop → s.releasing = some i → ∀ t ∈ s.registry.lookup i, ∀ task ∈ s.tasks[t]?,
    task.Parked) ∧
  (a = .loop → s.forcing = some i → d.captures.lookup i = none)

instance (i : Nat) (d : Daemon) (s : Session) (a : Action) : Decidable (EndsOnce i d s a) :=
  inferInstanceAs (Decidable (_ ∧ (_ → _ → ∀ t ∈ _, ∀ task ∈ _, _) ∧ _))

/-- Call `i` has at most one `StreamEnd`, and once it has one its task is mute. -/
structure Once (i : Nat) (s : Session) : Prop where
  toSingle : Single i s
  atMost : (s.outbox i).countP Reply.isStreamEnd ≤ 1
  mute : 0 < (s.outbox i).countP Reply.isStreamEnd → s.asked i = true ∧
    ∀ (t : Nat) task, s.tasks[t]? = some task → task.id = i → task.Mute

theorem Once.init (i : Nat) : Once i Session.init where
  toSingle := .init i
  atMost := by simp [Session.init, outbox, queued, replies]
  mute := by simp [Session.init, outbox, queued, replies]

/-- A task that can still queue frames has no `StreamEnd` yet. -/
theorem Once.countP_eq_zero (hs : Once i s) {t : Nat} {task : StreamTask}
    (htask : s.tasks[t]? = some task) (hid : task.id = i) (hloud : ¬ task.Mute) :
    (s.outbox i).countP Reply.isStreamEnd = 0 := by
  by_contra hne
  exact hloud ((hs.mute (Nat.pos_of_ne_zero hne)).2 t task htask hid)

/-- Steps that add no `StreamEnd`. -/
theorem Once.of_le (hs : Once i s) (hok : UsedOnce i s a) (he : Effect d s a s')
    (hle : (s'.outbox i).countP Reply.isStreamEnd ≤ (s.outbox i).countP Reply.isStreamEnd) :
    Once i s' := by
  refine ⟨hs.toSingle.step hok he, le_trans hle hs.atMost, fun hpos => ?_⟩
  -- a `StreamEnd` that is out now was out before, so the task was mute, and stays so
  obtain ⟨hasked, hmute⟩ := hs.mute (lt_of_lt_of_le hpos hle)
  refine ⟨he.asked_mono hasked, fun t task' ht hid => ?_⟩
  obtain ⟨task, htask, hlater⟩ := hok.origin hasked he ht hid
  exact hlater.mute (hmute t task htask (hlater.id_eq ▸ hid))

/-- Steps that add the first `StreamEnd` and silence the one task of the call. -/
theorem Once.of_ended (hs : Once i s) (hok : UsedOnce i s a) (he : Effect d s a s')
    {t : Nat} {task : StreamTask} (task' : StreamTask) (htask : s.tasks[t]? = some task)
    (hid : task.id = i) (htask' : s'.tasks[t]? = some task') (hid' : task'.id = i) (hmute : task'.Mute)
    (hcount : (s'.outbox i).countP Reply.isStreamEnd ≤ 1) : Once i s' := by
  have hs' := hs.toSingle.step hok he
  refine ⟨hs', hcount, fun _ => ⟨he.asked_mono (hs.toSingle.asked t task htask hid), ?_⟩⟩
  intro u x hx hxi
  have htu : t = u := hs'.single t u task' x htask' hx hid' hxi
  subst htu
  rw [htask'] at hx
  cases hx
  exact hmute

/-- `Once` survives every step that meets `EndsOnce`. -/
theorem Once.step (hs : Once i s) (hok : EndsOnce i d s a) (he : Effect d s a s') :
    Once i s' := by
  obtain ⟨honce, hparked, hforced⟩ := hok
  cases he.call i with
  | silent hall hdue => exact hs.of_le honce he hall.countP_le
  | item t task b r input htask hid hstatus hpc hr hqueued hreplies =>
    have hne : r.isStreamEnd = false := by
      by_contra h
      rw [Reply.isTerminator_of_isStreamEnd (by simpa using h)] at hr
      cases hr
    refine hs.of_le honce he (le_of_eq ?_)
    simp [outbox, hqueued, hreplies, hne]
  | check t task f act htask hid hf hbusy hqueued hreplies =>
    refine hs.of_le honce he (le_of_eq ?_)
    simp [outbox, hqueued, hreplies, Reply.isStreamEnd]
  | ended t task o input htask hid hstatus hpc htasks hqueued hreplies =>
    -- the task runs short of its `registry.remove`, so this is its first `StreamEnd`
    have hzero := hs.countP_eq_zero htask hid
      (StreamTask.not_mute_of_polling hstatus (by simp [hpc]))
    have hlt := (List.getElem?_eq_some_iff.mp htask).1
    refine hs.of_ended honce he { task with pc := .removing } htask hid ?_ hid
      (.inr (.inr (.inr rfl))) ?_
    · rw [htasks, List.getElem?_set_self hlt]
    · unfold outbox at hzero ⊢
      rw [hqueued, hreplies]
      simp only [List.countP_append, List.countP_singleton, Reply.isStreamEnd_streamEnd] at hzero ⊢
      simp only [if_true]
      omega
  | unary u call error r hcall hid hr hqueued hreplies =>
    refine hs.of_le honce he (le_of_eq ?_)
    simp [outbox, hqueued, hreplies, hr]
  | rejected f r hid hr hstream htasks hbefore hqueued hreplies =>
    refine hs.of_le honce he (le_of_eq ?_)
    simp [outbox, hqueued, hreplies, hbefore, hr]
  | replied rs hr hwhy hbefore hqueued hreplies =>
    have hzero : rs.countP Reply.isStreamEnd = 0 := List.countP_eq_zero.mpr (by simpa using hr)
    refine hs.of_le honce he (le_of_eq ?_)
    simp [outbox, hqueued, hreplies, hbefore, hzero]
  | released t o own hreleasing hhit hr hwhy htasks hbefore hqueued hreplies =>
    -- the entry's task is parked and not aborted, so it has not ended the call
    obtain ⟨task, htask, hid, habort⟩ := hs.toSingle.filed.entry i t hhit
    have hp : task.Parked := hparked rfl hreleasing t hhit task htask
    have hzero := hs.countP_eq_zero htask hid (StreamTask.not_mute_of_parked hp habort)
    have hown : own.countP Reply.isStreamEnd = 0 := List.countP_eq_zero.mpr (by simpa using hr)
    refine hs.of_ended honce he task.abort htask hid ?_ ?_
      (StreamTask.mute_abort_of_parked hp) ?_
    · rw [htasks, tasks_abort, if_pos rfl, htask]
      rfl
    · rw [(StreamTask.later_abort task).id_eq, hid]
    · unfold outbox at hzero ⊢
      rw [hqueued, hreplies]
      simp only [List.countP_append, hbefore, List.countP_nil] at hzero
      simp only [List.countP_append, List.countP_cons, hown, Reply.isStreamEnd_streamEnd, if_true]
      omega
  | refused t e hloop htasks hbefore hqueued hreplies =>
    refine hs.of_le honce he (le_of_eq ?_)
    simp [outbox, hqueued, hreplies, hbefore]
  | forced rs hforcing hhit hreplies => exact absurd (hforced rfl hforcing) hhit

/-! ### Nothing after the terminator -/

/-- The task of call `i` that the next step of the read loop aborts, when that step also
    queues a terminator of the call. -/
def terminating (s : Session) (i : Nat) : Option Nat :=
  match s.loop with
  | .cancelling _ target => if target = i then s.registry.lookup i else none
  | .stopping _ captureId => if captureId = i then s.registry.lookup i else none
  | .refused id t _ => if id = i then some t else none
  | _ => none

/-- The id is used once, by a streaming call; whenever the read loop ends call `i`, by
    `Cancel`, `StopCapture` or the stream limit, it finds the task parked short of its
    `StreamEnd` with no check left in its forwarder; and no `StopCapture` names `i` as a
    capture while the registry has no such entry. -/
def EndsLast (i : Nat) (d : Daemon) (s : Session) (a : Action) : Prop :=
  (∀ f ∈ a.frame, f.id = i → s.asked i = false ∧ f.isStream = true) ∧
  (a = .loop → ∀ t ∈ s.terminating i, ∀ task ∈ s.tasks[t]?, task.Parked ∧ task.Drained) ∧
  (a = .loop → s.forcing = some i → d.captures.lookup i = none)

instance (i : Nat) (d : Daemon) (s : Session) (a : Action) : Decidable (EndsLast i d s a) :=
  inferInstanceAs (Decidable ((∀ f ∈ _, _) ∧ (_ → ∀ t ∈ _, ∀ task ∈ _, _) ∧ _))

theorem EndsLast.usedOnce (h : EndsLast i d s a) : UsedOnce i s a :=
  fun f hf hid => (h.1 f hf hid).1

/-- No unary call, `Cancel` or `StopCapture` has id `i`. -/
structure Streaming (i : Nat) (s : Session) : Prop where
  unaries : ∀ u ∈ s.unaries, u.id ≠ i
  calling : s.calling ≠ some i

theorem Streaming.step (hs : Streaming i s) (hok : EndsLast i d s a) (he : Effect d s a s') :
    Streaming i s' := by
  refine ⟨fun u hu hid => ?_, fun hcalling => ?_⟩
  · rcases he.unaries hu with hold | ⟨f, hf, hfid, hstream⟩
    · exact hs.unaries u hold hid
    · have := (hok.1 f hf (hfid.trans hid)).2
      rw [hstream] at this
      cases this
  · rcases he.calling hcalling with hold | ⟨f, hf, hfid, hstream⟩
    · exact hs.calling hold
    · have := (hok.1 f hf hfid).2
      rw [hstream] at this
      cases this

/-- The terminator of call `i` comes last, and behind it the task is mute and its
    forwarder drained. -/
structure Sealed (i : Nat) (s : Session) : Prop where
  toSingle : Single i s
  streaming : Streaming i s
  joined : ∀ (t : Nat) task, s.tasks[t]? = some task → task.Joined
  last : (s.outbox i).Pairwise (fun r _ => r.isTerminator = false)
  due : ∀ r ∈ bodies i s.replies, r.isTerminator = true
  heard : ∀ r ∈ s.outbox i, s.asked i = true
  silent : ∀ r ∈ s.outbox i, r.isTerminator = true →
    ∀ (t : Nat) task, s.tasks[t]? = some task → task.id = i → task.Mute ∧ task.Drained

theorem Sealed.init (i : Nat) : Sealed i Session.init where
  toSingle := .init i
  streaming := ⟨by simp [Session.init], by simp [Session.init, calling]⟩
  joined := by simp [Session.init]
  last := by simp [Session.init, outbox, queued, replies]
  due := by simp [Session.init, replies]
  heard := by simp [Session.init, outbox, queued, replies]
  silent := by simp [Session.init, outbox, queued, replies]

/-- Tasks stay joined. -/
theorem Effect.joined (he : Effect d s a s')
    (hs : ∀ (t : Nat) task, s.tasks[t]? = some task → task.Joined) (t : Nat)
    (task' : StreamTask) (ht : s'.tasks[t]? = some task') : task'.Joined := by
  rcases he.origin t task' ht with ⟨task, htask, hlater⟩ | ⟨-, f, call, -, rfl⟩
  · exact hlater.joined (hs t task htask)
  · exact .inr (.inr (by simp [StreamTask.spawned]))

/-- While a task of the call can still queue frames, no terminator of it is out, and the
    read loop has nothing to say about it. -/
theorem Sealed.clear (hs : Sealed i s) {t : Nat} {task : StreamTask}
    (htask : s.tasks[t]? = some task) (hid : task.id = i)
    (hloud : ¬ (task.Mute ∧ task.Drained)) :
    (∀ r ∈ bodies i s.queued, r.isTerminator = false) ∧ bodies i s.replies = [] := by
  have hnone : ∀ r ∈ s.outbox i, r.isTerminator = false := by
    intro r hr
    by_contra hterm
    exact hloud (hs.silent r hr (by simpa using hterm) t task htask hid)
  refine ⟨fun r hr => hnone r (List.mem_append_left _ hr), ?_⟩
  rw [List.eq_nil_iff_forall_not_mem]
  intro r hr
  have hterm := hs.due r hr
  rw [hnone r (List.mem_append_right _ hr)] at hterm
  cases hterm

/-- Steps that add nothing to the call. -/
theorem Sealed.of_sublist (hs : Sealed i s) (hok : EndsLast i d s a) (he : Effect d s a s')
    (hall : (s'.outbox i).Sublist (s.outbox i))
    (hdue : (bodies i s'.replies).Sublist (bodies i s.replies)) : Sealed i s' where
  toSingle := hs.toSingle.step hok.usedOnce he
  streaming := hs.streaming.step hok he
  joined := he.joined hs.joined
  last := hs.last.sublist hall
  due := fun r hr => hs.due r (hdue.subset hr)
  heard := fun r hr => he.asked_mono (hs.heard r (hall.subset hr))
  silent := by
    intro r hr hterm t task' ht hid
    obtain ⟨task, htask, hlater⟩ :=
      hok.usedOnce.origin (hs.heard r (hall.subset hr)) he ht hid
    obtain ⟨hmute, hdrained⟩ :=
      hs.silent r (hall.subset hr) hterm t task htask (hlater.id_eq ▸ hid)
    exact ⟨hlater.mute hmute, hlater.drained hmute hdrained⟩

/-- Steps that add one frame behind frames none of which is a terminator. -/
theorem Sealed.of_append (hs : Sealed i s) (hok : EndsLast i d s a) (he : Effect d s a s')
    {r : Reply} (hclear : ∀ r ∈ bodies i s.queued, r.isTerminator = false)
    (hout : s'.outbox i = bodies i s.queued ++ [r])
    (hdue : ∀ r ∈ bodies i s'.replies, r.isTerminator = true)
    (hasked : s'.asked i = true)
    (hsilent : r.isTerminator = true → ∀ (t : Nat) task, s'.tasks[t]? = some task →
      task.id = i → task.Mute ∧ task.Drained) : Sealed i s' where
  toSingle := hs.toSingle.step hok.usedOnce he
  streaming := hs.streaming.step hok he
  joined := he.joined hs.joined
  last := by
    rw [hout, List.pairwise_append]
    refine ⟨List.pairwise_of_forall_mem_list fun x hx _ _ => hclear x hx, by simp, ?_⟩
    intro x hx _ _
    exact hclear x hx
  due := hdue
  heard := fun _ _ => hasked
  silent := by
    intro x hx hterm
    rw [hout, List.mem_append, List.mem_singleton] at hx
    rcases hx with hx | rfl
    · rw [hclear x hx] at hterm
      cases hterm
    · exact hsilent hterm

/-- Steps that add the terminator and silence the one task of the call. -/
theorem Sealed.of_ended (hs : Sealed i s) (hok : EndsLast i d s a) (he : Effect d s a s')
    {t : Nat} {task : StreamTask} (task' : StreamTask) {r : Reply}
    (htask : s.tasks[t]? = some task) (hid : task.id = i)
    (htask' : s'.tasks[t]? = some task') (hid' : task'.id = i)
    (hsilent : task'.Mute ∧ task'.Drained)
    (hclear : ∀ r ∈ bodies i s.queued, r.isTerminator = false)
    (hout : s'.outbox i = bodies i s.queued ++ [r])
    (hdue : ∀ r ∈ bodies i s'.replies, r.isTerminator = true) : Sealed i s' := by
  refine hs.of_append hok he hclear hout hdue
    (he.asked_mono (hs.toSingle.asked t task htask hid)) fun _ u x hx hxi => ?_
  have hs' := hs.toSingle.step hok.usedOnce he
  have htu : t = u := hs'.single t u task' x htask' hx hid' hxi
  subst htu
  rw [htask'] at hx
  cases hx
  exact hsilent

/-- Steps in which the read loop ends the call: `Cancel`, `StopCapture` and the stream
    limit. -/
theorem Sealed.of_aborted (hs : Sealed i s) (hok : EndsLast i d s .loop)
    (he : Effect d s .loop s') {t : Nat} {r : Reply} (hterminating : s.terminating i = some t)
    (hholds : s.Holds t i) (htasks : s'.tasks = (s.abort t).tasks)
    (hqueued : s'.queued = s.queued) (hreplies : bodies i s'.replies = [r])
    (hterm : r.isTerminator = true) : Sealed i s' := by
  obtain ⟨task, htask, hid, habort⟩ := hholds
  obtain ⟨hparked, hdrained⟩ := hok.2.1 rfl t hterminating task htask
  -- parked and not aborted, the task has not ended the call itself
  have hloud : ¬ (task.Mute ∧ task.Drained) :=
    fun h => StreamTask.not_mute_of_parked hparked habort h.1
  have hafter : s'.tasks[t]? = some task.abort := by
    rw [htasks, tasks_abort, if_pos rfl, htask]
    rfl
  refine hs.of_ended hok he task.abort (r := r) htask hid hafter ?_ ?_
    (hs.clear htask hid hloud).1 ?_ ?_
  · rw [(StreamTask.later_abort task).id_eq, hid]
  · exact ⟨StreamTask.mute_abort_of_parked hparked, StreamTask.drained_abort.mpr hdrained⟩
  · unfold outbox
    rw [hqueued, hreplies]
  · rw [hreplies]
    simpa using hterm

/-- `Sealed` survives every step that meets `EndsLast`. -/
theorem Sealed.step (hi : i ≠ 0) (hs : Sealed i s) (hok : EndsLast i d s a)
    (he : Effect d s a s') : Sealed i s' := by
  cases he.call i with
  | silent hall hdue => exact hs.of_sublist hok he hall hdue
  | item t task b r input htask hid hstatus hpc hr hqueued hreplies =>
    have hloud := StreamTask.not_mute_of_polling hstatus (by simp [hpc])
    obtain ⟨hclear, hnone⟩ := hs.clear htask hid fun h => hloud h.1
    refine hs.of_append hok he hclear (r := r) ?_ ?_
      (he.asked_mono (hs.toSingle.asked t task htask hid)) ?_
    · simp [outbox, hqueued, hreplies, hnone]
    · rw [hreplies]; exact hs.due
    · simp [hr]
  | check t task f act htask hid hf hbusy hqueued hreplies =>
    -- a forwarder with a check in hand is not drained, so no terminator is out
    obtain ⟨hclear, hnone⟩ := hs.clear htask hid fun h => hbusy (h.2 f hf)
    refine hs.of_append hok he hclear (r := .diagnose .check) ?_ ?_
      (he.asked_mono (hs.toSingle.asked t task htask hid)) ?_
    · simp [outbox, hqueued, hreplies, hnone]
    · rw [hreplies]; exact hs.due
    · simp [Reply.isTerminator]
  | ended t task o input htask hid hstatus hpc htasks hqueued hreplies =>
    have hloud := StreamTask.not_mute_of_polling hstatus (by simp [hpc])
    obtain ⟨hclear, hnone⟩ := hs.clear htask hid fun h => hloud h.1
    have hlt := (List.getElem?_eq_some_iff.mp htask).1
    -- the body returned, so it is past `forwarder.await`
    have hdrained : task.Drained := by
      rcases hs.joined t task htask with h | h | h
      · rw [hpc] at h; cases h
      · rw [hpc] at h; cases h
      · exact fun f hf => .inl (h f hf)
    refine hs.of_ended hok he { task with pc := .removing } htask hid ?_ hid
      ⟨.inr (.inr (.inr rfl)), hdrained⟩ hclear (r := .streamEnd o) ?_ ?_
    · rw [htasks, List.getElem?_set_self hlt]
    · simp [outbox, hqueued, hreplies, hnone]
    · rw [hreplies]; exact hs.due
  | unary u call error r hcall hid hr hqueued hreplies =>
    exact absurd hid (hs.streaming.unaries call hcall)
  | rejected f r hid hr hstream htasks hbefore hqueued hreplies =>
    obtain ⟨hnew, hisStream⟩ := hok.1 f rfl hid
    obtain ⟨call, hcall⟩ := ClientFrame.body_of_isStream hisStream
    -- the id is new, so nothing was ever queued under it
    have hempty : bodies i s.queued = [] := by
      rw [List.eq_nil_iff_forall_not_mem]
      intro x hx
      rw [hs.heard x (List.mem_append_left _ hx)] at hnew
      cases hnew
    refine hs.of_append hok he (r := r) (by simp [hempty]) ?_ ?_ ?_ ?_
    · simp [outbox, hqueued, hreplies]
    · rw [hreplies]; simpa using hstream call hcall
    · rw [← hid]; exact he.asked_receive
    · intro _ t task ht htid
      rw [htasks] at ht
      rw [hs.toSingle.asked t task ht htid] at hnew
      cases hnew
  | replied rs hr hwhy hbefore hqueued hreplies =>
    rcases hwhy with h | h
    · exact absurd h hi
    · exact absurd h hs.streaming.calling
  | released t o own hreleasing hhit hr hwhy htasks hbefore hqueued hreplies =>
    have hown : own = [] := hwhy.resolve_right hs.streaming.calling
    subst hown
    refine hs.of_aborted hok he ?_ (hs.toSingle.filed.entry i t hhit) htasks hqueued hreplies rfl
    unfold releasing at hreleasing
    unfold terminating
    split at hreleasing <;> simp_all
  | refused t e hloop htasks hbefore hqueued hreplies =>
    refine hs.of_aborted hok he ?_ ?_ htasks hqueued hreplies rfl
    · simp [terminating, hloop]
    · exact (hs.toSingle.filed.fresh i t (by simp [spawning, hloop])).1
  | forced rs hforcing hhit hreplies => exact absurd (hok.2.2 rfl hforcing) hhit

end Session

/-! ### Whole runs -/

namespace Server

variable {k i : Nat} {w : Server}

/-- **One end.**  In every run of a connection that meets `EndsOnce` for call `i`, at most
    one `StreamEnd` of the call is ever queued. -/
theorem at_most_one_stream_end (hrun : Run (On k (Session.EndsOnce i)) w) :
    (w.comp k).queued.countP (fun f => f.id == i && f.body.isStreamEnd) ≤ 1 := by
  have hinv : (w.comp k).Once i :=
    session_invariant hrun (.init i) fun _ _ _ _ hs hok he => hs.step hok he
  have hle : (Session.bodies i (w.comp k).queued).countP Reply.isStreamEnd ≤ 1 :=
    le_trans (List.sublist_append_left _ _).countP_le hinv.atMost
  -- count in the queue itself what `bodies` counts in the frames of the call
  rw [Session.bodies, List.countP_filterMap] at hle
  refine le_trans (le_of_eq (List.countP_congr fun f _ => ?_)) hle
  by_cases hid : f.id = i <;> simp [hid]

/-- A watch is cancelled while it is parked: one `StreamEnd`. -/
theorem at_most_one_stream_end_cancelled :
    ∃ w, Run (On 0 (Session.EndsOnce 2)) w ∧
      (w.comp 0).queued.any (fun f => f.id == 2 && f.body.isStreamEnd) = true ∧
      (w.comp 0).queued.countP (fun f => f.id == 2 && f.body.isStreamEnd) ≤ 1 := by
  obtain ⟨w, hrun, hend⟩ := exists_run (On 0 (Session.EndsOnce 2))
    (List.flatten [greeting 0, [(0, .receive ⟨2, some (.stream .watchNetwork)⟩), (0, .loop),
      (0, .poll 0), (0, .task 0 .go), (0, .task 0 (.event true)), (0, .yield 0),
      (0, .receive ⟨3, some (.cancel 2)⟩), (0, .loop), (0, .loop), (0, .loop), (0, .poll 0)]])
    (fun w : Server =>
      (w.comp 0).queued.any (fun f => f.id == 2 && f.body.isStreamEnd) = true)
    (by decide +kernel)
  exact ⟨w, hrun, hend, at_most_one_stream_end hrun⟩

/-- The task has queued its `StreamEnd` and not yet left the registry when a `Cancel` for
    it is served: the client gets a second one.  No id is used twice. -/
theorem cancel_after_the_end_ends_again :
    ∃ w, Run (On 0 Session.FreshIds) w ∧
      (w.comp 0).queued.countP (fun f => f.id == 2 && f.body.isStreamEnd) = 2 := by
  obtain ⟨w, hrun, htwo⟩ := exists_run (On 0 Session.FreshIds)
    (List.flatten [greeting 0, [(0, .receive ⟨2, some (.stream (.startCapture ⟨0, 0⟩))⟩),
      (0, .loop), (0, .poll 0), (0, .task 0 (.opened (some (.invalid "no such interface")))),
      (0, .task 0 .go), (0, .receive ⟨3, some (.cancel 2)⟩), (0, .loop), (0, .loop)]])
    (fun w : Server =>
      (w.comp 0).queued.countP (fun f => f.id == 2 && f.body.isStreamEnd) = 2)
    (by decide +kernel)
  exact ⟨w, hrun, htwo⟩

/-- **The terminator is last.**  In every run of a connection that meets `EndsLast` for
    call `i`, no frame of the call is queued after its terminator. -/
theorem nothing_after_the_terminator (hi : i ≠ 0) (hrun : Run (On k (Session.EndsLast i)) w) :
    (w.comp k).queued.Pairwise
      (fun f g => f.id = i → f.body.isTerminator = true → g.id ≠ i) := by
  have hinv : (w.comp k).Sealed i :=
    session_invariant hrun (.init i) fun _ _ _ _ hs hok he => hs.step hi hok he
  have hlast := hinv.last.sublist (List.sublist_append_left _ _)
  rw [Session.bodies, List.pairwise_filterMap] at hlast
  refine hlast.imp fun {f g} h hf hterm hg => ?_
  have hnot := h f.body (by simp [hf]) g.body (by simp [hg])
  rw [hterm] at hnot
  cases hnot

/-- A diagnosis ends by itself, after its one check has been forwarded. -/
theorem nothing_after_the_terminator_diagnose :
    ∃ w, Run (On 0 (Session.EndsLast 2)) w ∧
      (w.comp 0).queued.map (fun f => (f.id, f.body.isTerminator)) =
        [(1, false), (2, false), (2, false), (2, true)] ∧
      (w.comp 0).queued.Pairwise
        (fun f g => f.id = 2 → f.body.isTerminator = true → g.id ≠ 2) := by
  obtain ⟨w, hrun, hframes⟩ := exists_run (On 0 (Session.EndsLast 2))
    (List.flatten [greeting 0, [(0, .receive ⟨2, some (.stream .diagnose)⟩), (0, .loop),
      (0, .poll 0), (0, .task 0 .go), (0, .task 0 .check), (0, .task 0 .checksDone), (0, .yield 0),
      (0, .forwarder 0 .recv), (0, .forwarder 0 .reply), (0, .forwarder 0 .exit),
      (0, .poll 0), (0, .task 0 .go), (0, .task 0 .go), (0, .task 0 .go), (0, .task 0 .go)]])
    (fun w : Server => (w.comp 0).queued.map (fun f => (f.id, f.body.isTerminator)) =
      [(1, false), (2, false), (2, false), (2, true)])
    (by decide +kernel)
  exact ⟨w, hrun, hframes, nothing_after_the_terminator (by decide) hrun⟩

/-- A diagnosis is cancelled while a check sits in its channel: the forwarder, which the
    abort does not reach, queues it after the `StreamEnd`. -/
theorem check_after_the_stream_end :
    ∃ w, Run (On 0 Session.FreshIds) w ∧
      ¬ (w.comp 0).queued.Pairwise
        (fun f g => f.id = 2 → f.body.isTerminator = true → g.id ≠ 2) := by
  obtain ⟨w, hrun, hframes⟩ := exists_run (On 0 Session.FreshIds)
    (List.flatten [greeting 0, [(0, .receive ⟨2, some (.stream .diagnose)⟩), (0, .loop),
      (0, .poll 0), (0, .task 0 .go), (0, .task 0 .check), (0, .yield 0),
      (0, .receive ⟨3, some (.cancel 2)⟩), (0, .loop), (0, .loop), (0, .loop),
      (0, .forwarder 0 .recv), (0, .forwarder 0 .reply)]])
    (fun w : Server => ¬ (w.comp 0).queued.Pairwise
      (fun f g => f.id = 2 → f.body.isTerminator = true → g.id ≠ 2))
    (by decide +kernel)
  exact ⟨w, hrun, hframes⟩

end Server

end Netdiag.Ipc
