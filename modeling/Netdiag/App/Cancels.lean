import Netdiag.App.Streams

namespace Netdiag.App.Net

/-!
# App — a cancel gets through

A screen that stops a stream spawns `client.cancel(id)` and forgets about it.  When that is
enough:

* `Sound` — a cancel that has not returned will still be read by the session, unless the
  connection is gone; `ShutsAfter` is what `shutdown` has to leave alone for that.
* `Quiet` / `Covered` — while no start is under way, a stream that runs and is being
  cancelled does not outlive its cancel.
-/

variable {F : Type} {valid : List F → F → Bool} {n n' : Net F} {a : Action F}

/-! ### Cancels get through -/

/-- A cancel that has not returned will still be read, unless the connection is gone, and a
    connection that is gone runs no stream. -/
structure Sound (n : Net F) : Prop where
  lost : ∀ (c : Nat) conn, n.conns[c]? = some conn → conn.lost = true → n.Settled c
  cancels : ∀ (j : Nat) x, n.cancels[j]? = some x → x.pc ≠ .done → ∃ conn,
    n.conns[x.conn]? = some conn ∧ (conn.lost = true ∨ (x.pc = .unsent ∧ conn.shut = false) ∨
      (x.pc = .sent ∧ .cancel j ∈ conn.wire))
  wires : ∀ (c : Nat) conn, n.conns[c]? = some conn → ∀ j, .cancel j ∈ conn.wire → ∃ x,
    n.cancels[j]? = some x ∧ x.conn = c

/-- No connection is shut down while a cancel has yet to be written on it. -/
def ShutsAfter (n : Net F) : Action F → Prop
  | .shutdown c => ∀ x ∈ n.cancels, x.conn = c → x.pc ≠ .unsent
  | _ => True

instance (n : Net F) (a : Action F) : Decidable (n.ShutsAfter a) := by
  unfold ShutsAfter
  split <;> infer_instance

theorem sound_init : (init : Net F).Sound where
  lost c conn h := by simp [init] at h
  cancels j x h := by simp [init] at h
  wires c conn h := by simp [init] at h

theorem Settled.effect (h : Effect valid n a n') {c : Nat} {conn : Conn}
    (hconn : n.conns[c]? = some conn) (hlost : conn.lost = true) (hs : n.Settled c) :
    n'.Settled c := by
  intro t call' hcall' hc
  obtain ⟨call, hcall, hlater⟩ := h.call_of hcall'
  have hold := hs t call hcall (hlater.conn_eq ▸ hc)
  rcases hlater.phase with ⟨he, -⟩ | he | ⟨hreq, -⟩ | ⟨-, -, conn₀, hconn₀, hdead⟩
  · rw [he]; exact hold
  · exact .inr he
  · rw [hreq] at hold; simp at hold
  · -- nothing is written on a connection that is gone
    rw [← hlater.conn_eq, hc, hconn, Option.some.injEq] at hconn₀
    subst hconn₀
    simp [Conn.dead, hlost] at hdead

/-- One step keeps `Sound`. -/
theorem Effect.sound (h : Effect valid n a n') (hok : n.ShutsAfter a) (hs : n.Sound) :
    n'.Sound := by
  refine ⟨fun c conn' hconn' hlost => ?_, fun j x' hx' hpc' => ?_, fun c conn' hconn' j hj => ?_⟩
  · obtain ⟨conn, hconn, hmove⟩ := h.conn_of hconn'
    rcases hmove.lost hlost with hold | hsettled
    · exact (hs.lost c conn hconn hold).effect h hconn hold
    · exact hsettled
  · obtain ⟨x, hx, hc, ht, hpc⟩ := h.cancel_of hx'
    rw [hc]
    rcases hpc with hpc | hpc | ⟨hpc, conn', hconn', hj⟩
    · obtain ⟨conn, hconn, hold⟩ := hs.cancels j x hx (hpc ▸ hpc')
      obtain ⟨conn', hconn', hmove⟩ := h.conn_next hconn
      refine ⟨conn', hconn', ?_⟩
      -- Its connection was lost, the cancel is not written yet, or it is on the wire.
      rcases hold with hlost | ⟨hunsent, hopen⟩ | ⟨hsent, hwire⟩
      · exact .inl (hmove.kept hlost)
      · refine .inr (.inl ⟨hpc.trans hunsent, Bool.eq_false_iff.mpr fun hshut => ?_⟩)
        rcases hmove.shut hshut with hbefore | ⟨rfl, -⟩
        · rw [hopen] at hbefore; cases hbefore
        · exact hok x (List.mem_of_getElem? hx) rfl hunsent
      · rcases hmove.cancel j hwire with hin | hlost | hdone
        · exact .inr (.inr ⟨hpc.trans hsent, hin⟩)
        · exact .inl hlost
        · exact absurd (hdone x' hx') hpc'
    · exact absurd hpc hpc'
    · exact ⟨conn', hconn', .inr (.inr ⟨hpc, hj⟩)⟩
  · obtain ⟨conn, hconn, hmove⟩ := h.conn_of hconn'
    have hx : ∃ x, n.cancels[j]? = some x ∧ x.conn = c := by
      rcases hmove.written j hj with hold | hnew
      · exact hs.wires c conn hconn j hold
      · exact hnew
    obtain ⟨x, hx, hc⟩ := hx
    obtain ⟨x', hx', hc', -⟩ := h.cancel_next hx
    exact ⟨x', hx', hc'.trans hc⟩

/-- A connection that is not being closed takes writes until it is. -/
theorem Effect.takes_writes (h : Effect valid n a n') {c : Nat}
    (hc : ∃ conn, n.conns[c]? = some conn ∧ conn.closing = false ∧ conn.shut = false) :
    ∃ conn, n'.conns[c]? = some conn ∧ conn.closing = false ∧ conn.shut = false := by
  obtain ⟨conn, hconn, hclosing, hopen⟩ := hc
  obtain ⟨conn', hconn', hmove⟩ := h.conn_next hconn
  refine ⟨conn', hconn', hmove.closing.trans hclosing, Bool.eq_false_iff.mpr fun hshut => ?_⟩
  rcases hmove.shut hshut with hbefore | ⟨-, hwas⟩
  · rw [hopen] at hbefore; cases hbefore
  · rw [hclosing] at hwas; cases hwas

/-! ### Nothing starts, and what runs is being cancelled -/

/-- No start is under way: every task has stored its id or returned, and no request is
    unread. -/
def Quiet (n : Net F) : Prop :=
  ∀ (t : Nat) call, n.calls[t]? = some call →
    call.pc ≠ .calling ∧ call.pc ≠ .opened ∧ call.phase ≠ .requested

/-- A cancel of this stream has not returned. -/
def Cancelling (n : Net F) (call : AppCall F) : Prop :=
  ∃ (j : Nat) (x : CancelCall), n.cancels[j]? = some x ∧ x.pc ≠ .done ∧ x.conn = call.conn ∧
    x.target = call.id

/-- What holds of every call holds of the call in every place. -/
theorem forall_calls {P : AppCall F → Prop} :
    (∀ call ∈ n.calls, P call) ↔ ∀ (t : Nat) call, n.calls[t]? = some call → P call := by
  refine ⟨fun h t call hcall => h call (List.mem_of_getElem? hcall), fun h call hcall => ?_⟩
  obtain ⟨t, ht⟩ := List.mem_iff_getElem?.mp hcall
  exact h t call ht

instance (n : Net F) : Decidable n.Quiet :=
  decidable_of_iff (∀ call ∈ n.calls, call.pc ≠ .calling ∧ call.pc ≠ .opened ∧
    call.phase ≠ .requested) forall_calls

instance (n : Net F) (call : AppCall F) : Decidable (n.Cancelling call) :=
  decidable_of_iff (∃ x ∈ n.cancels, x.pc ≠ .done ∧ x.conn = call.conn ∧ x.target = call.id) (by
    simp only [Cancelling, List.mem_iff_getElem?]
    constructor
    · rintro ⟨x, ⟨j, hx⟩, hrest⟩
      exact ⟨j, x, hx, hrest⟩
    · rintro ⟨j, x, hx, hrest⟩
      exact ⟨x, ⟨j, hx⟩, hrest⟩)

/-- Whatever runs is being cancelled. -/
def Covered (n : Net F) : Prop :=
  ∀ (t : Nat) call, n.calls[t]? = some call → call.phase = .active → n.Cancelling call

/-- One step starts nothing. -/
theorem Effect.quiet (h : Effect valid n a n') (hq : n.Quiet) : n'.Quiet := by
  intro t call' hcall'
  obtain ⟨call, hcall, hlater⟩ := h.call_of hcall'
  obtain ⟨hcalling, hopened, hrequested⟩ := hq t call hcall
  refine ⟨fun hpc => ?_, fun hpc => ?_, fun hphase => ?_⟩
  · rcases hlater.pc with he | he | ⟨-, he⟩ | ⟨-, he⟩ <;> rw [hpc] at he
    · exact hcalling he.symm
    all_goals cases he
  · rcases hlater.pc with he | he | ⟨hc, -⟩ | ⟨-, he⟩
    · rw [hpc] at he; exact hopened he.symm
    · rw [hpc] at he; cases he
    · exact hcalling hc
    · rw [hpc] at he; cases he
  · rcases hlater.phase with ⟨he, -⟩ | he | ⟨-, he⟩ | ⟨hc, -⟩
    · rw [hphase] at he; exact hrequested he.symm
    · rw [hphase] at he; cases he
    · rw [hphase] at he; cases he
    · exact hcalling hc

/-- One step leaves nothing running that is not being cancelled. -/
theorem Effect.covered (h : Effect valid n a n') (hs : n.Sound) (hq : n.Quiet)
    (hc : n.Covered) : n'.Covered := by
  intro t call' hcall' hactive
  obtain ⟨call, hcall, hlater⟩ := h.call_of hcall'
  obtain ⟨hcalling, -, hrequested⟩ := hq t call hcall
  -- it ran before, under the same id
  obtain ⟨hphase, hid⟩ : call.phase = .active ∧ call'.id = call.id := by
    rcases hlater.phase with ⟨he, hid⟩ | he | ⟨he, -⟩ | ⟨he, -⟩
    · exact ⟨he ▸ hactive, hid⟩
    · rw [hactive] at he; cases he
    · exact absurd he hrequested
    · exact absurd he hcalling
  obtain ⟨j, x, hx, hpc, hconn, htarget⟩ := hc t call hcall hphase
  obtain ⟨x', hx', hconn', htarget'⟩ := h.cancel_next hx
  refine ⟨j, x', hx', fun hdone => ?_, ?_, ?_⟩
  · have hwire : ∀ c conn, n.conns[c]? = some conn → .cancel j ∈ conn.wire → x.conn = c := by
      intro c conn hconn hj
      obtain ⟨x₁, hx₁, hc₁⟩ := hs.wires c conn hconn j hj
      rw [hx, Option.some.injEq] at hx₁
      subst hx₁
      exact hc₁
    have hrun : call'.conn = x.conn := hlater.conn_eq.trans hconn.symm
    rcases h.cancel_done hx hx' hpc hdone hwire with ⟨conn, hget, hwhy⟩ | ⟨-, hnone⟩
    · rcases hwhy with hlost | ⟨hunsent, hshut⟩
      · -- the connection is gone, and the stream with it
        have hsettled := (hs.lost x.conn conn hget hlost).effect h hget hlost
        rcases hsettled t call' hcall' hrun with he | he <;> rw [hactive] at he <;> cases he
      · obtain ⟨conn₀, hconn₀, hlost | ⟨-, hopen⟩ | ⟨hsent, -⟩⟩ := hs.cancels j x hx hpc
        · have hsettled := (hs.lost x.conn conn₀ hconn₀ hlost).effect h hconn₀ hlost
          rcases hsettled t call' hcall' hrun with he | he <;> rw [hactive] at he <;> cases he
        · rw [hget, Option.some.injEq] at hconn₀
          subst hconn₀
          rw [hshut] at hopen; cases hopen
        · rw [hunsent] at hsent; cases hsent
    · exact hnone t call' hcall' hrun (hid.trans htarget.symm) hactive
  · rw [hconn', hconn, hlater.conn_eq]
  · rw [htarget', htarget, hid]

/-! ### What a screen does -/

theorem Sound.spawn (hs : n.Sound) (c : Nat) : (n.spawn c).Sound where
  lost d conn hconn hlost t call hcall hd := by
    rcases Runs.push_cases hcall with hold | ⟨-, rfl⟩
    · exact hs.lost d conn hconn hlost t call hold hd
    · exact .inl rfl
  cancels := hs.cancels
  wires := hs.wires

/-- A cancel on a connection that still takes writes. -/
theorem Sound.spawnCancel (hs : n.Sound) {c target : Nat} {conn : Conn}
    (hconn : n.conns[c]? = some conn) (hopen : conn.shut = false) :
    (n.spawnCancel c target).Sound where
  lost := hs.lost
  cancels j x hx hpc := by
    rcases Runs.push_cases hx with hold | ⟨-, rfl⟩
    · exact hs.cancels j x hold hpc
    · exact ⟨conn, hconn, .inr (.inl ⟨rfl, hopen⟩)⟩
  wires d conn' hconn' j hj := by
    obtain ⟨x, hx, hc⟩ := hs.wires d conn' hconn' j hj
    exact ⟨x, Runs.getElem?_push hx, hc⟩

theorem Sound.connect (hs : n.Sound) : n.connect.Sound where
  lost c conn hconn hlost := by
    rcases Runs.push_cases hconn with hold | ⟨-, rfl⟩
    · exact hs.lost c conn hold hlost
    · cases hlost
  cancels j x hx hpc := by
    obtain ⟨conn, hconn, hrest⟩ := hs.cancels j x hx hpc
    exact ⟨conn, Runs.getElem?_push hconn, hrest⟩
  wires c conn hconn j hj := by
    rcases Runs.push_cases hconn with hold | ⟨-, rfl⟩
    · exact hs.wires c conn hold j hj
    · cases hj

/-- A connection that is closing is otherwise what it was. -/
theorem disconnect_conn {c d : Nat} {conn' : Conn} (h : (n.disconnect c).conns[d]? = some conn') :
    ∃ conn, n.conns[d]? = some conn ∧ conn'.lost = conn.lost ∧ conn'.shut = conn.shut ∧
      conn'.wire = conn.wire := by
  simp only [disconnect, List.getElem?_modify] at h
  obtain ⟨conn, hconn, rfl⟩ := Option.map_eq_some_iff.mp h
  refine ⟨conn, hconn, ?_⟩
  split <;> exact ⟨rfl, rfl, rfl⟩

theorem Sound.disconnect (hs : n.Sound) (c : Nat) : (n.disconnect c).Sound where
  lost d conn' hconn' hlost := by
    obtain ⟨conn, hconn, he, -⟩ := disconnect_conn hconn'
    exact hs.lost d conn hconn (he ▸ hlost)
  cancels j x hx hpc := by
    obtain ⟨conn, hconn, hrest⟩ := hs.cancels j x hx hpc
    obtain ⟨conn', hconn', hlost, hshut, hwire⟩ :=
      Runs.exists_next (by simp [Net.disconnect]) (fun _ => disconnect_conn (c := c)) hconn
    exact ⟨conn', hconn', by rw [hlost, hshut, hwire]; exact hrest⟩
  wires d conn' hconn' j hj := by
    obtain ⟨conn, hconn, -, -, hwire⟩ := disconnect_conn hconn'
    exact hs.wires d conn hconn j (hwire ▸ hj)

/-- Spawning a cancel keeps the streams that were being cancelled covered, and covers its
    target. -/
theorem covered_spawnCancel {c target : Nat}
    (h : ∀ (t : Nat) call, n.calls[t]? = some call → call.phase = .active →
      (call.conn = c ∧ call.id = target) ∨ n.Cancelling call) :
    (n.spawnCancel c target).Covered := by
  intro t call hcall hactive
  rcases h t call hcall hactive with ⟨rfl, rfl⟩ | ⟨j, x, hx, hpc, hrest⟩
  · exact ⟨n.cancels.length, _, List.getElem?_concat_length, by simp, rfl, rfl⟩
  · exact ⟨j, x, Runs.getElem?_push hx, hpc, hrest⟩

end Netdiag.App.Net
