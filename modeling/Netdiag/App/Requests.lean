import Netdiag.App.Cancels

namespace Netdiag.App.Net

/-!
# App — a cancel behind its request

A stream may be cancelled before the session has read its request: the client writes in order, so
the session finds the request first and the `Cancel` after it.

* `Move` — what a step can do to a task and its stream, together; `InStep` — what that leaves
  between the two.
* `Requests` — a request that was written and not read is on the wire.
* `Doomed` — a stream that was asked for and has a cancel behind its request; it does not outlive
  that cancel.
-/

variable {F : Type} {valid : List F → F → Bool} {n n' : Net F} {a : Action F}

/-! ### A task and its stream -/

/-- What a step can do to the call of task `t`, its frames apart. -/
inductive Move (a : Action F) (t : Nat) (call call' : AppCall F) : Prop
  /-- The task stays where it is. -/
  | carried (hconn : call'.conn = call.conn) (hid : call'.id = call.id) (hpc : call'.pc = call.pc)
      (hphase : call'.phase = call.phase ∨ (call.phase ≠ .unsent ∧ call'.phase = .over) ∨
        (call.phase = .requested ∧ call'.phase = .active))
      (hclosed : call'.closed = true → call.closed = true ∨ call'.phase = .over)
  | opened (ha : a = .open t true) (hpc : call.pc = .calling) (hpc' : call'.pc = .opened)
      (hphase : call'.phase = .requested) (hclosed : call'.closed = call.closed)
  | refused (ok : Bool) (ha : a = .open t ok) (hpc : call.pc = .calling)
      (hpc' : call'.pc = .returned) (hphase : call'.phase = .over)
  | stored (ha : a = .store t) (hpc : call.pc = .opened)
      (hcall : call' = { call with pc := .receiving })
  | drained (ha : a = .recv t) (hpc : call.pc = .receiving) (hinbox : call.inbox = [])
      (hclosed : call.closed = true) (hcall : call' = { call with pc := .returned })

/-- A call nothing happened to. -/
theorem Move.refl (t : Nat) (call : AppCall F) : Move a t call call :=
  .carried rfl rfl rfl (.inl rfl) .inl

/-- Where one call is replaced, each call was there before. -/
theorem Move.of_set {t u : Nat} {old new call' : AppCall F} (hold : n.calls[u]? = some old)
    (hget : (n.calls.set u new)[t]? = some call') (hmove : Move a u old new) :
    ∃ call, n.calls[t]? = some call ∧ Move a t call call' := by
  rcases Runs.set_cases hold hget with ⟨rfl, rfl⟩ | ⟨-, hget⟩
  · exact ⟨old, hold, hmove⟩
  · exact ⟨call', hget, .refl t call'⟩

/-- Where every call is changed, each call was there before. -/
theorem Move.of_map {t : Nat} {call' : AppCall F} {g : AppCall F → AppCall F}
    (hget : (n.calls.map g)[t]? = some call') (hmove : ∀ call, Move a t call (g call)) :
    ∃ call, n.calls[t]? = some call ∧ Move a t call call' := by
  rw [List.getElem?_map] at hget
  obtain ⟨call, hcall, rfl⟩ := Option.map_eq_some_iff.mp hget
  exact ⟨call, hcall, hmove call⟩

/-- A call that gets or does not get its id. -/
theorem move_register (t : Nat) (call : AppCall F) (ok : Bool) :
    Move a t call (call.register ok) := by
  unfold AppCall.register
  split
  · rename_i hphase
    refine .carried rfl rfl rfl (.inr ?_) .inl
    cases ok
    · exact .inl ⟨by rw [hphase]; decide, rfl⟩
    · exact .inr ⟨hphase, rfl⟩
  · exact .refl t call

/-- A call whose task is to be cancelled. -/
theorem move_cancel (t : Nat) (call : AppCall F) (c target : Nat) :
    Move a t call (call.cancel c target) := by
  unfold AppCall.cancel
  split
  · rename_i hactive
    exact .carried rfl rfl rfl (.inr (.inl ⟨by rw [hactive.2.2]; decide, rfl⟩)) .inl
  · exact .refl t call

/-- A call whose connection is shut. -/
theorem move_tearDown (t : Nat) (call : AppCall F) (c : Nat) : Move a t call (call.tearDown c) := by
  unfold AppCall.tearDown
  split
  · rename_i hsent
    exact .carried rfl rfl rfl (.inr (.inl ⟨hsent.2, rfl⟩)) .inl
  · exact .refl t call

/-- A task returns from `recv` when the channel has closed. -/
theorem closed_of_recv {t : Nat} {call : AppCall F} (h : n.step valid (.recv t) = some n')
    (hcall : n.calls[t]? = some call) (hinbox : call.inbox = []) : call.closed = true := by
  simp only [step, hcall, hinbox] at h
  split at h
  · split at h
    · assumption
    · cases h
  · cases h

/-- Every call was there before, and moved as its task did. -/
theorem step_move (h : n.step valid a = some n') {t : Nat} {call' : AppCall F}
    (hcall' : n'.calls[t]? = some call') :
    ∃ call, n.calls[t]? = some call ∧ Move a t call call' := by
  cases step_effect h with
  | counted | shut | sent | gaveUp => exact ⟨call', hcall', .refl t call'⟩
  | opened u old conn hold hpc => exact Move.of_set hold hcall' (.opened rfl hpc rfl rfl rfl)
  | refused u ok old hold hpc => exact Move.of_set hold hcall' (.refused ok rfl hpc rfl rfl)
  | stored u old hold hpc => exact Move.of_set hold hcall' (.stored rfl hpc rfl)
  | received u old f rest hold | framed u f old hold =>
    exact Move.of_set hold hcall' (.carried rfl rfl rfl (.inl rfl) .inl)
  | drained u old hold hpc hinbox =>
    exact Move.of_set hold hcall' (.drained rfl hpc hinbox (closed_of_recv h hold hinbox) rfl)
  | finished u old hold hphase =>
    exact Move.of_set hold hcall'
      (.carried rfl rfl rfl (.inr (.inl ⟨by rw [hphase]; decide, rfl⟩)) .inl)
  -- The daemon closes a call once it is over.
  | closed u old hold hphase =>
    exact Move.of_set hold hcall' (.carried rfl rfl rfl (.inl rfl) (fun _ => .inr hphase))
  | admitted c ok conn u rest hconn hwire =>
    have hget : (n.calls.modify u (fun call => call.register ok))[t]? = some call' := hcall'
    rw [List.getElem?_modify] at hget
    obtain ⟨call, hcall, rfl⟩ := Option.map_eq_some_iff.mp hget
    refine ⟨call, hcall, ?_⟩
    split
    · exact move_register t call ok
    · exact .refl t call
  | cancelled c ok conn j x rest => exact Move.of_map hcall' (fun call => move_cancel t call c _)
  | hungUp a c conn rest => exact Move.of_map hcall' (fun call => move_tearDown t call c)

/-- The task a step is one of. -/
def Action.task : Action F → Option Nat
  | .open t _ | .store t | .recv t => some t
  | _ => none

/-- Only a task that has not returned takes a step. -/
theorem step_task (h : n.step valid a = some n') {t : Nat} (ht : a.task = some t) :
    ∃ call, n.calls[t]? = some call ∧ call.pc ≠ .returned := by
  cases step_effect h with
  | opened u call conn hcall hpc | refused u ok call hcall hpc | stored u call hcall hpc
  | received u call f rest hcall hpc | drained u call hcall hpc =>
    cases ht
    exact ⟨call, hcall, by rw [hpc]; decide⟩
  | gaveUp a j x conn hx hconn hwhy ha => rcases ha with rfl | rfl <;> cases ht
  | hungUp a c conn rest hconn hrest ha => rcases ha with ⟨ok, rfl⟩ | rfl <;> cases ht
  | counted | sent | shut | admitted | cancelled | framed | finished | closed => cases ht

/-- A task and its stream are in step. -/
structure InStep (call : AppCall F) : Prop where
  fresh : call.pc = .calling → call.phase = .unsent
  begun : call.pc = .opened ∨ call.pc = .receiving → call.phase ≠ .unsent
  ended : call.closed = true ∨ call.pc = .returned → call.phase = .over

/-- A new call has asked for nothing. -/
theorem inStep_new (c : Nat) : InStep (AppCall.new c : AppCall F) where
  fresh _ := rfl
  begun h := by rcases h with h | h <;> cases h
  ended h := by rcases h with h | h <;> cases h

/-- A call that is in step stays in step. -/
theorem Move.inStep {t : Nat} {call call' : AppCall F} (h : Move a t call call')
    (hs : InStep call) : InStep call' := by
  cases h with
  | carried hconn hid hpc hphase hclosed =>
    constructor
    · intro hcalling
      have hunsent := hs.fresh (hpc ▸ hcalling)
      rcases hphase with he | ⟨hne, -⟩ | ⟨hreq, -⟩
      · rw [he, hunsent]
      · exact absurd hunsent hne
      · rw [hunsent] at hreq; cases hreq
    · intro hbegun
      have hne := hs.begun (hpc ▸ hbegun)
      rcases hphase with he | ⟨-, he⟩ | ⟨-, he⟩ <;> rw [he]
      · exact hne
      all_goals decide
    · intro hended
      have hold : call'.phase = .over ∨ call.phase = .over := by
        rcases hended with hc | hr
        · rcases hclosed hc with hc | hover
          · exact .inr (hs.ended (.inl hc))
          · exact .inl hover
        · exact .inr (hs.ended (.inr (hpc ▸ hr)))
      rcases hold with hover | hover
      · exact hover
      · rcases hphase with he | ⟨-, he⟩ | ⟨hreq, -⟩
        · rw [he, hover]
        · exact he
        · rw [hover] at hreq; cases hreq
  | opened ha hpc hpc' hphase hclosed =>
    refine ⟨fun hc => ?_, fun _ => by rw [hphase]; decide, fun hended => ?_⟩
    · rw [hpc'] at hc; cases hc
    · rcases hended with hc | hr
      · -- a stream that was not asked for has not ended
        have hover := hs.ended (.inl (hclosed ▸ hc))
        rw [hs.fresh hpc] at hover; cases hover
      · rw [hpc'] at hr; cases hr
  | refused ok ha hpc hpc' hphase =>
    refine ⟨fun hc => ?_, fun hb => ?_, fun _ => hphase⟩
    · rw [hpc'] at hc; cases hc
    · rw [hpc'] at hb; rcases hb with hb | hb <;> cases hb
  | stored ha hpc hcall =>
    subst hcall
    refine ⟨(fun hc => by cases hc), fun _ => hs.begun (.inl hpc), fun hended => ?_⟩
    rcases hended with hc | hr
    · exact hs.ended (.inl hc)
    · cases hr
  | drained ha hpc hinbox hclosed hcall =>
    subst hcall
    refine ⟨(fun hc => by cases hc), fun hb => ?_, fun _ => hs.ended (.inl hclosed)⟩
    rcases hb with hb | hb <;> cases hb

/-- A task that has returned does nothing more. -/
theorem Move.returned {t : Nat} {call call' : AppCall F} (h : Move a t call call')
    (hpc : call.pc = .returned) : call'.pc = .returned := by
  cases h with
  | carried _ _ hsame => rw [hsame, hpc]
  | opened _ h => rw [hpc] at h; cases h
  | refused _ _ h => rw [hpc] at h; cases h
  | stored _ h => rw [hpc] at h; cases h
  | drained _ h => rw [hpc] at h; cases h

/-- A stream that has been asked for and still runs ran before, under the same id. -/
theorem Move.running {t : Nat} {call call' : AppCall F} (h : Move a t call call')
    (hpc : call.pc = .receiving) (hrun : call'.phase = .requested ∨ call'.phase = .active) :
    call'.conn = call.conn ∧ call'.id = call.id ∧
      (call.phase = .requested ∨ call.phase = .active) ∧
      (call'.phase = .requested → call.phase = .requested) := by
  cases h with
  | carried hconn hid _ hphase =>
    refine ⟨hconn, hid, ?_⟩
    rcases hphase with he | ⟨-, he⟩ | ⟨hreq, he⟩
    · rw [← he]
      exact ⟨hrun, id⟩
    · rw [he] at hrun
      rcases hrun with h | h <;> cases h
    · exact ⟨.inl hreq, fun _ => hreq⟩
  | opened _ h => rw [hpc] at h; cases h
  | refused _ _ h => rw [hpc] at h; cases h
  | stored _ h => rw [hpc] at h; cases h
  | drained _ _ _ _ hcall =>
    subst hcall
    exact ⟨rfl, rfl, hrun, id⟩

/-! ### The wire -/

/-- A request that is not read yet is on the wire. -/
def Requests (n : Net F) : Prop :=
  ∀ (t : Nat) call, n.calls[t]? = some call → call.phase = .requested →
    ∃ conn, n.conns[call.conn]? = some conn ∧ .start t ∈ conn.wire

/-- A request stays on the wire until it is read or the session is gone. -/
theorem Effect.start_next (h : Effect valid n a n') {c t : Nat} {conn : Conn}
    (hconn : n.conns[c]? = some conn) (hstart : .start t ∈ conn.wire) :
    (∃ conn', n'.conns[c]? = some conn' ∧ .start t ∈ conn'.wire) ∨
      ∀ call', n'.calls[t]? = some call' → call'.conn = c → call'.phase ≠ .requested := by
  let HasStart (conn : Conn) : Prop := .start t ∈ conn.wire
  cases h with
  | counted d old hold => exact .inl (Runs.exists_set HasStart hold hconn hstart id)
  | opened u call old hcall hpc hold | sent k x old hx hpc hold | shut d old hold =>
    exact .inl (Runs.exists_set HasStart hold hconn hstart (List.mem_append_left _))
  -- The session reads the first frame: this start, or one before it.
  | admitted d ok old u rest hold hwire =>
    by_cases hut : u = t
    · subst hut
      refine .inr fun call' hcall' _ => ?_
      have hget : (n.calls.modify u (fun call => call.register ok))[u]? = some call' := hcall'
      rw [List.getElem?_modify_eq] at hget
      obtain ⟨call, -, rfl⟩ := Option.map_eq_some_iff.mp hget
      unfold AppCall.register
      split
      · cases ok <;> simp
      · assumption
    · refine .inl (Runs.exists_set HasStart hold hconn hstart fun hin => ?_)
      have hne : Written.start t ≠ .start u := by
        intro he
        cases he
        exact hut rfl
      exact (List.mem_cons.mp (hwire ▸ hin)).resolve_left hne
  | cancelled d ok old k x rest hold hwire =>
    refine .inl (Runs.exists_set HasStart hold hconn hstart fun hin => ?_)
    have hin : Written.start t ∈ old.wire := hin
    rw [hwire] at hin
    exact (List.mem_cons.mp hin).resolve_left (by intro he; cases he)
  -- A connection that hangs up takes its calls down with it.
  | hungUp a d old rest hold =>
    by_cases hdc : d = c
    · subst hdc
      refine .inr fun call' hcall' hc => ?_
      have hget : (n.calls.map (fun call => call.tearDown d))[t]? = some call' := hcall'
      rw [List.getElem?_map] at hget
      obtain ⟨call, -, rfl⟩ := Option.map_eq_some_iff.mp hget
      unfold AppCall.tearDown at hc ⊢
      split
      · simp
      · rename_i hkept
        rw [if_neg hkept] at hc
        intro hreq
        exact hkept ⟨hc, by rw [hreq]; decide⟩
    · exact .inl ⟨conn, (List.getElem?_set_ne hdc).trans hconn, hstart⟩
  | refused | stored | received | drained | gaveUp | framed | finished | closed =>
    exact .inl ⟨conn, hconn, hstart⟩

/-- What `client.stream` returning can do. -/
theorem open_cases {t : Nat} {ok : Bool} (h : n.step valid (.open t ok) = some n') :
    ∃ call, n.calls[t]? = some call ∧ call.pc = .calling ∧
      ((∃ conn, n.conns[call.conn]? = some conn ∧
          n' = (n.setConn call.conn { conn with nextId := conn.nextId + 1
                                                wire := conn.wire ++ [.start t] }).setCall t
            { call with id := conn.nextId, pc := .opened, phase := .requested }) ∨
        n' = n.setCall t { call with pc := .returned, phase := .over }) := by
  cases step_effect h with
  | opened t call conn hcall hpc hconn => exact ⟨call, hcall, hpc, .inl ⟨conn, hconn, rfl⟩⟩
  | refused t ok call hcall hpc => exact ⟨call, hcall, hpc, .inr rfl⟩
  | gaveUp a j x conn hx hconn hwhy ha => rcases ha with ha | ha <;> cases ha
  | hungUp a c conn rest hconn hrest ha => rcases ha with ⟨ok, ha⟩ | ha <;> cases ha

/-- Every step keeps the requests on the wires accounted for. -/
theorem step_requests (h : n.step valid a = some n') (hr : n.Requests) : n'.Requests := by
  intro t call' hcall' hreq
  obtain ⟨call, hcall, hmove⟩ := step_move h hcall'
  -- the request was on the wire, and has not been read
  have hkept (hphase : call.phase = .requested) (hc : call'.conn = call.conn) :
      ∃ conn, n'.conns[call'.conn]? = some conn ∧ .start t ∈ conn.wire := by
    obtain ⟨conn, hconn, hstart⟩ := hr t call hcall hphase
    rcases (step_effect h).start_next hconn hstart with hnext | hread
    · rw [hc]
      exact hnext
    · exact absurd hreq (hread call' hcall' hc)
  cases hmove with
  | carried hconn hid hpc hphase =>
    rcases hphase with he | ⟨-, he⟩ | ⟨hphase, -⟩
    · exact hkept (he ▸ hreq) hconn
    · rw [hreq] at he; cases he
    · exact hkept hphase hconn
  | opened ha hpc hpc' =>
    subst ha
    obtain ⟨old, hold, -, ⟨conn, hconn, rfl⟩ | rfl⟩ := open_cases h
    · rcases Runs.set_cases hold hcall' with ⟨-, rfl⟩ | ⟨hne, -⟩
      · have hlt := (List.getElem?_eq_some_iff.mp hconn).1
        exact ⟨_, List.getElem?_set_self hlt, List.mem_append_right _ List.mem_cons_self⟩
      · exact absurd rfl hne
    · rcases Runs.set_cases hold hcall' with ⟨-, rfl⟩ | ⟨hne, -⟩
      · cases hpc'
      · exact absurd rfl hne
  | refused ok ha hpc hpc' hphase => rw [hreq] at hphase; cases hphase
  | stored ha hpc he =>
    subst he
    exact hkept hreq rfl
  | drained ha hpc hinbox hclosed he =>
    subst he
    exact hkept hreq rfl

/-- On no connection that is up does the request of call `t` come behind cancel `j`. -/
def Follows (n : Net F) (j t : Nat) : Prop :=
  ∀ (c : Nat) conn, n.conns[c]? = some conn → conn.lost = false →
    ¬ [.cancel j, .start t].Sublist conn.wire

/-- An order of two that does not end with the new last one was there before. -/
theorem pair_sublist_concat {α : Type} {x y z : α} {l : List α} (h : [x, y].Sublist (l ++ [z]))
    (hne : y ≠ z) : [x, y].Sublist l := by
  obtain ⟨l₁, l₂, he, h₁, h₂⟩ := List.sublist_append_iff.mp h
  cases l₂ with
  | nil =>
    rw [List.append_nil] at he
    exact he ▸ h₁
  | cons w l₂ =>
    -- what is taken from the last element alone ends in it
    have hlen := h₂.length_le
    have hnil : l₂ = [] := by
      apply List.eq_nil_of_length_eq_zero
      simp only [List.length_cons, List.length_nil] at hlen
      omega
    subst hnil
    have hw : w = z := by simpa using h₂
    have hlast := congrArg List.getLast? he
    rw [List.getLast?_concat] at hlast
    simp at hlast
    exact absurd (hlast.trans hw) hne

/-- A step that leaves the lost connections lost, and adds no request of `t` to a wire. -/
theorem Follows.of_set {j t c : Nat} {old new : Conn} (hf : n.Follows j t)
    (hold : n.conns[c]? = some old) (hconns : n'.conns = n.conns.set c new)
    (hnew : new.lost = false → old.lost = false ∧
      ([.cancel j, .start t].Sublist new.wire → [.cancel j, .start t].Sublist old.wire)) :
    n'.Follows j t := by
  intro d conn hconn hup hsub
  rw [hconns] at hconn
  rcases Runs.set_cases hold hconn with ⟨rfl, rfl⟩ | ⟨-, hconn⟩
  · obtain ⟨hup, hback⟩ := hnew hup
    exact hf c old hold hup (hback hsub)
  · exact hf d conn hconn hup hsub

/-- What is written now comes last. -/
theorem Effect.follows (h : Effect valid n a n') {j t : Nat}
    (hpc : ∀ call, n.calls[t]? = some call → call.pc ≠ .calling) (hf : n.Follows j t) :
    n'.Follows j t := by
  cases h with
  | counted c old hold => exact hf.of_set hold rfl (fun hup => ⟨hup, id⟩)
  -- The start that is written is another call's.
  | opened u call old hcall hcalling hold =>
    refine hf.of_set hold rfl (fun hup => ⟨hup, fun hsub => pair_sublist_concat hsub ?_⟩)
    intro he
    cases he
    exact hpc call hcall hcalling
  | sent k x old hx hunsent hold =>
    exact hf.of_set hold rfl
      (fun hup => ⟨hup, fun hsub => pair_sublist_concat hsub (by intro he; cases he)⟩)
  | shut c old hold =>
    exact hf.of_set hold rfl
      (fun hup => ⟨hup, fun hsub => pair_sublist_concat hsub (by intro he; cases he)⟩)
  | admitted c ok old u rest hold hwire =>
    refine hf.of_set hold rfl (fun hup => ⟨hup, fun hsub => ?_⟩)
    rw [hwire]
    exact hsub.cons _
  | cancelled c ok old k x rest hold hwire =>
    refine hf.of_set hold rfl (fun hup => ⟨hup, fun hsub => ?_⟩)
    rw [hwire]
    exact hsub.cons _
  | hungUp a c old rest hold => exact hf.of_set hold rfl (fun hup => by cases hup)
  | refused | stored | received | drained | gaveUp | framed | finished | closed => exact hf

/-! ### No stream outlives a cancel behind its request -/

/-- The stream of call `t` is over, or has a cancel behind its request that has not returned. -/
def Doomed (n : Net F) (t : Nat) : Prop :=
  ∀ call, n.calls[t]? = some call → call.phase = .requested ∨ call.phase = .active →
    ∃ j x, n.cancels[j]? = some x ∧ x.pc ≠ .done ∧ x.conn = call.conn ∧ x.target = call.id ∧
      n.Follows j t

/-- The session of a stream that runs is there. -/
theorem Effect.not_lost (h : Effect valid n a n') (hs : n.Sound) {t : Nat} {call' : AppCall F}
    {conn : Conn} (hcall' : n'.calls[t]? = some call')
    (hrun : call'.phase = .requested ∨ call'.phase = .active)
    (hconn : n.conns[call'.conn]? = some conn) : conn.lost = false := by
  rw [Bool.eq_false_iff]
  intro hlost
  have hsettled := (hs.lost call'.conn conn hconn hlost).effect h hconn hlost
  have hover := hsettled t call' hcall' rfl
  rcases hrun with hrun | hrun <;> rw [hrun] at hover <;> simp at hover

/-- One step keeps `Doomed`. -/
theorem step_doomed (h : n.step valid a = some n') (hs : n.Sound) (hr : n.Requests) {t : Nat}
    (hpc : ∀ call, n.calls[t]? = some call → call.pc = .receiving) (hd : n.Doomed t) :
    n'.Doomed t := by
  have heffect := step_effect h
  intro call' hcall' hrun
  obtain ⟨call, hcall, hmove⟩ := step_move h hcall'
  obtain ⟨hc, hid, hold, hunread⟩ := hmove.running (hpc call hcall) hrun
  obtain ⟨j, x, hx, hpcx, hxc, hxt, hfollows⟩ := hd call hcall hold
  obtain ⟨x', hx', hxc', hxt'⟩ := heffect.cancel_next hx
  have hfollows' : n'.Follows j t := by
    refine heffect.follows (fun call hcall => ?_) hfollows
    rw [hpc call hcall]
    decide
  refine ⟨j, x', hx', fun hdone => ?_, by rw [hxc', hxc, hc], by rw [hxt', hxt, hid], hfollows'⟩
  have hwire : ∀ c conn, n.conns[c]? = some conn → .cancel j ∈ conn.wire → x.conn = c := by
    intro c conn hconn hj
    obtain ⟨x₁, hx₁, hc₁⟩ := hs.wires c conn hconn j hj
    rw [hx, Option.some.injEq] at hx₁
    subst hx₁
    exact hc₁
  have hup {conn : Conn} (hconn : n.conns[x.conn]? = some conn) : conn.lost = false :=
    heffect.not_lost hs hcall' hrun (by rw [hc, ← hxc]; exact hconn)
  rcases heffect.cancel_done hx hx' hpcx hdone hwire with
    ⟨conn, hconn, hlost | ⟨hunsent, hshut⟩⟩ | ⟨⟨conn, rest, hconn, hread⟩, hnone⟩
  · rw [hup hconn] at hlost; cases hlost
  · -- a cancel that is not written yet still can be
    obtain ⟨conn₀, hconn₀, hlost | ⟨-, hopen⟩ | ⟨hsent, -⟩⟩ := hs.cancels j x hx hpcx
    · rw [hup hconn₀] at hlost; cases hlost
    · rw [hconn, Option.some.injEq] at hconn₀
      rw [hconn₀, hopen] at hshut; cases hshut
    · rw [hunsent] at hsent; cases hsent
  · rcases hrun with hreq | hactive
    · -- the request would be behind the cancel that was read
      obtain ⟨conn₀, hconn₀, hstart⟩ := hr t call hcall (hunread hreq)
      rw [← hxc, hconn, Option.some.injEq] at hconn₀
      rw [← hconn₀, hread] at hstart
      have hbehind : Written.start t ∈ rest :=
        (List.mem_cons.mp hstart).resolve_left (by intro he; cases he)
      refine hfollows x.conn conn hconn (hup hconn) ?_
      rw [hread]
      exact (List.singleton_sublist.mpr hbehind).cons_cons _
    · exact hnone t call' hcall' (hc.trans hxc.symm) (hid.trans hxt.symm) hactive

/-! ### What a screen does -/

/-- What holds below a screen as long as no connection is shut down too early. -/
structure Tracked (n : Net F) : Prop where
  sound : n.Sound
  requests : n.Requests
  inStep : ∀ (t : Nat) call, n.calls[t]? = some call → InStep call

/-- At the start there is nothing to track. -/
theorem tracked_init : (init : Net F).Tracked where
  sound := sound_init
  requests t call h := by simp [init] at h
  inStep t call h := by simp [init] at h

/-- Every step keeps what holds below a screen, if no connection is shut too early. -/
theorem Tracked.step (ht : n.Tracked) (hok : n.ShutsAfter a) (h : n.step valid a = some n') :
    n'.Tracked where
  sound := (step_effect h).sound hok ht.sound
  requests := step_requests h ht.requests
  inStep t call' hcall' := by
    obtain ⟨call, hcall, hmove⟩ := step_move h hcall'
    exact hmove.inStep (ht.inStep t call hcall)

/-- A new task is on the connection it was given, with nothing asked for yet. -/
theorem Tracked.spawn (ht : n.Tracked) (c : Nat) : (n.spawn c).Tracked where
  sound := ht.sound.spawn c
  requests t call hcall hreq := by
    rcases Runs.push_cases hcall with hold | ⟨-, rfl⟩
    · exact ht.requests t call hold hreq
    · cases hreq
  inStep t call hcall := by
    rcases Runs.push_cases hcall with hold | ⟨-, rfl⟩
    · exact ht.inStep t call hold
    · exact inStep_new c

/-- A cancel may be spawned on a connection that is not shut. -/
theorem Tracked.spawnCancel (ht : n.Tracked) {c target : Nat} {conn : Conn}
    (hconn : n.conns[c]? = some conn) (hopen : conn.shut = false) :
    (n.spawnCancel c target).Tracked :=
  ⟨ht.sound.spawnCancel hconn hopen, ht.requests, ht.inStep⟩

/-- A new connection carries nothing yet. -/
theorem Tracked.connect (ht : n.Tracked) : n.connect.Tracked where
  sound := ht.sound.connect
  requests t call hcall hreq := by
    obtain ⟨conn, hconn, hstart⟩ := ht.requests t call hcall hreq
    exact ⟨conn, Runs.getElem?_push hconn, hstart⟩
  inStep := ht.inStep

/-- A disconnect does not touch the calls. -/
theorem Tracked.disconnect (ht : n.Tracked) (c : Nat) : (n.disconnect c).Tracked where
  sound := ht.sound.disconnect c
  requests t call hcall hreq := by
    obtain ⟨conn, hconn, hstart⟩ := ht.requests t call hcall hreq
    obtain ⟨conn', hconn', -, -, hwire⟩ :=
      Runs.exists_next (by simp [Net.disconnect]) (fun _ => disconnect_conn (c := c)) hconn
    exact ⟨conn', hconn', hwire ▸ hstart⟩
  inStep := ht.inStep

/-- A cancel of the stream of call `t`, once that has an id, comes behind its request. -/
theorem Tracked.doomed_spawnCancel (ht : n.Tracked) {c t target : Nat}
    (hcall : ∀ call, n.calls[t]? = some call → call.phase = .requested ∨ call.phase = .active →
      call.conn = c ∧ call.id = target) : (n.spawnCancel c target).Doomed t := by
  intro call hget hrun
  obtain ⟨rfl, rfl⟩ := hcall call hget hrun
  refine ⟨n.cancels.length, _, List.getElem?_concat_length, by simp, rfl, rfl, ?_⟩
  intro d conn hconn hup hsub
  -- a cancel that is just spawned is on no wire
  obtain ⟨x, hx, -⟩ := ht.sound.wires d conn hconn n.cancels.length
    (hsub.subset List.mem_cons_self)
  rw [List.getElem?_eq_none (Nat.le_refl _)] at hx
  cases hx

/-- A new connection does not save a doomed stream. -/
theorem Doomed.connect {t : Nat} (hd : n.Doomed t) : n.connect.Doomed t := by
  intro call hcall hrun
  obtain ⟨j, x, hx, hpc, hc, ht, hf⟩ := hd call hcall hrun
  refine ⟨j, x, hx, hpc, hc, ht, fun d conn hconn hup hsub => ?_⟩
  rcases Runs.push_cases hconn with hold | ⟨-, rfl⟩
  · exact hf d conn hold hup hsub
  · cases hsub

/-- Nor does a disconnect. -/
theorem Doomed.disconnect {t : Nat} (hd : n.Doomed t) (c : Nat) : (n.disconnect c).Doomed t := by
  intro call hcall hrun
  obtain ⟨j, x, hx, hpc, hc, ht, hf⟩ := hd call hcall hrun
  refine ⟨j, x, hx, hpc, hc, ht, fun d conn' hconn' hup hsub => ?_⟩
  obtain ⟨conn, hconn, hlost, -, hwire⟩ := disconnect_conn hconn'
  exact hf d conn hconn (hlost ▸ hup) (hwire ▸ hsub)

end Netdiag.App.Net
