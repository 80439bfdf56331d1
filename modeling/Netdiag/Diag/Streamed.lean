import Netdiag.Diag.Engine
import Netdiag.Ipc.Session

namespace Netdiag.Diag

/-!
# Diagnosis — the streamed run

`Daemon::diagnose_stream` of `daemon/src/daemon.rs`, with the checks it carries: `diag::run`
pushes each check into a channel of 64 slots with `try_send`, a forwarder task turns them into
frames, and the final response follows once the forwarder is joined.

* `DiagnoseStream` / `DiagnoseStream.step` — the three parties, one await at a time.
* `Accounted` — the invariant: frames, the forwarder's hand and the channel hold the checks
  made so far, in order.
* `DiagnoseStream.advances` — a stream that has not ended can go on, and comes closer to its end.
* `diagnose_complete` — which checks a run makes, and what its client gets of them.
* `DiagnoseStream.toTask` — the stream as the session keeps it, which only counts checks.
-/

open Netdiag.Ipc (checkChannelDepth)

/-! ### The stream -/

/-- `DiagnoseProgress`: the payload of a frame. -/
inductive DiagnoseProgress
  | check (c : Check)
  | response (r : DiagnoseResponse)
  deriving DecidableEq, Repr

/-- Where `diagnose_stream` stands. -/
inductive StreamBody
  /-- In `diag::run`, with the checks it has pushed and those it will push. -/
  | running (made todo : List Check)
  /-- `forwarder.await`. -/
  | joining (response : DiagnoseResponse)
  /-- Replying with the response. -/
  | responding (response : DiagnoseResponse) (checksSent : Nat)
  /-- `StreamOutcome::done`. -/
  | done (itemsSent : Nat)
  deriving DecidableEq, Repr

/-- A `Diagnose` stream.  `holding` is the check the forwarder has received and not yet
    replied, `finished` says that it has returned, `frames` are the replies. -/
structure DiagnoseStream where
  body : StreamBody
  channel : List Check
  holding : Option Check
  sent : Nat
  txOpen : Bool
  finished : Bool
  frames : List DiagnoseProgress
  deriving DecidableEq, Repr

namespace DiagnoseStream

/-- The stream of a run that will make these checks. -/
def start (checks : List Check) : DiagnoseStream :=
  { body := .running [] checks, channel := [], holding := none, sent := 0, txOpen := true,
    finished := false, frames := [] }

/-- Who moves.  `ok` is what `responder.reply` returns. -/
inductive Act
  /-- `push` of the next check. -/
  | push
  /-- `diag::run` returns, and drops its sender. -/
  | return_
  /-- The forwarder's `rx.recv().await` returns a check. -/
  | recv
  /-- The forwarder replies with the check it holds. -/
  | reply (ok : Bool)
  /-- The forwarder finds the channel closed and empty. -/
  | exit
  /-- `forwarder.await` returns. -/
  | join
  /-- The final reply. -/
  | respond (ok : Bool)
  deriving DecidableEq, Repr

/-- One step of the stream over a gathered state. -/
def step (state : DiagState) (s : DiagnoseStream) : Act → Option DiagnoseStream
  | .push =>
    match s.body with
    | .running made (c :: todo) =>
      -- `try_send`: a full channel, or a forwarder that gave up, loses the check.
      let channel :=
        if s.finished || checkChannelDepth ≤ s.channel.length then s.channel
        else s.channel ++ [c]
      some { s with body := .running (made ++ [c]) todo, channel }
    | _ => none
  | .return_ =>
    match s.body with
    | .running made [] =>
      some { s with body := .joining (finish made (evaluate made state)), txOpen := false }
    | _ => none
  | .recv =>
    if s.finished then none
    else
      match s.holding, s.channel with
      | none, c :: rest => some { s with holding := some c, channel := rest }
      | _, _ => none
  | .reply ok =>
    if s.finished then none
    else
      match s.holding with
      | none => none
      | some c =>
        if ok then
          some { s with holding := none, sent := s.sent + 1, frames := s.frames ++ [.check c] }
        else some { s with holding := none, finished := true }
  | .exit =>
    if s.finished = false ∧ s.holding = none ∧ s.channel = [] ∧ s.txOpen = false then
      some { s with finished := true }
    else none
  | .join =>
    match s.body with
    | .joining response =>
      if s.finished then some { s with body := .responding response s.sent } else none
    | _ => none
  | .respond ok =>
    match s.body with
    | .responding response checksSent =>
      some { s with
        body := .done (checksSent + 1)
        frames := if ok then s.frames ++ [.response response] else s.frames }
    | _ => none

/-- The client keeps reading: no reply is lost. -/
def Delivered (_ : DiagnoseStream) : Act → Prop
  | .reply ok => ok = true
  | .respond ok => ok = true
  | _ => True

instance (s : DiagnoseStream) (a : Act) : Decidable (s.Delivered a) := by
  unfold Delivered
  split <;> infer_instance

/-- What a step does, with what it needs. -/
inductive Move (state : DiagState) (s : DiagnoseStream) : Act → DiagnoseStream → Prop
  | push (made todo : List Check) (c : Check) (hb : s.body = .running made (c :: todo)) :
      Move state s .push
        { s with
          body := .running (made ++ [c]) todo
          channel :=
            if s.finished || checkChannelDepth ≤ s.channel.length then s.channel
            else s.channel ++ [c] }
  | return_ (made : List Check) (hb : s.body = .running made []) :
      Move state s .return_
        { s with body := .joining (finish made (evaluate made state)), txOpen := false }
  | recv (c : Check) (rest : List Check) (hf : s.finished = false) (hh : s.holding = none)
      (hc : s.channel = c :: rest) :
      Move state s .recv { s with holding := some c, channel := rest }
  | reply (c : Check) (hf : s.finished = false) (hh : s.holding = some c) :
      Move state s (.reply true)
        { s with holding := none, sent := s.sent + 1, frames := s.frames ++ [.check c] }
  | lost (c : Check) (hf : s.finished = false) (hh : s.holding = some c) :
      Move state s (.reply false) { s with holding := none, finished := true }
  | exit (hf : s.finished = false) (hh : s.holding = none) (hc : s.channel = [])
      (ht : s.txOpen = false) :
      Move state s .exit { s with finished := true }
  | join (response : DiagnoseResponse) (hb : s.body = .joining response)
      (hf : s.finished = true) :
      Move state s .join { s with body := .responding response s.sent }
  | respond (response : DiagnoseResponse) (checksSent : Nat) (ok : Bool)
      (hb : s.body = .responding response checksSent) :
      Move state s (.respond ok)
        { s with
          body := .done (checksSent + 1)
          frames := if ok then s.frames ++ [.response response] else s.frames }

variable {state : DiagState} {checks : List Check} {s s' : DiagnoseStream} {a : Act}

/-- **Inversion of `step`.** -/
theorem move_of_step (h : s.step state a = some s') : Move state s a s' := by
  cases a with
  | push =>
    simp only [step] at h
    split at h
    · rename_i made c todo hb
      cases h
      exact .push made todo c hb
    · cases h
  | return_ =>
    simp only [step] at h
    split at h
    · rename_i made hb
      cases h
      exact .return_ made hb
    · cases h
  | recv =>
    simp only [step] at h
    split_ifs at h with hf
    split at h
    · rename_i c rest hh hc
      cases h
      exact .recv c rest (by simpa using hf) hh hc
    · cases h
  -- A reply to a client that is gone closes the channel.
  | reply ok =>
    cases ok with
    | true =>
      simp only [step, if_true] at h
      split_ifs at h with hf
      split at h
      · cases h
      · rename_i c hh
        cases h
        exact .reply c (by simpa using hf) hh
    | false =>
      simp only [step, Bool.false_eq_true, if_false] at h
      split_ifs at h with hf
      split at h
      · cases h
      · rename_i c hh
        cases h
        exact .lost c (by simpa using hf) hh
  -- The forwarder ends with the channel empty and its sender gone.
  | exit =>
    simp only [step] at h
    split_ifs at h with hc
    cases h
    exact .exit hc.1 hc.2.1 hc.2.2.1 hc.2.2.2
  | join =>
    simp only [step] at h
    split at h
    · rename_i response hb
      split_ifs at h with hf
      cases h
      exact .join response hb hf
    · cases h
  | respond ok =>
    simp only [step] at h
    split at h
    · rename_i response checksSent hb
      cases h
      exact .respond response checksSent ok hb
    · cases h

/-! ### Nothing is lost -/

/-- The frames of checks, in order. -/
def checkFrames (checks : List Check) : List DiagnoseProgress := checks.map .check

/-- The checks the forwarder has still to turn into frames. -/
def inFlight (s : DiagnoseStream) : List Check := s.holding.toList ++ s.channel

/-- **The invariant**: frames, the forwarder's hand and the channel are the checks made so
    far, in order. -/
def Accounted (state : DiagState) (checks : List Check) (s : DiagnoseStream) : Prop :=
  let response := finish checks (evaluate checks state)
  match s.body with
  | .running made todo =>
    made ++ todo = checks ∧ s.txOpen = true ∧ s.finished = false ∧
      s.sent = s.frames.length ∧ s.frames ++ checkFrames s.inFlight = checkFrames made
  | .joining r =>
    r = response ∧ s.txOpen = false ∧ (s.finished = true → s.inFlight = []) ∧
      s.sent = s.frames.length ∧ s.frames ++ checkFrames s.inFlight = checkFrames checks
  | .responding r checksSent =>
    r = response ∧ checksSent = checks.length ∧ s.finished = true ∧
      s.frames = checkFrames checks
  | .done itemsSent =>
    itemsSent = checks.length + 1 ∧ s.finished = true ∧
      s.frames = checkFrames checks ++ [.response response]

theorem accounted_start (state : DiagState) (checks : List Check) :
    Accounted state checks (start checks) :=
  ⟨rfl, rfl, rfl, rfl, rfl⟩

/-- Receiving moves a check from the channel into the hand, replying from the hand into the
    frames; the account is the same. -/
theorem Accounted.forward (h : Accounted state checks s) (hf : s.finished = false)
    (hb : s'.body = s.body) (ht : s'.txOpen = s.txOpen) (hf' : s'.finished = false)
    (hsent : s.sent = s.frames.length → s'.sent = s'.frames.length)
    (hframes : s'.frames ++ checkFrames s'.inFlight = s.frames ++ checkFrames s.inFlight) :
    Accounted state checks s' := by
  unfold Accounted at h ⊢
  rw [hb]
  split
  · rename_i made todo hbody
    simp only [hbody] at h
    exact ⟨h.1, ht.trans h.2.1, hf', hsent h.2.2.2.1, hframes.trans h.2.2.2.2⟩
  · rename_i r hbody
    simp only [hbody] at h
    refine ⟨h.1, ht.trans h.2.1, ?_, hsent h.2.2.2.1, hframes.trans h.2.2.2.2⟩
    intro hdone
    rw [hf'] at hdone
    exact absurd hdone (by decide)
  -- The body is past the forwarder's end, so nothing is forwarded any more.
  · rename_i r n hbody
    simp only [hbody, hf] at h
    exact absurd h.2.2.1 (by decide)
  · rename_i n hbody
    simp only [hbody, hf] at h
    exact absurd h.2.1 (by decide)

/-- **A step keeps account**, as long as replies arrive and the run makes no more checks
    than the channel has slots. -/
theorem Accounted.step (h : Accounted state checks s) (few : checks.length ≤ checkChannelDepth)
    (ok : s.Delivered a) (hs : s.step state a = some s') : Accounted state checks s' := by
  cases move_of_step hs with
  | push made todo c hb =>
    unfold Accounted at h ⊢
    simp only [hb] at h ⊢
    obtain ⟨hplan, htx, hfin, hsent, hframes⟩ := h
    -- The channel holds at most the checks made before this one, so it has room.
    have hroom : ¬ checkChannelDepth ≤ s.channel.length := by
      have hlen := congrArg List.length hframes
      have hall := congrArg List.length hplan
      simp only [checkFrames, inFlight, List.length_append, List.length_map,
        List.length_cons] at hlen hall
      omega
    refine ⟨by simpa using hplan, htx, hfin, hsent, ?_⟩
    simp only [hfin, hroom, Bool.false_or, decide_false, Bool.false_eq_true, if_false]
    simp only [inFlight, checkFrames, List.map_append, List.map_cons, List.map_nil,
      ← List.append_assoc] at hframes ⊢
    rw [hframes]
  | return_ made hb =>
    unfold Accounted at h ⊢
    simp only [hb, List.append_nil] at h ⊢
    obtain ⟨rfl, htx, hfin, hsent, hframes⟩ := h
    refine ⟨rfl, trivial, ?_, hsent, hframes⟩
    intro hdone
    rw [hfin] at hdone
    exact absurd hdone (by decide)
  | recv c rest hf hh hc =>
    refine h.forward hf rfl rfl hf id ?_
    simp [inFlight, hh, hc]
  | reply c hf hh =>
    refine h.forward hf rfl rfl hf ?_ ?_
    · intro hsent
      simp [hsent]
    · simp [inFlight, checkFrames, hh]
  | lost c hf hh => exact absurd ok (by simp [Delivered])
  | exit hf hh hc ht =>
    unfold Accounted at h ⊢
    cases hb : s.body with
    | running made todo =>
      simp only [hb, ht] at h
      exact absurd h.2.1 (by decide)
    | joining r =>
      simp only [hb] at h ⊢
      exact ⟨h.1, ht, fun _ => by simp [inFlight, hh, hc], h.2.2.2⟩
    | responding r n =>
      simp only [hb, hf] at h
      exact absurd h.2.2.1 (by decide)
    | done n =>
      simp only [hb, hf] at h
      exact absurd h.2.1 (by decide)
  | join response hb hf =>
    unfold Accounted at h ⊢
    simp only [hb] at h ⊢
    obtain ⟨hr, -, hempty, hsent, hframes⟩ := h
    rw [hempty hf] at hframes
    have hall : s.frames = checkFrames checks := by simpa [checkFrames] using hframes
    refine ⟨hr, ?_, hf, hall⟩
    rw [hsent, hall]
    simp [checkFrames]
  | respond response n ok' hb =>
    have hok : ok' = true := ok
    subst hok
    unfold Accounted at h ⊢
    simp only [hb] at h ⊢
    obtain ⟨hr, rfl, hf, hframes⟩ := h
    exact ⟨rfl, hf, by rw [if_pos trivial, hframes, hr]⟩

/-! ### The end is reached -/

/-- How far a stream is from its end. -/
def remaining (s : DiagnoseStream) : Nat :=
  (match s.body with
    | .running _ todo => 3 * todo.length + 4
    | .joining _ => 3
    | .responding _ _ => 1
    | .done _ => 0) +
  2 * s.channel.length + s.holding.toList.length + (if s.finished then 0 else 1)

/-- Every step comes closer to the end. -/
theorem remaining_lt (hs : s.step state a = some s') : s'.remaining < s.remaining := by
  unfold remaining
  cases move_of_step hs with
  | push made todo c hb =>
    simp only [hb, List.length_cons]
    split_ifs <;> simp <;> omega
  | return_ made hb => simp [hb]
  | recv c rest hf hh hc =>
    simp only [hh, hc, List.length_cons, Option.toList_none, Option.toList_some, List.length_nil]
    omega
  | reply c hf hh => simp [hh]
  | lost c hf hh =>
    simp only [hf, hh, Option.toList_none, Option.toList_some, List.length_cons, List.length_nil,
      Bool.false_eq_true, if_false, if_true]
    omega
  | exit hf hh hc ht => simp [hf]
  | join response hb hf => simp [hb]
  | respond response n ok hb => simp [hb]

/-- **A stream that has not ended can go on.** -/
theorem Accounted.advances (h : Accounted state checks s) (hne : ∀ n, s.body ≠ .done n) :
    ∃ a, s.Delivered a ∧ (s.step state a).isSome = true := by
  unfold Accounted at h
  cases hb : s.body with
  | running made todo =>
    cases todo with
    | nil => exact ⟨.return_, trivial, by simp [DiagnoseStream.step, hb]⟩
    | cons c todo => exact ⟨.push, trivial, by simp [DiagnoseStream.step, hb]⟩
  | joining r =>
    simp only [hb] at h
    cases hf : s.finished with
    | true => exact ⟨.join, trivial, by simp [DiagnoseStream.step, hb, hf]⟩
    | false =>
      -- The forwarder is still at work: it holds a check, finds one, or is done.
      cases hh : s.holding with
      | some c => exact ⟨.reply true, rfl, by simp [DiagnoseStream.step, hf, hh]⟩
      | none =>
        cases hc : s.channel with
        | cons c rest => exact ⟨.recv, trivial, by simp [DiagnoseStream.step, hf, hh, hc]⟩
        | nil => exact ⟨.exit, trivial, by simp [DiagnoseStream.step, hf, hh, hc, h.2.1]⟩
  | responding r n => exact ⟨.respond true, rfl, by simp [DiagnoseStream.step, hb]⟩
  | done n => exact absurd hb (hne n)

/-- The runs of a stream whose client keeps reading. -/
abbrev Run (state : DiagState) : DiagnoseStream → DiagnoseStream → Prop :=
  Runs.Steps (DiagnoseStream.step state) Delivered

theorem Accounted.run (few : checks.length ≤ checkChannelDepth)
    (hrun : Run state (start checks) s) : Accounted state checks s := by
  refine hrun.invariant (accounted_start state checks) ?_
  intro v a v' hv hok hs
  exact hv.step few hok hs

/-- From every state of such a run the end is reached. -/
theorem Accounted.ends (h : Accounted state checks s) (few : checks.length ≤ checkChannelDepth) :
    ∃ s' n, Run state s s' ∧ s'.body = .done n := by
  induction hk : s.remaining using Nat.strongRecOn generalizing s with
  | ind k ih =>
    by_cases hdone : ∃ n, s.body = .done n
    · obtain ⟨n, hn⟩ := hdone
      exact ⟨s, n, .refl s, hn⟩
    · obtain ⟨a, hok, henabled⟩ := h.advances (not_exists.mp hdone)
      obtain ⟨v, hs⟩ := Option.isSome_iff_exists.mp henabled
      have hlt := remaining_lt hs
      obtain ⟨s', n, hrun, hn⟩ := ih v.remaining (by omega) (h.step few hok hs) rfl
      exact ⟨s', n, (Runs.Steps.tail a (.refl s) hok hs).trans hrun, hn⟩

/-- What has been streamed is the beginning of what will be. -/
theorem Accounted.frames_prefix_of (h : Accounted state checks s) :
    s.frames <+: checkFrames checks ++ [.response (finish checks (evaluate checks state))] := by
  unfold Accounted at h
  cases hb : s.body with
  | running made todo =>
    simp only [hb] at h
    obtain ⟨rfl, -, -, -, hframes⟩ := h
    refine List.IsPrefix.trans ⟨_, hframes⟩ ?_
    rw [checkFrames, checkFrames, List.map_append, List.append_assoc]
    exact List.prefix_append _ _
  | joining r =>
    simp only [hb] at h
    exact List.IsPrefix.trans ⟨_, h.2.2.2.2⟩ (List.prefix_append _ _)
  | responding r n =>
    simp only [hb] at h
    rw [h.2.2.2]
    exact List.prefix_append _ _
  | done n =>
    simp only [hb] at h
    rw [h.2.2]

end DiagnoseStream

/-! ### The checks of a run -/

/-- The request asks for the check: it is in `only`, or `only` is empty, and not in `skip`. -/
def Requested (request : DiagnoseRequest) (id : CheckId) : Prop :=
  (request.only = [] ∨ id.toInt ∈ request.only) ∧ id.toInt ∉ request.skip

instance (request : DiagnoseRequest) : DecidablePred (Requested request) :=
  fun _ => inferInstanceAs (Decidable (_ ∧ _))

theorem wanted_eq (request : DiagnoseRequest) (id : CheckId) :
    wanted request id = decide (Requested request id) := by
  unfold wanted Requested
  by_cases hskip : id.toInt ∈ request.skip
  · simp [hskip]
  · have hempty : request.only.isEmpty = decide (request.only = []) := by
      cases request.only <;> rfl
    simp [hskip, hempty]

theorem pushWanted_ids (request : DiagnoseRequest) (plan : Plan) :
    (pushWanted request plan).map Check.id =
      (plan.map Sigma.fst).filter (fun id => decide (Requested request id)) := by
  induction plan with
  | nil => rfl
  | cons entry rest ih =>
    unfold pushWanted at ih ⊢
    rw [List.filterMap_cons, List.map_cons, List.filter_cons, ← wanted_eq]
    cases want : wanted request entry.1 with
    | true => simp only [if_true, List.map_cons, ih, entry.2.id_eq]
    | false => simpa using ih

/-- **The ids of a run** are the requested ones of the engine, in the engine's order. -/
theorem runChecks_ids (probes : Probes) (request : DiagnoseRequest) (state : DiagState) :
    (runChecks probes request state).map Check.id =
      engineIds.filter (fun id => decide (Requested request id)) := by
  rw [runChecks_eq, pushWanted_ids, enginePlan_ids]

theorem runChecks_length (probes : Probes) (request : DiagnoseRequest) (state : DiagState) :
    (runChecks probes request state).length ≤ checkChannelDepth := by
  have hids := congrArg List.length (runChecks_ids probes request state)
  rw [List.length_map] at hids
  have hle := List.length_filter_le (fun id => decide (Requested request id)) engineIds
  have hall : engineIds.length ≤ checkChannelDepth := by decide
  omega

theorem run_of_gather {kernel : Kernel} {request : DiagnoseRequest} {state : DiagState}
    (h : gather kernel request = .ok state) (probes : Probes) :
    run kernel probes request =
      finish (runChecks probes request state)
        (evaluate (runChecks probes request state) state) := by
  unfold run
  rw [h]

open DiagnoseStream in
/-- **A diagnosis is complete.**  Once the state is gathered, the response has exactly one
    check for each requested id the engine implements, in one order, passive or not.  In
    every run of the stream whose client keeps reading, the frames so far are the beginning
    of the checks followed by the response; the stream can always be finished, and then all
    of them have been sent and counted. -/
theorem diagnose_complete (kernel : Kernel) (probes : Probes) (request : DiagnoseRequest)
    (state : DiagState) (gathered : gather kernel request = .ok state) :
    let response := run kernel probes request
    let stream := checkFrames response.checks ++ [.response response]
    response.checks.map Check.id =
        engineIds.filter (fun id => decide (Requested request id)) ∧
      engineIds.Nodup ∧
      (∀ passiveOnly, (run kernel probes { request with passiveOnly }).checks.map Check.id =
        response.checks.map Check.id) ∧
      ∀ s, Run state (start response.checks) s →
        s.frames <+: stream ∧
        (∀ itemsSent, s.body = .done itemsSent →
          s.frames = stream ∧ itemsSent = response.checks.length + 1) ∧
        ∃ s' itemsSent, Run state s s' ∧ s'.body = .done itemsSent := by
  have hresponse := run_of_gather gathered probes
  have hchecks : (run kernel probes request).checks = runChecks probes request state := by
    rw [hresponse]
    rfl
  have few := runChecks_length probes request state
  refine ⟨?_, by decide, ?_, ?_⟩
  · rw [hchecks, runChecks_ids]
  -- `passive_only` changes what the active checks say, not which checks there are.
  · intro passiveOnly
    have hpassive : gather kernel { request with passiveOnly } = .ok state := gathered
    rw [hchecks, run_of_gather hpassive probes]
    show (runChecks probes _ state).map Check.id = _
    rw [runChecks_ids, runChecks_ids]
    rfl
  · intro s hrun
    rw [hchecks] at hrun ⊢
    have h := Accounted.run few hrun
    rw [hresponse]
    refine ⟨h.frames_prefix_of, ?_, h.ends few⟩
    intro itemsSent hdone
    unfold Accounted at h
    simp only [hdone] at h
    exact ⟨h.2.2, h.1⟩

/-- A kernel with nothing in its tables. -/
def bareKernel : Kernel where
  interfaces := .ok []
  routes := .ok []
  rules := .ok []
  neighbors := .ok []
  sockets := .ok ([], {})
  routeLookup _ _ _ := {}

/-- Six checks asked for, one of them skipped. -/
def severalChecks : DiagnoseRequest where
  only := [CheckId.tlsHandshake, .activeInterface, .tcpV4, .dnsA, .tcpV6, .routeLookupV4].map
    CheckId.toInt
  skip := [CheckId.dnsA.toInt]

/-- Five checks and the response are streamed, in the order of the engine. -/
theorem diagnose_complete_bareKernel :
    ∃ state,
      gather bareKernel severalChecks = .ok state ∧
      (run bareKernel .unanswered severalChecks).checks.map Check.id =
        [.activeInterface, .routeLookupV4, .tcpV4, .tcpV6, .tlsHandshake] ∧
      ∃ s, DiagnoseStream.Run state
          (DiagnoseStream.start (run bareKernel .unanswered severalChecks).checks) s ∧
        s.body = .done 6 ∧
        s.frames = DiagnoseStream.checkFrames (run bareKernel .unanswered severalChecks).checks ++
          [.response (run bareKernel .unanswered severalChecks)] := by
  have all := diagnose_complete bareKernel .unanswered severalChecks _ rfl
  have hids : (run bareKernel .unanswered severalChecks).checks.map Check.id =
      [.activeInterface, .routeLookupV4, .tcpV4, .tcpV6, .tlsHandshake] :=
    all.1.trans (by decide)
  refine ⟨_, rfl, hids, ?_⟩
  obtain ⟨s, n, hrun, hdone⟩ := (all.2.2.2 _ (.refl _)).2.2
  obtain ⟨hframes, hn⟩ := (all.2.2.2 _ hrun).2.1 n hdone
  have hlength := congrArg List.length hids
  rw [List.length_map] at hlength
  have hsix : n = 6 := hn.trans (congrArg (· + 1) hlength)
  exact ⟨s, hrun, by rw [hdone, hsix], hframes⟩

/-! ### The session's view -/

namespace DiagnoseStream

open Ipc (StreamTask Forwarder Session)

/-- The stream as the session keeps it: how many checks are where. -/
def toTask (id : Nat) (s : DiagnoseStream) : StreamTask where
  id := id
  pc :=
    match s.body with
    | .running _ _ => .body .diagnose
    | .joining _ => .body .join
    | .responding _ checksSent => .body (.respond checksSent)
    | .done itemsSent => .ending (.done "diagnosis complete" itemsSent)
  status := .polling
  abortRequested := false
  forwarder := some
    { buffered := s.channel.length, holding := s.holding.isSome, txOpen := s.txOpen
      sent := s.sent, finished := s.finished }
  captureId := none

/-- The step of the session behind a step of the stream. -/
def Act.toSession (t : Nat) : Act → Session.Action
  | .push => .task t .check
  | .return_ => .task t .checksDone
  | .recv => .forwarder t .recv
  | .reply _ => .forwarder t .reply
  | .exit => .forwarder t .exit
  | .join => .task t .go
  | .respond _ => .task t .go

end DiagnoseStream

end Netdiag.Diag
