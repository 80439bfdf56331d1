import Netdiag.Lib.Runs
import Mathlib.Tactic.Common

namespace Netdiag.Daemon

/-!
# Idle exit

The accept loop of `daemon/src/main.rs` beside the session tasks it spawned.  The loop reads the
number of live sessions, arms the idle timer if there are none, and waits in a `select!`; a task
that is done serving takes itself off the counter and then notifies the loop.

* `State`, `step` — one step for each access to the counter or to the `Notify`, in any order.
* `Inv` — the counter is the number of tasks that have yet to leave it; an armed timer means that
  there are none; a loop that waits without a timer has a permit or a task that will leave one.
* `idle_exit_sound` — no session is cut off by the idle exit, and no wake-up is lost.
-/

/-! ### The loop and its tasks -/

/-- A session's task. -/
inductive Phase
  /-- In `serve`. -/
  | serving
  /-- `serve` has returned. -/
  | served
  /-- After `fetch_sub`. -/
  | subtracted
  /-- After `notify_one`. -/
  | finished
  deriving DecidableEq, Repr

/-- The task is in the counter. -/
def Phase.counts : Phase → Bool
  | .serving | .served => true
  | .subtracted | .finished => false

/-- How the loop ended. -/
inductive Exit
  | idle
  | interrupted
  deriving DecidableEq, Repr

/-- Where the loop is. -/
inductive Pc
  /-- Before `live_sessions.load`. -/
  | top
  /-- In `select!`; the timer is armed if there is a timeout. -/
  | select (idleTimeout : Option Nat)
  /-- A peer was authorized. -/
  | authorized
  /-- After `fetch_add`, before `tokio::spawn`. -/
  | added
  | exited (how : Exit)
  deriving DecidableEq, Repr

/-- What `listener.accept` and `auth::authorize` answered. -/
inductive Accepted
  | failed
  | refused
  | authorized
  deriving DecidableEq, Repr

/-- The loop, `live_sessions`, the permit of `session_ended`, and the spawned tasks. -/
structure State where
  pc : Pc := .top
  liveSessions : Nat := 0
  sessionEnded : Bool := false
  tasks : List Phase := []
  deriving DecidableEq, Repr

inductive Action
  | load
  | sleep
  | notified
  | accept (answer : Accepted)
  | fetchAdd
  | spawn
  | ctrlC
  | task (i : Nat)
  deriving DecidableEq, Repr

/-- The next step of a session's task. -/
def taskStep (s : State) (i : Nat) : Option State :=
  match s.tasks[i]? with
  | some .serving => some { s with tasks := s.tasks.set i .served }
  | some .served => some { s with
      tasks := s.tasks.set i .subtracted, liveSessions := s.liveSessions - 1 }
  -- `Notify` keeps one permit, however often it is notified.
  | some .subtracted => some { s with tasks := s.tasks.set i .finished, sessionEnded := true }
  | some .finished | none => none

/-- What a branch of `select!` does; the first that is ready is taken.  A permit that was handed
    to a `notified()` of a `select!` that took another branch goes back when it is dropped. -/
def branch (s : State) (idleTimeout : Option Nat) : Action → Option State
  | .sleep => if idleTimeout.isSome then some { s with pc := .exited .idle } else none
  | .notified => if s.sessionEnded then some { s with pc := .top, sessionEnded := false } else none
  | .accept .failed | .accept .refused => some { s with pc := .top }
  | .accept .authorized => some { s with pc := .authorized }
  | .ctrlC => some { s with pc := .exited .interrupted }
  | _ => none

/-- The next step of the loop, with the `--exit-when-idle` argument. -/
def loopStep (exitWhenIdle : Option Nat) (s : State) (a : Action) : Option State :=
  match s.pc with
  | .top =>
    -- The timer is armed anew on each turn, and only if no session is live.
    if a = .load then some { s with
      pc := .select (exitWhenIdle.filter (fun _ => s.liveSessions == 0)) }
    else none
  | .select idleTimeout => branch s idleTimeout a
  | .authorized =>
    -- Counted before the task is spawned, so that the timer cannot be armed in between.
    if a = .fetchAdd then some { s with pc := .added, liveSessions := s.liveSessions + 1 } else none
  | .added =>
    if a = .spawn then some { s with pc := .top, tasks := s.tasks ++ [.serving] } else none
  | .exited _ => none

/-- One step of a task or of the loop. -/
def step (exitWhenIdle : Option Nat) (s : State) (a : Action) : Option State :=
  match a with
  | .task i => taskStep s i
  | a => loopStep exitWhenIdle s a

/-- What one step can do. -/
inductive Effect (exitWhenIdle : Option Nat) (s : State) : State → Prop
  | load : s.pc = .top → Effect exitWhenIdle s
      { s with pc := .select (exitWhenIdle.filter (fun _ => s.liveSessions == 0)) }
  | sleep {t : Nat} : s.pc = .select (some t) → Effect exitWhenIdle s { s with pc := .exited .idle }
  | notified {t : Option Nat} : s.pc = .select t → s.sessionEnded = true →
      Effect exitWhenIdle s { s with pc := .top, sessionEnded := false }
  | unserved {t : Option Nat} : s.pc = .select t → Effect exitWhenIdle s { s with pc := .top }
  | authorized {t : Option Nat} : s.pc = .select t →
      Effect exitWhenIdle s { s with pc := .authorized }
  | ctrlC {t : Option Nat} : s.pc = .select t →
      Effect exitWhenIdle s { s with pc := .exited .interrupted }
  | fetchAdd : s.pc = .authorized →
      Effect exitWhenIdle s { s with pc := .added, liveSessions := s.liveSessions + 1 }
  | spawn : s.pc = .added →
      Effect exitWhenIdle s { s with pc := .top, tasks := s.tasks ++ [.serving] }
  | served {i : Nat} : s.tasks[i]? = some .serving →
      Effect exitWhenIdle s { s with tasks := s.tasks.set i .served }
  | subtracted {i : Nat} : s.tasks[i]? = some .served → Effect exitWhenIdle s
      { s with tasks := s.tasks.set i .subtracted, liveSessions := s.liveSessions - 1 }
  | finished {i : Nat} : s.tasks[i]? = some .subtracted →
      Effect exitWhenIdle s { s with tasks := s.tasks.set i .finished, sessionEnded := true }

variable {exitWhenIdle : Option Nat} {s s' : State} {a : Action}

/-- What a session task does. -/
theorem effect_of_taskStep {i : Nat} (h : taskStep s i = some s') : Effect exitWhenIdle s s' := by
  unfold taskStep at h
  split at h
  · rename_i task
    cases h
    exact .served task
  · rename_i task
    cases h
    exact .subtracted task
  · rename_i task
    cases h
    exact .finished task
  · cases h
  · cases h

/-- What the branch of a `select` does. -/
theorem effect_of_branch {t : Option Nat} (pc : s.pc = .select t) (h : branch s t a = some s') :
    Effect exitWhenIdle s s' := by
  cases a with
  | sleep =>
    cases t with
    | none => cases h
    | some t =>
      cases h
      exact .sleep pc
  -- A stored permit wakes the loop.
  | notified =>
    rw [branch, Option.ite_none_right_eq_some] at h
    obtain ⟨permit, eq⟩ := h
    cases eq
    exact .notified pc permit
  | accept answer =>
    cases answer <;> cases h
    · exact .unserved pc
    · exact .unserved pc
    · exact .authorized pc
  | ctrlC =>
    cases h
    exact .ctrlC pc
  | load => cases h
  | fetchAdd => cases h
  | spawn => cases h
  | task i => cases h

/-- What the loop does. -/
theorem effect_of_loopStep (h : loopStep exitWhenIdle s a = some s') :
    Effect exitWhenIdle s s' := by
  unfold loopStep at h
  split at h
  · rename_i pc
    rw [Option.ite_none_right_eq_some] at h
    cases h.2
    exact .load pc
  · rename_i t pc
    exact effect_of_branch pc h
  · rename_i pc
    rw [Option.ite_none_right_eq_some] at h
    cases h.2
    exact .fetchAdd pc
  · rename_i pc
    rw [Option.ite_none_right_eq_some] at h
    cases h.2
    exact .spawn pc
  · cases h

/-- What any step does: the loop's, or a session's. -/
theorem effect_of_step (h : step exitWhenIdle s a = some s') : Effect exitWhenIdle s s' := by
  unfold step at h
  split at h
  · exact effect_of_taskStep h
  · exact effect_of_loopStep h

/-! ### The invariant -/

/-- The invariant of a loop that was given a timeout. -/
structure Inv (s : State) : Prop where
  counted : s.liveSessions = s.tasks.countP Phase.counts + (if s.pc = .added then 1 else 0)
  armed : ∀ t, s.pc = .select (some t) ∨ s.pc = .exited .idle → s.liveSessions = 0
  disarmed : s.pc = .select none → s.sessionEnded = true ∨ ∃ task ∈ s.tasks, task ≠ .finished

/-- At the start there are no sessions. -/
theorem inv_start : Inv {} where
  counted := rfl
  armed t h := rfl
  disarmed h := by cases h

/-- A task that moves is counted before and after. -/
theorem countP_set {p : Phase → Bool} {tasks : List Phase} {i : Nat} {old : Phase} (new : Phase)
    (h : tasks[i]? = some old) :
    (tasks.set i new).countP p + (if p old then 1 else 0) =
      tasks.countP p + (if p new then 1 else 0) := by
  obtain ⟨lt, rfl⟩ := List.getElem?_eq_some_iff.mp h
  have pos : p tasks[i] = true → 0 < tasks.countP p := fun hp =>
    List.countP_pos_iff.mpr ⟨_, List.getElem_mem lt, hp⟩
  rw [List.countP_set lt]
  by_cases hp : p tasks[i] = true
  · have := pos hp
    rw [if_pos hp]
    omega
  · rw [if_neg hp]
    omega

/-- The counter counts the sessions that have been added and have not left. -/
theorem Effect.counted {timeout : Nat} (h : Effect (some timeout) s s') (hi : Inv s) :
    s'.liveSessions = s'.tasks.countP Phase.counts + (if s'.pc = .added then 1 else 0) := by
  have counted := hi.counted
  cases h with
  | load pc => simpa [pc] using counted
  | sleep pc => simpa [pc] using counted
  | notified pc _ => simpa [pc] using counted
  | unserved pc => simpa [pc] using counted
  | authorized pc => simpa [pc] using counted
  | ctrlC pc => simpa [pc] using counted
  | fetchAdd pc => simpa [pc] using counted
  | spawn pc => simpa [pc, Phase.counts] using counted
  -- A session that was served is counted until it is subtracted.
  | served task =>
    have moved := countP_set .served task (p := Phase.counts)
    simp only [Phase.counts, if_true] at moved
    simp only
    omega
  | subtracted task =>
    have moved := countP_set .subtracted task (p := Phase.counts)
    simp only [Phase.counts, if_true, Bool.false_eq_true, if_false] at moved
    simp only
    omega
  | finished task =>
    have moved := countP_set .finished task (p := Phase.counts)
    simp only [Phase.counts, Bool.false_eq_true, if_false] at moved
    simp only
    omega

/-- While the timer runs, tasks can only take themselves off the counter. -/
theorem Effect.armed {timeout : Nat} (h : Effect (some timeout) s s') (hi : Inv s) (t : Nat)
    (pc' : s'.pc = .select (some t) ∨ s'.pc = .exited .idle) : s'.liveSessions = 0 := by
  cases h with
  | load pc =>
    rcases pc' with pc' | pc'
    · simp only [Pc.select.injEq, Option.filter_eq_some_iff, beq_iff_eq] at pc'
      exact pc'.2
    · cases pc'
  | sleep pc => exact hi.armed _ (.inl pc)
  | served task => exact hi.armed t pc'
  | subtracted task =>
    have zero := hi.armed t pc'
    show s.liveSessions - 1 = 0
    omega
  | finished task => exact hi.armed t pc'
  | notified pc _ => simp at pc'
  | unserved pc => simp at pc'
  | authorized pc => simp at pc'
  | ctrlC pc => simp at pc'
  | fetchAdd pc => simp at pc'
  | spawn pc => simp at pc'

/-- Where no timeout is armed a session has just ended, or one is still to end. -/
theorem Effect.disarmed {timeout : Nat} (h : Effect (some timeout) s s') (hi : Inv s)
    (pc' : s'.pc = .select none) :
    s'.sessionEnded = true ∨ ∃ task ∈ s'.tasks, task ≠ .finished := by
  -- a task that moves without finishing is the one to wait for
  have moved {i : Nat} {old new : Phase} (task : s.tasks[i]? = some old) (ne : new ≠ .finished) :
      ∃ task ∈ s.tasks.set i new, task ≠ .finished :=
    ⟨new, List.mem_set (List.getElem?_eq_some_iff.mp task).1 new, ne⟩
  cases h with
  | load pc =>
    -- the counter was not zero, and who is in it has yet to notify
    right
    have counted := hi.counted
    simp only [Pc.select.injEq, Option.filter_eq_none_iff, Option.some.injEq, forall_eq',
      beq_iff_eq] at pc'
    rw [pc, if_neg (by decide), Nat.add_zero] at counted
    have pos : 0 < s.tasks.countP Phase.counts := by omega
    obtain ⟨task, mem, counts⟩ := List.countP_pos_iff.mp pos
    refine ⟨task, mem, ?_⟩
    rintro rfl
    cases counts
  | served task => exact .inr (moved task (by decide))
  | subtracted task => exact .inr (moved task (by decide))
  | finished task => exact .inl rfl
  | sleep pc => cases pc'
  | notified pc _ => cases pc'
  | unserved pc => cases pc'
  | authorized pc => cases pc'
  | ctrlC pc => cases pc'
  | fetchAdd pc => cases pc'
  | spawn pc => cases pc'

/-- One step keeps the invariant. -/
theorem Effect.inv {timeout : Nat} (h : Effect (some timeout) s s') (hi : Inv s) : Inv s' :=
  ⟨h.counted hi, h.armed hi, h.disarmed hi⟩

/-- Any run of the daemon with a timeout, from its start. -/
def Reaches (timeout : Nat) (s : State) : Prop :=
  Runs.Steps (step (some timeout)) (fun _ _ => True) {} s

/-- The invariant holds in every reachable state. -/
theorem Reaches.inv {timeout : Nat} (run : Reaches timeout s) : Inv s :=
  Runs.Steps.invariant run inv_start (fun _ _ _ hi _ h => (effect_of_step h).inv hi)

/-- A counter at zero counts nobody. -/
theorem Inv.not_counts (hi : Inv s) (zero : s.liveSessions = 0) : ∀ task ∈ s.tasks,
    task.counts = false := by
  have counted := hi.counted
  have none : s.tasks.countP Phase.counts = 0 := by omega
  intro task mem
  exact Bool.eq_false_iff.mpr (List.countP_eq_zero.mp none task mem)

/-! ### What a waiting loop can rely on -/

/-- A loop that waits with no timer is woken: the permit is there, the branch that takes it leads
    to an armed timer, and no step leaves the loop where it is. -/
structure Wakes (timeout : Nat) (s : State) : Prop where
  permit : s.sessionEnded = true
  rearms : ∃ s₁ s₂, step (some timeout) s .notified = some s₁ ∧
    step (some timeout) s₁ .load = some s₂ ∧ s₂.pc = .select (some timeout)
  leaves : ∀ a s', step (some timeout) s a = some s' → s'.pc ≠ .select none

/-- Where all sessions are over the loop is woken, and arms its timeout. -/
theorem Inv.wakes {timeout : Nat} (hi : Inv s) (pc : s.pc = .select none)
    (done : ∀ task ∈ s.tasks, task = .finished) : Wakes timeout s := by
  have permit : s.sessionEnded = true := by
    rcases hi.disarmed pc with permit | ⟨task, mem, ne⟩
    · exact permit
    · exact absurd (done task mem) ne
  have zero : s.liveSessions = 0 := by
    have none : s.tasks.countP Phase.counts = 0 := by
      rw [List.countP_eq_zero]
      intro task mem
      rw [done task mem]
      decide
    have counted := hi.counted
    rw [none, pc, if_neg (by decide)] at counted
    exact counted
  -- no task has a step left
  have idle {i : Nat} {task : Phase} (h : s.tasks[i]? = some task) : task = .finished :=
    done task (List.mem_of_getElem? h)
  refine ⟨permit, ?_, ?_⟩
  · have wake : step (some timeout) s .notified =
        some { s with pc := .top, sessionEnded := false } := by
      simp [step, loopStep, branch, pc, permit]
    have load : step (some timeout) { s with pc := .top, sessionEnded := false } .load =
        some { s with pc := .select (some timeout), sessionEnded := false } := by
      simp [step, loopStep, zero]
    exact ⟨_, _, wake, load, rfl⟩
  · intro a s' h
    cases effect_of_step h with
    | load top => rw [pc] at top; cases top
    | fetchAdd at_ => rw [pc] at at_; cases at_
    | spawn at_ => rw [pc] at at_; cases at_
    | served task => cases idle task
    | subtracted task => cases idle task
    | finished task => cases idle task
    | sleep _ => simp
    | notified _ _ => simp
    | unserved _ => simp
    | authorized _ => simp
    | ctrlC _ => simp

/-- The idle exit cuts off no session, and no wake-up is lost. -/
theorem idle_exit_sound (timeout : Nat) {s : State} (run : Reaches timeout s) :
    (s.pc = .exited .idle → ∀ task ∈ s.tasks, task ≠ .serving) ∧
      (s.pc = .select none → (∀ task ∈ s.tasks, task = .finished) → Wakes timeout s) := by
  have hi := run.inv
  constructor
  · intro pc task mem
    have zero := hi.armed timeout (.inr pc)
    have counts := hi.not_counts zero task mem
    rintro rfl
    cases counts
  · intro pc done
    exact hi.wakes pc done

/-- A session that is served while the loop waits, and ends. -/
def oneSession : List Action :=
  [.load, .accept .authorized, .fetchAdd, .spawn, .load, .task 0, .task 0, .task 0]

/-- The loop is woken, and goes on to exit with nothing served. -/
theorem idle_exit_after_session :
    ∃ s t, Reaches 60 s ∧ Wakes 60 s ∧ Reaches 60 t ∧ t.pc = .exited .idle ∧
      ∀ task ∈ t.tasks, task ≠ .serving := by
  let s : State :=
    { pc := .select none, liveSessions := 0, sessionEnded := true, tasks := [.finished] }
  let t : State :=
    { pc := .exited .idle, liveSessions := 0, sessionEnded := false, tasks := [.finished] }
  have hs : Reaches 60 s := .of_exec oneSession (by decide)
  have ht : Reaches 60 t := .of_exec (oneSession ++ [.notified, .load, .sleep]) (by decide)
  exact ⟨s, t, hs, (idle_exit_sound 60 hs).2 rfl (by decide), ht, rfl,
    (idle_exit_sound 60 ht).1 rfl⟩

end Netdiag.Daemon
