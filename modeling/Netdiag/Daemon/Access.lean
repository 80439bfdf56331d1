import Netdiag.Daemon.Idle
import Netdiag.Lib.Utf8
import Netdiag.Lib.Words

namespace Netdiag.Daemon

/-!
# Who is served

Peer authorization of `daemon/src/ipc/auth.rs` in the accept loop of `daemon/src/main.rs`.

* `authorize` — from the credentials the kernel reports and the peer's `/proc` entry;
  `authorize_eq_ok` says exactly whom it lets in, `authorize_named` that it tells packages apart.
* `AcceptLoop` — the loop of `Idle.lean` with the connections it accepted and the peers its
  sessions were spawned for.
* `sessions_are_granted` — over any run the sessions are the granted connections, in order.
-/

/-! ### Authorization -/

/-- `SO_PEERCRED`. -/
structure UCred where
  uid : UInt32
  gid : UInt32
  pid : Option Int
  deriving DecidableEq, Repr

structure PeerIdentity where
  uid : UInt32
  gid : UInt32
  pid : Option Int
  /-- `argv[0]`, from `/proc`. -/
  cmdline : Option String
  deriving DecidableEq, Repr

def PeerIdentity.display (peer : PeerIdentity) : String :=
  "uid=" ++ toString peer.uid ++ " gid=" ++ toString peer.gid ++
    (match peer.pid with | some pid => " pid=" ++ toString pid | none => "") ++
    (match peer.cmdline with | some cmd => " cmdline=" ++ cmd | none => "")

structure AuthPolicy where
  /-- None means root only. -/
  allowedUids : List UInt32 := []
  /-- What the peer's process must be named. -/
  expectPackage : Option String := none
  deriving DecidableEq, Repr

namespace AuthPolicy

def describe (policy : AuthPolicy) : String :=
  let uids := policy.allowedUids.map toString
  let uids := if uids.isEmpty then ["0"] else uids
  "uids=[" ++ ",".intercalate uids ++ "]" ++
    (match policy.expectPackage with | some pkg => " package=" ++ pkg | none => "")

def uidAllowed (policy : AuthPolicy) (uid : UInt32) : Bool :=
  uid == 0 || policy.allowedUids.contains uid

end AuthPolicy

/-- `argv[0]` of a process, from the bytes of its `/proc/<pid>/cmdline` if that could be read. -/
def readCmdline (file : Option (List UInt8)) : Option String :=
  match file with
  | none => none
  | some raw =>
    let first := raw.takeWhile (· != 0)
    if first.isEmpty then none else some (String.ofList (Text.trim (Text.fromUtf8Lossy first)))

/-- A connection the listener accepted: what the kernel says about its peer, and the file
    `/proc/<pid>/cmdline` at that moment. -/
structure Connection where
  peerCred : Option UCred
  cmdlineFile : Option (List UInt8)
  deriving DecidableEq, Repr

/-- Who the peer is. -/
def Connection.identity (c : Connection) (cred : UCred) : PeerIdentity where
  uid := cred.uid
  gid := cred.gid
  pid := cred.pid
  cmdline := cred.pid.bind (fun _ => readCmdline c.cmdlineFile)

def authorize (policy : AuthPolicy) (stream : Connection) : Except String PeerIdentity :=
  match stream.peerCred with
  | none => .error "SO_PEERCRED failed; refusing the connection"
  | some cred =>
    let identity := stream.identity cred
    if policy.uidAllowed identity.uid = false then
      .error ("peer " ++ identity.display ++ " is not in the allowed uid set (" ++
        policy.describe ++ ")")
    else
      match policy.expectPackage, identity.cmdline with
      | some expected, some actual =>
        if actual = expected then .ok identity
        else .error ("peer " ++ identity.display ++ " runs as " ++ actual ++ ", expected " ++
          expected)
      -- `/proc` may be unreadable; the uid check has passed
      | some _, none => .ok identity
      | none, _ => .ok identity

/-- The policy lets this peer in. -/
structure Granted (policy : AuthPolicy) (peer : PeerIdentity) : Prop where
  uid : peer.uid = 0 ∨ peer.uid ∈ policy.allowedUids
  package : ∀ expected ∈ policy.expectPackage, ∀ actual ∈ peer.cmdline, actual = expected

/-- Root and the uids of the policy are allowed. -/
theorem uidAllowed_iff {policy : AuthPolicy} {uid : UInt32} :
    policy.uidAllowed uid = true ↔ uid = 0 ∨ uid ∈ policy.allowedUids := by
  simp [AuthPolicy.uidAllowed]

/-- Exactly the granted peers of known credentials are let in, under the kernel's identity. -/
theorem authorize_eq_ok {policy : AuthPolicy} {stream : Connection} {peer : PeerIdentity} :
    authorize policy stream = .ok peer ↔
      (∃ cred, stream.peerCred = some cred ∧ stream.identity cred = peer) ∧
        Granted policy peer := by
  unfold authorize
  cases hcred : stream.peerCred with
  | none => simp
  | some cred =>
    simp only [Option.some.injEq, exists_eq_left']
    split
    -- The uid is neither root nor one of those allowed.
    · rename_i denied
      constructor
      · intro h
        cases h
      · rintro ⟨rfl, granted⟩
        rw [uidAllowed_iff.mpr granted.uid] at denied
        cases denied
    · rename_i allowed
      have uid := uidAllowed_iff.mp ((Bool.not_eq_false _).mp allowed)
      split
      -- A package is required and the peer's can be told: they are compared.
      · rename_i expected actual hexpected hactual
        split_ifs with same
        · constructor
          · intro h
            cases h
            refine ⟨rfl, uid, ?_⟩
            intro e he a ha
            rw [hexpected, Option.mem_some] at he
            rw [hactual, Option.mem_some] at ha
            rw [← he, ← ha, same]
          · rintro ⟨rfl, -⟩
            rfl
        · constructor
          · intro h
            cases h
          · rintro ⟨rfl, granted⟩
            exact absurd (granted.package _ hexpected _ hactual) same
      -- The peer's package cannot be told, and nothing is compared.
      · rename_i hactual
        constructor
        · intro h
          cases h
          refine ⟨rfl, uid, ?_⟩
          intro e he a ha
          rw [hactual] at ha
          cases ha
        · rintro ⟨rfl, -⟩
          rfl
      -- No package is required.
      · rename_i hexpected
        constructor
        · intro h
          cases h
          refine ⟨rfl, uid, ?_⟩
          intro e he
          rw [hexpected] at he
          cases he
        · rintro ⟨rfl, -⟩
          rfl

/-- The connections the policy grants, as the peers behind them. -/
def grantedPeers (policy : AuthPolicy) (accepted : List Connection) : List PeerIdentity :=
  accepted.filterMap (fun stream => (authorize policy stream).toOption)

/-- One connection more is granted or not. -/
theorem grantedPeers_concat (policy : AuthPolicy) (accepted : List Connection)
    (stream : Connection) : grantedPeers policy (accepted ++ [stream]) =
      grantedPeers policy accepted ++ (authorize policy stream).toOption.toList := by
  unfold grantedPeers
  rw [List.filterMap_append, List.filterMap_cons]
  cases (authorize policy stream).toOption <;> rfl

/-- The first argument of a process is read back from its `/proc` entry. -/
theorem readCmdline_utf8 {name : List Char} (ne : name ≠ []) (noNul : (0 : UInt8) ∉ Text.utf8 name)
    (trimmed : Text.trim name = name) (rest : List UInt8) :
    readCmdline (some (Text.utf8 name ++ 0 :: rest)) = some (String.ofList name) := by
  have first : (Text.utf8 name ++ 0 :: rest).takeWhile (· != 0) = Text.utf8 name := by
    rw [List.takeWhile_append_of_pos]
    · simp
    · intro b mem
      exact bne_iff_ne.mpr fun zero => noNul (zero ▸ mem)
  have some' : (Text.utf8 name).isEmpty = false :=
    List.isEmpty_eq_false_iff.mpr (List.ne_nil_of_length_pos (Text.length_utf8_pos ne))
  unfold readCmdline
  dsimp only
  rw [first, some', Text.fromUtf8Lossy_utf8, trimmed]
  rfl

/-- **A process is known by its name.**  Of the processes of an allowed uid whose name can be read,
    the ones let in are those of the expected package. -/
theorem authorize_named {policy : AuthPolicy} {stream : Connection} {cred : UCred} {pid : Int}
    {name : List Char} {rest : List UInt8} (known : stream.peerCred = some cred)
    (allowed : policy.uidAllowed cred.uid = true) (running : cred.pid = some pid)
    (file : stream.cmdlineFile = some (Text.utf8 name ++ 0 :: rest)) (ne : name ≠ [])
    (noNul : (0 : UInt8) ∉ Text.utf8 name) (trimmed : Text.trim name = name) :
    authorize policy stream = .ok (stream.identity cred) ↔
      ∀ expected ∈ policy.expectPackage, String.ofList name = expected := by
  have cmdline : (stream.identity cred).cmdline = some (String.ofList name) := by
    show cred.pid.bind (fun _ => readCmdline stream.cmdlineFile) = _
    rw [running, file, Option.bind_some, readCmdline_utf8 ne noNul trimmed]
  rw [authorize_eq_ok]
  constructor
  · rintro ⟨-, granted⟩ expected mem
    exact granted.package expected mem _ cmdline
  · intro same
    refine ⟨⟨cred, known, rfl⟩, uidAllowed_iff.mp allowed, ?_⟩
    intro expected mem actual read
    rw [cmdline, Option.mem_some] at read
    exact read.symm.trans (same expected mem)

/-! ### The loop -/

/-- The accept loop, with the connections it accepted so far, the peer between `authorize` and
    `tokio::spawn`, and the peers `serve` was spawned for. -/
structure AcceptLoop where
  loop : State := {}
  accepted : List Connection := []
  peer : Option PeerIdentity := none
  sessions : List PeerIdentity := []
  deriving DecidableEq, Repr

namespace AcceptLoop

inductive Input
  /-- `accept` returned a connection. -/
  | accept (stream : Connection)
  /-- Any other step; `accept` can fail only. -/
  | other (a : Action)
  deriving DecidableEq, Repr

/-- What the loop does with the answer of `authorize`. -/
def answer (policy : AuthPolicy) (stream : Connection) : Accepted :=
  match authorize policy stream with
  | .ok _ => .authorized
  | .error _ => .refused

/-- One step of the loop or of a session's task. -/
def step (policy : AuthPolicy) (exitWhenIdle : Option Nat) (s : AcceptLoop) (input : Input) :
    Option AcceptLoop :=
  match input with
  | .accept stream =>
    (Daemon.step exitWhenIdle s.loop (.accept (answer policy stream))).map (fun loop =>
      { s with loop, accepted := s.accepted ++ [stream]
               peer := (authorize policy stream).toOption })
  -- Whether a connection is let in is not for the environment to say.
  | .other (.accept .refused) | .other (.accept .authorized) => none
  -- The session gets the peer that `authorize` named.
  | .other .spawn =>
    (Daemon.step exitWhenIdle s.loop .spawn).map (fun loop =>
      { s with loop, peer := none, sessions := s.sessions ++ s.peer.toList })
  | .other a => (Daemon.step exitWhenIdle s.loop a).map (fun loop => { s with loop })

/-- Any run of the daemon, from its start. -/
def Reaches (policy : AuthPolicy) (exitWhenIdle : Option Nat) (s : AcceptLoop) : Prop :=
  Runs.Steps (step policy exitWhenIdle) (fun _ _ => True) {} s

variable {policy : AuthPolicy} {exitWhenIdle : Option Nat} {s s' : AcceptLoop}

/-- A step of the daemon is a step of the accept loop. -/
theorem loop_step {input : Input} (h : step policy exitWhenIdle s input = some s') :
    ∃ a, Daemon.step exitWhenIdle s.loop a = some s'.loop := by
  cases input with
  | accept stream =>
    obtain ⟨loop, moved, rfl⟩ := Option.map_eq_some_iff.mp h
    exact ⟨_, moved⟩
  | other a =>
    unfold step at h
    split at h
    · rename_i eq
      cases eq
    · cases h
    · cases h
    · obtain ⟨loop, moved, rfl⟩ := Option.map_eq_some_iff.mp h
      exact ⟨_, moved⟩
    · obtain ⟨loop, moved, rfl⟩ := Option.map_eq_some_iff.mp h
      exact ⟨_, moved⟩

/-- The loop takes the steps of `Idle.lean`. -/
theorem Reaches.loop (run : Reaches policy exitWhenIdle s) :
    Runs.Steps (Daemon.step exitWhenIdle) (fun _ _ => True) {} s.loop := by
  induction run with
  | refl => exact .refl _
  | tail input _ _ h ih =>
    obtain ⟨a, moved⟩ := loop_step h
    exact .tail a ih trivial moved

/-- An authorized peer waits for its session. -/
def holds (pc : Pc) : Bool :=
  match pc with
  | .authorized | .added => true
  | .top | .select _ | .exited _ => false

/-- The sessions and the peer that waits for one are the granted connections, in order; a peer waits
    where the loop says so; each session has its task. -/
structure Recorded (policy : AuthPolicy) (s : AcceptLoop) : Prop where
  granted : s.sessions ++ s.peer.toList = grantedPeers policy s.accepted
  waits : s.peer.isSome = holds s.loop.pc
  spawned : s.sessions.length = s.loop.tasks.length

/-- At the start nobody was accepted. -/
theorem recorded_start : Recorded policy {} := ⟨rfl, rfl, rfl⟩

/-- A session does not move the loop. -/
theorem taskStep_pc {loop loop' : State} {i : Nat} (h : taskStep loop i = some loop') :
    loop'.pc = loop.pc ∧ loop'.tasks.length = loop.tasks.length := by
  unfold taskStep at h
  split at h
  · cases h
    exact ⟨rfl, List.length_set⟩
  · cases h
    exact ⟨rfl, List.length_set⟩
  · cases h
    exact ⟨rfl, List.length_set⟩
  · cases h
  · cases h

/-- Where `accept` answers, and where its answer leads. -/
theorem accept_step {loop loop' : State} {answer : Accepted}
    (h : Daemon.step exitWhenIdle loop (.accept answer) = some loop') :
    holds loop.pc = false ∧ holds loop'.pc = decide (answer = .authorized) ∧
      loop'.tasks = loop.tasks := by
  cases pc : loop.pc with
  | select t =>
    simp only [Daemon.step, loopStep, pc, branch] at h
    cases answer <;> cases h <;> exact ⟨rfl, rfl, rfl⟩
  | top => simp [Daemon.step, loopStep, pc] at h
  | authorized => simp [Daemon.step, loopStep, pc] at h
  | added => simp [Daemon.step, loopStep, pc] at h
  | exited how => simp [Daemon.step, loopStep, pc] at h

/-- A spawn adds a task for the peer that was held. -/
theorem spawn_step {loop loop' : State} (h : Daemon.step exitWhenIdle loop .spawn = some loop') :
    holds loop.pc = true ∧ loop'.pc = .top ∧ loop'.tasks.length = loop.tasks.length + 1 := by
  cases pc : loop.pc with
  | added =>
    simp only [Daemon.step, loopStep, pc] at h
    cases h
    exact ⟨rfl, rfl, List.length_append⟩
  | top => simp [Daemon.step, loopStep, pc] at h
  | authorized => simp [Daemon.step, loopStep, pc] at h
  | select t => simp [Daemon.step, loopStep, pc, branch] at h
  | exited how => simp [Daemon.step, loopStep, pc] at h

/-- Any other step leaves the peer that waits and the number of tasks. -/
theorem quiet_step {loop loop' : State} {a : Action} (spawn : a ≠ .spawn)
    (accept : a ≠ .accept .authorized) (h : Daemon.step exitWhenIdle loop a = some loop') :
    holds loop'.pc = holds loop.pc ∧ loop'.tasks.length = loop.tasks.length := by
  cases effect_of_step h with
  | load pc => simp [pc, holds]
  | sleep pc => simp [pc, holds]
  | notified pc _ => simp [pc, holds]
  | unserved pc => simp [pc, holds]
  | ctrlC pc => simp [pc, holds]
  | fetchAdd pc => simp [pc, holds]
  | served _ => simp
  | subtracted _ => simp
  | finished _ => simp
  | authorized pc =>
    -- only an answer of `accept` leads there
    cases a with
    | accept answer =>
      cases answer with
      | authorized => exact absurd rfl accept
      | failed => simp [Daemon.step, loopStep, branch, pc] at h
      | refused => simp [Daemon.step, loopStep, branch, pc] at h
    | task i =>
      have same := (taskStep_pc h).1
      rw [pc] at same
      cases same
    | sleep => simp [Daemon.step, loopStep, branch, pc] at h
    | notified => simp [Daemon.step, loopStep, branch, pc] at h
    | ctrlC => simp [Daemon.step, loopStep, branch, pc] at h
    | load => simp [Daemon.step, loopStep, branch, pc] at h
    | fetchAdd => simp [Daemon.step, loopStep, branch, pc] at h
    | spawn => simp [Daemon.step, loopStep, branch, pc] at h
  | spawn pc =>
    cases a with
    | spawn => exact absurd rfl spawn
    | task i =>
      have same := (taskStep_pc h).2
      simp at same
    | load => simp [Daemon.step, loopStep, pc] at h
    | sleep => simp [Daemon.step, loopStep, pc] at h
    | notified => simp [Daemon.step, loopStep, pc] at h
    | accept answer => simp [Daemon.step, loopStep, pc] at h
    | fetchAdd => simp [Daemon.step, loopStep, pc] at h
    | ctrlC => simp [Daemon.step, loopStep, pc] at h

/-- The loop treats a connection as authorized exactly when there is a peer for it. -/
theorem isSome_authorize (stream : Connection) :
    (authorize policy stream).toOption.isSome = decide (answer policy stream = .authorized) := by
  unfold answer
  cases authorize policy stream <;> rfl

/-- What a step that is neither `accept` nor `spawn` does. -/
theorem step_other {a : Action} (spawn : a ≠ .spawn)
    (h : step policy exitWhenIdle s (.other a) = some s') :
    a ≠ .accept .authorized ∧ ∃ loop, Daemon.step exitWhenIdle s.loop a = some loop ∧
      s' = { s with loop } := by
  have moved {a : Action} (h : (Daemon.step exitWhenIdle s.loop a).map
      (fun loop => { s with loop }) = some s') :
      ∃ loop, Daemon.step exitWhenIdle s.loop a = some loop ∧ s' = { s with loop } := by
    obtain ⟨loop, moved, rfl⟩ := Option.map_eq_some_iff.mp h
    exact ⟨loop, moved, rfl⟩
  cases a with
  | accept answer =>
    cases answer with
    | failed => exact ⟨by simp, moved h⟩
    | refused => cases h
    | authorized => cases h
  | spawn => exact absurd rfl spawn
  | load => exact ⟨by simp, moved h⟩
  | sleep => exact ⟨by simp, moved h⟩
  | notified => exact ⟨by simp, moved h⟩
  | fetchAdd => exact ⟨by simp, moved h⟩
  | ctrlC => exact ⟨by simp, moved h⟩
  | task i => exact ⟨by simp, moved h⟩

/-- One step keeps the record. -/
theorem Recorded.step {input : Input} (hi : Recorded policy s)
    (h : step policy exitWhenIdle s input = some s') : Recorded policy s' := by
  cases input with
  | accept stream =>
    obtain ⟨loop, moved, rfl⟩ := Option.map_eq_some_iff.mp h
    obtain ⟨before, after, tasks⟩ := accept_step moved
    have free : s.peer = none := by
      have waits := hi.waits
      rwa [before, Option.isSome_eq_false_iff, Option.isNone_iff_eq_none] at waits
    refine ⟨?_, after ▸ isSome_authorize stream, ?_⟩
    · have granted := hi.granted
      rw [free, Option.toList_none, List.append_nil] at granted
      rw [grantedPeers_concat, granted]
    · rw [tasks]
      exact hi.spawned
  | other a =>
    -- Spawning takes the peer that waits; nothing else touches peers.
    by_cases spawn : a = .spawn
    · subst spawn
      obtain ⟨loop, moved, rfl⟩ := Option.map_eq_some_iff.mp h
      obtain ⟨before, after, tasks⟩ := spawn_step moved
      obtain ⟨peer, hpeer⟩ := Option.isSome_iff_exists.mp (hi.waits.trans before)
      refine ⟨?_, ?_, ?_⟩
      · rw [Option.toList_none, List.append_nil]
        exact hi.granted
      · rw [after]
        rfl
      · rw [tasks, List.length_append, hi.spawned, hpeer]
        rfl
    · obtain ⟨accept, loop, moved, rfl⟩ := step_other spawn h
      obtain ⟨same, tasks⟩ := quiet_step spawn accept moved
      exact ⟨hi.granted, hi.waits.trans same.symm, hi.spawned.trans tasks.symm⟩

/-- In every reachable state the sessions are those of the granted connections. -/
theorem Reaches.recorded (run : Reaches policy exitWhenIdle s) : Recorded policy s :=
  Runs.Steps.invariant run recorded_start (fun _ _ _ hi _ h => hi.step h)

end AcceptLoop

/-- Whoever waits for a session or has one is behind a granted connection. -/
theorem exists_of_mem_grantedPeers {policy : AuthPolicy} {accepted : List Connection}
    {peer : PeerIdentity} (mem : peer ∈ grantedPeers policy accepted) :
    Granted policy peer ∧ ∃ stream ∈ accepted, ∃ cred,
      stream.peerCred = some cred ∧ stream.identity cred = peer := by
  obtain ⟨stream, accepted, answered⟩ := List.mem_filterMap.mp mem
  have ok : authorize policy stream = .ok peer := by
    cases h : authorize policy stream with
    | error e =>
      rw [h] at answered
      cases answered
    | ok p =>
      rw [h] at answered
      cases answered
      rfl
  obtain ⟨⟨cred, known, same⟩, granted⟩ := authorize_eq_ok.mp ok
  exact ⟨granted, stream, accepted, cred, known, same⟩

/-- Whoever is served is in the list of the granted. -/
theorem AcceptLoop.Recorded.mem {policy : AuthPolicy} {s : AcceptLoop}
    (hi : AcceptLoop.Recorded policy s) {peer : PeerIdentity} (mem : peer ∈ s.sessions) :
    peer ∈ grantedPeers policy s.accepted := by
  rw [← hi.granted]
  exact List.mem_append_left _ mem

/-- Every session is for a peer that the policy lets in. -/
theorem AcceptLoop.Reaches.granted {policy : AuthPolicy} {exitWhenIdle : Option Nat}
    {s : AcceptLoop} (run : AcceptLoop.Reaches policy exitWhenIdle s) (peer : PeerIdentity)
    (mem : peer ∈ s.sessions) : Granted policy peer :=
  (exists_of_mem_grantedPeers (run.recorded.mem mem)).1

/-- Over any run the sessions, with the peer that waits for one, are those of the granted
    connections, in order; each has its task in a run of the loop; whoever is served was granted by
    the policy on what the kernel said of it. -/
theorem sessions_are_granted (policy : AuthPolicy) (exitWhenIdle : Option Nat) {s : AcceptLoop}
    (run : AcceptLoop.Reaches policy exitWhenIdle s) :
    s.sessions ++ s.peer.toList = grantedPeers policy s.accepted ∧
      s.sessions.length = s.loop.tasks.length ∧
      Runs.Steps (step exitWhenIdle) (fun _ _ => True) {} s.loop ∧
      ∀ peer ∈ s.sessions, Granted policy peer ∧ ∃ stream ∈ s.accepted, ∃ cred,
        stream.peerCred = some cred ∧ stream.identity cred = peer := by
  have hi := run.recorded
  refine ⟨hi.granted, hi.spawned, run.loop, ?_⟩
  intro peer mem
  exact exists_of_mem_grantedPeers (hi.mem mem)

/-- A policy for one app. -/
def appPolicy : AuthPolicy := { allowedUids := [10342], expectPackage := some "a.b" }

/-- The app, with the arguments of its process. -/
def appConnection : Connection where
  peerCred := some { uid := 10342, gid := 10342, pid := some 4242 }
  cmdlineFile := some [97, 46, 98, 0, 45, 118, 0]

/-- Another app. -/
def otherConnection : Connection where
  peerCred := some { uid := 10999, gid := 10999, pid := some 4243 }
  cmdlineFile := some [97, 46, 98, 0]

/-- The other app is refused, and the app is served. -/
theorem sessions_are_granted_app : ∃ s, AcceptLoop.Reaches appPolicy none s ∧
    s.accepted = [otherConnection, appConnection] ∧ s.sessions.map (·.cmdline) = [some "a.b"] ∧
    s.sessions ++ s.peer.toList = grantedPeers appPolicy s.accepted := by
  have exec : ∃ s, AcceptLoop.Reaches appPolicy none s ∧
      (s.accepted = [otherConnection, appConnection] ∧
        s.sessions.map (·.cmdline) = [some "a.b"]) := Runs.Steps.exists_of_exec
    [.other .load, .accept otherConnection, .other .load, .accept appConnection, .other .fetchAdd,
      .other .spawn] _ (by decide)
  obtain ⟨s, run, accepted, sessions⟩ := exec
  exact ⟨s, run, accepted, sessions, (sessions_are_granted appPolicy none run).1⟩

end Netdiag.Daemon
