import Netdiag.Daemon.Args
import Netdiag.Lib.Shell

namespace Netdiag.Platform

open Netdiag.Daemon

/-!
# Starting the daemon

`start_daemon` of `slint-app/src/platform/android.rs`: the app has `su` run one command line, and
polls until something listens.

* `daemonCommand_reads` — whatever the path and the package name are, the shell reads the line as
  `nohup` and the daemon with the arguments that were meant.
* `startDaemon` — every probe, process and pause of one call.
* `started_daemon_serves_the_app` — from the command line to the sessions of the daemon it starts.
-/

/-- How long the daemon keeps listening after the last client disconnects, in seconds. -/
def daemonIdleTimeoutSecs : Nat := 300

/-- The name the client connects to, in the abstract namespace. -/
def defaultSocketName : String := "netdiag"

/-- A text between single quotes. -/
def quoted (text : String) : String :=
  "'" ++ String.ofList (Shell.escapeQuotes text.toList) ++ "'"

def daemonCommand (path package : String) (uid : UInt32) : String :=
  "nohup " ++ quoted path ++ " --socket @netdiag --allow-uid " ++ toString uid ++
    " --expect-package " ++ quoted package ++ " --exit-when-idle " ++
    toString daemonIdleTimeoutSecs ++ " >/dev/null 2>&1 &"

/-- What the daemon is asked to do. -/
def daemonArgs (package : String) (uid : UInt32) : Args where
  socket := .abstractName "netdiag"
  policy := { allowedUids := [uid], expectPackage := some package }
  socketOwner := some uid
  logFilter := "info"
  selfTest := false
  exitWhenIdle := some daemonIdleTimeoutSecs

/-! ### The command line -/

/-- The words of the line. -/
def commandWords (path package : String) (uid : UInt32) : List Shell.Written :=
  [.bare "nohup".toList, .quoted path.toList, .bare "--socket".toList, .bare "@netdiag".toList,
    .bare "--allow-uid".toList, .bare (toString uid).toList, .bare "--expect-package".toList,
    .quoted package.toList, .bare "--exit-when-idle".toList, .bare "300".toList]

theorem daemonCommand_toList (path package : String) (uid : UInt32) :
    (daemonCommand path package uid).toList =
      (commandWords path package uid).flatMap (fun w => w.print ++ [' ']) ++
        ">/dev/null 2>&1 &".toList := by
  have pause : (toString daemonIdleTimeoutSecs).toList = "300".toList := by decide +kernel
  simp only [daemonCommand, quoted, String.toList_append, String.toList_ofList, pause]
  simp [commandWords, Shell.Written.print]

theorem isPlain_of_isDigit {c : Char} (digit : c.isDigit = true) : Shell.isPlain c = true := by
  have ne (d : Char) (other : d.isDigit = false) : c ≠ d := by
    rintro rfl
    rw [digit] at other
    cases other
  have special : Shell.isSpecial c = false := by
    rw [Shell.isSpecial, decide_eq_false_iff_not]
    intro mem
    have others : ['\x22', '$', '\x60', '|', ';', '<', '(', ')', '*', '?', '[', ']', '#', '~', '!',
        '\x7b', '\x7d', '\n'].all (fun d => !d.isDigit) = true := rfl
    have other : (!c.isDigit) = true := List.all_eq_true.mp others c mem
    rw [digit] at other
    cases other
  simp [Shell.isPlain, special, Shell.isBlank, ne ' ' rfl, ne '\t' rfl, ne '\'' rfl, ne '\\' rfl,
    ne '>' rfl, ne '&' rfl]

theorem readable_commandWords (path package : String) (uid : UInt32) :
    ∀ w ∈ commandWords path package uid, w.Readable := by
  have number : (Shell.Written.bare (toString uid).toList).Readable := by
    have digits : (toString uid).toList = Nat.toDigits 10 uid.toNat := Nat.toList_repr
    rw [digits]
    exact ⟨Nat.toDigits_ne_nil, fun c hc => isPlain_of_isDigit (Text.toDigits_isDigit hc)⟩
  simp only [commandWords, List.forall_mem_cons]
  refine ⟨by decide +kernel, trivial, by decide +kernel, by decide +kernel, by decide +kernel,
    number, by decide +kernel, trivial, by decide +kernel, by decide +kernel, ?_⟩
  exact fun _ h => absurd h List.not_mem_nil

/-- What the line says behind its words. -/
def tailTokens : List Shell.Token :=
  [.great, .word "/dev/null".toList, .ioNumber ['2'], .greatAnd, .word ['1'], .ampersand]

/-- The line, read: in the background, with its output thrown away. -/
def parsedCommand (path package : String) (uid : UInt32) : Shell.Command where
  argv := (commandWords path package uid).map Shell.Written.text
  redirects := [⟨['1'], false, "/dev/null".toList⟩, ⟨['2'], true, ['1']⟩]
  background := true

theorem lex_daemonCommand (path package : String) (uid : UInt32) :
    Shell.lex (daemonCommand path package uid).toList =
      some ((commandWords path package uid).map (fun w => .word w.text) ++ tailTokens) := by
  have words := Shell.Lexer.run_words _ (readable_commandWords path package uid) []
  have tail (tokens : List Shell.Token) :
      (Shell.Lexer.run { tokens } ">/dev/null 2>&1 &".toList).bind Shell.Lexer.finish =
        some (tokens ++ tailTokens) := by
    show some (((((tokens ++ [.great]) ++ [.word "/dev/null".toList]) ++ [.ioNumber ['2']]) ++
      [.greatAnd]) ++ [.word ['1']] ++ [.ampersand]) = _
    simp [tailTokens]
  rw [Shell.lex, daemonCommand_toList, Shell.Lexer.run_append, words, Option.bind_some, tail,
    List.nil_append]

/-- The shell reads the line as `nohup` and the daemon, in the background. -/
theorem command_daemonCommand (path package : String) (uid : UInt32) :
    Shell.command (daemonCommand path package uid).toList =
      some (parsedCommand path package uid) := by
  have tail : Shell.parse tailTokens = some
      { redirects := [⟨['1'], false, "/dev/null".toList⟩, ⟨['2'], true, ['1']⟩]
        background := true } := rfl
  have tokens : (commandWords path package uid).map (fun w => Shell.Token.word w.text) =
      ((commandWords path package uid).map Shell.Written.text).map .word := by
    rw [List.map_map]
    rfl
  have simple : (parsedCommand path package uid).isSimple = true := rfl
  rw [Shell.command, lex_daemonCommand, Option.bind_some, tokens, Shell.parse_words, tail,
    Option.map_some, List.append_nil]
  show (some (parsedCommand path package uid)).filter Shell.Command.isSimple = _
  rw [Option.filter_some, simple, if_pos rfl]

theorem argv_parsedCommand (path package : String) (uid : UInt32) :
    (parsedCommand path package uid).argv.map String.ofList =
      ["nohup", path] ++ (daemonArgs package uid).print := by
  simp only [parsedCommand, commandWords, List.map_cons, List.map_nil, Shell.Written.text,
    String.ofList_toList]
  rfl

theorem sayable_daemonArgs (package : String) (uid : UInt32) :
    (daemonArgs package uid).Sayable where
  path := by
    intro p h
    cases h
  owner := rfl
  timeout := by
    intro seconds h
    cases h
    decide

/-! ### Starting it -/

/-- What `start_daemon` does. -/
inductive StartCall
  /-- `DaemonClient::probe`, and whether anything listens. -/
  | probe (listens : Bool)
  | run (su : String) (command : String)
  | sleep (ms : Nat)
  deriving DecidableEq, Repr

/-- How a process that was run ended. -/
structure ExitStatus where
  success : Bool
  text : String

/-- The device: what each probe finds, which paths exist, and how running `su` ends. -/
structure Device where
  listens : Nat → Bool
  pathExists : String → Bool
  status : Except String ExitStatus

def findSu (pathExists : String → Bool) : String :=
  (["/system/bin/su", "/su/bin/su", "su"].find?
    (fun candidate => candidate == "su" || pathExists candidate)).getD "su"

/-- `left` more probes, the next of them the `n`-th. -/
def pollDaemon (listens : Nat → Bool) : (left : Nat) → (n : Nat) → List StartCall × Bool
  | 0, _ => ([], false)
  | left + 1, n =>
    if listens n then ([.probe true], true)
    else
      let (calls, found) := pollDaemon listens left (n + 1)
      (.probe false :: .sleep 150 :: calls, found)

/-- `start_daemon`: what it does, and how it ends. -/
def startDaemon (path package : String) (uid : UInt32) (d : Device) :
    List StartCall × Except String Unit :=
  -- A daemon that already listens is used.
  if d.listens 0 then ([.probe true], .ok ())
  else
    let su := findSu d.pathExists
    let before := [.probe false, .run su (daemonCommand path package uid)]
    match d.status with
    -- `su` did not start, which is not the same as its refusal.
    | .error e => (before, .error ("could not run " ++ su ++ ": " ++ e))
    | .ok status =>
      if status.success then
        -- It runs in the background: wait for its socket.
        let (calls, found) := pollDaemon d.listens 50 1
        (before ++ calls, if found then .ok () else .error "the daemon did not bind @netdiag")
      else
        (before, .error (su ++ " refused to start the daemon (exit " ++ status.text ++ ")"))

namespace StartCall

def isProbe : StartCall → Bool
  | .probe _ => true
  | .run _ _ | .sleep _ => false

def isRun : StartCall → Bool
  | .run _ _ => true
  | .probe _ | .sleep _ => false

end StartCall

/-- A poll finds what its probes find, and only probes and sleeps. -/
theorem pollDaemon_spec (listens : Nat → Bool) (left n : Nat) :
    ((pollDaemon listens left n).2 = true ↔ StartCall.probe true ∈ (pollDaemon listens left n).1) ∧
      (pollDaemon listens left n).1.countP StartCall.isProbe ≤ left ∧
      (pollDaemon listens left n).1.countP StartCall.isRun = 0 := by
  induction left generalizing n with
  | zero => simp [pollDaemon]
  | succ left ih =>
    obtain ⟨found, probes, runs⟩ := ih (n + 1)
    rw [pollDaemon]
    split_ifs with h
    · simp [StartCall.isProbe, StartCall.isRun]
    · refine ⟨?_, ?_, ?_⟩
      · simpa using found
      · rw [List.countP_cons_of_pos rfl, List.countP_cons_of_neg (by decide)]
        omega
      · rw [List.countP_cons_of_neg (by decide), List.countP_cons_of_neg (by decide)]
        exact runs

/-- What `start_daemon` promises: it ends well exactly when a probe found a listener, it probes at
    most 51 times, and it has `su` run the line above, at most once, after a probe found nothing. -/
structure Started (path package : String) (uid : UInt32) (calls : List StartCall)
    (result : Except String Unit) : Prop where
  ok : result = .ok () ↔ .probe true ∈ calls
  probes : calls.countP StartCall.isProbe ≤ 51
  once : calls.countP StartCall.isRun ≤ 1
  run : ∀ su command, .run su command ∈ calls →
    command = daemonCommand path package uid ∧ calls.head? = some (.probe false)

theorem not_mem_of_countP_isRun {calls : List StartCall} (h : calls.countP StartCall.isRun = 0)
    (su command : String) : .run su command ∉ calls := by
  intro mem
  have := List.countP_eq_zero.mp h _ mem
  exact this rfl

/-- Whatever the device does, `start_daemon` keeps its promises. -/
theorem startDaemon_started (path package : String) (uid : UInt32) (d : Device) :
    Started path package uid (startDaemon path package uid d).1
      (startDaemon path package uid d).2 := by
  -- before the polling
  have before (e : String) : Started path package uid
      [.probe false, .run (findSu d.pathExists) (daemonCommand path package uid)] (.error e) := by
    refine ⟨by simp, (by decide : 1 ≤ 51), (by decide : 1 ≤ 1), ?_⟩
    intro su command mem
    rcases List.mem_cons.mp mem with probe | rest
    · cases probe
    · cases List.mem_singleton.mp rest
      exact ⟨rfl, rfl⟩
  unfold startDaemon
  split_ifs with already
  · refine ⟨by simp, (by decide : 1 ≤ 51), (by decide : 0 ≤ 1), ?_⟩
    simp
  · cases d.status with
    | error e => exact before _
    | ok status =>
      obtain ⟨found, probes, runs⟩ := pollDaemon_spec d.listens 50 1
      show Started path package uid (if status.success then _ else _ : List StartCall × _).1
        (if status.success then _ else _ : List StartCall × _).2
      split_ifs with success
      · generalize pollDaemon d.listens 50 1 = poll at found probes runs
        obtain ⟨calls, listening⟩ := poll
        refine ⟨?_, ?_, ?_, ?_⟩
        · cases listening <;> simp_all
        · rw [List.countP_append]
          show 1 + calls.countP StartCall.isProbe ≤ 51
          have : calls.countP StartCall.isProbe ≤ 50 := probes
          omega
        · rw [List.countP_append, runs]
          exact (by decide : 1 ≤ 1)
        · intro su command mem
          rcases List.mem_append.mp mem with first | later
          · exact (before "").run su command first
          · exact absurd later (not_mem_of_countP_isRun runs su command)
      · exact before _

/-- Whatever the path and the package name are: the shell reads the line that `su` is given as
    `nohup` and the daemon, in the background; the daemon reads from its arguments the socket the
    app connects to, the timeout and a policy; and in every run of its accept loop its sessions are
    those of root and of the app's uid, from a process that is named after the package if its name
    can be read. -/
theorem started_daemon_serves_the_app (path package : String) (uid : UInt32) :
    ∃ (c : Shell.Command) (args : Args),
      Shell.command (daemonCommand path package uid).toList = some c ∧ c.background = true ∧
      c.argv.map String.ofList = ["nohup", path] ++ args.print ∧
      parseArgs args.print = .ok (some args) ∧
      args.socket = .abstractName defaultSocketName ∧
      args.exitWhenIdle = some daemonIdleTimeoutSecs ∧
      ∀ s, AcceptLoop.Reaches args.policy args.exitWhenIdle s → ∀ peer ∈ s.sessions,
        (peer.uid = 0 ∨ peer.uid = uid) ∧ ∀ actual ∈ peer.cmdline, actual = package := by
  refine ⟨parsedCommand path package uid, daemonArgs package uid,
    command_daemonCommand path package uid, rfl, argv_parsedCommand path package uid,
    Args.parseFrom_print (sayable_daemonArgs package uid), rfl, rfl, ?_⟩
  intro s run peer mem
  have granted := run.granted peer mem
  refine ⟨?_, ?_⟩
  · rcases granted.uid with root | listed
    · exact .inl root
    · exact .inr (List.mem_singleton.mp listed)
  · exact granted.package package rfl

end Netdiag.Platform
