import Netdiag.Daemon.Access

namespace Netdiag.Daemon

/-!
# The arguments of the daemon

`parse_args` of `daemon/src/main.rs`, with `SocketAddress::parse` of `daemon/src/ipc/listener.rs`.
-/

inductive SocketAddress
  /-- A leading `@`. -/
  | abstractName (name : String)
  | path (path : String)
  deriving DecidableEq, Repr

def SocketAddress.parse (spec : String) : SocketAddress :=
  match spec.toList with
  | '@' :: name => .abstractName (String.ofList name)
  | _ => .path spec

def SocketAddress.describe : SocketAddress → String
  | .abstractName name => "@" ++ name ++ " (abstract namespace)"
  | .path p => p

def defaultSocket : String := "@netdiag"

structure Args where
  socket : SocketAddress
  policy : AuthPolicy
  /-- Who gets a filesystem socket. -/
  socketOwner : Option UInt32
  logFilter : String
  selfTest : Bool
  /-- In seconds. -/
  exitWhenIdle : Option Nat
  deriving DecidableEq, Repr

/-- Before any argument was read. -/
def Args.default : Args where
  socket := SocketAddress.parse defaultSocket
  policy := {}
  socketOwner := none
  logFilter := "info"
  selfTest := false
  exitWhenIdle := none

namespace Args

/-- The first uid that is allowed owns the socket too. -/
def allowUid (args : Args) (uid : UInt32) : Args :=
  { args with
    policy := { args.policy with allowedUids := args.policy.allowedUids ++ [uid] }
    socketOwner := some (args.socketOwner.getD uid) }

/-- An option with its value. -/
def withValue (args : Args) (option value : String) : Except String Args :=
  match option with
  | "--socket" => .ok { args with socket := SocketAddress.parse value }
  | "--allow-uid" =>
    match Text.parseUnsigned (2 ^ 32 - 1) value.toList with
    | some uid => .ok (args.allowUid (UInt32.ofNat uid))
    | none => .error ("--allow-uid: '" ++ value ++ "' is not a uid")
  | "--expect-package" =>
    .ok { args with policy := { args.policy with expectPackage := some value } }
  | "--log" => .ok { args with logFilter := value }
  | "--exit-when-idle" =>
    match Text.parseUnsigned (2 ^ 64 - 1) value.toList with
    -- 0 disables it
    | some seconds => .ok { args with exitWhenIdle := if seconds > 0 then some seconds else none }
    | none => .error ("--exit-when-idle: '" ++ value ++ "' is not a number")
  | other => .error ("unknown argument '" ++ other ++ "'; try --help")

def takesValue (option : String) : Bool :=
  option == "--socket" || option == "--allow-uid" || option == "--expect-package" ||
    option == "--log" || option == "--exit-when-idle"

/-- The arguments that are left; `none` once `--help` or `--version` was printed. -/
def parseFrom (args : Args) : List String → Except String (Option Args)
  | [] => .ok (some args)
  | "-h" :: _ | "--help" :: _ | "--version" :: _ => .ok none
  | "--self-test" :: rest => parseFrom { args with selfTest := true } rest
  | [arg] =>
    if takesValue arg then .error (arg ++ " needs a value")
    else .error ("unknown argument '" ++ arg ++ "'; try --help")
  | arg :: value :: rest =>
    if takesValue arg then
      match args.withValue arg value with
      | .ok args => parseFrom args rest
      | .error e => .error e
    else .error ("unknown argument '" ++ arg ++ "'; try --help")

end Args

/-- `parse_args`, without the name of the program. -/
def parseArgs (args : List String) : Except String (Option Args) := Args.default.parseFrom args

/-! ### Arguments that were written -/

/-- The value of `--socket`. -/
def SocketAddress.spec : SocketAddress → String
  | .abstractName name => "@" ++ name
  | .path p => p

namespace Args

/-- The arguments that say the same. -/
def print (args : Args) : List String :=
  ["--socket", args.socket.spec] ++
    args.policy.allowedUids.flatMap (fun uid => ["--allow-uid", toString uid]) ++
    args.policy.expectPackage.toList.flatMap (fun package => ["--expect-package", package]) ++
    (if args.logFilter = "info" then [] else ["--log", args.logFilter]) ++
    args.exitWhenIdle.toList.flatMap (fun seconds => ["--exit-when-idle", toString seconds]) ++
    (if args.selfTest then ["--self-test"] else [])

/-- What arguments can say: a path that is no abstract name, the first uid as the owner, and a
    timeout of 64 bits that is not zero. -/
structure Sayable (args : Args) : Prop where
  path : ∀ p, args.socket = .path p → p.toList.head? ≠ some '@'
  owner : args.socketOwner = args.policy.allowedUids.head?
  timeout : ∀ seconds ∈ args.exitWhenIdle, 0 < seconds ∧ seconds < 2 ^ 64

/-- An option with its value is read and taken off; what is left is parsed from the new
    arguments. -/
theorem parseFrom_value {args args' : Args} {option value : String} (rest : List String)
    (h : takesValue option = true) (read : args.withValue option value = .ok args') :
    args.parseFrom (option :: value :: rest) = args'.parseFrom rest := by
  -- An option that takes a value is none of those that are looked at first.
  have plain : option ≠ "-h" ∧ option ≠ "--help" ∧ option ≠ "--version" ∧
      option ≠ "--self-test" := by
    refine ⟨?_, ?_, ?_, ?_⟩ <;> (rintro rfl; exact absurd h (by decide))
  rw [parseFrom, if_pos h, read]
  · exact plain.1
  · exact plain.2.1
  · exact plain.2.2.1
  · exact plain.2.2.2

/-- A socket address is read back from its command-line form, unless a path could be taken for an
    abstract name. -/
theorem parse_spec {socket : SocketAddress}
    (path : ∀ p, socket = .path p → p.toList.head? ≠ some '@') :
    SocketAddress.parse socket.spec = socket := by
  cases socket with
  | abstractName name => simp [SocketAddress.parse, SocketAddress.spec, String.toList_append]
  | path p =>
    have head := path p rfl
    unfold SocketAddress.parse SocketAddress.spec
    split
    -- A path that begins like an abstract name is excluded.
    · rename_i name eq
      rw [eq] at head
      exact absurd rfl head
    · rfl

/-- A number is read back from its decimal digits. -/
theorem parseUnsigned_toString {max n : Nat} (h : n ≤ max) :
    Text.parseUnsigned max (toString n).toList = some n := by
  have digits : (toString n).toList = Nat.toDigits 10 n := Nat.toList_repr
  rw [digits, Text.parseUnsigned_toDigits h]

/-- One `--allow-uid` adds its uid. -/
theorem parseFrom_allowUid (args : Args) (uid : UInt32) (rest : List String) :
    args.parseFrom ("--allow-uid" :: toString uid :: rest) = (args.allowUid uid).parseFrom rest := by
  have small : uid.toNat ≤ 2 ^ 32 - 1 := by
    have := uid.toNat_lt
    omega
  have number := parseUnsigned_toString small
  apply parseFrom_value rest rfl
  -- The arm of `--allow-uid`.
  show (match Text.parseUnsigned (2 ^ 32 - 1) (toString uid.toNat).toList with
    | some uid => Except.ok (args.allowUid (UInt32.ofNat uid))
    | none => .error ("--allow-uid: '" ++ toString uid ++ "' is not a uid")) = _
  rw [number]
  simp

/-- The uids are added in turn; the first owns the socket. -/
theorem parseFrom_allowUids (args : Args) (uids : List UInt32) (rest : List String) :
    args.parseFrom (uids.flatMap (fun uid => ["--allow-uid", toString uid]) ++ rest) =
      parseFrom { args with
        policy := { args.policy with allowedUids := args.policy.allowedUids ++ uids }
        socketOwner := args.socketOwner.or uids.head? } rest := by
  induction uids generalizing args with
  | nil => simp
  | cons uid uids ih =>
    -- The first uid decides about the owner, if there is none yet.
    have more := ih (args.allowUid uid)
    rw [List.flatMap_cons, List.append_assoc]
    show args.parseFrom ("--allow-uid" :: toString uid ::
      (uids.flatMap (fun uid => ["--allow-uid", toString uid]) ++ rest)) = _
    rw [parseFrom_allowUid, more]
    cases owner : args.socketOwner <;> simp [allowUid, owner]

/-- The package is read back, given or not, if none was read before it. -/
theorem parseFrom_expectPackage (args : Args) (package : Option String) (rest : List String)
    (unset : args.policy.expectPackage = none) :
    args.parseFrom (package.toList.flatMap (fun package => ["--expect-package", package]) ++ rest) =
      parseFrom { args with policy := { args.policy with expectPackage := package } } rest := by
  cases package with
  -- Nothing is printed, and nothing was there.
  | none =>
    have same : { args with policy := { args.policy with expectPackage := none } } = args := by
      rw [← unset]
    rw [same]
    rfl
  | some package => exact parseFrom_value rest rfl rfl

/-- The timeout is read back, given or not, if it is one that the parser accepts. -/
theorem parseFrom_exitWhenIdle (args : Args) (timeout : Option Nat) (rest : List String)
    (unset : args.exitWhenIdle = none) (h : ∀ seconds ∈ timeout, 0 < seconds ∧ seconds < 2 ^ 64) :
    args.parseFrom (timeout.toList.flatMap (fun seconds => ["--exit-when-idle", toString seconds]) ++
      rest) = parseFrom { args with exitWhenIdle := timeout } rest := by
  cases timeout with
  | none =>
    have same : { args with exitWhenIdle := none } = args := by rw [← unset]
    rw [same]
    rfl
  | some seconds =>
    -- Zero would be read as no timeout.
    obtain ⟨pos, small⟩ := h seconds rfl
    have number := parseUnsigned_toString (show seconds ≤ 2 ^ 64 - 1 by omega)
    apply parseFrom_value rest rfl
    show (match Text.parseUnsigned (2 ^ 64 - 1) (toString seconds).toList with
      | some n => Except.ok { args with exitWhenIdle := if n > 0 then some n else none }
      | none => .error ("--exit-when-idle: '" ++ toString seconds ++ "' is not a number")) = _
    rw [number]
    simp [pos]

/-- The log filter is read back; the default one is not printed. -/
theorem parseFrom_logFilter (args : Args) (filter : String) (rest : List String)
    (unset : args.logFilter = "info") :
    args.parseFrom ((if filter = "info" then [] else ["--log", filter]) ++ rest) =
      parseFrom { args with logFilter := filter } rest := by
  split_ifs with same
  · rw [same, ← unset]
    rfl
  · exact parseFrom_value rest rfl rfl

/-- The printed arguments are read option by option, in the order they are printed in. -/
theorem parseFrom_print {args : Args} (h : args.Sayable) :
    Args.default.parseFrom args.print = .ok (some args) := by
  have socket : Args.default.withValue "--socket" args.socket.spec =
      .ok { Args.default with socket := args.socket } := by
    show Except.ok { Args.default with socket := SocketAddress.parse args.socket.spec } = _
    rw [parse_spec h.path]
  unfold print
  simp only [List.append_assoc]
  show Args.default.parseFrom ("--socket" :: args.socket.spec :: _) = _
  rw [parseFrom_value _ rfl socket]
  show parseFrom _ (args.policy.allowedUids.flatMap (fun uid => ["--allow-uid", toString uid]) ++ _) = _
  rw [parseFrom_allowUids, parseFrom_expectPackage _ _ _ rfl, parseFrom_logFilter _ _ _ rfl,
    parseFrom_exitWhenIdle _ _ _ rfl h.timeout]
  -- Only `--self-test` is left.
  obtain ⟨socket, policy, owner, filter, selfTest, timeout⟩ := args
  have first : owner = policy.allowedUids.head? := h.owner
  subst first
  cases selfTest <;> rfl

end Args

/-- Arguments that were written are read back. -/
theorem parseArgs_print {args : Args} (h : args.Sayable) :
    parseArgs args.print = .ok (some args) := Args.parseFrom_print h

/-- Two apps on a socket in the filesystem. -/
def twoApps : Args where
  socket := .path "/data/local/tmp/netdiag.sock"
  policy := { allowedUids := [10342, 10343] }
  socketOwner := some 10342
  logFilter := "debug"
  selfTest := false
  exitWhenIdle := some 60

/-- A command line for two apps, with every option but the package. -/
theorem parseArgs_print_twoApps : parseArgs ["--socket", "/data/local/tmp/netdiag.sock",
    "--allow-uid", "10342", "--allow-uid", "10343", "--log", "debug", "--exit-when-idle", "60"] =
      .ok (some twoApps) := by
  have sayable : twoApps.Sayable := by
    refine ⟨?_, rfl, ?_⟩
    · intro p h
      cases h
      decide
    · intro seconds h
      cases h
      decide
  exact parseArgs_print sayable

end Netdiag.Daemon
