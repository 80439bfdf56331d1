import Netdiag.Lib.Runs
import Mathlib.Tactic.Common

namespace Netdiag.Daemon

/-!
# The socket file

Any number of daemons that bind a socket at one path, serve, clean up or are killed:
`daemon/src/ipc/listener.rs`, one step for each system call, in any order.

* `Site`, `step` — the file at the path and the daemons.
* `Orderly` — no daemon starts to bind while another one is between its probe and `listen`.
* `Inv` — a daemon from `listen` on has its own socket at the path; one that found nobody there is
  alone.
* `served_by_one` — in an orderly run nobody takes the address of a daemon that serves;
  `bind_succeeds` — what a dead one left behind is no obstacle.
-/

/-! ### The path and the daemons -/

structure Permissions where
  /-- As the process creates files, if none. -/
  mode : Option Nat := none
  /-- The owner, and its group. -/
  uid : Nat := 0
  deriving DecidableEq, Repr

/-- What is at the path. -/
inductive Entry
  | absent
  /-- A file nobody listens on, from before. -/
  | stale
  | directory
  /-- The socket that a daemon bound. -/
  | socket (daemon : Nat) (permissions : Permissions)
  deriving DecidableEq, Repr

/-- Where a daemon is: before which call of `bind` or of `cleanup`. -/
inductive BindPc
  /-- `path.exists` in `remove_stale_socket`. -/
  | probe
  /-- `UnixStream::connect`. -/
  | connect
  /-- `remove_file`. -/
  | remove
  /-- `create_dir_all`. -/
  | createDir
  | bind
  | listen
  /-- `set_permissions`. -/
  | chmod
  | chown
  | serving
  /-- `path.exists` in `cleanup`. -/
  | cleanup
  /-- `remove_file` in `cleanup`. -/
  | unlink
  /-- `bind` returned an error, and the daemon ended. -/
  | failed (reason : String)
  /-- After `cleanup`, or killed. -/
  | gone
  deriving DecidableEq, Repr

structure BindCall where
  pc : BindPc := .probe
  ownerUid : Option Nat := none
  deriving DecidableEq, Repr

namespace BindPc

/-- From the probe to `listen`. -/
def binds : BindPc → Bool
  | .connect | .remove | .createDir | .bind | .listen => true
  | _ => false

/-- It found nobody that listens. -/
def foundNobody : BindPc → Bool
  | .remove | .createDir | .bind => true
  | _ => false

/-- Its socket is bound, and it has not unlinked it. -/
def owns : BindPc → Bool
  | .listen | .chmod | .chown | .serving | .cleanup | .unlink => true
  | _ => false

/-- A connection to its socket is taken. -/
def listens : BindPc → Bool
  | .chmod | .chown | .serving | .cleanup | .unlink => true
  | _ => false

end BindPc

/-- The permissions of its socket, while it owns the path. -/
def BindCall.permissions (d : BindCall) : Option Permissions :=
  match d.pc with
  | .listen | .chmod => some {}
  | .chown => some { mode := some 0o600 }
  | .serving | .cleanup | .unlink => some { mode := some 0o600, uid := d.ownerUid.getD 0 }
  | _ => none

structure Site where
  entry : Entry := .absent
  daemons : List BindCall := []
  deriving DecidableEq, Repr

namespace Site

/-- Somebody listens on the socket at the path. -/
def inUse (s : Site) : Bool :=
  match s.entry with
  | .socket i _ => (s.daemons[i]?).any (·.pc.listens)
  | .absent | .stale | .directory => false

inductive Action
  /-- Another daemon is started. -/
  | start (ownerUid : Option Nat)
  /-- A daemon makes its next call, which the system may let fail. -/
  | run (i : Nat) (ok : Bool)
  /-- The accept loop of a daemon ends. -/
  | stop (i : Nat)
  | kill (i : Nat)
  deriving DecidableEq, Repr

/-- `remove_file`. -/
def removed : Entry → Option Entry
  | .stale | .socket _ _ => some .absent
  | .absent | .directory => none

/-- `chmod` and `chown` act on what is at the path. -/
def withPermissions (f : Permissions → Permissions) : Entry → Option Entry
  | .socket i p => some (.socket i (f p))
  | .stale => some .stale
  | .directory => some .directory
  | .absent => none

/-- The next call of the `i`-th daemon: the entry and the place after it. -/
def call (s : Site) (i : Nat) (d : BindCall) (ok : Bool) : Option (Entry × BindPc) :=
  match d.pc with
  | .probe => some (s.entry, if s.entry = .absent then .createDir else .connect)
  | .connect =>
    some (s.entry, if s.inUse then .failed "is already in use by a running daemon" else .remove)
  | .remove =>
    match (removed s.entry).filter (fun _ => ok) with
    | some entry => some (entry, .createDir)
    | none => some (s.entry, .failed "could not remove")
  | .createDir => some (s.entry, if ok then .bind else .failed "could not create the directory")
  | .bind =>
    if ok ∧ s.entry = .absent then some (.socket i {}, .listen)
    else some (s.entry, .failed "could not bind")
  | .listen => some (s.entry, if ok then .chmod else .failed "could not bind")
  | .chmod =>
    match (withPermissions (fun p => { p with mode := some 0o600 }) s.entry).filter (fun _ => ok) with
    | some entry => some (entry, .chown)
    | none => some (s.entry, .failed "could not chmod")
  | .chown =>
    match d.ownerUid with
    | none => some (s.entry, .serving)
    | some uid =>
      match (withPermissions (fun p => { p with uid }) s.entry).filter (fun _ => ok) with
      | some entry => some (entry, .serving)
      | none => some (s.entry, .failed "could not chown")
  | .cleanup => some (s.entry, if s.entry = .absent then .gone else .unlink)
  -- a failure is only a warning
  | .unlink => some (((removed s.entry).filter (fun _ => ok)).getD s.entry, .gone)
  | .serving | .failed _ | .gone => none

/-- The `i`-th daemon moves. -/
def moved (s : Site) (i : Nat) (d : BindCall) (entry : Entry) (pc : BindPc) : Site :=
  { entry, daemons := s.daemons.set i { d with pc } }

def step (s : Site) : Action → Option Site
  | .start ownerUid => some { s with daemons := s.daemons ++ [{ ownerUid }] }
  | .run i ok => (s.daemons[i]?).bind (fun d =>
      (s.call i d ok).map (fun r => s.moved i d r.1 r.2))
  | .stop i => (s.daemons[i]?).bind (fun d =>
      if d.pc = .serving then some (s.moved i d s.entry .cleanup) else none)
  | .kill i => (s.daemons[i]?).map (fun d => s.moved i d s.entry .gone)

/-- No daemon probes while another one is between its probe and `listen`. -/
def Orderly (s : Site) : Action → Prop
  | .run i _ => (s.daemons[i]?).any (fun d => d.pc = .probe) = true →
      ∀ d ∈ s.daemons, d.pc.binds = false
  | .start _ | .stop _ | .kill _ => True

instance : ∀ (s : Site) (a : Action), Decidable (s.Orderly a)
  | _, .run _ _ => inferInstanceAs (Decidable (_ → _))
  | _, .start _ | _, .stop _ | _, .kill _ => inferInstanceAs (Decidable True)

/-! ### The invariant -/

/-- What holds in every state of an orderly run. -/
structure Inv (s : Site) : Prop where
  alone : ∀ {i j : Nat} {d e : BindCall}, s.daemons[i]? = some d → s.daemons[j]? = some e →
    d.pc.binds = true → e.pc.binds = true → i = j
  owned : ∀ {i : Nat} {d : BindCall} {p : Permissions}, s.daemons[i]? = some d →
    d.permissions = some p → s.entry = .socket i p
  nobody : ∀ {i j : Nat} {d e : BindCall}, s.daemons[i]? = some d → s.daemons[j]? = some e →
    d.pc.foundNobody = true → e.permissions = none

/-- At the start nobody is bound. -/
theorem inv_start (entry : Entry) : Inv { entry } := ⟨by simp, by simp, by simp⟩

/-- What one call may do so that the invariant is kept. -/
structure Keeps (s : Site) (i : Nat) (d : BindCall) (entry : Entry) (pc : BindPc) : Prop where
  /-- It binds, or nobody does. -/
  binds : pc.binds = true → d.pc.binds = true ∨ ∀ e ∈ s.daemons, e.pc.binds = false
  /-- It owns what it changes, or nobody owns anything. -/
  changes : entry ≠ s.entry → ∀ j e, i ≠ j → s.daemons[j]? = some e → e.permissions = none
  owned : ∀ p, { d with pc }.permissions = some p → entry = .socket i p ∧
    (d.permissions.isSome = true ∨ d.pc.binds = true)
  nobody : pc.foundNobody = true → ∀ j e, i ≠ j → s.daemons[j]? = some e → e.permissions = none

/-- A daemon that found nobody goes on to bind. -/
theorem foundNobody_binds {pc : BindPc} (h : pc.foundNobody = true) : pc.binds = true := by
  cases pc <;> first | rfl | cases h

/-- Before the bind there are no permissions to set. -/
theorem permissions_of_foundNobody {d : BindCall} (h : d.pc.foundNobody = true) :
    d.permissions = none := by
  unfold BindCall.permissions
  cases pc : d.pc <;> rw [pc] at h <;> first | rfl | cases h

/-- A daemon with permissions is about to listen, or listens. -/
theorem listen_or_listens {d : BindCall} {p : Permissions} (h : d.permissions = some p) :
    d.pc = .listen ∨ d.pc.listens = true := by
  unfold BindCall.permissions at h
  cases pc : d.pc <;> rw [pc] at h <;> first | exact .inl rfl | exact .inr rfl | cases h

variable {s s' : Site} {i j : Nat} {d : BindCall}

/-- A move of one daemon keeps the invariant if it keeps what the invariant says of it. -/
theorem Inv.moved (hi : Inv s) (hd : s.daemons[i]? = some d) {entry : Entry} {pc : BindPc}
    (keeps : Keeps s i d entry pc) : Inv (s.moved i d entry pc) := by
  -- the one that moved binds alone
  have only {j : Nat} {e : BindCall} (he : s.daemons[j]? = some e) (binds : e.pc.binds = true)
      (moves : pc.binds = true) : i = j := by
    rcases keeps.binds moves with before | none
    · exact hi.alone hd he before binds
    · rw [none e (List.mem_of_getElem? he)] at binds
      cases binds
  refine ⟨?_, ?_, ?_⟩
  · intro j k e f he hf binds binds'
    rcases Runs.set_cases hd he with ⟨rfl, rfl⟩ | ⟨-, he⟩
    · rcases Runs.set_cases hd hf with ⟨rfl, rfl⟩ | ⟨-, hf⟩
      · rfl
      · exact only hf binds' binds
    · rcases Runs.set_cases hd hf with ⟨rfl, rfl⟩ | ⟨-, hf⟩
      · exact (only he binds binds').symm
      · exact hi.alone he hf binds binds'
  · intro j e p he permissions
    rcases Runs.set_cases hd he with ⟨rfl, rfl⟩ | ⟨ne, he⟩
    · exact (keeps.owned p permissions).1
    · -- what it does not own stays as it was
      have there := hi.owned he permissions
      by_contra changed
      have other := keeps.changes (fun same => changed (same.trans there)) j e ne he
      rw [permissions] at other
      cases other
  · intro j k e f he hf nobody
    rcases Runs.set_cases hd he with ⟨rfl, rfl⟩ | ⟨other, he⟩
    · rcases Runs.set_cases hd hf with ⟨rfl, rfl⟩ | ⟨ne, hf⟩
      · exact permissions_of_foundNobody nobody
      · exact keeps.nobody nobody k f ne hf
    · rcases Runs.set_cases hd hf with ⟨rfl, rfl⟩ | ⟨-, hf⟩
      · rw [Option.eq_none_iff_forall_ne_some]
        intro p permissions
        rcases (keeps.owned p permissions).2 with owned | binds
        · rw [hi.nobody he hd nobody] at owned
          cases owned
        · exact other (hi.alone hd he binds (foundNobody_binds nobody))
      · exact hi.nobody he hf nobody

/-- Nobody owns a path at which another one's socket is, or none. -/
theorem Inv.permissions_eq_none (hi : Inv s) {e : BindCall} (he : s.daemons[j]? = some e)
    (free : ∀ p, s.entry ≠ .socket j p) : e.permissions = none := by
  rw [Option.eq_none_iff_forall_ne_some]
  intro p permissions
  exact free p (hi.owned he permissions)

/-- An entry that stays, and a place that owns nothing. -/
theorem Keeps.of_idle {pc : BindPc} (binds : pc.binds = false)
    (permissions : { d with pc }.permissions = none) : Keeps s i d s.entry pc := by
  refine ⟨?_, ?_, ?_, ?_⟩
  · intro h
    rw [binds] at h
    cases h
  · exact fun h => absurd rfl h
  · intro p h
    rw [permissions] at h
    cases h
  · intro h
    rw [foundNobody_binds h] at binds
    cases binds

/-- The owner goes on. -/
theorem Keeps.of_owner (hi : Inv s) (hd : s.daemons[i]? = some d) {p : Permissions}
    (permissions : d.permissions = some p) {entry : Entry} {pc : BindPc}
    (binds : pc.binds = true → d.pc.binds = true) (nobody : pc.foundNobody = false)
    (owned : ∀ q, { d with pc }.permissions = some q → entry = .socket i q) :
    Keeps s i d entry pc := by
  have there := hi.owned hd permissions
  refine ⟨fun h => .inl (binds h), ?_, ?_, ?_⟩
  · intro _ j e ne he
    apply hi.permissions_eq_none he
    intro q eq
    rw [there, Entry.socket.injEq] at eq
    exact ne eq.1
  · intro q h
    exact ⟨owned q h, .inl (by rw [permissions]; rfl)⟩
  · intro h
    rw [nobody] at h
    cases h

/-- Every call of an orderly run keeps the invariant. -/
theorem call_keeps (hi : Inv s) (hd : s.daemons[i]? = some d) {ok : Bool} {r : Entry × BindPc}
    (orderly : s.Orderly (.run i ok)) (h : s.call i d ok = some r) : Keeps s i d r.1 r.2 := by
  have nobody (found : d.pc.foundNobody = true) (j : Nat) (e : BindCall) (_ : i ≠ j)
      (he : s.daemons[j]? = some e) : e.permissions = none := hi.nobody hd he found
  unfold call at h
  split at h
  · rename_i pc
    have free : ∀ e ∈ s.daemons, e.pc.binds = false := by
      apply orderly
      rw [hd]
      simp [pc]
    cases h
    split_ifs with absent
    · refine ⟨fun _ => .inr free, fun h => absurd rfl h, nofun, fun _ j e _ he => ?_⟩
      exact hi.permissions_eq_none he (by simp [absent])
    · exact ⟨fun _ => .inr free, fun h => absurd rfl h, nofun, nofun⟩
  · rename_i pc
    have binds : d.pc.binds = true := by rw [pc]; rfl
    cases h
    split_ifs with found
    · exact .of_idle rfl rfl
    · refine ⟨fun _ => .inl binds, fun h => absurd rfl h, nofun, fun _ j e ne he => ?_⟩
      rw [Option.eq_none_iff_forall_ne_some]
      intro p permissions
      rcases listen_or_listens permissions with listen | listens
      · -- an owner that does not listen yet would bind too
        exact ne (hi.alone hd he binds (by rw [listen]; rfl))
      · apply found
        rw [inUse, hi.owned he permissions]
        show (s.daemons[j]?).any (·.pc.listens) = true
        rw [he]
        exact listens
  · rename_i pc
    have found : d.pc.foundNobody = true := by rw [pc]; rfl
    split at h <;> cases h
    · exact ⟨fun _ => .inl (foundNobody_binds found), fun _ => nobody found, nofun,
        fun _ => nobody found⟩
    · exact .of_idle rfl rfl
  · rename_i pc
    have found : d.pc.foundNobody = true := by rw [pc]; rfl
    cases h
    split_ifs
    · exact ⟨fun _ => .inl (foundNobody_binds found), fun h => absurd rfl h, nofun,
        fun _ => nobody found⟩
    · exact .of_idle rfl rfl
  · rename_i pc
    have found : d.pc.foundNobody = true := by rw [pc]; rfl
    split_ifs at h <;> cases h
    · refine ⟨fun _ => .inl (foundNobody_binds found), fun _ => nobody found, ?_, nofun⟩
      intro p permissions
      cases permissions
      exact ⟨rfl, .inr (foundNobody_binds found)⟩
    · exact .of_idle rfl rfl
  · rename_i pc
    have permissions : d.permissions = some {} := by rw [BindCall.permissions, pc]
    cases h
    split_ifs
    · refine .of_owner hi hd permissions nofun rfl ?_
      intro q h
      cases h
      exact hi.owned hd permissions
    · exact .of_idle rfl rfl
  · rename_i pc
    have permissions : d.permissions = some {} := by rw [BindCall.permissions, pc]
    have there := hi.owned hd permissions
    rw [there] at h
    cases ok with
    | false =>
      cases h
      rw [← there]
      exact .of_idle rfl rfl
    | true =>
      cases h
      refine .of_owner hi hd permissions nofun rfl ?_
      intro q h
      cases h
      rfl
  · rename_i pc
    have permissions : d.permissions = some { mode := some 0o600 } := by
      rw [BindCall.permissions, pc]
    have there := hi.owned hd permissions
    have owner (uid : Nat) (eq : d.ownerUid.getD 0 = uid) : Keeps s i d
        (.socket i { mode := some 0o600, uid }) .serving := by
      refine .of_owner hi hd permissions nofun rfl ?_
      intro q h
      cases h
      rw [eq]
    cases uid : d.ownerUid with
    | none =>
      rw [uid, there] at h
      cases h
      exact owner 0 (by rw [uid]; rfl)
    | some uid' =>
      rw [uid, there] at h
      cases ok with
      | false =>
        cases h
        rw [← there]
        exact .of_idle rfl rfl
      | true =>
        cases h
        exact owner uid' (by rw [uid]; rfl)
  · rename_i pc
    have permissions : d.permissions = some { mode := some 0o600, uid := d.ownerUid.getD 0 } := by
      rw [BindCall.permissions, pc]
    cases h
    split_ifs
    · exact .of_idle rfl rfl
    · refine .of_owner hi hd permissions nofun rfl ?_
      intro q h
      cases h
      exact hi.owned hd permissions
  · rename_i pc
    have permissions : d.permissions = some { mode := some 0o600, uid := d.ownerUid.getD 0 } := by
      rw [BindCall.permissions, pc]
    cases h
    exact .of_owner hi hd permissions nofun rfl nofun
  · cases h
  · cases h
  · cases h

/-- One step of an orderly run keeps the invariant. -/
theorem Inv.step (hi : Inv s) {a : Action} (orderly : s.Orderly a) (h : s.step a = some s') :
    Inv s' := by
  cases a with
  -- A daemon that has just started binds nothing.
  | start ownerUid =>
    cases h
    refine ⟨?_, ?_, ?_⟩
    · intro i j d e hd he binds binds'
      rcases Runs.push_cases hd with hd | ⟨-, rfl⟩
      · rcases Runs.push_cases he with he | ⟨-, rfl⟩
        · exact hi.alone hd he binds binds'
        · cases binds'
      · cases binds
    · intro i d p hd permissions
      rcases Runs.push_cases hd with hd | ⟨-, rfl⟩
      · exact hi.owned hd permissions
      · cases permissions
    · intro i j d e hd he nobody
      rcases Runs.push_cases hd with hd | ⟨-, rfl⟩
      · rcases Runs.push_cases he with he | ⟨-, rfl⟩
        · exact hi.nobody hd he nobody
        · rfl
      · cases nobody
  | run i ok =>
    obtain ⟨d, hd, called⟩ := Option.bind_eq_some_iff.mp h
    obtain ⟨r, made, rfl⟩ := Option.map_eq_some_iff.mp called
    exact hi.moved hd (call_keeps hi hd orderly made)
  | stop i =>
    obtain ⟨d, hd, stopped⟩ := Option.bind_eq_some_iff.mp h
    obtain ⟨serving, eq⟩ := Option.ite_none_right_eq_some.mp stopped
    cases eq
    have permissions : d.permissions = some { mode := some 0o600, uid := d.ownerUid.getD 0 } := by
      rw [BindCall.permissions, serving]
    refine hi.moved hd (.of_owner hi hd permissions nofun rfl ?_)
    intro q h
    cases h
    exact hi.owned hd permissions
  | kill i =>
    obtain ⟨d, hd, rfl⟩ := Option.map_eq_some_iff.mp h
    exact hi.moved hd (.of_idle rfl rfl)

end Site

/-- Any orderly run of daemons at a path, over what was there before the first. -/
def SiteReaches (before : Entry) (s : Site) : Prop :=
  Runs.Steps Site.step Site.Orderly { entry := before } s

/-- The invariant holds in every reachable state. -/
theorem SiteReaches.inv {before : Entry} {s : Site} (run : SiteReaches before s) : s.Inv :=
  Runs.Steps.invariant run (Site.inv_start before) (fun _ _ _ hi ok h => hi.step ok h)

namespace Site

variable (s : Site) (ownerUid : Option Nat)

/-- Beside the daemons of `s`, another one. -/
def beside (entry : Entry) (pc : BindPc) : Site :=
  { entry, daemons := s.daemons ++ [{ pc, ownerUid }] }

/-- The other one makes a call that is allowed. -/
theorem beside_run (entry : Entry) (pc : BindPc) {entry' : Entry} {pc' : BindPc}
    (free : pc = .probe → ∀ d ∈ s.daemons, d.pc.binds = false)
    (h : (s.beside ownerUid entry pc).call s.daemons.length { pc, ownerUid } true =
      some (entry', pc')) :
    Runs.Steps step Orderly (s.beside ownerUid entry pc) (s.beside ownerUid entry' pc') := by
  have last : (s.beside ownerUid entry pc).daemons[s.daemons.length]? =
      some { pc, ownerUid } := List.getElem?_concat_length
  refine .tail (.run s.daemons.length true) (.refl _) ?_ ?_
  · intro probe d mem
    rw [last] at probe
    have probe : pc = .probe := by simpa using probe
    rcases List.mem_append.mp mem with old | new
    · exact free probe d old
    · rw [List.mem_singleton.mp new, probe]
      rfl
  · show ((s.beside ownerUid entry pc).daemons[s.daemons.length]?).bind _ = _
    rw [last, Option.bind_some, h, Option.map_some]
    simp [moved, beside]

/-- A daemon more that does not listen does not make the path used. -/
theorem inUse_beside {pc : BindPc} (quiet : pc.listens = false) (free : s.inUse = false) :
    (s.beside ownerUid s.entry pc).inUse = false := by
  unfold inUse at free ⊢
  show (match s.entry with
    | .socket i _ => ((s.daemons ++ [{ pc, ownerUid }])[i]?).any (·.pc.listens)
    | .absent | .stale | .directory => false) = false
  split
  · rename_i i p there
    rw [there] at free
    cases found : (s.daemons ++ [({ pc, ownerUid } : BindCall)])[i]? with
    | none => rfl
    | some d =>
      rcases Runs.push_cases found with old | ⟨-, rfl⟩
      · simpa [old] using free
      · simpa using quiet
  · rfl
  · rfl
  · rfl

/-- With nothing at the path, every call that is left is made. -/
theorem beside_serving : ∃ p, Runs.Steps step Orderly (s.beside ownerUid .absent .createDir)
    (s.beside ownerUid (.socket s.daemons.length p) .serving) := by
  have createDir := beside_run s ownerUid .absent .createDir nofun rfl
  have bind := beside_run s ownerUid .absent .bind nofun rfl
  have listen := beside_run s ownerUid (.socket s.daemons.length {}) .listen nofun rfl
  have chmod := beside_run s ownerUid (.socket s.daemons.length {}) .chmod nofun rfl
  have bound := ((createDir.trans bind).trans listen).trans chmod
  cases ownerUid with
  | none =>
    have chown := beside_run s none (.socket s.daemons.length { mode := some 0o600 }) .chown nofun rfl
    exact ⟨_, bound.trans chown⟩
  | some uid =>
    have chown := beside_run s (some uid) (.socket s.daemons.length { mode := some 0o600 }) .chown
      nofun rfl
    exact ⟨_, bound.trans chown⟩

/-- With nobody listening at the path and nobody binding, another daemon, whose calls the system
    lets succeed, comes to serve. -/
theorem bind_succeeds (free : s.inUse = false) (none : ∀ d ∈ s.daemons, d.pc.binds = false)
    (file : s.entry ≠ .directory) :
    ∃ p, Runs.Steps step Orderly s (s.beside ownerUid (.socket s.daemons.length p) .serving) := by
  obtain ⟨p, serving⟩ := s.beside_serving ownerUid
  have start : Runs.Steps step Orderly s (s.beside ownerUid s.entry .probe) :=
    .tail (.start ownerUid) (.refl s) trivial rfl
  by_cases absent : s.entry = .absent
  · have probe : Runs.Steps step Orderly (s.beside ownerUid s.entry .probe)
        (s.beside ownerUid .absent .createDir) := by
      apply beside_run s ownerUid s.entry .probe (fun _ => none)
      show some (s.entry, if s.entry = .absent then BindPc.createDir else .connect) = _
      rw [absent, if_pos rfl]
    exact ⟨p, (start.trans probe).trans serving⟩
  · have probe : Runs.Steps step Orderly (s.beside ownerUid s.entry .probe)
        (s.beside ownerUid s.entry .connect) := by
      apply beside_run s ownerUid s.entry .probe (fun _ => none)
      show some (s.entry, if s.entry = .absent then BindPc.createDir else .connect) = _
      rw [if_neg absent]
    have connect : Runs.Steps step Orderly (s.beside ownerUid s.entry .connect)
        (s.beside ownerUid s.entry .remove) := by
      apply beside_run s ownerUid s.entry .connect nofun
      show some (s.entry, if (s.beside ownerUid s.entry .connect).inUse then
        BindPc.failed "is already in use by a running daemon" else .remove) = _
      rw [s.inUse_beside ownerUid rfl free]
      rfl
    have remove : Runs.Steps step Orderly (s.beside ownerUid s.entry .remove)
        (s.beside ownerUid .absent .createDir) := by
      apply beside_run s ownerUid s.entry .remove nofun
      cases entry : s.entry with
      | absent => exact absurd entry absent
      | directory => exact absurd entry file
      | stale => rfl
      | socket i p => rfl
    exact ⟨p, (((start.trans probe).trans connect).trans remove).trans serving⟩

/-- A daemon binds over the socket that a killed one left. -/
theorem bind_succeeds_killed : ∃ p, Runs.Steps step Orderly
    { entry := .socket 0 {}, daemons := [{ pc := .gone }] }
    { entry := .socket 1 p, daemons := [{ pc := .gone }, { pc := .serving }] } :=
  bind_succeeds { entry := .socket 0 {}, daemons := [{ pc := .gone }] } none rfl (by decide) nofun

end Site

-- Two daemons that probe the same stale file: the second removes the socket the first one serves.
example : ((Runs.exec Site.step (fun _ _ => True) { entry := .stale }
    [.start none, .start none, .run 0 true, .run 1 true, .run 0 true, .run 1 true, .run 0 true,
      .run 0 true, .run 0 true, .run 0 true, .run 0 true, .run 0 true, .run 1 true, .run 1 true,
      .run 1 true]).map (fun s => (s.entry, s.daemons.map (·.pc)))) =
    some (.socket 1 {}, [.serving, .listen]) := by decide

end Netdiag.Daemon
