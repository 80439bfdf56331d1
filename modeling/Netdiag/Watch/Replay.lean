import Netdiag.Lib.Maps
import Netdiag.Watch.Sockets

namespace Netdiag.Watch

/-!
# Watch — socket events replayed

What `watch_sockets` sends between two polls, as a difference of two maps from cookie to TCP
state.  A `HashMap` is iterated in an order of its own, so each poll comes with the orders of
its two loops.

* `Loop.poll` — one pass over a dump, in these orders; `poll_eq_step` ties it to the loop.
* `emitted` — the events of the n-th poll over a sequence of dumps.
* `isDiff_emitted` — they are a difference from the previous dump's states to the new ones.
* `emitted_perm` — as a multiset they do not depend on the order of dumps or maps.
-/

open Collect

/-! ### The loop over a sequence of dumps -/

/-- The orders in which one pass goes through its two maps. -/
structure Order where
  current : SocketMap → List (Sigma fun _ : Nat => InetSocket)
  previous : SocketMap → List (Sigma fun _ : Nat => InetSocket)
  current_perm : ∀ m, (current m).Perm m.entries
  previous_perm : ∀ m, (previous m).Perm m.entries

/-- The order of the entries themselves. -/
def Order.asFiled : Order where
  current m := m.entries
  previous m := m.entries
  current_perm _ := .refl _
  previous_perm _ := .refl _

/-- `previous` and `first_pass`. -/
structure Loop where
  previous : SocketMap := ∅
  firstPass : Bool := true

/-- The events of one pass, in these orders. -/
def diffInOrder (order : Order) (previous current : SocketMap) : List SocketNotice :=
  (order.current current).filterMap (fun x => appearedOrChanged previous x.1 x.2) ++
    (order.previous previous).filterMap (fun x => disappeared current x.1 x.2)

/-- One pass over a dump: the loop after it, and the events sent. -/
def Loop.poll (loop : Loop) (order : Order) (dump : List InetSocket) :
    Loop × List SocketNotice :=
  let current := currentSockets dump
  ({ previous := current, firstPass := false },
    if loop.firstPass then [] else diffInOrder order loop.previous current)

/-- The loop before the n-th poll. -/
def loopAt (orders : Nat → Order) (dumps : Nat → List InetSocket) : Nat → Loop
  | 0 => {}
  | n + 1 => ((loopAt orders dumps n).poll (orders n) (dumps n)).1

/-- The events of the n-th poll. -/
def emitted (orders : Nat → Order) (dumps : Nat → List InetSocket) (n : Nat) :
    List SocketNotice :=
  ((loopAt orders dumps n).poll (orders n) (dumps n)).2

/-- A poll that gets its dump and all its replies out is a pass of the loop. -/
theorem poll_eq_step {w : SocketWatch} {p : Poll} {ifNames : Nat → Option String}
    {dump : SocketDump} (hrunning : w.outcome = none) (hnames : p.ifNames = .ok ifNames)
    (hdump : getSockets w.filter ifNames p.kernel = .ok dump) (hsent : p.failsAt = none) :
    ∃ w', w.step p = some w' ∧
      let r := Loop.poll ⟨w.previous, w.firstPass⟩ .asFiled dump.sockets
      r.1 = ⟨w'.previous, w'.firstPass⟩ ∧ w'.log = w.logged p r.2 := by
  refine ⟨_, by simp [SocketWatch.step, hrunning, hnames, hdump, hsent]; rfl, rfl, rfl⟩

/-! ### Dumps and their states -/

/-- Distinct sockets of a dump have distinct non-zero cookies. -/
structure Identified (dump : List InetSocket) : Prop where
  cookie_ne : ∀ s ∈ dump, s.socketCookie ≠ 0
  cookie_inj : ∀ s ∈ dump, ∀ t ∈ dump, s.socketCookie = t.socketCookie → s = t

/-- The dump's map from cookie to TCP state. -/
def states (dump : List InetSocket) (cookie : Nat) : Option TcpState :=
  (dump.find? (fun s => s.socketCookie == cookie)).map (·.state)

/-- What an event says of its socket: gone, or in this state now. -/
def update (e : SocketNotice) : Nat × Option TcpState :=
  (e.socket.socketCookie, if e.disappeared then none else some e.socket.state)

section Dumps

variable {dump dump' : List InetSocket}

/-- Fewer sockets are still told apart. -/
theorem Identified.tail {s : InetSocket} (h : Identified (s :: dump)) : Identified dump :=
  ⟨fun t ht => h.cookie_ne t (List.mem_cons_of_mem _ ht),
    fun t ht u hu => h.cookie_inj t (List.mem_cons_of_mem _ ht) u (List.mem_cons_of_mem _ hu)⟩

/-- Sockets are told apart in any order. -/
theorem Identified.perm (h : Identified dump) (hperm : dump'.Perm dump) : Identified dump' :=
  ⟨fun s hs => h.cookie_ne s (hperm.mem_iff.mp hs),
    fun s hs t ht => h.cookie_inj s (hperm.mem_iff.mp hs) t (hperm.mem_iff.mp ht)⟩

/-- The socket with a cookie is the only one. -/
theorem Identified.find_eq_some (h : Identified dump) {cookie : Nat} {s : InetSocket} :
    dump.find? (fun s => s.socketCookie == cookie) = some s ↔
      s ∈ dump ∧ s.socketCookie = cookie := by
  constructor
  · intro hfind
    exact ⟨List.mem_of_find?_eq_some hfind, by simpa using List.find?_some hfind⟩
  · rintro ⟨hs, rfl⟩
    obtain ⟨t, ht⟩ : ∃ t, dump.find? (fun t => t.socketCookie == s.socketCookie) = some t := by
      rw [← Option.isSome_iff_exists, List.find?_isSome]
      exact ⟨s, hs, by simp⟩
    have hcookie : t.socketCookie = s.socketCookie := by simpa using List.find?_some ht
    rw [ht, h.cookie_inj t (List.mem_of_find?_eq_some ht) s hs hcookie]

/-- The map built from a dump has the sockets of the dump, and behind them what it had. -/
theorem Identified.lookup_foldl (h : Identified dump) (m : SocketMap) (key : Nat) :
    (dump.foldl (fun current s => current.insert (socketKey s) s) m).lookup key =
      (dump.find? (fun s => s.socketCookie == key)).or (m.lookup key) := by
  induction dump generalizing m with
  | nil => rfl
  | cons s dump ih =>
    have hkey : socketKey s = s.socketCookie := if_pos (h.cookie_ne s List.mem_cons_self)
    rw [List.foldl_cons, ih h.tail, hkey]
    by_cases heq : s.socketCookie = key
    · subst heq
      rw [AList.lookup_insert, List.find?_cons_of_pos (by simp)]
      cases hfind : dump.find? (fun t => t.socketCookie == s.socketCookie) with
      | none => rfl
      | some t =>
        obtain ⟨ht, hcookie⟩ := h.tail.find_eq_some.mp hfind
        rw [h.cookie_inj t (List.mem_cons_of_mem _ ht) s List.mem_cons_self hcookie]
        rfl
    · rw [AList.lookup_insert_ne (Ne.symm heq), List.find?_cons_of_neg (by simpa using heq)]

/-- The map of a dump finds its sockets under their cookies. -/
theorem Identified.lookup_eq (h : Identified dump) (key : Nat) :
    (currentSockets dump).lookup key = dump.find? (fun s => s.socketCookie == key) := by
  rw [currentSockets, h.lookup_foldl, AList.lookup_empty, Option.or_none]

/-- The map has exactly the sockets of the dump, under their cookies. -/
theorem Identified.lookup_eq_some (h : Identified dump) {key : Nat} {s : InetSocket} :
    (currentSockets dump).lookup key = some s ↔ s ∈ dump ∧ s.socketCookie = key := by
  rw [h.lookup_eq, h.find_eq_some]

/-- The state of a socket in the dump is that of its entry in the map. -/
theorem Identified.states_eq (h : Identified dump) (cookie : Nat) :
    states dump cookie = ((currentSockets dump).lookup cookie).map (·.state) := by
  rw [states, h.lookup_eq]

/-- The map does not depend on the order of the dump. -/
theorem Identified.lookup_perm (h : Identified dump) (hperm : dump'.Perm dump) (key : Nat) :
    (currentSockets dump').lookup key = (currentSockets dump).lookup key := by
  refine Option.ext fun s => ?_
  rw [(h.perm hperm).lookup_eq_some, h.lookup_eq_some, hperm.mem_iff]

end Dumps

/-! ### One pass -/

section Pass

variable {order : Order} {previous current : SocketMap}

/-- Inversion of `appearedOrChanged`. -/
theorem appearedOrChanged_eq_some {key : Nat} {s : InetSocket} {e : SocketNotice} :
    appearedOrChanged previous key s = some e ↔
      (previous.lookup key = none ∧ e = socketNotice s none true false) ∨
      ∃ old, previous.lookup key = some old ∧ old.state ≠ s.state ∧
        e = socketNotice s (some old.state) false false := by
  unfold appearedOrChanged
  cases previous.lookup key with
  | none => simp [eq_comm]
  | some old =>
    by_cases h : old.state = s.state
    · simp [h]
    · simp [h, eq_comm (a := e)]

/-- Inversion of `disappeared`. -/
theorem disappeared_eq_some {key : Nat} {s : InetSocket} {e : SocketNotice} :
    disappeared current key s = some e ↔
      current.lookup key = none ∧ e = socketNotice s none false true := by
  unfold disappeared
  cases current.lookup key <;> simp [eq_comm]

/-- Every event of a pass is that of a socket of one of the dumps: it appeared, it changed its
    state, or it is gone. -/
theorem mem_diffInOrder {e : SocketNotice} :
    e ∈ diffInOrder order previous current ↔
      (∃ key s, current.lookup key = some s ∧ previous.lookup key = none ∧
        e = socketNotice s none true false) ∨
      (∃ key s old, current.lookup key = some s ∧ previous.lookup key = some old ∧
        old.state ≠ s.state ∧ e = socketNotice s (some old.state) false false) ∨
      (∃ key s, previous.lookup key = some s ∧ current.lookup key = none ∧
        e = socketNotice s none false true) := by
  have hentry : ∀ (m : SocketMap) (x : Sigma fun _ : Nat => InetSocket),
      x ∈ m.entries ↔ m.lookup x.1 = some x.2 := fun m x => AList.mem_lookup_iff.symm
  simp only [diffInOrder, List.mem_append, List.mem_filterMap,
    (order.current_perm current).mem_iff, (order.previous_perm previous).mem_iff, hentry,
    appearedOrChanged_eq_some, disappeared_eq_some, Sigma.exists]
  constructor
  · rintro (⟨key, s, hs, ⟨hnone, he⟩ | ⟨old, hold, hne, he⟩⟩ | ⟨key, s, hs, hnone, he⟩)
    · exact .inl ⟨key, s, hs, hnone, he⟩
    · exact .inr (.inl ⟨key, s, old, hs, hold, hne, he⟩)
    · exact .inr (.inr ⟨key, s, hs, hnone, he⟩)
  · rintro (⟨key, s, hs, hnone, he⟩ | ⟨key, s, old, hs, hold, hne, he⟩ | ⟨key, s, hs, hnone, he⟩)
    · exact .inl ⟨key, s, hs, .inl ⟨hnone, he⟩⟩
    · exact .inl ⟨key, s, hs, .inr ⟨old, hold, hne, he⟩⟩
    · exact .inr ⟨key, s, hs, hnone, he⟩

/-- Keys read off what a function keeps of a list of entries are among the entries' keys, in
    order. -/
theorem map_filterMap_sublist {entries : List (Sigma fun _ : Nat => InetSocket)}
    {f : (Sigma fun _ : Nat => InetSocket) → Option SocketNotice} {key : SocketNotice → Nat}
    (h : ∀ x ∈ entries, ∀ e, f x = some e → key e = x.1) :
    ((entries.filterMap f).map key).Sublist (entries.map Sigma.fst) := by
  induction entries with
  | nil => exact .slnil
  | cons x entries ih =>
    have hrest := ih (fun y hy => h y (List.mem_cons_of_mem _ hy))
    cases hx : f x with
    | none =>
      rw [List.filterMap_cons_none hx, List.map_cons]
      exact hrest.cons _
    | some e =>
      rw [List.filterMap_cons_some hx, List.map_cons, List.map_cons,
        h x List.mem_cons_self e hx]
      exact hrest.cons_cons _

/-- The maps file every socket under its cookie. -/
def ByCookie (m : SocketMap) : Prop := ∀ key s, m.lookup key = some s → s.socketCookie = key

/-- Every entry of the map stands under the cookie of its socket. -/
theorem Identified.byCookie {dump : List InetSocket} (h : Identified dump) :
    ByCookie (currentSockets dump) := fun _ _ hs => (h.lookup_eq_some.mp hs).2

/-- At most one event for each cookie. -/
theorem nodup_diffInOrder (hprevious : ByCookie previous) (hcurrent : ByCookie current) :
    ((diffInOrder order previous current).map (·.socket.socketCookie)).Nodup := by
  have hkeys : ∀ (m : SocketMap) (l : List (Sigma fun _ : Nat => InetSocket)),
      l.Perm m.entries → (l.map Sigma.fst).Nodup := fun m l hl =>
    ((hl.map Sigma.fst).nodup_iff).mpr m.nodupKeys
  have hlookup : ∀ (m : SocketMap) {l : List (Sigma fun _ : Nat => InetSocket)},
      l.Perm m.entries → ∀ x ∈ l, m.lookup x.1 = some x.2 := fun m l hl x hx =>
    AList.mem_lookup_iff.mpr (hl.mem_iff.mp hx)
  rw [diffInOrder, List.map_append, List.nodup_append]
  refine ⟨?_, ?_, ?_⟩
  · refine List.Nodup.sublist (map_filterMap_sublist ?_) (hkeys _ _ (order.current_perm current))
    intro x hx e he
    have hcookie := hcurrent _ _ (hlookup current (order.current_perm current) x hx)
    rcases appearedOrChanged_eq_some.mp he with ⟨-, rfl⟩ | ⟨old, -, -, rfl⟩ <;> exact hcookie
  · refine List.Nodup.sublist (map_filterMap_sublist ?_)
      (hkeys _ _ (order.previous_perm previous))
    intro x hx e he
    have hcookie := hprevious _ _ (hlookup previous (order.previous_perm previous) x hx)
    obtain ⟨-, rfl⟩ := disappeared_eq_some.mp he
    exact hcookie
  · -- A cookie of the first loop is in the new map, one of the second is not.
    intro a ha b hb
    obtain ⟨e, he, rfl⟩ := List.mem_map.mp ha
    obtain ⟨e', he', rfl⟩ := List.mem_map.mp hb
    obtain ⟨x, hx, hevent⟩ := List.mem_filterMap.mp he
    obtain ⟨y, hy, hevent'⟩ := List.mem_filterMap.mp he'
    have hnew := hlookup current (order.current_perm current) x hx
    have hold := hlookup previous (order.previous_perm previous) y hy
    obtain ⟨hgone, rfl⟩ := disappeared_eq_some.mp hevent'
    have hsocket : e.socket = x.2 := by
      rcases appearedOrChanged_eq_some.mp hevent with ⟨-, rfl⟩ | ⟨old, -, -, rfl⟩ <;> rfl
    intro heq
    have hcookie : x.1 = y.1 := by
      rw [← hcurrent _ _ hnew, ← hprevious _ _ hold, ← hsocket]
      exact heq
    rw [hcookie, hgone] at hnew
    cases hnew

end Pass

/-! ### The events between two dumps -/

section Between

variable {order : Order} {before now : List InetSocket}

/-- The events lead from the states of one dump to those of the next. -/
theorem isDiff_diffInOrder (hbefore : Identified before) (hnow : Identified now) :
    Maps.IsDiff (states before) (states now)
      ((diffInOrder order (currentSockets before) (currentSockets now)).map update) where
  nodup := by
    rw [List.map_map]
    exact nodup_diffInOrder hbefore.byCookie hnow.byCookie
  sound := by
    intro u hu
    obtain ⟨e, he, rfl⟩ := List.mem_map.mp hu
    rw [hnow.states_eq]
    -- New, changed and gone, as `diff` makes them.
    obtain ⟨key, s, hs, -, rfl⟩ | ⟨key, s, old, hs, -, -, rfl⟩ | ⟨key, s, hs, hgone, rfl⟩ :=
      mem_diffInOrder.mp he
    · obtain rfl := hnow.byCookie key s hs
      simp [update, socketNotice, hs]
    · obtain rfl := hnow.byCookie key s hs
      simp [update, socketNotice, hs]
    · obtain rfl := hbefore.byCookie key s hs
      simp [update, socketNotice, hgone]
  complete := by
    intro cookie hne
    rw [hbefore.states_eq, hnow.states_eq] at hne
    rw [List.map_map, List.mem_map]
    -- A cookie whose state changed is in one of the three.
    cases hc : (currentSockets now).lookup cookie with
    | some s =>
      have hcookie := hnow.byCookie cookie s hc
      cases hp : (currentSockets before).lookup cookie with
      | none => exact ⟨_, mem_diffInOrder.mpr (.inl ⟨cookie, s, hc, hp, rfl⟩), hcookie⟩
      | some old =>
        have hstate : old.state ≠ s.state := by simpa [hc, hp] using hne
        exact ⟨_, mem_diffInOrder.mpr (.inr (.inl ⟨cookie, s, old, hc, hp, hstate, rfl⟩)), hcookie⟩
    | none =>
      cases hp : (currentSockets before).lookup cookie with
      | none => simp [hc, hp] at hne
      | some old =>
        exact ⟨_, mem_diffInOrder.mpr (.inr (.inr ⟨cookie, old, hp, hc, rfl⟩)),
          hbefore.byCookie cookie old hp⟩

/-- What an event carries as the previous state: that of the previous dump where the state
    changed, none where the socket appeared or is gone. -/
structure Remembers (before : List InetSocket) (e : SocketNotice) : Prop where
  changed : e.appeared = false → e.disappeared = false →
    states before e.socket.socketCookie = some e.previousState
  appeared : e.appeared = true →
    states before e.socket.socketCookie = none ∧ e.previousState = .unspecified
  disappeared : e.disappeared = true → e.socket ∈ before ∧ e.previousState = .unspecified

/-- An event has the state before it, and is only sent for a state that is another now. -/
theorem remembers_diffInOrder (hbefore : Identified before) (hnow : Identified now)
    {e : SocketNotice} (he : e ∈ diffInOrder order (currentSockets before) (currentSockets now)) :
    Remembers before e ∧
      states before e.socket.socketCookie ≠ states now e.socket.socketCookie := by
  rw [hbefore.states_eq, hnow.states_eq]
  obtain ⟨key, s, hs, hp, rfl⟩ | ⟨key, s, old, hs, hp, hne, rfl⟩ | ⟨key, s, hs, hgone, rfl⟩ :=
    mem_diffInOrder.mp he
  · obtain rfl := hnow.byCookie key s hs
    refine ⟨⟨by simp [socketNotice], fun _ => ?_, by simp [socketNotice]⟩, ?_⟩
    · rw [hbefore.states_eq]
      simp [socketNotice, hp]
    · simp [socketNotice, hp, hs]
  · obtain rfl := hnow.byCookie key s hs
    refine ⟨⟨fun _ _ => ?_, by simp [socketNotice], by simp [socketNotice]⟩, ?_⟩
    · rw [hbefore.states_eq]
      simp [socketNotice, hp]
    · simpa [socketNotice, hp, hs] using hne
  · obtain ⟨hmem, rfl⟩ := hbefore.lookup_eq_some.mp hs
    refine ⟨⟨by simp [socketNotice], by simp [socketNotice], fun _ => ⟨hmem, rfl⟩⟩, ?_⟩
    simp [socketNotice, hs, hgone]

/-- Other orders of the dumps and of the maps give the same events. -/
theorem diffInOrder_perm {order' : Order} {before' now' : List InetSocket}
    (hbefore : Identified before) (hnow : Identified now) (hb : before'.Perm before)
    (hn : now'.Perm now) :
    (diffInOrder order' (currentSockets before') (currentSockets now')).Perm
      (diffInOrder order (currentSockets before) (currentSockets now)) := by
  have hpl := hbefore.lookup_perm hb
  have hcl := hnow.lookup_perm hn
  -- Two maps with one lookup have the same entries.
  have hentries : ∀ {m m' : SocketMap}, (∀ key, m'.lookup key = m.lookup key) →
      m'.entries.Perm m.entries := by
    intro m m' h
    refine List.lookup_ext m'.nodupKeys m.nodupKeys fun key s => ?_
    exact (h key ▸ Iff.rfl : s ∈ m'.lookup key ↔ s ∈ m.lookup key)
  have hfirst : appearedOrChanged (currentSockets before') =
      appearedOrChanged (currentSockets before) := by
    funext key s
    simp only [appearedOrChanged, hpl]
  have hsecond : disappeared (currentSockets now') = disappeared (currentSockets now) := by
    funext key s
    simp only [disappeared, hcl]
  rw [diffInOrder, diffInOrder, hfirst, hsecond]
  refine List.Perm.append (List.Perm.filterMap _ ?_) (List.Perm.filterMap _ ?_)
  · exact (order'.current_perm _).trans ((hentries hcl).trans (order.current_perm _).symm)
  · exact (order'.previous_perm _).trans ((hentries hpl).trans (order.previous_perm _).symm)

end Between

/-! ### Whole runs -/

section Runs

variable (orders : Nat → Order) (dumps : Nat → List InetSocket)

/-- The first dump emits nothing. -/
theorem emitted_zero : emitted orders dumps 0 = [] := rfl

/-- Every later dump emits its differences to the one before. -/
theorem emitted_succ (n : Nat) :
    emitted orders dumps (n + 1) =
      diffInOrder (orders (n + 1)) (currentSockets (dumps n)) (currentSockets (dumps (n + 1))) :=
  rfl

/-- The events of a run over dumps whose sockets have distinct non-zero cookies.  Replayed on
    the states of the previous dump they give those of the new one; a socket gets at most one,
    and only if it appeared, changed or is gone; and their multiset does not depend on the order
    of the dumps or of the maps. -/
theorem socket_events_replay (hdumps : ∀ n, Identified (dumps n)) :
    emitted orders dumps 0 = [] ∧
    (∀ n, Maps.replay (states (dumps n)) ((emitted orders dumps (n + 1)).map update) =
        states (dumps (n + 1)) ∧
      ((emitted orders dumps (n + 1)).map (·.socket.socketCookie)).Nodup ∧
      ∀ e ∈ emitted orders dumps (n + 1), Remembers (dumps n) e ∧
        states (dumps n) e.socket.socketCookie ≠ states (dumps (n + 1)) e.socket.socketCookie) ∧
    ∀ orders' dumps', (∀ n, (dumps' n).Perm (dumps n)) →
      ∀ n, (emitted orders' dumps' n).Perm (emitted orders dumps n) := by
  refine ⟨emitted_zero orders dumps, fun n => ?_, fun orders' dumps' hperm n => ?_⟩
  · rw [emitted_succ]
    exact ⟨(isDiff_diffInOrder (hdumps n) (hdumps (n + 1))).replay_eq,
      nodup_diffInOrder (hdumps n).byCookie (hdumps (n + 1)).byCookie,
      fun e he => remembers_diffInOrder (hdumps n) (hdumps (n + 1)) he⟩
  · cases n with
    | zero => exact .refl _
    | succ n =>
      rw [emitted_succ, emitted_succ]
      exact diffInOrder_perm (hdumps n) (hdumps (n + 1)) (hperm n) (hperm (n + 1))

end Runs

/-- Between two polls a connection closes, one is established and one appears; a listening socket
    stays. -/
def turnover : Nat → List InetSocket
  | 0 =>
    [{ socketCookie := 1, state := .established }, { socketCookie := 2, state := .synSent },
      { socketCookie := 4, state := .listen }]
  | _ + 1 =>
    [{ socketCookie := 4, state := .listen }, { socketCookie := 3, state := .synSent },
      { socketCookie := 2, state := .established }]

/-- The sockets of these polls are told apart. -/
theorem identified_turnover (n : Nat) : Identified (turnover n) := by
  cases n with
  | zero => exact ⟨by decide, by simp [turnover]⟩
  | succ n => exact ⟨by simp [turnover], by simp [turnover]⟩

/-- Three events, one for each socket that changed, whatever order the sockets are dumped in. -/
theorem socket_events_replay_turnover :
    (emitted (fun _ => .asFiled) turnover 1).length = 3 ∧
    Maps.replay (states (turnover 0)) ((emitted (fun _ => .asFiled) turnover 1).map update) =
      states (turnover 1) ∧
    ((emitted (fun _ => .asFiled) turnover 1).map (·.socket.socketCookie)).Nodup ∧
    (emitted (fun _ => .asFiled) (fun n => (turnover n).reverse) 1).Perm
      (emitted (fun _ => .asFiled) turnover 1) := by
  obtain ⟨-, hlaw, hperm⟩ := socket_events_replay (fun _ => .asFiled) turnover identified_turnover
  obtain ⟨hreplay, hnodup, -⟩ := hlaw 0
  exact ⟨rfl, hreplay, hnodup, hperm _ _ (fun n => List.reverse_perm (turnover n)) 1⟩

/-- An established connection that is gone at the second poll. -/
def closing : Nat → List InetSocket
  | 0 => [{ socketCookie := 1, state := .established }]
  | _ + 1 => []

/-- So are those of these. -/
theorem identified_closing (n : Nat) : Identified (closing n) := by
  cases n with
  | zero => exact ⟨by decide, by simp [closing]⟩
  | succ n => exact ⟨by simp [closing], by simp [closing]⟩

/-- The event of the closed connection has no previous state; the dump before it has one. -/
theorem closed_without_previous_state :
    ¬ ∀ orders dumps, (∀ n, Identified (dumps n)) → ∀ n, ∀ e ∈ emitted orders dumps (n + 1),
      ∀ state, states (dumps n) e.socket.socketCookie = some state → e.previousState = state := by
  intro hall
  have hevent : emitted (fun _ => .asFiled) closing 1 =
      [socketNotice { socketCookie := 1, state := .established } none false true] := rfl
  have := hall (fun _ => .asFiled) closing identified_closing 0 _
    (by rw [hevent]; exact List.mem_singleton_self _) .established rfl
  cases this

end Netdiag.Watch
