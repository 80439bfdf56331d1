import Netdiag.Lib.Changes
import Netdiag.Platform.Shim
import Netdiag.Watch.Bus

namespace Netdiag.Platform

open Netdiag.Watch (EventSource Severity)
open Changes (Note Change)

/-!
# The framework watcher

`NetdiagFrameworkWatcher.java`, which filters the callbacks of the connectivity manager, and
`on_framework_event` of `slint-app/src/platform/watcher.rs`, which makes an event of what is left.

* `FrameworkWatcher`, `FrameworkWatcher.step` — one callback: what is remembered of each network,
  and the calls into the Rust side.
* `onFrameworkEvent` — the event of such a call.
* `Watched` — a value of a network of which only changes are reported: `validation`, `dns`, `ipv6`.
* `framework_events` — what a run of callbacks reports of a network.
-/

/-! ### The Java side -/

/-- `LinkProperties`, as far as the watcher reads them. -/
structure WatchedLink where
  interfaceName : Option String := none
  dnsServers : List InetAddress := []
  linkAddresses : List IpAddr := []

/-- `InetAddress.toString` of an address that has no host name. -/
def InetAddress.toText (a : InetAddress) : String := "/" ++ String.ofList a.getHostAddress

/-- `List.toString`. -/
def listText (elements : List String) : String := "[" ++ ", ".intercalate elements ++ "]"

/-- `Inet6Address.isLinkLocalAddress`. -/
def isLinkLocalAddress (bits : BitVec 128) : Bool := bits >>> 118 == 0x3fa#128

/-- `Inet6Address.isLoopbackAddress`. -/
def isLoopbackAddress (bits : BitVec 128) : Bool := bits == 1#128

/-- An `Inet6Address` that is more than always there. -/
def countsAsIpv6 : IpAddr → Bool
  | .v4 _ => false
  | .v6 bits => !isLinkLocalAddress bits && !isLoopbackAddress bits

/-- The methods of `ConnectivityManager.NetworkCallback`, with their arguments. -/
inductive Callback
  | available
  | lost
  | losing (maxMsToLive : Int32)
  | capabilitiesChanged (capabilities : NetworkCapabilities)
  | linkPropertiesChanged (link : WatchedLink)
  | blockedStatusChanged (blocked : Bool)

/-- A callback about a network, and what `getLinkProperties` says of its name meanwhile. -/
structure CallbackCall where
  network : Handle
  interfaceName : Option String
  callback : Callback

/-- `name`: the interface name, falling back to the netId when the network is already gone. -/
def CallbackCall.name (c : CallbackCall) : String :=
  c.interfaceName.getD ("net" ++ toString (c.network.val >>> 32))

def kindAvailable : Int := 1
def kindLost : Int := 2
def kindLosing : Int := 3
def kindIpv6Changed : Int := 4
def kindBlockedChanged : Int := 5
def kindValidationChanged : Int := 6
def kindDnsChanged : Int := 7

def severityInfo : Int := 1
def severityNotice : Int := 2
def severityWarning : Int := 3

/-- A call of the native method: `emit`. -/
structure NativeCall where
  kind : Int
  severity : Int
  networkHandle : Handle
  summary : String
  deriving DecidableEq, Repr

/-- `NetdiagFrameworkWatcher`: previous state per network, so only real transitions are reported. -/
structure FrameworkWatcher where
  validated : Handle → Option Bool := fun _ => none
  dnsServers : Handle → Option String := fun _ => none
  hasIpv6 : Handle → Option Bool := fun _ => none

namespace FrameworkWatcher

variable (w : FrameworkWatcher) (c : CallbackCall)

/-- `onLost`. -/
def onLost : FrameworkWatcher × List NativeCall :=
  -- A network that comes back starts afresh.
  ({ validated := Function.update w.validated c.network none
     dnsServers := Function.update w.dnsServers c.network none
     hasIpv6 := Function.update w.hasIpv6 c.network none },
   [⟨kindLost, severityWarning, c.network, c.name ++ " lost"⟩])

/-- `Boolean` in a text. -/
def boolText (b : Bool) : String := if b then "true" else "false"

/-- `previous != null && previous != now`, with the call that is made then. -/
def changed {α : Type} [DecidableEq α] (previous : Option α) (now : α) (call : α → NativeCall) :
    List NativeCall :=
  match previous with
  | some before => if before ≠ now then [call before] else []
  -- The first value is no transition.
  | none => []

/-- The transition of `VALIDATED`. -/
def validationCall (network : Handle) (name : String) (before now : Bool) : NativeCall :=
  ⟨kindValidationChanged, if now then severityNotice else severityWarning, network,
    name ++ " VALIDATED: " ++ boolText before ++ " -> " ++ boolText now⟩

/-- `onCapabilitiesChanged`. -/
def onCapabilitiesChanged (capabilities : NetworkCapabilities) :
    FrameworkWatcher × List NativeCall :=
  let now := capabilities.hasCapability .validated
  ({ w with validated := Function.update w.validated c.network (some now) },
   changed (w.validated c.network) now (fun before =>
     validationCall c.network c.name before now))

/-- The text of `link.getDnsServers()`. -/
def dnsText (link : WatchedLink) : String := listText (link.dnsServers.map InetAddress.toText)

def dnsCall (network : Handle) (label servers : String) : NativeCall :=
  ⟨kindDnsChanged, severityNotice, network, label ++ " DNS " ++ servers⟩

def ipv6Call (network : Handle) (label : String) (ipv6 : Bool) : NativeCall :=
  ⟨kindIpv6Changed, if ipv6 then severityNotice else severityWarning, network,
    label ++ (if ipv6 then " gained IPv6" else " lost IPv6")⟩

/-- `onLinkPropertiesChanged`. -/
def onLinkPropertiesChanged (link : WatchedLink) : FrameworkWatcher × List NativeCall :=
  -- The label of the callback's own link properties comes first.
  let label := link.interfaceName.getD c.name
  let servers := dnsText link
  let ipv6 := link.linkAddresses.any countsAsIpv6
  ({ w with
      dnsServers := Function.update w.dnsServers c.network (some servers)
      hasIpv6 := Function.update w.hasIpv6 c.network (some ipv6) },
   changed (w.dnsServers c.network) servers (fun _ => dnsCall c.network label servers) ++
   changed (w.hasIpv6 c.network) ipv6 (fun _ => ipv6Call c.network label ipv6))

/-- One callback. -/
def step : FrameworkWatcher × List NativeCall :=
  match c.callback with
  | .available => (w, [⟨kindAvailable, severityNotice, c.network, c.name ++ " available"⟩])
  | .lost => w.onLost c
  | .losing maxMsToLive =>
    (w, [⟨kindLosing, severityWarning, c.network,
      c.name ++ " losing connectivity (" ++ toString maxMsToLive.toInt ++ " ms to live)"⟩])
  | .capabilitiesChanged capabilities => w.onCapabilitiesChanged c capabilities
  | .linkPropertiesChanged link => w.onLinkPropertiesChanged c link
  | .blockedStatusChanged blocked =>
    (w, [⟨kindBlockedChanged, if blocked then severityWarning else severityNotice, c.network,
      "this app's traffic on " ++ c.name ++
        (if blocked then " is blocked" else " is no longer blocked")⟩])

/-- The calls of a run of callbacks. -/
def run (w : FrameworkWatcher) : List CallbackCall → List NativeCall
  | [] => []
  | c :: calls => (w.step c).2 ++ run (w.step c).1 calls

end FrameworkWatcher

/-! ### The Rust side -/

/-- `FrameworkEventKind`, as far as `event_kind` knows it. -/
inductive FrameworkEventKind
  | unspecified
  | available
  | lost
  | losing
  | linkPropertiesChanged
  | blockedStatusChanged
  | validationChanged
  | dnsServersChanged
  deriving DecidableEq, Repr

/-- `event_kind`. -/
def eventKind : Int → FrameworkEventKind
  | 1 => .available
  | 2 => .lost
  | 3 => .losing
  | 4 => .linkPropertiesChanged
  | 5 => .blockedStatusChanged
  | 6 => .validationChanged
  | 7 => .dnsServersChanged
  | _ => .unspecified

/-- `event_severity`. -/
def eventSeverity : Int → Severity
  | 1 => .info
  | 2 => .notice
  | 3 => .warning
  -- A severity that is not known is no reason for alarm.
  | _ => .info

/-- The `NetworkEvent` that `on_framework_event` sends; its time is left out. -/
structure FrameworkNotice where
  source : EventSource := .framework
  severity : Severity
  summary : String
  kind : FrameworkEventKind
  currentNetId : Int
  networkHandle : Nat
  netId : Int
  deriving DecidableEq, Repr

/-- `on_framework_event`. -/
def onFrameworkEvent (call : NativeCall) : FrameworkNotice where
  severity := eventSeverity call.severity
  summary := call.summary
  kind := eventKind call.kind
  currentNetId := netIdOf call.networkHandle.val
  networkHandle := call.networkHandle.val
  netId := netIdOf call.networkHandle.val

/-- The events of a run of callbacks. -/
def frameworkEvents (w : FrameworkWatcher) (calls : List CallbackCall) : List FrameworkNotice :=
  (w.run calls).map onFrameworkEvent

/-! ### Watched values -/

/-- A value of a network of which only changes are reported, with the label of the callback. -/
structure Watched (α : Type) where
  kind : FrameworkEventKind
  observe : CallbackCall → Option (String × α)
  remembered : FrameworkWatcher → Handle → Option α
  call : Handle → Change String α → NativeCall
  call_kind : ∀ h change, eventKind (call h change).kind = kind := by exact fun _ _ => rfl
  call_network : ∀ h change, (call h change).networkHandle = h := by exact fun _ _ => rfl

/-- The `VALIDATED` capability. -/
def validation : Watched Bool where
  kind := .validationChanged
  observe c :=
    match c.callback with
    | .capabilitiesChanged capabilities => some (c.name, capabilities.hasCapability .validated)
    | _ => none
  remembered := FrameworkWatcher.validated
  call h change := FrameworkWatcher.validationCall h change.tag change.before change.now

/-- The DNS servers. -/
def dns : Watched String where
  kind := .dnsServersChanged
  observe c :=
    match c.callback with
    | .linkPropertiesChanged link =>
      some (link.interfaceName.getD c.name, FrameworkWatcher.dnsText link)
    | _ => none
  remembered := FrameworkWatcher.dnsServers
  call h change := FrameworkWatcher.dnsCall h change.tag change.now

/-- Whether there is a global IPv6 address. -/
def ipv6 : Watched Bool where
  kind := .linkPropertiesChanged
  observe c :=
    match c.callback with
    | .linkPropertiesChanged link =>
      some (link.interfaceName.getD c.name, link.linkAddresses.any countsAsIpv6)
    | _ => none
  remembered := FrameworkWatcher.hasIpv6
  call h change := FrameworkWatcher.ipv6Call h change.tag change.now

/-- The callbacks about a network. -/
def about (h : Handle) (calls : List CallbackCall) : List CallbackCall :=
  calls.filter (fun c => c.network = h)

namespace Watched

variable {α : Type} [DecidableEq α] (a : Watched α)

/-- What a callback tells of the value: a loss ends what is known. -/
def note (c : CallbackCall) : Option (Note String α) :=
  match c.callback with
  | .lost => some .forget
  | _ => (a.observe c).map (fun seen => .seen seen.1 seen.2)

/-- What the callbacks about a network tell of it. -/
def notes (h : Handle) (calls : List CallbackCall) : List (Note String α) :=
  (about h calls).filterMap a.note

/-- The event of a change. -/
def event (h : Handle) (change : Change String α) : FrameworkNotice :=
  onFrameworkEvent (a.call h change)

/-- The calls that the value makes necessary at one callback. -/
def calls (w : FrameworkWatcher) (c : CallbackCall) : List NativeCall :=
  ((a.note c).bind (Note.change (a.remembered w c.network))).toList.map (a.call c.network)

/-- What is remembered after one callback. -/
def after (w : FrameworkWatcher) (c : CallbackCall) : Handle → Option α :=
  Function.update (a.remembered w) c.network
    (((a.note c).map Note.value).getD (a.remembered w c.network))

end Watched

/-- The call of a callback that is passed on as it is. -/
def passed (c : CallbackCall) : List NativeCall :=
  match c.callback with
  | .capabilitiesChanged _ | .linkPropertiesChanged _ => []
  | _ => (FrameworkWatcher.step {} c).2

/-- The kinds of the callbacks that are passed on. -/
def passedKinds : List FrameworkEventKind := [.available, .lost, .losing, .blockedStatusChanged]

/-! ### One callback -/

section

open FrameworkWatcher

variable (w : FrameworkWatcher) (c : CallbackCall)

/-- A change is reported when the value differs from the one remembered. -/
theorem changed_eq {α : Type} [DecidableEq α] (previous : Option α) (tag : String) (now : α)
    (call : Change String α → NativeCall) :
    changed previous now (fun before => call { tag, before, now }) =
      ((Note.seen tag now).change previous).toList.map call := by
  cases previous with
  | none => rfl
  | some before =>
    show (if before ≠ now then [call ⟨tag, before, now⟩] else []) =
      (if before ≠ now then some (Change.mk tag before now) else none).toList.map call
    split_ifs <;> rfl

/-- A callback is passed on, or it makes the calls of the watched values. -/
theorem step_calls : (w.step c).2 =
    passed c ++ validation.calls w c ++ dns.calls w c ++ ipv6.calls w c := by
  unfold passed Watched.calls Watched.note
  cases hc : c.callback with
  | available => simp [FrameworkWatcher.step, validation, dns, ipv6, hc]
  | lost => simp [FrameworkWatcher.step, onLost, hc, Note.change]
  | losing maxMsToLive => simp [FrameworkWatcher.step, validation, dns, ipv6, hc]
  | blockedStatusChanged blocked => simp [FrameworkWatcher.step, validation, dns, ipv6, hc]
  | capabilitiesChanged capabilities =>
    have calls := changed_eq (w.validated c.network) c.name
      (capabilities.hasCapability .validated) (validation.call c.network)
    simp only [FrameworkWatcher.step, hc, onCapabilitiesChanged]
    refine calls.trans ?_
    simp [validation, dns, ipv6, hc]
  | linkPropertiesChanged link =>
    have servers := changed_eq (w.dnsServers c.network) (link.interfaceName.getD c.name)
      (dnsText link) (dns.call c.network)
    have address := changed_eq (w.hasIpv6 c.network) (link.interfaceName.getD c.name)
      (link.linkAddresses.any countsAsIpv6) (ipv6.call c.network)
    simp only [FrameworkWatcher.step, hc, onLinkPropertiesChanged]
    refine (congrArg₂ (· ++ ·) servers address).trans ?_
    simp [validation, dns, ipv6, hc]

/-- A callback tells each watched value its note, for its own network only. -/
theorem step_state : (w.step c).1 =
    { validated := validation.after w c
      dnsServers := dns.after w c
      hasIpv6 := ipv6.after w c } := by
  unfold Watched.after Watched.note
  cases hc : c.callback <;>
    simp [FrameworkWatcher.step, onLost, onCapabilitiesChanged, onLinkPropertiesChanged, hc,
      validation, dns, ipv6, Note.value]

/-- What a callback passes on is about its own network. -/
theorem mem_passed {call : NativeCall} (mem : call ∈ passed c) :
    eventKind call.kind ∈ passedKinds ∧ call.networkHandle = c.network := by
  unfold passed at mem
  cases hc : c.callback <;>
    simp [FrameworkWatcher.step, onLost, hc] at mem <;>
    simp [mem, eventKind, passedKinds, kindAvailable, kindLost, kindLosing, kindBlockedChanged]

/-- What a watched value reports is about the network of the callback. -/
theorem mem_calls {α : Type} [DecidableEq α] (a : Watched α) {call : NativeCall}
    (mem : call ∈ a.calls w c) : eventKind call.kind = a.kind ∧ call.networkHandle = c.network := by
  obtain ⟨change, -, rfl⟩ := List.mem_map.mp mem
  exact ⟨a.call_kind _ _, a.call_network _ _⟩

end

/-! ### A run of callbacks -/

/-- The events about a network that are of some kinds. -/
def ofKinds (kinds : List FrameworkEventKind) (h : Handle) (events : List FrameworkNotice) :
    List FrameworkNotice :=
  events.filter (fun e => e.networkHandle = h.val ∧ e.kind ∈ kinds)

section

variable {kinds : List FrameworkEventKind} {h : Handle} {calls : List NativeCall}

/-- The events of some kinds, in two parts. -/
theorem ofKinds_append (kinds : List FrameworkEventKind) (h : Handle)
    (xs ys : List FrameworkNotice) :
    ofKinds kinds h (xs ++ ys) = ofKinds kinds h xs ++ ofKinds kinds h ys :=
  List.filter_append xs ys

/-- Calls about another network, or of other kinds. -/
theorem ofKinds_map_of_not (not : ∀ call ∈ calls,
    ¬(eventKind call.kind ∈ kinds ∧ call.networkHandle = h)) :
    ofKinds kinds h (calls.map onFrameworkEvent) = [] := by
  rw [ofKinds, List.filter_eq_nil_iff]
  intro e mem
  obtain ⟨call, made, rfl⟩ := List.mem_map.mp mem
  rw [decide_eq_true_eq]
  exact fun both => not call made ⟨both.2, Subtype.ext both.1⟩

/-- Calls about the network, of these kinds. -/
theorem ofKinds_map_of (all : ∀ call ∈ calls,
    eventKind call.kind ∈ kinds ∧ call.networkHandle = h) :
    ofKinds kinds h (calls.map onFrameworkEvent) = calls.map onFrameworkEvent := by
  rw [ofKinds, List.filter_eq_self]
  intro e mem
  obtain ⟨call, made, rfl⟩ := List.mem_map.mp mem
  rw [decide_eq_true_eq]
  exact ⟨congrArg Subtype.val (all call made).2, (all call made).1⟩

/-- The events about the network are those of the callbacks about it. -/
theorem ofKinds_step (w : FrameworkWatcher) (c : CallbackCall) :
    ofKinds kinds h ((w.step c).2.map onFrameworkEvent) =
      if c.network = h then
        ofKinds kinds h ((passed c).map onFrameworkEvent) ++
          ofKinds kinds h ((validation.calls w c).map onFrameworkEvent) ++
          ofKinds kinds h ((dns.calls w c).map onFrameworkEvent) ++
          ofKinds kinds h ((ipv6.calls w c).map onFrameworkEvent)
      else [] := by
  rw [step_calls]
  split_ifs with same
  · simp only [List.map_append, ofKinds_append]
  · apply ofKinds_map_of_not
    intro call mem both
    apply same
    rw [← both.2]
    simp only [List.mem_append] at mem
    rcases mem with ((plain | mem) | mem) | mem
    · exact (mem_passed c plain).2.symm
    · exact (mem_calls w c validation mem).2.symm
    · exact (mem_calls w c dns mem).2.symm
    · exact (mem_calls w c ipv6 mem).2.symm

/-- A callback passes nothing on as an event of another kind. -/
theorem ofKinds_passed_of_ne {kind : FrameworkEventKind} (ne : kind ∉ passedKinds)
    (c : CallbackCall) :
    ofKinds [kind] h ((passed c).map onFrameworkEvent) = [] := by
  apply ofKinds_map_of_not
  intro call mem both
  apply ne
  rw [← List.mem_singleton.mp both.1]
  exact (mem_passed c mem).1

variable {α : Type} [DecidableEq α] (a : Watched α)

/-- A watched value reports nothing as an event of another kind. -/
theorem ofKinds_calls_of_ne (ne : a.kind ∉ kinds) (w : FrameworkWatcher) (c : CallbackCall) :
    ofKinds kinds h ((a.calls w c).map onFrameworkEvent) = [] := by
  apply ofKinds_map_of_not
  intro call mem both
  rw [(mem_calls w c a mem).1] at both
  exact ne both.1

/-- What a watched value reports of its own kind: the change, if there is one. -/
theorem ofKinds_calls_self (w : FrameworkWatcher) (c : CallbackCall) :
    ofKinds [a.kind] c.network ((a.calls w c).map onFrameworkEvent) =
      ((a.note c).bind (Note.change (a.remembered w c.network))).toList.map
        (a.event c.network) := by
  rw [ofKinds_map_of, Watched.calls, List.map_map]
  · rfl
  · intro call mem
    have made := mem_calls w c a mem
    exact ⟨by rw [made.1]; exact List.mem_singleton_self _, made.2⟩

/-- All that a callback passes on is of the kinds that are passed. -/
theorem ofKinds_passed_self (c : CallbackCall) :
    ofKinds passedKinds c.network ((passed c).map onFrameworkEvent) =
      (passed c).map onFrameworkEvent :=
  ofKinds_map_of (fun _ mem => mem_passed c mem)

end

/-- One callback, then the others. -/
theorem frameworkEvents_cons (w : FrameworkWatcher) (c : CallbackCall) (calls : List CallbackCall) :
    frameworkEvents w (c :: calls) =
      (w.step c).2.map onFrameworkEvent ++ frameworkEvents (w.step c).1 calls := List.map_append

/-- A callback about the network. -/
theorem about_cons_of_eq {h : Handle} {c : CallbackCall} (same : c.network = h)
    (calls : List CallbackCall) : about h (c :: calls) = c :: about h calls :=
  List.filter_cons_of_pos (by simpa using same)

/-- A callback about another network. -/
theorem about_cons_of_ne {h : Handle} {c : CallbackCall} (ne : c.network ≠ h)
    (calls : List CallbackCall) : about h (c :: calls) = about h calls :=
  List.filter_cons_of_neg (by simpa using ne)

namespace Watched

variable {α : Type} [DecidableEq α] {a : Watched α}

/-- What a run of callbacks reports of the value of a network. -/
theorem events_of_run (remembers : ∀ w c, a.remembered (w.step c).1 = a.after w c)
    (reports : ∀ w c, ofKinds [a.kind] c.network ((w.step c).2.map onFrameworkEvent) =
      ofKinds [a.kind] c.network ((a.calls w c).map onFrameworkEvent))
    (w : FrameworkWatcher) (calls : List CallbackCall) (h : Handle) :
    ofKinds [a.kind] h (frameworkEvents w calls) =
      (Changes.changes (a.remembered w h) (a.notes h calls)).map (a.event h) := by
  induction calls generalizing w with
  | nil => rfl
  | cons c calls ih =>
    rw [frameworkEvents_cons, ofKinds_append, ih, remembers]
    -- A callback about this network, or about another.
    by_cases same : c.network = h
    · subst same
      have notes : a.notes c.network (c :: calls) =
          (a.note c).toList ++ a.notes c.network calls := by
        rw [notes, about_cons_of_eq rfl, List.filterMap_cons]
        cases a.note c <;> rfl
      rw [reports, ofKinds_calls_self, notes, after, Function.update_self]
      cases a.note c with
      | none => rfl
      | some note => exact List.map_append.symm
    · have other : h ≠ c.network := fun eq => same eq.symm
      have notes : a.notes h (c :: calls) = a.notes h calls := by
        rw [notes, notes, about_cons_of_ne same]
      rw [ofKinds_step, if_neg same, notes, after, Function.update_of_ne other]
      rfl

end Watched

/-- What is passed on over a run is what each callback passes on. -/
theorem passed_of_run (w : FrameworkWatcher) (calls : List CallbackCall) (h : Handle) :
    ofKinds passedKinds h (frameworkEvents w calls) =
      ((about h calls).flatMap passed).map onFrameworkEvent := by
  induction calls generalizing w with
  | nil => rfl
  | cons c calls ih =>
    rw [frameworkEvents_cons, ofKinds_append, ih, ofKinds_step]
    by_cases same : c.network = h
    · subst same
      rw [if_pos rfl, about_cons_of_eq rfl, List.flatMap_cons, List.map_append,
        ofKinds_passed_self, ofKinds_calls_of_ne validation (by decide),
        ofKinds_calls_of_ne dns (by decide), ofKinds_calls_of_ne ipv6 (by decide)]
      simp only [List.append_nil]
    · rw [if_neg same, about_cons_of_ne same]
      rfl

/-- The validation events of a run are the changes of what the callbacks said. -/
theorem validation_of_run (w : FrameworkWatcher) (calls : List CallbackCall) (h : Handle) :
    ofKinds [.validationChanged] h (frameworkEvents w calls) =
      (Changes.changes (w.validated h) (validation.notes h calls)).map (validation.event h) := by
  apply Watched.events_of_run (a := validation)
  · intro w c
    rw [step_state]
    rfl
  · intro w c
    rw [ofKinds_step, if_pos rfl, ofKinds_passed_of_ne (by decide),
      ofKinds_calls_of_ne dns (by decide), ofKinds_calls_of_ne ipv6 (by decide), List.append_nil,
      List.append_nil, List.nil_append]

/-- The DNS events of a run are the changes of what the callbacks said. -/
theorem dns_of_run (w : FrameworkWatcher) (calls : List CallbackCall) (h : Handle) :
    ofKinds [.dnsServersChanged] h (frameworkEvents w calls) =
      (Changes.changes (w.dnsServers h) (dns.notes h calls)).map (dns.event h) := by
  apply Watched.events_of_run (a := dns)
  · intro w c
    rw [step_state]
    rfl
  · intro w c
    rw [ofKinds_step, if_pos rfl, ofKinds_passed_of_ne (by decide),
      ofKinds_calls_of_ne validation (by decide), ofKinds_calls_of_ne ipv6 (by decide),
      List.append_nil, List.nil_append, List.nil_append]

/-- The IPv6 events of a run are the changes of what the callbacks said. -/
theorem ipv6_of_run (w : FrameworkWatcher) (calls : List CallbackCall) (h : Handle) :
    ofKinds [.linkPropertiesChanged] h (frameworkEvents w calls) =
      (Changes.changes (w.hasIpv6 h) (ipv6.notes h calls)).map (ipv6.event h) := by
  apply Watched.events_of_run (a := ipv6)
  · intro w c
    rw [step_state]
    rfl
  · intro w c
    rw [ofKinds_step, if_pos rfl, ofKinds_passed_of_ne (by decide),
      ofKinds_calls_of_ne validation (by decide), ofKinds_calls_of_ne dns (by decide),
      List.nil_append, List.nil_append, List.nil_append]

/-- The kinds there are. -/
def reportedKinds : List FrameworkEventKind :=
  [.validationChanged, .dnsServersChanged, .linkPropertiesChanged] ++ passedKinds

/-- Every call is of one of seven kinds. -/
theorem kind_of_run (w : FrameworkWatcher) {calls : List CallbackCall} {call : NativeCall}
    (mem : call ∈ w.run calls) : eventKind call.kind ∈ reportedKinds := by
  induction calls generalizing w with
  | nil => cases mem
  | cons c calls ih =>
    rcases List.mem_append.mp mem with now | later
    · rw [step_calls] at now
      simp only [List.mem_append] at now
      rcases now with ((plain | mem) | mem) | mem
      · exact List.mem_append_right _ (mem_passed c plain).1
      · rw [(mem_calls w c validation mem).1]
        decide
      · rw [(mem_calls w c dns mem).1]
        decide
      · rw [(mem_calls w c ipv6 mem).1]
        decide
    · exact ih (w.step c).1 later

/-- What a run of callbacks, in whatever order, tells of a network: of its validation, its DNS
    servers and its IPv6 the changes between two losses, of the other callbacks each one, and
    nothing else. -/
theorem framework_events (calls : List CallbackCall) (h : Handle) :
    ofKinds [.validationChanged] h (frameworkEvents {} calls) =
      ((Changes.epochs (validation.notes h calls)).flatMap Changes.differences).map
        (validation.event h) ∧
    ofKinds [.dnsServersChanged] h (frameworkEvents {} calls) =
      ((Changes.epochs (dns.notes h calls)).flatMap Changes.differences).map (dns.event h) ∧
    ofKinds [.linkPropertiesChanged] h (frameworkEvents {} calls) =
      ((Changes.epochs (ipv6.notes h calls)).flatMap Changes.differences).map (ipv6.event h) ∧
    ofKinds passedKinds h (frameworkEvents {} calls) =
      ((about h calls).flatMap passed).map onFrameworkEvent ∧
    ∀ e ∈ frameworkEvents {} calls,
      e.currentNetId = (e.networkHandle >>> 32 : Nat) ∧ e.kind ∈ reportedKinds := by
  refine ⟨?_, ?_, ?_, passed_of_run {} calls h, ?_⟩
  · rw [validation_of_run, Changes.changes_eq]
  · rw [dns_of_run, Changes.changes_eq]
  · rw [ipv6_of_run, Changes.changes_eq]
  · intro e mem
    obtain ⟨call, made, rfl⟩ := List.mem_map.mp mem
    exact ⟨netIdOf_handle call.networkHandle, kind_of_run {} made⟩

end Netdiag.Platform
