import Netdiag.Collect.Firewall
import Netdiag.Lib.Sorted

namespace Netdiag.Collect

/-!
# Collect — the state of the firewall

`collect` of `daemon/src/collect/firewall.rs`: which of eBPF, iptables and nftables has left
traces on a device.

* `FirewallSources` — the directories, paths and tools that are asked.
* `listBpfPins` — the pinned objects that look like networking.
* `collectFirewall` — the report.
* `mem_backends_iff` — a backend is in the report exactly where there is a trace of it.
-/

/-- What is asked: the entries of a directory, whether a path exists, and what a tool prints. -/
structure FirewallSources where
  readDir : String → Option (List String)
  present : String → Bool
  runTool : String → List String → Option (List Char)

/-- `FirewallBackend`. -/
inductive FirewallBackend
  | unspecified
  | iptables
  | nftables
  | ebpf
  deriving DecidableEq, Repr

/-- The number of a backend on the wire. -/
def FirewallBackend.number : FirewallBackend → Nat
  | .unspecified => 0
  | .iptables => 1
  | .nftables => 2
  | .ebpf => 3

/-- `FirewallState`. -/
structure FirewallState where
  backendsDetected : List Nat
  ipv4Chains : List FirewallChain
  ipv6Chains : List FirewallChain
  bpfPinnedObjects : List String
  bpfMapsReadable : Bool
  usedShellFallback : Bool
  collectionNote : String
  deriving DecidableEq, Repr

/-- `UID_OWNER_MAP_PATHS`. -/
def uidOwnerMapPaths : List String :=
  ["/sys/fs/bpf/netd_shared/map_netd_uid_owner_map",
    "/sys/fs/bpf/net_shared/map_netd_uid_owner_map",
    "/sys/fs/bpf/map_netd_uid_owner_map"]

/-- `uid_owner_map_path`. -/
def uidOwnerMapPath (s : FirewallSources) : Option String := uidOwnerMapPaths.find? s.present

/-- The directories of `list_bpf_pins`. -/
def bpfRoots : List String :=
  ["/sys/fs/bpf", "/sys/fs/bpf/netd_shared", "/sys/fs/bpf/net_shared"]

/-- The words of `list_bpf_pins`, one of which a name contains. -/
def networkWords : List String := ["net", "uid", "clat", "tether", "cookie"]

/-- `str::contains`. -/
def contains (word : List Char) : List Char → Bool
  | [] => word.isEmpty
  | c :: text => word.isPrefixOf (c :: text) || contains word text

/-- A name that is kept. -/
def isNetworkName (name : String) : Bool :=
  networkWords.any (fun word => contains word.toList name.toList)

/-- The entries of one directory that are kept. -/
def pinsIn (s : FirewallSources) (root : String) : List String :=
  (((s.readDir root).getD []).filter isNetworkName).map (fun name => s!"{root}/{name}")

/-- `Ord` of strings: that of their bytes, which is that of their characters. -/
def stringLe (a b : String) : Bool := (compareOfLessAndEq a b).isLE

/-- `list_bpf_pins`. -/
def listBpfPins (s : FirewallSources) : List String × Bool :=
  (Sorted.dedup ((bpfRoots.flatMap (pinsIn s)).mergeSort stringLe),
    bpfRoots.any (fun root => (s.readDir root).isSome))

/-- `run_tool`, when the shell may be used. -/
def runTool (s : FirewallSources) (useShellFallback : Bool) (program : String)
    (args : List String) : Option (List Char) :=
  if useShellFallback then s.runTool program args else none

/-- `iptables-save -c` or `ip6tables-save -c`, parsed. -/
def savedChains (s : FirewallSources) (useShellFallback : Bool) (program : String) :
    List FirewallChain :=
  ((runTool s useShellFallback program ["-c"]).map parseIptablesSave).getD []

/-- `nft list tables` succeeds. -/
def nftAnswers (s : FirewallSources) (useShellFallback : Bool) : Bool :=
  (runTool s useShellFallback "nft" ["list", "tables"]).isSome

/-- The backends, in the order in which they are found; chains of `ip6tables` do not count. -/
def backendsFound (s : FirewallSources) (useShellFallback : Bool) : List FirewallBackend :=
  (if (uidOwnerMapPath s).isSome || !(listBpfPins s).1.isEmpty then [.ebpf] else []) ++
    (if (savedChains s useShellFallback "iptables-save").isEmpty then [] else [.iptables]) ++
    (if nftAnswers s useShellFallback then [.nftables] else [])

/-- `collect`. -/
def collectFirewall (s : FirewallSources) (useShellFallback : Bool) : FirewallState where
  backendsDetected :=
    Sorted.dedup (((backendsFound s useShellFallback).map FirewallBackend.number).mergeSort)
  ipv4Chains := savedChains s useShellFallback "iptables-save"
  ipv6Chains := savedChains s useShellFallback "ip6tables-save"
  bpfPinnedObjects := (listBpfPins s).1
  bpfMapsReadable := (listBpfPins s).2
  -- A tool that answers has been used, even if it shows no chain.
  usedShellFallback := (runTool s useShellFallback "iptables-save" ["-c"]).isSome ||
    (runTool s useShellFallback "ip6tables-save" ["-c"]).isSome
  collectionNote :=
    if (uidOwnerMapPath s).isSome then "per-uid rules read from netd's eBPF uid_owner_map"
    else if (listBpfPins s).2 then
      "eBPF filesystem is present but netd's uid_owner_map was not found; per-uid " ++
        "blocking state is not determinable"
    else "no readable eBPF or netfilter state"

/-! ### What is detected -/

/-- The traces of a backend. -/
def FirewallBackend.Traced (s : FirewallSources) (useShellFallback : Bool) :
    FirewallBackend → Prop
  | .unspecified => False
  | .iptables => savedChains s useShellFallback "iptables-save" ≠ []
  | .nftables => nftAnswers s useShellFallback = true
  | .ebpf => (uidOwnerMapPath s).isSome = true ∨ (listBpfPins s).1 ≠ []

theorem FirewallBackend.number_inj {a b : FirewallBackend} (h : a.number = b.number) : a = b := by
  cases a <;> cases b <;> first | rfl | cases h

theorem mem_backendsFound (s : FirewallSources) (useShellFallback : Bool) (b : FirewallBackend) :
    b ∈ backendsFound s useShellFallback ↔ b.Traced s useShellFallback := by
  rw [backendsFound, List.mem_append, List.mem_append]
  cases b with
  | unspecified => simp [FirewallBackend.Traced]
  | iptables => simp [FirewallBackend.Traced]
  | nftables => simp [FirewallBackend.Traced]
  | ebpf => simp [FirewallBackend.Traced]

/-- A backend is reported exactly where there is a trace of it, and none is reported twice. -/
theorem mem_backends_iff (s : FirewallSources) (useShellFallback : Bool) :
    (collectFirewall s useShellFallback).backendsDetected.Pairwise (· < ·) ∧
      ∀ b : FirewallBackend, b.number ∈ (collectFirewall s useShellFallback).backendsDetected ↔
        b.Traced s useShellFallback := by
  constructor
  · apply Sorted.pairwise_dedup
    have hsorted : ((backendsFound s useShellFallback).map
        FirewallBackend.number).mergeSort.Pairwise (fun a b => decide (a ≤ b) = true) :=
      List.pairwise_mergeSort (by simp; omega) (by simp; omega) _
    exact hsorted.imp of_decide_eq_true
  · intro b
    rw [collectFirewall, Sorted.mem_dedup, List.mem_mergeSort, List.mem_map, ← mem_backendsFound]
    constructor
    · rintro ⟨b', hmem, hnumber⟩
      rwa [← FirewallBackend.number_inj hnumber]
    · exact fun hmem => ⟨b, hmem, rfl⟩

end Netdiag.Collect
