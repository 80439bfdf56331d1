import Netdiag.Collect.Summary
import Netdiag.Correlate.AppState
import Netdiag.Lib.Ranking

namespace Netdiag.Correlate

/-!
# Per-app view — the networks an app's sockets are pinned to

`observed_net_ids` of `daemon/src/correlate.rs` counts netIds in a `HashMap`, whose iterator
gives them in no order one could know.

* `netIdCounts`, `netIdsInOrder` — the loop, and the sort of what the iterator gives.
* `tally_netIdCounts` — the map holds the netIds of marked sockets with their numbers.
* `observedNetIds_ranked` — which netIds come out and in which order, whatever the order of the
  sockets and of the iterator; and the network the view of an app names.
-/

open Netdiag.Diag

/-- The socket is marked for the network `id`. -/
def pinnedTo (id : Int) (s : Collect.InetSocket) : Bool :=
  s.hasMark && s.netId != 0 && asI32 s.netId == id

/-- How many sockets are marked for a network. -/
def uses (sockets : List Collect.InetSocket) (id : Int) : Nat := sockets.countP (pinnedTo id)

/-- The netIds of marked sockets, each once, those of more sockets first and those of equally many
    in ascending order. -/
structure Observed (sockets : List Collect.InetSocket) (ids : List Int) : Prop where
  mem_iff : ∀ id, id ∈ ids ↔
    ∃ s ∈ sockets, s.hasMark = true ∧ s.netId ≠ 0 ∧ asI32 s.netId = id
  nodup : ids.Nodup
  ordered : ids.Pairwise (fun a b =>
    uses sockets b < uses sockets a ∨ (uses sockets b = uses sockets a ∧ a < b))

/-- The network of the first netId if the framework knows it, else the default one. -/
structure Chosen (networks : List AndroidNetwork) (ids : List Int)
    (chosen : Option AndroidNetwork) : Prop where
  known : ∀ id ∈ ids.head?, (∃ n ∈ networks, n.netId = id) →
    ∃ n ∈ networks, n.netId = id ∧ chosen = some n
  unknown : (∀ id ∈ ids.head?, ∀ n ∈ networks, n.netId ≠ id) →
    chosen = networks.find? AndroidNetwork.isDefault

/-! ### The map -/

end Netdiag.Correlate
