import Netdiag.Net.Messages

namespace Netdiag.Probe

/-!
# Probes — how they are routed and what they report

`daemon/src/probe/mod.rs` and the fwmark helpers of `daemon/src/util.rs`.

* `ProbeContext` — mark, device and source address a probe's socket is given.
* `ProbeResult` — the outcome all probes share.  Measured durations are left out: nothing
  that is decided depends on them.
-/

/-- A number in hexadecimal, as `{:x}` prints it. -/
def hex (n : Nat) : String := String.ofList (Nat.toDigits 16 n)

/-- `util::net_id_from_mark`. -/
def netIdFromMark (mark : Nat) : Nat := mark &&& 0xffff

/-- `util::mark_for_net_id`. -/
def markForNetId (netId : Nat) : Nat := (netId &&& 0xffff) ||| (1 <<< 16)

/-- `DEFAULT_TIMEOUT_MS`. -/
def defaultTimeoutMs : Nat := 3000

/-- `ProbeContext`. -/
structure ProbeContext where
  mark : Option Nat := none
  bindDevice : Option String := none
  source : Option IpAddr := none
  timeoutMs : Nat := 0
  deriving DecidableEq, Repr

namespace ProbeContext

/-- `ProbeContext::with_timeout`. -/
def withTimeout (timeoutMs : Nat) : ProbeContext :=
  { timeoutMs := if timeoutMs = 0 then defaultTimeoutMs else timeoutMs }

/-- `ProbeContext::pinned_to_net_id`. -/
def pinnedToNetId (ctx : ProbeContext) (netId : Int) : ProbeContext :=
  if 0 < netId then { ctx with mark := some (markForNetId netId.toNat) } else ctx

/-- `ProbeContext::on_device`. -/
def onDevice (ctx : ProbeContext) (name : String) : ProbeContext :=
  if name.isEmpty then ctx else { ctx with bindDevice := some name }

/-- `ProbeContext::describe`. -/
def describe (ctx : ProbeContext) : String :=
  let mark := ctx.mark.map (fun m => s!"mark=0x{hex m} (netId {netIdFromMark m})")
  let device := ctx.bindDevice.map (fun d => s!"dev={d}")
  let source := ctx.source.map (fun ip => s!"src={ip.display}")
  let parts := [mark, device, source].filterMap (fun part => part)
  if parts.isEmpty then "default network" else " ".intercalate parts

end ProbeContext

/-- `ProbeResult`. -/
structure ProbeResult where
  ok : Bool
  detail : String
  evidence : List (String × String)
  error : Option String
  deriving DecidableEq, Repr

namespace ProbeResult

/-- `ProbeResult::success`. -/
def success (detail : String) : ProbeResult := ⟨true, detail, [], none⟩

/-- `ProbeResult::failure`. -/
def failure (detail : String) : ProbeResult := ⟨false, detail, [], some detail⟩

/-- `ProbeResult::with`. -/
def with_ (r : ProbeResult) (key value : String) : ProbeResult :=
  { r with evidence := r.evidence ++ [(key, value)] }

/-- `ProbeResult::to_error`. -/
def toError (r : ProbeResult) : Option Ipc.Error := r.error.map Ipc.Error.kernel

@[simp] theorem success_ok (detail : String) : (success detail).ok = true := rfl

@[simp] theorem failure_ok (detail : String) : (failure detail).ok = false := rfl

@[simp] theorem with_ok (r : ProbeResult) (key value : String) : (r.with_ key value).ok = r.ok :=
  rfl

end ProbeResult

end Netdiag.Probe
