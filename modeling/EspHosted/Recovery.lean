import EspHosted.BootTlv

/-!
Recovery state of the adapter, `host/main.c`. Each definition is what a function
does while it holds `fw_recovery_lock`, so it is one step of any interleaving.
-/

set_option autoImplicit false

namespace EspHosted.Recovery
open EspHosted

def ESP_FW_BOOT_MAX_ATTEMPTS : Nat := 3

/-- `adapter->state`, `ESP_CONTEXT_*`. -/
inductive Context where
  | disabled
  | rxReady
  | ready
  deriving DecidableEq, Repr

structure Adapter where
  initDone : Bool := false
  recoveryPending : Bool := false
  resetExpected : Bool := false
  allowReconstruct : Bool := false
  cleanupInProgress : Bool := false
  radioInitPending : Bool := false
  exhausted : Bool := false
  /-- `ESP_DRIVER_UNLOADING` or `ESP_TRANSPORT_REMOVING`, always tested together. -/
  shuttingDown : Bool := false
  state : Context := .rxReady
  recoveryGen : UInt32 := 0
  reconstructGen : UInt32 := 0
  bootResetAttempts : Nat := 0
  /-- `0` is the not-armed sentinel. -/
  bootDeadline : Nat := 0
  bootCommitEpoch : Nat := 0
  /-- `fw_recovery_work` is queued. -/
  workArmed : Bool := false
  boot : Boot.BootMeta := {}
  deriving DecidableEq, Repr

def espRecoveryDropTx (a : Adapter) : Adapter :=
  if a.state = .ready then {a with state := .rxReady} else a

def espScheduleRecovery (a : Adapter) (fwReset : Bool) : Adapter :=
  if a.shuttingDown then a
  else
    let a := {a with
      resetExpected := a.resetExpected || fwReset
      recoveryPending := true
      recoveryGen := a.recoveryGen+1}
    if a.allowReconstruct then a else espRecoveryDropTx a

/-- `jiffies` is an `unsigned long` of `bits` bits. `timeout` is
`msecs_to_jiffies(ESP_FW_BOOT_ACK_TIMEOUT_MS)`, far below half of the range. -/
structure Clock where
  bits : Nat
  timeout : Nat
  fits : 2*timeout ≤ 2^bits

/-- A 32-bit kernel with `HZ` = 1000 and `ESP_FW_BOOT_ACK_TIMEOUT_MS`. -/
def clock32 : Clock := {bits := 32, timeout := 9000, fits := by decide}

def Clock.jiffies (c : Clock) (now : Nat) : Nat := now%2^c.bits

def Clock.timeAfterEq (c : Clock) (a b : Nat) : Bool := 2*((a+2^c.bits-b)%2^c.bits) < 2^c.bits

inductive Restart where
  | coalesced
  | exhausted
  | dispatched
  deriving DecidableEq, Repr

def espRequestFirmwareRestart (c : Clock) (now : Nat) (a : Adapter) : Adapter × Restart :=
  if a.bootDeadline ≠ 0 then (a,.coalesced)
  else if a.exhausted ∨ ESP_FW_BOOT_MAX_ATTEMPTS ≤ a.bootResetAttempts then
    ({a with exhausted := true, bootDeadline := 0},.exhausted)
  else
    ({a with bootResetAttempts := a.bootResetAttempts+1
             bootDeadline := (c.jiffies now+c.timeout)%2^c.bits},.dispatched)

/-- What `esp_fw_recovery_work` goes on to do after its critical section. -/
inductive Work where
  | skip
  | retry
  | rearm
  | recover
  deriving DecidableEq, Repr

def espFwRecoveryWork (c : Clock) (now : Nat) (a : Adapter) : Adapter × Work :=
  if a.shuttingDown ∨ a.exhausted then (a,.skip)
  else if a.initDone ∧ a.recoveryPending = false ∧ a.resetExpected = false then (a,.skip)
  else if a.bootDeadline ≠ 0 ∧ c.timeAfterEq (c.jiffies now) a.bootDeadline then
    ({a with bootDeadline := 0},.retry)
  else if a.cleanupInProgress then ({a with workArmed := true},.rearm)
  else if a.allowReconstruct then ({a with workArmed := true},.rearm)
  else if a.initDone = false ∧ a.recoveryPending = false ∧ a.resetExpected = false then (a,.retry)
  else (a,.recover)

def espFinishReconstruction (a : Adapter) : Adapter × Bool :=
  if a.initDone ∧ a.recoveryPending = false ∧ a.resetExpected = false then
    ({a with bootResetAttempts := 0, bootDeadline := 0, exhausted := false
             bootCommitEpoch := a.bootCommitEpoch+1},true)
  else (a,false)

def espResetBootRecoveryForBinding (a : Adapter) (preserveActiveReset : Bool) : Adapter × Bool :=
  if preserveActiveReset ∧ a.bootDeadline ≠ 0 ∧ a.resetExpected ∧ a.exhausted = false then (a,false)
  else
    ({a with bootResetAttempts := 0, bootDeadline := 0, exhausted := false
             recoveryPending := false, resetExpected := false, allowReconstruct := false
             cleanupInProgress := false},true)

def espBeginReconstruction (a : Adapter) : Adapter :=
  {a with allowReconstruct := true, reconstructGen := a.recoveryGen}

def espClearReconstructFlag (a : Adapter) : Adapter := {a with allowReconstruct := false}

/-- The locked part of `esp_commit_reconstruction`; `true` is `need_recovery`. -/
def espCommitReconstruction (a : Adapter) : Adapter × Bool :=
  let a := {a with allowReconstruct := false}
  if a.recoveryGen ≠ a.reconstructGen then ({a with state := .rxReady},true)
  else ({a with recoveryPending := false, resetExpected := false, state := .ready},false)

end EspHosted.Recovery
