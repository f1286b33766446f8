import EspHosted.Recovery

/-!
Packet-length and credit counters of the SDIO host, `host/sdio/esp_sdio.c`, next
to the cumulative counters of the slave they follow. The slave restarts its own at
zero in every epoch. The result of every bus operation is an input.
-/

set_option autoImplicit false

namespace EspHosted.Sdio
open EspHosted Recovery

def ESP_RX_BYTE_MAX : Nat := 0x100000
def ESP_HOST_RX_AGGR_SIZE : Nat := 15872
def ESP_TX_BUFFER_MAX : Nat := 0x1000
def ESP_MAX_BUF_CNT : Nat := 10
def ESP_BLOCK_SIZE : Nat := 512

/-- `published` and `token` are the slave's PACKET_LEN and TOKEN1 before they are cut
to 20 and 12 bits. `consumed` and `spent` say what the host has taken in this epoch. -/
structure Counters where
  rxByteCount : Nat := 0
  txBufferCount : Nat := 0
  bufAvailable : Nat := 0
  published : Nat := 0
  token : Nat := 0
  consumed : Nat := 0
  spent : Nat := 0
  deriving DecidableEq, Repr

/-- A new epoch of the slave, which the host has not noticed. -/
def Counters.slaveReset (k : Counters) : Counters :=
  {k with published := 0, token := 0, consumed := 0, spent := k.txBufferCount}

def Counters.hostZero (k : Counters) : Counters :=
  {k with rxByteCount := 0, txBufferCount := 0, bufAvailable := 0, spent := 0}

def Counters.dropCredits (k : Counters) : Counters := {k with bufAvailable := 0}

def Counters.produce (k : Counters) (bytes buffers : Nat) : Counters :=
  {k with published := k.published+bytes, token := k.token+buffers}

def espSdioBaselineTxCredits (k : Counters) : Counters :=
  let raw := k.token%ESP_TX_BUFFER_MAX
  {k with
    txBufferCount := if ESP_MAX_BUF_CNT ≤ raw then raw-ESP_MAX_BUF_CNT else 0
    spent := if ESP_MAX_BUF_CNT ≤ raw then k.token-ESP_MAX_BUF_CNT else k.token-raw
    bufAvailable := 0}

def espSlaveGetTxBufferNum (k : Counters) : Nat :=
  min ((k.token%ESP_TX_BUFFER_MAX+ESP_TX_BUFFER_MAX-k.txBufferCount)%ESP_TX_BUFFER_MAX) ESP_MAX_BUF_CNT

def espSdioRxLenDelta (rawLen rxByteCount : Nat) : Nat :=
  if rxByteCount ≤ rawLen then (rawLen+ESP_RX_BYTE_MAX-rxByteCount)%ESP_RX_BYTE_MAX
  else ESP_RX_BYTE_MAX-rxByteCount+rawLen

def Counters.delta (k : Counters) : Nat :=
  espSdioRxLenDelta (k.published%ESP_RX_BYTE_MAX) k.rxByteCount

def Counters.consume (k : Counters) (n : Nat) : Counters :=
  {k with rxByteCount := (k.rxByteCount+n)%ESP_RX_BYTE_MAX, consumed := k.consumed+n}

structure Host where
  ctr : Counters := {}
  adapter : Adapter := {}
  restartNeeded : Bool := false
  hostSleep : Bool := false
  /-- A suspend has completed and its resume has not. -/
  suspended : Bool := false
  needCounterRebase : Bool := false
  needSlaveReset : Bool := false
  hardResetRequested : Bool := false
  softResetRequested : Bool := false
  resetRequestEpoch : Nat := 0
  softResetAttempts : Nat := 0
  softResetBudgetEpoch : Nat := 0
  hardResetDeadline : Nat := 0
  hardResetUnavailable : Bool := false
  /-- `esp_sdio_has_full_chip_reset`, a property of the board. -/
  fullChipReset : Bool := false
  deriving DecidableEq, Repr

/-- `init_context`: the first epoch is consumed from its beginning. -/
def probe (published token : Nat) (fullChipReset : Bool) : Host :=
  {ctr := espSdioBaselineTxCredits {published := published, token := token}
   fullChipReset := fullChipReset}

/-- `esp_schedule_fw_reset_recovery`, with the note it gives to this backend. -/
def scheduleFwReset (s : Host) : Host :=
  {s with
    adapter := espScheduleRecovery s.adapter true
    needCounterRebase := s.needCounterRebase || !s.adapter.shuttingDown}

def budgetSync (s : Host) : Host :=
  if s.softResetBudgetEpoch = s.adapter.bootCommitEpoch then s
  else {s with softResetBudgetEpoch := s.adapter.bootCommitEpoch, softResetAttempts := 0}

def budgetTake (s : Host) : Host × Bool :=
  let s := budgetSync s
  if s.softResetAttempts < ESP_FW_BOOT_MAX_ATTEMPTS then
    ({s with softResetAttempts := s.softResetAttempts+1},true)
  else (s,false)

def budgetArm (s : Host) : Host :=
  let s := budgetSync s
  if s.softResetAttempts < ESP_FW_BOOT_MAX_ATTEMPTS then
    {s with resetRequestEpoch := s.adapter.bootCommitEpoch, softResetRequested := true}
  else s

def fullChip (s : Host) : Bool := !s.hardResetUnavailable && s.fullChipReset

inductive Published where
  | down
  | refused
  | hard
  | soft
  deriving DecidableEq, Repr

/-- `esp_sdio_reset_target` up to the end of its critical section. -/
def publish (s : Host) : Host × Published :=
  if s.adapter.shuttingDown then (s,.down)
  else
    let s := budgetSync s
    if fullChip s then
      ({s with resetRequestEpoch := s.adapter.bootCommitEpoch, hardResetRequested := true},.hard)
    else if ESP_FW_BOOT_MAX_ATTEMPTS ≤ s.softResetAttempts then (s,.refused)
    else ({s with resetRequestEpoch := s.adapter.bootCommitEpoch, softResetRequested := true},.soft)

def espSdioResetTarget (s : Host) : Host :=
  match publish s with
  | (s,.hard) | (s,.soft) => scheduleFwReset s
  | (s,.down) | (s,.refused) => s

/-- `esp_request_firmware_restart` on this transport. -/
def requestFirmwareRestart (c : Clock) (now : Nat) (s : Host) : Host :=
  match espRequestFirmwareRestart c now s.adapter with
  | (a,.dispatched) => espSdioResetTarget {s with adapter := a, restartNeeded := true}
  | (a,_) => {s with adapter := a}

def failClosed (c : Clock) (now : Nat) (s : Host) : Host :=
  requestFirmwareRestart c now (scheduleFwReset s)

/-- `ambiguous` is `esp_sdio_stateful_write_ambiguous`. -/
def espSdioRequestTransportRecovery (c : Clock) (now : Nat) (ambiguous : Bool) (s : Host) : Host :=
  if s.adapter.shuttingDown then s
  else if ambiguous then failClosed c now s
  else {s with adapter := espScheduleRecovery s.adapter false}

def espSdioRequestFwResetRecovery (s : Host) : Host :=
  if s.adapter.shuttingDown then s else scheduleFwReset {s with needCounterRebase := true}

def espSdioRequestSlaveReset (c : Clock) (now : Nat) (ambiguous : Bool) (s : Host) : Host :=
  if s.adapter.shuttingDown then s
  else espSdioRequestTransportRecovery c now ambiguous {s with needSlaveReset := true}

/-- Results of the register reads of `get_firmware_data`. -/
structure Baseline where
  lenRead : Bool := true
  tokenRead : Bool := true
  deriving DecidableEq, Repr

def getFirmwareData (s : Host) (b : Baseline) : Host × Bool :=
  let s := {s with needCounterRebase := false, needSlaveReset := false}
  if b.lenRead = false then (s,false)
  else
    let s := {s with ctr := {s.ctr with rxByteCount := s.ctr.published%ESP_RX_BYTE_MAX}}
    if b.tokenRead = false then (s,false)
    else ({s with ctr := espSdioBaselineTxCredits s.ctr},true)

/-- What the reads of one `read_packet` meet. The aggregate is read in whole blocks
and then the rest; `failAt` is the transfer that fails. -/
structure ReadIo where
  lenRead : Bool := true
  ambiguous : Bool := false
  skb : Bool := true
  failAt : Option Bool := none
  deriving DecidableEq, Repr

/-- Up to the point where the bytes are in the bounce buffer. -/
def readPacket (c : Clock) (now : Nat) (s : Host) (io : ReadIo) : Host :=
  if io.lenRead = false then espSdioRequestTransportRecovery c now io.ambiguous s
  else
    let len := s.ctr.delta
    let blocks := len/ESP_BLOCK_SIZE*ESP_BLOCK_SIZE
    if ESP_HOST_RX_AGGR_SIZE < len then espSdioRequestFwResetRecovery s
    else if len = 0 then s
    else if io.skb = false then s
    else
      match io.failAt with
      | none => {s with ctr := s.ctr.consume len}
      | some rest =>
        failClosed c now {s with ctr := if rest then s.ctr.consume blocks else s.ctr}

structure SpendIo where
  tokenRead : Bool := true
  ambiguous : Bool := false
  written : Bool := true
  hasCmd : Bool := false
  stateful : Bool := false
  deriving DecidableEq, Repr

/-- One attempt of `tx_process` to send an aggregate of `needed` buffers. -/
def txProcess (c : Clock) (now : Nat) (s : Host) (needed : Nat) (io : SpendIo) : Host :=
  if s.ctr.bufAvailable < needed ∧ io.tokenRead = false then
    espSdioRequestTransportRecovery c now io.ambiguous {s with ctr := s.ctr.dropCredits}
  else
    let available :=
      if s.ctr.bufAvailable < needed then espSlaveGetTxBufferNum s.ctr else s.ctr.bufAvailable
    if available < needed then {s with ctr := {s.ctr with bufAvailable := available}}
    else if io.written then
      {s with ctr := {s.ctr with
        bufAvailable := available-needed
        txBufferCount := (s.ctr.txBufferCount+needed)%ESP_TX_BUFFER_MAX
        spent := s.ctr.spent+needed}}
    else
      let s := {s with ctr := {s.ctr with bufAvailable := available-needed}}
      let s := if io.stateful then failClosed c now s else s
      if io.hasCmd then requestFirmwareRestart c now (espSdioRequestFwResetRecovery s)
      else espSdioRequestSlaveReset c now io.ambiguous s

inductive Claim where
  | none
  | stale
  | hard
  | soft
  deriving DecidableEq, Repr

def healthy (a : Adapter) : Bool := a.initDone && !a.recoveryPending && !a.resetExpected

def espSdioClaimReset (s : Host) : Host × Claim :=
  if s.hardResetRequested = false ∧ s.softResetRequested = false then (s,.none)
  else
    let s' := {s with hardResetRequested := false, softResetRequested := false}
    if s.resetRequestEpoch ≠ s.adapter.bootCommitEpoch ∨ healthy s.adapter then (s',.stale)
    else
      ({s' with adapter := {s.adapter with
          recoveryPending := true, resetExpected := true, recoveryGen := s.adapter.recoveryGen+1}},
        if s.hardResetRequested then .hard else .soft)

inductive HwReset where
  | done
  /-- Remove and rescan are scheduled; the binding is replaced. -/
  | scheduled
  | failed (unsupported : Bool)
  deriving DecidableEq, Repr

structure RecoverIo where
  reenable : Bool := true
  hwReset : HwReset := .done
  handshake : Bool := true
  /-- What the slave produces between its reset and the two reads. -/
  early : Nat × Nat := (0,0)
  baseline : Baseline := {}
  lenRead : Bool := true
  openSent : Bool := true
  deriving DecidableEq, Repr

inductive Recovered where
  | error
  | waiting
  | resumed
  deriving DecidableEq, Repr

/-- EN has already been toggled for the current attempt. -/
def retriesHardReset (s : Host) : Bool :=
  s.adapter.bootDeadline != 0 && fullChip s && s.hardResetDeadline == s.adapter.bootDeadline

def reopened (io : RecoverIo) : Recovered := if io.reenable && io.openSent then .waiting else .error

/-- Publish the new incarnation before the card is reset, and claim the one physical
reset of this attempt. -/
def armHardReset (s : Host) : Host :=
  {s with
    adapter := {s.adapter with resetExpected := true}
    needCounterRebase := true
    needSlaveReset := false
    ctr := s.ctr.dropCredits
    hardResetDeadline := if fullChip s then s.adapter.bootDeadline else s.hardResetDeadline}

def espSdioHardResetAndReopen (c : Clock) (now : Nat) (s : Host) (io : RecoverIo) : Host × Recovered :=
  if s.adapter.shuttingDown then (s,.error)
  else if s.adapter.bootDeadline = 0 then (failClosed c now s,.error)
  else
    let t := armHardReset s
    if fullChip s = false then
      (budgetArm {t with restartNeeded := true, hardResetUnavailable := true},.error)
    else if retriesHardReset s then
      ({t with restartNeeded := false, ctr := t.ctr.hostZero},reopened io)
    else
      match io.hwReset with
      | .done => ({t with restartNeeded := false, ctr := t.ctr.slaveReset.hostZero},reopened io)
      | .scheduled => ({t with restartNeeded := false},.error)
      | .failed unsupported =>
        (budgetArm {t with
          restartNeeded := true, hardResetUnavailable := t.hardResetUnavailable || unsupported},.error)

/-- The branch of `esp_sdio_recover_transport_inner` that handles this pass. -/
inductive Branch where
  | stale
  | hard
  | soft
  | rearm
  | openOnly
  | slaveReset
  | rebase
  | wrapped
  | probed
  | firstBoot
  deriving DecidableEq, Repr

/-- `claim` is what `esp_sdio_claim_reset_request` returned, `s` the state after it. -/
def recoverBranch (s : Host) (claim : Claim) (io : RecoverIo) : Branch :=
  if claim = .stale ∧ healthy s.adapter then .stale
  else if claim = .hard then .hard
  else if claim = .soft then .soft
  else if io.reenable = false then .hard
  else if s.restartNeeded then .rearm
  else if s.adapter.resetExpected then .openOnly
  else if s.needSlaveReset then .slaveReset
  else if s.needCounterRebase then .rebase
  else if io.lenRead = false then .hard
  else if ESP_HOST_RX_AGGR_SIZE < s.ctr.delta then .wrapped
  else if s.adapter.initDone then if io.openSent then .probed else .hard
  else .firstBoot

def opened (io : RecoverIo) : Recovered := if io.openSent then .waiting else .error

/-- An acknowledged CLOSE: the firmware restarts and both counters start over. -/
def espSdioSoftReset (s : Host) (io : RecoverIo) : Host × Recovered :=
  if io.reenable = false then (s,.error)
  else
    match budgetTake s with
    | (s,false) => (s,.error)
    | (s,true) =>
      if io.handshake = false then (s,.error)
      else
        ({s with
          restartNeeded := false
          adapter := {s.adapter with resetExpected := true}
          needCounterRebase := true
          ctr := s.ctr.slaveReset.hostZero},reopened io)

def recoverBy (c : Clock) (now : Nat) (s : Host) (io : RecoverIo) : Branch → Host × Recovered
  | .stale => (s,.resumed)
  | .hard => espSdioHardResetAndReopen c now s io
  | .soft => espSdioSoftReset s io
  | .rearm => (budgetArm s,.error)
  | .openOnly => ({s with needSlaveReset := false, needCounterRebase := false},opened io)
  | .slaveReset =>
    let s := {s with needSlaveReset := false}
    if io.handshake = false then espSdioHardResetAndReopen c now s io
    else
      let k := (s.ctr.slaveReset.produce io.early.1 io.early.2).dropCredits
      match getFirmwareData {s with ctr := k} io.baseline with
      | (s,false) => espSdioHardResetAndReopen c now {s with needSlaveReset := true} io
      | (s,true) =>
        if s.adapter.initDone then ({s with adapter := {s.adapter with state := .ready}},.resumed)
        else (s,opened io)
  | .rebase =>
    match getFirmwareData {s with needCounterRebase := false, ctr := s.ctr.dropCredits} io.baseline with
    | (s,false) => espSdioHardResetAndReopen c now {s with needCounterRebase := true} io
    | (s,true) => ({s with adapter := {s.adapter with resetExpected := true}},opened io)
  | .wrapped => ({s with adapter := {s.adapter with resetExpected := true}},opened io)
  | .probed =>
    ({s with ctr := s.ctr.dropCredits, adapter := {s.adapter with state := .ready}},.resumed)
  | .firstBoot => (s,opened io)

def espSdioRecoverTransportInner (c : Clock) (now : Nat) (s : Host) (io : RecoverIo) :
    Host × Recovered :=
  if s.adapter.shuttingDown then (s,.error)
  else
    let r := espSdioClaimReset {s with hostSleep := false}
    let branch := recoverBranch r.1 r.2 io
    if branch = .stale then (r.1,.resumed)
    else recoverBy c now {r.1 with adapter := {r.1.adapter with state := .rxReady}} io branch

structure SuspendIo where
  psOn : Bool := true
  keepPower : Bool := true
  psOff : Bool := true
  deriving DecidableEq, Repr

def espSuspendInner (c : Clock) (now : Nat) (s : Host) (io : SuspendIo) : Host :=
  if io.psOn = false then failClosed c now {s with hostSleep := false}
  else if io.keepPower then
    {s with hostSleep := true, suspended := true, ctr := s.ctr.slaveReset}
  else if io.psOff then {s with hostSleep := false, ctr := s.ctr.slaveReset.slaveReset}
  else failClosed c now {s with hostSleep := false, ctr := s.ctr.slaveReset}

structure ResumeIo where
  psOff : Bool := true
  early : Nat × Nat := (0,0)
  baseline : Baseline := {}
  deriving DecidableEq, Repr

def espResumeInner (c : Clock) (now : Nat) (s : Host) (io : ResumeIo) : Host :=
  let s := {s with suspended := false}
  if io.psOff = false then failClosed c now {s with hostSleep := false}
  else
    let s := {s with ctr := (s.ctr.slaveReset.produce io.early.1 io.early.2).dropCredits}
    match getFirmwareData s io.baseline with
    | (s,false) => failClosed c now {s with hostSleep := false}
    | (s,true) => {s with hostSleep := false}

/-- `esp_sdio_quiesce_for_fw_reset` and `esp_sdio_reinit_after_fw_reset`, with the
workers stopped in between. -/
def reinitAfterFwReset (s : Host) (b : Baseline) : Host :=
  (getFirmwareData
    {s with
      hostSleep := false
      ctr := s.ctr.dropCredits
      adapter := {s.adapter with state := .disabled}} b).1

end EspHosted.Sdio
