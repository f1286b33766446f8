import EspHosted.Recovery
import EspHosted.Wire

/-!
The RCP byte-stream endpoint, `host/esp_rcp.c`, and the RCP part of
`process_rx_packet`. A definition that takes `rcp_lock` is one step. There is one
adapter, so `rcp_adapter` is set exactly while the endpoint is registered.
-/

set_option autoImplicit false

namespace EspHosted.Rcp
open EspHosted Recovery

def ESP_RCP_RX_QUEUE_LIMIT : Nat := 64

/-- How far `process_esp_bootup_event` is with the newest boot event. -/
inductive BootPhase where
  | idle
  | cleaning
  | cleaned
  | reconstructing
  deriving DecidableEq, Repr

/-- The statics of `esp_rcp.c`, the adapter, and the file opened last. The fields
from `handed` on only record what happened. -/
structure Endpoint where
  adapter : Adapter := {}
  /-- `ext_capabilities & ESP_EXT_CAP_RCP_ANY` -/
  rcpAny : Bool := false
  nonce : UInt64 := 0
  phase : BootPhase := .idle
  rxQ : List Bytes := []
  earlyQ : List Bytes := []
  bootPending : Bool := false
  earlyOverflow : Bool := false
  registered : Bool := false
  opened : Bool := false
  everOpened : Bool := false
  openingFirst : Bool := false
  generation : UInt32 := 0
  ackedNonce : UInt64 := 0
  sessionActive : Bool := false
  /-- `generation` in the file's context. -/
  fileGeneration : UInt32 := 0
  /-- The skb a read has taken off the queue and not yet given back. -/
  held : Option Bytes := none
  /-- Every DATA payload passed to `esp_rcp_rx`. -/
  handed : List Bytes := []
  /-- The ACK of this open has been accepted, with `ackAt` payloads handed before it. -/
  acked : Bool := false
  ackAt : Nat := 0
  firstOpen : Bool := false
  /-- What the ACK moved out of quarantine. -/
  released : List Bytes := []
  /-- What reads on this file have returned. -/
  returned : Bytes := []
  deriving DecidableEq, Repr

def espRcpSessionReady (s : Endpoint) : Bool :=
  s.rcpAny && s.adapter.initDone && !s.adapter.allowReconstruct && !s.adapter.cleanupInProgress &&
    !s.adapter.recoveryPending && !s.adapter.resetExpected && !s.adapter.shuttingDown &&
    s.adapter.state == .ready

def espRcpFileIsCurrent (s : Endpoint) : Bool :=
  s.registered && s.opened && s.fileGeneration == s.generation && s.sessionActive

/-- `esp_schedule_fw_reset_recovery` and `esp_request_firmware_restart`. -/
def failClosed (c : Clock) (now : Nat) (a : Adapter) : Adapter :=
  (espRequestFirmwareRestart c now (espScheduleRecovery a true)).1

/-- Up to the wait for the ACK; `sent` is whether the start marker could be sent. -/
def espRcpOpen (s : Endpoint) (sent : Bool) : Endpoint :=
  if s.registered = false ∨ s.sessionActive = false ∨ espRcpSessionReady s = false then s
  else if s.opened then s
  else
    let s := {s with
      rxQ := []
      openingFirst := !s.everOpened
      earlyQ := if s.everOpened then [] else s.earlyQ
      opened := true
      ackedNonce := 0
      fileGeneration := s.generation
      held := none
      acked := false
      firstOpen := !s.everOpened
      released := []
      returned := []}
    if s.nonce = 0 ∨ sent = false then {s with opened := false, openingFirst := false} else s

def espRcpOpenTimeout (c : Clock) (now : Nat) (s : Endpoint) : Endpoint :=
  let s :=
    if s.registered ∧ s.opened ∧ s.fileGeneration = s.generation then
      {s with opened := false, openingFirst := false, rxQ := [], earlyQ := []}
    else s
  {s with adapter := failClosed c now s.adapter}

def espRcpRelease (c : Clock) (now : Nat) (s : Endpoint) : Endpoint :=
  if s.registered ∧ s.opened ∧ s.fileGeneration = s.generation then
    let s := {s with opened := false, openingFirst := false, ackedNonce := 0, rxQ := [], earlyQ := []}
    if s.adapter.shuttingDown then s else {s with adapter := failClosed c now s.adapter}
  else s

/-- The first half of `esp_rcp_read`. `rcp_read_lock` admits one reader. -/
def espRcpDequeueCurrent (s : Endpoint) : Endpoint :=
  match s.held, s.rxQ with
  | none, skb :: q => if espRcpFileIsCurrent s then {s with rxQ := q, held := some skb} else s
  | _, _ => s

def espRcpRequeueCurrent (s : Endpoint) (skb : Bytes) : Endpoint :=
  if espRcpFileIsCurrent s then {s with rxQ := skb :: s.rxQ} else s

/-- The second half: the copy to user space, which may fault. -/
def espRcpRead (s : Endpoint) (count : Nat) (fault : Bool) : Endpoint :=
  match s.held with
  | none => s
  | some skb =>
    if fault then espRcpRequeueCurrent {s with held := none} skb
    else
      let s := {s with held := none, returned := s.returned ++ skb.take (min count skb.length)}
      let rest := skb.drop (min count skb.length)
      if rest.length ≠ 0 then espRcpRequeueCurrent s rest else s

def espRcpNoteBootEvent (s : Endpoint) (activeOnBoot : Bool) : Endpoint :=
  let s := {s with
    earlyQ := []
    bootPending := activeOnBoot
    earlyOverflow := false
    everOpened := false
    openingFirst := false
    ackedNonce := 0}
  if s.registered ∧ s.sessionActive then {s with sessionActive := false, opened := false, rxQ := []}
  else s

/-- For a marker of the right size and version; others are ignored. -/
def espRcpSessionAck (s : Endpoint) (nonce : UInt64) : Endpoint :=
  if s.registered ∧ s.opened ∧ s.sessionActive ∧ nonce ≠ 0 ∧ nonce = s.nonce ∧ s.ackedNonce ≠ nonce then
    {s with
      ackedNonce := nonce
      rxQ := if s.openingFirst then s.rxQ ++ s.earlyQ else []
      earlyQ := []
      everOpened := true
      openingFirst := false
      acked := true
      ackAt := s.handed.length
      released := if s.openingFirst then s.rxQ ++ s.earlyQ else []}
  else s

def espRcpFailClosedRequired (s : Endpoint) : Bool := s.bootPending || (s.registered && s.sessionActive)

def dropQuarantine (s : Endpoint) : Endpoint :=
  {s with earlyQ := [], bootPending := false, earlyOverflow := false}

def espInitRcp (s : Endpoint) (miscRegistered : Bool) : Endpoint :=
  if s.rcpAny = false then dropQuarantine s
  else if s.nonce = 0 then dropQuarantine s
  else if s.registered then s
  else
    let s := {s with
      opened := false
      everOpened := false
      openingFirst := false
      generation := if s.generation+1 = 0 then 1 else s.generation+1
      rxQ := []}
    if s.bootPending ∧ s.earlyOverflow then dropQuarantine s
    else
      let s := {s with bootPending := false, earlyOverflow := false}
      if miscRegistered then {s with registered := true, sessionActive := true} else s

def espDeinitRcp (s : Endpoint) : Endpoint :=
  let s :=
    if s.registered then
      {s with
        sessionActive := false
        opened := false
        everOpened := false
        openingFirst := false
        ackedNonce := 0
        rxQ := []
        registered := false}
    else s
  if s.adapter.shuttingDown then dropQuarantine s else s

def espRcpRx (c : Clock) (now : Nat) (s : Endpoint) (skb : Bytes) : Endpoint :=
  let s := {s with handed := s.handed ++ [skb]}
  if s.bootPending then
    if ESP_RCP_RX_QUEUE_LIMIT ≤ s.earlyQ.length then {s with earlyOverflow := true, earlyQ := []}
    else {s with earlyQ := s.earlyQ ++ [skb]}
  else if s.registered = false ∨ s.sessionActive = false ∨ espRcpSessionReady s = false then s
  else if s.opened = false then s
  else if s.ackedNonce ≠ s.nonce then
    if s.openingFirst = false then s
    else if ESP_RCP_RX_QUEUE_LIMIT ≤ s.earlyQ.length then
      {s with earlyQ := [], adapter := failClosed c now s.adapter}
    else {s with earlyQ := s.earlyQ ++ [skb]}
  else if ESP_RCP_RX_QUEUE_LIMIT ≤ s.rxQ.length then
    {s with rxQ := [], adapter := failClosed c now s.adapter}
  else {s with rxQ := s.rxQ ++ [skb]}

/-- A frame as `process_rx_packet` classifies it. -/
inductive Packet where
  /-- Runt, out of bounds, or a bad checksum, on any interface. -/
  | corrupt
  | session (nonce : UInt64)
  /-- Neither DATA nor a session marker. -/
  | unknown
  | data (payload : Bytes)
  /-- A structurally valid boot event. -/
  | boot (legacyRcpActive : Bool)
  deriving DecidableEq, Repr

def processRxPacket (c : Clock) (now : Nat) (s : Endpoint) : Packet → Endpoint
  | .corrupt =>
    if espRcpFailClosedRequired s then {s with adapter := failClosed c now s.adapter} else s
  | .session nonce => espRcpSessionAck s nonce
  | .unknown => {s with adapter := failClosed c now s.adapter}
  | .data payload =>
    if payload.length = 0 then {s with adapter := failClosed c now s.adapter}
    else espRcpRx c now s payload
  | .boot legacy =>
    if espRcpFailClosedRequired s || legacy then espRcpNoteBootEvent s legacy else s

inductive Action where
  | packet (now : Nat) (p : Packet)
  | open (sent : Bool)
  | openTimeout (now : Nat)
  | release (now : Nat)
  | dequeue
  | read (count : Nat) (fault : Bool)
  /-- `esp_schedule_recovery` from any thread. -/
  | request (fwReset : Bool)
  /-- `recover_transport` returns 1 and `ESP_FW_RECOVERY_PENDING` is cleared. -/
  | resume (now : Nat)
  | bootStart
  | bootClean
  | bootBegin (rcpAny : Bool) (nonce : UInt64)
  | bootCommit
  | bootAbort (now : Nat)
  | failAfterCommit (now : Nat)
  | initRcp (rcpAny : Bool) (nonce : UInt64) (miscRegistered : Bool)
  | deinitRcp
  | remove
  deriving DecidableEq, Repr

/-- The nonce comes with the boot event or with the answer to the radio-service
command; the firmware keeps it for as long as its RCP service runs. -/
def announce (s : Endpoint) (rcpAny : Bool) (nonce : UInt64) : Endpoint :=
  if s.registered then s else {s with rcpAny := rcpAny, nonce := nonce}

def bootStart (s : Endpoint) : Endpoint :=
  let reinitializing := s.adapter.initDone || s.adapter.recoveryPending || s.adapter.resetExpected
  {s with
    adapter := {s.adapter with
      recoveryPending := reinitializing
      initDone := false
      cleanupInProgress := s.adapter.cleanupInProgress || reinitializing}
    rcpAny := false
    nonce := 0
    phase := if reinitializing then .cleaning else .cleaned}

def step (c : Clock) (s : Endpoint) : Action → Option Endpoint
  | .packet now p => some (processRxPacket c now s p)
  | .open sent => some (espRcpOpen s sent)
  | .openTimeout now => some (espRcpOpenTimeout c now s)
  | .release now => some (espRcpRelease c now s)
  | .dequeue => some (espRcpDequeueCurrent s)
  | .read count fault => some (espRcpRead s count fault)
  | .request fwReset => some {s with adapter := espScheduleRecovery s.adapter fwReset}
  | .resume now =>
    if (espFwRecoveryWork c now s.adapter).2 = .recover ∧ s.adapter.initDone ∧
        s.adapter.resetExpected = false then
      some {s with adapter := {s.adapter with recoveryPending := false, state := .ready}}
    else none
  | .bootStart =>
    if s.phase = .idle ∧ s.adapter.shuttingDown = false then some (bootStart s) else none
  | .bootClean =>
    if s.phase = .cleaning then some {espDeinitRcp s with phase := .cleaned} else none
  | .bootBegin rcpAny nonce =>
    if s.phase = .cleaned then
      some {s with
        rcpAny := rcpAny
        nonce := nonce
        phase := .reconstructing
        adapter := {espBeginReconstruction s.adapter with state := .ready}}
    else none
  | .bootCommit =>
    if s.phase = .reconstructing then
      some {s with
        phase := .idle
        adapter := (espCommitReconstruction
          {s.adapter with initDone := true, cleanupInProgress := false}).1}
    else none
  | .bootAbort now =>
    if s.phase = .idle then none
    else
      some {s with phase := .idle, adapter := failClosed c now (espClearReconstructFlag s.adapter)}
  | .failAfterCommit now =>
    if s.phase = .idle then
      let s := espDeinitRcp
        {s with adapter := {s.adapter with cleanupInProgress := true, initDone := false}}
      some {s with adapter := failClosed c now (espClearReconstructFlag s.adapter)}
    else none
  | .initRcp rcpAny nonce miscRegistered => some (espInitRcp (announce s rcpAny nonce) miscRegistered)
  | .deinitRcp => some {espDeinitRcp s with nonce := 0}
  | .remove => some {s with adapter := {s.adapter with shuttingDown := true}}

end EspHosted.Rcp
