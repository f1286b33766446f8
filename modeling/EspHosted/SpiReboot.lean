import EspHosted.SpiHdTx

/-!
Software reboot of an SPI target, `host/spi/esp_spi.c`, and the answer to it in
`main/spi_slave_api.c`. A step is what a thread does under `spi_reboot_budget_lock`, one
test or bus operation outside it, or one operation of a firmware task. Epochs and numbers
of attempts do not wrap; the 16-bit sequence number does.
-/

set_option autoImplicit false

namespace EspHosted.SpiReboot
open EspHosted Recovery Run
open EspHosted.SpiHd (hdrPacketType hdrChecksum setChecksum byteSum)
open EspHosted.Boot (leNat testBit fwDataSize CHIP_UNRECOGNIZED)

def SPI_BUF_SIZE : Nat := 1600
def ESP_WLAN_SPI_SUPPORT : Nat := 5
/-- `ESP_CHECKSUM_ENABLED` by its number. -/
def checksumBit : Nat := 7

/-! Frames. -/

def cmdCode (b : Bytes) (off : Nat) : UInt8 := b.getD off 0
def cmdStatus (b : Bytes) (off : Nat) : UInt8 := b.getD (off+1) 0
def cmdLen (b : Bytes) (off : Nat) : Nat := le16ToCpu (b.getD (off+2) 0) (b.getD (off+3) 0)
def cmdSeqNum (b : Bytes) (off : Nat) : Nat := le16ToCpu (b.getD (off+4) 0) (b.getD (off+5) 0)
def cmdReserved1 (b : Bytes) (off : Nat) : UInt8 := b.getD (off+6) 0
def cmdReserved2 (b : Bytes) (off : Nat) : UInt8 := b.getD (off+7) 0

def computeChecksum (b : Bytes) (len : Nat) : UInt16 := byteSum (b.take len)

def pad (b : Bytes) : Bytes := b ++ List.replicate (SPI_BUF_SIZE-b.length) 0

def commandFrame (packetType status : UInt8) (seq : UInt16) : Bytes :=
  let h : PayloadHeader := {ifType := ⟨3,by decide⟩, ifNum := ⟨0,by decide⟩, packetType := packetType, len := 8, offset := 12}
  let b := h.encode ++ [CMD_HOST_REBOOT,status] ++ htole16 0 ++ htole16 seq ++ [0,0]
  setChecksum b (computeChecksum b (headerSize+commandHeaderSize))

/-- What `esp_spi_bootstrap_check_boot` writes to the buffer it clocks out. -/
def rebootCommand (seq : UInt16) : Bytes := pad (commandFrame PACKET_TYPE_COMMAND_REQUEST 0 seq)

structure BootSeen where
  cap : Bool := false
  chip : Bool := false
  fw : Bool := false
  clk : Bool := false
  needsSum : Bool
  deriving DecidableEq, Repr

/-- One turn of the tag switch; `none` is `return false`. -/
def bootTag (p : BootSeen) (tag : Nat) (v : Bytes) : Option BootSeen :=
  match tag with
  | 0 =>
    if p.cap ∨ (v.length ≠ 1 ∧ v.length ≠ 2 ∧ v.length ≠ 4) then none
    else if testBit (leNat v) ESP_WLAN_SPI_SUPPORT = false then none
    else some {p with cap := true, needsSum := p.needsSum || testBit (leNat v) checksumBit}
  | 1 => if p.fw ∨ v.length ≠ fwDataSize then none else some {p with fw := true}
  | 2 => if p.clk ∨ v.length ≠ 1 ∨ leNat v = 0 then none else some {p with clk := true}
  | 3 => if p.chip ∨ v.length ≠ 1 ∨ leNat v = CHIP_UNRECOGNIZED then none else some {p with chip := true}
  | 5 => if v.length ≠ 4 then none else some p
  | 6 => if v.length ≠ 4 then none else some p
  | 7 => if v.length ≠ 8 then none else some p
  | _ => some p

def bootTlvs : Nat → BootSeen → Bytes → Option BootSeen
  | _,p,[] => some p
  | 0,_,_ :: _ => none
  | _+1,_,[_] => none
  | fuel+1,p,tag :: n :: rest =>
    if rest.length < n.toNat then none
    else
      match bootTag p tag.toNat (rest.take n.toNat) with
      | none => none
      | some p => bootTlvs fuel p (rest.drop n.toNat)

/-- The boot branch of the check, with `needs_sum` as it leaves it. -/
def bootNeedsSum (frame : Bytes) (off len : Nat) : Option Bool :=
  let evt := frame.drop off
  let n := (evt.getD 4 0).toNat
  if hdrPacketType frame ≠ PACKET_TYPE_EVENT ∨ len < bootDataOffset then none
  else if (evt.getD 0 0).toNat ≠ ESP_INTERNAL_BOOTUP_EVENT.toNat ∨ evt.getD 1 0 ≠ 0 ∨ len-bootDataOffset < n then none
  else
    match bootTlvs n {needsSum := hdrChecksum frame != 0} ((evt.drop bootDataOffset).take n) with
    | none => none
    | some p => if p.cap && p.chip && p.fw then some p.needsSum else none

def responseNeedsSum (frame : Bytes) (len : Nat) : Option Bool :=
  if hdrPacketType frame ≠ PACKET_TYPE_COMMAND_RESPONSE ∨ len < commandHeaderSize then none else some true

def espSpiBootstrapFrameValid (frame : Bytes) (boot : Bool) : Option Nat :=
  let off := hdrOffset frame
  let len := hdrLen frame
  if hdrIfType frame ≠ ESP_INTERNAL_IF ∨ espOffsetValid off = false ∨ SPI_BUF_SIZE < off ∨ len = 0 ∨
      SPI_BUF_SIZE-off < len then none
  else
    match if boot then bootNeedsSum frame off len else responseNeedsSum frame len with
    | none => none
    | some needsSum =>
      if needsSum ∧ (computeChecksum (setChecksum frame 0) (off+len)).toNat ≠ hdrChecksum frame then none
      else some len

/-- The boot event `esp_spi_bootstrap_check_boot` looks for before it has sent anything. -/
def pendingBoot (rx : Bytes) : Bool :=
  decide (hdrIfType rx = ESP_INTERNAL_IF) && decide (hdrPacketType rx = PACKET_TYPE_EVENT) &&
    (espSpiBootstrapFrameValid rx true).isSome

/-- The answer it looks for afterwards, with the result it returns for it. -/
def rebootReply (seq : UInt16) (rx : Bytes) : Option Int :=
  if hdrIfType rx ≠ ESP_INTERNAL_IF ∨ hdrPacketType rx ≠ PACKET_TYPE_COMMAND_RESPONSE then none
  else
    match espSpiBootstrapFrameValid rx false with
    | none => none
    | some len =>
      let off := hdrOffset rx
      if len = commandHeaderSize ∧ cmdLen rx off = 0 ∧ cmdReserved1 rx off = 0 ∧ cmdReserved2 rx off = 0 ∧
          cmdCode rx off = CMD_HOST_REBOOT ∧ cmdSeqNum rx off = seq.toNat then
        some (if cmdStatus rx off = CMD_RESPONSE_SUCCESS then 0 else - EIO)
      else none

/-! The firmware. -/

/-- The part of `process_spi_rx` that drops a frame. -/
def processSpiRx (checksum : Bool) (b : Bytes) : Bool :=
  decide (hdrIfType b < ESP_MAX_IF) && decide (hdrLen b ≠ 0) && espOffsetValid (hdrOffset b) &&
    decide (hdrOffset b+hdrLen b ≤ SPI_BUF_SIZE) &&
    (!checksum || decide ((computeChecksum (setChecksum b 0) (hdrOffset b+hdrLen b)).toNat = hdrChecksum b))

/-- `esp_cmd_dispatch` of this command, through `process_host_reboot`, `send_command_resp` and
`esp_spi_write`. Every other command is answered with its own code. -/
def espCmdDispatch (b : Bytes) : Option Bytes :=
  let off := hdrOffset b
  if hdrIfType b = ESP_INTERNAL_IF ∧ hdrPacketType b = PACKET_TYPE_COMMAND_REQUEST ∧
      commandHeaderSize ≤ hdrLen b ∧ cmdCode b off = CMD_HOST_REBOOT then
    some (commandFrame PACKET_TYPE_COMMAND_RESPONSE CMD_RESPONSE_SUCCESS (UInt16.ofNat (cmdSeqNum b off)))
  else none

/-- `slot->reboot_ack` as `queue_next_transaction` computes it. -/
def slotRebootAck (b : Bytes) : Bool :=
  let off := hdrOffset b
  decide (headerSize+commandHeaderSize ≤ b.length) && decide (hdrIfType b = ESP_INTERNAL_IF) &&
    decide (hdrPacketType b = PACKET_TYPE_COMMAND_RESPONSE) && espOffsetValid off &&
    decide (off+commandHeaderSize ≤ b.length) && decide (cmdCode b off = CMD_HOST_REBOOT) &&
    decide (cmdStatus b off = CMD_RESPONSE_SUCCESS)

def isRebootResponse (b : Bytes) : Bool :=
  decide (hdrIfType b = ESP_INTERNAL_IF) && decide (hdrPacketType b = PACKET_TYPE_COMMAND_RESPONSE) &&
    decide (cmdCode b (hdrOffset b) = CMD_HOST_REBOOT)

/-- A frame and the attempt whose command it is or answers. -/
structure Frame where
  bytes : Bytes
  attempt : Option Nat := none
  deriving DecidableEq, Repr

/-- The header `queue_next_transaction` prepares when it has no frame. -/
def dummyFrame : Frame := {bytes := pad [0xff]}

structure Slave where
  rx : List Frame := []
  tx : List Frame := []
  /-- The queued transaction: `dma_tx` and `reboot_ack` of its slot. -/
  armed : Option (Frame × Bool) := none
  rebooting : Bool := false
  deriving DecidableEq, Repr

/-- The host clocks one transaction. `ok` is the result of `spi_slave_get_trans_result`,
`level` the idle line when nothing is queued. -/
def Slave.transfer (s : Slave) (checksum : Bool) (tx : Frame) (ok level : Bool) : Slave × Frame :=
  match s.armed with
  | none => (s,{bytes := List.replicate SPI_BUF_SIZE (if level then 0xff else 0)})
  | some (f,rebootAck) =>
    let s := {s with armed := none}
    if ok && rebootAck then ({s with rebooting := true},f)
    else if ok && processSpiRx checksum tx.bytes then ({s with rx := s.rx ++ [tx]},f)
    else (s,f)

/-- `queue_next_transaction`. The queues are served in any order here. -/
def Slave.arm (s : Slave) (i : Option Nat) : Option Slave :=
  if s.armed.isSome ∨ s.rebooting then none
  else
    match i with
    | none => some {s with armed := some (dummyFrame,false)}
    | some i =>
      match s.tx[i]? with
      | none => none
      | some f =>
        some {s with
          tx := s.tx.eraseIdx i
          armed := some ({f with bytes := pad f.bytes},slotRebootAck f.bytes)}

/-! The host. -/

/-- Newest first in the log. -/
inductive Ev where
  | charged (epoch : Nat)
  /-- `esp_spi_reset_work` begins the attempt charged to the epoch. -/
  | reboot (epoch : Nat)
  | clocked (attempt : Nat)
  | answered (attempt : Nat)
  /-- `esp_spi_bootstrap_check_boot` returns 0 for what it has received. -/
  | acked (attempt : Nat) (seq : UInt16) (rx : Frame)
  deriving DecidableEq, Repr

inductive TargetPc where
  | idle
  | called
  | entered
  | synced
  | charged (epoch : Nat)
  | refused (epoch : Nat)
  deriving DecidableEq, Repr

inductive WorkPc where
  | idle
  | started (epoch : Nat)
  | checking (allow sent : Bool) (seq : UInt16) (n : Nat)
  | hwReset
  | returned (ret : Int) (boot : Bool)
  | clearing (ret : Int) (boot : Bool)
  | tail (ret : Int) (boot : Bool)
  deriving DecidableEq, Repr

def WorkPc.inFlight : WorkPc → Bool
  | .idle => false
  | .tail _ _ => false
  | _ => true

structure Config where
  clock : Clock
  resetGpio : Bool
  /-- `CONFIG_ESP_SPI_CHECKSUM` of the firmware. -/
  checksum : Bool

structure State where
  adapter : Adapter
  restartNeeded : Bool := false
  dataPath : Bool := true
  budgetEpoch : Nat
  attempts : Nat := 0
  rescue : Bool := true
  lock : Option Nat := none
  resetting : Bool := false
  /-- `reset_work` is on the workqueue, for the attempt charged to this epoch. -/
  pending : Option Nat := none
  cmdSeq : UInt32
  work : WorkPc := .idle
  targets : Nat → TargetPc := fun _ => .idle
  /-- Commits whose callback has not run. -/
  callbacks : Nat := 0
  slave : Slave := {}
  /-- Software attempts begun so far; the last one is the one under way. -/
  tries : Nat := 0
  log : List Ev := []

def State.epoch (s : State) : Nat := s.adapter.bootCommitEpoch

def State.setTarget (s : State) (i : Nat) (pc : TargetPc) : State :=
  {s with targets := fun j => if j = i then pc else s.targets j}

def State.inFlight (s : State) : Nat :=
  (if s.pending.isSome then 1 else 0)+(if s.work.inFlight then 1 else 0)

def State.budgetSync (s : State) : State :=
  if s.budgetEpoch ≠ s.epoch then {s with budgetEpoch := s.epoch, attempts := 0} else s

def State.resetTarget (cfg : Config) (s : State) (i : Nat) : Option State :=
  match s.targets i with
  | .idle => none
  | .called =>
    some (s.setTarget i (if s.adapter.shuttingDown then .idle else .entered))
  | .entered =>
    if s.lock ≠ none then none
    else some {s.budgetSync.setTarget i .synced with lock := some i}
  | .synced =>
    let s := {s with lock := none}
    if s.resetting then some (s.setTarget i .idle)
    else if cfg.resetGpio = false ∧ ESP_FW_BOOT_MAX_ATTEMPTS ≤ s.attempts then some (s.setTarget i .idle)
    else
      let s := {s.setTarget i (.charged s.budgetEpoch) with resetting := true}
      if cfg.resetGpio then some s
      else some {s with attempts := s.attempts+1, log := .charged s.budgetEpoch :: s.log}
  | .charged epoch =>
    let a := {s.adapter with state := if s.adapter.state = .ready then .rxReady else s.adapter.state}
    let s := {s with dataPath := false, adapter := a}
    if s.pending.isSome then some (s.setTarget i (.refused epoch))
    else some {s.setTarget i .idle with pending := some epoch}
  | .refused epoch =>
    if s.lock ≠ none then none
    else
      let rollback := cfg.resetGpio = false ∧ s.budgetEpoch = epoch ∧ 0 < s.attempts
      some {s.setTarget i .idle with
        resetting := false
        attempts := if rollback then s.attempts-1 else s.attempts}

def State.recoverTransport (s : State) (i : Nat) : State :=
  if s.adapter.shuttingDown ∨ s.resetting then s
  else if s.restartNeeded then s.setTarget i .called
  else
    let ready := !s.adapter.resetExpected && s.adapter.initDone
    {s with adapter := {s.adapter with state := if ready then .ready else .rxReady}, dataPath := true}

structure Io where
  expired : Bool := false
  gpio : Option Nat := none
  ready : Bool := true
  dataReady : Bool := false
  noMem : Bool := false
  /-- An error of `spi_sync_transfer`, which may have clocked the frame all the same. -/
  transfer : Option Nat := none
  clocked : Bool := true
  /-- Of the slave, for the same transaction. -/
  ok : Bool := true
  level : Bool := false
  hwReset : Option Nat := none
  refused : Bool := false
  deriving DecidableEq, Repr

def errno (n : Nat) : Int := -(n+1 : Int)

/-- `(u16)atomic_inc_return(&spi_reboot_cmd_seq)`, once more if it is zero. -/
def nextSeq (seq : UInt32) : UInt32 := if (seq+1).toUInt16 = 0 then seq+1+1 else seq+1

/-- `esp_spi_bootstrap_check_boot` returns. With a reset pin only a boot event spares the target. -/
def leave (allow : Bool) (ret : Int) (boot : Bool) : WorkPc :=
  if allow = false ∧ ret ≠ 1 then .hwReset else .returned ret boot

def State.checkBoot (cfg : Config) (s : State) (io : Io) (allow sent : Bool) (seq : UInt16) (n : Nat) : State :=
  if io.expired then {s with work := leave allow (if allow then -ETIMEDOUT else -ENODATA) false}
  else
    match io.gpio with
    | some e => {s with work := leave allow (errno e) false}
    | none =>
      if io.ready = false then s
      else
        let inject := allow && !sent && (!io.dataReady || decide (8 ≤ n))
        let n := if allow && !sent && io.dataReady then n+1 else n
        let tx : Frame :=
          if inject then {bytes := rebootCommand seq, attempt := some s.tries} else {bytes := pad []}
        let r := s.slave.transfer cfg.checksum tx io.ok io.level
        let done := {s with slave := r.1, log := if inject then .clocked s.tries :: s.log else s.log}
        match io.transfer with
        | some e => {if io.clocked then done else s with work := leave allow (errno e) false}
        | none =>
          if (sent || inject) = false then
            if pendingBoot r.2.bytes then
              {done with work := if io.noMem then leave allow (-ENOMEM) false else leave allow 1 true}
            else {done with work := .checking allow false seq n}
          else
            match rebootReply seq r.2.bytes with
            | none => {done with work := .checking allow true seq n}
            | some ret =>
              {done with
                log := if ret = 0 then .acked s.tries seq r.2 :: done.log else done.log
                work := leave allow ret false}

def State.resetWork (cfg : Config) (s : State) (io : Io) : Option State :=
  match s.work with
  | .idle => none
  | .started epoch =>
    if cfg.resetGpio then
      if s.lock ≠ none then none
      else
        some {s with
          rescue := false
          work :=
            if s.rescue = false then .hwReset
            else if io.noMem then leave false (-ENOMEM) false
            else .checking false false 0 0}
    else
      let seq := nextSeq s.cmdSeq
      some {s with
        cmdSeq := seq
        tries := s.tries+1
        log := .reboot epoch :: s.log
        work := if io.noMem then leave true (-ENOMEM) false else .checking true false seq.toUInt16 0}
  | .checking allow sent seq n => some (s.checkBoot cfg io allow sent seq n)
  | .hwReset => some {s with work := .returned (match io.hwReset with | none => 0 | some e => errno e) false}
  | .returned ret boot =>
    some {s with
      restartNeeded := if ret < 0 then s.restartNeeded || decide (ret ≠ -ESHUTDOWN) else false
      work := .clearing ret boot}
  | .clearing ret boot => some {s with resetting := false, work := .tail ret boot}
  | .tail ret boot =>
    let rejected := ret = 1 ∧ boot ∧ io.refused
    let dataPath :=
      if ret = 1 ∧ boot then true
      else if ret = 0 ∧ cfg.resetGpio = false then false
      else s.dataPath
    some {s with
      dataPath := dataPath
      restartNeeded := s.restartNeeded || decide rejected
      adapter := {s.adapter with workArmed := s.adapter.workArmed || !s.adapter.shuttingDown}
      work := .idle}

inductive Action where
  | request (i now : Nat)
  | recover (i : Nat)
  | target (i : Nat)
  | run
  | work (io : Io)
  | commit
  | callback
  | retire
  /-- Whatever else the driver does to the adapter. -/
  | adapter (a : Adapter)
  | transfer (tx : Bytes) (ok level : Bool)
  /-- The firmware answers a command; `alloc` is `heap_caps_malloc` of the answer. -/
  | dispatch (alloc : Bool)
  | send (b : Bytes)
  | arm (i : Option Nat)
  /-- `esp_restart`, or the target is reset from outside. -/
  | restart

def State.commitFwRecovery (s : State) : State := {s.budgetSync with rescue := false}

def step (cfg : Config) (s : State) : Action → Option State
  | .request i now =>
    if s.targets i ≠ .idle then none
    else
      match espRequestFirmwareRestart cfg.clock now s.adapter with
      | (a,.dispatched) => some {s.setTarget i .called with adapter := a, restartNeeded := true}
      | (a,_) => some {s with adapter := a}
  | .recover i => if s.targets i ≠ .idle then none else some (s.recoverTransport i)
  | .target i => s.resetTarget cfg i
  | .run =>
    match s.pending with
    | none => none
    | some epoch => if s.work ≠ .idle then none else some {s with pending := none, work := .started epoch}
  | .work io => s.resetWork cfg io
  | .commit =>
    match espFinishReconstruction s.adapter with
    | (a,true) => some {s with adapter := a, callbacks := s.callbacks+1}
    | (a,false) => some {s with adapter := a}
  | .callback =>
    if s.callbacks = 0 ∨ s.lock ≠ none then none
    else some {s.commitFwRecovery with callbacks := s.callbacks-1}
  | .retire => if s.lock ≠ none then none else some {s with rescue := false}
  | .adapter a => if a.bootCommitEpoch ≠ s.epoch then none else some {s with adapter := a}
  | .transfer tx ok level =>
    -- Nothing but a reset work sends the command, and the workqueue runs one work at a time.
    if s.work ≠ .idle ∨ (espCmdDispatch tx).isSome then none
    else some {s with slave := (s.slave.transfer cfg.checksum {bytes := tx} ok level).1}
  | .dispatch alloc =>
    match s.slave.rx with
    | [] => none
    | f :: rest =>
      match espCmdDispatch f.bytes, alloc with
      | some b,true =>
        some {s with
          slave := {s.slave with rx := rest, tx := s.slave.tx ++ [{bytes := b, attempt := f.attempt}]}
          log := f.attempt.toList.map .answered ++ s.log}
      | _,_ => some {s with slave := {s.slave with rx := rest}}
  | .send b =>
    if isRebootResponse b then none
    else some {s with slave := {s.slave with tx := s.slave.tx ++ [{bytes := b}]}}
  | .arm i =>
    match s.slave.arm i with
    | none => none
    | some slave => some {s with slave := slave}
  | .restart => some {s with slave := {}}

/-- A binding as `spi_probe` leaves it, after any number of attempts in earlier ones. -/
def bound (a : Adapter) (cmdSeq : UInt32) : State :=
  {adapter := {a with shuttingDown := false}, budgetEpoch := a.bootCommitEpoch, cmdSeq := cmdSeq}

/-! What is claimed of a run. -/

/-- A checksummed answer of exactly one command header, for the sequence number. -/
structure IsAck (rx : Bytes) (seq : UInt16) : Prop where
  ifType : hdrIfType rx = ESP_INTERNAL_IF
  packetType : hdrPacketType rx = PACKET_TYPE_COMMAND_RESPONSE
  offset : espOffsetValid (hdrOffset rx) = true
  len : hdrLen rx = commandHeaderSize
  checksum : (computeChecksum (setChecksum rx 0) (hdrOffset rx+commandHeaderSize)).toNat = hdrChecksum rx
  payload : cmdLen rx (hdrOffset rx) = 0
  code : cmdCode rx (hdrOffset rx) = CMD_HOST_REBOOT
  status : cmdStatus rx (hdrOffset rx) = CMD_RESPONSE_SUCCESS
  seq : cmdSeqNum rx (hdrOffset rx) = seq.toNat

def seqPeriod : Nat := 65535

/-- An answer comes after its command, and what is accepted is the answer to the attempt under
way, or to one from before the last wrap. -/
def Answers : List Ev → Prop
  | [] => True
  | .answered k :: log => .clocked k ∈ log ∧ Answers log
  | .acked k seq rx :: log =>
    IsAck rx.bytes seq ∧ seq ≠ 0 ∧ .clocked k ∈ log ∧
    (∃ j ∈ rx.attempt, .answered j ∈ log ∧ (j = k ∨ j+seqPeriod ≤ k)) ∧ Answers log
  | _ :: log => Answers log

/-- Its epochs are those the attempts were charged to. -/
structure Safe (cfg : Config) (s : State) : Prop where
  charged : ∀ e, s.log.count (.charged e) ≤ ESP_FW_BOOT_MAX_ATTEMPTS
  reboots : ∀ e, s.log.count (.reboot e) ≤ s.log.count (.charged e)
  single : s.inFlight ≤ 1
  /-- The count holds every attempt that is charged to the present epoch. -/
  kept : .charged s.epoch ∈ s.log →
    s.budgetEpoch = s.epoch ∧ s.attempts = s.log.count (.charged s.epoch)
  answers : Answers s.log
  reported : ∀ boot, cfg.resetGpio = false → s.work = .returned 0 boot →
    ∃ seq rx, .acked s.tries seq rx ∈ s.log

end EspHosted.SpiReboot
