import EspHosted.Lib.Run
import EspHosted.SdioHost
import Mathlib.Logic.Function.Basic

/-!
Host to slave credits of the SDIO transport: `tx_process` and
`is_sdio_write_buffer_available` of `host/sdio/esp_sdio.c` against the threads that
suspend, resume, recover and rebuild the link. A step is one access to what they share.
Frames, queues and the texts of the log are left out; an aggregate is its length.
-/

set_option autoImplicit false

namespace EspHosted.SdioCredits
open EspHosted Run Sdio

def MAX_WRITE_RETRIES : Nat := 2000

/-! The threads that own the link, as what is left of the function they are in. -/

inductive Op where
  | sleep (b : Bool)
  | state (ready : Bool)
  | barrier
  | incEpoch
  | dropCredits
  /-- The count of `esp_sdio_baseline_tx_credits`. -/
  | baseline
  | zeroCount
  | read
  /-- Any other bus access that leaves the counters of the slave alone. -/
  | bus
  /-- A bus access under which the slave starts TOKEN1 over. -/
  | restart
  /-- `kthread_stop` asks the thread to end, and waits. The credits are zeroed before
  anything else of `esp_sdio_quiesce_for_fw_reset` that the transmitter can see. -/
  | stopTx
  | joinTx
  | startTx
  deriving DecidableEq, Repr

def Op.onBus : Op → Bool
  | .barrier => true
  | .baseline => true
  | .read => true
  | .bus => true
  | .restart => true
  | _ => false

def Op.onCounters : Op → Bool
  | .barrier => true
  | .incEpoch => true
  | .dropCredits => true
  | .baseline => true
  | .zeroCount => true
  | .read => true
  | _ => false

def Op.bumps : Op → Bool
  | .barrier => true
  | .incEpoch => true
  | _ => false

/-- A handshake of `esp_sdio_handshake_slave_reset` that the host saw fail may have
reached the slave. -/
def handshake (reached : Bool) : Op := if reached then .restart else .bus

/-- `esp_schedule_fw_reset_recovery`; during a reconstruction the state stays. -/
def schedule (reconstructing : Bool) : List Op := if reconstructing then [] else [.state false]

def getFirmwareData (b : Baseline) : List Op :=
  [.incEpoch,.read] ++
    if b.lenRead then if b.tokenRead then [.baseline,.dropCredits] else [.read] else []

structure PsIo where
  ok : Bool := true
  reached : Bool := false
  deriving DecidableEq, Repr

structure SuspendIo where
  psOn : PsIo := {}
  keepPower : Bool := true
  psOff : PsIo := {}
  reconstructing : Bool := false
  deriving DecidableEq, Repr

def espSuspendInner (io : SuspendIo) : List Op :=
  .sleep true ::
    if io.psOn.ok = false then
      [handshake io.psOn.reached,.sleep false] ++ schedule io.reconstructing
    else
      .restart ::
        if io.keepPower then []
        else
          .sleep false ::
            if io.psOff.ok then [.restart]
            else handshake io.psOff.reached :: schedule io.reconstructing

structure ResumeIo where
  psOff : PsIo := {}
  baseline : Baseline := {}
  reconstructing : Bool := false
  deriving DecidableEq, Repr

def espResumeInner (io : ResumeIo) : List Op :=
  if io.psOff.ok = false then
    [handshake io.psOff.reached,.sleep false] ++ schedule io.reconstructing
  else
    [.restart,.dropCredits] ++ getFirmwareData io.baseline ++ [.sleep false] ++
      if io.baseline.lenRead && io.baseline.tokenRead then [] else schedule io.reconstructing

inductive HardReset where
  | escalated
  | refused
  | repeated
  | done
  deriving DecidableEq, Repr

structure RecoverIo where
  hard : HardReset := .done
  handshake : PsIo := {}
  baseline : Baseline := {}
  lenRead : Bool := true
  openSent : Bool := true
  initDone : Bool := true
  reconstructing : Bool := false
  deriving DecidableEq, Repr

def espSdioHardResetAndReopen (io : RecoverIo) : List Op :=
  match io.hard with
  | .escalated => schedule io.reconstructing
  | .refused => [.dropCredits]
  | .repeated => [.dropCredits,.zeroCount,.bus,.bus]
  | .done => [.dropCredits,.restart,.zeroCount,.bus,.bus]

/-- What a pass of `esp_sdio_recover_transport_inner` finds after its barrier. -/
inductive Pass where
  /-- A stale claim on a healthy link, before the barrier or after it. -/
  | healthy
  | stale
  | hard
  /-- `taken` is `esp_sdio_soft_reset_budget_take`. -/
  | soft (reenabled taken : Bool)
  | reenableFailed
  | rearm
  | slaveReset
  | rebase
  | openOnly
  | resync
  | wrapped
  deriving DecidableEq, Repr

def recoverPass (io : RecoverIo) : Pass → List Op
  | .healthy => []
  | .stale => [.state true]
  | .hard => espSdioHardResetAndReopen io
  | .soft reenabled taken =>
    .bus ::
      if reenabled && taken then
        if io.handshake.ok then [.bus,.zeroCount,.dropCredits,.restart,.bus]
        else [SdioCredits.handshake io.handshake.reached]
      else []
  | .reenableFailed => .bus :: espSdioHardResetAndReopen io
  | .rearm => [.bus]
  | .slaveReset =>
    .bus ::
      if io.handshake.ok = false then
        SdioCredits.handshake io.handshake.reached :: espSdioHardResetAndReopen io
      else
        [.restart,.dropCredits] ++ getFirmwareData io.baseline ++
          if io.baseline.lenRead && io.baseline.tokenRead then
            if io.initDone then [.dropCredits,.state true] else [.bus]
          else espSdioHardResetAndReopen io
  | .rebase =>
    [.bus,.dropCredits] ++ getFirmwareData io.baseline ++
      if io.baseline.lenRead && io.baseline.tokenRead then [.bus]
      else espSdioHardResetAndReopen io
  | .openOnly => [.bus,.bus]
  | .resync =>
    [.bus,.bus] ++
      if io.lenRead = false then espSdioHardResetAndReopen io
      else if io.initDone then
        .bus :: if io.openSent then [.dropCredits,.state true] else espSdioHardResetAndReopen io
      else [.bus]
  | .wrapped => [.bus,.bus,.bus]

def espSdioRecoverTransportInner (io : RecoverIo) (p : Pass) : List Op :=
  .sleep false :: if p = .healthy then [] else [.state false,.barrier] ++ recoverPass io p

structure BootIo where
  reinitializing : Bool := true
  accepted : Bool := true
  baseline : Baseline := {}
  threadRun : Bool := true
  /-- No recovery has been asked for since `esp_begin_reconstruction`. -/
  unchanged : Bool := true
  deriving DecidableEq, Repr

def espSdioQuiesceForFwReset : List Op :=
  [.sleep false,.state false,.stopTx,.joinTx]

/-- `process_event_esp_bootup` with `esp_sdio_reinit_after_fw_reset`. -/
def processEventEspBootup (io : BootIo) : List Op :=
  if io.reinitializing = false then if io.accepted then [.state true,.state io.unchanged] else []
  else
    espSdioQuiesceForFwReset ++
      if io.accepted = false then []
      else
        getFirmwareData io.baseline ++
          if io.baseline.lenRead && io.baseline.tokenRead && io.threadRun then
            [.startTx,.state true,.state io.unchanged]
          else []

inductive Owner where
  | pm
  | boot
  deriving DecidableEq, Repr

/-- `bumped` and `zeroed` record that it has changed the epoch, and that it has zeroed
the credits since. -/
structure Thread where
  todo : List Op := []
  bumped : Bool := false
  zeroed : Bool := false
  deriving DecidableEq, Repr

/-- It has begun to change the credit counters and is not done. -/
def Thread.mid (t : Thread) : Bool := (t.bumped || t.zeroed) && t.todo.any Op.onCounters

/-! `tx_process`. -/

structure Reservation where
  id : Nat
  buffers : Nat
  epoch : Nat
  zeroings : Nat
  deriving DecidableEq, Repr

structure Aggregate where
  needed : Nat
  epoch : Nat
  /-- The credit loop was left through its test of `host_sleep` and the state. -/
  aborted : Bool := false
  held : Option Reservation := none
  deriving DecidableEq, Repr

inductive Pc where
  | dead
  | top
  | building
  | filling (epoch : Nat)
  | credit (g : Aggregate)
  /-- In `is_sdio_write_buffer_available`, with what is left of `retry`. -/
  | checking (g : Aggregate)
  | reading (g : Aggregate) (retry : Nat)
  | storing (g : Aggregate) (retry raw : Nat)
  | comparing (g : Aggregate) (retry : Nat)
  | taking (g : Aggregate) (retry : Nat)
  | subtracting (g : Aggregate) (retry : Nat)
  | staleCmd
  | left (g : Aggregate)
  | packed (g : Aggregate)
  | vetted (g : Aggregate)
  | claiming (g : Aggregate)
  | writing (g : Aggregate)
  deriving DecidableEq, Repr

/-- A CMD53 of an aggregate. `written` and `advertised` count the buffers of its epoch. -/
structure Write where
  needed : Nat
  epoch : Nat
  zeroings : Nat
  held : Option Reservation
  written : Nat
  advertised : Nat
  deriving DecidableEq, Repr

structure State where
  available : Nat := 0
  count : Nat := 0
  epoch : Nat := 0
  hostSleep : Bool := false
  ready : Bool := false
  removing : Bool := false
  shouldStop : Bool := false
  /-- `ret < 0`, in the variable all aggregates share. -/
  failed : Bool := false
  pc : Pc := .top
  thread : Owner → Thread := fun _ => {}
  /-- TOKEN1 before it is cut to 12 bits. -/
  token : Nat := 0
  /-- Buffers the host has used since the slave last started TOKEN1. -/
  used : Nat := 0
  before : Nat := 0
  written : Nat := 0
  /-- The position `tx_buffer_count` stands for. -/
  position : Nat := 0
  /-- TOKEN1 has not started over since the host set its count, and the count was not
  below what it had used. -/
  synced : Bool := true
  zeroings : Nat := 0
  nextId : Nat := 0
  log : List Write := []

def State.mid (s : State) : Bool := (s.thread .pm).mid || (s.thread .boot).mid

def State.gated (s : State) : Bool := s.shouldStop || s.hostSleep || !s.ready || s.removing

structure TxIo where
  aggrLen : Nat := 1
  aggrSize : Nat := 0
  cmdStale : Bool := false
  readOk : Bool := true
  writeOk : Bool := true
  deriving DecidableEq, Repr

def TxIo.txAggrSize (io : TxIo) : Nat :=
  if io.aggrSize = 0 ∨ ESP_TX_AGGR_SIZE_MAX < io.aggrSize then ESP_HOST_TX_AGGR_SIZE else io.aggrSize

def TxIo.bufNeeded (io : TxIo) : Nat := (io.aggrLen+io.txAggrSize-1)/io.txAggrSize

def State.zero (s : State) : State := {s with available := 0, zeroings := s.zeroings+1}

/-- `sdio_fail_abandoned_cmd` and `sdio_buf_available = 0`. -/
def State.abandon (s : State) : State := {s.zero with pc := .top}

/-- `esp_slave_get_tx_buffer_num` after the register read. -/
def txBufferNum (raw count : Nat) : Nat :=
  min ((raw+ESP_TX_BUFFER_MAX-count)%ESP_TX_BUFFER_MAX) ESP_MAX_BUF_CNT

def wrappingSub (a b : Nat) : Nat := if b ≤ a then a-b else a+2^32-b

def State.reserve (s : State) (g : Aggregate) : Reservation :=
  {id := s.nextId, buffers := g.needed, epoch := s.epoch, zeroings := s.zeroings}

def State.writeOf (s : State) (g : Aggregate) (ok : Bool) : Write :=
  {needed := g.needed, epoch := s.epoch, zeroings := s.zeroings, held := g.held
   written := if ok then s.written+g.needed else s.written
   advertised := s.token-s.before}

def State.cmd53 (s : State) (g : Aggregate) (ok : Bool) : State :=
  {s with
    log := s.writeOf g ok :: s.log
    failed := !ok
    pc := .top
    count := if ok then (s.count+g.needed)%ESP_TX_BUFFER_MAX else s.count
    used := if ok then s.used+g.needed else s.used
    written := if ok then s.written+g.needed else s.written
    position := if ok then s.position+g.needed else s.position}

def txStep (io : TxIo) (s : State) : Option State :=
  match s.pc with
  | .dead => none
  | .top =>
    if s.shouldStop then some {s with pc := .dead}
    else if s.ready = false ∨ s.hostSleep then some s
    else some {s with pc := .building}
  | .building => some {s with pc := .filling s.epoch}
  | .filling e =>
    if io.aggrLen = 0 then some {s with pc := .top}
    else some {s with pc := .credit {needed := io.bufNeeded, epoch := e}}
  | .credit g =>
    if io.cmdStale then some {s with pc := .staleCmd}
    else if s.gated then some {s with pc := .left {g with aborted := true}}
    else some {s with pc := .checking g}
  | .checking g =>
    if s.available < g.needed then some {s with pc := .reading g MAX_WRITE_RETRIES}
    else some {s with pc := .taking g MAX_WRITE_RETRIES}
  | .reading g r =>
    if io.readOk then some {s with pc := .storing g r (s.token%ESP_TX_BUFFER_MAX)}
    else some {s with failed := true, pc := .left g}
  | .storing g r raw =>
    some {s with available := txBufferNum raw s.count, pc := .comparing g r}
  | .comparing g r =>
    if s.available < g.needed then
      if r-1 = 0 then some {s with pc := .taking g 0} else some {s with pc := .reading g (r-1)}
    else some {s with pc := .taking g r}
  | .taking g r =>
    if g.needed ≤ s.available then some {s with pc := .subtracting g r}
    else if r = 0 then some {s with failed := false, pc := .credit g}
    else some {s with failed := false, pc := .left g}
  | .subtracting g r =>
    let g := {g with held := some (s.reserve g)}
    some {s with
      available := wrappingSub s.available g.needed
      nextId := s.nextId+1
      failed := false
      pc := if r = 0 then .credit g else .left g}
  | .staleCmd => if s.shouldStop then some {s with pc := .dead} else some s.abandon
  | .left g =>
    if s.shouldStop then some {s with pc := .dead}
    else if s.ready = false ∨ s.removing ∨ s.failed then some s.abandon
    else some {s with pc := .packed g}
  | .packed g => if io.cmdStale then some s.abandon else some {s with pc := .vetted g}
  | .vetted g =>
    if s.shouldStop ∨ s.ready = false ∨ s.removing ∨ s.epoch ≠ g.epoch then some s.abandon
    else some {s with pc := .claiming g}
  | .claiming g =>
    if s.gated ∨ s.epoch ≠ g.epoch then some s.abandon else some {s with pc := .writing g}
  | .writing g => some (s.cmd53 g io.writeOk)

def Pc.onBus : Pc → Bool
  | .writing _ => true
  | _ => false

def State.bump (s : State) : State := {s with epoch := s.epoch+1, before := s.used, written := 0}

def State.restart (s : State) : State := {s with token := 0, used := 0, before := 0, synced := false}

def State.setCount (s : State) (position : Nat) : State :=
  {s with count := position%ESP_TX_BUFFER_MAX, position := position, synced := s.used ≤ position}

/-- `raw >= ESP_MAX_BUF_CNT ? raw - ESP_MAX_BUF_CNT : 0` -/
def State.baselinePosition (s : State) : Nat :=
  if ESP_MAX_BUF_CNT ≤ s.token%ESP_TX_BUFFER_MAX then s.token-ESP_MAX_BUF_CNT
  else s.token-s.token%ESP_TX_BUFFER_MAX

def opStep (s : State) : Op → Option State
  | .sleep b => some {s with hostSleep := b}
  | .state b => some {s with ready := b}
  | .barrier => some s.bump
  | .incEpoch => some s.bump
  | .dropCredits => some s.zero
  | .baseline => some (s.setCount s.baselinePosition)
  | .zeroCount => some (s.setCount 0)
  | .read => some s
  | .bus => some s
  | .restart => some s.restart
  | .stopTx => some {s with shouldStop := true}
  | .joinTx => if s.pc = .dead then some s.zero else none
  | .startTx => if s.pc = .dead then some {s with pc := .top, shouldStop := false, failed := false} else none

def Thread.advance (t : Thread) (op : Op) (l : List Op) : Thread :=
  {todo := l
   bumped := t.bumped || op.bumps
   zeroed := if op.bumps then false else t.zeroed || op = .dropCredits}

inductive Action where
  | tx (io : TxIo)
  | suspend (io : SuspendIo)
  | resume (io : ResumeIo)
  | recover (io : RecoverIo) (p : Pass)
  | bootup (io : BootIo)
  | run (o : Owner)
  /-- `esp_schedule_recovery` from any other place. -/
  | clamp
  | remove
  | produce (buffers : Nat)
  | crash
  deriving DecidableEq, Repr

def begin (s : State) (o : Owner) (todo : List Op) : Option State :=
  if (s.thread o).todo = [] then some {s with thread := Function.update s.thread o {todo := todo}}
  else none

def run (s : State) (o : Owner) : Option State :=
  match (s.thread o).todo with
  | [] => none
  | op :: l =>
    if op.onBus ∧ s.pc.onBus then none
    else
      (opStep s op).map
        (fun t => {t with thread := Function.update s.thread o ((s.thread o).advance op l)})

def step (s : State) : Action → Option State
  | .tx io => txStep io s
  | .suspend io => begin s .pm (espSuspendInner io)
  | .resume io => begin s .pm (espResumeInner io)
  | .recover io p => begin s .pm (espSdioRecoverTransportInner io p)
  | .bootup io => begin s .boot (processEventEspBootup io)
  | .run o => run s o
  | .clamp => some {s with ready := false}
  | .remove => some {s with removing := true}
  | .produce n => some {s with token := s.token+n}
  | .crash => some s.restart

/-- `init_context` on a slave that has armed `token` buffers. -/
def probe (token : Nat) : State :=
  ({token := token} : State).setCount ({token := token} : State).baselinePosition

/-- Credits are asked for, and aggregates written, only while neither thread is in the
middle of the credit counters. What is written has not left the credit loop through its
test, and the count is in step with TOKEN1. -/
def follows (s : State) : Action → Bool
  | .tx io =>
    match s.pc with
    | .credit _ => io.cmdStale || s.gated || !s.mid
    | .writing g => !g.aborted && s.synced && !s.mid
    | _ => true
  | _ => true

def Followed (s : State) (a : Action) : Prop := follows s a = true

instance (s : State) (a : Action) : Decidable (Followed s a) := inferInstanceAs (Decidable (_ = true))

/-- A CMD53 used a reservation of its own size, made in its epoch and since the last
zeroing, and its epoch stays within what the slave has advertised. -/
structure Write.Good (w : Write) : Prop where
  reserved : ∃ r, w.held = some r ∧ r.buffers = w.needed ∧ r.epoch = w.epoch ∧ r.zeroings = w.zeroings
  within : w.written ≤ w.advertised

structure Safe (s : State) : Prop where
  good : ∀ w ∈ s.log, w.Good
  once : (s.log.map (fun w => w.held.map (fun r => r.id))).Nodup

end EspHosted.SdioCredits
