import EspHosted.SpiReady
import EspHosted.Lib.Custody

/-!
Transaction slots and receive buffers of the firmware's SPI slave, `main/spi_slave_api.c`.
A step is one operation on a queue, a flag or the driver. The driver returns every queued
transaction once, in order. A block of memory is its address; what is not in use is the heap.
-/

set_option autoImplicit false

namespace EspHosted.SpiSlots
open EspHosted Run
open EspHosted.SpiSlave (Prio)

def SPI_SLOT_NUM : Nat := 3

/-- What `esp_spi_init` has allocated, next to the blocks that `heap_caps_malloc` still has. -/
structure Memory (B : Type) [DecidableEq B] where
  queueSize : Nat
  emergency : B
  pool : List B
  heap : List B
  full : pool.length = SPI_SLOT_NUM+queueSize+2
  each : ∀ b, (emergency :: (pool ++ heap)).count b = 1

/-- Callers of `queue_next_transaction`: the boot event and the transaction task. -/
inductive Who where
  | boot
  | task
  deriving DecidableEq, Repr

/-- `queue_next_transaction` -/
inductive NextPc (B : Type) where
  | done
  | find
  | acquire (slot : Nat)
  | fallback (slot : Nat)
  | malloc (slot : Nat)
  | mark (slot : Nat) (rxBuf : B)
  | fill (slot : Nat) (rxBuf : B)
  | queue (slot : Nat) (rxBuf : B)
  | noSlot
  deriving DecidableEq, Repr

/-- `spi_transaction_post_process_task` -/
inductive TaskPc where
  | waiting
  | fetched (slot : Nat) (ok : Bool)
  | calling (slot : Nat) (ok : Bool)
  | post (slot : Nat) (ok reboot : Bool)
  | handed (slot : Nat) (reboot : Bool)
  deriving DecidableEq, Repr

inductive Ev (B : Type) where
  | acquired (b : B)
  | recycled (b : B)
  /-- `dma_tx` of a slot is written; `armed` says that its transaction is with the driver. -/
  | wrote (slot : Nat) (armed : Bool)
  deriving DecidableEq, Repr

structure State (B : Type) where
  heap : List B
  pool : List B
  emergencyInUse : Bool := false
  inUse : Nat → Bool := fun _ => false
  rebootAck : Nat → Bool := fun _ => false
  rxBuf : Nat → Option B := fun _ => none
  /-- Queued with the driver, and returned by it with their results. -/
  driver : List Nat := []
  results : List (Nat × Bool) := []
  rxQueue : Prio → List B := fun _ => []
  held : Option B := none
  next : Who → NextPc B := fun w => if w = .boot then .find else .done
  task : TaskPc := .waiting
  dead : Bool := false
  log : List (Ev B) := []

section
variable {B : Type} [DecidableEq B]

def Memory.init (m : Memory B) : State B := {heap := m.heap, pool := m.pool}

def State.setNext (s : State B) (w : Who) (pc : NextPc B) : State B :=
  {s with next := fun v => if v = w then pc else s.next v}

def State.setUse (s : State B) (i : Nat) (inUse rebootAck : Bool) : State B :=
  {s with
    inUse := fun j => if j = i then inUse else s.inUse j
    rebootAck := fun j => if j = i then rebootAck else s.rebootAck j}

def State.setRx (s : State B) (i : Nat) (b : Option B) : State B :=
  {s with rxBuf := fun j => if j = i then b else s.rxBuf j}

def State.recycle (m : Memory B) (s : State B) (b : B) : State B :=
  let s := {s with log := .recycled b :: s.log}
  if b = m.emergency then {s with emergencyInUse := false}
  else if s.pool.length < SPI_SLOT_NUM+m.queueSize+2 then {s with pool := s.pool ++ [b]}
  else {s with heap := b :: s.heap}

/-- What the heap, the TX queues and the driver answer. -/
structure NextIo (B : Type) where
  block : Option B := none
  reboot : Bool := false
  queued : Bool := true

def State.queueNext (m : Memory B) (s : State B) (w : Who) (io : NextIo B) : Option (State B) :=
  match s.next w with
  | .done => none
  | .noSlot => none
  | .find =>
    match (List.range SPI_SLOT_NUM).find? (fun i => !s.inUse i) with
    | none => some {s.setNext w .noSlot with dead := true}
    | some i => some (s.setNext w (.acquire i))
  | .acquire i =>
    match s.pool with
    | [] => some (s.setNext w (.fallback i))
    | b :: rest => some {s.setNext w (.mark i b) with pool := rest, log := .acquired b :: s.log}
  | .fallback i =>
    if s.emergencyInUse then some (s.setNext w (.malloc i))
    else
      some {s.setNext w (.mark i m.emergency) with
        emergencyInUse := true, log := .acquired m.emergency :: s.log}
  | .malloc i =>
    match io.block with
    | none => some {s with dead := true}
    | some b =>
      if b ∈ s.heap then
        some {s.setNext w (.mark i b) with heap := s.heap.erase b, log := .acquired b :: s.log}
      else none
  | .mark i b => some ((s.setNext w (.fill i b)).setUse i true false)
  | .fill i b =>
    some {(s.setNext w (.queue i b)).setUse i true io.reboot with
      log := .wrote i (decide (i ∈ s.driver)) :: s.log}
  | .queue i b =>
    if io.queued then some {(s.setNext w .done).setRx i (some b) with driver := s.driver ++ [i]}
    else some {s with dead := true}

/-- What `process_spi_rx` makes of a frame. A full queue blocks it, or the send times out. -/
inductive Verdict where
  | drop
  | enqueue (p : Prio)
  | fatal
  deriving DecidableEq, Repr

def State.postProcess (m : Memory B) (s : State B) (v : Verdict) : Option (State B) :=
  match s.task with
  | .waiting => none
  | .fetched i ok =>
    if ok && s.rebootAck i then some {s with task := .post i ok true}
    else some {s.setNext .task .find with task := .calling i ok}
  | .calling i ok => if s.next .task = .done then some {s with task := .post i ok false} else none
  | .post i ok reboot =>
    match s.rxBuf i with
    | none => some {s with task := .handed i (ok && reboot)}
    | some b =>
      if ok = false ∨ reboot then some {(s.setRx i none).recycle m b with task := .handed i (ok && reboot)}
      else
        match v with
        | .drop => some {(s.setRx i none).recycle m b with task := .handed i false}
        | .enqueue p =>
          if (s.rxQueue p).length < m.queueSize then
            some {s.setRx i none with
              rxQueue := fun q => if q = p then s.rxQueue p ++ [b] else s.rxQueue q
              task := .handed i false}
          else none
        | .fatal => some {s with dead := true}
  | .handed i reboot => some {s.setUse i false false with task := .waiting, dead := reboot}

inductive Action (B : Type) where
  | next (w : Who) (io : NextIo B)
  /-- The host has clocked the oldest queued transaction. -/
  | complete (ok : Bool)
  | fetch
  | task (v : Verdict)
  | read (p : Prio)
  | readDone

def step (m : Memory B) (s : State B) (a : Action B) : Option (State B) :=
  if s.dead then none
  else
    match a with
    | .next w io => s.queueNext m w io
    | .complete ok =>
      match s.driver with
      | [] => none
      | i :: rest => some {s with driver := rest, results := s.results ++ [(i,ok)]}
    | .fetch =>
      match s.results with
      | [] => none
      | (i,ok) :: rest => if s.task = .waiting then some {s with results := rest, task := .fetched i ok} else none
    | .task v => s.postProcess m v
    | .read p =>
      match s.rxQueue p with
      | [] => none
      | b :: rest =>
        if s.held.isSome then none
        else some {s with rxQueue := fun q => if q = p then rest else s.rxQueue q, held := some b}
    | .readDone =>
      match s.held with
      | none => none
      | some b => some {s.recycle m b with held := none}

/-! What is claimed. -/

inductive Place where
  | heap
  | pool
  | emergency
  | slot (i : Nat)
  | hand (w : Who)
  | queue (p : Prio)
  | reader
  deriving DecidableEq, Repr

def NextPc.buf : NextPc B → Option B
  | .mark _ b => some b
  | .fill _ b => some b
  | .queue _ b => some b
  | _ => none

def State.bag (m : Memory B) (s : State B) : Place → List B
  | .heap => s.heap
  | .pool => s.pool
  | .emergency => if s.emergencyInUse then [] else [m.emergency]
  | .slot i => (s.rxBuf i).toList
  | .hand w => (s.next w).buf.toList
  | .queue p => s.rxQueue p
  | .reader => s.held.toList

/-- With the driver, or returned by it and not yet collected. -/
def State.queued (s : State B) : List Nat := s.driver ++ s.results.map (·.1)

/-- Set up by `queue_next_transaction` and not yet queued. -/
def NextPc.marked : NextPc B → Option Nat
  | .fill i _ => some i
  | .queue i _ => some i
  | _ => none

def TaskPc.slot : TaskPc → Option Nat
  | .waiting => none
  | .fetched i _ => some i
  | .calling i _ => some i
  | .post i _ _ => some i
  | .handed i _ => some i

structure Safe (m : Memory B) (s : State B) : Prop where
  /-- A slot is free or queued, apart from the ones under the task's hands. -/
  slots : ∀ i, s.inUse i = true ↔
    i ∈ s.queued ∨ s.task.slot = some i ∨ ∃ w, (s.next w).marked = some i
  /-- Between two transactions there are no others. -/
  settled : s.task = .waiting → s.next .boot = .done → ∀ i, s.inUse i = true ↔ i ∈ s.queued
  once : s.queued.Nodup
  hasSlot : ∀ w, s.next w ≠ .noSlot
  custody : Custody (s.bag m)
  recycled : ∀ b, s.log.count (.recycled b) ≤ s.log.count (.acquired b)
  writes : ∀ i, .wrote i true ∉ s.log

end
end EspHosted.SpiSlots
