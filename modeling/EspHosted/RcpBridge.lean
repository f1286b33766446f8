import EspHosted.Lib.Custody
import EspHosted.Lib.Run
import EspHosted.Wire

/-!
The RCP byte-stream bridge of the firmware, `main/esp_rcp.c`, from `esp_hosted_rcp_init`
on. Any number of tasks run its functions; each step is one queue operation, one move of
`s_tx_gate_lock`, or what a task does in between.
-/

set_option autoImplicit false

namespace EspHosted.RcpBridge
open EspHosted Run

abbrev Slot := Fin ESP_HOSTED_RCP_TX_POOL_SIZE

inductive PacketType where
  | data
  | rcpSession
  deriving DecidableEq, Repr

structure Chunk where
  ty : PacketType
  payload : Bytes
  deriving DecidableEq, Repr

/-- `interface_buffer_handle_t`: the payload stays in the slot. -/
structure Handle where
  slot : Slot
  ty : PacketType
  len : Nat
  deriving DecidableEq, Repr

/-- The arguments and `done` of `esp_hosted_rcp_send_packet_to_host`. -/
structure Call where
  ty : PacketType
  data : Bytes
  done : Nat := 0
  deriving DecidableEq, Repr

def Call.chunk (c : Call) : Bytes := (c.data.drop c.done).take ESP_HOSTED_RCP_CHUNK_MAX

def Call.handle (c : Call) (slot : Slot) : Handle := {slot := slot, ty := c.ty, len := c.chunk.length}

def htole64 (v : UInt64) : Bytes := (List.range 8).map fun i => UInt8.ofNat (v.toNat/256^i%256)

def sessionAck (nonce : UInt64) : Call :=
  {ty := .rcpSession, data := ESP_RCP_SESSION_VERSION :: (List.replicate 3 0 ++ htole64 nonce)}

/-- Where a task stands. `after` is the nonce to confirm once the host is ready, for a
task that came through the session marker. -/
inductive Pc where
  | idle
  /-- At the head of the chunk loop. -/
  | loop (c : Call)
  | filled (c : Call) (slot : Slot)
  /-- Has the gate, up to `published` or `refused`. -/
  | gated (c : Call) (slot : Slot)
  | published (c : Call)
  | refused (c : Call) (slot : Slot)
  | giveBack (c : Call) (slot : Slot)
  | marker (nonce : UInt64)
  | marking (nonce : UInt64)
  | ready (after : Option UInt64)
  /-- Has the gate, up to `leaving`. -/
  | draining (after : Option UInt64)
  | pending (after : Option UInt64) (h : Handle)
  | unsent (after : Option UInt64) (h : Handle)
  | leaving (after : Option UInt64) (ok : Bool)
  deriving DecidableEq, Repr

def Pc.slot : Pc → Option Slot
  | .filled _ x => some x
  | .gated _ x => some x
  | .refused _ x => some x
  | .giveBack _ x => some x
  | .pending _ h => some h.slot
  | .unsent _ h => some h.slot
  | _ => none

def Pc.hasGate : Pc → Bool
  | .gated _ _ => true
  | .published _ => true
  | .refused _ _ => true
  | .marking _ => true
  | .draining _ => true
  | .pending _ _ => true
  | .unsent _ _ => true
  | .leaving _ _ => true
  | _ => false

/-- `esp_hosted_rcp_chunk_t` -/
structure RxChunk where
  data : Bytes
  off : Nat := 0
  deriving DecidableEq, Repr

/-- A running `esp_hosted_rcp_read`. -/
structure Reader where
  size : Nat
  copied : Bytes := []
  deriving DecidableEq, Repr

/-- The sending half: the statics of `esp_rcp.c`, the RCP part of the to-host queue, and
the slots the transport has not released yet. The fields from `early` on only record what
happened. -/
structure Tx where
  /-- Payload area of every slot. -/
  storage : Slot → Bytes := fun _ => []
  free : List Slot := List.finRange ESP_HOSTED_RCP_TX_POOL_SIZE
  preboot : List Handle := []
  toHost : List Handle := []
  transport : List Slot := []
  gate : Option Nat := none
  hostReady : Bool := false
  sessionReady : Bool := false
  pc : Nat → Pc := fun _ => .idle
  /-- `esp_hosted_rcp_fatal_restart` has been called. -/
  restart : Bool := false
  /-- A release found the free queue full. -/
  accountingError : Bool := false
  /-- Chunks accepted into the pre-boot queue and, after it, straight for the host, with
  the task they came from. -/
  early : List (Nat × Chunk) := []
  later : List (Nat × Chunk) := []
  handed : List Chunk := []
  /-- Pre-boot chunks whose publication timed out. -/
  lost : List Chunk := []
  /-- The calls of a task that have returned `done`. -/
  returned : Nat → List Call := fun _ => []

structure Rx where
  rxQ : List RxChunk := []
  current : Option RxChunk := none
  reader : Option Reader := none
  /-- Chunks from before the session, chunks queued after it, and what reads returned. -/
  discarded : List Bytes := []
  received : List Bytes := []
  reads : List Bytes := []
  deriving DecidableEq, Repr

structure Bridge where
  tx : Tx := {}
  rx : Rx := {}

/-- The nonce of this boot and `CONFIG_ESP_HOSTED_RCP_RX_QUEUE_SIZE`. -/
structure Config where
  nonce : UInt64
  rxQueueSize : Nat

def Tx.setPc (s : Tx) (t : Nat) (pc : Pc) : Tx := {s with pc := Function.update s.pc t pc}

def Tx.content (s : Tx) (h : Handle) : Chunk := {ty := h.ty, payload := (s.storage h.slot).take h.len}

/-- `memcpy` into a slot. -/
def Tx.fill (s : Tx) (x : Slot) (bytes : Bytes) : Tx :=
  {s with storage := Function.update s.storage x (bytes ++ (s.storage x).drop bytes.length)}

def espHostedRcpReleaseTxSlot (s : Tx) (x : Slot) : Tx :=
  if s.free.length < ESP_HOSTED_RCP_TX_POOL_SIZE then {s with free := s.free ++ [x]}
  else {s with accountingError := true}

/-- `esp_hosted_rcp_send_packet_to_host` returns. -/
def Tx.leave (s : Tx) (t : Nat) (c : Call) : Tx :=
  {s with
    returned := Function.update s.returned t (s.returned t ++ [c])
    pc := Function.update s.pc t .idle}

/-- `send_to_host_timeout` has found room. -/
def Tx.sendToHost (s : Tx) (h : Handle) : Tx :=
  {s with toHost := s.toHost ++ [h], handed := s.handed ++ [s.content h]}

/-- The next step of task `t`. An operation that has to wait waits as long as `ok`, and
times out otherwise; the to-host queue carries other traffic too, so there `ok` says
whether it had room. -/
def advance (s : Tx) (t : Nat) (ok : Bool) : Option Tx :=
  match s.pc t with
  | .idle => none
  | .loop c =>
    if c.data.length ≤ c.done then some (s.leave t c)
    else
      match s.free with
      | x :: free => some ((Tx.fill {s with free := free} x c.chunk).setPc t (.filled c x))
      | [] => if ok then none else some {s.leave t c with restart := true}
  | .filled c x =>
    if s.gate = none then some (Tx.setPc {s with gate := some t} t (.gated c x))
    else if ok then none
    else some (s.setPc t (.giveBack c x))
  | .gated c x =>
    if s.hostReady then
      if ok then
        some (Tx.setPc {s.sendToHost (c.handle x) with later := s.later ++ [(t,⟨c.ty,c.chunk⟩)]} t
          (.published c))
      else some (s.setPc t (.refused c x))
    else if s.preboot.length < ESP_HOSTED_RCP_TX_POOL_SIZE then
      some (Tx.setPc {s with
        preboot := s.preboot ++ [c.handle x]
        early := s.early ++ [(t,⟨c.ty,c.chunk⟩)]} t (.published c))
    else if ok then none
    else some (s.setPc t (.refused c x))
  | .published c =>
    some (Tx.setPc {s with gate := none} t (.loop {c with done := c.done+c.chunk.length}))
  | .refused c x => some (Tx.setPc {s with gate := none} t (.giveBack c x))
  | .giveBack c x => some {(espHostedRcpReleaseTxSlot s x).leave t c with restart := true}
  | .marker nonce =>
    if s.gate = none then some (Tx.setPc {s with gate := some t} t (.marking nonce))
    else if ok then none
    else some {s.setPc t .idle with restart := true}
  | .marking nonce =>
    some (Tx.setPc {s with sessionReady := true, gate := none} t (.ready (some nonce)))
  | .ready after =>
    if s.gate = none then some (Tx.setPc {s with gate := some t} t (.draining after))
    else if ok then none
    else some {s.setPc t .idle with restart := s.restart || after.isSome}
  | .draining after =>
    match s.preboot with
    | h :: preboot => some (Tx.setPc {s with preboot := preboot} t (.pending after h))
    | [] => some (Tx.setPc {s with hostReady := true} t (.leaving after true))
  | .pending after h =>
    if ok then some ((s.sendToHost h).setPc t (.draining after))
    else some (Tx.setPc {s with lost := s.lost ++ [s.content h]} t (.unsent after h))
  | .unsent after h =>
    some ((espHostedRcpReleaseTxSlot s h.slot).setPc t (.leaving after false))
  | .leaving after published =>
    if published then
      some (Tx.setPc {s with gate := none} t (after.elim .idle (fun nonce => .loop (sessionAck nonce))))
    else some (Tx.setPc {s with gate := none, restart := true} t .idle)

/-- One turn of the loop in `esp_hosted_rcp_read`. -/
def readStep (s : Rx) : Option Rx :=
  s.reader.bind fun r =>
    if r.size ≤ r.copied.length then some {s with reader := none, reads := s.reads ++ [r.copied]}
    else
      match s.current, s.rxQ with
      | some chunk, _ =>
        let n := min (r.size-r.copied.length) (chunk.data.length-chunk.off)
        some {s with
          reader := some {r with copied := r.copied ++ (chunk.data.drop chunk.off).take n}
          current := if chunk.off+n = chunk.data.length then none else some {chunk with off := chunk.off+n}}
      | none, chunk :: q => some {s with current := some chunk, rxQ := q}
      | none, [] => some {s with reader := none, reads := s.reads ++ [r.copied]}

def espHostedRcpRxFromHost (cfg : Config) (s : Bridge) (data : Bytes) (alloc : Bool) : Bridge :=
  if data = [] then {s with tx := {s.tx with restart := true}}
  else if s.tx.sessionReady = false then {s with rx := {s.rx with discarded := s.rx.discarded ++ [data]}}
  else if alloc ∧ s.rx.rxQ.length < cfg.rxQueueSize then
    {s with rx := {s.rx with rxQ := s.rx.rxQ ++ [{data := data}], received := s.rx.received ++ [data]}}
  else {s with tx := {s.tx with restart := true}}

inductive Action where
  | send (t : Nat) (data : Bytes)
  | hostReady (t : Nat)
  | sessionStart (t : Nat) (version : UInt8) (nonce : UInt64)
  | advance (t : Nat) (ok : Bool)
  /-- The send task takes a handle off the to-host queue. -/
  | transmit
  /-- The transport is done with a slot. -/
  | complete (x : Slot)
  | rxFromHost (data : Bytes) (alloc : Bool)
  | read (size : Nat)
  | readStep
  deriving DecidableEq, Repr

def txStep (cfg : Config) (s : Tx) : Action → Option Tx
  | .send t data => if s.pc t = .idle then some (s.setPc t (.loop {ty := .data, data := data})) else none
  | .hostReady t => if s.pc t = .idle then some (s.setPc t (.ready none)) else none
  | .sessionStart t version nonce =>
    if s.pc t = .idle then
      if version ≠ ESP_RCP_SESSION_VERSION ∨ nonce = 0 ∨ nonce ≠ cfg.nonce then some s
      else some (s.setPc t (.marker nonce))
    else none
  | .advance t ok => advance s t ok
  | .transmit =>
    match s.toHost with
    | h :: toHost => some {s with toHost := toHost, transport := s.transport ++ [h.slot]}
    | [] => none
  | .complete x =>
    if x ∈ s.transport then
      some (espHostedRcpReleaseTxSlot {s with transport := s.transport.erase x} x)
    else none
  | _ => some s

def rxStep (s : Rx) : Action → Option Rx
  | .read size =>
    if s.reader = none then some (if size = 0 then s else {s with reader := some {size := size}}) else none
  | .readStep => readStep s
  | _ => some s

def step (cfg : Config) (s : Bridge) (a : Action) : Option Bridge :=
  match a with
  | .rxFromHost data alloc => some (espHostedRcpRxFromHost cfg s data alloc)
  | a => (txStep cfg s.tx a).bind fun tx => (rxStep s.rx a).map fun rx => {tx := tx, rx := rx}

/-! Where the slots are. -/

inductive Place where
  | free
  | preboot
  | toHost
  | transport
  | caller (t : Nat)
  deriving DecidableEq, Repr

def Tx.bag (s : Tx) : Place → List Slot
  | .free => s.free
  | .preboot => s.preboot.map Handle.slot
  | .toHost => s.toHost.map Handle.slot
  | .transport => s.transport
  | .caller t => (s.pc t).slot.toList

/-- The handle `esp_hosted_rcp_host_ready` has taken off the pre-boot queue. -/
def Pc.inHand : Pc → List Handle
  | .pending _ h => [h]
  | _ => []

def Tx.inHand (s : Tx) : List Handle := s.gate.elim [] (fun t => (s.pc t).inHand)

def Pc.call : Pc → Option Call
  | .loop c => some c
  | .filled c _ => some c
  | .gated c _ => some c
  | .published c => some c
  | .refused c _ => some c
  | .giveBack c _ => some c
  | _ => none

/-- The calls of a task, with the running one at the end. -/
def Tx.calls (s : Tx) (t : Nat) : List Call := s.returned t ++ (s.pc t).call.toList

/-- What the producers hand over: the session ACK comes from `esp_rcp.c` itself. -/
def Tx.asked (s : Tx) (t : Nat) : List Bytes := ((s.calls t).filter fun c => c.ty = .data).map Call.data

def Tx.through (s : Tx) (t : Nat) : Bytes := (s.returned t).flatMap fun c => c.data.take c.done

/-- Bytes the running call of a task has got accepted. -/
def Pc.progress : Pc → Bytes
  | .loop c => c.data.take c.done
  | .filled c _ => c.data.take c.done
  | .gated c _ => c.data.take c.done
  | .published c => c.data.take (c.done+c.chunk.length)
  | .refused c _ => c.data.take c.done
  | .giveBack c _ => c.data.take c.done
  | _ => []

/-- Bytes accepted from task `t`. -/
def Tx.bytesFrom (s : Tx) (t : Nat) : Bytes :=
  ((s.early ++ s.later).filter (fun a => a.1 = t)).flatMap (fun a => a.2.payload)

def Rx.waiting (s : Rx) : Bytes :=
  (s.reader.elim [] Reader.copied) ++
    ((s.current.elim [] (fun c => c.data.drop c.off)) ++ (s.rxQ.map (fun c => c.data.drop c.off)).flatten)

end EspHosted.RcpBridge
