import EspHosted.RcpOpen

/-!
The RCP endpoint behind the receive queues of the SPI backend, `host/spi/esp_spi.c`. Each
frame is marked with the firmware incarnation that sent it, and the marks follow the
payloads through the endpoint up to the bytes a read returns. A frame that the backend
purges before it is read counts as never received.
-/

set_option autoImplicit false

namespace EspHosted.Rcp.Isolation
open EspHosted Recovery Rcp Run

inductive IfType where
  | internal
  | hci
  | rcp
  | other
  deriving DecidableEq, Repr

inductive Body where
  | boot (legacyRcpActive : Bool)
  /-- The session ACK; the firmware puts its own boot nonce into it. -/
  | session
  | data (payload : Bytes)
  | corrupt (i : IfType)
  /-- Any other frame. On the RCP interface it is one of an unknown type. -/
  | misc (i : IfType)
  deriving DecidableEq, Repr

def Body.ifType : Body → IfType
  | .boot _ => .internal
  | .session => .rcp
  | .data _ => .rcp
  | .corrupt i => i
  | .misc i => i

structure Frame where
  inc : Nat
  no : Nat
  body : Body
  deriving DecidableEq, Repr

/-- What `process_rx_packet` makes of it as far as the endpoint is concerned. -/
def Frame.packet (nonce : Nat → UInt64) (f : Frame) : Option Packet :=
  match f.body with
  | .boot legacy => some (.boot legacy)
  | .session => some (.session (nonce f.inc))
  | .data payload => some (.data payload)
  | .corrupt _ => some .corrupt
  | .misc i => if i = .rcp then some .unknown else none

/-- A DATA payload as it was handed to `esp_rcp_rx`. -/
structure Arrival where
  inc : Nat
  no : Nat
  payload : Bytes
  /-- `rcp_generation` and `rcp_ever_opened` at that moment. -/
  generation : UInt32
  everOpened : Bool
  deriving DecidableEq, Repr

/-- The fields from `taken` on only record what happened. `rx`, `early` and `held` say
where the skbs of the endpoint's `rxQ`, `earlyQ` and `held` came from. -/
structure State where
  ep : Endpoint := {}
  high : List Frame := []
  mid : List Frame := []
  low : List Frame := []
  inc : Nat := 0
  count : Nat := 0
  /-- The incarnation of the last boot event that was processed. -/
  taken : Nat := 0
  rx : List Arrival := []
  early : List Arrival := []
  held : Option Arrival := none
  /-- The nonce in the start marker of the last open, and the ACK accepted for it. -/
  started : UInt64 := 0
  ack : Option Frame := none
  /-- What reads on this file returned, each with the payload it is from. -/
  reads : List (Arrival × Bytes) := []
  deriving DecidableEq, Repr

def processRxBuf (s : State) (body : Body) : State :=
  let f : Frame := {inc := s.inc, no := s.count, body := body}
  let s := {s with count := s.count+1}
  match body.ifType with
  | .internal => {s with high := s.high ++ [f]}
  | .hci => {s with mid := s.mid ++ [f]}
  | .rcp => {s with mid := s.mid ++ [f]}
  | .other => {s with low := s.low ++ [f]}

def readPacket (s : State) : Option (Frame × State) :=
  match s.high with
  | f :: q => some (f,{s with high := q})
  | [] =>
    match s.mid with
    | f :: q => some (f,{s with mid := q})
    | [] =>
      match s.low with
      | f :: q => some (f,{s with low := q})
      | [] => none

def flushRcpTraffic (s : State) : State := {s with mid := s.mid.filter fun f => f.body.ifType ≠ .rcp}

def kept (marks : List Arrival) (q : List Bytes) : List Arrival := if q = [] then [] else marks

def added (marks : List Arrival) (a : Arrival) (q q' : List Bytes) : List Arrival :=
  if q.length < q'.length then marks ++ [a] else kept marks q'

/-- `process_rx_packet` with the frame `f` taken from the queues. -/
def processPacket (c : Clock) (now : Nat) (s : State) (f : Frame) : Packet → State
  | .data payload =>
    let ep := processRxPacket c now s.ep (.data payload)
    let a : Arrival :=
      {inc := f.inc, no := f.no, payload := payload, generation := s.ep.generation
       everOpened := s.ep.everOpened}
    {s with ep := ep, rx := added s.rx a s.ep.rxQ ep.rxQ, early := added s.early a s.ep.earlyQ ep.earlyQ}
  | .session nonce =>
    if Opening.ackAccepted s.ep nonce then
      {s with
        ep := espRcpSessionAck s.ep nonce
        rx := if s.ep.openingFirst then s.rx ++ s.early else []
        early := []
        ack := some f}
    else s
  | .boot legacy =>
    let ep := processRxPacket c now s.ep (.boot legacy)
    let s' := {s with ep := ep, taken := f.inc, rx := kept s.rx ep.rxQ, early := kept s.early ep.earlyQ}
    if s.ep.registered ∧ s.ep.sessionActive then flushRcpTraffic s' else s'
  | p => {s with ep := processRxPacket c now s.ep p}

def rxWork (c : Clock) (nonce : Nat → UInt64) (now : Nat) (s : State) : State :=
  match readPacket s with
  | none => s
  | some (f,s) =>
    match f.packet nonce with
    | none => s
    | some p => processPacket c now s f p

/-- `esp_rcp_open` gets past its checks. -/
def opens (s : Endpoint) : Bool := s.registered && s.sessionActive && espRcpSessionReady s && !s.opened

def flushes (s : Endpoint) : Rcp.Action → Bool
  | .openTimeout _ => true
  | .release _ => s.registered && s.opened && s.fileGeneration == s.generation
  | _ => false

def follow (s : State) (ep : Endpoint) : Rcp.Action → State
  | .open _ =>
    let s' := {s with ep := ep, rx := kept s.rx ep.rxQ, early := kept s.early ep.earlyQ}
    if opens s.ep then {s' with held := none, started := s.ep.nonce, ack := none, reads := []} else s'
  | .dequeue =>
    if s.ep.held = none ∧ ep.held ≠ none then {s with ep := ep, held := s.rx.head?, rx := s.rx.tail}
    else {s with ep := ep}
  | .read _ _ =>
    match s.held with
    | none => {s with ep := ep}
    | some a =>
      {s with
        ep := ep
        held := none
        rx := if s.ep.rxQ.length < ep.rxQ.length then a :: s.rx else s.rx
        reads := s.reads ++ [(a,ep.returned.drop s.ep.returned.length)]}
  | _ => {s with ep := ep, rx := kept s.rx ep.rxQ, early := kept s.early ep.earlyQ}

def isPacket : Rcp.Action → Bool
  | .packet _ _ => true
  | _ => false

inductive Action where
  | boot (legacyRcpActive : Bool)
  | frame (body : Body)
  | rxWork (now : Nat)
  | host (a : Rcp.Action)
  deriving DecidableEq, Repr

def isBoot : Body → Bool
  | .boot _ => true
  | _ => false

def step (c : Clock) (nonce : Nat → UInt64) (s : State) : Action → Option State
  | .boot legacy => some (processRxBuf {s with inc := s.inc+1} (.boot legacy))
  | .frame body => if isBoot body then none else some (processRxBuf s body)
  | .rxWork now => some (rxWork c nonce now s)
  | .host a =>
    if isPacket a then none
    else
      (Rcp.step c s.ep a).map fun ep =>
        if flushes s.ep a then flushRcpTraffic (follow s ep a) else follow s ep a

/-- The endpoint would queue the DATA or accept the ACK. -/
def keeps (s : Endpoint) : Packet → Bool
  | .data _ =>
    s.bootPending || (s.registered && s.sessionActive && espRcpSessionReady s && s.opened &&
      (s.ackedNonce == s.nonce || s.openingFirst))
  | .session nonce => Opening.ackAccepted s nonce
  | _ => false

/-- The frame that is read next has not been overtaken by a later boot event, or is of no
use to the endpoint; and a boot event that the endpoint is not told of finds nothing in
quarantine. -/
def cleanFrame (nonce : Nat → UInt64) (s : State) (f : Frame) : Bool :=
  match f.packet nonce with
  | none => true
  | some (.boot legacy) => espRcpFailClosedRequired s.ep || legacy || s.ep.earlyQ.isEmpty
  | some p => decide (s.taken ≤ f.inc) || !keeps s.ep p

def clean (nonce : Nat → UInt64) (s : State) : Action → Bool
  | .rxWork _ => (readPacket s).all fun r => cleanFrame nonce s r.1
  | _ => true

def Clean (nonce : Nat → UInt64) (s : State) (a : Action) : Prop := clean nonce s a = true

instance (nonce : Nat → UInt64) (s : State) (a : Action) : Decidable (Clean nonce s a) :=
  inferInstanceAs (Decidable (clean nonce s a = true))

end EspHosted.Rcp.Isolation
