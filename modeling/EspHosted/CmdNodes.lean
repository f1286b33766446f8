import EspHosted.Lib.Custody
import EspHosted.Lib.Run
import EspHosted.Wire

/-!
The command engine of the host, `host/esp_cmd.c`: the node pool, the pending queue,
`cur_cmd`, and the callers that wait. A definition that holds `cmd_lock` is one step; a
caller's other work between two such sections is a step of its own. `queued_at`, the
`mgmt_` fields and what the decoders do with a response are left out.
-/

set_option autoImplicit false

namespace EspHosted.Cmd
open EspHosted

def ESP_NUM_OF_CMD_NODES : Nat := 20
def ESP_SIZE_OF_CMD_NODE : Nat := 2048

abbrev NodeId := Fin ESP_NUM_OF_CMD_NODES

/-- The bits of `state_flags` that the command engine reads. -/
structure Flags where
  driverActive : Bool := true
  cmdInitDone : Bool := true
  driverUnloading : Bool := false
  transportRemoving : Bool := false
  allowDeinit : Bool := false
  allowReconstruct : Bool := false
  cleanupInProgress : Bool := false
  otaInProgress : Bool := false
  resetExpected : Bool := false
  deriving DecidableEq, Repr

def otaCodes : List UInt8 := [CMD_START_OTA_UPDATE,CMD_START_OTA_WRITE,CMD_START_OTA_END]

def espCmdIsAdmitted (f : Flags) (code : UInt8) : Bool :=
  if f.driverUnloading then code = CMD_DEINIT_INTERFACE ∧ f.allowDeinit
  else if f.allowReconstruct then
    code ∈ [CMD_INIT_INTERFACE,CMD_GET_MAC,CMD_DEINIT_INTERFACE,CMD_RAW_TP_ESP_TO_HOST,
      CMD_RAW_TP_HOST_TO_ESP,CMD_RAW_TP_BIDIRECTIONAL] ++ otaCodes
  else if f.cleanupInProgress then code = CMD_DEINIT_INTERFACE ∧ f.allowDeinit
  else true

def espCmdTimeoutIsCommitAmbiguous (code : UInt8) : Bool :=
  code ∈ [CMD_INIT_INTERFACE,CMD_DEINIT_INTERFACE,CMD_SET_MAC,CMD_SCAN_REQUEST,CMD_STA_CONNECT,
    CMD_DISCONNECT,CMD_ADD_KEY,CMD_DEL_KEY,CMD_SET_DEFAULT_KEY,CMD_STA_AUTH,CMD_STA_ASSOC,
    CMD_STA_SET_AUTHORIZED,CMD_SET_IP_ADDR,CMD_SET_MCAST_MAC_ADDR,CMD_SET_TXPOWER,
    CMD_SET_REG_DOMAIN,CMD_RAW_TP_ESP_TO_HOST,CMD_RAW_TP_HOST_TO_ESP,CMD_RAW_TP_BIDIRECTIONAL,
    CMD_SET_WOW_CONFIG,CMD_SET_MODE,CMD_SET_IE,CMD_AP_CONFIG,CMD_MGMT_TX,CMD_AP_STATION,
    CMD_SET_TIME,CMD_SET_RADIO_SERVICE,CMD_MONITOR_CONFIG] ++ otaCodes

/-- `struct command_node`. The last two fields only record what happened since the node
was taken. -/
structure Node where
  cmdCode : UInt8 := 0
  cmdSeq : UInt16 := 0
  /-- `cmd_skb` is set. -/
  cmdSkb : Bool := false
  respSkb : Option Bytes := none
  inPendingQueue : Bool := false
  inUse : Bool := false
  completed : Bool := false
  result : Int := 0
  sentAt : Nat := 0
  /-- How often `completed` was set. -/
  completions : Nat := 0
  /-- `queue_cmd_node` was called. -/
  queued : Bool := false
  deriving DecidableEq, Repr

def Node.complete (nd : Node) (result : Int) : Node :=
  {nd with result := result, completed := true, completions := nd.completions+1}

/-- Where a caller stands. `kick` is whether it came through `wait_and_decode_cmd_resp`. -/
inductive Pc where
  | idle
  /-- `get_free_cmd_node` has a node and no `cmd_skb` yet. -/
  | taken (n : NodeId) (code : UInt8) (len : Nat)
  | allocated (n : NodeId) (code : UInt8) (len : Nat)
  /-- `prepare_command_request` has returned the node. -/
  | ready (n : NodeId)
  | waiting (n : NodeId)
  /-- The timeout asks for a firmware reset. -/
  | quarantine (n : NodeId)
  /-- `esp_cmd_wait_event_guard` has returned, with a positive value if `ok`. -/
  | woken (n : NodeId) (ok : Bool)
  | settled (n : NodeId) (ret : Int)
  | recycle (n : NodeId) (kick : Bool)
  | putBack (n : NodeId) (wasInUse kick : Bool)
  | retire (wasInUse kick : Bool)
  | kick
  deriving DecidableEq, Repr

def Pc.node : Pc → Option NodeId
  | .taken n _ _ => some n
  | .allocated n _ _ => some n
  | .ready n => some n
  | .waiting n => some n
  | .quarantine n => some n
  | .woken n _ => some n
  | .settled n _ => some n
  | .recycle n _ => some n
  | .putBack n _ _ => some n
  | _ => none

/-- A node on its way to the free queue, as `recycle_cmd_node` found it. -/
structure Recycled where
  node : NodeId
  pending : Bool
  current : Bool
  queued : Bool
  completions : Nat
  deriving DecidableEq, Repr

structure Engine where
  flags : Flags := {}
  nodes : NodeId → Node := fun _ => {}
  free : List NodeId := List.finRange ESP_NUM_OF_CMD_NODES
  pending : List NodeId := []
  cur : Option NodeId := none
  nodesInUse : Int := 0
  nextSeq : UInt16 := 0
  /-- `cmd_work` is queued. -/
  workQueued : Bool := false
  pc : Nat → Pc := fun _ => .idle
  /-- How often a firmware reset was scheduled. -/
  resets : Nat := 0
  takes : NodeId → Nat := fun _ => 0
  puts : NodeId → Nat := fun _ => 0
  /-- Callers whose node is free again and still counted in `cmd_nodes_in_use`. -/
  owing : List Nat := []
  recycled : List Recycled := []

def Engine.setPc (s : Engine) (t : Nat) (pc : Pc) : Engine := {s with pc := Function.update s.pc t pc}

def Engine.modify (s : Engine) (n : NodeId) (f : Node → Node) : Engine :=
  {s with nodes := Function.update s.nodes n (f (s.nodes n))}

/-- `list_del_init` on the pending queue. -/
def Engine.unlink (s : Engine) (n : NodeId) : Engine :=
  Engine.modify {s with pending := s.pending.erase n} n fun nd => {nd with inPendingQueue := false}

/-- `esp_schedule_fw_reset_recovery` and `esp_request_firmware_restart`. -/
def Engine.scheduleReset (s : Engine) : Engine :=
  {s with flags := {s.flags with resetExpected := true}, resets := s.resets+1}

/-- `prepare_command_request_for_if` up to the end of the locked part of
`get_free_cmd_node`. -/
def getFreeCmdNode (s : Engine) (t : Nat) (code : UInt8) (len : Nat) : Engine :=
  if code = 0 ∨ CMD_MAX ≤ code ∨ s.flags.cmdInitDone = false ∨ espCmdIsAdmitted s.flags code = false ∨
      (s.flags.otaInProgress ∧ code ∉ otaCodes) then s
  else
    match s.free with
    | [] => s
    | n :: free =>
      Engine.setPc (Engine.modify {s with
        free := free
        nodesInUse := s.nodesInUse+1
        takes := Function.update s.takes n (s.takes n+1)} n
          fun nd => {nd with inPendingQueue := false, inUse := true}) t (.taken n code len)

/-- Zero is skipped. -/
def nextCmdSeq (seq : UInt16) : UInt16 := if seq+1 = 0 then 1 else seq+1

/-- The rest of `prepare_command_request_for_if`; `size_t` has `2^64` values. -/
def prepareCommandRequest (s : Engine) (t : Nat) (n : NodeId) (code : UInt8) (len tailroom : Nat) : Engine :=
  let s := Engine.modify {s with nextSeq := nextCmdSeq s.nextSeq} n fun nd =>
    {nd with cmdCode := code, cmdSeq := nextCmdSeq s.nextSeq, completed := false, result := 0}
  if 2^64 ≤ len+headerSize ∨ ESP_SIZE_OF_CMD_NODE < len+headerSize ∨ tailroom < len+headerSize then
    s.setPc t (.recycle n false)
  else s.setPc t (.ready n)

/-- `cmd_monitor_config` recycles the node when it is rejected; all others go on to wait. -/
def queueCmdNode (s : Engine) (t : Nat) (n : NodeId) (highPrio waits : Bool) : Engine :=
  if espCmdIsAdmitted s.flags (s.nodes n).cmdCode = false then
    Engine.setPc (s.modify n fun nd => Node.complete {nd with queued := true} (-ESHUTDOWN)) t
      (if waits then .waiting n else .recycle n false)
  else
    Engine.setPc (Engine.modify {s with
      pending := if highPrio then n :: s.pending else s.pending ++ [n]
      workQueued := true} n fun nd => {nd with queued := true, inPendingQueue := true}) t (.waiting n)

/-- `esp_cmd_wait_event_guard` after its wait has timed out. -/
def espCmdWaitEventGuard (s : Engine) (t : Nat) (n : NodeId) : Engine :=
  let nd := s.nodes n
  let f := s.flags
  if nd.completed then s.setPc t (.woken n true)
  else
    let s := if nd.inPendingQueue then (s.unlink n).modify n (Node.complete · (-ETIMEDOUT)) else s
    let restart := nd.sentAt ≠ 0 ∧ espCmdTimeoutIsCommitAmbiguous nd.cmdCode ∧ f.driverUnloading = false ∧
      f.transportRemoving = false ∧ f.allowReconstruct = false ∧ f.resetExpected = false
    s.setPc t (if restart then .quarantine n else .woken n false)

/-- The locked part of `wait_and_decode_cmd_resp`. -/
def waitAndDecodeCmdResp (s : Engine) (t : Nat) (n : NodeId) (ok : Bool) : Engine :=
  let nd := s.nodes n
  let s := if s.cur = some n then {s with cur := none} else s
  if ok ∨ nd.completed then s.setPc t (.settled n nd.result)
  else
    let s := if nd.inPendingQueue then s.unlink n else s
    (s.modify n (Node.complete · (-ETIMEDOUT))).setPc t (.settled n (-ETIMEDOUT))

/-- The rest of it, up to `recycle_cmd_node`. -/
def decode (s : Engine) (t : Nat) (n : NodeId) (ret : Int) : Engine :=
  let f := s.flags
  let restart := ret = -ETIMEDOUT ∧ (s.nodes n).sentAt ≠ 0 ∧
    espCmdTimeoutIsCommitAmbiguous (s.nodes n).cmdCode ∧ f.driverUnloading = false ∧
    f.transportRemoving = false ∧ f.otaInProgress = false ∧ f.allowReconstruct = false ∧
    f.resetExpected = false
  Engine.setPc (if restart then s.scheduleReset else s) t (.recycle n true)

/-- `reset_cmd_node` and `in_use = false`. -/
def resetCmdNode (s : Engine) (t : Nat) (n : NodeId) (kick : Bool) : Engine :=
  let nd := s.nodes n
  let r : Recycled :=
    {node := n, pending := decide (n ∈ s.pending), current := decide (s.cur = some n)
     queued := nd.queued, completions := nd.completions}
  let s := {s with recycled := s.recycled ++ [r]}
  let s := if nd.inPendingQueue then s.unlink n else s
  (s.modify n fun _ => {}).setPc t (.putBack n nd.inUse kick)

def espCmdWork (s : Engine) (jiffies : Nat) (sent : Int) : Engine :=
  let f := s.flags
  let s := {s with workQueued := false}
  if f.driverActive = false then s
  else if f.cmdInitDone = false ∨ f.transportRemoving ∨ (f.driverUnloading ∧ f.allowDeinit = false) ∨
      (f.cleanupInProgress ∧ f.allowDeinit = false ∧ f.allowReconstruct = false) then s
  else if s.cur.isSome then s
  else
    match s.pending with
    | [] => s
    | n :: _ =>
      let nd := s.nodes n
      let s := s.unlink n
      if espCmdIsAdmitted f nd.cmdCode = false then s.modify n (Node.complete · (-ESHUTDOWN))
      else if nd.cmdSkb = false ∨ nd.cmdCode = 0 then s.modify n (Node.complete · (-EINVAL))
      else
        let s := Engine.modify {s with cur := some n} n fun nd => {nd with sentAt := jiffies, cmdSkb := false}
        if sent ≠ 0 then s.modify n (Node.complete · sent) else s

def respCode (skb : Bytes) : UInt8 := skb.getD 0 0
def respLen (skb : Bytes) : Nat := le16ToCpu (skb.getD 2 0) (skb.getD 3 0)
def respSeq (skb : Bytes) : UInt16 := UInt16.ofNat (le16ToCpu (skb.getD 4 0) (skb.getD 5 0))

def processCmdResp (s : Engine) (skb : Bytes) : Engine :=
  if s.flags.cmdInitDone = false then s
  else if skb.length < commandHeaderSize then s
  else if skb.length-commandHeaderSize < respLen skb then s
  else
    match s.cur with
    | none => s
    | some n =>
      if respCode skb ≠ (s.nodes n).cmdCode ∨ respSeq skb ≠ (s.nodes n).cmdSeq then s
      else if (s.nodes n).completed ∨ (s.nodes n).respSkb.isSome then s
      else s.modify n fun nd => Node.complete {nd with respSkb := some skb} 0

def espCmdTransportFailed (s : Engine) (code : UInt8) (seq : UInt16) (error : Int) : Engine :=
  match s.cur with
  | none => s
  | some n =>
    if (s.nodes n).cmdCode ≠ code ∨ (s.nodes n).cmdSeq ≠ seq then s
    else if (s.nodes n).completed ∨ (s.nodes n).respSkb.isSome then s
    else s.modify n (Node.complete · (if error ≠ 0 then error else - EIO))

/-- The loop over the pending queue in `esp_cmd_abort_waiters`. -/
def abortPending (s : Engine) : List NodeId → Engine
  | [] => s
  | n :: q => abortPending ((s.unlink n).modify n (Node.complete · (-ESHUTDOWN))) q

def espCmdAbortWaiters (s : Engine) : Engine :=
  let s := s.cur.elim s fun n =>
    if (s.nodes n).completed = false then s.modify n (Node.complete · (-ESHUTDOWN)) else s
  abortPending s s.pending

inductive Action where
  /-- Other code changes `state_flags`. -/
  | setFlags (f : Flags)
  | request (t : Nat) (code : UInt8) (len : Nat)
  /-- `esp_if_alloc_skb` -/
  | alloc (t : Nat) (ok : Bool)
  | prepare (t tailroom : Nat)
  /-- The caller finds, before it queues the command, that it cannot go on. -/
  | abandon (t : Nat)
  | queue (t : Nat) (highPrio waits : Bool)
  /-- The wait of a caller ends because the command is completed, or by its timeout. -/
  | wake (t : Nat)
  | expire (t : Nat)
  /-- The next step of a caller that does not wait. -/
  | advance (t : Nat)
  | work (jiffies : Nat) (sent : Int)
  | response (skb : Bytes)
  | transportFailed (code : UInt8) (seq : UInt16) (error : Int)
  | abortWaiters
  deriving DecidableEq, Repr

def advance (s : Engine) (t : Nat) : Option Engine :=
  match s.pc t with
  | .quarantine n => some (s.scheduleReset.setPc t (.woken n false))
  | .woken n ok => some (waitAndDecodeCmdResp s t n ok)
  | .settled n ret => some (decode s t n ret)
  | .recycle n kick => some (resetCmdNode s t n kick)
  | .putBack n wasInUse kick =>
    some (Engine.setPc {s with
      free := s.free ++ [n]
      puts := Function.update s.puts n (s.puts n+1)
      owing := if wasInUse then t :: s.owing else s.owing} t (.retire wasInUse kick))
  | .retire wasInUse kick =>
    some (Engine.setPc {s with
      nodesInUse := if wasInUse then s.nodesInUse-1 else s.nodesInUse
      owing := s.owing.erase t} t (if kick then .kick else .idle))
  | .kick => some (Engine.setPc {s with workQueued := s.workQueued || s.flags.cmdInitDone} t .idle)
  | _ => none

def step (s : Engine) : Action → Option Engine
  | .setFlags f => some {s with flags := f}
  | .request t code len => if s.pc t = .idle then some (getFreeCmdNode s t code len) else none
  | .alloc t ok =>
    match s.pc t with
    | .taken n code len =>
      if ok then some ((s.modify n fun nd => {nd with cmdSkb := true}).setPc t (.allocated n code len))
      else some (s.setPc t (.recycle n false))
    | _ => none
  | .prepare t tailroom =>
    match s.pc t with
    | .allocated n code len => some (prepareCommandRequest s t n code len tailroom)
    | _ => none
  | .abandon t =>
    match s.pc t with
    | .ready n => some (s.setPc t (.recycle n false))
    | _ => none
  | .queue t highPrio waits =>
    match s.pc t with
    | .ready n => some (queueCmdNode s t n highPrio waits)
    | _ => none
  | .wake t =>
    match s.pc t with
    | .waiting n => if (s.nodes n).completed then some (s.setPc t (.woken n true)) else none
    | _ => none
  | .expire t =>
    match s.pc t with
    | .waiting n => some (espCmdWaitEventGuard s t n)
    | _ => none
  | .advance t => advance s t
  | .work jiffies sent => some (espCmdWork s jiffies sent)
  | .response skb => some (processCmdResp s skb)
  | .transportFailed code seq error => some (espCmdTransportFailed s code seq error)
  | .abortWaiters => some (espCmdAbortWaiters s)

end EspHosted.Cmd
