import EspHosted.Lib.Run
import EspHosted.Wire
import Mathlib.Data.UInt
import Mathlib.Order.Basic

/-!
The secondary radios in the firmware: `esp_radio_service_apply` of `app_main.c` and what it starts in `slave_bt.c`,
`esp_rcp.c` and `esp_rcp_openthread.c`. What the calls of IDF return is given with the step.
-/

set_option autoImplicit false

namespace EspHosted.Backends
open Run

def ESP_RADIO_SERVICE_MASK : UInt8 := 3
def ESP_RADIO_SERVICE_F_RESTART_REQUIRED : UInt8 := 1

inductive Err where
  | ok
  | invalidArg
  | notSupported
  | noMem
  | fail
  deriving DecidableEq, Repr

/-! Bluetooth. -/

/-- `esp_bt_controller_status_t` -/
inductive Controller where
  | idle
  | inited
  | enabled
  deriving DecidableEq, Repr

structure BtIo where
  init : Bool := true
  enable : Bool := true
  register : Bool := true
  sem : Bool := true
  disable : Bool := true
  deinit : Bool := true
  deriving DecidableEq, Repr

/-- `vhciSendSem` is that the semaphore exists and whether it can be taken, `lost` that the controller has not
been given back where it should. -/
structure Bt where
  controller : Controller := .idle
  vhciSendSem : Option Bool := none
  lost : Bool := false
  deriving DecidableEq, Repr

/-- The calls work in one state of the controller only, and may fail there. -/
def espBtControllerInit (ok : Bool) (b : Bt) : Bt × Bool :=
  if b.controller = .idle ∧ ok then ({b with controller := .inited},true) else (b,false)

def espBtControllerEnable (ok : Bool) (b : Bt) : Bt × Bool :=
  if b.controller = .inited ∧ ok then ({b with controller := .enabled},true) else (b,false)

def espBtControllerDisable (ok : Bool) (b : Bt) : Bt :=
  if b.controller = .enabled ∧ ok then {b with controller := .inited} else {b with lost := true}

def espBtControllerDeinit (ok : Bool) (b : Bt) : Bt :=
  if b.controller = .inited ∧ ok then {b with controller := .idle} else {b with lost := true}

def initialiseBluetooth (io : BtIo) (b : Bt) : Bt × Err :=
  let r := espBtControllerInit io.init b
  if r.2 = false then (r.1,.fail)
  else
    let r := espBtControllerEnable io.enable r.1
    if r.2 = false then (espBtControllerDeinit io.deinit r.1,.fail)
    else if io.register = false then (espBtControllerDeinit io.deinit (espBtControllerDisable io.disable r.1),.fail)
    else if io.sem = false then
      ({espBtControllerDeinit io.deinit (espBtControllerDisable io.disable r.1) with vhciSendSem := none},.noMem)
    else ({r.1 with vhciSendSem := some true},.ok)

/-- With that it waits for ever. -/
def deinitializeBluetooth (io : BtIo) (b : Bt) : Bt × Bool :=
  if b.vhciSendSem = some false then (b,true)
  else (espBtControllerDeinit io.deinit (espBtControllerDisable io.disable {b with vhciSendSem := none}),false)

/-! The RCP. -/

/-- `nonce` is the first number of `esp_random` that is not zero, `sends` the chunks that OpenThread writes while
it starts. -/
structure RcpIo where
  fatalTask : Bool := true
  rxQueue : Bool := true
  txFreeQueue : Bool := true
  prebootTxQueue : Bool := true
  txGateLock : Bool := true
  txPool : Bool := true
  nonce : UInt64 := 1
  nonzero : nonce ≠ 0 := by decide
  eventfd : Bool := true
  startSem : Bool := true
  createTask : Bool := true
  sends : Nat := 0
  openthreadInit : Bool := true
  coexEnable : Bool := true
  deriving DecidableEq, Repr

/-- `txFree` and `preboot` are how many slots are in `s_tx_free_queue` and in `s_preboot_tx_queue`, `otRunning` is
that the task behind `s_ot_task` is there. -/
structure Rcp where
  fatalTask : Bool := false
  fatalPending : Bool := false
  rxQueue : Bool := false
  txFreeQueue : Bool := false
  prebootTxQueue : Bool := false
  txGateLock : Bool := false
  txPool : Bool := false
  txFree : Nat := 0
  preboot : Nat := 0
  bridgeEnabled : Bool := false
  hostReady : Bool := false
  hostSessionReady : Bool := false
  sessionNonce : UInt64 := 0
  rxNotify : Bool := false
  otTask : Bool := false
  otRunning : Bool := false
  startSem : Bool := false
  eventfdRegistered : Bool := false
  /-- `datapath`, and `if_handle->state` is `ACTIVE`. -/
  datapath : Bool := true
  active : Bool := true
  deriving DecidableEq, Repr

def espHostedRcpFatalWorkerInit (io : RcpIo) (r : Rcp) : Rcp × Err :=
  if r.fatalTask then (r,.ok)
  else if io.fatalTask then ({r with fatalTask := true},.ok)
  else (r,.noMem)

def espHostedRcpFatalRestart (r : Rcp) : Rcp :=
  if r.fatalTask ∧ r.fatalPending = false then {r with fatalPending := true, datapath := false, active := false} else r

/-- The slots go into the free queue one by one. -/
def fillFreeQueue : Nat → Rcp → Rcp × Bool
  | 0, r => (r,true)
  | n+1, r => if r.txFree < ESP_HOSTED_RCP_TX_POOL_SIZE then fillFreeQueue n {r with txFree := r.txFree+1} else (r,false)

def reserveTxPool (io : RcpIo) (r : Rcp) : Rcp × Err :=
  if r.txPool then (r,.ok)
  else if io.txPool = false then (r,.noMem)
  else
    let f := fillFreeQueue ESP_HOSTED_RCP_TX_POOL_SIZE {r with txPool := true}
    (f.1,if f.2 then .ok else .fail)

def espHostedRcpInit (io : RcpIo) (r : Rcp) : Rcp × Err :=
  let r := {r with rxQueue := r.rxQueue || io.rxQueue}
  if r.rxQueue = false then (r,.noMem)
  else
    let r := {r with txFreeQueue := r.txFreeQueue || io.txFreeQueue}
    if r.txFreeQueue = false then (r,.noMem)
    else
      let r := {r with prebootTxQueue := r.prebootTxQueue || io.prebootTxQueue}
      if r.prebootTxQueue = false then (r,.noMem)
      else
        let r := {r with txGateLock := r.txGateLock || io.txGateLock}
        if r.txGateLock = false then (r,.noMem)
        else
          let p := reserveTxPool io r
          if p.2 ≠ .ok then p
          else
            let r := {p.1 with sessionNonce := io.nonce, hostReady := false, hostSessionReady := false}
            ({r with bridgeEnabled := true},.ok)

/-- A slot comes back to the free queue, which has room for all of them. -/
def espHostedRcpReleaseTxSlot (r : Rcp) : Rcp :=
  if r.txFree < ESP_HOSTED_RCP_TX_POOL_SIZE then {r with txFree := r.txFree+1} else r

def drainPreboot : Nat → Rcp → Rcp
  | 0, r => r
  | n+1, r => drainPreboot n (espHostedRcpReleaseTxSlot {r with preboot := r.preboot-1})

def espHostedRcpDeinit (r : Rcp) : Rcp :=
  let r := {r with bridgeEnabled := false, hostReady := false, hostSessionReady := false, sessionNonce := 0}
  {drainPreboot r.preboot r with rxNotify := false}

/-- The host is not ready before this request has been answered, so every chunk waits. -/
def startupSends : Nat → Rcp → Rcp
  | 0, r => r
  | n+1, r =>
    if r.txFree = 0 then espHostedRcpFatalRestart r
    else startupSends n {r with txFree := r.txFree-1, preboot := r.preboot+1}

def hostedRcpOtTask (io : RcpIo) (r : Rcp) : Rcp × Err :=
  let r := startupSends io.sends {r with otTask := true, otRunning := true}
  if io.openthreadInit && io.coexEnable then (r,.ok)
  else ({r with rxNotify := false, eventfdRegistered := false, otTask := false, otRunning := false},.fail)

def espHostedRcpOpenthreadStart (io : RcpIo) (r : Rcp) : Rcp × Err :=
  if r.otTask then (r,.ok)
  else if r.eventfdRegistered = false ∧ io.eventfd = false then (r,.fail)
  else if r.startSem = false ∧ io.startSem = false then ({r with eventfdRegistered := false},.noMem)
  else if io.createTask = false then ({r with rxNotify := false, startSem := false, eventfdRegistered := false},.noMem)
  else
    let t := hostedRcpOtTask io {r with eventfdRegistered := true, startSem := true, rxNotify := true}
    ({t.1 with startSem := false},t.2)

/-! The services. -/

/-- What stands behind the stream: `CONFIG_ESP_HOSTED_RCP_OPENTHREAD`, `CONFIG_ESP_HOSTED_RCP_LOOPBACK_TEST`, or
nothing; `none` is a build without `CONFIG_ESP_HOSTED_RCP`. -/
inductive RcpBackend where
  | none
  | unbound
  | loopback
  | openthread
  deriving DecidableEq, Repr

/-- `hci` is a build with `BLUETOOTH_HCI`; `nimble` is `SOC_ESP_NIMBLE_CONTROLLER`. -/
structure Config where
  hci : Bool
  nimble : Bool
  rcp : RcpBackend
  deriving DecidableEq, Repr

structure Fw where
  service : UInt8 := 0
  commandSeen : Bool := false
  bt : Bt := {}
  rcp : Rcp := {}
  /-- It waits for a semaphore that nobody gives. -/
  stuck : Bool := false
  deriving DecidableEq, Repr

def Fw.has (s : Fw) (bit : UInt8) : Bool := s.service &&& bit != 0

def startBt (c : Config) (io : BtIo) (s : Fw) : Fw × Err :=
  if c.hci = false then (s,.notSupported)
  else
    let b := initialiseBluetooth io s.bt
    if b.2 = .ok then ({s with bt := b.1, service := s.service ||| ESP_RADIO_SERVICE_BT},.ok)
    else ({s with bt := b.1},b.2)

def bindBackend (c : Config) (io : RcpIo) (r : Rcp) : Rcp × Err :=
  match c.rcp with
  | .openthread =>
    let t := espHostedRcpOpenthreadStart io r
    if t.2 = .ok then t else (espHostedRcpDeinit t.1,t.2)
  | .loopback => (r,.ok)
  | .unbound | .none => (espHostedRcpDeinit r,.notSupported)

def startRcp (c : Config) (io : RcpIo) (s : Fw) : Fw × Err :=
  if c.rcp = .none then (s,.notSupported)
  else
    let w := espHostedRcpFatalWorkerInit io s.rcp
    if w.2 ≠ .ok then ({s with rcp := w.1},w.2)
    else
      let i := espHostedRcpInit io w.1
      if i.2 ≠ .ok then ({s with rcp := i.1},i.2)
      else
        let t := bindBackend c io i.1
        if t.2 ≠ .ok then ({s with rcp := t.1},t.2)
        else ({s with rcp := t.1, service := s.service ||| ESP_RADIO_SERVICE_IEEE802154},.ok)

/-- The label `rollback_bt`. -/
def rollbackBt (startedNow : Bool) (io : BtIo) (s : Fw) : Fw :=
  if startedNow then
    let d := deinitializeBluetooth io s.bt
    {s with bt := d.1, stuck := s.stuck || d.2, service := s.service &&& ~~~ESP_RADIO_SERVICE_BT}
  else s

structure Applied where
  ret : Err
  active : UInt8 := 0
  flags : UInt8 := 0
  nonce : UInt64 := 0
  deriving DecidableEq, Repr

def espRadioServiceSnapshot (s : Fw) (ret : Err) (flags : UInt8) : Applied where
  ret := ret
  active := s.service
  flags := flags
  nonce := if s.has ESP_RADIO_SERVICE_IEEE802154 then s.rcp.sessionNonce else 0

/-- The services in `add` are started one after the other. -/
def addServices (c : Config) (bt : BtIo) (rcp : RcpIo) (add : UInt8) (s : Fw) : Fw × Err :=
  let addBt := add &&& ESP_RADIO_SERVICE_BT != 0
  let b := if addBt then startBt c bt s else (s,.ok)
  if b.2 ≠ .ok then b
  else if add &&& ESP_RADIO_SERVICE_IEEE802154 = 0 then b
  else
    let r := startRcp c rcp b.1
    if r.2 ≠ .ok then (rollbackBt addBt bt r.1,r.2) else r

def espRadioServiceApply (c : Config) (bt : BtIo) (rcp : RcpIo) (requested : UInt8) (s : Fw) : Fw × Applied :=
  if requested &&& ~~~ESP_RADIO_SERVICE_MASK ≠ 0 then (s,{ret := .invalidArg})
  else
    let s := {s with commandSeen := true}
    if requested = s.service then (s,espRadioServiceSnapshot s .ok 0)
    else if s.service &&& ~~~requested ≠ 0 then (s,espRadioServiceSnapshot s .ok ESP_RADIO_SERVICE_F_RESTART_REQUIRED)
    else
      let r := addServices c bt rcp (requested &&& ~~~s.service) s
      (r.1,espRadioServiceSnapshot r.1 r.2 0)

/-! What else touches them. -/

/-- The branch of `process_rx_pkt` for `ESP_HCI_IF`: a host that knows no services gets the controller at its first
packet. -/
def startLegacyBt (io : BtIo) (s : Fw) : Fw :=
  if s.has ESP_RADIO_SERVICE_BT = false ∧ s.commandSeen = false then
    let b := initialiseBluetooth io s.bt
    {s with bt := b.1, service := if b.2 = .ok then s.service ||| ESP_RADIO_SERVICE_BT else s.service}
  else s

/-- Whether `esp_vhci_host_send_packet` is called. -/
inductive HciOutcome where
  | sent
  | dropped
  /-- `esp_restart`: the controller does not take packets any more. -/
  | restart
  deriving DecidableEq, Repr

def processHciRxPkt (c : Config) (inTime : Bool) (s : Fw) : Fw × HciOutcome :=
  if c.nimble then (s,.sent)
  else
    match s.bt.vhciSendSem with
    | none => (s,.dropped)
    | some free => if free || inTime then ({s with bt := {s.bt with vhciSendSem := some false}},.sent) else ({},.restart)

inductive Action where
  | setRadioService (requested : UInt8) (bt : BtIo) (rcp : RcpIo)
  /-- A packet of the host for the controller; `inTime` is that the semaphore is given while it waits. -/
  | hciPacket (bt : BtIo) (inTime : Bool)
  /-- `controller_rcv_pkt_ready` -/
  | packetReady
  /-- A loss that `esp_hosted_rcp_fatal_restart` is called for. -/
  | rcpLost
  /-- `esp_openthread_launch_mainloop` returns. -/
  | mainloopExits
  /-- `esp_hosted_rcp_fatal_restart_task` -/
  | fatalWorker
  deriving DecidableEq, Repr

def step (c : Config) (s : Fw) : Action → Option Fw
  | .setRadioService requested bt rcp =>
    if s.stuck then none else some (espRadioServiceApply c bt rcp requested s).1
  | .hciPacket bt inTime =>
    if s.stuck ∨ c.hci = false then none
    else
      let s := startLegacyBt bt s
      if s.has ESP_RADIO_SERVICE_BT then some (processHciRxPkt c inTime s).1 else some s
  | .packetReady => some {s with bt := {s.bt with vhciSendSem := s.bt.vhciSendSem.map fun _ => true}}
  | .rcpLost => if s.rcp.bridgeEnabled then some {s with rcp := espHostedRcpFatalRestart s.rcp} else none
  | .mainloopExits =>
    if s.rcp.otRunning then
      some {s with rcp := espHostedRcpFatalRestart {s.rcp with rxNotify := false, otRunning := false}}
    else none
  | .fatalWorker => if s.rcp.fatalPending then some {} else none

/-! Bluetooth is off or on, whatever fails. -/

def Bt.Off (b : Bt) : Prop := b.vhciSendSem = none ∧ (b.lost = false → b.controller = .idle)

def Bt.On (b : Bt) : Prop := b.vhciSendSem.isSome ∧ b.controller = .enabled

theorem giveBack_off (io : BtIo) {b : Bt} (h : b.vhciSendSem = none) :
    (espBtControllerDeinit io.deinit (espBtControllerDisable io.disable b)).Off := by
  unfold espBtControllerDisable espBtControllerDeinit
  split
  · split <;> simp_all [Bt.Off]
  · split <;> simp_all [Bt.Off]

theorem initialiseBluetooth_spec (io : BtIo) {b : Bt} (h : b.Off) :
    ((initialiseBluetooth io b).2 = .ok ∧ (initialiseBluetooth io b).1.controller = .enabled ∧
      (initialiseBluetooth io b).1.vhciSendSem = some true) ∨
    ((initialiseBluetooth io b).2 ≠ .ok ∧ (initialiseBluetooth io b).1.Off) := by
  obtain ⟨hsem,hidle⟩ := h
  have hback := giveBack_off io (b := {b with controller := .enabled}) hsem
  unfold initialiseBluetooth espBtControllerInit
  by_cases hi : b.controller = .idle ∧ io.init
  · by_cases he : io.enable
    · by_cases hr : io.register
      · by_cases hm : io.sem
        · simp [hi,he,hr,hm,espBtControllerEnable]
        · right
          simp only [hi,he,hr,hm,espBtControllerEnable,and_self,if_true]
          exact ⟨by simp,rfl,hback.2⟩
      · right
        simp only [hi,he,hr,espBtControllerEnable,and_self,if_true]
        exact ⟨by simp,hback⟩
    · right
      cases io.deinit <;> simp [hi,he,espBtControllerEnable,espBtControllerDeinit,Bt.Off,hsem]
  · right
    rw [if_neg hi]
    exact ⟨by simp,hsem,hidle⟩

theorem deinitializeBluetooth_spec (io : BtIo) {b : Bt} (h : b.vhciSendSem = some true) :
    (deinitializeBluetooth io b).2 = false ∧ (deinitializeBluetooth io b).1.Off := by
  simp only [deinitializeBluetooth,h]
  exact ⟨by simp,giveBack_off io rfl⟩

/-! The RCP is down or up. -/

/-- The slots are all in the free queue, if there are any. -/
def Rcp.slots (r : Rcp) : Nat := if r.txPool then ESP_HOSTED_RCP_TX_POOL_SIZE else 0

structure Rcp.Down (r : Rcp) : Prop where
  bridge : r.bridgeEnabled = false
  nonce : r.sessionNonce = 0
  ready : r.hostReady = false ∧ r.hostSessionReady = false
  notify : r.rxNotify = false
  task : r.otTask = false ∧ r.otRunning = false
  sem : r.startSem = false
  eventfd : r.eventfdRegistered = false
  preboot : r.preboot = 0
  free : r.txFree = r.slots

/-- OpenThread runs, unless the firmware is about to restart. -/
structure Rcp.Up (c : Config) (r : Rcp) : Prop where
  bridge : r.bridgeEnabled = true
  nonce : r.sessionNonce ≠ 0
  worker : r.fatalTask = true
  sem : r.startSem = false
  running : c.rcp = .openthread → r.fatalPending = true ∨ (r.otRunning = true ∧ r.rxNotify = true ∧ r.eventfdRegistered = true)

/-- The bridge is enabled and nothing is bound to it. -/
structure Rcp.Bridged (r : Rcp) : Prop where
  bridge : r.bridgeEnabled = true
  nonce : r.sessionNonce ≠ 0
  worker : r.fatalTask = true
  ready : r.hostReady = false ∧ r.hostSessionReady = false
  notify : r.rxNotify = false
  task : r.otTask = false ∧ r.otRunning = false
  sem : r.startSem = false
  eventfd : r.eventfdRegistered = false
  slots : r.txFree+r.preboot = r.slots

theorem fillFreeQueue_spec (n : Nat) (r : Rcp) (h : r.txFree+n ≤ ESP_HOSTED_RCP_TX_POOL_SIZE) :
    fillFreeQueue n r = ({r with txFree := r.txFree+n},true) := by
  induction n generalizing r with
  | zero => rfl
  | succ n ih =>
    rw [fillFreeQueue,if_pos (by omega),ih _ (by simp; omega)]
    simp [Nat.add_assoc,Nat.add_comm 1 n]

theorem reserveTxPool_spec (io : RcpIo) {r : Rcp} (h : r.Down) :
    (reserveTxPool io r).1.Down ∧ ((reserveTxPool io r).2 = .ok ∨ (reserveTxPool io r).2 ≠ .ok ∧ io.txPool = false) ∧
      (reserveTxPool io r).1.fatalTask = r.fatalTask := by
  unfold reserveTxPool
  by_cases hp : r.txPool
  · simp [hp,h]
  · by_cases hi : io.txPool
    · have hzero : r.txFree = 0 := by simpa [Rcp.slots,hp] using h.free
      rw [if_neg hp,if_neg (by simp [hi]),fillFreeQueue_spec _ _ (by simp [hzero])]
      exact ⟨{h with free := by simp [Rcp.slots,hzero]},.inl rfl,rfl⟩
    · simp [hp,hi,h]

def RcpIo.fine (io : RcpIo) : Prop :=
  io.fatalTask ∧ io.rxQueue ∧ io.txFreeQueue ∧ io.prebootTxQueue ∧ io.txGateLock ∧ io.txPool ∧ io.eventfd ∧
    io.startSem ∧ io.createTask ∧ io.openthreadInit ∧ io.coexEnable

theorem espHostedRcpInit_spec (io : RcpIo) {r : Rcp} (h : r.Down) (hw : r.fatalTask = true) :
    ((espHostedRcpInit io r).2 = .ok ∧ (espHostedRcpInit io r).1.Bridged) ∨
    ((espHostedRcpInit io r).2 ≠ .ok ∧ (espHostedRcpInit io r).1.Down ∧ ¬io.fine) := by
  have hqueues : ∀ a b d e : Bool, ({r with rxQueue := a, txFreeQueue := b, prebootTxQueue := d, txGateLock := e} : Rcp).Down :=
    fun _ _ _ _ => ⟨h.bridge,h.nonce,h.ready,h.notify,h.task,h.sem,h.eventfd,h.preboot,h.free⟩
  unfold espHostedRcpInit
  dsimp only
  split
  · rename_i hq
    simp only [Bool.or_eq_false_iff] at hq
    exact .inr ⟨by simp,hqueues _ _ _ _,by simp [RcpIo.fine,hq]⟩
  split
  · rename_i hq
    simp only [Bool.or_eq_false_iff] at hq
    exact .inr ⟨by simp,hqueues _ _ _ _,by simp [RcpIo.fine,hq]⟩
  split
  · rename_i hq
    simp only [Bool.or_eq_false_iff] at hq
    exact .inr ⟨by simp,hqueues _ _ _ _,by simp [RcpIo.fine,hq]⟩
  split
  · rename_i hq
    simp only [Bool.or_eq_false_iff] at hq
    exact .inr ⟨by simp,hqueues _ _ _ _,by simp [RcpIo.fine,hq]⟩
  obtain ⟨hdown,hok,hfatal⟩ := reserveTxPool_spec io (hqueues (r.rxQueue || io.rxQueue) (r.txFreeQueue || io.txFreeQueue)
    (r.prebootTxQueue || io.prebootTxQueue) (r.txGateLock || io.txGateLock))
  obtain hok | ⟨hno,hpool⟩ := hok
  · rw [if_neg (by simp [hok])]
    exact .inl ⟨rfl,⟨rfl,io.nonzero,hfatal.trans hw,⟨rfl,rfl⟩,hdown.notify,hdown.task,hdown.sem,hdown.eventfd,
      (congrArg (_+·) hdown.preboot).trans hdown.free⟩⟩
  · rw [if_pos hno]
    exact .inr ⟨hno,hdown,by simp [RcpIo.fine,hpool]⟩

theorem drainPreboot_spec (n : Nat) (r : Rcp) (h : r.txFree+n ≤ ESP_HOSTED_RCP_TX_POOL_SIZE) :
    drainPreboot n r = {r with txFree := r.txFree+n, preboot := r.preboot-n} := by
  induction n generalizing r with
  | zero => rfl
  | succ n ih =>
    have hrelease : espHostedRcpReleaseTxSlot {r with preboot := r.preboot-1} =
        {r with txFree := r.txFree+1, preboot := r.preboot-1} := by
      simp [espHostedRcpReleaseTxSlot]
      omega
    rw [drainPreboot,hrelease,ih _ (by simp; omega)]
    simp [Nat.add_assoc,Nat.add_comm 1 n,Nat.sub_sub]

theorem Rcp.slots_le (r : Rcp) : r.slots ≤ ESP_HOSTED_RCP_TX_POOL_SIZE := by
  unfold Rcp.slots
  split <;> simp

/-- Taking the bridge down gives every slot back. -/
theorem espHostedRcpDeinit_down {r : Rcp} (h : r.Bridged) : (espHostedRcpDeinit r).Down := by
  have hslots := h.slots
  have hroom : r.txFree+r.preboot ≤ ESP_HOSTED_RCP_TX_POOL_SIZE := hslots ▸ r.slots_le
  have hdrain := drainPreboot_spec r.preboot
    {r with bridgeEnabled := false, hostReady := false, hostSessionReady := false, sessionNonce := 0} hroom
  unfold espHostedRcpDeinit
  dsimp only
  rw [hdrain]
  exact ⟨rfl,rfl,⟨rfl,rfl⟩,rfl,h.task,h.sem,h.eventfd,Nat.sub_self _,hslots⟩

/-- Only the slots move, and the firmware may be about to restart. -/
theorem startupSends_spec (n : Nat) (r : Rcp) : ∃ (free waiting : Nat) (fatal datapath active : Bool),
    startupSends n r = {r with txFree := free, preboot := waiting, fatalPending := fatal, datapath := datapath, active := active} ∧
    free+waiting = r.txFree+r.preboot := by
  induction n generalizing r with
  | zero => exact ⟨_,_,_,_,_,rfl,rfl⟩
  | succ n ih =>
    unfold startupSends
    split
    · unfold espHostedRcpFatalRestart
      split
      · exact ⟨_,_,true,false,false,rfl,rfl⟩
      · exact ⟨_,_,_,_,_,rfl,rfl⟩
    · rename_i hfree
      obtain ⟨f,w,x,d,a,heq,hsum⟩ := ih {r with txFree := r.txFree-1, preboot := r.preboot+1}
      refine ⟨f,w,x,d,a,heq,?_⟩
      rw [hsum]
      dsimp only
      omega

theorem espHostedRcpOpenthreadStart_spec (c : Config) (io : RcpIo) {r : Rcp} (h : r.Bridged) :
    ((espHostedRcpOpenthreadStart io r).2 = .ok ∧ (espHostedRcpOpenthreadStart io r).1.Up c) ∨
    ((espHostedRcpOpenthreadStart io r).2 ≠ .ok ∧ (espHostedRcpOpenthreadStart io r).1.Bridged ∧ ¬io.fine) := by
  unfold espHostedRcpOpenthreadStart
  rw [if_neg (by simp [h.task])]
  split
  · rename_i hio
    exact .inr ⟨by simp,h,by simp [RcpIo.fine,hio]⟩
  split
  · rename_i hio
    exact .inr ⟨by simp,{h with eventfd := rfl},by simp [RcpIo.fine,hio]⟩
  split
  · rename_i hio
    exact .inr ⟨by simp,{h with notify := rfl, sem := rfl, eventfd := rfl},by simp [RcpIo.fine,hio]⟩
  obtain ⟨free,waiting,fatal,datapath,active,hsends,hsum⟩ := startupSends_spec io.sends
    {r with eventfdRegistered := true, startSem := true, rxNotify := true, otTask := true, otRunning := true}
  dsimp only [hostedRcpOtTask]
  rw [hsends]
  split
  · exact .inl ⟨rfl,⟨h.bridge,h.nonce,h.worker,rfl,fun _ => .inr ⟨rfl,rfl,rfl⟩⟩⟩
  · rename_i hio
    exact .inr ⟨by simp,⟨h.bridge,h.nonce,h.worker,h.ready,rfl,⟨rfl,rfl⟩,rfl,rfl,hsum.trans h.slots⟩,
      fun hf => hio (by simp [hf.2.2.2.2.2.2.2.2.2])⟩

/-! The mask says what runs. -/

def Bt.Is (b : Bt) (on : Bool) : Prop := if on then b.On else b.Off

def Rcp.Is (c : Config) (r : Rcp) (up : Bool) : Prop := if up then r.Up c else r.Down

/-- A service of the mask runs, one that is not in the mask holds nothing. -/
structure Fw.Matches (c : Config) (s : Fw) : Prop where
  known : s.service &&& ~~~ESP_RADIO_SERVICE_MASK = 0
  bt : s.bt.Is (s.has ESP_RADIO_SERVICE_BT)
  rcp : s.rcp.Is c (s.has ESP_RADIO_SERVICE_IEEE802154)
  runs : s.stuck = false

theorem mask_cases : ∀ m : BitVec 8, m &&& ~~~3#8 = 0 → m = 0 ∨ m = 1 ∨ m = 2 ∨ m = 3 := by decide +kernel

theorem service_cases {m : UInt8} (h : m &&& ~~~ESP_RADIO_SERVICE_MASK = 0) : m = 0 ∨ m = 1 ∨ m = 2 ∨ m = 3 := by
  have hm := mask_cases m.toBitVec (by simpa [ESP_RADIO_SERVICE_MASK] using congrArg UInt8.toBitVec h)
  simpa [← UInt8.toBitVec_inj] using hm

theorem matches_initial (c : Config) : ({} : Fw).Matches c :=
  ⟨rfl,⟨rfl,fun _ => rfl⟩,⟨rfl,rfl,⟨rfl,rfl⟩,rfl,⟨rfl,rfl⟩,rfl,rfl,rfl,rfl⟩,rfl⟩

theorem bits_addBt {m : UInt8} (h : m &&& ~~~ESP_RADIO_SERVICE_MASK = 0) :
    (m ||| ESP_RADIO_SERVICE_BT) &&& ~~~ESP_RADIO_SERVICE_MASK = 0 ∧
    ((m ||| ESP_RADIO_SERVICE_BT) &&& ESP_RADIO_SERVICE_BT != 0) = true ∧
    ((m ||| ESP_RADIO_SERVICE_BT) &&& ESP_RADIO_SERVICE_IEEE802154 != 0) = (m &&& ESP_RADIO_SERVICE_IEEE802154 != 0) := by
  obtain rfl | rfl | rfl | rfl := service_cases h <;> decide

theorem bits_dropBt {m : UInt8} (h : m &&& ~~~ESP_RADIO_SERVICE_MASK = 0) :
    (m &&& ~~~ESP_RADIO_SERVICE_BT) &&& ~~~ESP_RADIO_SERVICE_MASK = 0 ∧
    (m &&& ~~~ESP_RADIO_SERVICE_BT &&& ESP_RADIO_SERVICE_BT != 0) = false ∧
    (m &&& ~~~ESP_RADIO_SERVICE_BT &&& ESP_RADIO_SERVICE_IEEE802154 != 0) = (m &&& ESP_RADIO_SERVICE_IEEE802154 != 0) := by
  obtain rfl | rfl | rfl | rfl := service_cases h <;> decide

theorem bits_addRcp {m : UInt8} (h : m &&& ~~~ESP_RADIO_SERVICE_MASK = 0) :
    (m ||| ESP_RADIO_SERVICE_IEEE802154) &&& ~~~ESP_RADIO_SERVICE_MASK = 0 ∧
    ((m ||| ESP_RADIO_SERVICE_IEEE802154) &&& ESP_RADIO_SERVICE_BT != 0) = (m &&& ESP_RADIO_SERVICE_BT != 0) ∧
    ((m ||| ESP_RADIO_SERVICE_IEEE802154) &&& ESP_RADIO_SERVICE_IEEE802154 != 0) = true := by
  obtain rfl | rfl | rfl | rfl := service_cases h <;> decide

theorem Fw.Matches.addBt {c : Config} {s : Fw} {b : Bt} (h : s.Matches c) (hb : b.On) :
    ({s with bt := b, service := s.service ||| ESP_RADIO_SERVICE_BT} : Fw).Matches c := by
  obtain ⟨hknown,hon,hrcp⟩ := bits_addBt h.known
  refine ⟨hknown,?_,?_,h.runs⟩
  · rw [Fw.has,hon]
    exact hb
  · rw [Fw.has,hrcp]
    exact h.rcp

theorem Fw.Matches.dropBt {c : Config} {s : Fw} {b : Bt} (h : s.Matches c) (hb : b.Off) :
    ({s with bt := b, service := s.service &&& ~~~ESP_RADIO_SERVICE_BT} : Fw).Matches c := by
  obtain ⟨hknown,hoff,hrcp⟩ := bits_dropBt h.known
  refine ⟨hknown,?_,?_,h.runs⟩
  · rw [Fw.has,hoff]
    exact hb
  · rw [Fw.has,hrcp]
    exact h.rcp

theorem Fw.Matches.addRcp {c : Config} {s : Fw} {r : Rcp} (h : s.Matches c) (hr : r.Up c) :
    ({s with rcp := r, service := s.service ||| ESP_RADIO_SERVICE_IEEE802154} : Fw).Matches c := by
  obtain ⟨hknown,hbt,hup⟩ := bits_addRcp h.known
  refine ⟨hknown,?_,?_,h.runs⟩
  · rw [Fw.has,hbt]
    exact h.bt
  · rw [Fw.has,hup]
    exact hr

theorem Fw.Matches.btOff {c : Config} {s : Fw} {b : Bt} (h : s.Matches c) (hoff : s.has ESP_RADIO_SERVICE_BT = false)
    (hb : b.Off) : ({s with bt := b} : Fw).Matches c := by
  refine ⟨h.known,?_,h.rcp,h.runs⟩
  rw [show ({s with bt := b} : Fw).has ESP_RADIO_SERVICE_BT = false from hoff]
  exact hb

theorem Fw.Matches.rcpDown {c : Config} {s : Fw} {r : Rcp} (h : s.Matches c)
    (hoff : s.has ESP_RADIO_SERVICE_IEEE802154 = false) (hr : r.Down) : ({s with rcp := r} : Fw).Matches c := by
  refine ⟨h.known,h.bt,?_,h.runs⟩
  rw [show ({s with rcp := r} : Fw).has ESP_RADIO_SERVICE_IEEE802154 = false from hoff]
  exact hr

/-- What is in `q` and not in `m`. -/
theorem bits_added {m q : UInt8} (hm : m &&& ~~~ESP_RADIO_SERVICE_MASK = 0) (hq : q &&& ~~~ESP_RADIO_SERVICE_MASK = 0)
    (hsub : m &&& ~~~q = 0) :
    (q &&& ~~~m &&& ESP_RADIO_SERVICE_BT ≠ 0 → (m &&& ESP_RADIO_SERVICE_BT != 0) = false ∧ q &&& ESP_RADIO_SERVICE_BT ≠ 0) ∧
    (q &&& ~~~m &&& ESP_RADIO_SERVICE_IEEE802154 ≠ 0 →
      (m &&& ESP_RADIO_SERVICE_IEEE802154 != 0) = false ∧ q &&& ESP_RADIO_SERVICE_IEEE802154 ≠ 0) ∧
    ((if q &&& ~~~m &&& ESP_RADIO_SERVICE_BT ≠ 0 then m ||| ESP_RADIO_SERVICE_BT else m) |||
      (if q &&& ~~~m &&& ESP_RADIO_SERVICE_IEEE802154 ≠ 0 then ESP_RADIO_SERVICE_IEEE802154 else 0)) = q := by
  revert hsub
  obtain rfl | rfl | rfl | rfl := service_cases hm <;> obtain rfl | rfl | rfl | rfl := service_cases hq <;> decide

theorem drop_added {m : UInt8} (h : m &&& ~~~ESP_RADIO_SERVICE_MASK = 0) (hoff : (m &&& ESP_RADIO_SERVICE_BT != 0) = false) :
    (m ||| ESP_RADIO_SERVICE_BT) &&& ~~~ESP_RADIO_SERVICE_BT = m := by
  revert hoff
  obtain rfl | rfl | rfl | rfl := service_cases h <;> decide

def BtIo.fine (io : BtIo) : Prop := io.init ∧ io.enable ∧ io.register ∧ io.sem

theorem startBt_spec (c : Config) (io : BtIo) {s : Fw} (h : s.Matches c) (hoff : s.has ESP_RADIO_SERVICE_BT = false) :
    ((startBt c io s).2 = .ok ∧ ∃ b : Bt, b.vhciSendSem = some true ∧ b.controller = .enabled ∧
      (startBt c io s).1 = {s with bt := b, service := s.service ||| ESP_RADIO_SERVICE_BT}) ∨
    ((startBt c io s).2 ≠ .ok ∧ ¬(c.hci ∧ io.fine ∧ s.bt.lost = false) ∧ ∃ b : Bt, b.Off ∧ (startBt c io s).1 = {s with bt := b}) := by
  have hb : s.bt.Off := by simpa [Bt.Is,hoff] using h.bt
  unfold startBt
  split
  · rename_i hhci
    exact .inr ⟨by simp,by simp [hhci],s.bt,hb,rfl⟩
  obtain ⟨hok,hcontroller,hsem⟩ | ⟨hno,hoff'⟩ := initialiseBluetooth_spec io hb
  · dsimp only
    rw [if_pos hok]
    exact .inl ⟨rfl,_,hsem,hcontroller,rfl⟩
  · dsimp only
    rw [if_neg hno]
    refine .inr ⟨hno,fun hf => hno ?_,_,hoff',rfl⟩
    simp [initialiseBluetooth,espBtControllerInit,espBtControllerEnable,hb.2 hf.2.2,hf.2.1.1,hf.2.1.2.1,hf.2.1.2.2.1,hf.2.1.2.2.2]

def RcpBackend.bound : RcpBackend → Bool
  | .none | .unbound => false
  | .loopback | .openthread => true

theorem bindBackend_spec (c : Config) (io : RcpIo) {r : Rcp} (h : r.Bridged) :
    ((bindBackend c io r).2 = .ok ∧ (bindBackend c io r).1.Up c) ∨
    ((bindBackend c io r).2 ≠ .ok ∧ (bindBackend c io r).1.Down ∧ ¬(c.rcp.bound ∧ io.fine)) := by
  unfold bindBackend
  cases hc : c.rcp with
  | none => exact .inr ⟨by simp,espHostedRcpDeinit_down h,by simp [RcpBackend.bound]⟩
  | unbound => exact .inr ⟨by simp,espHostedRcpDeinit_down h,by simp [RcpBackend.bound]⟩
  | loopback => exact .inl ⟨rfl,⟨h.bridge,h.nonce,h.worker,h.sem,by simp [hc]⟩⟩
  | openthread =>
    obtain ⟨hok,hup⟩ | ⟨hno,hbridged,hfine⟩ := espHostedRcpOpenthreadStart_spec c io h
    · simp only [hok,if_true]
      exact .inl ⟨trivial,hup⟩
    · simp only [if_neg hno]
      exact .inr ⟨hno,espHostedRcpDeinit_down hbridged,fun hf => hfine hf.2⟩

theorem espHostedRcpFatalWorkerInit_spec (io : RcpIo) {r : Rcp} (h : r.Down) :
    (espHostedRcpFatalWorkerInit io r).1.Down ∧
    (((espHostedRcpFatalWorkerInit io r).2 = .ok ∧ (espHostedRcpFatalWorkerInit io r).1.fatalTask = true) ∨
      ((espHostedRcpFatalWorkerInit io r).2 ≠ .ok ∧ io.fatalTask = false)) := by
  unfold espHostedRcpFatalWorkerInit
  split
  · exact ⟨h,.inl ⟨rfl,by assumption⟩⟩
  split
  · exact ⟨⟨h.bridge,h.nonce,h.ready,h.notify,h.task,h.sem,h.eventfd,h.preboot,h.free⟩,.inl ⟨rfl,rfl⟩⟩
  · exact ⟨h,.inr ⟨by simp,by simp_all⟩⟩

theorem startRcp_spec (c : Config) (io : RcpIo) {s : Fw} (h : s.Matches c) (hoff : s.has ESP_RADIO_SERVICE_IEEE802154 = false) :
    ((startRcp c io s).2 = .ok ∧ ∃ r : Rcp, r.Up c ∧
      (startRcp c io s).1 = {s with rcp := r, service := s.service ||| ESP_RADIO_SERVICE_IEEE802154}) ∨
    ((startRcp c io s).2 ≠ .ok ∧ ¬(c.rcp.bound ∧ io.fine) ∧ ∃ r : Rcp, r.Down ∧ (startRcp c io s).1 = {s with rcp := r}) := by
  have hdown : s.rcp.Down := by simpa [Rcp.Is,hoff] using h.rcp
  unfold startRcp
  split
  · rename_i hc
    exact .inr ⟨by simp,by simp [hc,RcpBackend.bound],_,hdown,rfl⟩
  dsimp only
  obtain ⟨hworker,⟨hok,htask⟩ | ⟨hno,hio⟩⟩ := espHostedRcpFatalWorkerInit_spec io hdown
  rotate_left
  · rw [if_pos hno]
    exact .inr ⟨hno,fun hf => absurd hf.2.1 (by simp [hio]),_,hworker,rfl⟩
  rw [if_neg (by simp [hok])]
  obtain ⟨hok,hbridged⟩ | ⟨hno,hdown',hfine⟩ := espHostedRcpInit_spec io hworker htask
  · rw [if_neg (by simp [hok])]
    obtain ⟨hbok,hup⟩ | ⟨hbno,hdown',hbfine⟩ := bindBackend_spec c io hbridged
    · rw [if_neg (by simp [hbok])]
      exact .inl ⟨rfl,_,hup,rfl⟩
    · rw [if_pos hbno]
      exact .inr ⟨hbno,hbfine,_,hdown',rfl⟩
  · rw [if_pos hno]
    exact .inr ⟨hno,fun hf => hfine hf.2,_,hdown',rfl⟩

def Config.supports (c : Config) (requested : UInt8) : Prop :=
  (requested &&& ESP_RADIO_SERVICE_BT ≠ 0 → c.hci = true) ∧
  (requested &&& ESP_RADIO_SERVICE_IEEE802154 ≠ 0 → c.rcp.bound = true)

/-- The services in `add` are built in, and the calls that bring them up succeed; no controller can be had that IDF
has not taken back. -/
structure Possible (c : Config) (bt : BtIo) (rcp : RcpIo) (add : UInt8) (s : Fw) : Prop where
  built : c.supports add
  bt : add &&& ESP_RADIO_SERVICE_BT ≠ 0 → bt.fine ∧ s.bt.lost = false
  rcp : add &&& ESP_RADIO_SERVICE_IEEE802154 ≠ 0 → rcp.fine

theorem addBt_spec (c : Config) (io : BtIo) (on : Bool) {s : Fw} (h : s.Matches c)
    (hon : on = true → s.has ESP_RADIO_SERVICE_BT = false) :
    let b := if on then startBt c io s else (s,.ok)
    b.1.Matches c ∧ b.1.commandSeen = s.commandSeen ∧
    ((b.2 = .ok ∧ b.1.service = (if on then s.service ||| ESP_RADIO_SERVICE_BT else s.service) ∧
        (on = true → b.1.bt.vhciSendSem = some true)) ∨
      (b.2 ≠ .ok ∧ b.1.service = s.service ∧ on = true ∧ ¬(c.hci ∧ io.fine ∧ s.bt.lost = false))) := by
  cases on with
  | false => exact ⟨h,rfl,.inl ⟨rfl,rfl,by simp⟩⟩
  | true =>
    dsimp only
    simp only [if_true]
    obtain ⟨hok,b,hsem,hcontroller,heq⟩ | ⟨hno,hfine,b,hb,heq⟩ := startBt_spec c io h (hon rfl)
    · rw [heq]
      exact ⟨h.addBt ⟨by simp [hsem],hcontroller⟩,rfl,.inl ⟨hok,rfl,fun _ => hsem⟩⟩
    · rw [heq]
      exact ⟨h.btOff (hon rfl) hb,rfl,.inr ⟨hno,rfl,trivial,hfine⟩⟩

theorem rollbackBt_spec (c : Config) (io : BtIo) (on : Bool) {m : UInt8} {s : Fw} (h : s.Matches c)
    (hm : m &&& ~~~ESP_RADIO_SERVICE_MASK = 0) (hoff : on = true → (m &&& ESP_RADIO_SERVICE_BT != 0) = false)
    (hs : s.service = if on then m ||| ESP_RADIO_SERVICE_BT else m) (hsem : on = true → s.bt.vhciSendSem = some true) :
    (rollbackBt on io s).Matches c ∧ (rollbackBt on io s).service = m ∧ (rollbackBt on io s).commandSeen = s.commandSeen := by
  cases on with
  | false => exact ⟨h,hs,rfl⟩
  | true =>
    obtain ⟨hruns,hb⟩ := deinitializeBluetooth_spec io (hsem rfl)
    have hback : s.service &&& ~~~ESP_RADIO_SERVICE_BT = m := by
      rw [hs,if_pos rfl]
      exact drop_added hm (hoff rfl)
    have hdrop := h.dropBt hb
    simp only [rollbackBt,if_true,hruns,h.runs,Bool.or_false]
    rw [← h.runs]
    exact ⟨hdrop,hback,trivial⟩

theorem addServices_spec (c : Config) (bt : BtIo) (rcp : RcpIo) {requested : UInt8} {s : Fw} (h : s.Matches c)
    (hr : requested &&& ~~~ESP_RADIO_SERVICE_MASK = 0) (hsub : s.service &&& ~~~requested = 0) :
    let t := addServices c bt rcp (requested &&& ~~~s.service) s
    t.1.Matches c ∧ t.1.commandSeen = s.commandSeen ∧
    ((t.2 = .ok ∧ t.1.service = requested) ∨
      (t.2 ≠ .ok ∧ t.1.service = s.service ∧ ¬Possible c bt rcp (requested &&& ~~~s.service) s)) := by
  obtain ⟨hbt,hrcp,hsum⟩ := bits_added h.known hr hsub
  obtain ⟨hb,hseen,hcases⟩ := addBt_spec c bt (requested &&& ~~~s.service &&& ESP_RADIO_SERVICE_BT != 0) h
    fun hon => (hbt (by simpa using hon)).1
  dsimp only at hb hseen hcases ⊢
  unfold addServices
  dsimp only
  generalize (if (requested &&& ~~~s.service &&& ESP_RADIO_SERVICE_BT != 0) = true then startBt c bt s else (s,Err.ok)) = b at hb hseen hcases ⊢
  obtain ⟨hok,hservice,hsem⟩ | ⟨hno,hservice,hon,hfine⟩ := hcases
  · rw [if_neg (by simp [hok])]
    have hon : (if (requested &&& ~~~s.service &&& ESP_RADIO_SERVICE_BT != 0) = true then s.service ||| ESP_RADIO_SERVICE_BT
        else s.service) = if requested &&& ~~~s.service &&& ESP_RADIO_SERVICE_BT ≠ 0 then s.service ||| ESP_RADIO_SERVICE_BT
        else s.service := by
      simp
    split
    · rename_i hnone
      rw [← hon,← hservice,if_neg (by simp [hnone]),UInt8.or_zero] at hsum
      exact ⟨hb,hseen,.inl ⟨hok,hsum⟩⟩
    · rename_i hadd
      have hdown : b.1.has ESP_RADIO_SERVICE_IEEE802154 = false := by
        rw [Fw.has,hservice]
        split
        · rw [(bits_addBt h.known).2.2]
          exact (hrcp hadd).1
        · exact (hrcp hadd).1
      rw [← hon,← hservice,if_pos hadd] at hsum
      obtain ⟨hrok,r,hup,heq⟩ | ⟨hrno,hfine,r,hr,heq⟩ := startRcp_spec c rcp hb hdown
      · rw [if_neg (by simp [hrok]),heq]
        exact ⟨hb.addRcp hup,hseen,.inl ⟨hrok,hsum⟩⟩
      · rw [if_pos hrno,heq]
        obtain ⟨hback,hold,hsame⟩ := rollbackBt_spec c bt _ (hb.rcpDown hdown hr) h.known
          (fun hon => (hbt (by simpa using hon)).1) hservice hsem
        exact ⟨hback,hsame.trans hseen,.inr ⟨hrno,hold,fun hf => hfine ⟨hf.built.2 hadd,hf.rcp hadd⟩⟩⟩
  · rw [if_pos hno]
    have hadd : requested &&& ~~~s.service &&& ESP_RADIO_SERVICE_BT ≠ 0 := by simpa using hon
    exact ⟨hb,hseen,.inr ⟨hno,hservice,fun hf => hfine ⟨hf.built.1 hadd,hf.bt hadd⟩⟩⟩

def Known (requested : UInt8) : Prop := requested &&& ~~~ESP_RADIO_SERVICE_MASK = 0

/-- What the host is told of a request in the state `s` that leaves the firmware in `s'`. -/
structure Answered (c : Config) (bt : BtIo) (rcp : RcpIo) (requested : UInt8) (s s' : Fw) (a : Applied) : Prop where
  unknown : ¬Known requested → a.ret = .invalidArg ∧ s' = s
  seen : Known requested → s'.commandSeen = true
  active : Known requested → a.active = s'.service
  nonce : Known requested → (a.nonce ≠ 0 ↔ s'.has ESP_RADIO_SERVICE_IEEE802154 = true)
  /-- A service that runs is not stopped: the host has to restart the firmware. -/
  restart : Known requested → (a.flags ≠ 0 ↔ s.service &&& ~~~requested ≠ 0)
  kept : a.flags ≠ 0 → a.ret = .ok ∧ s' = {s with commandSeen := true}
  done : a.ret = .ok → a.flags = 0 → s'.service = requested
  failed : a.ret ≠ .ok → a.flags = 0 ∧ s'.service = s.service
  possible : Known requested → Possible c bt rcp (requested &&& ~~~s.service) s → a.ret = .ok

theorem snapshot_nonce {c : Config} {s : Fw} (h : s.Matches c) (ret : Err) (flags : UInt8) :
    (espRadioServiceSnapshot s ret flags).nonce ≠ 0 ↔ s.has ESP_RADIO_SERVICE_IEEE802154 = true := by
  have hrcp := h.rcp
  unfold espRadioServiceSnapshot
  cases hs : s.has ESP_RADIO_SERVICE_IEEE802154 with
  | false => simp
  | true =>
    rw [hs] at hrcp
    simpa using hrcp.nonce

theorem espRadioServiceApply_spec (c : Config) (bt : BtIo) (rcp : RcpIo) (requested : UInt8) {s : Fw} (h : s.Matches c) :
    (espRadioServiceApply c bt rcp requested s).1.Matches c ∧
    Answered c bt rcp requested s (espRadioServiceApply c bt rcp requested s).1 (espRadioServiceApply c bt rcp requested s).2 := by
  have hseen : ({s with commandSeen := true} : Fw).Matches c := ⟨h.known,h.bt,h.rcp,h.runs⟩
  unfold espRadioServiceApply
  split
  · rename_i hr
    exact ⟨h,⟨fun _ => ⟨rfl,rfl⟩,fun hk => absurd hk hr,fun hk => absurd hk hr,fun hk => absurd hk hr,fun hk => absurd hk hr,
      by simp,by simp,fun _ => ⟨rfl,rfl⟩,fun hk => absurd hk hr⟩⟩
  rename_i hr
  have hknown : Known requested := by simpa [Known] using hr
  dsimp only
  split
  · rename_i hsame
    have hself : s.service &&& ~~~requested = 0 := by
      rw [hsame]
      exact UInt8.and_not_self
    exact ⟨hseen,⟨fun hk => absurd hknown hk,fun _ => rfl,fun _ => rfl,fun _ => snapshot_nonce hseen _ _,
      fun _ => by simp [espRadioServiceSnapshot,hself],by simp [espRadioServiceSnapshot],fun _ _ => hsame.symm,
      by simp [espRadioServiceSnapshot],fun _ _ => rfl⟩⟩
  split
  · rename_i hless
    exact ⟨hseen,⟨fun hk => absurd hknown hk,fun _ => rfl,fun _ => rfl,fun _ => snapshot_nonce hseen _ _,
      fun _ => by simp [espRadioServiceSnapshot,hless,ESP_RADIO_SERVICE_F_RESTART_REQUIRED],fun _ => ⟨rfl,rfl⟩,
      fun _ hflags => absurd hflags (by simp [espRadioServiceSnapshot,ESP_RADIO_SERVICE_F_RESTART_REQUIRED]),
      by simp [espRadioServiceSnapshot],fun _ _ => rfl⟩⟩
  · rename_i hmore
    have hsub : s.service &&& ~~~requested = 0 := by simpa using hmore
    obtain ⟨hm,hcommand,hcases⟩ := addServices_spec c bt rcp hseen hknown hsub
    dsimp only at hm hcommand hcases
    refine ⟨hm,⟨fun hk => absurd hknown hk,fun _ => hcommand,fun _ => rfl,fun _ => snapshot_nonce hm _ _,
      fun _ => by simp [espRadioServiceSnapshot,hsub],by simp [espRadioServiceSnapshot],fun hok _ => ?_,fun hno => ⟨rfl,?_⟩,
      fun _ hposs => ?_⟩⟩
    · obtain ⟨-,hservice⟩ | ⟨hno,-⟩ := hcases
      · exact hservice
      · exact absurd hok hno
    · obtain ⟨hok,-⟩ | ⟨-,hservice,-⟩ := hcases
      · exact absurd hok hno
      · exact hservice
    · obtain ⟨hok,-⟩ | ⟨-,-,hfine⟩ := hcases
      · exact hok
      · exact absurd ⟨hposs.built,hposs.bt,hposs.rcp⟩ hfine

/-! Runs. -/

theorem startLegacyBt_matches {c : Config} (io : BtIo) {s : Fw} (h : s.Matches c) : (startLegacyBt io s).Matches c := by
  unfold startLegacyBt
  split
  · rename_i hoff
    have hb : s.bt.Off := by simpa [Bt.Is,hoff.1] using h.bt
    dsimp only
    obtain ⟨hok,hcontroller,hsem⟩ | ⟨hno,hoff'⟩ := initialiseBluetooth_spec io hb
    · rw [if_pos hok]
      exact h.addBt ⟨by simp [hsem],hcontroller⟩
    · rw [if_neg hno]
      exact h.btOff hoff.1 hoff'
  · exact h

theorem Fw.Matches.sem {c : Config} {s : Fw} (h : s.Matches c) (f : Bool → Bool) :
    ({s with bt := {s.bt with vhciSendSem := s.bt.vhciSendSem.map f}} : Fw).Matches c := by
  refine ⟨h.known,?_,h.rcp,h.runs⟩
  have hbt := h.bt
  change Bt.Is _ (s.has ESP_RADIO_SERVICE_BT)
  cases hs : s.has ESP_RADIO_SERVICE_BT with
  | false =>
    rw [hs] at hbt
    exact ⟨by simp [hbt.1],hbt.2⟩
  | true =>
    rw [hs] at hbt
    exact ⟨by simpa using hbt.1,hbt.2⟩

theorem processHciRxPkt_matches {c : Config} (inTime : Bool) {s : Fw} (h : s.Matches c) :
    (processHciRxPkt c inTime s).1.Matches c := by
  unfold processHciRxPkt
  split
  · exact h
  split
  · exact h
  · rename_i free hfree
    split
    · have hsem := h.sem fun _ => false
      rw [hfree] at hsem
      exact hsem
    · exact matches_initial c

theorem Fw.Matches.fatal {c : Config} {s : Fw} (h : s.Matches c) (hup : s.has ESP_RADIO_SERVICE_IEEE802154 = true)
    (notify running : Bool) :
    ({s with rcp := espHostedRcpFatalRestart {s.rcp with rxNotify := notify, otRunning := running}} : Fw).Matches c ∧
    (espHostedRcpFatalRestart {s.rcp with rxNotify := notify, otRunning := running}).fatalPending = true := by
  have hrcp := h.rcp
  rw [hup] at hrcp
  have hpending : (espHostedRcpFatalRestart {s.rcp with rxNotify := notify, otRunning := running}).fatalPending = true := by
    unfold espHostedRcpFatalRestart
    split
    · rfl
    · rename_i hno
      simpa [hrcp.worker] using hno
  refine ⟨⟨h.known,h.bt,?_,h.runs⟩,hpending⟩
  change Rcp.Is c _ (s.has ESP_RADIO_SERVICE_IEEE802154)
  rw [hup]
  refine ⟨?_,?_,?_,?_,fun _ => .inl hpending⟩
  all_goals
    unfold espHostedRcpFatalRestart
    split
  · exact hrcp.bridge
  · exact hrcp.bridge
  · exact hrcp.nonce
  · exact hrcp.nonce
  · exact hrcp.worker
  · exact hrcp.worker
  · exact hrcp.sem
  · exact hrcp.sem

theorem has_of_bridge {c : Config} {s : Fw} (h : s.Matches c) (hb : s.rcp.bridgeEnabled = true ∨ s.rcp.otRunning = true) :
    s.has ESP_RADIO_SERVICE_IEEE802154 = true := by
  have hrcp := h.rcp
  cases hs : s.has ESP_RADIO_SERVICE_IEEE802154 with
  | true => rfl
  | false =>
    rw [hs] at hrcp
    have hdown : s.rcp.Down := hrcp
    simp [hdown.bridge,hdown.task.2] at hb

theorem step_matches {c : Config} {s s' : Fw} {a : Action} (h : s.Matches c) (hstep : step c s a = some s') : s'.Matches c := by
  cases a with
  | setRadioService requested bt rcp =>
    simp only [step,h.runs,Bool.false_eq_true,if_false,Option.some.injEq] at hstep
    rw [← hstep]
    exact (espRadioServiceApply_spec c bt rcp requested h).1
  | hciPacket bt inTime =>
    have hlegacy := startLegacyBt_matches bt h
    simp only [step] at hstep
    split at hstep
    · cases hstep
    split at hstep
    · cases hstep
      exact processHciRxPkt_matches inTime hlegacy
    · cases hstep
      exact hlegacy
  | packetReady =>
    cases hstep
    exact h.sem fun _ => true
  | rcpLost =>
    simp only [step] at hstep
    split at hstep
    · rename_i hb
      cases hstep
      exact (h.fatal (has_of_bridge h (.inl hb)) s.rcp.rxNotify s.rcp.otRunning).1
    · cases hstep
  | mainloopExits =>
    simp only [step] at hstep
    split at hstep
    · rename_i hrun
      cases hstep
      exact (h.fatal (has_of_bridge h (.inr hrun)) false false).1
    · cases hstep
  | fatalWorker =>
    simp only [step] at hstep
    split at hstep
    · cases hstep
      exact matches_initial c
    · cases hstep

theorem run_matches {c : Config} {acts : List Action} {s : Fw} (h : exec (step c) {} acts = some s) : s.Matches c :=
  exec_invariant (fun _ _ _ => step_matches) (matches_initial c) h

/-- In every order of requests, packets and losses, whatever fails on the way: what is in the mask runs, the rest
holds nothing, and a loss finds the worker that restarts the firmware. -/
theorem services_match_backends (c : Config) {acts : List Action} {s : Fw} (hrun : exec (step c) {} acts = some s) :
    s.Matches c ∧ ∀ (a : Action) (s' : Fw), a = .rcpLost ∨ a = .mainloopExits → step c s a = some s' →
      s'.rcp.fatalPending = true := by
  have h := run_matches hrun
  refine ⟨h,fun a s' ha hstep => ?_⟩
  obtain rfl | rfl := ha
  · simp only [step] at hstep
    split at hstep
    · rename_i hb
      cases hstep
      exact (h.fatal (has_of_bridge h (.inl hb)) s.rcp.rxNotify s.rcp.otRunning).2
    · cases hstep
  · simp only [step] at hstep
    split at hstep
    · rename_i hrunning
      cases hstep
      exact (h.fatal (has_of_bridge h (.inr hrunning)) false false).2
    · cases hstep

/-- OpenThread does not come up, and Bluetooth, which came with it, goes too. -/
def failedStart : Fw where
  commandSeen := true
  rcp := {fatalTask := true, rxQueue := true, txFreeQueue := true, prebootTxQueue := true, txGateLock := true, txPool := true, txFree := 8}

theorem services_match_backends_failed : failedStart.Matches ⟨true,false,.openthread⟩ :=
  (@services_match_backends ⟨true,false,.openthread⟩ [.setRadioService 3 {} {openthreadInit := false, sends := 2}] failedStart
    (by decide)).1

/-- Whatever has happened before, the host is told what runs. -/
theorem radio_request_answered (c : Config) {acts : List Action} {s : Fw} (hrun : exec (step c) {} acts = some s)
    (bt : BtIo) (rcp : RcpIo) (requested : UInt8) :
    Answered c bt rcp requested s (espRadioServiceApply c bt rcp requested s).1 (espRadioServiceApply c bt rcp requested s).2 :=
  (espRadioServiceApply_spec c bt rcp requested (run_matches hrun)).2

theorem radio_request_answered_retry :
    Answered ⟨true,false,.openthread⟩ {} {} 3 failedStart (espRadioServiceApply ⟨true,false,.openthread⟩ {} {} 3 failedStart).1
      (espRadioServiceApply ⟨true,false,.openthread⟩ {} {} 3 failedStart).2 ∧
    (espRadioServiceApply ⟨true,false,.openthread⟩ {} {} 3 failedStart).2.ret = .ok :=
  ⟨@radio_request_answered ⟨true,false,.openthread⟩ [.setRadioService 3 {} {openthreadInit := false, sends := 2}] failedStart
    (by decide) {} {} 3,by decide⟩

end EspHosted.Backends
