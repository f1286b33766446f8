import EspHosted.Lib.Packed
import EspHosted.Lib.Prog
import EspHosted.UsbDevice

/-!
The transmit paths of the driver over the skb they are given and the one they may replace it with:
`esp_hard_start_xmit` and `process_tx_packet` of `main.c`, `esp_bt_send_frame` of `esp_bt.c`, and
`esp_send_packet` behind both.
-/

set_option autoImplicit false

namespace EspHosted.HostTx
open EspHosted Prog Packed

def ETH_FRAME_LEN : Nat := 1514

/-- The skb of the caller, and the one allocated in its place. -/
inductive Which where
  | orig
  | new
  deriving DecidableEq, Repr

inductive Test where
  | netdevPriv
  | cbPriv
  | queueStopped
  | hostSleep
  | portOpen
  | stopData
  | btAdapter
  | btSessionReady
  | headroom (n : Nat)
  | aligned
  | linearized
  | allocated
  | checksumEnabled
  | ifWrite
  | removing
  | cleanup
  | allowDeinit
  | allowReconstruct
  /-- `if_ops->write` returns 0; it has the skb in any case. -/
  | written
  deriving DecidableEq, Repr

inductive Act where
  | len
  | read (w : Which)
  /-- `pad` bytes in front of the data of the caller's skb: in place, or with the data in the new skb. -/
  | push (pad : Nat)
  | copy (pad : Nat)
  /-- The first bytes are overwritten. -/
  | fill (w : Which) (b : Bytes)
  | free (w : Which)
  | write (w : Which)
  | ask (t : Test)
  /-- `esp_schedule_fw_reset_recovery` and `esp_request_firmware_restart`. -/
  | recover

def Ans : Act → Type
  | .len => Nat
  | .read _ => Bytes
  | .ask _ => Bool
  | .push _ | .copy _ | .fill _ _ | .free _ | .write _ | .recover => Unit

abbrev Tx := Prog Act Ans

def act (a : Act) : Tx (Ans a) := perform a

def skbLen : Tx Nat := act .len
def skbData (w : Which) : Tx Bytes := act (.read w)
def skbPush (pad : Nat) : Tx Unit := act (.push pad)
def copyBehind (pad : Nat) : Tx Unit := act (.copy pad)
def fill (w : Which) (b : Bytes) : Tx Unit := act (.fill w b)
def devKfreeSkb (w : Which) : Tx Unit := act (.free w)
def ifWrite (w : Which) : Tx Unit := act (.write w)
def ask (t : Test) : Tx Bool := act (.ask t)
def recover : Tx Unit := act .recover

/-- `sizeof(struct esp_payload_header)`, and what makes the frame a multiple of the alignment. -/
def padLen (len : Nat) : Nat :=
  headerSize+(SKB_DATA_ADDR_ALIGNMENT-(len+headerSize)%SKB_DATA_ADDR_ALIGNMENT)%SKB_DATA_ADDR_ALIGNMENT

/-- What stands in front of the payload, with the checksum field open. -/
abbrev Prefix := UInt16 → Bytes

inductive Room where
  | got (w : Which)
  | failed
  deriving DecidableEq, Repr

/-- Space for the header in front of the data, in this skb or in a new one. -/
def makeRoom (pad : Nat) : Tx Room := do
  let headroom ← ask (.headroom pad)
  let aligned ← ask .aligned
  if !headroom || !aligned then
    if !(← ask .linearized) then return .failed
    if !(← ask .allocated) then return .failed
    copyBehind pad
    devKfreeSkb .orig
    return .got .new
  else
    skbPush pad
    return .got .orig

variable (computeChecksum : Bytes → UInt16)

def setHeader (w : Which) (p : Prefix) : Tx Unit := do
  fill w (p 0)
  if ← ask .checksumEnabled then
    let frame ← skbData w
    fill w (p (computeChecksum frame))

/-- Whether it fails. -/
def espSendPacket (w : Which) : Tx Bool := do
  if !(← ask .ifWrite) then
    devKfreeSkb w
    return true
  let removing ← ask .removing
  let cleanup ← ask .cleanup
  let allowDeinit ← ask .allowDeinit
  let allowReconstruct ← ask .allowReconstruct
  if removing || (cleanup && !allowDeinit && !allowReconstruct) then
    devKfreeSkb w
    return true
  ifWrite w
  return !(← ask .written)

inductive NetdevTx where
  | ok
  | busy
  deriving DecidableEq, Repr

structure Iface where
  ifType : Fin 16
  ifNum : Fin 16

def netPrefix (i : Iface) (eapol : Bool) (len pad : Nat) (checksum : UInt16) : Bytes :=
  PayloadHeader.encode
    { ifType := i.ifType
      ifNum := i.ifNum
      packetType := if eapol then PACKET_TYPE_EAPOL else PACKET_TYPE_DATA
      len := UInt16.ofNat len
      offset := UInt16.ofNat pad
      checksum := checksum } ++ List.replicate (pad-headerSize) 0

def processTxPacket (i : Iface) (eapol : Bool) : Tx NetdevTx := do
  if !(← ask .cbPriv) then
    devKfreeSkb .orig
    return .ok
  if ← ask .queueStopped then return .busy
  if ← ask .hostSleep then return .busy
  let len ← skbLen
  let pad := padLen len
  match ← makeRoom pad with
  | .failed =>
    devKfreeSkb .orig
    return .ok
  | .got w =>
    setHeader computeChecksum w (netPrefix i eapol len pad)
    let stopData ← ask .stopData
    let portOpen ← ask .portOpen
    if !stopData && (portOpen || eapol) then
      let _ ← espSendPacket w
      return .ok
    else
      devKfreeSkb w
      return .ok

def espHardStartXmit (i : Iface) (eapol : Bool) : Tx NetdevTx := do
  if !(← ask .netdevPriv) then
    devKfreeSkb .orig
    return .ok
  let portOpen ← ask .portOpen
  if !portOpen && !eapol then
    devKfreeSkb .orig
    return .ok
  let len ← skbLen
  if len = 0 || ETH_FRAME_LEN < len then
    devKfreeSkb .orig
    return .ok
  processTxPacket computeChecksum i eapol

/-- The H4 type is the last byte in front of the payload, and stands in the header as well. -/
def btPrefix (pktType : UInt8) (len pad : Nat) (checksum : UInt16) : Bytes :=
  (PayloadHeader.encode
    { ifType := Usb.nibble 2
      ifNum := Usb.nibble 0
      len := UInt16.ofNat len
      offset := UInt16.ofNat pad
      checksum := checksum
      reserved3 := pktType } ++ List.replicate (pad-headerSize) 0).dropLast ++ [pktType]

/-- Whether it returns 0. -/
def espBtSendFrame (pktType : UInt8) : Tx Bool := do
  if !(← ask .btAdapter) then return false
  if !(← ask .btSessionReady) then return false
  let len ← skbLen
  let pad := padLen len
  match ← makeRoom pad with
  | .failed => return false
  | .got w =>
    setHeader computeChecksum w (btPrefix pktType len pad)
    if ← espSendPacket w then recover
    return true

end EspHosted.HostTx
