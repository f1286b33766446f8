import EspHosted.Wire
import EspHosted.Lib.Packed
import EspHosted.Lib.Prog

/-!
The receive path of the driver as a program over one skb: `process_rx_packet` of `main.c` with the
functions of `esp_cmd.c`, `esp_rcp.c` and `esp_cfg80211.c` it hands the skb to. Every read, write, pull,
trim, free and hand-over of the skb is an action; the state of the adapter is asked for.
-/

set_option autoImplicit false

namespace EspHosted.SkbRx
open EspHosted Prog Packed

def EVENT_SCAN_RESULT : UInt8 := 1
def EVENT_STA_DISCONNECT : UInt8 := 3
def EVENT_AUTH_RX : UInt8 := 4
def EVENT_ASSOC_RX : UInt8 := 5
def EVENT_AP_MGMT_RX : UInt8 := 6
def HOSTED_EVENT_MGMT_TX_STATUS : UInt8 := 7

def ESP_BOOTUP_EXT_CAPABILITY : UInt8 := 6

/-- Who has the skb when `process_rx_packet` returns, if it is not freed. -/
inductive Sink where
  /-- The stack gets the Ethernet header apart, as `mac_header`. -/
  | netRx (eapol : Bool) (eth : Bytes)
  | cmdResp
  | rcpEarly
  | rcpRx
  | monitor
  | hci (pktType : UInt8)
  | events
  deriving DecidableEq, Repr

/-- What is asked of the adapter, the interface, the RCP endpoint and the kernel. -/
inductive Test where
  | checksumEnabled
  | sessionReady
  | cleanup
  | allowReconstruct
  | driverUnloading
  | transportRemoving
  | initDone
  | privFor (ifNum : Nat)
  | ndev
  | netUp
  | hcidev
  | eventsWq
  | cmdInitDone
  | curCmd
  | curCmdIs (code : UInt8) (seq : Nat)
  | curCmdDone
  | rcpFailClosed
  | rcpBootPending
  | rcpEarlyFull
  | rcpRegistered
  | rcpOpened
  | rcpAcked
  | rcpOpeningFirst
  | rcpFull
  | monitorUp
  | cowHead
  | scanAwaited
  | scanInProgress
  /-- `chan && !(chan->flags & IEEE80211_CHAN_DISABLED)` -/
  | channelUsable (channel : UInt8)
  | authExpected (seq : Nat) (bssid : Bytes)
  | assocExpected (seq : Nat) (bssid : Bytes)
  | disconnectExpected (seq : Nat)
  | copied
  /-- Fewer than eight AUTH events are staged, no ASSOC or no DISCONNECT event. -/
  | stageRoom (code : UInt8)
  | mgmtTxPending (id : Nat)
  | rawTpMode
  deriving DecidableEq, Repr

/-- What is told to others without giving them the skb. -/
inductive Report where
  | scanDone
  | informBss (frameType channel : UInt8) (bssid : Bytes) (rssi : Nat) (fixed ies : Bytes)
  | stage (code : UInt8) (copy : Bytes)
  | rxMgmt (chan rssi : Nat) (frame : Bytes)
  | txStatus (ack : Bool) (frame : Bytes)
  | rcpSession (nonce : Nat)
  | noteBoot (legacyRcp : Bool)
  | rawTp (len : Nat)
  deriving DecidableEq, Repr

inductive Act where
  | len
  /-- Bytes from the start of the transport frame: `payload_header` stays valid behind `skb_pull`. -/
  | peek (off len : Nat)
  | read (off len : Nat)
  | writeHead (off : Nat) (b : Bytes)
  | write (off : Nat) (b : Bytes)
  | pull (n : Nat)
  | trim (n : Nat)
  | push (b : Bytes)
  | free
  | give (k : Sink)
  | ask (t : Test)
  | report (r : Report)
  /-- `esp_schedule_fw_reset_recovery` and `esp_request_firmware_restart`. -/
  | recover

def Ans : Act → Type
  | .len => Nat
  | .peek _ _ | .read _ _ => Bytes
  | .ask _ => Bool
  | .writeHead _ _ | .write _ _ | .pull _ | .trim _ | .push _ | .free | .give _ | .report _ | .recover => Unit

abbrev Rx := Prog Act Ans

def act (a : Act) : Rx (Ans a) := perform a

def skbLen : Rx Nat := act .len
def peek (off len : Nat) : Rx Bytes := act (.peek off len)
def read (off len : Nat) : Rx Bytes := act (.read off len)
def writeHead (off : Nat) (b : Bytes) : Rx Unit := act (.writeHead off b)
def write (off : Nat) (b : Bytes) : Rx Unit := act (.write off b)
def skbPull (n : Nat) : Rx Unit := act (.pull n)
def skbTrim (n : Nat) : Rx Unit := act (.trim n)
def skbPush (b : Bytes) : Rx Unit := act (.push b)
def kfreeSkb : Rx Unit := act .free
def give (k : Sink) : Rx Unit := act (.give k)
def ask (t : Test) : Rx Bool := act (.ask t)
def report (r : Report) : Rx Unit := act (.report r)
def recover : Rx Unit := act .recover

def byteOf (off : Nat) (b : Bytes) : UInt8 := (field off 1 b).getD 0 0
def le (off width : Nat) (b : Bytes) : Nat := leValue (field off width b)

/-- What stands for the code outside the receive path: the checksum and the radiotap header. -/
structure Config where
  computeChecksum : Bytes → Nat
  radiotap : Bytes → Bytes

/-- `if (n >= ...) skb_trim(skb, n)` -/
def trimTo (len : Nat) : Rx Unit := do
  let n ← skbLen
  if len < n then skbTrim len else pure ()

def espFailRcpRxIfRequired : Rx Unit := do
  if ← ask .rcpFailClosed then recover else pure ()

/-- `payload_header` is dropped with the skb. -/
def dropCorrupt : Rx Unit := do
  espFailRcpRxIfRequired
  kfreeSkb

/-- The loop of `esp_internal_checksum_required`, `pos` bytes behind the start of the transport frame. -/
def checksumTlvs (sum : Bool) : Nat → Nat → Nat → Rx Bool
  | 0, _, _ => pure sum
  | fuel+1, pos, left => do
    if left < 2 then return sum
    let hdr ← peek pos 2
    let tagLen := (byteOf 1 hdr).toNat
    if left-2 < tagLen then return sum
    if byteOf 0 hdr = ESP_BOOTUP_CAPABILITY ∧ tagLen = 1 then
      let cap ← peek (pos+2) 1
      return byteOf 0 cap &&& ESP_CHECKSUM_ENABLED ≠ 0 || sum
    checksumTlvs sum fuel (pos+(tagLen+2)) (left-(tagLen+2))

def espInternalChecksumRequired (len offset : Nat) (sum : Bool) : Rx Bool := do
  if len < bootDataOffset then return sum
  let evt ← peek offset bootDataOffset
  if byteOf 0 evt ≠ ESP_INTERNAL_BOOTUP_EVENT then return sum
  let evtLen := (byteOf 4 evt).toNat
  if len-bootDataOffset < evtLen then return sum
  checksumTlvs sum evtLen (offset+bootDataOffset) evtLen

def espBootupEventStructurallyValid : Rx Bool := do
  let n ← skbLen
  if n < bootDataOffset then return false
  let evt ← read 0 bootDataOffset
  if byteOf 1 evt ≠ 0 then return false
  return !(n-bootDataOffset < (byteOf 4 evt).toNat)

def ESP_EXT_CAP_RCP : Nat := 6
def ESP_EXT_CAP_RADIO_SERVICE_CTRL : Nat := 14

/-- The loop of `esp_bootup_event_legacy_rcp_active`; `none` for its `return false`. -/
def legacyTlvs : Nat → Nat → Nat → Option Nat → Rx (Option (Option Nat))
  | 0, _, _, ext => pure (some ext)
  | fuel+1, pos, left, ext => do
    if left < 2 then return some ext
    let hdr ← read pos 2
    let tagLen := (byteOf 1 hdr).toNat
    if left-2 < tagLen then return none
    if byteOf 0 hdr = ESP_BOOTUP_EXT_CAPABILITY ∧ tagLen = 4 then
      if ext.isSome then return none
      let caps ← read (pos+2) 4
      legacyTlvs fuel (pos+(tagLen+2)) (left-(tagLen+2)) (some (leValue caps))
    else legacyTlvs fuel (pos+(tagLen+2)) (left-(tagLen+2)) ext

def espBootupEventLegacyRcpActive : Rx Bool := do
  if !(← espBootupEventStructurallyValid) then return false
  let evt ← read 0 bootDataOffset
  let evtLen := (byteOf 4 evt).toNat
  let ext ← legacyTlvs evtLen bootDataOffset evtLen none
  return ext.join.any fun caps => caps.testBit ESP_EXT_CAP_RCP && !caps.testBit ESP_EXT_CAP_RADIO_SERVICE_CTRL

/-- Offsets of `cmd_set_get_val.value`, `cmd_mgmt_tx.len` and `cmd_mgmt_tx.buf`. -/
def valueOffset : Nat := 8
def mgmtLenOffset : Nat := 24
def mgmtBufOffset : Nat := 28

/-- A 32-bit field put into the byte order of the host, which is little endian. -/
def le32InPlace (off : Nat) : Rx Unit := do
  let v ← read off 4
  write off v

def processCmdResp : Rx Unit := do
  if !(← ask .cmdInitDone) then kfreeSkb
  else
    let n ← skbLen
    if n < commandHeaderSize then kfreeSkb
    else
      let hdr ← read 0 commandHeaderSize
      let code := byteOf 0 hdr
      let dataLen := le 2 2 hdr
      if n-commandHeaderSize < dataLen then kfreeSkb
      else
        if (code = CMD_GET_TXPOWER ∨ code = CMD_SET_TXPOWER) ∧ valueOffset+4 ≤ n ∧ 4 ≤ dataLen then
          le32InPlace valueOffset
        if code = CMD_MGMT_TX ∧ mgmtBufOffset ≤ n then le32InPlace mgmtLenOffset
        if !(← ask .curCmd) then kfreeSkb
        else if !(← ask (.curCmdIs code (le 4 2 hdr))) then kfreeSkb
        else if ← ask .curCmdDone then kfreeSkb
        else give .cmdResp

def skbHasFlexFrame (n fixed frameLen : Nat) : Bool := !(n < fixed) && frameLen ≤ n-fixed

def eventHeaderSize : Nat := 4
def scanFrameOffset : Nat := 28
def authFrameOffset : Nat := 28
def assocFrameOffset : Nat := 62
def mgmtFrameOffset : Nat := 20
def disconnectEventSize : Nat := 46
def txStatusFrameOffset : Nat := 20
/-- `sizeof(struct beacon_probe_fixed_params)` -/
def fixedParamsSize : Nat := 12

def processScanResultEvent : Rx Unit := do
  let n ← skbLen
  if n < eventHeaderSize then return ()
  let hdr ← read 0 eventHeaderSize
  if byteOf 1 hdr = 0 then
    if ← ask .scanAwaited then report .scanDone
    return ()
  if n < scanFrameOffset then return ()
  if !(← ask .scanInProgress) then return ()
  let evt ← read 0 scanFrameOffset
  let frameLen := le 24 2 evt
  if !skbHasFlexFrame n scanFrameOffset frameLen || frameLen < fixedParamsSize then return ()
  let fixed ← read scanFrameOffset fixedParamsSize
  if ← ask (.channelUsable (byteOf 11 evt)) then
    let ies ← read (scanFrameOffset+fixedParamsSize) (frameLen-fixedParamsSize)
    report (.informBss (byteOf 10 evt) (byteOf 11 evt) (field 4 6 evt) (le 12 4 evt) fixed ies)

def espMlmeStageEvent (code : UInt8) : Rx Unit := do
  if !(← ask .copied) then recover
  else
    let n ← skbLen
    let copy ← read 0 n
    if ← ask (.stageRoom code) then report (.stage code copy)

def processAuthEvent : Rx Unit := do
  if !(← ask .ndev) then return ()
  let n ← skbLen
  if n < authFrameOffset then return ()
  let evt ← read 0 authFrameOffset
  if !skbHasFlexFrame n authFrameOffset (le 24 2 evt) then return ()
  if ← ask (.authExpected (le 26 2 evt) (field 4 6 evt)) then espMlmeStageEvent EVENT_AUTH_RX

def processAssocEvent : Rx Unit := do
  let n ← skbLen
  if n < assocFrameOffset then return ()
  let evt ← read 0 assocFrameOffset
  if !skbHasFlexFrame n assocFrameOffset (le 48 2 evt) then return ()
  if ← ask (.assocExpected (le 46 2 evt) (field 4 6 evt)) then espMlmeStageEvent EVENT_ASSOC_RX

def processDisconnectEvent : Rx Unit := do
  let n ← skbLen
  if n < disconnectEventSize then return ()
  let evt ← read 0 disconnectEventSize
  if ← ask (.disconnectExpected (le 44 2 evt)) then espMlmeStageEvent EVENT_STA_DISCONNECT

def processApMgmtRx : Rx Unit := do
  if !(← ask .ndev) then return ()
  let n ← skbLen
  if n < mgmtFrameOffset then return ()
  let evt ← read 0 mgmtFrameOffset
  let frameLen := le 16 4 evt
  if !skbHasFlexFrame n mgmtFrameOffset frameLen then return ()
  let frame ← read mgmtFrameOffset frameLen
  report (.rxMgmt (le 12 4 evt) (le 8 4 evt) frame)

def processMgmtTxStatusEvent : Rx Unit := do
  let n ← skbLen
  if n < txStatusFrameOffset then return ()
  let evt ← read 0 txStatusFrameOffset
  let frameLen := le 12 4 evt
  let id := le 4 8 evt
  if id = 0 || !skbHasFlexFrame n txStatusFrameOffset frameLen then return ()
  if ← ask (.mgmtTxPending id) then
    if ← ask .ndev then
      let frame ← read txStatusFrameOffset frameLen
      report (.txStatus (byteOf 16 evt ≠ 0) frame)

def processCmdEvent : Rx Unit := do
  let n ← skbLen
  if n < eventHeaderSize then return ()
  let hdr ← read 0 eventHeaderSize
  let code := byteOf 0 hdr
  if code = EVENT_SCAN_RESULT then processScanResultEvent
  else if code = EVENT_ASSOC_RX then processAssocEvent
  else if code = EVENT_STA_DISCONNECT then processDisconnectEvent
  else if code = EVENT_AUTH_RX then processAuthEvent
  else if code = EVENT_AP_MGMT_RX then processApMgmtRx
  else if code = HOSTED_EVENT_MGMT_TX_STATUS then processMgmtTxStatusEvent
  else return ()

def espRcpSessionAck : Rx Unit := do
  let n ← skbLen
  if n ≠ rcpSessionMarkerSize then return ()
  let marker ← read 0 rcpSessionMarkerSize
  if byteOf 0 marker = ESP_RCP_SESSION_VERSION then report (.rcpSession (le 4 8 marker))

/-- A full queue is purged before the skb goes. -/
def rcpOverflow : Rx Unit := do
  kfreeSkb
  recover

def espRcpRx : Rx Unit := do
  if ← ask .rcpBootPending then
    if ← ask .rcpEarlyFull then kfreeSkb else give .rcpEarly
  else if !(← ask .rcpRegistered) then kfreeSkb
  else if !(← ask .rcpOpened) then kfreeSkb
  else if !(← ask .rcpAcked) then
    if !(← ask .rcpOpeningFirst) then kfreeSkb
    else if ← ask .rcpEarlyFull then rcpOverflow
    else give .rcpEarly
  else if ← ask .rcpFull then rcpOverflow
  else give .rcpRx

def espCfg80211MonitorRx (c : Config) : Rx Unit := do
  if !(← ask .monitorUp) then kfreeSkb
  else
    let n ← skbLen
    if n < metaSize then kfreeSkb
    else
      let evt ← read 0 metaSize
      let frameLen := le 12 2 evt
      if byteOf 0 evt ≠ ESP_MONITOR_META_VERSION then kfreeSkb
      else if frameLen = 0 || n-metaSize < frameLen || byteOf 2 evt = 0 then kfreeSkb
      else if c.radiotap evt = [] then kfreeSkb
      else
        skbPull metaSize
        trimTo frameLen
        if !(← ask .cowHead) then kfreeSkb
        else
          skbPush (c.radiotap evt)
          give .monitor

def ETH_HLEN : Nat := 14

/-- `eth_type_trans` of the kernel reads the Ethernet header where `skb->data` is and pulls it. -/
def ethTypeTrans : Rx Bytes := do
  let eth ← read 0 ETH_HLEN
  skbPull ETH_HLEN
  return eth

def netifRx (eapol : Bool) : Rx Unit := do
  let eth ← ethTypeTrans
  give (.netRx eapol eth)

/-- The branches of `process_rx_packet` behind `skb_pull`, with the header it still looks at. -/
def netFrame (hdr : Bytes) : Rx Unit := do
  let pt := byteOf 2 hdr
  if !(← ask (.privFor ((byteOf 0 hdr).toNat/16))) then kfreeSkb
  else if pt = PACKET_TYPE_EAPOL then
    if !(← ask .netUp) then kfreeSkb else netifRx true
  else if pt = PACKET_TYPE_DATA then
    if !(← ask .netUp) then kfreeSkb else netifRx false
  else if pt = PACKET_TYPE_COMMAND_RESPONSE then processCmdResp
  else if pt = PACKET_TYPE_EVENT then
    processCmdEvent
    kfreeSkb
  else kfreeSkb

def rcpFrame (hdr : Bytes) : Rx Unit := do
  let len := le 4 2 hdr
  if byteOf 2 hdr = PACKET_TYPE_RCP_SESSION then
    trimTo len
    espRcpSessionAck
    kfreeSkb
  else if byteOf 2 hdr ≠ PACKET_TYPE_DATA ∨ len = 0 then
    kfreeSkb
    recover
  else
    trimTo len
    espRcpRx

def monitorFrame (c : Config) (hdr : Bytes) : Rx Unit := do
  trimTo (le 4 2 hdr)
  if byteOf 2 hdr = PACKET_TYPE_COMMAND_RESPONSE then processCmdResp
  else if byteOf 2 hdr = PACKET_TYPE_MONITOR then espCfg80211MonitorRx c
  else kfreeSkb

/-- An skb that `hci_recv_frame` refuses is freed by it. -/
def hciFrame (hdr : Bytes) : Rx Unit := do
  if !(← ask .hcidev) || (← ask .driverUnloading) || (← ask .transportRemoving) || !(← ask .initDone) ||
      (← ask .cleanup) then kfreeSkb
  else
    let n ← skbLen
    if n = 0 then kfreeSkb
    else
      trimTo (le 4 2 hdr)
      let pktType ← read 0 1
      skbPull 1
      give (.hci (byteOf 0 pktType))

def internalFrame : Rx Unit := do
  let n ← skbLen
  if eventHeaderSize ≤ n then
    let evt ← read 0 eventHeaderSize
    if byteOf 0 evt = ESP_INTERNAL_BOOTUP_EVENT then
      if ← espBootupEventStructurallyValid then
        let legacy ← espBootupEventLegacyRcpActive
        if (← ask .rcpFailClosed) || legacy then report (.noteBoot legacy)
  if (← ask .driverUnloading) || (← ask .transportRemoving) then kfreeSkb
  else
    give .events
    -- the skb is on the queue, and without the workqueue it is freed as well
    if !(← ask .eventsWq) then kfreeSkb

def dispatch (c : Config) (hdr : Bytes) : Rx Unit :=
  let ifType := hdrIfType hdr
  if ifType = ESP_STA_IF ∨ ifType = ESP_AP_IF then netFrame hdr
  else if ifType = ESP_RCP_IF then rcpFrame hdr
  else if ifType = ESP_MONITOR_IF then monitorFrame c hdr
  else if ifType = ESP_HCI_IF then hciFrame hdr
  else if ifType = ESP_INTERNAL_IF then internalFrame
  else if ifType = ESP_TEST_IF then do
    if ← ask .rawTpMode then report (.rawTp (le 4 2 hdr))
    kfreeSkb
  else kfreeSkb

/-- Whether the checksum of the frame is the one computed with a zero in its place. -/
def checksumHolds (c : Config) (hdr : Bytes) : Rx Bool := do
  writeHead 8 [0,0]
  let frame ← peek 0 (le 4 2 hdr+le 6 2 hdr)
  return c.computeChecksum frame = le 8 2 hdr

def validateChecksum (hdr : Bytes) : Rx Bool :=
  if hdrIfType hdr = ESP_INTERNAL_IF then espInternalChecksumRequired (le 4 2 hdr) (le 6 2 hdr) (le 8 2 hdr ≠ 0)
  else ask .checksumEnabled

def checksumPasses (c : Config) (hdr : Bytes) : Rx Bool := do
  if ← validateChecksum hdr then checksumHolds c hdr else return true

def plain (hdr : Bytes) : Bool := hdrIfType hdr ≠ ESP_INTERNAL_IF && hdrIfType hdr ≠ ESP_RCP_IF

/-- `!esp_rx_session_ready(adapter)`, and the test of the cleanup behind it. -/
def closed : Rx Bool := do
  if !(← ask .sessionReady) then return true
  if ← ask .cleanup then return !(← ask .allowReconstruct)
  return false

def closedTo (hdr : Bytes) : Rx Bool := if plain hdr then closed else return false

def behindBounds (c : Config) (hdr : Bytes) : Rx Unit := do
  if !(← checksumPasses c hdr) then dropCorrupt
  else if ← closedTo hdr then kfreeSkb
  else
    skbPull (le 6 2 hdr)
    dispatch c hdr

def processRxPacket (c : Config) : Rx Unit := do
  let n ← skbLen
  if n < headerSize then dropCorrupt
  else
    let hdr ← peek 0 headerSize
    let len := le 4 2 hdr
    let offset := le 6 2 hdr
    if !espOffsetValid offset || n < offset || n-offset < len then dropCorrupt
    else if hdrIfType hdr ≠ ESP_TEST_IF ∧ byteOf 10 hdr = 0xFF then
      -- the hex dump of a wake-up packet
      let _ ← peek 0 (len+offset)
      behindBounds c hdr
    else behindBounds c hdr

end EspHosted.SkbRx
