import EspHosted.Lib.Prog
import EspHosted.Wire

/-!
The commands of the firmware, `esp_cmd_dispatch` and the handlers of `s_cmd_table` in `main/cmd.c`
(`process_raw_tp` in `main/stats.c`), as to what they read of the payload and what they answer. A
handler sees the payload only through `read`. Calls into the Wi-Fi library and tests of the
firmware's state have any reply, so that what is shown holds in every state.
-/

set_option autoImplicit false

namespace EspHosted.Dispatch
open EspHosted Prog

/-- A queued `COMMAND_RESPONSE`; `len` is the length of its buffer. -/
structure Resp where
  ifType : Nat
  code : UInt8
  status : UInt8
  seq : Nat
  reserved1 : UInt8 := 0
  data : Bytes
  len : Nat
  deriving DecidableEq, Repr

inductive Act where
  | read (off len : Nat)
  /-- What a call returns, what a test of the state finds, bytes of a call or of the state. -/
  | call
  | test
  | fetch
  | respond (r : Resp)
  /-- `mgmt_tx_inflight_begin`, and `mgmt_tx_inflight_take` by the handler itself. -/
  | begin (seq : Nat) (da : Bytes)
  | take
  | failPending
  | espRestart
  deriving DecidableEq, Repr

def Ans : Act → Type
  | .read _ _ | .fetch => Bytes
  | .call => Int
  | .test | .begin _ _ => Bool
  | .respond _ | .take | .failPending | .espRestart => Unit

abbrev Handler := Prog Act Ans

/-- The build: the host interface is SPI, the chip of OTA images, and `TX_DONE_PREFIX`. -/
structure Config where
  spi : Bool
  chipId : Nat
  txDonePrefix : Nat
  deriving DecidableEq, Repr

/-- The arguments of a handler, with `active_cmd_code` and `active_cmd_seq`. -/
structure Ctx where
  cfg : Config
  ifType : Nat
  len : Nat
  code : UInt8
  seq : Nat
  deriving DecidableEq, Repr

def act (a : Act) : Handler (Ans a) := perform a

def read (off len : Nat) : Handler Bytes := act (.read off len)
def call : Handler Int := act .call
def test : Handler Bool := act .test
def fetch : Handler Bytes := act .fetch
def espRestart : Handler Unit := act .espRestart

def mgmtTxInflightBegin (seq : Nat) (da : Bytes) : Handler Bool := act (.begin seq da)
def mgmtTxInflightTake : Handler Unit := act .take
def mgmtTxFailPending : Handler Unit := act .failPending
def respond (r : Resp) : Handler Unit := act (.respond r)

def onlyIf (c : Prop) [Decidable c] (p : Handler Unit) : Handler Unit := if c then p else pure ()

def leNat : Bytes → Nat
  | [] => 0
  | b :: bs => b.toNat+256*leNat bs

def byte (off : Nat) : Handler UInt8 := do return (← read off 1).getD 0 0
def le16 (off : Nat) : Handler Nat := do return leNat (← read off 2)
def le32 (off : Nat) : Handler Nat := do return leNat (← read off 4)

def cmdFlexLenValid (payloadLen fixedLen embeddedLen : Nat) : Bool :=
  decide (fixedLen ≤ payloadLen ∧ embeddedLen ≤ payloadLen-fixedLen)

def broadcastMac : Bytes := List.replicate 6 0xFF
def zeroMac : Bytes := List.replicate 6 0

/-- A privileged `CMD_HOST_REBOOT` goes without the spare transport header. -/
def sendCommandResp (c : Ctx) (code status : UInt8) (data : Bytes) : Handler Unit :=
  respond
    {ifType := c.ifType, code := code, status := status, seq := c.seq, data := data,
     len := if c.ifType = ESP_INTERNAL_IF ∧ code = CMD_HOST_REBOOT then 8+data.length else 20+data.length}

/-- The response to `code` bears the status that `p` comes to. -/
def answer (c : Ctx) (code : UInt8) (p : Handler UInt8) : Handler Unit := do sendCommandResp c code (← p) []

def okOr (status : UInt8) (ret : Int) : UInt8 := if ret = 0 then CMD_RESPONSE_SUCCESS else status

/-! Wi-Fi, as to pending frames and restarts. -/

def ESP_ERR_INVALID_ARG : Int := 0x102
def ESP_ERR_NOT_SUPPORTED : Int := 0x106

def wifiStopped (ret : Int) : Bool :=
  decide (ret = 0 ∨ ret = ESP_ERR_WIFI_NOT_STARTED ∨ ret = ESP_ERR_WIFI_NOT_INIT)

/-- The tests are that the event fence exists and that STA_STOP and the fence arrive. -/
def hostedWifiStop : Handler Int := do
  let ret ← call
  onlyIf (wifiStopped ret) mgmtTxFailPending
  let settled ← test
  onlyIf (settled = false) espRestart
  return ret

def mgmtTxEnsureCb : Handler Int := do if ← test then return 0 else call

def espHostedMonitorRestore : Handler Int := do
  let dead ← test
  onlyIf dead espRestart
  call

def hostedWifiStart : Handler Int := do
  let ret ← call
  if ret = 0 then
    let cb ← mgmtTxEnsureCb
    if cb ≠ 0 then
      let _ ← hostedWifiStop
      return cb
    else
      let restored ← espHostedMonitorRestore
      if restored ≠ 0 then
        let _ ← hostedWifiStop
        return restored
      else return 0
  else return ret

/-- A status that cannot be delivered restarts the firmware. -/
def hostedMgmtFailPending : Handler Unit := do
  let lost ← test
  onlyIf lost espRestart

/-- While monitoring, a command for another channel is refused. -/
def monitorRejects (off : Nat) : Handler Bool := do
  if ← test then
    let _ ← byte off
    test
  else return false

/-- Calls one after the other, up to the first that fails. -/
def chain : List (Handler Int) → Handler Int
  | [] => pure 0
  | p :: ps => do
    let ret ← p
    if ret ≠ 0 then return ret else chain ps

/-! The handlers. -/

def scanStatus (c : Ctx) : Handler UInt8 := do
  if c.len < 52 then return CMD_RESPONSE_INVALID
  else if ← test then return CMD_RESPONSE_BUSY
  else if ← monitorRejects 49 then return CMD_RESPONSE_BUSY
  else
    let ssid ← read 16 33
    let ssidLost ← (if ssid.getD 0 0 ≠ 0 then test else pure false)
    if ssidLost then return CMD_RESPONSE_FAIL
    else
      let _ ← byte 49
      let bssid ← read 8 6
      let bssidLost ← (if bssid ≠ zeroMac ∧ bssid ≠ broadcastMac then test else pure false)
      if bssidLost then return CMD_RESPONSE_FAIL
      else if ← test then
        if ← test then return CMD_RESPONSE_BUSY
        else return okOr CMD_RESPONSE_FAIL (← call)
      else return CMD_RESPONSE_FAIL

def processStartScan (c : Ctx) : Handler Unit := answer c CMD_SCAN_REQUEST (scanStatus c)

def processSetMcastMacList (c : Ctx) : Handler Unit := answer c CMD_SET_MCAST_MAC_ADDR do
  let count ← byte 8
  if 8 < count.toNat then return CMD_RESPONSE_FAIL
  else
    let _ ← read 9 48
    return CMD_RESPONSE_SUCCESS

/-- The power a call has given, as a word of the wire. -/
def sendPower (c : Ctx) (code : UInt8) : Handler Unit := do
  let ret ← call
  if ret ≠ 0 then sendCommandResp c code CMD_RESPONSE_FAIL []
  else
    let power ← fetch
    sendCommandResp c code CMD_RESPONSE_SUCCESS [power.getD 0 0,0,0,0]

def processGetTxPower (c : Ctx) : Handler Unit := sendPower c CMD_GET_TXPOWER

def processSetTxPower (c : Ctx) : Handler Unit := do
  if c.len < 12 then sendCommandResp c CMD_SET_TXPOWER CMD_RESPONSE_INVALID []
  else
    let _ ← read 8 4
    let ret ← call
    if ret ≠ 0 then sendCommandResp c CMD_SET_TXPOWER CMD_RESPONSE_FAIL []
    else sendPower c CMD_SET_TXPOWER

/-- `n` bytes that a call gives, or FAIL. -/
def sendFetched (c : Ctx) (code : UInt8) (n : Nat) : Handler Unit := do
  let ret ← call
  if ret ≠ 0 then sendCommandResp c code CMD_RESPONSE_FAIL []
  else
    let data ← fetch
    sendCommandResp c code CMD_RESPONSE_SUCCESS (data.take n)

def processRssi (c : Ctx) : Handler Unit := sendFetched c CMD_STA_RSSI 1
def processRegGet (c : Ctx) : Handler Unit := sendFetched c CMD_GET_REG_DOMAIN 4

def processSetIp (c : Ctx) : Handler Unit := answer c CMD_SET_IP_ADDR do
  let _ ← read 8 4
  return CMD_RESPONSE_SUCCESS

def processWowSet (c : Ctx) : Handler Unit := answer c CMD_SET_WOW_CONFIG do
  let _ ← read 8 5
  return CMD_RESPONSE_SUCCESS

def radioStatus (ret : Int) : UInt8 :=
  if ret = ESP_ERR_NOT_SUPPORTED then CMD_RESPONSE_UNSUPPORTED
  else if ret = ESP_ERR_INVALID_ARG then CMD_RESPONSE_INVALID
  else okOr CMD_RESPONSE_FAIL ret

/-- The active services and flags, then the nonce, come from the call. -/
def processRadioService (c : Ctx) : Handler Unit := do
  if c.len < 8 then return ()
  else
    let cmdCode ← byte 0
    if cmdCode = CMD_SET_RADIO_SERVICE then
      if c.len < 20 then sendCommandResp c cmdCode CMD_RESPONSE_INVALID []
      else
        let requested ← byte 8
        let ret ← call
        let out ← fetch
        sendCommandResp c cmdCode (radioStatus ret)
          ([requested,out.getD 0 0,out.getD 1 0,0] ++ (out.drop 2).take 8)
    else if cmdCode = CMD_GET_RADIO_SERVICE then
      let out ← fetch
      sendCommandResp c cmdCode (radioStatus 0) ([out.getD 0 0,out.getD 0 0,0,0] ++ (out.drop 1).take 8)
    else sendCommandResp c cmdCode CMD_RESPONSE_UNSUPPORTED []

def processSetTime (c : Ctx) : Handler Unit := answer c CMD_SET_TIME do
  if c.len < 24 then return CMD_RESPONSE_INVALID
  else
    let _ ← read 8 16
    return okOr CMD_RESPONSE_FAIL (← call)

def processRegSet (c : Ctx) : Handler Unit := do
  if c.len < 12 then sendCommandResp c CMD_SET_REG_DOMAIN CMD_RESPONSE_INVALID []
  else
    let countryCode ← read 8 4
    let ret ← call
    sendCommandResp c CMD_SET_REG_DOMAIN (okOr CMD_RESPONSE_FAIL ret) countryCode

def processOtaStart (c : Ctx) : Handler Unit := answer c CMD_START_OTA_UPDATE do
  if ← test then return CMD_RESPONSE_FAIL else return okOr CMD_RESPONSE_FAIL (← call)

def verifyOtaImageHeader (chipId : Nat) : Handler Int := do
  let id ← le16 22
  return if id ≠ chipId then -1 else 0

def processOtaWrite (c : Ctx) : Handler Unit := answer c CMD_START_OTA_WRITE do
  if c.len < 10 then return CMD_RESPONSE_INVALID
  else
    let binaryLen ← le16 8
    let verified ← test
    if binaryLen = 0 ∨ cmdFlexLenValid c.len 10 binaryLen = false ∨ (verified = false ∧ binaryLen < 24) then
      return CMD_RESPONSE_INVALID
    else
      let ret ← (if verified then pure 0 else verifyOtaImageHeader c.cfg.chipId)
      if ret ≠ 0 then return CMD_RESPONSE_FAIL
      else
        let _ ← read 10 binaryLen
        return okOr CMD_RESPONSE_FAIL (← call)

def processOtaEnd (c : Ctx) : Handler Unit := answer c CMD_START_OTA_END do
  let ended ← call
  if ended ≠ 0 then return CMD_RESPONSE_FAIL
  else if ← test then return CMD_RESPONSE_FAIL
  else
    let set ← call
    if set ≠ 0 then return CMD_RESPONSE_FAIL
    else if ← test then return CMD_RESPONSE_SUCCESS
    else
      let stuck ← test
      onlyIf stuck espRestart
      return CMD_RESPONSE_FAIL

def DISCONNECT_TYPE_LOCAL : UInt8 := 2

def processDisconnect (c : Ctx) : Handler Unit := answer c CMD_DISCONNECT do
  if c.len < 16 then return CMD_RESPONSE_INVALID
  else
    let _ ← le16 8
    let ret ← call
    if ret ≠ 0 then return CMD_RESPONSE_FAIL
    else if c.ifType = ESP_STA_IF then
      let kind ← byte 6
      if kind = DISCONNECT_TYPE_LOCAL ∨ kind = DISCONNECT_TYPE_DISASSOC then return CMD_RESPONSE_UNSUPPORTED
      else if ← test then return CMD_RESPONSE_SUCCESS
      else return CMD_RESPONSE_FAIL
    else if c.ifType = ESP_AP_IF then
      if ← test then
        let _ ← read 10 6
        return okOr CMD_RESPONSE_FAIL (← call)
      else return CMD_RESPONSE_FAIL
    else return CMD_RESPONSE_INVALID

/-- A commit of SAE that comes again for the network that is being joined. -/
def saeCommitRetry (msgType : UInt8) : Handler Bool := do
  if msgType ≠ 1 then return false
  else
    let authType ← byte 15
    if authType ≠ 3 then return false
    else
      let ret ← call
      if ret ≠ 0 then return false
      else
        let _ ← read 8 6
        test

/-- The enterprise callbacks; 0 where they are registered or not needed. -/
def registerEnterprise : Handler Int := do
  if ← test then
    if ← test then return -1 else call
  else return 0

/-- The lookup scan of an authentication and the connection to what it finds. -/
def authConnect : Handler UInt8 := do
  if ← test then return CMD_RESPONSE_BUSY
  else if ← test then return CMD_RESPONSE_FAIL
  else
    let _ ← read 8 6
    let _ ← byte 14
    let scanned ← chain [call,call]
    if scanned ≠ 0 then return CMD_RESPONSE_FAIL
    else
      let _ ← read 8 6
      if ← test then
        let _ ← read 16 32
        let wep ← test
        onlyIf wep do
          let _ ← byte 49
          let _ ← read 50 27
        let registered ← registerEnterprise
        if registered ≠ 0 then return CMD_RESPONSE_FAIL
        else
          let _ ← read 8 6
          let _ ← byte 14
          return okOr CMD_RESPONSE_FAIL (← chain [call,call])
      else return CMD_RESPONSE_FAIL

def sendAuth : Handler UInt8 := do
  let _ ← read 8 6
  let _ ← byte 15
  return okOr CMD_RESPONSE_FAIL (← call)

/-- An authentication that is admitted: a frame of one that goes on, or a new one. -/
def authSubmit (dataLen msgType : UInt8) : Handler UInt8 := do
  let _ ← read 8 6
  onlyIf (dataLen ≠ 0) do
    let _ ← read 84 (dataLen.toNat-4)
  if msgType = 2 then sendAuth
  else
    -- the Wi-Fi task may have cleared it meanwhile
    let ongoing ← test
    if ongoing ∧ msgType = 1 then sendAuth else authConnect

def authStatus (c : Ctx) : Handler UInt8 := do
  if c.len < 80 then return CMD_RESPONSE_INVALID
  else if ← monitorRejects 14 then return CMD_RESPONSE_BUSY
  else
    let keyLen ← byte 49
    let dataLen ← byte 77
    if 27 < keyLen.toNat ∨ cmdFlexLenValid c.len 80 dataLen.toNat = false ∨ (dataLen ≠ 0 ∧ dataLen.toNat < 4) then
      return CMD_RESPONSE_INVALID
    else
      let msgType ← (if dataLen ≠ 0 then byte 80 else pure 0)
      let ongoing ← test
      let admitted ← (if ongoing ∧ msgType ≠ 2 then saeCommitRetry msgType else pure true)
      if admitted then authSubmit dataLen msgType else return CMD_RESPONSE_BUSY

def processAuthRequest (c : Ctx) : Handler Unit := answer c CMD_STA_AUTH (authStatus c)

def processAssocRequest (c : Ctx) : Handler Unit := answer c CMD_STA_ASSOC do
  if c.len < 12 then return CMD_RESPONSE_INVALID
  else
    let ieLen ← byte 8
    if cmdFlexLenValid c.len 12 ieLen.toNat = false then return CMD_RESPONSE_INVALID
    else if ← test then return CMD_RESPONSE_BUSY
    else
      let ret ← (if ieLen ≠ 0 then (do let _ ← read 12 ieLen.toNat; call) else pure 0)
      if ret ≠ 0 then return CMD_RESPONSE_FAIL
      else
        let _ ← test
        let _ ← byte 10
        let _ ← byte 9
        return okOr CMD_RESPONSE_FAIL (← call)

def processStaSetAuthorized (c : Ctx) : Handler Unit := answer c CMD_STA_SET_AUTHORIZED do
  if c.ifType ≠ ESP_STA_IF ∨ c.len < 16 then return CMD_RESPONSE_INVALID
  else
    let authorized ← byte 14
    if 1 < authorized.toNat then return CMD_RESPONSE_INVALID
    else
      let connected ← test
      if authorized = 0 ∧ connected = false then return CMD_RESPONSE_SUCCESS
      else
        let known ← test
        let ret ← (if known then pure 0 else call)
        if ret ≠ 0 then return CMD_RESPONSE_BUSY
        else
          let peer ← fetch
          let bssid ← read 8 6
          if bssid ≠ zeroMac ∧ bssid ≠ broadcastMac ∧ peer ≠ bssid then return CMD_RESPONSE_FAIL
          else if authorized = 0 then return CMD_RESPONSE_SUCCESS
          else if ← test then return CMD_RESPONSE_SUCCESS
          else return CMD_RESPONSE_FAIL

def processStaConnect (c : Ctx) : Handler Unit := answer c CMD_STA_CONNECT do
  if c.len < 52 then return CMD_RESPONSE_INVALID
  else if ← monitorRejects 49 then return CMD_RESPONSE_BUSY
  else
    let ieLen ← byte 51
    if cmdFlexLenValid c.len 52 ieLen.toNat = false then return CMD_RESPONSE_INVALID
    else
      let _ ← read 16 32
      let _ ← byte 50
      let _ ← read 8 6
      let _ ← byte 49
      onlyIf (ieLen ≠ 0) do
        let _ ← read 52 ieLen.toNat
      let started ← chain [call,hostedWifiStart]
      if started ≠ 0 then return CMD_RESPONSE_FAIL
      else
        let _ ← read 8 6
        return okOr CMD_RESPONSE_FAIL (← call)

/-- A stop that fails while there may be a radio restarts the firmware. -/
def stopOrRestart : Handler Unit := do
  let ret ← hostedWifiStop
  onlyIf (wifiStopped ret = false) espRestart

/-- Monitoring survives on an idle station, and otherwise on a radio that is built again. -/
def retireRadio (monitoring idle : Bool) : Handler Unit := do
  if monitoring = false then stopOrRestart
  else if idle then return ()
  else
    stopOrRestart
    let ret ← chain [call,call,call,hostedWifiStart]
    onlyIf (ret ≠ 0) espRestart

def processDeinitInterface (c : Ctx) : Handler Unit := do
  hostedMgmtFailPending
  let idle ← (if c.ifType = ESP_STA_IF then test else pure false)
  let monitoring ← test
  retireRadio monitoring idle
  sendCommandResp c CMD_DEINIT_INTERFACE CMD_RESPONSE_SUCCESS []

def processInitInterface (c : Ctx) : Handler Unit := answer c CMD_INIT_INTERFACE do
  let ret ← call
  if ret ≠ 0 then return CMD_RESPONSE_FAIL
  else if ← test then
    if c.ifType = ESP_AP_IF then return okOr CMD_RESPONSE_FAIL (← chain [call,call,hostedWifiStart])
    else if c.ifType = ESP_STA_IF then return okOr CMD_RESPONSE_FAIL (← chain [call,hostedWifiStart])
    else return CMD_RESPONSE_FAIL
  else return CMD_RESPONSE_SUCCESS

def processGetMac (c : Ctx) : Handler Unit := do
  let devMac ← fetch
  sendCommandResp c CMD_GET_MAC CMD_RESPONSE_SUCCESS (devMac.take 6)

def processSetMac (c : Ctx) : Handler Unit := do
  let mac ← read 8 6
  let ret ← call
  sendCommandResp c CMD_SET_MAC (okOr CMD_RESPONSE_FAIL ret) mac

def processSetDefaultKey (c : Ctx) : Handler Unit := answer c CMD_SET_DEFAULT_KEY do
  if c.len < 76 then return CMD_RESPONSE_INVALID else return CMD_RESPONSE_SUCCESS

def processDelKey (c : Ctx) : Handler Unit := answer c CMD_DEL_KEY do
  if c.len < 76 then return CMD_RESPONSE_INVALID
  else
    let del ← byte 72
    return if del = 0 then CMD_RESPONSE_FAIL else CMD_RESPONSE_SUCCESS

def processAddKey (c : Ctx) : Handler Unit := answer c CMD_ADD_KEY do
  if c.len < 76 then return CMD_RESPONSE_INVALID
  else
    let keyLen ← le32 48
    let seqLen ← le32 68
    if 32 < keyLen ∨ 10 < seqLen then return CMD_RESPONSE_INVALID
    else if ← test then return CMD_RESPONSE_FAIL
    else
      let _ ← read 0 76
      return okOr CMD_RESPONSE_FAIL (← call)

/-- Back from a transition: the old settings, then started or stopped as before. -/
def transitionRollback : Handler Unit := do
  let lost ← test
  let starts ← test
  let stops ← test
  let ret ← (if starts then hostedWifiStart else if stops then hostedWifiStop else pure 0)
  onlyIf (lost ∨ ret ≠ 0) espRestart

def transition (forward : Handler Int) : Handler UInt8 := do
  let ret ← forward
  if ret = 0 then
    hostedMgmtFailPending
    return CMD_RESPONSE_SUCCESS
  else
    transitionRollback
    return CMD_RESPONSE_FAIL

def modeStatus (req : Nat) : Handler UInt8 := do
  let got ← call
  if got ≠ 0 then return CMD_RESPONSE_FAIL
  else if ← test then return CMD_RESPONSE_SUCCESS
  else
    let same ← test
    let stopped ← (if same then pure 0 else hostedWifiStop)
    if stopped ≠ 0 then return CMD_RESPONSE_FAIL
    else
      let changes := if req = 1 then [call,call,call] else [call,call,call,call]
      transition (chain
        [if same then pure 0 else chain changes,
         if req = 1 then pure 0 else mgmtTxEnsureCb,
         do if ← test then pure 0 else hostedWifiStart])

def processSetMode (c : Ctx) : Handler Unit := do
  if c.len < 12 then sendCommandResp c CMD_SET_MODE CMD_RESPONSE_INVALID []
  else
    let req ← le16 8
    if req ≠ 1 ∧ req ≠ 2 ∧ req ≠ 3 then sendCommandResp c CMD_SET_MODE CMD_RESPONSE_INVALID []
    else
      let status ← modeStatus req
      sendCommandResp c CMD_SET_MODE status [UInt8.ofNat req,0]

/-- The types of an IE: beacon, probe and association response, head and tail. -/
def ieTypes : List UInt8 := [0,1,2,4,5]

def processSetIe (c : Ctx) : Handler Unit := answer c CMD_SET_IE do
  if c.len < 12 then return CMD_RESPONSE_INVALID
  else
    let ieLen ← le16 10
    if cmdFlexLenValid c.len 12 ieLen = false then return CMD_RESPONSE_INVALID
    else if c.ifType ≠ ESP_AP_IF then return CMD_RESPONSE_INVALID
    else
      let ieType ← byte 8
      if ieType ∉ ieTypes then return CMD_RESPONSE_INVALID
      else
        onlyIf (ieLen ≠ 0) do
          let _ ← read 12 ieLen
        return okOr CMD_RESPONSE_INVALID (← call)

def apConfigStatus (c : Ctx) : Handler UInt8 := do
  if c.ifType ≠ ESP_AP_IF ∨ c.len < 53 then return CMD_RESPONSE_INVALID
  else if ← monitorRejects 41 then return CMD_RESPONSE_BUSY
  else
    let ssidLen ← byte 40
    if 32 < ssidLen.toNat then return CMD_RESPONSE_INVALID
    else
      let _ ← le16 48
      let inactivity ← le16 50
      let _ ← read 8 ssidLen.toNat
      let _ ← byte 52
      let _ ← byte 41
      let _ ← byte 43
      let got ← call
      if got ≠ 0 then return CMD_RESPONSE_FAIL
      else
        let stopped ← hostedWifiStop
        if stopped ≠ 0 then return CMD_RESPONSE_FAIL
        else transition (chain
          [do if ← test then pure 0 else call,
           call,
           if inactivity = 0 then pure 0 else call,
           mgmtTxEnsureCb,
           call,
           hostedWifiStart])

def processSetApConfig (c : Ctx) : Handler Unit := answer c CMD_AP_CONFIG (apConfigStatus c)

def STA_FLAG_AUTHORIZED : Nat := 1

def addStationNodeAp : Handler Int := do
  let cmd ← le16 14
  let flagsSet ← le32 20
  let flagsMask ← le32 16
  let _ ← le16 32
  let _ ← read 8 6
  if cmd = 1 then
    let _ ← le32 24
    if flagsMask.testBit STA_FLAG_AUTHORIZED = false then return 0
    else if flagsSet.testBit STA_FLAG_AUTHORIZED then call
    else return ESP_ERR_NOT_SUPPORTED
  else if cmd = 0 then
    let _ ← read 40 12
    let _ ← read 52 28
    let _ ← read 80 14
    let _ ← read 96 27
    call
  else return ESP_ERR_INVALID_ARG

def processApStation (c : Ctx) : Handler Unit := answer c CMD_AP_STATION do
  if c.ifType ≠ ESP_AP_IF ∨ c.len < 124 then return CMD_RESPONSE_INVALID
  else return okOr CMD_RESPONSE_FAIL (← addStationNodeAp)

def monitorStatus (ret : Int) : UInt8 :=
  if ret = ESP_ERR_INVALID_ARG then CMD_RESPONSE_INVALID
  else if ret = ESP_ERR_INVALID_STATE then CMD_RESPONSE_BUSY
  else okOr CMD_RESPONSE_FAIL ret

def processMonitorConfig (c : Ctx) : Handler Unit := answer c CMD_MONITOR_CONFIG do
  if c.ifType ≠ ESP_MONITOR_IF ∨ c.len < 12 then return CMD_RESPONSE_INVALID
  else
    let enable ← byte 8
    if 1 < enable.toNat then return CMD_RESPONSE_INVALID
    else
      let _ ← byte 9
      let dead ← test
      onlyIf dead espRestart
      return monitorStatus (← call)

def processHostReboot (c : Ctx) : Handler Unit := do
  if c.ifType ≠ ESP_INTERNAL_IF ∨ c.len < 8 then return ()
  else sendCommandResp c CMD_HOST_REBOOT (if c.cfg.spi then CMD_RESPONSE_SUCCESS else CMD_RESPONSE_UNSUPPORTED) []

def rawTpCodes : List UInt8 := [CMD_RAW_TP_ESP_TO_HOST,CMD_RAW_TP_HOST_TO_ESP,CMD_RAW_TP_BIDIRECTIONAL]

def processRawTp (c : Ctx) : Handler Unit := do
  if c.len < 8 then return ()
  else
    let code ← byte 0
    if code ∉ rawTpCodes then return ()
    else
      let setup ← chain [call,if code = CMD_RAW_TP_HOST_TO_ESP then pure 0 else call]
      let seq ← le16 4
      onlyIf (setup = 0 ∧ 12 ≤ c.len) do
        let _ ← le32 8
      respond
        {ifType := c.ifType, code := code, status := okOr CMD_RESPONSE_FAIL setup, seq := seq, data := [], len := 8}

/-! Management frames. -/

def hostedSendMgmtAccept (status : UInt8) (seq : Nat) : Handler Unit :=
  respond
    {ifType := ESP_AP_IF, code := CMD_MGMT_TX, status := status, seq := seq,
     reserved1 := HOSTED_MGMT_TX_ASYNC_STATUS_V1, data := List.replicate 20 0, len := 28}

/-- `send_mgmt_tx_done`; a frame that is too long for a buffer is not sent. -/
def mgmtTxDone (ifType : Nat) (status : UInt8) (data : Bytes) (seq : Nat) : Option Resp :=
  if 65535-28 < data.length then none
  else some
    {ifType := ifType, code := CMD_MGMT_TX, status := status, seq := seq,
     data := List.replicate 16 0 ++
       [UInt8.ofNat data.length,UInt8.ofNat (data.length/256),UInt8.ofNat (data.length/65536),0] ++ data,
     len := 28+data.length}

def sendMgmtTxDone (ifType : Nat) (status : UInt8) (data : Bytes) (seq : Nat) : Handler Unit :=
  match mgmtTxDone ifType status data seq with
  | none => pure ()
  | some r => respond r

def processMgmtTxUnmarked (c : Ctx) : Handler Unit := do
  if c.len < 20 then sendCommandResp c CMD_MGMT_TX CMD_RESPONSE_INVALID []
  else
    let seq ← le16 4
    let frameLen ← le32 16
    if cmdFlexLenValid c.len 20 frameLen = false ∨ frameLen < 10 then
      sendMgmtTxDone ESP_AP_IF CMD_RESPONSE_INVALID [] seq
    else
      let softap ← test
      if c.ifType ≠ ESP_AP_IF ∨ softap = false then sendMgmtTxDone ESP_STA_IF CMD_RESPONSE_INVALID [] seq
      else
        let cb ← mgmtTxEnsureCb
        if cb ≠ 0 then sendMgmtTxDone ESP_AP_IF CMD_RESPONSE_FAIL [] seq
        else
          let da ← read 24 6
          let begun ← mgmtTxInflightBegin seq da
          if begun = false then sendMgmtTxDone ESP_AP_IF CMD_RESPONSE_BUSY [] seq
          else
            let _ ← read 20 frameLen
            let ret ← call
            if ret ≠ 0 then
              mgmtTxInflightTake
              sendMgmtTxDone ESP_AP_IF CMD_RESPONSE_INVALID [] seq
            else
              let da ← read 24 6
              if da = broadcastMac then
                mgmtTxInflightTake
                sendMgmtTxDone ESP_AP_IF CMD_RESPONSE_SUCCESS [] seq
              else return ()

/-- `hosted_mgmt_mark_accepted`: a status that cannot be delivered restarts the firmware. -/
def hostedMgmtMarkAccepted : Handler Unit := do
  let lost ← test
  onlyIf lost espRestart

def processMgmtTx (c : Ctx) : Handler Unit := do
  if c.len < 28 then hostedSendMgmtAccept CMD_RESPONSE_INVALID c.seq
  else
    let marker ← byte 6
    if marker ≠ HOSTED_MGMT_TX_ASYNC_STATUS_V1 then processMgmtTxUnmarked c
    else
      let seq ← le16 4
      let frameLen ← le32 24
      let _ ← read 16 8
      if cmdFlexLenValid c.len 28 frameLen = false ∨ frameLen < HOSTED_MGMT_HDR_LEN then
        hostedSendMgmtAccept CMD_RESPONSE_INVALID seq
      else
        let softap ← test
        if c.ifType ≠ ESP_AP_IF ∨ softap = false then hostedSendMgmtAccept CMD_RESPONSE_INVALID seq
        else if ← test then hostedSendMgmtAccept CMD_RESPONSE_BUSY seq
        else
          let cb ← mgmtTxEnsureCb
          if cb ≠ 0 then hostedSendMgmtAccept CMD_RESPONSE_BUSY seq
          else
            let da ← read 32 6
            let dontWait ← byte 15
            let track := decide (da ≠ broadcastMac ∧ dontWait = 0)
            let begun ← (if track then (do let _ ← read 28 frameLen; call) else pure 0)
            if begun ≠ 0 then hostedSendMgmtAccept CMD_RESPONSE_BUSY seq
            else
              let _ ← read 28 frameLen
              let ret ← call
              if ret ≠ 0 then hostedSendMgmtAccept CMD_RESPONSE_BUSY seq
              else
                hostedSendMgmtAccept CMD_RESPONSE_SUCCESS seq
                if track then hostedMgmtMarkAccepted
                else
                  let _ ← read 28 frameLen
                  return ()

/-! The dispatcher. -/

structure Entry where
  cmdCode : UInt8
  minPayloadLen : Nat
  handler : Ctx → Handler Unit

def sCmdTable : List Entry :=
  [⟨CMD_INIT_INTERFACE,0,processInitInterface⟩,
   ⟨CMD_SET_MAC,16,processSetMac⟩,
   ⟨CMD_GET_MAC,0,processGetMac⟩,
   ⟨CMD_SCAN_REQUEST,52,processStartScan⟩,
   ⟨CMD_STA_CONNECT,0,processStaConnect⟩,
   ⟨CMD_DISCONNECT,16,processDisconnect⟩,
   ⟨CMD_DEINIT_INTERFACE,0,processDeinitInterface⟩,
   ⟨CMD_ADD_KEY,0,processAddKey⟩,
   ⟨CMD_DEL_KEY,0,processDelKey⟩,
   ⟨CMD_SET_DEFAULT_KEY,0,processSetDefaultKey⟩,
   ⟨CMD_STA_AUTH,0,processAuthRequest⟩,
   ⟨CMD_STA_ASSOC,0,processAssocRequest⟩,
   ⟨CMD_SET_IP_ADDR,12,processSetIp⟩,
   ⟨CMD_SET_MCAST_MAC_ADDR,57,processSetMcastMacList⟩,
   ⟨CMD_GET_TXPOWER,0,processGetTxPower⟩,
   ⟨CMD_SET_TXPOWER,12,processSetTxPower⟩,
   ⟨CMD_GET_REG_DOMAIN,0,processRegGet⟩,
   ⟨CMD_SET_REG_DOMAIN,12,processRegSet⟩,
   ⟨CMD_RAW_TP_ESP_TO_HOST,0,processRawTp⟩,
   ⟨CMD_RAW_TP_HOST_TO_ESP,0,processRawTp⟩,
   ⟨CMD_RAW_TP_BIDIRECTIONAL,0,processRawTp⟩,
   ⟨CMD_SET_WOW_CONFIG,13,processWowSet⟩,
   ⟨CMD_SET_MODE,0,processSetMode⟩,
   ⟨CMD_SET_IE,0,processSetIe⟩,
   ⟨CMD_AP_CONFIG,0,processSetApConfig⟩,
   ⟨CMD_MGMT_TX,0,processMgmtTx⟩,
   ⟨CMD_AP_STATION,124,processApStation⟩,
   ⟨CMD_STA_RSSI,0,processRssi⟩,
   ⟨CMD_SET_TIME,24,processSetTime⟩,
   ⟨CMD_START_OTA_UPDATE,0,processOtaStart⟩,
   ⟨CMD_START_OTA_WRITE,0,processOtaWrite⟩,
   ⟨CMD_START_OTA_END,0,processOtaEnd⟩,
   ⟨CMD_STA_SET_AUTHORIZED,16,processStaSetAuthorized⟩,
   ⟨CMD_SET_RADIO_SERVICE,20,processRadioService⟩,
   ⟨CMD_GET_RADIO_SERVICE,8,processRadioService⟩,
   ⟨CMD_HOST_REBOOT,8,processHostReboot⟩,
   ⟨CMD_MONITOR_CONFIG,12,processMonitorConfig⟩]

def espCmdDispatch (cfg : Config) (ifType payloadLen : Nat) : Handler Unit := do
  if payloadLen < 8 then return ()
  else
    let cmdCode ← byte 0
    let activeCmdSeq ← le16 4
    let c : Ctx := ⟨cfg,ifType,payloadLen,cmdCode,activeCmdSeq⟩
    match sCmdTable.find? (fun e => e.cmdCode = cmdCode) with
    | none => sendCommandResp c cmdCode CMD_RESPONSE_UNSUPPORTED []
    | some e =>
      if payloadLen < e.minPayloadLen then sendCommandResp c cmdCode CMD_RESPONSE_FAIL []
      else e.handler c

end EspHosted.Dispatch
