import EspHosted.Mlme
import EspHosted.SkbRxSafe

/-!
The events of `main/cmd.c` from the firmware to the driver: what the Wi-Fi library reports goes into a packed
record, and `process_cmd_event` takes it out again. The records of AUTH, ASSOC and DISCONNECT wait in a copy of
the skb; what is read from the copy is an event of the MLME model.
-/

set_option autoImplicit false

namespace EspHosted.MgmtEvents
open EspHosted Prog Packed SkbRx

/-- A received frame behind its IEEE header, as the Wi-Fi library hands it over. -/
structure RxFrame where
  frameType : UInt8
  channel : UInt8
  sender : Block 6
  rssi : UInt32
  tsf : UInt64
  frame : Bytes
  deriving DecidableEq

inductive Event where
  | scanDone
  | probe (r : RxFrame)
  | auth (seq : UInt16) (r : RxFrame)
  | assoc (seq : UInt16) (r : RxFrame)
  | disconnect (status : UInt8) (bssid : Block 6) (ssid : Bytes) (reason : UInt8) (seq : UInt16)
  | apMgmt (nf rssi chan : UInt32) (frame : Bytes)
  | txStatus (ack : Bool) (cookie : UInt64) (frame : Bytes)
  deriving DecidableEq

def MAX_SSID_LEN : Nat := 32

/-- `struct ieee_mgmt_header` -/
def ieeeMgmtHeader (mac : Block 6) (r : RxFrame) : Bytes :=
  record [leBytes 2 (r.frameType.toNat*16),leBytes 2 0,mac.bytes,r.sender.bytes,r.sender.bytes,leBytes 2 0]

def mgmtFrame (mac : Block 6) (r : RxFrame) : Bytes := ieeeMgmtHeader mac r ++ r.frame

/-- `struct event_header`, `len` counting what is behind it. -/
def eventHeader (code status : UInt8) (len : Nat) : List Octets := [[code],[status],leBytes 2 len]

/-- The members in front of the frame; `prepare_event` has zeroed what is not set. -/
def Event.members (mac : Block 6) : Event → List Octets
  | .scanDone => eventHeader EVENT_SCAN_RESULT 0 0
  | .probe r => eventHeader EVENT_SCAN_RESULT 1 (24+r.frame.length) ++
    [r.sender.bytes,[r.frameType],[r.channel],leBytes 4 r.rssi.toNat,leBytes 8 r.tsf.toNat,
      leBytes 2 r.frame.length,leBytes 2 0]
  | .auth seq r => eventHeader EVENT_AUTH_RX 0 (24+(mgmtFrame mac r).length) ++
    [r.sender.bytes,[r.frameType],[r.channel],leBytes 4 r.rssi.toNat,leBytes 8 r.tsf.toNat,
      leBytes 2 (mgmtFrame mac r).length,leBytes 2 seq.toNat]
  | .assoc seq r => eventHeader EVENT_ASSOC_RX 0 (58+(mgmtFrame mac r).length) ++
    [r.sender.bytes,[r.frameType],[r.channel],leBytes (MAX_SSID_LEN+1) 0,[0],leBytes 2 seq.toNat,
      leBytes 2 (mgmtFrame mac r).length,leBytes 4 r.rssi.toNat,leBytes 8 r.tsf.toNat]
  | .disconnect status bssid ssid reason seq => eventHeader EVENT_STA_DISCONNECT status 42 ++
    [bssid.bytes,ssid,leBytes (MAX_SSID_LEN+1-ssid.length) 0,[reason],leBytes 2 seq.toNat]
  | .apMgmt nf rssi chan frame => eventHeader EVENT_AP_MGMT_RX 0 (16+frame.length) ++
    [leBytes 4 nf.toNat,leBytes 4 rssi.toNat,leBytes 4 chan.toNat,leBytes 4 frame.length]
  | .txStatus ack cookie frame => eventHeader HOSTED_EVENT_MGMT_TX_STATUS 0 (16+frame.length) ++
    [leBytes 8 cookie.toNat,leBytes 4 frame.length,[if ack then 1 else 0],leBytes 3 0]

def Event.frame (mac : Block 6) : Event → Bytes
  | .scanDone | .disconnect .. => []
  | .probe r => r.frame
  | .auth _ r | .assoc _ r => mgmtFrame mac r
  | .apMgmt _ _ _ frame | .txStatus _ _ frame => frame

def Event.encode (mac : Block 6) (e : Event) : Bytes := record (e.members mac) ++ e.frame mac

/-- `prepare_event` takes the length in sixteen bits; the IDF reports no longer name of a network, and a beacon or a
probe response has its fixed fields. -/
def Event.Fits (mac : Block 6) (e : Event) : Prop :=
  (e.encode mac).length < 2^16 ∧ match e with
    | .probe r => fixedParamsSize ≤ r.frame.length
    | .disconnect _ _ ssid _ _ => ssid.length ≤ MAX_SSID_LEN
    | .txStatus _ cookie _ => cookie ≠ 0
    | _ => True

/-! What the driver makes of a record. -/

def bssidOf (b : Bytes) : Mlme.Bssid := BitVec.ofNat 48 (leValue b)

def readFrameEvent (seqOffset lenOffset frameOffset : Nat) (b : Bytes) : Mlme.FrameEvent where
  seq := UInt16.ofNat (le seqOffset 2 b)
  bssid := bssidOf (field 4 6 b)
  frameLen := UInt16.ofNat (le lenOffset 2 b)
  frame := b.drop frameOffset

def readDisconnectEvent (b : Bytes) : Mlme.DisconnectEvent where
  seq := UInt16.ofNat (le 44 2 b)
  bssid := bssidOf (field 4 6 b)
  status := byteOf 1 b
  reason := byteOf 43 b

/-- What `esp_mlme_stage_event` has put aside, as the section that delivers it reads it. -/
def readStaged (code : UInt8) (b : Bytes) : Mlme.Event :=
  if code = EVENT_AUTH_RX then .authRx (readFrameEvent 26 24 authFrameOffset b)
  else if code = EVENT_ASSOC_RX then .assocRx (readFrameEvent 46 48 assocFrameOffset b)
  else .staDisconnect (readDisconnectEvent b)

inductive Seen where
  | scanDone
  | bss (frameType channel : UInt8) (bssid : Bytes) (rssi : Nat) (frame : Bytes)
  | mlme (e : Mlme.Event)
  | rxMgmt (chan rssi : Nat) (frame : Bytes)
  | txStatus (ack : Bool) (frame : Bytes)
  deriving DecidableEq

def seen : Report → Option Seen
  | .scanDone => some .scanDone
  | .informBss frameType channel bssid rssi fixed ies => some (.bss frameType channel bssid rssi (fixed ++ ies))
  | .stage code copy => some (.mlme (readStaged code copy))
  | .rxMgmt chan rssi frame => some (.rxMgmt chan rssi frame)
  | .txStatus ack frame => some (.txStatus ack frame)
  | _ => none

def Event.seen (mac : Block 6) : Event → Seen
  | .scanDone => .scanDone
  | .probe r => .bss r.frameType r.channel r.sender.bytes r.rssi.toNat r.frame
  | .auth seq r => .mlme (.authRx ⟨seq,bssidOf r.sender.bytes,UInt16.ofNat (mgmtFrame mac r).length,mgmtFrame mac r⟩)
  | .assoc seq r => .mlme (.assocRx ⟨seq,bssidOf r.sender.bytes,UInt16.ofNat (mgmtFrame mac r).length,mgmtFrame mac r⟩)
  | .disconnect status bssid _ reason seq => .mlme (.staDisconnect ⟨seq,bssidOf bssid.bytes,status,reason⟩)
  | .apMgmt _ rssi chan frame => .rxMgmt chan.toNat rssi.toNat frame
  | .txStatus ack _ frame => .txStatus ack frame

/-- What the driver has to find true to take the event. -/
def Event.questions : Event → List Test
  | .scanDone => [.scanAwaited]
  | .probe r => [.scanInProgress,.channelUsable r.channel]
  | .auth seq r => [.ndev,.authExpected seq.toNat r.sender.bytes,.copied,.stageRoom EVENT_AUTH_RX]
  | .assoc seq r => [.assocExpected seq.toNat r.sender.bytes,.copied,.stageRoom EVENT_ASSOC_RX]
  | .disconnect _ _ _ _ seq => [.disconnectExpected seq.toNat,.copied,.stageRoom EVENT_STA_DISCONNECT]
  | .apMgmt .. => [.ndev]
  | .txStatus _ cookie _ => [.mgmtTxPending cookie.toNat,.ndev]

/-- The event is told once when all questions are answered with yes, and not at all otherwise. -/
def Told (mac : Block 6) (answer : Test → Bool) (e : Event) (f : Bytes) (rs : List Report) (s : St) : Prop :=
  s.skb = .held f (e.encode mac) ∧
    if e.questions.all answer then ∃ r, MgmtEvents.seen r = some (e.seen mac) ∧ s.reports = rs ++ [r] else s.reports = rs

/-! Members of the records. -/

theorem le_head {off w n : Nat} {b : Bytes} (h : off+w ≤ n) : le off w (field 0 n b) = le off w b := by
  rw [le,le,field.eq_1 0,List.drop_zero,field_take b h]

theorem byteOf_head {off n : Nat} {b : Bytes} (h : off+1 ≤ n) : byteOf off (field 0 n b) = byteOf off b := by
  rw [byteOf,byteOf,field.eq_1 0,List.drop_zero,field_take b h]

theorem field_head {off w n : Nat} {b : Bytes} (h : off+w ≤ n) : field off w (field 0 n b) = field off w b := by
  rw [field.eq_1 0,List.drop_zero,field_take b h]

theorem le_member {ms : List Octets} {body : Bytes} {off w v : Nat} (i : Nat) (hm : ms[i]? = some (leBytes w v))
    (ho : off = offsetOf ms i) (hv : v < 256^w) : le off w (record ms ++ body) = v := by
  rw [le,read_member i body _ hm ho (by simp),leValue_leBytes hv]

theorem byteOf_member {ms : List Octets} {body : Bytes} {off : Nat} {v : UInt8} (i : Nat) (hm : ms[i]? = some [v])
    (ho : off = offsetOf ms i) : byteOf off (record ms ++ body) = v := by
  have hf : field off 1 (record ms ++ body) = [v] := read_member i body _ hm ho rfl
  rw [byteOf,hf]
  rfl

theorem drop_record {ms : List Octets} {body : Bytes} {off : Nat} (ho : off = (record ms).length) :
    (record ms ++ body).drop off = body := by
  rw [ho,List.drop_left]

theorem field_body_at {ms : List Octets} {body : Bytes} {off : Nat} (ho : off = (record ms).length) :
    field off body.length (record ms ++ body) = body := by
  rw [ho,field_body]

/-! Event by event. -/

section

variable {mac : Block 6} {answer : Test → Bool} {f : Bytes} {rs : List Report}

theorem does_skbHasFlexFrame {n fixed frameLen : Nat} (h : n = fixed+frameLen) : skbHasFlexFrame n fixed frameLen = true := by
  simp [skbHasFlexFrame]
  omega

theorem does_stage {code : UInt8} {d : Bytes} {Q : Unit → St → Prop} :
    wp (rules fun t b => b = answer t) (espMlmeStageEvent code) ⟨.held f d,rs⟩ Q ↔
      Q () ⟨.held f d,if answer .copied && answer (.stageRoom code) then rs ++ [.stage code d] else rs⟩ := by
  have hall : field 0 d.length d = d := field_all d
  cases hc : answer .copied <;> cases hr : answer (.stageRoom code) <;> simp [espMlmeStageEvent,hc,hr,hall]

theorem processAuthEvent_told (seq : UInt16) (r : RxFrame) (h : ((Event.auth seq r).encode mac).length < 2^16) :
    wp (rules fun t b => b = answer t) processAuthEvent ⟨.held f ((Event.auth seq r).encode mac),rs⟩
      fun _ s => Told mac answer (.auth seq r) f rs s := by
  have hlen : ((Event.auth seq r).encode mac).length = authFrameOffset+(mgmtFrame mac r).length := by
    simp [Event.encode,Event.frame,record,Event.members,eventHeader,authFrameOffset]
    omega
  have hbssid : field 4 6 ((Event.auth seq r).encode mac) = r.sender.bytes := read_member 3 _ _ rfl rfl (by simp)
  have hfl : le 24 2 ((Event.auth seq r).encode mac) = (mgmtFrame mac r).length :=
    le_member 8 rfl (by simp [offsetOf,record,Event.members,eventHeader]) (by omega)
  have hseq : le 26 2 ((Event.auth seq r).encode mac) = seq.toNat :=
    le_member 9 rfl (by simp [offsetOf,record,Event.members,eventHeader]) seq.toNat_lt
  have hdrop : ((Event.auth seq r).encode mac).drop authFrameOffset = mgmtFrame mac r :=
    drop_record (by simp [record,Event.members,eventHeader,authFrameOffset])
  have hread : readStaged EVENT_AUTH_RX ((Event.auth seq r).encode mac) = .authRx
      ⟨seq,bssidOf r.sender.bytes,UInt16.ofNat (mgmtFrame mac r).length,mgmtFrame mac r⟩ := by
    simp only [readStaged,readFrameEvent,hbssid,hfl,hseq,hdrop,if_true,UInt16.ofNat_toNat]
  have hn : ¬((Event.auth seq r).encode mac).length < authFrameOffset := by omega
  have h24 : 24+2 ≤ authFrameOffset := by decide
  have h26 : 26+2 ≤ authFrameOffset := by decide
  have h4 : 4+6 ≤ authFrameOffset := by decide
  simp only [processAuthEvent,wp_bind,wp_ite,wp_pure,does_ask_fixed,does_skbLen,does_read,does_stage,le_head h24,le_head h26,
    field_head h4,hbssid,hfl,hseq,hn,does_skbHasFlexFrame hlen]
  cases hd : answer .ndev <;> cases ha : answer (.authExpected seq.toNat r.sender.bytes) <;> cases hc : answer .copied <;>
    cases hr : answer (.stageRoom EVENT_AUTH_RX) <;>
    simp [Told,Event.questions,hd,ha,hc,hr,seen,hread,Event.seen] <;> omega

theorem processAssocEvent_told (seq : UInt16) (r : RxFrame) (h : ((Event.assoc seq r).encode mac).length < 2^16) :
    wp (rules fun t b => b = answer t) processAssocEvent ⟨.held f ((Event.assoc seq r).encode mac),rs⟩
      fun _ s => Told mac answer (.assoc seq r) f rs s := by
  have hlen : ((Event.assoc seq r).encode mac).length = assocFrameOffset+(mgmtFrame mac r).length := by
    simp [Event.encode,Event.frame,record,Event.members,eventHeader,assocFrameOffset,MAX_SSID_LEN]
    omega
  have hbssid : field 4 6 ((Event.assoc seq r).encode mac) = r.sender.bytes := read_member 3 _ _ rfl rfl (by simp)
  have hseq : le 46 2 ((Event.assoc seq r).encode mac) = seq.toNat :=
    le_member 8 rfl (by simp [offsetOf,record,Event.members,eventHeader,MAX_SSID_LEN]) seq.toNat_lt
  have hfl : le 48 2 ((Event.assoc seq r).encode mac) = (mgmtFrame mac r).length :=
    le_member 9 rfl (by simp [offsetOf,record,Event.members,eventHeader,MAX_SSID_LEN]) (by omega)
  have hdrop : ((Event.assoc seq r).encode mac).drop assocFrameOffset = mgmtFrame mac r :=
    drop_record (by simp [record,Event.members,eventHeader,assocFrameOffset,MAX_SSID_LEN])
  have hread : readStaged EVENT_ASSOC_RX ((Event.assoc seq r).encode mac) = .assocRx
      ⟨seq,bssidOf r.sender.bytes,UInt16.ofNat (mgmtFrame mac r).length,mgmtFrame mac r⟩ := by
    have hne : ¬EVENT_ASSOC_RX = EVENT_AUTH_RX := by decide
    simp only [readStaged,readFrameEvent,hbssid,hfl,hseq,hdrop,hne,if_true,if_false,UInt16.ofNat_toNat]
  have hn : ¬((Event.assoc seq r).encode mac).length < assocFrameOffset := by omega
  have h46 : 46+2 ≤ assocFrameOffset := by decide
  have h48 : 48+2 ≤ assocFrameOffset := by decide
  have h4 : 4+6 ≤ assocFrameOffset := by decide
  simp only [processAssocEvent,wp_bind,wp_ite,wp_pure,does_ask_fixed,does_skbLen,does_read,does_stage,le_head h46,le_head h48,
    field_head h4,hbssid,hfl,hseq,hn,does_skbHasFlexFrame hlen]
  cases ha : answer (.assocExpected seq.toNat r.sender.bytes) <;> cases hc : answer .copied <;>
    cases hr : answer (.stageRoom EVENT_ASSOC_RX) <;>
    simp [Told,Event.questions,ha,hc,hr,seen,hread,Event.seen] <;> omega

theorem processDisconnectEvent_told {status reason : UInt8} {bssid : Block 6} {ssid : Bytes} {seq : UInt16}
    (h : ssid.length ≤ MAX_SSID_LEN) :
    wp (rules fun t b => b = answer t) processDisconnectEvent
      ⟨.held f ((Event.disconnect status bssid ssid reason seq).encode mac),rs⟩
      fun _ s => Told mac answer (.disconnect status bssid ssid reason seq) f rs s := by
  simp only [MAX_SSID_LEN] at h
  have hlen : ((Event.disconnect status bssid ssid reason seq).encode mac).length = disconnectEventSize := by
    simp [Event.encode,Event.frame,record,Event.members,eventHeader,disconnectEventSize,MAX_SSID_LEN]
    omega
  have hstatus : byteOf 1 ((Event.disconnect status bssid ssid reason seq).encode mac) = status := byteOf_member 1 rfl rfl
  have hbssid : field 4 6 ((Event.disconnect status bssid ssid reason seq).encode mac) = bssid.bytes :=
    read_member 3 _ _ rfl rfl (by simp)
  have hreason : byteOf 43 ((Event.disconnect status bssid ssid reason seq).encode mac) = reason :=
    byteOf_member 6 rfl (by simp [offsetOf,record,Event.members,eventHeader,MAX_SSID_LEN]; omega)
  have hseq : le 44 2 ((Event.disconnect status bssid ssid reason seq).encode mac) = seq.toNat :=
    le_member 7 rfl (by simp [offsetOf,record,Event.members,eventHeader,MAX_SSID_LEN]; omega) seq.toNat_lt
  have hread : readStaged EVENT_STA_DISCONNECT ((Event.disconnect status bssid ssid reason seq).encode mac) = .staDisconnect
      ⟨seq,bssidOf bssid.bytes,status,reason⟩ := by
    have hauth : ¬EVENT_STA_DISCONNECT = EVENT_AUTH_RX := by decide
    have hassoc : ¬EVENT_STA_DISCONNECT = EVENT_ASSOC_RX := by decide
    simp only [readStaged,readDisconnectEvent,hstatus,hbssid,hreason,hseq,hauth,hassoc,if_false,UInt16.ofNat_toNat]
  have hn : ¬((Event.disconnect status bssid ssid reason seq).encode mac).length < disconnectEventSize := by omega
  have h44 : 44+2 ≤ disconnectEventSize := by decide
  simp only [processDisconnectEvent,wp_bind,wp_ite,wp_pure,does_ask_fixed,does_skbLen,does_read,does_stage,le_head h44,hseq,hn]
  cases ha : answer (.disconnectExpected seq.toNat) <;> cases hc : answer .copied <;>
    cases hr : answer (.stageRoom EVENT_STA_DISCONNECT) <;>
    simp [Told,Event.questions,ha,hc,hr,seen,hread,Event.seen] <;> omega

theorem processApMgmtRx_told {nf rssi chan : UInt32} {frame : Bytes}
    (h : ((Event.apMgmt nf rssi chan frame).encode mac).length < 2^16) :
    wp (rules fun t b => b = answer t) processApMgmtRx ⟨.held f ((Event.apMgmt nf rssi chan frame).encode mac),rs⟩
      fun _ s => Told mac answer (.apMgmt nf rssi chan frame) f rs s := by
  have hlen : ((Event.apMgmt nf rssi chan frame).encode mac).length = mgmtFrameOffset+frame.length := by
    simp [Event.encode,Event.frame,record,Event.members,eventHeader,mgmtFrameOffset]
    omega
  have hrssi : le 8 4 ((Event.apMgmt nf rssi chan frame).encode mac) = rssi.toNat := le_member 4 rfl rfl rssi.toNat_lt
  have hchan : le 12 4 ((Event.apMgmt nf rssi chan frame).encode mac) = chan.toNat := le_member 5 rfl rfl chan.toNat_lt
  have hfl : le 16 4 ((Event.apMgmt nf rssi chan frame).encode mac) = frame.length := le_member 6 rfl rfl (by omega)
  have hframe : field mgmtFrameOffset frame.length ((Event.apMgmt nf rssi chan frame).encode mac) = frame := field_body_at rfl
  have hn : ¬((Event.apMgmt nf rssi chan frame).encode mac).length < mgmtFrameOffset := by omega
  have h8 : 8+4 ≤ mgmtFrameOffset := by decide
  have h12 : 12+4 ≤ mgmtFrameOffset := by decide
  have h16 : 16+4 ≤ mgmtFrameOffset := by decide
  simp only [processApMgmtRx,wp_bind,wp_ite,wp_pure,does_ask_fixed,does_skbLen,does_read,does_report,le_head h8,le_head h12,
    le_head h16,hrssi,hchan,hfl,hframe,hn,does_skbHasFlexFrame hlen]
  cases hd : answer .ndev <;> simp [Told,Event.questions,hd,seen,Event.seen]; omega

theorem processMgmtTxStatusEvent_told {ack : Bool} {cookie : UInt64} {frame : Bytes}
    (h : ((Event.txStatus ack cookie frame).encode mac).length < 2^16) (hc : cookie ≠ 0) :
    wp (rules fun t b => b = answer t) processMgmtTxStatusEvent ⟨.held f ((Event.txStatus ack cookie frame).encode mac),rs⟩
      fun _ s => Told mac answer (.txStatus ack cookie frame) f rs s := by
  have hlen : ((Event.txStatus ack cookie frame).encode mac).length = txStatusFrameOffset+frame.length := by
    simp [Event.encode,Event.frame,record,Event.members,eventHeader,txStatusFrameOffset]
    omega
  have hid : le 4 8 ((Event.txStatus ack cookie frame).encode mac) = cookie.toNat := le_member 3 rfl rfl cookie.toNat_lt
  have hfl : le 12 4 ((Event.txStatus ack cookie frame).encode mac) = frame.length := le_member 4 rfl rfl (by omega)
  have hack : byteOf 16 ((Event.txStatus ack cookie frame).encode mac) = if ack then 1 else 0 := byteOf_member 5 rfl rfl
  have hframe : field txStatusFrameOffset frame.length ((Event.txStatus ack cookie frame).encode mac) = frame :=
    field_body_at rfl
  have hn : ¬((Event.txStatus ack cookie frame).encode mac).length < txStatusFrameOffset := by omega
  have hzero : ¬cookie.toNat = 0 := fun hz => hc (UInt64.toNat_inj.mp hz)
  have h4 : 4+8 ≤ txStatusFrameOffset := by decide
  have h12 : 12+4 ≤ txStatusFrameOffset := by decide
  have h16 : 16+1 ≤ txStatusFrameOffset := by decide
  simp only [processMgmtTxStatusEvent,wp_bind,wp_ite,wp_pure,does_ask_fixed,does_skbLen,does_read,does_report,le_head h4,
    le_head h12,byteOf_head h16,hid,hfl,hack,hframe,hn,hzero,does_skbHasFlexFrame hlen]
  cases hp : answer (.mgmtTxPending cookie.toNat) <;> cases hd : answer .ndev <;> cases ack <;>
    simp [Told,Event.questions,hp,hd,seen,Event.seen] <;> omega

theorem processScanDone_told : wp (rules fun t b => b = answer t) processScanResultEvent ⟨.held f (Event.scanDone.encode mac),rs⟩
    fun _ s => Told mac answer .scanDone f rs s := by
  have hlen : (Event.scanDone.encode mac).length = eventHeaderSize := rfl
  have hstatus : byteOf 1 (Event.scanDone.encode mac) = 0 := byteOf_member 1 rfl rfl
  have hn : ¬(Event.scanDone.encode mac).length < eventHeaderSize := by omega
  have h1 : 1+1 ≤ eventHeaderSize := by decide
  simp only [processScanResultEvent,wp_bind,wp_ite,wp_pure,does_ask_fixed,does_skbLen,does_read,does_report,byteOf_head h1,
    hstatus,hn]
  cases ha : answer .scanAwaited <;> simp [Told,Event.questions,ha,seen,Event.seen] <;> omega

theorem processScanResult_told (r : RxFrame) (h : ((Event.probe r).encode mac).length < 2^16)
    (hfixed : fixedParamsSize ≤ r.frame.length) :
    wp (rules fun t b => b = answer t) processScanResultEvent ⟨.held f ((Event.probe r).encode mac),rs⟩
      fun _ s => Told mac answer (.probe r) f rs s := by
  have hlen : ((Event.probe r).encode mac).length = scanFrameOffset+r.frame.length := by
    simp [Event.encode,Event.frame,record,Event.members,eventHeader,scanFrameOffset]
    omega
  have hstatus : byteOf 1 ((Event.probe r).encode mac) = 1 := byteOf_member 1 rfl rfl
  have hbssid : field 4 6 ((Event.probe r).encode mac) = r.sender.bytes := read_member 3 _ _ rfl rfl (by simp)
  have htype : byteOf 10 ((Event.probe r).encode mac) = r.frameType :=
    byteOf_member 4 rfl (by simp [offsetOf,record,Event.members,eventHeader])
  have hchan : byteOf 11 ((Event.probe r).encode mac) = r.channel :=
    byteOf_member 5 rfl (by simp [offsetOf,record,Event.members,eventHeader])
  have hrssi : le 12 4 ((Event.probe r).encode mac) = r.rssi.toNat :=
    le_member 6 rfl (by simp [offsetOf,record,Event.members,eventHeader]) r.rssi.toNat_lt
  have hfl : le 24 2 ((Event.probe r).encode mac) = r.frame.length :=
    le_member 8 rfl (by simp [offsetOf,record,Event.members,eventHeader]) (by omega)
  have hframe : ((Event.probe r).encode mac).drop scanFrameOffset = r.frame :=
    drop_record (by simp [record,Event.members,eventHeader,scanFrameOffset])
  have hfixparams : field scanFrameOffset fixedParamsSize ((Event.probe r).encode mac) = r.frame.take fixedParamsSize := by
    rw [field,hframe]
  have hies : field (scanFrameOffset+fixedParamsSize) (r.frame.length-fixedParamsSize) ((Event.probe r).encode mac) =
      r.frame.drop fixedParamsSize := by
    rw [field,← List.drop_drop,hframe,← List.length_drop,List.take_length]
  have hn : ¬((Event.probe r).encode mac).length < eventHeaderSize := by simp [hlen,scanFrameOffset,eventHeaderSize]; omega
  have hn' : ¬((Event.probe r).encode mac).length < scanFrameOffset := by omega
  have hshort : ¬r.frame.length < fixedParamsSize := by omega
  have h1 : 1+1 ≤ eventHeaderSize := by decide
  have h4 : 4+6 ≤ scanFrameOffset := by decide
  have h10 : 10+1 ≤ scanFrameOffset := by decide
  have h11 : 11+1 ≤ scanFrameOffset := by decide
  have h12 : 12+4 ≤ scanFrameOffset := by decide
  have h24 : 24+2 ≤ scanFrameOffset := by decide
  have hone : ¬(1 : UInt8) = 0 := by decide
  simp only [processScanResultEvent,wp_bind,wp_ite,wp_pure,does_ask_fixed,does_skbLen,does_read,does_report,byteOf_head h1,
    field_head h4,byteOf_head h10,byteOf_head h11,le_head h12,le_head h24,hstatus,hbssid,htype,hchan,hrssi,hfl,hfixparams,hies,
    hn,hn',hshort,hone,does_skbHasFlexFrame hlen]
  cases ha : answer .scanInProgress <;> cases hu : answer (.channelUsable r.channel) <;>
    simp [Told,Event.questions,ha,hu,seen,Event.seen] <;> omega

def handlerOf (code : UInt8) : Rx Unit :=
  if code = EVENT_SCAN_RESULT then processScanResultEvent
  else if code = EVENT_ASSOC_RX then processAssocEvent
  else if code = EVENT_STA_DISCONNECT then processDisconnectEvent
  else if code = EVENT_AUTH_RX then processAuthEvent
  else if code = EVENT_AP_MGMT_RX then processApMgmtRx
  else if code = HOSTED_EVENT_MGMT_TX_STATUS then processMgmtTxStatusEvent
  else pure ()

theorem does_processCmdEvent {env : Test → Bool → Prop} {d : Bytes} {code : UInt8} {Q : Unit → St → Prop}
    (hlen : eventHeaderSize ≤ d.length) (hcode : byteOf 0 d = code) (h : wp (rules env) (handlerOf code) ⟨.held f d,rs⟩ Q) :
    wp (rules env) processCmdEvent ⟨.held f d,rs⟩ Q := by
  have hn : ¬d.length < eventHeaderSize := by omega
  have h0 : 0+1 ≤ eventHeaderSize := by decide
  rw [processCmdEvent,wp_bind,does_skbLen,wp_ite]
  refine ⟨fun hs => absurd hs hn,fun _ => ?_⟩
  rw [wp_bind,does_read,byteOf_head h0,hcode]
  exact ⟨by omega,h⟩

theorem eventHeaderSize_le (e : Event) : eventHeaderSize ≤ (e.encode mac).length := by
  cases e <;> simp [Event.encode,Event.members,eventHeader,record,eventHeaderSize]

end

/-- Every event the firmware makes: the driver reports it as what it is, in the words of cfg80211 or of the MLME model,
once, when it waits for just this event, and drops it otherwise. -/
theorem event_round_trip {mac : Block 6} {e : Event} (h : e.Fits mac) (answer : Test → Bool) (f : Bytes) (rs : List Report) :
    wp (rules fun t b => b = answer t) processCmdEvent ⟨.held f (e.encode mac),rs⟩ fun _ s => Told mac answer e f rs s := by
  obtain ⟨hlen,hfit⟩ := h
  cases e with
  | scanDone => exact does_processCmdEvent (eventHeaderSize_le _) (byteOf_member 0 rfl rfl) processScanDone_told
  | probe r => exact does_processCmdEvent (eventHeaderSize_le _) (byteOf_member 0 rfl rfl) (processScanResult_told r hlen hfit)
  | auth seq r => exact does_processCmdEvent (eventHeaderSize_le _) (byteOf_member 0 rfl rfl) (processAuthEvent_told seq r hlen)
  | assoc seq r => exact does_processCmdEvent (eventHeaderSize_le _) (byteOf_member 0 rfl rfl) (processAssocEvent_told seq r hlen)
  | disconnect status bssid ssid reason seq =>
    exact does_processCmdEvent (eventHeaderSize_le _) (byteOf_member 0 rfl rfl) (processDisconnectEvent_told hfit)
  | apMgmt nf rssi chan frame =>
    exact does_processCmdEvent (eventHeaderSize_le _) (byteOf_member 0 rfl rfl) (processApMgmtRx_told hlen)
  | txStatus ack cookie frame =>
    exact does_processCmdEvent (eventHeaderSize_le _) (byteOf_member 0 rfl rfl) (processMgmtTxStatusEvent_told hlen hfit)

def sampleMac : Block 6 := ⟨[2,0,0,0,0,1],rfl⟩

def sampleAuth : Event :=
  .auth 7 {frameType := 11, channel := 6, sender := sampleMac, rssi := 200, tsf := 0, frame := [0,0,2,0,0,0]}

theorem event_round_trip_auth : wp (rules fun _ b => b = true) processCmdEvent ⟨.held [] (sampleAuth.encode sampleMac),[]⟩
    fun _ s => Told sampleMac (fun _ => true) sampleAuth [] [] s :=
  event_round_trip ⟨by decide,trivial⟩ (fun _ => true) [] []

end EspHosted.MgmtEvents
