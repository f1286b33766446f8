import EspHosted.UsbDevice
import EspHosted.Lib.Run
import EspHosted.Lib.Bitmapped

/-!
A captured frame from `monitor_rx_cb` of `main/app_main.c` to `esp_cfg80211_monitor_rx` of
`esp_cfg80211.c`, which puts a radiotap header in front of it.
-/

set_option autoImplicit false

namespace EspHosted.Capture
open EspHosted Packed Bitmapped

def ESP_MONITOR_FLAG_FCS_PRESENT : UInt8 := 1
def ESP_MONITOR_FLAG_FCS_BAD : UInt8 := 2
def ESP_MONITOR_FLAG_SHORT_GI : UInt8 := 4
def ESP_MONITOR_FLAG_HT : UInt8 := 8
def ESP_MONITOR_FLAG_CCK : UInt8 := 16

/-- `esp_monitor_meta_v1` -/
structure Meta where
  version : UInt8 := ESP_MONITOR_META_VERSION
  frameType : UInt8
  channel : UInt8
  rssi : UInt8
  rate : UInt8 := 0xff
  sigMode : UInt8
  mcs : UInt8 := 0xff
  cwb : UInt8 := 0
  secondaryChannel : UInt8 := 0
  antenna : UInt8 := 0xff
  flags : UInt8 := 0
  reserved : UInt8 := 0
  frameLen : UInt16
  timestampUs : UInt32
  deriving DecidableEq, Repr

def Meta.members (m : Meta) : List Octets :=
  [[m.version],[m.frameType],[m.channel],[m.rssi],[m.rate],[m.sigMode],[m.mcs],[m.cwb],[m.secondaryChannel],
   [m.antenna],[m.flags],[m.reserved],leBytes 2 m.frameLen.toNat,leBytes 4 m.timestampUs.toNat]

def Meta.encode (m : Meta) : Bytes := record m.members

@[simp] theorem Meta.encode_length (m : Meta) : m.encode.length = metaSize := rfl

def byteAt (off : Nat) (b : Bytes) : UInt8 := (field off 1 b).getD 0 0

def readMeta (b : Bytes) : Meta where
  version := byteAt 0 b
  frameType := byteAt 1 b
  channel := byteAt 2 b
  rssi := byteAt 3 b
  rate := byteAt 4 b
  sigMode := byteAt 5 b
  mcs := byteAt 6 b
  cwb := byteAt 7 b
  secondaryChannel := byteAt 8 b
  antenna := byteAt 9 b
  flags := byteAt 10 b
  reserved := byteAt 11 b
  frameLen := UInt16.ofNat (leValue (field 12 2 b))
  timestampUs := UInt32.ofNat (leValue (field 14 4 b))

@[simp] theorem readMeta_encode (m : Meta) (t : Bytes) : readMeta (m.encode ++ t) = m := by
  have hl : field 12 2 (m.encode ++ t) = leBytes 2 m.frameLen.toNat := read_member 12 t _ rfl rfl rfl
  have ht : field 14 4 (m.encode ++ t) = leBytes 4 m.timestampUs.toNat := read_member 13 t _ rfl rfl rfl
  have hfl : leValue (leBytes 2 m.frameLen.toNat) = m.frameLen.toNat := leValue_leBytes m.frameLen.toNat_lt
  have hts : leValue (leBytes 4 m.timestampUs.toNat) = m.timestampUs.toNat := leValue_leBytes m.timestampUs.toNat_lt
  simp only [readMeta,hl,ht,hfl,hts,UInt16.ofNat_toNat,UInt32.ofNat_toNat]
  rfl

inductive PktType where
  | mgmt
  | ctrl
  | data
  | misc
  deriving DecidableEq, Repr

def PktType.code : PktType → UInt8
  | .mgmt => 0
  | .ctrl => 1
  | .data => 2
  | .misc => 3

/-- `RX_BB_FORMAT_*` -/
inductive BbFormat where
  | b11
  | ag
  | ht
  | vht
  | vhtMu
  | heSu
  | heMu
  | heErsu
  | heTb
  deriving DecidableEq, Repr

/-- The receive descriptor differs between targets with `CONFIG_SOC_WIFI_HE_SUPPORT` and older ones. -/
inductive Phy where
  | he (format : BbFormat) (second : UInt8) (dumpLen : Nat)
  | legacy (sigMode rate mcs cwb secondaryChannel ant : UInt8) (sgi : Bool)
  deriving DecidableEq, Repr

/-- `wifi_promiscuous_pkt_t`: `sig_len` is a bit field of at most 14 bits, and as many bytes follow. -/
structure Pkt where
  rssi : UInt8
  channel : UInt8
  sigLen : Fin (2^14)
  timestamp : UInt32
  phy : Phy
  payload : Block sigLen.val

def monitorNormalizePhy : Phy → UInt8
  | .he .ht _ _ => 1
  | .he .vht _ _ | .he .vhtMu _ _ => 2
  | .he .heSu _ _ | .he .heMu _ _ | .he .heErsu _ _ | .he .heTb _ _ => 3
  | .he _ _ _ => 0
  | .legacy sigMode _ _ _ _ _ _ => if sigMode = 1 then 1 else if sigMode = 3 then 2 else 0

/-- `WIFI_PHY_RATE_1M_L` to `WIFI_PHY_RATE_11M_S`. -/
def cckRates : List UInt8 := [0x00,0x01,0x05,0x02,0x06,0x03,0x07]

def phyFlags (sigLen : Nat) : Phy → UInt8
  | .he format _ dumpLen =>
    (if format = .b11 then ESP_MONITOR_FLAG_CCK else 0) |||
      (if dumpLen ≠ 0 ∧ sigLen = dumpLen+4 then ESP_MONITOR_FLAG_FCS_PRESENT else 0)
  | .legacy sigMode rate _ _ _ _ sgi =>
    (if sgi then ESP_MONITOR_FLAG_SHORT_GI else 0) |||
      (if sigMode = 0 ∧ rate ∈ cckRates then ESP_MONITOR_FLAG_CCK else 0) ||| ESP_MONITOR_FLAG_FCS_PRESENT

/-- What `monitor_rx_cb` writes in front of the frame. -/
def monitorMeta (p : Pkt) (ty : PktType) : Meta :=
  let common : Meta :=
    {frameType := ty.code, channel := p.channel, rssi := p.rssi, sigMode := monitorNormalizePhy p.phy
     flags := phyFlags p.sigLen p.phy ||| (if monitorNormalizePhy p.phy = 1 then ESP_MONITOR_FLAG_HT else 0)
     frameLen := UInt16.ofNat p.sigLen, timestampUs := p.timestamp}
  match p.phy with
  | .he _ second _ => {common with cwb := if second ≠ 0 then 1 else 0, secondaryChannel := second}
  | .legacy _ rate mcs cwb secondaryChannel ant _ =>
    {common with rate := rate, mcs := mcs, cwb := cwb, secondaryChannel := secondaryChannel, antenna := ant}

/-- The counters of `app_main.c`, `s_monitor_enabled` and `s_monitor_rx_channel`. -/
structure Firmware where
  enabled : Bool
  rxChannel : UInt8 := 0
  rxPackets : UInt32 := 0
  rxBytes : UInt32 := 0
  cbMgmt : UInt32 := 0
  cbCtrl : UInt32 := 0
  cbData : UInt32 := 0
  txMgmt : UInt32 := 0
  txCtrl : UInt32 := 0
  txData : UInt32 := 0
  queueDrops : UInt32 := 0
  allocDrops : UInt32 := 0
  oversizeDrops : UInt32 := 0
  deriving DecidableEq, Repr

/-- What a callback meets: the data path, the low-priority queue, its room, the heap, the queue again. -/
structure CbEnv where
  datapath : Bool := true
  lowQueue : Bool := true
  space : Bool := true
  alloc : Bool := true
  sent : Bool := true
  deriving DecidableEq, Repr

def Firmware.countCb (s : Firmware) : PktType → Firmware
  | .mgmt => {s with cbMgmt := s.cbMgmt+1}
  | .ctrl => {s with cbCtrl := s.cbCtrl+1}
  | .data => {s with cbData := s.cbData+1}
  | .misc => s

def Firmware.countTx (s : Firmware) (len : Nat) (ty : PktType) : Firmware :=
  let s := {s with rxPackets := s.rxPackets+1, rxBytes := s.rxBytes+UInt32.ofNat len}
  match ty with
  | .mgmt => {s with txMgmt := s.txMgmt+1}
  | .ctrl => {s with txCtrl := s.txCtrl+1}
  | .data => {s with txData := s.txData+1}
  | .misc => s

def Firmware.observe (s : Firmware) (channel : UInt8) : Firmware :=
  if channel ≠ 0 then {s with rxChannel := channel} else s

def monitorPayload (p : Pkt) (ty : PktType) : Bytes := (monitorMeta p ty).encode ++ p.payload.bytes

theorem monitorPayload_length (p : Pkt) (ty : PktType) : (monitorPayload p ty).length = metaSize+p.sigLen := by
  simp [monitorPayload]

theorem monitorPayload_fits (p : Pkt) (ty : PktType) : (monitorPayload p ty).length < 65536 := by
  have h := p.sigLen.isLt
  rw [monitorPayload_length]
  simp only [metaSize]
  omega

def monitorOut (p : Pkt) (ty : PktType) : Usb.BufHandle where
  ifType := UInt8.ofNat ESP_MONITOR_IF
  ifNum := 0
  pktType := PACKET_TYPE_MONITOR
  payload := monitorPayload p ty
  fits := monitorPayload_fits p ty

def monitorRxCb (rxBufSize : Nat) (s : Firmware) (e : CbEnv) (p : Pkt) (ty : PktType) : Firmware × Option Usb.BufHandle :=
  if !s.enabled then (s,none)
  else if ty = .misc then (s,none)
  else
    let s := s.countCb ty
    let totalLen := metaSize+p.sigLen.val
    if !e.datapath || !e.lowQueue then (s,none)
    else if p.sigLen.val = 0 then (s,none)
    else if rxBufSize-headerSize < totalLen ∨ 65535 < totalLen then
      ({s with oversizeDrops := s.oversizeDrops+1},none)
    else if !e.space then ({s with queueDrops := s.queueDrops+1},none)
    else if !e.alloc then ({s with allocDrops := s.allocDrops+1},none)
    else
      let s := s.observe p.channel
      if !e.sent then ({s with queueDrops := s.queueDrops+1},none)
      else (s.countTx p.sigLen ty,some (monitorOut p ty))

def IEEE80211_RADIOTAP_F_FCS : UInt8 := 0x10
def IEEE80211_RADIOTAP_F_BADFCS : UInt8 := 0x40
def IEEE80211_CHAN_CCK : Nat := 0x0020
def IEEE80211_CHAN_OFDM : Nat := 0x0040
def IEEE80211_CHAN_2GHZ : Nat := 0x0080
def IEEE80211_CHAN_5GHZ : Nat := 0x0100

def espMonitorLegacyRate (rate : UInt8) : UInt8 :=
  if rate = 0x00 then 2
  else if rate = 0x01 ∨ rate = 0x05 then 4
  else if rate = 0x02 ∨ rate = 0x06 then 11
  else if rate = 0x03 ∨ rate = 0x07 then 22
  else if rate = 0x0B then 12
  else if rate = 0x0F then 18
  else if rate = 0x0A then 24
  else if rate = 0x0E then 36
  else if rate = 0x09 then 48
  else if rate = 0x0D then 72
  else if rate = 0x08 then 96
  else if rate = 0x0C then 108
  else 0

inductive Band where
  | ghz2
  | ghz5
  deriving DecidableEq, Repr

variable (toFrequency : UInt8 → Band → UInt16)

def Meta.band (m : Meta) : Band := if m.channel ≤ 14 then .ghz2 else .ghz5

def Meta.has (m : Meta) (flag : UInt8) : Bool := m.flags &&& flag ≠ 0

def Meta.legacyRate (m : Meta) : UInt8 := if m.sigMode = 0 then espMonitorLegacyRate m.rate else 0

def Meta.hasMcs (m : Meta) : Bool := m.sigMode = 1 && m.mcs ≠ 0xff

def Meta.radiotapFlags (m : Meta) : UInt8 :=
  (if m.has ESP_MONITOR_FLAG_FCS_PRESENT then IEEE80211_RADIOTAP_F_FCS else 0) |||
    (if m.has ESP_MONITOR_FLAG_FCS_BAD then IEEE80211_RADIOTAP_F_BADFCS else 0)

def Meta.chanFlags (m : Meta) : Nat :=
  (if m.channel ≤ 14 then IEEE80211_CHAN_2GHZ else IEEE80211_CHAN_5GHZ) |||
    (if m.has ESP_MONITOR_FLAG_CCK then IEEE80211_CHAN_CCK else IEEE80211_CHAN_OFDM)

def Meta.channelField (m : Meta) : Bytes := leBytes 2 (toFrequency m.channel m.band).toNat ++ leBytes 2 m.chanFlags

/-- Known fields, then bandwidth and guard interval, then the index. -/
def Meta.mcsField (m : Meta) : Bytes :=
  [7,(if m.cwb ≠ 0 then 1 else 0) ||| (if m.has ESP_MONITOR_FLAG_SHORT_GI then 4 else 0),m.mcs]

def Meta.present (m : Meta) : Nat :=
  2^1+2^3+2^5+(if m.legacyRate ≠ 0 then 2^2 else 0)+(if m.antenna ≠ 0xff then 2^11 else 0)+
    (if m.hasMcs then 2^19 else 0)

def radiotapHeader (len present : Nat) : Bytes := [0,0] ++ leBytes 2 len ++ leBytes 4 present

/-- The fields behind the fixed header, written from `off = 8` on. -/
def radiotapFields (m : Meta) : Bytes :=
  let b := [m.radiotapFlags] ++ (if m.legacyRate ≠ 0 then [m.legacyRate] else [])
  let b := b ++ List.replicate (pad 2 (8+b.length)) 0 ++ m.channelField toFrequency ++ [m.rssi]
  let b := b ++ (if m.antenna ≠ 0xff then [m.antenna] else [])
  b ++ (if m.hasMcs then m.mcsField else [])

/-- The first `off` bytes of `buf`; none when the buffer is too small. -/
def espMonitorRadiotap (m : Meta) (bufLen : Nat) : Bytes :=
  if bufLen < 32 then []
  else radiotapHeader (8+(radiotapFields toFrequency m).length) m.present ++ radiotapFields toFrequency m

/-- The counters of `struct esp_adapter` and `monitor_rx_channel`. -/
structure Host where
  up : Bool
  rxChannel : UInt8 := 0
  malformed : UInt64 := 0
  drops : UInt64 := 0
  submitted : UInt64 := 0
  stackDrops : UInt64 := 0
  packets : UInt64 := 0
  bytes : UInt64 := 0
  deriving DecidableEq, Repr

/-- `skb_cow_head` and `netif_rx`. -/
structure RxEnv where
  cow : Bool := true
  accepted : Bool := true
  deriving DecidableEq, Repr

/-- With what is given to `netif_rx`. -/
def espCfg80211MonitorRx (h : Host) (e : RxEnv) (skb : Bytes) : Host × Option Bytes :=
  if !h.up then ({h with drops := h.drops+1},none)
  else if skb.length < metaSize then ({h with malformed := h.malformed+1},none)
  else
    let m := readMeta skb
    if m.version ≠ ESP_MONITOR_META_VERSION then ({h with malformed := h.malformed+1},none)
    else if m.frameLen = 0 ∨ skb.length-metaSize < m.frameLen.toNat ∨ m.channel = 0 then
      ({h with malformed := h.malformed+1},none)
    else
      let h := {h with rxChannel := m.channel}
      let radiotap := espMonitorRadiotap toFrequency m 32
      if radiotap = [] then ({h with malformed := h.malformed+1},none)
      else if !e.cow then ({h with drops := h.drops+1},none)
      else
        let h := {h with submitted := h.submitted+1}
        let out := some (radiotap ++ field metaSize m.frameLen.toNat skb)
        if e.accepted then
          ({h with packets := h.packets+1, bytes := h.bytes+UInt64.ofNat m.frameLen.toNat},out)
        else ({h with stackDrops := h.stackDrops+1, drops := h.drops+1},out)

/-! The radiotap format, as any reader takes it apart. -/

def radiotapTable : List Kind :=
  [⟨8,8⟩,⟨1,1⟩,⟨1,1⟩,⟨2,4⟩,⟨2,2⟩,⟨1,1⟩,⟨1,1⟩,⟨2,2⟩,⟨2,2⟩,⟨2,2⟩,⟨1,1⟩,⟨1,1⟩,⟨1,1⟩,⟨1,1⟩,⟨2,2⟩,⟨2,2⟩,⟨1,1⟩,⟨1,1⟩,⟨4,8⟩,⟨1,3⟩]

/-- The fields by bit number, and the frame behind the header. -/
def readRadiotap (b : Bytes) : Option (List (Option Bytes) × Bytes) :=
  let len := leValue (field 2 2 b)
  if byteAt 0 b ≠ 0 ∨ len < 8 ∨ b.length < len then none
  else (decode 8 (leValue (field 4 4 b)) radiotapTable ((b.take len).drop 8)).map (·,b.drop len)

def absent (align size : Nat) : Slot := ⟨⟨align,size⟩,none⟩

def Meta.slots (m : Meta) : List Slot :=
  [absent 8 8,
   ⟨⟨1,1⟩,some ⟨[m.radiotapFlags],rfl⟩⟩,
   ⟨⟨1,1⟩,if m.legacyRate ≠ 0 then some ⟨[m.legacyRate],rfl⟩ else none⟩,
   ⟨⟨2,4⟩,some ⟨m.channelField toFrequency,by simp [Meta.channelField]⟩⟩,
   absent 2 2,
   ⟨⟨1,1⟩,some ⟨[m.rssi],rfl⟩⟩,
   absent 1 1,absent 2 2,absent 2 2,absent 2 2,absent 1 1,
   ⟨⟨1,1⟩,if m.antenna ≠ 0xff then some ⟨[m.antenna],rfl⟩ else none⟩,
   absent 1 1,absent 1 1,absent 2 2,absent 2 2,absent 1 1,absent 1 1,absent 4 8,
   ⟨⟨1,3⟩,if m.hasMcs then some ⟨m.mcsField,rfl⟩ else none⟩]

theorem slots_kind (m : Meta) : (m.slots toFrequency).map Slot.kind = radiotapTable := rfl

theorem slots_mask (m : Meta) : mask (m.slots toFrequency) = m.present := by
  by_cases hr : m.legacyRate = 0 <;> by_cases ha : m.antenna = 0xff <;> cases hm : m.hasMcs <;>
    simp [Meta.slots,mask,absent,Meta.present,hr,ha,hm]

theorem present_lt (m : Meta) : m.present < 256^4 := by
  unfold Meta.present
  split <;> split <;> split <;> omega

/-- Only the channel needs a gap, and only when no rate is written. -/
theorem radiotapFields_eq (m : Meta) : radiotapFields toFrequency m = encode 8 (m.slots toFrequency) := by
  by_cases hr : m.legacyRate = 0 <;> by_cases ha : m.antenna = 0xff <;> cases hm : m.hasMcs <;>
    simp [Meta.slots,encode,Slot.bytes,absent,radiotapFields,pad,hr,ha,hm]

theorem radiotapFields_length (m : Meta) : (radiotapFields toFrequency m).length ≤ 12 := by
  have hc : (m.channelField toFrequency).length = 4 := by simp [Meta.channelField]
  have hx : m.hasMcs = true → m.legacyRate = 0 := by
    intro h
    simp only [Meta.hasMcs,Bool.and_eq_true,decide_eq_true_eq] at h
    simp [Meta.legacyRate,h.1]
  by_cases hr : m.legacyRate = 0 <;> by_cases ha : m.antenna = 0xff <;> cases hm : m.hasMcs <;>
    simp_all [radiotapFields,pad,Meta.mcsField]

theorem espMonitorRadiotap_length (m : Meta) :
    (espMonitorRadiotap toFrequency m 32).length = 8+(radiotapFields toFrequency m).length := by
  simp [espMonitorRadiotap,radiotapHeader]
  omega

theorem readRadiotap_append (m : Meta) (frame : Bytes) :
    readRadiotap (espMonitorRadiotap toFrequency m 32 ++ frame) =
      some ((m.slots toFrequency).map Slot.bytes,frame) := by
  have hn := radiotapFields_length toFrequency m
  generalize hf : radiotapFields toFrequency m = fields at hn
  have hw : espMonitorRadiotap toFrequency m 32 = record [[0],[0],leBytes 2 (8+fields.length),leBytes 4 m.present] ++ fields := by
    simp [espMonitorRadiotap,radiotapHeader,hf,record]
  have hlen : field 2 2 (espMonitorRadiotap toFrequency m 32 ++ frame) = leBytes 2 (8+fields.length) := by
    rw [hw,List.append_assoc]
    exact read_member 2 _ _ rfl rfl rfl
  have hpres : field 4 4 (espMonitorRadiotap toFrequency m 32 ++ frame) = leBytes 4 m.present := by
    rw [hw,List.append_assoc]
    exact read_member 3 _ _ rfl rfl rfl
  have hver : byteAt 0 (espMonitorRadiotap toFrequency m 32 ++ frame) = 0 := by rw [hw]; rfl
  have hll : leValue (leBytes 2 (8+fields.length)) = (espMonitorRadiotap toFrequency m 32).length := by
    rw [leValue_leBytes (by omega),espMonitorRadiotap_length,hf]
  have hdrop : (espMonitorRadiotap toFrequency m 32).drop 8 = encode 8 (m.slots toFrequency) ++ [] := by
    rw [← radiotapFields_eq,List.append_nil,hf,hw]
    rfl
  have hrange : ¬((espMonitorRadiotap toFrequency m 32).length < 8 ∨
      (espMonitorRadiotap toFrequency m 32 ++ frame).length < (espMonitorRadiotap toFrequency m 32).length) := by
    rw [List.length_append,espMonitorRadiotap_length]
    omega
  simp only [readRadiotap,hlen,hpres,hver,hll,leValue_leBytes (present_lt m),ne_eq,not_true_eq_false,false_or,
    if_neg hrange,List.take_left,List.drop_left,hdrop]
  rw [← slots_mask toFrequency,← slots_kind toFrequency m,decode_encode]
  rfl

def Phy.rate : Phy → UInt8
  | .he _ _ _ => 0
  | .legacy sigMode rate _ _ _ _ _ => if sigMode = 1 ∨ sigMode = 3 then 0 else espMonitorLegacyRate rate

def Phy.cck : Phy → Bool
  | .he format _ _ => format = .b11
  | .legacy sigMode rate _ _ _ _ _ => sigMode = 0 && rate ∈ cckRates

def Phy.antenna : Phy → Option UInt8
  | .he _ _ _ => none
  | .legacy _ _ _ _ _ ant _ => if ant = 0xff then none else some ant

def Phy.ht : Phy → Option Bytes
  | .he _ _ _ => none
  | .legacy sigMode _ mcs cwb _ _ sgi =>
    if sigMode = 1 ∧ mcs ≠ 0xff then some [7,(if cwb ≠ 0 then 1 else 0) ||| (if sgi then 4 else 0),mcs] else none

def Pkt.fcs (p : Pkt) : Bool :=
  match p.phy with
  | .he _ _ dumpLen => dumpLen ≠ 0 && p.sigLen.val = dumpLen+4
  | .legacy _ _ _ _ _ _ _ => true

/-- What the radiotap header is to say about a captured frame. -/
def Pkt.fields (p : Pkt) : List (Option Bytes) :=
  let band := if p.channel ≤ 14 then Band.ghz2 else .ghz5
  [none,
   some [if p.fcs then IEEE80211_RADIOTAP_F_FCS else 0],
   if p.phy.rate = 0 then none else some [p.phy.rate],
   some (leBytes 2 (toFrequency p.channel band).toNat ++
     leBytes 2 ((if p.channel ≤ 14 then IEEE80211_CHAN_2GHZ else IEEE80211_CHAN_5GHZ) |||
       (if p.phy.cck then IEEE80211_CHAN_CCK else IEEE80211_CHAN_OFDM))),
   none,some [p.rssi],none,none,none,none,none,
   p.phy.antenna.map ([·]),
   none,none,none,none,none,none,none,p.phy.ht]

section
variable (p : Pkt) (ty : PktType)

theorem monitorMeta_channel : (monitorMeta p ty).channel = p.channel := by
  cases hp : p.phy <;> simp [monitorMeta,hp]

/-- The flag bits of the metadata are independent of each other. -/
def flagWord (sgi cck fcs ht : Bool) : UInt8 :=
  (if sgi then ESP_MONITOR_FLAG_SHORT_GI else 0) ||| (if cck then ESP_MONITOR_FLAG_CCK else 0) |||
    (if fcs then ESP_MONITOR_FLAG_FCS_PRESENT else 0) ||| (if ht then ESP_MONITOR_FLAG_HT else 0)

theorem flagWord_bits : ∀ sgi cck fcs ht : Bool,
    (decide (flagWord sgi cck fcs ht &&& ESP_MONITOR_FLAG_SHORT_GI ≠ 0) = sgi ∧
      decide (flagWord sgi cck fcs ht &&& ESP_MONITOR_FLAG_CCK ≠ 0) = cck) ∧
      decide (flagWord sgi cck fcs ht &&& ESP_MONITOR_FLAG_FCS_PRESENT ≠ 0) = fcs ∧
      decide (flagWord sgi cck fcs ht &&& ESP_MONITOR_FLAG_FCS_BAD ≠ 0) = false := by decide

def Phy.sgi : Phy → Bool
  | .he _ _ _ => false
  | .legacy _ _ _ _ _ _ sgi => sgi

theorem monitorMeta_flags : (monitorMeta p ty).flags =
    flagWord p.phy.sgi p.phy.cck p.fcs (monitorNormalizePhy p.phy = 1) := by
  cases hp : p.phy with
  | he format second dumpLen =>
    by_cases hf : format = .b11 <;> by_cases hd : dumpLen ≠ 0 ∧ p.sigLen.val = dumpLen+4 <;>
      simp [monitorMeta,flagWord,phyFlags,Phy.sgi,Phy.cck,Pkt.fcs,hp,hf,hd]
  | legacy sigMode rate mcs cwb secondary ant sgi =>
    by_cases hc : sigMode = 0 ∧ rate ∈ cckRates <;>
      simp [monitorMeta,flagWord,phyFlags,Phy.sgi,Phy.cck,Pkt.fcs,hp,hc] <;> congr

theorem monitorMeta_radiotapFlags :
    (monitorMeta p ty).radiotapFlags = if p.fcs then IEEE80211_RADIOTAP_F_FCS else 0 := by
  have hb := (flagWord_bits p.phy.sgi p.phy.cck p.fcs (monitorNormalizePhy p.phy = 1)).2
  rw [← monitorMeta_flags p ty] at hb
  simp only [Meta.radiotapFlags,Meta.has,hb]
  cases p.fcs <;> rfl

theorem monitorMeta_chanFlags : (monitorMeta p ty).chanFlags =
    (if p.channel ≤ 14 then IEEE80211_CHAN_2GHZ else IEEE80211_CHAN_5GHZ) |||
      (if p.phy.cck then IEEE80211_CHAN_CCK else IEEE80211_CHAN_OFDM) := by
  have hb := (flagWord_bits p.phy.sgi p.phy.cck p.fcs (monitorNormalizePhy p.phy = 1)).1.2
  rw [← monitorMeta_flags p ty] at hb
  simp only [Meta.chanFlags,Meta.has,hb,monitorMeta_channel]

theorem monitorMeta_legacyRate : (monitorMeta p ty).legacyRate = p.phy.rate := by
  cases hp : p.phy with
  | he format second dumpLen =>
    simp only [Meta.legacyRate,monitorMeta,hp,Phy.rate]
    split <;> rfl
  | legacy sigMode rate mcs cwb secondary ant sgi =>
    simp only [Meta.legacyRate,monitorMeta,hp,Phy.rate,monitorNormalizePhy]
    by_cases h1 : sigMode = 1
    · simp [h1]
    · by_cases h3 : sigMode = 3 <;> simp [h1,h3]

theorem monitorMeta_mcs : (if (monitorMeta p ty).hasMcs then some (monitorMeta p ty).mcsField else none) = p.phy.ht := by
  have hb := (flagWord_bits p.phy.sgi p.phy.cck p.fcs (monitorNormalizePhy p.phy = 1)).1.1
  rw [← monitorMeta_flags p ty] at hb
  cases hp : p.phy with
  | he format second dumpLen => simp [Meta.hasMcs,monitorMeta,hp,Phy.ht]
  | legacy sigMode rate mcs cwb secondary ant sgi =>
    rw [hp] at hb
    simp only [Meta.mcsField,Meta.has,hb]
    simp only [Meta.hasMcs,monitorMeta,hp,Phy.ht,Phy.sgi,monitorNormalizePhy]
    by_cases h1 : sigMode = 1
    · by_cases hm : mcs = 0xff <;> cases sgi <;> simp [h1,hm]
    · by_cases h3 : sigMode = 3 <;> simp [h1,h3]

theorem monitorMeta_antenna : (monitorMeta p ty).antenna = p.phy.antenna.getD 0xff := by
  cases hp : p.phy with
  | he format second dumpLen => simp [monitorMeta,hp,Phy.antenna]
  | legacy sigMode rate mcs cwb secondary ant sgi =>
    by_cases ha : ant = 0xff <;> simp [monitorMeta,hp,Phy.antenna,ha]

theorem antenna_ne {ph : Phy} {a : UInt8} (h : ph.antenna = some a) : a ≠ 0xff := by
  cases ph with
  | he format second dumpLen => cases h
  | legacy sigMode rate mcs cwb secondary ant sgi =>
    simp only [Phy.antenna] at h
    split at h
    · cases h
    · cases h
      assumption

theorem monitorMeta_slots : ((monitorMeta p ty).slots toFrequency).map Slot.bytes = p.fields toFrequency := by
  have hm := monitorMeta_mcs p ty
  have hr := monitorMeta_legacyRate p ty
  have ha := monitorMeta_antenna p ty
  have hrssi : (monitorMeta p ty).rssi = p.rssi := by cases hp : p.phy <;> simp [monitorMeta,hp]
  have hant : (Slot.bytes ⟨⟨1,1⟩,if (monitorMeta p ty).antenna ≠ 0xff then some ⟨[(monitorMeta p ty).antenna],rfl⟩ else none⟩) =
      p.phy.antenna.map ([·]) := by
    cases hq : p.phy.antenna with
    | none => simp [ha,hq,Slot.bytes]
    | some a => simp [ha,hq,Slot.bytes,antenna_ne hq]
  have hmcs : (Slot.bytes ⟨⟨1,3⟩,if (monitorMeta p ty).hasMcs then some ⟨(monitorMeta p ty).mcsField,rfl⟩ else none⟩) =
      p.phy.ht := by
    rw [← hm]
    cases (monitorMeta p ty).hasMcs <;> rfl
  have hrate : (Slot.bytes ⟨⟨1,1⟩,if (monitorMeta p ty).legacyRate ≠ 0 then some ⟨[(monitorMeta p ty).legacyRate],rfl⟩ else none⟩) =
      if p.phy.rate = 0 then none else some [p.phy.rate] := by
    rw [hr]
    by_cases h0 : p.phy.rate = 0 <;> simp [h0,Slot.bytes]
  simp only [Meta.slots,List.map_cons,List.map_nil,hant,hmcs,hrate,Pkt.fields]
  simp [Slot.bytes,absent,monitorMeta_radiotapFlags,hrssi,Meta.channelField,monitorMeta_chanFlags,Meta.band,monitorMeta_channel]

theorem monitorRxCb_out {rxBufSize : Nat} {s s' : Firmware} {e : CbEnv} {out : Usb.BufHandle}
    (h : monitorRxCb rxBufSize s e p ty = (s',some out)) :
    out = monitorOut p ty ∧ p.sigLen.val ≠ 0 ∧ metaSize+p.sigLen ≤ rxBufSize-headerSize := by
  unfold monitorRxCb at h
  split at h
  · cases h
  · split at h
    · cases h
    · dsimp only at h
      split at h
      · cases h
      · split at h
        · cases h
        · split at h
          · cases h
          · split at h
            · cases h
            · split at h
              · cases h
              · split at h
                · cases h
                · cases h
                  exact ⟨rfl,by assumption,by omega⟩

theorem monitorMeta_frameLen : (monitorMeta p ty).frameLen.toNat = p.sigLen := by
  have h := p.sigLen.isLt
  have hf : (monitorMeta p ty).frameLen = UInt16.ofNat p.sigLen := by cases hp : p.phy <;> simp [monitorMeta,hp]
  rw [hf,UInt16.toNat_ofNat']
  omega

theorem monitorMeta_version : (monitorMeta p ty).version = ESP_MONITOR_META_VERSION := by
  cases hp : p.phy <;> simp [monitorMeta,hp]

theorem espMonitorRadiotap_ne_nil (m : Meta) : espMonitorRadiotap toFrequency m 32 ≠ [] := by
  intro h
  have hl := espMonitorRadiotap_length toFrequency m
  rw [h,List.length_nil] at hl
  omega

/-- The host refuses a queued frame for an unset channel only. -/
theorem espCfg80211MonitorRx_payload (h : Host) (e : RxEnv) (hs : p.sigLen.val ≠ 0) (hup : h.up = true) :
    espCfg80211MonitorRx toFrequency h e (monitorPayload p ty) =
      if p.channel = 0 then ({h with malformed := h.malformed+1},none)
      else
        let h := {h with rxChannel := p.channel}
        if !e.cow then ({h with drops := h.drops+1},none)
        else
          let h := {h with submitted := h.submitted+1}
          let out := some (espMonitorRadiotap toFrequency (monitorMeta p ty) 32 ++ p.payload.bytes)
          if e.accepted then ({h with packets := h.packets+1, bytes := h.bytes+UInt64.ofNat p.sigLen},out)
          else ({h with stackDrops := h.stackDrops+1, drops := h.drops+1},out) := by
  have hm : readMeta (monitorPayload p ty) = monitorMeta p ty := readMeta_encode _ _
  have hlen := monitorPayload_length p ty
  have hbody : field metaSize p.sigLen (monitorPayload p ty) = p.payload.bytes := by
    have hb := field_body (monitorMeta p ty).members p.payload.bytes
    rwa [p.payload.width] at hb
  have h0 : (monitorMeta p ty).frameLen ≠ 0 := by
    intro hz
    have := monitorMeta_frameLen p ty
    rw [hz] at this
    exact hs this.symm
  have hshort : ¬(monitorPayload p ty).length < metaSize := by omega
  have hcut : ¬(monitorPayload p ty).length-metaSize < p.sigLen.val := by omega
  simp only [espCfg80211MonitorRx,hup,hm,hshort,monitorMeta_version,h0,hcut,hbody,monitorMeta_channel,
    espMonitorRadiotap_ne_nil,Bool.not_true,Bool.false_eq_true,if_false,false_or,ne_eq,not_true_eq_false,
    monitorMeta_frameLen]

end

/-- A frame that the firmware queues fits its transport; with the monitor up and room in the skb it
reaches the stack exactly when it was captured on a known channel, as a radiotap header that says
what the receiver saw followed by the captured bytes. -/
theorem capture_round_trip {rxBufSize : Nat} {s s' : Firmware} {e : CbEnv} {p : Pkt} {ty : PktType} {out : Usb.BufHandle}
    (hcb : monitorRxCb rxBufSize s e p ty = (s',some out)) {h : Host} {r : RxEnv} (hup : h.up = true) (hcow : r.cow = true) :
    out.payload.length ≤ rxBufSize-headerSize ∧
      (p.channel = 0 ↔ (espCfg80211MonitorRx toFrequency h r out.payload).2 = none) ∧
      ∀ skb, (espCfg80211MonitorRx toFrequency h r out.payload).2 = some skb →
        readRadiotap skb = some (p.fields toFrequency,p.payload.bytes) ∧ skb.length ≤ 20+p.sigLen := by
  obtain ⟨rfl,hs,hfit⟩ := monitorRxCb_out p ty hcb
  have hrx := espCfg80211MonitorRx_payload toFrequency p ty h r hs hup
  have hpay : (monitorOut p ty).payload = monitorPayload p ty := rfl
  rw [hpay,hrx]
  refine ⟨?_,?_⟩
  · rw [monitorPayload_length]
    exact hfit
  · by_cases hc : p.channel = 0
    · rw [if_pos hc]
      simp [hc]
    · have hread : readRadiotap (espMonitorRadiotap toFrequency (monitorMeta p ty) 32 ++ p.payload.bytes) =
          some (p.fields toFrequency,p.payload.bytes) := by
        rw [readRadiotap_append,monitorMeta_slots]
      have hlen : (espMonitorRadiotap toFrequency (monitorMeta p ty) 32 ++ p.payload.bytes).length ≤ 20+p.sigLen := by
        have hn := radiotapFields_length toFrequency (monitorMeta p ty)
        rw [List.length_append,espMonitorRadiotap_length,p.payload.width]
        omega
      rw [if_neg hc]
      cases ha : r.accepted <;> simp [hcow,hc] <;> exact ⟨hread,by simpa using hlen⟩

/-- An 802.11n frame of three bytes on channel 6, and one whose channel the receiver did not know. -/
def samplePkt (channel : UInt8) : Pkt where
  rssi := 0xd0
  channel := channel
  sigLen := 3
  timestamp := 1000
  phy := .legacy 1 0x0b 7 1 0 0 true
  payload := ⟨[8,0,1],rfl⟩

def sampleFrequency (channel : UInt8) (_ : Band) : UInt16 := 2407+5*channel.toUInt16

def sampleSkb : Bytes := ((espCfg80211MonitorRx sampleFrequency {up := true} {} (monitorPayload (samplePkt 6) .data)).2).getD []

theorem capture_round_trip_sample : readRadiotap sampleSkb = some ((samplePkt 6).fields sampleFrequency,[8,0,1]) ∧
    sampleSkb.length ≤ 23 :=
  (@capture_round_trip sampleFrequency 1600 {enabled := true} _ {} (samplePkt 6) .data _ rfl {up := true} {} rfl rfl).2.2
    sampleSkb rfl

/-! Every frame the Wi-Fi library delivers is passed over or shows up in a counter of one side or the other. -/

def Firmware.calls (s : Firmware) : UInt32 := s.cbMgmt+s.cbCtrl+s.cbData
def Firmware.queued (s : Firmware) : UInt32 := s.txMgmt+s.txCtrl+s.txData
def Firmware.dropped (s : Firmware) : UInt32 := s.queueDrops+s.allocDrops+s.oversizeDrops

/-- Frames between the two sides, and what neither side counts: all callbacks, those that are ignored
and those that are seen but not taken, frames lost on the way, frames the host has looked at. -/
structure World where
  fw : Firmware
  host : Host
  flight : List Bytes := []
  delivered : Nat := 0
  ignored : Nat := 0
  silent : Nat := 0
  lost : Nat := 0
  received : Nat := 0
  deriving DecidableEq, Repr

inductive Event where
  | callback (e : CbEnv) (p : Pkt) (ty : PktType)
  | deliver (r : RxEnv)
  | lose
  | enable (on : Bool)
  | up (on : Bool)

/-- A callback with the monitor off, or for a type it does not know. -/
def passesOver (s : Firmware) (ty : PktType) : Bool := !s.enabled || ty = .misc

/-- A callback that has been counted and stops at a closed data path or an empty frame. -/
def endsSilent (s : Firmware) (e : CbEnv) (p : Pkt) (ty : PktType) : Bool :=
  s.enabled && ty ≠ .misc && (!e.datapath || !e.lowQueue || p.sigLen.val = 0)

def step (rxBufSize : Nat) (w : World) : Event → Option World
  | .callback e p ty =>
    let r := monitorRxCb rxBufSize w.fw e p ty
    some {w with
      fw := r.1
      flight := w.flight ++ (r.2.map (·.payload)).toList
      delivered := w.delivered+1
      ignored := w.ignored+(passesOver w.fw ty).toNat
      silent := w.silent+(endsSilent w.fw e p ty).toNat}
  | .deliver r =>
    match w.flight with
    | [] => none
    | skb :: rest =>
      some {w with host := (espCfg80211MonitorRx toFrequency w.host r skb).1, flight := rest, received := w.received+1}
  | .lose =>
    match w.flight with
    | [] => none
    | _ :: rest => some {w with flight := rest, lost := w.lost+1}
  | .enable on => some {w with fw := {w.fw with enabled := on}}
  | .up on => some {w with host := {w.host with up := on}}

structure World.Counted (w : World) : Prop where
  delivered : UInt32.ofNat w.delivered = w.fw.calls+UInt32.ofNat w.ignored
  calls : w.fw.calls = w.fw.rxPackets+w.fw.dropped+UInt32.ofNat w.silent
  kinds : w.fw.queued = w.fw.rxPackets
  flight : w.fw.rxPackets = UInt32.ofNat (w.received+w.lost+w.flight.length)
  host : w.host.packets+w.host.drops+w.host.malformed = UInt64.ofNat w.received
  stack : w.host.submitted = w.host.packets+w.host.stackDrops

section
variable (s : Firmware) {ty : PktType}

@[simp] theorem countCb_calls (h : ty ≠ .misc) : (s.countCb ty).calls = s.calls+1 := by
  cases ty with
  | misc => exact absurd rfl h
  | mgmt => simp only [Firmware.countCb,Firmware.calls]; grind
  | ctrl => simp only [Firmware.countCb,Firmware.calls]; grind
  | data => simp only [Firmware.countCb,Firmware.calls]; grind

@[simp] theorem countCb_queued : (s.countCb ty).queued = s.queued := by cases ty <;> rfl
@[simp] theorem countCb_dropped : (s.countCb ty).dropped = s.dropped := by cases ty <;> rfl
@[simp] theorem countCb_rxPackets : (s.countCb ty).rxPackets = s.rxPackets := by cases ty <;> rfl

@[simp] theorem countTx_queued (n : Nat) (h : ty ≠ .misc) : (s.countTx n ty).queued = s.queued+1 := by
  cases ty with
  | misc => exact absurd rfl h
  | mgmt => simp only [Firmware.countTx,Firmware.queued]; grind
  | ctrl => simp only [Firmware.countTx,Firmware.queued]; grind
  | data => simp only [Firmware.countTx,Firmware.queued]; grind

@[simp] theorem countTx_calls (n : Nat) : (s.countTx n ty).calls = s.calls := by cases ty <;> rfl
@[simp] theorem countTx_dropped (n : Nat) : (s.countTx n ty).dropped = s.dropped := by cases ty <;> rfl
@[simp] theorem countTx_rxPackets (n : Nat) : (s.countTx n ty).rxPackets = s.rxPackets+1 := by cases ty <;> rfl

@[simp] theorem observe_calls (c : UInt8) : (s.observe c).calls = s.calls := by unfold Firmware.observe; split <;> rfl
@[simp] theorem observe_queued (c : UInt8) : (s.observe c).queued = s.queued := by unfold Firmware.observe; split <;> rfl
@[simp] theorem observe_dropped (c : UInt8) : (s.observe c).dropped = s.dropped := by unfold Firmware.observe; split <;> rfl
@[simp] theorem observe_rxPackets (c : UInt8) : (s.observe c).rxPackets = s.rxPackets := by
  unfold Firmware.observe; split <;> rfl

end

structure Tallied (s t : Firmware) (queued silent ignored : Nat) : Prop where
  called : t.calls+UInt32.ofNat ignored = s.calls+1
  calls : t.calls+s.rxPackets+s.dropped = s.calls+t.rxPackets+t.dropped+UInt32.ofNat silent
  kinds : t.queued+s.rxPackets = s.queued+t.rxPackets
  packets : t.rxPackets = s.rxPackets+UInt32.ofNat queued

section
variable {s t : Firmware} {ty : PktType}

theorem Tallied.same : Tallied s s 0 0 1 := ⟨rfl,by grind,rfl,by simp⟩

theorem Tallied.silent (h : ty ≠ .misc) : Tallied s (s.countCb ty) 0 1 0 :=
  ⟨by simp [h],by simp [h]; grind,by simp,by simp⟩

theorem Tallied.drop (hc : t.calls = s.calls+1) (hq : t.queued = s.queued) (hp : t.rxPackets = s.rxPackets)
    (hd : t.dropped = s.dropped+1) : Tallied s t 0 0 0 :=
  ⟨by simp [hc],by rw [hc,hp,hd]; grind,by rw [hq,hp],by simp [hp]⟩

theorem Tallied.send (hc : t.calls = s.calls+1) (hq : t.queued = s.queued+1) (hp : t.rxPackets = s.rxPackets+1)
    (hd : t.dropped = s.dropped) : Tallied s t 1 0 0 :=
  ⟨by simp [hc],by rw [hc,hp,hd]; grind,by rw [hq,hp]; grind,hp⟩

theorem dropped_queue (s : Firmware) : ({s with queueDrops := s.queueDrops+1} : Firmware).dropped = s.dropped+1 := by
  simp only [Firmware.dropped]; grind

theorem dropped_alloc (s : Firmware) : ({s with allocDrops := s.allocDrops+1} : Firmware).dropped = s.dropped+1 := by
  simp only [Firmware.dropped]; grind

theorem dropped_oversize (s : Firmware) :
    ({s with oversizeDrops := s.oversizeDrops+1} : Firmware).dropped = s.dropped+1 := by
  simp only [Firmware.dropped]; grind

end

theorem monitorRxCb_tallied (rxBufSize : Nat) (s : Firmware) (e : CbEnv) (p : Pkt) (ty : PktType) :
    Tallied s (monitorRxCb rxBufSize s e p ty).1 (monitorRxCb rxBufSize s e p ty).2.isSome.toNat
      (endsSilent s e p ty).toNat (passesOver s ty).toNat := by
  cases hen : s.enabled with
  | false => simpa [monitorRxCb,endsSilent,passesOver,hen] using Tallied.same
  | true =>
    by_cases hty : ty = .misc
    · simpa [monitorRxCb,endsSilent,passesOver,hty,hen] using Tallied.same
    · have hcalls := countCb_calls s hty
      have hover : passesOver s ty = false := by simp [passesOver,hen,hty]
      rw [hover]
      by_cases hclosed : (!e.datapath || !e.lowQueue || p.sigLen.val = 0) = true
      · have hs : endsSilent s e p ty = true := by simpa [endsSilent,hen,hty] using hclosed
        have hr : monitorRxCb rxBufSize s e p ty = (s.countCb ty,none) := by
          simp only [Bool.or_eq_true,decide_eq_true_eq] at hclosed
          simp only [monitorRxCb,hen,hty,Bool.not_true,Bool.false_eq_true,if_false]
          by_cases hd : (!e.datapath || !e.lowQueue) = true
          · rw [if_pos hd]
          · rw [if_neg hd,if_pos]
            simp only [Bool.or_eq_true] at hd
            exact hclosed.resolve_left hd
        rw [hr,hs]
        exact Tallied.silent hty
      · have hs : endsSilent s e p ty = false := by simpa [endsSilent,hen,hty] using hclosed
        have hopen : (!e.datapath || !e.lowQueue) = false := by
          cases hx : (!e.datapath || !e.lowQueue) <;> simp_all
        have hlen : ¬p.sigLen.val = 0 := fun h0 => hclosed (by simp [h0])
        rw [hs]
        simp only [monitorRxCb,hen,hty,hopen,hlen,Bool.not_true,Bool.false_eq_true,if_false]
        split
        · exact Tallied.drop hcalls (countCb_queued s) (countCb_rxPackets s) (by rw [dropped_oversize,countCb_dropped])
        · split
          · exact Tallied.drop hcalls (countCb_queued s) (countCb_rxPackets s) (by rw [dropped_queue,countCb_dropped])
          · split
            · exact Tallied.drop hcalls (countCb_queued s) (countCb_rxPackets s) (by rw [dropped_alloc,countCb_dropped])
            · split
              · refine Tallied.drop ?_ ?_ ?_ ?_
                · exact (observe_calls _ _).trans hcalls
                · exact (observe_queued _ _).trans (countCb_queued s)
                · exact (observe_rxPackets _ _).trans (countCb_rxPackets s)
                · rw [dropped_queue,observe_dropped,countCb_dropped]
              · exact Tallied.send (by simp [hty]) (by simp [hty]) (by simp) (by simp)

theorem espCfg80211MonitorRx_tallied (h : Host) (e : RxEnv) (skb : Bytes) :
    let t := (espCfg80211MonitorRx toFrequency h e skb).1
    t.packets+t.drops+t.malformed = h.packets+h.drops+h.malformed+1 ∧
      t.submitted+h.packets+h.stackDrops = h.submitted+t.packets+t.stackDrops := by
  unfold espCfg80211MonitorRx
  dsimp only
  split
  · constructor <;> grind
  · split
    · constructor <;> grind
    · split
      · constructor <;> grind
      · split
        · constructor <;> grind
        · split
          · constructor <;> grind
          · split
            · constructor <;> grind
            · split <;> constructor <;> grind

theorem counted_start (fw : Firmware) (host : Host) (hfw : fw = {enabled := fw.enabled})
    (hhost : host = {up := host.up}) : World.Counted {fw := fw, host := host} := by
  rw [hfw,hhost]
  exact ⟨rfl,rfl,rfl,rfl,rfl,rfl⟩

theorem step_counted {rxBufSize : Nat} (w : World) (ev : Event) (w' : World) (hi : w.Counted)
    (hs : step toFrequency rxBufSize w ev = some w') : w'.Counted := by
  have htotal := hi.delivered
  have hcalls := hi.calls
  have hkinds := hi.kinds
  have hflight := hi.flight
  have hhost := hi.host
  have hstack := hi.stack
  cases ev with
  | callback e p ty =>
    cases hs
    have ht := monitorRxCb_tallied rxBufSize w.fw e p ty
    have hc := ht.calls
    have hk := ht.kinds
    have hp := ht.packets
    have hone := ht.called
    refine ⟨?_,?_,?_,?_,hhost,hstack⟩
    · dsimp only
      rw [UInt32.ofNat_add,UInt32.ofNat_add,htotal]
      have h1 : UInt32.ofNat 1 = 1 := rfl
      rw [h1]
      grind
    · dsimp only
      rw [UInt32.ofNat_add]
      grind
    · dsimp only
      grind
    · dsimp only
      have hn : ((monitorRxCb rxBufSize w.fw e p ty).2.map (·.payload)).toList.length =
          (monitorRxCb rxBufSize w.fw e p ty).2.isSome.toNat := by
        cases (monitorRxCb rxBufSize w.fw e p ty).2 <;> rfl
      rw [hp,hflight,List.length_append,hn,← Nat.add_assoc,UInt32.ofNat_add _ (Bool.toNat _)]
  | deliver r =>
    cases hf : w.flight with
    | nil => simp [step,hf] at hs
    | cons skb rest =>
      simp only [step,hf,Option.some.injEq] at hs
      cases hs
      obtain ⟨h1,h2⟩ := espCfg80211MonitorRx_tallied toFrequency w.host r skb
      refine ⟨htotal,hcalls,hkinds,?_,?_,?_⟩
      · dsimp only
        rw [hflight,hf,List.length_cons]
        congr 1
        omega
      · dsimp only
        rw [h1,hhost,UInt64.ofNat_add]
        rfl
      · dsimp only
        grind
  | lose =>
    cases hf : w.flight with
    | nil => simp [step,hf] at hs
    | cons skb rest =>
      simp only [step,hf,Option.some.injEq] at hs
      cases hs
      refine ⟨htotal,hcalls,hkinds,?_,hhost,hstack⟩
      dsimp only
      rw [hflight,hf,List.length_cons]
      congr 1
      omega
  | enable on =>
    cases hs
    exact ⟨htotal,hcalls,hkinds,hflight,hhost,hstack⟩
  | up on =>
    cases hs
    exact ⟨htotal,hcalls,hkinds,hflight,hhost,hstack⟩

/-- In every order of callbacks, deliveries, losses and switches: what the Wi-Fi library delivered was
passed over, or is in a drop counter of the firmware, on the way, lost, or in a counter of the host. -/
theorem capture_accounted {rxBufSize : Nat} {fwOn hostUp : Bool} {evs : List Event} {w : World}
    (hrun : Run.exec (step toFrequency rxBufSize) {fw := {enabled := fwOn}, host := {up := hostUp}} evs = some w) :
    w.Counted ∧ UInt32.ofNat w.delivered =
      UInt32.ofNat (w.ignored+w.silent)+w.fw.dropped+UInt32.ofNat (w.received+w.lost+w.flight.length) := by
  have h : w.Counted := Run.exec_invariant (fun w ev w' hi hs => step_counted toFrequency w ev w' hi hs)
    (counted_start _ _ rfl rfl) hrun
  refine ⟨h,?_⟩
  rw [h.delivered,h.calls,h.flight,UInt32.ofNat_add w.ignored]
  grind

/-- One frame counted by the stack, one refused by the host, one that finds the queue full, one lost,
one over a closed data path and one with the monitor off. -/
def sampleEvents : List Event :=
  [.callback {} (samplePkt 6) .data,.callback {} (samplePkt 0) .mgmt,.deliver {},.callback {space := false} (samplePkt 6) .ctrl,
   .deliver {},.callback {} (samplePkt 6) .data,.lose,.callback {datapath := false} (samplePkt 6) .data,.enable false,
   .callback {} (samplePkt 6) .data]

def sampleWorld : World :=
  ((Run.exec (step sampleFrequency 1600) {fw := {enabled := true}, host := {up := true}} sampleEvents).getD
    {fw := {enabled := true}, host := {up := true}})

theorem capture_accounted_sample : sampleWorld.Counted ∧ sampleWorld.host.malformed = 1 ∧ sampleWorld.fw.dropped = 1 ∧
    sampleWorld.silent = 1 ∧ sampleWorld.ignored = 1 ∧ sampleWorld.delivered = 6 :=
  ⟨(@capture_accounted sampleFrequency 1600 true true sampleEvents sampleWorld rfl).1,by decide,by decide,by decide,
    by decide,by decide⟩

end EspHosted.Capture
