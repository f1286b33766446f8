import Mathlib.Algebra.Group.Nat.Defs
import Mathlib.Data.List.Basic

/-!
The 12-byte `esp_payload_header` in front of every Hosted frame, and the numbers that
several files of either side use. Both sides are little endian and allocate bit fields
from the least significant bit.
-/

set_option autoImplicit false

namespace EspHosted

abbrev Bytes := List UInt8

def ESP_STA_IF : Nat := 0
def ESP_AP_IF : Nat := 1
def ESP_HCI_IF : Nat := 2
def ESP_INTERNAL_IF : Nat := 3
def ESP_TEST_IF : Nat := 4
def ESP_RCP_IF : Nat := 5
def ESP_MONITOR_IF : Nat := 6
def ESP_MAX_IF : Nat := 7

def PACKET_TYPE_DATA : UInt8 := 0
def PACKET_TYPE_COMMAND_REQUEST : UInt8 := 1
def PACKET_TYPE_COMMAND_RESPONSE : UInt8 := 2
def PACKET_TYPE_EVENT : UInt8 := 3
def PACKET_TYPE_EAPOL : UInt8 := 4
def PACKET_TYPE_RCP_SESSION : UInt8 := 5
def PACKET_TYPE_MONITOR : UInt8 := 6

def ESP_INTERNAL_BOOTUP_EVENT : UInt8 := 1
def ESP_BOOTUP_CAPABILITY : UInt8 := 0
def ESP_CHECKSUM_ENABLED : UInt8 := 0x80
def ESP_RADIO_SERVICE_BT : UInt8 := 1
def ESP_RADIO_SERVICE_IEEE802154 : UInt8 := 2
def ESP_RCP_SESSION_VERSION : UInt8 := 1
def ESP_MONITOR_META_VERSION : UInt8 := 1

def CMD_INIT_INTERFACE : UInt8 := 1
def CMD_SET_MAC : UInt8 := 2
def CMD_GET_MAC : UInt8 := 3
def CMD_SCAN_REQUEST : UInt8 := 4
def CMD_STA_CONNECT : UInt8 := 5
def CMD_DISCONNECT : UInt8 := 6
def CMD_DEINIT_INTERFACE : UInt8 := 7
def CMD_ADD_KEY : UInt8 := 8
def CMD_DEL_KEY : UInt8 := 9
def CMD_SET_DEFAULT_KEY : UInt8 := 10
def CMD_STA_AUTH : UInt8 := 11
def CMD_STA_ASSOC : UInt8 := 12
def CMD_SET_IP_ADDR : UInt8 := 13
def CMD_SET_MCAST_MAC_ADDR : UInt8 := 14
def CMD_GET_TXPOWER : UInt8 := 15
def CMD_SET_TXPOWER : UInt8 := 16
def CMD_GET_REG_DOMAIN : UInt8 := 17
def CMD_SET_REG_DOMAIN : UInt8 := 18
def CMD_RAW_TP_ESP_TO_HOST : UInt8 := 19
def CMD_RAW_TP_HOST_TO_ESP : UInt8 := 20
def CMD_SET_WOW_CONFIG : UInt8 := 21
def CMD_SET_MODE : UInt8 := 22
def CMD_SET_IE : UInt8 := 23
def CMD_AP_CONFIG : UInt8 := 24
def CMD_MGMT_TX : UInt8 := 25
def CMD_AP_STATION : UInt8 := 26
def CMD_STA_RSSI : UInt8 := 27
def CMD_SET_TIME : UInt8 := 28
def CMD_START_OTA_UPDATE : UInt8 := 29
def CMD_START_OTA_WRITE : UInt8 := 30
def CMD_START_OTA_END : UInt8 := 31
def CMD_STA_SET_AUTHORIZED : UInt8 := 32
def CMD_SET_RADIO_SERVICE : UInt8 := 33
def CMD_GET_RADIO_SERVICE : UInt8 := 34
def CMD_HOST_REBOOT : UInt8 := 35
def CMD_MONITOR_CONFIG : UInt8 := 37
def CMD_RAW_TP_BIDIRECTIONAL : UInt8 := 38
def CMD_MAX : UInt8 := 39

def CMD_RESPONSE_FAIL : UInt8 := 1
def CMD_RESPONSE_SUCCESS : UInt8 := 2
def CMD_RESPONSE_BUSY : UInt8 := 3
def CMD_RESPONSE_UNSUPPORTED : UInt8 := 4
def CMD_RESPONSE_INVALID : UInt8 := 5

def HOSTED_MGMT_TX_ASYNC_STATUS_V1 : UInt8 := 0xA5
def HOSTED_MGMT_HDR_LEN : Nat := 24
def DISCONNECT_TYPE_DISASSOC : UInt8 := 1

def headerSize : Nat := 12
def commandHeaderSize : Nat := 8
/-- `offsetof(struct esp_internal_bootup_event, data)` -/
def bootDataOffset : Nat := 8
/-- `sizeof(struct esp_monitor_meta)` -/
def metaSize : Nat := 18
def rcpSessionMarkerSize : Nat := 12
def ESP_MAX_ALIGN_PADDING : Nat := 4
def ESP_MAX_OFFSET_SIZE : Nat := headerSize+ESP_MAX_ALIGN_PADDING

def SKB_DATA_ADDR_ALIGNMENT : Nat := 4
def ESP_RX_BUFFER_SIZE : Nat := 15872
def ESP_HOST_TX_AGGR_SIZE : Nat := ESP_RX_BUFFER_SIZE
def ESP_TX_AGGR_SIZE_MAX : Nat := 15872
def SPI_HD_BUF_SIZE : Nat := 1600
def SPI_HD_TX_BATCH_MAX : Nat := 3200
def ESP_HOSTED_RCP_CHUNK_MAX : Nat := 1400
def ESP_HOSTED_RCP_TX_HEADROOM : Nat := ESP_MAX_OFFSET_SIZE
def ESP_HOSTED_RCP_TX_POOL_SIZE : Nat := 8
def U16_MAX : Nat := 65535

def EPERM : Int := 1
def EIO : Int := 5
def ENOMEM : Int := 12
def EFAULT : Int := 14
def EBUSY : Int := 16
def ENODEV : Int := 19
def EINVAL : Int := 22
def ENODATA : Int := 61
def EPROTO : Int := 71
def ESHUTDOWN : Int := 108
def ETIMEDOUT : Int := 110

def ESP_ERR_INVALID_STATE : Int := 0x103
def ESP_ERR_WIFI_NOT_INIT : Int := 0x3001
def ESP_ERR_WIFI_NOT_STARTED : Int := 0x3002

def espOffsetValid (offset : Nat) : Bool := headerSize ≤ offset && offset ≤ ESP_MAX_OFFSET_SIZE

theorem espOffsetValid_eq_false {offset : Nat} :
    espOffsetValid offset = false ↔ ¬(headerSize ≤ offset ∧ offset ≤ ESP_MAX_OFFSET_SIZE) := by
  simp [espOffsetValid]

structure PayloadHeader where
  ifType : Fin 16
  ifNum : Fin 16
  flags : UInt8 := 0
  packetType : UInt8 := 0
  reserved1 : UInt8 := 0
  len : UInt16
  offset : UInt16
  checksum : UInt16 := 0
  reserved2 : UInt8 := 0
  /-- Also `hci_pkt_type` and `priv_pkt_type`. -/
  reserved3 : UInt8 := 0
  deriving DecidableEq, Repr

def htole16 (v : UInt16) : Bytes := [UInt8.ofNat (v.toNat%256),UInt8.ofNat (v.toNat/256)]

def le16ToCpu (lo hi : UInt8) : Nat := lo.toNat+256*hi.toNat

theorem le16ToCpu_htole16 (v : UInt16) :
    le16ToCpu (UInt8.ofNat (v.toNat%256)) (UInt8.ofNat (v.toNat/256)) = v.toNat := by
  have hv := v.toNat_lt
  simp only [le16ToCpu,UInt8.toNat_ofNat']
  omega

def PayloadHeader.encode (h : PayloadHeader) : Bytes :=
  [UInt8.ofNat (h.ifType.val+16*h.ifNum.val),h.flags,h.packetType,h.reserved1] ++
    htole16 h.len ++ htole16 h.offset ++ htole16 h.checksum ++ [h.reserved2,h.reserved3]

@[simp] theorem PayloadHeader.encode_length (h : PayloadHeader) : h.encode.length = headerSize := by
  simp [encode,htole16,headerSize]

/-- The three fields of a header that a bounds check reads, from its raw bytes. -/
def hdrIfType (b : Bytes) : Nat := (b.getD 0 0).toNat%16
def hdrLen (b : Bytes) : Nat := le16ToCpu (b.getD 4 0) (b.getD 5 0)
def hdrOffset (b : Bytes) : Nat := le16ToCpu (b.getD 6 0) (b.getD 7 0)

@[simp] theorem hdrIfType_encode (h : PayloadHeader) (rest : Bytes) :
    hdrIfType (h.encode ++ rest) = h.ifType.val := by
  have ht := h.ifType.isLt
  have hn := h.ifNum.isLt
  simp only [hdrIfType,PayloadHeader.encode,List.cons_append,List.getD_cons_zero,
    UInt8.toNat_ofNat']
  omega

@[simp] theorem hdrLen_encode (h : PayloadHeader) (rest : Bytes) :
    hdrLen (h.encode ++ rest) = h.len.toNat := by
  rw [← le16ToCpu_htole16 h.len]
  rfl

@[simp] theorem hdrOffset_encode (h : PayloadHeader) (rest : Bytes) :
    hdrOffset (h.encode ++ rest) = h.offset.toNat := by
  rw [← le16ToCpu_htole16 h.offset]
  rfl

/-- A header that is complete in the buffer is read the same whatever follows. -/
theorem getD_append_of_lt (b t : Bytes) (i : Nat) (h : i < b.length) :
    (b ++ t).getD i 0 = b.getD i 0 := by
  simp [List.getD_eq_getElem?_getD,List.getElem?_append_left h]

theorem hdrIfType_append {b : Bytes} (t : Bytes) (h : headerSize ≤ b.length) :
    hdrIfType (b ++ t) = hdrIfType b := by
  simp only [headerSize] at h
  simp only [hdrIfType,getD_append_of_lt b t 0 (by omega)]

theorem hdrLen_append {b : Bytes} (t : Bytes) (h : headerSize ≤ b.length) :
    hdrLen (b ++ t) = hdrLen b := by
  simp only [headerSize] at h
  simp only [hdrLen,getD_append_of_lt b t 4 (by omega),getD_append_of_lt b t 5 (by omega)]

theorem hdrOffset_append {b : Bytes} (t : Bytes) (h : headerSize ≤ b.length) :
    hdrOffset (b ++ t) = hdrOffset b := by
  simp only [headerSize] at h
  simp only [hdrOffset,getD_append_of_lt b t 6 (by omega),getD_append_of_lt b t 7 (by omega)]

theorem getD_of_all_zero {b : Bytes} (h : b.all (· == 0) = true) (i : Nat) : b.getD i 0 = 0 := by
  rw [List.getD_eq_getElem?_getD]
  cases hi : b[i]? with
  | none => rfl
  | some x => simpa using (List.all_eq_true.mp h) x (List.mem_of_getElem? hi)

theorem hdrLen_of_all_zero {b : Bytes} (h : (b.take headerSize).all (· == 0) = true) : hdrLen b = 0 := by
  have h4 := getD_of_all_zero h 4
  have h5 := getD_of_all_zero h 5
  simp only [List.getD_eq_getElem?_getD,List.getElem?_take,headerSize] at h4 h5
  simp_all [hdrLen,le16ToCpu,List.getD_eq_getElem?_getD]

/-- `esp_host_wire_span_valid`: the frame length when the span fits. -/
def espHostWireSpanValid (payloadLen offset available : Nat) : Option Nat :=
  if payloadLen = 0 ∨ espOffsetValid offset = false then none
  else if available < offset ∨ available-offset < payloadLen then none
  else some (offset+payloadLen)

theorem espHostWireSpanValid_eq_some {payloadLen offset available n : Nat} :
    espHostWireSpanValid payloadLen offset available = some n ↔
      0 < payloadLen ∧ headerSize ≤ offset ∧ offset ≤ ESP_MAX_OFFSET_SIZE ∧
      n = offset+payloadLen ∧ n ≤ available := by
  unfold espHostWireSpanValid
  simp only [espOffsetValid_eq_false]
  constructor
  · intro h
    split at h
    · cases h
    · split at h
      · cases h
      · cases h
        omega
  · rintro ⟨hp,hl,hu,rfl,ha⟩
    rw [if_neg (by omega),if_neg (by omega)]

end EspHosted
