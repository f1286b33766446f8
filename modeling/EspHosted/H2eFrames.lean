import EspHosted.HostTxSafe
import EspHosted.RadioBackends

/-!
One frame of the driver in the firmware: the tests of `process_rx_pkt` in `app_main.c` and the branch that takes
the payload.
-/

set_option autoImplicit false

namespace EspHosted.HostTx
open EspHosted Prog Packed

structure Fw where
  stationConnected : Bool := false
  associationOngoing : Bool := false
  stationAuthorized : Bool := false
  softapStarted : Bool := false
  radio : Backends.Fw := {}
  deriving DecidableEq, Repr

inductive Delivery where
  /-- `esp_wifi_internal_tx`, perhaps several times. -/
  | wifiTx (ap : Bool) (payload : Bytes)
  /-- `esp_vhci_host_send_packet` -/
  | vhci (packet : Bytes)
  | command (ifType : Nat) (payload : Bytes)
  | rcp (packetType : UInt8) (payload : Bytes)
  | rawTp (len : Nat)
  | restart
  deriving DecidableEq, Repr

/-- How the firmware is built: `RX_BUF_SIZE`, whether checksums are looked at and how they are computed, and
which radios there are. -/
structure FwConfig where
  rxBufSize : Nat
  validates : Bool
  computeChecksum : Bytes → UInt16
  radio : Backends.Config

/-- What the calls of IDF return while a frame is handled; `inTime` is that `vhci_send_sem` is given while the firmware
waits for it. -/
structure HciIo where
  bt : Backends.BtIo := {}
  inTime : Bool := true

def hdrPacketType (f : Bytes) : UInt8 := f.getD 2 0
def hdrChecksum (f : Bytes) : Nat := le16ToCpu (f.getD 8 0) (f.getD 9 0)

/-- The frame with `header->checksum = 0`. -/
def unsummed (f : Bytes) : Bytes := f.take 8 ++ [0,0] ++ f.drop 10

/-- The frame at the start of `data` and its payload, if it passes the tests. -/
def h2eFrame (c : FwConfig) (data : Bytes) : Option (Bytes × Bytes) :=
  let len := hdrLen data
  let offset := hdrOffset data
  if data.length < headerSize || len = 0 || !espOffsetValid offset then none
  else if c.rxBufSize < len+offset || data.length < len+offset then none
  else if c.validates && (c.computeChecksum (unsummed (data.take (len+offset)))).toNat ≠ hdrChecksum data then none
  else some (data.take (len+offset),(data.drop offset).take len)

/-- `payload--; payload_len++` -/
def vhciPacket (frame : Bytes) : Bytes := (frame.drop (hdrOffset frame-1)).take (hdrLen frame+1)

def stationDelivery (s : Fw) (packetType : UInt8) (payload : Bytes) : Option Delivery :=
  if (s.stationConnected || s.associationOngoing) && (s.stationAuthorized || packetType = PACKET_TYPE_EAPOL) then
    some (.wifiTx false payload)
  else none

/-- A host that has never selected a radio service gets Bluetooth with its first packet. -/
def hciDelivery (c : FwConfig) (io : HciIo) (s : Fw) (packet : Bytes) : Fw × Option Delivery :=
  let radio := Backends.startLegacyBt io.bt s.radio
  if radio.has ESP_RADIO_SERVICE_BT then
    let h := Backends.processHciRxPkt c.radio io.inTime radio
    match h.2 with
    | .sent => ({s with radio := h.1},some (.vhci packet))
    | .dropped => ({s with radio := h.1},none)
    | .restart => ({},some .restart)
  else ({s with radio := radio},none)

def h2eDispatch (c : FwConfig) (io : HciIo) (s : Fw) (frame payload : Bytes) : Fw × Option Delivery :=
  let ifType := hdrIfType frame
  let packetType := hdrPacketType frame
  if c.radio.rcp ≠ .none ∧ ifType = ESP_RCP_IF then (s,some (.rcp packetType payload))
  else if packetType = PACKET_TYPE_COMMAND_REQUEST then (s,some (.command ifType payload))
  else if packetType = PACKET_TYPE_DATA || packetType = PACKET_TYPE_EAPOL then
    if ifType = ESP_STA_IF then (s,stationDelivery s packetType payload)
    else if ifType = ESP_AP_IF && s.softapStarted then (s,some (.wifiTx true payload))
    else if c.radio.hci && ifType = ESP_HCI_IF then hciDelivery c io s (vhciPacket frame)
    else if ifType = ESP_TEST_IF then (s,some (.rawTp payload.length))
    else (s,none)
  else (s,none)

def processRxFrame (c : FwConfig) (io : HciIo) (s : Fw) (data : Bytes) : Fw × Option Delivery :=
  match h2eFrame c data with
  | none => (s,none)
  | some f => h2eDispatch c io s f.1 f.2

/-! A frame of the driver, read by the firmware. -/

/-- A header with an open checksum field, and what follows it up to the payload. -/
structure Header where
  fields : PayloadHeader
  tail : Bytes

def Header.bytes (h : Header) (checksum : UInt16) : Bytes := {h.fields with checksum := checksum}.encode ++ h.tail

structure Header.Fits (h : Header) (d : Bytes) : Prop where
  len : h.fields.len.toNat = d.length
  offset : h.fields.offset.toNat = headerSize+h.tail.length
  room : h.tail.length ≤ ESP_MAX_ALIGN_PADDING
  full : 0 < d.length

theorem unsummed_bytes (h : Header) (checksum : UInt16) (d : Bytes) : unsummed (h.bytes checksum ++ d) = h.bytes 0 ++ d := by
  simp [unsummed,Header.bytes,PayloadHeader.encode,htole16]

theorem hdrChecksum_bytes (h : Header) (checksum : UInt16) (d : Bytes) :
    hdrChecksum (h.bytes checksum ++ d) = checksum.toNat := by
  rw [← le16ToCpu_htole16 checksum]
  rfl

theorem h2eFrame_framed {c : FwConfig} {env : Test → Bool → Prop} {h : Header} {d f : Bytes} (hfit : h.Fits d)
    (hsize : headerSize+h.tail.length+d.length ≤ c.rxBufSize)
    (hsum : c.validates = true → ∀ on, env .checksumEnabled on → on = true)
    (hf : Framed env c.computeChecksum h.bytes d f) :
    h2eFrame c f = some (f,d) ∧ hdrIfType f = h.fields.ifType.val ∧ hdrPacketType f = h.fields.packetType ∧
      hdrOffset f = headerSize+h.tail.length ∧ hdrLen f = d.length := by
  obtain ⟨on,hon,rfl⟩ := hf
  -- the checksum the driver has put in
  generalize hc : (if on then c.computeChecksum (h.bytes 0 ++ d) else 0 : UInt16) = checksum
  have happ : h.bytes checksum ++ d = {h.fields with checksum := checksum}.encode ++ (h.tail ++ d) := by
    rw [Header.bytes,List.append_assoc]
  have htype : hdrIfType (h.bytes checksum ++ d) = h.fields.ifType.val := by rw [happ,hdrIfType_encode]
  have hlen : hdrLen (h.bytes checksum ++ d) = d.length := by rw [happ,hdrLen_encode,hfit.len]
  have hoff : hdrOffset (h.bytes checksum ++ d) = headerSize+h.tail.length := by rw [happ,hdrOffset_encode,hfit.offset]
  have hfront : (h.bytes checksum).length = headerSize+h.tail.length := by simp [Header.bytes]
  have hall : (h.bytes checksum ++ d).length = d.length+(headerSize+h.tail.length) := by
    rw [List.length_append,hfront]
    omega
  refine ⟨?_,htype,rfl,hoff,hlen⟩
  have hpass : (c.validates && (c.computeChecksum (unsummed (h.bytes checksum ++ d))).toNat ≠ hdrChecksum (h.bytes checksum ++ d)) =
      false := by
    cases hv : c.validates with
    | false => rfl
    | true =>
      rw [hsum hv on hon,if_pos rfl] at hc
      simp [unsummed_bytes,hdrChecksum_bytes,hc]
  have hvalid : espOffsetValid (headerSize+h.tail.length) = true := by
    have hroom := hfit.room
    simp [espOffsetValid,ESP_MAX_OFFSET_SIZE,hroom]
  have hwhole : (h.bytes checksum ++ d).take (d.length+(headerSize+h.tail.length)) = h.bytes checksum ++ d := by
    rw [← hall,List.take_length]
  have hpay : ((h.bytes checksum ++ d).drop (headerSize+h.tail.length)).take d.length = d := by
    rw [← hfront,List.drop_left,List.take_length]
  have hfull := hfit.full
  have hnempty : d ≠ [] := List.ne_nil_of_length_pos hfull
  rw [h2eFrame,hlen,hoff,hwhole,hpay,hpass,hall,hvalid]
  simp [hnempty]
  omega

/-! The frames of the two paths. -/

def netHeader (i : Iface) (eapol : Bool) (len : Nat) : Header where
  fields :=
    { ifType := i.ifType
      ifNum := i.ifNum
      packetType := if eapol then PACKET_TYPE_EAPOL else PACKET_TYPE_DATA
      len := UInt16.ofNat len
      offset := UInt16.ofNat (padLen len) }
  tail := List.replicate (padLen len-headerSize) 0

theorem netPrefix_eq (i : Iface) (eapol : Bool) (len : Nat) : netPrefix i eapol len (padLen len) = (netHeader i eapol len).bytes := rfl

theorem netHeader_fits {i : Iface} {eapol : Bool} {d : Bytes} (hpos : 0 < d.length) (hlen : d.length < 2^16) :
    (netHeader i eapol d.length).Fits d := by
  obtain ⟨hlow,hhigh,-⟩ := padLen_bounds d.length
  simp only [headerSize] at hlow hhigh
  refine ⟨?_,?_,?_,hpos⟩
  · simp [netHeader]
    omega
  · simp [netHeader,headerSize]
    omega
  · simp [netHeader,headerSize,ESP_MAX_ALIGN_PADDING]
    omega

/-- The padding, with the H4 type at its end; without padding the type stands in the header alone. -/
def btTail (pktType : UInt8) : Nat → Bytes
  | 0 => []
  | n+1 => List.replicate n 0 ++ [pktType]

@[simp] theorem btTail_length (pktType : UInt8) (n : Nat) : (btTail pktType n).length = n := by
  cases n <;> simp [btTail]

def btHeader (pktType : UInt8) (len : Nat) : Header where
  fields :=
    { ifType := Usb.nibble 2
      ifNum := Usb.nibble 0
      len := UInt16.ofNat len
      offset := UInt16.ofNat (padLen len)
      reserved3 := pktType }
  tail := btTail pktType (padLen len-headerSize)

theorem btPrefix_eq (pktType : UInt8) (len : Nat) : btPrefix pktType len (padLen len) = (btHeader pktType len).bytes := by
  funext checksum
  simp only [btPrefix,btHeader,Header.bytes]
  generalize padLen len-headerSize = n
  cases n with
  | zero => simp [btTail,PayloadHeader.encode,htole16]
  | succ n => simp [btTail,List.replicate_succ',← List.append_assoc]

theorem btHeader_fits {pktType : UInt8} {d : Bytes} (hpos : 0 < d.length) (hlen : d.length < 2^16) :
    (btHeader pktType d.length).Fits d := by
  obtain ⟨hlow,hhigh,-⟩ := padLen_bounds d.length
  simp only [headerSize] at hlow hhigh
  refine ⟨?_,?_,?_,hpos⟩
  · simp [btHeader]
    omega
  · simp [btHeader,headerSize]
    omega
  · simp [btHeader,headerSize,ESP_MAX_ALIGN_PADDING]
    omega

/-- The header ends with the H4 type, wherever the payload starts. -/
theorem btHeader_ends (pktType : UInt8) (len : Nat) (checksum : UInt16) :
    ∃ front : Bytes, (btHeader pktType len).bytes checksum = front ++ [pktType] ∧
      front.length = headerSize+(btHeader pktType len).tail.length-1 := by
  simp only [btHeader,Header.bytes]
  generalize padLen len-headerSize = n
  cases n with
  | zero =>
    refine ⟨(PayloadHeader.encode ⟨2,0,0,0,0,UInt16.ofNat len,UInt16.ofNat (padLen len),checksum,0,pktType⟩).dropLast,?_,?_⟩
    · simp [btTail,PayloadHeader.encode,htole16]
    · simp [btTail,headerSize]
  | succ n =>
    refine ⟨_,(List.append_assoc _ (List.replicate n 0) [pktType]).symm,?_⟩
    simp [btTail]

theorem vhciPacket_framed {pktType : UInt8} {d f : Bytes} {checksum : UInt16}
    (hf : f = (btHeader pktType d.length).bytes checksum ++ d)
    (hoff : hdrOffset f = headerSize+(btHeader pktType d.length).tail.length) (hlen : hdrLen f = d.length) :
    vhciPacket f = pktType :: d := by
  obtain ⟨front,hb,hl⟩ := btHeader_ends pktType d.length checksum
  rw [vhciPacket,hoff,hlen,hf,hb,← hl,List.append_assoc,List.drop_left]
  simp

def netDelivery (s : Fw) (i : Iface) (eapol : Bool) (d : Bytes) : Option Delivery :=
  if i.ifType.val = ESP_STA_IF then
    if (s.stationConnected || s.associationOngoing) && (s.stationAuthorized || eapol) then some (.wifiTx false d) else none
  else if s.softapStarted then some (.wifiTx true d)
  else none

theorem h2eDispatch_net {c : FwConfig} {io : HciIo} {s : Fw} {i : Iface} {eapol : Bool} {f d : Bytes}
    (hi : i.ifType.val = ESP_STA_IF ∨ i.ifType.val = ESP_AP_IF) (htype : hdrIfType f = i.ifType.val)
    (hpkt : hdrPacketType f = if eapol then PACKET_TYPE_EAPOL else PACKET_TYPE_DATA) :
    h2eDispatch c io s f d = (s,netDelivery s i eapol d) := by
  have hcmd : ¬PACKET_TYPE_EAPOL = PACKET_TYPE_COMMAND_REQUEST ∧ ¬PACKET_TYPE_DATA = PACKET_TYPE_COMMAND_REQUEST := by decide
  have hne : ¬PACKET_TYPE_DATA = PACKET_TYPE_EAPOL := by decide
  rcases hi with hsta | hsoft
  · cases eapol <;> simp [h2eDispatch,htype,hpkt,hsta,stationDelivery,netDelivery,hcmd,hne,ESP_STA_IF,ESP_RCP_IF]
  · cases eapol <;> cases hs : s.softapStarted <;>
      simp [h2eDispatch,htype,hpkt,hsoft,netDelivery,hcmd,hs,ESP_AP_IF,ESP_RCP_IF,ESP_STA_IF,ESP_HCI_IF,ESP_TEST_IF]

theorem h2eDispatch_bt {c : FwConfig} {io : HciIo} {s : Fw} {pktType : UInt8} {f d : Bytes} (htype : hdrIfType f = ESP_HCI_IF)
    (hpkt : hdrPacketType f = PACKET_TYPE_DATA) (hhci : vhciPacket f = pktType :: d) :
    h2eDispatch c io s f d = if c.radio.hci then hciDelivery c io s (pktType :: d) else (s,none) := by
  have hcmd : ¬PACKET_TYPE_DATA = PACKET_TYPE_COMMAND_REQUEST := by decide
  simp [h2eDispatch,htype,hpkt,hhci,hcmd,ESP_HCI_IF,ESP_RCP_IF,ESP_STA_IF,ESP_AP_IF,ESP_TEST_IF]

/-- Bluetooth runs when the packet is there, perhaps because of it. -/
def bluetoothUp (c : FwConfig) (io : HciIo) (s : Fw) : Bool :=
  c.radio.hci && (Backends.startLegacyBt io.bt s.radio).has ESP_RADIO_SERVICE_BT

/-- The controller takes one more packet: always behind NimBLE, else with its semaphore. -/
def vhciAvailable (c : FwConfig) (io : HciIo) (s : Fw) : Bool :=
  c.radio.nimble || (Backends.startLegacyBt io.bt s.radio).bt.vhciSendSem == some true || io.inTime

structure HciArrives (c : FwConfig) (io : HciIo) (s : Fw) (packet : Bytes) (r : Fw × Option Delivery) : Prop where
  off : bluetoothUp c io s = false → r.2 = none
  sent : bluetoothUp c io s = true → vhciAvailable c io s = true → r.2 = some (.vhci packet)
  restart : bluetoothUp c io s = true → vhciAvailable c io s = false → r = ({},some .restart)

theorem hciDelivery_arrives {c : FwConfig} {s : Fw} (io : HciIo) (packet : Bytes) (h : s.radio.Matches c.radio) :
    HciArrives c io s packet (if c.radio.hci then hciDelivery c io s packet else (s,none)) := by
  have hradio := Backends.startLegacyBt_matches io.bt h
  cases hhci : c.radio.hci with
  | false => constructor <;> simp [bluetoothUp,hhci]
  | true =>
    cases hup : (Backends.startLegacyBt io.bt s.radio).has ESP_RADIO_SERVICE_BT with
    | false => constructor <;> simp [bluetoothUp,hhci,hup,hciDelivery]
    | true =>
      have hbt := hradio.bt
      rw [hup] at hbt
      obtain ⟨hsem,-⟩ := (show Backends.Bt.On _ from hbt)
      obtain ⟨free,hfree⟩ := Option.isSome_iff_exists.mp hsem
      cases hn : c.radio.nimble <;> cases hf : free <;> cases hi : io.inTime <;> constructor <;>
        simp [bluetoothUp,vhciAvailable,hhci,hup,hciDelivery,Backends.processHciRxPkt,hn,hfree,hf,hi]

/-- A packet the network stack hands over: the caller's skb is given back as it was, or it is gone together with any skb
made in its place; at most one frame goes out, and in that the firmware finds the packet, whole and for its interface. -/
theorem xmit_arrives {c : FwConfig} {env : Test → Bool → Prop} {i : Iface}
    (hi : i.ifType.val = ESP_STA_IF ∨ i.ifType.val = ESP_AP_IF) (hroom : headerSize+3+ETH_FRAME_LEN ≤ c.rxBufSize)
    (hsum : c.validates = true → ∀ on, env .checksumEnabled on → on = true) (eapol : Bool) (d : Bytes) (io : HciIo) (s : Fw) :
    wp (rules env) (espHardStartXmit c.computeChecksum i eapol) {orig := some d} fun ret st =>
      XmitEnds env c.computeChecksum i eapol d ret st ∧
        ∀ f ∈ st.out, processRxFrame c io s f = (s,netDelivery s i eapol d) := by
  refine wp_mono (rules_mono env) (fun ret st h => ⟨h.1,fun f hf => ?_⟩) (xmit_custody env c.computeChecksum i eapol d)
  obtain ⟨hends,hsize⟩ := h
  obtain ⟨hpos,hle⟩ := hsize (List.ne_nil_of_mem hf)
  have hframed : Framed env c.computeChecksum (netHeader i eapol d.length).bytes d f := by
    rcases hends with ⟨-,rfl⟩ | ⟨-,rfl | ⟨g,rfl,-,hg⟩⟩
    · simp at hf
    · simp at hf
    · rw [← netPrefix_eq]
      simpa [List.mem_singleton.mp hf] using hg
  obtain ⟨-,hpad,-⟩ := padLen_bounds d.length
  have htail : headerSize+(netHeader i eapol d.length).tail.length ≤ headerSize+3 := by
    simp [netHeader]
    omega
  simp only [ETH_FRAME_LEN] at hle hroom
  obtain ⟨hf2,htype,hpkt,-,-⟩ := h2eFrame_framed (netHeader_fits hpos (by omega)) (by omega) hsum hframed
  rw [processRxFrame,hf2]
  exact h2eDispatch_net hi htype hpkt

def fineTx : Test → Bool
  | .queueStopped | .hostSleep | .stopData | .removing | .cleanup => false
  | _ => true

def sampleFw : FwConfig where
  rxBufSize := 1600
  validates := true
  computeChecksum := fun b => UInt16.ofNat (b.foldr (fun x n => x.toNat+n) 0)
  radio := ⟨true,false,.openthread⟩

theorem xmit_arrives_sample : wp (rules fun t b => b = fineTx t) (espHardStartXmit sampleFw.computeChecksum ⟨0,0⟩ false)
    {orig := some [1,2,3]} fun ret st =>
      XmitEnds (fun t b => b = fineTx t) sampleFw.computeChecksum ⟨0,0⟩ false [1,2,3] ret st ∧
        ∀ f ∈ st.out, processRxFrame sampleFw {} {} f = ({},netDelivery {} ⟨0,0⟩ false [1,2,3]) :=
  @xmit_arrives sampleFw (fun t b => b = fineTx t) ⟨0,0⟩ (.inl rfl) (by decide) (fun _ _ h => h) false [1,2,3] {} {}

/-- A packet of the HCI core, which frees the skb when the driver returns an error: it is the driver's if and only if 0 is
returned. What goes out reaches the controller with the H4 type in front when Bluetooth is up or can be brought up, in
every state of the radios, unless the controller does not take packets any more: then the firmware restarts. -/
theorem bt_arrives {c : FwConfig} {env : Test → Bool → Prop} {d : Bytes} (hpos : 0 < d.length)
    (hroom : headerSize+3+d.length ≤ c.rxBufSize) (hlen : d.length < 2^16)
    (hsum : c.validates = true → ∀ on, env .checksumEnabled on → on = true) {s : Fw} {acts : List Backends.Action}
    (hrun : Run.exec (Backends.step c.radio) {} acts = some s.radio) (pktType : UInt8) (io : HciIo) :
    wp (rules env) (espBtSendFrame c.computeChecksum pktType) {orig := some d} fun ok st =>
      BtEnds env c.computeChecksum pktType d ok st ∧
        ∀ f ∈ st.out, HciArrives c io s (pktType :: d) (processRxFrame c io s f) := by
  refine wp_mono (rules_mono env) (fun ok st h => ⟨h,fun f hf => ?_⟩) (bt_custody env c.computeChecksum pktType d)
  have hframed : Framed env c.computeChecksum (btHeader pktType d.length).bytes d f := by
    rcases h with ⟨-,rfl⟩ | ⟨-,rfl | ⟨g,rfl,-,hg⟩⟩
    · simp at hf
    · simp at hf
    · rw [← btPrefix_eq]
      simpa [List.mem_singleton.mp hf] using hg
  obtain ⟨-,hpad,-⟩ := padLen_bounds d.length
  have htail : headerSize+(btHeader pktType d.length).tail.length ≤ headerSize+3 := by
    simp [btHeader]
    omega
  obtain ⟨hf2,htype,hpkt,hoff,hl⟩ := h2eFrame_framed (btHeader_fits hpos hlen) (by omega) hsum hframed
  obtain ⟨on,-,hbytes⟩ := hframed
  rw [processRxFrame,hf2]
  dsimp only
  rw [h2eDispatch_bt htype hpkt (vhciPacket_framed hbytes hoff hl)]
  exact hciDelivery_arrives io _ (Backends.run_matches hrun)

theorem bt_arrives_reset : wp (rules fun t b => b = fineTx t) (espBtSendFrame sampleFw.computeChecksum 1)
    {orig := some [3,12,0]} fun ok st =>
      BtEnds (fun t b => b = fineTx t) sampleFw.computeChecksum 1 [3,12,0] ok st ∧
        ∀ f ∈ st.out, HciArrives sampleFw {} {} [1,3,12,0] (processRxFrame sampleFw {} {} f) :=
  @bt_arrives sampleFw (fun t b => b = fineTx t) [3,12,0] (by decide) (by decide) (by decide) (fun _ _ h => h) {} [] rfl 1 {}

/-- The packet of a host that knows no services brings Bluetooth up and is sent. -/
example : bluetoothUp sampleFw {} {} = true ∧ vhciAvailable sampleFw {} {} = true := by decide

end EspHosted.HostTx
