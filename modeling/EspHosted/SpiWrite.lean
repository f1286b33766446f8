import EspHosted.SdioE2h
import EspHosted.SpiReboot

/-!
One E2H frame over full-duplex SPI: `esp_spi_write` and the copy into the armed buffer in
`main/spi_slave_api.c`, `process_rx_buf` in `host/spi/esp_spi.c`.
-/

set_option autoImplicit false

namespace EspHosted.SpiWrite
open EspHosted Padded
open EspHosted.SpiHd (Prio hdrPacketType setChecksum sameHeader_setChecksum SameHeader)
open EspHosted.SpiReboot (SPI_BUF_SIZE cmdCode)
open EspHosted.Sdio.E2h (WireFrame Framed framed_of_sameHeader)
open EspHosted.Usb (BufHandle EspErr nibble nibble_val debugRawTpSetSeq)

def RX_BUF_SIZE : Nat := 1600
def SPI_DMA_ALIGNMENT_BYTES : Nat := 4

/-- `addr` is the address of the payload. -/
structure TxHandle where
  handle : BufHandle
  addr : UInt32

/-- Outcome of `heap_caps_malloc` and of `xQueueSend`. -/
structure WriteIo where
  alloc : Bool := true
  send : Bool := true
  deriving DecidableEq, Repr

/-- `checksum` is `CONFIG_ESP_SPI_CHECKSUM`. -/
structure Config where
  checksum : Bool
  cksum : Bytes → UInt16

section
variable (b : TxHandle)

def TxHandle.isRcp : Bool := b.handle.ifType.toNat = ESP_RCP_IF

/-- `IS_WIFI_DATA_PACKET` -/
def TxHandle.isWifiData : Bool :=
  decide (b.handle.pktType = PACKET_TYPE_DATA) &&
    (decide (b.handle.ifType.toNat = ESP_STA_IF) || decide (b.handle.ifType.toNat = ESP_AP_IF))

def TxHandle.alignPadding : Nat :=
  (SPI_DMA_ALIGNMENT_BYTES-b.addr.toNat%SPI_DMA_ALIGNMENT_BYTES)%SPI_DMA_ALIGNMENT_BYTES

def TxHandle.wireOffset : Nat :=
  if b.isRcp then ESP_HOSTED_RCP_TX_HEADROOM
  else if b.isWifiData then headerSize+b.alignPadding
  else headerSize

def TxHandle.header : PayloadHeader :=
  let hdr : PayloadHeader :=
    {ifType := nibble b.handle.ifType.toNat
     ifNum := nibble b.handle.ifNum.toNat
     flags := b.handle.flag
     packetType := b.handle.pktType
     len := UInt16.ofNat b.handle.payload.length
     offset := UInt16.ofNat b.wireOffset}
  if hdr.ifType.val = ESP_TEST_IF then debugRawTpSetSeq hdr b.handle.rawTpSeq else hdr

def TxHandle.plain : Bytes :=
  b.header.encode ++ (List.replicate (b.wireOffset-headerSize) 0 ++ b.handle.payload)

/-- Without `CONFIG_ESP_SPI_CHECKSUM` only the answer to a reboot has a checksum. -/
def TxHandle.summed (c : Config) : Bool :=
  c.checksum || (decide (hdrIfType b.plain = ESP_INTERNAL_IF) &&
    decide (hdrPacketType b.plain = PACKET_TYPE_COMMAND_RESPONSE) &&
    decide (commandHeaderSize ≤ b.handle.payload.length) && decide (cmdCode b.plain b.wireOffset = CMD_HOST_REBOOT))

def TxHandle.frame (c : Config) : Bytes :=
  if b.summed c then setChecksum b.plain (c.cksum b.plain) else b.plain

def TxHandle.prio : Prio :=
  if hdrIfType b.plain = ESP_INTERNAL_IF then .high
  else if hdrIfType b.plain = ESP_RCP_IF ∨ hdrIfType b.plain = ESP_HCI_IF then .mid
  else .low

end

/-- The result of `esp_spi_write` and what it has put into a queue. -/
def espSpiWrite (c : Config) (io : WriteIo) (b : TxHandle) : Int × Option (Prio × Bytes) :=
  if b.handle.payload = [] then (EspErr.fail.code,none)
  else if RX_BUF_SIZE < alignUp SPI_DMA_ALIGNMENT_BYTES (b.handle.payload.length+headerSize) then
    (EspErr.fail.code,none)
  else if b.isRcp ∧ (ESP_HOSTED_RCP_CHUNK_MAX < b.handle.payload.length ∨ ESP_HOSTED_RCP_TX_HEADROOM < headerSize) then
    (EspErr.invalidArg.code,none)
  else if b.isRcp ∧ (b.addr-UInt32.ofNat ESP_HOSTED_RCP_TX_HEADROOM).toNat%SPI_DMA_ALIGNMENT_BYTES ≠ 0 then
    (EspErr.invalidArg.code,none)
  else if b.isRcp = false ∧ b.isWifiData = false ∧ io.alloc = false then (EspErr.noMem.code,none)
  else if io.send = false then
    -- the test is on the handle, the queue was chosen by the header
    ((if b.isRcp then EspErr.timeout.code else EspErr.fail.code),none)
  else (b.handle.payload.length,some (b.prio,b.frame c))

/-- The armed buffer of `queue_next_transaction`; `none` when the copy runs over its end. -/
def armed (payload : Bytes) : Option Bytes :=
  if payload.length ≤ RX_BUF_SIZE then some (payload ++ List.replicate (RX_BUF_SIZE-payload.length) 0) else none

/-! The host. -/

inductive Rx where
  | noData
  | invalid
  /-- `data_path` is closed. -/
  | closed (skb : Bytes)
  | queued (p : Prio) (skb : Bytes)
  deriving DecidableEq, Repr

def Rx.skb : Rx → Option Bytes
  | .noData => none
  | .invalid => none
  | .closed skb => some skb
  | .queued _ skb => some skb

def spiIsDummyRx (b : Bytes) : Bool := b.take headerSize == [0xff,0,0,0,0,0,0,0,0,0,0,0]

def spiIsUnadvertisedIdleRx (b : Bytes) (rxPending : Bool) : Bool :=
  !rxPending && decide (b.length = SPI_BUF_SIZE) && b.all (· == 0)

def processRxBuf (dataPath rxPending : Bool) (b : Bytes) : Rx :=
  if spiIsDummyRx b ∨ spiIsUnadvertisedIdleRx b rxPending then .noData
  else if ESP_MAX_IF ≤ hdrIfType b then .invalid
  else if hdrLen b = 0 then .invalid
  else if SPI_BUF_SIZE < hdrLen b ∨ (espHostWireSpanValid (hdrLen b) (hdrOffset b) b.length).isNone then .invalid
  else
    let skb := b.take (hdrLen b+hdrOffset b)
    if dataPath = false then .closed skb
    else if hdrIfType b = ESP_INTERNAL_IF then .queued .high skb
    else if hdrIfType b = ESP_HCI_IF ∨ hdrIfType b = ESP_RCP_IF then .queued .mid skb
    else .queued .low skb

/-! The frame. -/

section
variable (b : TxHandle) (c : Config)

theorem TxHandle.alignPadding_lt : b.alignPadding < 4 := Nat.mod_lt _ (by decide)

theorem TxHandle.wireOffset_bounds : headerSize ≤ b.wireOffset ∧ b.wireOffset ≤ ESP_MAX_OFFSET_SIZE := by
  have hp := b.alignPadding_lt
  simp only [wireOffset,ESP_HOSTED_RCP_TX_HEADROOM,ESP_MAX_OFFSET_SIZE,ESP_MAX_ALIGN_PADDING]
  split
  · omega
  · split <;> omega

theorem TxHandle.header_fields : b.header.ifType.val = b.handle.ifType.toNat%16 ∧
    b.header.len.toNat = b.handle.payload.length ∧ b.header.offset.toNat = b.wireOffset := by
  have hf := b.handle.fits
  obtain ⟨-,ho⟩ := b.wireOffset_bounds
  simp only [ESP_MAX_OFFSET_SIZE,headerSize,ESP_MAX_ALIGN_PADDING] at ho
  simp only [header]
  split <;> simp [debugRawTpSetSeq] <;> omega

theorem TxHandle.sameHeader : SameHeader (b.frame c) b.plain := by
  unfold frame
  split
  · exact sameHeader_setChecksum _ _
  · exact ⟨rfl,rfl,rfl,⟨rfl,rfl⟩,⟨rfl,rfl⟩,rfl⟩

theorem TxHandle.framed (hp : b.handle.payload ≠ []) : Framed (b.frame c) b.header b.handle.payload := by
  obtain ⟨-,h2,h3⟩ := b.header_fields
  obtain ⟨ho,hm⟩ := b.wireOffset_bounds
  refine framed_of_sameHeader ?_ (by omega) (by omega) h2 hp
  rw [h3]
  exact b.sameHeader c

end

theorem espSpiWrite_sent {c : Config} {io : WriteIo} {b : TxHandle} {n : Int} {p : Prio} {f : Bytes}
    (h : espSpiWrite c io b = (n,some (p,f))) :
    f = b.frame c ∧ b.handle.payload ≠ [] ∧
    alignUp SPI_DMA_ALIGNMENT_BYTES (b.handle.payload.length+headerSize) ≤ RX_BUF_SIZE ∧
    (b.isRcp = true → b.handle.payload.length ≤ ESP_HOSTED_RCP_CHUNK_MAX) := by
  unfold espSpiWrite at h
  split at h
  · cases h
  · rename_i hp
    split at h
    · cases h
    · rename_i hl
      split at h
      · cases h
      · rename_i hr
        repeat (split at h; · cases h)
        cases h
        refine ⟨rfl,hp,Nat.le_of_not_lt hl,?_⟩
        intro hrcp
        by_contra hc
        exact hr ⟨hrcp,.inl (by omega)⟩

/-! The transfer. -/

theorem hdr_armed {f : Bytes} (k : Nat) (h : headerSize ≤ f.length) :
    hdrIfType (f ++ List.replicate k 0) = hdrIfType f ∧ hdrLen (f ++ List.replicate k 0) = hdrLen f ∧
    hdrOffset (f ++ List.replicate k 0) = hdrOffset f :=
  ⟨hdrIfType_append _ h,hdrLen_append _ h,hdrOffset_append _ h⟩

theorem not_noData {b : Bytes} {rxPending : Bool} (h : hdrLen b ≠ 0) :
    ¬(spiIsDummyRx b = true ∨ spiIsUnadvertisedIdleRx b rxPending = true) := by
  rintro (hd | hi)
  · have ht : b.take headerSize = [0xff,0,0,0,0,0,0,0,0,0,0,0] := by simpa [spiIsDummyRx] using hd
    have hb := hdrLen_append (b.drop headerSize) (by rw [ht]; decide : headerSize ≤ (b.take headerSize).length)
    rw [List.take_append_drop,ht] at hb
    exact h hb
  · have hz : b.all (· == 0) = true := by
      simp only [spiIsUnadvertisedIdleRx,Bool.and_eq_true] at hi
      exact hi.2
    refine h (hdrLen_of_all_zero ?_)
    rw [List.all_eq_true] at hz ⊢
    exact fun x hx => hz x (List.mem_of_mem_take hx)

theorem processRxBuf_armed (dataPath rxPending : Bool) {f : Bytes} {k : Nat} (hf : WireFrame f)
    (hl : hdrLen f ≤ SPI_BUF_SIZE) :
    (processRxBuf dataPath rxPending (f ++ List.replicate k 0)).skb =
      if hdrIfType f < ESP_MAX_IF then some f else none := by
  obtain ⟨hlen,-,hsum,hhdr⟩ := hf.spec
  obtain ⟨h1,h2,h3⟩ := hdr_armed k (Nat.le_of_lt hhdr)
  have hno : ¬(spiIsDummyRx (f ++ List.replicate k 0) = true ∨
      spiIsUnadvertisedIdleRx (f ++ List.replicate k 0) rxPending = true) := not_noData (by rw [h2]; omega)
  have hspan : espHostWireSpanValid (hdrLen f) (hdrOffset f) (f ++ List.replicate k 0).length = some f.length := by
    obtain ⟨hp,ho,hm,he,-⟩ := espHostWireSpanValid_eq_some.mp hf
    refine espHostWireSpanValid_eq_some.mpr ⟨hp,ho,hm,he,?_⟩
    rw [List.length_append]
    omega
  simp only [processRxBuf,h1,h2,h3,hspan,hsum,List.take_left]
  rw [if_neg hno]
  by_cases ht : ESP_MAX_IF ≤ hdrIfType f
  · rw [if_pos ht,if_neg (by omega)]
    rfl
  · have h0 : ¬hdrLen f = 0 := by omega
    have hok : ¬(SPI_BUF_SIZE < hdrLen f ∨ (some f.length).isNone = true) := by
      rintro (hgt | hnone)
      · omega
      · cases hnone
    rw [if_neg ht,if_neg h0,if_neg hok,if_pos (show hdrIfType f < ESP_MAX_IF by omega)]
    split
    · rfl
    · split
      · rfl
      · split <;> rfl

/-- The check admits a frame that does not fit only as Wi-Fi data, where padding is added behind it. -/
theorem TxHandle.frame_fits_iff (b : TxHandle) (c : Config) (hp : b.handle.payload ≠ [])
    (hl : alignUp SPI_DMA_ALIGNMENT_BYTES (b.handle.payload.length+headerSize) ≤ RX_BUF_SIZE)
    (hr : b.isRcp = true → b.handle.payload.length ≤ ESP_HOSTED_RCP_CHUNK_MAX) :
    (b.frame c).length ≤ RX_BUF_SIZE ↔
      b.isWifiData = false ∨ b.handle.payload.length+headerSize+b.alignPadding ≤ RX_BUF_SIZE := by
  have hle := le_alignUp (show 0 < SPI_DMA_ALIGNMENT_BYTES by decide) (b.handle.payload.length+headerSize)
  rw [(b.framed c hp).length,b.header_fields.2.2,wireOffset]
  cases hrcp : b.isRcp with
  | true =>
    have hmax := hr hrcp
    have hw : b.isWifiData = false := by
      simp only [isRcp,decide_eq_true_eq] at hrcp
      simp [isWifiData,hrcp,ESP_RCP_IF,ESP_STA_IF,ESP_AP_IF]
    simp only [if_true,hw,true_or,iff_true]
    simp only [ESP_HOSTED_RCP_CHUNK_MAX,ESP_HOSTED_RCP_TX_HEADROOM,ESP_MAX_OFFSET_SIZE,ESP_MAX_ALIGN_PADDING,
      headerSize,RX_BUF_SIZE] at *
    omega
  | false =>
    cases hw : b.isWifiData with
    | true =>
      simp only [Bool.false_eq_true,if_false,if_true,Bool.true_eq_false,false_or]
      omega
    | false =>
      simp only [Bool.false_eq_true,if_false,true_or,iff_true]
      omega

/-- A queued frame fits the armed buffer and the host finds the payload in it exactly when the interface is one
that both sides know and the padding of Wi-Fi data leaves the frame within the buffer. -/
theorem espSpiWrite_fits_iff (c : Config) (io : WriteIo) (b : TxHandle) (n : Int) (p : Prio) (f : Bytes)
    (h : espSpiWrite c io b = (n,some (p,f))) (dataPath rxPending : Bool) :
    (alignUp SPI_DMA_ALIGNMENT_BYTES f.length ≤ RX_BUF_SIZE ∧ ∃ buf, armed f = some buf ∧
      ∃ skb, (processRxBuf dataPath rxPending buf).skb = some skb ∧ skb.drop (hdrOffset skb) = b.handle.payload) ↔
    b.handle.ifType.toNat%16 < ESP_MAX_IF ∧
      (b.isWifiData = false ∨ b.handle.payload.length+headerSize+b.alignPadding ≤ RX_BUF_SIZE) := by
  obtain ⟨rfl,hp,hl,hr⟩ := espSpiWrite_sent h
  have hle := le_alignUp (show 0 < SPI_DMA_ALIGNMENT_BYTES by decide) (b.handle.payload.length+headerSize)
  have hf := b.framed c hp
  have hlen : hdrLen (b.frame c) ≤ SPI_BUF_SIZE := by
    rw [hf.len]
    simp only [RX_BUF_SIZE,SPI_BUF_SIZE] at *
    omega
  rw [← b.frame_fits_iff c hp hl hr,← b.header_fields.1,← hf.ifType]
  constructor
  · rintro ⟨hfit,buf,ha,skb,hskb,-⟩
    have hfits : (b.frame c).length ≤ RX_BUF_SIZE :=
      Nat.le_trans (le_alignUp (show 0 < SPI_DMA_ALIGNMENT_BYTES by decide) _) hfit
    rw [armed,if_pos hfits] at ha
    cases ha
    rw [processRxBuf_armed dataPath rxPending hf.wire hlen] at hskb
    split at hskb
    · rename_i ht
      exact ⟨ht,hfits⟩
    · cases hskb
  · rintro ⟨ht,hfits⟩
    refine ⟨alignUp_le (by decide) hfits (by decide),_,if_pos hfits,b.frame c,?_,?_⟩
    · rw [processRxBuf_armed dataPath rxPending hf.wire hlen,if_pos ht]
    · rw [hf.offset,hf.payload]

def plainConfig : Config := {checksum := false, cksum := fun _ => 0}

def wifiData (n : Nat) (addr : UInt32) (hn : n < 65536) : TxHandle :=
  {handle := {ifType := 0, ifNum := 0, payload := List.replicate n 7, fits := by simpa using hn}, addr := addr}

theorem espSpiWrite_wifiData (c : Config) {n : Nat} (addr : UInt32) (h0 : n ≠ 0) (hn : n < 65536)
    (hl : alignUp SPI_DMA_ALIGNMENT_BYTES (n+headerSize) ≤ RX_BUF_SIZE) :
    espSpiWrite c {} (wifiData n addr hn) =
      ((n : Int),some ((wifiData n addr hn).prio,(wifiData n addr hn).frame c)) := by
  have hlen : (wifiData n addr hn).handle.payload.length = n := List.length_replicate
  have hne : (wifiData n addr hn).handle.payload ≠ [] := by
    intro he
    rw [he] at hlen
    exact h0 hlen.symm
  have hw : (wifiData n addr hn).isWifiData = true := rfl
  have hr : (wifiData n addr hn).isRcp = false := rfl
  simp only [espSpiWrite,if_neg hne,hlen,if_neg (Nat.not_lt.mpr hl),hw,hr,Bool.false_eq_true,Bool.true_eq_false,
    false_and,and_false,if_false]

theorem espSpiWrite_fits_iff_aligned :
    ∃ f, espSpiWrite plainConfig {} (wifiData 1588 0 (by decide)) =
        (1588,some ((wifiData 1588 0 (by decide)).prio,f)) ∧
      ∃ buf, armed f = some buf ∧ ∃ skb, (processRxBuf true true buf).skb = some skb ∧
        skb.drop (hdrOffset skb) = (wifiData 1588 0 (by decide)).handle.payload := by
  have hw := espSpiWrite_wifiData plainConfig 0 (by decide) (show 1588 < 65536 by decide) (by decide)
  refine ⟨_,hw,?_⟩
  refine ((espSpiWrite_fits_iff plainConfig {} _ _ _ _ hw true true).mpr ⟨by decide,.inr ?_⟩).2
  decide +kernel

/-- At an odd address three bytes of padding put the frame three bytes over the end of the buffer. -/
theorem espSpiWrite_overruns :
    ∃ f, espSpiWrite plainConfig {} (wifiData 1588 1 (by decide)) =
        (1588,some ((wifiData 1588 1 (by decide)).prio,f)) ∧ RX_BUF_SIZE < f.length ∧ armed f = none := by
  have hw := espSpiWrite_wifiData plainConfig 1 (by decide) (show 1588 < 65536 by decide) (by decide)
  have hlen : ((wifiData 1588 1 (by decide)).frame plainConfig).length = 1603 := by
    rw [(TxHandle.framed _ _ (by decide)).length]
    decide +kernel
  have hover : RX_BUF_SIZE < ((wifiData 1588 1 (by decide)).frame plainConfig).length := by
    rw [hlen]
    decide
  exact ⟨_,hw,hover,if_neg (Nat.not_le.mpr hover)⟩

end EspHosted.SpiWrite
