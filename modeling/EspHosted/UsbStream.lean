import EspHosted.UsbDevice
import EspHosted.UsbHost

set_option autoImplicit false

namespace EspHosted.Usb
open EspHosted Framing

theorem streamNext_frame (mps : Nat) (h : BufHandle) (rest : Bytes)
    (ht : h.ifType.toNat < ESP_MAX_IF) (hp : h.payload ≠ [])
    (hl : h.frame.length ≤ ESP_USB_MAX_XFER) :
    streamNext mps false (h.frame ++ rest) =
      some (padExpected mps h.frame.length,rest,[.frame h.frame]) := by
  have hlen := h.frame_length
  have hv : espUsbValidHeader (h.frame ++ rest) = some h.frame.length := by
    have hpos := List.length_pos_iff.mpr hp
    simp only [ESP_MAX_IF] at ht
    rw [BufHandle.frame,List.append_assoc,espUsbValidHeader,hdrIfType_encode,hdrLen_encode,
      hdrOffset_encode,h.header_ifType,h.header_len,h.header_offset,if_neg (by simp only [ESP_MAX_IF]; omega)]
    refine espHostWireSpanValid_eq_some.mpr ⟨hpos,Nat.le_refl _,by decide,?_,hl⟩
    simp
  simp only [streamNext,hv]
  rw [if_neg (by simp only [List.length_append]; omega),
    if_neg (by simp only [List.length_append]; omega)]
  simp

theorem run_frame_pad (fm mps : Nat) (h : BufHandle) (rest : Bytes)
    (ht : h.ifType.toNat < ESP_MAX_IF) (hp : h.payload ≠ [])
    (hl : h.frame.length ≤ ESP_USB_MAX_XFER)
    (hpad : padsAfter fm h.frame.length = padExpected mps h.frame.length) :
    (streamDecoder mps).run false (h.frame ++ padBytes fm h.frame.length ++ rest) =
      (((streamDecoder mps).run false rest).1,((streamDecoder mps).run false rest).2.1,
        .frame h.frame :: ((streamDecoder mps).run false rest).2.2) := by
  rw [List.append_assoc,run_of_some (streamNext_frame mps h _ ht hp hl)]
  simp only [padBytes,hpad]
  by_cases hx : padExpected mps h.frame.length = true
  · have hn : streamNext mps true ([0] ++ rest) = some (false,rest,[]) := by
      simp [streamNext]
    rw [hx,if_pos rfl,run_of_some hn]
    rfl
  · simp only [Bool.not_eq_true] at hx
    simp [hx]

theorem run_wireOf (u : UsbDev) (mps : Nat) (ws : List UsbWrite)
    (hok : ∀ w ∈ ws, w.succeeds u = true) (hif : ∀ w ∈ ws, w.handle.ifType.toNat < ESP_MAX_IF)
    (hpad : ∀ w ∈ ws, padsAfter u.epMps w.handle.frame.length =
      padExpected mps w.handle.frame.length) :
    (streamDecoder mps).run false (wireOf u ws) =
      (false,[],ws.map (fun w => .frame w.handle.frame)) := by
  induction ws with
  | nil => exact run_of_none rfl
  | cons w ws ih =>
    obtain ⟨hp,hl,hs⟩ := UsbWrite.sent_of_succeeds (hok w List.mem_cons_self)
    have hw : wireOf u (w :: ws) =
        w.handle.frame ++ padBytes u.epMps w.handle.frame.length ++ wireOf u ws := by
      simp [wireOf,hs]
    rw [hw,run_frame_pad _ _ _ _ (hif w List.mem_cons_self) hp hl (hpad w List.mem_cons_self),
      ih (fun v hv => hok v (List.mem_cons_of_mem _ hv))
        (fun v hv => hif v (List.mem_cons_of_mem _ hv))
        (fun v hv => hpad v (List.mem_cons_of_mem _ hv))]
    rfl

theorem foldl_record_frames (alloc : Nat → Bool) (ha : ∀ n, alloc n = true) (ws : List UsbWrite)
    (c : UsbRx) :
    ((ws.map (fun w => RxEvent.frame w.handle.frame)).foldl (UsbRx.record alloc) c).rxQueue =
        c.rxQueue ++ ws.map (·.handle.frame) ∧
      ((ws.map (fun w => RxEvent.frame w.handle.frame)).foldl (UsbRx.record alloc) c).streamLoss =
        c.streamLoss := by
  induction ws generalizing c with
  | nil => simp
  | cons w ws ih =>
    obtain ⟨hq,hl⟩ := ih (UsbRx.record alloc c (.frame w.handle.frame))
    simp only [List.map_cons,List.foldl_cons,hq,hl]
    simp [UsbRx.record,espUsbQueueFrameLocked,ha]

/-- The receiver has exactly the frames of `ws`, lost nothing and is between frames. -/
def Recovered (c : UsbRx) (ws : List UsbWrite) : Prop :=
  c.rxQueue = ws.map (·.handle.frame) ∧ c.streamLoss = false ∧ c.rxStream = [] ∧
    c.rxPadExpected = false

theorem recovered_of_agreement (u : UsbDev) (mps : Nat) (alloc : Nat → Bool) (ws : List UsbWrite)
    (chunks : List Bytes) (ha : ∀ n, alloc n = true)
    (hok : ∀ w ∈ ws, w.succeeds u = true) (hif : ∀ w ∈ ws, w.handle.ifType.toNat < ESP_MAX_IF)
    (hpad : ∀ w ∈ ws, padsAfter u.epMps w.handle.frame.length =
      padExpected mps w.handle.frame.length)
    (hc : chunks.flatten = wireOf u ws) :
    Recovered (chunks.foldl (espUsbIngestStream alloc) {bulkInMps := mps}) ws := by
  have hidle : UsbRx.Idle {bulkInMps := mps} := rfl
  rw [foldl_espUsbIngestStream alloc chunks _ hidle,hc,List.nil_append,
    run_wireOf u mps ws hok hif hpad]
  obtain ⟨hq,hl⟩ := foldl_record_frames alloc ha ws {bulkInMps := mps}
  exact ⟨hq,hl,rfl,rfl⟩

theorem padsAfter_iff (mps len : Nat) :
    padsAfter mps len = true ↔ len%mps = 0 ∧ len < ESP_USB_MAX_XFER := by
  simp only [padsAfter,Bool.and_eq_true,decide_eq_true_eq]

theorem padExpected_iff (mps len : Nat) :
    padExpected mps len = true ↔ (mps ≠ 0 ∧ len < rxMaxXfer) ∧ len%mps = 0 := by
  simp only [padExpected,Bool.and_eq_true,decide_eq_true_eq]

theorem padsAfter_eq_padExpected (mps len : Nat) (h : mps ≠ 0) :
    padsAfter mps len = padExpected mps len := by
  rw [Bool.eq_iff_iff,padsAfter_iff,padExpected_iff]
  simp only [ESP_USB_MAX_XFER,rxMaxXfer]
  omega

@[simp] theorem espUsbInit_epMps (txBuffered : Bool) (ticks : UInt32) :
    (espUsbInit txBuffered ticks).epMps = ESP_USB_HS_MPS := rfl

/-- E2H round trip with the high-speed packet size on both ends. -/
theorem usb_round_trip (txBuffered : Bool) (ticks : UInt32) (alloc : Nat → Bool)
    (ws : List UsbWrite) (chunks : List Bytes) (ha : ∀ n, alloc n = true)
    (hok : ∀ w ∈ ws, w.succeeds (espUsbInit txBuffered ticks) = true)
    (hif : ∀ w ∈ ws, w.handle.ifType.toNat < ESP_MAX_IF)
    (hc : chunks.flatten = wireOf (espUsbInit txBuffered ticks) ws) :
    Recovered (chunks.foldl (espUsbIngestStream alloc) {bulkInMps := ESP_USB_HS_MPS}) ws :=
  recovered_of_agreement _ _ alloc ws chunks ha hok hif
    (fun _ _ => padsAfter_eq_padExpected _ _ (by simp [ESP_USB_HS_MPS])) hc

/-- A station frame of 512 bytes, so padded, and an RCP frame behind it. -/
def padThenRcp : List UsbWrite :=
  [{handle := ⟨0,0,0,0,List.replicate 500 7,0,by rw [List.length_replicate]; omega⟩
    replies := [{available := 300, written := 300},{available := 0, written := 0},
      {available := 300, written := 300},{available := 1, written := 1}]},
   {handle := ⟨5,0,0,0,[1,2],0,by decide⟩, replies := [{available := 64, written := 64}]}]

/-- Transfers that end inside the header and between the frame and its pad. -/
def splitAtPad (wire : Bytes) : List Bytes :=
  [wire.take 5,(wire.drop 5).take 507,wire.drop 512]

theorem usb_round_trip_pad :
    Recovered ((splitAtPad (wireOf (espUsbInit true 1000) padThenRcp)).foldl
      (espUsbIngestStream (fun _ => true)) {bulkInMps := ESP_USB_HS_MPS}) padThenRcp :=
  usb_round_trip true 1000 (fun _ => true) padThenRcp _ (fun _ => rfl) (by decide +kernel)
    (by decide +kernel) (by decide +kernel)

inductive UsbSpeed where
  | full
  | high
  deriving DecidableEq, Repr

structure EndpointDesc where
  bEndpointAddress : Nat
  bmAttributes : Nat
  wMaxPacketSize : Nat
  deriving DecidableEq, Repr

/-- Endpoints of `TUD_VENDOR_DESCRIPTOR`: bulk OUT, then bulk IN, one packet size. -/
def tudVendorDescriptor (epOut epIn epSize : Nat) : List EndpointDesc :=
  [⟨epOut,2,epSize⟩,⟨epIn,2,epSize⟩]

def configDesc : UsbSpeed → List EndpointDesc
  | .full => tudVendorDescriptor 0x02 0x82 ESP_USB_FS_MPS
  | .high => tudVendorDescriptor 0x02 0x82 ESP_USB_HS_MPS

structure Endpoints where
  bulkInAddr : Nat := 0
  bulkInMps : Nat := 0
  bulkOutAddr : Nat := 0
  bulkOutMps : Nat := 0
  deriving DecidableEq, Repr

def usbEndpointMaxp (ep : EndpointDesc) : Nat := ep.wMaxPacketSize%2048
def usbEndpointIsBulkIn (ep : EndpointDesc) : Bool :=
  ep.bmAttributes%4 = 2 && ep.bEndpointAddress/128%2 = 1
def usbEndpointIsBulkOut (ep : EndpointDesc) : Bool :=
  ep.bmAttributes%4 = 2 && ep.bEndpointAddress/128%2 = 0

def takeEndpoint (c : Endpoints) (ep : EndpointDesc) : Endpoints :=
  if usbEndpointIsBulkIn ep && c.bulkInAddr = 0 then
    {c with bulkInAddr := ep.bEndpointAddress, bulkInMps := usbEndpointMaxp ep}
  else if usbEndpointIsBulkOut ep && c.bulkOutAddr = 0 then
    {c with bulkOutAddr := ep.bEndpointAddress, bulkOutMps := usbEndpointMaxp ep}
  else c

/-- `none` is `-ENODEV`. -/
def espUsbFindEndpoints (alt : List EndpointDesc) : Option Endpoints :=
  let c := alt.foldl takeEndpoint {}
  if c.bulkInAddr ≠ 0 ∧ c.bulkOutAddr ≠ 0 then some c else none

def hostMps (speed : UsbSpeed) : Nat :=
  match espUsbFindEndpoints (configDesc speed) with
  | some c => c.bulkInMps
  | none => 0

theorem hostMps_full : hostMps .full = ESP_USB_FS_MPS := by decide
theorem hostMps_high : hostMps .high = ESP_USB_HS_MPS := by decide

/-- Lengths on which the constant of `esp_usb_init` and the packet size the
device enumerates with lead to the same pad. -/
def PadSafe (speed : UsbSpeed) (len : Nat) : Prop :=
  speed = .high ∨ len%ESP_USB_FS_MPS ≠ 0 ∨ len%ESP_USB_HS_MPS = 0

theorem pad_decisions_agree_iff (speed : UsbSpeed) (len : Nat) (hl : len ≤ ESP_USB_MAX_XFER) :
    padsAfter ESP_USB_HS_MPS len = padExpected (hostMps speed) len ↔ PadSafe speed len := by
  cases speed with
  | high =>
    rw [hostMps_high,padsAfter_eq_padExpected _ _ (by decide)]
    simp [PadSafe]
  | full =>
    rw [hostMps_full,Bool.eq_iff_iff,padsAfter_iff,padExpected_iff]
    simp only [PadSafe,ESP_USB_FS_MPS,ESP_USB_HS_MPS,ESP_USB_MAX_XFER,rxMaxXfer,reduceCtorEq,
      false_or] at *
    omega

/-- Both ends decide alike on every frame of the list and the host gets the list
back under every chunking. -/
def PadAgreement (speed : UsbSpeed) (u : UsbDev) (alloc : Nat → Bool) (ws : List UsbWrite) : Prop :=
  (∀ w ∈ ws, padsAfter u.epMps w.handle.frame.length =
    padExpected (hostMps speed) w.handle.frame.length) ∧
  ∀ chunks : List Bytes, chunks.flatten = wireOf u ws →
    Recovered (chunks.foldl (espUsbIngestStream alloc) {bulkInMps := hostMps speed}) ws

theorem padAgreement_iff_of_sent (speed : UsbSpeed) (txBuffered : Bool) (ticks : UInt32)
    (alloc : Nat → Bool) (ws : List UsbWrite) (ha : ∀ n, alloc n = true)
    (hok : ∀ w ∈ ws, w.succeeds (espUsbInit txBuffered ticks) = true)
    (hif : ∀ w ∈ ws, w.handle.ifType.toNat < ESP_MAX_IF) :
    PadAgreement speed (espUsbInit txBuffered ticks) alloc ws ↔
      ∀ w ∈ ws, PadSafe speed w.handle.frame.length := by
  have hdec : ∀ w ∈ ws, padsAfter (espUsbInit txBuffered ticks).epMps w.handle.frame.length =
      padExpected (hostMps speed) w.handle.frame.length ↔ PadSafe speed w.handle.frame.length :=
    fun w hw => pad_decisions_agree_iff speed _ (UsbWrite.sent_of_succeeds (hok w hw)).2.1
  constructor
  · intro h w hw
    exact (hdec w hw).mp (h.1 w hw)
  · intro h
    have hpad := fun w hw => (hdec w hw).mpr (h w hw)
    exact ⟨hpad,fun chunks hc => recovered_of_agreement _ _ alloc ws chunks ha hok hif hpad hc⟩

/-- The device pads by the high-speed packet size at either speed. -/
theorem usb_pad_agreement_iff (speed : UsbSpeed) (txBuffered : Bool) (ticks : UInt32) :
    (∀ len, headerSize < len → len ≤ ESP_USB_MAX_XFER →
      (padsAfter (espUsbInit txBuffered ticks).epMps len = padExpected (hostMps speed) len ↔
        PadSafe speed len)) ∧
    ∀ (alloc : Nat → Bool) (ws : List UsbWrite), (∀ n, alloc n = true) →
      (∀ w ∈ ws, w.succeeds (espUsbInit txBuffered ticks) = true) →
      (∀ w ∈ ws, w.handle.ifType.toNat < ESP_MAX_IF) →
      (PadAgreement speed (espUsbInit txBuffered ticks) alloc ws ↔
        ∀ w ∈ ws, PadSafe speed w.handle.frame.length) := by
  refine ⟨?_,?_⟩
  · intro len _ hl
    exact pad_decisions_agree_iff speed len hl
  · intro alloc ws ha hok hif
    exact padAgreement_iff_of_sent speed txBuffered ticks alloc ws ha hok hif

def staPair : List UsbWrite :=
  [{handle := ⟨0,0,0,0,List.replicate 52 7,0,by decide⟩
    replies := [{available := 64, written := 64}]},
   {handle := ⟨0,0,0,0,List.replicate 20 9,0,by decide⟩
    replies := [{available := 64, written := 64}]}]

theorem usb_pad_agreement_high :
    PadAgreement .high (espUsbInit true 1000) (fun _ => true) staPair ∧
      ¬PadAgreement .full (espUsbInit true 1000) (fun _ => true) staPair := by
  have hok : ∀ w ∈ staPair, w.succeeds (espUsbInit true 1000) = true := by decide +kernel
  have hif : ∀ w ∈ staPair, w.handle.ifType.toNat < ESP_MAX_IF := by decide
  have hlen : ∃ w ∈ staPair, w.handle.frame.length = 64 := ⟨_,List.mem_cons_self,by decide⟩
  refine ⟨((usb_pad_agreement_iff .high true 1000).2 _ staPair (fun _ => rfl) hok hif).mpr
    (fun _ _ => .inl rfl),?_⟩
  intro h
  obtain ⟨w,hw,hl⟩ := hlen
  have hs := ((usb_pad_agreement_iff .full true 1000).2 _ staPair (fun _ => rfl) hok hif).mp h w hw
  rw [hl] at hs
  simp [PadSafe,ESP_USB_FS_MPS,ESP_USB_HS_MPS] at hs

/-- At full speed the host takes the first byte of the second header for a pad. -/
theorem full_speed_swallows_header :
    (∀ w ∈ staPair, w.succeeds (espUsbInit true 1000) = true) ∧
    padsAfter (espUsbInit true 1000).epMps 64 ≠ padExpected (hostMps .full) 64 ∧
    let c := espUsbIngestStream (fun _ => true) {bulkInMps := hostMps .full}
      (wireOf (espUsbInit true 1000) staPair)
    c.rxQueue ≠ staPair.map (·.handle.frame) ∧ c.streamLoss = true := by
  decide +kernel

end EspHosted.Usb
