import EspHosted.Wire

/-!
USB transmit path of the firmware, `main/usb/esp_usb_device.c`. TinyUSB is not
part of the repository: what it answers on each pass of a write loop is input.
-/

set_option autoImplicit false

namespace EspHosted.Usb
open EspHosted

def ESP_USB_FS_MPS : Nat := 64
def ESP_USB_HS_MPS : Nat := 512
def ESP_USB_MAX_XFER : Nat := 16384

inductive EspErr where
  | ok
  | fail
  | noMem
  | invalidArg
  | invalidState
  | timeout
  deriving DecidableEq, Repr

/-- `esp_err_t` values as `esp_usb_write` hands them to its caller. -/
def EspErr.code : EspErr → Int
  | .ok => 0
  | .fail => -1
  | .noMem => 0x101
  | .invalidArg => 0x102
  | .invalidState => 0x103
  | .timeout => 0x107

/-- Answers to one pass: `tud_vendor_n_mounted`, `tud_vendor_n_write_available`,
`tud_vendor_n_write` and `xTaskGetTickCount`. -/
structure TudReply where
  mounted : Bool := true
  available : Nat
  written : Nat
  tick : UInt32 := 0
  deriving DecidableEq, Repr

structure UsbDev where
  epMps : Nat
  /-- `CFG_TUD_VENDOR_TX_BUFSIZE > 0` -/
  txBuffered : Bool
  /-- `pdMS_TO_TICKS(ESP_USB_TX_TIMEOUT_MS)` -/
  timeoutTicks : UInt32
  deriving DecidableEq, Repr

def espUsbInit (txBuffered : Bool) (timeoutTicks : UInt32) : UsbDev :=
  {epMps := ESP_USB_HS_MPS, txBuffered := txBuffered, timeoutTicks := timeoutTicks}

/-- Status, bytes accepted by the endpoint, replies not used. `none` when the
replies run out before the call returns. -/
abbrev WriteResult := Option (EspErr × Bytes × List TudReply)

def writeAvailable (u : UsbDev) (r : TudReply) (left : Nat) : Nat :=
  if u.txBuffered then r.available else left

/-- The `while (sent < len)` loop; the list is `data + sent`. -/
def usbWriteLoop (u : UsbDev) (deadline : UInt32) : List TudReply → Bytes → WriteResult
  | replies, [] => some (.ok,[],replies)
  | [], _ :: _ => none
  | r :: replies, b :: data =>
    let left := b :: data
    if r.mounted = false then some (.invalidState,[],replies)
    else
      let available := writeAvailable u r left.length
      if available = 0 then
        if deadline ≤ r.tick then some (.timeout,[],replies)
        else usbWriteLoop u deadline replies left
      else
        -- `tud_vendor_n_write` takes at most the chunk it is offered
        let written := min r.written (min left.length available)
        if written = 0 then
          if deadline ≤ r.tick then some (.timeout,[],replies)
          else usbWriteLoop u deadline replies left
        else
          match usbWriteLoop u deadline replies (left.drop written) with
          | none => none
          | some (e,sent,rest) => some (e,left.take written ++ sent,rest)

def usbWritePad (u : UsbDev) (deadline : UInt32) : List TudReply → WriteResult
  | [] => none
  | r :: replies =>
    if u.txBuffered && r.available = 0 then
      if deadline ≤ r.tick then some (.timeout,[],replies)
      else usbWritePad u deadline replies
    else if r.written = 0 then some (.fail,[],replies)
    else some (.ok,[0],replies)

def padsAfter (mps len : Nat) : Bool := len%mps = 0 && len < ESP_USB_MAX_XFER

def usbWriteAll (u : UsbDev) (start : UInt32) (data : Bytes) (replies : List TudReply) :
    WriteResult :=
  if data = [] then some (.invalidArg,[],replies)
  else
    let deadline := start+u.timeoutTicks
    match usbWriteLoop u deadline replies data with
    | none => none
    | some (.ok,sent,rest) =>
      if padsAfter u.epMps data.length then
        match usbWritePad u deadline rest with
        | none => none
        | some (e,pad,rest) => some (e,sent ++ pad,rest)
      else some (.ok,sent,rest)
    | some (e,sent,rest) => some (e,sent,rest)

/-- `interface_buffer_handle_t`. `payload_len` is a `uint16_t`; a null payload
is the empty one, which is refused the same way. -/
structure BufHandle where
  ifType : UInt8
  ifNum : UInt8
  flag : UInt8 := 0
  pktType : UInt8 := 0
  payload : Bytes
  rawTpSeq : UInt32 := 0
  fits : payload.length < 65536

def debugRawTpSetSeq (h : PayloadHeader) (seq : UInt32) : PayloadHeader :=
  {h with
    flags := UInt8.ofNat (seq.toNat%256)
    reserved1 := UInt8.ofNat (seq.toNat/256%256)
    reserved2 := UInt8.ofNat (seq.toNat/65536%256)
    reserved3 := UInt8.ofNat (seq.toNat/16777216%256)}

def BufHandle.header (h : BufHandle) : PayloadHeader :=
  let hdr : PayloadHeader :=
    {ifType := Fin.ofNat 16 h.ifType.toNat
     ifNum := Fin.ofNat 16 h.ifNum.toNat
     flags := h.flag
     packetType := h.pktType
     len := UInt16.ofNat h.payload.length
     offset := UInt16.ofNat headerSize}
  if hdr.ifType.val = ESP_TEST_IF then debugRawTpSetSeq hdr h.rawTpSeq else hdr

/-- A value stored in a four-bit field. -/
def nibble (n : Nat) : Fin 16 := Fin.ofNat 16 n

@[simp]
theorem nibble_val (n : Nat) : (nibble n).val = n%16 := rfl

def BufHandle.frame (h : BufHandle) : Bytes := h.header.encode ++ h.payload

/-- Return value, bytes on the wire and unused replies of one `esp_usb_write`;
`alloc` is the outcome of `heap_caps_aligned_alloc`. -/
def espUsbWrite (u : UsbDev) (alloc : Bool) (start : UInt32) (h : BufHandle)
    (replies : List TudReply) : Option (Int × Bytes × List TudReply) :=
  if h.payload = [] then some (EspErr.fail.code,[],replies)
  else if ESP_USB_MAX_XFER < headerSize+h.payload.length then some (EspErr.fail.code,[],replies)
  else if alloc = false then some (EspErr.noMem.code,[],replies)
  else
    match usbWriteAll u start h.frame replies with
    | none => none
    | some (.ok,sent,rest) => some (h.payload.length,sent,rest)
    | some (_,sent,rest) => some (EspErr.fail.code,sent,rest)

theorem usbWriteLoop_ok {u : UsbDev} {deadline : UInt32} {replies rest : List TudReply}
    {data sent : Bytes} (h : usbWriteLoop u deadline replies data = some (.ok,sent,rest)) :
    sent = data := by
  induction replies generalizing data sent rest with
  | nil =>
    cases data with
    | nil => simp only [usbWriteLoop] at h; cases h; rfl
    | cons b data => simp [usbWriteLoop] at h
  | cons r replies ih =>
    cases data with
    | nil => simp only [usbWriteLoop] at h; cases h; rfl
    | cons b data =>
      simp only [usbWriteLoop] at h
      split at h
      · cases h
      · split at h
        · split at h
          · cases h
          · exact ih h
        · split at h
          · split at h
            · cases h
            · exact ih h
          · split at h
            · cases h
            · rename_i hr
              cases h
              rw [ih hr,List.take_append_drop]

theorem usbWritePad_ok {u : UsbDev} {deadline : UInt32} {replies rest : List TudReply}
    {sent : Bytes} (h : usbWritePad u deadline replies = some (.ok,sent,rest)) : sent = [0] := by
  induction replies with
  | nil => simp [usbWritePad] at h
  | cons r replies ih =>
    simp only [usbWritePad] at h
    split at h
    · split at h
      · cases h
      · exact ih h
    · split at h
      · cases h
      · cases h
        rfl

def padBytes (mps len : Nat) : Bytes := if padsAfter mps len then [0] else []

theorem usbWriteAll_ok {u : UsbDev} {start : UInt32} {replies rest : List TudReply}
    {data sent : Bytes} (h : usbWriteAll u start data replies = some (.ok,sent,rest)) :
    sent = data ++ padBytes u.epMps data.length := by
  simp only [usbWriteAll] at h
  split at h
  · cases h
  · split at h
    · cases h
    · rename_i sent' rest' hl
      have hs := usbWriteLoop_ok hl
      subst hs
      split at h
      · rename_i hp
        split at h
        · cases h
        · rename_i hw
          cases h
          rw [usbWritePad_ok hw,padBytes,if_pos hp]
      · rename_i hp
        cases h
        rw [padBytes,if_neg hp,List.append_nil]
    · rename_i hne hl
      cases h
      exact (hne rfl).elim

theorem BufHandle.header_len (h : BufHandle) : h.header.len.toNat = h.payload.length := by
  have hf := h.fits
  simp only [header]
  split <;> simp [debugRawTpSetSeq] <;> omega

theorem BufHandle.header_offset (h : BufHandle) : h.header.offset.toNat = headerSize := by
  simp only [header]
  split <;> rfl

theorem BufHandle.header_ifType (h : BufHandle) :
    h.header.ifType.val = h.ifType.toNat%16 := by
  simp only [header]
  split <;> rfl

theorem BufHandle.frame_length (h : BufHandle) :
    h.frame.length = headerSize+h.payload.length := by
  simp [frame]

/-- One call of `esp_usb_write` with everything outside the function fixed. -/
structure UsbWrite where
  handle : BufHandle
  alloc : Bool := true
  start : UInt32 := 0
  replies : List TudReply

def UsbWrite.result (w : UsbWrite) (u : UsbDev) : Option (Int × Bytes × List TudReply) :=
  espUsbWrite u w.alloc w.start w.handle w.replies

/-- The call returns `payload_len`. `ESP_ERR_NO_MEM` is a positive code, so a
failed allocation is told apart by itself. -/
def UsbWrite.succeeds (w : UsbWrite) (u : UsbDev) : Bool :=
  w.alloc && (w.result u).any (fun r => decide (r.1 = (w.handle.payload.length : Int)))

def UsbWrite.sent (w : UsbWrite) (u : UsbDev) : Bytes :=
  match w.result u with
  | none => []
  | some r => r.2.1

def wireOf (u : UsbDev) (ws : List UsbWrite) : Bytes := (ws.map (·.sent u)).flatten

theorem UsbWrite.sent_of_succeeds {w : UsbWrite} {u : UsbDev} (h : w.succeeds u = true) :
    w.handle.payload ≠ [] ∧ w.handle.frame.length ≤ ESP_USB_MAX_XFER ∧
      w.sent u = w.handle.frame ++ padBytes u.epMps w.handle.frame.length := by
  simp only [succeeds,Bool.and_eq_true] at h
  obtain ⟨ha,hr⟩ := h
  have hl := w.handle.frame_length
  cases hres : w.result u with
  | none => simp [hres] at hr
  | some r =>
    obtain ⟨ret,sent,rest⟩ := r
    simp only [hres,Option.any_some,decide_eq_true_eq] at hr
    simp only [UsbWrite.sent,hres]
    simp only [result,espUsbWrite] at hres
    split at hres
    · cases hres
      simp only [EspErr.code] at hr
      omega
    · rename_i hp
      split at hres
      · cases hres
        simp only [EspErr.code] at hr
        omega
      · rw [if_neg (by simp [ha])] at hres
        split at hres
        · cases hres
        · rename_i hw
          cases hres
          exact ⟨hp,by omega,usbWriteAll_ok hw⟩
        · cases hres
          simp only [EspErr.code] at hr
          omega

end EspHosted.Usb
