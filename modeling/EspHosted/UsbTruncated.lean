import EspHosted.UsbStream
import EspHosted.Lib.Run

/-!
Writes that fail in the middle of a frame, `usb_write_all` under `process_tx_pkt`, and what
the host makes of the bytes that follow. Only a failed write of an RCP frame ends the stream.
-/

set_option autoImplicit false

namespace EspHosted.Usb
open EspHosted Framing Run

/-- `process_tx_pkt` after the write; `rcp` is `CONFIG_ESP_HOSTED_RCP`. -/
def fatalRestart (rcp : Bool) (u : UsbDev) (w : UsbWrite) : Bool :=
  rcp && decide (w.handle.ifType.toNat = ESP_RCP_IF) && (w.result u).any (fun r => decide (r.1 ≤ 0))

/-- The bytes of the calls the firmware lives to make. -/
def e2hWire (rcp : Bool) (u : UsbDev) : List UsbWrite → Bytes
  | [] => []
  | w :: ws => w.sent u ++ if fatalRestart rcp u w then [] else e2hWire rcp u ws

/-- What the last bytes on the wire are. -/
inductive Tail where
  | between
  /-- A whole frame, behind which the host looks for a pad that was not sent. -/
  | pad
  | cut
  deriving DecidableEq, Repr

def Tail.after (mps : Nat) (u : UsbDev) (t : Tail) (w : UsbWrite) : Tail :=
  let n := (w.sent u).length
  if n = 0 then t
  else if n < w.handle.frame.length then .cut
  else if padExpected mps w.handle.frame.length ∧ n = w.handle.frame.length then .pad
  else .between

/-- Nothing follows a truncated frame, and what follows a missing pad does not start with a zero. -/
def Tail.admits (u : UsbDev) (t : Tail) (w : UsbWrite) : Bool :=
  (w.sent u).isEmpty || decide (t = .between) ||
    decide (t = .pad ∧ (w.handle.ifType.toNat%16 ≠ 0 ∨ w.handle.ifNum.toNat%16 ≠ 0))

def tailStep (rcp : Bool) (mps : Nat) (u : UsbDev) (t : Tail) (w : UsbWrite) : Option Tail :=
  if fatalRestart rcp u w then none else some (t.after mps u w)

def CleanAlong (rcp : Bool) (mps : Nat) (u : UsbDev) (t : Tail) (ws : List UsbWrite) : Prop :=
  Along (tailStep rcp mps u) (fun t w => t.admits u w = true) t ws

instance (rcp : Bool) (mps : Nat) (u : UsbDev) (t : Tail) (ws : List UsbWrite) :
    Decidable (CleanAlong rcp mps u t ws) :=
  inferInstanceAs (Decidable (Along _ _ t ws))

/-- Every frame in the receive queue is one the firmware was asked to send. -/
def Framed (c : UsbRx) (ws : List UsbWrite) : Prop := ∀ f ∈ c.rxQueue, ∃ w ∈ ws, f = w.handle.frame

/-! What a call leaves on the wire. -/

theorem usbWriteLoop_sent {u : UsbDev} {deadline : UInt32} {replies rest : List TudReply} {data sent : Bytes}
    {e : EspErr} (h : usbWriteLoop u deadline replies data = some (e,sent,rest)) : sent <+: data := by
  induction replies generalizing data sent rest e with
  | nil =>
    cases data with
    | nil => simp only [usbWriteLoop] at h; cases h; exact List.prefix_rfl
    | cons b data => simp [usbWriteLoop] at h
  | cons r replies ih =>
    cases data with
    | nil => simp only [usbWriteLoop] at h; cases h; exact List.prefix_rfl
    | cons b data =>
      simp only [usbWriteLoop] at h
      split at h
      · cases h
        exact List.nil_prefix
      · split at h
        · split at h
          · cases h
            exact List.nil_prefix
          · exact ih h
        · split at h
          · split at h
            · cases h
              exact List.nil_prefix
            · exact ih h
          · split at h
            · cases h
            · rename_i n hn e' sent' rest' hr
              cases h
              obtain ⟨t,ht⟩ := ih hr
              refine ⟨t,?_⟩
              rw [List.append_assoc,ht,List.take_append_drop]

theorem usbWritePad_sent {u : UsbDev} {deadline : UInt32} {replies rest : List TudReply} {sent : Bytes} {e : EspErr}
    (h : usbWritePad u deadline replies = some (e,sent,rest)) : sent = [] ∨ sent = [0] := by
  induction replies with
  | nil => simp [usbWritePad] at h
  | cons r replies ih =>
    simp only [usbWritePad] at h
    split at h
    · split at h
      · cases h
        exact .inl rfl
      · exact ih h
    · split at h
      · cases h
        exact .inl rfl
      · cases h
        exact .inr rfl

theorem usbWriteAll_sent {u : UsbDev} {start : UInt32} {replies rest : List TudReply} {data sent : Bytes} {e : EspErr}
    (h : usbWriteAll u start data replies = some (e,sent,rest)) :
    sent <+: data ∨ (sent = data ++ [0] ∧ padsAfter u.epMps data.length = true) := by
  simp only [usbWriteAll] at h
  split at h
  · cases h
    exact .inl List.nil_prefix
  · split at h
    · cases h
    · rename_i sent' rest' hl
      have hs := usbWriteLoop_ok hl
      subst hs
      split at h
      · rename_i hp
        split at h
        · cases h
        · rename_i e' pad rest'' hw
          cases h
          rcases usbWritePad_sent hw with hx | hx
          · rw [hx,List.append_nil]
            exact .inl List.prefix_rfl
          · rw [hx]
            exact .inr ⟨rfl,hp⟩
      · cases h
        exact .inl List.prefix_rfl
    · rename_i hl
      cases h
      exact .inl (usbWriteLoop_sent hl)

theorem UsbWrite.sent_cases (w : UsbWrite) (u : UsbDev) :
    w.sent u = [] ∨
    (w.handle.payload ≠ [] ∧ w.handle.frame.length ≤ ESP_USB_MAX_XFER ∧
      (w.sent u <+: w.handle.frame ∨
        (w.sent u = w.handle.frame ++ [0] ∧ padsAfter u.epMps w.handle.frame.length = true))) := by
  have hl := w.handle.frame_length
  unfold UsbWrite.sent UsbWrite.result espUsbWrite
  by_cases hp : w.handle.payload = []
  · simp [hp]
  rw [if_neg hp]
  by_cases hm : ESP_USB_MAX_XFER < headerSize+w.handle.payload.length
  · simp [hm]
  rw [if_neg hm]
  cases ha : w.alloc with
  | false => simp
  | true =>
    simp only [Bool.true_eq_false,if_false]
    cases hw : usbWriteAll u w.start w.handle.frame w.replies with
    | none => simp
    | some r =>
      obtain ⟨e,sent,rest⟩ := r
      have hs := usbWriteAll_sent hw
      right
      refine ⟨hp,by omega,?_⟩
      cases e <;> exact hs

/-! The host. -/

theorem streamNext_cut {mps : Nat} {h : BufHandle} {sent : Bytes} (ht : h.ifType.toNat < ESP_MAX_IF) (hp : h.payload ≠ [])
    (hl : h.frame.length ≤ ESP_USB_MAX_XFER) (hs : sent <+: h.frame) (hn : sent.length < h.frame.length) :
    streamNext mps false sent = none := by
  obtain ⟨t,ht'⟩ := hs
  cases hx : streamNext mps false sent with
  | none => rfl
  | some r =>
    -- the step would be taken on the whole frame as well, and that one takes all of it
    obtain ⟨m,rest,out⟩ := r
    have h1 := streamNext_stable t hx
    have h2 := streamNext_frame mps h [] ht hp hl
    rw [List.append_nil,← ht',h1] at h2
    simp only [Option.some.injEq,Prod.mk.injEq,List.append_eq_nil_iff] at h2
    obtain ⟨-,⟨-,rfl⟩,-⟩ := h2
    rw [List.append_nil] at ht'
    rw [ht'] at hn
    omega

theorem BufHandle.frame_head (h : BufHandle) :
    ∃ b rest, h.frame = b :: rest ∧ b.toNat = h.ifType.toNat%16+16*(h.ifNum.toNat%16) := by
  refine ⟨UInt8.ofNat (h.header.ifType.val+16*h.header.ifNum.val),_,rfl,?_⟩
  have ht : h.header.ifType.val = h.ifType.toNat%16 := h.header_ifType
  have hn : h.header.ifNum.val = h.ifNum.toNat%16 := by
    simp only [BufHandle.header]
    split <;> rfl
  rw [UInt8.toNat_ofNat',ht,hn]
  omega

/-- A missing pad is not found in a header that does not start with a zero. -/
theorem run_pad_missing {mps : Nat} {h : BufHandle} {sent : Bytes} (rest : Bytes) (hs : sent <+: h.frame ++ [0])
    (hne : sent ≠ []) (hz : h.ifType.toNat%16 ≠ 0 ∨ h.ifNum.toNat%16 ≠ 0) :
    (streamDecoder mps).run true (sent ++ rest) = (streamDecoder mps).run false (sent ++ rest) := by
  obtain ⟨b,tail,hf,hb⟩ := h.frame_head
  have hb0 : b ≠ 0 := by
    intro hx
    rw [hx] at hb
    have : (0 : UInt8).toNat = 0 := rfl
    omega
  cases sent with
  | nil => exact absurd rfl hne
  | cons c sent =>
    have hc : c = b := by
      obtain ⟨t,ht⟩ := hs
      rw [hf] at ht
      exact (List.cons.inj ht).1
    have hn : streamNext mps true (c :: (sent ++ rest)) = some (false,c :: (sent ++ rest),[]) := by
      simp [streamNext,hc,hb0]
    rw [List.cons_append,run_of_some hn]
    rfl

theorem e2hWire_cut {rcp : Bool} {mps : Nat} {u : UsbDev} {ws : List UsbWrite} (h : CleanAlong rcp mps u .cut ws) :
    e2hWire rcp u ws = [] := by
  induction ws with
  | nil => rfl
  | cons w ws ih =>
    obtain ⟨hok,hrest⟩ := h
    have hs : w.sent u = [] := by simpa [Tail.admits] using hok
    simp only [e2hWire,hs,List.nil_append]
    cases hr : fatalRestart rcp u w with
    | true => rfl
    | false =>
      simp only [tailStep,hr,Tail.after,hs,List.length_nil,if_true,Bool.false_eq_true,if_false] at hrest
      simp only [Bool.false_eq_true,if_false]
      exact ih hrest

theorem run_e2hWire {rcp : Bool} {mps : Nat} {u : UsbDev} (hpad : ∀ n, padsAfter u.epMps n = true → padExpected mps n = true)
    {ws : List UsbWrite} (hif : ∀ w ∈ ws, w.handle.ifType.toNat < ESP_MAX_IF) {t : Tail} (ht : t ≠ .cut)
    (h : CleanAlong rcp mps u t ws) :
    ∀ e ∈ ((streamDecoder mps).run (decide (t = .pad)) (e2hWire rcp u ws)).2.2, ∃ w ∈ ws, e = .frame w.handle.frame := by
  induction ws generalizing t with
  | nil =>
    intro e he
    have hx : streamNext mps (decide (t = .pad)) [] = none := by
      cases decide (t = .pad) <;> rfl
    rw [e2hWire,run_of_none hx] at he
    cases he
  | cons w ws ih =>
    obtain ⟨hok,hrest⟩ := h
    have hmem := hif w List.mem_cons_self
    have hif' := fun v hv => hif v (List.mem_cons_of_mem w hv)
    -- what comes behind, once the state of the tail is known
    have htail : ∀ t', t' ≠ .cut → t.after mps u w = t' → ∀ e ∈ ((streamDecoder mps).run (decide (t' = .pad))
        (if fatalRestart rcp u w then [] else e2hWire rcp u ws)).2.2, ∃ v ∈ w :: ws, e = .frame v.handle.frame := by
      intro t' ht' hafter e he
      cases hr : fatalRestart rcp u w with
      | true =>
        have hx : streamNext mps (decide (t' = .pad)) [] = none := by
          cases decide (t' = .pad) <;> rfl
        rw [hr,if_pos rfl,run_of_none hx] at he
        cases he
      | false =>
        simp only [tailStep,hr,Bool.false_eq_true,if_false,hafter] at hrest
        rw [hr] at he
        obtain ⟨v,hv,hx⟩ := ih hif' ht' hrest e he
        exact ⟨v,List.mem_cons_of_mem w hv,hx⟩
    by_cases hs : w.sent u = []
    · have hafter : t.after mps u w = t := by simp [Tail.after,hs]
      simp only [e2hWire,hs,List.nil_append]
      exact htail t ht hafter
    obtain ⟨hp,hl,hsent⟩ := (w.sent_cases u).resolve_left hs
    have hpre : w.sent u <+: w.handle.frame ++ [0] := by
      rcases hsent with hx | ⟨hx,-⟩
      · exact hx.trans (List.prefix_append _ _)
      · exact ⟨[],by rw [hx,List.append_nil]⟩
    have hmode : (streamDecoder mps).run (decide (t = .pad)) (e2hWire rcp u (w :: ws)) =
        (streamDecoder mps).run false (e2hWire rcp u (w :: ws)) := by
      cases t with
      | between => rfl
      | cut => exact absurd rfl ht
      | pad =>
        have hz : w.handle.ifType.toNat%16 ≠ 0 ∨ w.handle.ifNum.toNat%16 ≠ 0 := by simpa [Tail.admits,hs] using hok
        exact run_pad_missing _ hpre hs hz
    rw [hmode]
    have hlen : (w.sent u).length ≠ 0 := fun hx => hs (List.length_eq_zero_iff.mp hx)
    rcases hsent with hx | ⟨hx,hpads⟩
    · by_cases hcut : (w.sent u).length < w.handle.frame.length
      · have hafter : t.after mps u w = .cut := by simp [Tail.after,hlen,hcut]
        have hbehind : (if fatalRestart rcp u w then [] else e2hWire rcp u ws) = [] := by
          cases hr : fatalRestart rcp u w with
          | true => rfl
          | false =>
            simp only [tailStep,hr,Bool.false_eq_true,if_false,hafter] at hrest
            simp only [Bool.false_eq_true,if_false]
            exact e2hWire_cut hrest
        intro e he
        rw [e2hWire,hbehind,List.append_nil,run_of_none (streamNext_cut hmem hp hl hx hcut)] at he
        cases he
      · have heq : w.sent u = w.handle.frame := hx.eq_of_length (by have := hx.length_le; omega)
        intro e he
        rw [e2hWire,heq,run_of_some (streamNext_frame mps w.handle _ hmem hp hl)] at he
        rcases List.mem_cons.mp he with he | he
        · exact ⟨w,List.mem_cons_self,he⟩
        · rw [heq] at hlen
          cases hx : padExpected mps w.handle.frame.length with
          | true =>
            rw [hx] at he
            exact htail .pad (by simp) (by simp [Tail.after,heq,hlen,hx]) e he
          | false =>
            rw [hx] at he
            exact htail .between (by simp) (by simp [Tail.after,heq,hlen,hx]) e he
    · intro e he
      rw [e2hWire,hx,List.append_assoc,run_of_some (streamNext_frame mps w.handle _ hmem hp hl)] at he
      rcases List.mem_cons.mp he with he | he
      · exact ⟨w,List.mem_cons_self,he⟩
      · have hn : ∀ rest, streamNext mps true ([0] ++ rest) = some (false,rest,[]) := by
          intro rest
          simp [streamNext]
        simp only [hpad _ hpads] at he
        rw [run_of_some (hn _)] at he
        exact htail .between (by simp) (by simp [Tail.after,hx]) e he

theorem run_events_mono (mps : Nat) (m : Bool) {a b : Bytes} (h : a <+: b) :
    ∀ e ∈ ((streamDecoder mps).run m a).2.2, e ∈ ((streamDecoder mps).run m b).2.2 := by
  obtain ⟨t,rfl⟩ := h
  intro e he
  rw [(streamDecoder mps).run_append m a t]
  exact List.mem_append_left _ he

theorem mem_foldl_record {alloc : Nat → Bool} {events : List RxEvent} {c : UsbRx} {f : Bytes}
    (h : f ∈ (events.foldl (UsbRx.record alloc) c).rxQueue) : f ∈ c.rxQueue ∨ .frame f ∈ events := by
  induction events generalizing c with
  | nil => exact .inl h
  | cons e events ih =>
    rcases ih h with h | h
    · cases e with
      | slid => exact .inl h
      | frame data =>
        simp only [UsbRx.record,espUsbQueueFrameLocked] at h
        cases ha : alloc c.allocs with
        | true =>
          simp only [ha,if_true,List.mem_append,List.mem_singleton] at h
          rcases h with h | h
          · exact .inl h
          · exact .inr (by rw [h]; exact List.mem_cons_self)
        | false =>
          simp only [ha,Bool.false_eq_true,if_false] at h
          exact .inl h
    · exact .inr (List.mem_cons_of_mem _ h)

theorem padExpected_of_padsAfter (speed : UsbSpeed) (txBuffered : Bool) (ticks : UInt32) (n : Nat)
    (h : padsAfter (espUsbInit txBuffered ticks).epMps n = true) : padExpected (hostMps speed) n = true := by
  rw [espUsbInit_epMps] at h
  obtain ⟨h1,h2⟩ := (padsAfter_iff _ _).mp h
  rw [padExpected_iff]
  simp only [ESP_USB_HS_MPS,ESP_USB_MAX_XFER] at h1 h2
  cases speed with
  | full =>
    rw [hostMps_full]
    simp only [ESP_USB_FS_MPS,rxMaxXfer]
    omega
  | high =>
    rw [hostMps_high]
    simp only [ESP_USB_HS_MPS,rxMaxXfer]
    omega

/-- As long as nothing is sent behind a truncated frame, or a zero where the host looks for a pad,
the host queues only frames it was sent. -/
theorem usb_framed_of_clean (speed : UsbSpeed) (rcp txBuffered : Bool) (ticks : UInt32) (alloc : Nat → Bool)
    (ws : List UsbWrite) (chunks : List Bytes) (hif : ∀ w ∈ ws, w.handle.ifType.toNat < ESP_MAX_IF)
    (hclean : CleanAlong rcp (hostMps speed) (espUsbInit txBuffered ticks) .between ws)
    (hc : chunks.flatten <+: e2hWire rcp (espUsbInit txBuffered ticks) ws) :
    Framed (chunks.foldl (espUsbIngestStream alloc) {bulkInMps := hostMps speed}) ws := by
  have hidle : UsbRx.Idle {bulkInMps := hostMps speed} := rfl
  rw [foldl_espUsbIngestStream alloc chunks _ hidle]
  intro f hf
  rcases mem_foldl_record hf with hf | hf
  · cases hf
  · have hev := run_events_mono (hostMps speed) false hc _ hf
    obtain ⟨w,hw,hx⟩ := run_e2hWire (padExpected_of_padsAfter speed txBuffered ticks) hif (by simp) hclean _ hev
    cases hx
    exact ⟨w,hw,rfl⟩

/-- A station frame that times out on the last call, behind two that are sent. -/
def lastTimesOut : List UsbWrite :=
  [{handle := ⟨0,0,0,0,List.replicate 52 6,0,by decide⟩, replies := [{available := 64, written := 64}]},
   {handle := ⟨0,1,0,0,[21,34,55],0,by decide⟩, replies := [{available := 64, written := 64}]},
   {handle := ⟨0,0,0,0,List.replicate 20 8,0,by decide⟩,
    replies := [{available := 20, written := 20},{available := 0, written := 0, tick := 5000}]}]

theorem usb_framed_last_times_out :
    (e2hWire true (espUsbInit true 1000) lastTimesOut).length = 99 ∧
    Framed ([e2hWire true (espUsbInit true 1000) lastTimesOut].foldl (espUsbIngestStream (fun _ => true))
      {bulkInMps := hostMps .full}) lastTimesOut :=
  ⟨by decide +kernel,usb_framed_of_clean .full true true 1000 (fun _ => true) lastTimesOut
    [e2hWire true (espUsbInit true 1000) lastTimesOut] (by decide) (by decide +kernel) (by simp)⟩

/-- A station frame of 64 bytes of which 40 are sent before the timeout, and an HCI frame. -/
def cutThenHci : List UsbWrite :=
  [{handle := ⟨0,0,0,0,List.replicate 52 6,0,by decide⟩,
    replies := [{available := 40, written := 40},{available := 0, written := 0, tick := 5000}]},
   {handle := ⟨2,0,0,0,List.replicate 20 8,0,by decide⟩, replies := [{available := 64, written := 64}]}]

/-- The host queues 40 bytes of the one and 24 of the other. -/
theorem truncated_frame_is_completed :
    (∀ w ∈ cutThenHci, w.handle.ifType.toNat < ESP_MAX_IF) ∧
    ¬ Framed ([e2hWire true (espUsbInit true 1000) cutThenHci].foldl (espUsbIngestStream (fun _ => true))
      {bulkInMps := hostMps .high}) cutThenHci := by
  refine ⟨by decide,fun h => ?_⟩
  have hq : ([e2hWire true (espUsbInit true 1000) cutThenHci].foldl (espUsbIngestStream (fun _ => true))
      {bulkInMps := hostMps .high}).rxQueue.any (fun f => cutThenHci.all (fun w => decide (f ≠ w.handle.frame))) = true := by
    decide +kernel
  obtain ⟨f,hf,hx⟩ := List.any_eq_true.mp hq
  obtain ⟨w,hw,rfl⟩ := h f hf
  have hne := List.all_eq_true.mp hx w hw
  simp at hne

end EspHosted.Usb
