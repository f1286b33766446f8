import EspHosted.Lib.Padded
import EspHosted.SpiHdTx
import EspHosted.UsbDevice

/-!
E2H batches of SPI-HD: `esp_spi_hd_write` and `spi_hd_tx_batch_task` of
`main/spi_hd_slave_api.c`, and `spihd_validate_rx_batch` and `spihd_process_rx_batch` of
`host/spi_hd/esp_spi_hd.c`.
-/

set_option autoImplicit false

namespace EspHosted.SpiHd
open EspHosted Padded Run

def SPI_HD_TX_BATCH_FRAMES : Nat := 2
def SPI_HD_TX_INFLIGHT_MAX : Nat := 1
def SPI_HD_TX_BATCH_SIZE : Nat := SPI_HD_FRAME_BUF_SIZE*SPI_HD_TX_BATCH_FRAMES

/-- `interface_buffer_handle_t` as the callers fill it in: `if_type` is one of
`enum ESP_INTERFACE_TYPE`. -/
structure TxHandle where
  handle : Usb.BufHandle
  rawTpRunId : UInt32 := 0
  known : handle.ifType.toNat < ESP_MAX_IF

/-- `CONFIG_ESP_SPI_HD_TX_BATCH`, `CONFIG_ESP_SPI_HD_TX_POOL_SIZE` and
`CONFIG_ESP_SPI_HD_CHECKSUM`, with `compute_checksum`. -/
structure FwConfig where
  txBatch : Bool := true
  poolSize : Nat := 8
  checksum : Bool := false
  cksum : Bytes → UInt16

/-- What `SPI_HD_REG_MAX_TX_BUF_LEN` announces. -/
def FwConfig.advertised (c : FwConfig) : Nat :=
  if c.txBatch then SPI_HD_TX_BATCH_SIZE*SPI_HD_TX_INFLIGHT_MAX else SPI_HD_FRAME_BUF_SIZE

/-- The frame `esp_spi_hd_write` builds. -/
def TxHandle.frame (c : FwConfig) (h : TxHandle) : Bytes :=
  if c.checksum then setChecksum h.handle.frame (c.cksum h.handle.frame) else h.handle.frame

structure Slot where
  frame : Bytes
  rawTp : Bool
  runId : UInt32
  deriving DecidableEq, Repr

def TxHandle.slot (c : FwConfig) (h : TxHandle) : Slot :=
  let rawTp := decide (h.handle.header.ifType.val = ESP_TEST_IF)
  ⟨h.frame c,rawTp,if rawTp then h.rawTpRunId else 0⟩

/-- `slot->buf` up to `slot->len`. -/
def Slot.wire (x : Slot) : Bytes := pad 4 0 x.frame

/-- One E2H transfer; `frames` records what was copied into it. -/
structure Batch where
  bytes : Bytes := []
  rawTp : Bool := false
  runId : UInt32 := 0
  frames : List Bytes := []
  deriving DecidableEq, Repr

def Batch.copy (b : Batch) (x : Slot) : Batch := {b with bytes := b.bytes ++ x.wire, frames := b.frames ++ [x.frame]}

/-- `desc` is the aggregate `spi_hd_tx_batch_task` is filling. `accepted` records the
frames of the calls that returned the payload length. -/
structure FwTx where
  free : Nat := 0
  pending : List Slot := []
  desc : Option Batch := none
  published : List Batch := []
  accepted : List Bytes := []
  deriving DecidableEq, Repr

/-- `none` where the caller blocks for a free slot. -/
def espSpiHdWrite (c : FwConfig) (s : FwTx) (h : TxHandle) : Option FwTx :=
  if h.handle.payload = [] then some s
  else if SPI_HD_FRAME_BUF_SIZE < headerSize+h.handle.payload.length then some s
  else if c.txBatch then
    if s.free = 0 then none
    else some {s with
      free := s.free-1
      pending := s.pending ++ [h.slot c]
      accepted := s.accepted ++ [h.frame c]}
  else some {s with
    published := s.published ++ [{bytes := h.frame c, frames := [h.frame c]}]
    accepted := s.accepted ++ [h.frame c]}

/-- The first `xQueueReceive` of a turn, and the copy. -/
def batchReceive (s : FwTx) : Option FwTx :=
  match s.desc, s.pending with
  | none, x :: rest => some {s with
      desc := some (Batch.copy {rawTp := x.rawTp, runId := x.runId} x), pending := rest, free := s.free+1}
  | _, _ => none

/-- The end of the loop body: take one more slot, or hand the aggregate to the DMA. -/
def batchNext (s : FwTx) : Option FwTx :=
  match s.desc with
  | none => none
  | some b =>
    match s.pending with
    | [] => some {s with desc := none, published := s.published ++ [b]}
    | x :: rest =>
      if SPI_HD_TX_BATCH_FRAMES ≤ b.frames.length ∨ x.rawTp ≠ b.rawTp ∨ x.runId ≠ b.runId then
        some {s with desc := none, published := s.published ++ [b]}
      else some {s with desc := some (b.copy x), pending := rest, free := s.free+1}

inductive FwAction where
  | write (h : TxHandle)
  | receive
  | next

def fwStep (c : FwConfig) (s : FwTx) : FwAction → Option FwTx
  | .write h => espSpiHdWrite c s h
  | .receive => batchReceive s
  | .next => batchNext s

/-! The host. -/

def rxSpan (frameLen left : Nat) : Nat := if frameLen = left then frameLen else alignUp 4 frameLen

def validateLoop : Nat → Bytes → Option Nat
  | _, [] => some 0
  | 0, _ :: _ => none
  | fuel+1, b :: data =>
    let d := b :: data
    let frameLen := hdrOffset d+hdrLen d
    if d.length < headerSize then none
    else if ESP_MAX_IF ≤ hdrIfType d ∨
        (espHostWireSpanValid (hdrLen d) (hdrOffset d) SPI_HD_BUF_SIZE).isNone ∨
        (espHostWireSpanValid (hdrLen d) (hdrOffset d) d.length).isNone then none
    else if d.length < rxSpan frameLen d.length then none
    else if ((d.drop frameLen).take (rxSpan frameLen d.length-frameLen)).any (· != 0) then none
    else (validateLoop fuel (d.drop (rxSpan frameLen d.length))).map (·+1)

def spihdValidateRxBatch (data : Bytes) : Option Nat :=
  if data = [] then none else validateLoop data.length data

/-- `spi_hd.rx_q`. -/
abbrev RxQueues := Prio → List Bytes

def enqueue (q : RxQueues) (skb : Bytes) : RxQueues :=
  fun p => if p = framePrio skb then q p ++ [skb] else q p

def spihdProcessRxBuf (q : RxQueues) (skb : Bytes) : Option RxQueues :=
  if skb.length < headerSize then none
  else if ESP_MAX_IF ≤ hdrIfType skb then none
  else
    match espHostWireSpanValid (hdrLen skb) (hdrOffset skb) skb.length with
    | none => none
    | some n => some (enqueue q (skb.take n))

/-- The frames of a batch in buffers of their own; `alloc i` is whether the `i`-th
`spihd_alloc_skb` succeeds. -/
def splitLoop (alloc : Nat → Bool) : Nat → Nat → Bytes → Option (List Bytes)
  | _, _, [] => some []
  | 0, _, _ :: _ => some []
  | fuel+1, i, b :: data =>
    let d := b :: data
    let len := hdrOffset d+hdrLen d
    if alloc i then
      (splitLoop alloc fuel (i+1) (d.drop (rxSpan len d.length))).map (d.take len :: ·)
    else none

inductive RxResult where
  | ok
  | proto
  | inval
  | nomem
  deriving DecidableEq, Repr

def processPackets : RxQueues → List Bytes → RxQueues × RxResult
  | q, [] => (q,.ok)
  | q, packet :: packets =>
    match spihdProcessRxBuf q packet with
    | none => (q,.inval)
    | some q => processPackets q packets

def spihdProcessRxBatch (alloc : Nat → Bool) (q : RxQueues) (data : Bytes) : RxQueues × RxResult :=
  match spihdValidateRxBatch data with
  | none => (q,.proto)
  | some 1 =>
    match spihdProcessRxBuf q data with
    | none => (q,.inval)
    | some q => (q,.ok)
  | some _ =>
    match splitLoop alloc data.length 0 data with
    | none => (q,.nomem)
    | some packets => processPackets q packets

/-! What the host takes for a frame. -/

structure RxFrame (b : Bytes) : Prop where
  ifType : hdrIfType b < ESP_MAX_IF
  span : espHostWireSpanValid (hdrLen b) (hdrOffset b) SPI_HD_BUF_SIZE = some b.length

section
variable {f : Bytes} (h : RxFrame f)
include h

theorem RxFrame.length_eq : hdrOffset f+hdrLen f = f.length :=
  (espHostWireSpanValid_eq_some.mp h.span).2.2.2.1.symm

theorem RxFrame.headerSize_lt : headerSize < f.length := by
  have hs := espHostWireSpanValid_eq_some.mp h.span
  omega

theorem RxFrame.length_le : f.length ≤ SPI_HD_BUF_SIZE :=
  (espHostWireSpanValid_eq_some.mp h.span).2.2.2.2

theorem RxFrame.span_of_le {n : Nat} (hn : f.length ≤ n) :
    espHostWireSpanValid (hdrLen f) (hdrOffset f) n = some f.length := by
  have hs := espHostWireSpanValid_eq_some.mp h.span
  exact espHostWireSpanValid_eq_some.mpr ⟨hs.1,hs.2.1,hs.2.2.1,hs.2.2.2.1,hn⟩

end

def rxNext (d : Bytes) : Option (Bytes × Bytes) :=
  let frameLen := hdrOffset d+hdrLen d
  if d.length < headerSize then none
  else if ESP_MAX_IF ≤ hdrIfType d ∨
      (espHostWireSpanValid (hdrLen d) (hdrOffset d) SPI_HD_BUF_SIZE).isNone ∨
      (espHostWireSpanValid (hdrLen d) (hdrOffset d) d.length).isNone then none
  else if d.length < rxSpan frameLen d.length then none
  else if ((d.drop frameLen).take (rxSpan frameLen d.length-frameLen)).any (· != 0) then none
  else some (d.take frameLen,d.drop (rxSpan frameLen d.length))

theorem validateLoop_cons (fuel : Nat) (b : UInt8) (data : Bytes) :
    validateLoop (fuel+1) (b :: data) =
      (rxNext (b :: data)).bind (fun x => (validateLoop fuel x.2).map (·+1)) := by
  simp only [validateLoop,rxNext]
  split_ifs <;> rfl

theorem rxSpan_eq_cases (n left : Nat) :
    (n = left ∧ rxSpan n left = left) ∨ (n ≠ left ∧ rxSpan n left = alignUp 4 n) := by
  by_cases h : n = left
  · exact .inl ⟨h,by simp [rxSpan,h]⟩
  · exact .inr ⟨h,by simp [rxSpan,h]⟩

theorem rxNext_sound {d f rest : Bytes} (h : rxNext d = some (f,rest)) :
    RxFrame f ∧ ((d = f ∧ rest = []) ∨ d = pad 4 0 f ++ rest) := by
  unfold rxNext at h
  dsimp only at h
  split_ifs at h with hl hb hs hz
  simp only [not_or,Nat.not_le,Option.isNone_iff_eq_none] at hb
  obtain ⟨hif,hmax,hfit⟩ := hb
  obtain ⟨n,hn⟩ := Option.ne_none_iff_exists'.mp hmax
  obtain ⟨m,hm⟩ := Option.ne_none_iff_exists'.mp hfit
  have hn' := espHostWireSpanValid_eq_some.mp hn
  have hm' := espHostWireSpanValid_eq_some.mp hm
  cases h
  generalize hk : hdrOffset d+hdrLen d = k at *
  have hlen : (d.take k).length = k := by
    rw [List.length_take]
    omega
  have hsplit : d.take k ++ d.drop k = d := List.take_append_drop k d
  have hhdr : headerSize ≤ (d.take k).length := by omega
  have h1 : hdrIfType (d.take k) = hdrIfType d := by
    conv_rhs => rw [← hsplit]
    rw [hdrIfType_append _ hhdr]
  have h2 : hdrLen (d.take k) = hdrLen d := by
    conv_rhs => rw [← hsplit]
    rw [hdrLen_append _ hhdr]
  have h3 : hdrOffset (d.take k) = hdrOffset d := by
    conv_rhs => rw [← hsplit]
    rw [hdrOffset_append _ hhdr]
  refine ⟨⟨by rw [h1]; exact hif,?_⟩,?_⟩
  · rw [h2,h3,hlen,hn]
    congr 1
    omega
  · rcases rxSpan_eq_cases k d.length with ⟨he,hr⟩ | ⟨hne,hr⟩
    · refine .inl ⟨?_,?_⟩
      · rw [he,List.take_length]
      · rw [hr,List.drop_length]
    · refine .inr ?_
      rw [hr] at hs hz ⊢
      refine pad_of_split (by decide) (by omega) (fun x hx => ?_)
      simp only [List.any_eq_true,not_exists,not_and,bne_iff_ne,ne_eq,not_not] at hz
      exact hz x hx

inductive Leads (f : Bytes) : Bytes → Bytes → Prop where
  | last : Leads f f []
  | padded (rest : Bytes) : Leads f (pad 4 0 f ++ rest) rest

theorem Leads.parse {f d rest : Bytes} (hl : Leads f d rest) :
    (∃ t, d = f ++ t) ∧ d.drop (rxSpan f.length d.length) = rest ∧
    rxSpan f.length d.length ≤ d.length ∧
    ((d.drop f.length).take (rxSpan f.length d.length-f.length)).any (· != 0) = false := by
  cases hl with
  | last =>
    have hr : rxSpan f.length f.length = f.length := by simp [rxSpan]
    rw [hr]
    exact ⟨⟨[],by simp⟩,by simp,Nat.le_refl _,by simp⟩
  | padded =>
    have hlen := length_pad (by decide : 0 < 4) (0 : UInt8) f
    have hdl : (pad 4 0 f ++ rest).length = alignUp 4 f.length+rest.length := by
      rw [List.length_append,hlen]
    have hle := le_alignUp (by decide : 0 < 4) f.length
    have hr : rxSpan f.length (pad 4 0 f ++ rest).length = alignUp 4 f.length := by
      rcases rxSpan_eq_cases f.length (pad 4 0 f ++ rest).length with ⟨he,hr⟩ | ⟨-,hr⟩
      · rw [hr]
        omega
      · exact hr
    rw [hr]
    refine ⟨⟨_,List.append_assoc _ _ _⟩,drop_pad (by decide) 0 f rest,by omega,?_⟩
    rw [fill_pad]
    simp

theorem Leads.shrinks {f d rest : Bytes} (hl : Leads f d rest) (h : RxFrame f) : rest.length < d.length := by
  have hpos := h.headerSize_lt
  cases hl with
  | last =>
    simp only [List.length_nil]
    omega
  | padded =>
    have hle := le_alignUp (by decide : 0 < 4) f.length
    rw [List.length_append,length_pad (by decide)]
    omega

theorem rxNext_complete {f d rest : Bytes} (hl : Leads f d rest) (h : RxFrame f) :
    rxNext d = some (f,rest) := by
  obtain ⟨⟨t,ht⟩,hdrop,hle,hz⟩ := hl.parse
  have hhdr := h.headerSize_lt
  have hdl : f.length ≤ d.length := by
    rw [ht,List.length_append]
    omega
  have h1 : hdrIfType d = hdrIfType f := by rw [ht,hdrIfType_append t (Nat.le_of_lt hhdr)]
  have h2 : hdrLen d = hdrLen f := by rw [ht,hdrLen_append t (Nat.le_of_lt hhdr)]
  have h3 : hdrOffset d = hdrOffset f := by rw [ht,hdrOffset_append t (Nat.le_of_lt hhdr)]
  have hif := h.ifType
  have htake : d.take f.length = f := by rw [ht,List.take_left]
  unfold rxNext
  simp only [h1,h2,h3,h.length_eq,h.span,h.span_of_le hdl,Option.isNone_some,Bool.false_eq_true,or_false,hz,
    if_false,hdrop,htake]
  rw [if_neg (by omega),if_neg (by omega),if_neg (by omega)]

theorem RxFrame.ne_nil {f : Bytes} (h : RxFrame f) : f ≠ [] := by
  intro hf
  have := h.headerSize_lt
  simp [hf] at this

theorem packed_leads (padLast : Bool) (f : Bytes) (fs : List Bytes) :
    Leads f (packed 4 0 padLast (f :: fs)) (packed 4 0 padLast fs) := by
  cases fs with
  | nil =>
    cases padLast with
    | false => exact .last
    | true =>
      have := Leads.padded (f := f) []
      rwa [List.append_nil] at this
  | cons g gs => exact .padded _

theorem packed_ne_nil {padLast : Bool} {f : Bytes} {fs : List Bytes} (h : RxFrame f) :
    packed 4 0 padLast (f :: fs) ≠ [] := by
  intro he
  have hl := packed_leads padLast f fs
  rw [he] at hl
  obtain ⟨⟨t,ht⟩,-⟩ := hl.parse
  exact h.ne_nil (List.append_eq_nil_iff.mp ht.symm).1

theorem validateLoop_packed (fuel : Nat) (padLast : Bool) (frames : List Bytes)
    (h : ∀ f ∈ frames, RxFrame f) (hf : (packed 4 0 padLast frames).length ≤ fuel) :
    validateLoop fuel (packed 4 0 padLast frames) = some frames.length := by
  induction frames generalizing fuel with
  | nil => simp [packed,validateLoop]
  | cons f fs ih =>
    have hfr := h f (by simp)
    have hl := packed_leads padLast f fs
    have hnext := rxNext_complete hl hfr
    cases hd : packed 4 0 padLast (f :: fs) with
    | nil => exact absurd hd (packed_ne_nil hfr)
    | cons b data =>
      rw [hd] at hl hf hnext
      cases fuel with
      | zero => simp at hf
      | succ fuel =>
        rw [validateLoop_cons,hnext,Option.bind_some,
          ih fuel (fun g hg => h g (by simp [hg])) ?_]
        · simp
        · have := hl.shrinks hfr
          omega

theorem validateLoop_sound (fuel : Nat) (d : Bytes) (k : Nat) (h : validateLoop fuel d = some k) :
    ∃ frames padLast, frames.length = k ∧ (∀ f ∈ frames, RxFrame f) ∧ d = packed 4 0 padLast frames := by
  induction fuel generalizing d k with
  | zero =>
    cases d with
    | nil =>
      cases h
      exact ⟨[],true,rfl,nofun,rfl⟩
    | cons b data => cases h
  | succ fuel ih =>
    cases d with
    | nil =>
      cases h
      exact ⟨[],true,rfl,nofun,rfl⟩
    | cons b data =>
      rw [validateLoop_cons] at h
      obtain ⟨⟨f,rest⟩,hnext,h⟩ := Option.bind_eq_some_iff.mp h
      obtain ⟨k',hk,rfl⟩ := Option.map_eq_some_iff.mp h
      obtain ⟨hfr,hd⟩ := rxNext_sound hnext
      obtain ⟨frames,padLast,rfl,hall,hrest⟩ := ih rest k' hk
      have hall' : ∀ g ∈ f :: frames, RxFrame g := by
        intro g hg
        rcases List.mem_cons.mp hg with rfl | hg
        · exact hfr
        · exact hall g hg
      cases frames with
      | nil =>
        simp only [packed] at hrest
        rcases hd with ⟨hd,-⟩ | hd
        · exact ⟨[f],false,rfl,hall',hd⟩
        · exact ⟨[f],true,rfl,hall',by rw [hd,hrest]; simp [packed]⟩
      | cons g gs =>
        rcases hd with ⟨-,hd⟩ | hd
        · exact absurd (hrest.symm.trans hd) (packed_ne_nil (hall g (by simp)))
        · exact ⟨f :: g :: gs,padLast,rfl,hall',by rw [hd,hrest]; rfl⟩

/-! The split. -/

theorem splitLoop_packed (alloc : Nat → Bool) (fuel i : Nat) (padLast : Bool) (frames : List Bytes)
    (h : ∀ f ∈ frames, RxFrame f) (hf : (packed 4 0 padLast frames).length ≤ fuel) :
    splitLoop alloc fuel i (packed 4 0 padLast frames) =
      if ∀ j < frames.length, alloc (i+j) = true then some frames else none := by
  induction frames generalizing fuel i with
  | nil => simp [packed,splitLoop]
  | cons f fs ih =>
    have hfr := h f (by simp)
    have hl := packed_leads padLast f fs
    cases hd : packed 4 0 padLast (f :: fs) with
    | nil => exact absurd hd (packed_ne_nil hfr)
    | cons b data =>
      rw [hd] at hl hf
      have hsh := hl.shrinks hfr
      obtain ⟨⟨t,ht⟩,hdrop,-,-⟩ := hl.parse
      have hhdr := Nat.le_of_lt hfr.headerSize_lt
      have hlen : hdrOffset (b :: data)+hdrLen (b :: data) = f.length := by
        rw [ht,hdrOffset_append t hhdr,hdrLen_append t hhdr,hfr.length_eq]
      have htake : (b :: data).take f.length = f := by rw [ht,List.take_left]
      cases fuel with
      | zero => simp at hf
      | succ fuel =>
        have hrec := ih fuel (i+1) (fun g hg => h g (by simp [hg])) (by omega)
        rw [splitLoop]
        simp only [hlen,hdrop,htake,hrec]
        by_cases ha : alloc i = true
        · rw [if_pos ha]
          have hiff : (∀ j < (f :: fs).length, alloc (i+j) = true) ↔ ∀ j < fs.length, alloc (i+1+j) = true := by
            constructor
            · intro hall j hj
              have := hall (j+1) (by simp; omega)
              rwa [show i+(j+1) = i+1+j by omega] at this
            · intro hall j hj
              cases j with
              | zero => exact ha
              | succ j =>
                have := hall j (by simp at hj; omega)
                rwa [show i+1+j = i+(j+1) by omega] at this
          by_cases hall : ∀ j < fs.length, alloc (i+1+j) = true
          · rw [if_pos hall,if_pos (hiff.mpr hall)]
            rfl
          · rw [if_neg hall,if_neg (fun hn => hall (hiff.mp hn))]
            rfl
        · rw [if_neg ha,if_neg (fun hall => ha (by simpa using hall 0 (by simp)))]

def queued (q : RxQueues) (frames : List Bytes) : RxQueues := fun p => q p ++ frames.filter (framePrio · = p)

theorem queued_nil (q : RxQueues) : queued q [] = q := by
  funext p
  simp [queued]

theorem queued_cons (q : RxQueues) (f : Bytes) (fs : List Bytes) :
    queued q (f :: fs) = queued (enqueue q f) fs := by
  funext p
  by_cases hp : framePrio f = p
  · simp [queued,enqueue,hp]
  · simp [queued,enqueue,hp,Ne.symm hp]

theorem spihdProcessRxBuf_frame (q : RxQueues) {f : Bytes} (h : RxFrame f) (t : Bytes)
    (ht : espHostWireSpanValid (hdrLen f) (hdrOffset f) (f ++ t).length = some f.length) :
    spihdProcessRxBuf q (f ++ t) = some (enqueue q f) := by
  have hhdr := h.headerSize_lt
  have hif := h.ifType
  unfold spihdProcessRxBuf
  rw [hdrIfType_append t (Nat.le_of_lt hhdr),hdrLen_append t (Nat.le_of_lt hhdr),
    hdrOffset_append t (Nat.le_of_lt hhdr),ht,if_neg (by rw [List.length_append]; omega),if_neg (by omega)]
  simp

theorem processPackets_frames (q : RxQueues) (frames : List Bytes) (h : ∀ f ∈ frames, RxFrame f) :
    processPackets q frames = (queued q frames,.ok) := by
  induction frames generalizing q with
  | nil => rw [queued_nil]; rfl
  | cons f fs ih =>
    have hfr := h f (by simp)
    have hbuf := spihdProcessRxBuf_frame q hfr [] (hfr.span_of_le (by simp))
    rw [List.append_nil] at hbuf
    rw [processPackets,hbuf,queued_cons]
    exact ih (enqueue q f) (fun g hg => h g (by simp [hg]))

theorem spihdValidateRxBatch_packed {padLast : Bool} {frames : List Bytes} (hne : frames ≠ [])
    (h : ∀ f ∈ frames, RxFrame f) :
    spihdValidateRxBatch (packed 4 0 padLast frames) = some frames.length := by
  cases frames with
  | nil => exact absurd rfl hne
  | cons f fs =>
    rw [spihdValidateRxBatch,if_neg (packed_ne_nil (h f (by simp)))]
    exact validateLoop_packed _ padLast _ h (Nat.le_refl _)

theorem spihdValidateRxBatch_sound {data : Bytes} {k : Nat} (h : spihdValidateRxBatch data = some k) :
    ∃ frames padLast, frames ≠ [] ∧ (∀ f ∈ frames, RxFrame f) ∧ data = packed 4 0 padLast frames := by
  unfold spihdValidateRxBatch at h
  split at h
  · cases h
  · rename_i hne
    obtain ⟨frames,padLast,-,hall,hd⟩ := validateLoop_sound _ _ _ h
    refine ⟨frames,padLast,fun hnil => ?_,hall,hd⟩
    rw [hnil] at hd
    exact hne hd

/-- A batch is queued as a whole, or for want of memory not at all. -/
theorem spihdProcessRxBatch_packed (alloc : Nat → Bool) (q : RxQueues) {padLast : Bool} {frames : List Bytes}
    (hne : frames ≠ []) (h : ∀ f ∈ frames, RxFrame f) :
    spihdProcessRxBatch alloc q (packed 4 0 padLast frames) =
      if frames.length = 1 ∨ ∀ j < frames.length, alloc j = true then (queued q frames,.ok) else (q,.nomem) := by
  have hv : spihdValidateRxBatch (packed 4 0 padLast frames) = some frames.length :=
    spihdValidateRxBatch_packed hne h
  unfold spihdProcessRxBatch
  cases frames with
  | nil => exact absurd rfl hne
  | cons f fs =>
    have hfr := h f (by simp)
    cases fs with
    | nil =>
      rw [hv,if_pos (.inl rfl),queued_cons,queued_nil]
      have hbuf : spihdProcessRxBuf q (packed 4 0 padLast [f]) = some (enqueue q f) := by
        obtain ⟨⟨t,ht⟩,-⟩ := (packed_leads padLast f []).parse
        rw [ht]
        exact spihdProcessRxBuf_frame q hfr t (hfr.span_of_le (by simp))
      simp [hbuf]
    | cons g gs =>
      rw [hv]
      simp only [List.length_cons]
      rw [splitLoop_packed alloc _ 0 padLast _ h (Nat.le_refl _)]
      simp only [Nat.zero_add,List.length_cons]
      have hcond : (gs.length+1+1 = 1 ∨ ∀ j < gs.length+1+1, alloc j = true) ↔
          ∀ j < gs.length+1+1, alloc j = true := by
        constructor
        · rintro (hc | hc)
          · omega
          · exact hc
        · exact .inr
      by_cases hall : ∀ j < gs.length+1+1, alloc j = true
      · rw [if_pos hall,if_pos (hcond.mpr hall)]
        exact processPackets_frames q _ h
      · rw [if_neg hall,if_neg (fun hc => hall (hcond.mp hc))]

/-! The firmware. -/

theorem rxFrame_frame (c : FwConfig) (h : TxHandle) (hp : h.handle.payload ≠ [])
    (hl : ¬SPI_HD_FRAME_BUF_SIZE < headerSize+h.handle.payload.length) : RxFrame (h.frame c) := by
  have hlen := h.handle.frame_length
  have hplain : RxFrame h.handle.frame := by
    have hk := h.known
    have hpos := List.length_pos_iff.mpr hp
    have hifn : h.handle.ifType.toNat%16 = h.handle.ifType.toNat :=
      Nat.mod_eq_of_lt (by simp only [ESP_MAX_IF] at hk; omega)
    constructor
    · rw [Usb.BufHandle.frame,hdrIfType_encode,h.handle.header_ifType,hifn]
      exact hk
    · rw [espHostWireSpanValid_eq_some,hlen]
      rw [Usb.BufHandle.frame,hdrLen_encode,hdrOffset_encode,h.handle.header_len,h.handle.header_offset]
      simp only [SPI_HD_FRAME_BUF_SIZE,headerSize] at hl
      simp only [SPI_HD_BUF_SIZE,headerSize,ESP_MAX_OFFSET_SIZE,ESP_MAX_ALIGN_PADDING]
      exact ⟨hpos,by omega,by omega,trivial,by omega⟩
  unfold TxHandle.frame
  split
  · have hs := sameHeader_setChecksum h.handle.frame (c.cksum h.handle.frame)
    constructor
    · rw [hs.hdrIfType_eq]
      exact hplain.ifType
    · rw [hs.hdrLen_eq,hs.hdrOffset_eq,hs.length]
      exact hplain.span
  · exact hplain

structure Batch.Filled (b : Batch) : Prop where
  bytes : b.bytes = (b.frames.map (pad 4 0)).flatten
  frames : ∀ f ∈ b.frames, RxFrame f
  some : b.frames ≠ []
  few : b.frames.length ≤ SPI_HD_TX_BATCH_FRAMES

theorem Batch.filled_copy (b : Batch) (x : Slot) (hb : b.bytes = (b.frames.map (pad 4 0)).flatten)
    (hf : ∀ f ∈ b.frames, RxFrame f) (hx : RxFrame x.frame) (hn : b.frames.length < SPI_HD_TX_BATCH_FRAMES) :
    (b.copy x).Filled := by
  constructor
  · simp [Batch.copy,Slot.wire,hb]
  · intro f hm
    rcases List.mem_append.mp hm with hm | hm
    · exact hf f hm
    · rw [List.mem_singleton.mp hm]
      exact hx
  · simp [Batch.copy]
  · simp only [Batch.copy,List.length_append,List.length_singleton]
    omega

structure Batch.Good (c : FwConfig) (b : Batch) : Prop where
  bytes : ∃ padLast, b.bytes = packed 4 0 padLast b.frames
  frames : ∀ f ∈ b.frames, RxFrame f
  some : b.frames ≠ []
  bound : b.bytes.length ≤ c.advertised

theorem Batch.Filled.good {c : FwConfig} {b : Batch} (h : b.Filled) (hc : c.txBatch = true) : b.Good c := by
  refine ⟨⟨true,by rw [packed_true,h.bytes]⟩,h.frames,h.some,?_⟩
  have hl := length_flatten_pad_le (by decide : 0 < 4) (by decide : 4 ∣ SPI_HD_BUF_SIZE) (0 : UInt8) b.frames
    (fun f hf => (h.frames f hf).length_le)
  have hn := h.few
  simp only [FwConfig.advertised,hc,if_true,h.bytes,SPI_HD_TX_BATCH_SIZE,SPI_HD_TX_INFLIGHT_MAX,
    SPI_HD_TX_BATCH_FRAMES,SPI_HD_FRAME_BUF_SIZE,SPI_HD_BUF_SIZE] at *
  omega

def FwTx.filling (s : FwTx) : List Bytes :=
  match s.desc with
  | none => []
  | some b => b.frames

structure FwInv (c : FwConfig) (s : FwTx) : Prop where
  order : s.accepted = (s.published.map Batch.frames).flatten ++ s.filling ++ s.pending.map Slot.frame
  pending : ∀ x ∈ s.pending, RxFrame x.frame ∧ c.txBatch = true
  desc : ∀ b, s.desc = some b → b.Filled ∧ c.txBatch = true
  published : ∀ b ∈ s.published, b.Good c

theorem FwInv.write {c : FwConfig} {s s' : FwTx} {x : TxHandle} (h : FwInv c s)
    (hs : espSpiHdWrite c s x = some s') : FwInv c s' := by
  unfold espSpiHdWrite at hs
  split_ifs at hs with hp hl hb hf <;> cases hs
  · exact h
  · exact h
  · have hfr := rxFrame_frame c x hp hl
    refine ⟨?_,?_,h.desc,h.published⟩
    · have ho := h.order
      simp only [FwTx.filling] at ho ⊢
      simp [ho,TxHandle.slot]
    · intro y hy
      rcases List.mem_append.mp hy with hy | hy
      · exact h.pending y hy
      · rw [List.mem_singleton.mp hy]
        exact ⟨hfr,hb⟩
  · have hfr := rxFrame_frame c x hp hl
    have hfill : s.filling = [] := by
      unfold FwTx.filling
      split
      · rfl
      · rename_i b hd
        exact absurd (h.desc b hd).2 hb
    have hpend : s.pending = [] := by
      cases hq : s.pending with
      | nil => rfl
      | cons y ys => exact absurd (h.pending y (by simp [hq])).2 hb
    refine ⟨?_,h.pending,h.desc,?_⟩
    · have ho := h.order
      rw [hfill,hpend] at ho
      have hfill' : FwTx.filling {s with
          published := s.published ++ [{bytes := x.frame c, frames := [x.frame c]}]
          accepted := s.accepted ++ [x.frame c]} = [] := hfill
      rw [hfill']
      simp [ho,hpend]
    · intro b hm
      rcases List.mem_append.mp hm with hm | hm
      · exact h.published b hm
      · rw [List.mem_singleton.mp hm]
        refine ⟨⟨false,rfl⟩,?_,by simp,?_⟩
        · simpa using hfr
        · simp only [FwConfig.advertised,hb]
          exact hfr.length_le

theorem FwInv.receive {c : FwConfig} {s s' : FwTx} (h : FwInv c s) (hs : batchReceive s = some s') :
    FwInv c s' := by
  unfold batchReceive at hs
  split at hs
  · rename_i x rest hd hq
    cases hs
    have hx := h.pending x (by simp [hq])
    refine ⟨?_,fun y hy => h.pending y (by simp [hq,hy]),fun b hb => ?_,h.published⟩
    · have ho := h.order
      simp only [FwTx.filling,hd,hq] at ho ⊢
      simp [ho,Batch.copy]
    · cases hb
      exact ⟨Batch.filled_copy _ x rfl nofun hx.1 (Nat.succ_pos 1),hx.2⟩
  · cases hs

theorem FwInv.publish {c : FwConfig} {s : FwTx} {b : Batch} (h : FwInv c s) (hd : s.desc = some b) :
    FwInv c {s with desc := none, published := s.published ++ [b]} := by
  obtain ⟨hb,hc⟩ := h.desc b hd
  refine ⟨?_,h.pending,nofun,fun b' hm => ?_⟩
  · have ho := h.order
    simp only [FwTx.filling,hd] at ho ⊢
    simp [ho]
  · rcases List.mem_append.mp hm with hm | hm
    · exact h.published b' hm
    · rw [List.mem_singleton.mp hm]
      exact hb.good hc

theorem FwInv.next {c : FwConfig} {s s' : FwTx} (h : FwInv c s) (hs : batchNext s = some s') :
    FwInv c s' := by
  unfold batchNext at hs
  split at hs
  · cases hs
  · rename_i b hd
    obtain ⟨hb,hc⟩ := h.desc b hd
    split at hs
    · cases hs
      exact h.publish hd
    · rename_i x rest hq
      split at hs
      · cases hs
        exact h.publish hd
      · rename_i hn
        cases hs
        have hx := h.pending x (by simp [hq])
        refine ⟨?_,fun y hy => h.pending y (by simp [hq,hy]),fun b' hb' => ?_,h.published⟩
        · have ho := h.order
          simp only [FwTx.filling,hd,hq] at ho ⊢
          simp [ho,Batch.copy]
        · cases hb'
          exact ⟨Batch.filled_copy b x hb.bytes hb.frames hx.1 (by omega),hc⟩

theorem step_fwInv (c : FwConfig) (s : FwTx) (a : FwAction) (s' : FwTx) (h : FwInv c s)
    (hs : fwStep c s a = some s') : FwInv c s' := by
  cases a with
  | write x => exact h.write hs
  | receive => exact h.receive hs
  | next => exact h.next hs

/-- Every transfer the firmware makes is a batch within the announced limit, and the
host queues its frames; a batch is accepted exactly if it is made of frames that are
padded with zeros, and is queued as a whole or not at all. -/
theorem e2h_batch_round_trip (c : FwConfig) :
    (∀ acts s, exec (fwStep c) {free := c.poolSize} acts = some s →
      s.accepted = (s.published.map Batch.frames).flatten ++ s.filling ++ s.pending.map Slot.frame ∧
      ∀ b ∈ s.published, b.bytes.length ≤ c.advertised ∧
        spihdValidateRxBatch b.bytes = some b.frames.length ∧
        ∀ alloc q, (∀ i, alloc i = true) → spihdProcessRxBatch alloc q b.bytes = (queued q b.frames,.ok)) ∧
    (∀ data, (spihdValidateRxBatch data).isSome ↔
      ∃ frames padLast, frames ≠ [] ∧ (∀ f ∈ frames, RxFrame f) ∧ data = packed 4 0 padLast frames) ∧
    (∀ alloc q data, ((spihdProcessRxBatch alloc q data).2 ≠ .ok ∧ (spihdProcessRxBatch alloc q data).1 = q) ∨
      ∃ frames padLast, (∀ f ∈ frames, RxFrame f) ∧ data = packed 4 0 padLast frames ∧
        spihdProcessRxBatch alloc q data = (queued q frames,.ok)) := by
  refine ⟨fun acts s hrun => ?_,fun data => ⟨fun h => ?_,?_⟩,fun alloc q data => ?_⟩
  · have hstart : FwInv c {free := c.poolSize} := ⟨rfl,nofun,nofun,nofun⟩
    have h : FwInv c s := exec_invariant (step_fwInv c) hstart hrun
    refine ⟨h.order,fun b hb => ?_⟩
    have hg := h.published b hb
    obtain ⟨padLast,hbytes⟩ := hg.bytes
    refine ⟨hg.bound,by rw [hbytes]; exact spihdValidateRxBatch_packed hg.some hg.frames,?_⟩
    intro alloc q halloc
    rw [hbytes,spihdProcessRxBatch_packed alloc q hg.some hg.frames,if_pos (.inr (fun j _ => halloc j))]
  · obtain ⟨k,hk⟩ := Option.isSome_iff_exists.mp h
    exact spihdValidateRxBatch_sound hk
  · rintro ⟨frames,padLast,hne,hall,rfl⟩
    rw [spihdValidateRxBatch_packed hne hall]
    rfl
  · cases hv : spihdValidateRxBatch data with
    | none => exact .inl (by simp [spihdProcessRxBatch,hv])
    | some k =>
      obtain ⟨frames,padLast,hne,hall,rfl⟩ := spihdValidateRxBatch_sound hv
      rw [spihdProcessRxBatch_packed alloc q hne hall]
      split
      · exact .inr ⟨frames,padLast,hall,rfl,rfl⟩
      · exact .inl ⟨nofun,rfl⟩

def shortFrames : List TxHandle :=
  [{handle := {ifType := 0, ifNum := 0, payload := [1,2,3], fits := by decide}, known := by decide},
   {handle := {ifType := 3, ifNum := 0, payload := [4], fits := by decide}, known := by decide}]

def batchConfig : FwConfig := {checksum := true, cksum := byteSum}

theorem e2h_batch_round_trip_two :
    ∃ s ∈ exec (fwStep batchConfig) {free := batchConfig.poolSize}
        (shortFrames.map .write ++ [.receive,.next,.next]),
      s.published.map Batch.frames = [shortFrames.map (TxHandle.frame batchConfig)] ∧
      ∀ b ∈ s.published, b.bytes.length = 32 ∧
        spihdProcessRxBatch (fun _ => true) (fun _ => []) b.bytes = (queued (fun _ => []) b.frames,.ok) := by
  have h : ∃ s ∈ exec (fwStep batchConfig) {free := batchConfig.poolSize}
      (shortFrames.map .write ++ [.receive,.next,.next]),
      s.published.map Batch.frames = [shortFrames.map (TxHandle.frame batchConfig)] ∧
      ∀ b ∈ s.published, b.bytes.length = 32 := by decide +kernel
  obtain ⟨s,hs,hf,hl⟩ := h
  refine ⟨s,hs,hf,fun b hb => ⟨hl b hb,?_⟩⟩
  exact (((e2h_batch_round_trip batchConfig).1 _ s hs).2 b hb).2.2 _ _ (fun _ => rfl)

end EspHosted.SpiHd
