import EspHosted.SpiHdFrames

/-!
The fast paths of SPI-HD against the phase-by-phase path with separate end and acknowledge
commands: `spihd_wrdma_segment`, `spihd_rddma` and `spihd_receive_one` of
`host/spi_hd/esp_spi_hd.c`, on a controller and with limits that the probe let through.
-/

set_option autoImplicit false

namespace EspHosted.SpiHdWire
open EspHosted Shift

def spihdWrdmaSegment (ctl : Controller) (c : Config) (dev : Device) (done : Frames) (buf : Bytes) (wrLines : Nat) :
    Result Bytes :=
  let endLines := if c.forceSioWrend then 1 else wrLines
  thenResult (spihdEnhancedXferLines ctl c dev done SPIHD_CMD_WRDMA true 0 (.tx buf false) wrLines) fun done _ =>
    if spihdCombinedWrdma c buf.length wrLines then (done,.ok [])
    else
      thenResult (spihdCommandLines ctl c dev done SPIHD_CMD_WR_END endLines) fun done _ => (done,.ok [])

def spihdRddma (ctl : Controller) (c : Config) (dev : Device) (done : Frames) (len : Nat) : Result Bytes :=
  let lines := if c.forceSioControlE2h ∧ len ≤ 256 then 1 else spihdE2hLines c
  thenResult (spihdEnhancedXferLines ctl c dev done SPIHD_CMD_RDDMA true 0 (.rx len false) lines) fun done bytes =>
    if c.appendTx ∨ spihdCombinedRddma c len lines then (done,.ok bytes)
    else
      thenResult (spihdCommandLines ctl c dev done SPIHD_CMD_INT0 (spihdE2hControlLines c)) fun done _ =>
        (done,.ok bytes)

/-- `spihd_receive_one` once the length register is read; `skb` is whether the buffer is
allocated. -/
def spihdReceiveOne (ctl : Controller) (c : Config) (dev : Device) (done : Frames) (status : UInt32) (pending : Nat)
    (skb : Bool) : Result Bytes :=
  thenResult
    (if spihdRxAckRequired c status pending ∧
        ¬(spihdBatchRxAck c pending (spihdE2hLines c) ∧ pending ≤ c.rxLimit) then
      spihdCommandLines ctl c dev done SPIHD_CMD_INT1 (spihdE2hControlLines c)
    else (done,.ok ())) fun done _ =>
    if pending = 0 then (if status ≠ 0 then (done,.ok []) else (done,.error .again))
    else if c.rxLimit < pending then (done,.error .msgsize)
    else if skb then spihdRddma ctl c dev done pending
    else (done,.error .nomem)

/-- No fast path: phase by phase, with the end and the acknowledge sent on their own. -/
def Config.plain (c : Config) : Config :=
  {c with
    coalesce := false
    qioTxWord32 := false
    qioRxWord32 := false
    wrdmaBatchEnd := false
    rddmaBatchEnd := false
    rxBatchControl := false}

inductive Op where
  | register (base : UInt8) (hasAddr : Bool) (addr : UInt8) (d : Data) (lines : Nat)
  | segment (buf : Bytes) (wrLines : Nat)
  | receive (status : UInt32) (pending : Nat) (skb : Bool)

def perform (ctl : Controller) (c : Config) (dev : Device) (done : Frames) : Op → Result Bytes
  | .register base hasAddr addr d lines => spihdEnhancedXferLines ctl c dev done base hasAddr addr d lines
  | .segment buf wrLines => spihdWrdmaSegment ctl c dev done buf wrLines
  | .receive status pending skb => spihdReceiveOne ctl c dev done status pending skb

structure Bound (ctl : Controller) (c : Config) : Prop where
  rxTransfer : c.rxLimit ≤ ctl.transferMax
  rxMessage : c.rxLimit+6 ≤ ctl.messageMax
  txSegmentMin : 4 ≤ c.txSegmentMax
  txTransfer : c.txSegmentMax ≤ ctl.transferMax
  txMessage : c.txSegmentMax+6 ≤ ctl.messageMax

/-- The DMA commands have operations of their own, and a frame is cut into segments. -/
def Op.Proper (c : Config) : Op → Prop
  | .register base _ _ _ _ => base ≠ SPIHD_CMD_WRDMA ∧ base ≠ SPIHD_CMD_RDDMA
  | .segment buf _ => buf.length ≤ c.txSegmentMax
  | .receive _ _ _ => True

/-- What a message has to pass, on the path that is taken for it. -/
def Sends (ctl : Controller) (c : Config) (base : UInt8) (hasAddr : Bool) (d : Data) (lines : Nat) : Prop :=
  if coalesces ctl c hasAddr d lines then
    ctl.minSpeedHz ≤ spihdSpeedHz c lines d.isTx ∧ rxOnStack d ≤ SPIHD_CONTROL_BYTES
  else Phased ctl c base hasAddr d lines

variable {ctl : Controller} {c : Config} {dev : Device} {done : Frames} {base : UInt8} {hasAddr : Bool}
  {addr : UInt8} {d : Data} {lines : Nat}

theorem coalesces_alone (hc : coalesces ctl c hasAddr d lines = true) :
    batchesAck c base d lines = false ∧ batchesEnd c base d lines = false := by
  have h1 := (coalesces_iff.mp hc).2.2.1
  constructor <;> rw [← Bool.not_eq_true] <;> intro h
  · have := (batchesAck_len h).1
    omega
  · have := (batchesEnd_len h).1
    omega

open Classical in
theorem seen_enhanced (hl : d.len ≠ 0) :
    seen (spihdEnhancedXferLines ctl c dev done base hasAddr addr d lines) =
      if Sends ctl c base hasAddr d lines then
        (done ++ ackFrames c base d lines ++ [wireHeader c base hasAddr addr lines d.isTx ++ wireData d lines] ++
            endFrames c base d lines,
          some (received dev (done ++ ackFrames c base d lines) (wireHeader c base hasAddr addr lines d.isTx) d lines))
      else (done,none) := by
  by_cases hc : coalesces ctl c hasAddr d lines = true
  · obtain ⟨ha,he⟩ := @coalesces_alone ctl c base hasAddr d lines hc
    rw [seen_coalesced hl hc]
    simp only [Sends,hc,ackFrames,endFrames,ha,he,if_true,Bool.false_eq_true,if_false,List.append_nil]
  · rw [Bool.not_eq_true] at hc
    rw [seen_phased hl hc]
    simp only [Sends,hc,Bool.false_eq_true,if_false]

/-- The bytes of a write that are on the stack. -/
def Data.onStack : Data → Nat
  | .tx buf stack => if stack then buf.length else 0
  | .rx _ _ => 0

theorem plain_parts : coalesces ctl c.plain hasAddr d lines = false ∧ batchesAck c.plain base d lines = false ∧
    batchesEnd c.plain base d lines = false ∧ txOnStack ctl c.plain d lines = d.onStack := by
  refine ⟨rfl,?_,?_,?_⟩
  · simp [batchesAck,spihdBatchRxAck,Config.plain]
  · simp [batchesEnd,spihdCombinedWrdma,spihdCombinedRddma,Config.plain]
  · cases d with
    | tx buf stack => cases stack <;> simp [txOnStack,Data.onStack,txWord32,Config.plain]
    | rx len stack => rfl

theorem sends_plain : Sends ctl c.plain base hasAddr d lines ↔
    (foldWriteDummy c hasAddr d lines = true → 2 ≤ ctl.transferMax) ∧ d.len ≤ ctl.transferMax ∧
      ctl.minSpeedHz ≤ spihdSpeedHz c lines d.isTx ∧ headerLen hasAddr+d.len ≤ ctl.messageMax ∧
      headerLen hasAddr+d.onStack ≤ SPIHD_CONTROL_BYTES ∧ rxOnStack d ≤ SPIHD_CONTROL_BYTES := by
  obtain ⟨hc,hA,hE,ht⟩ := @plain_parts ctl c base hasAddr d lines
  simp only [Sends,hc,Bool.false_eq_true,if_false]
  constructor
  · rintro ⟨hf,hl,hs,-,-,hm,htx,hrx⟩
    simp only [hA,hE,ht,controlLen,Bool.false_eq_true,if_false,Nat.add_zero] at hm htx
    exact ⟨hf,hl,hs,hm,htx,hrx⟩
  · rintro ⟨hf,hl,hs,hm,htx,hrx⟩
    refine ⟨hf,hl,hs,(fun h => ?_),(fun h => ?_),?_,?_,hrx⟩
    · simp [hA] at h
    · simp [hE] at h
    · simpa only [hA,hE,controlLen,Bool.false_eq_true,if_false,Nat.add_zero] using hm
    · simpa only [hA,hE,ht,controlLen,Bool.false_eq_true,if_false,Nat.add_zero] using htx

theorem sends_heap (hs : d.onStack = 0) : Sends ctl c base hasAddr d lines ↔
    Sends ctl c.plain base hasAddr d lines ∧
      (batchesAck c base d lines = true → ctl.minSpeedHz ≤ capHz (spihdSpeedHz c lines d.isTx) c.sioMaxHz) ∧
      (batchesEnd c base d lines = true → ctl.minSpeedHz ≤ capHz c.speedHz c.sioMaxHz) ∧
      headerLen hasAddr+d.len+controlLen (batchesAck c base d lines)+controlLen (batchesEnd c base d lines) ≤
        ctl.messageMax := by
  have h3 := headerLen_le hasAddr
  have hb : headerLen hasAddr+d.onStack ≤ SPIHD_CONTROL_BYTES := by
    simp only [hs,SPIHD_CONTROL_BYTES]
    omega
  rw [sends_plain]
  by_cases hc : coalesces ctl c hasAddr d lines = true
  · obtain ⟨hA,hE⟩ := @coalesces_alone ctl c base hasAddr d lines hc
    obtain ⟨-,-,h1,-,htm,hmm⟩ := coalesces_iff.mp hc
    have hf : foldWriteDummy c hasAddr d lines = false := by simp [foldWriteDummy,h1]
    simp only [Sends,hc,hA,hE,hf,if_true,controlLen,Bool.false_eq_true,if_false,Nat.add_zero,false_imp_iff,true_and]
    constructor
    · rintro ⟨hsp,hrx⟩
      exact ⟨⟨by omega,hsp,by omega,hb,hrx⟩,by omega⟩
    · rintro ⟨⟨-,hsp,-,-,hrx⟩,-⟩
      exact ⟨hsp,hrx⟩
  · rw [Bool.not_eq_true] at hc
    simp only [Sends,hc,Bool.false_eq_true,if_false]
    have ht : txOnStack ctl c d lines = 0 := by
      cases d with
      | tx buf stack => cases stack <;> simp_all [txOnStack,Data.onStack]
      | rx len stack => rfl
    constructor
    · rintro ⟨hf,hl,hsp,ha,he,hm,-,hrx⟩
      exact ⟨⟨hf,hl,hsp,by omega,hb,hrx⟩,ha,he,hm⟩
    · rintro ⟨⟨hf,hl,hsp,-,-,hrx⟩,ha,he,hm⟩
      refine ⟨hf,hl,hsp,ha,he,hm,?_,hrx⟩
      simp only [ht,SPIHD_CONTROL_BYTES,controlLen]
      split <;> split <;> omega

/-! Register accesses. -/

/-- A write of the stack is copied off it, or is not let through anyway. -/
def RegisterFits (ctl : Controller) (c : Config) (hasAddr : Bool) (d : Data) (lines : Nat) : Prop :=
  coalesces ctl c hasAddr d lines = true ∨ txWord32 ctl c d.len lines = true →
    ctl.transferMax < d.len ∨ ctl.messageMax < headerLen hasAddr+d.len ∨
      spihdSpeedHz c lines d.isTx < ctl.minSpeedHz ∨ headerLen hasAddr+d.onStack ≤ SPIHD_CONTROL_BYTES

theorem register_alone (h1 : base ≠ SPIHD_CMD_WRDMA) (h2 : base ≠ SPIHD_CMD_RDDMA) :
    batchesAck c base d lines = false ∧ batchesEnd c base d lines = false := by
  simp [batchesAck,batchesEnd,h1,h2]

theorem ite_eq_ite_iff {γ : Type} {p q : Prop} [Decidable p] [Decidable q] {a b : γ} (h : a ≠ b) :
    (if p then a else b) = (if q then a else b) ↔ (p ↔ q) := by
  by_cases hp : p <;> by_cases hq : q <;> simp [hp,hq,h,h.symm]

/-- In the staging buffer only the sizes and the clock matter. -/
theorem sends_copied {buf : Bytes} (h1 : base ≠ SPIHD_CMD_WRDMA) (h2 : base ≠ SPIHD_CMD_RDDMA)
    (hc : coalesces ctl c hasAddr (.tx buf true) lines = true ∨ txWord32 ctl c buf.length lines = true) :
    Sends ctl c base hasAddr (.tx buf true) lines ↔ buf.length ≤ ctl.transferMax ∧
      headerLen hasAddr+buf.length ≤ ctl.messageMax ∧ ctl.minSpeedHz ≤ spihdSpeedHz c lines true := by
  obtain ⟨hA,hE⟩ := @register_alone c base (.tx buf true) lines h1 h2
  have h3 := headerLen_le hasAddr
  by_cases hco : coalesces ctl c hasAddr (.tx buf true) lines = true
  · obtain ⟨-,-,-,-,htm,hmm⟩ := coalesces_iff.mp hco
    simp only [Data.len] at htm hmm
    simp only [Sends,hco,if_true,Data.isTx,rxOnStack,Nat.zero_le,and_true]
    constructor
    · intro hs
      exact ⟨by omega,by omega,hs⟩
    · rintro ⟨-,-,hs⟩
      exact hs
  · have hw := hc.resolve_left hco
    have h256 := (txWord32_iff.mp hw).2.2.2.2.1
    rw [Bool.not_eq_true] at hco
    simp only [Sends,hco,Bool.false_eq_true,if_false]
    constructor
    · rintro ⟨-,hl,hs,-,-,hm,-,-⟩
      simp only [hA,hE,Data.len,controlLen,Bool.false_eq_true,if_false,Nat.add_zero] at hm
      exact ⟨hl,hm,hs⟩
    · rintro ⟨hl,hm,hs⟩
      refine ⟨fun _ => by omega,hl,hs,(fun h => ?_),(fun h => ?_),?_,?_,Nat.zero_le _⟩
      · simp [hA] at h
      · simp [hE] at h
      · simpa only [hA,hE,Data.len,controlLen,Bool.false_eq_true,if_false,Nat.add_zero] using hm
      · simp only [hA,hE,txOnStack,hw,controlLen,SPIHD_CONTROL_BYTES]
        simp
        omega

theorem sends_uncopied {buf : Bytes} (h1 : base ≠ SPIHD_CMD_WRDMA) (h2 : base ≠ SPIHD_CMD_RDDMA)
    (hc : coalesces ctl c hasAddr (.tx buf true) lines = false) (hw : txWord32 ctl c buf.length lines = false) :
    Sends ctl c base hasAddr (.tx buf true) lines ↔ Sends ctl c.plain base hasAddr (.tx buf true) lines := by
  obtain ⟨hA,hE⟩ := @register_alone c base (.tx buf true) lines h1 h2
  have ht : txOnStack ctl c (.tx buf true) lines = buf.length := by simp [txOnStack,hw]
  rw [sends_plain]
  simp only [Sends,hc,Bool.false_eq_true,if_false]
  constructor
  · rintro ⟨hf,hl,hs,-,-,hm,htx,hrx⟩
    simp only [hA,hE,ht,controlLen,Bool.false_eq_true,if_false,Nat.add_zero] at hm htx
    exact ⟨hf,hl,hs,hm,htx,hrx⟩
  · rintro ⟨hf,hl,hs,hm,htx,hrx⟩
    refine ⟨hf,hl,hs,(fun h => ?_),(fun h => ?_),?_,?_,hrx⟩
    · simp [hA] at h
    · simp [hE] at h
    · simpa only [hA,hE,controlLen,Bool.false_eq_true,if_false,Nat.add_zero] using hm
    · simp only [hA,hE,ht,controlLen,Bool.false_eq_true,if_false,Nat.add_zero]
      exact htx

theorem sends_register_iff (h1 : base ≠ SPIHD_CMD_WRDMA) (h2 : base ≠ SPIHD_CMD_RDDMA) :
    (Sends ctl c base hasAddr d lines ↔ Sends ctl c.plain base hasAddr d lines) ↔
      RegisterFits ctl c hasAddr d lines := by
  obtain ⟨hA,hE⟩ := @register_alone c base d lines h1 h2
  have h3 := headerLen_le hasAddr
  by_cases hs : d.onStack = 0
  · have hheap : Sends ctl c base hasAddr d lines ↔ Sends ctl c.plain base hasAddr d lines := by
      rw [sends_heap hs]
      simp only [hA,hE,controlLen,Bool.false_eq_true,if_false,Nat.add_zero,false_imp_iff,true_and]
      constructor
      · exact And.left
      · intro h
        exact ⟨h,(sends_plain.mp h).2.2.2.1⟩
    refine ⟨fun _ _ => .inr (.inr (.inr ?_)),fun _ => hheap⟩
    simp only [hs,SPIHD_CONTROL_BYTES]
    omega
  · obtain ⟨buf,rfl⟩ : ∃ buf, d = .tx buf true := by
      cases d with
      | tx buf stack => cases stack <;> simp [Data.onStack] at hs ⊢
      | rx len stack => simp [Data.onStack] at hs
    by_cases hc : coalesces ctl c hasAddr (.tx buf true) lines = true ∨ txWord32 ctl c buf.length lines = true
    · rw [sends_copied h1 h2 hc,sends_plain]
      simp only [RegisterFits,Data.len,Data.isTx,Data.onStack,if_true,rxOnStack]
      constructor
      · intro h _
        by_contra hn
        simp only [not_or,Nat.not_lt,Nat.not_le] at hn
        have := h.mp ⟨hn.1,hn.2.1,hn.2.2.1⟩
        omega
      · intro h
        have hx := h hc
        constructor
        · rintro ⟨hl,hm,hsp⟩
          refine ⟨fun hf => ?_,hl,hsp,hm,by omega,Nat.zero_le _⟩
          rcases hc with hc | hw
          · have h1 := (coalesces_iff.mp hc).2.2.1
            simp [foldWriteDummy,h1] at hf
          · have := (txWord32_iff.mp hw).2.2.2.2.1
            omega
        · rintro ⟨-,hl,hsp,hm,-,-⟩
          exact ⟨hl,hm,hsp⟩
    · have hc' := not_or.mp hc
      simp only [Bool.not_eq_true] at hc'
      exact ⟨fun _ h => absurd h hc,fun _ => sends_uncopied h1 h2 hc'.1 hc'.2⟩

theorem failed_ne {α : Type} {a : Frames} (x : List Clk) (y : Frames) (r : α) :
    ((done ++ a ++ [x] ++ y,some r) : Frames × Option α) ≠ (done,none) := by
  simp

open Classical in
theorem register_same_iff (h1 : base ≠ SPIHD_CMD_WRDMA) (h2 : base ≠ SPIHD_CMD_RDDMA) :
    seen (spihdEnhancedXferLines ctl c dev done base hasAddr addr d lines) =
        seen (spihdEnhancedXferLines ctl c.plain dev done base hasAddr addr d lines) ↔
      RegisterFits ctl c hasAddr d lines := by
  by_cases hl : d.len = 0
  · have hfit : RegisterFits ctl c hasAddr d lines := fun _ => by
      have h3 := headerLen_le hasAddr
      have h0 : d.onStack = 0 := by
        cases d with
        | tx buf stack => cases stack <;> simp_all [Data.onStack,Data.len]
        | rx len stack => rfl
      simp only [h0,SPIHD_CONTROL_BYTES]
      omega
    simp [spihdEnhancedXferLines,hl,hfit]
  · obtain ⟨hA,hE⟩ := @register_alone c base d lines h1 h2
    obtain ⟨-,hA',hE',-⟩ := @plain_parts ctl c base hasAddr d lines
    rw [← sends_register_iff h1 h2,seen_enhanced hl,seen_enhanced hl]
    simp only [ackFrames,endFrames,hA,hE,hA',hE',Bool.false_eq_true,if_false]
    exact ite_eq_ite_iff (failed_ne _ _ _)

/-! A segment with its end. -/

/-- The end command of a combined segment is not slower than the controller goes, or the
data is refused too. -/
def SegmentFits (ctl : Controller) (c : Config) (len wrLines : Nat) : Prop :=
  spihdCombinedWrdma c len wrLines = true → ctl.minSpeedHz ≤ spihdSpeedHz c wrLines true →
    ctl.minSpeedHz ≤ capHz c.speedHz c.sioMaxHz

def segmentFrame (c : Config) (buf : Bytes) (wrLines : Nat) : List Clk :=
  wireHeader c SPIHD_CMD_WRDMA true 0 wrLines true ++ wireData (.tx buf false) wrLines

theorem combinedWrdma_iff {len : Nat} : spihdCombinedWrdma c len lines = true ↔ c.wrdmaBatchEnd = true ∧
    c.forceSioWrend = true ∧ c.qioTxWord32 = true ∧ c.qioAddrSingle = true ∧ lines = 4 ∧ 256 < len ∧ len%4 = 0 := by
  simp [spihdCombinedWrdma,and_assoc]

theorem wrdma_parts {buf : Bytes} {wrLines : Nat} :
    batchesAck c SPIHD_CMD_WRDMA (.tx buf false) wrLines = false ∧
      batchesEnd c SPIHD_CMD_WRDMA (.tx buf false) wrLines = spihdCombinedWrdma c buf.length wrLines := by
  constructor
  · rfl
  · simp [batchesEnd,Data.len,show (SPIHD_CMD_WRDMA == SPIHD_CMD_RDDMA) = false from rfl]

/-- The limits let every segment through, with or without its end. -/
theorem sends_segment (hb : Bound ctl c) {buf : Bytes} {wrLines : Nat} (hl : buf.length ≤ c.txSegmentMax) :
    Sends ctl c SPIHD_CMD_WRDMA true (.tx buf false) wrLines ↔ ctl.minSpeedHz ≤ spihdSpeedHz c wrLines true ∧
      (spihdCombinedWrdma c buf.length wrLines = true → ctl.minSpeedHz ≤ capHz c.speedHz c.sioMaxHz) := by
  obtain ⟨-,-,hmin,htm,hmm⟩ := hb
  obtain ⟨hA,hE⟩ := @wrdma_parts c buf wrLines
  have hend : controlLen (spihdCombinedWrdma c buf.length wrLines) ≤ 3 := by
    unfold controlLen
    split <;> omega
  rw [sends_heap rfl,sends_plain,hA,hE]
  simp only [Data.len,Data.isTx,headerLen,if_true,controlLen,Bool.false_eq_true,if_false,Nat.add_zero,false_imp_iff,
    true_and]
  unfold controlLen at hend
  constructor
  · rintro ⟨⟨-,-,hs,-⟩,he,-⟩
    exact ⟨hs,he⟩
  · rintro ⟨hs,he⟩
    refine ⟨⟨fun _ => by omega,by omega,hs,by omega,?_,Nat.zero_le _⟩,he,by omega⟩
    simp [Data.onStack,SPIHD_CONTROL_BYTES]

theorem bound_control (hb : Bound ctl c) : 3 ≤ ctl.transferMax ∧ 3 ≤ ctl.messageMax := by
  obtain ⟨-,-,hmin,htm,hmm⟩ := hb
  omega

theorem plain_bound (hb : Bound ctl c) : Bound ctl c.plain :=
  ⟨hb.rxTransfer,hb.rxMessage,hb.txSegmentMin,hb.txTransfer,hb.txMessage⟩

open Classical in
theorem seen_segment (hb : Bound ctl c) {buf : Bytes} {wrLines : Nat} (h0 : buf.length ≠ 0)
    (hl : buf.length ≤ c.txSegmentMax) (hc : spihdCombinedWrdma c buf.length wrLines = false) :
    seen (spihdWrdmaSegment ctl c dev done buf wrLines) =
      if ctl.minSpeedHz ≤ spihdSpeedHz c wrLines true then
        if ctl.minSpeedHz ≤ commandHz c (if c.forceSioWrend then 1 else wrLines) then
          (done ++ [segmentFrame c buf wrLines] ++
            [wireHeader c SPIHD_CMD_WR_END true 0 (if c.forceSioWrend then 1 else wrLines) true],some [])
        else (done ++ [segmentFrame c buf wrLines],none)
      else (done,none) := by
  obtain ⟨hA,hE⟩ := @wrdma_parts c buf wrLines
  have hd : (Data.tx buf false).len ≠ 0 := h0
  obtain ⟨h3,h3'⟩ := bound_control hb
  have hs := @sends_segment ctl c hb buf wrLines hl
  simp only [hc,Bool.false_eq_true,false_imp_iff,and_true] at hs
  rw [spihdWrdmaSegment,seen_thenResult,seen_enhanced hd,thenSeen_ite]
  simp only [hs,thenSeen_some,hc,Bool.false_eq_true,if_false,seen_thenResult,seen_ok,ackFrames,endFrames,hA,hE,
    List.append_nil,seen_command h3 h3',thenSeen_ite]
  rfl

open Classical in
theorem seen_combined_segment (hb : Bound ctl c) {buf : Bytes} {wrLines : Nat} (hl : buf.length ≤ c.txSegmentMax)
    (hc : spihdCombinedWrdma c buf.length wrLines = true) :
    seen (spihdWrdmaSegment ctl c dev done buf wrLines) =
      if ctl.minSpeedHz ≤ spihdSpeedHz c wrLines true ∧ ctl.minSpeedHz ≤ capHz c.speedHz c.sioMaxHz then
        (done ++ [segmentFrame c buf wrLines] ++ [controlFrame SPIHD_CMD_WR_END],some [])
      else (done,none) := by
  obtain ⟨hA,hE⟩ := @wrdma_parts c buf wrLines
  have h256 := (combinedWrdma_iff.mp hc).2.2.2.2.2.1
  have h0 : (Data.tx buf false).len ≠ 0 := by
    simp only [Data.len]
    omega
  have hs := @sends_segment ctl c hb buf wrLines hl
  rw [spihdWrdmaSegment,seen_thenResult,seen_enhanced h0,thenSeen_ite]
  simp only [hs,hc,true_imp_iff,thenSeen,if_true,seen_ok,ackFrames,endFrames,hA,hE,Bool.false_eq_true,if_false,
    List.append_nil]
  rfl

open Classical in
theorem segment_same_iff (hb : Bound ctl c) {buf : Bytes} {wrLines : Nat} (hl : buf.length ≤ c.txSegmentMax) :
    seen (spihdWrdmaSegment ctl c dev done buf wrLines) = seen (spihdWrdmaSegment ctl c.plain dev done buf wrLines) ↔
      SegmentFits ctl c buf.length wrLines := by
  have hp : spihdCombinedWrdma c.plain buf.length wrLines = false := by simp [spihdCombinedWrdma,Config.plain]
  by_cases h0 : buf.length = 0
  · have hfit : SegmentFits ctl c 0 wrLines := fun h => by simp [spihdCombinedWrdma] at h
    simp [hfit,spihdWrdmaSegment,spihdEnhancedXferLines,Data.len,h0,thenResult]
  have hplain := @seen_segment ctl c.plain dev done (plain_bound hb) buf wrLines h0 hl hp
  by_cases hc : spihdCombinedWrdma c buf.length wrLines = true
  · rw [seen_combined_segment hb hl hc,hplain]
    have hw : c.plain.forceSioWrend = true := (combinedWrdma_iff.mp hc).2.1
    have hs : spihdSpeedHz c.plain wrLines true = spihdSpeedHz c wrLines true := rfl
    have he : commandHz c.plain 1 = capHz c.speedHz c.sioMaxHz := rfl
    rw [hw,if_pos rfl,hs,he,SegmentFits]
    by_cases h1 : ctl.minSpeedHz ≤ spihdSpeedHz c wrLines true
    · by_cases h2 : ctl.minSpeedHz ≤ capHz c.speedHz c.sioMaxHz
      · simp only [h1,h2,and_self,if_true,hc,true_imp_iff,iff_true]
        rfl
      · simp [h1,h2,hc]
    · simp [h1,hc]
  · rw [Bool.not_eq_true] at hc
    rw [seen_segment hb h0 hl hc,hplain]
    refine ⟨fun _ h => by simp [hc] at h,fun _ => rfl⟩

/-! A receive with its acknowledge and its end. -/

/-- The acknowledge, the data and the end in one message: nine bytes and the data, where the
probe has room for six. -/
def ReceiveFits (ctl : Controller) (c : Config) (pending : Nat) (skb : Bool) : Prop :=
  spihdBatchRxAck c pending (spihdE2hLines c) = true → pending ≤ c.rxLimit →
    ctl.minSpeedHz ≤ capHz c.speedHz c.sioMaxHz → skb = true ∧ (c.appendTx = true ∨ pending+9 ≤ ctl.messageMax)

def rddmaLines (c : Config) (len : Nat) : Nat := if c.forceSioControlE2h ∧ len ≤ 256 then 1 else spihdE2hLines c

def rddmaFrame (c : Config) (len : Nat) : List Clk :=
  wireHeader c SPIHD_CMD_RDDMA true 0 (rddmaLines c len) false ++ wireData (.rx len false) (rddmaLines c len)

def rddmaBytes (c : Config) (dev : Device) (pre : Frames) (len : Nat) : Bytes :=
  received dev pre (wireHeader c SPIHD_CMD_RDDMA true 0 (rddmaLines c len) false) (.rx len false) (rddmaLines c len)

theorem combinedRddma_iff {len : Nat} : spihdCombinedRddma c len lines = true ↔ c.rddmaBatchEnd = true ∧
    c.forceSioControlE2h = true ∧ c.qioRxWord32 = true ∧ lines = 4 ∧ 256 < len ∧ len%4 = 0 := by
  simp [spihdCombinedRddma,and_assoc]

theorem batchRxAck_iff {len : Nat} : spihdBatchRxAck c len lines = true ↔ c.rxBatchControl = true ∧
    (c.appendTx && c.appendNoAck) = false ∧ spihdCombinedRddma c len lines = true := by
  simp only [spihdBatchRxAck,Bool.and_eq_true,Bool.not_eq_true',and_assoc]

theorem rddma_parts {len : Nat} : batchesAck c SPIHD_CMD_RDDMA (.rx len false) lines = spihdBatchRxAck c len lines ∧
    batchesEnd c SPIHD_CMD_RDDMA (.rx len false) lines = (!c.appendTx && spihdCombinedRddma c len lines) := by
  constructor
  · simp [batchesAck,Data.len]
  · simp [batchesEnd,Data.len,show (SPIHD_CMD_RDDMA == SPIHD_CMD_WRDMA) = false from rfl]

theorem rddmaLines_combined {len : Nat} (h : spihdCombinedRddma c len (spihdE2hLines c) = true) :
    rddmaLines c len = spihdE2hLines c ∧ spihdE2hLines c = 4 := by
  obtain ⟨-,-,-,h4,h256,-⟩ := combinedRddma_iff.mp h
  have hn : ¬(c.forceSioControlE2h = true ∧ len ≤ 256) := by omega
  exact ⟨if_neg hn,h4⟩

theorem combined_rddmaLines {len : Nat} :
    spihdCombinedRddma c len (rddmaLines c len) = spihdCombinedRddma c len (spihdE2hLines c) := by
  unfold rddmaLines
  split
  · have h1 : ¬spihdCombinedRddma c len 1 = true := fun h => by simp [combinedRddma_iff] at h
    have h2 : ¬spihdCombinedRddma c len (spihdE2hLines c) = true := fun h => by
      have := (combinedRddma_iff.mp h).2.2.2.2.1
      omega
    simp [h1,h2]
  · rfl

theorem sends_rddma (hb : Bound ctl c) {len : Nat} (hlim : len ≤ c.rxLimit) :
    Sends ctl c SPIHD_CMD_RDDMA true (.rx len false) lines ↔ ctl.minSpeedHz ≤ spihdSpeedHz c lines false ∧
      (spihdBatchRxAck c len lines = true → ctl.minSpeedHz ≤ capHz (spihdSpeedHz c lines false) c.sioMaxHz) ∧
      ((!c.appendTx && spihdCombinedRddma c len lines) = true → ctl.minSpeedHz ≤ capHz c.speedHz c.sioMaxHz) ∧
      3+len+controlLen (spihdBatchRxAck c len lines)+controlLen (!c.appendTx && spihdCombinedRddma c len lines) ≤
        ctl.messageMax := by
  obtain ⟨htm,hmm,-⟩ := hb
  obtain ⟨hA,hE⟩ := @rddma_parts c lines len
  rw [sends_heap rfl,sends_plain,hA,hE]
  simp only [Data.len,Data.isTx,headerLen,if_true]
  constructor
  · rintro ⟨⟨-,-,hs,-⟩,ha,he,hm⟩
    exact ⟨hs,ha,he,hm⟩
  · rintro ⟨hs,ha,he,hm⟩
    refine ⟨⟨(fun h => ?_),by omega,hs,by omega,?_,?_⟩,ha,he,hm⟩
    · simp [foldWriteDummy,Data.isTx] at h
    · simp [Data.onStack,SPIHD_CONTROL_BYTES]
    · simp [rxOnStack]

open Classical in
/-- The data, then its end command unless the firmware appends. -/
theorem seen_rddma (hb : Bound ctl c) {len : Nat} (h0 : len ≠ 0) (hlim : len ≤ c.rxLimit)
    (hc : spihdCombinedRddma c len (spihdE2hLines c) = false) :
    seen (spihdRddma ctl c dev done len) =
      if ctl.minSpeedHz ≤ spihdSpeedHz c (rddmaLines c len) false then
        if c.appendTx = true then (done ++ [rddmaFrame c len],some (rddmaBytes c dev done len))
        else if ctl.minSpeedHz ≤ commandHz c (spihdE2hControlLines c) then
          (done ++ [rddmaFrame c len] ++ [wireHeader c SPIHD_CMD_INT0 true 0 (spihdE2hControlLines c) true],
            some (rddmaBytes c dev done len))
        else (done ++ [rddmaFrame c len],none)
      else (done,none) := by
  have hc' : spihdCombinedRddma c len (rddmaLines c len) = false := combined_rddmaLines.trans hc
  have hB : spihdBatchRxAck c len (rddmaLines c len) = false := by simp [spihdBatchRxAck,hc']
  obtain ⟨hA,hE⟩ := @rddma_parts c (rddmaLines c len) len
  simp only [hB,hc',Bool.and_false] at hA hE
  have hd : (Data.rx len false).len ≠ 0 := h0
  have hmm := hb.rxMessage
  obtain ⟨h3,h3'⟩ := bound_control hb
  have hs : Sends ctl c SPIHD_CMD_RDDMA true (.rx len false) (rddmaLines c len) ↔
      ctl.minSpeedHz ≤ spihdSpeedHz c (rddmaLines c len) false := by
    rw [sends_rddma hb hlim,hB,hc']
    simp only [Bool.and_false,controlLen,Bool.false_eq_true,if_false,false_imp_iff,true_and,Nat.add_zero]
    exact ⟨And.left,fun h => ⟨h,by omega⟩⟩
  have hl : (if c.forceSioControlE2h = true ∧ len ≤ 256 then 1 else spihdE2hLines c) = rddmaLines c len := rfl
  rw [spihdRddma,seen_thenResult]
  simp only [hl]
  rw [seen_enhanced hd,thenSeen_ite]
  simp only [hs,thenSeen_some,hc',Bool.false_eq_true,or_false,ackFrames,endFrames,hA,hE,if_false,List.append_nil]
  by_cases ha : c.appendTx = true
  · simp only [ha,if_true,seen_ok]
    rfl
  · simp only [ha,Bool.false_eq_true,if_false,seen_thenResult,seen_command h3 h3',thenSeen_ite,thenSeen_some,seen_ok]
    rfl

open Classical in
/-- A bulk read with whatever is batched with it. -/
theorem seen_combined_rddma (hb : Bound ctl c) {len : Nat} (hlim : len ≤ c.rxLimit)
    (hc : spihdCombinedRddma c len (spihdE2hLines c) = true) :
    seen (spihdRddma ctl c dev done len) =
      if ctl.minSpeedHz ≤ c.speedHz ∧
          (spihdBatchRxAck c len (spihdE2hLines c) = true ∨ c.appendTx = false →
            ctl.minSpeedHz ≤ capHz c.speedHz c.sioMaxHz) ∧
          3+len+controlLen (spihdBatchRxAck c len (spihdE2hLines c))+controlLen (!c.appendTx) ≤ ctl.messageMax then
        (done ++ (if spihdBatchRxAck c len (spihdE2hLines c) then [controlFrame SPIHD_CMD_INT1] else []) ++
            [rddmaFrame c len] ++ (if c.appendTx then [] else [controlFrame SPIHD_CMD_INT0]),
          some (rddmaBytes c dev
            (done ++ if spihdBatchRxAck c len (spihdE2hLines c) then [controlFrame SPIHD_CMD_INT1] else []) len))
      else (done,none) := by
  obtain ⟨hl,h4⟩ := rddmaLines_combined hc
  have hd : (Data.rx len false).len ≠ 0 := by
    have := (combinedRddma_iff.mp hc).2.2.2.2.1
    simp only [Data.len]
    omega
  obtain ⟨hA,hE⟩ := @rddma_parts c (rddmaLines c len) len
  rw [hl] at hA hE
  rw [hc,Bool.and_true] at hE
  have hspeed : spihdSpeedHz c (spihdE2hLines c) false = c.speedHz := by simp [spihdSpeedHz,h4]
  have hs : Sends ctl c SPIHD_CMD_RDDMA true (.rx len false) (rddmaLines c len) ↔ ctl.minSpeedHz ≤ c.speedHz ∧
      (spihdBatchRxAck c len (spihdE2hLines c) = true ∨ c.appendTx = false →
        ctl.minSpeedHz ≤ capHz c.speedHz c.sioMaxHz) ∧
      3+len+controlLen (spihdBatchRxAck c len (spihdE2hLines c))+controlLen (!c.appendTx) ≤ ctl.messageMax := by
    rw [sends_rddma hb hlim,hl,hspeed,hc,Bool.and_true,or_imp,Bool.not_eq_true']
    simp only [and_assoc]
  rw [hl] at hs
  have hl' : (if c.forceSioControlE2h = true ∧ len ≤ 256 then 1 else spihdE2hLines c) = rddmaLines c len := rfl
  rw [spihdRddma,seen_thenResult]
  simp only [hl']
  rw [seen_enhanced hd,thenSeen_ite]
  simp only [hs,thenSeen_some,hl,hc,or_true,if_true,seen_ok,ackFrames,endFrames,hA,hE,rddmaFrame,rddmaBytes]
  cases c.appendTx <;> rfl

theorem plain_combined {len : Nat} : spihdCombinedRddma c.plain len lines = false ∧
    spihdBatchRxAck c.plain len lines = false := by
  simp [spihdBatchRxAck,spihdCombinedRddma,Config.plain]

theorem capHz_le (hz cap : Nat) : capHz hz cap ≤ hz := by
  unfold capHz
  split <;> omega

theorem control_lines (h : c.forceSioControlE2h = true) :
    spihdE2hControlLines c = 1 ∧ commandHz c 1 = capHz c.speedHz c.sioMaxHz :=
  ⟨if_pos h,if_pos rfl⟩

open Classical in
theorem rddma_same (hb : Bound ctl c) {len : Nat} (h0 : len ≠ 0) (hlim : len ≤ c.rxLimit)
    (hB : spihdBatchRxAck c len (spihdE2hLines c) = false)
    (hend : c.forceSioControlE2h = true → c.appendTx = false → ctl.minSpeedHz ≤ capHz c.speedHz c.sioMaxHz) :
    seen (spihdRddma ctl c dev done len) = seen (spihdRddma ctl c.plain dev done len) := by
  have hp := @seen_rddma ctl c.plain dev done (plain_bound hb) len h0 hlim plain_combined.1
  have hs : spihdSpeedHz c.plain (rddmaLines c.plain len) false = spihdSpeedHz c (rddmaLines c len) false := rfl
  have hcl : spihdE2hControlLines c.plain = spihdE2hControlLines c := rfl
  have hcm : commandHz c.plain (spihdE2hControlLines c) = commandHz c (spihdE2hControlLines c) := rfl
  by_cases hc : spihdCombinedRddma c len (spihdE2hLines c) = true
  · obtain ⟨hl,h4⟩ := rddmaLines_combined hc
    obtain ⟨hcl1,hcm1⟩ := control_lines (combinedRddma_iff.mp hc).2.1
    have hend := hend (combinedRddma_iff.mp hc).2.1
    have hmm := hb.rxMessage
    have hspeed : spihdSpeedHz c (spihdE2hLines c) false = c.speedHz := by simp [spihdSpeedHz,h4]
    rw [seen_combined_rddma hb hlim hc,hp,hs,hcl,hcm,hl,hspeed,hB,hcl1,hcm1]
    have hm : 3+len+controlLen false+controlLen (!c.appendTx) ≤ ctl.messageMax := by
      simp only [controlLen,Bool.false_eq_true,if_false]
      split <;> omega
    cases ha : c.appendTx with
    | true =>
      have ha' : c.plain.appendTx = true := ha
      rw [ha] at hm
      simp only [Bool.false_eq_true,Bool.true_eq_false,or_self,false_imp_iff,hm,and_true,ha',if_true,if_false,
        List.append_nil]
      rfl
    | false =>
      have ha' : ¬c.plain.appendTx = true := by simp [Config.plain,ha]
      rw [ha] at hm
      simp only [Bool.false_eq_true,or_true,true_imp_iff,hend ha,hm,and_true,ha',if_true,if_false,List.append_nil]
      rfl
  · rw [Bool.not_eq_true] at hc
    rw [seen_rddma hb h0 hlim hc,hp]
    rfl

theorem receive_plain_ack {status : UInt32} {pending : Nat} :
    (spihdRxAckRequired c.plain status pending ∧
        ¬(spihdBatchRxAck c.plain pending (spihdE2hLines c.plain) ∧ pending ≤ c.plain.rxLimit)) ↔
      spihdRxAckRequired c status pending = true := by
  simp only [plain_combined.2,Bool.false_eq_true,false_and,not_false_iff,and_true]
  rfl

theorem ackRequired_of {status : UInt32} {pending : Nat} (h : (c.appendTx && c.appendNoAck) = false) :
    spihdRxAckRequired c status pending = true := by
  simp only [spihdRxAckRequired,h,Bool.false_and,Bool.not_false]

theorem rddma_total {pending : Nat} (hm : pending+6 ≤ ctl.messageMax) :
    3+pending+controlLen true+controlLen (!c.appendTx) ≤ ctl.messageMax ↔
      c.appendTx = true ∨ pending+9 ≤ ctl.messageMax := by
  cases c.appendTx <;> simp [controlLen] <;> omega

def receiveFrames (c : Config) (pending : Nat) : Frames :=
  [controlFrame SPIHD_CMD_INT1] ++ [rddmaFrame c pending] ++ (if c.appendTx then [] else [controlFrame SPIHD_CMD_INT0])

open Classical in
theorem seen_batched_receive (hb : Bound ctl c) {status : UInt32} {pending : Nat} {skb : Bool}
    (hB : spihdBatchRxAck c pending (spihdE2hLines c) = true) (hlim : pending ≤ c.rxLimit) :
    seen (spihdReceiveOne ctl c dev done status pending skb) =
      if skb = true ∧ ctl.minSpeedHz ≤ capHz c.speedHz c.sioMaxHz ∧
          (c.appendTx = true ∨ pending+9 ≤ ctl.messageMax) then
        (done ++ receiveFrames c pending,some (rddmaBytes c dev (done ++ [controlFrame SPIHD_CMD_INT1]) pending))
      else (done,none) := by
  have hc := (batchRxAck_iff.mp hB).2.2
  have h256 := (combinedRddma_iff.mp hc).2.2.2.2.1
  have hn : ¬c.rxLimit < pending := by omega
  have h0 : pending ≠ 0 := by omega
  have hno : ¬(spihdRxAckRequired c status pending = true ∧
      ¬(spihdBatchRxAck c pending (spihdE2hLines c) = true ∧ pending ≤ c.rxLimit)) := fun h => h.2 ⟨hB,hlim⟩
  rw [spihdReceiveOne,if_neg hno,seen_thenResult,seen_ok,thenSeen_some,if_neg h0,if_neg hn]
  cases skb with
  | false => rfl
  | true =>
    have hle := capHz_le c.speedHz c.sioMaxHz
    have hm := hb.rxMessage
    have ht := @rddma_total ctl c pending (by omega)
    rw [if_pos rfl,seen_combined_rddma hb hlim hc,hB]
    simp only [ht,true_or,true_imp_iff,if_true,true_and,receiveFrames,List.append_assoc]
    exact if_congr ⟨And.right,fun h => ⟨by omega,h⟩⟩ rfl rfl

open Classical in
theorem seen_plain_receive (hb : Bound ctl c) {status : UInt32} {pending : Nat} {skb : Bool}
    (hB : spihdBatchRxAck c pending (spihdE2hLines c) = true) (hlim : pending ≤ c.rxLimit) :
    seen (spihdReceiveOne ctl c.plain dev done status pending skb) =
      if ctl.minSpeedHz ≤ capHz c.speedHz c.sioMaxHz then
        if skb = true then
          (done ++ receiveFrames c pending,some (rddmaBytes c dev (done ++ [controlFrame SPIHD_CMD_INT1]) pending))
        else (done ++ [controlFrame SPIHD_CMD_INT1],none)
      else (done,none) := by
  obtain ⟨-,hnoack,hc⟩ := batchRxAck_iff.mp hB
  obtain ⟨-,hforce,-,h4,h256,-⟩ := combinedRddma_iff.mp hc
  obtain ⟨hl,-⟩ := rddmaLines_combined hc
  obtain ⟨hcl,hcm⟩ : spihdE2hControlLines c.plain = 1 ∧ commandHz c.plain 1 = capHz c.speedHz c.sioMaxHz :=
    control_lines hforce
  obtain ⟨h3,h3'⟩ := bound_control hb
  have h0 : pending ≠ 0 := by omega
  have hn : ¬c.plain.rxLimit < pending := Nat.not_lt.mpr hlim
  have hspeed : spihdSpeedHz c (spihdE2hLines c) false = c.speedHz := by simp [spihdSpeedHz,h4]
  have hs : spihdSpeedHz c.plain (rddmaLines c.plain pending) false = c.speedHz := (congrArg
    (fun l => spihdSpeedHz c l false) hl).trans hspeed
  have hle := capHz_le c.speedHz c.sioMaxHz
  rw [spihdReceiveOne,if_pos (receive_plain_ack.mpr (ackRequired_of hnoack)),seen_thenResult,hcl,seen_command h3 h3',
    thenSeen_ite,hcm,thenSeen_some,if_neg h0,if_neg hn]
  by_cases hz : ctl.minSpeedHz ≤ capHz c.speedHz c.sioMaxHz
  · have hz' : ctl.minSpeedHz ≤ c.speedHz := by omega
    rw [if_pos hz,if_pos hz]
    cases skb with
    | false => rfl
    | true =>
      rw [if_pos rfl,if_pos rfl,seen_rddma (plain_bound hb) h0 hlim plain_combined.1,hs,if_pos hz',hcl,hcm,if_pos hz]
      have hpa : c.plain.appendTx = c.appendTx := rfl
      rw [hpa,receiveFrames]
      cases c.appendTx <;>
        simp only [Bool.false_eq_true,if_false,if_true,List.append_nil,List.append_assoc] <;> rfl
  · rw [if_neg hz,if_neg hz]

/-- A bulk read that carries its own acknowledge. -/
theorem receive_batched_iff (hb : Bound ctl c) {status : UInt32} {pending : Nat} {skb : Bool}
    (hB : spihdBatchRxAck c pending (spihdE2hLines c) = true) (hlim : pending ≤ c.rxLimit) :
    seen (spihdReceiveOne ctl c dev done status pending skb) =
        seen (spihdReceiveOne ctl c.plain dev done status pending skb) ↔
      ReceiveFits ctl c pending skb := by
  rw [seen_batched_receive hb hB hlim,seen_plain_receive hb hB hlim]
  simp only [ReceiveFits,hB,hlim,true_imp_iff]
  by_cases hz : ctl.minSpeedHz ≤ capHz c.speedHz c.sioMaxHz
  · by_cases ht : c.appendTx = true ∨ pending+9 ≤ ctl.messageMax
    · cases skb <;> simp [hz,ht]
    · cases skb <;> simp [hz,ht,receiveFrames]
  · simp [hz]

theorem receive_rest (hb : Bound ctl c) (status : UInt32) {pending : Nat} {skb : Bool}
    (hB : ¬(spihdBatchRxAck c pending (spihdE2hLines c) = true ∧ pending ≤ c.rxLimit))
    (hend : c.forceSioControlE2h = true → c.appendTx = false → ctl.minSpeedHz ≤ capHz c.speedHz c.sioMaxHz) :
    seen (if pending = 0 then (if status ≠ 0 then (done,.ok []) else (done,.error .again))
      else if c.rxLimit < pending then (done,.error .msgsize)
      else if skb then spihdRddma ctl c dev done pending else (done,.error .nomem)) =
    seen (if pending = 0 then (if status ≠ 0 then (done,.ok []) else (done,.error .again))
      else if c.plain.rxLimit < pending then (done,.error .msgsize)
      else if skb then spihdRddma ctl c.plain dev done pending else (done,.error .nomem)) := by
  by_cases h0 : pending = 0
  · rw [if_pos h0,if_pos h0]
  by_cases hlim : c.rxLimit < pending
  · have hlim' : c.plain.rxLimit < pending := hlim
    rw [if_neg h0,if_neg h0,if_pos hlim,if_pos hlim']
  · have hlim' : ¬c.plain.rxLimit < pending := hlim
    have hB' : spihdBatchRxAck c pending (spihdE2hLines c) = false := by
      rw [← Bool.not_eq_true]
      exact fun h => hB ⟨h,Nat.not_lt.mp hlim⟩
    rw [if_neg h0,if_neg h0,if_neg hlim,if_neg hlim']
    cases skb with
    | false => rfl
    | true => exact rddma_same hb h0 (Nat.not_lt.mp hlim) hB' hend

/-- A bulk read without its acknowledge: the acknowledge goes first, and the end only after an acknowledge that was
let through. -/
theorem receive_separate (hb : Bound ctl c) {status : UInt32} {pending : Nat} {skb : Bool}
    (hB : ¬(spihdBatchRxAck c pending (spihdE2hLines c) = true ∧ pending ≤ c.rxLimit)) :
    seen (spihdReceiveOne ctl c dev done status pending skb) =
      seen (spihdReceiveOne ctl c.plain dev done status pending skb) := by
  obtain ⟨h3,h3'⟩ := bound_control hb
  by_cases hack : spihdRxAckRequired c status pending = true
  · rw [spihdReceiveOne,if_pos ⟨hack,hB⟩,spihdReceiveOne,if_pos (receive_plain_ack.mpr hack),seen_thenResult,
      seen_thenResult,seen_command h3 h3',seen_command h3 h3',thenSeen_ite,thenSeen_ite,thenSeen_some,thenSeen_some]
    have hcm : commandHz c.plain (spihdE2hControlLines c.plain) = commandHz c (spihdE2hControlLines c) := rfl
    rw [hcm]
    by_cases hz : ctl.minSpeedHz ≤ commandHz c (spihdE2hControlLines c)
    · rw [if_pos hz,if_pos hz]
      refine receive_rest hb status hB fun hforce _ => ?_
      obtain ⟨hcl,hcm1⟩ := control_lines hforce
      rwa [hcl,hcm1] at hz
    · rw [if_neg hz,if_neg hz]
  · have hno : ¬(spihdRxAckRequired c status pending = true ∧
        ¬(spihdBatchRxAck c pending (spihdE2hLines c) = true ∧ pending ≤ c.rxLimit)) := fun h => hack h.1
    rw [spihdReceiveOne,if_neg hno,spihdReceiveOne,if_neg (fun h => hack (receive_plain_ack.mp h)),seen_thenResult,
      seen_thenResult,seen_ok,thenSeen_some,thenSeen_some]
    refine receive_rest hb status hB fun _ ha => absurd (ackRequired_of ?_) hack
    rw [ha,Bool.false_and]

/-! Every operation. -/

def Op.Fits (ctl : Controller) (c : Config) : Op → Prop
  | .register _ hasAddr _ d lines => RegisterFits ctl c hasAddr d lines
  | .segment buf wrLines => SegmentFits ctl c buf.length wrLines
  | .receive _ pending skb => ReceiveFits ctl c pending skb

theorem perform_same_iff (hb : Bound ctl c) {op : Op} (ho : op.Proper c) :
    seen (perform ctl c dev done op) = seen (perform ctl c.plain dev done op) ↔ op.Fits ctl c := by
  cases op with
  | register base hasAddr addr d lines => exact register_same_iff ho.1 ho.2
  | segment buf wrLines => exact segment_same_iff hb ho
  | receive status pending skb =>
    by_cases hB : spihdBatchRxAck c pending (spihdE2hLines c) = true ∧ pending ≤ c.rxLimit
    · exact receive_batched_iff hb hB.1 hB.2
    · exact ⟨fun _ h1 h2 => absurd ⟨h1,h2⟩ hB,fun _ => receive_separate hb hB⟩

/-- All fast paths at once, with firmware batches of up to `limit` bytes. -/
def fastConfig (limit : Nat) : Config :=
  {coalesce := true, qioTxWord32 := true, qioRxWord32 := true, wrdmaBatchEnd := true, rddmaBatchEnd := true,
   rxBatchControl := true, forceSioWrend := true, qioAddrSingle := true, dataLines := 4, speedHz := 40000000,
   rxLimit := limit, txSegmentMax := 3200}

theorem perform_same_wide :
    seen (perform ⟨65535,65535,0,true,true,true⟩ (fastConfig 6400) (fun _ _ => 0) [] (.receive 0 6400 true)) =
      seen (perform ⟨65535,65535,0,true,true,true⟩ (fastConfig 6400).plain (fun _ _ => 0) [] (.receive 0 6400 true)) := by
  have ho : Op.Proper (fastConfig 6400) (.receive 0 6400 true) := trivial
  exact (perform_same_iff ⟨by decide,by decide,by decide,by decide,by decide⟩ ho).mpr
    fun _ _ _ => ⟨rfl,.inr (by decide)⟩

/-- A batch that fits with its end but not with its acknowledge too is never read. -/
theorem batched_receive_refused : ∃ ctl c op, Bound ctl c ∧ op.Proper c ∧
    seen (perform ctl c (fun _ _ => 0) [] op) = ([],none) ∧
    (seen (perform ctl c.plain (fun _ _ => 0) [] op)).1 = receiveFrames c 4088 ∧
    seen (perform ctl c (fun _ _ => 0) [] op) ≠ seen (perform ctl c.plain (fun _ _ => 0) [] op) := by
  have hb : Bound ⟨4096,4096,0,true,true,true⟩ (fastConfig 4090) := ⟨by decide,by decide,by decide,by decide,by decide⟩
  have hB : spihdBatchRxAck (fastConfig 4090) 4088 (spihdE2hLines (fastConfig 4090)) = true := by decide
  have hlim : 4088 ≤ (fastConfig 4090).rxLimit := by decide
  have hfast := @seen_batched_receive _ _ (fun _ _ => 0) [] hb 0 _ true hB hlim
  have hslow := @seen_plain_receive _ _ (fun _ _ => 0) [] hb 0 _ true hB hlim
  rw [if_neg (by decide)] at hfast
  rw [if_pos (by decide),if_pos rfl] at hslow
  refine ⟨_,_,.receive 0 4088 true,hb,trivial,hfast,?_,?_⟩
  · exact congrArg Prod.fst hslow
  · intro h
    have := hfast.symm.trans (h.trans hslow)
    simp at this

end EspHosted.SpiHdWire
