import EspHosted.SpiHdCredit
import EspHosted.SpiHdReceive

/-!
The mirrored transmit length of SPI-HD: `spi_hd_cb_tx_ready` of `main/spi_hd_slave_api.c`,
built with `CONFIG_ESP_SPI_HD_TX_LEN_MIRROR`, against `spihd_read_tx_len_mirrored` of
`host/spi_hd/esp_spi_hd.c`. A step is one word store of the firmware or one byte of a
register read of the host; `len p` is the length of batch `p`.
-/

set_option autoImplicit false

namespace EspHosted.SpiHd
open EspHosted Run Torn Word

/-- `s_tx_ready_bytes` after a batch: the length, the interrupt bits and the tag. -/
def spiHdTxReadyWord (w : UInt32) (len : Nat) : UInt32 :=
  let intMask := w &&& ~~~SPIHD_TX_BUF_LEN_MASK
  let intMask := (intMask &&& (0x03000000 : UInt32)) |||
    ((intMask+(0x04000000 : UInt32)) &&& (0xFC000000 : UInt32))
  (((w &&& SPIHD_TX_BUF_LEN_MASK)+UInt32.ofNat len) &&& SPIHD_TX_BUF_LEN_MASK) ||| intMask

inductive StoreStage where
  | idle
  | wroteLen
  | wroteHigh
  deriving DecidableEq, Repr

/-- The host in `spihd_read_tx_len_mirrored`. `since`, `a0` and `b0` are the publications begun
when the read, and each of the two reads of the stable read, was started. -/
inductive MirrorPc where
  | idle
  | copies (got : List UInt8) (since : Nat)
  | first (got : List UInt8) (a0 : Nat)
  | again (a : List UInt8) (left : Nat) (got : List UInt8) (a0 b0 : Nat)
  /-- The call has returned 0, with `upTo` publications begun. -/
  | accepted (value : UInt32) (upTo : Nat)
  deriving DecidableEq, Repr

structure MirrorState where
  ready : UInt32 := 0
  /-- `SPI_HD_REG_TX_BUF_LEN` and the two words at `SPI_HD_REG_TX_LEN_MIRROR`. -/
  txBufLen : UInt32 := 0
  low : UInt32 := 0
  high : UInt32 := 0
  stage : StoreStage := .idle
  pc : MirrorPc := .idle
  rxByteCount : UInt32 := 0
  /-- Publications begun, and those that have reached each copy. -/
  begun : Nat := 0
  highAt : Nat := 0
  lowAt : Nat := 0
  /-- Publications that had reached both copies when the call was made. -/
  known : Nat := 0
  consumed : Nat := 0
  deriving DecidableEq, Repr

inductive MirrorAct where
  /-- The next word store of `spi_hd_cb_tx_ready`. -/
  | store
  | read
  | byte
  | readFailed
  /-- The rest of `spihd_receive_one`, and whether the RDDMA succeeds. -/
  | receive (rxLimit : Nat) (ok : Bool)
  deriving DecidableEq, Repr

def spiHdCbTxReady (len : Nat → Nat) (s : MirrorState) : MirrorState :=
  match s.stage with
  | .idle =>
    let ready := spiHdTxReadyWord s.ready (len s.begun)
    {s with ready := ready, txBufLen := ready &&& (0x03FFFFFF : UInt32), stage := .wroteLen, begun := s.begun+1}
  | .wroteLen => {s with high := s.ready, stage := .wroteHigh, highAt := s.begun}
  | .wroteHigh => {s with low := s.ready, stage := .idle, lowAt := s.begun}

/-- Byte `i` of the frame that reads both copies. -/
def MirrorState.copyByte (s : MirrorState) (i : Nat) : UInt8 := if i < 4 then byte s.low i else byte s.high (i-4)

def mirrorByte (s : MirrorState) : Option MirrorState :=
  match s.pc with
  | .copies got since =>
    let next := got ++ [s.copyByte got.length]
    if got.length < 7 then some {s with pc := .copies next since}
    else if next.take 4 = next.drop 4 then some {s with pc := .accepted (spihdGetLe32 (next.take 4)) s.begun}
    else some {s with pc := .first [] s.begun}
  | .first got a0 =>
    let next := got ++ [byte s.txBufLen got.length]
    if got.length < 3 then some {s with pc := .first next a0} else some {s with pc := .again next 2 [] a0 s.begun}
  | .again a left got a0 b0 =>
    let next := got ++ [byte s.txBufLen got.length]
    if got.length < 3 then some {s with pc := .again a left next a0 b0}
    else if a = next then some {s with pc := .accepted (spihdGetLe32 next) s.begun}
    else
      match left with
      | 0 => some {s with pc := .idle}
      | left+1 => some {s with pc := .again next left [] b0 s.begun}
  | _ => none

def pendingBytes (value rxByteCount : UInt32) : Nat :=
  (((value &&& SPIHD_TX_BUF_LEN_MASK)-rxByteCount) &&& SPIHD_TX_BUF_LEN_MASK).toNat

def mirrorReceive (s : MirrorState) (value : UInt32) (rxLimit : Nat) (ok : Bool) : MirrorState :=
  let pending := pendingBytes value s.rxByteCount
  if pending = 0 ∨ rxLimit < pending ∨ ok = false then {s with pc := .idle}
  else {s with pc := .idle, rxByteCount := (s.rxByteCount+UInt32.ofNat pending) &&& SPIHD_TX_BUF_LEN_MASK,
               consumed := s.consumed+pending}

def mirrorStep (len : Nat → Nat) (s : MirrorState) : MirrorAct → Option MirrorState
  | .store => some (spiHdCbTxReady len s)
  | .read =>
    match s.pc with
    | .idle => some {s with pc := .copies [] s.begun, known := s.lowAt}
    | _ => none
  | .byte => mirrorByte s
  | .readFailed =>
    match s.pc with
    | .copies _ _ => some {s with pc := .idle}
    | .first _ _ => some {s with pc := .idle}
    | .again _ _ _ _ _ => some {s with pc := .idle}
    | _ => none
  | .receive rxLimit ok =>
    match s.pc with
    | .accepted value _ => some (mirrorReceive s value rxLimit ok)
    | _ => none

/-! What is published. -/

def wordAfter (len : Nat → Nat) : Nat → UInt32
  | 0 => 0
  | p+1 => spiHdTxReadyWord (wordAfter len p) (len p)

/-- The unmirrored register after `p` publications. -/
def regAfter (len : Nat → Nat) (p : Nat) : UInt32 := wordAfter len p &&& (0x03FFFFFF : UInt32)

def bytesAfter (len : Nat → Nat) : Nat → Nat
  | 0 => 0
  | p+1 => bytesAfter len p+len p

theorem lenMask_toNat (w : UInt32) : (w &&& SPIHD_TX_BUF_LEN_MASK).toNat = w.toNat%2^24 := by
  rw [UInt32.toNat_and,show SPIHD_TX_BUF_LEN_MASK.toNat = 2^24-1 from rfl,Nat.and_two_pow_sub_one_eq_mod]

theorem spiHdTxReadyWord_toNat (w : UInt32) (len : Nat) :
    (spiHdTxReadyWord w len).toNat =
      (w.toNat+len)%2^24+w.toNat/2^24%4*2^24+(w.toNat/2^26+1)%64*2^26 := by
  have hw := w.toNat_lt
  have hi : (w &&& ~~~SPIHD_TX_BUF_LEN_MASK).toNat = w.toNat/2^24%2^8*2^24 := by
    rw [UInt32.toNat_and,show (~~~SPIHD_TX_BUF_LEN_MASK).toNat = (2^8-1)*2^24 from rfl,and_mask]
  have hint (m : UInt32) : (m &&& (0x03000000 : UInt32)).toNat = m.toNat/2^24%2^2*2^24 := by
    rw [UInt32.toNat_and,show (0x03000000 : UInt32).toNat = (2^2-1)*2^24 from rfl,and_mask]
  have htag (m : UInt32) : (m &&& (0xFC000000 : UInt32)).toNat = m.toNat/2^26%2^6*2^26 := by
    rw [UInt32.toNat_and,show (0xFC000000 : UInt32).toNat = (2^6-1)*2^26 from rfl,and_mask]
  have hmask : ((w &&& ~~~SPIHD_TX_BUF_LEN_MASK) &&& (0x03000000 : UInt32) |||
      ((w &&& ~~~SPIHD_TX_BUF_LEN_MASK)+(0x04000000 : UInt32)) &&& (0xFC000000 : UInt32)).toNat =
      (w.toNat/2^24%4+(w.toNat/2^26+1)%64*2^2)*2^24 := by
    rw [UInt32.toNat_or,hint,htag,UInt32.toNat_add,hi,show (0x04000000 : UInt32).toNat = 2^26 from rfl,
      or_add 26 (by omega)]
    omega
  rw [spiHdTxReadyWord,UInt32.toNat_or,hmask,count_rxByteCount,lenMask_toNat,or_add 24 (Nat.mod_lt _ (by decide))]
  omega

theorem wordAfter_toNat (len : Nat → Nat) (p : Nat) :
    (wordAfter len p).toNat = bytesAfter len p%2^24+p%64*2^26 := by
  induction p with
  | zero => rfl
  | succ p ih =>
    rw [wordAfter,spiHdTxReadyWord_toNat,ih,bytesAfter]
    omega

theorem regAfter_toNat (len : Nat → Nat) (p : Nat) : (regAfter len p).toNat = bytesAfter len p%2^24 := by
  rw [regAfter,UInt32.toNat_and,show (0x03FFFFFF : UInt32).toNat = 2^26-1 from rfl,
    Nat.and_two_pow_sub_one_eq_mod,wordAfter_toNat]
  omega

theorem bytesAfter_mono (len : Nat → Nat) {p q : Nat} (h : p ≤ q) : bytesAfter len p ≤ bytesAfter len q := by
  induction h with
  | refl => exact Nat.le_refl _
  | step _ ih => exact Nat.le_trans ih (Nat.le_add_right _ _)

/-! Reads. -/

variable {len : Nat → Nat}

/-- Equal copies: fewer than 64 publications apart, the tags keep old and new words apart. -/
theorem copies_whole {lo m hi : Nat} {got : List UInt8} (hl : Snap (wordAfter len) lo m got)
    (hh : Snap (wordAfter len) m hi got) (h4 : got.length = 4) (hw : hi ≤ lo+64) :
    ∃ p, lo ≤ p ∧ p ≤ hi ∧ spihdGetLe32 got = wordAfter len p := by
  obtain _ | ⟨b0,_ | ⟨b1,_ | ⟨b2,_ | ⟨b3,_ | ⟨b4,got⟩⟩⟩⟩⟩ := got
  all_goals simp at h4
  obtain ⟨c0,c1,c2,c3,h0,h1,h2,h3,hm,rfl,rfl,rfl,rfl⟩ := hl.word
  obtain ⟨d0,d1,d2,d3,g0,g1,g2,g3,gm,e0,e1,e2,e3⟩ := hh.word
  have htag : c3%64 = d3%64 := by
    have h := congrArg UInt8.toNat e3
    rw [byte_toNat _ (by decide),byte_toNat _ (by decide),wordAfter_toNat,wordAfter_toNat] at h
    omega
  by_cases hd : d3 = c3
  · obtain rfl : d0 = c3 := by omega
    obtain rfl : d1 = d0 := by omega
    obtain rfl : d2 = d1 := by omega
    refine ⟨d2,by omega,by omega,?_⟩
    rw [spihdGetLe32]
    simp only [List.getD_cons_zero,List.getD_cons_succ]
    rw [e0,e1,e2,word_byte]
  · obtain rfl : c3 = lo := by omega
    obtain rfl : c0 = c3 := by omega
    obtain rfl : c1 = c0 := by omega
    obtain rfl : c2 = c1 := by omega
    exact ⟨c2,by omega,by omega,word_byte _⟩

theorem byte_regAfter {p i : Nat} (hi : i < 3) : (byte (regAfter len p) i).toNat = bytesAfter len p/256^i%256 := by
  rw [byte_toNat _ (by omega),regAfter_toNat]
  obtain rfl | rfl | rfl : i = 0 ∨ i = 1 ∨ i = 2 := by omega
  all_goals omega

theorem byte_regAfter_top (p : Nat) : byte (regAfter len p) 3 = 0 := by
  apply UInt8.toNat_inj.mp
  rw [byte_toNat _ (by decide),regAfter_toNat]
  show _ = 0
  omega

theorem stable_count {n0 n1 n2 m0 m1 : Nat} (h0 : n0 ≤ n1) (h1 : n1 ≤ n2) (h2 : n2 ≤ m0) (h3 : m0 ≤ m1)
    (e0 : n0%256 = m0%256) (e1 : n1/256%256 = m1/256%256) (hw : m1 < n1+65281) :
    (n0 = n1 ∧ n0 = n2) ∨ (n1/256 = m0/256 ∧ n2/256 = m0/256) := by
  by_cases hn : n0 = m0
  · omega
  · have hq : m1/256 = n1/256 := by omega
    omega

/-- Equal reads of the unmirrored register need a whole turn of the second byte to be torn. -/
theorem stable_whole {a0 b0 hi : Nat} {got : List UInt8} (ha : Snap (regAfter len) a0 b0 got)
    (hb : Snap (regAfter len) b0 hi got) (h4 : got.length = 4)
    (hw : bytesAfter len hi < bytesAfter len a0+65281) :
    ∃ p, a0 ≤ p ∧ p ≤ hi ∧ spihdGetLe32 got = regAfter len p := by
  obtain _ | ⟨x0,_ | ⟨x1,_ | ⟨x2,_ | ⟨x3,_ | ⟨x4,got⟩⟩⟩⟩⟩ := got
  all_goals simp at h4
  obtain ⟨c0,c1,c2,c3,h0,h1,h2,h3,hm,rfl,rfl,rfl,rfl⟩ := ha.word
  obtain ⟨d0,d1,d2,d3,g0,g1,g2,g3,gm,e0,e1,-,-⟩ := hb.word
  have k0 := bytesAfter_mono len h0
  have k1 := bytesAfter_mono len h1
  have k5 := bytesAfter_mono len (Nat.le_trans g2 (Nat.le_trans g3 gm))
  have f0 := congrArg UInt8.toNat e0
  have f1 := congrArg UInt8.toNat e1
  rw [byte_regAfter (by decide),byte_regAfter (by decide)] at f0 f1
  have hv (p : Nat) (q0 : bytesAfter len c0%256 = bytesAfter len p%256)
      (q1 : bytesAfter len c1/256 = bytesAfter len p/256) (q2 : bytesAfter len c2/256 = bytesAfter len p/256) :
      spihdGetLe32 [byte (regAfter len c0) 0,byte (regAfter len c1) 1,byte (regAfter len c2) 2,
        byte (regAfter len c3) 3] = regAfter len p := by
    have b0 : byte (regAfter len c0) 0 = byte (regAfter len p) 0 := by
      apply UInt8.toNat_inj.mp
      rw [byte_regAfter (by decide),byte_regAfter (by decide)]
      simpa using q0
    have b1 : byte (regAfter len c1) 1 = byte (regAfter len p) 1 := by
      apply UInt8.toNat_inj.mp
      rw [byte_regAfter (by decide),byte_regAfter (by decide),Nat.pow_one,q1]
    have b2 : byte (regAfter len c2) 2 = byte (regAfter len p) 2 := by
      apply UInt8.toNat_inj.mp
      rw [byte_regAfter (by decide),byte_regAfter (by decide),Nat.pow_two,← Nat.div_div_eq_div_mul,
        ← Nat.div_div_eq_div_mul,q2]
    rw [b0,b1,b2,byte_regAfter_top c3,← byte_regAfter_top p]
    exact word_byte _
  have hs := stable_count k1 (bytesAfter_mono len h2) (bytesAfter_mono len (Nat.le_trans h3 (Nat.le_trans hm g0)))
    (bytesAfter_mono len g1) (by simpa using f0) (by simpa using f1) (by omega)
  rcases hs with ⟨hs1,hs2⟩ | ⟨hs1,hs2⟩
  · exact ⟨c0,by omega,by omega,hv c0 rfl (by rw [hs1]) (by rw [hs2])⟩
  · exact ⟨d0,by omega,by omega,hv d0 (by simpa using f0) hs1 hs2⟩

/-! The invariant. -/

/-- What the bytes of the reads in progress are, and what has been published since they began;
nothing older than the call is read. -/
def MirrorState.PcOk (len : Nat → Nat) (s : MirrorState) : Prop :=
  match s.pc with
  | .idle => True
  | .copies got since => ∃ lo m, s.known ≤ lo ∧ since ≤ lo+1 ∧ lo ≤ m ∧ m ≤ s.lowAt ∧ s.begun ≤ since+63 ∧ got.length ≤ 7 ∧
      Snap (wordAfter len) lo m (got.take 4) ∧ Snap (wordAfter len) m s.highAt (got.drop 4)
  | .first got a0 => s.known ≤ a0 ∧ a0 ≤ s.begun ∧ bytesAfter len s.begun < bytesAfter len a0+65281 ∧ got.length ≤ 3 ∧
      Snap (regAfter len) a0 s.begun got
  | .again a _ got a0 b0 => s.known ≤ a0 ∧ a0 ≤ b0 ∧ b0 ≤ s.begun ∧ bytesAfter len s.begun < bytesAfter len a0+65281 ∧
      a.length = 4 ∧ got.length ≤ 3 ∧ Snap (regAfter len) a0 b0 a ∧ Snap (regAfter len) b0 s.begun got
  | .accepted value upTo =>
    ∃ p, s.known ≤ p ∧ p ≤ upTo ∧ upTo ≤ s.begun ∧ (value = wordAfter len p ∨ value = regAfter len p)

structure MirrorInv (len : Nat → Nat) (s : MirrorState) : Prop where
  ready : s.ready = wordAfter len s.begun
  reg : s.txBufLen = regAfter len s.begun
  high : s.high = wordAfter len s.highAt
  low : s.low = wordAfter len s.lowAt
  order : s.lowAt ≤ s.highAt ∧ s.highAt ≤ s.begun ∧ s.begun ≤ s.lowAt+1
  stage : s.stage = .idle → s.lowAt = s.begun
  stageHigh : s.stage = .wroteHigh → s.highAt = s.begun
  counted : s.rxByteCount.toNat = s.consumed%2^24
  known : s.known ≤ s.lowAt
  taken : s.consumed ≤ bytesAfter len s.lowAt
  takenKnown : s.pc ≠ .idle → s.consumed ≤ bytesAfter len s.known
  pcOk : s.PcOk len

/-- What the read in progress allows to be published after `begun` publications. -/
def FewSince (len : Nat → Nat) (begun : Nat) : MirrorPc → Prop
  | .copies _ since => begun+1 ≤ since+63
  | .first _ a0 => bytesAfter len (begun+1) < bytesAfter len a0+65281
  | .again _ _ _ a0 _ => bytesAfter len (begun+1) < bytesAfter len a0+65281
  | .idle => True
  | .accepted _ _ => True

instance FewSince.decide (len : Nat → Nat) (begun : Nat) : ∀ pc, Decidable (FewSince len begun pc)
  | .copies _ since => inferInstanceAs (Decidable (begun+1 ≤ since+63))
  | .first _ a0 => inferInstanceAs (Decidable (bytesAfter len (begun+1) < bytesAfter len a0+65281))
  | .again _ _ _ a0 _ => inferInstanceAs (Decidable (bytesAfter len (begun+1) < bytesAfter len a0+65281))
  | .idle => inferInstanceAs (Decidable True)
  | .accepted _ _ => inferInstanceAs (Decidable True)

/-- At most 63 publications begin during one read of the copies, and fewer than 65281 bytes are
published during two reads of the stable read that are compared. -/
def FewDuring (len : Nat → Nat) (s : MirrorState) (a : MirrorAct) : Prop :=
  a = .store → s.stage = .idle → FewSince len s.begun s.pc

instance (len : Nat → Nat) (s : MirrorState) (a : MirrorAct) : Decidable (FewDuring len s a) :=
  inferInstanceAs (Decidable (_ → _ → _))

def MirrorPc.upTo : MirrorPc → Nat
  | .accepted _ upTo => upTo
  | _ => 0

/-- The publication that was going on when the length was accepted has made its three stores
by the time the RDDMA is through. -/
def StoresDone (s : MirrorState) : MirrorAct → Prop
  | .receive _ true => s.pc.upTo ≤ s.lowAt
  | _ => True

instance (s : MirrorState) : ∀ a, Decidable (StoresDone s a)
  | .receive _ true => inferInstanceAs (Decidable (_ ≤ _))
  | .receive _ false => isTrue trivial
  | .store => isTrue trivial
  | .read => isTrue trivial
  | .byte => isTrue trivial
  | .readFailed => isTrue trivial

def MirrorOk (len : Nat → Nat) (s : MirrorState) (a : MirrorAct) : Prop := FewDuring len s a ∧ StoresDone s a

instance (len : Nat → Nat) (s : MirrorState) (a : MirrorAct) : Decidable (MirrorOk len s a) :=
  inferInstanceAs (Decidable (_ ∧ _))

theorem mirrorInv_start (len : Nat → Nat) : MirrorInv len {} where
  ready := rfl
  reg := by simp [regAfter,wordAfter]
  high := rfl
  low := rfl
  order := ⟨Nat.le_refl 0,Nat.le_refl 0,Nat.zero_le _⟩
  stage := fun _ => rfl
  stageHigh := fun h => by cases h
  counted := rfl
  known := Nat.le_refl 0
  taken := Nat.le_refl 0
  takenKnown := fun _ => Nat.le_refl 0
  pcOk := trivial

variable {s s' : MirrorState}

theorem MirrorInv.goto (h : MirrorInv len s) (hcall : s.pc ≠ .idle) {pc : MirrorPc}
    (hp : {s with pc := pc}.PcOk len) : MirrorInv len {s with pc := pc} :=
  ⟨h.ready,h.reg,h.high,h.low,h.order,h.stage,h.stageHigh,h.counted,h.known,h.taken,
    fun _ => h.takenKnown hcall,hp⟩

theorem MirrorInv.store (h : MirrorInv len s) (hf : FewDuring len s .store) :
    MirrorInv len (spiHdCbTxReady len s) := by
  have hord := h.order
  have hp := h.pcOk
  unfold spiHdCbTxReady
  cases hst : s.stage with
  | idle =>
    have hfew := hf rfl hst
    have hidle := h.stage hst
    have hr : spiHdTxReadyWord s.ready (len s.begun) = wordAfter len (s.begun+1) := by
      rw [h.ready]
      rfl
    refine ⟨hr,?_,h.high,h.low,⟨hord.1,?_,?_⟩,(fun he => by cases he),(fun he => by cases he),h.counted,
      h.known,h.taken,h.takenKnown,?_⟩
    · simp only [hr]
      rfl
    · simp only
      omega
    · simp only
      omega
    · unfold MirrorState.PcOk at hp ⊢
      simp only
      cases hpc : s.pc with
      | idle => trivial
      | copies got since =>
        simp only [hpc,FewSince] at hp hfew ⊢
        obtain ⟨lo,m,h0,h1,h2,h3,h4,h5,h6,h7⟩ := hp
        exact ⟨lo,m,h0,h1,h2,h3,hfew,h5,h6,h7⟩
      | first got a0 =>
        simp only [hpc,FewSince] at hp hfew ⊢
        obtain ⟨h0,h1,h2,h3,h4⟩ := hp
        exact ⟨h0,Nat.le_succ_of_le h1,hfew,h3,h4.mono (Nat.le_succ _)⟩
      | again a left got a0 b0 =>
        simp only [hpc,FewSince] at hp hfew ⊢
        obtain ⟨h0,h1,h2,h3,h4,h5,h6,h7⟩ := hp
        exact ⟨h0,h1,Nat.le_succ_of_le h2,hfew,h4,h5,h6,h7.mono (Nat.le_succ _)⟩
      | accepted value upTo =>
        simp only [hpc] at hp ⊢
        obtain ⟨p,h1,h2,h3,h4⟩ := hp
        exact ⟨p,h1,h2,Nat.le_succ_of_le h3,h4⟩
  | wroteLen =>
    refine ⟨h.ready,h.reg,h.ready,h.low,⟨?_,Nat.le_refl _,hord.2.2⟩,(fun he => by cases he),fun _ => rfl,h.counted,
      h.known,h.taken,h.takenKnown,?_⟩
    · simp only
      omega
    · unfold MirrorState.PcOk at hp ⊢
      simp only
      cases hpc : s.pc with
      | copies got since =>
        simp only [hpc] at hp ⊢
        obtain ⟨lo,m,h0,h1,h2,h3,h4,h5,h6,h7⟩ := hp
        exact ⟨lo,m,h0,h1,h2,h3,h4,h5,h6,h7.mono hord.2.1⟩
      | idle => trivial
      | _ => simpa [hpc] using hp
  | wroteHigh =>
    have hhigh := h.stageHigh hst
    have hlow : s.lowAt ≤ s.begun := Nat.le_trans hord.1 hord.2.1
    refine ⟨h.ready,h.reg,h.high,h.ready,⟨?_,hord.2.1,Nat.le_succ _⟩,fun _ => rfl,(fun he => by cases he),h.counted,
      Nat.le_trans h.known hlow,Nat.le_trans h.taken (bytesAfter_mono len hlow),h.takenKnown,?_⟩
    · simp only
      omega
    · unfold MirrorState.PcOk at hp ⊢
      simp only
      cases hpc : s.pc with
      | copies got since =>
        simp only [hpc] at hp ⊢
        obtain ⟨lo,m,h0,h1,h2,h3,h4,h5,h6,h7⟩ := hp
        exact ⟨lo,m,h0,h1,h2,by omega,h4,h5,h6,h7⟩
      | idle => trivial
      | _ => simpa [hpc] using hp

theorem MirrorInv.byte (h : MirrorInv len s) (hb : mirrorByte s = some s') : MirrorInv len s' := by
  have hp := h.pcOk
  have hord := h.order
  unfold mirrorByte at hb
  unfold MirrorState.PcOk at hp
  cases hpc : s.pc with
  | idle => simp [hpc] at hb
  | accepted value upTo => simp [hpc] at hb
  | copies got since =>
    have hcall : s.pc ≠ .idle := by simp [hpc]
    simp only [hpc] at hb hp
    obtain ⟨lo,m,h0,h1,h2,h3,h4,h5,h6,h7⟩ := hp
    -- the new byte belongs to the low copy up to the fourth, then to the high one
    have hnext : ∃ m', lo ≤ m' ∧ m' ≤ s.lowAt ∧
        Snap (wordAfter len) lo m' ((got ++ [s.copyByte got.length]).take 4) ∧
        Snap (wordAfter len) m' s.highAt ((got ++ [s.copyByte got.length]).drop 4) := by
      by_cases hl : got.length < 4
      · refine ⟨s.lowAt,by omega,Nat.le_refl _,?_,?_⟩
        · rw [List.take_of_length_le (by simp; omega),MirrorState.copyByte,if_pos hl,h.low]
          rw [List.take_of_length_le (by omega)] at h6
          exact (h6.mono h3).snoc (by omega)
        · rw [List.drop_of_length_le (by simp; omega)]
          exact snap_nil
      · refine ⟨m,h2,h3,?_,?_⟩
        · rw [List.take_append_of_le_length (by omega)]
          exact h6
        · rw [List.drop_append_of_le_length (by omega),MirrorState.copyByte,if_neg hl,h.high]
          have hs := h7.snoc (by omega)
          rwa [List.length_drop] at hs
    obtain ⟨m',n1,n2,n3,n4⟩ := hnext
    split at hb
    · cases hb
      exact h.goto hcall ⟨lo,m',h0,h1,n1,n2,h4,by simp; omega,n3,n4⟩
    · have hlen : got.length = 7 := by omega
      split at hb
      · next heq =>
        cases hb
        rw [← heq] at n4
        have hl4 : ((got ++ [s.copyByte got.length]).take 4).length = 4 := by simp; omega
        obtain ⟨p,hp0,hp1,hp2⟩ := copies_whole n3 n4 hl4 (by omega)
        exact h.goto hcall ⟨p,Nat.le_trans h0 hp0,by omega,Nat.le_refl _,.inl hp2⟩
      · cases hb
        refine h.goto hcall ⟨?_,Nat.le_refl _,by simp only; omega,by simp,snap_nil⟩
        exact Nat.le_trans h.known (Nat.le_trans hord.1 hord.2.1)
  | first got a0 =>
    have hcall : s.pc ≠ .idle := by simp [hpc]
    simp only [hpc] at hb hp
    obtain ⟨h0,h1,h2,h3,h4⟩ := hp
    have hs := h4.snoc h1
    rw [← h.reg] at hs
    split at hb
    · cases hb
      exact h.goto hcall ⟨h0,h1,h2,by simp; omega,hs⟩
    · cases hb
      exact h.goto hcall ⟨h0,h1,Nat.le_refl _,h2,by simp; omega,by simp,hs,snap_nil⟩
  | again a left got a0 b0 =>
    have hcall : s.pc ≠ .idle := by simp [hpc]
    simp only [hpc] at hb hp
    obtain ⟨h0,h1,h2,h3,h4,h5,h6,h7⟩ := hp
    have hs := h7.snoc h2
    rw [← h.reg] at hs
    split at hb
    · cases hb
      exact h.goto hcall ⟨h0,h1,h2,h3,h4,by simp; omega,h6,hs⟩
    · split at hb
      · next heq =>
        cases hb
        rw [heq] at h6
        obtain ⟨p,hp0,hp1,hp2⟩ := stable_whole h6 hs (by simp; omega) h3
        exact h.goto hcall ⟨p,Nat.le_trans h0 hp0,hp1,Nat.le_refl _,.inr hp2⟩
      · cases left with
        | zero =>
          cases hb
          exact h.goto hcall trivial
        | succ left =>
          cases hb
          have hm := bytesAfter_mono len h1
          exact h.goto hcall ⟨Nat.le_trans h0 h1,h2,Nat.le_refl _,by simp only; omega,by simp; omega,by simp,hs,snap_nil⟩

theorem pendingBytes_eq {value c : UInt32} (hc : c.toNat < 2^24) :
    (pendingBytes value c : Int) = ((value.toNat : Int)-c.toNat)%2^24 := by
  rw [pendingBytes,lenMask_toNat,UInt32.toNat_sub,lenMask_toNat]
  omega

theorem published_fields (len : Nat → Nat) (p : Nat) :
    wordAfter len p &&& SPIHD_TX_BUF_LEN_MASK = UInt32.ofNat (bytesAfter len p%2^24) ∧
      wordAfter len p &&& SPIHD_INT_MASK = 0 ∧
      regAfter len p = UInt32.ofNat (bytesAfter len p%2^24) := by
  refine ⟨?_,?_,?_⟩
  · apply UInt32.toNat_inj.mp
    rw [lenMask_toNat,wordAfter_toNat,UInt32.toNat_ofNat']
    omega
  · apply UInt32.toNat_inj.mp
    rw [UInt32.toNat_and,show SPIHD_INT_MASK.toNat = (2^2-1)*2^24 from rfl,and_mask,wordAfter_toNat]
    show _ = 0
    omega
  · apply UInt32.toNat_inj.mp
    rw [regAfter_toNat,UInt32.toNat_ofNat']
    omega

theorem accepted_fields {value : UInt32} {p : Nat} (h : value = wordAfter len p ∨ value = regAfter len p) :
    value.toNat%2^24 = bytesAfter len p%2^24 ∧ value &&& SPIHD_INT_MASK = 0 := by
  rcases h with rfl | rfl
  · refine ⟨?_,(published_fields len p).2.1⟩
    rw [wordAfter_toNat]
    omega
  · refine ⟨by rw [regAfter_toNat]; omega,?_⟩
    apply UInt32.toNat_inj.mp
    rw [UInt32.toNat_and,show SPIHD_INT_MASK.toNat = (2^2-1)*2^24 from rfl,and_mask,regAfter_toNat]
    show _ = 0
    omega

theorem MirrorInv.accepted (h : MirrorInv len s) {value : UInt32} {upTo : Nat} (hpc : s.pc = .accepted value upTo) :
    ∃ p, s.known ≤ p ∧ p ≤ upTo ∧ upTo ≤ s.begun ∧ (value = wordAfter len p ∨ value = regAfter len p) ∧
      s.consumed ≤ bytesAfter len p ∧
      (pendingBytes value s.rxByteCount : Int) = ((bytesAfter len p : Int)-s.consumed)%2^24 ∧
      value &&& SPIHD_INT_MASK = 0 := by
  have hp := h.pcOk
  unfold MirrorState.PcOk at hp
  simp only [hpc] at hp
  obtain ⟨p,hk,hu,hb,hw⟩ := hp
  obtain ⟨hval,hint⟩ := accepted_fields hw
  have hc := h.counted
  have hpend : (pendingBytes value s.rxByteCount : Int) = ((bytesAfter len p : Int)-s.consumed)%2^24 := by
    rw [pendingBytes_eq (by omega)]
    omega
  have htaken := Nat.le_trans (h.takenKnown (by simp [hpc])) (bytesAfter_mono len hk)
  exact ⟨p,hk,hu,hb,hw,htaken,hpend,hint⟩

theorem mirrorInv_step (s : MirrorState) (a : MirrorAct) (s' : MirrorState) (h : MirrorInv len s)
    (hf : MirrorOk len s a) (hs : mirrorStep len s a = some s') : MirrorInv len s' := by
  cases a with
  | store =>
    cases hs
    exact h.store hf.1
  | read =>
    simp only [mirrorStep] at hs
    split at hs
    · cases hs
      exact ⟨h.ready,h.reg,h.high,h.low,h.order,h.stage,h.stageHigh,h.counted,Nat.le_refl _,h.taken,fun _ => h.taken,
        s.lowAt,s.lowAt,Nat.le_refl _,h.order.2.2,Nat.le_refl _,Nat.le_refl _,Nat.le_add_right _ _,by simp,
        snap_nil,snap_nil⟩
    · cases hs
  | byte => exact h.byte hs
  | readFailed =>
    simp only [mirrorStep] at hs
    split at hs <;> cases hs
    all_goals exact h.goto (by simp [*]) trivial
  | receive rxLimit ok =>
    simp only [mirrorStep] at hs
    split at hs
    · next value upTo hpc =>
      cases hs
      have hcall : s.pc ≠ .idle := by simp [hpc]
      simp only [mirrorReceive]
      split
      · exact h.goto hcall trivial
      · next hgo =>
        obtain ⟨p,-,hp,-,-,hle,hpend,-⟩ := h.accepted hpc
        have hok : ok = true := by
          cases ok with
          | true => rfl
          | false => exact absurd (.inr (.inr rfl)) hgo
        have hset : upTo ≤ s.lowAt := by
          have hf2 := hf.2
          rw [hok] at hf2
          simpa [StoresDone,hpc,MirrorPc.upTo] using hf2
        have htaken : s.consumed+pendingBytes value s.rxByteCount ≤ bytesAfter len s.lowAt := by
          have hmono := bytesAfter_mono len (Nat.le_trans hp hset)
          omega
        refine ⟨h.ready,h.reg,h.high,h.low,h.order,h.stage,h.stageHigh,?_,h.known,htaken,fun hi => absurd rfl hi,trivial⟩
        simp only
        rw [count_rxByteCount,h.counted,Nat.mod_add_mod]
    · cases hs

/-- What the host accepts was published and is not older than the call, and what it takes as
pending is what it has not consumed. -/
theorem mirrored_reads_sound (len : Nat → Nat) {as : List MirrorAct} {s : MirrorState}
    (hf : Along (mirrorStep len) (MirrorOk len) {} as) (hs : exec (mirrorStep len) {} as = some s) :
    (∀ value upTo, s.pc = .accepted value upTo → ∃ p, s.known ≤ p ∧ p ≤ s.begun ∧
      (value = wordAfter len p ∨ value = regAfter len p) ∧ value &&& SPIHD_INT_MASK = 0 ∧
      s.consumed ≤ bytesAfter len p ∧
      (pendingBytes value s.rxByteCount : Int) = ((bytesAfter len p : Int)-s.consumed)%2^24 ∧
      (bytesAfter len p < s.consumed+2^24 → pendingBytes value s.rxByteCount = bytesAfter len p-s.consumed)) ∧
    s.consumed ≤ bytesAfter len s.lowAt ∧ s.rxByteCount.toNat = s.consumed%2^24 ∧
    ∀ p, wordAfter len p &&& SPIHD_TX_BUF_LEN_MASK = UInt32.ofNat (bytesAfter len p%2^24) ∧
      wordAfter len p &&& SPIHD_INT_MASK = 0 ∧ regAfter len p = UInt32.ofNat (bytesAfter len p%2^24) := by
  have h := exec_invariant_along mirrorInv_step hf (mirrorInv_start len) hs
  refine ⟨fun value upTo hv => ?_,h.taken,h.counted,published_fields len⟩
  obtain ⟨p,hk,hu,hb,hw,htaken,hpend,hint⟩ := h.accepted hv
  exact ⟨p,hk,Nat.le_trans hu hb,hw,hint,htaken,hpend,fun hlt => by omega⟩

def publication : List MirrorAct := List.replicate 3 .store

def publications (n : Nat) : List MirrorAct := (List.replicate n publication).flatten

/-- A read of both copies that meets one publication, and the stable read after it. -/
def quietRun : List MirrorAct :=
  List.flatten [publication,[.read],List.replicate 4 .byte,publication,List.replicate 12 .byte,[.receive 6400 true],
    publication,[.read],List.replicate 8 .byte]

theorem mirrored_reads_sound_quiet :
    ∃ s, exec (mirrorStep fun _ => 3200) {} quietRun = some s ∧ s.pc = .accepted 201336192 3 ∧
      s.consumed = 6400 ∧ s.rxByteCount.toNat = s.consumed%2^24 ∧
      ∃ p, s.known ≤ p ∧ p ≤ s.begun ∧ (pendingBytes 201336192 s.rxByteCount : Int) =
        ((bytesAfter (fun _ => 3200) p : Int)-s.consumed)%2^24 := by
  have hf : Along (mirrorStep fun _ => 3200) (MirrorOk fun _ => 3200) {} quietRun := by decide +kernel
  have he : (exec (mirrorStep fun _ => 3200) {} quietRun).map (fun s => (s.pc,s.consumed)) =
      some (.accepted 201336192 3,6400) := by decide +kernel
  obtain ⟨s,hs,hc⟩ := Option.map_eq_some_iff.mp he
  obtain ⟨hpc,hcons⟩ := Prod.mk.inj hc
  have h := mirrored_reads_sound (fun _ => 3200) hf hs
  obtain ⟨p,hk,hp,-,-,-,hpend,-⟩ := h.1 _ _ hpc
  exact ⟨s,hs,hpc,hcons,h.2.2.1,p,hk,hp,hpend⟩

/-- Batches that bring the length to 0x80fc, 0x8108, past 0x10000, to 0x180fc and to 0x18108. -/
def carryLens (p : Nat) : Nat :=
  if p = 10 then 1020 else if p = 11 then 12 else if p = 32 then 1524 else if p = 33 then 12 else 3200

/-- One publication during the read of the copies, 33 during the stable read that follows. -/
def carryReads : List MirrorAct :=
  List.flatten [[.read],List.replicate 4 .byte,publication,List.replicate 4 .byte,publications 10,[.byte],
    publication,[.byte],publications 11,[.byte,.byte],publications 10,[.byte],publication,[.byte,.byte,.byte]]

/-- The second publication has reached only the unmirrored register when the host takes its
length from there, reads the bytes and looks at the copies again. -/
def staleReads : List MirrorAct :=
  List.flatten [[.store,.read],List.replicate 4 .byte,[.store],List.replicate 4 .byte,[.store,.store],
    List.replicate 8 .byte,[.receive 6400 true,.read],List.replicate 8 .byte]

/-- With 34 publications in the whole call the stable read accepts 0x181fc, which was never published;
2^24 bytes that wait are pending as none; and copies older than what has been consumed are pending
as nearly 2^24. -/
theorem mirrored_fallback_torn :
    (∃ s, exec (mirrorStep carryLens) {} carryReads = some s ∧ s.begun < 64 ∧ (∀ p, carryLens p ≤ 3200) ∧
      ∃ value upTo, s.pc = .accepted value upTo ∧
        ∀ p, p ≤ s.begun → value ≠ wordAfter carryLens p ∧ value ≠ regAfter carryLens p) ∧
    pendingBytes (wordAfter (fun _ => 4096) 4096) 0 ≠ bytesAfter (fun _ => 4096) 4096 ∧
    (∃ s, exec (mirrorStep fun _ => 3200) {} staleReads = some s ∧ s.begun = 2 ∧
      s.consumed = bytesAfter (fun _ => 3200) s.begun ∧
      ∃ value upTo, s.pc = .accepted value upTo ∧ pendingBytes value s.rxByteCount = 16774016) := by
  refine ⟨?_,?_,?_⟩
  · have he : (exec (mirrorStep carryLens) {} carryReads).map (fun s => (s.pc,s.begun)) =
        some (.accepted 0x181fc 34,34) := by decide +kernel
    obtain ⟨s,hs,hc⟩ := Option.map_eq_some_iff.mp he
    obtain ⟨hpc,hb⟩ := Prod.mk.inj hc
    refine ⟨s,hs,by omega,fun p => ?_,_,_,hpc,fun p hp => ?_⟩
    · unfold carryLens
      split
      · omega
      · split
        · omega
        · split
          · omega
          · split <;> omega
    · have hall : ∀ p ∈ List.range 35, (0x181fc : UInt32) ≠ wordAfter carryLens p ∧
          (0x181fc : UInt32) ≠ regAfter carryLens p := by decide +kernel
      exact hall p (List.mem_range.mpr (by omega))
  · have hb : ∀ p, bytesAfter (fun _ => 4096) p = 4096*p := by
      intro p
      induction p with
      | zero => rfl
      | succ p ih => rw [bytesAfter,ih]; omega
    have hw := wordAfter_toNat (fun _ => 4096) 4096
    have hp : (pendingBytes (wordAfter (fun _ => 4096) 4096) 0 : Int) = _ := pendingBytes_eq (by decide)
    rw [hw,hb] at hp
    rw [hb]
    have h0 : ((0 : UInt32).toNat : Int) = 0 := rfl
    rw [h0] at hp
    omega
  · have he : (exec (mirrorStep fun _ => 3200) {} staleReads).map (fun s =>
        (s.pc,s.begun,s.consumed,s.rxByteCount)) =
        some (.accepted 0x4000c80 2,2,6400,6400) := by decide +kernel
    obtain ⟨s,hs,hc⟩ := Option.map_eq_some_iff.mp he
    obtain ⟨hpc,hc⟩ := Prod.mk.inj hc
    obtain ⟨hb,hc⟩ := Prod.mk.inj hc
    obtain ⟨hcons,hrx⟩ := Prod.mk.inj hc
    refine ⟨s,hs,hb,?_,_,_,hpc,?_⟩
    · rw [hcons,hb]
      rfl
    · rw [hrx]
      decide +kernel

end EspHosted.SpiHd
