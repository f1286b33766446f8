import Mathlib.Algebra.BigOperators.Intervals
import EspHosted.SpiReboot
import EspHosted.Lib.Word

/-!
`compute_checksum` of `include/adapter.h`, which both sides use on every frame. The memory
is a function from addresses to bytes; `be` says how a word is loaded from it.
-/

set_option autoImplicit false

namespace EspHosted.Checksum
open EspHosted Word

variable (be : Bool) (mem : Nat → UInt8)

/-- `memcpy(&word, buf, sizeof(word))` -/
def loadWord (buf : Nat) : UInt32 :=
  if be then word (mem (buf+3)) (mem (buf+2)) (mem (buf+1)) (mem buf)
  else word (mem buf) (mem (buf+1)) (mem (buf+2)) (mem (buf+3))

/-- `while (len && ((unsigned long)buf & 3))`: the length, the address and the sum after it. -/
def sumHead : Nat → Nat → UInt32 → Nat × Nat × UInt32
  | 0,buf,checksum => (0,buf,checksum)
  | len+1,buf,checksum =>
    if buf &&& 3 ≠ 0 then sumHead len (buf+1) (checksum+(mem buf).toUInt32) else (len+1,buf,checksum)

/-- `while (words--)` -/
def sumWords : Nat → Nat → UInt32 → UInt32
  | 0,_,pairs => pairs
  | words+1,buf,pairs =>
    let w := loadWord be mem buf
    sumWords words (buf+4) (pairs+((w &&& (0x00ff00ff : UInt32))+((w >>> 8) &&& (0x00ff00ff : UInt32))))

/-- `while (len >= 4)` -/
def sumBlocks (len buf : Nat) (checksum : UInt32) : Nat × Nat × UInt32 :=
  if 4 ≤ len then
    let words := if 64 < len/4 then 64 else len/4
    let pairs := sumWords be mem words buf 0
    sumBlocks (len-words*4) (buf+words*4) (checksum+((pairs &&& (0xffff : UInt32))+(pairs >>> 16)))
  else (len,buf,checksum)
termination_by len
decreasing_by split <;> omega

/-- `while (len--)` -/
def sumTail : Nat → Nat → UInt32 → UInt32
  | 0,_,checksum => checksum
  | len+1,buf,checksum => sumTail len (buf+1) (checksum+(mem buf).toUInt32)

def computeChecksum (buf len : Nat) : UInt16 :=
  let (len,buf,checksum) := sumHead mem len buf 0
  let (len,buf,checksum) := sumBlocks be mem len buf checksum
  (sumTail mem len buf checksum).toUInt16

/-- The plain sum of `len` bytes. -/
def total (buf len : Nat) : Nat := ∑ i ∈ Finset.range len, (mem (buf+i)).toNat

theorem total_add (buf n m : Nat) : total mem buf (n+m) = total mem buf n+total mem (buf+n) m := by
  simp [total,Finset.sum_range_add,Nat.add_assoc]

@[simp] theorem total_zero (buf : Nat) : total mem buf 0 = 0 := by simp [total]

theorem total_one (buf : Nat) : total mem buf 1 = (mem buf).toNat := by simp [total]

theorem total_succ (buf len : Nat) : total mem buf (len+1) = (mem buf).toNat+total mem (buf+1) len := by
  rw [Nat.add_comm len 1,total_add,total_one]

theorem total_four (buf : Nat) :
    total mem buf 4 = (mem buf).toNat+(mem (buf+1)).toNat+(mem (buf+2)).toNat+(mem (buf+3)).toNat := by
  simp [total,Finset.sum_range_succ]

/-! The lanes. -/

theorem loadWord_lanes (buf : Nat) :
    ∃ lo hi, lo ≤ 510 ∧ hi ≤ 510 ∧ lo+hi = total mem buf 4 ∧
      (even (loadWord be mem buf)).toNat+(even (loadWord be mem buf >>> 8)).toNat = lo+hi*2^16 := by
  have h (i : Nat) : (mem i).toNat ≤ 255 := Nat.le_of_lt_succ (mem i).toNat_lt
  have h0 := h buf
  have h1 := h (buf+1)
  have h2 := h (buf+2)
  have h3 := h (buf+3)
  rw [total_four,even_toNat,even_shift_toNat]
  cases be with
  | false =>
    obtain ⟨e0,e1,e2,e3⟩ := word_eq_iff.mp (rfl : _ = loadWord false mem buf)
    refine ⟨(mem buf).toNat+(mem (buf+1)).toNat,(mem (buf+2)).toNat+(mem (buf+3)).toNat,?_,?_,?_,?_⟩
    · omega
    · omega
    · omega
    · rw [← e0,← e1,← e2,← e3]
      omega
  | true =>
    obtain ⟨e0,e1,e2,e3⟩ := word_eq_iff.mp (rfl : _ = loadWord true mem buf)
    refine ⟨(mem (buf+2)).toNat+(mem (buf+3)).toNat,(mem buf).toNat+(mem (buf+1)).toNat,?_,?_,?_,?_⟩
    · omega
    · omega
    · omega
    · rw [← e0,← e1,← e2,← e3]
      omega

theorem sumWords_lanes (words : Nat) : ∀ (buf : Nat) (pairs : UInt32) (lo hi : Nat),
    pairs.toNat = lo+hi*2^16 → lo+510*words < 2^16 → hi+510*words < 2^16 →
    ∃ lo' hi', lo' ≤ lo+510*words ∧ hi' ≤ hi+510*words ∧ lo'+hi' = lo+hi+total mem buf (4*words) ∧
      (sumWords be mem words buf pairs).toNat = lo'+hi'*2^16 := by
  induction words with
  | zero =>
    intro buf pairs lo hi hp _ _
    exact ⟨lo,hi,Nat.le_refl _,Nat.le_refl _,by simp,hp⟩
  | succ words ih =>
    intro buf pairs lo hi hp hlo hhi
    obtain ⟨l,h,hl,hh,ht,he⟩ := loadWord_lanes be mem buf
    have hsum : (pairs+(even (loadWord be mem buf)+even (loadWord be mem buf >>> 8))).toNat =
        lo+l+(hi+h)*2^16 := by
      rw [UInt32.toNat_add,UInt32.toNat_add,he,hp]
      omega
    obtain ⟨lo',hi',h1,h2,h3,h4⟩ := ih (buf+4) _ (lo+l) (hi+h) hsum (by omega) (by omega)
    refine ⟨lo',hi',by omega,by omega,?_,h4⟩
    rw [show 4*(words+1) = 4+4*words by omega,total_add,h3]
    omega

theorem sumWords_block {words : Nat} (h : words ≤ 64) (buf : Nat) :
    ∃ lo hi, lo < 2^16 ∧ hi < 2^16 ∧ lo+hi = total mem buf (4*words) ∧
      (sumWords be mem words buf 0).toNat = lo+hi*2^16 := by
  obtain ⟨lo,hi,h1,h2,h3,h4⟩ :=
    sumWords_lanes be mem words buf 0 0 0 rfl (by omega) (by omega)
  exact ⟨lo,hi,by omega,by omega,by omega,h4⟩

theorem fold_eq {words : Nat} (h : words ≤ 64) (buf : Nat) :
    let pairs := sumWords be mem words buf 0
    (pairs &&& (0xffff : UInt32))+(pairs >>> (16 : UInt32)) = UInt32.ofNat (total mem buf (words*4)) := by
  intro pairs
  obtain ⟨lo,hi,hlo,hhi,ht,hp⟩ := sumWords_block be mem h buf
  have hand : (pairs &&& (0xffff : UInt32)).toNat = lo := by
    rw [UInt32.toNat_and,hp,show (0xffff : UInt32).toNat = 2^16-1 from rfl,
      Nat.and_two_pow_sub_one_eq_mod]
    omega
  have hshift : (pairs >>> 16).toNat = hi := by
    rw [UInt32.toNat_shiftRight,hp,Nat.shiftRight_eq_div_pow]
    show (lo+hi*2^16)/2^16 = hi
    omega
  apply UInt32.toNat_inj.mp
  rw [UInt32.toNat_add,hand,hshift,UInt32.toNat_ofNat',Nat.mul_comm words 4,← ht]

/-! The loops. -/

theorem toUInt32_eq (b : UInt8) : b.toUInt32 = UInt32.ofNat b.toNat := by
  apply UInt32.toNat_inj.mp
  simp

theorem sumHead_spec : ∀ (len buf : Nat) (c : UInt32),
    let r := sumHead mem len buf c
    ∃ n, len = n+r.1 ∧ r.2.1 = buf+n ∧ r.2.2 = c+UInt32.ofNat (total mem buf n) := by
  intro len
  induction len with
  | zero => intro buf c; exact ⟨0,by simp [sumHead],by simp [sumHead],by simp [sumHead]⟩
  | succ len ih =>
    intro buf c
    by_cases h : buf &&& 3 ≠ 0
    · obtain ⟨n,h1,h2,h3⟩ := ih (buf+1) (c+(mem buf).toUInt32)
      refine ⟨n+1,?_,?_,?_⟩
      · simp only [sumHead,if_pos h]
        omega
      · simp only [sumHead,if_pos h]
        omega
      · simp only [sumHead,if_pos h]
        rw [h3,total_succ,UInt32.ofNat_add,toUInt32_eq,UInt32.add_assoc]
    · exact ⟨0,by simp [sumHead,if_neg h],by simp [sumHead,if_neg h],by simp [sumHead,if_neg h]⟩

theorem sumBlocks_spec (len buf : Nat) (c : UInt32) :
    let r := sumBlocks be mem len buf c
    ∃ n, len = n+r.1 ∧ r.2.1 = buf+n ∧ r.2.2 = c+UInt32.ofNat (total mem buf n) := by
  fun_induction sumBlocks be mem len buf c with
  | case1 len buf c h words pairs ih =>
    have hw : words ≤ 64 ∧ words*4 ≤ len := by
      simp only [words]
      split <;> omega
    obtain ⟨n,h1,h2,h3⟩ := ih
    refine ⟨words*4+n,by omega,by omega,?_⟩
    rw [h3,fold_eq be mem hw.1 buf,total_add,UInt32.ofNat_add,UInt32.add_assoc]
  | case2 len buf c h => exact ⟨0,by simp,by simp,by simp⟩

theorem sumTail_spec : ∀ (len buf : Nat) (c : UInt32),
    sumTail mem len buf c = c+UInt32.ofNat (total mem buf len) := by
  intro len
  induction len with
  | zero => intro buf c; simp [sumTail]
  | succ len ih =>
    intro buf c
    rw [sumTail,ih,total_succ,UInt32.ofNat_add,toUInt32_eq,UInt32.add_assoc]

theorem computeChecksum_total (buf len : Nat) :
    computeChecksum be mem buf len = UInt16.ofNat (total mem buf len) := by
  obtain ⟨n,h1,h2,h3⟩ := sumHead_spec mem len buf 0
  simp only [computeChecksum]
  generalize sumHead mem len buf 0 = r at h1 h2 h3 ⊢
  obtain ⟨m,h4,h5,h6⟩ := sumBlocks_spec be mem r.1 r.2.1 r.2.2
  generalize sumBlocks be mem r.1 r.2.1 r.2.2 = q at h4 h5 h6 ⊢
  rw [sumTail_spec,h6,h5,h3,h2,show len = n+(m+q.1) by omega,total_add,total_add]
  apply UInt16.toNat_inj.mp
  simp [Nat.add_assoc]

/-! The sum the frame models take. -/

def Holds (buf : Nat) : Bytes → Prop
  | [] => True
  | x :: b => mem buf = x ∧ Holds (buf+1) b

theorem byteSum_acc (b : Bytes) : ∀ n : UInt16,
    b.foldl (fun n x => n+x.toUInt16) n = n+SpiHd.byteSum b := by
  unfold SpiHd.byteSum
  induction b with
  | nil => intro n; simp
  | cons x b ih =>
    intro n
    simp only [List.foldl_cons]
    rw [ih,ih (0+x.toUInt16),UInt16.zero_add,UInt16.add_assoc]

theorem total_holds : ∀ (b : Bytes) {buf len : Nat}, Holds mem buf b → len ≤ b.length →
    UInt16.ofNat (total mem buf len) = SpiHd.byteSum (b.take len) := by
  intro b
  induction b with
  | nil =>
    intro buf len _ hl
    obtain rfl : len = 0 := by simpa using hl
    simp [SpiHd.byteSum]
  | cons x b ih =>
    intro buf len h hl
    cases len with
    | zero => simp [SpiHd.byteSum]
    | succ len =>
      have hc : SpiHd.byteSum (x :: b.take len) = x.toUInt16+SpiHd.byteSum (b.take len) := by
        rw [SpiHd.byteSum,List.foldl_cons,byteSum_acc,UInt16.zero_add]
      rw [total_succ,UInt16.ofNat_add,ih h.2 (by simpa using hl),List.take_succ_cons,hc,h.1]
      simp

theorem computeChecksum_byteSum {b : Bytes} {buf len : Nat} (h : Holds mem buf b) (hl : len ≤ b.length) :
    computeChecksum be mem buf len = SpiReboot.computeChecksum b len := by
  rw [computeChecksum_total,total_holds mem b h hl]
  rfl

/-- Every alignment, every length, every content and both byte orders; on a frame in memory it is the sum the frame
models take. -/
theorem computeChecksum_eq_sum :
    (∀ buf len, (computeChecksum be mem buf len).toNat =
      (∑ i ∈ Finset.range len, (mem (buf+i)).toNat)%2^16) ∧
    (∀ buf words, words ≤ 64 →
      ∃ lo hi, lo < 2^16 ∧ hi < 2^16 ∧ (sumWords be mem words buf 0).toNat = lo+hi*2^16 ∧
        lo+hi = ∑ i ∈ Finset.range (4*words), (mem (buf+i)).toNat) ∧
    ∀ buf len b, Holds mem buf b → len ≤ b.length → computeChecksum be mem buf len = SpiReboot.computeChecksum b len := by
  refine ⟨fun buf len => ?_,fun buf words h => ?_,fun buf len b h hl => computeChecksum_byteSum be mem h hl⟩
  · rw [computeChecksum_total,UInt16.toNat_ofNat']
    rfl
  · obtain ⟨lo,hi,h1,h2,h3,h4⟩ := sumWords_block be mem h buf
    exact ⟨lo,hi,h1,h2,h4,h3⟩

end EspHosted.Checksum
