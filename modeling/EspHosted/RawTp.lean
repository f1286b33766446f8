import Mathlib.Data.List.Basic
import Mathlib.Logic.Function.Iterate
import EspHosted.Wire
import EspHosted.Lib.Word

/-!
The payload of raw throughput packets, `host/esp_stats.c` and `main/stats.c`: the host
writes and checks it byte by byte, the firmware by words with a tail. A buffer is a
function from offsets to bytes.
-/

set_option autoImplicit false

namespace EspHosted.RawTp
open EspHosted Word

/-- `sizeof(struct raw_tp_packet)` -/
def rawTpPacketSize : Nat := 8
def testRawTpBufSize : Nat := 1460

abbrev Buf := Nat → UInt8

def put (data : Buf) (i : Nat) (b : UInt8) : Buf := fun k => if k = i then b else data k

/-- `memcpy(data + i, &wire_word, 4)` after `wire_word = htole32(state)`. -/
def putWord (data : Buf) (i : Nat) (w : UInt32) : Buf :=
  put (put (put (put data i (byte w 0)) (i+1) (byte w 1)) (i+2) (byte w 2)) (i+3) (byte w 3)

/-- `le32toh` of the four bytes at `i`. -/
def getWord (data : Buf) (i : Nat) : UInt32 := word (data i) (data (i+1)) (data (i+2)) (data (i+3))

/-! The host. The first argument of a loop counts the bytes that are left. -/

namespace Host

def rawTpPatternNext (state : UInt32) : UInt32 :=
  let state := state ^^^ (state <<< (13 : UInt32))
  let state := state ^^^ (state >>> (17 : UInt32))
  state ^^^ (state <<< (5 : UInt32))

/-- The first `state`. -/
def patternSeed (seq runId : UInt32) : UInt32 :=
  seq ^^^ (runId*(0x9e3779b9 : UInt32)) ^^^ (0x6d2b79f5 : UInt32)

def fillLoop : Nat → Nat → UInt32 → Buf → Buf
  | 0,_,_,data => data
  | n+1,i,state,data =>
    let state := if i &&& 3 = 0 then rawTpPatternNext state else state
    fillLoop n (i+1) state (put data i (byte state (i &&& 3)))

def rawTpPatternFill (data : Buf) (len : Nat) (seq runId : UInt32) : Buf :=
  fillLoop (len-rawTpPacketSize) rawTpPacketSize (patternSeed seq runId) data

def validLoop : Nat → Nat → UInt32 → Buf → Bool
  | 0,_,_,_ => true
  | n+1,i,state,data =>
    let state := if i &&& 3 = 0 then rawTpPatternNext state else state
    if data i ≠ byte state (i &&& 3) then false else validLoop n (i+1) state data

def rawTpPatternValid (data : Buf) (len : Nat) (seq runId : UInt32) : Bool :=
  if len < rawTpPacketSize then false
  else validLoop (len-rawTpPacketSize) rawTpPacketSize (patternSeed seq runId) data

end Host

/-! The firmware. -/

namespace Fw

def rawTpPatternNext (state : UInt32) : UInt32 :=
  let state := state ^^^ (state <<< (13 : UInt32))
  let state := state ^^^ (state >>> (17 : UInt32))
  state ^^^ (state <<< (5 : UInt32))

def patternSeed (seq runId : UInt32) : UInt32 :=
  seq ^^^ (runId*(0x9e3779b9 : UInt32)) ^^^ (0x6d2b79f5 : UInt32)

/-- `for (; i + 4 <= len; i += 4)`: the index, the state and the buffer after it. -/
def fillWords (len i : Nat) (state : UInt32) (data : Buf) : Nat × UInt32 × Buf :=
  if i+4 ≤ len then
    let state := rawTpPatternNext state
    fillWords len (i+4) state (putWord data i state)
  else (i,state,data)
termination_by len-i

def fillTail : Nat → Nat → UInt32 → Buf → Buf
  | 0,_,_,data => data
  | n+1,i,state,data => fillTail n (i+1) state (put data i (byte state (i &&& 3)))

def rawTpPatternFill (data : Buf) (len : Nat) (seq runId : UInt32) : Buf :=
  let (i,state,data) := fillWords len rawTpPacketSize (patternSeed seq runId) data
  if i < len then fillTail (len-i) i (rawTpPatternNext state) data else data

/-- `none` is `return false` inside the loop. -/
def validWords (len i : Nat) (state : UInt32) (data : Buf) : Option (Nat × UInt32) :=
  if i+4 ≤ len then
    let state := rawTpPatternNext state
    if getWord data i ≠ state then none else validWords len (i+4) state data
  else some (i,state)
termination_by len-i

def validTail : Nat → Nat → UInt32 → Buf → Bool
  | 0,_,_,_ => true
  | n+1,i,state,data => if data i ≠ byte state (i &&& 3) then false else validTail n (i+1) state data

def rawTpPatternValid (data : Buf) (len : Nat) (seq runId : UInt32) : Bool :=
  if len < rawTpPacketSize then false
  else
    match validWords len rawTpPacketSize (patternSeed seq runId) data with
    | none => false
    | some (i,state) => if i < len then validTail (len-i) i (rawTpPatternNext state) data else true

end Fw

/-! Packets. The memory of a frame begins with its `esp_payload_header`. -/

def at' (mem : Buf) (offset : Nat) : Buf := fun k => mem (offset+k)

def getHalf (mem : Buf) (i : Nat) : Nat := le16ToCpu (mem i) (mem (i+1))

/-- `flags` and the reserved bytes. -/
def Host.rawTpGetSeq (mem : Buf) : UInt32 := word (mem 1) (mem 3) (mem 10) (mem 11)

def Fw.debugRawTpGetSeq (mem : Buf) : UInt32 := word (mem 1) (mem 3) (mem 10) (mem 11)

/-- The payload in a zeroed buffer: `tp_pkt->seq`, `tp_pkt->run_id` and the pattern. -/
def Host.rawTpPayload (seq runId : UInt32) : Buf :=
  Host.rawTpPatternFill (putWord (putWord (fun _ => 0) 0 seq) 4 runId) testRawTpBufSize seq runId

def Fw.rawTpPayload (seq runId : UInt32) : Buf :=
  Fw.rawTpPatternFill (putWord (putWord (fun _ => 0) 0 seq) 4 runId) testRawTpBufSize seq runId

/-- What the receiver makes of a frame before it counts. -/
inductive RxCheck where
  | otherRun
  | badPayload
  | good (seq : UInt32)
  deriving DecidableEq, Repr

/-- `seq` and `run_id`, from the packet if it holds one. -/
def Host.rxIds (mem : Buf) (len : Nat) (runId : UInt32) : UInt32 × UInt32 :=
  let offset := getHalf mem 6
  if rawTpPacketSize ≤ len then (getWord mem offset,getWord mem (offset+4)) else (rawTpGetSeq mem,runId)

def Fw.rxIds (mem : Buf) (len : Nat) (runId : UInt32) : UInt32 × UInt32 :=
  let offset := getHalf mem 6
  if rawTpPacketSize ≤ len then (getWord mem offset,getWord mem (offset+4)) else (debugRawTpGetSeq mem,runId)

def Host.rxCheck (runId : UInt32) (mem : Buf) (len : Nat) : RxCheck :=
  let offset := getHalf mem 6
  let (seq,run) := rxIds mem len runId
  if run ≠ runId then .otherRun
  else if len = testRawTpBufSize ∧ Host.rawTpPatternValid (at' mem offset) len seq run then .good seq
  else .badPayload

def Fw.rxCheck (runId : UInt32) (mem : Buf) (len : Nat) : RxCheck :=
  let offset := getHalf mem 6
  let (seq,run) := rxIds mem len runId
  if run ≠ runId then .otherRun
  else if len ≠ testRawTpBufSize ∨ Fw.rawTpPatternValid (at' mem offset) len seq run = false then .badPayload
  else .good seq

/-! The two sides compute the same states and read the same fields. -/

theorem Fw.rawTpPatternNext_eq : Fw.rawTpPatternNext = Host.rawTpPatternNext := rfl

theorem Fw.patternSeed_eq : Fw.patternSeed = Host.patternSeed := rfl

theorem Fw.rxIds_eq : Fw.rxIds = Host.rxIds := rfl

/-! One description of both: byte `k` comes from word `k/4` of the pattern. -/

/-- The state after the first `n` words. -/
def stateAt (seed : UInt32) (n : Nat) : UInt32 := Host.rawTpPatternNext^[n] seed

theorem stateAt_succ (seed : UInt32) (n : Nat) :
    Host.rawTpPatternNext (stateAt seed n) = stateAt seed (n+1) := by
  rw [stateAt,stateAt,Function.iterate_succ_apply']

def patternByte (seed : UInt32) (k : Nat) : UInt8 := byte (stateAt seed (k/4-1)) (k%4)

/-- The buffer with the pattern from `i` up to `j`. -/
def patterned (seed : UInt32) (data : Buf) (i j : Nat) : Buf :=
  fun k => if i ≤ k ∧ k < j then patternByte seed k else data k

def Matches (seed : UInt32) (data : Buf) (i j : Nat) : Prop :=
  ∀ k, i ≤ k → k < j → data k = patternByte seed k

theorem patterned_self (seed : UInt32) (data : Buf) (i : Nat) : patterned seed data i i = data := by
  funext k
  simp only [patterned]
  rw [if_neg (by omega)]

theorem patterned_put (seed : UInt32) (data : Buf) {i j : Nat} (h : i < j) :
    patterned seed (put data i (patternByte seed i)) (i+1) j = patterned seed data i j := by
  funext k
  simp only [patterned,put]
  by_cases hk : k = i
  · subst hk
    simp [h]
  · simp only [hk,if_false]
    simp only [show (i+1 ≤ k ∧ k < j) ↔ (i ≤ k ∧ k < j) by omega]

theorem matches_self (seed : UInt32) (data : Buf) (i : Nat) : Matches seed data i i := by
  intro k h1 h2
  omega

theorem matches_succ (seed : UInt32) (data : Buf) {i j : Nat} (h : i < j) :
    Matches seed data i j ↔ data i = patternByte seed i ∧ Matches seed data (i+1) j := by
  constructor
  · intro hm
    exact ⟨hm i (Nat.le_refl i) h,fun k h1 h2 => hm k (by omega) h2⟩
  · rintro ⟨h0,hm⟩ k h1 h2
    by_cases hk : k = i
    · rw [hk,h0]
    · exact hm k (by omega) h2

theorem matches_iff_patterned (seed : UInt32) (data : Buf) (i j : Nat) :
    Matches seed data i j ↔ patterned seed data i j = data := by
  constructor
  · intro h
    funext k
    simp only [patterned]
    split
    · next hk => rw [h k hk.1 hk.2]
    · rfl
  · intro h k h1 h2
    rw [← h,patterned,if_pos ⟨h1,h2⟩]

theorem and_three (i : Nat) : i &&& 3 = i%4 := Nat.and_two_pow_sub_one_eq_mod i 2

/-! The host's loops. -/

/-- The step of the state that both of the host's loops take at `i`. -/
theorem host_state (seed : UInt32) {i : Nat} (hi : 8 ≤ i) :
    (if i &&& 3 = 0 then Host.rawTpPatternNext (stateAt seed ((i-1)/4-1)) else stateAt seed ((i-1)/4-1)) =
      stateAt seed (i/4-1) := by
  rw [and_three]
  split
  · next h => rw [stateAt_succ,show (i-1)/4-1+1 = i/4-1 by omega]
  · next h => rw [show (i-1)/4-1 = i/4-1 by omega]

theorem Host.fillLoop_eq (seed : UInt32) (n : Nat) : ∀ (i : Nat) (data : Buf), 8 ≤ i →
    Host.fillLoop n i (stateAt seed ((i-1)/4-1)) data = patterned seed data i (i+n) := by
  induction n with
  | zero => intro i data _; exact (patterned_self seed data i).symm
  | succ n ih =>
    intro i data hi
    rw [Host.fillLoop,host_state seed hi,and_three]
    have h := ih (i+1) (put data i (patternByte seed i)) (by omega)
    rw [Nat.add_sub_cancel] at h
    rw [← patternByte,h,show i+1+n = i+(n+1) by omega,patterned_put seed data (by omega)]

theorem Host.validLoop_iff (seed : UInt32) (data : Buf) (n : Nat) : ∀ i, 8 ≤ i →
    (Host.validLoop n i (stateAt seed ((i-1)/4-1)) data = true ↔ Matches seed data i (i+n)) := by
  induction n with
  | zero => intro i _; simp [Host.validLoop,matches_self]
  | succ n ih =>
    intro i hi
    have h := ih (i+1) (by omega)
    rw [Nat.add_sub_cancel] at h
    rw [Host.validLoop,host_state seed hi,and_three,matches_succ seed data (by omega),← patternByte,
      show i+(n+1) = i+1+n by omega,← h]
    by_cases hb : data i = patternByte seed i <;> simp [hb]

theorem Host.fill_eq (data : Buf) (len : Nat) (seq runId : UInt32) :
    Host.rawTpPatternFill data len seq runId = patterned (Host.patternSeed seq runId) data 8 len := by
  have h := Host.fillLoop_eq (Host.patternSeed seq runId) (len-8) 8 data (by decide)
  rw [Host.rawTpPatternFill,rawTpPacketSize]
  refine h.trans ?_
  funext k
  simp only [patterned,show (8 ≤ k ∧ k < 8+(len-8)) ↔ (8 ≤ k ∧ k < len) by omega]

theorem Host.valid_iff (data : Buf) (len : Nat) (seq runId : UInt32) :
    Host.rawTpPatternValid data len seq runId = true ↔
      8 ≤ len ∧ Matches (Host.patternSeed seq runId) data 8 len := by
  have h := Host.validLoop_iff (Host.patternSeed seq runId) data (len-8) 8 (by decide)
  rw [Host.rawTpPatternValid,rawTpPacketSize]
  by_cases hl : len < 8
  · simp [hl]
  · rw [if_neg hl,show 8+(len-8) = len by omega] at *
    exact h.trans ⟨fun hm => ⟨by omega,hm⟩,And.right⟩

/-! The firmware's loops. -/

theorem putWord_eq (seed : UInt32) (data : Buf) {i : Nat} (hi : 8 ≤ i) (h4 : i%4 = 0) :
    putWord data i (stateAt seed (i/4-1)) = patterned seed data i (i+4) := by
  have hb (d : Nat) (hd : d < 4) : patternByte seed (i+d) = byte (stateAt seed (i/4-1)) d := by
    rw [patternByte,show (i+d)/4 = i/4 by omega,show (i+d)%4 = d by omega]
  rw [putWord,← hb 0 (by decide),← hb 1 (by decide),← hb 2 (by decide),← hb 3 (by decide)]
  funext k
  simp only [put,patterned]
  by_cases hk : i ≤ k ∧ k < i+4
  · obtain rfl | rfl | rfl | rfl : k = i ∨ k = i+1 ∨ k = i+2 ∨ k = i+3 := by omega
    all_goals simp
  · rw [if_neg (by omega),if_neg (by omega),if_neg (by omega),if_neg (by omega),if_neg hk]

theorem getWord_eq_iff (seed : UInt32) (data : Buf) {i : Nat} (hi : 8 ≤ i) (h4 : i%4 = 0) :
    getWord data i = stateAt seed (i/4-1) ↔ Matches seed data i (i+4) := by
  have hb (d : Nat) (hd : d < 4) : patternByte seed (i+d) = byte (stateAt seed (i/4-1)) d := by
    rw [patternByte,show (i+d)/4 = i/4 by omega,show (i+d)%4 = d by omega]
  rw [getWord,word_eq_iff,← hb 0 (by decide),← hb 1 (by decide),← hb 2 (by decide),← hb 3 (by decide)]
  constructor
  · rintro ⟨h0,h1,h2,h3⟩ k hk1 hk2
    obtain rfl | rfl | rfl | rfl : k = i ∨ k = i+1 ∨ k = i+2 ∨ k = i+3 := by omega
    all_goals assumption
  · intro h
    exact ⟨h i (by omega) (by omega),h _ (by omega) (by omega),h _ (by omega) (by omega),
      h _ (by omega) (by omega)⟩

theorem patterned_trans (seed : UInt32) (data : Buf) {i j k : Nat} (hij : i ≤ j) (hjk : j ≤ k) :
    patterned seed (patterned seed data i j) j k = patterned seed data i k := by
  funext x
  simp only [patterned]
  by_cases hj : j ≤ x ∧ x < k
  · rw [if_pos hj,if_pos (by omega)]
  · by_cases hi : i ≤ x ∧ x < j
    · rw [if_neg hj,if_pos hi,if_pos (by omega)]
    · rw [if_neg hj,if_neg hi,if_neg (by omega)]

theorem matches_trans (seed : UInt32) (data : Buf) {i j k : Nat} (hij : i ≤ j) (hjk : j ≤ k) :
    Matches seed data i k ↔ Matches seed data i j ∧ Matches seed data j k := by
  constructor
  · intro h
    exact ⟨fun x h1 h2 => h x h1 (by omega),fun x h1 h2 => h x (by omega) h2⟩
  · rintro ⟨h1,h2⟩ x hx1 hx2
    by_cases hx : x < j
    · exact h1 x hx1 hx
    · exact h2 x (by omega) hx2

theorem Fw.fillWords_eq (seed : UInt32) (len i : Nat) (state : UInt32) (data : Buf)
    (hi : 8 ≤ i) (h4 : i%4 = 0) (hs : state = stateAt seed (i/4-2)) (hl : i ≤ len) :
    let r := Fw.fillWords len i state data
    i ≤ r.1 ∧ r.1 ≤ len ∧ len < r.1+4 ∧ r.1%4 = 0 ∧ r.2.1 = stateAt seed (r.1/4-2) ∧
      r.2.2 = patterned seed data i r.1 := by
  fun_induction Fw.fillWords len i state data with
  | case1 i state data h state' ih =>
    have hs' : state' = stateAt seed (i/4-1) := by
      simp only [state',hs]
      rw [rawTpPatternNext_eq,stateAt_succ,show i/4-2+1 = i/4-1 by omega]
    have hp : putWord data i state' = patterned seed data i (i+4) := by
      rw [hs',putWord_eq seed data hi h4]
    obtain ⟨h1,h2,h3,h5,h6,h7⟩ :=
      ih (by omega) (by omega) (by rw [hs',show (i+4)/4-2 = i/4-1 by omega]) (by omega)
    generalize Fw.fillWords len (i+4) state' (putWord data i state') = r at h1 h2 h3 h5 h6 h7 ⊢
    refine ⟨by omega,h2,h3,h5,h6,?_⟩
    rw [h7,hp,patterned_trans seed data (by omega) (by omega)]
  | case2 i state data h =>
    exact ⟨Nat.le_refl i,hl,by omega,h4,hs,(patterned_self seed data i).symm⟩

/-- The states `byte` takes within one word. -/
theorem tail_byte (seed : UInt32) {i k : Nat} (h : i/4 = k/4) :
    byte (stateAt seed (i/4-1)) (k &&& 3) = patternByte seed k := by
  rw [and_three,h,patternByte]

theorem Fw.fillTail_eq (seed : UInt32) (q : Nat) (n : Nat) : ∀ (i : Nat) (data : Buf),
    4*q ≤ i → i+n < 4*q+4 →
    Fw.fillTail n i (stateAt seed (q-1)) data = patterned seed data i (i+n) := by
  induction n with
  | zero => intro i data _ _; exact (patterned_self seed data i).symm
  | succ n ih =>
    intro i data h1 h2
    have hq : i/4 = q := by omega
    rw [Fw.fillTail,ih (i+1) _ (by omega) (by omega),← hq,tail_byte seed rfl,
      show i+1+n = i+(n+1) by omega,patterned_put seed data (by omega)]

theorem Fw.validTail_iff (seed : UInt32) (data : Buf) (q : Nat) (n : Nat) : ∀ i,
    4*q ≤ i → i+n < 4*q+4 →
    (Fw.validTail n i (stateAt seed (q-1)) data = true ↔ Matches seed data i (i+n)) := by
  induction n with
  | zero => intro i _ _; simp [Fw.validTail,matches_self]
  | succ n ih =>
    intro i h1 h2
    have hq : i/4 = q := by omega
    have h := ih (i+1) (by omega) (by omega)
    rw [Fw.validTail,matches_succ seed data (by omega),show i+(n+1) = i+1+n by omega,← h,← hq,
      tail_byte seed rfl]
    by_cases hb : data i = patternByte seed i <;> simp [hb]

theorem Fw.validWords_spec (seed : UInt32) (data : Buf) (len i : Nat) (state : UInt32)
    (hi : 8 ≤ i) (h4 : i%4 = 0) (hs : state = stateAt seed (i/4-2)) (hl : i ≤ len) :
    match Fw.validWords len i state data with
    | none => ¬Matches seed data i len
    | some (j,state') => i ≤ j ∧ j ≤ len ∧ len < j+4 ∧ j%4 = 0 ∧ state' = stateAt seed (j/4-2) ∧
        Matches seed data i j := by
  fun_induction Fw.validWords len i state data with
  | case1 i state h state' hne =>
    have hs' : state' = stateAt seed (i/4-1) := by
      simp only [state',hs]
      rw [rawTpPatternNext_eq,stateAt_succ,show i/4-2+1 = i/4-1 by omega]
    intro hm
    have hw := ((matches_trans seed data (by omega) h).mp hm).1
    exact hne ((getWord_eq_iff seed data hi h4).mpr hw |>.trans hs'.symm)
  | case2 i state h state' heq ih =>
    have hs' : state' = stateAt seed (i/4-1) := by
      simp only [state',hs]
      rw [rawTpPatternNext_eq,stateAt_succ,show i/4-2+1 = i/4-1 by omega]
    have hw : Matches seed data i (i+4) :=
      (getWord_eq_iff seed data hi h4).mp ((not_not.mp heq).trans hs')
    have h := ih (by omega) (by omega) (by rw [hs',show (i+4)/4-2 = i/4-1 by omega]) h
    split at h
    · exact fun hm => h ((matches_trans seed data (by omega) (by omega)).mp hm).2
    · obtain ⟨h1,h2,h3,h5,h6,h7⟩ := h
      exact ⟨by omega,h2,h3,h5,h6,(matches_trans seed data (by omega) h1).mpr ⟨hw,h7⟩⟩
  | case3 i state h => exact ⟨Nat.le_refl i,hl,by omega,h4,hs,matches_self seed data i⟩

theorem Fw.fill_eq (data : Buf) (len : Nat) (seq runId : UInt32) :
    Fw.rawTpPatternFill data len seq runId = patterned (Host.patternSeed seq runId) data 8 len := by
  by_cases hl : 8 ≤ len
  · obtain ⟨h1,h2,h3,h4,h5,h6⟩ := Fw.fillWords_eq (Host.patternSeed seq runId) len 8 (Host.patternSeed seq runId) data
      (by decide) (by decide) rfl hl
    rcases hr : Fw.fillWords len 8 (Host.patternSeed seq runId) data with ⟨i,state,data'⟩
    simp only [hr] at h1 h2 h3 h4 h5 h6
    simp only [Fw.rawTpPatternFill,rawTpPacketSize,Fw.patternSeed_eq,hr]
    split
    · next h =>
      rw [h5,h6,Fw.rawTpPatternNext_eq,stateAt_succ,show i/4-2+1 = i/4-1 by omega,
        Fw.fillTail_eq _ (i/4) (len-i) i _ (by omega) (by omega),show i+(len-i) = len by omega,
        patterned_trans _ data h1 h2]
    · next h => rw [h6,show i = len by omega]
  · have h1 : ¬rawTpPacketSize+4 ≤ len := fun h => hl (Nat.le_trans (by decide) h)
    have h2 : ¬rawTpPacketSize < len := fun h => hl (Nat.le_of_lt h)
    rw [Fw.rawTpPatternFill,Fw.fillWords,if_neg h1]
    simp only
    rw [if_neg h2]
    funext k
    simp only [patterned]
    rw [if_neg (by omega)]

theorem Fw.valid_iff (data : Buf) (len : Nat) (seq runId : UInt32) :
    Fw.rawTpPatternValid data len seq runId = true ↔
      8 ≤ len ∧ Matches (Host.patternSeed seq runId) data 8 len := by
  rw [Fw.rawTpPatternValid]
  by_cases hl : len < rawTpPacketSize
  · rw [if_pos hl]
    simp only [Bool.false_eq_true,false_iff]
    exact fun hm => absurd hm.1 (Nat.not_le.mpr hl)
  · have hl8 : 8 ≤ len := Nat.not_lt.mp hl
    have h := Fw.validWords_spec (Host.patternSeed seq runId) data len 8 (Host.patternSeed seq runId)
      (by decide) (by decide) rfl hl8
    rw [if_neg hl,rawTpPacketSize,Fw.patternSeed_eq]
    cases hv : Fw.validWords len 8 (Host.patternSeed seq runId) data with
    | none =>
      rw [hv] at h
      simp only [Bool.false_eq_true,false_iff]
      exact fun hm => h hm.2
    | some r =>
      rw [hv] at h
      obtain ⟨h1,h2,h3,h4,h5,h6⟩ := h
      simp only
      split
      · next hlt =>
        rw [h5,Fw.rawTpPatternNext_eq,stateAt_succ,show r.1/4-2+1 = r.1/4-1 by omega,
          Fw.validTail_iff _ data (r.1/4) (len-r.1) r.1 (by omega) (by omega),
          show r.1+(len-r.1) = len by omega,matches_trans _ data h1 h2]
        exact ⟨fun hm => ⟨by omega,h6,hm⟩,fun hm => hm.2.2⟩
      · next hge =>
        rw [show r.1 = len by omega] at h6
        exact ⟨fun _ => ⟨by omega,h6⟩,fun _ => rfl⟩

/-! The two sides. -/

theorem fill_eq (data : Buf) (len : Nat) (seq runId : UInt32) :
    Host.rawTpPatternFill data len seq runId = Fw.rawTpPatternFill data len seq runId := by
  rw [Host.fill_eq,Fw.fill_eq]

theorem valid_eq (data : Buf) (len : Nat) (seq runId : UInt32) :
    Host.rawTpPatternValid data len seq runId = Fw.rawTpPatternValid data len seq runId :=
  Bool.eq_iff_iff.mpr ((Host.valid_iff data len seq runId).trans (Fw.valid_iff data len seq runId).symm)

theorem rxCheck_eq (runId : UInt32) (mem : Buf) (len : Nat) :
    Host.rxCheck runId mem len = Fw.rxCheck runId mem len := by
  rw [Host.rxCheck,Fw.rxCheck,Fw.rxIds_eq]
  simp only [valid_eq]
  generalize Fw.rawTpPatternValid _ _ _ _ = valid
  split
  · rfl
  · by_cases hl : len = testRawTpBufSize <;> cases valid <;> simp [hl]

theorem rawTpPayload_eq (seq runId : UInt32) : Host.rawTpPayload seq runId = Fw.rawTpPayload seq runId :=
  fill_eq _ _ seq runId

theorem patterned_putWord (seed seq runId : UInt32) (data : Buf) (j k : Nat) :
    patterned seed (putWord (putWord data 0 seq) 4 runId) 8 j k =
      if k < 4 then byte seq k else if k < 8 then byte runId (k-4)
      else if k < j then patternByte seed k else data k := by
  simp only [patterned,putWord,put]
  by_cases hk : k < 8
  · obtain rfl | rfl | rfl | rfl | rfl | rfl | rfl | rfl :
      k = 0 ∨ k = 1 ∨ k = 2 ∨ k = 3 ∨ k = 4 ∨ k = 5 ∨ k = 6 ∨ k = 7 := by omega
    all_goals simp
  · by_cases hj : k < j
    · rw [if_pos (by omega),if_neg (by omega),if_neg hk,if_pos hj]
    · rw [if_neg (by omega),if_neg (by omega),if_neg (by omega),if_neg (by omega),if_neg (by omega),
        if_neg (by omega),if_neg (by omega),if_neg (by omega),if_neg (by omega),if_neg (by omega),
        if_neg hk,if_neg hj]

theorem getWord_iff (data : Buf) (i : Nat) (w : UInt32) :
    getWord data i = w ↔ ∀ d, d < 4 → data (i+d) = byte w d := by
  rw [getWord,word_eq_iff]
  constructor
  · rintro ⟨h0,h1,h2,h3⟩ d hd
    obtain rfl | rfl | rfl | rfl : d = 0 ∨ d = 1 ∨ d = 2 ∨ d = 3 := by omega
    all_goals assumption
  · intro h
    exact ⟨h 0 (by decide),h 1 (by decide),h 2 (by decide),h 3 (by decide)⟩

theorem payload_apply (seq runId : UInt32) (k : Nat) :
    Host.rawTpPayload seq runId k =
      if k < 4 then byte seq k else if k < 8 then byte runId (k-4)
      else if k < testRawTpBufSize then patternByte (Host.patternSeed seq runId) k else 0 := by
  rw [Host.rawTpPayload,Host.fill_eq,patterned_putWord]

theorem payload_iff (mem : Buf) (offset : Nat) (seq runId : UInt32) :
    (∀ k, k < testRawTpBufSize → mem (offset+k) = Host.rawTpPayload seq runId k) ↔
      getWord mem offset = seq ∧ getWord mem (offset+4) = runId ∧
        Matches (Host.patternSeed seq runId) (at' mem offset) 8 testRawTpBufSize := by
  simp only [payload_apply,getWord_iff]
  constructor
  · intro h
    refine ⟨fun d hd => ?_,fun d hd => ?_,fun k h1 h2 => ?_⟩
    · rw [h d (Nat.lt_trans hd (by decide)),if_pos hd]
    · rw [Nat.add_assoc,h (4+d) (Nat.lt_trans (Nat.add_lt_add_left hd 4) (by decide)),if_neg (by omega),
        if_pos (by omega),Nat.add_sub_cancel_left]
    · rw [at',h k h2,if_neg (by omega),if_neg (by omega),if_pos h2]
  · rintro ⟨hs,hr,hm⟩ k hk
    split
    · next h4 => exact hs k h4
    · next h4 =>
      split
      · next h8 =>
        have h := hr (k-4) (by omega)
        rwa [show offset+4+(k-4) = offset+k by omega] at h
      · next h8 => exact hm k (by omega) hk

/-- A frame counts exactly when its payload is one that the other side makes in this run. -/
theorem Fw.rxCheck_good_iff (runId : UInt32) (mem : Buf) (len : Nat) (seq : UInt32) :
    Fw.rxCheck runId mem len = .good seq ↔ len = testRawTpBufSize ∧
      ∀ k, k < testRawTpBufSize → mem (getHalf mem 6+k) = Host.rawTpPayload seq runId k := by
  rw [payload_iff]
  generalize ho : getHalf mem 6 = offset
  by_cases hlen : len = testRawTpBufSize
  · subst hlen
    have hrx : Fw.rxIds mem testRawTpBufSize runId = (getWord mem offset,getWord mem (offset+4)) := by
      rw [Fw.rxIds,if_pos (by decide),ho]
    have hv := Fw.valid_iff (at' mem offset) testRawTpBufSize (getWord mem offset) runId
    simp only [Fw.rxCheck,hrx,ho,true_and]
    by_cases hrun : getWord mem (offset+4) = runId
    · rw [if_neg (not_not.mpr hrun),hrun]
      by_cases hval : Fw.rawTpPatternValid (at' mem offset) testRawTpBufSize (getWord mem offset) runId = true
      · rw [if_neg (by simp [hval]),RxCheck.good.injEq]
        constructor
        · rintro rfl
          exact ⟨rfl,rfl,(hv.mp hval).2⟩
        · exact fun h => h.1
      · rw [if_pos (.inr (by simpa using hval))]
        constructor
        · intro h; cases h
        · rintro ⟨rfl,-,hm⟩
          exact absurd (hv.mpr ⟨by decide,hm⟩) hval
    · rw [if_pos hrun]
      constructor
      · intro h; cases h
      · exact fun h => absurd h.2.1 hrun
  · simp only [hlen,false_and,iff_false]
    intro h
    simp only [Fw.rxCheck] at h
    split at h
    · cases h
    · rw [if_pos (.inl hlen)] at h
      cases h

/-- The generators and the checks of the two sides. -/
theorem rawTp_agree (data mem : Buf) (len : Nat) (seq runId : UInt32) :
    Host.rawTpPatternFill data len seq runId = Fw.rawTpPatternFill data len seq runId ∧
    (Fw.rawTpPatternValid data len seq runId = true ↔
      rawTpPacketSize ≤ len ∧ Host.rawTpPatternFill data len seq runId = data) ∧
    (Host.rawTpPatternValid data len seq runId = true ↔
      rawTpPacketSize ≤ len ∧ Fw.rawTpPatternFill data len seq runId = data) ∧
    (Fw.rxCheck runId mem len = .good seq ↔ len = testRawTpBufSize ∧
      ∀ k, k < testRawTpBufSize → mem (getHalf mem 6+k) = Host.rawTpPayload seq runId k) ∧
    (Host.rxCheck runId mem len = .good seq ↔ len = testRawTpBufSize ∧
      ∀ k, k < testRawTpBufSize → mem (getHalf mem 6+k) = Fw.rawTpPayload seq runId k) := by
  refine ⟨fill_eq data len seq runId,?_,?_,Fw.rxCheck_good_iff runId mem len seq,?_⟩
  · rw [Fw.valid_iff,Host.fill_eq,matches_iff_patterned]
    rfl
  · rw [Host.valid_iff,Fw.fill_eq,matches_iff_patterned]
    rfl
  · rw [rxCheck_eq,Fw.rxCheck_good_iff,rawTpPayload_eq]

end EspHosted.RawTp
