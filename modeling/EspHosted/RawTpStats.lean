import EspHosted.RawTp
import EspHosted.Lib.Serial
import EspHosted.Lib.Window

/-!
Accounting of received raw throughput packets: `update_test_raw_tp_rx_stats` of
`host/esp_stats.c` and `debug_update_raw_tp_rx_count` of `main/stats.c`. The counters are
`unsigned long` on the host, of 32 or 64 bits, and `uint64_t` on the firmware.
-/

set_option autoImplicit false

namespace EspHosted.RawTp
open EspHosted Serial Window

structure RxStats (w : Nat) where
  expectedSeq : UInt32 := 0
  window : BitVec 64 := 0
  total : BitVec w := 0
  lost : BitVec w := 0
  dup : BitVec w := 0
  reorder : BitVec w := 0
  badPayload : BitVec w := 0
  /-- `test_raw_tp_len` and `test_raw_tp_rx_len` -/
  rxLen : BitVec w := 0
  deriving DecidableEq, Repr

/-! The section under the lock, which has the same text in both functions. -/

/-- `while (raw_tp_rx_window & 1ULL)`; a window of 64 bits is used up by 64 turns. -/
def drain : Nat → UInt32 → BitVec 64 → UInt32 × BitVec 64
  | 0,expected,window => (expected,window)
  | k+1,expected,window =>
    if window.getLsbD 0 then drain k (expected+1) (window >>> 1) else (expected,window)

/-- `raw_tp_rx_expected_seq++`, the loop above and `raw_tp_rx_window >>= 1`. -/
def advance (expected : UInt32) (window : BitVec 64) : UInt32 × BitVec 64 :=
  let (expected,window) := drain 64 (expected+1) window
  (expected,window >>> 1)

/-- The `for` loop of a jump by more than 128. -/
def shiftOut {w : Nat} : Nat → UInt32 → BitVec 64 → BitVec w → UInt32 × BitVec w
  | 0,expected,_,lost => (expected,lost)
  | k+1,expected,window,lost =>
    shiftOut k (expected+1) (window >>> 1) (if window.getLsbD 0 then lost else lost+1)

/-- `while ((s32)(seq - raw_tp_rx_expected_seq) >= 64)`; every turn comes nearer to `seq`. -/
def catchUp {w : Nat} (seq : UInt32) : Nat → UInt32 → BitVec 64 → BitVec w → UInt32 × BitVec 64 × BitVec w
  | 0,expected,window,lost => (expected,window,lost)
  | k+1,expected,window,lost =>
    if 64 ≤ delta seq expected then
      let (expected,window) := advance expected window
      catchUp seq k expected window (lost+1)
    else (expected,window,lost)

/-- `if (diff > 128)` -/
def jump {w : Nat} (seq expected : UInt32) (window : BitVec 64) (lost : BitVec w) :
    UInt32 × BitVec 64 × BitVec w :=
  if 128 < delta seq expected then
    let (expected,lost) := shiftOut 63 (expected+1) window (lost+1)
    let skip := (seq-expected)-63
    if 0 < skip then (expected+skip,0,lost+BitVec.ofNat w skip.toNat) else (expected,0,lost)
  else (expected,window,lost)

def countSeq {w : Nat} (s : RxStats w) (seq : UInt32) (len : Nat) : RxStats w :=
  let diff := delta seq s.expectedSeq
  let s := {s with total := s.total+1, rxLen := s.rxLen+BitVec.ofNat w len}
  if diff = 0 then
    let (expected,window) := advance s.expectedSeq s.window
    {s with expectedSeq := expected, window := window}
  else if 0 < diff then
    let (expected,window,lost) := jump seq s.expectedSeq s.window s.lost
    let (expected,window,lost) := catchUp seq (seq-expected).toNat expected window lost
    let s := {s with expectedSeq := expected, window := window, lost := lost}
    let diff := delta seq expected
    if diff = 0 then
      let (expected,window) := advance s.expectedSeq s.window
      {s with expectedSeq := expected, window := window}
    else if s.window.getLsbD (diff-1).toNat then {s with dup := s.dup+1}
    else {s with window := s.window ||| BitVec.twoPow 64 (diff-1).toNat, reorder := s.reorder+1}
  else {s with dup := s.dup+1}

/-! The two functions. -/

/-- What the host reads beside the counters; the second pair is read under the lock. -/
structure HostGate where
  timerRunning : Bool := true
  espToHost : Bool := true
  runId : UInt32
  stillRunning : Bool := true
  runIdNow : UInt32
  deriving DecidableEq, Repr

def Host.updateTestRawTpRxStats {w : Nat} (g : HostGate) (s : RxStats w) (mem : Buf) (len : Nat) : RxStats w :=
  if g.timerRunning = false ∨ g.espToHost = false then s
  else
    match Host.rxCheck g.runId mem len with
    | .otherRun => s
    | .badPayload =>
      if g.stillRunning = false ∨ g.runId ≠ g.runIdNow then s else {s with badPayload := s.badPayload+1}
    | .good seq => if g.stillRunning = false ∨ g.runId ≠ g.runIdNow then s else countSeq s seq len

structure FwGate where
  activeType : Nat := CMD_RAW_TP_HOST_TO_ESP.toNat
  runId : UInt32
  deriving DecidableEq, Repr

def Fw.debugUpdateRawTpRxCount (g : FwGate) (s : RxStats 64) (mem : Buf) (len : Nat) : RxStats 64 :=
  if g.activeType ≠ CMD_RAW_TP_HOST_TO_ESP.toNat ∧ g.activeType ≠ CMD_RAW_TP_BIDIRECTIONAL.toNat then s
  else
    match Fw.rxCheck g.runId mem len with
    | .otherRun => s
    | .badPayload => {s with badPayload := s.badPayload+1}
    | .good seq => countSeq s seq len

/-! Numbers passed over. -/

def skipped (S : Finset Int) (a b : Int) : Nat := (upto a b \ S).card

theorem skipped_split (S : Finset Int) {a b c : Int} (hab : a ≤ b) (hbc : b ≤ c) :
    skipped S a c = skipped S a b+skipped S b c := by
  have hu : upto a c = upto a b ∪ upto b c := by
    ext m
    simp only [mem_upto,Finset.mem_union]
    omega
  have hd : Disjoint (upto a b) (upto b c) := by
    refine Finset.disjoint_left.mpr fun m hm hm' => ?_
    simp only [mem_upto] at hm hm'
    omega
  rw [skipped,hu,Finset.union_sdiff_distrib,Finset.card_union_of_disjoint]
  · rfl
  · exact Finset.disjoint_of_subset_left Finset.sdiff_subset (Finset.disjoint_of_subset_right Finset.sdiff_subset hd)

theorem skipped_full {S : Finset Int} {a b : Int} (h : ∀ m, a ≤ m → m < b → m ∈ S) : skipped S a b = 0 := by
  rw [skipped,Finset.card_eq_zero,Finset.sdiff_eq_empty_iff_subset]
  intro m hm
  rw [mem_upto] at hm
  exact h m hm.1 hm.2

theorem skipped_none {S : Finset Int} {a b : Int} (h : ∀ m ∈ S, m < a) : skipped S a b = (b-a).toNat := by
  rw [skipped,Finset.sdiff_eq_self_of_disjoint,card_upto]
  rw [Finset.disjoint_right]
  intro m hm hi
  rw [mem_upto] at hi
  have := h m hm
  omega

theorem skipped_one {S : Finset Int} {a : Int} : skipped S a (a+1) = if a ∈ S then 0 else 1 := by
  have h : upto a (a+1) = {a} := by
    ext m
    simp only [mem_upto,Finset.mem_singleton]
    omega
  rw [skipped,h]
  split
  · next hm => rw [Finset.card_eq_zero,Finset.sdiff_eq_empty_iff_subset]; simpa using hm
  · next hm => rw [Finset.sdiff_eq_self_of_disjoint (by simpa using hm),Finset.card_singleton]

theorem skipped_insert {S : Finset Int} {a b n : Int} (h : n < a ∨ b ≤ n) :
    skipped (insert n S) a b = skipped S a b := by
  rw [skipped,skipped,Finset.sdiff_insert,Finset.erase_eq_of_notMem]
  simp only [Finset.mem_sdiff,mem_upto]
  omega

/-! The window against a set of numbers. -/

/-- Bit `i` is about `E+i`, as inside the loops. -/
def Aligned (e : UInt32) (win : BitVec 64) (E : Int) (S : Finset Int) : Prop :=
  e = serial E ∧ ∀ i < 64, win.getLsbD i = decide (E+i ∈ S)

/-- Bit `i` is about `E+1+i`, and `E` has not come. -/
def Rested (e : UInt32) (win : BitVec 64) (E : Int) (S : Finset Int) : Prop :=
  e = serial E ∧ E ∉ S ∧ ∀ i < 64, win.getLsbD i = decide (E+1+i ∈ S)

theorem Rested.aligned {e : UInt32} {win : BitVec 64} {E : Int} {S : Finset Int} (h : Rested e win E S) :
    Aligned (e+1) win (E+1) S :=
  ⟨by rw [h.1,serial_succ],h.2.2⟩

theorem Aligned.bits_shift {e : UInt32} {win : BitVec 64} {E B : Int} {S : Finset Int} (h : Aligned e win E S)
    (hB : ∀ m ∈ S, m < B) (hE : B ≤ E+64) :
    ∀ i < 64, (win >>> 1).getLsbD i = decide (E+1+i ∈ S) := by
  intro i hi
  rw [BitVec.getLsbD_ushiftRight]
  by_cases h63 : i = 63
  · subst h63
    have hn : E+1+(63 : Nat) ∉ S := fun hm => by have := hB _ hm; omega
    rw [BitVec.getLsbD_of_ge _ _ (by decide),decide_eq_false hn]
  · rw [h.2 (1+i) (by omega)]
    rw [show E+((1+i : Nat) : Int) = E+1+i by omega]

theorem Aligned.shift {e : UInt32} {win : BitVec 64} {E B : Int} {S : Finset Int} (h : Aligned e win E S)
    (hB : ∀ m ∈ S, m < B) (hE : B ≤ E+64) : Aligned (e+1) (win >>> 1) (E+1) S :=
  ⟨by rw [h.1,serial_succ],h.bits_shift hB hE⟩

theorem drain_spec {B : Int} {S : Finset Int} (hB : ∀ m ∈ S, m < B) (k : Nat) :
    ∀ (e : UInt32) (win : BitVec 64) (E : Int), Aligned e win E S → B ≤ E+64 → B ≤ E+k →
    ∃ E', E ≤ E' ∧ E' ∉ S ∧ (∀ m, E ≤ m → m < E' → m ∈ S) ∧ E' ≤ max E B ∧
      Aligned (drain k e win).1 (drain k e win).2 E' S := by
  induction k with
  | zero =>
    intro e win E h _ hk
    refine ⟨E,Int.le_refl E,fun hm => ?_,fun m h1 h2 => by omega,Int.le_max_left _ _,h⟩
    have := hB E hm
    omega
  | succ k ih =>
    intro e win E h h64 hk
    have hbit := h.2 0 (by decide)
    rw [Int.natCast_zero,Int.add_zero] at hbit
    by_cases hm : E ∈ S
    · have hEB := hB E hm
      obtain ⟨E',h1,h2,h3,h4,h5⟩ := ih (e+1) (win >>> 1) (E+1) (h.shift hB h64) (by omega) (by omega)
      rw [decide_eq_true hm] at hbit
      rw [drain,if_pos hbit]
      refine ⟨E',by omega,h2,fun m hm1 hm2 => ?_,by omega,h5⟩
      by_cases hme : m = E
      · exact hme ▸ hm
      · exact h3 m (by omega) hm2
    · rw [decide_eq_false hm] at hbit
      rw [drain,hbit,if_neg Bool.false_ne_true]
      exact ⟨E,Int.le_refl E,hm,fun m h1 h2 => by omega,Int.le_max_left _ _,h⟩

theorem advance_spec {B : Int} {S : Finset Int} (hB : ∀ m ∈ S, m < B) {e : UInt32} {win : BitVec 64} {E : Int}
    (h : Rested e win E S) (hE : B ≤ E+64) :
    ∃ E', E < E' ∧ E' ∉ S ∧ (∀ m, E < m → m < E' → m ∈ S) ∧ E' ≤ max (E+1) B ∧
      Rested (advance e win).1 (advance e win).2 E' S := by
  obtain ⟨E',h1,h2,h3,h4,h5⟩ := drain_spec hB 64 (e+1) win (E+1) h.aligned (by omega) (by omega)
  exact ⟨E',by omega,h2,fun m hm1 hm2 => h3 m (by omega) hm2,h4,h5.1,h2,h5.bits_shift hB (by omega)⟩

theorem shiftOut_spec {w : Nat} {B : Int} {S : Finset Int} (hB : ∀ m ∈ S, m < B) (k : Nat) :
    ∀ (e : UInt32) (win : BitVec 64) (lost : BitVec w) (E : Int), Aligned e win E S → B ≤ E+64 →
    shiftOut k e win lost = (serial (E+k),lost+BitVec.ofNat w (skipped S E (E+k))) := by
  induction k with
  | zero =>
    intro e win lost E h _
    simp [shiftOut,h.1,skipped,upto]
  | succ k ih =>
    intro e win lost E h hE
    have hbit := h.2 0 (by decide)
    rw [Int.natCast_zero,Int.add_zero] at hbit
    rw [shiftOut,hbit,ih _ _ _ (E+1) (h.shift hB hE) (by omega),
      skipped_split S (show E ≤ E+1 by omega) (show E+1 ≤ E+((k+1 : Nat) : Int) by omega),skipped_one,
      show E+1+(k : Int) = E+((k+1 : Nat) : Int) by omega]
    by_cases hm : E ∈ S
    · simp [hm]
    · simp [hm,BitVec.ofNat_add,BitVec.add_assoc]

theorem jump_spec {w : Nat} {S : Finset Int} {e : UInt32} {win : BitVec 64} {E n : Int} (lost : BitVec w)
    (hB : ∀ m ∈ S, m < E+64) (h : Rested e win E S) (h1 : 128 < n-E) (h2 : n-E < 2^31) :
    jump (serial n) e win lost = (serial (n-63),0,lost+BitVec.ofNat w (skipped S E (n-63))) ∧
      Rested (serial (n-63)) 0 (n-63) S := by
  have hd : 128 < delta (serial n) e := by rw [h.1,delta_eq (by omega) h2]; exact h1
  have hs := shiftOut_spec hB 63 (e+1) win (lost+1) (E+1) h.aligned (by omega)
  have hskip : serial n-serial (E+1+(63 : Nat))-63 = serial (n-E-127) := by
    rw [← serial_sub,show (63 : UInt32) = serial 63 from rfl,← serial_sub]
    congr 1
    omega
  have hto : (serial (n-E-127)).toNat = (n-E-127).toNat := by
    have := serial_toNat (n-E-127)
    omega
  have hpos : 0 < serial (n-E-127) := by
    rw [UInt32.lt_iff_toNat_lt,hto]
    show 0 < (n-E-127).toNat
    omega
  have hfar : ∀ m ∈ S, m < n-63 := fun m hm => by have := hB m hm; omega
  constructor
  · rw [jump,if_pos hd,hs]
    simp only
    rw [hskip,if_pos hpos,hto,← serial_add,show E+1+((63 : Nat) : Int)+(n-E-127) = n-63 by omega,
      skipped_split S (show E ≤ E+1 by omega) (show E+1 ≤ n-63 by omega),skipped_one,if_neg h.2.1,
      skipped_split S (show E+1 ≤ E+1+((63 : Nat) : Int) by omega) (show E+1+((63 : Nat) : Int) ≤ n-63 by omega),
      skipped_none (a := E+1+((63 : Nat) : Int)) (fun m hm => by have := hB m hm; omega),
      show (n-63-(E+1+((63 : Nat) : Int))).toNat = (n-E-127).toNat by omega]
    simp [BitVec.ofNat_add,BitVec.add_assoc]
  · refine ⟨rfl,fun hm => ?_,fun i _ => ?_⟩
    · have := hfar _ hm
      omega
    · have hn : n-63+1+(i : Int) ∉ S := fun hm => by have := hfar _ hm; omega
      rw [decide_eq_false hn]
      simp

/-- The least number after `E` and from `n-63` on that has not come. -/
structure Reaches (S : Finset Int) (n E E' : Int) : Prop where
  le : E ≤ E'
  upto : E' ≤ n
  near : n-E' < 64
  open_ : E' ∉ S
  full : ∀ m, E ≤ m → n-63 ≤ m → m < E' → m ∈ S

theorem catchUp_spec {w : Nat} {B n : Int} {S : Finset Int} (hB : ∀ m ∈ S, m < B) (k : Nat) :
    ∀ (e : UInt32) (win : BitVec 64) (lost : BitVec w) (E : Int), Rested e win E S → B ≤ E+64 →
    E ≤ n → n-E < 2^31 → (64 ≤ n-E → B ≤ n) → n-E ≤ k →
    ∃ E', Reaches S n E E' ∧
      Rested (catchUp (serial n) k e win lost).1 (catchUp (serial n) k e win lost).2.1 E' S ∧
      (catchUp (serial n) k e win lost).2.2 = lost+BitVec.ofNat w (skipped S E E') := by
  induction k with
  | zero =>
    intro e win lost E h hE hn _ _ hk
    refine ⟨E,⟨Int.le_refl E,hn,by omega,h.2.1,fun m h1 h2 h3 => by omega⟩,h,?_⟩
    simp [catchUp,skipped,upto]
  | succ k ih =>
    intro e win lost E h hE hn h31 hBn hk
    have hd : delta (serial n) e = n-E := by rw [h.1,delta_eq (by omega) h31]
    by_cases h64 : 64 ≤ n-E
    · obtain ⟨E1,h1,h2,h3,h4,h5⟩ := advance_spec hB h hE
      have hBn := hBn h64
      obtain ⟨E',r,h6,h7⟩ := ih _ _ (lost+1) E1 h5 (by omega) (by omega) (by omega) (fun _ => hBn) (by omega)
      have hr := r.le
      rw [catchUp,hd,if_pos h64]
      refine ⟨E',⟨by omega,r.upto,r.near,r.open_,fun m hm1 hm2 hm3 => ?_⟩,h6,?_⟩
      · by_cases hm : m < E1
        · exact h3 m (by omega) hm
        · exact r.full m (by omega) hm2 hm3
      · refine h7.trans ?_
        rw [skipped_split S (show E ≤ E1 by omega) r.le,skipped_split S (show E ≤ E+1 by omega) (by omega : E+1 ≤ E1),
          skipped_one,if_neg h.2.1,skipped_full (fun m hm1 hm2 => h3 m (by omega) hm2)]
        simp [BitVec.ofNat_add,BitVec.add_assoc]
    · rw [catchUp,hd,if_neg h64]
      refine ⟨E,⟨Int.le_refl E,hn,by omega,h.2.1,fun m h1 h2 h3 => by omega⟩,h,?_⟩
      simp [skipped,upto]

/-- The counters as the receiver with a window of 64 numbers has them. -/
structure Rep {w : Nat} (s : RxStats w) (r : Receiver) : Prop where
  ok : r.Ok 64
  rested : Rested s.expectedSeq s.window r.next r.got
  lost : s.lost = BitVec.ofNat w r.missing.card
  dup : s.dup = BitVec.ofNat w r.dups

theorem missing_card (r : Receiver) : r.missing.card = skipped r.got 0 r.next := rfl

/-- What a new number does once the loops have found `E'`. -/
theorem Rep.arrive_of {w : Nat} {s s' : RxStats w} {r : Receiver} {n E' : Int} (h : Rep s r)
    (hn : r.next ≤ n) (hg : n ∉ r.got) (hle : r.next ≤ E') (hnear : n-E' < 64) (hopen : E' ∉ insert n r.got)
    (hfull : ∀ m, r.next ≤ m → n-63 ≤ m → m < E' → m ∈ insert n r.got)
    (hrest : Rested s'.expectedSeq s'.window E' (insert n r.got))
    (hlost : s'.lost = s.lost+BitVec.ofNat w (skipped (insert n r.got) r.next E')) (hdup : s'.dup = s.dup) :
    Rep s' (r.arrive 64 n) := by
  have hnew : ¬(n < r.next ∨ n ∈ r.got) := by
    rintro (h | h)
    · omega
    · exact hg h
  have hnext : firstGap (insert n r.got) (max r.next (n+1-64)) = E' :=
    firstGap_unique (by omega) hopen fun m h1 h2 => hfull m (by omega) (by omega) h2
  have hok := h.ok.arrive n
  have h0 := h.ok.nonneg
  rw [Receiver.arrive_new hnew,hnext] at hok ⊢
  refine ⟨hok,hrest,?_,hdup.trans h.dup⟩
  rw [hlost,h.lost,← BitVec.ofNat_add,missing_card,missing_card]
  simp only
  rw [skipped_split (insert n r.got) h0 hle,skipped_insert (.inr hn)]

theorem Rested.insert_lt {e : UInt32} {win : BitVec 64} {E n : Int} {S : Finset Int} (h : Rested e win E S)
    (hn : n < E) : Rested e win E (insert n S) := by
  refine ⟨h.1,fun hm => ?_,fun i hi => ?_⟩
  · rcases Finset.mem_insert.mp hm with he | hm
    · omega
    · exact h.2.1 hm
  · rw [h.2.2 i hi]
    simp only [Finset.mem_insert,decide_eq_decide]
    constructor
    · exact .inr
    · rintro (he | hm)
      · omega
      · exact hm

theorem Rested.insert_bit {e : UInt32} {win : BitVec 64} {E n : Int} {S : Finset Int} (h : Rested e win E S)
    (hn : E < n) (h64 : n-E < 64) : Rested e (win ||| BitVec.twoPow 64 (n-E-1).toNat) E (insert n S) := by
  refine ⟨h.1,fun hm => ?_,fun i hi => ?_⟩
  · rcases Finset.mem_insert.mp hm with he | hm
    · omega
    · exact h.2.1 hm
  · rw [BitVec.getLsbD_or,h.2.2 i hi,BitVec.getLsbD_twoPow]
    by_cases he : i = (n-E-1).toNat
    · have hni : E+1+(i : Int) = n := by omega
      simp [← he,hi,hni]
    · have hni : E+1+(i : Int) ≠ n := by omega
      simp only [Finset.mem_insert,hni,false_or,Bool.or_eq_left_iff_imp,Bool.and_eq_true,decide_eq_true_eq]
      exact fun h => absurd h.2.symm he

/-- The branch of a number ahead of the expected one, up to the second `diff`. -/
theorem reach_spec {w : Nat} {s : RxStats w} {r : Receiver} {n : Int} (h : Rep s r) (h1 : 0 < n-r.next)
    (h2 : n-r.next < 2^31) :
    let j := jump (serial n) s.expectedSeq s.window s.lost
    let c := catchUp (serial n) (serial n-j.1).toNat j.1 j.2.1 j.2.2
    ∃ E', Reaches r.got n r.next E' ∧ Rested c.1 c.2.1 E' r.got ∧
      c.2.2 = s.lost+BitVec.ofNat w (skipped r.got r.next E') := by
  intro j
  have hB := h.ok.near
  have hto (E : Int) (h0 : 0 ≤ n-E) (h31 : n-E < 2^31) : ((serial n-serial E).toNat : Int) = n-E := by
    rw [← serial_sub,serial_toNat]
    omega
  by_cases h128 : 128 < n-r.next
  · obtain ⟨hj,hr⟩ := jump_spec s.lost hB h.rested h128 h2
    have hje : j = (serial (n-63),0,s.lost+BitVec.ofNat w (skipped r.got r.next (n-63))) := hj
    rw [hje]
    obtain ⟨E',hE,hrest,hl⟩ := catchUp_spec hB (serial n-serial (n-63)).toNat (serial (n-63)) 0
      (s.lost+BitVec.ofNat w (skipped r.got r.next (n-63))) (n-63) hr (by omega) (by omega) (by omega)
      (by omega) (Int.le_of_eq (hto (n-63) (by omega) (by omega)).symm)
    have hle := hE.le
    refine ⟨E',⟨by omega,hE.upto,hE.near,hE.open_,fun m _ hm2 hm3 => hE.full m hm2 hm2 hm3⟩,hrest,?_⟩
    refine hl.trans ?_
    rw [skipped_split r.got (show r.next ≤ n-63 by omega) hE.le,BitVec.ofNat_add,BitVec.add_assoc]
  · have hd : delta (serial n) s.expectedSeq = n-r.next := by rw [h.rested.1,delta_eq (by omega) h2]
    have hje : j = (s.expectedSeq,s.window,s.lost) := by
      show jump (serial n) s.expectedSeq s.window s.lost = _
      rw [jump,hd,if_neg h128]
    rw [hje]
    obtain ⟨E',hE,hrest,hl⟩ := catchUp_spec hB (serial n-s.expectedSeq).toNat s.expectedSeq s.window
      s.lost r.next h.rested (by omega) (by omega) h2 (by omega)
      (by rw [h.rested.1,hto r.next (by omega) h2])
    exact ⟨E',hE,hrest,hl⟩

theorem countSeq_rep {w : Nat} {s : RxStats w} {r : Receiver} {n : Int} (len : Nat) (h : Rep s r)
    (h1 : -2^31 ≤ n-r.next) (h2 : n-r.next < 2^31) : Rep (countSeq s (serial n) len) (r.arrive 64 n) := by
  have hd : delta (serial n) s.expectedSeq = n-r.next := by rw [h.rested.1,delta_eq h1 h2]
  have hold (hr : n < r.next ∨ n ∈ r.got) (s' : RxStats w)
      (hrest : Rested s'.expectedSeq s'.window r.next r.got) (hl : s'.lost = s.lost)
      (hdup : s'.dup = s.dup+1) : Rep s' (r.arrive 64 n) := by
    rw [Receiver.arrive_old hr]
    refine ⟨⟨h.ok.open_,h.ok.near,h.ok.nonneg⟩,hrest,hl.trans h.lost,?_⟩
    rw [hdup,h.dup]
    simp [BitVec.ofNat_add]
  have hB := h.ok.near
  rcases Int.lt_trichotomy n r.next with hlt | heq | hgt
  · simp only [countSeq,hd]
    rw [if_neg (by omega),if_neg (by omega)]
    exact hold (.inl hlt) _ h.rested rfl rfl
  · subst heq
    obtain ⟨E',e1,e2,e3,e4,e5⟩ := advance_spec hB h.rested (Int.le_refl _)
    simp only [countSeq,hd]
    rw [if_pos (by omega)]
    have hfull : ∀ m, r.next ≤ m → m < E' → m ∈ insert r.next r.got := fun m hm1 hm2 => by
      by_cases hm : m = r.next
      · exact hm ▸ Finset.mem_insert_self _ _
      · exact Finset.mem_insert_of_mem (e3 m (by omega) hm2)
    refine h.arrive_of (Int.le_refl _) h.rested.2.1 (by omega) (by omega) ?_
      (fun m hm1 _ hm3 => hfull m hm1 hm3) (e5.insert_lt e1) ?_ rfl
    · exact fun hm => (Finset.mem_insert.mp hm).elim (by omega) e2
    · rw [skipped_full hfull]
      simp
  · obtain ⟨E',hE,hrest,hl⟩ := reach_spec h (by omega) h2
    simp only [countSeq,hd]
    rw [if_neg (by omega),if_pos (by omega)]
    generalize jump (serial n) s.expectedSeq s.window s.lost = j at hrest hl ⊢
    generalize catchUp (serial n) (serial n-j.1).toNat j.1 j.2.1 j.2.2 = c at hrest hl ⊢
    have hle := hE.le
    have hup := hE.upto
    have hnear := hE.near
    have hd' : delta (serial n) c.1 = n-E' := by rw [hrest.1,delta_eq (by omega) (by omega)]
    rw [hd']
    by_cases h0 : n-E' = 0
    · have hn : n = E' := by omega
      obtain ⟨E2,e1,e2,e3,e4,e5⟩ := advance_spec (fun m hm => (by
        have := hB m hm
        omega : m < max (r.next+64) (E'+1))) hrest (by omega)
      rw [if_pos h0]
      have hfull : ∀ m, E' ≤ m → m < E2 → m ∈ insert n r.got := fun m hm1 hm2 => by
        by_cases hm : m = n
        · exact hm ▸ Finset.mem_insert_self _ _
        · exact Finset.mem_insert_of_mem (e3 m (by omega) hm2)
      refine h.arrive_of (by omega) (hn ▸ hE.open_) (by omega) (by omega) ?_ (fun m hm1 hm2 hm3 => ?_)
        (e5.insert_lt (by omega)) ?_ rfl
      · exact fun hm => (Finset.mem_insert.mp hm).elim (by omega) e2
      · by_cases hm : m < E'
        · exact Finset.mem_insert_of_mem (hE.full m hm1 hm2 hm)
        · exact hfull m (by omega) hm3
      · simp only [hl]
        rw [skipped_split (insert n r.got) hle (by omega : E' ≤ E2),skipped_full hfull,Nat.add_zero,
          skipped_insert (.inr (by omega))]
    · have hbit := hrest.2.2 (n-E'-1).toNat (by omega)
      rw [show E'+1+((n-E'-1).toNat : Int) = n by omega] at hbit
      rw [if_neg h0,hbit]
      by_cases hm : n ∈ r.got
      · have hEE : E' = r.next := by
          by_cases he : E' = r.next
          · exact he
          · have := hB n hm
            exact absurd (hE.full r.next (Int.le_refl _) (by omega) (by omega)) h.ok.open_
        subst hEE
        rw [decide_eq_true hm,if_pos rfl]
        refine hold (.inr hm) _ hrest ?_ rfl
        rw [hl]
        simp [skipped,upto]
      · simp only [hm,decide_false,Bool.false_eq_true,if_false]
        refine h.arrive_of (by omega) hm hle (by omega) ?_
          (fun m hm1 hm2 hm3 => Finset.mem_insert_of_mem (hE.full m hm1 hm2 hm3))
          (hrest.insert_bit (by omega) hE.near) ?_ rfl
        · exact fun hm' => (Finset.mem_insert.mp hm').elim (by omega) hE.open_
        · simp only [hl]
          rw [skipped_insert (.inr hup)]

/-! Runs. -/

/-- Each number is less than half the range away from the expected one when it comes. -/
def NoJump : Receiver → List Int → Prop
  | _,[] => True
  | r,n :: ns => (-2^31 ≤ n-r.next ∧ n-r.next < 2^31) ∧ NoJump (r.arrive 64 n) ns

instance NoJump.decide : ∀ (r : Receiver) (ns : List Int), Decidable (NoJump r ns)
  | _,[] => inferInstanceAs (Decidable True)
  | r,n :: ns =>
    have := NoJump.decide (r.arrive 64 n) ns
    inferInstanceAs (Decidable (_ ∧ _))

theorem rep_start (w : Nat) : Rep ({} : RxStats w) {} := by
  refine ⟨Receiver.ok_start 64,⟨rfl,by simp,fun i _ => by simp⟩,?_,rfl⟩
  simp [Receiver.missing,upto]

/-! Other counters. -/

@[simp] theorem countSeq_total {w : Nat} (s : RxStats w) (seq : UInt32) (len : Nat) :
    (countSeq s seq len).total = s.total+1 := by
  simp only [countSeq]
  split
  · rfl
  · split
    · split
      · rfl
      · split <;> rfl
    · rfl

def RxStats.narrow {v : Nat} (w : Nat) (s : RxStats v) : RxStats w where
  expectedSeq := s.expectedSeq
  window := s.window
  total := s.total.setWidth w
  lost := s.lost.setWidth w
  dup := s.dup.setWidth w
  reorder := s.reorder.setWidth w
  badPayload := s.badPayload.setWidth w
  rxLen := s.rxLen.setWidth w

section narrow
variable {v w : Nat}

theorem setWidth_add_ofNat (hw : w ≤ v) (x : BitVec v) (n : Nat) :
    (x+BitVec.ofNat v n).setWidth w = x.setWidth w+BitVec.ofNat w n := by
  rw [BitVec.setWidth_add _ _ hw,BitVec.setWidth_ofNat_of_le hw]

theorem setWidth_succ (hw : w ≤ v) (x : BitVec v) : (x+1).setWidth w = x.setWidth w+1 :=
  setWidth_add_ofNat hw x 1

theorem shiftOut_narrow (hw : w ≤ v) (k : Nat) : ∀ (e : UInt32) (win : BitVec 64) (lost : BitVec v),
    shiftOut k e win (lost.setWidth w) = ((shiftOut k e win lost).1,(shiftOut k e win lost).2.setWidth w) := by
  induction k with
  | zero => intro e win lost; rfl
  | succ k ih =>
    intro e win lost
    rw [shiftOut,shiftOut,← ih]
    congr 1
    split
    · rfl
    · rw [setWidth_succ hw]

theorem jump_narrow (hw : w ≤ v) (seq e : UInt32) (win : BitVec 64) (lost : BitVec v) :
    jump seq e win (lost.setWidth w) =
      ((jump seq e win lost).1,(jump seq e win lost).2.1,(jump seq e win lost).2.2.setWidth w) := by
  rw [jump,jump,← setWidth_succ hw,shiftOut_narrow hw]
  split
  · simp only
    split
    · rw [setWidth_add_ofNat hw]
    · rfl
  · rfl

theorem catchUp_narrow (hw : w ≤ v) (seq : UInt32) (k : Nat) : ∀ (e : UInt32) (win : BitVec 64) (lost : BitVec v),
    catchUp seq k e win (lost.setWidth w) =
      ((catchUp seq k e win lost).1,(catchUp seq k e win lost).2.1,(catchUp seq k e win lost).2.2.setWidth w) := by
  induction k with
  | zero => intro e win lost; rfl
  | succ k ih =>
    intro e win lost
    rw [catchUp,catchUp,← setWidth_succ hw]
    split
    · exact ih _ _ _
    · rfl

theorem countSeq_narrow (hw : w ≤ v) (s : RxStats v) (seq : UInt32) (len : Nat) :
    countSeq (s.narrow w) seq len = (countSeq s seq len).narrow w := by
  have hj := jump_narrow hw seq s.expectedSeq s.window s.lost
  simp only [countSeq,RxStats.narrow,hj]
  generalize jump seq s.expectedSeq s.window s.lost = j
  rw [catchUp_narrow hw]
  generalize catchUp seq (seq-j.1).toNat j.1 j.2.1 j.2.2 = c
  split
  · simp [setWidth_add_ofNat hw]
  · split
    · split
      · simp [setWidth_add_ofNat hw]
      · split <;> simp [setWidth_add_ofNat hw]
    · simp [setWidth_add_ofNat hw]

end narrow

/-! Frames. -/

abbrev Frame := Buf × Nat

def hostRun {w : Nat} (g : HostGate) (s : RxStats w) (frames : List Frame) : RxStats w :=
  frames.foldl (fun s f => Host.updateTestRawTpRxStats g s f.1 f.2) s

def fwRun (g : FwGate) (s : RxStats 64) (frames : List Frame) : RxStats 64 :=
  frames.foldl (fun s f => Fw.debugUpdateRawTpRxCount g s f.1 f.2) s

/-- The numbers of the frames of a run that hold its pattern. -/
def goodSeqs (runId : UInt32) (frames : List Frame) : List UInt32 :=
  frames.filterMap fun f =>
    match Fw.rxCheck runId f.1 f.2 with
    | .good seq => some seq
    | _ => none

/-- The host is in its run, and stays in it up to the lock. -/
def HostGate.Open (g : HostGate) : Prop :=
  g.timerRunning = true ∧ g.espToHost = true ∧ g.stillRunning = true ∧ g.runId = g.runIdNow

def FwGate.Open (g : FwGate) : Prop :=
  g.activeType = CMD_RAW_TP_HOST_TO_ESP.toNat ∨ g.activeType = CMD_RAW_TP_BIDIRECTIONAL.toNat

theorem goodSeqs_cons (runId : UInt32) (f : Frame) (frames : List Frame) :
    goodSeqs runId (f :: frames) =
      (match Fw.rxCheck runId f.1 f.2 with | .good seq => [seq] | _ => []) ++ goodSeqs runId frames := by
  simp only [goodSeqs,List.filterMap_cons]
  cases Fw.rxCheck runId f.1 f.2 <;> rfl

theorem fw_step {g : FwGate} (hg : g.Open) (s : RxStats 64) (f : Frame) :
    Fw.debugUpdateRawTpRxCount g s f.1 f.2 =
      match Fw.rxCheck g.runId f.1 f.2 with
      | .otherRun => s
      | .badPayload => {s with badPayload := s.badPayload+1}
      | .good seq => countSeq s seq f.2 := by
  have h : ¬(g.activeType ≠ CMD_RAW_TP_HOST_TO_ESP.toNat ∧ g.activeType ≠ CMD_RAW_TP_BIDIRECTIONAL.toNat) := by
    rintro ⟨h1,h2⟩
    exact hg.elim h1 h2
  rw [Fw.debugUpdateRawTpRxCount,if_neg h]

theorem host_step {w : Nat} {g : HostGate} (hg : g.Open) (s : RxStats w) (f : Frame) :
    Host.updateTestRawTpRxStats g s f.1 f.2 =
      match Fw.rxCheck g.runId f.1 f.2 with
      | .otherRun => s
      | .badPayload => {s with badPayload := s.badPayload+1}
      | .good seq => countSeq s seq f.2 := by
  obtain ⟨h1,h2,h3,h4⟩ := hg
  simp [Host.updateTestRawTpRxStats,h1,h2,h3,h4,rxCheck_eq]

theorem hostRun_eq_narrow {w : Nat} (hw : w ≤ 64) {g : HostGate} {fg : FwGate} (hg : g.Open) (hf : fg.Open)
    (hr : g.runId = fg.runId) (frames : List Frame) : ∀ t : RxStats 64,
    hostRun g (t.narrow w) frames = (fwRun fg t frames).narrow w := by
  induction frames with
  | nil => intro t; rfl
  | cons f frames ih =>
    intro t
    have hs : Host.updateTestRawTpRxStats g (t.narrow w) f.1 f.2 =
        (Fw.debugUpdateRawTpRxCount fg t f.1 f.2).narrow w := by
      rw [host_step hg,fw_step hf,hr]
      cases Fw.rxCheck fg.runId f.1 f.2 with
      | otherRun => rfl
      | badPayload => simp [RxStats.narrow,setWidth_add_ofNat hw]
      | good seq => exact countSeq_narrow hw t seq f.2
    have h := ih (Fw.debugUpdateRawTpRxCount fg t f.1 f.2)
    rw [← hs] at h
    exact h

theorem narrow_start (w : Nat) : ({} : RxStats 64).narrow w = {} := by simp [RxStats.narrow]

/-- What the counters say about the numbers that came. -/
structure Accounts {w : Nat} (s : RxStats w) (r : Receiver) (ns : List Int) : Prop where
  expected : s.expectedSeq = serial r.next
  open_ : r.next ∉ ns
  window : ∀ i < 64, (s.window.getLsbD i = true ↔ r.next+1+i ∈ ns)
  near : ∀ n ∈ ns, n < r.next+64
  missing : ∀ m ∈ r.missing, ∃ n ∈ ns, m+64 ≤ n
  lost : s.lost = BitVec.ofNat w r.missing.card
  dup : s.dup = BitVec.ofNat w r.dups
  each : r.got.card+r.dups = ns.length
  total : s.total = BitVec.ofNat w ns.length

theorem Rep.congr {w : Nat} {s s' : RxStats w} {r : Receiver} (h : Rep s r) (he : s'.expectedSeq = s.expectedSeq)
    (hw : s'.window = s.window) (hl : s'.lost = s.lost) (hd : s'.dup = s.dup) : Rep s' r := by
  refine ⟨h.ok,?_,hl.trans h.lost,hd.trans h.dup⟩
  rw [he,hw]
  exact h.rested

theorem fwRun_rep {g : FwGate} (hg : g.Open) (frames : List Frame) :
    ∀ {t : RxStats 64} {r : Receiver} {ns : List Int}, Rep t r → goodSeqs g.runId frames = ns.map serial →
    NoJump r ns → Rep (fwRun g t frames) (r.run 64 ns) ∧
      (fwRun g t frames).total = t.total+BitVec.ofNat 64 ns.length := by
  induction frames with
  | nil =>
    intro t r ns h hs hj
    obtain rfl : ns = [] := List.map_eq_nil_iff.mp hs.symm
    exact ⟨h,by simp [fwRun]⟩
  | cons f frames ih =>
    intro t r ns h hs hj
    have hrun : fwRun g t (f :: frames) = fwRun g (Fw.debugUpdateRawTpRxCount g t f.1 f.2) frames := rfl
    rw [goodSeqs_cons] at hs
    rw [hrun,fw_step hg]
    cases hc : Fw.rxCheck g.runId f.1 f.2 with
    | otherRun =>
      rw [hc] at hs
      exact ih h hs hj
    | badPayload =>
      rw [hc] at hs
      exact ih (h.congr rfl rfl rfl rfl) hs hj
    | good seq =>
      rw [hc] at hs
      cases ns with
      | nil => cases hs
      | cons n ns =>
        obtain ⟨rfl,htail⟩ := List.cons.inj hs
        obtain ⟨h1,h2⟩ := ih (countSeq_rep f.2 h hj.1.1 hj.1.2) htail hj.2
        refine ⟨h1,h2.trans ?_⟩
        rw [countSeq_total,List.length_cons,Nat.add_comm ns.length 1,BitVec.ofNat_add,BitVec.add_assoc]
        rfl

theorem Accounts.of_rep {w : Nat} {s : RxStats w} {ns : List Int}
    (h : Rep s (Receiver.run 64 {} ns)) (ht : s.total = BitVec.ofNat w ns.length) :
    Accounts s (Receiver.run 64 {} ns) ns := by
  have hmem {m : Int} (hm : (Receiver.run 64 {} ns).next ≤ m) :
      m ∈ (Receiver.run 64 {} ns).got ↔ m ∈ ns := by
    rw [Receiver.mem_run ns {} hm]
    simp
  refine ⟨h.rested.1,fun ho => h.ok.open_ ((hmem (Int.le_refl _)).mpr ho),fun i hi => ?_,
    (Receiver.ok_start 64).near_run (by decide) ns,fun m hm => Receiver.missing_run ns hm,h.lost,h.dup,?_,ht⟩
  · rw [h.rested.2.2 i hi,decide_eq_true_eq,hmem (by omega)]
  · rw [Receiver.card_run]
    simp

/-! Frames of packets, for runs on fixed numbers. -/

def packet (runId seq : UInt32) : Frame :=
  (fun k => if k < headerSize then if k = 6 then 12 else 0 else Host.rawTpPayload seq runId (k-headerSize),
    testRawTpBufSize)

theorem rxCheck_packet (runId seq : UInt32) :
    Fw.rxCheck runId (packet runId seq).1 (packet runId seq).2 = .good seq := by
  refine (Fw.rxCheck_good_iff runId _ _ seq).mpr ⟨rfl,fun k _ => ?_⟩
  have ho : getHalf (packet runId seq).1 6 = headerSize := rfl
  rw [ho,packet]
  simp only
  rw [if_neg (by omega),Nat.add_sub_cancel_left]

theorem goodSeqs_packets (runId : UInt32) (seqs : List UInt32) : goodSeqs runId (seqs.map (packet runId)) = seqs := by
  induction seqs with
  | nil => rfl
  | cons seq seqs ih => rw [List.map_cons,goodSeqs_cons,rxCheck_packet,ih]; rfl

theorem hostRun_packets {w : Nat} {g : HostGate} (hg : g.Open) (seqs : List UInt32) : ∀ s : RxStats w,
    hostRun g s (seqs.map (packet g.runId)) = seqs.foldl (fun s seq => countSeq s seq testRawTpBufSize) s := by
  induction seqs with
  | nil => intro s; rfl
  | cons seq seqs ih =>
    intro s
    rw [List.map_cons,hostRun,List.foldl_cons,host_step hg,rxCheck_packet]
    exact ih _

theorem fwRun_packets {g : FwGate} (hg : g.Open) (seqs : List UInt32) : ∀ s : RxStats 64,
    fwRun g s (seqs.map (packet g.runId)) = seqs.foldl (fun s seq => countSeq s seq testRawTpBufSize) s := by
  induction seqs with
  | nil => intro s; rfl
  | cons seq seqs ih =>
    intro s
    rw [List.map_cons,fwRun,List.foldl_cons,fw_step hg,rxCheck_packet]
    exact ih _

/-- The section of the host and of the firmware over any frames, the host's counters in `w` bits. -/
theorem rx_accounting {w : Nat} (hw : w ≤ 64) {g : HostGate} {fg : FwGate} (hg : g.Open) (hf : fg.Open)
    (hr : g.runId = fg.runId) {frames : List Frame} {ns : List Int}
    (hs : goodSeqs g.runId frames = ns.map serial) (hj : NoJump {} ns) :
    Accounts (hostRun g ({} : RxStats w) frames) (Receiver.run 64 {} ns) ns ∧
    Accounts (fwRun fg {} frames) (Receiver.run 64 {} ns) ns ∧
    hostRun g {} frames = (fwRun fg {} frames).narrow w := by
  have he : hostRun g ({} : RxStats w) frames = (fwRun fg {} frames).narrow w := by
    rw [← narrow_start w]
    exact hostRun_eq_narrow hw hg hf hr frames {}
  rw [hr] at hs
  obtain ⟨hrep,htotal⟩ := fwRun_rep hf frames (rep_start 64) hs hj
  have ht : (fwRun fg {} frames).total = BitVec.ofNat 64 ns.length := htotal.trans (by simp)
  have hrepw : Rep ((fwRun fg {} frames).narrow w) (Receiver.run 64 {} ns) := by
    refine ⟨hrep.ok,hrep.rested,?_,?_⟩
    · rw [RxStats.narrow,hrep.lost,BitVec.setWidth_ofNat_of_le hw]
    · rw [RxStats.narrow,hrep.dup,BitVec.setWidth_ofNat_of_le hw]
  refine ⟨?_,.of_rep hrep ht,he⟩
  rw [he]
  exact .of_rep hrepw (by rw [RxStats.narrow,ht,BitVec.setWidth_ofNat_of_le hw])

theorem rx_accounting_some :
    let frames := ([1,0,0,300,250,301].map serial).map (packet 7)
    let r := Receiver.run 64 {} [1,0,0,300,250,301]
    Accounts (hostRun {runId := 7, runIdNow := 7} ({} : RxStats 32) frames) r [1,0,0,300,250,301] ∧
    Accounts (fwRun {runId := 7} {} frames) r [1,0,0,300,250,301] ∧
    hostRun {runId := 7, runIdNow := 7} {} frames = (fwRun {runId := 7} {} frames).narrow 32 :=
  rx_accounting (by decide) ⟨rfl,rfl,rfl,rfl⟩ (.inl rfl) rfl (goodSeqs_packets 7 _) (by decide)

/-- Three jumps, each just under half the range. -/
def farNumbers : List Int := [2147483647,4294967230,6442450813]

/-- A host of 32 bits loses the count that the firmware keeps. -/
theorem rx_counters_wrap :
    ∃ (g : HostGate) (fg : FwGate) (frames : List Frame) (ns : List Int),
      g.Open ∧ fg.Open ∧ g.runId = fg.runId ∧ goodSeqs g.runId frames = ns.map serial ∧ NoJump {} ns ∧
      (hostRun g ({} : RxStats 32) frames).lost.toNat ≠ (Receiver.run 64 {} ns).missing.card ∧
      (hostRun g ({} : RxStats 32) frames).lost.toNat ≠ (fwRun fg {} frames).lost.toNat := by
  let g : HostGate := {runId := 7, runIdNow := 7}
  let fg : FwGate := {runId := 7}
  have hg : g.Open := ⟨rfl,rfl,rfl,rfl⟩
  have hf : fg.Open := .inl rfl
  have hs := goodSeqs_packets 7 (farNumbers.map serial)
  have hj : NoJump {} farNumbers := by decide
  have hhost : (hostRun g ({} : RxStats 32) ((farNumbers.map serial).map (packet 7))).lost.toNat = 2147483452 := by
    rw [hostRun_packets hg]
    decide +kernel
  have hfw : (fwRun fg {} ((farNumbers.map serial).map (packet 7))).lost.toNat = 6442450748 := by
    rw [fwRun_packets hf]
    decide +kernel
  have hcard := (fwRun_rep hf _ (rep_start 64) hs hj).1.lost
  refine ⟨g,fg,_,farNumbers,hg,hf,rfl,hs,hj,?_,by rw [hhost,hfw]; decide⟩
  rw [hhost]
  intro he
  rw [← he] at hcard
  rw [hcard] at hfw
  simp at hfw

end EspHosted.RawTp
