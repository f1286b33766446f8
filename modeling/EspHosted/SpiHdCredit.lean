import EspHosted.SpiHdLink
import EspHosted.Lib.Serial
import EspHosted.Lib.Torn

/-!
Credit of SPI-HD: `spi_hd_cb_rx_ready` of `main/spi_hd_slave_api.c` publishes a count of
receive slots, `spihd_wait_tx_credit` of `host/spi_hd/esp_spi_hd.c` reads it byte by byte.
A step is one publication, one byte of a register read, one decision of the worker, or a
resync of the live session, for which `spihd_recover_transport` waits until the worker rests.
-/

set_option autoImplicit false

namespace EspHosted.SpiHd
open EspHosted Run Torn Word

/-- Where the worker is in `spihd_wait_tx_credit` and after it. -/
inductive CreditPc where
  | idle
  /-- The top of the loop. -/
  | poll
  | fast (got : List UInt8)
  /-- The first read of `spihd_read_reg_stable_lines`. -/
  | first (got : List UInt8)
  /-- A read to compare with `a`; `left` more may follow. -/
  | again (a : List UInt8) (left : Nat) (got : List UInt8)
  | nextPoll
  /-- The wait has returned 0. -/
  | credited
  deriving DecidableEq, Repr

structure CreditState where
  host : Host := {}
  /-- `s_rx_ready_segments` -/
  ready : UInt32 := 0
  /-- `SPIHD_REG_RX_BUF_LEN` -/
  reg : UInt32 := 0
  pc : CreditPc := .idle
  /-- Publications and segments, not wrapped. -/
  published : Nat := 0
  segments : Nat := 0
  /-- Everything the register has held. -/
  history : List UInt32 := [0]
  /-- What the wait has stored in `rx_credit_limit`. -/
  stored : List UInt32 := []
  deriving DecidableEq, Repr

inductive CreditAct where
  | publish
  | wait
  /-- One turn of the loop; the argument is `SPIHD_FAST_CREDIT_ONCE`. -/
  | turn (creditOnce : Bool)
  | byte
  | readFailed
  /-- `time_after(jiffies, deadline)` -/
  | deadline (passed : Bool)
  | segment (ok : Bool)
  | resync (r : Regs)
  deriving DecidableEq, Repr

def spiHdCbRxReady (s : CreditState) : CreditState :=
  {s with ready := s.ready+1, reg := s.ready+1, published := s.published+1, history := (s.ready+1) :: s.history}

/-- `spihd_get_le32` -/
def spihdGetLe32 (got : List UInt8) : UInt32 := word (got.getD 0 0) (got.getD 1 0) (got.getD 2 0) (got.getD 3 0)

def CreditState.accept (s : CreditState) (status : UInt32) : CreditState :=
  {s with host := {s.host with rxCreditLimit := status}, pc := .credited, stored := status :: s.stored}

def fastStatus (s : CreditState) (status : UInt32) : CreditState :=
  if creditAccepted s.host status then s.accept status
  else if s32Delta status s.host.txSegmentCount ≤ 0 then {s with pc := .nextPoll}
  else {s with pc := .first []}

/-- `spihd_read_reg_stable_lines` has returned 0. -/
def stableStatus (s : CreditState) (status : UInt32) : CreditState :=
  if creditAccepted s.host status then s.accept status else {s with pc := .nextPoll}

/-- The host has `got`, one byte more than before. -/
def readByte (s : CreditState) : Option CreditState :=
  let next (got : List UInt8) := got ++ [byte s.reg got.length]
  match s.pc with
  | .fast got =>
    if got.length < 3 then some {s with pc := .fast (next got)}
    else some (fastStatus s (spihdGetLe32 (next got)))
  | .first got =>
    if got.length < 3 then some {s with pc := .first (next got)} else some {s with pc := .again (next got) 2 []}
  | .again a left got =>
    if got.length < 3 then some {s with pc := .again a left (next got)}
    else if a = next got then some (stableStatus s (spihdGetLe32 (next got)))
    else
      -- `-EAGAIN` after the third
      match left with
      | 0 => some {s with pc := .nextPoll}
      | left+1 => some {s with pc := .again (next got) left []}
  | _ => none

def creditStep (s : CreditState) : CreditAct → Option CreditState
  | .publish => some (spiHdCbRxReady s)
  | .wait =>
    match s.pc with
    | .idle =>
      if 0 < s32Delta s.host.rxCreditLimit s.host.txSegmentCount then some {s with pc := .credited}
      else some {s with pc := .poll}
    | _ => none
  | .turn creditOnce =>
    match s.pc with
    | .poll => some {s with pc := if creditOnce then .fast [] else .first []}
    | _ => none
  | .byte => readByte s
  | .readFailed =>
    match s.pc with
    | .fast _ => some {s with pc := .first []}
    | .first _ => some {s with pc := .nextPoll}
    | .again _ _ _ => some {s with pc := .nextPoll}
    | _ => none
  | .deadline passed =>
    match s.pc with
    | .nextPoll => some {s with pc := if passed then .idle else .poll}
    | _ => none
  | .segment ok =>
    match s.pc with
    | .credited =>
      if ok then some {s with pc := .idle, segments := s.segments+1,
                              host := {s.host with txSegmentCount := s.host.txSegmentCount+1}}
      else some {s with pc := .idle}
    | _ => none
  | .resync r =>
    match s.pc with
    | .idle => some {s with host := (spihdResyncLiveSession {host := s.host} r).1.host}
    | _ => none

def creditStart (n : Nat) : CreditState where
  host := {txSegmentCount := UInt32.ofNat n, rxCreditLimit := UInt32.ofNat n}
  ready := UInt32.ofNat n
  reg := UInt32.ofNat n
  published := n
  segments := n
  history := [UInt32.ofNat n]

/-- A slot is armed only within the 32 that the host has not used. -/
def WithinWindow (s : CreditState) : CreditAct → Prop
  | .publish => s.published+1 ≤ s.segments+32
  | _ => True

instance (s : CreditState) (a : CreditAct) : Decidable (WithinWindow s a) := by
  cases a <;> unfold WithinWindow <;> infer_instance

/-- A resync that resumes the session finds no credit in a limit of 0. -/
def LimitCleared (s : CreditState) : CreditAct → Prop
  | .resync r =>
    (spihdResyncLiveSession {host := s.host} r).2 = .resumed → s32Delta 0 s.host.txSegmentCount ≤ 0
  | _ => True

instance (s : CreditState) (a : CreditAct) : Decidable (LimitCleared s a) := by
  cases a <;> unfold LimitCleared <;> infer_instance

def CreditOk (s : CreditState) (a : CreditAct) : Prop := WithinWindow s a ∧ LimitCleared s a

instance (s : CreditState) (a : CreditAct) : Decidable (CreditOk s a) := by
  unfold CreditOk
  infer_instance

theorem s32Delta_counter {a b : Nat} (h1 : b ≤ a+2^31) (h2 : a < b+2^31) :
    s32Delta (counter a) (counter b) = (a : Int)-b := by
  have h := Serial.delta_eq (a := a) (b := b) (by omega) (by omega)
  rwa [Serial.serial_natCast,Serial.serial_natCast] at h

theorem counter_succ (n : Nat) : counter n+1 = counter (n+1) := by
  rw [counter,counter,UInt32.ofNat_add]
  rfl

theorem credit_sound {h : Host} {segments published : Nat} {got : List UInt8}
    (ht : h.txSegmentCount = counter segments) (hw : published ≤ segments+32)
    (hs : Snap counter segments published got) (hl : got.length = 4)
    (ha : creditAccepted h (spihdGetLe32 got) = true) :
    ∃ l, spihdGetLe32 got = counter l ∧ segments < l ∧ l ≤ published := by
  obtain _ | ⟨b0,_ | ⟨b1,_ | ⟨b2,_ | ⟨b3,_ | ⟨b4,got⟩⟩⟩⟩⟩ := got
  all_goals simp at hl
  obtain ⟨c0,c1,c2,c3,h0,h1,h2,h3,h4,rfl,rfl,rfl,rfl⟩ := hs.word
  obtain ⟨d,hd,he⟩ := torn_counter h1 h2 h3 (by omega)
  have hg : spihdGetLe32 [byte (counter c0) 0,byte (counter c1) 1,byte (counter c2) 2,byte (counter c3) 3] =
      counter (c0+d) := he
  simp only [List.mem_cons,List.not_mem_nil,or_false] at hd
  have hdelta : s32Delta (counter (c0+d)) (counter segments) = ((c0+d : Nat) : Int)-segments :=
    s32Delta_counter (by omega) (by omega)
  rw [hg,creditAccepted,ht,hdelta] at ha
  simp only [Bool.and_eq_true,decide_eq_true_eq] at ha
  rw [show SPIHD_LIVE_CREDIT_MAX = 32 from rfl] at ha
  rw [hg]
  exact ⟨c0+d,rfl,by omega,by omega⟩

def Reading (s : CreditState) (got : List UInt8) : Prop :=
  Snap counter s.segments s.published got ∧ got.length ≤ 3

def CreditState.PcOk (s : CreditState) : Prop :=
  match s.pc with
  | .fast got => Reading s got
  | .first got => Reading s got
  | .again _ _ got => Reading s got
  | _ => True

/-- The limit is a published count that the segments have not passed. -/
def CreditState.Backed (s : CreditState) : Prop :=
  ∃ l, s.host.rxCreditLimit = counter l ∧ s.segments ≤ l ∧ l ≤ s.published ∧ (s.pc = .credited → s.segments < l)

/-- The limit a resync leaves: there is no credit in it. -/
def CreditState.Cleared (s : CreditState) : Prop :=
  s.pc ≠ .credited ∧ s32Delta s.host.rxCreditLimit s.host.txSegmentCount ≤ 0

structure CreditInv (n : Nat) (s : CreditState) : Prop where
  ready : s.ready = counter s.published
  reg : s.reg = counter s.published
  count : s.host.txSegmentCount = counter s.segments
  low : n ≤ s.segments
  window : s.published ≤ s.segments+32
  le : s.segments ≤ s.published
  limit : s.Backed ∨ s.Cleared
  history : ∀ m, n ≤ m → m ≤ s.published → counter m ∈ s.history
  stored : ∀ v ∈ s.stored, v ∈ s.history
  pcOk : s.PcOk

theorem creditInv_start (n : Nat) : CreditInv n (creditStart n) where
  ready := rfl
  reg := rfl
  count := rfl
  low := Nat.le_refl n
  window := Nat.le_add_right n 32
  le := Nat.le_refl n
  limit := .inl ⟨n,rfl,Nat.le_refl n,Nat.le_refl n,fun h => by cases h⟩
  history := fun m h1 h2 => by
    rw [Nat.le_antisymm h2 h1]
    exact List.mem_singleton_self _
  stored := fun v hv => by cases hv
  pcOk := trivial

variable {n : Nat} {s s' : CreditState}

theorem CreditInv.publish (h : CreditInv n s) (hw : s.published+1 ≤ s.segments+32) :
    CreditInv n (spiHdCbRxReady s) := by
  have hr : s.ready+1 = counter (s.published+1) := by rw [h.ready,counter_succ]
  refine ⟨hr,hr,h.count,h.low,hw,Nat.le_succ_of_le h.le,?_,?_,fun v hv => List.mem_cons_of_mem _ (h.stored v hv),?_⟩
  · rcases h.limit with ⟨l,h1,h2,h3,h4⟩ | hc
    · exact .inl ⟨l,h1,h2,Nat.le_succ_of_le h3,h4⟩
    · exact .inr hc
  · intro m h1 h2
    by_cases hm : m = s.published+1
    · rw [hm,← hr]
      exact List.mem_cons_self
    · have h2' : m ≤ s.published := Nat.le_of_lt_succ (Nat.lt_of_le_of_ne h2 hm)
      exact List.mem_cons_of_mem _ (h.history m h1 h2')
  · have hp := h.pcOk
    unfold CreditState.PcOk at hp ⊢
    simp only [spiHdCbRxReady]
    split at hp
    · exact ⟨hp.1.mono (Nat.le_succ _),hp.2⟩
    · exact ⟨hp.1.mono (Nat.le_succ _),hp.2⟩
    · exact ⟨hp.1.mono (Nat.le_succ _),hp.2⟩
    · trivial

theorem CreditInv.goto (h : CreditInv n s) {pc : CreditPc} (hc : pc ≠ .credited)
    (hp : {s with pc := pc}.PcOk) : CreditInv n {s with pc := pc} := by
  refine ⟨h.ready,h.reg,h.count,h.low,h.window,h.le,?_,h.history,h.stored,hp⟩
  rcases h.limit with ⟨l,h1,h2,h3,-⟩ | hl
  · exact .inl ⟨l,h1,h2,h3,fun he => absurd he hc⟩
  · exact .inr ⟨hc,hl.2⟩

theorem CreditInv.accept (h : CreditInv n s) {got : List UInt8} (hs : Snap counter s.segments s.published got)
    (hl : got.length = 4) (ha : creditAccepted s.host (spihdGetLe32 got) = true) :
    CreditInv n (s.accept (spihdGetLe32 got)) := by
  obtain ⟨l,h1,h2,h3⟩ := credit_sound h.count h.window hs hl ha
  refine ⟨h.ready,h.reg,h.count,h.low,h.window,h.le,.inl ⟨l,h1,Nat.le_of_lt h2,h3,fun _ => h2⟩,h.history,
    fun v hv => ?_,trivial⟩
  rcases List.mem_cons.mp hv with rfl | hv
  · rw [h1]
    exact h.history l (Nat.le_trans h.low (Nat.le_of_lt h2)) h3
  · exact h.stored v hv

theorem CreditInv.credit (h : CreditInv n s) (hd : 0 < s32Delta s.host.rxCreditLimit s.host.txSegmentCount) :
    ∃ l, s.host.rxCreditLimit = counter l ∧ s.segments < l ∧ l ≤ s.published := by
  rcases h.limit with ⟨l,h1,h2,h3,-⟩ | hc
  · have hwin := h.window
    have hdelta : s32Delta (counter l) (counter s.segments) = (l : Int)-s.segments :=
      s32Delta_counter (by omega) (by omega)
    rw [h1,h.count,hdelta] at hd
    exact ⟨l,h1,by omega,h3⟩
  · exact absurd hd (Int.not_lt.mpr hc.2)

theorem CreditInv.credited (h : CreditInv n s) (hp : s.pc = .credited) :
    ∃ l, s.host.rxCreditLimit = counter l ∧ s.segments < l ∧ l ≤ s.published := by
  rcases h.limit with ⟨l,h1,-,h3,h4⟩ | hc
  · exact ⟨l,h1,h4 hp,h3⟩
  · exact absurd hp hc.1

theorem spihdResyncLiveSession_host (l : Link) (r : Regs) :
    ((spihdResyncLiveSession l r).1.host = l.host) ∨
    ((spihdResyncLiveSession l r).2 = .resumed ∧
      (spihdResyncLiveSession l r).1.host = {l.host with rxCreditLimit := 0, dataPath := true}) := by
  simp only [spihdResyncLiveSession]
  split
  · exact .inl rfl
  split
  · exact .inl rfl
  split
  · exact .inl rfl
  split
  · split
    · exact .inl rfl
    · exact .inr ⟨rfl,rfl⟩
  · exact .inl rfl

theorem CreditInv.resync (h : CreditInv n s) (hp : s.pc = .idle) (r : Regs) (hl : LimitCleared s (.resync r)) :
    CreditInv n {s with host := (spihdResyncLiveSession {host := s.host} r).1.host} := by
  rcases spihdResyncLiveSession_host {host := s.host} r with hh | ⟨hres,hh⟩
  · rw [hh]
    exact h
  · rw [hh]
    refine ⟨h.ready,h.reg,h.count,h.low,h.window,h.le,.inr ⟨?_,hl hres⟩,h.history,h.stored,h.pcOk⟩
    rw [hp]
    simp

theorem CreditInv.snoc (h : CreditInv n s) {got : List UInt8} (hr : Reading s got) :
    Snap counter s.segments s.published (got ++ [byte s.reg got.length]) := by
  rw [h.reg]
  exact hr.1.snoc h.le

theorem CreditInv.fastStatus (h : CreditInv n s) {got : List UInt8}
    (hs : Snap counter s.segments s.published got) (hl : got.length = 4) :
    CreditInv n (fastStatus s (spihdGetLe32 got)) := by
  unfold SpiHd.fastStatus
  split
  · next ha => exact h.accept hs hl ha
  · split
    · exact h.goto (by simp) trivial
    · exact h.goto (by simp) ⟨snap_nil,by simp⟩

theorem CreditInv.stableStatus (h : CreditInv n s) {got : List UInt8}
    (hs : Snap counter s.segments s.published got) (hl : got.length = 4) :
    CreditInv n (stableStatus s (spihdGetLe32 got)) := by
  unfold SpiHd.stableStatus
  split
  · next ha => exact h.accept hs hl ha
  · exact h.goto (by simp) trivial

theorem CreditInv.byte (h : CreditInv n s) (hb : readByte s = some s') : CreditInv n s' := by
  have hp := h.pcOk
  unfold readByte at hb
  unfold CreditState.PcOk at hp
  cases hpc : s.pc with
  | fast got =>
    simp only [hpc] at hb hp
    have hs := h.snoc hp
    split at hb
    · cases hb
      exact h.goto (by simp) ⟨hs,by simp; omega⟩
    · cases hb
      exact h.fastStatus hs (by have := hp.2; simp; omega)
  | first got =>
    simp only [hpc] at hb hp
    have hs := h.snoc hp
    split at hb
    · cases hb
      exact h.goto (by simp) ⟨hs,by simp; omega⟩
    · cases hb
      exact h.goto (by simp) ⟨snap_nil,by simp⟩
  | again a left got =>
    simp only [hpc] at hb hp
    have hs := h.snoc hp
    split at hb
    · cases hb
      exact h.goto (by simp) ⟨hs,by simp; omega⟩
    · split at hb
      · cases hb
        exact h.stableStatus hs (by have := hp.2; simp; omega)
      · cases left with
        | zero =>
          cases hb
          exact h.goto (by simp) trivial
        | succ left =>
          cases hb
          exact h.goto (by simp) ⟨snap_nil,by simp⟩
  | _ => simp [hpc] at hb

theorem creditInv_step (s : CreditState) (a : CreditAct) (s' : CreditState) (h : CreditInv n s)
    (hw : CreditOk s a) (hs : creditStep s a = some s') : CreditInv n s' := by
  cases a with
  | publish =>
    cases hs
    exact h.publish hw.1
  | wait =>
    simp only [creditStep] at hs
    split at hs
    · split at hs
      · next hd =>
        cases hs
        obtain ⟨l,h1,h2,h3⟩ := h.credit hd
        exact ⟨h.ready,h.reg,h.count,h.low,h.window,h.le,.inl ⟨l,h1,Nat.le_of_lt h2,h3,fun _ => h2⟩,h.history,
          h.stored,trivial⟩
      · cases hs
        exact h.goto (by simp) trivial
    · cases hs
  | turn creditOnce =>
    simp only [creditStep] at hs
    split at hs
    · cases hs
      cases creditOnce
      · exact h.goto (by simp) ⟨snap_nil,by simp⟩
      · exact h.goto (by simp) ⟨snap_nil,by simp⟩
    · cases hs
  | byte => exact h.byte hs
  | readFailed =>
    simp only [creditStep] at hs
    split at hs
    · cases hs
      exact h.goto (by simp) ⟨snap_nil,by simp⟩
    · cases hs
      exact h.goto (by simp) trivial
    · cases hs
      exact h.goto (by simp) trivial
    · cases hs
  | deadline passed =>
    simp only [creditStep] at hs
    split at hs
    · cases hs
      cases passed
      · exact h.goto (by simp) trivial
      · exact h.goto (by simp) trivial
    · cases hs
  | segment ok =>
    simp only [creditStep] at hs
    split at hs
    · next hpc =>
      cases ok with
      | false =>
        cases hs
        exact h.goto (by simp) trivial
      | true =>
        cases hs
        obtain ⟨l,h1,hlt,h3⟩ := h.credited hpc
        have hwin := h.window
        refine ⟨h.ready,h.reg,?_,Nat.le_succ_of_le h.low,?_,Nat.le_trans hlt h3,
          .inl ⟨l,h1,hlt,h3,fun he => by cases he⟩,h.history,h.stored,trivial⟩
        · rw [← counter_succ,← h.count]
        · show s.published ≤ s.segments+1+32
          omega
    · cases hs
  | resync r =>
    simp only [creditStep] at hs
    split at hs
    · next hpc =>
      cases hs
      exact h.resync hpc r hw.2
    · cases hs

/-- Every stored credit was published, and the segments stay behind the publications. -/
theorem credit_reads_sound {n : Nat} {as : List CreditAct} {s : CreditState}
    (hw : Along creditStep CreditOk (creditStart n) as)
    (hs : exec creditStep (creditStart n) as = some s) :
    (∀ v ∈ s.stored, v ∈ s.history) ∧ s.host.txSegmentCount = UInt32.ofNat s.segments ∧
      s.reg = UInt32.ofNat s.published ∧ s.segments ≤ s.published ∧
      (s.pc = .credited → ∃ l, s.host.rxCreditLimit = UInt32.ofNat l ∧ s.segments < l ∧ l ≤ s.published) := by
  have h := exec_invariant_along (fun s a s' => creditInv_step s a s') hw (creditInv_start n) hs
  exact ⟨h.stored,h.count,h.reg,h.le,h.credited⟩

/-- Over the wrap: seven slots are armed, a carry tears the fast read, two equal reads are accepted. -/
def carryRun : List CreditAct :=
  List.flatten [[.publish,.wait,.turn true,.byte],List.replicate 6 .publish,List.replicate 3 .byte,
    List.replicate 8 .byte,[.segment true]]

theorem credit_reads_sound_torn :
    ∃ s, exec creditStep (creditStart 4294967290) carryRun = some s ∧ s.host.txSegmentCount = 4294967291 ∧
      s.stored = [1] ∧ s.host.rxCreditLimit ∈ s.history ∧ s.segments ≤ s.published := by
  have hw : Along creditStep CreditOk (creditStart 4294967290) carryRun := by decide +kernel
  have he : (exec creditStep (creditStart 4294967290) carryRun).map (fun s =>
      (s.host.txSegmentCount,s.stored,s.host.rxCreditLimit)) = some (4294967291,[1],1) := by decide +kernel
  obtain ⟨s,hs,hc⟩ := Option.map_eq_some_iff.mp he
  obtain ⟨h1,h2⟩ := Prod.mk.inj hc
  obtain ⟨h2,h3⟩ := Prod.mk.inj h2
  have h := credit_reads_sound hw hs
  refine ⟨s,hs,h1,h2,?_,h.2.2.2.1⟩
  rw [h3]
  exact h.1 1 (by rw [h2]; simp)

/-- The registers as they stand at `creditStart 2147483649`. -/
def liveRegs : Regs := {ready := some SPIHD_STATE_SLAVE_READY, rxCredits := some 2147483649, txBytes := some 0}

/-- Above 2^31 segments a cleared limit looks like credit: the host sends a segment for
which no slot was armed. -/
theorem credit_after_resync :
    ∃ s, exec creditStep (creditStart 2147483649) [.resync liveRegs,.wait,.segment true] = some s ∧
      Along creditStep WithinWindow (creditStart 2147483649) [.resync liveRegs,.wait,.segment true] ∧
      s.published = 2147483649 ∧ s.segments = 2147483650 ∧ s.stored = [] := by
  have hw : Along creditStep WithinWindow (creditStart 2147483649) [.resync liveRegs,.wait,.segment true] := by
    decide +kernel
  have he : (exec creditStep (creditStart 2147483649) [.resync liveRegs,.wait,.segment true]).map (fun s =>
      (s.published,s.segments,s.stored)) = some (2147483649,2147483650,[]) := by decide +kernel
  obtain ⟨s,hs,hc⟩ := Option.map_eq_some_iff.mp he
  obtain ⟨h1,h2⟩ := Prod.mk.inj hc
  exact ⟨s,hs,hw,h1,(Prod.mk.inj h2).1,(Prod.mk.inj h2).2⟩

end EspHosted.SpiHd
