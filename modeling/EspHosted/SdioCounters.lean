import EspHosted.SdioHost
import EspHosted.Lib.Run

/-!
When the host's counters follow the slave's: along every run in which a counter of
the slave starts over only where the host notices.
-/

set_option autoImplicit false

namespace EspHosted.Sdio
open EspHosted Recovery Run

structure Synced (k : Counters) : Prop where
  rx : k.rxByteCount = k.consumed%ESP_RX_BYTE_MAX
  le : k.consumed ≤ k.published
  tx : k.txBufferCount = k.spent%ESP_TX_BUFFER_MAX
  credit : k.spent+k.bufAvailable ≤ k.token

def Counters.zero (k : Counters) : Prop :=
  k.rxByteCount = 0 ∧ k.txBufferCount = 0 ∧ k.bufAvailable = 0

instance (k : Counters) : Decidable k.zero := by
  unfold Counters.zero
  infer_instance

theorem Synced.produce {k : Counters} (h : Synced k) (bytes buffers : Nat) :
    Synced (k.produce bytes buffers) :=
  ⟨h.rx,Nat.le_add_right_of_le h.le,h.tx,Nat.le_add_right_of_le h.credit⟩

theorem Synced.dropCredits {k : Counters} (h : Synced k) : Synced k.dropCredits :=
  ⟨h.rx,h.le,h.tx,Nat.le_trans (Nat.add_le_add_left (Nat.zero_le _) _) h.credit⟩

theorem synced_reset (k : Counters) : Synced k.slaveReset.hostZero :=
  ⟨rfl,Nat.le_refl 0,rfl,Nat.le_refl 0⟩

theorem Synced.hostZero {k : Counters} (h : Synced k) (hz : k.rxByteCount = 0) : Synced k.hostZero :=
  ⟨hz.symm.trans h.rx,h.le,rfl,Nat.zero_le _⟩

theorem synced_of_zero {k : Counters} (hz : k.zero) (hc : k.consumed = 0)
    (hs : k.spent = k.txBufferCount) : Synced k := by
  obtain ⟨hr,ht,hb⟩ := hz
  refine ⟨by rw [hr,hc]; rfl,by omega,by rw [hs,ht]; rfl,by omega⟩

theorem synced_slaveReset {k : Counters} (hz : k.zero) : Synced k.slaveReset :=
  synced_of_zero (k := k.slaveReset) hz rfl rfl

theorem synced_baseline {k : Counters} (hr : k.rxByteCount = k.consumed%ESP_RX_BYTE_MAX)
    (hl : k.consumed ≤ k.published) : Synced (espSdioBaselineTxCredits k) := by
  refine ⟨hr,hl,?_,?_⟩
  · simp only [espSdioBaselineTxCredits]
    split <;> simp only [ESP_MAX_BUF_CNT,ESP_TX_BUFFER_MAX] at * <;> omega
  · simp only [espSdioBaselineTxCredits]
    split <;> simp only [ESP_MAX_BUF_CNT,ESP_TX_BUFFER_MAX] at * <;> omega

/-- The host sees exactly what is unread, up to the width of the register. -/
theorem Synced.delta {k : Counters} (h : Synced k) :
    k.delta = (k.published-k.consumed)%ESP_RX_BYTE_MAX := by
  have hr := h.rx
  have hl := h.le
  simp only [Counters.delta,espSdioRxLenDelta]
  split <;> simp only [ESP_RX_BYTE_MAX] at * <;> omega

theorem Synced.consume {k : Counters} (h : Synced k) {n : Nat} (hn : n ≤ k.delta) :
    Synced (k.consume n) := by
  have hd := h.delta
  have hr := h.rx
  have hl := h.le
  refine ⟨?_,?_,h.tx,h.credit⟩
  · simp only [Counters.consume,ESP_RX_BYTE_MAX] at *
    omega
  · simp only [Counters.consume,ESP_RX_BYTE_MAX] at *
    omega

theorem Synced.available {k : Counters} (h : Synced k) :
    k.spent+espSlaveGetTxBufferNum k ≤ k.token := by
  have ht := h.tx
  have hc := h.credit
  simp only [espSlaveGetTxBufferNum,ESP_TX_BUFFER_MAX,ESP_MAX_BUF_CNT] at *
  omega

/-! The requests change flags only. -/

def Host.link (s : Host) : Counters × Bool := (s.ctr,s.hostSleep)

theorem budgetSync_link (s : Host) : (budgetSync s).link = s.link := by
  simp only [budgetSync]
  split <;> rfl

theorem budgetTake_link (s : Host) : (budgetTake s).1.link = s.link := by
  rw [← budgetSync_link s]
  simp only [budgetTake]
  split <;> rfl

theorem budgetArm_link (s : Host) : (budgetArm s).link = s.link := by
  rw [← budgetSync_link s]
  simp only [budgetArm]
  split <;> rfl

theorem scheduleFwReset_link (s : Host) : (scheduleFwReset s).link = s.link := rfl

theorem publish_link (s : Host) : (publish s).1.link = s.link := by
  simp only [publish]
  split
  · rfl
  rw [← budgetSync_link s]
  split
  · rfl
  split <;> rfl

theorem espSdioResetTarget_link (s : Host) : (espSdioResetTarget s).link = s.link := by
  have hlink := publish_link s
  unfold espSdioResetTarget
  split <;> simp_all [scheduleFwReset_link]

theorem requestFirmwareRestart_link (c : Clock) (now : Nat) (s : Host) :
    (requestFirmwareRestart c now s).link = s.link := by
  simp only [requestFirmwareRestart]
  split
  · rw [espSdioResetTarget_link]
    rfl
  · rfl

theorem failClosed_link (c : Clock) (now : Nat) (s : Host) : (failClosed c now s).link = s.link := by
  rw [failClosed,requestFirmwareRestart_link,scheduleFwReset_link]

theorem transportRecovery_link (c : Clock) (now : Nat) (ambiguous : Bool) (s : Host) :
    (espSdioRequestTransportRecovery c now ambiguous s).link = s.link := by
  simp only [espSdioRequestTransportRecovery]
  split
  · rfl
  split
  · exact failClosed_link c now s
  · rfl

theorem fwResetRecovery_link (s : Host) : (espSdioRequestFwResetRecovery s).link = s.link := by
  simp only [espSdioRequestFwResetRecovery]
  split <;> rfl

theorem requestSlaveReset_link (c : Clock) (now : Nat) (ambiguous : Bool) (s : Host) :
    (espSdioRequestSlaveReset c now ambiguous s).link = s.link := by
  simp only [espSdioRequestSlaveReset]
  split
  · rfl
  · rw [transportRecovery_link]
    rfl

theorem espSdioClaimReset_link (s : Host) : (espSdioClaimReset s).1.link = s.link := by
  simp only [espSdioClaimReset]
  split
  · rfl
  split <;> rfl

theorem retriesHardReset_claim (s : Host) :
    retriesHardReset (espSdioClaimReset s).1 = retriesHardReset s := by
  simp only [espSdioClaimReset]
  split
  · rfl
  split <;> rfl

theorem link_eq {s t : Host} (h : s.link = t.link) : s.ctr = t.ctr ∧ s.hostSleep = t.hostSleep :=
  Prod.mk.inj h

theorem Synced.of_link {s t : Host} (hl : s.link = t.link) (h : Synced t.ctr) : Synced s.ctr :=
  (link_eq hl).1 ▸ h

/-! What the operations do to the counters. -/

theorem readPacket_synced (c : Clock) (now : Nat) {s : Host} (h : Synced s.ctr) (io : ReadIo) :
    Synced (readPacket c now s io).ctr ∧ (readPacket c now s io).hostSleep = s.hostSleep := by
  have hflag : ∀ t : Host, t.link = s.link → Synced t.ctr ∧ t.hostSleep = s.hostSleep := by
    intro t ht
    obtain ⟨hk,hs⟩ := link_eq ht
    exact ⟨hk ▸ h,hs⟩
  simp only [readPacket]
  split
  · exact hflag _ (transportRecovery_link c now _ s)
  split
  · exact hflag _ (fwResetRecovery_link s)
  split
  · exact ⟨h,rfl⟩
  split
  · exact ⟨h,rfl⟩
  split
  · exact ⟨h.consume (Nat.le_refl _),rfl⟩
  · rename_i rest _
    obtain ⟨hk,hs⟩ := link_eq (failClosed_link c now
      {s with ctr := if rest then s.ctr.consume (s.ctr.delta/ESP_BLOCK_SIZE*ESP_BLOCK_SIZE) else s.ctr})
    refine ⟨?_,hs⟩
    rw [hk]
    cases rest with
    | false => exact h
    | true => exact h.consume (Nat.div_mul_le_self _ _)

theorem txProcess_synced (c : Clock) (now : Nat) {s : Host} (h : Synced s.ctr) (needed : Nat)
    (io : SpendIo) :
    Synced (txProcess c now s needed io).ctr ∧ (txProcess c now s needed io).hostSleep = s.hostSleep := by
  simp only [txProcess]
  split
  · obtain ⟨hk,hs⟩ := link_eq
      (transportRecovery_link c now io.ambiguous {s with ctr := s.ctr.dropCredits})
    exact ⟨hk ▸ h.dropCredits,hs⟩
  have hav : s.ctr.spent+(if s.ctr.bufAvailable < needed then espSlaveGetTxBufferNum s.ctr
      else s.ctr.bufAvailable) ≤ s.ctr.token := by
    split
    · exact h.available
    · exact h.credit
  revert hav
  generalize (if s.ctr.bufAvailable < needed then espSlaveGetTxBufferNum s.ctr
    else s.ctr.bufAvailable) = available
  intro hav
  split
  · exact ⟨⟨h.rx,h.le,h.tx,hav⟩,rfl⟩
  rename_i hge
  have hge : needed ≤ available := Nat.not_lt.mp hge
  split
  · refine ⟨⟨h.rx,h.le,?_,?_⟩,rfl⟩
    · simp only [h.tx,Nat.mod_add_mod]
    · simp only
      omega
  have hless : s.ctr.spent+(available-needed) ≤ s.ctr.token := by omega
  have hk' : Synced {s.ctr with bufAvailable := available-needed} := ⟨h.rx,h.le,h.tx,hless⟩
  -- the write failed: from here on only flags change
  have hflag : ∀ t : Host, t.link = ({s.ctr with bufAvailable := available-needed},s.hostSleep) →
      Synced t.ctr ∧ t.hostSleep = s.hostSleep := by
    intro t ht
    obtain ⟨hk,hs⟩ := Prod.mk.inj ht
    exact ⟨hk ▸ hk',hs⟩
  have hmid : (if io.stateful then
      failClosed c now {s with ctr := {s.ctr with bufAvailable := available-needed}}
      else {s with ctr := {s.ctr with bufAvailable := available-needed}}).link =
        ({s.ctr with bufAvailable := available-needed},s.hostSleep) := by
    split
    · exact failClosed_link c now _
    · rfl
  split
  · exact hflag _ ((requestFirmwareRestart_link c now _).trans ((fwResetRecovery_link _).trans hmid))
  · exact hflag _ ((requestSlaveReset_link c now _ _).trans hmid)

theorem getFirmwareData_hostSleep (s : Host) (b : Baseline) :
    (getFirmwareData s b).1.hostSleep = s.hostSleep := by
  simp only [getFirmwareData]
  split
  · rfl
  split <;> rfl

theorem getFirmwareData_retries (s : Host) (b : Baseline) :
    retriesHardReset (getFirmwareData s b).1 = retriesHardReset s := by
  simp only [getFirmwareData]
  split
  · rfl
  split <;> rfl

theorem getFirmwareData_synced {s : Host} {b : Baseline} (h : Synced s.ctr)
    (hd : b.lenRead = true → s.ctr.published%ESP_RX_BYTE_MAX = s.ctr.rxByteCount) :
    Synced (getFirmwareData s b).1.ctr ∧
      (getFirmwareData s b).1.ctr.rxByteCount = s.ctr.rxByteCount := by
  simp only [getFirmwareData]
  split
  · exact ⟨h,rfl⟩
  rename_i hl
  have hd := hd (by simpa using hl)
  split
  · exact ⟨⟨hd.trans h.rx,h.le,h.tx,h.credit⟩,hd⟩
  · exact ⟨synced_baseline (hd.trans h.rx) h.le,hd⟩

theorem getFirmwareData_fresh {s : Host} {b : Baseline} (hc : s.ctr.consumed = 0)
    (hp : s.ctr.published%ESP_RX_BYTE_MAX = 0) (hb : (b.lenRead && b.tokenRead) = true) :
    Synced (getFirmwareData s b).1.ctr ∧ (getFirmwareData s b).2 = true := by
  simp only [Bool.and_eq_true] at hb
  simp only [getFirmwareData,hb.1,hb.2]
  exact ⟨synced_baseline (by simp [hc,hp]) (by simp [hc]),rfl⟩

theorem getFirmwareData_failed {s t : Host} {b : Baseline} (h : getFirmwareData s b = (t,false)) :
    (b.lenRead && b.tokenRead) = false := by
  cases hl : b.lenRead <;> cases ht : b.tokenRead <;> simp_all [getFirmwareData]

theorem hardReset_hostSleep (c : Clock) (now : Nat) (s : Host) (io : RecoverIo) :
    (espSdioHardResetAndReopen c now s io).1.hostSleep = s.hostSleep := by
  simp only [espSdioHardResetAndReopen]
  split
  · rfl
  split
  · exact (link_eq (failClosed_link c now s)).2
  split
  · exact (link_eq (budgetArm_link _)).2
  split
  · rfl
  split
  · rfl
  · rfl
  · exact (link_eq (budgetArm_link _)).2

theorem hardReset_synced {c : Clock} {now : Nat} {s : Host} (h : Synced s.ctr) (io : RecoverIo)
    (hr : retriesHardReset s = true → s.ctr.rxByteCount = 0) :
    Synced (espSdioHardResetAndReopen c now s io).1.ctr := by
  simp only [espSdioHardResetAndReopen]
  split
  · exact h
  split
  · exact .of_link (failClosed_link c now s) h
  split
  · exact .of_link (budgetArm_link _) h.dropCredits
  split
  · rename_i hretry
    exact h.dropCredits.hostZero (hr hretry)
  split
  · exact synced_reset _
  · exact h.dropCredits
  · exact .of_link (budgetArm_link _) h.dropCredits

/-! Runs. -/

inductive Action where
  /-- The slave queues bytes and arms receive buffers. -/
  | produce (bytes buffers : Nat)
  /-- The slave starts over and the host is not part of it: a spontaneous restart, or
  a handshake that took effect although the host saw it fail. -/
  | restart
  | read (now : Nat) (io : ReadIo)
  | spend (now needed : Nat) (io : SpendIo)
  | recover (now : Nat) (io : RecoverIo)
  | suspend (now : Nat) (io : SuspendIo)
  | resume (now : Nat) (io : ResumeIo)
  | reinit (b : Baseline)
  | request (now : Nat) (slaveReset fwReset : Bool)
  /-- The rest of the driver moves the adapter. -/
  | others (a : Adapter) (restartNeeded : Bool)
  deriving DecidableEq, Repr

def step (c : Clock) (s : Host) : Action → Option Host
  | .produce bytes buffers => some {s with ctr := s.ctr.produce bytes buffers}
  | .restart => some {s with ctr := s.ctr.slaveReset}
  | .read now io =>
    if s.hostSleep = false ∧ s.adapter.state ≠ .disabled then some (readPacket c now s io) else none
  | .spend now needed io =>
    if s.hostSleep = false ∧ s.adapter.state = .ready then some (txProcess c now s needed io) else none
  | .recover now io => some (espSdioRecoverTransportInner c now s io).1
  | .suspend now io =>
    if s.hostSleep = false ∧ s.suspended = false then some (espSuspendInner c now s io) else none
  | .resume now io => if s.suspended then some (espResumeInner c now s io) else none
  | .reinit b => some (reinitAfterFwReset s b)
  | .request now slaveReset fwReset =>
    some (if slaveReset then espSdioRequestSlaveReset c now false s
      else if fwReset then failClosed c now s else espSdioRequestTransportRecovery c now false s)
  | .others a restartNeeded => some {s with adapter := a, restartNeeded := restartNeeded}

def branchOf (s : Host) (io : RecoverIo) : Branch :=
  let r := espSdioClaimReset {s with hostSleep := false}
  recoverBranch r.1 r.2 io

/-- A rebase of a fresh epoch takes over a PACKET_LEN of zero, and both registers are
read, unless the host is at zero anyway. -/
def FreshBaseline (k : Counters) (early : Nat) (b : Baseline) : Prop :=
  (b.lenRead = true → early%ESP_RX_BYTE_MAX = 0) ∧ ((b.lenRead && b.tokenRead) = false → k.zero)

def BranchFollowed (s : Host) (io : RecoverIo) : Branch → Prop
  | .hard => retriesHardReset s = true → s.ctr.rxByteCount = 0
  | .slaveReset =>
    if io.handshake then FreshBaseline s.ctr io.early.1 io.baseline
    else retriesHardReset s = true → s.ctr.rxByteCount = 0
  | .rebase =>
    (io.baseline.lenRead = true → s.ctr.published%ESP_RX_BYTE_MAX = s.ctr.rxByteCount) ∧
    ((io.baseline.lenRead && io.baseline.tokenRead) = false → retriesHardReset s = true →
      s.ctr.rxByteCount = 0)
  | _ => True

/-- The slave starts over only under a host that is at zero, asleep, or part of it, and
the host neither takes over an unread PACKET_LEN nor goes back to zero alone. -/
def Followed (s : Host) : Action → Prop
  | .restart => s.hostSleep = true ∨ s.ctr.zero
  | .suspend _ io => io.psOn = true → io.keepPower = false → s.ctr.zero
  | .resume _ io =>
    if io.psOff then FreshBaseline s.ctr io.early.1 io.baseline else s.hostSleep = true → s.ctr.zero
  | .recover _ io =>
    (s.hostSleep = true → s.ctr.zero) ∧ BranchFollowed s io (branchOf s io)
  | .reinit b =>
    (s.hostSleep = true → s.ctr.zero) ∧
    (b.lenRead = true → s.ctr.published%ESP_RX_BYTE_MAX = s.ctr.rxByteCount)
  | _ => True

instance (k : Counters) (early : Nat) (b : Baseline) : Decidable (FreshBaseline k early b) := by
  unfold FreshBaseline
  infer_instance

instance (s : Host) (io : RecoverIo) (b : Branch) : Decidable (BranchFollowed s io b) := by
  cases b <;> unfold BranchFollowed <;> infer_instance

instance (s : Host) (a : Action) : Decidable (Followed s a) := by
  cases a <;> unfold Followed <;> infer_instance

structure Inv (s : Host) : Prop where
  awake : s.hostSleep = false → Synced s.ctr
  asleep : s.hostSleep = true → s.ctr.consumed = 0 ∧ s.ctr.spent = s.ctr.txBufferCount

theorem Inv.of_synced {s : Host} (h : Synced s.ctr) (hs : s.hostSleep = false) : Inv s :=
  ⟨fun _ => h,fun hx => by rw [hs] at hx; cases hx⟩

theorem Inv.of_link {s t : Host} (hl : s.link = t.link) (h : Inv t) : Inv s := by
  obtain ⟨hk,hs⟩ := link_eq hl
  exact ⟨fun hx => hk ▸ h.awake (hs ▸ hx),fun hx => hk ▸ h.asleep (hs ▸ hx)⟩

theorem Inv.wake {s : Host} (h : Inv s) (hz : s.hostSleep = true → s.ctr.zero) : Synced s.ctr := by
  cases hs : s.hostSleep with
  | false => exact h.awake hs
  | true => exact synced_of_zero (hz hs) (h.asleep hs).1 (h.asleep hs).2

theorem rebase_fresh {k : Counters} (s : Host) (early : Nat × Nat) (b : Baseline)
    (hf : FreshBaseline k early.1 b)
    (hk : s.ctr = (k.slaveReset.produce early.1 early.2).dropCredits) :
    Synced (getFirmwareData s b).1.ctr ∧
      ((getFirmwareData s b).2 = false → (getFirmwareData s b).1.ctr.rxByteCount = 0) := by
  by_cases hb : (b.lenRead && b.tokenRead) = true
  · have hl : b.lenRead = true := by simp only [Bool.and_eq_true] at hb; exact hb.1
    have hp : s.ctr.published%ESP_RX_BYTE_MAX = 0 := by
      rw [hk]
      simpa [Counters.dropCredits,Counters.produce,Counters.slaveReset] using hf.1 hl
    obtain ⟨hsync,htrue⟩ := getFirmwareData_fresh (by rw [hk]; rfl) hp hb
    exact ⟨hsync,fun hx => by rw [htrue] at hx; cases hx⟩
  · have hz := hf.2 (by simpa using hb)
    have hsync : Synced s.ctr := by
      rw [hk]
      exact ((synced_slaveReset hz).produce _ _).dropCredits
    have hrx : s.ctr.rxByteCount = 0 := by rw [hk]; exact hz.1
    obtain ⟨h1,h2⟩ := getFirmwareData_synced (b := b) hsync (fun hl => by
      rw [hrx,hk]
      simpa [Counters.dropCredits,Counters.produce,Counters.slaveReset] using hf.1 hl)
    exact ⟨h1,fun _ => h2.trans hrx⟩

theorem softReset_synced {s : Host} (h : Synced s.ctr) (io : RecoverIo) :
    Synced (espSdioSoftReset s io).1.ctr ∧ (espSdioSoftReset s io).1.hostSleep = s.hostSleep := by
  have hlink := budgetTake_link s
  simp only [espSdioSoftReset]
  split
  · exact ⟨h,rfl⟩
  · split
    · rename_i t ht
      rw [ht] at hlink
      exact ⟨.of_link hlink h,(link_eq hlink).2⟩
    · rename_i t ht
      rw [ht] at hlink
      split
      · exact ⟨.of_link hlink h,(link_eq hlink).2⟩
      · exact ⟨synced_reset _,(link_eq hlink).2⟩

theorem recoverBy_synced (c : Clock) (now : Nat) {s : Host} (h : Synced s.ctr) (io : RecoverIo)
    (b : Branch) (hok : BranchFollowed s io b) :
    Synced (recoverBy c now s io b).1.ctr ∧ (recoverBy c now s io b).1.hostSleep = s.hostSleep := by
  cases b with
  | stale => exact ⟨h,rfl⟩
  | hard => exact ⟨hardReset_synced h io hok,hardReset_hostSleep c now s io⟩
  | soft => exact softReset_synced h io
  | rearm => exact ⟨.of_link (budgetArm_link s) h,(link_eq (budgetArm_link s)).2⟩
  | openOnly => exact ⟨h,rfl⟩
  | wrapped => exact ⟨h,rfl⟩
  | probed => exact ⟨h.dropCredits,rfl⟩
  | firstBoot => exact ⟨h,rfl⟩
  | slaveReset =>
    simp only [recoverBy]
    simp only [BranchFollowed] at hok
    split
    · rename_i hh
      rw [hh,if_neg (by simp)] at hok
      exact ⟨hardReset_synced (s := {s with needSlaveReset := false}) h io hok,
        hardReset_hostSleep c now _ io⟩
    · rename_i hh
      rw [if_pos (by simpa using hh)] at hok
      have hsleep := getFirmwareData_hostSleep
        {s with needSlaveReset := false
                ctr := (s.ctr.slaveReset.produce io.early.1 io.early.2).dropCredits} io.baseline
      obtain ⟨hsync,hrx⟩ := rebase_fresh
        {s with needSlaveReset := false
                ctr := (s.ctr.slaveReset.produce io.early.1 io.early.2).dropCredits}
        io.early io.baseline hok rfl
      split
      · rename_i t ht
        rw [ht] at hsync hrx hsleep
        exact ⟨hardReset_synced (s := {t with needSlaveReset := true}) hsync io (fun _ => hrx rfl),
          (hardReset_hostSleep c now _ io).trans hsleep⟩
      · rename_i t ht
        rw [ht] at hsync hsleep
        split
        · exact ⟨hsync,hsleep⟩
        · exact ⟨hsync,hsleep⟩
  | rebase =>
    simp only [recoverBy]
    have hsleep := getFirmwareData_hostSleep
      {s with needCounterRebase := false, ctr := s.ctr.dropCredits} io.baseline
    obtain ⟨hsync,hrx⟩ := getFirmwareData_synced (b := io.baseline)
      (s := {s with needCounterRebase := false, ctr := s.ctr.dropCredits}) h.dropCredits hok.1
    split
    · rename_i t ht
      have hfail := getFirmwareData_failed ht
      have hretry := getFirmwareData_retries
        {s with needCounterRebase := false, ctr := s.ctr.dropCredits} io.baseline
      rw [ht] at hsync hrx hsleep hretry
      exact ⟨hardReset_synced (s := {t with needCounterRebase := true}) hsync io
          (fun hx => hrx.trans (hok.2 hfail (hretry.symm.trans hx))),
        (hardReset_hostSleep c now _ io).trans hsleep⟩
    · rename_i t ht
      rw [ht] at hsync hsleep
      exact ⟨hsync,hsleep⟩

theorem BranchFollowed.of_eq {s t : Host} {io : RecoverIo} {b : Branch} (h : BranchFollowed s io b)
    (hk : t.ctr = s.ctr) (hr : retriesHardReset t = retriesHardReset s) : BranchFollowed t io b := by
  cases b <;> simp only [BranchFollowed,hk,hr] at * <;> exact h

theorem Inv.recover {s : Host} (h : Inv s) (c : Clock) (now : Nat) (io : RecoverIo)
    (hok : Followed s (.recover now io)) : Inv (espSdioRecoverTransportInner c now s io).1 := by
  have hsync := h.wake hok.1
  have hlink := espSdioClaimReset_link {s with hostSleep := false}
  have hretry := retriesHardReset_claim {s with hostSleep := false}
  have hbr := hok.2
  simp only [branchOf] at hbr
  simp only [espSdioRecoverTransportInner]
  generalize espSdioClaimReset {s with hostSleep := false} = r at hlink hretry hbr ⊢
  obtain ⟨hk,hs⟩ := link_eq hlink
  have hclaim : Synced r.1.ctr := hk ▸ hsync
  split
  · exact h
  split
  · exact .of_synced hclaim hs
  · obtain ⟨h1,h2⟩ := recoverBy_synced c now
      (s := {r.1 with adapter := {r.1.adapter with state := .rxReady}}) hclaim io _
      (hbr.of_eq hk hretry)
    exact .of_synced h1 (h2.trans hs)

theorem Inv.suspend {s : Host} (h : Inv s) (c : Clock) (now : Nat) (io : SuspendIo)
    (hs : s.hostSleep = false) (hok : Followed s (.suspend now io)) :
    Inv (espSuspendInner c now s io) := by
  simp only [espSuspendInner]
  split
  · exact .of_link (failClosed_link c now _) (.of_synced (h.awake hs) rfl)
  rename_i hon
  split
  · exact ⟨(nomatch ·),fun _ => ⟨rfl,rfl⟩⟩
  rename_i hkeep
  have hz := hok (by simpa using hon) (by simpa using hkeep)
  split
  · exact .of_synced (synced_slaveReset (k := s.ctr.slaveReset) hz) rfl
  · exact .of_link (failClosed_link c now _) (.of_synced (synced_slaveReset hz) rfl)

theorem Inv.resume {s : Host} (h : Inv s) (c : Clock) (now : Nat) (io : ResumeIo)
    (hok : Followed s (.resume now io)) : Inv (espResumeInner c now s io) := by
  simp only [espResumeInner]
  simp only [Followed] at hok
  split
  · rename_i hoff
    rw [hoff,if_neg (by simp)] at hok
    exact .of_link (failClosed_link c now _) (.of_synced (h.wake hok) rfl)
  · rename_i hoff
    rw [if_pos (by simpa using hoff)] at hok
    obtain ⟨hsync,-⟩ := rebase_fresh
      {s with suspended := false
              ctr := (s.ctr.slaveReset.produce io.early.1 io.early.2).dropCredits}
      io.early io.baseline hok rfl
    split
    · rename_i t ht
      rw [ht] at hsync
      exact .of_link (failClosed_link c now _) (.of_synced hsync rfl)
    · rename_i t ht
      rw [ht] at hsync
      exact .of_synced hsync rfl

theorem Inv.reinit {s : Host} (h : Inv s) (b : Baseline) (hok : Followed s (.reinit b)) :
    Inv (reinitAfterFwReset s b) := by
  have hsync := h.wake hok.1
  refine .of_synced (getFirmwareData_synced (s := {s with
    hostSleep := false, ctr := s.ctr.dropCredits, adapter := {s.adapter with state := .disabled}})
    hsync.dropCredits hok.2).1 ?_
  exact getFirmwareData_hostSleep _ b

theorem step_inv {c : Clock} (s : Host) (a : Action) (s' : Host) (h : Inv s) (hok : Followed s a)
    (hs : step c s a = some s') : Inv s' := by
  cases a with
  | produce bytes buffers =>
    cases hs
    exact ⟨fun hx => (h.awake hx).produce _ _,fun hx => h.asleep hx⟩
  | restart =>
    cases hs
    refine ⟨fun hx => ?_,fun _ => ⟨rfl,rfl⟩⟩
    rcases hok with hok | hok
    · change s.hostSleep = false at hx
      rw [hok] at hx
      cases hx
    · exact synced_slaveReset hok
  | read now io =>
    simp only [step] at hs
    split at hs
    · rename_i hen
      cases hs
      obtain ⟨h1,h2⟩ := readPacket_synced c now (h.awake hen.1) io
      exact .of_synced h1 (h2.trans hen.1)
    · cases hs
  | spend now needed io =>
    simp only [step] at hs
    split at hs
    · rename_i hen
      cases hs
      obtain ⟨h1,h2⟩ := txProcess_synced c now (h.awake hen.1) needed io
      exact .of_synced h1 (h2.trans hen.1)
    · cases hs
  | recover now io =>
    cases hs
    exact h.recover c now io hok
  | suspend now io =>
    simp only [step] at hs
    split at hs
    · rename_i hen
      cases hs
      exact h.suspend c now io hen.1 hok
    · cases hs
  | resume now io =>
    simp only [step] at hs
    split at hs
    · cases hs
      exact h.resume c now io hok
    · cases hs
  | reinit b =>
    cases hs
    exact h.reinit b hok
  | request now slaveReset fwReset =>
    cases hs
    split
    · exact .of_link (requestSlaveReset_link c now false s) h
    split
    · exact .of_link (failClosed_link c now s) h
    · exact .of_link (transportRecovery_link c now false s) h
  | others a restartNeeded =>
    cases hs
    exact ⟨h.awake,h.asleep⟩

theorem inv_probe (published token : Nat) (full : Bool) : Inv (probe published token full) :=
  .of_synced (synced_baseline rfl (Nat.zero_le _)) rfl

/-- Traffic, suspend and resume, an acknowledged CLOSE, and the boot event after it. -/
def followedRun : List Action :=
  [.produce 5000 10,.read 0 {},.others {initDone := true, state := .ready} false,
   .spend 0 2 {},.suspend 0 {},.resume 0 {early := (0,10)},.produce 40 0,.read 0 {},
   .request 0 false true,.recover 0 {},.produce 100 10]

end EspHosted.Sdio
