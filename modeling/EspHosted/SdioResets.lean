import EspHosted.Bootup
import EspHosted.SdioHost
import Mathlib.Data.List.Nodup

/-!
Reset requests of the SDIO backend against boot commits, `host/sdio/esp_sdio.c` and
`host/main.c`. A step is what a thread does under one of the two locks, or one test or
bus operation between them. Counters of the data path are those of `Sdio.Host` and play no
part here.
-/

set_option autoImplicit false

namespace EspHosted.SdioReset
open EspHosted Recovery Run Sdio

/-- Newest first in the log. An epoch is `fw_boot_commit_epoch`. -/
inductive Ev where
  /-- `esp_sdio_soft_reset_budget_take` has allowed an attempt. -/
  | taken (epoch : Nat)
  /-- A CLOSE_DATA_PATH handshake is sent. -/
  | close (epoch : Nat)
  /-- A request or an attempt is refused for the count. -/
  | refused (epoch : Nat)
  /-- `mmc_hw_reset` for the attempt with this number. -/
  | physical (attempt : Nat)
  /-- A request published in `stamp` is carried out. -/
  | executed (stamp epoch : Nat)
  /-- The commit callback erases a request published in `stamp`. -/
  | erased (stamp epoch : Nat)
  deriving DecidableEq, Repr

/-- `esp_fw_recovery_work` and the pass of `esp_sdio_recover_transport_inner` in it. -/
inductive WorkPc where
  | idle
  /-- In `esp_bootup_request_retry`, or in the escalation of a hard reset without an attempt. -/
  | retrySchedule (cleanup : Bool)
  | retryRequest
  /-- `gen` is what the worker has read. -/
  | starting (gen : UInt32)
  | claimed (gen : UInt32) (c : Claim) (stamp : Nat)
  | barred (gen : UInt32) (c : Claim) (stamp : Nat)
  | soft
  | taken
  | hard
  | issuing (full issue : Bool)
  | failed (unsupported : Bool)
  | arming
  /-- The pass returned 1. -/
  | returning (gen : UInt32)
  deriving DecidableEq, Repr

def WorkPc.inPass : WorkPc → Bool
  | .idle => false
  | .retrySchedule _ => false
  | .retryRequest => false
  | _ => true

/-- `process_event_esp_bootup`. -/
inductive BootPc where
  | idle
  | started
  | begun
  | initSet
  /-- `cancel_delayed_work_sync` of `esp_commit_reconstruction` has returned. -/
  | synced
  deriving DecidableEq, Repr

def BootPc.reconstructing : BootPc → Bool
  | .idle => false
  | .started => false
  | _ => true

structure State where
  h : Host
  now : Nat
  work : WorkPc := .idle
  boot : BootPc := .idle
  /-- Callers between the dispatch of an attempt and `reset_target`, between the request
  bits and the schedule, and between a commit and its callback. -/
  targets : Nat := 0
  schedules : Nat := 0
  callbacks : Nat := 0
  /-- Attempts dispatched so far. -/
  attempt : Nat := 0
  /-- Commit epochs in which the pending requests were published. -/
  hardStamp : Nat := 0
  softStamp : Nat := 0
  /-- A reset was claimed and no reconstruction has begun since. -/
  claimed : Bool := false
  log : List Ev := []
  deriving DecidableEq, Repr

def State.epoch (s : State) : Nat := s.h.adapter.bootCommitEpoch

def State.setAdapter (s : State) (a : Adapter) : State := {s with h := {s.h with adapter := a}}

/-- `esp_sdio_soft_reset_budget_arm`, with its result. -/
def arm (h : Host) : Host × Bool := (budgetArm h,decide ((budgetSync h).softResetAttempts < ESP_FW_BOOT_MAX_ATTEMPTS))

def State.request (c : Clock) (s : State) : State :=
  match espRequestFirmwareRestart c s.now s.h.adapter with
  | (a,.dispatched) =>
    {s with h := {s.h with adapter := a, restartNeeded := true}, targets := s.targets+1, attempt := s.attempt+1}
  | (a,_) => s.setAdapter a

def State.resetTarget (s : State) : State :=
  match publish s.h with
  | (h,.down) => {s with h := h}
  | (h,.refused) => {s with h := h, log := .refused s.epoch :: s.log}
  | (h,.hard) => {s with h := h, hardStamp := s.epoch, schedules := s.schedules+1}
  | (h,.soft) => {s with h := h, softStamp := s.epoch, schedules := s.schedules+1}

def State.budgetArm (s : State) : State :=
  match arm s.h with
  | (h,true) => {s with h := h, softStamp := s.epoch}
  | (h,false) => {s with h := h, log := .refused s.epoch :: s.log}

/-- What the bus and the other branches of a pass answer. -/
inductive Other where
  | error
  /-- OPEN is sent, and a new incarnation may now be expected. -/
  | waiting (expect : Bool)
  | resumed
  /-- The branch falls back to the hard reset. -/
  | fallback
  deriving DecidableEq, Repr

structure Io where
  reenable : Bool := true
  handshake : Bool := true
  hwReset : HwReset := .done
  other : Other := .waiting true
  deriving DecidableEq, Repr

def State.pass (c : Clock) (s : State) (io : Io) : WorkPc → Option State
  | .idle => none
  | .retrySchedule cleanup =>
    if s.h.adapter.shuttingDown ∧ cleanup then some {s with work := .idle}
    else
      let a := {s.h.adapter with cleanupInProgress := s.h.adapter.cleanupInProgress && !cleanup}
      some {s with h := scheduleFwReset {s.h with adapter := a}, work := .retryRequest}
  | .retryRequest => some {s.request c with work := .idle}
  | .starting gen =>
    if s.h.adapter.shuttingDown then some {s with work := .idle}
    else
      let r := espSdioClaimReset {s.h with hostSleep := false}
      some {s with
        h := r.1
        claimed := s.claimed || (r.2 = .hard || r.2 = .soft)
        work := .claimed gen r.2 (if r.2 = .hard then s.hardStamp else s.softStamp)}
  | .claimed gen cl stamp =>
    if cl = .stale ∧ healthy s.h.adapter then some {s with work := .returning gen}
    else some {s.setAdapter {s.h.adapter with state := .rxReady} with work := .barred gen cl stamp}
  | .barred gen cl stamp =>
    match cl with
    | .hard => some {s with log := .executed stamp s.epoch :: s.log, work := .hard}
    | .soft => some {s with log := .executed stamp s.epoch :: s.log, work := .soft}
    | _ =>
      if cl = .stale ∧ healthy s.h.adapter then
        some {s.setAdapter {s.h.adapter with state := .ready} with work := .returning gen}
      else if io.reenable = false then some {s with work := .hard}
      else if s.h.restartNeeded then some {s with work := .arming}
      else
        match io.other with
        | .error => some {s with work := .idle}
        | .waiting expect =>
          some {s.setAdapter {s.h.adapter with resetExpected := s.h.adapter.resetExpected || expect} with
            work := .idle}
        | .resumed => some {s.setAdapter {s.h.adapter with state := .ready} with work := .returning gen}
        | .fallback => some {s with work := .hard}
  | .soft =>
    if io.reenable = false then some {s with work := .idle}
    else
      match budgetTake s.h with
      | (h,true) => some {s with h := h, log := .taken s.epoch :: s.log, work := .taken}
      | (h,false) => some {s with h := h, log := .refused s.epoch :: s.log, work := .idle}
  | .taken =>
    let s := {s with log := .close s.epoch :: s.log, work := .idle}
    if io.handshake then
      some {s with h := {s.h with restartNeeded := false, adapter := {s.h.adapter with resetExpected := true}}}
    else some s
  | .hard =>
    if s.h.adapter.shuttingDown then some {s with work := .idle}
    else
      let full := fullChip s.h
      if s.h.adapter.bootDeadline = 0 then some {s with work := .retrySchedule false}
      else
        some {s with
          h := {s.h with hardResetDeadline := if full then s.h.adapter.bootDeadline else s.h.hardResetDeadline}
          work := .issuing full (full && s.h.hardResetDeadline != s.h.adapter.bootDeadline)}
  | .issuing full issue =>
    let s := s.setAdapter {s.h.adapter with resetExpected := true}
    if full = false then some {s with work := .failed true}
    else if issue = false then some {s with h := {s.h with restartNeeded := false}, work := .idle}
    else
      let s := {s with log := .physical s.attempt :: s.log}
      match io.hwReset with
      | .failed unsupported => some {s with work := .failed unsupported}
      | _ => some {s with h := {s.h with restartNeeded := false}, work := .idle}
  | .failed unsupported =>
    some {s with
      h := {s.h with
        restartNeeded := true, hardResetUnavailable := s.h.hardResetUnavailable || unsupported}
      work := if s.h.adapter.bootDeadline = 0 then .retryRequest else .arming}
  | .arming => some {s.budgetArm with work := .idle}
  | .returning gen =>
    if s.h.adapter.recoveryGen ≠ gen ∨ s.h.adapter.resetExpected then some {s with work := .idle}
    else some {s.setAdapter {s.h.adapter with recoveryPending := false} with work := .idle}

/-- `esp_sdio_commit_reset_budget_locked` -/
def State.callback (s : State) : State :=
  let h := budgetSync s.h
  if h.resetRequestEpoch ≠ s.epoch then
    {s with
      h := {h with hardResetRequested := false, softResetRequested := false}
      log := (if h.hardResetRequested then [.erased s.hardStamp s.epoch] else []) ++
        (if h.softResetRequested then [.erased s.softStamp s.epoch] else []) ++ s.log}
  else {s with h := h}

inductive Action where
  /-- `esp_request_firmware_restart`, from any caller. -/
  | request
  /-- A dispatched caller reaches `esp_sdio_reset_target`, and then its schedule. -/
  | target
  | scheduled
  /-- `esp_schedule_recovery`, from any other caller. -/
  | schedule (fwReset : Bool)
  | work
  | pass (io : Io)
  | bootStart
  | begin
  /-- `esp_clear_reconstruct_flag` of a boot event that fails or starts an OTA update. -/
  | bootFail
  | commitInit
  | commitSync
  | commit
  /-- `esp_finish_reconstruction`, from the boot event or the radio service. -/
  | finish
  | callback
  | setInit (b : Bool)
  | setCleanup (b : Bool)
  | shutdown
  | tick (n : Nat)
  deriving DecidableEq, Repr

def step (c : Clock) (s : State) : Action → Option State
  | .request => some (s.request c)
  | .target => if s.targets = 0 then none else some {s.resetTarget with targets := s.targets-1}
  | .scheduled =>
    if s.schedules = 0 then none
    else some {s with h := scheduleFwReset s.h, schedules := s.schedules-1}
  | .schedule fwReset => some (s.setAdapter (espScheduleRecovery s.h.adapter fwReset))
  | .work =>
    if s.work ≠ .idle then none
    else
      match espFwRecoveryWork c s.now s.h.adapter with
      | (a,.recover) => some {s.setAdapter a with work := .starting a.recoveryGen}
      | (a,.retry) => some {s.setAdapter a with work := .retrySchedule true}
      | (a,_) => some (s.setAdapter a)
  | .pass io => s.pass c io s.work
  | .bootStart =>
    if s.work ≠ .idle ∨ s.boot ≠ .idle ∨ s.h.adapter.shuttingDown then none
    else
      let a := s.h.adapter
      let reinitializing := a.initDone || a.recoveryPending || a.resetExpected
      some {s with
        h := {s.h with
          restartNeeded := false
          adapter := {a with
            recoveryPending := a.recoveryPending || reinitializing
            initDone := false
            cleanupInProgress := a.cleanupInProgress || reinitializing}}
        boot := .started}
  | .begin =>
    if s.boot ≠ .started then none
    else
      some {s.setAdapter {espBeginReconstruction s.h.adapter with state := .ready} with
        boot := .begun, claimed := false}
  | .bootFail =>
    if s.boot = .idle then none
    else some {s.setAdapter (espClearReconstructFlag s.h.adapter) with boot := .idle}
  | .commitInit =>
    if s.boot ≠ .begun then none
    else some {s.setAdapter {s.h.adapter with initDone := true} with boot := .initSet}
  | .commitSync => if s.boot ≠ .initSet ∨ s.work ≠ .idle then none else some {s with boot := .synced}
  | .commit =>
    if s.boot ≠ .synced then none
    else
      let r := espCommitReconstruction s.h.adapter
      some {s with
        h := {s.h with adapter := r.1, restartNeeded := s.h.restartNeeded && r.2}
        boot := .idle}
  | .finish =>
    match espFinishReconstruction s.h.adapter with
    | (a,true) => some {s.setAdapter a with callbacks := s.callbacks+1}
    | (a,false) => some (s.setAdapter a)
  | .callback => if s.callbacks = 0 then none else some {s.callback with callbacks := s.callbacks-1}
  | .setInit b => some (s.setAdapter {s.h.adapter with initDone := b})
  | .setCleanup b => some (s.setAdapter {s.h.adapter with cleanupInProgress := b})
  | .shutdown => some (s.setAdapter {s.h.adapter with shuttingDown := true})
  | .tick n => some {s with now := s.now+n}

/-- A binding as `esp_probe` leaves it, whatever the adapter and the last physical reset
have gone through before. -/
def bound (a : Adapter) (fullChipReset : Bool) (hardResetDeadline now : Nat) : State :=
  {h := {adapter := (espResetBootRecoveryForBinding {a with shuttingDown := false} true).1
         fullChipReset := fullChipReset
         hardResetDeadline := hardResetDeadline}
   now := now}

/-! What is required of a run, and what holds of it. -/

/-- The pending hard request, if there is one, is of the present commit epoch. -/
def State.softSafe (s : State) : Bool := !s.h.hardResetRequested || s.hardStamp == s.epoch

/-- The 32-bit generation does not come back to the one a reconstruction began with. -/
def State.genSafe (s : State) : Bool :=
  !s.boot.reconstructing || s.h.adapter.recoveryGen+1 != s.h.adapter.reconstructGen

def follows (s : State) : Action → Bool
  | .target => (publish s.h).2 != .soft || s.softSafe
  | .scheduled => s.genSafe
  | .schedule _ => s.genSafe
  | .pass _ =>
    match s.work with
    | .arming => !(arm s.h).2 || s.softSafe
    | .retrySchedule _ => s.genSafe
    | .starting _ =>
      ((espSdioClaimReset s.h).2 != .hard && (espSdioClaimReset s.h).2 != .soft) || s.genSafe
    | _ => true
  | _ => true

def Followed (s : State) (a : Action) : Prop := follows s a = true

instance (s : State) (a : Action) : Decidable (Followed s a) := inferInstanceAs (Decidable (_ = true))

def physicals (log : List Ev) : List Nat :=
  log.filterMap (fun e => match e with | .physical n => some n | _ => none)

/-- A refusal comes after the attempts of its own epoch. -/
def Refusals : List Ev → Prop
  | [] => True
  | .refused e :: log => ESP_FW_BOOT_MAX_ATTEMPTS ≤ log.count (.taken e) ∧ Refusals log
  | _ :: log => Refusals log

structure Good (log : List Ev) : Prop where
  closes : ∀ e, log.count (.close e) ≤ ESP_FW_BOOT_MAX_ATTEMPTS
  physical : (physicals log).Nodup
  executed : ∀ stamp e, .executed stamp e ∈ log → stamp = e
  erased : ∀ stamp e, .erased stamp e ∈ log → stamp ≠ e
  refused : Refusals log

structure Safe (s : State) : Prop where
  good : Good s.log
  guarded : s.claimed = true → s.h.adapter.recoveryPending = true ∧ s.h.adapter.resetExpected = true

/-! The count of attempts. -/

def spent (h : Host) : Nat :=
  if h.softResetBudgetEpoch = h.adapter.bootCommitEpoch then h.softResetAttempts else 0

theorem budgetSync_eq (h : Host) :
    budgetSync h = {h with softResetBudgetEpoch := h.adapter.bootCommitEpoch, softResetAttempts := spent h} := by
  unfold budgetSync spent
  by_cases he : h.softResetBudgetEpoch = h.adapter.bootCommitEpoch
  · rw [if_pos he,if_pos he,← he]
  · rw [if_neg he,if_neg he]

structure Budget (s : State) : Prop where
  past : s.h.softResetBudgetEpoch ≤ s.epoch
  now : s.log.count (.taken s.epoch) = spent s.h
  future : ∀ e, s.epoch < e → s.log.count (.taken e) = 0
  takes : ∀ e, s.log.count (.taken e) ≤ ESP_FW_BOOT_MAX_ATTEMPTS
  closes : ∀ e, s.log.count (.close e)+(if s.work = .taken ∧ e = s.epoch then 1 else 0) ≤
    s.log.count (.taken e)

theorem Budget.frame {s s' : State} (h : Budget s) (he : s'.epoch = s.epoch)
    (hb : s'.h.softResetBudgetEpoch ≤ s.epoch) (hn : spent s'.h = spent s.h)
    (ht : ∀ e, s'.log.count (.taken e) = s.log.count (.taken e))
    (hc : ∀ e, s'.log.count (.close e) = s.log.count (.close e)) (hw : s'.work = .taken → s.work = .taken) :
    Budget s' where
  past := by rw [he]; exact hb
  now := by rw [he,ht,hn,h.now]
  future := fun e hlt => by rw [ht]; exact h.future e (he ▸ hlt)
  takes := fun e => by rw [ht]; exact h.takes e
  closes := by
    intro e
    rw [ht,hc,he]
    refine Nat.le_trans (Nat.add_le_add_left ?_ _) (h.closes e)
    by_cases hx : s'.work = .taken ∧ e = s.epoch
    · simp [hx,hw hx.1]
    · simp [hx]

theorem Budget.take {s : State} (h : Budget s) (hw : s.work ≠ .taken) (hlt : spent s.h < ESP_FW_BOOT_MAX_ATTEMPTS) :
    Budget {s with
      h := {budgetSync s.h with softResetAttempts := spent s.h+1}
      log := .taken s.epoch :: s.log
      work := .taken} := by
  have hnow := h.now
  refine ⟨?_,?_,?_,?_,?_⟩
  · simp [budgetSync_eq,State.epoch]
  · simp only [budgetSync_eq,State.epoch,spent,List.count_cons_self] at *
    simp [hnow]
  · intro e he
    have hne : s.epoch ≠ e := Nat.ne_of_lt (by simpa [budgetSync_eq,State.epoch] using he)
    rw [List.count_cons_of_ne (by simpa using hne)]
    exact h.future e (by simpa [budgetSync_eq,State.epoch] using he)
  · intro e
    by_cases he : s.epoch = e
    · subst he
      rw [List.count_cons_self]
      omega
    · rw [List.count_cons_of_ne (by simpa using he)]
      exact h.takes e
  · intro e
    have hx := h.closes e
    simp only [hw,false_and,if_false,Nat.add_zero] at hx
    rw [List.count_cons_of_ne (by simp)]
    by_cases he : e = s.epoch
    · subst he
      simp only [List.count_cons_self]
      split <;> omega
    · rw [List.count_cons_of_ne (by simpa using Ne.symm he)]
      have hne : ¬e = s.h.adapter.bootCommitEpoch := he
      simp [budgetSync_eq,State.epoch,hne]
      exact hx

theorem Budget.close {s : State} (h : Budget s) (hw : s.work = .taken) :
    Budget {s with log := .close s.epoch :: s.log, work := .idle} := by
  refine ⟨h.past,?_,?_,?_,?_⟩
  · simpa [State.epoch] using h.now
  · simpa [State.epoch] using h.future
  · simpa using h.takes
  · intro e
    have hx := h.closes e
    by_cases he : s.epoch = e
    · subst he
      simp [hw] at hx ⊢
      exact hx
    · rw [List.count_cons_of_ne (by simpa using he)]
      simp [hw,Ne.symm he] at hx ⊢
      exact hx

theorem Budget.commit {s s' : State} (h : Budget s) (hw : s.work ≠ .taken) (he : s'.epoch = s.epoch+1)
    (hb : s'.h.softResetBudgetEpoch = s.h.softResetBudgetEpoch) (hl : s'.log = s.log)
    (hw' : s'.work = s.work) : Budget s' := by
  have hpast := h.past
  refine ⟨by omega,?_,?_,?_,?_⟩
  · rw [hl,h.future _ (by omega)]
    have hne : ¬s'.h.softResetBudgetEpoch = s'.h.adapter.bootCommitEpoch := by
      have hx : s'.h.adapter.bootCommitEpoch = s.epoch+1 := he
      omega
    simp [spent,hne]
  · intro e hlt
    rw [hl]
    exact h.future e (by omega)
  · rw [hl]
    exact h.takes
  · intro e
    rw [hl,hw']
    have hx := h.closes e
    simp only [hw,false_and,if_false] at hx ⊢
    exact hx

/-! The physical resets. -/

structure Resets (s : State) : Prop where
  nodup : (physicals s.log).Nodup
  past : ∀ n ∈ physicals s.log, n ≤ s.attempt
  once : s.attempt ∈ physicals s.log →
    s.h.adapter.bootDeadline = 0 ∨ s.h.hardResetDeadline = s.h.adapter.bootDeadline
  issuing : ∀ full, s.work = .issuing full true → s.attempt ∉ physicals s.log ∧
    s.h.hardResetDeadline = s.h.adapter.bootDeadline ∧ s.h.adapter.bootDeadline ≠ 0

theorem Resets.frame {s s' : State} (h : Resets s) (hl : physicals s'.log = physicals s.log)
    (ha : s'.attempt = s.attempt) (hh : s'.h.hardResetDeadline = s.h.hardResetDeadline)
    (hd : s'.h.adapter.bootDeadline = s.h.adapter.bootDeadline)
    (hw : ∀ full, s'.work = .issuing full true → s.work = .issuing full true) : Resets s' where
  nodup := by rw [hl]; exact h.nodup
  past := by rw [hl,ha]; exact h.past
  once := by rw [hl,ha,hh,hd]; exact h.once
  issuing := fun full hx => by rw [hl,ha,hh,hd]; exact h.issuing full (hw full hx)

theorem Resets.disarm {s s' : State} (h : Resets s) (hl : physicals s'.log = physicals s.log)
    (ha : s'.attempt = s.attempt) (hd : s'.h.adapter.bootDeadline = 0)
    (hw : ∀ full, s'.work ≠ .issuing full true) : Resets s' where
  nodup := by rw [hl]; exact h.nodup
  past := by rw [hl,ha]; exact h.past
  once := fun _ => .inl hd
  issuing := fun full hx => absurd hx (hw full)

theorem Resets.dispatch {s s' : State} (h : Resets s) (hl : physicals s'.log = physicals s.log)
    (ha : s'.attempt = s.attempt+1) (hd : s.h.adapter.bootDeadline = 0) (hw : s'.work = s.work) :
    Resets s' := by
  have hnew : s'.attempt ∉ physicals s'.log := by
    rw [hl,ha]
    intro hx
    have := h.past _ hx
    omega
  refine ⟨by rw [hl]; exact h.nodup,?_,fun hx => absurd hx hnew,?_⟩
  · rw [hl,ha]
    exact fun n hn => Nat.le_succ_of_le (h.past n hn)
  · intro full hx
    exact absurd hd (h.issuing full (hw ▸ hx)).2.2

theorem Resets.issue {s : State} (h : Resets s) {full : Bool} (hw : s.work = .issuing full true) {h' : Host}
    (hh : h'.hardResetDeadline = s.h.hardResetDeadline)
    (hd : h'.adapter.bootDeadline = s.h.adapter.bootDeadline) {w : WorkPc} (hw' : ∀ full, w ≠ .issuing full true) :
    Resets {s with h := h', log := .physical s.attempt :: s.log, work := w} := by
  obtain ⟨hnew,heq,-⟩ := h.issuing full hw
  have hl : physicals (.physical s.attempt :: s.log) = s.attempt :: physicals s.log := rfl
  refine ⟨?_,?_,?_,fun f hx => absurd hx (hw' f)⟩
  · rw [hl]
    exact List.nodup_cons.mpr ⟨hnew,h.nodup⟩
  · rw [hl]
    intro n hn
    rcases List.mem_cons.mp hn with rfl | hn
    · exact Nat.le_refl _
    · exact h.past n hn
  · intro _
    exact .inr (by rw [hh,hd,heq])

/-! The pending requests. -/

def WorkPc.carried : WorkPc → Option Nat
  | .claimed _ .hard stamp => some stamp
  | .claimed _ .soft stamp => some stamp
  | .barred _ .hard stamp => some stamp
  | .barred _ .soft stamp => some stamp
  | _ => none

structure Stamps (s : State) : Prop where
  hard : s.h.hardResetRequested = true → s.hardStamp = s.h.resetRequestEpoch
  soft : s.h.softResetRequested = true → s.h.hardResetRequested = false → s.softStamp = s.h.resetRequestEpoch
  softLe : s.h.softResetRequested = true → s.softStamp ≤ s.h.resetRequestEpoch
  past : s.h.resetRequestEpoch ≤ s.epoch
  carried : ∀ stamp ∈ s.work.carried, stamp = s.epoch

theorem Stamps.frame {s s' : State} (h : Stamps s) (hh : s'.h.hardResetRequested = s.h.hardResetRequested)
    (hs : s'.h.softResetRequested = s.h.softResetRequested) (hr : s'.h.resetRequestEpoch = s.h.resetRequestEpoch)
    (h1 : s'.hardStamp = s.hardStamp) (h2 : s'.softStamp = s.softStamp) (he : s'.epoch = s.epoch)
    (hw : ∀ stamp ∈ s'.work.carried, stamp ∈ s.work.carried) : Stamps s' where
  hard := by rw [hh,hr,h1]; exact h.hard
  soft := by rw [hh,hs,hr,h2]; exact h.soft
  softLe := by rw [hs,hr,h2]; exact h.softLe
  past := by rw [hr,he]; exact h.past
  carried := fun stamp hx => by rw [he]; exact h.carried stamp (hw stamp hx)

theorem Stamps.clear {s s' : State} (h : Stamps s) (hh : s'.h.hardResetRequested = false)
    (hs : s'.h.softResetRequested = false) (hr : s'.h.resetRequestEpoch = s.h.resetRequestEpoch)
    (he : s'.epoch = s.epoch) (hw : ∀ stamp ∈ s'.work.carried, stamp = s.epoch) : Stamps s' where
  hard := by simp [hh]
  soft := by simp [hs]
  softLe := by simp [hs]
  past := by rw [hr,he]; exact h.past
  carried := fun stamp hx => by rw [he]; exact hw stamp hx

/-! Flags of the adapter. -/

structure Flags (s : State) : Prop where
  pass : s.work.inPass = true → s.h.adapter.recoveryPending = true ∨ s.h.adapter.resetExpected = true
  allow : s.boot.reconstructing = true → s.h.adapter.allowReconstruct = true
  synced : s.boot = .synced → s.work.inPass = false
  guarded : s.claimed = true → s.h.adapter.recoveryPending = true ∧ s.h.adapter.resetExpected = true
  gen : s.claimed = true → s.boot.reconstructing = true →
    s.h.adapter.recoveryGen ≠ s.h.adapter.reconstructGen

/-- The flags a step may only raise, with the generation and the boot event left alone. -/
theorem Flags.frame {s s' : State} (h : Flags s)
    (hp : s.h.adapter.recoveryPending = true → s'.h.adapter.recoveryPending = true)
    (hr : s.h.adapter.resetExpected = true → s'.h.adapter.resetExpected = true)
    (ha : s'.h.adapter.allowReconstruct = s.h.adapter.allowReconstruct)
    (hg : s'.h.adapter.recoveryGen = s.h.adapter.recoveryGen)
    (hrg : s'.h.adapter.reconstructGen = s.h.adapter.reconstructGen) (hb : s'.boot = s.boot)
    (hc : s'.claimed = s.claimed) (hw : s'.work.inPass = true → s.work.inPass = true) : Flags s' where
  pass := fun hx => (h.pass (hw hx)).imp hp hr
  allow := by rw [hb,ha]; exact h.allow
  synced := fun hx => by
    have hn := h.synced (hb ▸ hx)
    by_contra hy
    rw [hw (by simpa using hy)] at hn
    cases hn
  guarded := fun hx => ⟨hp (h.guarded (hc ▸ hx)).1,hr (h.guarded (hc ▸ hx)).2⟩
  gen := by rw [hc,hb,hg,hrg]; exact h.gen

theorem Flags.schedule {s s' : State} (h : Flags s) {fwReset : Bool} {a : Adapter}
    (ha : a.recoveryPending = s.h.adapter.recoveryPending ∧ a.resetExpected = s.h.adapter.resetExpected ∧
      a.allowReconstruct = s.h.adapter.allowReconstruct ∧ a.recoveryGen = s.h.adapter.recoveryGen ∧
      a.reconstructGen = s.h.adapter.reconstructGen)
    (hs : s'.h.adapter = espScheduleRecovery a fwReset) (hg : s.genSafe = true) (hb : s'.boot = s.boot)
    (hc : s'.claimed = s.claimed) (hw : s'.work.inPass = true → s.work.inPass = true) : Flags s' := by
  obtain ⟨ap,ar,aa,ag,arg⟩ := ha
  by_cases hd : a.shuttingDown = true
  · have he : espScheduleRecovery a fwReset = a := by simp [espScheduleRecovery,hd]
    rw [he] at hs
    exact h.frame (by rw [hs,ap]; exact id) (by rw [hs,ar]; exact id) (by rw [hs,aa]) (by rw [hs,ag])
      (by rw [hs,arg]) hb hc hw
  · obtain ⟨bp,br,bg,brg,ba,-⟩ := Bootup.espScheduleRecovery_spec a fwReset (by simpa using hd)
    refine ⟨fun _ => .inl (by rw [hs,bp]),?_,?_,?_,?_⟩
    · rw [hb,hs,ba,aa]
      exact h.allow
    · intro hx
      have hn := h.synced (hb ▸ hx)
      by_contra hy
      rw [hw (by simpa using hy)] at hn
      cases hn
    · intro hx
      rw [hs,bp,br,ar,(h.guarded (hc ▸ hx)).2]
      exact ⟨rfl,rfl⟩
    · intro hx hy
      rw [hs,bg,brg,ag,arg]
      rw [hb] at hy
      simpa [State.genSafe,hy] using hg

/-! All of it. -/

structure Inv (s : State) : Prop where
  flags : Flags s
  budget : Budget s
  resets : Resets s
  stamps : Stamps s
  executed : ∀ stamp e, .executed stamp e ∈ s.log → stamp = e
  erased : ∀ stamp e, .erased stamp e ∈ s.log → stamp ≠ e
  refused : Refusals s.log

theorem Inv.safe {s : State} (h : Inv s) : Safe s where
  good := {
    closes := fun e => by
      have hc := h.budget.closes e
      have ht := h.budget.takes e
      omega
    physical := h.resets.nodup
    executed := h.executed
    erased := h.erased
    refused := h.refused }
  guarded := h.flags.guarded

theorem inv_bound (a : Adapter) (full : Bool) (d now : Nat) : Inv (bound a full d now) where
  flags := ⟨by simp [bound,WorkPc.inPass],by simp [bound,BootPc.reconstructing],by simp [bound],by simp [bound],
    by simp [bound]⟩
  budget := ⟨by simp [bound],by unfold spent; split <;> rfl,by simp [bound],by simp [bound],by simp [bound]⟩
  resets := ⟨by simp [bound,physicals],by simp [bound,physicals],by simp [bound,physicals],by simp [bound]⟩
  stamps := ⟨by simp [bound],by simp [bound],by simp [bound],by simp [bound],by simp [bound,WorkPc.carried]⟩
  executed := by simp [bound]
  erased := by simp [bound]
  refused := by simp [bound,Refusals]

/-- What the count, the resets and the requests depend on in the backend. -/
def ledger (h : Host) : Nat × Nat × Nat × Nat × Nat × Bool × Bool × Nat :=
  (h.softResetBudgetEpoch,h.softResetAttempts,h.adapter.bootCommitEpoch,h.hardResetDeadline,
    h.adapter.bootDeadline,h.hardResetRequested,h.softResetRequested,h.resetRequestEpoch)

def State.books (s : State) : Nat × Nat × Nat × List Ev := (s.hardStamp,s.softStamp,s.attempt,s.log)

/-- Places at which nothing is owed. -/
def WorkPc.plain : WorkPc → Bool
  | .taken => false
  | .issuing _ true => false
  | w => w.carried.isNone

theorem plain_spec {w : WorkPc} (h : w.plain = true) :
    w ≠ .taken ∧ (∀ full, w ≠ .issuing full true) ∧ w.carried = none := by
  cases w with
  | taken => cases h
  | issuing full issue => cases issue <;> simp_all [WorkPc.plain,WorkPc.carried]
  | _ => simp_all [WorkPc.plain]

theorem same_or_plain {w w' : WorkPc} (h : w' = w ∨ w'.plain = true) :
    (w' = .taken → w = .taken) ∧ (∀ full, w' = .issuing full true → w = .issuing full true) ∧
    ∀ stamp ∈ w'.carried, stamp ∈ w.carried := by
  rcases h with rfl | h
  · exact ⟨id,fun _ => id,fun _ => id⟩
  · obtain ⟨ht,hi,hc⟩ := plain_spec h
    exact ⟨fun hx => absurd hx ht,fun full hx => absurd hx (hi full),by simp [hc]⟩

theorem sync_adapter (h : Host) : (budgetSync h).adapter = h.adapter := by simp [budgetSync_eq]

theorem Inv.logged {s s' : State} (h : Inv s) (hf : Flags s')
    (hl : ledger s'.h = ledger s.h ∨ ledger s'.h = ledger (budgetSync s.h))
    (hb : (s'.hardStamp,s'.softStamp,s'.attempt) = (s.hardStamp,s.softStamp,s.attempt))
    (hw : s'.work = s.work ∨ s'.work.plain = true)
    (ht : ∀ e, s'.log.count (.taken e) = s.log.count (.taken e))
    (hc : ∀ e, s'.log.count (.close e) = s.log.count (.close e)) (hp : physicals s'.log = physicals s.log)
    (hx : ∀ stamp e, .executed stamp e ∈ s'.log → stamp = e)
    (hy : ∀ stamp e, .erased stamp e ∈ s'.log → stamp ≠ e) (hr : Refusals s'.log) : Inv s' := by
  have hpast := h.budget.past
  simp only [ledger,budgetSync_eq,Prod.mk.injEq] at hl
  obtain ⟨b1,b2,b3⟩ : s'.hardStamp = s.hardStamp ∧ s'.softStamp = s.softStamp ∧ s'.attempt = s.attempt := by
    simpa using hb
  obtain ⟨hwt,hwi,hwc⟩ := same_or_plain hw
  rcases hl with ⟨h1,h2,h3,h4,h5,h6,h7,h8⟩ | ⟨h1,h2,h3,h4,h5,h6,h7,h8⟩
  · have hs : spent s'.h = spent s.h := by rw [spent,spent,h1,h2,h3]
    exact ⟨hf,h.budget.frame h3 (by omega) hs ht hc hwt,h.resets.frame hp b3 h4 h5 hwi,
      h.stamps.frame h6 h7 h8 b1 b2 h3 hwc,hx,hy,hr⟩
  · have hs : spent s'.h = spent s.h := by simp [spent,h1,h2,h3]
    exact ⟨hf,h.budget.frame h3 (Nat.le_of_eq h1) hs ht hc hwt,h.resets.frame hp b3 h4 h5 hwi,
      h.stamps.frame h6 h7 h8 b1 b2 h3 hwc,hx,hy,hr⟩

/-- A step that only moves flags and program counters. -/
theorem Inv.frame {s s' : State} (h : Inv s) (hf : Flags s') (hl : ledger s'.h = ledger s.h)
    (hb : s'.books = s.books) (hw : s'.work = s.work ∨ s'.work.plain = true) : Inv s' := by
  simp only [State.books,Prod.mk.injEq] at hb
  obtain ⟨b1,b2,b3,b4⟩ := hb
  refine h.logged hf (.inl hl) (by rw [b1,b2,b3]) hw (fun _ => by rw [b4]) (fun _ => by rw [b4]) (by rw [b4]) ?_ ?_ ?_
  · rw [b4]
    exact h.executed
  · rw [b4]
    exact h.erased
  · rw [b4]
    exact h.refused

theorem Inv.goto {s : State} (h : Inv s) {w : WorkPc} (hw : w.plain = true)
    (hp : w.inPass = true → s.work.inPass = true) : Inv {s with work := w} :=
  h.frame (h.flags.frame id id rfl rfl rfl rfl rfl hp) rfl rfl (.inr hw)

theorem Inv.request {s : State} (h : Inv s) (c : Clock) : Inv (s.request c) := by
  unfold State.request espRequestFirmwareRestart
  split_ifs with hd hx
  · exact h.frame (h.flags.frame id id rfl rfl rfl rfl rfl id) rfl rfl (.inl rfl)
  · have hz : s.h.adapter.bootDeadline = 0 := by simpa using hd
    refine h.frame (h.flags.frame id id rfl rfl rfl rfl rfl id) ?_ rfl (.inl rfl)
    simp [ledger,State.setAdapter,hz]
  · have hz : s.h.adapter.bootDeadline = 0 := by simpa using hd
    exact {
      flags := h.flags.frame id id rfl rfl rfl rfl rfl id
      budget := h.budget.frame rfl h.budget.past rfl (fun _ => rfl) (fun _ => rfl) id
      resets := h.resets.dispatch rfl rfl hz rfl
      stamps := h.stamps.frame rfl rfl rfl rfl rfl rfl (fun _ hx => hx)
      executed := h.executed
      erased := h.erased
      refused := h.refused }

theorem Inv.schedule {s s' : State} (h : Inv s) {fwReset : Bool} {a : Adapter}
    (ha : a.recoveryPending = s.h.adapter.recoveryPending ∧ a.resetExpected = s.h.adapter.resetExpected ∧
      a.allowReconstruct = s.h.adapter.allowReconstruct ∧ a.recoveryGen = s.h.adapter.recoveryGen ∧
      a.reconstructGen = s.h.adapter.reconstructGen)
    (hs : s'.h.adapter = espScheduleRecovery a fwReset) (hg : s.genSafe = true) (hb : s'.boot = s.boot)
    (hc : s'.claimed = s.claimed) (hwp : s'.work.inPass = true → s.work.inPass = true)
    (hl : ledger s'.h = ledger s.h) (hk : s'.books = s.books) (hw : s'.work = s.work ∨ s'.work.plain = true) :
    Inv s' :=
  h.frame (h.flags.schedule ha hs hg hb hc hwp) hl hk hw

theorem schedule_ledger (a : Adapter) (fwReset : Bool) :
    (espScheduleRecovery a fwReset).bootCommitEpoch = a.bootCommitEpoch ∧
    (espScheduleRecovery a fwReset).bootDeadline = a.bootDeadline := by
  unfold espScheduleRecovery espRecoveryDropTx
  split_ifs <;> simp
  split_ifs <;> simp

theorem Inv.refuse {s : State} (h : Inv s) (hn : ESP_FW_BOOT_MAX_ATTEMPTS ≤ spent s.h) {w : WorkPc}
    (hw : w = s.work ∨ (w.plain = true ∧ w.inPass = false)) :
    Inv {s with h := budgetSync s.h, log := .refused s.epoch :: s.log, work := w} := by
  refine h.logged ?_ (.inr rfl) rfl (hw.imp id And.left) (by simp) (by simp) rfl ?_ ?_ ⟨?_,h.refused⟩
  · refine h.flags.frame (by simp [sync_adapter]) (by simp [sync_adapter]) (by simp [sync_adapter])
      (by simp [sync_adapter]) (by simp [sync_adapter]) rfl rfl ?_
    rcases hw with rfl | ⟨-,hw⟩
    · exact id
    · simp [hw]
  · simpa using h.executed
  · simpa using h.erased
  · rw [h.budget.now]
    exact hn

theorem Inv.publish {s s' : State} (h : Inv s) {b : Bool} (hsafe : b = false → s.softSafe = true)
    (hh : s'.h = {budgetSync s.h with
      resetRequestEpoch := s.epoch
      hardResetRequested := s.h.hardResetRequested || b
      softResetRequested := s.h.softResetRequested || !b})
    (h1 : s'.hardStamp = if b then s.epoch else s.hardStamp)
    (h2 : s'.softStamp = if b then s.softStamp else s.epoch)
    (ha : s'.attempt = s.attempt) (hl : s'.log = s.log) (hb : s'.boot = s.boot) (hc : s'.claimed = s.claimed)
    (hw : s'.work = s.work ∨ (s'.work.plain = true ∧ s'.work.inPass = false)) : Inv s' := by
  have hadp : s'.h.adapter = s.h.adapter := by rw [hh,sync_adapter]
  have he : s'.epoch = s.epoch := by rw [State.epoch,hadp]; rfl
  obtain ⟨hwt,hwi,hwc⟩ := same_or_plain (hw.imp id And.left)
  have hwp : s'.work.inPass = true → s.work.inPass = true := by
    rcases hw with hw | ⟨-,hw⟩
    · rw [hw]
      exact id
    · simp [hw]
  refine ⟨?_,?_,?_,⟨?_,?_,?_,?_,?_⟩,?_,?_,?_⟩
  · exact h.flags.frame (by rw [hadp]; exact id) (by rw [hadp]; exact id) (by rw [hadp]) (by rw [hadp])
      (by rw [hadp]) hb hc hwp
  · refine h.budget.frame he ?_ ?_ (fun _ => by rw [hl]) (fun _ => by rw [hl]) hwt
    · rw [hh]
      simp [budgetSync_eq,State.epoch]
    · rw [hh]
      simp [budgetSync_eq,spent]
  · refine h.resets.frame (by rw [hl]) ha ?_ (by rw [hadp]) hwi
    rw [hh]
    simp [budgetSync_eq]
  · intro hx
    rw [hh] at hx ⊢
    rw [h1]
    cases b with
    | true => rfl
    | false =>
      have hreq : s.h.hardResetRequested = true := by simpa using hx
      simpa [State.softSafe,hreq] using hsafe rfl
  · intro _ hy
    rw [hh] at hy ⊢
    rw [h2]
    cases b with
    | true => simp at hy
    | false => rfl
  · intro hx
    rw [hh] at hx ⊢
    rw [h2]
    cases b with
    | true =>
      have hreq : s.h.softResetRequested = true := by simpa using hx
      exact Nat.le_trans (h.stamps.softLe hreq) h.stamps.past
    | false => exact Nat.le_refl _
  · simp only [hh,he,Nat.le_refl]
  · rw [he]
    exact fun stamp hx => h.stamps.carried stamp (hwc stamp hx)
  · rw [hl]
    exact h.executed
  · rw [hl]
    exact h.erased
  · rw [hl]
    exact h.refused

theorem Inv.resetTarget {s : State} (h : Inv s) (hok : Followed s .target) (n : Nat) :
    Inv {s.resetTarget with targets := n} := by
  have hsafe : (Sdio.publish s.h).2 = .soft → s.softSafe = true := by
    intro hx
    simpa [Followed,follows,hx] using hok
  by_cases hd : s.h.adapter.shuttingDown = true
  · have hp : Sdio.publish s.h = (s.h,.down) := by simp [Sdio.publish,hd]
    simp only [State.resetTarget,hp]
    exact h.frame (h.flags.frame id id rfl rfl rfl rfl rfl id) rfl rfl (.inl rfl)
  · have hf : fullChip (budgetSync s.h) = fullChip s.h := by simp [fullChip,budgetSync_eq]
    by_cases hc : fullChip s.h = true
    · have hp : Sdio.publish s.h = ({budgetSync s.h with
          resetRequestEpoch := s.h.adapter.bootCommitEpoch, hardResetRequested := true},.hard) := by
        simp [Sdio.publish,hd,hf,hc,sync_adapter]
      simp only [State.resetTarget,hp]
      refine h.publish (b := true) (by simp) ?_ rfl rfl rfl rfl rfl rfl (.inl rfl)
      simp [budgetSync_eq,State.epoch]
    · by_cases hm : ESP_FW_BOOT_MAX_ATTEMPTS ≤ spent s.h
      · have hp : Sdio.publish s.h = (budgetSync s.h,.refused) := by
          have hx : ESP_FW_BOOT_MAX_ATTEMPTS ≤ (budgetSync s.h).softResetAttempts := by
            simpa [budgetSync_eq] using hm
          simp [Sdio.publish,hd,hf,hc,hx]
        simp only [State.resetTarget,hp]
        have hr := h.refuse hm (.inl rfl)
        exact hr.frame (hr.flags.frame id id rfl rfl rfl rfl rfl id) rfl rfl (.inl rfl)
      · have hp : Sdio.publish s.h = ({budgetSync s.h with
            resetRequestEpoch := s.h.adapter.bootCommitEpoch, softResetRequested := true},.soft) := by
          have hx : ¬ESP_FW_BOOT_MAX_ATTEMPTS ≤ (budgetSync s.h).softResetAttempts := by
            simpa [budgetSync_eq] using hm
          simp [Sdio.publish,hd,hf,hc,hx,sync_adapter]
        simp only [State.resetTarget,hp]
        refine h.publish (b := false) (fun _ => hsafe (by rw [hp])) ?_ rfl rfl rfl rfl rfl rfl (.inl rfl)
        simp [budgetSync_eq,State.epoch]

theorem Inv.budgetArm {s : State} (h : Inv s) (hw : s.work = .arming) (hok : ∀ io, Followed s (.pass io)) :
    Inv {s.budgetArm with work := .idle} := by
  have hsafe : (arm s.h).2 = true → s.softSafe = true := by
    intro hx
    simpa [Followed,follows,hw,hx] using hok {}
  by_cases hlt : spent s.h < ESP_FW_BOOT_MAX_ATTEMPTS
  · have ha : arm s.h = ({budgetSync s.h with
        resetRequestEpoch := s.h.adapter.bootCommitEpoch, softResetRequested := true},true) := by
      simp [arm,Sdio.budgetArm,budgetSync_eq,hlt]
    simp only [State.budgetArm,ha]
    refine h.publish (b := false) (fun _ => hsafe (by rw [ha])) ?_ rfl rfl rfl rfl rfl rfl (.inr ⟨rfl,rfl⟩)
    simp [budgetSync_eq,State.epoch]
  · have ha : arm s.h = (budgetSync s.h,false) := by
      simp [arm,Sdio.budgetArm,budgetSync_eq,hlt]
    simp only [State.budgetArm,ha]
    exact h.refuse (by omega) (.inr ⟨rfl,rfl⟩)

/-! A pass over the transport. -/

theorem Inv.clear {s s' : State} (h : Inv s) (hf : Flags s')
    (hl : ledger s'.h = ledger {s.h with hardResetRequested := false, softResetRequested := false})
    (hb : s'.books = s.books) (hwt : s'.work = .taken → s.work = .taken)
    (hwi : ∀ full, s'.work = .issuing full true → s.work = .issuing full true)
    (hwc : ∀ stamp ∈ s'.work.carried, stamp = s.epoch) : Inv s' := by
  have hp := h.budget.past
  simp only [ledger,Prod.mk.injEq] at hl
  obtain ⟨h1,h2,h3,h4,h5,h6,h7,h8⟩ := hl
  simp only [State.books,Prod.mk.injEq] at hb
  obtain ⟨-,-,b3,b4⟩ := hb
  have hs : spent s'.h = spent s.h := by rw [spent,spent,h1,h2,h3]
  refine ⟨hf,h.budget.frame h3 (by omega) hs (fun _ => by rw [b4]) (fun _ => by rw [b4]) hwt,
    h.resets.frame (by rw [b4]) b3 h4 h5 hwi,h.stamps.clear h6 h7 h8 h3 hwc,?_,?_,?_⟩
  · rw [b4]
    exact h.executed
  · rw [b4]
    exact h.erased
  · rw [b4]
    exact h.refused

theorem espSdioClaimReset_cases (h : Host) :
    espSdioClaimReset h = (h,.none) ∨
    espSdioClaimReset h = ({h with hardResetRequested := false, softResetRequested := false},.stale) ∨
    ∃ hard, (hard = true → h.hardResetRequested = true) ∧
      (hard = false → h.softResetRequested = true ∧ h.hardResetRequested = false) ∧
      h.resetRequestEpoch = h.adapter.bootCommitEpoch ∧
      espSdioClaimReset h =
        ({h with
          hardResetRequested := false
          softResetRequested := false
          adapter := {h.adapter with
            recoveryPending := true, resetExpected := true, recoveryGen := h.adapter.recoveryGen+1}},
          if hard then .hard else .soft) := by
  unfold espSdioClaimReset
  split_ifs with h1 h2 h3
  · exact .inl rfl
  · exact .inr (.inl rfl)
  · exact .inr (.inr ⟨true,by simp [h3],by simp,by simpa using (not_or.mp h2).1,rfl⟩)
  · refine .inr (.inr ⟨false,by simp,fun _ => ?_,by simpa using (not_or.mp h2).1,rfl⟩)
    simpa [h3] using h1

theorem claim_awake (h : Host) : (espSdioClaimReset {h with hostSleep := false}).2 = (espSdioClaimReset h).2 := by
  unfold espSdioClaimReset
  split_ifs <;> rfl

theorem Inv.claim {s : State} (h : Inv s) {gen : UInt32} (hw : s.work = .starting gen)
    (hok : ∀ io, Followed s (.pass io)) {r : Host × Claim} (hr : espSdioClaimReset {s.h with hostSleep := false} = r) :
    Inv {s with
      h := r.1
      claimed := s.claimed || (r.2 = .hard || r.2 = .soft)
      work := .claimed gen r.2 (if r.2 = .hard then s.hardStamp else s.softStamp)} := by
  have hpass : s.work.inPass = true := by rw [hw]; rfl
  have hf := h.flags
  subst hr
  rcases espSdioClaimReset_cases {s.h with hostSleep := false} with hc | hc | ⟨hard,hhard,hsoft,hep,hc⟩
  · rw [hc]
    exact h.frame (hf.frame id id rfl rfl rfl rfl (by simp) (fun _ => hpass)) rfl rfl (.inr rfl)
  · rw [hc]
    exact h.clear (hf.frame id id rfl rfl rfl rfl (by simp) (fun _ => hpass)) rfl rfl (by simp) (by simp)
      (by simp [WorkPc.carried])
  · have hg : s.genSafe = true := by
      have hx := hok {}
      simp only [Followed,follows,hw,← claim_awake s.h,hc] at hx
      cases hard <;> simpa using hx
    have hep' : s.h.resetRequestEpoch = s.epoch := hep
    rw [hc]
    refine h.clear ⟨fun _ => .inl rfl,hf.allow,?_,fun _ => ⟨rfl,rfl⟩,?_⟩ rfl rfl (by simp) (by simp) ?_
    · intro hx
      have hn := hf.synced hx
      rw [hpass] at hn
      cases hn
    · intro _ hy
      simpa [State.genSafe,hy] using hg
    · intro stamp hx
      cases hard with
      | true =>
        have hx : s.hardStamp = stamp := by simpa [WorkPc.carried] using hx
        rw [← hx,h.stamps.hard (hhard rfl),hep']
      | false =>
        have hx : s.softStamp = stamp := by simpa [WorkPc.carried] using hx
        rw [← hx,h.stamps.soft (hsoft rfl).1 (hsoft rfl).2,hep']

theorem Inv.execute {s : State} (h : Inv s) {stamp : Nat} (hs : stamp ∈ s.work.carried) {w : WorkPc}
    (hw : w.plain = true) (hp : s.work.inPass = true) :
    Inv {s with log := .executed stamp s.epoch :: s.log, work := w} := by
  refine h.logged (h.flags.frame id id rfl rfl rfl rfl rfl (fun _ => hp)) (.inl rfl) rfl (.inr hw) (by simp) (by simp)
    rfl ?_ ?_ h.refused
  · intro stamp' e hx
    rcases List.mem_cons.mp hx with hx | hx
    · cases hx
      exact h.stamps.carried stamp hs
    · exact h.executed stamp' e hx
  · simpa using h.erased

theorem budgetTake_eq (h : Host) :
    budgetTake h =
      if spent h < ESP_FW_BOOT_MAX_ATTEMPTS then ({budgetSync h with softResetAttempts := spent h+1},true)
      else (budgetSync h,false) := by
  simp [budgetTake,budgetSync_eq]

theorem Inv.take {s : State} (h : Inv s) (hw : s.work = .soft) (hlt : spent s.h < ESP_FW_BOOT_MAX_ATTEMPTS) :
    Inv {s with
      h := {budgetSync s.h with softResetAttempts := spent s.h+1}
      log := .taken s.epoch :: s.log
      work := .taken} where
  flags := by
    refine h.flags.frame ?_ ?_ ?_ ?_ ?_ rfl rfl ?_
    all_goals simp [sync_adapter,hw,WorkPc.inPass]
  budget := h.budget.take (by simp [hw]) hlt
  resets := by
    refine h.resets.frame rfl rfl ?_ ?_ (by simp)
    all_goals simp [budgetSync_eq]
  stamps := by
    refine h.stamps.frame ?_ ?_ ?_ rfl rfl ?_ (by simp [WorkPc.carried])
    all_goals simp [budgetSync_eq,State.epoch]
  executed := by simpa using h.executed
  erased := by simpa using h.erased
  refused := h.refused

theorem Inv.close {s : State} (h : Inv s) (hw : s.work = .taken) :
    Inv {s with log := .close s.epoch :: s.log, work := .idle} where
  flags := h.flags.frame id id rfl rfl rfl rfl rfl (by simp [WorkPc.inPass])
  budget := h.budget.close hw
  resets := h.resets.frame rfl rfl rfl rfl (by simp)
  stamps := h.stamps.frame rfl rfl rfl rfl rfl rfl (by simp [WorkPc.carried])
  executed := by simpa using h.executed
  erased := by simpa using h.erased
  refused := h.refused

theorem Inv.armHard {s : State} (h : Inv s) (hw : s.work = .hard) (full : Bool) (hd : s.h.adapter.bootDeadline ≠ 0) :
    Inv {s with
      h := {s.h with hardResetDeadline := if full then s.h.adapter.bootDeadline else s.h.hardResetDeadline}
      work := .issuing full (full && s.h.hardResetDeadline != s.h.adapter.bootDeadline)} where
  flags := h.flags.frame id id rfl rfl rfl rfl rfl (by simp [hw,WorkPc.inPass])
  budget := h.budget.frame rfl h.budget.past rfl (fun _ => rfl) (fun _ => rfl) (by simp)
  resets := by
    refine ⟨h.resets.nodup,h.resets.past,?_,?_⟩
    · intro hx
      cases full with
      | true => exact .inr rfl
      | false => exact h.resets.once hx
    · intro f hx
      simp only [WorkPc.issuing.injEq,Bool.and_eq_true,bne_iff_ne] at hx
      obtain ⟨rfl,rfl,hne⟩ := hx
      refine ⟨?_,rfl,hd⟩
      intro hm
      rcases h.resets.once hm with h0 | h0
      · exact hd h0
      · exact hne h0
  stamps := h.stamps.frame rfl rfl rfl rfl rfl rfl (by simp [WorkPc.carried])
  executed := h.executed
  erased := h.erased
  refused := h.refused

theorem Inv.issue {s : State} (h : Inv s) {full : Bool} (hw : s.work = .issuing full true) (b : Bool) {w : WorkPc}
    (hw' : w.plain = true) :
    Inv {s with
      h := {s.h with restartNeeded := b, adapter := {s.h.adapter with resetExpected := true}}
      log := .physical s.attempt :: s.log
      work := w} where
  flags := h.flags.frame id (fun _ => rfl) rfl rfl rfl rfl rfl (by simp [hw,WorkPc.inPass])
  budget := h.budget.frame rfl h.budget.past rfl (by simp) (by simp) (fun hx => absurd hx (plain_spec hw').1)
  resets := by
    refine h.resets.issue hw ?_ ?_ (plain_spec hw').2.1
    all_goals rfl
  stamps := h.stamps.frame rfl rfl rfl rfl rfl rfl (by simp [(plain_spec hw').2.2])
  executed := by simpa using h.executed
  erased := by simpa using h.erased
  refused := h.refused

theorem Inv.raise {s : State} (h : Inv s) {h' : Host} {w : WorkPc} (hl : ledger h' = ledger s.h)
    (hp : s.h.adapter.recoveryPending = true → h'.adapter.recoveryPending = true)
    (hr : s.h.adapter.resetExpected = true → h'.adapter.resetExpected = true)
    (ha : (h'.adapter.allowReconstruct,h'.adapter.recoveryGen,h'.adapter.reconstructGen) =
      (s.h.adapter.allowReconstruct,s.h.adapter.recoveryGen,s.h.adapter.reconstructGen))
    (hw : w.plain = true) (hwp : w.inPass = true → s.work.inPass = true) : Inv {s with h := h', work := w} := by
  simp only [Prod.mk.injEq] at ha
  obtain ⟨a1,a2,a3⟩ := ha
  exact h.frame (h.flags.frame hp hr a1 a2 a3 rfl rfl hwp) hl rfl (.inr hw)

theorem Inv.barred {s s' : State} (h : Inv s) {c : Clock} {io : Io} {gen : UInt32} {cl : Claim} {stamp : Nat}
    (hw : s.work = .barred gen cl stamp) (hs : s.pass c io (.barred gen cl stamp) = some s') : Inv s' := by
  have hp : s.work.inPass = true := by rw [hw]; rfl
  have hgoto : ∀ w, w.plain = true → Inv {s with work := w} := fun w hx => h.goto hx (fun _ => hp)
  have hready : Inv {s.setAdapter {s.h.adapter with state := .ready} with work := .returning gen} :=
    h.raise rfl id id rfl rfl (fun _ => hp)
  -- Neither of the two claims below carries a request.
  have hrest : ∀ b : Bool, (if b = true ∧ healthy s.h.adapter = true then
        some {s.setAdapter {s.h.adapter with state := .ready} with work := .returning gen}
      else if io.reenable = false then some {s with work := .hard}
      else if s.h.restartNeeded = true then some {s with work := .arming}
      else
        match io.other with
        | .error => some {s with work := .idle}
        | .waiting expect =>
          some {s.setAdapter {s.h.adapter with resetExpected := s.h.adapter.resetExpected || expect} with
            work := .idle}
        | .resumed => some {s.setAdapter {s.h.adapter with state := .ready} with work := .returning gen}
        | .fallback => some {s with work := .hard}) = some s' → Inv s' := by
    intro b hs
    split_ifs at hs
    · cases hs
      exact hready
    · cases hs
      exact hgoto _ rfl
    · cases hs
      exact hgoto _ rfl
    · cases hio : io.other with
      | error =>
        simp only [hio] at hs
        cases hs
        exact hgoto _ rfl
      | waiting expect =>
        simp only [hio] at hs
        cases hs
        refine h.raise rfl id ?_ rfl rfl (fun _ => hp)
        intro hx
        show (s.h.adapter.resetExpected || expect) = true
        rw [hx,Bool.true_or]
      | resumed =>
        simp only [hio] at hs
        cases hs
        exact hready
      | fallback =>
        simp only [hio] at hs
        cases hs
        exact hgoto _ rfl
  cases cl with
  | none => exact hrest false (by simpa [State.pass] using hs)
  | stale => exact hrest true (by simpa [State.pass] using hs)
  | hard =>
    cases hs
    exact h.execute (by simp [hw,WorkPc.carried]) rfl hp
  | soft =>
    cases hs
    exact h.execute (by simp [hw,WorkPc.carried]) rfl hp

theorem Inv.pass {s s' : State} (h : Inv s) {c : Clock} {io : Io} (hok : ∀ io, Followed s (.pass io))
    (hs : s.pass c io s.work = some s') : Inv s' := by
  cases hw : s.work with
  | idle =>
    rw [hw] at hs
    cases hs
  | retrySchedule cleanup =>
    have hg : s.genSafe = true := by simpa [Followed,follows,hw] using hok {}
    simp only [hw,State.pass] at hs
    split_ifs at hs
    · cases hs
      exact h.goto rfl (by simp [WorkPc.inPass])
    · cases hs
      refine h.schedule (a := {s.h.adapter with cleanupInProgress := s.h.adapter.cleanupInProgress && !cleanup})
        ⟨rfl,rfl,rfl,rfl,rfl⟩ rfl hg rfl rfl (by simp [WorkPc.inPass]) ?_ rfl (.inr rfl)
      simp [ledger,scheduleFwReset,schedule_ledger]
  | retryRequest =>
    rw [hw] at hs
    cases hs
    exact (h.request c).goto rfl (by simp [WorkPc.inPass])
  | starting gen =>
    rw [hw,State.pass] at hs
    split_ifs at hs
    · cases hs
      exact h.goto rfl (by simp [WorkPc.inPass])
    · cases hs
      exact h.claim hw hok rfl
  | claimed gen cl stamp =>
    have hp : s.work.inPass = true := by rw [hw]; rfl
    simp only [hw,State.pass] at hs
    split_ifs at hs with hc
    · cases hs
      exact h.goto rfl (fun _ => hp)
    · cases hs
      refine ⟨h.flags.frame id id rfl rfl rfl rfl rfl (fun _ => hp),
        h.budget.frame rfl h.budget.past rfl (fun _ => rfl) (fun _ => rfl) (by simp),
        h.resets.frame rfl rfl rfl rfl (by simp),h.stamps.frame rfl rfl rfl rfl rfl rfl ?_,h.executed,h.erased,
        h.refused⟩
      intro st hx
      rw [hw]
      cases cl <;> exact hx
  | barred gen cl stamp => exact h.barred hw (hw ▸ hs)
  | soft =>
    have hp : s.work.inPass = true := by rw [hw]; rfl
    simp only [hw,State.pass,budgetTake_eq] at hs
    by_cases hr : io.reenable = false
    · rw [if_pos hr] at hs
      cases hs
      exact h.goto rfl (by simp [WorkPc.inPass])
    · rw [if_neg hr] at hs
      by_cases hlt : spent s.h < ESP_FW_BOOT_MAX_ATTEMPTS
      · rw [if_pos hlt] at hs
        cases hs
        exact h.take hw hlt
      · rw [if_neg hlt] at hs
        cases hs
        exact h.refuse (by omega) (.inr ⟨rfl,rfl⟩)
  | taken =>
    have hc := h.close hw
    simp only [hw,State.pass] at hs
    split_ifs at hs
    · cases hs
      exact hc.raise rfl id (fun _ => rfl) rfl rfl id
    · cases hs
      exact hc
  | hard =>
    rw [hw,State.pass] at hs
    by_cases h1 : s.h.adapter.shuttingDown = true
    · rw [if_pos h1] at hs
      cases hs
      exact h.goto rfl (by simp [WorkPc.inPass])
    · rw [if_neg h1] at hs
      by_cases h2 : s.h.adapter.bootDeadline = 0
      · rw [if_pos h2] at hs
        cases hs
        exact h.goto rfl (by simp [WorkPc.inPass])
      · rw [if_neg h2] at hs
        cases hs
        exact h.armHard hw (fullChip s.h) h2
  | issuing full issue =>
    have hp : s.work.inPass = true := by rw [hw]; rfl
    simp only [hw,State.pass] at hs
    split_ifs at hs with h1 h2
    · cases hs
      exact h.raise rfl id (fun _ => rfl) rfl rfl (fun _ => hp)
    · cases hs
      exact h.raise rfl id (fun _ => rfl) rfl rfl (fun _ => hp)
    · have hi : s.work = .issuing full true := by simpa [hw] using h2
      cases hio : io.hwReset with
      | failed unsupported =>
        simp only [hio] at hs
        cases hs
        exact h.issue hi s.h.restartNeeded rfl
      | done =>
        simp only [hio] at hs
        cases hs
        exact h.issue hi false rfl
      | scheduled =>
        simp only [hio] at hs
        cases hs
        exact h.issue hi false rfl
  | failed unsupported =>
    rw [hw] at hs
    cases hs
    refine h.raise rfl id id rfl ?_ (by simp [hw,WorkPc.inPass])
    split <;> rfl
  | arming =>
    rw [hw] at hs
    cases hs
    exact h.budgetArm hw hok
  | returning gen =>
    simp only [hw,State.pass] at hs
    split_ifs at hs with h1
    · cases hs
      exact h.goto rfl (by simp [WorkPc.inPass])
    · cases hs
      -- `ESP_RESET_EXPECTED` is down, so no claimed reset waits for its reconstruction.
      have hc : s.claimed = true → False := by
        intro hx
        exact h1 (.inr (h.flags.guarded hx).2)
      exact h.frame ⟨by simp [WorkPc.inPass],h.flags.allow,fun _ => rfl,fun hx => (hc hx).elim,fun hx => (hc hx).elim⟩
        rfl rfl (.inr rfl)

/-! The worker, the boot event and the commit. -/

theorem espFwRecoveryWork_cases (c : Clock) (now : Nat) (a : Adapter) :
    (espFwRecoveryWork c now a = (a,.recover) ∧ (a.recoveryPending = true ∨ a.resetExpected = true) ∧
      a.allowReconstruct = false) ∨
    espFwRecoveryWork c now a = (a,.retry) ∨
    espFwRecoveryWork c now a = ({a with bootDeadline := 0},.retry) ∨
    espFwRecoveryWork c now a = (a,.skip) ∨
    espFwRecoveryWork c now a = ({a with workArmed := true},.rearm) := by
  unfold espFwRecoveryWork
  split_ifs with h1 h2 h3 h4 h5 h6
  all_goals simp
  refine ⟨?_,by simpa using h5⟩
  cases hp : a.recoveryPending <;> cases hr : a.resetExpected <;> simp_all

theorem Inv.work {s s' : State} (h : Inv s) {c : Clock} (hs : step c s .work = some s') : Inv s' := by
  have hf := h.flags
  simp only [step] at hs
  split_ifs at hs with hw
  have hw : s.work = .idle := by simpa using hw
  rcases espFwRecoveryWork_cases c s.now s.h.adapter with ⟨he,hpr,ha⟩ | he | he | he | he
  · rw [he] at hs
    cases hs
    refine h.frame ⟨fun _ => hpr,hf.allow,?_,hf.guarded,hf.gen⟩ rfl rfl (.inr rfl)
    intro hx
    have hb : s.boot = .synced := hx
    have := hf.allow (by rw [hb]; rfl)
    rw [ha] at this
    cases this
  · rw [he] at hs
    cases hs
    exact h.frame (hf.frame id id rfl rfl rfl rfl rfl (by simp [WorkPc.inPass])) rfl rfl (.inr rfl)
  · rw [he] at hs
    cases hs
    exact {
      flags := hf.frame id id rfl rfl rfl rfl rfl (by simp [WorkPc.inPass])
      budget := h.budget.frame rfl h.budget.past rfl (fun _ => rfl) (fun _ => rfl) (by simp)
      resets := h.resets.disarm rfl rfl rfl (by simp)
      stamps := h.stamps.frame rfl rfl rfl rfl rfl rfl (by simp [WorkPc.carried])
      executed := h.executed
      erased := h.erased
      refused := h.refused }
  · rw [he] at hs
    cases hs
    exact h.frame (hf.frame id id rfl rfl rfl rfl rfl id) rfl rfl (.inl rfl)
  · rw [he] at hs
    cases hs
    exact h.frame (hf.frame id id rfl rfl rfl rfl rfl id) rfl rfl (.inl rfl)

/-- Between passes every place is one at which nothing is owed. -/
theorem plain_of_not_inPass {w : WorkPc} (h : w.inPass = false) : w.plain = true := by
  cases w with
  | idle => rfl
  | retrySchedule cleanup => rfl
  | retryRequest => rfl
  | _ => cases h

theorem Inv.finish {s : State} (h : Inv s) (hp : s.h.adapter.recoveryPending = false)
    (hr : s.h.adapter.resetExpected = false) {a : Adapter} (n : Nat)
    (ha : a = {s.h.adapter with
      bootResetAttempts := 0, bootDeadline := 0, exhausted := false
      bootCommitEpoch := s.h.adapter.bootCommitEpoch+1}) :
    Inv {s.setAdapter a with callbacks := n} := by
  have hout : s.work.inPass = false := by
    by_contra hx
    have := h.flags.pass (by simpa using hx)
    simp [hp,hr] at this
  obtain ⟨ht,hi,hc⟩ := plain_spec (plain_of_not_inPass hout)
  have hpast := h.stamps.past
  subst ha
  exact {
    flags := h.flags.frame id id rfl rfl rfl rfl rfl id
    budget := h.budget.commit ht rfl rfl rfl rfl
    resets := h.resets.disarm rfl rfl rfl hi
    stamps := {
      hard := h.stamps.hard
      soft := h.stamps.soft
      softLe := h.stamps.softLe
      past := Nat.le_succ_of_le hpast
      carried := by
        intro stamp hx
        have hx : stamp ∈ s.work.carried := hx
        simp [hc] at hx }
    executed := h.executed
    erased := h.erased
    refused := h.refused }

theorem Inv.callback {s : State} (h : Inv s) (n : Nat) : Inv {s.callback with callbacks := n} := by
  have hf : ∀ {s' : State}, s'.h.adapter = s.h.adapter → s'.boot = s.boot → s'.claimed = s.claimed →
      s'.work = s.work → Flags s' := by
    intro s' ha hb hc hw
    exact h.flags.frame (by rw [ha]; exact id) (by rw [ha]; exact id) (by rw [ha]) (by rw [ha]) (by rw [ha]) hb hc
      (by rw [hw]; exact id)
  have hr : (budgetSync s.h).resetRequestEpoch = s.h.resetRequestEpoch := by rw [budgetSync_eq]
  have hhard : (budgetSync s.h).hardResetRequested = s.h.hardResetRequested := by rw [budgetSync_eq]
  have hsoft : (budgetSync s.h).softResetRequested = s.h.softResetRequested := by rw [budgetSync_eq]
  simp only [State.callback,hr,hhard,hsoft]
  by_cases hne : s.h.resetRequestEpoch = s.epoch
  · rw [if_neg (by simpa using hne)]
    exact h.logged (hf (sync_adapter _) rfl rfl rfl) (.inr rfl) rfl (.inl rfl) (fun _ => rfl) (fun _ => rfl) rfl
      h.executed h.erased h.refused
  · rw [if_pos hne]
    have hpast := h.stamps.past
    have h1 : Inv {s with
        h := budgetSync s.h
        log := (if s.h.hardResetRequested then [.erased s.hardStamp s.epoch] else []) ++
          (if s.h.softResetRequested then [.erased s.softStamp s.epoch] else []) ++ s.log} := by
      refine h.logged (hf (sync_adapter _) rfl rfl rfl) (.inr rfl) rfl (.inl rfl) ?_ ?_ ?_ ?_ ?_ ?_
      · intro e
        cases s.h.hardResetRequested <;> cases s.h.softResetRequested <;> simp
      · intro e
        cases s.h.hardResetRequested <;> cases s.h.softResetRequested <;> simp
      · cases s.h.hardResetRequested <;> cases s.h.softResetRequested <;> rfl
      · intro stamp e hx
        refine h.executed stamp e ?_
        cases h1 : s.h.hardResetRequested <;> cases h2 : s.h.softResetRequested <;> simpa [h1,h2] using hx
      · intro stamp e hx
        have hcase : (s.h.hardResetRequested = true ∧ stamp = s.hardStamp ∧ e = s.epoch) ∨
            (s.h.softResetRequested = true ∧ stamp = s.softStamp ∧ e = s.epoch) ∨ .erased stamp e ∈ s.log := by
          cases h1 : s.h.hardResetRequested <;> cases h2 : s.h.softResetRequested <;> simpa [h1,h2] using hx
        rcases hcase with ⟨hq,rfl,rfl⟩ | ⟨hq,rfl,rfl⟩ | hx
        · have := h.stamps.hard hq
          omega
        · have := h.stamps.softLe hq
          omega
        · exact h.erased stamp e hx
      · cases s.h.hardResetRequested <;> cases s.h.softResetRequested <;> exact h.refused
    refine h1.clear (hf (sync_adapter _) rfl rfl rfl) (by simp [ledger,budgetSync_eq]) rfl id (fun _ => id) ?_
    intro stamp hx
    have := h.stamps.carried stamp hx
    rw [this,State.epoch,State.epoch,sync_adapter]

theorem Inv.boot {s s' : State} (h : Inv s) {c : Clock} {a : Action}
    (ha : a = .bootStart ∨ a = .begin ∨ a = .bootFail ∨ a = .commitInit ∨ a = .commitSync ∨ a = .commit)
    (hs : step c s a = some s') : Inv s' := by
  have hf := h.flags
  rcases ha with rfl | rfl | rfl | rfl | rfl | rfl
  · simp only [step] at hs
    split_ifs at hs with hg
    cases hs
    obtain ⟨hw,-⟩ := not_or.mp hg
    have hw : s.work = .idle := by simpa using hw
    refine h.frame ⟨?_,?_,?_,?_,?_⟩ rfl rfl (.inl rfl)
    · simp [hw,WorkPc.inPass]
    · simp [BootPc.reconstructing]
    · simp
    · intro hx
      have := hf.guarded hx
      simp [this]
    · simp [BootPc.reconstructing]
  · simp only [step] at hs
    split_ifs at hs
    cases hs
    exact h.frame ⟨hf.pass,fun _ => rfl,by simp,by simp,by simp⟩ rfl rfl (.inl rfl)
  · simp only [step] at hs
    split_ifs at hs
    cases hs
    exact h.frame ⟨hf.pass,by simp [BootPc.reconstructing],by simp,hf.guarded,by simp [BootPc.reconstructing]⟩ rfl rfl
      (.inl rfl)
  · simp only [step] at hs
    split_ifs at hs with hb
    have hb : s.boot = .begun := by simpa using hb
    cases hs
    refine h.frame ⟨hf.pass,fun _ => hf.allow (by rw [hb]; rfl),by simp,hf.guarded,fun hx _ => hf.gen hx (by rw [hb]; rfl)⟩
      rfl rfl (.inl rfl)
  · simp only [step] at hs
    split_ifs at hs with hb
    obtain ⟨hb,hw⟩ := not_or.mp hb
    have hb : s.boot = .initSet := by simpa using hb
    have hw : s.work = .idle := by simpa using hw
    cases hs
    refine h.frame ⟨hf.pass,fun _ => hf.allow (by rw [hb]; rfl),fun _ => ?_,hf.guarded,
      fun hx _ => hf.gen hx (by rw [hb]; rfl)⟩ rfl rfl (.inl rfl)
    rw [hw]
    rfl
  · simp only [step] at hs
    split_ifs at hs with hb
    have hb : s.boot = .synced := by simpa using hb
    have hout := hf.synced hb
    cases hs
    refine h.frame ⟨?_,?_,?_,?_,?_⟩ ?_ rfl (.inl rfl)
    · simp [hout]
    · simp [BootPc.reconstructing]
    · simp
    · intro hx
      have hgen := hf.gen hx (by rw [hb]; rfl)
      have := hf.guarded hx
      simp [espCommitReconstruction,hgen,this]
    · simp [BootPc.reconstructing]
    · simp only [espCommitReconstruction]
      split_ifs <;> rfl

/-! Runs. -/

theorem step_inv (c : Clock) {s s' : State} {a : Action} (hs : step c s a = some s') (h : Inv s)
    (hok : Followed s a) : Inv s' := by
  have hf := h.flags
  cases a with
  | request =>
    cases hs
    exact h.request c
  | target =>
    simp only [step] at hs
    split_ifs at hs
    cases hs
    exact h.resetTarget hok _
  | scheduled =>
    simp only [step] at hs
    split_ifs at hs
    cases hs
    refine h.schedule ⟨rfl,rfl,rfl,rfl,rfl⟩ rfl hok rfl rfl id ?_ rfl (.inl rfl)
    simp [ledger,scheduleFwReset,schedule_ledger]
  | schedule fwReset =>
    cases hs
    refine h.schedule ⟨rfl,rfl,rfl,rfl,rfl⟩ rfl hok rfl rfl id ?_ rfl (.inl rfl)
    simp [ledger,State.setAdapter,schedule_ledger]
  | work => exact h.work hs
  | pass io => exact h.pass (fun _ => hok) hs
  | bootStart => exact h.boot (.inl rfl) hs
  | begin => exact h.boot (.inr (.inl rfl)) hs
  | bootFail => exact h.boot (.inr (.inr (.inl rfl))) hs
  | commitInit => exact h.boot (.inr (.inr (.inr (.inl rfl)))) hs
  | commitSync => exact h.boot (.inr (.inr (.inr (.inr (.inl rfl))))) hs
  | commit => exact h.boot (.inr (.inr (.inr (.inr (.inr rfl))))) hs
  | finish =>
    simp only [step,espFinishReconstruction] at hs
    by_cases hh : s.h.adapter.initDone = true ∧ s.h.adapter.recoveryPending = false ∧
        s.h.adapter.resetExpected = false
    · rw [if_pos hh] at hs
      cases hs
      exact h.finish hh.2.1 hh.2.2 _ rfl
    · rw [if_neg hh] at hs
      cases hs
      exact h.frame (hf.frame id id rfl rfl rfl rfl rfl id) rfl rfl (.inl rfl)
  | callback =>
    simp only [step] at hs
    split_ifs at hs
    cases hs
    exact h.callback _
  | setInit b =>
    cases hs
    exact h.frame (hf.frame id id rfl rfl rfl rfl rfl id) rfl rfl (.inl rfl)
  | setCleanup b =>
    cases hs
    exact h.frame (hf.frame id id rfl rfl rfl rfl rfl id) rfl rfl (.inl rfl)
  | shutdown =>
    cases hs
    exact h.frame (hf.frame id id rfl rfl rfl rfl rfl id) rfl rfl (.inl rfl)
  | tick n =>
    cases hs
    exact h.frame (hf.frame id id rfl rfl rfl rfl rfl id) rfl rfl (.inl rfl)

/-- The CLOSE handshakes of an epoch, the physical resets of a deadline, the epochs of the
requests and the two flags, in every run of a binding that meets the condition. -/
theorem resets_budgeted (c : Clock) (a : Adapter) (fullChipReset : Bool) (hardResetDeadline now : Nat)
    (acts : List Action) (s : State)
    (hok : Along (step c) Followed (bound a fullChipReset hardResetDeadline now) acts)
    (hs : exec (step c) (bound a fullChipReset hardResetDeadline now) acts = some s) : Safe s :=
  (exec_invariant_along (fun _ _ _ h hok hx => step_inv c hx h hok) hok (inv_bound a fullChipReset hardResetDeadline now)
    hs).safe

/-- A healthy adapter on a board with a full-chip reset. -/
def healthyBinding : State := bound {initDone := true, state := .ready} true 0 1000

def passes (n : Nat) : List Action := List.replicate n (.pass {})

def bootRun : List Action := [.bootStart,.begin,.commitInit,.commitSync,.commit,.finish]

/-- A physical reset, a boot, and a request published before the commit callback. -/
def acrossCommitRun : List Action :=
  ([.request,.target,.scheduled,.work] : List Action) ++ passes 5 ++ bootRun ++
    ([.request,.target,.scheduled,.callback,.setCleanup false,.work] : List Action) ++ passes 5

theorem resets_budgeted_across_commit :
    ∃ s ∈ exec (step clock32) healthyBinding acrossCommitRun,
      s.log = [.executed 1 1,.physical 1,.executed 0 0] ∧ Safe s := by
  have hok : Along (step clock32) Followed healthyBinding acrossCommitRun := by decide +kernel
  have hrun : (exec (step clock32) healthyBinding acrossCommitRun).any
      (fun s => s.log = [.executed 1 1,.physical 1,.executed 0 0]) = true := by decide +kernel
  cases hs : exec (step clock32) healthyBinding acrossCommitRun with
  | none => simp [hs] at hrun
  | some s => exact ⟨s,rfl,by simpa [hs] using hrun,resets_budgeted clock32 _ true 0 1000 _ s hok hs⟩

/-- A hard request is published just before the physical reset is found unavailable. The boot
that follows commits, and the next request can only be a soft one. -/
def restampedRun : List Action :=
  ([.request,.schedule true,.work,.pass {},.pass {},.pass {reenable := false},.pass {},
    .pass {hwReset := .failed true},.target] : List Action) ++ passes 2 ++ bootRun ++
    ([.request,.target,.scheduled,.callback,.setCleanup false,.work] : List Action) ++ passes 3

/-- The soft request gives its epoch to the hard one, which is carried out after the commit. -/
theorem hard_request_outlives_commit :
    ∃ s ∈ exec (step clock32) healthyBinding restampedRun, ¬Safe s := by
  have hrun : (exec (step clock32) healthyBinding restampedRun).any
      (fun s => decide (.executed 0 1 ∈ s.log)) = true := by decide +kernel
  cases hs : exec (step clock32) healthyBinding restampedRun with
  | none => simp [hs] at hrun
  | some s =>
    refine ⟨s,rfl,fun hsafe => ?_⟩
    have hm : .executed 0 1 ∈ s.log := by simpa [hs] using hrun
    have := hsafe.good.executed 0 1 hm
    omega

end EspHosted.SdioReset
