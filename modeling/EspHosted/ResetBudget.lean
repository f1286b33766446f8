import EspHosted.Recovery
import EspHosted.Lib.Run

/-!
Budget, deadline and terminal failure of firmware resets. Other parts of the
driver set and clear the remaining state flags as they like.
-/

set_option autoImplicit false

namespace EspHosted.ResetBudget
open EspHosted Recovery Run

inductive Ev where
  | dispatched (t : Nat)
  | exhausted
  | refilled
  deriving DecidableEq, Repr

/-- Progress of `esp_bootup_request_retry` when `esp_fw_recovery_work` calls it. -/
inductive WorkPc where
  | idle
  | retrySchedule
  | retryRequest
  deriving DecidableEq, Repr

structure State where
  a : Adapter
  now : Nat
  work : WorkPc
  /-- Newest event first. -/
  log : List Ev
  deriving DecidableEq, Repr

def State.init (now : Nat) : State := {a := {}, now := now, work := .idle, log := []}

structure Flags where
  initDone : Bool
  recoveryPending : Bool
  resetExpected : Bool
  allowReconstruct : Bool
  cleanupInProgress : Bool
  shuttingDown : Bool
  deriving DecidableEq, Repr

inductive Act where
  /-- `esp_request_firmware_restart`, from any caller. -/
  | request
  | schedule (fwReset : Bool)
  | work
  | workNext
  | finish
  | bind (preserveActiveReset : Bool)
  | flags (f : Flags)
  | tick (n : Nat)
  deriving DecidableEq, Repr

def logRestart (s : State) : Restart → List Ev
  | .coalesced => s.log
  | .exhausted => .exhausted :: s.log
  | .dispatched => .dispatched s.now :: s.log

def request (c : Clock) (s : State) : State :=
  let r := espRequestFirmwareRestart c s.now s.a
  {s with a := r.1, log := logRestart s r.2}

def refill (s : State) (r : Adapter × Bool) : State :=
  {s with a := r.1, log := if r.2 then .refilled :: s.log else s.log}

def step (c : Clock) (s : State) : Act → Option State
  | .request => some (request c s)
  | .schedule fwReset => some {s with a := espScheduleRecovery s.a fwReset}
  | .work =>
    if s.work ≠ .idle then none
    else
      let r := espFwRecoveryWork c s.now s.a
      some {s with a := r.1, work := if r.2 = .retry then .retrySchedule else .idle}
  | .workNext =>
    match s.work with
    | .idle => none
    | .retrySchedule =>
      if s.a.shuttingDown then some {s with work := .idle}
      else
        some {s with a := espScheduleRecovery {s.a with cleanupInProgress := false} true
                     work := .retryRequest}
    | .retryRequest => some {request c s with work := .idle}
  | .finish => some (refill s (espFinishReconstruction s.a))
  | .bind preserve => some (refill s (espResetBootRecoveryForBinding s.a preserve))
  | .flags f =>
    some {s with a := {s.a with
      initDone := f.initDone, recoveryPending := f.recoveryPending
      resetExpected := f.resetExpected, allowReconstruct := f.allowReconstruct
      cleanupInProgress := f.cleanupInProgress, shuttingDown := f.shuttingDown}}
  | .tick n => some {s with now := s.now+n}

def sinceRefill (log : List Ev) : List Ev := log.takeWhile (fun e => e != .refilled)

def dispatches (log : List Ev) : List Nat :=
  log.filterMap (fun e => match e with | .dispatched t => some t | _ => none)

/-- Every dispatch has budget left, comes after the deadline of each attempt since
the last refill, and does not follow exhaustion. -/
def Bounded (timeout : Nat) : List Ev → Prop
  | [] => True
  | .dispatched t :: log =>
    (dispatches (sinceRefill log)).length < ESP_FW_BOOT_MAX_ATTEMPTS ∧
      (∀ t₀ ∈ dispatches (sinceRefill log), t₀+timeout ≤ t) ∧
      .exhausted ∉ sinceRefill log ∧ Bounded timeout log
  | .exhausted :: log => Bounded timeout log
  | .refilled :: log => Bounded timeout log

instance decidableBounded (timeout : Nat) : ∀ log, Decidable (Bounded timeout log)
  | [] => isTrue trivial
  | .dispatched _ :: log =>
    have := decidableBounded timeout log
    inferInstanceAs (Decidable (_ ∧ _ ∧ _ ∧ _))
  | .exhausted :: log => decidableBounded timeout log
  | .refilled :: log => decidableBounded timeout log

def requests (s : State) : Act → Bool
  | .request => true
  | .workNext => s.work = .retryRequest
  | _ => false

/-- No attempt is dispatched at an instant whose deadline is the sentinel. -/
def NoSentinel (c : Clock) (s : State) (act : Act) : Prop :=
  requests s act = true → (espRequestFirmwareRestart c s.now s.a).2 = .dispatched →
    (c.jiffies s.now+c.timeout)%2^c.bits ≠ 0

instance (c : Clock) (s : State) (act : Act) : Decidable (NoSentinel c s act) :=
  inferInstanceAs (Decidable (_ → _ → _))

theorem mod_sub_of_lt {m now x : Nat} (hx : 0 < x) (hm : x ≤ m) :
    (now%m+m-(now+x)%m)%m = m-x := by
  have hr : now%m < m := Nat.mod_lt _ (by omega)
  have hs : (now+x)%m = (now%m+x)%m := by rw [Nat.mod_add_mod]
  rw [hs]
  by_cases h : now%m+x < m
  · rw [Nat.mod_eq_of_lt h,show now%m+m-(now%m+x) = m-x by omega]
    exact Nat.mod_eq_of_lt (by omega)
  · have hw : (now%m+x)%m = now%m+x-m := by
      rw [Nat.mod_eq_sub_mod (by omega)]
      exact Nat.mod_eq_of_lt (by omega)
    rw [hw,show now%m+m-(now%m+x-m) = m+(m-x) by omega,Nat.add_mod_left]
    exact Nat.mod_eq_of_lt (by omega)

theorem timeAfterEq_false (c : Clock) {now due : Nat} (hlt : now < due)
    (hle : due ≤ now+c.timeout) : c.timeAfterEq (c.jiffies now) (due%2^c.bits) = false := by
  have hf := c.fits
  obtain ⟨x,rfl⟩ : ∃ x, due = now+x := ⟨due-now,by omega⟩
  rw [Clock.timeAfterEq,decide_eq_false_iff_not,Clock.jiffies,mod_sub_of_lt (by omega) (by omega)]
  omega

structure Inv (c : Clock) (s : State) : Prop where
  bounded : Bounded c.timeout s.log
  count : (dispatches (sinceRefill s.log)).length = s.a.bootResetAttempts
  terminal : .exhausted ∈ sinceRefill s.log → s.a.exhausted = true
  past : ∀ t ∈ dispatches (sinceRefill s.log), t ≤ s.now
  armed : ∀ t ∈ dispatches (sinceRefill s.log), s.now < t+c.timeout →
    s.a.bootDeadline ≠ 0 ∧ s.a.bootDeadline = (t+c.timeout)%2^c.bits

theorem Inv.init (c : Clock) (now : Nat) : Inv c (State.init now) where
  bounded := trivial
  count := rfl
  terminal := fun h => nomatch h
  past := fun _ h => nomatch h
  armed := fun _ h => nomatch h

theorem Inv.frame {c : Clock} {s s' : State} (h : Inv c s) (hl : s'.log = s.log)
    (hn : s.now ≤ s'.now) (hc : s'.a.bootResetAttempts = s.a.bootResetAttempts)
    (he : s'.a.exhausted = s.a.exhausted) (hd : s'.a.bootDeadline = s.a.bootDeadline) :
    Inv c s' where
  bounded := by rw [hl]; exact h.bounded
  count := by rw [hl,hc]; exact h.count
  terminal := by rw [hl,he]; exact h.terminal
  past := by
    intro t ht
    rw [hl] at ht
    exact Nat.le_trans (h.past t ht) hn
  armed := by
    intro t ht hlt
    rw [hl] at ht
    rw [hd]
    exact h.armed t ht (by omega)

theorem sinceRefill_dispatched (t : Nat) (log : List Ev) :
    sinceRefill (.dispatched t :: log) = .dispatched t :: sinceRefill log := by
  simp [sinceRefill]

theorem sinceRefill_exhausted (log : List Ev) :
    sinceRefill (.exhausted :: log) = .exhausted :: sinceRefill log := by
  simp [sinceRefill]

theorem sinceRefill_refilled (log : List Ev) : sinceRefill (.refilled :: log) = [] := by
  simp [sinceRefill]

theorem Inv.request {c : Clock} {s : State} (h : Inv c s)
    (hsafe : (espRequestFirmwareRestart c s.now s.a).2 = .dispatched →
      (c.jiffies s.now+c.timeout)%2^c.bits ≠ 0) : Inv c (request c s) := by
  unfold ResetBudget.request
  unfold espRequestFirmwareRestart at hsafe ⊢
  split
  · exact h.frame rfl (Nat.le_refl _) rfl rfl rfl
  · rename_i hd
    have hzero : s.a.bootDeadline = 0 := by simpa using hd
    rw [if_neg hd] at hsafe
    -- an unarmed deadline means that every attempt since the refill is over
    have hover : ∀ t ∈ dispatches (sinceRefill s.log), t+c.timeout ≤ s.now := by
      intro t ht
      by_contra hlt
      exact (h.armed t ht (by omega)).1 hzero
    split
    · exact {
        bounded := h.bounded
        count := by simpa [logRestart,sinceRefill_exhausted,dispatches] using h.count
        terminal := fun _ => rfl
        past := by simpa [logRestart,sinceRefill_exhausted,dispatches] using h.past
        armed := by
          intro t ht hlt
          have ht' : t ∈ dispatches (sinceRefill s.log) := by
            simpa [logRestart,sinceRefill_exhausted,dispatches] using ht
          have := hover t ht'
          simp only at hlt
          omega }
    · rename_i hb
      rw [if_neg hb] at hsafe
      simp only [not_or,Bool.not_eq_true,Nat.not_le] at hb
      have hdis : ∀ t, t ∈ dispatches (sinceRefill (.dispatched s.now :: s.log)) ↔
          t = s.now ∨ t ∈ dispatches (sinceRefill s.log) := by
        intro t
        simp [sinceRefill_dispatched,dispatches]
      exact {
        bounded := by
          refine ⟨?_,hover,?_,h.bounded⟩
          · rw [h.count]
            exact hb.2
          · intro hx
            simp [h.terminal hx] at hb
        count := by
          have := h.count
          simp only [logRestart,sinceRefill_dispatched]
          simpa [dispatches] using this
        terminal := by
          simp only [logRestart,sinceRefill_dispatched]
          intro hx
          rcases List.mem_cons.mp hx with hx | hx
          · cases hx
          · exact h.terminal hx
        past := by
          intro t ht
          rcases (hdis t).mp ht with rfl | ht
          · exact Nat.le_refl _
          · exact h.past t ht
        armed := by
          intro t ht hlt
          simp only at hlt ⊢
          rcases (hdis t).mp ht with rfl | ht
          · refine ⟨hsafe rfl,?_⟩
            rw [Clock.jiffies,Nat.mod_add_mod]
          · have := hover t ht
            omega }

theorem Inv.refill {c : Clock} {s : State} (h : Inv c s) (a : Adapter)
    (ha : a.bootResetAttempts = 0) : Inv c (refill s (a,true)) where
  bounded := h.bounded
  count := by simp [ResetBudget.refill,sinceRefill_refilled,dispatches,ha]
  terminal := by simp [ResetBudget.refill,sinceRefill_refilled]
  past := by simp [ResetBudget.refill,sinceRefill_refilled,dispatches]
  armed := by simp [ResetBudget.refill,sinceRefill_refilled,dispatches]

theorem espScheduleRecovery_budget (a : Adapter) (fwReset : Bool) :
    (espScheduleRecovery a fwReset).bootResetAttempts = a.bootResetAttempts ∧
    (espScheduleRecovery a fwReset).exhausted = a.exhausted ∧
    (espScheduleRecovery a fwReset).bootDeadline = a.bootDeadline := by
  unfold espScheduleRecovery espRecoveryDropTx
  split
  · exact ⟨rfl,rfl,rfl⟩
  · simp only
    split
    · exact ⟨rfl,rfl,rfl⟩
    · split <;> exact ⟨rfl,rfl,rfl⟩

/-- The watchdog keeps the budget; it disarms a deadline only once it has elapsed. -/
theorem espFwRecoveryWork_budget (c : Clock) (now : Nat) (a : Adapter) :
    (espFwRecoveryWork c now a).1.bootResetAttempts = a.bootResetAttempts ∧
    (espFwRecoveryWork c now a).1.exhausted = a.exhausted ∧
    ((espFwRecoveryWork c now a).1.bootDeadline = a.bootDeadline ∨
      c.timeAfterEq (c.jiffies now) a.bootDeadline = true) := by
  unfold espFwRecoveryWork
  split
  · exact ⟨rfl,rfl,.inl rfl⟩
  · split
    · exact ⟨rfl,rfl,.inl rfl⟩
    · split
      · rename_i ht
        exact ⟨rfl,rfl,.inr ht.2⟩
      · split
        · exact ⟨rfl,rfl,.inl rfl⟩
        · split
          · exact ⟨rfl,rfl,.inl rfl⟩
          · split <;> exact ⟨rfl,rfl,.inl rfl⟩

theorem Inv.work {c : Clock} {s : State} (h : Inv c s) (pc : WorkPc) :
    Inv c {s with a := (espFwRecoveryWork c s.now s.a).1, work := pc} := by
  obtain ⟨hc,he,hd⟩ := espFwRecoveryWork_budget c s.now s.a
  rcases hd with hd | hd
  · exact h.frame rfl (Nat.le_refl _) hc he hd
  · have hover : ∀ t ∈ dispatches (sinceRefill s.log), ¬s.now < t+c.timeout := by
      intro t ht hlt
      have hp := h.past t ht
      rw [(h.armed t ht hlt).2,timeAfterEq_false c hlt (by omega)] at hd
      cases hd
    exact {
      bounded := h.bounded
      count := h.count.trans hc.symm
      terminal := fun hx => he.trans (h.terminal hx)
      past := h.past
      armed := fun t ht hlt => absurd hlt (hover t ht) }

theorem Inv.step {c : Clock} {s s' : State} {act : Act} (h : Inv c s) (hsafe : NoSentinel c s act)
    (hs : step c s act = some s') : Inv c s' := by
  cases act with
  | request =>
    simp only [ResetBudget.step,Option.some.injEq] at hs
    subst hs
    exact h.request (hsafe rfl)
  | schedule fwReset =>
    simp only [ResetBudget.step,Option.some.injEq] at hs
    subst hs
    obtain ⟨hc,he,hd⟩ := espScheduleRecovery_budget s.a fwReset
    exact h.frame rfl (Nat.le_refl _) hc he hd
  | work =>
    simp only [ResetBudget.step] at hs
    split at hs
    · cases hs
    · cases hs
      exact h.work _
  | workNext =>
    simp only [ResetBudget.step] at hs
    split at hs
    · cases hs
    · split at hs
      · cases hs
        exact h.frame rfl (Nat.le_refl _) rfl rfl rfl
      · cases hs
        obtain ⟨hc,he,hd⟩ :=
          espScheduleRecovery_budget {s.a with cleanupInProgress := false} true
        exact h.frame rfl (Nat.le_refl _) hc he hd
    · rename_i hpc
      cases hs
      exact (h.request (hsafe (by simp [requests,hpc]))).frame rfl (Nat.le_refl _) rfl rfl rfl
  | finish =>
    simp only [ResetBudget.step,Option.some.injEq] at hs
    subst hs
    unfold espFinishReconstruction
    split
    · exact h.refill _ rfl
    · exact h.frame rfl (Nat.le_refl _) rfl rfl rfl
  | bind preserve =>
    simp only [ResetBudget.step,Option.some.injEq] at hs
    subst hs
    unfold espResetBootRecoveryForBinding
    split
    · exact h.frame rfl (Nat.le_refl _) rfl rfl rfl
    · exact h.refill _ rfl
  | flags f =>
    simp only [ResetBudget.step,Option.some.injEq] at hs
    subst hs
    exact h.frame rfl (Nat.le_refl _) rfl rfl rfl
  | tick n =>
    simp only [ResetBudget.step,Option.some.injEq] at hs
    subst hs
    exact h.frame rfl (by simp) rfl rfl rfl

/-- Firmware resets are bounded along every run, from any clock value, that
dispatches no attempt whose deadline would be stored as the sentinel. -/
theorem resets_bounded (c : Clock) (now : Nat) (acts : List Act) (s : State)
    (hrun : exec (step c) (State.init now) acts = some s)
    (hsafe : Along (step c) (NoSentinel c) (State.init now) acts) : Bounded c.timeout s.log :=
  (exec_invariant_along (fun _ _ _ => Inv.step) hsafe (Inv.init c now) hrun).bounded

/-- Three attempts, each after the watchdog has expired the one before, then no more. -/
def exhaustingRun : List Act :=
  [.flags ⟨false,true,true,false,false,false⟩,.request,.request,.tick 9000,.work,.workNext,.workNext,
   .tick 9000,.work,.workNext,.workNext,.tick 9000,.work,.workNext,.workNext,.tick 9000,.request]

theorem resets_bounded_across_wrap :
    (∃ s ∈ exec (step clock32) (State.init (2^32-12000)) exhaustingRun,
      s.log.head? = some .exhausted ∧ (dispatches s.log).length = ESP_FW_BOOT_MAX_ATTEMPTS) ∧
    ∀ s ∈ exec (step clock32) (State.init (2^32-12000)) exhaustingRun,
      Bounded clock32.timeout s.log :=
  ⟨by decide,fun s hs => resets_bounded clock32 _ exhaustingRun s hs (by decide)⟩

/-- At this clock value the deadline of the first attempt is stored as zero, and a
second attempt is dispatched at once. -/
theorem resets_overlap_at_sentinel :
    ∃ s ∈ exec (step clock32) (State.init (2^32-9000)) [.request,.request],
      dispatches s.log = [2^32-9000,2^32-9000] ∧ ¬Bounded clock32.timeout s.log := by
  decide

end EspHosted.ResetBudget
