import EspHosted.Recovery
import EspHosted.Lib.Run

/-!
`process_event_esp_bootup` and its caller `esp_events_work`, interleaved with the
receive worker that queues events and with `esp_schedule_recovery` from anywhere.
The recovery worker itself does not run here.
-/

set_option autoImplicit false

namespace EspHosted.Bootup
open EspHosted Recovery Boot Run

/-- Where the event worker stands; `idle` is between two events. -/
inductive Pc where
  | idle
  | badSchedule
  | badArm
  | cancel
  | testFlags
  | setPending
  | clear
  | purge
  | quiesce
  | removeCard
  | parse
  | reinit
  | begin
  | setReady
  | addCard
  | ota
  | otaClear
  | otaSchedule
  | otaArm
  | rawTp
  | commitInit
  | commitCancel
  | commit
  | commitArm
  | publish
  | radio
  | finish
  | failAfterCommit
  | fail
  | retry
  | retryArm
  | retryRequest
  deriving DecidableEq, Repr

structure Cfg where
  bus : Bus
  clock : Clock
  /-- What `quiesce_for_fw_reset` and `reinit_after_fw_reset` of the transport
  make of `adapter->state`, if they touch it. -/
  quiesceState : Option Context
  reinitState : Option Context

inductive Ota where
  | none
  | done
  | failed
  deriving DecidableEq, Repr

structure Env where
  ok : Bool := true
  ota : Ota := .none
  now : Nat := 0
  deriving DecidableEq, Repr

structure State where
  a : Adapter
  /-- `events_skb_q` -/
  queue : List Bytes
  pc : Pc
  skb : Bytes
  reinitializing : Bool
  /-- Callers of `esp_schedule_recovery` that have yet to arm the work. -/
  armers : Nat
  /-- The radio work has taken `ESP_FW_RADIO_INIT_PENDING` and is about to finish. -/
  radioFinishing : Bool
  /-- A request was accepted since the handler's cancel, and one with `fw_reset`. -/
  accepted : Bool
  acceptedReset : Bool
  /-- The budget was refilled behind such a request. -/
  refilledAfter : Bool
  /-- Last structurally valid boot event received, taken off the queue, purged. -/
  received : Option Bytes
  taken : Option Bytes
  purged : List Bytes
  deriving DecidableEq, Repr

def State.init : State :=
  {a := {}, queue := [], pc := .idle, skb := [], reinitializing := false, armers := 0
   radioFinishing := false, accepted := false, acceptedReset := false, refilledAfter := false
   received := none, taken := none, purged := []}

def validBoot (skb : Bytes) : Bool := isBootEvent skb && espBootupEventStructurallyValid skb

def State.goto (s : State) (pc : Pc) : State := {s with pc := pc}
def State.setAdapter (s : State) (a : Adapter) (pc : Pc) : State := {s with a := a, pc := pc}

/-- `process_internal_event` on the event just dequeued. -/
def take (s : State) (skb : Bytes) : State :=
  if isBootEvent skb = false then s
  else if espBootupEventStructurallyValid skb then
    {s with pc := .cancel, skb := skb, taken := some skb}
  else s.goto .badSchedule

def finishStep (s : State) (pc : Pc) : State :=
  let r := espFinishReconstruction s.a
  {s with a := r.1, refilledAfter := s.refilledAfter || (r.2 && s.accepted), pc := pc}

/-- One step of the event worker on the event in hand. -/
def handle (cfg : Cfg) (s : State) (e : Env) : Option State :=
  match s.pc with
  | .idle => none
  | .badSchedule => some (s.setAdapter (espScheduleRecovery s.a true) .badArm)
  | .badArm => some (s.setAdapter {s.a with workArmed := true} .retryRequest)
  | .cancel =>
    if s.a.shuttingDown then some (s.goto .idle)
    else some {s.setAdapter {s.a with workArmed := false} .testFlags with
      accepted := false, acceptedReset := false, refilledAfter := false}
  | .testFlags =>
    some {s.goto .setPending with
      reinitializing := s.a.initDone || s.a.recoveryPending || s.a.resetExpected}
  | .setPending =>
    some (s.setAdapter
      {s.a with recoveryPending := s.a.recoveryPending || s.reinitializing} .clear)
  | .clear =>
    some (s.setAdapter {s.a with initDone := false, radioInitPending := false, boot := {}}
      (if s.reinitializing then .purge else .parse))
  | .purge =>
    some {s.setAdapter {s.a with cleanupInProgress := true} .quiesce with
      queue := [], purged := s.queue.filter validBoot ++ s.purged}
  | .quiesce =>
    if e.ok then
      some (s.setAdapter {s.a with state := cfg.quiesceState.getD s.a.state} .removeCard)
    else some (s.goto .fail)
  | .removeCard =>
    if e.ok = false then some (s.goto .fail)
    else if s.a.shuttingDown then some (s.goto .idle)
    else some (s.goto .parse)
  | .parse =>
    let r := parseBootEvent cfg.bus (bootPayload s.skb)
    let a := {s.a with boot := r.1}
    if s.a.shuttingDown then some (s.setAdapter a .idle)
    else some (s.setAdapter a (if r.2 = 0 then .reinit else .fail))
  | .reinit =>
    if s.reinitializing = false then some (s.goto .begin)
    else if e.ok then
      some (s.setAdapter {s.a with state := cfg.reinitState.getD s.a.state} .begin)
    else some (s.goto .fail)
  | .begin => some (s.setAdapter (espBeginReconstruction s.a) .setReady)
  | .setReady => some (s.setAdapter {s.a with state := .ready} .addCard)
  | .addCard =>
    if e.ok then some (s.setAdapter {s.a with cleanupInProgress := false} .ota) else some (s.goto .fail)
  | .ota =>
    match e.ota with
    | .none => some (s.goto .rawTp)
    | .done => some (s.goto .otaClear)
    | .failed => some (s.goto (if s.a.resetExpected then .fail else .rawTp))
  | .otaClear => some (s.setAdapter (espClearReconstructFlag s.a) .otaSchedule)
  | .otaSchedule => some (s.setAdapter (espScheduleRecovery s.a true) .otaArm)
  | .otaArm => some (s.setAdapter {s.a with workArmed := true} .idle)
  | .rawTp => some (s.goto (if e.ok then .commitInit else .fail))
  | .commitInit => some (s.setAdapter {s.a with initDone := true} .commitCancel)
  | .commitCancel => some (s.setAdapter {s.a with workArmed := false} .commit)
  | .commit =>
    let r := espCommitReconstruction s.a
    some (s.setAdapter r.1 (if r.2 then .commitArm else .publish))
  | .commitArm => some (s.setAdapter {s.a with workArmed := true} .publish)
  | .publish => some (s.goto (if e.ok then .radio else .failAfterCommit))
  | .radio =>
    if extRadioServiceCtrl s.a.boot then
      some (s.setAdapter {s.a with radioInitPending := true} .idle)
    else some (s.goto (if e.ok then .finish else .failAfterCommit))
  | .finish => some (finishStep s .idle)
  | .failAfterCommit =>
    some (s.setAdapter {s.a with cleanupInProgress := true, initDone := false} .fail)
  | .fail => some (s.setAdapter (espClearReconstructFlag s.a) .retry)
  | .retry =>
    if s.a.shuttingDown then some (s.goto .idle)
    else some (s.setAdapter (espScheduleRecovery {s.a with cleanupInProgress := false} true) .retryArm)
  | .retryArm => some (s.setAdapter {s.a with workArmed := true} .retryRequest)
  | .retryRequest =>
    some (s.setAdapter (espRequestFirmwareRestart cfg.clock e.now s.a).1 .idle)

/-- The handler of one boot event has begun and not returned. -/
def Pc.handling : Pc → Bool
  | .idle | .badSchedule | .badArm | .cancel => false
  | _ => true

inductive Act where
  /-- `process_rx_packet` queues an internal event. -/
  | rx (skb : Bytes)
  | dequeue
  | handle (e : Env)
  /-- The locked part of `esp_schedule_recovery`, then its arming of the work. -/
  | request (fwReset : Bool)
  | arm
  | radioTake
  | radioFinish
  deriving DecidableEq, Repr

def step (cfg : Cfg) (s : State) : Act → Option State
  | .rx skb =>
    if s.a.shuttingDown then some s
    else some {s with
      queue := s.queue ++ [skb]
      received := if validBoot skb then some skb else s.received}
  | .dequeue =>
    match s.pc, s.queue with
    | .idle, skb :: rest =>
      if s.a.shuttingDown then some {s with queue := rest} else some (take {s with queue := rest} skb)
    | _, _ => none
  | .handle e => handle cfg s e
  | .request fwReset =>
    if s.a.shuttingDown then some s
    else some {s with
      a := espScheduleRecovery s.a fwReset
      armers := s.armers+1
      accepted := s.accepted || s.pc.handling
      acceptedReset := s.acceptedReset || (s.pc.handling && fwReset)}
  | .arm =>
    if s.armers = 0 then none
    else some {s with a := {s.a with workArmed := true}, armers := s.armers-1}
  | .radioTake =>
    if s.a.radioInitPending ∧ s.radioFinishing = false then
      some {s with a := {s.a with radioInitPending := false}, radioFinishing := true}
    else none
  | .radioFinish =>
    if s.radioFinishing then some {finishStep s s.pc with radioFinishing := false} else none

theorem espScheduleRecovery_spec (a : Adapter) (fwReset : Bool) (hup : a.shuttingDown = false) :
    let b := espScheduleRecovery a fwReset
    b.recoveryPending = true ∧ b.resetExpected = (a.resetExpected || fwReset) ∧
    b.recoveryGen = a.recoveryGen+1 ∧ b.reconstructGen = a.reconstructGen ∧
    b.allowReconstruct = a.allowReconstruct ∧ b.shuttingDown = false ∧
    b.workArmed = a.workArmed ∧ b.boot = a.boot ∧
    (a.allowReconstruct = false → b.state ≠ .ready) ∧ (b.state = .ready → a.state = .ready) := by
  simp only [espScheduleRecovery,espRecoveryDropTx,hup,Bool.false_eq_true,if_false]
  by_cases ha : a.allowReconstruct = true
  · simp [ha]
  · by_cases hs : a.state = .ready <;> simp [ha,hs]

theorem espFinishReconstruction_frame (a : Adapter) :
    let b := (espFinishReconstruction a).1
    b.recoveryPending = a.recoveryPending ∧ b.resetExpected = a.resetExpected ∧
    b.recoveryGen = a.recoveryGen ∧ b.reconstructGen = a.reconstructGen ∧
    b.allowReconstruct = a.allowReconstruct ∧ b.shuttingDown = a.shuttingDown ∧
    b.workArmed = a.workArmed ∧ b.boot = a.boot ∧ b.state = a.state := by
  simp only [espFinishReconstruction]
  split <;> simp

theorem espFinishReconstruction_pending {a : Adapter} (h : a.recoveryPending = true) :
    (espFinishReconstruction a).2 = false := by
  simp [espFinishReconstruction,h]

theorem espRequestFirmwareRestart_frame (c : Clock) (now : Nat) (a : Adapter) :
    let b := (espRequestFirmwareRestart c now a).1
    b.recoveryPending = a.recoveryPending ∧ b.resetExpected = a.resetExpected ∧
    b.recoveryGen = a.recoveryGen ∧ b.reconstructGen = a.reconstructGen ∧
    b.allowReconstruct = a.allowReconstruct ∧ b.shuttingDown = a.shuttingDown ∧
    b.workArmed = a.workArmed ∧ b.boot = a.boot ∧ b.state = a.state := by
  simp only [espRequestFirmwareRestart]
  split
  · simp
  · split <;> simp

/-- What is known of the adapter between two steps of the event worker. -/
inductive Phase where
  | settled
  | dropped
  | closed
  | preBegin
  | reconstructing
  | clearing
  deriving DecidableEq, Repr

def Pc.phase : Pc → Phase
  | .idle | .badSchedule | .badArm | .publish | .radio | .finish | .retryRequest => .settled
  | .otaArm | .commitArm | .retryArm => .dropped
  | .cancel | .failAfterCommit | .retry | .otaSchedule => .closed
  | .testFlags | .setPending | .clear | .purge | .quiesce | .removeCard | .parse | .reinit
  | .begin => .preBegin
  | .setReady | .addCard | .ota | .rawTp | .commitInit | .commitCancel | .commit =>
    .reconstructing
  | .otaClear | .fail => .clearing

def Phase.Holds (s : State) : Phase → Prop
  | .settled => s.a.allowReconstruct = false ∧ (s.accepted = true → s.a.state ≠ .ready ∧
      (s.a.workArmed = true ∨ s.armers ≠ 0))
  | .dropped => s.a.allowReconstruct = false ∧ (s.accepted = true → s.a.state ≠ .ready)
  | .closed => s.a.allowReconstruct = false
  | .preBegin => s.a.allowReconstruct = false ∧ s.accepted = false
  | .reconstructing => s.accepted = true → s.a.recoveryGen ≠ s.a.reconstructGen
  | .clearing => True

structure Inv (s : State) : Prop where
  up : s.a.shuttingDown = false
  pending : s.accepted = true → s.a.recoveryPending = true
  reset : s.acceptedReset = true → s.a.resetExpected = true
  resetAccepted : s.acceptedReset = true → s.accepted = true
  notRefilled : s.refilledAfter = false
  phase : s.pc.phase.Holds s

theorem Inv.init : Inv State.init where
  up := rfl
  pending := nofun
  reset := nofun
  resetAccepted := nofun
  notRefilled := rfl
  phase := ⟨rfl,nofun⟩

theorem Inv.goto {s : State} (h : Inv s) (pc : Pc) (hp : pc.phase.Holds s) : Inv (s.goto pc) where
  up := h.up
  pending := h.pending
  reset := h.reset
  resetAccepted := h.resetAccepted
  notRefilled := h.notRefilled
  phase := by cases pc <;> exact hp

theorem Inv.setAdapter {s : State} (h : Inv s) (a : Adapter) (pc : Pc)
    (hup : a.shuttingDown = false) (hpend : s.accepted = true → a.recoveryPending = true)
    (hreset : s.acceptedReset = true → a.resetExpected = true)
    (hp : pc.phase.Holds (s.setAdapter a pc)) : Inv (s.setAdapter a pc) where
  up := hup
  pending := hpend
  reset := hreset
  resetAccepted := h.resetAccepted
  notRefilled := h.notRefilled
  phase := hp

theorem Inv.schedule {s : State} (h : Inv s) (a : Adapter) (pc : Pc)
    (hup : a.shuttingDown = false) (hclosed : a.allowReconstruct = false)
    (hpc : pc.phase = .dropped) :
    Inv (s.setAdapter (espScheduleRecovery a true) pc) := by
  obtain ⟨hp,hre,_,_,hal,hu,_,_,hst,_⟩ := espScheduleRecovery_spec a true hup
  refine h.setAdapter _ _ hu (fun _ => hp) (fun _ => by rw [hre]; simp) ?_
  rw [hpc]
  exact ⟨hal.trans hclosed,fun _ => hst hclosed⟩

theorem Inv.finishStep {s : State} (h : Inv s) (pc : Pc) (hp : pc.phase = s.pc.phase) :
    Inv (finishStep s pc) := by
  obtain ⟨hpe,hre,hge,hrg,hal,hsh,hwo,_,hst⟩ := espFinishReconstruction_frame s.a
  refine {
    up := hsh.trans h.up
    pending := fun ha => hpe.trans (h.pending ha)
    reset := fun ha => hre.trans (h.reset ha)
    resetAccepted := h.resetAccepted
    notRefilled := ?_
    phase := ?_ }
  · by_cases ha : s.accepted = true
    · simp [Bootup.finishStep,h.notRefilled,espFinishReconstruction_pending (h.pending ha)]
    · simp [Bootup.finishStep,h.notRefilled,ha]
  · have hph := h.phase
    simp only [Bootup.finishStep,hp]
    cases hq : s.pc.phase <;> rw [hq] at hph <;>
      simp only [Phase.Holds,hal,hst,hwo,hge,hrg] <;> exact hph

theorem Inv.handle {cfg : Cfg} {s s' : State} {e : Env} (h : Inv s)
    (hs : handle cfg s e = some s') : Inv s' := by
  have hph := h.phase
  have hdown : ¬s.a.shuttingDown = true := by simp [h.up]
  cases hpc : s.pc <;> rw [hpc] at hph <;> simp only [Bootup.handle,hpc] at hs
  case idle => cases hs
  case badSchedule =>
    cases hs
    obtain ⟨hp,hre,_,_,hal,hu,hwo,_,hst,_⟩ := espScheduleRecovery_spec s.a true h.up
    refine h.setAdapter _ _ hu (fun _ => hp) (fun _ => by rw [hre]; simp) ?_
    exact ⟨hal.trans hph.1,fun ha => ⟨hst hph.1,by rw [State.setAdapter,hwo]; exact (hph.2 ha).2⟩⟩
  case badArm =>
    cases hs
    exact h.setAdapter _ _ h.up h.pending h.reset ⟨hph.1,fun ha => ⟨(hph.2 ha).1,.inl rfl⟩⟩
  case cancel =>
    rw [if_neg hdown] at hs
    cases hs
    exact {
      up := h.up
      pending := nofun
      reset := nofun
      resetAccepted := nofun
      notRefilled := rfl
      phase := ⟨hph,rfl⟩ }
  case testFlags =>
    cases hs
    exact { h.goto .setPending hph with }
  case setPending =>
    cases hs
    exact h.setAdapter _ _ h.up (fun ha => by simp [h.pending ha]) h.reset hph
  case clear =>
    cases hs
    refine h.setAdapter _ _ h.up h.pending h.reset ?_
    split <;> exact hph
  case purge =>
    cases hs
    exact { h.setAdapter {s.a with cleanupInProgress := true} .quiesce h.up h.pending h.reset hph with }
  case quiesce =>
    split at hs
    · cases hs
      exact h.setAdapter _ _ h.up h.pending h.reset hph
    · cases hs
      exact h.goto _ trivial
  case removeCard =>
    split at hs
    · cases hs
      exact h.goto _ trivial
    · cases hs
      exact h.goto _ hph
  case parse =>
    rw [if_neg hdown] at hs
    cases hs
    refine h.setAdapter _ _ h.up h.pending h.reset ?_
    split
    · exact hph
    · trivial
  case reinit =>
    split at hs
    · cases hs
      exact h.goto _ hph
    · split at hs
      · cases hs
        exact h.setAdapter _ _ h.up h.pending h.reset hph
      · cases hs
        exact h.goto _ trivial
  case begin =>
    cases hs
    refine h.setAdapter _ _ h.up h.pending h.reset ?_
    intro ha
    exact absurd (hph.2.symm.trans ha) (by simp)
  case setReady =>
    cases hs
    exact h.setAdapter _ _ h.up h.pending h.reset hph
  case addCard =>
    split at hs
    · cases hs
      exact h.setAdapter _ _ h.up h.pending h.reset hph
    · cases hs
      exact h.goto _ trivial
  case ota =>
    split at hs
    · cases hs
      exact h.goto _ hph
    · cases hs
      exact h.goto _ trivial
    · cases hs
      refine h.goto _ ?_
      split
      · trivial
      · exact hph
  case otaClear =>
    cases hs
    exact h.setAdapter _ _ h.up h.pending h.reset rfl
  case otaSchedule =>
    cases hs
    exact h.schedule s.a .otaArm h.up hph rfl
  case otaArm =>
    cases hs
    exact h.setAdapter _ _ h.up h.pending h.reset ⟨hph.1,fun ha => ⟨hph.2 ha,.inl rfl⟩⟩
  case rawTp =>
    cases hs
    refine h.goto _ ?_
    split
    · exact hph
    · trivial
  case commitInit =>
    cases hs
    exact h.setAdapter _ _ h.up h.pending h.reset hph
  case commitCancel =>
    cases hs
    exact h.setAdapter _ _ h.up h.pending h.reset hph
  case commit =>
    cases hs
    by_cases hg : s.a.recoveryGen = s.a.reconstructGen
    · -- nothing was requested since the generation was recorded
      have hacc : s.accepted ≠ true := fun ha => hph ha hg
      simp only [espCommitReconstruction,hg,ne_eq,not_true,if_false]
      exact h.setAdapter _ _ h.up (fun ha => absurd ha hacc)
        (fun ha => absurd (h.resetAccepted ha) hacc) ⟨rfl,fun ha => absurd ha hacc⟩
    · simp only [espCommitReconstruction,ne_eq,hg,not_false_eq_true,if_true]
      exact h.setAdapter _ _ h.up h.pending h.reset ⟨rfl,fun _ => by simp [State.setAdapter]⟩
  case commitArm =>
    cases hs
    exact h.setAdapter _ _ h.up h.pending h.reset ⟨hph.1,fun ha => ⟨hph.2 ha,.inl rfl⟩⟩
  case publish =>
    cases hs
    refine h.goto _ ?_
    split
    · exact hph
    · exact hph.1
  case radio =>
    split at hs
    · cases hs
      exact h.setAdapter _ _ h.up h.pending h.reset hph
    · cases hs
      refine h.goto _ ?_
      split
      · exact hph
      · exact hph.1
  case finish =>
    cases hs
    exact h.finishStep .idle (by rw [hpc]; rfl)
  case failAfterCommit =>
    cases hs
    exact h.setAdapter _ _ h.up h.pending h.reset trivial
  case fail =>
    cases hs
    exact h.setAdapter _ _ h.up h.pending h.reset rfl
  case retry =>
    rw [if_neg hdown] at hs
    cases hs
    exact h.schedule {s.a with cleanupInProgress := false} .retryArm h.up hph rfl
  case retryArm =>
    cases hs
    exact h.setAdapter _ _ h.up h.pending h.reset ⟨hph.1,fun ha => ⟨hph.2 ha,.inl rfl⟩⟩
  case retryRequest =>
    cases hs
    obtain ⟨hpe,hre,_,_,hal,hsh,hwo,_,hst⟩ := espRequestFirmwareRestart_frame cfg.clock e.now s.a
    refine h.setAdapter _ _ (hsh.trans h.up) (fun ha => hpe.trans (h.pending ha))
      (fun ha => hre.trans (h.reset ha)) ?_
    simp only [Pc.phase,Phase.Holds,State.setAdapter,hal,hst,hwo]
    exact hph

/-- A request is accepted before the handler's cancel or once the generation has
been recorded, and the 32-bit generation does not come back to the recorded value. -/
def RequestSafe (s : State) (act : Act) : Prop :=
  match act with
  | .request _ => s.pc.phase ≠ .preBegin ∧
      (s.pc.phase = .reconstructing → s.a.recoveryGen+1 ≠ s.a.reconstructGen)
  | _ => True

instance (s : State) (act : Act) : Decidable (RequestSafe s act) := by
  unfold RequestSafe
  split <;> infer_instance

theorem Inv.request {s : State} {fwReset : Bool} (h : Inv s)
    (hsafe : RequestSafe s (.request fwReset)) :
    Inv {s with
      a := espScheduleRecovery s.a fwReset
      armers := s.armers+1
      accepted := s.accepted || s.pc.handling
      acceptedReset := s.acceptedReset || (s.pc.handling && fwReset)} := by
  obtain ⟨hp,hre,hge,hrg,hal,hu,_,_,hst,_⟩ := espScheduleRecovery_spec s.a fwReset h.up
  obtain ⟨hpre,hwrap⟩ := hsafe
  have hph := h.phase
  refine {
    up := hu
    pending := fun _ => hp
    reset := fun ha => ?_
    resetAccepted := fun ha => ?_
    notRefilled := h.notRefilled
    phase := ?_ }
  · simp only [Bool.or_eq_true,Bool.and_eq_true] at ha
    rw [hre,Bool.or_eq_true]
    exact ha.imp h.reset And.right
  · simp only [Bool.or_eq_true,Bool.and_eq_true] at ha ⊢
    exact ha.imp h.resetAccepted And.left
  · simp only
    cases hq : s.pc.phase <;> rw [hq] at hph
    case settled => exact ⟨hal.trans hph.1,fun _ => ⟨hst hph.1,.inr (by simp)⟩⟩
    case dropped => exact ⟨hal.trans hph.1,fun _ => hst hph.1⟩
    case closed => exact hal.trans hph
    case preBegin => exact absurd hq hpre
    case reconstructing =>
      intro _
      simp only [hge,hrg]
      exact hwrap hq
    case clearing => trivial

theorem take_inv {s : State} {skb : Bytes} (h : Inv s) (hpc : s.pc = .idle) : Inv (take s skb) := by
  have hph := h.phase
  rw [hpc] at hph
  unfold take
  split
  · exact h
  · split
    · exact { h.goto .cancel hph.1 with }
    · exact h.goto .badSchedule hph

theorem Inv.step {cfg : Cfg} {s s' : State} {act : Act} (h : Inv s) (hsafe : RequestSafe s act)
    (hs : step cfg s act = some s') : Inv s' := by
  have hdown : ¬s.a.shuttingDown = true := by simp [h.up]
  cases act with
  | rx skb =>
    simp only [Bootup.step,if_neg hdown] at hs
    cases hs
    exact { h with }
  | dequeue =>
    simp only [Bootup.step,if_neg hdown] at hs
    split at hs
    · rename_i hpc _
      cases hs
      exact take_inv { h with } hpc
    · cases hs
  | handle e => exact h.handle hs
  | request fwReset =>
    simp only [Bootup.step,if_neg hdown] at hs
    cases hs
    exact h.request hsafe
  | arm =>
    simp only [Bootup.step] at hs
    split at hs
    · cases hs
    · cases hs
      have hph := h.phase
      refine { h with phase := ?_ }
      simp only
      cases hq : s.pc.phase <;> rw [hq] at hph
      case settled => exact ⟨hph.1,fun ha => ⟨(hph.2 ha).1,.inl rfl⟩⟩
      all_goals exact hph
  | radioTake =>
    simp only [Bootup.step] at hs
    split at hs
    · cases hs
      have hph := h.phase
      refine { h with phase := ?_ }
      simp only
      cases hq : s.pc.phase <;> rw [hq] at hph <;> exact hph
    · cases hs
  | radioFinish =>
    simp only [Bootup.step] at hs
    split at hs
    · cases hs
      have hf := h.finishStep s.pc rfl
      exact { hf with }
    · cases hs

/-- What a request accepted while the handler ran must leave once the handler and
every caller of `esp_schedule_recovery` have returned. -/
def State.RequestKept (s : State) : Prop :=
  s.pc = .idle → s.armers = 0 → s.accepted = true →
    s.a.recoveryPending = true ∧ (s.acceptedReset = true → s.a.resetExpected = true) ∧
    s.a.workArmed = true ∧ s.a.state ≠ .ready ∧ s.refilledAfter = false

instance (s : State) : Decidable s.RequestKept := inferInstanceAs (Decidable (_ → _ → _ → _))

theorem Inv.requestKept {s : State} (h : Inv s) : s.RequestKept := by
  intro hpc harm hacc
  have hph := h.phase
  rw [hpc] at hph
  obtain ⟨hst,hw⟩ := hph.2 hacc
  exact ⟨h.pending hacc,h.reset,hw.resolve_right (fun hn => hn harm),hst,h.notRefilled⟩

/-- No recovery request is lost to a boot event in a run whose requests all fall
outside the window between the handler's cancel and `esp_begin_reconstruction`. -/
theorem recovery_request_kept (cfg : Cfg) (acts : List Act) (s : State)
    (hrun : exec (step cfg) State.init acts = some s)
    (hsafe : Along (step cfg) RequestSafe State.init acts) : s.RequestKept :=
  (exec_invariant_along (fun _ _ _ => Inv.step) hsafe Inv.init hrun).requestKept

/-- A boot event of an SDIO firmware without optional features. -/
def bootSkb (chip : UInt8) : Bytes :=
  [1,0,21,0,20,0,0,0] ++ [0,1,1] ++ [3,1,chip] ++ [1,12,78,71,0,1,0,6,0,23,0,0,0,0]

def sdioCfg : Cfg :=
  {bus := .sdio, clock := clock32
   quiesceState := some .disabled, reinitState := none}

def steps (n : Nat) : List Act := List.replicate n (.handle {})

/-- A request while network interfaces are being added is seen by the commit. -/
def requestInReconstruction : List Act :=
  ([.rx (bootSkb 0),.dequeue] : List Act) ++ steps 8 ++ ([.request true,.arm] : List Act) ++ steps 10

theorem recovery_request_kept_in_reconstruction :
    (∃ s ∈ exec (step sdioCfg) State.init requestInReconstruction,
      s.pc = .idle ∧ s.armers = 0 ∧ s.acceptedReset = true) ∧
    ∀ s ∈ exec (step sdioCfg) State.init requestInReconstruction, s.RequestKept :=
  ⟨by decide,fun s hs => recovery_request_kept sdioCfg requestInReconstruction s hs (by decide)⟩

/-- A request between the handler's cancel and the recording of the generation is
erased by the commit, and the budget is refilled. -/
theorem recovery_request_lost_before_begin :
    ∃ s ∈ exec (step sdioCfg) State.init
        ([.rx (bootSkb 0),.dequeue] ++ steps 2 ++ [.request true,.arm] ++ steps 15),
      s.pc = .idle ∧ s.armers = 0 ∧ s.acceptedReset = true ∧ s.a.recoveryPending = false ∧
        s.a.resetExpected = false ∧ s.a.workArmed = false ∧ s.a.state = .ready ∧
        s.refilledAfter = true ∧ ¬s.RequestKept := by
  decide

end EspHosted.Bootup
