import EspHosted.Bootup

/-!
The secondary radios, `host/main.c`: `radio_service_param_set`, `esp_radio_service_work`
and what of a boot and of a recovery decides whether that work runs. The work gives up on
six flags, so it matters who queues it once they are clear again.
-/

set_option autoImplicit false

namespace EspHosted.Radio
open EspHosted Recovery Run

def ESP_RADIO_SERVICE_NONE : UInt8 := 0

/-- `ESP_BT_SDIO_SUPPORT`, `ESP_BT_SPI_SUPPORT`, `ESP_BT_USB_SUPPORT`. -/
def espBtServiceSupported (m : Boot.BootMeta) : Bool :=
  Boot.testBit m.capabilities 2 || Boot.testBit m.capabilities 6 || Boot.testBit m.capabilities 10

def supportedServices (m : Boot.BootMeta) : UInt8 :=
  (if espBtServiceSupported m then ESP_RADIO_SERVICE_BT else ESP_RADIO_SERVICE_NONE) |||
    (if Boot.testBit m.extCapabilities 15 then ESP_RADIO_SERVICE_IEEE802154 else ESP_RADIO_SERVICE_NONE)

def selectable (m : Boot.BootMeta) : UInt8 :=
  if Boot.extRadioServiceCtrl m then supportedServices m else ESP_RADIO_SERVICE_NONE

/-- Where `esp_radio_service_work` stands. -/
inductive WorkPc where
  | idle
  /-- At the label `again`. -/
  | gate
  | enter
  /-- In `cmd_set_radio_service`. -/
  | request (desired effective : UInt8)
  /-- At the label `check_latest`. -/
  | check (desired : UInt8) (published : Bool)
  deriving DecidableEq, Repr

def WorkPc.inside : WorkPc → Bool
  | .idle | .gate => false
  | _ => true

/-- Where `process_event_esp_bootup` stands. -/
inductive BootPc where
  | idle
  | started (reinitializing : Bool)
  | removed
  /-- `esp_begin_reconstruction` is done. -/
  | parsed
  /-- `esp_add_card` is done. -/
  | added
  /-- `ESP_INIT_DONE` is set and `fw_recovery_lock` not taken yet. -/
  | initDone
  | committed
  /-- At the label `fail_after_commit`, `ESP_INIT_DONE` is clear again. -/
  | undo
  deriving DecidableEq, Repr

structure State where
  a : Adapter := {}
  /-- `adapter->priv[0]` is set. -/
  priv0 : Bool := false
  desired : UInt8 := ESP_RADIO_SERVICE_NONE
  /-- `radio_service_param_set` has stored the mask and not looked at the flags yet. -/
  writing : Bool := false
  queued : Bool := false
  work : WorkPc := .idle
  boot : BootPc := .idle
  /-- `fw_recovery_gen` as `esp_fw_recovery_work` found it, while `recover_transport` runs. -/
  recovering : Option UInt32 := none
  /-- The last mask that this firmware was asked for, and whether it agreed. -/
  requested : UInt8 := ESP_RADIO_SERVICE_NONE
  requestOk : Bool := true
  deriving DecidableEq, Repr

inductive Outcome where
  | failed
  | restartRequired
  | endpointFailed
  | published
  deriving DecidableEq, Repr

inductive Action where
  | write (mask : UInt8)
  | writeSchedules
  | workStart
  | workGate
  | workReads
  | workRequested (now : Nat) (outcome : Outcome)
  | workChecks
  | bootBegin
  | bootRemove (now : Nat) (ok : Bool)
  | bootParse (now : Nat) (m : Boot.BootMeta) (ok : Bool)
  | bootAdd (now : Nat) (ok : Bool)
  | bootOta
  | bootFail (now : Nat)
  | bootInitDone
  | bootCommit
  | bootPublish (ok : Bool)
  | bootUndo (now : Nat)
  /-- Other code calls `esp_schedule_recovery`. -/
  | schedule (fwReset : Bool)
  | recover (now : Nat)
  /-- `recover_transport` has returned. -/
  | recovered (ret : Int)
  | shutdown
  deriving DecidableEq, Repr

def espBootupRequestRetry (c : Clock) (now : Nat) (a : Adapter) : Adapter :=
  if a.shuttingDown then a
  else (espRequestFirmwareRestart c now (espScheduleRecovery {a with cleanupInProgress := false} true)).1

/-- The label `fail` of `process_event_esp_bootup`. -/
def State.fail (c : Clock) (now : Nat) (s : State) : State :=
  {s with a := espBootupRequestRetry c now (espClearReconstructFlag s.a), boot := .idle}

/-- `esp_schedule_fw_reset_recovery` and `esp_request_firmware_restart` by the work. -/
def State.restart (c : Clock) (now : Nat) (s : State) : State :=
  {s with a := (espRequestFirmwareRestart c now (espScheduleRecovery s.a true)).1, work := .idle}

def State.gated (s : State) : Bool :=
  !s.a.initDone || s.a.cleanupInProgress || s.a.recoveryPending || s.a.resetExpected || s.a.shuttingDown || !s.priv0

def workRequested (c : Clock) (now : Nat) (s : State) (desired effective : UInt8) (outcome : Outcome) : State :=
  let s := {s with requested := effective, requestOk := outcome != Outcome.failed}
  match outcome with
  | .failed => if s.a.radioInitPending then s.restart c now else {s with work := .check desired false}
  | .restartRequired => s.restart c now
  | .endpointFailed => s.restart c now
  | .published => {s with work := .check desired true}

def workChecks (s : State) (desired : UInt8) (published : Bool) : State :=
  if s.desired ≠ desired then {s with work := .gate}
  else if published ∧ s.a.radioInitPending then
    {s with work := .idle, a := (espFinishReconstruction {s.a with radioInitPending := false}).1}
  else {s with work := .idle}

def step (c : Clock) (s : State) : Action → Option State
  | .write mask => if s.writing then none else some {s with desired := mask, writing := true}
  | .writeSchedules =>
    if s.writing then
      some {s with writing := false, queued := s.queued || (s.a.initDone && !s.a.shuttingDown)}
    else none
  | .workStart =>
    if s.queued ∧ s.work = .idle then some {s with queued := false, work := .gate} else none
  | .workGate =>
    if s.work = .gate then some {s with work := if s.gated then .idle else .enter} else none
  | .workReads =>
    if s.work = .enter then
      some {s with work :=
        if Boot.extRadioServiceCtrl s.a.boot then .request s.desired (s.desired &&& supportedServices s.a.boot)
        else .idle}
    else none
  | .workRequested now outcome =>
    match s.work with
    | .request desired effective => some (workRequested c now s desired effective outcome)
    | _ => none
  | .workChecks =>
    match s.work with
    | .check desired published => some (workChecks s desired published)
    | _ => none
  | .bootBegin =>
    if s.boot = .idle ∧ s.recovering = none then
      if s.a.shuttingDown then some s
      else
        let re := s.a.initDone || s.a.recoveryPending || s.a.resetExpected
        some {s with
          a := {s.a with
            recoveryPending := s.a.recoveryPending || re, initDone := false, radioInitPending := false, boot := {}
            cleanupInProgress := s.a.cleanupInProgress || re}
          boot := .started re}
    else none
  | .bootRemove now ok =>
    -- `cancel_work_sync` waits for the radio work
    if s.boot = .started true then
      if ok = false then some (s.fail c now)
      else if s.work = .idle then
        some {s with queued := false, priv0 := false, boot := if s.a.shuttingDown then .idle else .removed}
      else none
    else none
  | .bootParse now m ok =>
    if s.boot = .started false ∨ s.boot = .removed then
      let s := {s with a := {s.a with boot := m}}
      if s.a.shuttingDown then some {s with boot := .idle}
      else if ok then some {s with a := espBeginReconstruction s.a, boot := .parsed}
      else some (s.fail c now)
    else none
  | .bootAdd now ok =>
    if s.boot = .parsed then
      if ok then some {s with a := {s.a with cleanupInProgress := false}, priv0 := true, boot := .added}
      else some (s.fail c now)
    else none
  | .bootOta =>
    if s.boot = .added then
      some {s with a := espScheduleRecovery (espClearReconstructFlag s.a) true, boot := .idle}
    else none
  | .bootFail now => if s.boot = .added then some (s.fail c now) else none
  | .bootInitDone =>
    if s.boot = .added then
      some {s with a := {s.a with initDone := true}, requested := ESP_RADIO_SERVICE_NONE, requestOk := true, boot := .initDone}
    else none
  | .bootCommit =>
    if s.boot = .initDone ∧ s.recovering = none then
      some {s with a := (espCommitReconstruction s.a).1, boot := .committed}
    else none
  | .bootPublish ok =>
    if s.boot = .committed then
      if ok = false then
        some {s with a := {s.a with cleanupInProgress := true, initDone := false}, boot := .undo}
      else if Boot.extRadioServiceCtrl s.a.boot then
        some {s with a := {s.a with radioInitPending := true}, queued := true, boot := .idle}
      else some {s with a := (espFinishReconstruction s.a).1, boot := .idle}
    else none
  | .bootUndo now =>
    if s.boot = .undo ∧ s.work = .idle then
      some (State.fail c now {s with queued := false, priv0 := false})
    else none
  | .schedule fwReset => some {s with a := espScheduleRecovery s.a fwReset}
  | .recover now =>
    if s.recovering = none then
      match espFwRecoveryWork c now s.a with
      | (a,.recover) => some {s with a := a, recovering := some a.recoveryGen}
      | (a,.retry) => some {s with a := espBootupRequestRetry c now a}
      | (a,_) => some {s with a := a}
    else none
  | .recovered ret =>
    match s.recovering with
    | none => none
    | some gen =>
      if 0 < ret ∧ s.a.recoveryGen = gen ∧ s.a.resetExpected = false then
        some {s with a := {s.a with recoveryPending := false}, recovering := none}
      else some {s with recovering := none}
  | .shutdown => some {s with a := {s.a with shuttingDown := true}}

/-- The firmware was asked for what is wanted, or refused. -/
def State.Fine (s : State) : Prop := s.requestOk = false ∨ s.requested = s.desired &&& selectable s.a.boot

instance (s : State) : Decidable s.Fine := inferInstanceAs (Decidable (_ ∨ _))

/-- The driver is up, nothing is on its way to queue the work and the work does not run. -/
structure State.Quiet (s : State) : Prop where
  initDone : s.a.initDone = true
  up : s.a.shuttingDown = false
  boot : s.boot = .idle
  writing : s.writing = false
  queued : s.queued = false
  work : s.work = .idle

instance (s : State) : Decidable s.Quiet :=
  decidable_of_iff (s.a.initDone = true ∧ s.a.shuttingDown = false ∧ s.boot = .idle ∧ s.writing = false ∧
    s.queued = false ∧ s.work = .idle)
    ⟨fun ⟨h1,h2,h3,h4,h5,h6⟩ => ⟨h1,h2,h3,h4,h5,h6⟩,fun ⟨h1,h2,h3,h4,h5,h6⟩ => ⟨h1,h2,h3,h4,h5,h6⟩⟩

/-- Steps that leave the radio alone: flags that hold the work back are only set. -/
structure Grows (a b : Adapter) : Prop where
  initDone : b.initDone = a.initDone
  cleanup : b.cleanupInProgress = true → a.cleanupInProgress = true
  boot : b.boot = a.boot
  up : b.shuttingDown = a.shuttingDown
  pending : a.recoveryPending = true → b.recoveryPending = true
  reset : a.resetExpected = true → b.resetExpected = true

theorem Grows.refl (a : Adapter) : Grows a a := ⟨rfl,id,rfl,rfl,id,id⟩

theorem Grows.trans {a b d : Adapter} (h : Grows a b) (k : Grows b d) : Grows a d :=
  ⟨k.initDone.trans h.initDone,fun hx => h.cleanup (k.cleanup hx),k.boot.trans h.boot,k.up.trans h.up,
    fun hx => k.pending (h.pending hx),fun hx => k.reset (h.reset hx)⟩

theorem grows_espScheduleRecovery (a : Adapter) (fwReset : Bool) : Grows a (espScheduleRecovery a fwReset) := by
  simp only [espScheduleRecovery,espRecoveryDropTx]
  split_ifs
  · exact Grows.refl a
  all_goals exact ⟨rfl,id,rfl,rfl,fun _ => rfl,fun hx => by simp [hx]⟩

theorem grows_espRequestFirmwareRestart (c : Clock) (now : Nat) (a : Adapter) :
    Grows a (espRequestFirmwareRestart c now a).1 := by
  simp only [espRequestFirmwareRestart]
  split_ifs
  all_goals exact ⟨rfl,id,rfl,rfl,id,id⟩

theorem grows_espFinishReconstruction (a : Adapter) : Grows a (espFinishReconstruction a).1 := by
  simp only [espFinishReconstruction]
  split_ifs
  all_goals exact ⟨rfl,id,rfl,rfl,id,id⟩

theorem grows_espFwRecoveryWork (c : Clock) (now : Nat) (a : Adapter) : Grows a (espFwRecoveryWork c now a).1 := by
  simp only [espFwRecoveryWork]
  split_ifs
  all_goals exact ⟨rfl,id,rfl,rfl,id,id⟩

theorem grows_espBootupRequestRetry (c : Clock) (now : Nat) (a : Adapter) : Grows a (espBootupRequestRetry c now a) := by
  unfold espBootupRequestRetry
  split
  · exact Grows.refl a
  · have hclear : Grows a {a with cleanupInProgress := false} := ⟨rfl,fun hx => by simp at hx,rfl,rfl,id,id⟩
    exact hclear.trans ((grows_espScheduleRecovery _ true).trans (grows_espRequestFirmwareRestart c now _))

theorem espScheduleRecovery_sets (a : Adapter) (fwReset : Bool) (h : a.shuttingDown = false) :
    (espScheduleRecovery a fwReset).recoveryPending = true ∧ (fwReset = true → (espScheduleRecovery a fwReset).resetExpected = true) := by
  have hspec := Bootup.espScheduleRecovery_spec a fwReset h
  exact ⟨hspec.1,fun hx => hspec.2.1.trans (by simp [hx])⟩

theorem espBootupRequestRetry_sets (c : Clock) (now : Nat) {a : Adapter} (h : a.shuttingDown = false) :
    (espBootupRequestRetry c now a).recoveryPending = true ∧ (espBootupRequestRetry c now a).resetExpected = true := by
  have hset := espScheduleRecovery_sets {a with cleanupInProgress := false} true h
  have hgrow := grows_espRequestFirmwareRestart c now (espScheduleRecovery {a with cleanupInProgress := false} true)
  rw [espBootupRequestRetry,if_neg (by simp [h])]
  exact ⟨hgrow.pending hset.1,hgrow.reset (hset.2 rfl)⟩

/-- What the work has in hand belongs to the firmware that runs. -/
def State.WorkOk (s : State) : Prop :=
  match s.work with
  | .request desired effective =>
    Boot.extRadioServiceCtrl s.a.boot = true ∧ effective = desired &&& supportedServices s.a.boot
  | .check desired _ => s.requestOk = false ∨ s.requested = desired &&& selectable s.a.boot
  | _ => True

/-- The boot handler is before `ESP_INIT_DONE` and past the removal of the card. -/
def BootPc.early : BootPc → Bool
  | .started re => !re
  | .removed | .parsed | .added => true
  | _ => false

def BootPc.Agrees (pc : BootPc) (initDone : Bool) : Prop :=
  match pc with
  | .started true | .undo => initDone = false
  | .initDone => initDone = true
  | _ => True

structure Inv (s : State) : Prop where
  early : s.boot.early = true → s.a.initDone = false ∧ s.work.inside = false
  agrees : s.boot.Agrees s.a.initDone
  ready : s.boot = .added ∨ s.a.initDone = true → s.a.cleanupInProgress = false ∧ s.priv0 = true
  stray : s.a.initDone = false → s.work.inside = true →
    s.boot = .started true ∨ s.boot = .undo ∨ s.a.resetExpected = true ∨ s.a.shuttingDown = true
  work : s.a.initDone = true → s.WorkOk
  plain : s.a.initDone = true → Boot.extRadioServiceCtrl s.a.boot = false → s.requested = ESP_RADIO_SERVICE_NONE
  fine : s.Quiet → s.a.recoveryPending = false → s.a.resetExpected = false → s.Fine

theorem inv_initial : Inv {} :=
  ⟨by simp [BootPc.early],trivial,by simp,fun _ hi => (by cases hi),by simp,by simp,fun h => by cases h.initDone⟩

/-- Only the adapter changes, and only as `Grows` allows. -/
theorem Inv.grow {s : State} (h : Inv s) {b : Adapter} (hg : Grows s.a b) : Inv {s with a := b} := by
  have hwork : s.WorkOk → State.WorkOk {s with a := b} := by
    unfold State.WorkOk
    simp only [hg.boot]
    exact id
  refine ⟨fun hx => ?_,?_,fun hx => ?_,fun hx hi => ?_,fun hx => ?_,fun hx hc => ?_,fun hq hp hr => ?_⟩
  · rw [hg.initDone]
    exact h.early hx
  · rw [hg.initDone]
    exact h.agrees
  · simp only [hg.initDone] at hx
    obtain ⟨hc,hp⟩ := h.ready hx
    refine ⟨?_,hp⟩
    rw [Bool.eq_false_iff]
    exact fun hy => by simp [hg.cleanup hy] at hc
  · simp only [hg.initDone] at hx
    simp only [hg.up]
    exact (h.stray hx hi).imp_right (Or.imp_right (Or.imp_left hg.reset))
  · simp only [hg.initDone] at hx
    exact hwork (h.work hx)
  · simp only [hg.initDone] at hx
    simp only [hg.boot] at hc
    exact h.plain hx hc
  · have hq' : s.Quiet := ⟨hg.initDone ▸ hq.initDone,hg.up ▸ hq.up,hq.boot,hq.writing,hq.queued,hq.work⟩
    have hp' : s.a.recoveryPending = false := by
      rw [Bool.eq_false_iff]
      exact fun hy => by simp [hg.pending hy] at hp
    have hr' : s.a.resetExpected = false := by
      rw [Bool.eq_false_iff]
      exact fun hy => by simp [hg.reset hy] at hr
    have hfine := h.fine hq' hp' hr'
    simpa [State.Fine,hg.boot] using hfine

/-- The boot handler gives up before `ESP_INIT_DONE`: another boot has to come first. -/
theorem inv_fail {s : State} (c : Clock) (now : Nat) (hdown : s.a.initDone = false) : Inv (s.fail c now) := by
  have hclear : Grows s.a (espClearReconstructFlag s.a) := ⟨rfl,id,rfl,rfl,id,id⟩
  have hg := hclear.trans (grows_espBootupRequestRetry c now _)
  have hdown' : (s.fail c now).a.initDone = false := hg.initDone.trans hdown
  refine ⟨fun hx => (by cases hx),trivial,fun hx => ?_,fun _ hi => ?_,fun hx => ?_,fun hx => ?_,fun hq => ?_⟩
  · rcases hx with hx | hx
    · cases hx
    · simp [hdown'] at hx
  · by_cases hup : s.a.shuttingDown = true
    · exact .inr (.inr (.inr (hg.up.trans hup)))
    · exact .inr (.inr (.inl (espBootupRequestRetry_sets c now (a := espClearReconstructFlag s.a)
        (by simpa [espClearReconstructFlag] using hup)).2))
  · simp [hdown'] at hx
  · simp [hdown'] at hx
  · have hx := hq.initDone
    simp [hdown'] at hx

theorem Inv.write {s : State} (h : Inv s) (mask : UInt8) : Inv {s with desired := mask, writing := true} :=
  ⟨h.early,h.agrees,h.ready,h.stray,h.work,h.plain,fun hq => by simpa using hq.writing⟩

theorem Inv.writeSchedules {s : State} (h : Inv s) :
    Inv {s with writing := false, queued := s.queued || (s.a.initDone && !s.a.shuttingDown)} := by
  refine ⟨h.early,h.agrees,h.ready,h.stray,h.work,h.plain,fun hq => ?_⟩
  have h1 : s.a.initDone = true := hq.initDone
  have h2 : s.a.shuttingDown = false := hq.up
  have hx := hq.queued
  simp [h1,h2] at hx

theorem Inv.workStart {s : State} (h : Inv s) : Inv {s with queued := false, work := .gate} :=
  ⟨fun hx => ⟨(h.early hx).1,rfl⟩,h.agrees,h.ready,fun _ hi => by simp [WorkPc.inside] at hi,fun _ => trivial,h.plain,
    fun hq => by simpa using hq.work⟩

theorem Inv.workGate {s : State} (h : Inv s) : Inv {s with work := if s.gated then .idle else .enter} := by
  have hopen : s.gated = false → s.a.initDone = true := by
    simp only [State.gated,Bool.or_eq_false_iff,Bool.not_eq_false']
    exact fun hx => hx.1.1.1.1.1
  refine ⟨fun hx => ?_,h.agrees,h.ready,fun hx hi => ?_,fun _ => ?_,h.plain,fun hq hp hr => ?_⟩
  · have hdown := (h.early hx).1
    have hg : s.gated = true := by simp [State.gated,hdown]
    simp [hg,hdown,WorkPc.inside]
  · have hdown : s.a.initDone = false := hx
    have hg : s.gated = true := by simp [State.gated,hdown]
    simp [hg,WorkPc.inside] at hi
  · cases hg : s.gated <;> simp [State.WorkOk]
  · -- the flags that are left cannot have stopped it
    obtain ⟨hc,hpriv⟩ := h.ready (.inr hq.initDone)
    have h1 : s.a.initDone = true := hq.initDone
    have h2 : s.a.shuttingDown = false := hq.up
    have h3 : s.a.recoveryPending = false := hp
    have h4 : s.a.resetExpected = false := hr
    have hg : s.gated = false := by simp [State.gated,h1,h2,h3,h4,hc,hpriv]
    have hx := hq.work
    simp [hg] at hx

theorem Inv.workReads {s : State} (h : Inv s) (hwork : s.work = .enter) :
    Inv {s with work := if Boot.extRadioServiceCtrl s.a.boot then .request s.desired (s.desired &&& supportedServices s.a.boot)
      else .idle} := by
  have hin : s.work.inside = true := by simp [hwork,WorkPc.inside]
  refine ⟨fun hx => ?_,h.agrees,h.ready,fun hx _ => h.stray hx hin,fun _ => ?_,h.plain,fun hq _ _ => ?_⟩
  · exact absurd (h.early hx).2 (by simp [hin])
  · cases hc : Boot.extRadioServiceCtrl s.a.boot <;> simp [State.WorkOk,hc]
  · cases hc : Boot.extRadioServiceCtrl s.a.boot with
    | true =>
      have hx := hq.work
      simp [hc] at hx
    | false =>
      right
      have hnone := h.plain hq.initDone hc
      simp [selectable,hc,hnone,ESP_RADIO_SERVICE_NONE]

theorem Inv.restart {s : State} (h : Inv s) (hin : s.work.inside = true) (c : Clock) (now : Nat) {effective : UInt8} {ok : Bool}
    (hplain : s.a.initDone = true → Boot.extRadioServiceCtrl s.a.boot = false → effective = ESP_RADIO_SERVICE_NONE) :
    Inv (State.restart c now {s with requested := effective, requestOk := ok}) := by
  have hg : Grows s.a (espRequestFirmwareRestart c now (espScheduleRecovery s.a true)).1 :=
    (grows_espScheduleRecovery _ true).trans (grows_espRequestFirmwareRestart c now _)
  refine ⟨fun hx => ?_,(by rw [State.restart,hg.initDone]; exact h.agrees),fun hx => ?_,fun _ hi => (by cases hi),fun _ => trivial,
    fun hx hc => ?_,fun hq hp _ => ?_⟩
  · exact absurd (h.early hx).2 (by simp [hin])
  · obtain ⟨hc,hp⟩ := h.ready (hx.imp_right fun hy => hg.initDone.symm.trans hy)
    refine ⟨?_,hp⟩
    rw [Bool.eq_false_iff]
    exact fun hy => by simp [hg.cleanup hy] at hc
  · exact hplain (hg.initDone.symm.trans hx) (hg.boot ▸ hc)
  · have hup : s.a.shuttingDown = false := hg.up.symm.trans hq.up
    have hpend := (grows_espRequestFirmwareRestart c now _).pending (espScheduleRecovery_sets s.a true hup).1
    simp only [State.restart] at hp
    simp [hpend] at hp

theorem Inv.workRequested {s : State} (h : Inv s) {desired effective : UInt8} (hwork : s.work = .request desired effective)
    (c : Clock) (now : Nat) (outcome : Outcome) : Inv (workRequested c now s desired effective outcome) := by
  have hin : s.work.inside = true := by simp [hwork,WorkPc.inside]
  have hok : s.a.initDone = true → Boot.extRadioServiceCtrl s.a.boot = true ∧
      effective = desired &&& supportedServices s.a.boot := by
    intro hx
    simpa [State.WorkOk,hwork] using h.work hx
  have hplain : s.a.initDone = true → Boot.extRadioServiceCtrl s.a.boot = false →
      effective = ESP_RADIO_SERVICE_NONE := by
    intro hx hc
    simp [(hok hx).1] at hc
  have hcheck : ∀ published ok, Inv {s with requested := effective, requestOk := ok, work := .check desired published} := by
    intro published ok
    refine ⟨fun hx => ?_,h.agrees,h.ready,fun hx _ => h.stray hx hin,fun hx => ?_,hplain,fun hq => ?_⟩
    · exact absurd (h.early hx).2 (by simp [hin])
    · right
      simp [selectable,(hok hx).1,(hok hx).2]
    · have hx := hq.work
      simp at hx
  cases outcome with
  | failed =>
    simp only [Radio.workRequested]
    split
    · exact h.restart hin c now hplain
    · exact hcheck false _
  | restartRequired => exact h.restart hin c now hplain
  | endpointFailed => exact h.restart hin c now hplain
  | published => exact hcheck true _

theorem Inv.workChecks {s : State} (h : Inv s) {desired : UInt8} {published : Bool} (hwork : s.work = .check desired published) :
    Inv (workChecks s desired published) := by
  have hin : s.work.inside = true := by simp [hwork,WorkPc.inside]
  have hout : ∀ b : Adapter, Grows s.a b → s.desired = desired → Inv {s with work := .idle, a := b} := by
    intro b hg hd
    have hgrow := h.grow hg
    refine ⟨fun hx => ⟨(hgrow.early hx).1,rfl⟩,hgrow.agrees,hgrow.ready,fun _ hi => (by cases hi),fun _ => trivial,hgrow.plain,
      fun hq _ _ => ?_⟩
    have hok := h.work (hg.initDone.symm.trans hq.initDone)
    simp only [State.WorkOk,hwork] at hok
    simpa [State.Fine,hd,hg.boot] using hok
  unfold Radio.workChecks
  split_ifs with hd hpub
  · exact ⟨fun hx => ⟨(h.early hx).1,rfl⟩,h.agrees,h.ready,fun _ hi => (by cases hi),fun _ => trivial,h.plain,
      fun hq => by simpa using hq.work⟩
  · have hclear : Grows s.a {s.a with radioInitPending := false} := ⟨rfl,id,rfl,rfl,id,id⟩
    exact hout _ (hclear.trans (grows_espFinishReconstruction _)) (by simpa using hd)
  · exact hout s.a (Grows.refl s.a) (by simpa using hd)

theorem Inv.bootBegin {s : State} (h : Inv s) (hboot : s.boot = .idle) (hup : s.a.shuttingDown = false) {re : Bool}
    (hre : re = (s.a.initDone || s.a.recoveryPending || s.a.resetExpected)) :
    Inv {s with
      a := {s.a with
        recoveryPending := s.a.recoveryPending || re, initDone := false, radioInitPending := false, boot := {}
        cleanupInProgress := s.a.cleanupInProgress || re}
      boot := .started re} := by
  have hstray : re = false → s.work.inside ≠ true := by
    intro hx hi
    rw [hx] at hre
    obtain ⟨⟨h1,h2⟩,h3⟩ : (s.a.initDone = false ∧ s.a.recoveryPending = false) ∧ s.a.resetExpected = false := by
      simpa using hre.symm
    rcases h.stray h1 hi with hy | hy | hy | hy
    · simp [hboot] at hy
    · simp [hboot] at hy
    · simp [h3] at hy
    · simp [hup] at hy
  refine ⟨fun hx => ⟨rfl,?_⟩,by cases re <;> trivial,fun hx => by simp at hx,fun _ hi => ?_,fun hx => by simp at hx,fun hx => by simp at hx,
    fun hq => by simpa using hq.initDone⟩
  · -- nothing of an earlier boot is left, so the work cannot be inside
    rw [Bool.eq_false_iff]
    intro hi
    exact hstray (by simpa [BootPc.early] using hx) hi
  · cases hre' : re with
    | true => exact .inl rfl
    | false => exact absurd hi (hstray hre')

theorem Inv.bootRemove {s : State} (h : Inv s) (hboot : s.boot = .started true) (hwork : s.work = .idle) :
    Inv {s with queued := false, priv0 := false, boot := if s.a.shuttingDown then .idle else .removed} := by
  have hdown : s.a.initDone = false := by simpa [hboot,BootPc.Agrees] using h.agrees
  refine ⟨fun _ => ⟨hdown,by simp [hwork,WorkPc.inside]⟩,by cases hs : s.a.shuttingDown <;> trivial,fun hx => ?_,fun _ hi => ?_,fun hx => ?_,fun hx => ?_,
    fun hq => ?_⟩
  · rcases hx with hx | hx
    · cases hs : s.a.shuttingDown <;> simp [hs] at hx
    · simp [hdown] at hx
  · simp [hwork,WorkPc.inside] at hi
  · simp [hdown] at hx
  · simp [hdown] at hx
  · have hx := hq.initDone
    simp [hdown] at hx

/-- The handler goes on, or returns, before `ESP_INIT_DONE` and with the work outside. -/
theorem Inv.bootMoves {s : State} (h : Inv s) (hboot : s.boot.early = true) {b : Adapter} {priv0 : Bool} {pc : BootPc}
    (hinit : b.initDone = s.a.initDone) (hpc : pc ≠ .initDone)
    (hadded : pc = .added → b.cleanupInProgress = false ∧ priv0 = true) : Inv {s with a := b, priv0 := priv0, boot := pc} := by
  obtain ⟨hdown,hin⟩ := h.early hboot
  rw [hdown] at hinit
  have hagrees : pc.Agrees b.initDone := by
    unfold BootPc.Agrees
    split <;> simp_all
  refine ⟨fun _ => ⟨hinit,hin⟩,hagrees,fun hx => ?_,fun _ hi => ?_,fun hx => ?_,fun hx => ?_,fun hq => ?_⟩
  · exact hadded (hx.resolve_right (by simp [hinit]))
  · simp [hin] at hi
  · simp [hinit] at hx
  · simp [hinit] at hx
  · have hx := hq.initDone
    simp [hinit] at hx

theorem Inv.bootInitDone {s : State} (h : Inv s) (hboot : s.boot = .added) :
    Inv {s with a := {s.a with initDone := true}, requested := ESP_RADIO_SERVICE_NONE, requestOk := true, boot := .initDone} := by
  have hin := (h.early (by simp [hboot,BootPc.early])).2
  refine ⟨fun hx => by simp [BootPc.early] at hx,rfl,fun _ => h.ready (.inl hboot),fun hx => by simp at hx,
    fun _ => ?_,fun _ _ => rfl,fun hq => by simpa using hq.boot⟩
  cases hw : s.work <;> simp_all [State.WorkOk,WorkPc.inside]

theorem Inv.bootCommit {s : State} (h : Inv s) (hboot : s.boot = .initDone) :
    Inv {s with a := (espCommitReconstruction s.a).1, boot := .committed} := by
  have hframe : (espCommitReconstruction s.a).1.initDone = s.a.initDone ∧
      (espCommitReconstruction s.a).1.cleanupInProgress = s.a.cleanupInProgress ∧
      (espCommitReconstruction s.a).1.boot = s.a.boot ∧ (espCommitReconstruction s.a).1.shuttingDown = s.a.shuttingDown := by
    simp only [espCommitReconstruction]
    split <;> exact ⟨rfl,rfl,rfl,rfl⟩
  obtain ⟨h1,h2,h3,h4⟩ := hframe
  have hup : s.a.initDone = true := by simpa [hboot,BootPc.Agrees] using h.agrees
  refine ⟨fun hx => by simp [BootPc.early] at hx,trivial,fun _ => ?_,fun hx => ?_,fun _ => ?_,fun _ hc => ?_,
    fun hq => by simpa using hq.boot⟩
  · simp only [h2]
    exact h.ready (.inr hup)
  · simp [h1,hup] at hx
  · have hw := h.work hup
    unfold State.WorkOk at hw ⊢
    simpa only [h3] using hw
  · exact h.plain hup (h3 ▸ hc)

theorem Inv.bootPublish {s : State} (h : Inv s) (hboot : s.boot = .committed) (ok : Bool) {s' : State}
    (hs : (if ok = false then
        some {s with a := {s.a with cleanupInProgress := true, initDone := false}, boot := .undo}
      else if Boot.extRadioServiceCtrl s.a.boot then
        some {s with a := {s.a with radioInitPending := true}, queued := true, boot := .idle}
      else some {s with a := (espFinishReconstruction s.a).1, boot := .idle}) = some s') : Inv s' := by
  have hstray : s.a.initDone = false → s.work.inside = true → s.a.resetExpected = true ∨ s.a.shuttingDown = true := by
    intro hx hi
    simpa [hboot] using h.stray hx hi
  have hready : s.a.initDone = true → s.a.cleanupInProgress = false ∧ s.priv0 = true := fun hx => h.ready (.inr hx)
  split_ifs at hs with hok hctrl
  · obtain rfl := Option.some.inj hs
    exact ⟨fun hx => (by cases hx),rfl,fun hx => by simp at hx,fun _ _ => .inr (.inl rfl),fun hx => by simp at hx,
      fun hx => by simp at hx,fun hq => by simpa using hq.initDone⟩
  · obtain rfl := Option.some.inj hs
    exact ⟨fun hx => (by cases hx),trivial,fun hx => hready (by simpa using hx),fun hx hi => .inr (.inr (hstray hx hi)),
      h.work,h.plain,fun hq => by simpa using hq.queued⟩
  · obtain rfl := Option.some.inj hs
    have hi : Inv {s with boot := .idle} := by
      refine ⟨fun hx => (by cases hx),trivial,fun hx => hready (by simpa using hx),fun hx hi => .inr (.inr (hstray hx hi)),
        h.work,h.plain,fun hq _ _ => ?_⟩
      -- firmware without runtime selection was asked for nothing
      have hnone := h.plain hq.initDone (by simpa using hctrl)
      right
      simp [selectable,hctrl,hnone,ESP_RADIO_SERVICE_NONE]
    exact hi.grow (grows_espFinishReconstruction s.a)

/-- A recovery that finds the old session alive clears `ESP_FW_RECOVERY_PENDING` only if the
work is on its way or has nothing to do. -/
def resumesServed (s : State) : Action → Bool
  | .recovered ret =>
    decide (0 < ret ∧ s.recovering = some s.a.recoveryGen ∧ s.a.resetExpected = false ∧ s.Quiet → s.Fine)
  | _ => true

def ResumesServed (s : State) (a : Action) : Prop := resumesServed s a = true

instance (s : State) (a : Action) : Decidable (ResumesServed s a) :=
  inferInstanceAs (Decidable (resumesServed s a = true))

theorem Inv.recovered {s : State} (h : Inv s) {ret : Int} {gen : UInt32} (hrec : s.recovering = some gen)
    (hok : ResumesServed s (.recovered ret)) :
    Inv (if 0 < ret ∧ s.a.recoveryGen = gen ∧ s.a.resetExpected = false then
      {s with a := {s.a with recoveryPending := false}, recovering := none}
    else {s with recovering := none}) := by
  split
  · rename_i hlive
    refine ⟨h.early,h.agrees,h.ready,h.stray,h.work,h.plain,fun hq _ _ => ?_⟩
    have hq' : s.Quiet := ⟨hq.initDone,hq.up,hq.boot,hq.writing,hq.queued,hq.work⟩
    have hfine := of_decide_eq_true hok
    exact hfine ⟨hlive.1,by rw [hrec,hlive.2.1],hlive.2.2,hq'⟩
  · exact ⟨h.early,h.agrees,h.ready,h.stray,h.work,h.plain,fun hq hp hr =>
      h.fine ⟨hq.initDone,hq.up,hq.boot,hq.writing,hq.queued,hq.work⟩ hp hr⟩

theorem Inv.recover {s : State} (h : Inv s) (c : Clock) (now : Nat) {s' : State}
    (hs : (match espFwRecoveryWork c now s.a with
      | (a,.recover) => some {s with a := a, recovering := some a.recoveryGen}
      | (a,.retry) => some {s with a := espBootupRequestRetry c now a}
      | (a,_) => some {s with a := a}) = some s') : Inv s' := by
  have hg := grows_espFwRecoveryWork c now s.a
  split at hs <;> rename_i hx <;> rw [hx] at hg <;> obtain rfl := Option.some.inj hs
  · have hi := h.grow hg
    exact ⟨hi.early,hi.agrees,hi.ready,hi.stray,hi.work,hi.plain,fun hq hp hr =>
      hi.fine ⟨hq.initDone,hq.up,hq.boot,hq.writing,hq.queued,hq.work⟩ hp hr⟩
  · exact h.grow (hg.trans (grows_espBootupRequestRetry c now _))
  · exact h.grow hg

theorem Inv.shutdown {s : State} (h : Inv s) : Inv {s with a := {s.a with shuttingDown := true}} :=
  ⟨h.early,h.agrees,h.ready,fun _ _ => .inr (.inr (.inr rfl)),h.work,h.plain,fun hq => by simpa using hq.up⟩

theorem step_inv {c : Clock} {s s' : State} {a : Action} (h : Inv s) (hok : ResumesServed s a) (hs : step c s a = some s') :
    Inv s' := by
  cases a with
  | write mask =>
    simp only [step] at hs
    split_ifs at hs
    exact Option.some.inj hs ▸ h.write mask
  | writeSchedules =>
    simp only [step] at hs
    split_ifs at hs
    exact Option.some.inj hs ▸ h.writeSchedules
  | workStart =>
    simp only [step] at hs
    split_ifs at hs
    exact Option.some.inj hs ▸ h.workStart
  | workGate =>
    simp only [step] at hs
    split at hs
    · exact Option.some.inj hs ▸ h.workGate
    · cases hs
  | workReads =>
    simp only [step] at hs
    split at hs
    · rename_i hwork
      exact Option.some.inj hs ▸ h.workReads hwork
    · cases hs
  | workRequested now outcome =>
    simp only [step] at hs
    split at hs
    · rename_i desired effective hwork
      exact Option.some.inj hs ▸ h.workRequested hwork c now outcome
    · cases hs
  | workChecks =>
    simp only [step] at hs
    split at hs
    · rename_i desired published hwork
      exact Option.some.inj hs ▸ h.workChecks hwork
    · cases hs
  | bootBegin =>
    simp only [step] at hs
    split_ifs at hs with hidle hup
    · exact Option.some.inj hs ▸ h
    · exact Option.some.inj hs ▸ h.bootBegin hidle.1 (by simpa using hup) rfl
  | bootRemove now ok =>
    simp only [step] at hs
    split at hs
    · rename_i hboot
      have hdown : s.a.initDone = false := by simpa [hboot,BootPc.Agrees] using h.agrees
      split at hs
      · exact Option.some.inj hs ▸ inv_fail c now hdown
      split at hs
      · rename_i hwork
        exact Option.some.inj hs ▸ h.bootRemove hboot hwork
      · cases hs
    · cases hs
  | bootParse now m ok =>
    simp only [step] at hs
    split_ifs at hs with hboot hup hparsed
    all_goals
      have hearly : s.boot.early = true := by rcases hboot with hx | hx <;> simp [hx,BootPc.early]
      obtain rfl := Option.some.inj hs
    · exact h.bootMoves hearly rfl (by simp) (by simp)
    · exact h.bootMoves hearly rfl (by simp) (by simp)
    · exact inv_fail c now (h.early hearly).1
  | bootAdd now ok =>
    simp only [step] at hs
    split_ifs at hs with hboot hadd
    all_goals
      have hearly : s.boot.early = true := by simp [hboot,BootPc.early]
      obtain rfl := Option.some.inj hs
    · exact h.bootMoves hearly rfl (by simp) (by simp)
    · exact inv_fail c now (h.early hearly).1
  | bootOta =>
    simp only [step] at hs
    split_ifs at hs with hboot
    have hearly : s.boot.early = true := by simp [hboot,BootPc.early]
    have hg := grows_espScheduleRecovery (espClearReconstructFlag s.a) true
    exact Option.some.inj hs ▸ h.bootMoves hearly hg.initDone (by simp) (by simp)
  | bootFail now =>
    simp only [step] at hs
    split_ifs at hs with hboot
    exact Option.some.inj hs ▸ inv_fail c now (h.early (by simp [hboot,BootPc.early])).1
  | bootInitDone =>
    simp only [step] at hs
    split_ifs at hs with hboot
    exact Option.some.inj hs ▸ h.bootInitDone hboot
  | bootCommit =>
    simp only [step] at hs
    split_ifs at hs with hboot
    exact Option.some.inj hs ▸ h.bootCommit hboot.1
  | bootPublish ok =>
    simp only [step] at hs
    split at hs
    · rename_i hboot
      exact h.bootPublish hboot ok hs
    · cases hs
  | bootUndo now =>
    simp only [step] at hs
    split_ifs at hs with hboot
    have hdown : s.a.initDone = false := by simpa [hboot.1,BootPc.Agrees] using h.agrees
    exact Option.some.inj hs ▸ inv_fail c now hdown
  | schedule fwReset => exact Option.some.inj hs ▸ h.grow (grows_espScheduleRecovery s.a fwReset)
  | recover now =>
    simp only [step] at hs
    split at hs
    · exact h.recover c now hs
    · cases hs
  | recovered ret =>
    simp only [step] at hs
    split at hs
    · cases hs
    · rename_i gen hrec
      have hi := h.recovered hrec hok
      split at hs
      · rename_i hlive
        rw [if_pos hlive] at hi
        exact Option.some.inj hs ▸ hi
      · rename_i hlive
        rw [if_neg hlive] at hi
        exact Option.some.inj hs ▸ hi
  | shutdown => exact Option.some.inj hs ▸ h.shutdown

theorem radio_service_converges {c : Clock} {as : List Action} {s : State} (h : exec (step c) {} as = some s)
    (hok : Along (step c) ResumesServed {} as) (hq : s.Quiet) (hpending : s.a.recoveryPending = false)
    (hreset : s.a.resetExpected = false) : s.Fine := by
  have hinv : Inv s := exec_invariant_along (fun _ _ _ hi hok hs => step_inv hi hok hs) hok inv_initial h
  exact hinv.fine hq hpending hreset

def radioBoot : Boot.BootMeta := {capabilities := 2^2, extCapabilities := 2^14+2^15}

def bootRun : List Action :=
  [.bootBegin,.bootParse 1 radioBoot true,.bootAdd 1 true,.bootInitDone,.bootCommit,.bootPublish true,
   .workStart,.workGate,.workReads,.workRequested 1 .published,.workChecks]

/-- The mask is written while the work for an earlier write is at its command. -/
def rewriteRun : List Action :=
  bootRun ++ ([.write 1,.writeSchedules,.workStart,.workGate,.workReads,.write 3,.workRequested 1 .published,
    .workChecks,.workGate,.workReads,.workRequested 1 .published,.workChecks,.writeSchedules,
    .workStart,.workGate,.workReads,.workRequested 1 .published,.workChecks] : List Action)

theorem radio_service_converges_rewrite :
    ∃ s ∈ exec (step clock32) {} rewriteRun, s.Quiet ∧ s.desired = 3 ∧ s.requested = 3 ∧ s.Fine := by
  have h : ∃ s ∈ exec (step clock32) {} rewriteRun, s.Quiet ∧ s.a.recoveryPending = false ∧
      s.a.resetExpected = false ∧ s.desired = 3 ∧ s.requested = 3 := by
    decide +kernel
  have hok : Along (step clock32) ResumesServed {} rewriteRun := by decide +kernel
  obtain ⟨s,hs,hq,hp,hr,hd,hreq⟩ := h
  exact ⟨s,hs,hq,hd,hreq,radio_service_converges hs hok hq hp hr⟩

/-- The work for a write runs while a recovery is pending that finds the session alive. -/
def lostWriteRun : List Action :=
  bootRun ++ ([.schedule false,.recover 2,.write 1,.writeSchedules,.workStart,.workGate,.recovered 1] : List Action)

theorem radio_service_write_lost :
    ∃ s ∈ exec (step clock32) {} lostWriteRun, s.Quiet ∧ s.a.recoveryPending = false ∧ s.a.resetExpected = false ∧
      s.desired = 1 ∧ s.requested = 0 ∧ ¬s.Fine := by
  decide +kernel

end EspHosted.Radio
