import EspHosted.Wire

/-!
`esp_hosted_monitor_config` of `main/app_main.c`, against what is in effect on the radio.
Each Wi-Fi call has a reply; a setter that returns OK is applied, one that fails may be.
-/

set_option autoImplicit false

namespace EspHosted.Monitor

abbrev EspErr := Int

def ESP_OK : EspErr := 0
def ESP_FAIL : EspErr := -1

/-- Management, control and data frames. -/
def MONITOR_FILTER : UInt32 := 0x7
/-- `WIFI_PROMIS_CTRL_FILTER_MASK_ALL`. -/
def MONITOR_CTRL_FILTER : UInt32 := 0xFF800000

inductive WifiMode where
  | null
  | sta
  | ap
  | apsta
  | other
  deriving DecidableEq, Repr

/-- A primary channel and `wifi_second_chan_t`, where 0 is none. -/
structure Channel where
  primary : UInt8
  second : Nat := 0
  deriving DecidableEq, Repr

structure Radio where
  filter : UInt32
  ctrlFilter : UInt32
  promiscuous : Bool
  rxCb : Bool
  channel : Channel
  deriving DecidableEq, Repr

/-- `s_monitor_enabled`, `s_monitor_channel` and `s_monitor_channel_explicit`. -/
structure Recorded where
  enabled : Bool := false
  channel : UInt8 := 0
  explicit : Bool := false
  deriving DecidableEq, Repr

structure Firmware where
  monitor : Recorded
  radio : Radio
  mode : WifiMode
  /-- `esp_hosted_wifi_channel_transition_active`. -/
  transition : Bool := false
  deriving DecidableEq, Repr

structure Reply where
  err : EspErr := ESP_OK
  applied : Bool := false
  deriving DecidableEq, Repr

def Reply.effect {α : Type} (r : Reply) (new old : α) : α := if r.err = ESP_OK ∨ r.applied then new else old

structure Replies where
  disable : Reply := {}
  getMode : EspErr := ESP_OK
  staGetApInfo : EspErr := ESP_FAIL
  getOperating : EspErr := ESP_OK
  getOldFilter : EspErr := ESP_OK
  getOldCtrlFilter : EspErr := ESP_OK
  getPrevious : EspErr := ESP_OK
  setFilter : Reply := {}
  setCtrlFilter : Reply := {}
  verifyCtrlFilter : EspErr := ESP_OK
  verifyFilter : EspErr := ESP_OK
  setRxCb : Reply := {}
  setPromiscuous : Reply := {}
  setChannel : Reply := {}
  getObserved : EspErr := ESP_OK
  restoreChannel : Reply := {}
  getRestored : EspErr := ESP_OK
  restoreFilter : Reply := {}
  restoreCtrlFilter : Reply := {}
  restorePromiscuous : Reply := {}
  stopPromiscuous : Reply := {}
  deriving DecidableEq, Repr

inductive Outcome where
  | returned (ret : EspErr)
  | restarted
  deriving DecidableEq, Repr

def monitorDisable (s : Firmware) (r : Replies) : Firmware × Outcome :=
  let radio := {s.radio with promiscuous := r.disable.effect false s.radio.promiscuous}
  if r.disable.err ≠ ESP_OK ∧ r.disable.err ≠ ESP_ERR_WIFI_NOT_STARTED then
    ({s with radio := radio},.returned r.disable.err)
  else ({s with radio := radio, monitor := {s.monitor with enabled := false}},.returned ESP_OK)

def radioOwnsChannel (s : Firmware) (r : Replies) : Bool :=
  decide (((s.mode = .sta ∨ s.mode = .apsta) ∧ r.staGetApInfo = ESP_OK) ∨ s.mode = .ap ∨ s.mode = .apsta)

def effectiveChannel (s : Firmware) (r : Replies) (channel : UInt8) : UInt8 :=
  let effective := if radioOwnsChannel s r then s.radio.channel.primary else channel
  if effective = 0 then (if s.monitor.enabled ∧ s.monitor.channel ≠ 0 then s.monitor.channel else 1) else effective

def monitorAdmit (s : Firmware) (r : Replies) (channel : UInt8) : EspErr :=
  if s.transition then ESP_ERR_INVALID_STATE
  else if r.getMode ≠ ESP_OK then r.getMode
  else if radioOwnsChannel s r ∧ r.getOperating ≠ ESP_OK then r.getOperating
  else if radioOwnsChannel s r ∧ s.radio.channel.primary = 0 then ESP_ERR_INVALID_STATE
  else if radioOwnsChannel s r ∧ channel ≠ 0 ∧ channel ≠ s.radio.channel.primary then ESP_ERR_INVALID_STATE
  else if s.monitor.enabled ∧ r.getOldFilter ≠ ESP_OK then r.getOldFilter
  else if s.monitor.enabled ∧ r.getOldCtrlFilter ≠ ESP_OK then r.getOldCtrlFilter
  else if radioOwnsChannel s r = false ∧ r.getPrevious ≠ ESP_OK then r.getPrevious
  else ESP_OK

def monitorStages (w : Radio) (r : Replies) (retune : Bool) (effective : UInt8) : Radio × EspErr :=
  let w := {w with filter := r.setFilter.effect MONITOR_FILTER w.filter}
  if r.setFilter.err ≠ ESP_OK then (w,r.setFilter.err) else
  let w := {w with ctrlFilter := r.setCtrlFilter.effect MONITOR_CTRL_FILTER w.ctrlFilter}
  if r.setCtrlFilter.err ≠ ESP_OK then (w,r.setCtrlFilter.err) else
  if r.verifyCtrlFilter ≠ ESP_OK then (w,r.verifyCtrlFilter) else
  if w.ctrlFilter ≠ MONITOR_CTRL_FILTER then (w,ESP_FAIL) else
  if r.verifyFilter ≠ ESP_OK then (w,r.verifyFilter) else
  if w.filter &&& MONITOR_FILTER ≠ MONITOR_FILTER then (w,ESP_FAIL) else
  let w := {w with rxCb := r.setRxCb.effect true w.rxCb}
  if r.setRxCb.err ≠ ESP_OK then (w,r.setRxCb.err) else
  let w := {w with promiscuous := r.setPromiscuous.effect true w.promiscuous}
  if r.setPromiscuous.err ≠ ESP_OK then (w,r.setPromiscuous.err) else
  if retune then
    ({w with channel := r.setChannel.effect ⟨effective,0⟩ w.channel},r.setChannel.err)
  else (w,ESP_OK)

/-- The radio is put back on its channel; `true` is a failure. -/
def channelRollback (previous : Channel) (w : Radio) (r : Replies) : Radio × Bool :=
  if r.getObserved ≠ ESP_OK then (w,true)
  else if w.channel ≠ previous then
    if previous.primary = 0 then (w,true)
    else
      let w := {w with channel := r.restoreChannel.effect previous w.channel}
      if r.restoreChannel.err ≠ ESP_OK then (w,true)
      else (w,decide (r.getRestored ≠ ESP_OK ∨ w.channel ≠ previous))
  else (w,false)

def captureRollback (s : Firmware) (w : Radio) (r : Replies) : Radio × Bool :=
  if s.monitor.enabled then
    ({w with
        filter := r.restoreFilter.effect s.radio.filter w.filter
        ctrlFilter := r.restoreCtrlFilter.effect s.radio.ctrlFilter w.ctrlFilter
        promiscuous := r.restorePromiscuous.effect true w.promiscuous},
      decide (r.restoreFilter.err ≠ ESP_OK ∨ r.restoreCtrlFilter.err ≠ ESP_OK ∨ r.restorePromiscuous.err ≠ ESP_OK))
  else
    ({w with promiscuous := r.stopPromiscuous.effect false w.promiscuous},
      decide (r.stopPromiscuous.err ≠ ESP_OK ∧ r.stopPromiscuous.err ≠ ESP_ERR_WIFI_NOT_STARTED ∧
        r.stopPromiscuous.err ≠ ESP_ERR_WIFI_NOT_INIT))

def monitorRollback (s : Firmware) (w : Radio) (r : Replies) : Radio × Bool :=
  let first := if radioOwnsChannel s r then (w,false) else channelRollback s.radio.channel w r
  let second := captureRollback s first.1 r
  (second.1,first.2 || second.2)

def monitorRetunes (s : Firmware) (r : Replies) (channel : UInt8) : Bool :=
  !radioOwnsChannel s r && decide (effectiveChannel s r channel ≠ s.radio.channel.primary ∨ s.radio.channel.second ≠ 0)

def monitorEnable (s : Firmware) (r : Replies) (channel : UInt8) : Firmware × Outcome :=
  if monitorAdmit s r channel ≠ ESP_OK then (s,.returned (monitorAdmit s r channel))
  else
    let done := monitorStages s.radio r (monitorRetunes s r channel) (effectiveChannel s r channel)
    if done.2 = ESP_OK then
      ({s with radio := done.1, monitor := ⟨true,effectiveChannel s r channel,decide (channel ≠ 0)⟩},.returned ESP_OK)
    else
      let back := monitorRollback s done.1 r
      ({s with radio := back.1},if back.2 then .restarted else .returned done.2)

def espHostedMonitorConfig (s : Firmware) (r : Replies) (enable : Bool) (channel : UInt8) : Firmware × Outcome :=
  if enable then monitorEnable s r channel else monitorDisable s r

/-! What is as before. -/

structure SameCapture (w w' : Radio) : Prop where
  filter : w'.filter = w.filter
  ctrlFilter : w'.ctrlFilter = w.ctrlFilter
  promiscuous : w'.promiscuous = w.promiscuous
  channel : w'.channel = w.channel

def Atomic (s : Firmware) (res : Firmware × Outcome) : Prop :=
  ∀ ret, res.2 = .returned ret → ret ≠ ESP_OK →
    res.1.monitor = s.monitor ∧ (s.monitor.enabled = true → SameCapture s.radio res.1.radio)

variable {s : Firmware} {r : Replies} {w : Radio} {channel effective : UInt8} {retune : Bool}

@[simp] theorem effect_ok {α : Type} {r : Reply} (h : r.err = ESP_OK) (new old : α) : r.effect new old = new := by
  simp [Reply.effect,h]

/-! Disabling. -/

/-- Monitoring goes off although the call fails. -/
def DisableSlips (s : Firmware) (r : Replies) : Prop :=
  s.monitor.enabled = true ∧ s.radio.promiscuous = true ∧ r.disable.err ≠ ESP_OK ∧
    r.disable.err ≠ ESP_ERR_WIFI_NOT_STARTED ∧ r.disable.applied = true

theorem disable_atomic_iff : Atomic s (monitorDisable s r) ↔ ¬DisableSlips s r := by
  by_cases h : r.disable.err ≠ ESP_OK ∧ r.disable.err ≠ ESP_ERR_WIFI_NOT_STARTED
  · rw [monitorDisable,if_pos h]
    constructor
    · rintro ha ⟨he,hp,-,-,happ⟩
      have := ((ha _ rfl h.1).2 he).promiscuous
      simp [Reply.effect,happ,hp] at this
    · intro hn ret _ _
      refine ⟨rfl,fun he => ⟨rfl,rfl,?_,rfl⟩⟩
      by_cases happ : r.disable.applied = true
      · have hp : s.radio.promiscuous = false := by
          rw [← Bool.not_eq_true]
          exact fun hp => hn ⟨he,hp,h.1,h.2,happ⟩
        simp [Reply.effect,hp]
      · simp [Reply.effect,h.1,happ]
  · rw [monitorDisable,if_neg h]
    constructor
    · rintro _ ⟨-,-,h1,h2,-⟩
      exact h ⟨h1,h2⟩
    · intro _ ret hr hret
      cases hr
      exact absurd rfl hret

/-! The changes in order. -/

/-- Every change but the retune is made and read back. -/
structure Configures (r : Replies) : Prop where
  setFilter : r.setFilter.err = ESP_OK
  setCtrlFilter : r.setCtrlFilter.err = ESP_OK
  verifyCtrlFilter : r.verifyCtrlFilter = ESP_OK
  verifyFilter : r.verifyFilter = ESP_OK
  setRxCb : r.setRxCb.err = ESP_OK
  setPromiscuous : r.setPromiscuous.err = ESP_OK

theorem stages_configured (h : Configures r) : monitorStages w r retune effective =
    ({filter := MONITOR_FILTER, ctrlFilter := MONITOR_CTRL_FILTER, promiscuous := true, rxCb := true,
      channel := if retune then r.setChannel.effect ⟨effective,0⟩ w.channel else w.channel},
      if retune then r.setChannel.err else ESP_OK) := by
  obtain ⟨h1,h2,h3,h4,h5,h6⟩ := h
  cases retune <;> simp [monitorStages,Reply.effect,h1,h2,h3,h4,h5,h6]

theorem stages_unconfigured (h : ¬Configures r) :
    (monitorStages w r retune effective).1.channel = w.channel ∧ (monitorStages w r retune effective).2 ≠ ESP_OK := by
  by_cases h1 : r.setFilter.err = ESP_OK
  · by_cases h2 : r.setCtrlFilter.err = ESP_OK
    · by_cases h3 : r.verifyCtrlFilter = ESP_OK
      · by_cases h4 : r.verifyFilter = ESP_OK
        · by_cases h5 : r.setRxCb.err = ESP_OK
          · have h6 : r.setPromiscuous.err ≠ ESP_OK := fun h6 => h ⟨h1,h2,h3,h4,h5,h6⟩
            simp [monitorStages,h1,h2,h3,h4,h5,h6]
          · simp [monitorStages,h1,h2,h3,h4,h5]
        · simp [monitorStages,h1,h2,h3,h4]
      · simp [monitorStages,h1,h2,h3]
    · simp [monitorStages,h1,h2]
  · simp [monitorStages,h1]

def Completes (s : Firmware) (r : Replies) (channel : UInt8) : Prop :=
  Configures r ∧ (monitorRetunes s r channel = true → r.setChannel.err = ESP_OK)

theorem stages_ok_iff :
    (monitorStages w r (monitorRetunes s r channel) effective).2 = ESP_OK ↔ Completes s r channel := by
  by_cases h : Configures r
  · rw [stages_configured h,Completes]
    cases monitorRetunes s r channel <;> simp [h]
  · constructor
    · intro hok
      exact absurd hok (stages_unconfigured h).2
    · intro hc
      exact absurd hc.1 h

/-! The way back. -/

/-- The radio has moved although the call failed. -/
def Strays (s : Firmware) (r : Replies) (channel : UInt8) : Prop :=
  Configures r ∧ monitorRetunes s r channel = true ∧ r.setChannel.applied = true

/-- Every step back that is taken with monitoring enabled is OK. -/
structure Recovers (s : Firmware) (r : Replies) (channel : UInt8) : Prop where
  observed : radioOwnsChannel s r = false → r.getObserved = ESP_OK
  moved : Strays s r channel → s.radio.channel.primary ≠ 0 ∧ r.restoreChannel.err = ESP_OK ∧ r.getRestored = ESP_OK
  filter : r.restoreFilter.err = ESP_OK
  ctrlFilter : r.restoreCtrlFilter.err = ESP_OK
  promiscuous : r.restorePromiscuous.err = ESP_OK

theorem retune_moves (h : monitorRetunes s r channel = true) :
    (⟨effectiveChannel s r channel,0⟩ : Channel) ≠ s.radio.channel := by
  simp only [monitorRetunes,Bool.and_eq_true,decide_eq_true_eq] at h
  rintro heq
  rcases h.2 with h | h
  · exact h (congrArg Channel.primary heq)
  · exact h (congrArg Channel.second heq).symm

theorem stages_channel (hc : ¬Completes s r channel) :
    (monitorStages s.radio r (monitorRetunes s r channel) (effectiveChannel s r channel)).1.channel ≠
      s.radio.channel ↔ Strays s r channel := by
  by_cases h : Configures r
  · have hre : monitorRetunes s r channel = true := by
      rw [← Bool.not_eq_false]
      intro hre
      exact hc ⟨h,fun h => by rw [hre] at h; cases h⟩
    have herr : r.setChannel.err ≠ ESP_OK := fun herr => hc ⟨h,fun _ => herr⟩
    rw [stages_configured h,hre]
    by_cases happ : r.setChannel.applied = true
    · simp [Strays,h,hre,happ,Reply.effect,retune_moves hre]
    · simp [Strays,happ,Reply.effect,herr]
  · constructor
    · intro hne
      exact absurd (stages_unconfigured h).1 hne
    · intro hs
      exact absurd hs.1 h

theorem channelRollback_iff {previous : Channel} : (channelRollback previous w r).2 = false ↔
    r.getObserved = ESP_OK ∧
      (w.channel ≠ previous → previous.primary ≠ 0 ∧ r.restoreChannel.err = ESP_OK ∧ r.getRestored = ESP_OK) := by
  by_cases h1 : r.getObserved = ESP_OK
  · by_cases h2 : w.channel = previous
    · simp [channelRollback,h1,h2]
    · by_cases h3 : previous.primary = 0
      · simp [channelRollback,h1,h2,h3]
      · by_cases h4 : r.restoreChannel.err = ESP_OK
        · simp [channelRollback,h1,h2,h3,h4]
        · simp [channelRollback,h1,h2,h3,h4]
  · simp [channelRollback,h1]

theorem channelRollback_spec {previous : Channel} (hf : (channelRollback previous w r).2 = false) :
    (channelRollback previous w r).1 = {w with channel := previous} := by
  obtain ⟨h1,h2⟩ := channelRollback_iff.mp hf
  by_cases hc : w.channel = previous
  · simp [channelRollback,h1,← hc]
  · obtain ⟨h3,h4,-⟩ := h2 hc
    simp [channelRollback,h1,hc,h3,h4]

theorem captureRollback_spec (he : s.monitor.enabled = true) :
    ((captureRollback s w r).2 = false ↔ r.restoreFilter.err = ESP_OK ∧ r.restoreCtrlFilter.err = ESP_OK ∧
      r.restorePromiscuous.err = ESP_OK) ∧
    ((captureRollback s w r).2 = false → (captureRollback s w r).1 =
      {w with filter := s.radio.filter, ctrlFilter := s.radio.ctrlFilter, promiscuous := true}) := by
  simp only [captureRollback,he,if_true]
  constructor
  · simp
  · intro h
    simp only [decide_eq_false_iff_not,not_or,not_not] at h
    simp [h.1,h.2.1,h.2.2]

/-- The channel is only ever changed where the radio is not owned. -/
theorem owned_channel (hc : ¬Completes s r channel) (ho : radioOwnsChannel s r = true) :
    (monitorStages s.radio r (monitorRetunes s r channel) (effectiveChannel s r channel)).1.channel = s.radio.channel := by
  have hns : ¬Strays s r channel := fun hs => by simp [Strays,monitorRetunes,ho] at hs
  exact Decidable.not_not.mp (mt (stages_channel hc).mp hns)

theorem rollback_spec (hc : ¬Completes s r channel) (he : s.monitor.enabled = true) :
    ((monitorRollback s (monitorStages s.radio r (monitorRetunes s r channel) (effectiveChannel s r channel)).1 r).2 =
      false ↔ Recovers s r channel) ∧
    (Recovers s r channel → ∃ cb,
      (monitorRollback s (monitorStages s.radio r (monitorRetunes s r channel) (effectiveChannel s r channel)).1 r).1 =
        {s.radio with promiscuous := true, rxCb := cb}) := by
  have hch := stages_channel hc
  cases ho : radioOwnsChannel s r with
  | true =>
    have hk := owned_channel hc ho
    generalize (monitorStages s.radio r (monitorRetunes s r channel) (effectiveChannel s r channel)).1 = w at hch hk ⊢
    obtain ⟨hcap,hval⟩ := @captureRollback_spec s r w he
    have hns : ¬Strays s r channel := fun hs => hch.mpr hs hk
    simp only [monitorRollback,ho,if_true,Bool.false_or]
    have hiff : (captureRollback s w r).2 = false ↔ Recovers s r channel := by
      rw [hcap]
      constructor
      · rintro ⟨h1,h2,h3⟩
        exact ⟨(fun h => by rw [ho] at h; cases h),fun hs => absurd hs hns,h1,h2,h3⟩
      · rintro ⟨-,-,h1,h2,h3⟩
        exact ⟨h1,h2,h3⟩
    refine ⟨hiff,fun hr => ⟨w.rxCb,?_⟩⟩
    rw [hval (hiff.mpr hr),← hk]
  | false =>
    generalize (monitorStages s.radio r (monitorRetunes s r channel) (effectiveChannel s r channel)).1 = w at hch ⊢
    obtain ⟨hcap,hval⟩ := @captureRollback_spec s r (channelRollback s.radio.channel w r).1 he
    simp only [monitorRollback,ho,Bool.false_eq_true,if_false,Bool.or_eq_false_iff]
    have hiff : ((channelRollback s.radio.channel w r).2 = false ∧
        (captureRollback s (channelRollback s.radio.channel w r).1 r).2 = false) ↔ Recovers s r channel := by
      rw [hcap,channelRollback_iff,hch]
      constructor
      · rintro ⟨⟨h1,h2⟩,h3,h4,h5⟩
        exact ⟨fun _ => h1,h2,h3,h4,h5⟩
      · rintro ⟨h1,h2,h3,h4,h5⟩
        exact ⟨⟨h1 ho,h2⟩,h3,h4,h5⟩
    refine ⟨hiff,fun hr => ⟨w.rxCb,?_⟩⟩
    obtain ⟨h1,h2⟩ := hiff.mpr hr
    rw [hval h2,channelRollback_spec h1]

/-! Enabling. -/

/-- Monitoring is recorded while promiscuous mode is off, a change fails, and the way back
turns promiscuous mode on. -/
def EnableSlips (s : Firmware) (r : Replies) (channel : UInt8) : Prop :=
  s.monitor.enabled = true ∧ s.radio.promiscuous = false ∧ monitorAdmit s r channel = ESP_OK ∧
    ¬Completes s r channel ∧ Recovers s r channel

theorem enable_atomic_iff : Atomic s (monitorEnable s r channel) ↔ ¬EnableSlips s r channel := by
  by_cases hadm : monitorAdmit s r channel = ESP_OK
  · by_cases hc : Completes s r channel
    · rw [monitorEnable,if_neg (fun h => h hadm)]
      simp only [stages_ok_iff.mpr hc,if_true]
      constructor
      · rintro _ ⟨-,-,-,hn,-⟩
        exact hn hc
      · intro _ ret hr hret
        cases hr
        exact absurd rfl hret
    · have hfail := mt (@stages_ok_iff s r s.radio channel (effectiveChannel s r channel)).mp hc
      rw [monitorEnable,if_neg (fun h => h hadm)]
      simp only [if_neg hfail]
      by_cases he : s.monitor.enabled = true
      · obtain ⟨hback,hval⟩ := rollback_spec hc he
        by_cases hr : Recovers s r channel
        · obtain ⟨cb,hw⟩ := hval hr
          simp only [hback.mpr hr,hw,Bool.false_eq_true,if_false]
          constructor
          · rintro ha ⟨-,hp,-⟩
            have := ((ha _ rfl hfail).2 he).promiscuous
            simp [hp] at this
          · intro hn ret _ _
            have hp : s.radio.promiscuous = true := by
              rw [← Bool.not_eq_false]
              exact fun hp => hn ⟨he,hp,hadm,hc,hr⟩
            exact ⟨rfl,fun _ => ⟨rfl,rfl,hp.symm,rfl⟩⟩
        · have hb := mt hback.mp hr
          simp only [Bool.not_eq_false] at hb
          simp only [hb,if_true]
          constructor
          · rintro _ ⟨-,-,-,-,h⟩
            exact hr h
          · intro _ ret h
            cases h
      · constructor
        · rintro _ ⟨h,-⟩
          exact he h
        · intro _ ret _ _
          exact ⟨rfl,fun h => absurd h he⟩
  · rw [monitorEnable,if_pos hadm]
    constructor
    · rintro _ ⟨-,-,h,-⟩
      exact hadm h
    · intro _ ret _ _
      exact ⟨rfl,fun _ => ⟨rfl,rfl,rfl,rfl⟩⟩

/-- The replies for which a failed call leaves something else in effect. -/
def Slips (s : Firmware) (r : Replies) (enable : Bool) (channel : UInt8) : Prop :=
  if enable then EnableSlips s r channel else DisableSlips s r

theorem monitor_atomic_iff (s : Firmware) (r : Replies) (enable : Bool) (channel : UInt8) :
    Atomic s (espHostedMonitorConfig s r enable channel) ↔ ¬Slips s r enable channel := by
  cases enable with
  | true => exact enable_atomic_iff
  | false => exact disable_atomic_iff

/-- Monitoring is still recorded, and nothing is captured any more. -/
theorem failed_disable_applied : ∃ s r, s.monitor.enabled = true ∧ s.radio.promiscuous = true ∧
    espHostedMonitorConfig s r false 0 =
      ({s with radio := {s.radio with promiscuous := false}},.returned ESP_FAIL) ∧
    ¬Atomic s (espHostedMonitorConfig s r false 0) := by
  refine ⟨⟨⟨true,6,true⟩,⟨0x7,0xFF800000,true,true,⟨6,0⟩⟩,.null,false⟩,{disable := ⟨ESP_FAIL,true⟩},rfl,rfl,rfl,?_⟩
  intro h
  have := ((h ESP_FAIL rfl (by decide)).2 rfl).promiscuous
  cases this

end EspHosted.Monitor
