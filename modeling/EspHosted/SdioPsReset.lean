import EspHosted.Lib.Run

/-!
The firmware's side of the SDIO control events, `main/sdio_slave_api.c`: `sdio_reset_hw_internal`
and `sdio_process_host_bits`. A step is one call of the latter. What the calls of IDF return and
what the transmitters have done by then is given with the step.
-/

set_option autoImplicit false

namespace EspHosted.SdioPs
open Run

/-- One pass of the drain loop: a transmitter is in flight, it has given the semaphore in time,
and `sdio_slave_reset`. -/
structure PassIo where
  inflight : Bool := false
  idle : Bool := true
  reset : Bool := true
  deriving DecidableEq, Repr

/-- `drained` is that none is in flight after the loop, `tokens` that finished transfers were left. -/
structure ResetIo where
  gen : UInt8 := 0
  reset : Bool := true
  passes : List PassIo := []
  drained : Bool := true
  tokens : Bool := false
  start : Bool := true
  writeReg : Bool := true
  deriving DecidableEq, Repr

/-- `dones` are the values that `sdio_reset_hw_internal` has written to the RESET_DONE register, each
with the calls of its reset. `wakeup` is that `wakeup_sem` can be taken, `stuck` that the control task
waits for it: only a later event of the same task would give it. -/
structure Fw where
  txBlocked : Bool := false
  started : Bool := true
  wakeup : Bool := true
  stuck : Bool := false
  restarted : Bool := false
  dones : List (UInt8 × ResetIo) := []
  acks : List UInt8 := []
  deriving DecidableEq, Repr

/-- The loop of at most four passes; `false` is `goto fail`. -/
def drainLoop : Nat → List PassIo → Bool
  | 0, _ => true
  | _+1, [] => true
  | n+1, p :: ps =>
    if p.inflight = false then true
    else if p.idle then drainLoop n ps
    else if p.reset = false then false
    else drainLoop n ps

def sdioResetHwInternal (restartLink : Bool) (io : ResetIo) (s : Fw) : Fw × Bool :=
  let s := {s with txBlocked := true, started := false}
  if io.reset = false then (s,false)
  else if drainLoop 4 io.passes = false then (s,false)
  else if io.drained = false then (s,false)
  else if restartLink = false then (s,true)
  else if io.start = false then (s,false)
  else
    let s := {s with started := true}
    if io.writeReg = false then (s,false)
    else
      let s := {s with txBlocked := false, dones := s.dones ++ [(io.gen,io)]}
      if io.tokens then ({s with txBlocked := true, started := false, restarted := true},true)
      else (s,true)

/-- The bits of `s_sdio_host_events` that the task looks at. -/
structure Bits where
  closeDataPath : Bool := false
  reset : Bool := false
  powerSaveOn : Bool := false
  powerSaveOff : Bool := false
  openDataPath : Bool := false
  deriving DecidableEq, Repr

/-- `ack` is the outcome of the register write for `ESP_CLOSE_DATA_PATH`. -/
structure Event where
  bits : Bits
  closeGen : UInt8 := 0
  ack : Bool := true
  onReset : ResetIo := {}
  onPowerSaveOn : ResetIo := {}
  onPowerSaveOff : ResetIo := {}
  deriving DecidableEq, Repr

/-- Nothing runs any more. -/
def Fw.ended (s : Fw) : Bool := s.restarted || s.stuck

/-- The handler restarts the firmware. -/
def closeDataPath (e : Event) (s : Fw) : Fw :=
  if e.bits.closeDataPath then
    {s with acks := if e.ack then s.acks ++ [e.closeGen] else s.acks, restarted := true}
  else s

def espReset (e : Event) (s : Fw) : Fw :=
  if s.ended then s
  else if e.bits.reset then {(sdioResetHwInternal false e.onReset s).1 with restarted := true}
  else s

/-- `event_handler` takes the semaphore first. -/
def powerSaveOn (e : Event) (s : Fw) : Fw :=
  if s.ended then s
  else if e.bits.powerSaveOn = false then s
  else if s.wakeup = false then {s with stuck := true}
  else (sdioResetHwInternal true e.onPowerSaveOn {s with wakeup := false}).1

def powerSaveOff (e : Event) (s : Fw) : Fw :=
  if s.ended then s
  else if e.bits.powerSaveOff = false then s
  else (sdioResetHwInternal true e.onPowerSaveOff {s with wakeup := true}).1

/-- `ESP_OPEN_DATA_PATH` leaves all of this alone. -/
def sdioProcessHostBits (e : Event) (s : Fw) : Fw :=
  powerSaveOff e (powerSaveOn e (espReset e (closeDataPath e s)))

def fwStep (s : Fw) (e : Event) : Option Fw := if s.ended then none else some (sdioProcessHostBits e s)

/-- The transmit path is open, or the firmware restarts. -/
def Fw.Open (s : Fw) : Prop := s.restarted = true ∨ (s.txBlocked = false ∧ s.started = true)

/-- Every call of the reset has come back as it should and the transmitters are out. -/
def ResetIo.completes (io : ResetIo) : Bool :=
  io.reset && drainLoop 4 io.passes && io.drained && io.start

/-- The last power-save reset that the handling of an event runs. -/
def lastReset (s : Fw) (e : Event) : Option ResetIo :=
  if s.ended ∨ e.bits.closeDataPath ∨ e.bits.reset then none
  else if e.bits.powerSaveOn ∧ s.wakeup = false then none
  else if e.bits.powerSaveOn ∧ e.onPowerSaveOn.completes ∧ e.onPowerSaveOn.writeReg ∧ e.onPowerSaveOn.tokens then
    some e.onPowerSaveOn
  else if e.bits.powerSaveOff then some e.onPowerSaveOff
  else if e.bits.powerSaveOn then some e.onPowerSaveOn
  else none

/-! One reset. -/

theorem sdioResetHwInternal_cases (io : ResetIo) (s : Fw) :
    ((io.completes && io.writeReg) = true ∧ io.tokens = true ∧
      (sdioResetHwInternal true io s).1 =
        {s with txBlocked := true, started := false, restarted := true, dones := s.dones ++ [(io.gen,io)]}) ∨
    ((io.completes && io.writeReg) = true ∧ io.tokens = false ∧
      (sdioResetHwInternal true io s).1 =
        {s with txBlocked := false, started := true, dones := s.dones ++ [(io.gen,io)]}) ∨
    ((io.completes && io.writeReg) = false ∧
      ∃ b, (sdioResetHwInternal true io s).1 = {s with txBlocked := true, started := b}) := by
  simp only [sdioResetHwInternal,ResetIo.completes]
  cases io.reset with
  | false => exact .inr (.inr ⟨rfl,false,rfl⟩)
  | true =>
    cases drainLoop 4 io.passes with
    | false => exact .inr (.inr ⟨rfl,false,rfl⟩)
    | true =>
      cases io.drained with
      | false => exact .inr (.inr ⟨rfl,false,rfl⟩)
      | true =>
        cases io.start with
        | false => exact .inr (.inr ⟨rfl,false,rfl⟩)
        | true =>
          cases io.writeReg with
          | false => exact .inr (.inr ⟨rfl,true,rfl⟩)
          | true =>
            cases ht : io.tokens with
            | true => exact .inl ⟨rfl,rfl,rfl⟩
            | false => exact .inr (.inl ⟨rfl,rfl,rfl⟩)

theorem sdioResetHwInternal_open {s : Fw} (io : ResetIo) (hr : s.restarted = false) :
    (sdioResetHwInternal true io s).1.Open ↔ (io.completes && io.writeReg) = true := by
  rcases sdioResetHwInternal_cases io s with ⟨h,-,he⟩ | ⟨h,-,he⟩ | ⟨h,b,he⟩
  · rw [he,h]
    simp [Fw.Open]
  · rw [he,h]
    simp [Fw.Open]
  · rw [he,h]
    simp [Fw.Open,hr]

/-! One event. -/

theorem powerSaveOff_ended {e : Event} {s : Fw} (h : s.ended = true) : powerSaveOff e s = s := by
  simp [powerSaveOff,h]

theorem powerSaveOff_none {e : Event} {s : Fw} (h : e.bits.powerSaveOff = false) : powerSaveOff e s = s := by
  simp [powerSaveOff,h]

theorem powerSaveOn_ended {e : Event} {s : Fw} (h : s.ended = true) : powerSaveOn e s = s := by
  simp [powerSaveOn,h]

theorem powerSaveOff_open {e : Event} {s : Fw} (hs : s.ended = false) (hb : e.bits.powerSaveOff = true) :
    (powerSaveOff e s).Open ↔ (e.onPowerSaveOff.completes && e.onPowerSaveOff.writeReg) = true := by
  have hr : s.restarted = false := by
    simp only [Fw.ended,Bool.or_eq_false_iff] at hs
    exact hs.1
  simp only [powerSaveOff,hs,hb,Bool.false_eq_true,Bool.true_eq_false,if_false]
  exact sdioResetHwInternal_open e.onPowerSaveOff hr

theorem powerSave_open {s : Fw} (hs : s.ended = false) (ho : s.Open) (e : Event)
    (hc : e.bits.closeDataPath = false) (hr : e.bits.reset = false) :
    (powerSaveOff e (powerSaveOn e s)).Open ↔
      ∀ r, lastReset s e = some r → (r.completes && r.writeReg) = true := by
  have hes : s.restarted = false ∧ s.stuck = false := by simpa [Fw.ended] using hs
  simp only [lastReset,hs,hc,hr,Bool.false_eq_true,or_self,if_false]
  cases hon : e.bits.powerSaveOn with
  | false =>
    have h1 : powerSaveOn e s = s := by simp [powerSaveOn,hon]
    rw [h1]
    cases hoff : e.bits.powerSaveOff with
    | false =>
      rw [powerSaveOff_none hoff]
      simp [ho]
    | true =>
      rw [powerSaveOff_open hs hoff]
      simp
  | true =>
    cases hw : s.wakeup with
    | false =>
      -- the task waits and the second half is not reached
      have h1 : powerSaveOn e s = {s with stuck := true} := by simp [powerSaveOn,hs,hon,hw]
      rw [h1,powerSaveOff_ended (by simp [Fw.ended])]
      simpa [Fw.Open] using ho
    | true =>
      have h1 : powerSaveOn e s = (sdioResetHwInternal true e.onPowerSaveOn {s with wakeup := false}).1 := by
        simp [powerSaveOn,hs,hon,hw]
      rw [h1]
      rcases sdioResetHwInternal_cases e.onPowerSaveOn {s with wakeup := false} with ⟨h,ht,he⟩ | ⟨h,ht,he⟩ | ⟨h,b,he⟩
      · rw [he,powerSaveOff_ended (by simp [Fw.ended])]
        simp only [Bool.and_eq_true] at h
        simp [Fw.Open,h.1,h.2,ht]
      · rw [he]
        cases hoff : e.bits.powerSaveOff with
        | false =>
          rw [powerSaveOff_none hoff]
          simp only [Bool.and_eq_true] at h
          simp [Fw.Open,ht,h]
        | true =>
          rw [powerSaveOff_open (by simpa [Fw.ended] using hes) hoff]
          simp [ht]
      · rw [he]
        have hno : ¬(e.onPowerSaveOn.completes = true ∧ e.onPowerSaveOn.writeReg = true) := by
          rw [← Bool.and_eq_true,h]
          decide
        have hskip : ¬(e.onPowerSaveOn.completes = true ∧ e.onPowerSaveOn.writeReg = true ∧
            e.onPowerSaveOn.tokens = true) := fun hc => hno ⟨hc.1,hc.2.1⟩
        cases hoff : e.bits.powerSaveOff with
        | false =>
          rw [powerSaveOff_none hoff]
          simp only [Fw.Open,hes.1,true_and,Bool.true_eq_false,if_false,if_neg hskip,Bool.false_eq_true,if_true,
            false_and,or_self,Option.some.injEq,forall_eq',h]
        | true =>
          rw [powerSaveOff_open (by simpa [Fw.ended] using hes) hoff]
          simp only [true_and,Bool.true_eq_false,if_false,if_neg hskip,if_true,Option.some.injEq,forall_eq']

/-- The handling of an event leaves the path open exactly if the last reset in it has completed. -/
theorem fwStep_open (s : Fw) (e : Event) (s' : Fw) (ho : s.Open) (h : fwStep s e = some s') :
    s'.Open ↔ ∀ r, lastReset s e = some r → (r.completes && r.writeReg) = true := by
  simp only [fwStep] at h
  split at h
  · cases h
  · rename_i hs
    simp only [Bool.not_eq_true] at hs
    cases h
    cases hc : e.bits.closeDataPath with
    | true =>
      have hend : (closeDataPath e s).ended = true := by simp [closeDataPath,hc,Fw.ended]
      have h1 : espReset e (closeDataPath e s) = closeDataPath e s := by simp [espReset,hend]
      rw [sdioProcessHostBits,h1,powerSaveOn_ended hend,powerSaveOff_ended hend]
      simp [closeDataPath,hc,Fw.Open,lastReset]
    | false =>
      have h0 : closeDataPath e s = s := by simp [closeDataPath,hc]
      cases hr : e.bits.reset with
      | true =>
        have h1 : espReset e s = {(sdioResetHwInternal false e.onReset s).1 with restarted := true} := by
          simp [espReset,hs,hr]
        rw [sdioProcessHostBits,h0,h1,powerSaveOn_ended (by simp [Fw.ended]),powerSaveOff_ended (by simp [Fw.ended])]
        simp [Fw.Open,lastReset,hr]
      | false =>
        have h1 : espReset e s = s := by simp [espReset,hr]
        rw [sdioProcessHostBits,h0,h1]
        exact powerSave_open hs ho e hc hr

/-! RESET_DONE. -/

/-- Every value written to the register belongs to a reset that has completed. -/
def Fw.Honest (s : Fw) : Prop := ∀ d ∈ s.dones, d.2.completes = true ∧ d.1 = d.2.gen

theorem sdioResetHwInternal_honest {s : Fw} (io : ResetIo) (h : s.Honest) :
    (sdioResetHwInternal true io s).1.Honest := by
  have hadd : (io.completes && io.writeReg) = true →
      ∀ d ∈ s.dones ++ [(io.gen,io)], d.2.completes = true ∧ d.1 = d.2.gen := by
    intro hc d hd
    rw [Bool.and_eq_true] at hc
    rcases List.mem_append.mp hd with hd | hd
    · exact h d hd
    · rw [List.mem_singleton.mp hd]
      exact ⟨hc.1,rfl⟩
  rcases sdioResetHwInternal_cases io s with ⟨hc,-,he⟩ | ⟨hc,-,he⟩ | ⟨-,b,he⟩
  · rw [he]
    exact hadd hc
  · rw [he]
    exact hadd hc
  · rw [he]
    exact h

theorem sdioResetHwInternal_dones (io : ResetIo) (s : Fw) : (sdioResetHwInternal false io s).1.dones = s.dones := by
  simp only [sdioResetHwInternal,if_true]
  repeat' split
  all_goals rfl

theorem fwStep_honest (s : Fw) (e : Event) (s' : Fw) (h : s.Honest) (hs : fwStep s e = some s') : s'.Honest := by
  have h1 : (closeDataPath e s).Honest := by
    simp only [closeDataPath]
    split <;> exact h
  have h2 : (espReset e (closeDataPath e s)).Honest := by
    simp only [espReset]
    split
    · exact h1
    · split
      · intro d hd
        rw [sdioResetHwInternal_dones] at hd
        exact h1 d hd
      · exact h1
  have h3 : (powerSaveOn e (espReset e (closeDataPath e s))).Honest := by
    simp only [powerSaveOn]
    repeat' split
    · exact h2
    · exact h2
    · exact h2
    · exact sdioResetHwInternal_honest _ h2
  simp only [fwStep] at hs
  split at hs
  · cases hs
  · cases hs
    simp only [sdioProcessHostBits,powerSaveOff]
    repeat' split
    · exact h3
    · exact h3
    · exact sdioResetHwInternal_honest _ h3

/-- Over every sequence of host events: the path is open or the firmware restarts after each of them exactly if the
last power-save reset in each has completed, and RESET_DONE is only ever written for a reset that has. -/
theorem sdioPs_open_iff (es : List Event) :
    ((∀ t, Reached fwStep {} es t → t.Open) ↔
      Along fwStep (fun s e => ∀ r, lastReset s e = some r → (r.completes && r.writeReg) = true) {} es) ∧
    ∀ t, Reached fwStep {} es t → t.Honest := by
  constructor
  · refine along_iff_reached (fun s e s' => fwStep_open s e s') ?_ (.inr ⟨rfl,rfl⟩) es
    intro s e h r hr
    simp only [fwStep] at h
    split at h
    · rename_i hs
      simp [lastReset,hs] at hr
    · cases h
  · intro t ht
    exact reached_invariant fwStep_honest (fun d hd => absurd hd (by simp)) ht

/-- The host goes to sleep and `sdio_slave_start` fails. -/
def startFails : Event := {bits := {powerSaveOn := true}, onPowerSaveOn := {start := false}}

theorem sdioPs_blocked :
    ∃ t, Reached fwStep {} [startFails] t ∧ t.txBlocked = true ∧ t.started = false ∧ t.restarted = false := by
  refine ⟨_,.inr ⟨_,rfl,rfl⟩,?_⟩
  decide

end EspHosted.SdioPs
