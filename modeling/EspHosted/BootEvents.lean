import EspHosted.Bootup

/-!
Which boot event the committed metadata belong to, when events keep arriving
while older ones are handled.
-/

set_option autoImplicit false

namespace EspHosted.Bootup
open EspHosted Recovery Boot Run

def metaOf (cfg : Cfg) (skb : Bytes) : BootMeta := (parseBootEvent cfg.bus (bootPayload skb)).1

def newestQueued (queue : List Bytes) : Option Bytes := (queue.filter validBoot).getLast?

theorem newestQueued_append (queue : List Bytes) (skb : Bytes) :
    newestQueued (queue ++ [skb]) = if validBoot skb then some skb else newestQueued queue := by
  by_cases h : validBoot skb = true <;> simp [newestQueued,List.filter_append,h]

theorem newestQueued_cons (queue : List Bytes) (skb : Bytes) :
    newestQueued (skb :: queue) =
      if validBoot skb then (newestQueued queue).or (some skb) else newestQueued queue := by
  by_cases h : validBoot skb = true
  · simp only [newestQueued,List.filter_cons,h,if_true,List.getLast?_cons]
    cases (List.filter validBoot queue).getLast? <;> simp
  · simp [newestQueued,h]

theorem newestQueued_eq_none {queue : List Bytes} (h : queue.filter validBoot = []) :
    newestQueued queue = none := by
  simp [newestQueued,h]

/-- The event in hand is the one taken off the queue last. -/
def Pc.current : Pc → Bool
  | .cancel => true
  | .commitArm | .publish | .radio | .finish => true
  | pc => pc.phase = .preBegin || pc.phase = .reconstructing

def Pc.parsed : Pc → Bool
  | .reinit | .begin | .commitArm | .publish | .radio | .finish => true
  | pc => pc.phase = .reconstructing

/-- The adapter has been taken out of `READY`. -/
def Pc.low : Pc → Bool
  | .badArm | .otaArm | .retryArm | .retryRequest => true
  | _ => false

def Pc.mayAllow (pc : Pc) : Bool := pc.phase = .reconstructing || pc.phase = .clearing

structure Fresh (cfg : Cfg) (s : State) : Prop where
  up : s.a.shuttingDown = false
  allow : s.pc.mayAllow = false → s.a.allowReconstruct = false
  newest : s.received = (newestQueued s.queue).or s.taken
  current : s.pc.current = true → s.taken = some s.skb
  parsed : s.pc.parsed = true → s.a.boot = metaOf cfg s.skb
  low : s.pc.low = true → s.a.state ≠ .ready
  settled : s.pc = .idle ∨ s.pc = .badSchedule → s.a.state = .ready →
    ∃ skb, s.taken = some skb ∧ s.a.boot = metaOf cfg skb
  kept : s.purged = []

theorem Fresh.init (cfg : Cfg) : Fresh cfg State.init where
  up := rfl
  allow := fun _ => rfl
  newest := rfl
  current := nofun
  parsed := nofun
  low := nofun
  settled := nofun
  kept := rfl

/-- The worker moves on; only the facts about the new place are to be shown. -/
theorem Fresh.setAdapter {cfg : Cfg} {s : State} (h : Fresh cfg s) (a : Adapter) (pc : Pc)
    (hup : a.shuttingDown = false) (hallow : pc.mayAllow = false → a.allowReconstruct = false)
    (hcur : pc.current = true → s.pc.current = true)
    (hparsed : pc.parsed = true → a.boot = metaOf cfg s.skb)
    (hlow : pc.low = true → a.state ≠ .ready)
    (hset : pc = .idle ∨ pc = .badSchedule → a.state = .ready →
      ∃ skb, s.taken = some skb ∧ a.boot = metaOf cfg skb) :
    Fresh cfg (s.setAdapter a pc) where
  up := hup
  allow := hallow
  newest := h.newest
  current := fun hc => h.current (hcur hc)
  parsed := hparsed
  low := hlow
  settled := hset
  kept := h.kept

/-- Successor places that ask for nothing new: not the end of the handler and not
a place that promises to be below `READY`. -/
def Pc.onward (pc pc' : Pc) : Bool :=
  (!pc'.current || pc.current) && (!pc'.parsed || pc.parsed) && !pc'.low &&
    decide (pc' ≠ .idle) && decide (pc' ≠ .badSchedule)

theorem Fresh.advance {cfg : Cfg} {s : State} (h : Fresh cfg s) (a : Adapter) (pc : Pc)
    (hup : a.shuttingDown = s.a.shuttingDown)
    (hallow : pc.mayAllow = false → a.allowReconstruct = false)
    (hboot : pc.parsed = true → a.boot = s.a.boot) (hon : s.pc.onward pc = true) :
    Fresh cfg (s.setAdapter a pc) := by
  simp only [Pc.onward,Bool.and_eq_true,Bool.or_eq_true,Bool.not_eq_true',decide_eq_true_eq] at hon
  obtain ⟨⟨⟨⟨hcur,hpar⟩,hlow⟩,hidle⟩,hbad⟩ := hon
  refine h.setAdapter a pc (hup.trans h.up) hallow ?_ ?_ ?_ ?_
  · intro hc
    exact hcur.resolve_left (by simp [hc])
  · intro hp
    exact (hboot hp).trans (h.parsed (hpar.resolve_left (by simp [hp])))
  · intro hl
    exact absurd (hlow.symm.trans hl) (by simp)
  · intro hi
    exact absurd hi (by simp [hidle,hbad])

theorem Fresh.goto {cfg : Cfg} {s : State} (h : Fresh cfg s) (pc : Pc)
    (hallow : pc.mayAllow = false → s.pc.mayAllow = false) (hon : s.pc.onward pc = true) :
    Fresh cfg (s.goto pc) :=
  h.advance s.a pc rfl (fun hm => h.allow (hallow hm)) (fun _ => rfl) hon

/-- The handler's own schedule takes the adapter out of `READY`. -/
theorem Fresh.schedule {cfg : Cfg} {s : State} (h : Fresh cfg s) (a : Adapter) (pc : Pc)
    (hup : a.shuttingDown = false) (hclosed : a.allowReconstruct = false)
    (hpc : pc = .badArm ∨ pc = .otaArm ∨ pc = .retryArm) :
    Fresh cfg (s.setAdapter (espScheduleRecovery a true) pc) := by
  obtain ⟨_,_,_,_,hal,hu,_,_,hst,_⟩ := espScheduleRecovery_spec a true hup
  refine h.setAdapter _ _ hu (fun _ => hal.trans hclosed) ?_ ?_ (fun _ => hst hclosed) ?_ <;>
    rcases hpc with rfl | rfl | rfl <;> nofun

def PurgeSafe (s : State) (act : Act) : Prop :=
  match act, s.pc with
  | .handle _, .purge => s.queue.filter validBoot = []
  | _, _ => True

instance (s : State) (act : Act) : Decidable (PurgeSafe s act) := by
  unfold PurgeSafe
  split <;> infer_instance

theorem vacuous {p q : Prop} [Decidable p] (h : decide p = false) : p → q :=
  fun hp => absurd hp (of_decide_eq_false h)

theorem Fresh.handle {cfg : Cfg} {s s' : State} {e : Env} (h : Fresh cfg s)
    (hsafe : s.pc = .purge → s.queue.filter validBoot = [])
    (hs : handle cfg s e = some s') : Fresh cfg s' := by
  have hdown : ¬s.a.shuttingDown = true := by simp [h.up]
  have hal := h.allow
  cases hpc : s.pc <;> rw [hpc] at hal <;> simp only [Bootup.handle,hpc] at hs
  case idle => cases hs
  case badSchedule =>
    cases hs
    exact h.schedule s.a _ h.up (hal rfl) (.inl rfl)
  case badArm =>
    cases hs
    exact h.setAdapter _ _ h.up (fun _ => hal rfl) (vacuous rfl) (vacuous rfl)
      (fun _ => h.low (by rw [hpc]; rfl)) (vacuous rfl)
  case cancel =>
    rw [if_neg hdown] at hs
    cases hs
    exact { h.advance {s.a with workArmed := false} .testFlags rfl (fun _ => hal rfl) (vacuous rfl)
      (by rw [hpc]; rfl) with }
  case testFlags =>
    cases hs
    exact { h.goto .setPending (fun _ => by rw [hpc]; rfl) (by rw [hpc]; rfl) with }
  case setPending =>
    cases hs
    exact h.advance _ _ rfl (fun _ => hal rfl) (vacuous rfl) (by rw [hpc]; rfl)
  case clear =>
    cases hs
    by_cases hr : s.reinitializing = true
    · rw [if_pos hr]
      exact h.advance _ _ rfl (fun _ => hal rfl) (vacuous rfl) (by rw [hpc]; rfl)
    · rw [if_neg hr]
      exact h.advance _ _ rfl (fun _ => hal rfl) (vacuous rfl) (by rw [hpc]; rfl)
  case purge =>
    cases hs
    have hq := hsafe hpc
    have hn := h.newest
    have ha := h.advance {s.a with cleanupInProgress := true} .quiesce rfl (fun _ => hal rfl) (vacuous rfl)
      (by rw [hpc]; rfl)
    rw [newestQueued_eq_none hq] at hn
    exact { ha with
      newest := hn
      kept := by simp [hq,h.kept] }
  case quiesce =>
    split at hs
    · cases hs
      exact h.advance _ _ rfl (fun _ => hal rfl) (vacuous rfl) (by rw [hpc]; rfl)
    · cases hs
      exact h.goto _ (vacuous rfl) (by rw [hpc]; rfl)
  case removeCard =>
    split at hs
    · cases hs
      exact h.goto _ (vacuous rfl) (by rw [hpc]; rfl)
    · cases hs
      exact h.goto _ (fun _ => by rw [hpc]; rfl) (by rw [hpc]; rfl)
  case parse =>
    rw [if_neg hdown] at hs
    cases hs
    split
    · exact h.setAdapter _ _ h.up (fun _ => hal rfl) (fun _ => by rw [hpc]; rfl) (fun _ => rfl)
        (vacuous rfl) (vacuous rfl)
    · exact h.setAdapter _ _ h.up (vacuous rfl) (vacuous rfl) (vacuous rfl) (vacuous rfl) (vacuous rfl)
  case reinit =>
    split at hs
    · cases hs
      exact h.goto _ (fun _ => by rw [hpc]; rfl) (by rw [hpc]; rfl)
    · split at hs
      · cases hs
        exact h.advance _ _ rfl (fun _ => hal rfl) (fun _ => rfl) (by rw [hpc]; rfl)
      · cases hs
        exact h.goto _ (vacuous rfl) (by rw [hpc]; rfl)
  case begin =>
    cases hs
    exact h.advance _ _ rfl (vacuous rfl) (fun _ => rfl) (by rw [hpc]; rfl)
  case setReady =>
    cases hs
    exact h.advance _ _ rfl (vacuous rfl) (fun _ => rfl) (by rw [hpc]; rfl)
  case addCard =>
    split at hs
    · cases hs
      exact h.advance _ _ rfl (vacuous rfl) (fun _ => rfl) (by rw [hpc]; rfl)
    · cases hs
      exact h.goto _ (vacuous rfl) (by rw [hpc]; rfl)
  case ota =>
    split at hs
    · cases hs
      exact h.goto _ (vacuous rfl) (by rw [hpc]; rfl)
    · cases hs
      exact h.goto _ (vacuous rfl) (by rw [hpc]; rfl)
    · cases hs
      split <;> exact h.goto _ (vacuous rfl) (by rw [hpc]; rfl)
  case otaClear =>
    cases hs
    exact h.advance _ _ rfl (fun _ => rfl) (vacuous rfl) (by rw [hpc]; rfl)
  case otaSchedule =>
    cases hs
    exact h.schedule s.a _ h.up (hal rfl) (.inr (.inl rfl))
  case otaArm =>
    cases hs
    exact h.setAdapter _ _ h.up (fun _ => hal rfl) (vacuous rfl) (vacuous rfl) (vacuous rfl)
      (fun _ hr => absurd hr (h.low (by rw [hpc]; rfl)))
  case rawTp =>
    cases hs
    split <;> exact h.goto _ (vacuous rfl) (by rw [hpc]; rfl)
  case commitInit =>
    cases hs
    exact h.advance _ _ rfl (vacuous rfl) (fun _ => rfl) (by rw [hpc]; rfl)
  case commitCancel =>
    cases hs
    exact h.advance _ _ rfl (vacuous rfl) (fun _ => rfl) (by rw [hpc]; rfl)
  case commit =>
    cases hs
    by_cases hg : s.a.recoveryGen = s.a.reconstructGen
    · simp only [espCommitReconstruction,hg,ne_eq,not_true,if_false]
      exact h.advance _ _ rfl (fun _ => rfl) (fun _ => rfl) (by rw [hpc]; rfl)
    · simp only [espCommitReconstruction,ne_eq,hg,not_false_eq_true,if_true]
      exact h.advance _ _ rfl (fun _ => rfl) (fun _ => rfl) (by rw [hpc]; rfl)
  case commitArm =>
    cases hs
    exact h.advance _ _ rfl (fun _ => hal rfl) (fun _ => rfl) (by rw [hpc]; rfl)
  case publish =>
    cases hs
    split <;> exact h.goto _ (fun _ => by rw [hpc]; rfl) (by rw [hpc]; rfl)
  case radio =>
    have hdone : ∃ skb, s.taken = some skb ∧ s.a.boot = metaOf cfg skb :=
      ⟨s.skb,h.current (by rw [hpc]; rfl),h.parsed (by rw [hpc]; rfl)⟩
    split at hs
    · cases hs
      exact h.setAdapter _ _ h.up (fun _ => hal rfl) (vacuous rfl) (vacuous rfl) (vacuous rfl)
        (fun _ _ => hdone)
    · cases hs
      split <;> exact h.goto _ (fun _ => by rw [hpc]; rfl) (by rw [hpc]; rfl)
  case finish =>
    cases hs
    obtain ⟨_,_,_,_,hfa,hfs,_,hfb,_⟩ := espFinishReconstruction_frame s.a
    have hset := h.setAdapter (espFinishReconstruction s.a).1 .idle (hfs.trans h.up)
      (fun _ => hfa.trans (hal rfl)) (vacuous rfl) (vacuous rfl) (vacuous rfl)
      (fun _ _ => ⟨s.skb,h.current (by rw [hpc]; rfl),hfb.trans (h.parsed (by rw [hpc]; rfl))⟩)
    exact { hset with }
  case failAfterCommit =>
    cases hs
    exact h.advance _ _ rfl (vacuous rfl) (vacuous rfl) (by rw [hpc]; rfl)
  case fail =>
    cases hs
    exact h.advance _ _ rfl (fun _ => rfl) (vacuous rfl) (by rw [hpc]; rfl)
  case retry =>
    rw [if_neg hdown] at hs
    cases hs
    exact h.schedule {s.a with cleanupInProgress := false} _ h.up (hal rfl) (.inr (.inr rfl))
  case retryArm =>
    cases hs
    exact h.setAdapter _ _ h.up (fun _ => hal rfl) (vacuous rfl) (vacuous rfl)
      (fun _ => h.low (by rw [hpc]; rfl)) (vacuous rfl)
  case retryRequest =>
    cases hs
    obtain ⟨_,_,_,_,hra,hrs,_,_,hrt⟩ := espRequestFirmwareRestart_frame cfg.clock e.now s.a
    exact h.setAdapter _ _ (hrs.trans h.up) (fun _ => hra.trans (hal rfl)) (vacuous rfl) (vacuous rfl)
      (vacuous rfl)
      (fun _ hr => absurd (hrt.symm.trans hr) (h.low (by rw [hpc]; rfl)))

/-- Another thread touches the adapter: it may lower `state` but not raise it. -/
theorem Fresh.meanwhile {cfg : Cfg} {s : State} (h : Fresh cfg s) (a : Adapter)
    (hup : a.shuttingDown = false) (hallow : a.allowReconstruct = s.a.allowReconstruct)
    (hboot : a.boot = s.a.boot) (hstate : a.state = .ready → s.a.state = .ready) :
    Fresh cfg {s with a := a} where
  up := hup
  allow := fun hm => hallow.trans (h.allow hm)
  newest := h.newest
  current := h.current
  parsed := fun hp => hboot.trans (h.parsed hp)
  low := fun hl hr => h.low hl (hstate hr)
  settled := fun hi hr => by
    obtain ⟨skb,ht,hb⟩ := h.settled hi (hstate hr)
    exact ⟨skb,ht,hboot.trans hb⟩
  kept := h.kept

theorem take_fresh {cfg : Cfg} {s : State} {skb : Bytes} {rest : List Bytes} (h : Fresh cfg s)
    (hpc : s.pc = .idle) (hq : s.queue = skb :: rest) : Fresh cfg (take {s with queue := rest} skb) := by
  have hal := h.allow (by rw [hpc]; rfl)
  have hn := h.newest
  rw [hq,newestQueued_cons] at hn
  unfold take
  split
  · rename_i hb
    rw [if_neg (by simp [validBoot,hb])] at hn
    exact { h with newest := hn }
  · rename_i hb
    have hb' : isBootEvent skb = true := by simpa using hb
    split
    · rename_i hv
      rw [if_pos (by simp [validBoot,hb',hv])] at hn
      exact {
        up := h.up
        allow := fun _ => hal
        newest := by
          rw [hn]
          cases newestQueued rest <;> rfl
        current := fun _ => rfl
        parsed := nofun
        low := nofun
        settled := nofun
        kept := h.kept }
    · rename_i hv
      rw [if_neg (by simp [validBoot,hv])] at hn
      exact {
        up := h.up
        allow := fun _ => hal
        newest := hn
        current := nofun
        parsed := nofun
        low := nofun
        settled := fun _ hr => h.settled (.inl hpc) hr
        kept := h.kept }

theorem Fresh.step {cfg : Cfg} {s s' : State} {act : Act} (h : Fresh cfg s) (hsafe : PurgeSafe s act)
    (hs : step cfg s act = some s') : Fresh cfg s' := by
  have hdown : ¬s.a.shuttingDown = true := by simp [h.up]
  cases act with
  | rx skb =>
    simp only [Bootup.step,if_neg hdown] at hs
    cases hs
    refine { h with newest := ?_ }
    simp only [newestQueued_append]
    by_cases hv : validBoot skb = true
    · simp [hv]
    · simpa [hv] using h.newest
  | dequeue =>
    simp only [Bootup.step,if_neg hdown] at hs
    split at hs
    · rename_i hpc hq
      cases hs
      exact take_fresh h hpc hq
    · cases hs
  | handle e =>
    refine h.handle (fun hpc => ?_) hs
    simpa [PurgeSafe,hpc] using hsafe
  | request fwReset =>
    simp only [Bootup.step,if_neg hdown] at hs
    cases hs
    obtain ⟨_,_,_,_,hal,hu,_,hb,_,hst⟩ := espScheduleRecovery_spec s.a fwReset h.up
    exact { h.meanwhile _ hu hal hb hst with }
  | arm =>
    simp only [Bootup.step] at hs
    split at hs
    · cases hs
    · cases hs
      exact { h.meanwhile {s.a with workArmed := true} h.up rfl rfl id with }
  | radioTake =>
    simp only [Bootup.step] at hs
    split at hs
    · cases hs
      exact { h.meanwhile {s.a with radioInitPending := false} h.up rfl rfl id with }
    · cases hs
  | radioFinish =>
    simp only [Bootup.step] at hs
    split at hs
    · cases hs
      obtain ⟨_,_,_,_,hal,hsh,_,hb,hst⟩ := espFinishReconstruction_frame s.a
      exact { h.meanwhile _ (hsh.trans h.up) hal hb (fun hr => hst.symm.trans hr) with }
    · cases hs

/-- No boot event was purged, and a `READY` adapter with none queued and none being
handled carries the metadata of the newest one received. -/
def State.NewestWins (cfg : Cfg) (s : State) : Prop :=
  s.purged = [] ∧
    (s.pc = .idle → s.queue.filter validBoot = [] → s.a.state = .ready →
      s.received.map (metaOf cfg) = some s.a.boot)

instance (cfg : Cfg) (s : State) : Decidable (s.NewestWins cfg) :=
  inferInstanceAs (Decidable (_ ∧ (_ → _ → _ → _)))

theorem Fresh.newestWins {cfg : Cfg} {s : State} (h : Fresh cfg s) : s.NewestWins cfg := by
  refine ⟨h.kept,?_⟩
  intro hpc hq hr
  obtain ⟨skb,ht,hb⟩ := h.settled (.inl hpc) hr
  rw [h.newest,newestQueued_eq_none hq,ht,hb]
  rfl

/-- A second incarnation boots once the first is up, a third while the second is
handled: after the purge, or before it. -/
def threeBoots (before after : Nat) : List Act :=
  ([.rx (bootSkb 0x00),.dequeue] : List Act) ++ steps 17 ++ ([.rx (bootSkb 0x0D),.dequeue] : List Act) ++ steps before ++
    ([.rx (bootSkb 0x17)] : List Act) ++ steps after

end EspHosted.Bootup
