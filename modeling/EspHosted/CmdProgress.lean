import EspHosted.CmdOwnership

/-!
Who starts `esp_cmd_work` for a command that waits. The worker takes one command a run, so
every other command depends on a caller that is done with its own and queues the worker
on its way out.
-/

set_option autoImplicit false

namespace EspHosted.Cmd
open EspHosted Run

/-- `esp_cmd_work` gets as far as `cur_cmd`. -/
def submitGate (f : Flags) : Bool :=
  f.driverActive && f.cmdInitDone && !f.transportRemoving && !(f.driverUnloading && !f.allowDeinit) &&
    !(f.cleanupInProgress && !f.allowDeinit && !f.allowReconstruct)

/-- The caller is past its wait, or need not wait any longer, and has `queue_work` ahead. -/
def WillKick (s : Engine) (t : Nat) : Prop :=
  match s.pc t with
  | .waiting n => (s.nodes n).completed = true
  | .quarantine _ => True
  | .woken _ _ => True
  | .settled _ _ => True
  | .recycle _ kick => kick = true
  | .putBack _ _ kick => kick = true
  | .retire _ kick => kick = true
  | .kick => True
  | _ => False

def Served (s : Engine) : Prop :=
  s.pending = [] ∨ s.cur ≠ none ∨ s.workQueued = true ∨ ∃ t, WillKick s t

/-- A change of the flags opens the gate only if somebody starts the worker, or nothing
needs it. -/
def OpensServed (s : Engine) : Action → Prop
  | .setFlags f => submitGate s.flags = false → submitGate f = true → Served s
  | _ => True

/-- A caller that does not move stays on its way. -/
theorem WillKick.frame {s s' : Engine} {t : Nat} (h : WillKick s t) (hpc : s'.pc t = s.pc t)
    (hnode : ∀ n, s.pc t = .waiting n → (s.nodes n).completed = true → (s'.nodes n).completed = true) :
    WillKick s' t := by
  unfold WillKick at h ⊢
  rw [hpc]
  cases hp : s.pc t <;> simp only [hp] at h ⊢
  · exact hnode _ hp h
  all_goals exact h

/-- What one step may do to the others without harm: `t` moves and `n` is its node. -/
theorem Served.frame {s s' : Engine} (h : Served s) (hpend : s'.pending = s.pending) (hcur : s'.cur = s.cur)
    (hwork : s'.workQueued = s.workQueued) (hkick : ∀ t, WillKick s t → ∃ r, WillKick s' r) : Served s' := by
  unfold Served
  rw [hpend,hcur,hwork]
  rcases h with h | h | h | ⟨t,h⟩
  · exact .inl h
  · exact .inr (.inl h)
  · exact .inr (.inr (.inl h))
  · exact .inr (.inr (.inr (hkick t h)))

/-- The caller `t` works on its own node and was not on its way. -/
theorem kickers_of_caller {s s' : Engine} (hinv : Inv s) {t : Nat} {n : NodeId} (ht : (s.pc t).node = some n)
    (hno : ¬WillKick s t) (hpc : ∀ r, r ≠ t → s'.pc r = s.pc r) (hnodes : ∀ m, m ≠ n → s'.nodes m = s.nodes m)
    (r : Nat) (hr : WillKick s r) : ∃ r, WillKick s' r := by
  have hrt : r ≠ t := by
    rintro rfl
    exact hno hr
  refine ⟨r,hr.frame (hpc r hrt) fun m hm hc => ?_⟩
  have hmn : m ≠ n := by
    rintro rfl
    exact hrt (hinv.holder_unique ht (by simp [hm,Pc.node]))
  rw [hnodes m hmn]
  exact hc

theorem served_getFreeCmdNode {s : Engine} (hinv : Inv s) (h : Served s) {t : Nat} (ht : s.pc t = .idle)
    (code : UInt8) (len : Nat) : Served (getFreeCmdNode s t code len) := by
  simp only [Cmd.getFreeCmdNode]
  split
  · exact h
  split
  · exact h
  rename_i n free hfree
  refine h.frame rfl rfl rfl fun r hr => ⟨r,hr.frame ?_ fun m hm hc => ?_⟩
  · have hrt : r ≠ t := by
      rintro rfl
      simp [WillKick,ht] at hr
    simp [Engine.setPc,Engine.modify,Function.update_of_ne hrt]
  · have hmn : m ≠ n := by
      rintro rfl
      have hnf : m ∉ s.free := hinv.not_free (t := r) (by simp [hm,Pc.node])
      simp [hfree] at hnf
    simpa [Engine.setPc,Engine.modify,Function.update_of_ne hmn] using hc

theorem served_prepare {s : Engine} (hinv : Inv s) (h : Served s) {t : Nat} {n : NodeId} {code : UInt8} {len : Nat}
    (ht : s.pc t = .allocated n code len) (tailroom : Nat) :
    Served (prepareCommandRequest s t n code len tailroom) := by
  have hnode : (s.pc t).node = some n := by simp [ht,Pc.node]
  have hno : ¬WillKick s t := by simp [WillKick,ht]
  simp only [Cmd.prepareCommandRequest]
  split
  all_goals
    refine h.frame rfl rfl rfl (kickers_of_caller hinv hnode hno (fun r hr => ?_) (fun m hm => ?_))
    · simp [Engine.setPc,Engine.modify,Function.update_of_ne hr]
    · simp [Engine.setPc,Engine.modify,Function.update_of_ne hm]

theorem served_queueCmdNode {s : Engine} (hinv : Inv s) (h : Served s) {t : Nat} {n : NodeId} (ht : s.pc t = .ready n)
    (highPrio waits : Bool) : Served (queueCmdNode s t n highPrio waits) := by
  have hnode : (s.pc t).node = some n := by simp [ht,Pc.node]
  have hno : ¬WillKick s t := by simp [WillKick,ht]
  simp only [Cmd.queueCmdNode]
  split
  · refine h.frame rfl rfl rfl (kickers_of_caller hinv hnode hno (fun r hr => ?_) (fun m hm => ?_))
    · simp [Engine.setPc,Engine.modify,Function.update_of_ne hr]
    · simp [Engine.setPc,Engine.modify,Function.update_of_ne hm]
  · exact .inr (.inr (.inl rfl))

theorem willKick_setPc {s : Engine} {t : Nat} {pc : Pc}
    (hpc : match pc with
      | .quarantine _ => True
      | .woken _ _ => True
      | .settled _ _ => True
      | .recycle _ kick => kick = true
      | .putBack _ _ kick => kick = true
      | .retire _ kick => kick = true
      | .kick => True
      | _ => False) : WillKick (s.setPc t pc) t := by
  cases pc <;> simp_all [WillKick,Engine.setPc]

theorem Served.of_kick {s : Engine} {t : Nat} (h : WillKick s t) : Served s := .inr (.inr (.inr ⟨t,h⟩))

theorem served_advance {s s' : Engine} (hinv : Inv s) (h : submitGate s.flags = true → Served s) {t : Nat}
    (hs : advance s t = some s') (hgate : submitGate s'.flags = true) : Served s' := by
  unfold Cmd.advance at hs
  split at hs
  · obtain rfl := Option.some.inj hs
    exact .of_kick (willKick_setPc trivial)
  · rename_i n ok ht
    obtain rfl := Option.some.inj hs
    simp only [Cmd.waitAndDecodeCmdResp]
    split
    · exact .of_kick (willKick_setPc trivial)
    · exact .of_kick (willKick_setPc trivial)
  · obtain rfl := Option.some.inj hs
    exact .of_kick (willKick_setPc rfl)
  · rename_i n kick ht
    have hpend := (hinv.stage ht rfl).2.2.1
    obtain rfl := Option.some.inj hs
    simp only [Cmd.resetCmdNode,hinv.flag_false hpend,Bool.false_eq_true,if_false] at hgate ⊢
    cases kick with
    | true => exact .of_kick (willKick_setPc rfl)
    | false =>
      refine (h hgate).frame rfl rfl rfl (kickers_of_caller hinv (t := t) (n := n) (by simp [ht,Pc.node])
        (by simp [WillKick,ht]) (fun r hr => ?_) (fun m hm => ?_))
      · simp [Engine.setPc,Engine.modify,Function.update_of_ne hr]
      · simp [Engine.setPc,Engine.modify,Function.update_of_ne hm]
  · rename_i n wasInUse kick ht
    obtain rfl := Option.some.inj hs
    cases kick with
    | true => exact .of_kick (willKick_setPc rfl)
    | false =>
      refine (h hgate).frame rfl rfl rfl (kickers_of_caller hinv (t := t) (n := n) (by simp [ht,Pc.node])
        (by simp [WillKick,ht]) (fun r hr => ?_) (fun m hm => rfl))
      simp [Engine.setPc,Function.update_of_ne hr]
  · rename_i wasInUse kick ht
    obtain rfl := Option.some.inj hs
    cases kick with
    | true => exact .of_kick (willKick_setPc trivial)
    | false =>
      refine (h hgate).frame rfl rfl rfl fun r hr => ⟨r,hr.frame ?_ fun m hm hc => hc⟩
      have hrt : r ≠ t := by
        rintro rfl
        simp [WillKick,ht] at hr
      simp [Engine.setPc,Function.update_of_ne hrt]
  · obtain rfl := Option.some.inj hs
    have hinit : s.flags.cmdInitDone = true := by
      simp only [submitGate,Engine.setPc,Bool.and_eq_true] at hgate
      exact hgate.1.1.1.2
    exact .inr (.inr (.inl (by simp [Engine.setPc,hinit])))
  · cases hs

theorem willKick_of_pending {s : Engine} (hinv : Inv s) {n : NodeId} (hn : n ∈ s.pending) (result : Int) :
    ∃ t, WillKick ((s.unlink n).modify n (Node.complete · result)) t := by
  obtain ⟨t,ht⟩ := hinv.holder (n := n) fun hf => (hinv.free n hf).2.1 hn
  have hwait : s.pc t = .waiting n := (hinv.task t n ht).waiting_of_pending ht hn
  refine ⟨t,?_⟩
  have hpc : ((s.unlink n).modify n (Node.complete · result)).pc t = .waiting n := hwait
  simp only [WillKick,hpc]
  simp [Node.complete]

theorem served_espCmdWork {s : Engine} (hinv : Inv s) (jiffies : Nat) (sent : Int)
    (hgate : submitGate s.flags = true) : Served (espCmdWork s jiffies sent) := by
  have hq := hinv.quiet s.flags false s.resets s.nextSeq
  simp only [Cmd.espCmdWork]
  split
  · rename_i hx
    simp [submitGate,hx] at hgate
  split
  · rename_i hx
    rcases hx with hx | hx | hx | hx <;> simp [submitGate,hx] at hgate
  split
  · rename_i hx
    exact .inr (.inl (by simpa [Option.isSome_iff_ne_none] using hx))
  split
  · rename_i hp
    exact .inl hp
  rename_i n rest hp
  have hn : n ∈ s.pending := by simp [hp]
  split
  · exact .inr (.inr (.inr (willKick_of_pending hq hn (-ESHUTDOWN))))
  split
  · exact .inr (.inr (.inr (willKick_of_pending hq hn (-EINVAL))))
  split
  · exact .inr (.inl (by simp [Engine.modify]))
  · exact .inr (.inl (by simp [Engine.modify]))

theorem Served.complete {s : Engine} (h : Served s) (n : NodeId) (f : Node → Node)
    (hf : (f (s.nodes n)).completed = true) : Served (s.modify n f) := by
  refine h.frame rfl rfl rfl fun r hr => ⟨r,hr.frame rfl fun m _ hc => ?_⟩
  by_cases hm : m = n
  · subst hm
    simpa using hf
  · simpa [Engine.modify,Function.update_of_ne hm] using hc

theorem served_processCmdResp {s : Engine} (h : Served s) (skb : Bytes) : Served (processCmdResp s skb) := by
  unfold Cmd.processCmdResp
  split
  · exact h
  split
  · exact h
  split
  · exact h
  split
  · exact h
  split
  · exact h
  split
  · exact h
  · exact h.complete _ _ rfl

theorem served_espCmdTransportFailed {s : Engine} (h : Served s) (code : UInt8) (seq : UInt16) (error : Int) :
    Served (espCmdTransportFailed s code seq error) := by
  unfold Cmd.espCmdTransportFailed
  split
  · exact h
  split
  · exact h
  split
  · exact h
  · exact h.complete _ _ rfl

theorem abortPending_pending (s : Engine) (q : List NodeId) (hq : s.pending = q) : (abortPending s q).pending = [] := by
  induction q generalizing s with
  | nil => exact hq
  | cons n q ih => exact ih _ (by simp [Engine.modify,Engine.unlink,hq])

theorem step_served {s s' : Engine} {a : Action} (hinv : Inv s) (h : submitGate s.flags = true → Served s)
    (hok : OpensServed s a) (hs : step s a = some s') (hgate : submitGate s'.flags = true) : Served s' := by
  cases a with
  | setFlags f =>
    obtain rfl := Option.some.inj hs
    have hserved : Served s := by
      cases hopen : submitGate s.flags with
      | false => exact hok hopen hgate
      | true => exact h hopen
    exact hserved.frame rfl rfl rfl fun r hr => ⟨r,hr.frame rfl fun _ _ hc => hc⟩
  | request t code len =>
    simp only [step] at hs
    split at hs
    · rename_i ht
      have hflags : (getFreeCmdNode s t code len).flags = s.flags := by
        simp only [Cmd.getFreeCmdNode]
        split
        · rfl
        · split <;> rfl
      obtain rfl := Option.some.inj hs
      exact served_getFreeCmdNode hinv (h (hflags ▸ hgate)) ht code len
    · cases hs
  | alloc t ok =>
    simp only [step] at hs
    split at hs
    · rename_i n code len ht
      have hno : ¬WillKick s t := by simp [WillKick,ht]
      cases ok with
      | true =>
        obtain rfl := Option.some.inj hs
        refine (h hgate).frame rfl rfl rfl (kickers_of_caller hinv (by simp [ht,Pc.node]; rfl) hno (fun r hr => ?_)
          (fun m hm => ?_))
        · simp [Engine.setPc,Engine.modify,Function.update_of_ne hr]
        · simp [Engine.setPc,Engine.modify,Function.update_of_ne hm]
      | false =>
        obtain rfl := Option.some.inj hs
        refine (h hgate).frame rfl rfl rfl fun r hr => ⟨r,hr.frame ?_ fun m _ hc => hc⟩
        have hrt : r ≠ t := by
          rintro rfl
          exact hno hr
        simp [Engine.setPc,Function.update_of_ne hrt]
    · cases hs
  | prepare t tailroom =>
    simp only [step] at hs
    split at hs
    · rename_i n code len ht
      have hflags : (prepareCommandRequest s t n code len tailroom).flags = s.flags := by
        simp only [Cmd.prepareCommandRequest]
        split <;> rfl
      obtain rfl := Option.some.inj hs
      exact served_prepare hinv (h (hflags ▸ hgate)) ht tailroom
    · cases hs
  | abandon t =>
    simp only [step] at hs
    split at hs
    · rename_i n ht
      obtain rfl := Option.some.inj hs
      refine (h hgate).frame rfl rfl rfl fun r hr => ⟨r,hr.frame ?_ fun m _ hc => hc⟩
      have hrt : r ≠ t := by
        rintro rfl
        simp [WillKick,ht] at hr
      simp [Engine.setPc,Function.update_of_ne hrt]
    · cases hs
  | queue t highPrio waits =>
    simp only [step] at hs
    split at hs
    · rename_i n ht
      have hflags : (queueCmdNode s t n highPrio waits).flags = s.flags := by
        simp only [Cmd.queueCmdNode]
        split <;> rfl
      obtain rfl := Option.some.inj hs
      exact served_queueCmdNode hinv (h (hflags ▸ hgate)) ht highPrio waits
    · cases hs
  | wake t =>
    simp only [step] at hs
    split at hs
    · split at hs
      · obtain rfl := Option.some.inj hs
        exact .of_kick (willKick_setPc trivial)
      · cases hs
    · cases hs
  | expire t =>
    simp only [step] at hs
    split at hs
    · obtain rfl := Option.some.inj hs
      simp only [Cmd.espCmdWaitEventGuard]
      split
      · exact .of_kick (willKick_setPc trivial)
      · split_ifs <;> exact .of_kick (willKick_setPc trivial)
    · cases hs
  | advance t => exact served_advance hinv h hs hgate
  | work jiffies sent =>
    have hflags : (espCmdWork s jiffies sent).flags = s.flags := by
      simp only [Cmd.espCmdWork]
      repeat' split
      all_goals rfl
    obtain rfl := Option.some.inj hs
    exact served_espCmdWork hinv jiffies sent (hflags ▸ hgate)
  | response skb =>
    have hflags : (processCmdResp s skb).flags = s.flags := by
      unfold Cmd.processCmdResp
      repeat' split
      all_goals rfl
    obtain rfl := Option.some.inj hs
    exact served_processCmdResp (h (hflags ▸ hgate)) skb
  | transportFailed code seq error =>
    have hflags : (espCmdTransportFailed s code seq error).flags = s.flags := by
      unfold Cmd.espCmdTransportFailed
      repeat' split
      all_goals rfl
    obtain rfl := Option.some.inj hs
    exact served_espCmdTransportFailed (h (hflags ▸ hgate)) code seq error
  | abortWaiters =>
    obtain rfl := Option.some.inj hs
    exact .inl (abortPending_pending _ _ rfl)

def OwnSteps (t : Nat) (as : List Action) : Prop := ∀ a ∈ as, a = .wake t ∨ a = .advance t

def Pc.toGo : Pc → Nat
  | .waiting _ => 7
  | .quarantine _ => 6
  | .woken _ _ => 5
  | .settled _ _ => 4
  | .recycle _ _ => 3
  | .putBack _ _ _ => 2
  | .retire _ _ => 1
  | _ => 0

theorem advance_closer {s s' : Engine} {t : Nat} (h : WillKick s t) (hinit : s.flags.cmdInitDone = true)
    (hs : advance s t = some s') :
    s'.workQueued = true ∨
      (WillKick s' t ∧ s'.flags.cmdInitDone = true ∧ (s'.pc t).toGo < (s.pc t).toGo) := by
  unfold Cmd.advance at hs
  unfold WillKick at h
  split at hs
  · rename_i n ht
    obtain rfl := Option.some.inj hs
    exact .inr ⟨willKick_setPc trivial,hinit,by simp [ht,Engine.setPc,Pc.toGo]⟩
  · rename_i n ok ht
    obtain rfl := Option.some.inj hs
    simp only [Cmd.waitAndDecodeCmdResp]
    split_ifs
    all_goals exact .inr ⟨willKick_setPc trivial,hinit,by simp [ht,Engine.setPc,Pc.toGo]⟩
  · rename_i n ret ht
    obtain rfl := Option.some.inj hs
    simp only [Cmd.decode]
    split_ifs
    all_goals exact .inr ⟨willKick_setPc rfl,hinit,by simp [ht,Engine.setPc,Pc.toGo]⟩
  · rename_i n kick ht
    obtain rfl := Option.some.inj hs
    simp only [ht] at h
    simp only [Cmd.resetCmdNode]
    split_ifs
    all_goals exact .inr ⟨willKick_setPc h,hinit,by simp [ht,Engine.setPc,Pc.toGo]⟩
  · rename_i n wasInUse kick ht
    obtain rfl := Option.some.inj hs
    simp only [ht] at h
    exact .inr ⟨willKick_setPc h,hinit,by simp [ht,Engine.setPc,Pc.toGo]⟩
  · rename_i wasInUse kick ht
    obtain rfl := Option.some.inj hs
    simp only [ht] at h
    subst h
    exact .inr ⟨willKick_setPc trivial,hinit,by simp [ht,Engine.setPc,Pc.toGo]⟩
  · obtain rfl := Option.some.inj hs
    exact .inl (by simp [Engine.setPc,hinit])
  · cases hs

/-- A caller on its way is never stuck, and closer to `queue_work` after each step. -/
theorem WillKick.next {s : Engine} {t : Nat} (h : WillKick s t) (hinit : s.flags.cmdInitDone = true) :
    ∃ a s', (a = .wake t ∨ a = .advance t) ∧ step s a = some s' ∧ (s'.workQueued = true ∨
      (WillKick s' t ∧ s'.flags.cmdInitDone = true ∧ (s'.pc t).toGo < (s.pc t).toGo)) := by
  by_cases hwait : ∃ n, s.pc t = .waiting n
  · obtain ⟨n,ht⟩ := hwait
    have hcomp : (s.nodes n).completed = true := by simpa [WillKick,ht] using h
    refine ⟨.wake t,s.setPc t (.woken n true),.inl rfl,by simp [step,ht,hcomp],.inr ⟨willKick_setPc trivial,hinit,?_⟩⟩
    simp [ht,Engine.setPc,Pc.toGo]
  · have hsome : ∃ s', advance s t = some s' := by
      cases ht : s.pc t <;> simp_all [WillKick,Cmd.advance]
    obtain ⟨s',hs⟩ := hsome
    exact ⟨.advance t,s',.inr rfl,hs,advance_closer h hinit hs⟩

theorem WillKick.kicks {s : Engine} {t : Nat} (h : WillKick s t) (hinit : s.flags.cmdInitDone = true) :
    ∃ as s', OwnSteps t as ∧ exec step s as = some s' ∧ s'.workQueued = true := by
  induction hk : (s.pc t).toGo using Nat.strong_induction_on generalizing s with
  | _ k ih =>
    obtain ⟨a,s',ha,hs,hrest⟩ := h.next hinit
    rcases hrest with hq | ⟨hw,hinit',hlt⟩
    · exact ⟨[a],s',by simpa [OwnSteps] using ha,by simp [exec,hs],hq⟩
    · obtain ⟨as,s'',hown,hrun,hq⟩ := ih _ (hk ▸ hlt) hw hinit' rfl
      refine ⟨a :: as,s'',fun b hb => ?_,by simpa [exec,hs] using hrun,hq⟩
      rcases List.mem_cons.mp hb with rfl | hb
      · exact ha
      · exact hown b hb

/-- Somebody will have queued `cmd_work`. -/
def Engine.Attended (s : Engine) : Prop :=
  s.workQueued = true ∨
    ∃ t, WillKick s t ∧ ∃ as s', OwnSteps t as ∧ exec step s as = some s' ∧ s'.workQueued = true

theorem pending_command_attended {as : List Action} {s : Engine} (h : exec step {} as = some s)
    (hok : Along step OpensServed {} as) (hcur : s.cur = none) (hpend : s.pending ≠ [])
    (hgate : submitGate s.flags = true) : s.Attended := by
  have hinv : Inv s ∧ (submitGate s.flags = true → Served s) :=
    exec_invariant_along (I := fun s => Inv s ∧ (submitGate s.flags = true → Served s))
      (fun _ _ _ hi hok hs => ⟨step_inv hi.1 hs,step_served hi.1 hi.2 hok hs⟩) hok ⟨inv_initial,fun _ => .inl rfl⟩ h
  have hinit : s.flags.cmdInitDone = true := by
    simp only [submitGate,Bool.and_eq_true] at hgate
    exact hgate.1.1.1.2
  rcases hinv.2 hgate with hx | hx | hx | ⟨t,hx⟩
  · exact absurd hx hpend
  · exact absurd hcur hx
  · exact .inl hx
  · exact .inr ⟨t,hx,hx.kicks hinit⟩

def behindRun : List Action :=
  [.request 0 CMD_SCAN_REQUEST 8,.alloc 0 true,.prepare 0 2048,.queue 0 false true,
   .request 1 CMD_ADD_KEY 8,.alloc 1 true,.prepare 1 2048,.queue 1 false true,.work 5 0,
   .response [CMD_SCAN_REQUEST,0,0,0,1,0,0,0],.wake 0,.advance 0]

theorem pending_command_attended_behind :
    ∃ s ∈ exec step {} behindRun, s.cur = none ∧ s.pending ≠ [] ∧ submitGate s.flags = true ∧
      s.workQueued = false ∧ s.Attended := by
  have h : ∃ s ∈ exec step {} behindRun, s.cur = none ∧ s.pending ≠ [] ∧ submitGate s.flags = true ∧
      s.workQueued = false := by
    decide +kernel
  obtain ⟨s,hs,hcur,hpend,hgate,hwork⟩ := h
  have hok : Along step OpensServed {} behindRun := .of_forall (by simp [behindRun,OpensServed]) _
  exact ⟨s,hs,hcur,hpend,hgate,hwork,pending_command_attended hs hok hcur hpend hgate⟩

/-- The worker runs while the driver cleans up; the end of the cleanup leaves the command. -/
def strandedRun : List Action :=
  [.request 0 CMD_SCAN_REQUEST 8,.alloc 0 true,.prepare 0 2048,.queue 0 false true,
   .setFlags {cleanupInProgress := true},.work 5 0,.setFlags {}]

theorem pending_command_stranded :
    ∃ s ∈ exec step {} strandedRun, s.cur = none ∧ s.pending ≠ [] ∧ submitGate s.flags = true ∧ ¬s.Attended := by
  have h : ∃ s, exec step {} strandedRun = some s ∧ (s.cur = none ∧ s.pending ≠ [] ∧ submitGate s.flags = true ∧
      s.workQueued = false ∧ ∃ n, s.pc 0 = .waiting n ∧ (s.nodes n).completed = false) ∧ ∀ t, s.pc (t+1) = .idle :=
    ⟨_,rfl,by decide +kernel,fun _ => rfl⟩
  obtain ⟨s,hs,⟨hcur,hpend,hgate,hwork,n,hpc,hcomp⟩,hidle⟩ := h
  refine ⟨s,hs,hcur,hpend,hgate,?_⟩
  rintro (hq | ⟨t,hk,-⟩)
  · simp [hwork] at hq
  · cases t with
    | zero => simp [WillKick,hpc,hcomp] at hk
    | succ t => simp [WillKick,hidle] at hk

end EspHosted.Cmd
