import EspHosted.CmdProgress

/-!
What the timeout of a command does to the rest. Between the decision and the release of
`cur_cmd` the caller holds no lock, so the other steps are shown to leave its node and its
slot alone.
-/

set_option autoImplicit false

namespace EspHosted.Cmd
open EspHosted Run

def Action.caller : Action → Option Nat
  | .request t _ _ => some t
  | .alloc t _ => some t
  | .prepare t _ => some t
  | .abandon t => some t
  | .queue t _ _ => some t
  | .wake t => some t
  | .expire t => some t
  | .advance t => some t
  | _ => none

/-- A step of somebody else, seen by the caller `t` of `n`: it does not move, a current node
stays current, and a node in neither queue is left alone. -/
structure Untouched (s s' : Engine) (t : Nat) (n : NodeId) : Prop where
  pc : s'.pc t = s.pc t
  takes : s'.takes n = s.takes n
  cur : s.cur = some n → s'.cur = some n
  node : n ∉ s.pending → s.cur ≠ some n → SameAt s s' n

theorem Untouched.refl (s : Engine) (t : Nat) (n : NodeId) : Untouched s s t n :=
  ⟨rfl,rfl,id,fun _ _ => SameAt.refl s n⟩

theorem Untouched.of_caller {s s' : Engine} {t r : Nat} {n : NodeId} {pc : Pc} (hne : t ≠ r)
    (hpc : s'.pc = Function.update s.pc r pc) (htakes : s'.takes n = s.takes n) (h : SameAt s s' n) :
    Untouched s s' t n :=
  ⟨by rw [hpc,Function.update_of_ne hne],htakes,h.2.2.mpr,fun _ _ => h⟩

theorem SameAt.setPc {s s' : Engine} {m : NodeId} (h : SameAt s s' m) {t : Nat} {pc : Pc} :
    SameAt s (s'.setPc t pc) m := h

theorem Inv.other_node {s : Engine} (h : Inv s) {t r : Nat} {n m : NodeId} (ht : (s.pc t).node = some n)
    (hr : (s.pc r).node = some m) (hne : t ≠ r) : n ≠ m := by
  rintro rfl
  exact hne (h.holder_unique hr ht)

/-- The loop moves no caller and takes nothing but the queue apart. -/
theorem abortPending_frame (s : Engine) (q : List NodeId) :
    (abortPending s q).pc = s.pc ∧ (abortPending s q).cur = s.cur ∧ (abortPending s q).resets = s.resets ∧
      (abortPending s q).takes = s.takes ∧ (abortPending s q).free = s.free ∧
      ∀ m, m ∉ q → SameAt s (abortPending s q) m := by
  induction q generalizing s with
  | nil => exact ⟨rfl,rfl,rfl,rfl,rfl,fun m _ => SameAt.refl s m⟩
  | cons n q ih =>
    obtain ⟨h1,h2,h3,h4,h5,h6⟩ := ih ((s.unlink n).modify n (Node.complete · (-ESHUTDOWN)))
    refine ⟨h1,h2,h3,h4,h5,fun m hm => ?_⟩
    obtain ⟨hmn,hmq⟩ : m ≠ n ∧ m ∉ q := by simpa using hm
    exact ((sameAt_unlink s n hmn).trans (sameAt_modify _ n _ hmn)).trans (h6 m hmq)

theorem untouched_getFreeCmdNode {s : Engine} (h : Inv s) {t r : Nat} {n : NodeId} (ht : (s.pc t).node = some n)
    (hne : t ≠ r) (code : UInt8) (len : Nat) : Untouched s (getFreeCmdNode s r code len) t n := by
  simp only [Cmd.getFreeCmdNode]
  split
  · exact Untouched.refl s t n
  split
  · exact Untouched.refl s t n
  rename_i m free hfree
  have hnm : n ≠ m := by
    rintro rfl
    exact h.not_free ht (by simp [hfree])
  refine Untouched.of_caller hne rfl ?_ ⟨?_,Iff.rfl,Iff.rfl⟩
  · simp [Engine.setPc,Engine.modify,Function.update_of_ne hnm]
  · simp [Engine.setPc,Engine.modify,Function.update_of_ne hnm]

theorem untouched_espCmdWaitEventGuard {s : Engine} {t r : Nat} {n m : NodeId} (hne : t ≠ r) (hnm : n ≠ m) :
    Untouched s (espCmdWaitEventGuard s r m) t n := by
  simp only [Cmd.espCmdWaitEventGuard]
  split
  · exact Untouched.of_caller hne rfl rfl (SameAt.refl s n)
  by_cases hp : (s.nodes m).inPendingQueue = true
  · simp only [hp,if_true]
    exact Untouched.of_caller hne rfl rfl ((sameAt_unlink s m hnm).trans (sameAt_modify _ m _ hnm)).setPc
  · simp only [hp]
    exact Untouched.of_caller hne rfl rfl (SameAt.refl s n)

theorem sameAt_release (s : Engine) {n m : NodeId} (hnm : n ≠ m) :
    SameAt s (if s.cur = some m then {s with cur := none} else s) n := by
  split
  · rename_i hcur
    exact ⟨rfl,Iff.rfl,by simpa [hcur] using fun hx => hnm hx.symm⟩
  · exact SameAt.refl s n

theorem sameAt_waitAndDecodeCmdResp (s : Engine) (t : Nat) {n m : NodeId} (hnm : n ≠ m) (ok : Bool) :
    SameAt s (waitAndDecodeCmdResp s t m ok) n := by
  have hrel := sameAt_release s hnm
  simp only [Cmd.waitAndDecodeCmdResp]
  generalize (if s.cur = some m then {s with cur := none} else s) = s₀ at hrel ⊢
  split
  · exact hrel.setPc
  split
  · exact ((hrel.trans (sameAt_unlink s₀ m hnm)).trans (sameAt_modify _ m _ hnm)).setPc
  · exact (hrel.trans (sameAt_modify _ m _ hnm)).setPc

theorem waitAndDecodeCmdResp_pc (s : Engine) (t : Nat) (n : NodeId) (ok : Bool) :
    (∃ pc, (waitAndDecodeCmdResp s t n ok).pc = Function.update s.pc t pc) ∧
      (waitAndDecodeCmdResp s t n ok).takes = s.takes := by
  simp only [Cmd.waitAndDecodeCmdResp]
  split_ifs
  all_goals exact ⟨⟨_,rfl⟩,rfl⟩

theorem untouched_advance {s s' : Engine} (h : Inv s) {t r : Nat} {n : NodeId} (ht : (s.pc t).node = some n)
    (hne : t ≠ r) (hs : advance s r = some s') : Untouched s s' t n := by
  unfold Cmd.advance at hs
  split at hs
  · exact Option.some.inj hs ▸ Untouched.of_caller hne rfl rfl (SameAt.refl s n)
  · rename_i m ok hr
    have hnm := h.other_node ht (r := r) (m := m) (by simp [hr,Pc.node]) hne
    obtain ⟨⟨pc,hpc⟩,htakes⟩ := waitAndDecodeCmdResp_pc s r m ok
    exact Option.some.inj hs ▸ Untouched.of_caller hne hpc (by rw [htakes]) (sameAt_waitAndDecodeCmdResp s r hnm ok)
  · obtain rfl := Option.some.inj hs
    simp only [Cmd.decode]
    split <;> exact Untouched.of_caller hne rfl rfl (SameAt.refl s n)
  · rename_i m kick hr
    have hnm := h.other_node ht (r := r) (m := m) (by simp [hr,Pc.node]) hne
    have hpend := (h.stage hr rfl).2.2.1
    obtain rfl := Option.some.inj hs
    simp only [Cmd.resetCmdNode,h.flag_false hpend,Bool.false_eq_true,if_false]
    refine Untouched.of_caller hne rfl rfl ⟨?_,Iff.rfl,Iff.rfl⟩
    simp [Engine.setPc,Engine.modify,Function.update_of_ne hnm]
  · exact Option.some.inj hs ▸ Untouched.of_caller hne rfl rfl (SameAt.refl s n)
  · exact Option.some.inj hs ▸ Untouched.of_caller hne rfl rfl (SameAt.refl s n)
  · exact Option.some.inj hs ▸ Untouched.of_caller hne rfl rfl (SameAt.refl s n)
  · cases hs

theorem untouched_espCmdWork {s : Engine} {t : Nat} {n : NodeId} (jiffies : Nat) (sent : Int) :
    Untouched s (espCmdWork s jiffies sent) t n := by
  have hq : Untouched s {s with workQueued := false} t n := ⟨rfl,rfl,id,fun _ _ => SameAt.refl s n⟩
  simp only [Cmd.espCmdWork]
  split
  · exact hq
  split
  · exact hq
  split
  · exact hq
  rename_i hcur
  have hnone : s.cur = none := by simpa using hcur
  split
  · exact hq
  rename_i m rest hp
  have hmem : m ∈ s.pending := by
    have hx : s.pending = m :: rest := hp
    simp [hx]
  have hne : n ∉ s.pending → n ≠ m := by
    rintro hn rfl
    exact hn hmem
  split
  · exact ⟨rfl,rfl,id,fun hn _ => (sameAt_unlink _ m (hne hn)).trans (sameAt_modify _ m _ (hne hn))⟩
  split
  · exact ⟨rfl,rfl,id,fun hn _ => (sameAt_unlink _ m (hne hn)).trans (sameAt_modify _ m _ (hne hn))⟩
  have hcur' : s.cur ≠ some n := by simp [hnone]
  split
  all_goals
    refine ⟨rfl,rfl,fun hx => absurd hx hcur',fun hn _ => ⟨?_,List.mem_erase_of_ne (hne hn),?_⟩⟩
    · simp [Engine.modify,Engine.unlink,Function.update_of_ne (hne hn)]
    · simpa [Engine.modify,Engine.unlink,hnone] using fun hx => hne hn hx.symm

/-- A step that writes to the current node only. -/
theorem untouched_modify_cur {s : Engine} {t : Nat} {n m : NodeId} (hcur : s.cur = some m) (f : Node → Node) :
    Untouched s (s.modify m f) t n := by
  refine ⟨rfl,rfl,id,fun _ hn => sameAt_modify s m f ?_⟩
  rintro rfl
  exact hn hcur

theorem untouched_espCmdAbortWaiters {s : Engine} {t : Nat} {n : NodeId} :
    Untouched s (espCmdAbortWaiters s) t n := by
  have hloop : ∀ r : Engine, r.pending = s.pending → Untouched s r t n → Untouched s (abortPending r r.pending) t n := by
    intro r hr hu
    obtain ⟨h1,h2,-,h4,-,h6⟩ := abortPending_frame r r.pending
    refine ⟨h1 ▸ hu.pc,h4 ▸ hu.takes,h2 ▸ hu.cur,fun hn hc => ?_⟩
    exact (hu.node hn hc).trans (h6 n (hr ▸ hn))
  unfold Cmd.espCmdAbortWaiters
  cases hcur : s.cur with
  | none => exact hloop s rfl (Untouched.refl s t n)
  | some m =>
    simp only [Option.elim]
    split
    · exact hloop _ rfl (untouched_modify_cur hcur _)
    · exact hloop s rfl (Untouched.refl s t n)

theorem step_other {s s' : Engine} {a : Action} (h : Inv s) {t : Nat} {n : NodeId} (ht : (s.pc t).node = some n)
    (ha : a.caller ≠ some t) (hs : step s a = some s') : Untouched s s' t n := by
  have hother : ∀ {r}, a.caller = some r → t ≠ r := by
    rintro r hr rfl
    exact ha hr
  cases a with
  | setFlags f => exact Option.some.inj hs ▸ ⟨rfl,rfl,id,fun _ _ => SameAt.refl s n⟩
  | request r code len =>
    simp only [step] at hs
    split at hs
    · exact Option.some.inj hs ▸ untouched_getFreeCmdNode h ht (hother rfl) code len
    · cases hs
  | alloc r ok =>
    simp only [step] at hs
    split at hs
    · rename_i m code len hr
      have hnm := h.other_node ht (r := r) (m := m) (by simp [hr,Pc.node]) (hother rfl)
      split at hs
      · exact Option.some.inj hs ▸ Untouched.of_caller (hother rfl) rfl rfl (sameAt_modify s m _ hnm).setPc
      · exact Option.some.inj hs ▸ Untouched.of_caller (hother rfl) rfl rfl (SameAt.refl s n)
    · cases hs
  | prepare r tailroom =>
    simp only [step] at hs
    split at hs
    · rename_i m code len hr
      have hnm := h.other_node ht (r := r) (m := m) (by simp [hr,Pc.node]) (hother rfl)
      obtain rfl := Option.some.inj hs
      simp only [Cmd.prepareCommandRequest]
      split
      all_goals
        refine Untouched.of_caller (hother rfl) rfl rfl ⟨?_,Iff.rfl,Iff.rfl⟩
        simp [Engine.setPc,Engine.modify,Function.update_of_ne hnm]
    · cases hs
  | abandon r =>
    simp only [step] at hs
    split at hs
    · exact Option.some.inj hs ▸ Untouched.of_caller (hother rfl) rfl rfl (SameAt.refl s n)
    · cases hs
  | queue r highPrio waits =>
    simp only [step] at hs
    split at hs
    · rename_i m hr
      have hnm := h.other_node ht (r := r) (m := m) (by simp [hr,Pc.node]) (hother rfl)
      obtain rfl := Option.some.inj hs
      simp only [Cmd.queueCmdNode]
      split
      · exact Untouched.of_caller (hother rfl) rfl rfl (sameAt_modify s m _ hnm).setPc
      · refine Untouched.of_caller (hother rfl) rfl rfl ⟨?_,?_,Iff.rfl⟩
        · simp [Engine.setPc,Engine.modify,Function.update_of_ne hnm]
        · cases highPrio <;> simp [Engine.setPc,Engine.modify,hnm]
    · cases hs
  | wake r =>
    simp only [step] at hs
    split at hs
    · split at hs
      · exact Option.some.inj hs ▸ Untouched.of_caller (hother rfl) rfl rfl (SameAt.refl s n)
      · cases hs
    · cases hs
  | expire r =>
    simp only [step] at hs
    split at hs
    · rename_i m hr
      have hnm := h.other_node ht (r := r) (m := m) (by simp [hr,Pc.node]) (hother rfl)
      exact Option.some.inj hs ▸ untouched_espCmdWaitEventGuard (hother rfl) hnm
    · cases hs
  | advance r => exact untouched_advance h ht (hother rfl) hs
  | work jiffies sent => exact Option.some.inj hs ▸ untouched_espCmdWork jiffies sent
  | response skb =>
    obtain rfl := Option.some.inj hs
    unfold Cmd.processCmdResp
    split_ifs
    · exact Untouched.refl s t n
    · exact Untouched.refl s t n
    · exact Untouched.refl s t n
    split
    · exact Untouched.refl s t n
    rename_i m hcur
    split_ifs
    · exact Untouched.refl s t n
    · exact Untouched.refl s t n
    · exact untouched_modify_cur hcur _
  | transportFailed code seq error =>
    obtain rfl := Option.some.inj hs
    unfold Cmd.espCmdTransportFailed
    split
    · exact Untouched.refl s t n
    rename_i m hcur
    split_ifs
    · exact Untouched.refl s t n
    · exact Untouched.refl s t n
    · exact untouched_modify_cur hcur _
    · exact untouched_modify_cur hcur _
  | abortWaiters => exact Option.some.inj hs ▸ untouched_espCmdAbortWaiters

/-- What no timeout, completion or queue changes of a command. -/
structure Same (nd nd' : Node) : Prop where
  code : nd'.cmdCode = nd.cmdCode
  seq : nd'.cmdSeq = nd.cmdSeq
  resp : nd'.respSkb = nd.respSkb
  sentAt : nd'.sentAt = nd.sentAt
  queued : nd'.queued = false → nd.queued = false

/-- Why a node is different after a step. -/
inductive NodeStep (s s' : Engine) (a : Action) (n : NodeId) : Prop where
  | keep (same : Same (s.nodes n) (s'.nodes n)) (completed : (s'.nodes n).completed = (s.nodes n).completed)
      (result : (s'.nodes n).result = (s.nodes n).result)
      (pending : n ∈ s'.pending → n ∈ s.pending ∨ (s.nodes n).queued = false)
      (cur : s'.cur = some n → s.cur = some n)
  | fail (same : Same (s.nodes n) (s'.nodes n)) (fresh : (s.nodes n).completed = false)
      (completed : (s'.nodes n).completed = true) (result : (s'.nodes n).result ≠ 0) (pending : n ∉ s'.pending)
      (cur : s'.cur = some n → s.cur = some n)
  | prepare (t : Nat) (code : UInt8) (len tailroom : Nat) (act : a = .prepare t tailroom)
      (pc : s.pc t = .allocated n code len)
      (node : s'.nodes n = {s.nodes n with cmdCode := code, cmdSeq := nextCmdSeq s.nextSeq, completed := false, result := 0})
      (pending : n ∉ s'.pending) (cur : s'.cur ≠ some n)
  | submit (jiffies : Nat) (sent : Int) (act : a = .work jiffies sent) (none : s.cur = none)
      (first : s.pending.head? = some n) (admitted : espCmdIsAdmitted s.flags (s.nodes n).cmdCode = true)
      (gate : submitGate s.flags = true) (code : (s.nodes n).cmdCode ≠ 0)
      (node : s'.nodes n =
        if sent ≠ 0 then Node.complete {s.nodes n with inPendingQueue := false, sentAt := jiffies, cmdSkb := false} sent
        else {s.nodes n with inPendingQueue := false, sentAt := jiffies, cmdSkb := false})
      (pending : n ∉ s'.pending) (cur : s'.cur = some n)
  | answer (skb : Bytes) (act : a = .response skb) (current : s.cur = some n)
      (code : respCode skb = (s.nodes n).cmdCode) (seq : respSeq skb = (s.nodes n).cmdSeq)
      (fresh : (s.nodes n).completed = false) (empty : (s.nodes n).respSkb = none)
      (node : s'.nodes n = Node.complete {s.nodes n with respSkb := some skb} 0)
      (pending : s'.pending = s.pending) (cur : s'.cur = s.cur)
  | recycle (t : Nat) (kick : Bool) (act : a = .advance t) (pc : s.pc t = .recycle n kick) (node : s'.nodes n = {})
      (pending : n ∉ s'.pending) (cur : s'.cur ≠ some n)

theorem Same.refl (nd : Node) : Same nd nd := ⟨rfl,rfl,rfl,rfl,id⟩

theorem NodeStep.of_sameAt {s s' : Engine} {a : Action} {n : NodeId} (h : SameAt s s' n) : NodeStep s s' a n := by
  obtain ⟨h1,h2,h3⟩ := h
  refine .keep ?_ ?_ ?_ (fun hp => .inl (h2.mp hp)) h3.mp
  · rw [h1]
    exact Same.refl _
  · rw [h1]
  · rw [h1]

theorem NodeStep.unlinked {s s' : Engine} {a : Action} {n : NodeId} (h : Inv s) (hn : n ∈ s.pending) {r : Int} (hr : r ≠ 0)
    (hnode : s'.nodes n = Node.complete {s.nodes n with inPendingQueue := false} r) (hpend : n ∉ s'.pending)
    (hcur : s'.cur = s.cur) : NodeStep s s' a n := by
  refine .fail ?_ ((h.node n).fresh hn).1 ?_ ?_ hpend (by rw [hcur]; exact id)
  · rw [hnode]
    exact ⟨rfl,rfl,rfl,rfl,id⟩
  · rw [hnode]
    rfl
  · rw [hnode]
    exact hr

theorem NodeStep.failed {s s' : Engine} {a : Action} {n : NodeId} (hfresh : (s.nodes n).completed = false) {r : Int}
    (hr : r ≠ 0) (hnode : s'.nodes n = Node.complete (s.nodes n) r) (hpend : n ∉ s'.pending)
    (hcur : s'.cur = some n → s.cur = some n) : NodeStep s s' a n := by
  refine .fail ?_ hfresh ?_ ?_ hpend hcur
  · rw [hnode]
    exact ⟨rfl,rfl,rfl,rfl,id⟩
  · rw [hnode]
    rfl
  · rw [hnode]
    exact hr

theorem nodeStep_request {s : Engine} {a : Action} (t : Nat) (code : UInt8) (len : Nat) (n : NodeId) :
    NodeStep s (getFreeCmdNode s t code len) a n := by
  simp only [Cmd.getFreeCmdNode]
  split
  · exact .of_sameAt (SameAt.refl s n)
  split
  · exact .of_sameAt (SameAt.refl s n)
  rename_i m free hfree
  by_cases hnm : n = m
  · subst hnm
    refine .keep ?_ ?_ ?_ .inl id <;> simp only [Engine.setPc,modify_nodes]
    exact ⟨rfl,rfl,rfl,rfl,id⟩
  · refine .of_sameAt ⟨?_,Iff.rfl,Iff.rfl⟩
    simp [Engine.setPc,Engine.modify,Function.update_of_ne hnm]

theorem nodeStep_prepare {s : Engine} (h : Inv s) {t : Nat} {m : NodeId} {code : UInt8} {len : Nat}
    (ht : s.pc t = .allocated m code len) (tailroom : Nat) (n : NodeId) :
    NodeStep s (prepareCommandRequest s t m code len tailroom) (.prepare t tailroom) n := by
  obtain ⟨-,-,-,hpend,hcur⟩ := h.stage ht rfl
  simp only [Cmd.prepareCommandRequest]
  by_cases hnm : n = m
  · subst hnm
    split
    all_goals exact .prepare t code len tailroom rfl ht (by simp [Engine.setPc]) hpend hcur
  · split
    all_goals
      refine .of_sameAt ⟨?_,Iff.rfl,Iff.rfl⟩
      simp [Engine.setPc,Engine.modify,Function.update_of_ne hnm]

theorem nodeStep_queue {s : Engine} (h : Inv s) {a : Action} {t : Nat} {m : NodeId} (ht : s.pc t = .ready m)
    (highPrio waits : Bool) (n : NodeId) : NodeStep s (queueCmdNode s t m highPrio waits) a n := by
  obtain ⟨-,hcomp,hqueued,hpend,hcur⟩ := h.stage ht rfl
  simp only [Cmd.queueCmdNode]
  by_cases hnm : n = m
  · subst hnm
    split
    · refine .fail ?_ hcomp ?_ ?_ hpend id <;> simp only [Engine.setPc,modify_nodes]
      · exact ⟨rfl,rfl,rfl,rfl,fun hx => by cases hx⟩
      · rfl
      · exact (by decide : -ESHUTDOWN ≠ 0)
    · refine .keep ?_ ?_ ?_ (fun _ => .inr hqueued) id <;> simp only [Engine.setPc,modify_nodes]
      exact ⟨rfl,rfl,rfl,rfl,fun hx => by cases hx⟩
  · split
    · exact .of_sameAt (sameAt_modify s m _ hnm).setPc
    · refine .of_sameAt ⟨?_,?_,Iff.rfl⟩
      · simp [Engine.setPc,Engine.modify,Function.update_of_ne hnm]
      · cases highPrio <;> simp [Engine.setPc,Engine.modify,hnm]

theorem nodeStep_expire {s : Engine} (h : Inv s) {a : Action} {t : Nat} {m : NodeId} (n : NodeId) :
    NodeStep s (espCmdWaitEventGuard s t m) a n := by
  simp only [Cmd.espCmdWaitEventGuard]
  split
  · exact .of_sameAt (SameAt.refl s n)
  by_cases hp : (s.nodes m).inPendingQueue = true
  · simp only [hp,if_true]
    by_cases hnm : n = m
    · subst hnm
      refine .unlinked h ((h.node n).flag.mp hp) (r := -ETIMEDOUT) (by decide) ?_ (h.not_mem_erase n) rfl
      simp [Engine.setPc]
    · exact .of_sameAt ((sameAt_unlink s m hnm).trans (sameAt_modify _ m _ hnm)).setPc
  · simp only [hp]
    exact .of_sameAt (SameAt.refl s n)

theorem nodeStep_waitAndDecode {s : Engine} (h : Inv s) {a : Action} {t : Nat} {m : NodeId} {ok : Bool}
    (ht : s.pc t = .woken m ok) (n : NodeId) : NodeStep s (waitAndDecodeCmdResp s t m ok) a n := by
  by_cases hnm : n = m
  · subst hnm
    obtain ⟨-,-,hpend,-,-⟩ := h.stage ht rfl
    have hflag := h.flag_false hpend
    have hcur : ∀ x : Engine, x = (if s.cur = some n then {s with cur := none} else s) →
        x.nodes = s.nodes ∧ x.pending = s.pending ∧ (x.cur = some n → s.cur = some n) := by
      rintro x rfl
      split
      · exact ⟨rfl,rfl,fun hx => by cases hx⟩
      · exact ⟨rfl,rfl,id⟩
    simp only [Cmd.waitAndDecodeCmdResp,hflag,Bool.false_eq_true,if_false]
    obtain ⟨h1,h2,h3⟩ := hcur _ rfl
    split
    · refine .keep ?_ ?_ ?_ (fun hx => .inl ?_) h3
      · simp only [Engine.setPc,h1]
        exact Same.refl _
      · simp only [Engine.setPc,h1]
      · simp only [Engine.setPc,h1]
      · exact h2 ▸ hx
    · rename_i hdone
      have hfresh : (s.nodes n).completed = false := by simpa using fun hx => hdone (.inr hx)
      refine .failed hfresh (r := -ETIMEDOUT) (by decide) ?_ (fun hx => hpend (h2 ▸ hx)) h3
      simp only [Engine.setPc,modify_nodes,h1]
  · exact .of_sameAt (sameAt_waitAndDecodeCmdResp s t hnm ok)

theorem nodeStep_advance {s s' : Engine} (h : Inv s) {t : Nat} (hs : advance s t = some s') (n : NodeId) :
    NodeStep s s' (.advance t) n := by
  unfold Cmd.advance at hs
  split at hs
  · exact Option.some.inj hs ▸ .of_sameAt (SameAt.refl s n)
  · rename_i m ok ht
    exact Option.some.inj hs ▸ nodeStep_waitAndDecode h ht n
  · obtain rfl := Option.some.inj hs
    simp only [Cmd.decode]
    split <;> exact .of_sameAt (SameAt.refl s n)
  · rename_i m kick ht
    obtain ⟨-,-,hpend,hcur⟩ := h.stage ht rfl
    obtain rfl := Option.some.inj hs
    simp only [Cmd.resetCmdNode,h.flag_false hpend,Bool.false_eq_true,if_false]
    by_cases hnm : n = m
    · subst hnm
      exact .recycle t kick rfl ht (by simp [Engine.setPc]) hpend hcur
    · refine .of_sameAt ⟨?_,Iff.rfl,Iff.rfl⟩
      simp [Engine.setPc,Engine.modify,Function.update_of_ne hnm]
  · exact Option.some.inj hs ▸ .of_sameAt (SameAt.refl s n)
  · exact Option.some.inj hs ▸ .of_sameAt (SameAt.refl s n)
  · exact Option.some.inj hs ▸ .of_sameAt (SameAt.refl s n)
  · cases hs

theorem nodeStep_work {s : Engine} (h : Inv s) (jiffies : Nat) (sent : Int) (n : NodeId) :
    NodeStep s (espCmdWork s jiffies sent) (.work jiffies sent) n := by
  have hq : NodeStep s {s with workQueued := false} (.work jiffies sent) n := .of_sameAt (SameAt.refl s n)
  simp only [Cmd.espCmdWork]
  split
  · exact hq
  rename_i hactive
  split
  · exact hq
  rename_i hopen
  split
  · exact hq
  rename_i hcur
  have hnone : s.cur = none := by simpa using hcur
  split
  · exact hq
  rename_i m rest hp
  have hfirst : s.pending = m :: rest := hp
  have hmem : m ∈ s.pending := by simp [hfirst]
  by_cases hnm : n = m
  · subst hnm
    split
    · refine .unlinked h hmem (r := -ESHUTDOWN) (by decide) ?_ (h.not_mem_erase n) rfl
      simp
    rename_i hadm
    split
    · refine .unlinked h hmem (r := -EINVAL) (by decide) ?_ (h.not_mem_erase n) rfl
      simp
    rename_i hempty
    have hcode : (s.nodes n).cmdCode ≠ 0 := fun hx => hempty (.inr hx)
    have hgate : submitGate s.flags = true := by
      simp only [not_or,not_and,Bool.not_eq_false,Bool.not_eq_true] at hactive hopen
      obtain ⟨hinit,hremove,hunload,hclean⟩ := hopen
      simp only [submitGate,hactive,hinit,hremove]
      cases hu : s.flags.driverUnloading <;> cases hc : s.flags.cleanupInProgress <;>
        cases hd : s.flags.allowDeinit <;> simp_all
    have hadmitted : espCmdIsAdmitted s.flags (s.nodes n).cmdCode = true := by simpa using hadm
    split
    · rename_i hsent
      refine .submit jiffies sent rfl hnone (by simp [hfirst]) hadmitted hgate hcode ?_ (h.not_mem_erase n) rfl
      simp [hsent]
    · rename_i hsent
      refine .submit jiffies sent rfl hnone (by simp [hfirst]) hadmitted hgate hcode ?_ (h.not_mem_erase n) rfl
      simp [hsent]
  · have hun : SameAt s (Engine.unlink {s with workQueued := false} m) n := sameAt_unlink {s with workQueued := false} m hnm
    split
    · exact .of_sameAt (hun.trans (sameAt_modify _ m _ hnm))
    split
    · exact .of_sameAt (hun.trans (sameAt_modify _ m _ hnm))
    split
    all_goals
      refine .of_sameAt ⟨?_,List.mem_erase_of_ne hnm,?_⟩
      · simp [Engine.modify,Engine.unlink,Function.update_of_ne hnm]
      · simpa [Engine.modify,Engine.unlink,hnone] using fun hx => hnm hx.symm

theorem abortPending_nodes (s : Engine) {q : List NodeId} (hq : q.Nodup) {n : NodeId} (hn : n ∈ q) :
    (abortPending s q).nodes n = Node.complete {s.nodes n with inPendingQueue := false} (-ESHUTDOWN) := by
  induction q generalizing s with
  | nil => simp at hn
  | cons m q ih =>
    obtain ⟨hm,hq⟩ := List.nodup_cons.mp hq
    rcases List.mem_cons.mp hn with rfl | hnq
    · have hsame := (abortPending_frame ((s.unlink n).modify n (Node.complete · (-ESHUTDOWN))) q).2.2.2.2.2 n hm
      simp only [abortPending,hsame.1,modify_nodes,unlink_nodes]
    · have hne : n ≠ m := by
        rintro rfl
        exact hm hnq
      rw [abortPending,ih _ hq hnq]
      simp [Engine.modify,Engine.unlink,Function.update_of_ne hne]

theorem nodeStep_abortWaiters {s : Engine} (h : Inv s) {a : Action} (n : NodeId) :
    NodeStep s (espCmdAbortWaiters s) a n := by
  have hqueue : ∀ r : Engine, r.pending = s.pending → r.cur = s.cur → r.nodes n = s.nodes n →
      NodeStep s (abortPending r r.pending) a n := by
    intro r hpend hcur hnode
    have hnil := abortPending_pending r r.pending rfl
    obtain ⟨-,hcur',-,-,-,hsame⟩ := abortPending_frame r r.pending
    by_cases hn : n ∈ s.pending
    · refine .unlinked h hn (r := -ESHUTDOWN) (by decide) ?_ (by simp [hnil]) (hcur'.trans hcur)
      rw [abortPending_nodes r (hpend ▸ h.pending) (hpend ▸ hn),hnode]
    · obtain ⟨h1,h2,h3⟩ := hsame n (hpend ▸ hn)
      exact .of_sameAt ⟨h1.trans hnode,by rw [h2,hpend],by rw [h3,hcur]⟩
  unfold Cmd.espCmdAbortWaiters
  cases hcur : s.cur with
  | none => exact hqueue s rfl rfl rfl
  | some m =>
    simp only [Option.elim]
    split
    · rename_i hfresh
      by_cases hnm : n = m
      · subst hnm
        have hn : n ∉ s.pending := fun hx => ((h.node n).fresh hx).2 hcur
        obtain ⟨-,-,-,-,-,hsame⟩ := abortPending_frame (s.modify n (Node.complete · (-ESHUTDOWN))) s.pending
        obtain ⟨h1,h2,-⟩ := hsame n hn
        refine .failed hfresh (r := -ESHUTDOWN) (by decide) (h1.trans ?_) (fun hx => hn (h2.mp hx)) (fun _ => hcur)
        simp
      · exact hqueue _ rfl rfl (by simp [Engine.modify,Function.update_of_ne hnm])
    · exact hqueue s rfl rfl rfl

theorem step_node {s s' : Engine} {a : Action} (h : Inv s) (hs : step s a = some s') (n : NodeId) :
    NodeStep s s' a n := by
  cases a with
  | setFlags f => exact Option.some.inj hs ▸ .of_sameAt (SameAt.refl s n)
  | request t code len =>
    simp only [step] at hs
    split at hs
    · exact Option.some.inj hs ▸ nodeStep_request t code len n
    · cases hs
  | alloc t ok =>
    simp only [step] at hs
    split at hs
    · rename_i m code len ht
      split at hs
      · obtain rfl := Option.some.inj hs
        by_cases hnm : n = m
        · subst hnm
          refine .keep ?_ ?_ ?_ .inl id <;> simp only [Engine.setPc,modify_nodes]
          exact ⟨rfl,rfl,rfl,rfl,id⟩
        · exact .of_sameAt (sameAt_modify s m _ hnm).setPc
      · exact Option.some.inj hs ▸ .of_sameAt (SameAt.refl s n)
    · cases hs
  | prepare t tailroom =>
    simp only [step] at hs
    split at hs
    · rename_i m code len ht
      exact Option.some.inj hs ▸ nodeStep_prepare h ht tailroom n
    · cases hs
  | abandon t =>
    simp only [step] at hs
    split at hs
    · exact Option.some.inj hs ▸ .of_sameAt (SameAt.refl s n)
    · cases hs
  | queue t highPrio waits =>
    simp only [step] at hs
    split at hs
    · rename_i m ht
      exact Option.some.inj hs ▸ nodeStep_queue h ht highPrio waits n
    · cases hs
  | wake t =>
    simp only [step] at hs
    split at hs
    · split at hs
      · exact Option.some.inj hs ▸ .of_sameAt (SameAt.refl s n)
      · cases hs
    · cases hs
  | expire t =>
    simp only [step] at hs
    split at hs
    · exact Option.some.inj hs ▸ nodeStep_expire h n
    · cases hs
  | advance t => exact nodeStep_advance h hs n
  | work jiffies sent => exact Option.some.inj hs ▸ nodeStep_work h jiffies sent n
  | response skb =>
    obtain rfl := Option.some.inj hs
    unfold Cmd.processCmdResp
    split_ifs
    · exact .of_sameAt (SameAt.refl s n)
    · exact .of_sameAt (SameAt.refl s n)
    · exact .of_sameAt (SameAt.refl s n)
    split
    · exact .of_sameAt (SameAt.refl s n)
    rename_i m hcur
    split_ifs with hmatch hdone
    · exact .of_sameAt (SameAt.refl s n)
    · exact .of_sameAt (SameAt.refl s n)
    · by_cases hnm : n = m
      · subst hnm
        simp only [not_or,ne_eq,not_not] at hmatch hdone
        refine .answer skb rfl hcur hmatch.1 hmatch.2 (by simpa using hdone.1) (by simpa using hdone.2) ?_ rfl rfl
        simp
      · exact .of_sameAt (sameAt_modify s m _ hnm)
  | transportFailed code seq error =>
    obtain rfl := Option.some.inj hs
    unfold Cmd.espCmdTransportFailed
    split
    · exact .of_sameAt (SameAt.refl s n)
    rename_i m hcur
    split_ifs with hmatch hdone herr
    · exact .of_sameAt (SameAt.refl s n)
    · exact .of_sameAt (SameAt.refl s n)
    all_goals
      by_cases hnm : n = m
      · subst hnm
        have hn : n ∉ s.pending := fun hx => ((h.node n).fresh hx).2 hcur
        have hfresh : (s.nodes n).completed = false := by simpa using fun hx => hdone (.inl hx)
        first
          | exact .failed hfresh herr (by simp) hn id
          | exact .failed hfresh (r := - EIO) (by decide) (by simp) hn id
      · exact .of_sameAt (sameAt_modify s m _ hnm)
  | abortWaiters => exact Option.some.inj hs ▸ nodeStep_abortWaiters h n

/-- No ambiguous command goes out at the tick that `sent_at` cannot tell from "not sent". -/
def stampsSubmission (s : Engine) : Action → Bool
  | .work jiffies sent =>
    jiffies ≠ 0 || sent ≠ 0 || !submitGate s.flags || s.cur.isSome || s.pending.head?.all fun n =>
      !(espCmdIsAdmitted s.flags (s.nodes n).cmdCode && espCmdTimeoutIsCommitAmbiguous (s.nodes n).cmdCode)
  | _ => true

def StampsSubmission (s : Engine) (a : Action) : Prop := stampsSubmission s a = true

instance (s : Engine) (a : Action) : Decidable (StampsSubmission s a) :=
  inferInstanceAs (Decidable (stampsSubmission s a = true))

/-- `sent_at` tells what went out. -/
structure Sent (s : Engine) : Prop where
  current : ∀ n, s.cur = some n → (s.nodes n).completed = false →
    espCmdTimeoutIsCommitAmbiguous (s.nodes n).cmdCode = true → (s.nodes n).sentAt ≠ 0
  unsent : ∀ n, (s.nodes n).queued = false ∨ n ∈ s.pending → (s.nodes n).sentAt = 0

theorem Inv.queued_of_pending {s : Engine} (h : Inv s) {n : NodeId} (hn : n ∈ s.pending) : (s.nodes n).queued = true := by
  obtain ⟨t,ht⟩ := h.holder (n := n) fun hf => (h.free n hf).2.1 hn
  have hstage := h.task t n ht
  rw [hstage.waiting_of_pending ht hn] at hstage
  exact hstage.2.1

theorem step_sent {s s' : Engine} {a : Action} (h : Inv s) (hsent : Sent s) (hok : StampsSubmission s a)
    (hs : step s a = some s') : Sent s' := by
  refine ⟨fun n hcur hfresh hamb => ?_,fun n hn => ?_⟩
  · cases step_node h hs n with
    | keep same completed result pending cur =>
      rw [same.sentAt]
      exact hsent.current n (cur hcur) (completed ▸ hfresh) (same.code ▸ hamb)
    | fail same fresh completed result pending cur =>
      rw [completed] at hfresh
      cases hfresh
    | prepare t code len tailroom act pc node pending cur => exact absurd hcur cur
    | submit jiffies sent act none first admitted gate code node pending cur =>
      subst act
      by_cases hz : sent = 0
      · rw [node] at hamb ⊢
        simp only [hz,ne_eq,not_true,if_false] at hamb ⊢
        simpa [StampsSubmission,stampsSubmission,hz,gate,none,first,admitted,hamb] using hok
      · rw [node,if_pos hz] at hfresh
        cases hfresh
    | answer skb act current code seq fresh empty node pending cur =>
      rw [node] at hfresh
      cases hfresh
    | recycle t kick act pc node pending cur => exact absurd hcur cur
  · cases step_node h hs n with
    | keep same completed result pending cur =>
      rw [same.sentAt]
      apply hsent.unsent n
      rcases hn with hn | hn
      · exact .inl (same.queued hn)
      · exact (pending hn).symm
    | fail same fresh completed result pending cur =>
      rw [same.sentAt]
      rcases hn with hn | hn
      · exact hsent.unsent n (.inl (same.queued hn))
      · exact absurd hn pending
    | prepare t code len tailroom act pc node pending cur =>
      rw [node] at hn ⊢
      exact hsent.unsent n (hn.imp_right fun hx => absurd hx pending)
    | submit jiffies sent act none first admitted gate code node pending cur =>
      rcases hn with hn | hn
      · have hq := h.queued_of_pending (List.mem_of_mem_head? first)
        rw [node] at hn
        split at hn <;> simp [Node.complete,hq] at hn
      · exact absurd hn pending
    | answer skb act current code seq fresh empty node pending cur =>
      rw [node,pending] at hn
      rw [node]
      exact hsent.unsent n hn
    | recycle t kick act pc node pending cur => rw [node]

structure Books (s s' : Engine) : Prop where
  resets : s.resets ≤ s'.resets
  takes : ∀ n, s.takes n ≤ s'.takes n
  free : ∀ n ∈ s.free, s'.takes n = s.takes n → n ∈ s'.free

theorem Books.of_eq {s s' : Engine} (hr : s'.resets = s.resets) (ht : s'.takes = s.takes) (hf : s'.free = s.free) :
    Books s s' :=
  ⟨hr.ge,fun n => by rw [ht],fun n hn _ => by rwa [hf]⟩

theorem books_getFreeCmdNode (s : Engine) (t : Nat) (code : UInt8) (len : Nat) :
    Books s (getFreeCmdNode s t code len) := by
  simp only [Cmd.getFreeCmdNode]
  split
  · exact .of_eq rfl rfl rfl
  split
  · exact .of_eq rfl rfl rfl
  rename_i m free hfree
  refine ⟨le_rfl,fun n => ?_,fun n hn htakes => ?_⟩
  · by_cases hnm : n = m
    · subst hnm
      simp [Engine.setPc,Engine.modify]
    · simp [Engine.setPc,Engine.modify,Function.update_of_ne hnm]
  · have hnm : n ≠ m := by
      rintro rfl
      simp [Engine.setPc,Engine.modify] at htakes
    rw [hfree] at hn
    exact (List.mem_cons.mp hn).resolve_left hnm

theorem books_advance {s s' : Engine} {t : Nat} (hs : advance s t = some s') : Books s s' := by
  unfold Cmd.advance at hs
  split at hs
  · exact Option.some.inj hs ▸ ⟨Nat.le_succ _,fun _ => le_rfl,fun _ hn _ => hn⟩
  · simp only [Cmd.waitAndDecodeCmdResp] at hs
    split_ifs at hs
    all_goals exact Option.some.inj hs ▸ .of_eq rfl rfl rfl
  · simp only [Cmd.decode] at hs
    split_ifs at hs
    · exact Option.some.inj hs ▸ ⟨Nat.le_succ _,fun _ => le_rfl,fun _ hn _ => hn⟩
    · exact Option.some.inj hs ▸ .of_eq rfl rfl rfl
  · simp only [Cmd.resetCmdNode] at hs
    split_ifs at hs
    all_goals exact Option.some.inj hs ▸ .of_eq rfl rfl rfl
  · exact Option.some.inj hs ▸ ⟨le_rfl,fun _ => le_rfl,fun _ hn _ => List.mem_append_left _ hn⟩
  · exact Option.some.inj hs ▸ .of_eq rfl rfl rfl
  · exact Option.some.inj hs ▸ .of_eq rfl rfl rfl
  · cases hs

theorem books_espCmdAbortWaiters (s : Engine) : Books s (espCmdAbortWaiters s) := by
  have hloop : ∀ r : Engine, r.resets = s.resets → r.takes = s.takes → r.free = s.free →
      Books s (abortPending r r.pending) := by
    intro r hr ht hf
    obtain ⟨-,-,h3,h4,h5,-⟩ := abortPending_frame r r.pending
    exact .of_eq (h3.trans hr) (h4.trans ht) (h5.trans hf)
  unfold Cmd.espCmdAbortWaiters
  cases s.cur with
  | none => exact hloop s rfl rfl rfl
  | some n =>
    simp only [Option.elim]
    split
    · exact hloop _ rfl rfl rfl
    · exact hloop s rfl rfl rfl

theorem step_books {s s' : Engine} {a : Action} (hs : step s a = some s') : Books s s' := by
  cases a with
  | setFlags f => exact Option.some.inj hs ▸ .of_eq rfl rfl rfl
  | request t code len =>
    simp only [step] at hs
    split at hs
    · exact Option.some.inj hs ▸ books_getFreeCmdNode s t code len
    · cases hs
  | alloc t ok =>
    simp only [step] at hs
    split at hs
    · split at hs
      · exact Option.some.inj hs ▸ .of_eq rfl rfl rfl
      · exact Option.some.inj hs ▸ .of_eq rfl rfl rfl
    · cases hs
  | prepare t tailroom =>
    simp only [step,Cmd.prepareCommandRequest] at hs
    split at hs
    · split at hs
      · exact Option.some.inj hs ▸ .of_eq rfl rfl rfl
      · exact Option.some.inj hs ▸ .of_eq rfl rfl rfl
    · cases hs
  | abandon t =>
    simp only [step] at hs
    split at hs
    · exact Option.some.inj hs ▸ .of_eq rfl rfl rfl
    · cases hs
  | queue t highPrio waits =>
    simp only [step,Cmd.queueCmdNode] at hs
    split at hs
    · split at hs
      · exact Option.some.inj hs ▸ .of_eq rfl rfl rfl
      · exact Option.some.inj hs ▸ .of_eq rfl rfl rfl
    · cases hs
  | wake t =>
    simp only [step] at hs
    split at hs
    · split at hs
      · exact Option.some.inj hs ▸ .of_eq rfl rfl rfl
      · cases hs
    · cases hs
  | expire t =>
    simp only [step,Cmd.espCmdWaitEventGuard] at hs
    split at hs
    · split_ifs at hs
      all_goals exact Option.some.inj hs ▸ .of_eq rfl rfl rfl
    · cases hs
  | advance t => exact books_advance hs
  | work jiffies sent =>
    obtain rfl := Option.some.inj hs
    simp only [Cmd.espCmdWork]
    repeat' split
    all_goals exact .of_eq rfl rfl rfl
  | response skb =>
    obtain rfl := Option.some.inj hs
    unfold Cmd.processCmdResp
    repeat' split
    all_goals exact .of_eq rfl rfl rfl
  | transportFailed code seq error =>
    obtain rfl := Option.some.inj hs
    unfold Cmd.espCmdTransportFailed
    repeat' split
    all_goals exact .of_eq rfl rfl rfl
  | abortWaiters => exact Option.some.inj hs ▸ books_espCmdAbortWaiters s

/-- The caller that asks for the reset keeps `cur_cmd` until it has asked. -/
theorem quarantine_step {s s' : Engine} {a : Action} (h : Inv s) {t : Nat} {n : NodeId} (ht : s.pc t = .quarantine n)
    (hcur : s.cur = some n) (hs : step s a = some s') :
    s.resets < s'.resets ∨ (s'.pc t = .quarantine n ∧ s'.cur = some n) := by
  by_cases ha : a.caller = some t
  · cases a <;> simp only [Action.caller,Option.some.injEq,reduceCtorEq] at ha <;> subst ha
    case advance =>
      simp only [step,Cmd.advance,ht] at hs
      exact Option.some.inj hs ▸ .inl (Nat.lt_succ_self _)
    all_goals simp [step,ht] at hs
  · have hu := step_other h (t := t) (n := n) (by simp [ht,Pc.node]) ha hs
    exact .inr ⟨hu.pc.trans ht,hu.cur hcur⟩

theorem quarantine_run {as : List Action} {s s' : Engine} (h : Inv s) {t : Nat} {n : NodeId}
    (ht : s.pc t = .quarantine n) (hcur : s.cur = some n) (hrun : exec step s as = some s') :
    s.resets < s'.resets ∨ (s'.pc t = .quarantine n ∧ s'.cur = some n) := by
  refine (exec_invariant (I := fun r => Inv r ∧ (s.resets < r.resets ∨
    (s.resets = r.resets ∧ r.pc t = .quarantine n ∧ r.cur = some n))) (fun r a r' hr hs => ?_)
    ⟨h,.inr ⟨rfl,ht,hcur⟩⟩ hrun).2.imp_right And.right
  refine ⟨step_inv hr.1 hs,?_⟩
  have hmono := (step_books hs).resets
  rcases hr.2 with hx | ⟨heq,hpc,hc⟩
  · left
    omega
  · rcases quarantine_step hr.1 hpc hc hs with hx | hx
    · left
      omega
    · by_cases heq' : r.resets = r'.resets
      · exact .inr ⟨heq.trans heq',hx⟩
      · left
        omega

/-- The caller is past its wait and has not put the node back. -/
def Pc.Retiring (n : NodeId) : Pc → Prop
  | .woken m _ => m = n
  | .settled m _ => m = n
  | .recycle m _ => m = n
  | .putBack m _ _ => m = n
  | _ => False

theorem Pc.Retiring.node {n : NodeId} {pc : Pc} (h : pc.Retiring n) : pc.node = some n := by
  cases pc <;> simp_all [Pc.Retiring,Pc.node]

/-- A command that never went out and is in no queue any more. -/
structure Lapsed (s : Engine) (t : Nat) (n : NodeId) : Prop where
  pc : (s.pc t).Retiring n
  sentAt : (s.nodes n).sentAt = 0
  pending : n ∉ s.pending
  cur : s.cur ≠ some n

theorem Lapsed.waitAndDecode {s : Engine} {t : Nat} {n : NodeId} (h : Lapsed s t n) (ok : Bool) :
    Lapsed (waitAndDecodeCmdResp s t n ok) t n ∧ (waitAndDecodeCmdResp s t n ok).resets = s.resets := by
  have hpend : n ∉ s.pending.erase n := fun hx => h.pending (List.mem_of_mem_erase hx)
  simp only [Cmd.waitAndDecodeCmdResp,if_neg h.cur]
  split_ifs
  · exact ⟨⟨by simp [Engine.setPc,Pc.Retiring],h.sentAt,h.pending,h.cur⟩,rfl⟩
  · exact ⟨⟨by simp [Engine.setPc,Pc.Retiring],by simpa [Engine.setPc,Node.complete] using h.sentAt,hpend,h.cur⟩,rfl⟩
  · exact ⟨⟨by simp [Engine.setPc,Pc.Retiring],by simpa [Engine.setPc,Node.complete] using h.sentAt,h.pending,h.cur⟩,rfl⟩

theorem Lapsed.advance {s s' : Engine} (hinv : Inv s) {t : Nat} {n : NodeId} (h : Lapsed s t n)
    (hs : advance s t = some s') : s'.resets = s.resets ∧ (n ∈ s'.free ∨ Lapsed s' t n) := by
  have hret := h.pc
  unfold Cmd.advance at hs
  split at hs
  · rename_i m ht
    simp [ht,Pc.Retiring] at hret
  · rename_i m ok ht
    obtain rfl : m = n := by simpa [ht,Pc.Retiring] using hret
    exact Option.some.inj hs ▸ ⟨(h.waitAndDecode ok).2,.inr (h.waitAndDecode ok).1⟩
  · rename_i m ret ht
    obtain rfl : m = n := by simpa [ht,Pc.Retiring] using hret
    obtain rfl := Option.some.inj hs
    simp only [Cmd.decode,h.sentAt,ne_eq,not_true,false_and,and_false,if_false]
    exact ⟨rfl,.inr ⟨by simp [Engine.setPc,Pc.Retiring],h.sentAt,h.pending,h.cur⟩⟩
  · rename_i m kick ht
    obtain rfl : m = n := by simpa [ht,Pc.Retiring] using hret
    obtain rfl := Option.some.inj hs
    simp only [Cmd.resetCmdNode,hinv.flag_false h.pending,Bool.false_eq_true,if_false]
    exact ⟨rfl,.inr ⟨by simp [Engine.setPc,Pc.Retiring],by simp [Engine.setPc],h.pending,h.cur⟩⟩
  · rename_i m wasInUse kick ht
    obtain rfl : m = n := by simpa [ht,Pc.Retiring] using hret
    exact Option.some.inj hs ▸ ⟨rfl,.inl (by simp [Engine.setPc])⟩
  · rename_i wasInUse kick ht
    simp [ht,Pc.Retiring] at hret
  · rename_i ht
    simp [ht,Pc.Retiring] at hret
  · cases hs

theorem Lapsed.step {s s' : Engine} {a : Action} (hinv : Inv s) {t : Nat} {n : NodeId} (h : Lapsed s t n)
    (hs : step s a = some s') : n ∈ s'.free ∨ Lapsed s' t n := by
  by_cases ha : a.caller = some t
  · have hret := h.pc
    cases a <;> simp only [Action.caller,Option.some.injEq,reduceCtorEq] at ha <;> subst ha
    case advance => exact (h.advance hinv hs).2
    all_goals
      simp only [Cmd.step] at hs
      split at hs
      · rename_i ht
        simp [ht,Pc.Retiring] at hret
      · cases hs
  · have hu := step_other hinv h.pc.node ha hs
    have hsame := hu.node h.pending h.cur
    refine .inr ⟨hu.pc ▸ h.pc,hsame.1 ▸ h.sentAt,fun hx => h.pending (hsame.2.1.mp hx),fun hx => h.cur (hsame.2.2.mp hx)⟩

theorem lapsed_run {as : List Action} {s s' : Engine} (hinv : Inv s) {t : Nat} {n : NodeId} (h : Lapsed s t n)
    (hrun : exec step s as = some s') (htakes : s'.takes n = s.takes n) : n ∈ s'.free ∨ Lapsed s' t n := by
  have hall : Inv s' ∧ s.takes n ≤ s'.takes n ∧ (s'.takes n = s.takes n → n ∈ s'.free ∨ Lapsed s' t n) := by
    refine exec_invariant (I := fun r => Inv r ∧ s.takes n ≤ r.takes n ∧
      (r.takes n = s.takes n → n ∈ r.free ∨ Lapsed r t n)) (fun r a r' hr hs => ?_)
      ⟨hinv,le_rfl,fun _ => .inr h⟩ hrun
    obtain ⟨hi,hle,hl⟩ := hr
    have hb := step_books hs
    have hmono := hb.takes n
    refine ⟨step_inv hi hs,by omega,fun heq => ?_⟩
    rcases hl (by omega) with hf | hx
    · exact .inl (hb.free n hf (by omega))
    · exact hx.step hi hs
  exact hall.2.2 htakes

theorem lapsed_expire {s : Engine} (hinv : Inv s) (hsent : Sent s) {t : Nat} {n : NodeId} (hn : n ∈ s.pending) :
    Lapsed (espCmdWaitEventGuard s t n) t n ∧ (espCmdWaitEventGuard s t n).takes = s.takes := by
  obtain ⟨hfresh,hcur⟩ := (hinv.node n).fresh hn
  have hflag := (hinv.node n).flag.mpr hn
  have hzero := hsent.unsent n (.inr hn)
  simp only [Cmd.espCmdWaitEventGuard,hfresh,hflag,hzero,Bool.false_eq_true,if_false,if_true,ne_eq,not_true,false_and]
  refine ⟨⟨?_,?_,hinv.not_mem_erase n,hcur⟩,rfl⟩
  · simp [Engine.setPc,Pc.Retiring]
  · simpa [Engine.setPc,Node.complete] using hzero

/-- The caller gives up on an ambiguous command that went out and was neither answered nor
reported as failed, in a driver that is not going away or being rebuilt. -/
structure Unanswered (s : Engine) (t : Nat) (n : NodeId) : Prop where
  waiting : s.pc t = .waiting n
  current : s.cur = some n
  fresh : (s.nodes n).completed = false
  ambiguous : espCmdTimeoutIsCommitAmbiguous (s.nodes n).cmdCode = true
  unloading : s.flags.driverUnloading = false
  removing : s.flags.transportRemoving = false
  reconstruct : s.flags.allowReconstruct = false

theorem Unanswered.expire {s : Engine} (hinv : Inv s) (hsent : Sent s) {t : Nat} {n : NodeId} (h : Unanswered s t n)
    (hreset : s.flags.resetExpected = false) : espCmdWaitEventGuard s t n = s.setPc t (.quarantine n) := by
  have hn : n ∉ s.pending := fun hx => ((hinv.node n).fresh hx).2 h.current
  have hstamp := hsent.current n h.current h.fresh h.ambiguous
  simp [Cmd.espCmdWaitEventGuard,h.fresh,hinv.flag_false hn,h.ambiguous,h.unloading,h.removing,h.reconstruct,hreset,hstamp]

/-- `s.takes n` tells the command from later ones in the same node. -/
theorem ambiguous_timeout_quarantined {as : List Action} {s : Engine} (h : exec step {} as = some s)
    (hok : Along step StampsSubmission {} as) :
    (∀ t n, Unanswered s t n → ∀ bs s', exec step s (.expire t :: bs) = some s' →
      s.flags.resetExpected = true ∨ s.resets < s'.resets ∨ (s'.pc t = .quarantine n ∧ s'.cur = some n)) ∧
    (∀ t n, s.pc t = .waiting n → n ∈ s.pending → ∀ bs s', exec step s (.expire t :: bs) = some s' →
      s'.takes n = s.takes n → n ∉ s'.pending ∧ s'.cur ≠ some n ∧
        ((s'.pc t).node = some n → ∀ s'', step s' (.advance t) = some s'' → s''.resets = s'.resets)) := by
  obtain ⟨hi,hsent⟩ : Inv s ∧ Sent s :=
    exec_invariant_along (I := fun s => Inv s ∧ Sent s)
      (fun _ _ _ hi hok hs => ⟨step_inv hi.1 hs,step_sent hi.1 hi.2 hok hs⟩) hok
      ⟨inv_initial,⟨by simp,fun n _ => rfl⟩⟩ h
  refine ⟨fun t n hun bs s' hrun => ?_,fun t n ht hn bs s' hrun htakes => ?_⟩
  · cases hreset : s.flags.resetExpected with
    | true => exact .inl rfl
    | false =>
      obtain ⟨s₁,hs₁,hrun⟩ := exec_cons hrun
      have hi₁ := step_inv hi hs₁
      simp only [step,hun.waiting,hun.expire hi hsent hreset,Option.some.injEq] at hs₁
      subst hs₁
      exact .inr (quarantine_run hi₁ (by simp [Engine.setPc]) hun.current hrun)
  · obtain ⟨s₁,hs₁,hrun⟩ := exec_cons hrun
    have hi₁ := step_inv hi hs₁
    have hi' : Inv s' := exec_invariant (fun _ _ _ => step_inv) hi₁ hrun
    simp only [step,ht,Option.some.injEq] at hs₁
    obtain ⟨hlapsed,htakes₁⟩ := lapsed_expire (t := t) hi hsent hn
    subst hs₁
    rcases lapsed_run hi₁ hlapsed hrun (by rw [htakes,htakes₁]) with hfree | hl
    · obtain ⟨-,hpend,hcur⟩ := hi'.free n hfree
      exact ⟨hpend,hcur,fun hx => absurd hfree (hi'.not_free hx)⟩
    · exact ⟨hl.pending,hl.cur,fun _ s'' hs => (hl.advance hi' hs).1⟩

/-- A scan request goes out at the tick `jiffies` and is not answered; a key waits behind it. -/
def unansweredRun (jiffies : Nat) : List Action :=
  [.request 0 CMD_SCAN_REQUEST 8,.alloc 0 true,.prepare 0 2048,.queue 0 false true,
   .request 1 CMD_ADD_KEY 8,.alloc 1 true,.prepare 1 2048,.queue 1 false true,.work jiffies 0]

instance (s : Engine) (t : Nat) (n : NodeId) : Decidable (Unanswered s t n) :=
  decidable_of_iff (s.pc t = .waiting n ∧ s.cur = some n ∧ (s.nodes n).completed = false ∧
    espCmdTimeoutIsCommitAmbiguous (s.nodes n).cmdCode = true ∧ s.flags.driverUnloading = false ∧
    s.flags.transportRemoving = false ∧ s.flags.allowReconstruct = false)
    ⟨fun ⟨h1,h2,h3,h4,h5,h6,h7⟩ => ⟨h1,h2,h3,h4,h5,h6,h7⟩,fun ⟨h1,h2,h3,h4,h5,h6,h7⟩ => ⟨h1,h2,h3,h4,h5,h6,h7⟩⟩

theorem ambiguous_timeout_quarantined_scan :
    ∃ s ∈ exec step {} (unansweredRun 5), ∃ n, Unanswered s 0 n ∧ s.flags.resetExpected = false ∧
      ∀ bs s', exec step s (.expire 0 :: bs) = some s' →
        s.resets < s'.resets ∨ (s'.pc 0 = .quarantine n ∧ s'.cur = some n) := by
  have h : ∃ s ∈ exec step {} (unansweredRun 5), ∃ n, Unanswered s 0 n ∧ s.flags.resetExpected = false := by
    decide +kernel
  have hok : Along step StampsSubmission {} (unansweredRun 5) := by decide +kernel
  obtain ⟨s,hs,n,hun,hreset⟩ := h
  refine ⟨s,hs,n,hun,hreset,fun bs s' hrun => ?_⟩
  exact ((ambiguous_timeout_quarantined hs hok).1 0 n hun bs s' hrun).resolve_left (by simp [hreset])

/-- At tick zero the slot is released, and the next command goes out, without a reset. -/
theorem ambiguous_timeout_unstamped :
    ∃ s ∈ exec step {} (unansweredRun 0), ∃ n, Unanswered s 0 n ∧ s.flags.resetExpected = false ∧
      ∃ s' ∈ exec step s [.expire 0,.advance 0,.work 1 0], s'.resets = s.resets ∧ s'.cur ≠ some n ∧ s'.cur ≠ none := by
  decide +kernel

end EspHosted.Cmd
