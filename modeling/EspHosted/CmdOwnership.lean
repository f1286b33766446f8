import EspHosted.CmdNodes

/-!
Who has each command node. A node is free or some caller answers for it; whether it is
pending or current besides is a matter of how far that caller is, so every step is
checked at one node and its caller.
-/

set_option autoImplicit false

namespace EspHosted.Cmd
open EspHosted Run

/-- What holds of a node and of its place in the queues at each point of its caller. -/
def Stage (nd : Node) (pending current : Prop) : Pc → Prop
  | .taken _ _ _ => nd.inUse = true ∧ nd.completed = false ∧ nd.queued = false ∧ ¬pending ∧ ¬current
  | .allocated _ _ _ => nd.inUse = true ∧ nd.completed = false ∧ nd.queued = false ∧ ¬pending ∧ ¬current
  | .ready _ => nd.inUse = true ∧ nd.completed = false ∧ nd.queued = false ∧ ¬pending ∧ ¬current
  | .waiting _ => nd.inUse = true ∧ nd.queued = true ∧ (nd.completed = true ∨ pending ∨ current)
  | .quarantine _ => nd.inUse = true ∧ nd.queued = true ∧ ¬pending ∧ (nd.completed = true ∨ current)
  | .woken _ ok =>
    nd.inUse = true ∧ nd.queued = true ∧ ¬pending ∧ (nd.completed = true ∨ current) ∧
      (ok = true → nd.completed = true)
  | .settled _ _ => nd.inUse = true ∧ nd.queued = true ∧ nd.completed = true ∧ ¬pending ∧ ¬current
  | .recycle _ _ => nd.inUse = true ∧ nd.completed = nd.queued ∧ ¬pending ∧ ¬current
  | .putBack _ wasInUse _ => wasInUse = true ∧ nd = {} ∧ ¬pending ∧ ¬current
  | _ => True

/-- Only a caller that waits has its node in the pending queue. -/
theorem Stage.waiting_of_pending {nd : Node} {pending current : Prop} {pc : Pc} {n : NodeId}
    (h : Stage nd pending current pc) (hn : pc.node = some n) (hp : pending) : pc = .waiting n := by
  cases pc <;> simp_all [Stage,Pc.node]

theorem Stage.of_current {nd : Node} {pending current : Prop} {pc : Pc} {n : NodeId}
    (h : Stage nd pending current pc) (hn : pc.node = some n) (hc : current) :
    pc = .waiting n ∨ pc = .quarantine n ∨ ∃ ok, pc = .woken n ok := by
  cases pc <;> simp_all [Stage,Pc.node]

structure NodeOk (s : Engine) (n : NodeId) : Prop where
  flag : (s.nodes n).inPendingQueue = true ↔ n ∈ s.pending
  fresh : n ∈ s.pending → (s.nodes n).completed = false ∧ s.cur ≠ some n
  once : (s.nodes n).completions = if (s.nodes n).completed then 1 else 0

/-- Who answers for a node: nobody while it is free. -/
def Engine.bag (s : Engine) : Option Nat → List NodeId
  | none => s.free
  | some t => (s.pc t).node.toList

structure RecycledOk (r : Recycled) : Prop where
  pending : r.pending = false
  current : r.current = false
  once : r.completions = if r.queued then 1 else 0

structure Inv (s : Engine) : Prop where
  custody : Custody s.bag
  pending : s.pending.Nodup
  node : ∀ n, NodeOk s n
  free : ∀ n ∈ s.free, s.nodes n = {} ∧ n ∉ s.pending ∧ s.cur ≠ some n
  task : ∀ t n, (s.pc t).node = some n → Stage (s.nodes n) (n ∈ s.pending) (s.cur = some n) (s.pc t)
  retire : ∀ t wasInUse kick, s.pc t = .retire wasInUse kick → wasInUse = true
  owing : s.owing.Nodup ∧ ∀ t, t ∈ s.owing ↔ ∃ kick, s.pc t = .retire true kick
  count : s.nodesInUse+s.free.length = ESP_NUM_OF_CMD_NODES+s.owing.length
  puts : ∀ n, (n ∈ s.free → s.takes n = s.puts n) ∧ (n ∉ s.free → s.takes n = s.puts n+1)
  log : ∀ r ∈ s.recycled, RecycledOk r

theorem inv_initial : Inv {} where
  custody := by
    refine ⟨fun _ => none,fun p n => ?_⟩
    cases p with
    | none =>
      rw [if_pos rfl]
      exact List.count_eq_one_of_mem (List.nodup_finRange _) (List.mem_finRange n)
    | some t => rfl
  pending := List.nodup_nil
  node := fun n => ⟨by simp,by simp,rfl⟩
  free := fun n _ => ⟨rfl,by simp,by simp⟩
  task := fun t n hn => by cases hn
  retire := fun t w k hk => by cases hk
  owing := ⟨List.nodup_nil,by simp⟩
  count := by simp [List.length_finRange]
  puts := fun n => by simp [List.mem_finRange]
  log := by simp

/-- The step does not touch `m`. -/
def SameAt (s s' : Engine) (m : NodeId) : Prop :=
  s'.nodes m = s.nodes m ∧ (m ∈ s'.pending ↔ m ∈ s.pending) ∧ (s'.cur = some m ↔ s.cur = some m)

theorem SameAt.stage {s s' : Engine} {m : NodeId} (h : SameAt s s' m) (pc : Pc) :
    Stage (s'.nodes m) (m ∈ s'.pending) (s'.cur = some m) pc ↔
      Stage (s.nodes m) (m ∈ s.pending) (s.cur = some m) pc := by
  rw [h.1,propext h.2.1,propext h.2.2]

theorem SameAt.nodeOk {s s' : Engine} {m : NodeId} (h : SameAt s s' m) (hm : NodeOk s m) : NodeOk s' m := by
  obtain ⟨h1,h2,h3⟩ := h
  refine ⟨?_,fun hp => ?_,?_⟩
  · rw [h1,h2]
    exact hm.flag
  · rw [h1]
    obtain ⟨hc,hcur⟩ := hm.fresh (h2.mp hp)
    exact ⟨hc,fun hx => hcur (h3.mp hx)⟩
  · rw [h1]
    exact hm.once

theorem mem_bag {s : Engine} {t : Nat} {n : NodeId} (h : (s.pc t).node = some n) : n ∈ s.bag (some t) := by
  simp [Engine.bag,h]

theorem Inv.holder_unique {s : Engine} (h : Inv s) {t r : Nat} {n : NodeId} (ht : (s.pc t).node = some n)
    (hr : (s.pc r).node = some n) : r = t :=
  Option.some.inj (h.custody.eq_of_mem (mem_bag hr) (mem_bag ht))

theorem Inv.not_free {s : Engine} (h : Inv s) {t : Nat} {n : NodeId} (ht : (s.pc t).node = some n) :
    n ∉ s.free := by
  intro hf
  have hx := h.custody.eq_of_mem (p := none) hf (mem_bag ht)
  cases hx

theorem Inv.holder {s : Engine} (h : Inv s) {n : NodeId} (hn : n ∉ s.free) :
    ∃ t, (s.pc t).node = some n := by
  obtain ⟨p,hp,-⟩ := h.custody.existsUnique n
  cases p with
  | none => exact absurd hp hn
  | some t =>
    refine ⟨t,?_⟩
    cases hx : (s.pc t).node <;> simp_all [Engine.bag]

/-- The books, which no step between taking and putting back a node changes. -/
def SameBooks (s s' : Engine) : Prop :=
  s'.free = s.free ∧ s'.nodesInUse = s.nodesInUse ∧ s'.owing = s.owing ∧ s'.takes = s.takes ∧ s'.puts = s.puts

/-- A step that touches node `n` and the point its caller is at. -/
theorem Inv.touch {s s' : Engine} (h : Inv s) (n : NodeId) (hsame : ∀ m, m ≠ n → SameAt s s' m)
    (hpend : s'.pending.Nodup) (hnode : NodeOk s' n) (hn : n ∉ s.free)
    (hpc : ∀ t, (s.pc t).node ≠ some n → s'.pc t = s.pc t)
    (hkeep : ∀ t, (s.pc t).node = some n → (s'.pc t).node = some n ∧
      Stage (s'.nodes n) (n ∈ s'.pending) (s'.cur = some n) (s'.pc t))
    (hbooks : SameBooks s s') (hlog : ∀ r ∈ s'.recycled, RecycledOk r) : Inv s' := by
  obtain ⟨h1,h2,h3,h4,h5⟩ := hbooks
  have hback : ∀ t w k, s'.pc t = .retire w k → s.pc t = .retire w k := by
    intro t w k hk
    rw [← hpc t ?_,hk]
    intro hx
    have hx' := (hkeep t hx).1
    rw [hk] at hx'
    cases hx'
  have hfwd : ∀ t w k, s.pc t = .retire w k → s'.pc t = .retire w k := by
    intro t w k hk
    rw [hpc t ?_,hk]
    rw [hk]
    simp [Pc.node]
  refine ⟨?_,hpend,fun m => ?_,fun m hm => ?_,fun t m hm => ?_,fun t w k hk => h.retire t w k (hback t w k hk),
    ⟨?_,fun t => ?_⟩,?_,fun m => ?_,hlog⟩
  · convert h.custody using 1
    funext p
    cases p with
    | none => exact h1
    | some t =>
      by_cases hx : (s.pc t).node = some n
      · simp [Engine.bag,hx,(hkeep t hx).1]
      · simp [Engine.bag,hpc t hx]
  · by_cases hm : m = n
    · subst hm
      exact hnode
    · exact (hsame m hm).nodeOk (h.node m)
  · rw [h1] at hm
    have hne : m ≠ n := fun hx => hn (hx ▸ hm)
    obtain ⟨e1,e2,e3⟩ := hsame m hne
    obtain ⟨f1,f2,f3⟩ := h.free m hm
    exact ⟨e1.trans f1,fun hx => f2 (e2.mp hx),fun hx => f3 (e3.mp hx)⟩
  · by_cases hx : (s.pc t).node = some n
    · obtain ⟨hnode',hstage⟩ := hkeep t hx
      rw [hnode'] at hm
      cases hm
      exact hstage
    · rw [hpc t hx] at hm ⊢
      have hne : m ≠ n := fun hmn => hx (hmn ▸ hm)
      exact ((hsame m hne).stage _).mpr (h.task t m hm)
  · rw [h3]
    exact h.owing.1
  · rw [h3,h.owing.2]
    constructor
    · rintro ⟨k,hk⟩
      exact ⟨k,hfwd t true k hk⟩
    · rintro ⟨k,hk⟩
      exact ⟨k,hback t true k hk⟩
  · rw [h1,h2,h3]
    exact h.count
  · rw [h1,h4,h5]
    exact h.puts m

/-- The caller of `n` goes on with it. -/
theorem Inv.caller {s s' : Engine} (h : Inv s) {t : Nat} {n : NodeId} {pc : Pc} (ht : (s.pc t).node = some n)
    (hpc : s'.pc = Function.update s.pc t pc) (hn : pc.node = some n)
    (hsame : ∀ m, m ≠ n → SameAt s s' m) (hpend : s'.pending.Nodup) (hnode : NodeOk s' n)
    (hstage : Stage (s'.nodes n) (n ∈ s'.pending) (s'.cur = some n) pc) (hbooks : SameBooks s s')
    (hlog : ∀ r ∈ s'.recycled, RecycledOk r) : Inv s' := by
  refine h.touch n hsame hpend hnode (h.not_free ht) (fun r hr => ?_) (fun r hr => ?_) hbooks hlog
  · rw [hpc,Function.update_of_ne]
    rintro rfl
    exact hr ht
  · obtain rfl := h.holder_unique ht hr
    rw [hpc,Function.update_self]
    exact ⟨hn,hstage⟩

/-- Something else happens to `n`; its caller is at a point that allows it. -/
theorem Inv.event {s s' : Engine} (h : Inv s) {n : NodeId} (hfree : n ∉ s.free) (hpc : s'.pc = s.pc)
    (hsame : ∀ m, m ≠ n → SameAt s s' m) (hpend : s'.pending.Nodup) (hnode : NodeOk s' n)
    (hstage : ∀ pc, pc.node = some n → Stage (s.nodes n) (n ∈ s.pending) (s.cur = some n) pc →
      Stage (s'.nodes n) (n ∈ s'.pending) (s'.cur = some n) pc)
    (hbooks : SameBooks s s') (hlog : s'.recycled = s.recycled) : Inv s' := by
  refine h.touch n hsame hpend hnode hfree (fun r _ => by rw [hpc]) (fun r hr => ?_) hbooks ?_
  · rw [hpc]
    exact ⟨hr,hstage _ hr (h.task r n hr)⟩
  · rw [hlog]
    exact h.log

theorem SameAt.refl (s : Engine) (m : NodeId) : SameAt s s m := ⟨rfl,Iff.rfl,Iff.rfl⟩

theorem SameAt.trans {s s' s'' : Engine} {m : NodeId} (h : SameAt s s' m) (k : SameAt s' s'' m) :
    SameAt s s'' m :=
  ⟨k.1.trans h.1,k.2.1.trans h.2.1,k.2.2.trans h.2.2⟩

theorem sameAt_modify (s : Engine) (n : NodeId) (f : Node → Node) {m : NodeId} (hm : m ≠ n) :
    SameAt s (s.modify n f) m :=
  ⟨by simp [Engine.modify,Function.update_of_ne hm],Iff.rfl,Iff.rfl⟩

theorem sameAt_unlink (s : Engine) (n : NodeId) {m : NodeId} (hm : m ≠ n) : SameAt s (s.unlink n) m :=
  ⟨by simp [Engine.unlink,Engine.modify,Function.update_of_ne hm],List.mem_erase_of_ne hm,Iff.rfl⟩

@[simp] theorem modify_nodes (s : Engine) (n : NodeId) (f : Node → Node) :
    (s.modify n f).nodes n = f (s.nodes n) := by simp [Engine.modify]

@[simp] theorem unlink_nodes (s : Engine) (n : NodeId) :
    (s.unlink n).nodes n = {s.nodes n with inPendingQueue := false} := by simp [Engine.unlink,Engine.modify]

theorem NodeOk.out {s : Engine} {n : NodeId} (hflag : (s.nodes n).inPendingQueue = false)
    (hn : n ∉ s.pending) (hone : (s.nodes n).completions = if (s.nodes n).completed then 1 else 0) :
    NodeOk s n :=
  ⟨by simp [hflag,hn],fun hp => absurd hp hn,hone⟩

theorem Inv.flag_false {s : Engine} (h : Inv s) {n : NodeId} (hn : n ∉ s.pending) :
    (s.nodes n).inPendingQueue = false := by
  rw [Bool.eq_false_iff,ne_eq,(h.node n).flag]
  exact hn

theorem complete_once {nd : Node} (hone : nd.completions = if nd.completed then 1 else 0)
    (hc : nd.completed = false) (r : Int) :
    (nd.complete r).completions = if (nd.complete r).completed then 1 else 0 := by
  simp [Node.complete,hone,hc]

theorem Inv.quiet {s : Engine} (h : Inv s) (f : Flags) (work : Bool) (resets : Nat) (seq : UInt16) :
    Inv {s with flags := f, workQueued := work, resets := resets, nextSeq := seq} :=
  ⟨h.custody,h.pending,fun n => ⟨(h.node n).flag,(h.node n).fresh,(h.node n).once⟩,h.free,h.task,h.retire,
    h.owing,h.count,h.puts,h.log⟩

theorem Inv.getFreeCmdNode {s : Engine} (h : Inv s) {t : Nat} (ht : s.pc t = .idle) (code : UInt8) (len : Nat) :
    Inv (getFreeCmdNode s t code len) := by
  simp only [Cmd.getFreeCmdNode]
  split
  · exact h
  split
  · exact h
  rename_i n free hfree
  have hnmem : n ∈ s.free := by simp [hfree]
  have hnodup := h.custody.nodup none
  simp only [Engine.bag,hfree,List.nodup_cons] at hnodup
  obtain ⟨hclean,hpend,hcur⟩ := h.free n hnmem
  have hne : ∀ {r m}, (s.pc r).node = some m → m ≠ n := fun hr hx => h.not_free hr (hx ▸ hnmem)
  refine ⟨?_,h.pending,fun m => ?_,fun m hm => ?_,fun r m hm => ?_,fun r w k hk => ?_,⟨h.owing.1,fun r => ?_⟩,
    ?_,fun m => ?_,h.log⟩
  · refine h.custody.move (p := none) (q := some t) (x := n) (by simp) ?_ ?_ ?_
    · simp [Engine.bag,Engine.setPc,Engine.modify,hfree]
    · simp [Engine.bag,Engine.setPc,ht,Pc.node]
    · intro p hp hq
      cases p with
      | none => exact absurd rfl hp
      | some r =>
        have hr : r ≠ t := fun hx => hq (hx ▸ rfl)
        simp [Engine.bag,Engine.setPc,Engine.modify,Function.update_of_ne hr]
  · by_cases hm : m = n
    · subst hm
      refine NodeOk.out ?_ hpend ?_ <;> simp [Engine.setPc,Engine.modify,hclean]
    · have hsame : SameAt s (s.modify n fun nd => {nd with inPendingQueue := false, inUse := true}) m :=
        sameAt_modify s n _ hm
      exact SameAt.nodeOk hsame (h.node m)
  · have hm' : m ∈ free := hm
    have hmn : m ≠ n := fun hx => hnodup.1 (hx ▸ hm')
    obtain ⟨f1,f2,f3⟩ := h.free m (by simp [hfree,hm'])
    refine ⟨?_,f2,f3⟩
    simp [Engine.setPc,Engine.modify,Function.update_of_ne hmn,f1]
  · by_cases hr : r = t
    · subst hr
      simp only [Engine.setPc,Function.update_self,Pc.node,Option.some.injEq] at hm
      subst hm
      simp [Engine.setPc,Engine.modify,Stage,hclean,hpend,hcur]
    · simp only [Engine.setPc,Engine.modify,Function.update_of_ne hr] at hm ⊢
      rw [Function.update_of_ne (hne hm)]
      exact h.task r m hm
  · by_cases hr : r = t
    · subst hr
      simp [Engine.setPc] at hk
    · simp only [Engine.setPc,Engine.modify,Function.update_of_ne hr] at hk
      exact h.retire r w k hk
  · by_cases hr : r = t
    · subst hr
      simp [Engine.setPc,Engine.modify,h.owing.2,ht]
    · simp [Engine.setPc,Engine.modify,Function.update_of_ne hr,h.owing.2]
  · have hcount := h.count
    simp only [Engine.setPc,Engine.modify,hfree,List.length_cons] at hcount ⊢
    omega
  · obtain ⟨hin,hout⟩ := h.puts m
    by_cases hm : m = n
    · subst hm
      simp [Engine.setPc,Engine.modify,hnodup.1,hin hnmem]
    · simp only [hfree,List.mem_cons,hm,false_or] at hin hout
      simp only [Engine.setPc,Engine.modify,Function.update_of_ne hm]
      exact ⟨hin,hout⟩

theorem Inv.callerModify {s : Engine} (h : Inv s) {t : Nat} {n : NodeId} {pc : Pc}
    (ht : (s.pc t).node = some n) (hn : pc.node = some n) (f : Node → Node) (hpend : n ∉ s.pending)
    (hflag : (f (s.nodes n)).inPendingQueue = (s.nodes n).inPendingQueue)
    (honce : (f (s.nodes n)).completions = if (f (s.nodes n)).completed then 1 else 0)
    (hstage : Stage (f (s.nodes n)) (n ∈ s.pending) (s.cur = some n) pc) :
    Inv ((s.modify n f).setPc t pc) := by
  refine h.caller ht rfl hn (fun m hm => sameAt_modify s n f hm) h.pending ?_ ?_ ⟨rfl,rfl,rfl,rfl,rfl⟩ h.log
  · refine NodeOk.out ?_ hpend ?_
    · simpa [Engine.setPc,h.flag_false hpend] using hflag
    · simpa [Engine.setPc] using honce
  · simpa [Engine.setPc,Engine.modify] using hstage

theorem Inv.callerMoves {s : Engine} (h : Inv s) {t : Nat} {n : NodeId} {pc : Pc}
    (ht : (s.pc t).node = some n) (hn : pc.node = some n)
    (hstage : Stage (s.nodes n) (n ∈ s.pending) (s.cur = some n) pc) : Inv (s.setPc t pc) :=
  h.caller ht rfl hn (fun m _ => SameAt.refl s m) h.pending
    ⟨(h.node n).flag,(h.node n).fresh,(h.node n).once⟩ hstage ⟨rfl,rfl,rfl,rfl,rfl⟩ h.log

theorem Inv.not_mem_erase {s : Engine} (h : Inv s) (n : NodeId) : n ∉ s.pending.erase n :=
  fun hx => (h.pending.mem_erase_iff.mp hx).1 rfl

theorem Inv.stage {s : Engine} (h : Inv s) {t : Nat} {n : NodeId} {pc : Pc} (hpc : s.pc t = pc)
    (hn : pc.node = some n) : Stage (s.nodes n) (n ∈ s.pending) (s.cur = some n) pc := by
  subst hpc
  exact h.task t n hn

theorem Inv.alloc {s : Engine} (h : Inv s) {t : Nat} {n : NodeId} {code : UInt8} {len : Nat}
    (ht : s.pc t = .taken n code len) :
    Inv ((s.modify n fun nd => {nd with cmdSkb := true}).setPc t (.allocated n code len)) ∧
      Inv (s.setPc t (.recycle n false)) := by
  have hnode : (s.pc t).node = some n := by simp [ht,Pc.node]
  obtain ⟨huse,hcomp,hqueued,hpend,hcur⟩ := h.stage ht rfl
  constructor
  · exact h.callerModify hnode rfl _ hpend rfl (h.node n).once ⟨huse,hcomp,hqueued,hpend,hcur⟩
  · exact h.callerMoves hnode rfl ⟨huse,hcomp.trans hqueued.symm,hpend,hcur⟩

theorem Inv.prepareCommandRequest {s : Engine} (h : Inv s) {t : Nat} {n : NodeId} {code : UInt8} {len : Nat}
    (ht : s.pc t = .allocated n code len) (tailroom : Nat) :
    Inv (prepareCommandRequest s t n code len tailroom) := by
  have hnode : (s.pc t).node = some n := by simp [ht,Pc.node]
  obtain ⟨huse,hcomp,hqueued,hpend,hcur⟩ := h.stage ht rfl
  have hseq := h.quiet s.flags s.workQueued s.resets (nextCmdSeq s.nextSeq)
  have honce := (h.node n).once
  rw [hcomp] at honce
  simp only [Cmd.prepareCommandRequest]
  split
  · exact hseq.callerModify hnode rfl _ hpend rfl honce ⟨huse,hqueued.symm,hpend,hcur⟩
  · exact hseq.callerModify hnode rfl _ hpend rfl honce ⟨huse,rfl,hqueued,hpend,hcur⟩

theorem Inv.abandon {s : Engine} (h : Inv s) {t : Nat} {n : NodeId} (ht : s.pc t = .ready n) :
    Inv (s.setPc t (.recycle n false)) := by
  obtain ⟨huse,hcomp,hqueued,hpend,hcur⟩ := h.stage ht rfl
  exact h.callerMoves (by simp [ht,Pc.node]) rfl ⟨huse,hcomp.trans hqueued.symm,hpend,hcur⟩

theorem Inv.queueCmdNode {s : Engine} (h : Inv s) {t : Nat} {n : NodeId} (ht : s.pc t = .ready n)
    (highPrio waits : Bool) : Inv (queueCmdNode s t n highPrio waits) := by
  have hnode : (s.pc t).node = some n := by simp [ht,Pc.node]
  obtain ⟨huse,hcomp,hqueued,hpend,hcur⟩ := h.stage ht rfl
  simp only [Cmd.queueCmdNode]
  split
  · refine h.callerModify hnode ?_ _ hpend rfl (complete_once (h.node n).once hcomp (-ESHUTDOWN)) ?_
    · cases waits <;> rfl
    · cases waits
      · exact ⟨huse,rfl,hpend,hcur⟩
      · exact ⟨huse,rfl,.inl rfl⟩
  · have hmem : ∀ m, m ∈ (if highPrio then n :: s.pending else s.pending ++ [n]) ↔ m = n ∨ m ∈ s.pending := by
      intro m
      cases highPrio <;> simp [or_comm]
    have hnodup : (if highPrio then n :: s.pending else s.pending ++ [n]).Nodup := by
      cases highPrio
      · simpa using h.pending.concat hpend
      · exact h.pending.cons hpend
    refine h.caller hnode rfl rfl (fun m hm => ⟨?_,?_,Iff.rfl⟩) hnodup ?_ ?_ ⟨rfl,rfl,rfl,rfl,rfl⟩ h.log
    · simp [Engine.setPc,Engine.modify,Function.update_of_ne hm]
    · exact (hmem m).trans (or_iff_right hm)
    · have honce := (h.node n).once
      refine ⟨?_,fun _ => ⟨?_,hcur⟩,?_⟩
      · simpa [Engine.setPc,Engine.modify] using (hmem n).mpr (.inl rfl)
      · simpa [Engine.setPc,Engine.modify] using hcomp
      · simpa [Engine.setPc,Engine.modify] using honce
    · refine ⟨?_,?_,.inr (.inl ((hmem n).mpr (.inl rfl)))⟩ <;> simp [Engine.setPc,Engine.modify,huse]

theorem Inv.wake {s : Engine} (h : Inv s) {t : Nat} {n : NodeId} (ht : s.pc t = .waiting n)
    (hcomp : (s.nodes n).completed = true) : Inv (s.setPc t (.woken n true)) := by
  obtain ⟨huse,hqueued,-⟩ := h.stage ht rfl
  refine h.callerMoves (by simp [ht,Pc.node]) rfl ⟨huse,hqueued,fun hp => ?_,.inl hcomp,fun _ => hcomp⟩
  rw [((h.node n).fresh hp).1] at hcomp
  cases hcomp

/-- Whatever ends the life of a command in the pending queue takes it out and completes it. -/
theorem Inv.unlinkComplete {s : Engine} (h : Inv s) {n : NodeId} (hn : n ∈ s.pending) (result : Int) :
    Inv ((s.unlink n).modify n (Node.complete · result)) := by
  obtain ⟨hcomp,hcur⟩ := (h.node n).fresh hn
  have hfree : n ∉ s.free := fun hf => (h.free n hf).2.1 hn
  have hout := h.not_mem_erase n
  refine h.event hfree rfl (fun m hm => (sameAt_unlink s n hm).trans (sameAt_modify _ n _ hm))
    (h.pending.erase n) (NodeOk.out ?_ hout ?_) (fun pc hnode hpc => ?_) ⟨rfl,rfl,rfl,rfl,rfl⟩ rfl
  · simp [Node.complete]
  · have honce := (h.node n).once
    rw [hcomp] at honce
    simp [Node.complete,honce]
  · obtain rfl := hpc.waiting_of_pending hnode hn
    simpa [Stage,Node.complete] using ⟨hpc.1,hpc.2.1⟩

theorem Inv.completeCurrent {s : Engine} (h : Inv s) {n : NodeId} (hn : s.cur = some n)
    (hcomp : (s.nodes n).completed = false) (f : Node → Node)
    (hf : (f (s.nodes n)).inPendingQueue = (s.nodes n).inPendingQueue ∧ (f (s.nodes n)).inUse = (s.nodes n).inUse ∧
      (f (s.nodes n)).queued = (s.nodes n).queued ∧ (f (s.nodes n)).completed = true ∧
      (f (s.nodes n)).completions = (s.nodes n).completions+1) : Inv (s.modify n f) := by
  obtain ⟨hflag,huse,hqueued,hdone,hcount⟩ := hf
  have hpend : n ∉ s.pending := fun hp => ((h.node n).fresh hp).2 hn
  have hfree : n ∉ s.free := fun hx => (h.free n hx).2.2 hn
  refine h.event hfree rfl (fun m hm => sameAt_modify s n f hm) h.pending (NodeOk.out ?_ hpend ?_)
    (fun pc hnode hpc => ?_) ⟨rfl,rfl,rfl,rfl,rfl⟩ rfl
  · rw [modify_nodes,hflag]
    exact h.flag_false hpend
  · rw [modify_nodes,hcount,hdone,(h.node n).once,hcomp]
    rfl
  · rw [modify_nodes]
    rcases hpc.of_current hnode hn with rfl | rfl | ⟨ok,rfl⟩
    · exact ⟨huse.trans hpc.1,hqueued.trans hpc.2.1,.inl hdone⟩
    · exact ⟨huse.trans hpc.1,hqueued.trans hpc.2.1,hpend,.inl hdone⟩
    · exact ⟨huse.trans hpc.1,hqueued.trans hpc.2.1,hpend,.inl hdone,fun _ => hdone⟩

theorem Inv.espCmdWaitEventGuard {s : Engine} (h : Inv s) {t : Nat} {n : NodeId} (ht : s.pc t = .waiting n) :
    Inv (espCmdWaitEventGuard s t n) := by
  have hnode : (s.pc t).node = some n := by simp [ht,Pc.node]
  obtain ⟨huse,hqueued,hwhere⟩ := h.stage ht rfl
  simp only [Cmd.espCmdWaitEventGuard]
  split
  · rename_i hcomp
    exact h.wake ht hcomp
  · rename_i hcomp
    by_cases hp : n ∈ s.pending
    · rw [if_pos ((h.node n).flag.mpr hp)]
      have hout := h.not_mem_erase n
      refine (h.unlinkComplete hp (-ETIMEDOUT)).callerMoves hnode ?_ ?_
      · split <;> rfl
      · have hdone : ((s.unlink n).modify n (Node.complete · (-ETIMEDOUT))).nodes n =
            Node.complete {s.nodes n with inPendingQueue := false} (-ETIMEDOUT) := by simp
        rw [hdone]
        split
        · exact ⟨huse,hqueued,hout,.inl rfl⟩
        · exact ⟨huse,hqueued,hout,.inl rfl,fun hx => by cases hx⟩
    · rw [if_neg (by simp [h.flag_false hp])]
      have hcur : s.cur = some n := (hwhere.resolve_left hcomp).resolve_left hp
      refine h.callerMoves hnode ?_ ?_
      · split <;> rfl
      · split
        · exact ⟨huse,hqueued,hp,.inr hcur⟩
        · exact ⟨huse,hqueued,hp,.inr hcur,fun hx => by cases hx⟩

/-- The caller of `n` releases `cur_cmd` if it is its own. -/
theorem Inv.release {s : Engine} (h : Inv s) {t : Nat} {n : NodeId} {pc : Pc} (ht : (s.pc t).node = some n)
    (hn : pc.node = some n) (f : Node → Node) (hpend : n ∉ s.pending)
    (hflag : (f (s.nodes n)).inPendingQueue = (s.nodes n).inPendingQueue)
    (honce : (f (s.nodes n)).completions = if (f (s.nodes n)).completed then 1 else 0)
    (hstage : Stage (f (s.nodes n)) False False pc) :
    Inv ((Engine.modify (if s.cur = some n then {s with cur := none} else s) n f).setPc t pc) := by
  split
  · rename_i hcur
    refine h.caller ht rfl hn (fun m hm => ⟨?_,Iff.rfl,?_⟩) h.pending (NodeOk.out ?_ hpend ?_) ?_
      ⟨rfl,rfl,rfl,rfl,rfl⟩ h.log
    · simp [Engine.setPc,Engine.modify,Function.update_of_ne hm]
    · simpa [Engine.setPc,Engine.modify,hcur] using fun hx => hm hx.symm
    · simpa [Engine.setPc,h.flag_false hpend] using hflag
    · simpa [Engine.setPc] using honce
    · simpa [Engine.setPc,Engine.modify,hpend] using hstage
  · rename_i hcur
    refine h.callerModify ht hn f hpend hflag honce ?_
    simpa [hpend,hcur] using hstage

theorem Inv.waitAndDecodeCmdResp {s : Engine} (h : Inv s) {t : Nat} {n : NodeId} {ok : Bool}
    (ht : s.pc t = .woken n ok) : Inv (waitAndDecodeCmdResp s t n ok) := by
  have hnode : (s.pc t).node = some n := by simp [ht,Pc.node]
  obtain ⟨huse,hqueued,hpend,-,hok⟩ := h.stage ht rfl
  simp only [Cmd.waitAndDecodeCmdResp,h.flag_false hpend,Bool.false_eq_true,if_false]
  split
  · rename_i hcomp
    have hdone : (s.nodes n).completed = true := hcomp.elim hok id
    have hstage : Stage (id (s.nodes n)) False False (.settled n (s.nodes n).result) :=
      ⟨huse,hqueued,hdone,id,id⟩
    have hx := h.release hnode rfl id hpend rfl (h.node n).once hstage
    simpa [Engine.modify] using hx
  · rename_i hcomp
    have hfalse : (s.nodes n).completed = false := by simpa using fun hx => hcomp (.inr hx)
    exact h.release hnode rfl (Node.complete · (-ETIMEDOUT)) hpend rfl
      (complete_once (h.node n).once hfalse (-ETIMEDOUT)) ⟨huse,hqueued,rfl,id,id⟩

theorem Inv.decode {s : Engine} (h : Inv s) {t : Nat} {n : NodeId} {ret : Int} (ht : s.pc t = .settled n ret) :
    Inv (decode s t n ret) := by
  have hnode : (s.pc t).node = some n := by simp [ht,Pc.node]
  obtain ⟨huse,hqueued,hcomp,hpend,hcur⟩ := h.stage ht rfl
  simp only [Cmd.decode]
  split
  · exact (h.quiet {s.flags with resetExpected := true} s.workQueued (s.resets+1) s.nextSeq).callerMoves hnode rfl
      ⟨huse,hcomp.trans hqueued.symm,hpend,hcur⟩
  · exact h.callerMoves hnode rfl ⟨huse,hcomp.trans hqueued.symm,hpend,hcur⟩

theorem Inv.resetCmdNode {s : Engine} (h : Inv s) {t : Nat} {n : NodeId} {kick : Bool}
    (ht : s.pc t = .recycle n kick) : Inv (resetCmdNode s t n kick) := by
  have hnode : (s.pc t).node = some n := by simp [ht,Pc.node]
  obtain ⟨huse,hcomp,hpend,hcur⟩ := h.stage ht rfl
  simp only [Cmd.resetCmdNode,h.flag_false hpend,Bool.false_eq_true,if_false]
  refine h.caller hnode rfl rfl (fun m hm => ⟨?_,Iff.rfl,Iff.rfl⟩) h.pending (NodeOk.out ?_ hpend ?_) ?_
    ⟨rfl,rfl,rfl,rfl,rfl⟩ (fun r hr => ?_)
  · simp [Engine.setPc,Engine.modify,Function.update_of_ne hm]
  · simp [Engine.setPc]
  · simp [Engine.setPc]
  · exact ⟨huse,by simp [Engine.setPc],hpend,hcur⟩
  · rcases List.mem_append.mp hr with hr | hr
    · exact h.log r hr
    · rw [List.mem_singleton] at hr
      subst hr
      refine ⟨decide_eq_false hpend,decide_eq_false hcur,?_⟩
      rw [← hcomp]
      exact (h.node n).once

theorem Inv.putBack {s : Engine} (h : Inv s) {t : Nat} {n : NodeId} {wasInUse kick : Bool}
    (ht : s.pc t = .putBack n wasInUse kick) :
    Inv (Engine.setPc {s with
      free := s.free ++ [n]
      puts := Function.update s.puts n (s.puts n+1)
      owing := if wasInUse then t :: s.owing else s.owing} t (.retire wasInUse kick)) := by
  have hnode : (s.pc t).node = some n := by simp [ht,Pc.node]
  have hfree := h.not_free hnode
  obtain ⟨rfl,hclean,hpend,hcur⟩ := h.stage ht rfl
  have howe : t ∉ s.owing := by simp [h.owing.2,ht]
  refine ⟨?_,h.pending,fun m => ⟨(h.node m).flag,(h.node m).fresh,(h.node m).once⟩,fun m hm => ?_,
    fun r m hm => ?_,fun r w k hk => ?_,⟨h.owing.1.cons howe,fun r => ?_⟩,?_,fun m => ?_,h.log⟩
  · refine h.custody.move (p := some t) (q := none) (x := n) (by simp) ?_ ?_ ?_
    · simp [Engine.bag,Engine.setPc,ht,Pc.node]
    · simp [Engine.bag,Engine.setPc]
    · intro p hp hq
      cases p with
      | none => exact absurd rfl hq
      | some r =>
        have hr : r ≠ t := fun hx => hp (hx ▸ rfl)
        simp [Engine.bag,Engine.setPc,Function.update_of_ne hr]
  · rcases List.mem_append.mp hm with hm | hm
    · exact h.free m hm
    · rw [List.mem_singleton] at hm
      subst hm
      exact ⟨hclean,hpend,hcur⟩
  · by_cases hr : r = t
    · subst hr
      simp [Engine.setPc,Pc.node] at hm
    · simp only [Engine.setPc,Function.update_of_ne hr] at hm ⊢
      exact h.task r m hm
  · by_cases hr : r = t
    · subst hr
      simp only [Engine.setPc,Function.update_self,Pc.retire.injEq] at hk
      exact hk.1.symm
    · simp only [Engine.setPc,Function.update_of_ne hr] at hk
      exact h.retire r w k hk
  · by_cases hr : r = t
    · subst hr
      simp [Engine.setPc]
    · simp [Engine.setPc,h.owing.2,hr]
  · have hcount := h.count
    simp only [Engine.setPc,List.length_append,if_true,List.length_cons,List.length_nil]
    omega
  · obtain ⟨hin,hout⟩ := h.puts m
    by_cases hm : m = n
    · subst hm
      simp [Engine.setPc,hout hfree]
    · simp only [Engine.setPc,List.mem_append,List.mem_singleton,hm,or_false,Function.update_of_ne hm]
      exact ⟨hin,hout⟩

/-- The last step of `recycle_cmd_node`, which no longer touches the node. -/
theorem Inv.retired {s : Engine} (h : Inv s) {t : Nat} {wasInUse kick : Bool}
    (ht : s.pc t = .retire wasInUse kick) :
    Inv (Engine.setPc {s with
      nodesInUse := if wasInUse then s.nodesInUse-1 else s.nodesInUse
      owing := s.owing.erase t} t (if kick then .kick else .idle)) := by
  obtain rfl := h.retire t wasInUse kick ht
  have howe : t ∈ s.owing := (h.owing.2 t).mpr ⟨kick,ht⟩
  have hpc : ∀ n, Pc.node (if kick then .kick else .idle) ≠ some n := by cases kick <;> simp [Pc.node]
  have hret : ∀ w k, (if kick then Pc.kick else .idle) ≠ .retire w k := by cases kick <;> simp
  refine ⟨?_,h.pending,fun m => ⟨(h.node m).flag,(h.node m).fresh,(h.node m).once⟩,h.free,
    fun r m hm => ?_,fun r w k hk => ?_,⟨h.owing.1.erase t,fun r => ?_⟩,?_,h.puts,h.log⟩
  · convert h.custody using 1
    funext p
    cases p with
    | none => rfl
    | some r =>
      by_cases hr : r = t
      · subst hr
        cases kick <;> simp [Engine.bag,Engine.setPc,ht,Pc.node]
      · simp [Engine.bag,Engine.setPc,Function.update_of_ne hr]
  · by_cases hr : r = t
    · subst hr
      simp only [Engine.setPc,Function.update_self] at hm
      exact absurd hm (hpc m)
    · simp only [Engine.setPc,Function.update_of_ne hr] at hm ⊢
      exact h.task r m hm
  · by_cases hr : r = t
    · subst hr
      simp only [Engine.setPc,Function.update_self] at hk
      exact absurd hk (hret w k)
    · simp only [Engine.setPc,Function.update_of_ne hr] at hk
      exact h.retire r w k hk
  · have hmem : r ∈ s.owing.erase t ↔ r ≠ t ∧ r ∈ s.owing := h.owing.1.mem_erase_iff
    by_cases hr : r = t
    · subst hr
      cases kick <;> simp [Engine.setPc,hmem]
    · simp [Engine.setPc,hmem,h.owing.2,hr]
  · have hcount := h.count
    have hlen := List.length_erase_of_mem howe
    have hpos := List.length_pos_of_mem howe
    simp only [Engine.setPc,if_true,hlen]
    omega

theorem Inv.kicked {s : Engine} (h : Inv s) {t : Nat} (ht : s.pc t = .kick) : Inv (s.setPc t .idle) := by
  refine ⟨?_,h.pending,fun m => ⟨(h.node m).flag,(h.node m).fresh,(h.node m).once⟩,h.free,
    fun r m hm => ?_,fun r w k hk => ?_,⟨h.owing.1,fun r => ?_⟩,h.count,h.puts,h.log⟩
  · convert h.custody using 1
    funext p
    cases p with
    | none => rfl
    | some r =>
      by_cases hr : r = t
      · subst hr
        simp [Engine.bag,Engine.setPc,ht,Pc.node]
      · simp [Engine.bag,Engine.setPc,Function.update_of_ne hr]
  · by_cases hr : r = t
    · subst hr
      simp [Engine.setPc,Pc.node] at hm
    · simp only [Engine.setPc,Function.update_of_ne hr] at hm ⊢
      exact h.task r m hm
  · by_cases hr : r = t
    · subst hr
      simp [Engine.setPc] at hk
    · simp only [Engine.setPc,Function.update_of_ne hr] at hk
      exact h.retire r w k hk
  · by_cases hr : r = t
    · subst hr
      simp [Engine.setPc,h.owing.2,ht]
    · simp [Engine.setPc,Function.update_of_ne hr,h.owing.2]

theorem Inv.advance {s s' : Engine} (h : Inv s) {t : Nat} (hs : advance s t = some s') : Inv s' := by
  unfold Cmd.advance at hs
  split at hs
  · rename_i n ht
    obtain rfl := Option.some.inj hs
    obtain ⟨huse,hqueued,hpend,hwhere⟩ := h.stage ht rfl
    exact (h.quiet {s.flags with resetExpected := true} s.workQueued (s.resets+1) s.nextSeq).callerMoves
      (by simp [ht,Pc.node]) rfl ⟨huse,hqueued,hpend,hwhere,fun hx => by cases hx⟩
  · rename_i n ok ht
    exact Option.some.inj hs ▸ h.waitAndDecodeCmdResp ht
  · rename_i n ret ht
    exact Option.some.inj hs ▸ h.decode ht
  · rename_i n kick ht
    exact Option.some.inj hs ▸ h.resetCmdNode ht
  · rename_i n wasInUse kick ht
    exact Option.some.inj hs ▸ h.putBack ht
  · rename_i wasInUse kick ht
    exact Option.some.inj hs ▸ h.retired ht
  · rename_i ht
    exact Option.some.inj hs ▸ (h.quiet s.flags (s.workQueued || s.flags.cmdInitDone) s.resets s.nextSeq).kicked ht
  · cases hs

theorem Inv.submit {s : Engine} (h : Inv s) {n : NodeId} (hn : n ∈ s.pending) (hnone : s.cur = none)
    (jiffies : Nat) :
    Inv (Engine.modify {s.unlink n with cur := some n} n fun nd => {nd with sentAt := jiffies, cmdSkb := false}) := by
  obtain ⟨hcomp,-⟩ := (h.node n).fresh hn
  have hfree : n ∉ s.free := fun hf => (h.free n hf).2.1 hn
  have hout := h.not_mem_erase n
  refine h.event hfree rfl (fun m hm => ⟨?_,?_,?_⟩) (h.pending.erase n) (NodeOk.out ?_ hout ?_)
    (fun pc hnode hpc => ?_) ⟨rfl,rfl,rfl,rfl,rfl⟩ rfl
  · simp [Engine.modify,Engine.unlink,Function.update_of_ne hm]
  · exact List.mem_erase_of_ne hm
  · simpa [Engine.modify,hnone] using fun hx => hm hx.symm
  · simp
  · simpa using (h.node n).once
  · obtain rfl := hpc.waiting_of_pending hnode hn
    simpa [Stage,Engine.modify,Engine.unlink] using ⟨hpc.1,hpc.2.1⟩

theorem Inv.espCmdWork {s : Engine} (h : Inv s) (jiffies : Nat) (sent : Int) : Inv (espCmdWork s jiffies sent) := by
  have hq := h.quiet s.flags false s.resets s.nextSeq
  simp only [Cmd.espCmdWork]
  split
  · exact hq
  split
  · exact hq
  split
  · exact hq
  rename_i hcur
  have hnone : s.cur = none := by simpa using hcur
  split
  · exact hq
  rename_i n rest hpending
  have hn : n ∈ s.pending := by simp [hpending]
  split
  · exact hq.unlinkComplete hn (-ESHUTDOWN)
  split
  · exact hq.unlinkComplete hn (-EINVAL)
  have hsub := hq.submit hn hnone jiffies
  split
  · refine hsub.completeCurrent rfl ?_ (Node.complete · sent) ⟨rfl,rfl,rfl,rfl,rfl⟩
    simpa using ((h.node n).fresh hn).1
  · exact hsub

theorem Inv.processCmdResp {s : Engine} (h : Inv s) (skb : Bytes) : Inv (processCmdResp s skb) := by
  unfold Cmd.processCmdResp
  split
  · exact h
  split
  · exact h
  split
  · exact h
  split
  · exact h
  rename_i n hcur
  split
  · exact h
  split
  · exact h
  rename_i hfresh
  have hcomp : (s.nodes n).completed = false := by simpa using fun hx => hfresh (.inl hx)
  exact h.completeCurrent hcur hcomp _ ⟨rfl,rfl,rfl,rfl,rfl⟩

theorem Inv.espCmdTransportFailed {s : Engine} (h : Inv s) (code : UInt8) (seq : UInt16) (error : Int) :
    Inv (espCmdTransportFailed s code seq error) := by
  unfold Cmd.espCmdTransportFailed
  split
  · exact h
  rename_i n hcur
  split
  · exact h
  split
  · exact h
  rename_i hfresh
  have hcomp : (s.nodes n).completed = false := by simpa using fun hx => hfresh (.inl hx)
  exact h.completeCurrent hcur hcomp _ ⟨rfl,rfl,rfl,rfl,rfl⟩

theorem Inv.abortPending {s : Engine} (h : Inv s) (q : List NodeId) (hq : s.pending = q) :
    Inv (abortPending s q) := by
  induction q generalizing s with
  | nil => exact h
  | cons n q ih =>
    have hn : n ∈ s.pending := by simp [hq]
    refine ih (h.unlinkComplete hn (-ESHUTDOWN)) ?_
    simp [Engine.modify,Engine.unlink,hq]

theorem Inv.espCmdAbortWaiters {s : Engine} (h : Inv s) : Inv (espCmdAbortWaiters s) := by
  unfold Cmd.espCmdAbortWaiters
  cases hcur : s.cur with
  | none => exact h.abortPending s.pending rfl
  | some n =>
    simp only [Option.elim]
    split
    · rename_i hcomp
      exact (h.completeCurrent hcur hcomp (Node.complete · (-ESHUTDOWN)) ⟨rfl,rfl,rfl,rfl,rfl⟩).abortPending _ rfl
    · exact h.abortPending s.pending rfl

theorem step_inv {s s' : Engine} {a : Action} (h : Inv s) (hs : step s a = some s') : Inv s' := by
  cases a with
  | setFlags f => exact Option.some.inj hs ▸ h.quiet f s.workQueued s.resets s.nextSeq
  | request t code len =>
    simp only [step] at hs
    split at hs
    · rename_i ht
      exact Option.some.inj hs ▸ h.getFreeCmdNode ht code len
    · cases hs
  | alloc t ok =>
    simp only [step] at hs
    split at hs
    · rename_i n code len ht
      cases ok
      · exact Option.some.inj hs ▸ (h.alloc ht).2
      · exact Option.some.inj hs ▸ (h.alloc ht).1
    · cases hs
  | prepare t tailroom =>
    simp only [step] at hs
    split at hs
    · rename_i n code len ht
      exact Option.some.inj hs ▸ h.prepareCommandRequest ht tailroom
    · cases hs
  | abandon t =>
    simp only [step] at hs
    split at hs
    · rename_i n ht
      exact Option.some.inj hs ▸ h.abandon ht
    · cases hs
  | queue t highPrio waits =>
    simp only [step] at hs
    split at hs
    · rename_i n ht
      exact Option.some.inj hs ▸ h.queueCmdNode ht highPrio waits
    · cases hs
  | wake t =>
    simp only [step] at hs
    split at hs
    · rename_i n ht
      split at hs
      · rename_i hcomp
        exact Option.some.inj hs ▸ h.wake ht hcomp
      · cases hs
    · cases hs
  | expire t =>
    simp only [step] at hs
    split at hs
    · rename_i n ht
      exact Option.some.inj hs ▸ h.espCmdWaitEventGuard ht
    · cases hs
  | advance t => exact h.advance hs
  | work jiffies sent => exact Option.some.inj hs ▸ h.espCmdWork jiffies sent
  | response skb => exact Option.some.inj hs ▸ h.processCmdResp skb
  | transportFailed code seq error => exact Option.some.inj hs ▸ h.espCmdTransportFailed code seq error
  | abortWaiters => exact Option.some.inj hs ▸ h.espCmdAbortWaiters

inductive Place where
  | free
  | pending
  | current
  | caller (t : Nat)

/-- A caller has a node to itself before it queues it and after it is out of both queues again. -/
def Engine.At (s : Engine) : Place → NodeId → Prop
  | .free,n => n ∈ s.free
  | .pending,n => n ∈ s.pending
  | .current,n => s.cur = some n
  | .caller t,n => (s.pc t).node = some n ∧ n ∉ s.pending ∧ s.cur ≠ some n

/-- No caller is between putting its node back and taking it off the count. -/
def Engine.Quiescent (s : Engine) : Prop := ∀ t wasInUse kick, s.pc t ≠ .retire wasInUse kick

theorem Inv.place_free {s : Engine} (h : Inv s) {n : NodeId} (hn : n ∈ s.free) {p : Place} (hp : s.At p n) :
    p = .free := by
  obtain ⟨-,hpend,hcur⟩ := h.free n hn
  cases p with
  | free => rfl
  | pending => exact absurd hp hpend
  | current => exact absurd hp hcur
  | caller t => exact absurd hn (h.not_free hp.1)

theorem Inv.place_unique {s : Engine} (h : Inv s) {n : NodeId} {p q : Place} (hp : s.At p n) (hq : s.At q n) :
    p = q := by
  cases p with
  | free => exact (h.place_free hp hq).symm
  | pending =>
    cases q with
    | free => exact h.place_free hq hp
    | pending => rfl
    | current => exact absurd hq ((h.node n).fresh hp).2
    | caller t => exact absurd hp hq.2.1
  | current =>
    cases q with
    | free => exact h.place_free hq hp
    | pending => exact absurd hp ((h.node n).fresh hq).2
    | current => rfl
    | caller t => exact absurd hp hq.2.2
  | caller t =>
    cases q with
    | free => exact h.place_free hq hp
    | pending => exact absurd hq hp.2.1
    | current => exact absurd hq hp.2.2
    | caller r => rw [h.holder_unique hq.1 hp.1]

theorem Inv.place {s : Engine} (h : Inv s) (n : NodeId) : ∃! p, s.At p n := by
  have hsome : ∃ p, s.At p n := by
    by_cases hfree : n ∈ s.free
    · exact ⟨.free,hfree⟩
    by_cases hpend : n ∈ s.pending
    · exact ⟨.pending,hpend⟩
    by_cases hcur : s.cur = some n
    · exact ⟨.current,hcur⟩
    obtain ⟨t,ht⟩ := h.holder hfree
    exact ⟨.caller t,ht,hpend,hcur⟩
  obtain ⟨p,hp⟩ := hsome
  exact ⟨p,hp,fun q hq => h.place_unique hq hp⟩

theorem Inv.holder_existsUnique {s : Engine} (h : Inv s) {n : NodeId} (hn : n ∉ s.free) :
    ∃! t, (s.pc t).node = some n := by
  obtain ⟨t,ht⟩ := h.holder hn
  exact ⟨t,ht,fun r hr => h.holder_unique ht hr⟩

theorem Inv.inUse {s : Engine} (h : Inv s) (hq : s.Quiescent) :
    s.nodesInUse = ((Finset.univ.filter (· ∉ s.free)).card : Nat) := by
  have howe : s.owing = [] := by
    rw [List.eq_nil_iff_forall_not_mem]
    intro t ht
    obtain ⟨kick,hk⟩ := (h.owing.2 t).mp ht
    exact hq t true kick hk
  have hcard : (Finset.univ.filter (· ∉ s.free)).card+s.free.length = ESP_NUM_OF_CMD_NODES := by
    have hsplit := Finset.card_filter_add_card_filter_not (s := Finset.univ) (· ∈ s.free)
    have hin : (Finset.univ.filter (· ∈ s.free)).card = s.free.length := by
      have hnodup : s.free.Nodup := h.custody.nodup none
      rw [← List.toFinset_card_of_nodup hnodup]
      congr 1
      ext n
      simp
    rw [hin,Finset.card_univ,Fintype.card_fin] at hsplit
    omega
  have hcount := h.count
  rw [howe,List.length_nil] at hcount
  omega

theorem cmd_node_ownership {as : List Action} {s : Engine} (h : exec step {} as = some s) :
    (∀ n, ∃! p, s.At p n) ∧ s.free.Nodup ∧ s.pending.Nodup ∧
      (∀ n m, s.At .current n → s.At .current m → n = m) ∧
      (∀ n, n ∉ s.free → ∃! t, (s.pc t).node = some n) ∧
      (s.Quiescent → s.nodesInUse = ((Finset.univ.filter (· ∉ s.free)).card : Nat)) ∧
      (∀ n, s.takes n = s.puts n+if n ∈ s.free then 0 else 1) ∧
      (∀ r ∈ s.recycled, r.pending = false ∧ r.current = false ∧ r.completions = if r.queued then 1 else 0) ∧
      ∀ n, (s.nodes n).completions = if (s.nodes n).completed then 1 else 0 := by
  have hinv : Inv s := exec_invariant (fun _ _ _ => step_inv) inv_initial h
  refine ⟨hinv.place,hinv.custody.nodup none,hinv.pending,fun n m hn hm => ?_,
    fun n hn => hinv.holder_existsUnique hn,hinv.inUse,fun n => ?_,fun r hr => ?_,fun n => (hinv.node n).once⟩
  · exact Option.some.inj (hn.symm.trans hm)
  · split
    · rename_i hn
      exact (hinv.puts n).1 hn
    · rename_i hn
      exact (hinv.puts n).2 hn
  · obtain ⟨h1,h2,h3⟩ := hinv.log r hr
    exact ⟨h1,h2,h3⟩

def advances (t k : Nat) : List Action := List.replicate k (.advance t)

/-- One command expires behind another, which is answered while its own wait times out. A
third is rejected by the worker and a fourth is current. -/
def contestedRun : List Action :=
  ([.request 0 CMD_SCAN_REQUEST 8,.alloc 0 true,.prepare 0 2048,.queue 0 false true,
   .request 1 CMD_ADD_KEY 8,.alloc 1 true,.prepare 1 2048,.queue 1 false true,.work 5 0,.expire 1] : List Action) ++
  advances 1 6 ++ ([.expire 0,.response [CMD_SCAN_REQUEST,0,0,0,1,0,0,0]] : List Action) ++ advances 0 7 ++
  ([.setFlags {},.request 2 CMD_SET_MAC 8,.alloc 2 true,.prepare 2 2048,.queue 2 true true,
   .setFlags {driverUnloading := true, allowDeinit := true},.work 9 0,.setFlags {},
   .request 3 CMD_GET_MAC 8,.alloc 3 true,.prepare 3 2048,.queue 3 false true,.work 11 0] : List Action)

theorem cmd_node_ownership_contested :
    ∃ s ∈ exec step {} contestedRun,
      s.recycled.map (·.completions) = [1,1] ∧ s.cur.map Fin.val = some 3 ∧ s.nodesInUse = 2 ∧
      (∀ n, ∃! p, s.At p n) ∧ ∀ n, s.takes n = s.puts n+if n ∈ s.free then 0 else 1 := by
  have h : ∃ s ∈ exec step {} contestedRun,
      s.recycled.map (·.completions) = [1,1] ∧ s.cur.map Fin.val = some 3 ∧ s.nodesInUse = 2 := by
    decide +kernel
  obtain ⟨s,hs,hrecycled,hcur,huse⟩ := h
  have hall := cmd_node_ownership hs
  exact ⟨s,hs,hrecycled,hcur,huse,hall.1,hall.2.2.2.2.2.2.1⟩

end EspHosted.Cmd
