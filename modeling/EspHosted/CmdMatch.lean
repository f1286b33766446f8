import EspHosted.CmdTimeout

/-!
Which response a caller decodes. The trace adds to the engine what it does not keep: the
commands that were prepared, the frames in the order they came, and where each frame is.
-/

set_option autoImplicit false

namespace EspHosted.Cmd
open EspHosted Run

structure Trace where
  engine : Engine := {}
  /-- Code and sequence number of every command that was prepared. -/
  prepared : List (UInt8 × UInt16) := []
  /-- Which of them is in the node. -/
  index : NodeId → Nat := fun _ => 0
  /-- How many frames `process_cmd_resp` was given; the next one has this number. -/
  arrived : Nat := 0
  /-- The same when the command in the node went out. -/
  before : NodeId → Nat := fun _ => 0
  /-- The frame in `resp_skb`. -/
  held : NodeId → Option Nat := fun _ => none
  /-- How many commands were prepared when it came. -/
  known : NodeId → Nat := fun _ => 0
  /-- The frames given to `dev_kfree_skb_any`. -/
  freed : List Nat := []

/-- The node that `process_cmd_resp` puts the frame into; it frees the frame on every other
path. -/
def acceptedBy (s : Engine) (skb : Bytes) : Option NodeId :=
  s.cur.filter fun n => (s.nodes n).respSkb.isNone && ((processCmdResp s skb).nodes n).respSkb.isSome

def Trace.prepares (tr : Trace) (t : Nat) (s' : Engine) : Trace :=
  match tr.engine.pc t with
  | .allocated n _ _ =>
    {tr with
      engine := s'
      prepared := tr.prepared ++ [((s'.nodes n).cmdCode,(s'.nodes n).cmdSeq)]
      index := Function.update tr.index n tr.prepared.length}
  | _ => {tr with engine := s'}

def Trace.submits (tr : Trace) (s' : Engine) : Trace :=
  match tr.engine.cur,s'.cur with
  | none,some n => {tr with engine := s', before := Function.update tr.before n tr.arrived}
  | _,_ => {tr with engine := s'}

def Trace.arrives (tr : Trace) (skb : Bytes) (s' : Engine) : Trace :=
  match acceptedBy tr.engine skb with
  | some n =>
    {tr with
      engine := s'
      arrived := tr.arrived+1
      held := Function.update tr.held n (some tr.arrived)
      known := Function.update tr.known n tr.prepared.length}
  | none => {tr with engine := s', arrived := tr.arrived+1, freed := tr.freed ++ [tr.arrived]}

/-- `reset_cmd_node` frees `resp_skb`. -/
def Trace.recycles (tr : Trace) (t : Nat) (s' : Engine) : Trace :=
  match tr.engine.pc t with
  | .recycle n _ =>
    {tr with
      engine := s'
      freed := tr.freed ++ (tr.held n).toList
      held := Function.update tr.held n none}
  | _ => {tr with engine := s'}

def Trace.record (tr : Trace) (s' : Engine) : Action → Trace
  | .prepare t _ => tr.prepares t s'
  | .work _ _ => tr.submits s'
  | .response skb => tr.arrives skb s'
  | .advance t => tr.recycles t s'
  | _ => {tr with engine := s'}

def Trace.step (tr : Trace) (a : Action) : Option Trace := (Cmd.step tr.engine a).map fun s' => tr.record s' a

theorem record_engine (tr : Trace) (s' : Engine) (a : Action) : (tr.record s' a).engine = s' := by
  cases a <;> simp only [Trace.record]
  · simp only [Trace.prepares]
    split <;> rfl
  · simp only [Trace.recycles]
    split <;> rfl
  · simp only [Trace.submits]
    split <;> rfl
  · simp only [Trace.arrives]
    split <;> rfl

theorem exec_engine (tr : Trace) (as : List Action) : (exec Trace.step tr as).map (·.engine) = exec step tr.engine as := by
  induction as generalizing tr with
  | nil => rfl
  | cons a as ih =>
    cases hs : step tr.engine a with
    | none => simp [exec,Trace.step,hs]
    | some s' =>
      have hnext := ih (tr.record s' a)
      rw [record_engine] at hnext
      simpa [exec,Trace.step,hs] using hnext

/-- The sequence number of the `i`-th command. -/
def seqAt (i : Nat) : Nat := i % 65535+1

theorem nextCmdSeq_toNat (seq : UInt16) : (nextCmdSeq seq).toNat = if seq.toNat = 65535 then 1 else seq.toNat+1 := by
  have hlt := seq.toNat_lt
  have hadd : (seq+1).toNat = (seq.toNat+1) % 65536 := by simp
  unfold nextCmdSeq
  split
  · rename_i hz
    rw [hz] at hadd
    simp only [UInt16.toNat_zero] at hadd
    rw [if_pos (by omega)]
    rfl
  · rename_i hz
    have hne : (seq+1).toNat ≠ 0 := fun hx => hz (by simpa [← UInt16.toNat_inj] using hx)
    rw [if_neg (by omega),hadd]
    omega

theorem seqAt_inj {i j k : Nat} (h : seqAt i = seqAt j) (hi : i < k) (hj : j < k) (hi' : k-i ≤ 65535) (hj' : k-j ≤ 65535) :
    i = j := by
  unfold seqAt at h
  omega

/-- What the trace says about the command in one node. -/
structure NodeMatch (tr : Trace) (n : NodeId) : Prop where
  answered : ∀ skb, (tr.engine.nodes n).respSkb = some skb → (tr.engine.nodes n).cmdCode ≠ 0 ∧
    respCode skb = (tr.engine.nodes n).cmdCode ∧ respSeq skb = (tr.engine.nodes n).cmdSeq ∧
    ∃ i, tr.held n = some i ∧ tr.before n ≤ i ∧ tr.index n < tr.known n
  done : (tr.engine.nodes n).completed = false → (tr.engine.nodes n).respSkb = none
  empty : (tr.engine.nodes n).respSkb = none → tr.held n = none
  zero : (tr.engine.nodes n).completed = true → (tr.engine.nodes n).result = 0 → (tr.engine.nodes n).respSkb ≠ none
  current : tr.engine.cur = some n → tr.before n ≤ tr.arrived ∧ (tr.engine.nodes n).cmdCode ≠ 0
  named : (tr.engine.nodes n).cmdCode ≠ 0 →
    tr.prepared[tr.index n]? = some ((tr.engine.nodes n).cmdCode,(tr.engine.nodes n).cmdSeq)

/-- A step that neither answers, prepares, submits nor recycles the command. -/
structure Kept (s s' : Engine) (n : NodeId) : Prop where
  same : Same (s.nodes n) (s'.nodes n)
  done : (s'.nodes n).completed = false → (s.nodes n).completed = false
  zero : (s'.nodes n).completed = true → (s'.nodes n).result = 0 →
    (s.nodes n).completed = true ∧ (s.nodes n).result = 0
  cur : s'.cur = some n → s.cur = some n

/-- The notes on the command in `n`, which only grow elsewhere. -/
structure SameNotes (tr tr' : Trace) (n : NodeId) : Prop where
  index : tr'.index n = tr.index n
  before : tr'.before n = tr.before n
  held : tr'.held n = tr.held n
  known : tr'.known n = tr.known n
  prepared : ∃ l, tr'.prepared = tr.prepared ++ l
  arrived : tr.arrived ≤ tr'.arrived

theorem NodeMatch.kept {tr tr' : Trace} {n : NodeId} (h : NodeMatch tr n) (hk : Kept tr.engine tr'.engine n)
    (hn : SameNotes tr tr' n) : NodeMatch tr' n := by
  obtain ⟨hcode,hseq,hresp,-,-⟩ := hk.same
  refine ⟨fun skb hskb => ?_,fun hx => ?_,fun hx => ?_,fun hc hz => ?_,fun hc => ?_,fun hx => ?_⟩
  · rw [hcode,hseq,hn.held,hn.before,hn.index,hn.known]
    exact h.answered skb (hresp ▸ hskb)
  · rw [hresp]
    exact h.done (hk.done hx)
  · rw [hn.held]
    exact h.empty (hresp ▸ hx)
  · rw [hresp]
    obtain ⟨hc',hz'⟩ := hk.zero hc hz
    exact h.zero hc' hz'
  · obtain ⟨hle,hne⟩ := h.current (hk.cur hc)
    rw [hn.before,hcode]
    exact ⟨hle.trans hn.arrived,hne⟩
  · rw [hcode] at hx
    obtain ⟨l,hl⟩ := hn.prepared
    have hget := h.named hx
    rw [hl,hn.index,hcode,hseq,List.getElem?_append_left (List.getElem?_eq_some_iff.mp hget).1]
    exact hget

theorem step_kept {s s' : Engine} {a : Action} (h : Inv s) (hs : step s a = some s') {n : NodeId}
    (hprep : ∀ t code len tailroom, a = .prepare t tailroom → s.pc t ≠ .allocated n code len)
    (hsub : s.cur = none → s'.cur ≠ some n)
    (hans : ∀ skb, a = .response skb → acceptedBy s skb ≠ some n)
    (hrec : ∀ t kick, a = .advance t → s.pc t ≠ .recycle n kick) : Kept s s' n := by
  cases step_node h hs n with
  | keep same completed result pending cur =>
    exact ⟨same,fun hx => completed ▸ hx,fun hc hz => ⟨completed ▸ hc,result ▸ hz⟩,cur⟩
  | fail same fresh completed result pending cur =>
    exact ⟨same,fun _ => fresh,fun _ hz => absurd hz result,cur⟩
  | prepare t code len tailroom act pc node pending cur => exact absurd pc (hprep t code len tailroom act)
  | submit jiffies sent act none first admitted gate code node pending cur => exact absurd cur (hsub none)
  | answer skb act current code seq fresh empty node pending cur =>
    refine absurd ?_ (hans skb act)
    subst act
    obtain rfl := Option.some.inj hs
    simp [acceptedBy,current,empty,node,Node.complete]
  | recycle t kick act pc node pending cur => exact absurd pc (hrec t kick act)

theorem NodeMatch.prepares {tr : Trace} {s' : Engine} {t : Nat} {n : NodeId} {code : UInt8} {len : Nat}
    (h : NodeMatch tr n) (ht : tr.engine.pc t = .allocated n code len) (hfresh : (tr.engine.nodes n).completed = false)
    (hnode : s'.nodes n = {tr.engine.nodes n with
      cmdCode := code, cmdSeq := nextCmdSeq tr.engine.nextSeq, completed := false, result := 0})
    (hcur : s'.cur ≠ some n) : NodeMatch (tr.prepares t s') n := by
  have hnone := h.done hfresh
  simp only [Trace.prepares,ht]
  refine ⟨fun skb hskb => ?_,fun _ => ?_,fun _ => h.empty hnone,fun hc => ?_,fun hc => absurd hc hcur,fun _ => ?_⟩
  · simp [hnode,hnone] at hskb
  · simp [hnode,hnone]
  · simp [hnode] at hc
  · simp

theorem NodeMatch.submits {tr : Trace} {s' : Engine} {n : NodeId} (h : NodeMatch tr n) (hfresh : (tr.engine.nodes n).completed = false)
    (hcode : (tr.engine.nodes n).cmdCode ≠ 0) (hnone : tr.engine.cur = none) (hcur : s'.cur = some n) {jiffies : Nat} {sent : Int}
    (hnode : s'.nodes n =
      if sent ≠ 0 then Node.complete {tr.engine.nodes n with inPendingQueue := false, sentAt := jiffies, cmdSkb := false} sent
      else {tr.engine.nodes n with inPendingQueue := false, sentAt := jiffies, cmdSkb := false}) :
    NodeMatch (tr.submits s') n := by
  have hempty := h.done hfresh
  have hsame : (s'.nodes n).respSkb = none ∧ (s'.nodes n).cmdCode = (tr.engine.nodes n).cmdCode ∧
      (s'.nodes n).cmdSeq = (tr.engine.nodes n).cmdSeq ∧ ((s'.nodes n).completed = true → (s'.nodes n).result ≠ 0) := by
    rw [hnode]
    split
    · rename_i hz
      exact ⟨hempty,rfl,rfl,fun _ => hz⟩
    · exact ⟨hempty,rfl,rfl,fun hc => by simp [hfresh] at hc⟩
  obtain ⟨h1,h2,h3,h4⟩ := hsame
  simp only [Trace.submits,hnone,hcur]
  refine ⟨fun skb hskb => ?_,fun _ => h1,fun _ => h.empty hempty,fun hc hz => absurd hz (h4 hc),fun _ => ?_,fun _ => ?_⟩
  · simp [h1] at hskb
  · simpa [h2] using hcode
  · simpa [h2,h3] using h.named hcode

theorem NodeMatch.arrives {tr : Trace} {s' : Engine} {skb : Bytes} {n : NodeId} (h : NodeMatch tr n)
    (hacc : acceptedBy tr.engine skb = some n) (hcur : tr.engine.cur = some n)
    (hcode : respCode skb = (tr.engine.nodes n).cmdCode) (hseq : respSeq skb = (tr.engine.nodes n).cmdSeq)
    (hnode : s'.nodes n = Node.complete {tr.engine.nodes n with respSkb := some skb} 0) :
    NodeMatch (tr.arrives skb s') n := by
  obtain ⟨hbefore,hne⟩ := h.current hcur
  have hnamed := h.named hne
  have hlt : tr.index n < tr.prepared.length := (List.getElem?_eq_some_iff.mp hnamed).1
  simp only [Trace.arrives,hacc]
  refine ⟨fun x hx => ?_,fun hx => ?_,fun hx => ?_,fun _ _ => ?_,fun _ => ?_,fun _ => ?_⟩
  · obtain rfl : skb = x := by simpa [hnode,Node.complete] using hx
    refine ⟨by simpa [hnode,Node.complete] using hne,by simpa [hnode,Node.complete] using hcode,
      by simpa [hnode,Node.complete] using hseq,tr.arrived,?_⟩
    simp [hbefore,hlt]
  · simp [hnode,Node.complete] at hx
  · simp [hnode,Node.complete] at hx
  · simp [hnode,Node.complete]
  · exact ⟨by simp only; omega,by simpa [hnode,Node.complete] using hne⟩
  · simpa [hnode,Node.complete] using hnamed

theorem NodeMatch.recycles {tr : Trace} {s' : Engine} {t : Nat} {n : NodeId} {kick : Bool}
    (ht : tr.engine.pc t = .recycle n kick) (hnode : s'.nodes n = {}) (hcur : s'.cur ≠ some n) :
    NodeMatch (tr.recycles t s') n := by
  simp only [Trace.recycles,ht]
  refine ⟨fun skb hskb => ?_,fun _ => ?_,fun _ => ?_,fun hc => ?_,fun hc => absurd hc hcur,fun hx => ?_⟩
  · simp [hnode] at hskb
  · simp [hnode]
  · simp
  · simp [hnode] at hc
  · simp [hnode] at hx

theorem SameNotes.refl (tr : Trace) (s' : Engine) (n : NodeId) : SameNotes tr {tr with engine := s'} n :=
  ⟨rfl,rfl,rfl,rfl,⟨[],by simp⟩,le_rfl⟩

/-- Only the worker fills an empty slot. -/
theorem step_cur_none {s s' : Engine} {a : Action} (h : Inv s) (hs : step s a = some s') (ha : ∀ jiffies sent, a ≠ .work jiffies sent)
    (hn : s.cur = none) (n : NodeId) : s'.cur ≠ some n := by
  intro hc
  cases step_node h hs n with
  | keep same completed result pending cur => simp [hn] at cur; exact cur hc
  | fail same fresh completed result pending cur => simp [hn] at cur; exact cur hc
  | prepare t code len tailroom act pc node pending cur => exact cur hc
  | submit jiffies sent act none first admitted gate code node pending cur => exact ha jiffies sent act
  | answer skb act current code seq fresh empty node pending cur => simp [hn] at current
  | recycle t kick act pc node pending cur => exact cur hc

theorem step_prepares {tr : Trace} {s' : Engine} {t tailroom : Nat} {n : NodeId} (h : Inv tr.engine)
    (hm : NodeMatch tr n) (hs : step tr.engine (.prepare t tailroom) = some s') : NodeMatch (tr.prepares t s') n := by
  have hs₀ := hs
  simp only [step] at hs
  split at hs
  · rename_i m code len ht
    by_cases hnm : n = m
    · subst hnm
      obtain ⟨-,hfresh,-,-,hcur⟩ := h.stage ht rfl
      obtain rfl := Option.some.inj hs
      refine hm.prepares ht hfresh ?_ ?_ <;> simp only [prepareCommandRequest] <;> split <;>
        simp [Engine.setPc,Engine.modify,hcur]
    · have hk : Kept tr.engine s' n := by
        refine step_kept h hs₀ (fun r c l x hx hr => ?_) (fun hn => step_cur_none h hs₀ (by simp) hn n)
          (fun _ hx => by cases hx) (fun _ _ hx => by cases hx)
        cases hx
        rw [ht] at hr
        cases hr
        exact hnm rfl
      refine hm.kept (by simpa [Trace.prepares,ht] using hk) ?_
      simp only [Trace.prepares,ht]
      exact ⟨Function.update_of_ne hnm _ _,rfl,rfl,rfl,⟨_,rfl⟩,le_rfl⟩
  · cases hs

theorem step_submits {tr : Trace} {s' : Engine} {jiffies : Nat} {sent : Int} {n : NodeId} (h : Inv tr.engine)
    (hm : NodeMatch tr n) (hs : step tr.engine (.work jiffies sent) = some s') : NodeMatch (tr.submits s') n := by
  by_cases hsub : tr.engine.cur = none ∧ s'.cur = some n
  · obtain ⟨hnone,hcur⟩ := hsub
    cases step_node h hs n with
    | submit jiffies sent act none first admitted gate code node pending cur =>
      exact hm.submits ((h.node n).fresh (List.mem_of_mem_head? first)).1 code hnone hcur node
    | keep same completed result pending cur => simp [hnone] at cur; exact absurd hcur cur
    | fail same fresh completed result pending cur => simp [hnone] at cur; exact absurd hcur cur
    | prepare t code len tailroom act pc node pending cur => exact absurd hcur cur
    | answer skb act current code seq fresh empty node pending cur => simp [hnone] at current
    | recycle t kick act pc node pending cur => exact absurd hcur cur
  · have hk : Kept tr.engine s' n :=
      step_kept h hs (fun _ _ _ _ hx => by cases hx) (fun hn hc => hsub ⟨hn,hc⟩) (fun _ hx => by cases hx)
        (fun _ _ hx => by cases hx)
    simp only [Trace.submits]
    split
    · rename_i m hnone hcur
      have hnm : n ≠ m := by
        rintro rfl
        exact hsub ⟨hnone,hcur⟩
      exact hm.kept hk ⟨rfl,Function.update_of_ne hnm _ _,rfl,rfl,⟨[],by simp⟩,le_rfl⟩
    · exact hm.kept hk (SameNotes.refl tr s' n)

theorem step_arrives {tr : Trace} {s' : Engine} {skb : Bytes} {n : NodeId} (h : Inv tr.engine)
    (hm : NodeMatch tr n) (hs : step tr.engine (.response skb) = some s') : NodeMatch (tr.arrives skb s') n := by
  by_cases hacc : acceptedBy tr.engine skb = some n
  · have hchange : (tr.engine.nodes n).respSkb = none ∧ (s'.nodes n).respSkb ≠ none := by
      obtain rfl := Option.some.inj hs
      have hx := (Option.filter_eq_some_iff.mp hacc).2
      simpa [Option.isSome_iff_ne_none] using hx
    cases step_node h hs n with
    | answer skb act current code seq fresh empty node pending cur =>
      cases act
      exact hm.arrives hacc current code seq node
    | keep same completed result pending cur => exact absurd (same.resp.trans hchange.1) hchange.2
    | fail same fresh completed result pending cur => exact absurd (same.resp.trans hchange.1) hchange.2
    | prepare t code len tailroom act pc node pending cur => cases act
    | submit jiffies sent act none first admitted gate code node pending cur => cases act
    | recycle t kick act pc node pending cur => cases act
  · have hk : Kept tr.engine s' n := by
      refine step_kept h hs (fun _ _ _ _ hx => by cases hx) (fun hn => step_cur_none h hs (by simp) hn n) (fun x hx => ?_)
        (fun _ _ hx => by cases hx)
      cases hx
      exact hacc
    simp only [Trace.arrives]
    split
    · rename_i m hm'
      have hnm : n ≠ m := by
        rintro rfl
        exact hacc hm'
      exact hm.kept hk ⟨rfl,rfl,Function.update_of_ne hnm _ _,Function.update_of_ne hnm _ _,⟨[],by simp⟩,Nat.le_succ _⟩
    · exact hm.kept hk ⟨rfl,rfl,rfl,rfl,⟨[],by simp⟩,Nat.le_succ _⟩

theorem step_recycles {tr : Trace} {s' : Engine} {t : Nat} {n : NodeId} (h : Inv tr.engine)
    (hm : NodeMatch tr n) (hs : step tr.engine (.advance t) = some s') : NodeMatch (tr.recycles t s') n := by
  by_cases hrec : ∃ kick, tr.engine.pc t = .recycle n kick
  · obtain ⟨kick,ht⟩ := hrec
    obtain ⟨-,-,hpend,hcur⟩ := h.stage ht rfl
    simp only [step,Cmd.advance,ht,Cmd.resetCmdNode,h.flag_false hpend,Bool.false_eq_true,if_false,
      Option.some.injEq] at hs
    subst hs
    exact .recycles ht (by simp [Engine.setPc]) hcur
  · have hk : Kept tr.engine s' n := by
      refine step_kept h hs (fun _ _ _ _ hx => by cases hx) (fun hn => step_cur_none h hs (by simp) hn n)
        (fun _ hx => by cases hx) (fun r kick hx hr => ?_)
      cases hx
      exact hrec ⟨kick,hr⟩
    simp only [Trace.recycles]
    split
    · rename_i m kick ht
      have hnm : n ≠ m := by
        rintro rfl
        exact hrec ⟨kick,ht⟩
      exact hm.kept hk ⟨rfl,rfl,Function.update_of_ne hnm _ _,rfl,⟨[],by simp⟩,le_rfl⟩
    · exact hm.kept hk (SameNotes.refl tr s' n)

theorem step_nodeMatch {tr : Trace} {s' : Engine} {a : Action} {n : NodeId} (h : Inv tr.engine) (hm : NodeMatch tr n)
    (hs : step tr.engine a = some s') : NodeMatch (tr.record s' a) n := by
  have hplain : (∀ t x, a ≠ .prepare t x) → (∀ jiffies sent, a ≠ .work jiffies sent) → (∀ skb, a ≠ .response skb) →
      (∀ t, a ≠ .advance t) → NodeMatch {tr with engine := s'} n := by
    intro h1 h2 h3 h4
    have hk : Kept tr.engine s' n :=
      step_kept h hs (fun t _ _ x hx => absurd hx (h1 t x)) (fun hn => step_cur_none h hs h2 hn n)
        (fun skb hx => absurd hx (h3 skb)) (fun t _ hx => absurd hx (h4 t))
    exact hm.kept hk (SameNotes.refl tr s' n)
  cases a with
  | prepare t tailroom => exact step_prepares h hm hs
  | work jiffies sent => exact step_submits h hm hs
  | response skb => exact step_arrives h hm hs
  | advance t => exact step_recycles h hm hs
  | setFlags f => exact hplain (by simp) (by simp) (by simp) (by simp)
  | request t code len => exact hplain (by simp) (by simp) (by simp) (by simp)
  | alloc t ok => exact hplain (by simp) (by simp) (by simp) (by simp)
  | abandon t => exact hplain (by simp) (by simp) (by simp) (by simp)
  | queue t highPrio waits => exact hplain (by simp) (by simp) (by simp) (by simp)
  | wake t => exact hplain (by simp) (by simp) (by simp) (by simp)
  | expire t => exact hplain (by simp) (by simp) (by simp) (by simp)
  | transportFailed code seq error => exact hplain (by simp) (by simp) (by simp) (by simp)
  | abortWaiters => exact hplain (by simp) (by simp) (by simp) (by simp)

/-- Every frame that came is in one node, or was freed, and only once. -/
structure Frames (tr : Trace) : Prop where
  new : ∀ i, tr.arrived ≤ i → i ∉ tr.freed ∧ ∀ n, tr.held n ≠ some i
  freed : tr.freed.Nodup
  apart : ∀ n i, tr.held n = some i → i ∉ tr.freed
  unique : ∀ n m i, tr.held n = some i → tr.held m = some i → n = m
  all : ∀ i, i < tr.arrived → i ∈ tr.freed ∨ ∃ n, tr.held n = some i

theorem Frames.arrives {tr : Trace} (h : Frames tr) (hm : ∀ n, NodeMatch tr n) (skb : Bytes) (s' : Engine) :
    Frames (tr.arrives skb s') := by
  obtain ⟨hfreed,hheld⟩ := h.new tr.arrived le_rfl
  simp only [Trace.arrives]
  split
  · rename_i m hacc
    have hempty : tr.held m = none := by
      have hx := (Option.filter_eq_some_iff.mp hacc).2
      simp only [Bool.and_eq_true,Option.isNone_iff_eq_none] at hx
      exact (hm m).empty hx.1
    refine ⟨fun i hi => ?_,h.freed,fun n i hn => ?_,fun n k i hn hk => ?_,fun i hi => ?_⟩
    · obtain ⟨hf,hh⟩ := h.new i (by simp only at hi; omega)
      refine ⟨hf,fun n hn => ?_⟩
      by_cases hnm : n = m
      · subst hnm
        simp only [Function.update_self,Option.some.injEq] at hn
        simp only at hi
        omega
      · exact hh n (by simpa [Function.update_of_ne hnm] using hn)
    · by_cases hnm : n = m
      · subst hnm
        obtain rfl : tr.arrived = i := by simpa using hn
        exact hfreed
      · exact h.apart n i (by simpa [Function.update_of_ne hnm] using hn)
    · by_cases hnm : n = m <;> by_cases hkm : k = m
      · rw [hnm,hkm]
      · subst hnm
        obtain rfl : tr.arrived = i := by simpa using hn
        exact absurd (by simpa [Function.update_of_ne hkm] using hk) (hheld k)
      · subst hkm
        obtain rfl : tr.arrived = i := by simpa using hk
        exact absurd (by simpa [Function.update_of_ne hnm] using hn) (hheld n)
      · exact h.unique n k i (by simpa [Function.update_of_ne hnm] using hn) (by simpa [Function.update_of_ne hkm] using hk)
    · by_cases hi' : i = tr.arrived
      · subst hi'
        exact .inr ⟨m,by simp⟩
      · rcases h.all i (by simp only at hi; omega) with hf | ⟨n,hn⟩
        · exact .inl hf
        · have hnm : n ≠ m := by
            rintro rfl
            simp [hempty] at hn
          exact .inr ⟨n,by simpa [Function.update_of_ne hnm] using hn⟩
  · refine ⟨fun i hi => ?_,?_,fun n i hn => ?_,h.unique,fun i hi => ?_⟩
    · simp only at hi
      obtain ⟨hf,hh⟩ := h.new i (by omega)
      have hne : i ≠ tr.arrived := by omega
      exact ⟨by simp [hf,hne],hh⟩
    · exact List.nodup_append'.mpr ⟨h.freed,by simp,by simpa using hfreed⟩
    · have hne : i ≠ tr.arrived := by
        rintro rfl
        exact hheld n hn
      simp [h.apart n i hn,hne]
    · by_cases hi' : i = tr.arrived
      · exact .inl (by simp [hi'])
      · rcases h.all i (by simp only at hi; omega) with hf | hx
        · exact .inl (by simp [hf])
        · exact .inr hx

theorem Frames.recycles {tr : Trace} (h : Frames tr) (t : Nat) (s' : Engine) : Frames (tr.recycles t s') := by
  simp only [Trace.recycles]
  split
  · rename_i m kick ht
    refine ⟨fun i hi => ?_,?_,fun n i hn => ?_,fun n k i hn hk => ?_,fun i hi => ?_⟩
    · obtain ⟨hf,hh⟩ := h.new i hi
      refine ⟨by simpa [hf] using hh m,fun n hn => ?_⟩
      by_cases hnm : n = m
      · subst hnm
        simp at hn
      · exact hh n (by simpa [Function.update_of_ne hnm] using hn)
    · refine List.nodup_append'.mpr ⟨h.freed,?_,?_⟩
      · cases tr.held m <;> simp
      · intro i hi hx
        exact h.apart m i (by simpa using hx) hi
    · have hnm : n ≠ m := by
        rintro rfl
        simp at hn
      simp only [Function.update_of_ne hnm] at hn
      have hne : tr.held m ≠ some i := fun hx => hnm (h.unique n m i hn hx)
      simpa [h.apart n i hn] using hne
    · have hnm : n ≠ m := by
        rintro rfl
        simp at hn
      have hkm : k ≠ m := by
        rintro rfl
        simp at hk
      simp only [Function.update_of_ne hnm] at hn
      simp only [Function.update_of_ne hkm] at hk
      exact h.unique n k i hn hk
    · rcases h.all i hi with hf | ⟨n,hn⟩
      · exact .inl (by simp [hf])
      · by_cases hnm : n = m
        · subst hnm
          exact .inl (by simp [hn])
        · exact .inr ⟨n,by simpa [Function.update_of_ne hnm] using hn⟩
  · exact ⟨h.new,h.freed,h.apart,h.unique,h.all⟩

theorem Frames.record {tr : Trace} (h : Frames tr) (hm : ∀ n, NodeMatch tr n) (s' : Engine) (a : Action) :
    Frames (tr.record s' a) := by
  cases a with
  | prepare t tailroom =>
    simp only [Trace.record,Trace.prepares]
    split <;> exact ⟨h.new,h.freed,h.apart,h.unique,h.all⟩
  | work jiffies sent =>
    simp only [Trace.record,Trace.submits]
    split <;> exact ⟨h.new,h.freed,h.apart,h.unique,h.all⟩
  | response skb => exact h.arrives hm skb s'
  | advance t => exact h.recycles t s'
  | _ => exact ⟨h.new,h.freed,h.apart,h.unique,h.all⟩

theorem abortPending_nextSeq (s : Engine) (q : List NodeId) : (abortPending s q).nextSeq = s.nextSeq := by
  induction q generalizing s with
  | nil => rfl
  | cons n q ih => exact ih _

theorem step_nextSeq {s s' : Engine} {a : Action} (hs : step s a = some s') (ha : ∀ t x, a ≠ .prepare t x) :
    s'.nextSeq = s.nextSeq := by
  cases a with
  | prepare t x => exact absurd rfl (ha t x)
  | abortWaiters =>
    obtain rfl := Option.some.inj hs
    unfold Cmd.espCmdAbortWaiters
    rw [abortPending_nextSeq]
    cases s.cur with
    | none => rfl
    | some n =>
      simp only [Option.elim]
      split <;> rfl
  | setFlags f => exact Option.some.inj hs ▸ rfl
  | request t code len =>
    simp only [step,Cmd.getFreeCmdNode] at hs
    repeat' split at hs
    all_goals cases hs <;> rfl
  | alloc t ok =>
    simp only [step] at hs
    repeat' split at hs
    all_goals cases hs <;> rfl
  | abandon t =>
    simp only [step] at hs
    repeat' split at hs
    all_goals cases hs <;> rfl
  | queue t highPrio waits =>
    simp only [step,Cmd.queueCmdNode] at hs
    repeat' split at hs
    all_goals cases hs <;> rfl
  | wake t =>
    simp only [step] at hs
    repeat' split at hs
    all_goals cases hs <;> rfl
  | expire t =>
    simp only [step,Cmd.espCmdWaitEventGuard] at hs
    split at hs
    · split_ifs at hs
      all_goals
        cases hs
        rfl
    · cases hs
  | advance t =>
    simp only [step,Cmd.advance,Cmd.waitAndDecodeCmdResp,Cmd.decode,Cmd.resetCmdNode] at hs
    split at hs
    all_goals first
      | (split_ifs at hs <;> (cases hs; rfl))
      | (cases hs; rfl)
      | cases hs
  | work jiffies sent =>
    obtain rfl := Option.some.inj hs
    simp only [Cmd.espCmdWork]
    repeat' split
    all_goals rfl
  | response skb =>
    obtain rfl := Option.some.inj hs
    unfold Cmd.processCmdResp
    repeat' split
    all_goals rfl
  | transportFailed code seq error =>
    obtain rfl := Option.some.inj hs
    unfold Cmd.espCmdTransportFailed
    repeat' split
    all_goals rfl

/-- The sequence numbers go round through all values but zero. -/
structure Numbered (tr : Trace) : Prop where
  next : tr.engine.nextSeq.toNat = if tr.prepared.length = 0 then 0 else seqAt (tr.prepared.length-1)
  seq : ∀ i p, tr.prepared[i]? = some p → p.2.toNat = seqAt i

theorem Numbered.prepares {tr : Trace} {s' : Engine} {t tailroom : Nat} (h : Numbered tr)
    (hs : step tr.engine (.prepare t tailroom) = some s') : Numbered (tr.prepares t s') := by
  simp only [step] at hs
  split at hs
  · rename_i n code len ht
    have hnext : (nextCmdSeq tr.engine.nextSeq).toNat = seqAt tr.prepared.length := by
      have hn := h.next
      rw [nextCmdSeq_toNat]
      unfold seqAt at hn ⊢
      split at hn <;> split <;> omega
    have hs' : s'.nextSeq = nextCmdSeq tr.engine.nextSeq ∧ (s'.nodes n).cmdSeq = nextCmdSeq tr.engine.nextSeq := by
      obtain rfl := Option.some.inj hs
      simp only [prepareCommandRequest]
      split <;> exact ⟨rfl,by simp [Engine.setPc]⟩
    simp only [Trace.prepares,ht]
    refine ⟨?_,fun i p hp => ?_⟩
    · simp [hs'.1,hnext]
    · rw [List.getElem?_append] at hp
      split at hp
      · exact h.seq i p hp
      · rename_i hi
        obtain ⟨hlt,hval⟩ := List.getElem?_eq_some_iff.mp hp
        simp only [List.length_singleton] at hlt
        obtain rfl : i = tr.prepared.length := by omega
        simp only [Nat.sub_self,List.getElem_cons_zero] at hval
        rw [← hval,hs'.2,hnext]
  · cases hs

theorem Numbered.step {tr : Trace} {s' : Engine} {a : Action} (h : Numbered tr) (hs : step tr.engine a = some s') :
    Numbered (tr.record s' a) := by
  by_cases hprep : ∃ t x, a = .prepare t x
  · obtain ⟨t,x,rfl⟩ := hprep
    exact h.prepares hs
  · have hseq := step_nextSeq hs fun t x hx => hprep ⟨t,x,hx⟩
    have hlist : (tr.record s' a).prepared = tr.prepared := by
      cases a with
      | prepare t x => exact absurd ⟨t,x,rfl⟩ hprep
      | work jiffies sent =>
        simp only [Trace.record,Trace.submits]
        split <;> rfl
      | response skb =>
        simp only [Trace.record,Trace.arrives]
        split <;> rfl
      | advance t =>
        simp only [Trace.record,Trace.recycles]
        split <;> rfl
      | _ => rfl
    refine ⟨?_,?_⟩
    · rw [record_engine,hseq,hlist]
      exact h.next
    · rw [hlist]
      exact h.seq

/-- A caller is moved by its own steps only. -/
theorem step_pc_other {s s' : Engine} {a : Action} {t : Nat} (hs : step s a = some s') (ha : a.caller ≠ some t) :
    s'.pc t = s.pc t := by
  have hupd : ∀ {r} (x : Engine) (pc : Pc), a.caller = some r → x.pc = s.pc → (x.setPc r pc).pc t = s.pc t := by
    intro r x pc hr hx
    have hne : t ≠ r := by
      rintro rfl
      exact ha hr
    simp [Engine.setPc,Function.update_of_ne hne,hx]
  cases a with
  | request r code len =>
    simp only [step,Cmd.getFreeCmdNode] at hs
    split_ifs at hs
    · exact Option.some.inj hs ▸ rfl
    · split at hs
      · exact Option.some.inj hs ▸ rfl
      · exact Option.some.inj hs ▸ hupd _ _ rfl rfl
  | alloc r ok =>
    simp only [step] at hs
    split at hs
    · split_ifs at hs
      all_goals exact Option.some.inj hs ▸ hupd _ _ rfl rfl
    · cases hs
  | prepare r tailroom =>
    simp only [step,Cmd.prepareCommandRequest] at hs
    split at hs
    · split_ifs at hs
      all_goals exact Option.some.inj hs ▸ hupd _ _ rfl rfl
    · cases hs
  | abandon r =>
    simp only [step] at hs
    split at hs
    · exact Option.some.inj hs ▸ hupd _ _ rfl rfl
    · cases hs
  | queue r highPrio waits =>
    simp only [step,Cmd.queueCmdNode] at hs
    split at hs
    · split_ifs at hs
      all_goals exact Option.some.inj hs ▸ hupd _ _ rfl rfl
    · cases hs
  | wake r =>
    simp only [step] at hs
    split at hs
    · split_ifs at hs
      exact Option.some.inj hs ▸ hupd _ _ rfl rfl
    · cases hs
  | expire r =>
    simp only [step,Cmd.espCmdWaitEventGuard] at hs
    split at hs
    · split_ifs at hs
      all_goals exact Option.some.inj hs ▸ hupd _ _ rfl rfl
    · cases hs
  | advance r =>
    simp only [step,Cmd.advance,Cmd.waitAndDecodeCmdResp,Cmd.decode,Cmd.resetCmdNode] at hs
    split at hs
    all_goals first
      | (split_ifs at hs <;> exact Option.some.inj hs ▸ hupd _ _ rfl rfl)
      | exact Option.some.inj hs ▸ hupd _ _ rfl rfl
      | cases hs
  | setFlags f => exact Option.some.inj hs ▸ rfl
  | work jiffies sent =>
    obtain rfl := Option.some.inj hs
    simp only [Cmd.espCmdWork]
    repeat' split
    all_goals rfl
  | response skb =>
    obtain rfl := Option.some.inj hs
    unfold Cmd.processCmdResp
    repeat' split
    all_goals rfl
  | transportFailed code seq error =>
    obtain rfl := Option.some.inj hs
    unfold Cmd.espCmdTransportFailed
    repeat' split
    all_goals rfl
  | abortWaiters =>
    obtain rfl := Option.some.inj hs
    unfold Cmd.espCmdAbortWaiters
    rw [(abortPending_frame _ _).1]
    cases s.cur with
    | none => rfl
    | some n =>
      simp only [Option.elim]
      split <;> rfl

/-- A caller has its result from the locked part of `wait_and_decode_cmd_resp`. -/
theorem settled_of_caller {s s' : Engine} {a : Action} {t : Nat} {n : NodeId} {ret : Int} (hs : step s a = some s')
    (ha : a.caller = some t) (hpc : s'.pc t = .settled n ret) :
    ∃ ok, s.pc t = .woken n ok ∧ s' = waitAndDecodeCmdResp s t n ok := by
  cases a <;> simp only [Action.caller,Option.some.injEq,reduceCtorEq] at ha <;> subst ha
  case request r code len =>
    simp only [step,Cmd.getFreeCmdNode] at hs
    split_ifs at hs with hidle
    · obtain rfl := Option.some.inj hs
      simp [hidle] at hpc
    · split at hs
      · obtain rfl := Option.some.inj hs
        simp [hidle] at hpc
      · obtain rfl := Option.some.inj hs
        simp [Engine.setPc] at hpc
  case alloc r ok =>
    simp only [step] at hs
    split at hs
    · split_ifs at hs
      all_goals
        obtain rfl := Option.some.inj hs
        simp [Engine.setPc] at hpc
    · cases hs
  case prepare r tailroom =>
    simp only [step,Cmd.prepareCommandRequest] at hs
    split at hs
    · split_ifs at hs
      all_goals
        obtain rfl := Option.some.inj hs
        simp [Engine.setPc] at hpc
    · cases hs
  case abandon r =>
    simp only [step] at hs
    split at hs
    · obtain rfl := Option.some.inj hs
      simp [Engine.setPc] at hpc
    · cases hs
  case queue r highPrio waits =>
    simp only [step,Cmd.queueCmdNode] at hs
    split at hs
    · split_ifs at hs
      all_goals
        obtain rfl := Option.some.inj hs
        simp [Engine.setPc] at hpc
    · cases hs
  case wake r =>
    simp only [step] at hs
    split at hs
    · split_ifs at hs
      obtain rfl := Option.some.inj hs
      simp [Engine.setPc] at hpc
    · cases hs
  case expire r =>
    simp only [step,Cmd.espCmdWaitEventGuard] at hs
    split at hs
    · split_ifs at hs
      all_goals
        obtain rfl := Option.some.inj hs
        simp [Engine.setPc] at hpc
    · cases hs
  case advance r =>
    simp only [step,Cmd.advance] at hs
    split at hs
    · obtain rfl := Option.some.inj hs
      simp [Engine.setPc] at hpc
    · rename_i m ok ht
      obtain rfl := Option.some.inj hs
      have hm : m = n := by
        simp only [Cmd.waitAndDecodeCmdResp] at hpc
        split_ifs at hpc
        all_goals
          simp only [Engine.setPc,Function.update_self,Pc.settled.injEq] at hpc
          exact hpc.1
      subst hm
      exact ⟨ok,ht,rfl⟩
    · simp only [Cmd.decode] at hs
      obtain rfl := Option.some.inj hs
      simp [Engine.setPc] at hpc
    · simp only [Cmd.resetCmdNode] at hs
      obtain rfl := Option.some.inj hs
      simp [Engine.setPc] at hpc
    · obtain rfl := Option.some.inj hs
      simp [Engine.setPc] at hpc
    · obtain rfl := Option.some.inj hs
      simp only [Engine.setPc,Function.update_self] at hpc
      split_ifs at hpc
    · obtain rfl := Option.some.inj hs
      simp [Engine.setPc] at hpc
    · cases hs

def Settled (s : Engine) : Prop := ∀ t n ret, s.pc t = .settled n ret → ret = (s.nodes n).result

theorem step_settled {s s' : Engine} {a : Action} (h : Inv s) (hset : Settled s) (hs : step s a = some s') :
    Settled s' := by
  intro t n ret hpc
  by_cases ha : a.caller = some t
  · obtain ⟨ok,ht,rfl⟩ := settled_of_caller hs ha hpc
    simp only [Cmd.waitAndDecodeCmdResp] at hpc ⊢
    split_ifs at hpc ⊢
    all_goals
      simp only [Engine.setPc,Function.update_self,Pc.settled.injEq,true_and] at hpc
      simp [Engine.setPc,← hpc,Node.complete]
  · rw [step_pc_other hs ha] at hpc
    obtain ⟨-,-,-,hpend,hcur⟩ := h.stage hpc rfl
    have hu := step_other h (t := t) (n := n) (by simp [hpc,Pc.node]) ha hs
    rw [(hu.node hpend hcur).1]
    exact hset t n ret hpc

structure Matched (tr : Trace) : Prop where
  inv : Inv tr.engine
  node : ∀ n, NodeMatch tr n
  frames : Frames tr
  numbered : Numbered tr
  settled : Settled tr.engine

theorem matched_initial : Matched {} where
  inv := inv_initial
  node := fun n => ⟨by simp,by simp,by simp,by simp,by simp,by simp⟩
  frames := ⟨by simp,by simp,by simp,by simp,by simp⟩
  numbered := ⟨by simp,by simp⟩
  settled := by simp [Settled]

theorem step_matched {tr tr' : Trace} {a : Action} (h : Matched tr) (hs : tr.step a = some tr') : Matched tr' := by
  obtain ⟨s',hs',rfl⟩ := Option.map_eq_some_iff.mp hs
  refine ⟨?_,fun n => step_nodeMatch h.inv (h.node n) hs',h.frames.record h.node s' a,h.numbered.step hs',?_⟩
  · rw [record_engine]
    exact step_inv h.inv hs'
  · rw [record_engine]
    exact step_settled h.inv h.settled hs'

/-- The result of the wait is zero and the response is the one to the caller's own command. -/
structure Answered (tr : Trace) (n : NodeId) (skb : Bytes) (i : Nat) : Prop where
  resp : (tr.engine.nodes n).respSkb = some skb
  code : respCode skb = (tr.engine.nodes n).cmdCode
  seq : respSeq skb = (tr.engine.nodes n).cmdSeq
  frame : tr.held n = some i
  after : tr.before n ≤ i
  own : tr.prepared[tr.index n]? = some ((tr.engine.nodes n).cmdCode,(tr.engine.nodes n).cmdSeq)
  known : tr.index n < tr.known n
  /-- No other command that was prepared when the frame came has this number, unless 65535
  or more were prepared after one of the two. -/
  unique : ∀ j c, tr.prepared[j]? = some (c,respSeq skb) → j < tr.known n → tr.known n-j ≤ 65535 →
    tr.known n-tr.index n ≤ 65535 → j = tr.index n

theorem Matched.answered {tr : Trace} (h : Matched tr) {t : Nat} {n : NodeId} (ht : tr.engine.pc t = .settled n 0) :
    ∃ skb i, Answered tr n skb i := by
  have hm := h.node n
  obtain ⟨-,-,hcomp,-,-⟩ := h.inv.stage ht rfl
  have hzero : (tr.engine.nodes n).result = 0 := (h.settled t n 0 ht).symm
  obtain ⟨skb,hskb⟩ := Option.ne_none_iff_exists'.mp (hm.zero hcomp hzero)
  obtain ⟨hne,hcode,hseq,i,hheld,hbefore,hknown⟩ := hm.answered skb hskb
  have hown := hm.named hne
  refine ⟨skb,i,hskb,hcode,hseq,hheld,hbefore,hown,hknown,fun j c hj hlt hj' hi' => ?_⟩
  have hsj := h.numbered.seq j _ hj
  have hsi := h.numbered.seq (tr.index n) _ hown
  exact seqAt_inj (by rw [← hsj,← hsi,hseq]) hlt hknown hj' hi'

/-- A frame is freed exactly once, or sits in exactly one node and was not freed. -/
def Trace.FreedOnce (tr : Trace) (i : Nat) : Prop :=
  (tr.freed.count i = 1 ∧ ∀ n, tr.held n ≠ some i) ∨ (tr.freed.count i = 0 ∧ ∃! n, tr.held n = some i)

theorem Frames.freedOnce {tr : Trace} (h : Frames tr) {i : Nat} (hi : i < tr.arrived) : tr.FreedOnce i := by
  rcases h.all i hi with hf | ⟨n,hn⟩
  · exact .inl ⟨List.count_eq_one_of_mem h.freed hf,fun n hn => h.apart n i hn hf⟩
  · exact .inr ⟨List.count_eq_zero_of_not_mem (h.apart n i hn),n,hn,fun m hm => h.unique m n i hm hn⟩

theorem processCmdResp_completed (s : Engine) (skb : Bytes) {n : NodeId} (h : (s.nodes n).completed = true) :
    (processCmdResp s skb).nodes n = s.nodes n := by
  unfold Cmd.processCmdResp
  split_ifs
  · rfl
  · rfl
  · rfl
  split
  · rfl
  rename_i m hcur
  split_ifs with hmatch hdone
  · rfl
  · rfl
  · have hnm : n ≠ m := by
      rintro rfl
      exact hdone (.inl h)
    exact (sameAt_modify s m _ hnm).1

theorem command_responses_matched {as : List Action} {s : Engine} (h : exec step {} as = some s) :
    ∃ tr, exec Trace.step {} as = some tr ∧ tr.engine = s ∧
      (∀ t n, s.pc t = .settled n 0 → ∃ skb i, Answered tr n skb i) ∧
      (∀ n skb, (s.nodes n).completed = true → (processCmdResp s skb).nodes n = s.nodes n) ∧
      (∀ i, i < tr.arrived → tr.FreedOnce i) ∧ ∀ n, n ∈ s.free → tr.held n = none := by
  have hmap := exec_engine {} as
  rw [h] at hmap
  obtain ⟨tr,htr,rfl⟩ := Option.map_eq_some_iff.mp hmap
  have hm : Matched tr := exec_invariant (fun _ _ _ => step_matched) matched_initial htr
  refine ⟨tr,htr,rfl,fun t n ht => hm.answered ht,fun n skb hc => processCmdResp_completed _ skb hc,
    fun i hi => hm.frames.freedOnce hi,fun n hn => (hm.node n).empty ?_⟩
  rw [(hm.inv.free n hn).1]

/-- A late response to an earlier command, the response to the present one, and the same
again. -/
def lateRun : List Action :=
  ([.request 0 CMD_GET_MAC 8,.alloc 0 true,.prepare 0 2048,.queue 0 false true,.work 5 0,.expire 0] : List Action) ++
  advances 0 6 ++
  ([.request 1 CMD_GET_MAC 8,.alloc 1 true,.prepare 1 2048,.queue 1 false true,.work 9 0,
   .response [CMD_GET_MAC,0,0,0,1,0,0,0],.response [CMD_GET_MAC,0,0,0,2,0,0,0],.response [CMD_GET_MAC,0,0,0,2,0,0,0],
   .wake 1,.advance 1] : List Action)

theorem command_responses_matched_late :
    ∃ s ∈ exec step {} lateRun, ∃ n tr, s.pc 1 = .settled n 0 ∧ exec Trace.step {} lateRun = some tr ∧
      ∃ skb i, Answered tr n skb i ∧ ∀ i, i < tr.arrived → tr.FreedOnce i := by
  have h : ∃ s ∈ exec step {} lateRun, ∃ n, s.pc 1 = .settled n 0 := by decide +kernel
  obtain ⟨s,hs,n,ht⟩ := h
  obtain ⟨tr,htr,-,hanswered,-,honce,-⟩ := command_responses_matched hs
  obtain ⟨skb,i,hi⟩ := hanswered 1 n ht
  exact ⟨s,hs,n,tr,ht,htr,skb,i,hi,honce⟩

end EspHosted.Cmd
