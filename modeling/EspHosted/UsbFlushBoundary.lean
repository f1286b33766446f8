import EspHosted.UsbFlush

/-!
Frames of one queue stay in the order of acceptance, also while a flush has set some of them
aside, and the counters follow the frames that have left the queues.
-/

set_option autoImplicit false

namespace EspHosted.UsbFlush
open EspHosted Run

/-! The counters. -/

theorem countP_urb {l : List Urb} {i : Nat} {u : Urb} (h : l[i]? = some u) (f : Urb → Bool) :
    (∀ v, (l.set i v).countP f+(f u).toNat = l.countP f+(f v).toNat) ∧
    (l.eraseIdx i).countP f+(f u).toNat = l.countP f := by
  obtain ⟨hi,rfl⟩ := List.getElem?_eq_some_iff.mp h
  have hl : l.countP f = (l.eraseIdx i).countP f+(f l[i]).toNat := by
    have hp := (List.getElem_cons_eraseIdx_perm hi).countP_eq f
    rw [← hp,List.countP_cons]
    cases f l[i] <;> simp
  refine ⟨fun v => ?_,by omega⟩
  have hs := (List.set_perm_cons_eraseIdx hi v).countP_eq f
  rw [hs,List.countP_cons]
  cases f v <;> simp <;> omega

/-- The frames `p` among those that have left the queues and are not completed. -/
def State.load (s : State) (p : Skb → Bool) : Nat :=
  s.work.counted.countP p+s.urbs.countP (fun u => u.counted && p u.skb)

theorem outstanding_countP (s : State) (p : Skb → Bool) : s.outstanding.countP p = s.load p := by
  unfold State.outstanding State.load
  rw [List.countP_append,List.countP_map,List.countP_filter]
  congr 2
  funext u
  simp [Bool.and_comm]

def isType (t : Nat) (b : Skb) : Bool := decide (b.ifType = t)

def WorkPc.anchoredUrbs : WorkPc → Nat
  | .anchored _ => 1
  | _ => 0

structure Counts (s : State) : Prop where
  tx : s.txInflight = ((s.work.anchoredUrbs+s.urbs.countP (fun u => u.pc.anchored) : Nat) : Int)
  rcp : s.rcpTxInflight = s.load (isType ESP_RCP_IF)
  hci : s.hciTxInflight = s.load (isType ESP_HCI_IF)

theorem anchored_eq (s : State) : s.anchored = s.work.anchoredUrbs+s.urbs.countP (fun u => u.pc.anchored) := by
  unfold State.anchored
  rw [List.countP_eq_length_filter]
  cases s.work <;> rfl

section
variable {s s' : State}

/-- `tx_inflight` follows the anchored URB of the worker. -/
theorem Counts.anchor (h : Counts s) (hw : s'.work.counted = s.work.counted) (hu : s'.urbs = s.urbs)
    (h1 : s'.txInflight = s.txInflight+((s'.work.anchoredUrbs : Int)-s.work.anchoredUrbs))
    (h2 : s'.rcpTxInflight = s.rcpTxInflight) (h3 : s'.hciTxInflight = s.hciTxInflight) : Counts s' where
  tx := by
    rw [h1,h.tx,hu]
    push_cast
    omega
  rcp := by unfold State.load; rw [h2,hw,hu]; exact h.rcp
  hci := by unfold State.load; rw [h3,hw,hu]; exact h.hci

theorem Counts.submit (h : Counts s) {b : Skb} (hw : s.work = .anchored b) (hw' : s'.work = .loop)
    (hu : s'.urbs = s.urbs ++ [{skb := b}]) (h1 : s'.txInflight = s.txInflight)
    (h2 : s'.rcpTxInflight = s.rcpTxInflight) (h3 : s'.hciTxInflight = s.hciTxInflight) : Counts s' := by
  have hload : ∀ p, s'.load p = s.load p := by
    intro p
    unfold State.load
    rw [hw,hw',hu,List.countP_append]
    simp only [WorkPc.counted,Urb.counted,List.countP_cons,List.countP_nil,Bool.true_and]
    omega
  refine ⟨?_,by rw [h2,h.rcp,hload],by rw [h3,h.hci,hload]⟩
  rw [h1,h.tx,hw,hw',hu,List.countP_append]
  simp only [WorkPc.anchoredUrbs,UrbPc.anchored,List.countP_cons,List.countP_nil]
  simp
  omega

theorem Counts.frame (h : Counts s) (hw : s'.work.counted = s.work.counted)
    (ha : s'.work.anchoredUrbs = s.work.anchoredUrbs) (hu : s'.urbs = s.urbs) (h1 : s'.txInflight = s.txInflight)
    (h2 : s'.rcpTxInflight = s.rcpTxInflight) (h3 : s'.hciTxInflight = s.hciTxInflight) : Counts s' where
  tx := by rw [h1,ha,hu]; exact h.tx
  rcp := by unfold State.load; rw [h2,hw,hu]; exact h.rcp
  hci := by unfold State.load; rw [h3,hw,hu]; exact h.hci

theorem load_hand {b : Skb} {d : Int} (hu : s'.urbs = s.urbs)
    (hd : ∀ p : Skb → Bool, ((s'.work.counted.countP p : Nat) : Int) = s.work.counted.countP p+(if p b then d else 0))
    (t : Nat) : (s'.load (isType t) : Int) = s.load (isType t)+(if b.ifType = t then d else 0) := by
  have hx := hd (isType t)
  have ht : isType t b = decide (b.ifType = t) := rfl
  simp only [ht,decide_eq_true_eq] at hx
  unfold State.load
  rw [hu]
  push_cast
  omega

theorem Counts.hand (h : Counts s) {b : Skb} {d : Int}
    (hd : ∀ p : Skb → Bool, ((s'.work.counted.countP p : Nat) : Int) = s.work.counted.countP p+(if p b then d else 0))
    (ha : s'.work.anchoredUrbs = s.work.anchoredUrbs) (hu : s'.urbs = s.urbs) (h1 : s'.txInflight = s.txInflight)
    (h2 : s'.rcpTxInflight = s.rcpTxInflight+(if b.ifType = ESP_RCP_IF then d else 0))
    (h3 : s'.hciTxInflight = s.hciTxInflight+(if b.ifType = ESP_HCI_IF then d else 0)) : Counts s' where
  tx := by rw [h1,ha,hu]; exact h.tx
  rcp := by rw [h2,h.rcp,load_hand hu hd]
  hci := by rw [h3,h.hci,load_hand hu hd]

theorem load_urb {i : Nat} {u v : Urb} (hi : s.urbs[i]? = some u) (hb : v.skb = u.skb) (hw : s'.work = s.work)
    (hu : s'.urbs = s.urbs.set i v) (t : Nat) : (s'.load (isType t) : Int) =
      s.load (isType t)+(if u.skb.ifType = t then (v.counted.toNat : Int)-u.counted.toNat else 0) := by
  have hc := (countP_urb hi (fun u => u.counted && isType t u.skb)).1 v
  have ht : isType t u.skb = decide (u.skb.ifType = t) := rfl
  rw [hb,ht] at hc
  unfold State.load
  rw [hw,hu]
  by_cases hx : u.skb.ifType = t
  · simp only [hx,decide_true,Bool.and_true] at hc
    rw [if_pos hx]
    push_cast
    omega
  · simp only [hx,decide_false,Bool.and_false,Bool.toNat_false] at hc
    rw [if_neg hx]
    push_cast
    omega

theorem Counts.urb (h : Counts s) {i : Nat} {u v : Urb} (hi : s.urbs[i]? = some u) (hb : v.skb = u.skb)
    (hw : s'.work = s.work) (hu : s'.urbs = s.urbs.set i v)
    (h1 : s'.txInflight = s.txInflight+((v.pc.anchored.toNat : Int)-u.pc.anchored.toNat))
    (h2 : s'.rcpTxInflight = s.rcpTxInflight+(if u.skb.ifType = ESP_RCP_IF then (v.counted.toNat : Int)-u.counted.toNat else 0))
    (h3 : s'.hciTxInflight = s.hciTxInflight+(if u.skb.ifType = ESP_HCI_IF then (v.counted.toNat : Int)-u.counted.toNat else 0)) :
    Counts s' where
  tx := by
    have ht := h.tx
    have hc := (countP_urb hi (fun u => u.pc.anchored)).1 v
    rw [h1,ht,hw,hu]
    push_cast
    omega
  rcp := by rw [h2,h.rcp,load_urb hi hb hw hu]
  hci := by rw [h3,h.hci,load_urb hi hb hw hu]

theorem load_erase {i : Nat} {u : Urb} (hi : s.urbs[i]? = some u) (hpc : u.counted = false) (hw : s'.work = s.work)
    (hu : s'.urbs = s.urbs.eraseIdx i) (p : Skb → Bool) : s'.load p = s.load p := by
  have hc := (countP_urb hi (fun u => u.counted && p u.skb)).2
  rw [hpc] at hc
  simp only [Bool.false_and,Bool.toNat_false] at hc
  unfold State.load
  rw [hw,hu]
  omega

theorem Counts.erase (h : Counts s) {i : Nat} {u : Urb} (hi : s.urbs[i]? = some u) (hpc : u.pc = .finished)
    (hw : s'.work = s.work) (hu : s'.urbs = s.urbs.eraseIdx i) (h1 : s'.txInflight = s.txInflight)
    (h2 : s'.rcpTxInflight = s.rcpTxInflight) (h3 : s'.hciTxInflight = s.hciTxInflight) : Counts s' where
  tx := by
    have hc := (countP_urb hi (fun u => u.pc.anchored)).2
    rw [hpc] at hc
    have hx : UrbPc.finished.anchored.toNat = 0 := rfl
    rw [h1,h.tx,hw,hu]
    omega
  rcp := by rw [h2,h.rcp,load_erase hi (by simp [Urb.counted,hpc]) hw hu]
  hci := by rw [h3,h.hci,load_erase hi (by simp [Urb.counted,hpc]) hw hu]

theorem Counts.typeInflight (h : Counts s) {t : Nat} (ht : t = ESP_RCP_IF ∨ t = ESP_HCI_IF)
    (ho : s.hasOutstanding t = true) : s.typeInflight t = true := by
  have hpos : 0 < s.outstanding.countP (fun b => decide (b.ifType = t)) := by
    obtain ⟨b,hb,hx⟩ := List.any_eq_true.mp ho
    exact List.countP_pos_iff.mpr ⟨b,hb,hx⟩
  rw [outstanding_countP] at hpos
  change 0 < s.load (isType t) at hpos
  unfold State.typeInflight
  rcases ht with ht | ht
  · subst ht
    have hr := h.rcp
    simp only [if_true,decide_eq_true_eq]
    omega
  · subst ht
    have hr := h.hci
    rw [if_neg (by decide),if_pos rfl,decide_eq_true_eq]
    omega

end

/-! The queues, with what a flush has set aside. -/

def lineOf (flush : Option Flush) (queue : Prio → List Skb) (p : Prio) : List Skb :=
  match flush with
  | none => queue p
  | some f =>
    match f.pc with
    | .scan q keep => if p = q then keep ++ queue p else queue p
    | .restore q keep => if p = q then queue p ++ keep else queue p
    | _ => queue p

def State.line (s : State) (p : Prio) : List Skb := lineOf s.flush s.queue p

def FlushPc.keep : FlushPc → List Skb
  | .scan _ keep => keep
  | .restore _ keep => keep
  | _ => []

def FlushPc.done : FlushPc → Prio → Bool
  | .scan .mid _,.high => true
  | .scan .low _,.high => true
  | .scan .low _,.mid => true
  | .restore .high _,.high => true
  | .restore .mid _,.high => true
  | .restore .mid _,.mid => true
  | .restore .low _,_ => true
  | .finish,_ => true
  | _,_ => false

structure Lines (s : State) : Prop where
  ordered : ∀ p, Ordered p (s.line p)
  past : ∀ p, ∀ b ∈ s.line p, b.id < s.accepted

structure Window (s : State) : Prop where
  idle : s.flush = none → s.flushInProgress = false
  busy : ∀ f, s.flush = some f →
    s.flushInProgress = true ∧ s.flushIfType = f.ifType ∧ (f.ifType = ESP_RCP_IF ∨ f.ifType = ESP_HCI_IF)
  inflight : ∀ f, s.flush = some f → f.outstanding = true → f.inflight = true
  before : ∀ f, s.flush = some f → ∀ p, Ordered p (f.before p) ∧
    ∀ b ∈ f.before p, b.ifType ≠ f.ifType → b ∈ s.line p ∨ .dropped b .purged ∈ s.log
  keep : ∀ f, s.flush = some f → ∀ b ∈ f.pc.keep, b.ifType ≠ f.ifType
  done : ∀ f, s.flush = some f → ∀ p, f.pc.done p = true → ∀ b ∈ s.queue p, b.ifType ≠ f.ifType

structure Logged (s : State) : Prop where
  marks : ∀ t mark before after, .flushed t mark before after ∈ s.log →
    mark ≤ s.accepted ∧ ∀ p, ∀ b ∈ s.line p, b.ifType = t → mark ≤ b.id
  kept : ∀ t mark before after, .flushed t mark before after ∈ s.log → ∀ p,
    Ordered p (before p) ∧ Ordered p (after p) ∧ (∀ b ∈ after p, b.ifType ≠ t) ∧
    ∀ b ∈ before p, b.ifType ≠ t → b ∈ after p ∨ .dropped b .purged ∈ s.log
  leaving : ∀ t inflight outstanding, (t,inflight,outstanding) ∈ s.leaving → outstanding = true → inflight = true
  reported : ∀ t f, .returned t true f ∈ s.log → f.accounted
  dropped : ∀ b f, b.stateful = true → .dropped b (.urbFailed f) ∈ s.log → f.accounted

structure Quiet (s : State) : Prop where
  flag : s.quiesce ≠ .idle → s.txQuiesced = true
  work : s.quiesce ≠ .idle → s.quiesce ≠ .flagged → s.work = .idle ∧ s.workPending = false
  urbs : s.quiesce = .zeroing → s.urbs = []

section
variable {s s' : State} {p : Prio} {l l' : List Skb}

theorem Ordered.sublist (h : Ordered p l) (hs : l'.Sublist l) : Ordered p l' :=
  ⟨h.sorted.sublist hs,fun b hb => h.own b (hs.subset hb)⟩

theorem Ordered.snoc (h : Ordered p l) {b : Skb} (hb : txPriority b.ifType = p) (hid : ∀ a ∈ l, a.id < b.id) :
    Ordered p (l ++ [b]) where
  sorted := by
    rw [List.pairwise_append]
    exact ⟨h.sorted,List.pairwise_singleton _ b,fun a ha c hc => by rw [List.mem_singleton.mp hc]; exact hid a ha⟩
  own := by
    intro a ha
    rcases List.mem_append.mp ha with ha | ha
    · exact h.own a ha
    · rw [List.mem_singleton.mp ha]
      exact hb

theorem queue_sublist_line (s : State) (p : Prio) : (s.queue p).Sublist (s.line p) := by
  unfold State.line lineOf
  split
  · exact List.Sublist.refl _
  · split
    · split
      · exact List.sublist_append_right _ _
      · exact List.Sublist.refl _
    · split
      · exact List.sublist_append_left _ _
      · exact List.Sublist.refl _
    · exact List.Sublist.refl _

theorem line_of_unlocked (h : s.locked = false) (p : Prio) : s.line p = s.queue p := by
  unfold State.locked at h
  unfold State.line lineOf
  split
  · rfl
  · rename_i f hf
    rw [hf] at h
    cases hpc : f.pc with
    | begun => rfl
    | cancelled => rfl
    | _ => simp [hpc] at h

theorem line_pop {t : State} {b : Skb} {rest : List Skb} {q : Prio} (hq : s.queue q = b :: rest) (hf : t.flush = s.flush)
    (hs : t.queue = (s.setQueue q rest).queue) (p : Prio) :
    (t.line p).Sublist (s.line p) ∧ ∀ c ∈ s.line p, c ∈ t.line p ∨ c = b := by
  have hsub : (t.queue p).Sublist (s.queue p) ∧ ∀ c ∈ s.queue p, c ∈ t.queue p ∨ c = b := by
    rw [hs]
    by_cases hp : p = q
    · subst hp
      simp only [State.setQueue,if_true,hq]
      exact ⟨List.sublist_cons_self b rest,fun c hc => by rcases List.mem_cons.mp hc with hc | hc; exacts [.inr hc,.inl hc]⟩
    · simp only [State.setQueue,hp,if_false]
      exact ⟨List.Sublist.refl _,fun c hc => .inl hc⟩
  obtain ⟨hsub,hmem⟩ := hsub
  unfold State.line lineOf
  rw [hf]
  cases s.flush with
  | none => exact ⟨hsub,hmem⟩
  | some f =>
    cases hpc : f.pc with
    | scan r keep =>
      simp only [hpc]
      by_cases hp : p = r
      · simp only [hp,if_true] at hsub hmem ⊢
        refine ⟨hsub.append_left keep,?_⟩
        intro c hc
        rcases List.mem_append.mp hc with hc | hc
        · exact .inl (List.mem_append_left _ hc)
        · exact (hmem c hc).imp (List.mem_append_right keep) id
      · simp only [hp,if_false]
        exact ⟨hsub,hmem⟩
    | restore r keep =>
      simp only [hpc]
      by_cases hp : p = r
      · simp only [hp,if_true] at hsub hmem ⊢
        refine ⟨hsub.append_right keep,?_⟩
        intro c hc
        rcases List.mem_append.mp hc with hc | hc
        · exact (hmem c hc).imp (List.mem_append_left keep) id
        · exact .inl (List.mem_append_right _ hc)
      · simp only [hp,if_false]
        exact ⟨hsub,hmem⟩
    | _ =>
      simp only [hpc]
      exact ⟨hsub,hmem⟩

theorem Lines.sublist (h : Lines s) (hl : ∀ p, (s'.line p).Sublist (s.line p)) (ha : s'.accepted = s.accepted) :
    Lines s' where
  ordered := fun p => (h.ordered p).sublist (hl p)
  past := fun p b hb => by rw [ha]; exact h.past p b ((hl p).subset hb)

theorem Window.frame (h : Window s) (hf : s'.flush = s.flush) (h1 : s'.flushInProgress = s.flushInProgress)
    (h2 : s'.flushIfType = s.flushIfType) (hq : ∀ p, ∀ b ∈ s'.queue p, b ∈ s.queue p ∨ s.locked = false)
    (hl : ∀ p, ∀ b ∈ s.line p, b ∈ s'.line p ∨ .dropped b .purged ∈ s'.log)
    (hlog : ∀ b, .dropped b .purged ∈ s.log → .dropped b .purged ∈ s'.log) : Window s' where
  idle := by rw [hf,h1]; exact h.idle
  busy := by rw [hf,h1,h2]; exact h.busy
  inflight := by rw [hf]; exact h.inflight
  before := by
    rw [hf]
    intro f hx p
    obtain ⟨ho,hb⟩ := h.before f hx p
    refine ⟨ho,fun b hm ht => ?_⟩
    rcases hb b hm ht with hb | hb
    · exact hl p b hb
    · exact .inr (hlog b hb)
  keep := by rw [hf]; exact h.keep
  done := by
    rw [hf]
    intro f hx p hd b hb
    rcases hq p b hb with hb | hb
    · exact h.done f hx p hd b hb
    · unfold State.locked at hb
      rw [hx] at hb
      cases hpc : f.pc with
      | begun => simp [hpc,FlushPc.done] at hd
      | cancelled => simp [hpc,FlushPc.done] at hd
      | _ => simp [hpc] at hb

/-- Events that are neither the end of a flush nor an unreported failure. -/
def Ev.harmless : Ev → Prop
  | .dropped b (.urbFailed f) => b.stateful = true → f.accounted
  | .dropped _ _ => True
  | .flushed _ _ _ _ => False
  | .returned _ _ _ => False

theorem Logged.frame (h : Logged s) (hnew : ∀ e ∈ s'.log, e ∈ s.log ∨ e.harmless) (hold : ∀ e ∈ s.log, e ∈ s'.log)
    (hl : ∀ p, ∀ b ∈ s'.line p, b ∈ s.line p ∨ s.accepted ≤ b.id) (ha : s.accepted ≤ s'.accepted)
    (hleave : s'.leaving = s.leaving) : Logged s' where
  marks := by
    intro t mark before after he
    rcases hnew _ he with he | he
    · obtain ⟨h1,h2⟩ := h.marks t mark before after he
      refine ⟨Nat.le_trans h1 ha,fun p b hb ht => ?_⟩
      rcases hl p b hb with hb | hb
      · exact h2 p b hb ht
      · exact Nat.le_trans h1 hb
    · cases he
  kept := by
    intro t mark before after he p
    rcases hnew _ he with he | he
    · obtain ⟨h1,h2,h3,h4⟩ := h.kept t mark before after he p
      exact ⟨h1,h2,h3,fun b hb ht => (h4 b hb ht).imp id (hold _)⟩
    · cases he
  leaving := by rw [hleave]; exact h.leaving
  reported := by
    intro t f he
    rcases hnew _ he with he | he
    · exact h.reported t f he
    · cases he
  dropped := by
    intro b f hb he
    rcases hnew _ he with he | he
    · exact h.dropped b f hb he
    · exact he hb

theorem statefulFail_accounted (s : State) : s.statefulFail.accounted := by
  unfold State.statefulFail
  cases hf : s.flags.any with
  | true => exact .inr ⟨s.flags,rfl,hf⟩
  | false => exact .inl rfl

structure Inv (s : State) : Prop where
  counts : Counts s
  lines : Lines s
  window : Window s
  logged : Logged s
  quiet : Quiet s

theorem Inv.frame (h : Inv s) (hc : Counts s') (hq : Quiet s') (hqueue : s'.queue = s.queue) (hf : s'.flush = s.flush)
    (h1 : s'.flushInProgress = s.flushInProgress) (h2 : s'.flushIfType = s.flushIfType) (hl : s'.leaving = s.leaving)
    (ha : s'.accepted = s.accepted) (hnew : ∀ e ∈ s'.log, e ∈ s.log ∨ e.harmless) (hold : ∀ e ∈ s.log, e ∈ s'.log) :
    Inv s' := by
  have hline : s'.line = s.line := by
    funext p
    unfold State.line
    rw [hf,hqueue]
  refine ⟨hc,h.lines.sublist (fun p => by rw [hline]) ha,
    h.window.frame hf h1 h2 (fun p b hb => .inl (by rw [← hqueue]; exact hb)) (fun p b hb => .inl (by rw [hline]; exact hb))
      (fun b => hold _),
    h.logged.frame hnew hold (fun p b hb => .inl (by rw [← hline]; exact hb)) (Nat.le_of_eq ha.symm) hl,hq⟩

theorem Quiet.frame (h : Quiet s) (hq : s'.quiesce = s.quiesce) (hf : s'.txQuiesced = s.txQuiesced)
    (hw : s'.quiesce ≠ .idle → s'.quiesce ≠ .flagged → s'.work = .idle ∧ s'.workPending = false)
    (hu : s.urbs = [] → s.work = .idle → s'.urbs = []) : Quiet s' where
  flag := by rw [hq,hf]; exact h.flag
  work := hw
  urbs := by
    rw [hq]
    intro hz
    exact hu (h.urbs hz) (h.work (by rw [hz]; simp) (by rw [hz]; simp)).1

theorem Window.closed (hf : s'.flush = none) (h1 : s'.flushInProgress = false) : Window s' where
  idle := fun _ => h1
  busy := by simp [hf]
  inflight := by simp [hf]
  before := by simp [hf]
  keep := by simp [hf]
  done := by simp [hf]

theorem Window.flush_none (h : Window s) (hf : s.flushInProgress = false) : s.flush = none := by
  cases hx : s.flush with
  | none => rfl
  | some f =>
    rw [(h.busy f hx).1] at hf
    cases hf

theorem Quiet.busy (h : Quiet s) (hw : s.work ≠ .idle) (h1 : s.quiesce ≠ .idle) (h2 : s.quiesce ≠ .flagged) : False :=
  hw (h.work h1 h2).1

theorem Quiet.quiesced (h : Quiet s) (hq : s.txQuiesced = false) : s.quiesce = .idle := by
  by_contra hx
  rw [h.flag hx] at hq
  cases hq

theorem locked_congr (hf : s'.flush = s.flush) : s'.locked = s.locked := by
  unfold State.locked
  rw [hf]

theorem Inv.write (h : Inv s) (hl : s.locked = false) (t : Nat) : Inv (s.write t) := by
  unfold State.write
  cases hq : s.txQuiesced with
  | true => exact h
  | false =>
    simp only [Bool.false_eq_true,if_false]
    by_cases hb : s.flushInProgress = true ∧ s.flushIfType = t
    · rw [if_pos hb]
      exact h
    rw [if_neg hb]
    by_cases hfull : ESP_USB_TX_QUEUE_MAX ≤ (s.queue .high).length+(s.queue .mid).length+(s.queue .low).length
    · rw [if_pos hfull]
      exact h
    rw [if_neg hfull]
    generalize hs' : State.mk _ _ _ _ _ _ _ _ _ _ _ _ _ _ _ _ = s'
    have hflush : s'.flush = s.flush := by rw [← hs']; rfl
    have hqueue : ∀ p, s'.queue p = if p = txPriority t then s.queue p ++ [⟨s.accepted,t⟩] else s.queue p := by
      intro p
      rw [← hs']
      by_cases hp : p = txPriority t
      · simp [State.setQueue,hp]
      · simp [State.setQueue,hp]
    have hline : ∀ p, s'.line p = if p = txPriority t then s.line p ++ [⟨s.accepted,t⟩] else s.line p := by
      intro p
      rw [line_of_unlocked ((locked_congr hflush).trans hl),line_of_unlocked hl,hqueue]
    have hmem : ∀ p b, b ∈ s'.line p → b ∈ s.line p ∨ b = ⟨s.accepted,t⟩ := by
      intro p b hb
      rw [hline] at hb
      by_cases hp : p = txPriority t
      · rw [if_pos hp] at hb
        simpa using hb
      · rw [if_neg hp] at hb
        exact .inl hb
    have hacc : s'.accepted = s.accepted+1 := by rw [← hs']
    refine ⟨?_,⟨?_,?_⟩,?_,?_,?_⟩
    · exact h.counts.frame (by rw [← hs']; rfl) (by rw [← hs']; rfl) (by rw [← hs']; rfl) (by rw [← hs']; rfl)
        (by rw [← hs']; rfl) (by rw [← hs']; rfl)
    · intro p
      rw [hline]
      by_cases hp : p = txPriority t
      · rw [if_pos hp]
        exact (h.lines.ordered p).snoc hp.symm (h.lines.past p)
      · rw [if_neg hp]
        exact h.lines.ordered p
    · intro p b hb
      rw [hacc]
      rcases hmem p b hb with hb | hb
      · have := h.lines.past p b hb
        omega
      · rw [hb]
        exact Nat.lt_succ_self _
    · refine h.window.frame hflush (by rw [← hs']; rfl) (by rw [← hs']; rfl) (fun p b _ => .inr hl) ?_
        (by rw [← hs']; exact fun b hb => hb)
      intro p b hb
      rw [hline]
      by_cases hp : p = txPriority t
      · rw [if_pos hp]
        exact .inl (List.mem_append_left _ hb)
      · rw [if_neg hp]
        exact .inl hb
    · refine h.logged.frame (by rw [← hs']; exact fun e he => .inl he) (by rw [← hs']; exact fun e he => he) ?_ (by omega)
        (by rw [← hs']; rfl)
      intro p b hb
      rcases hmem p b hb with hb | hb
      · exact .inl hb
      · rw [hb]
        exact .inr (Nat.le_refl _)
    · have hidle : s'.quiesce = .idle := by
        rw [← hs']
        exact h.quiet.quiesced hq
      exact ⟨fun hx => absurd hidle hx,fun hx => absurd hidle hx,fun hx => by rw [hidle] at hx; cases hx⟩

theorem dequeue_spec {b : Skb} (hd : s.dequeue = some (b,s')) : ∃ q rest, s.queue q = b :: rest ∧ s' = s.setQueue q rest := by
  unfold State.dequeue at hd
  cases h1 : s.queue .high with
  | cons c rest =>
    simp only [h1] at hd
    cases hd
    exact ⟨.high,rest,h1,rfl⟩
  | nil =>
    simp only [h1] at hd
    cases h2 : s.queue .mid with
    | cons c rest =>
      simp only [h2] at hd
      cases hd
      exact ⟨.mid,rest,h2,rfl⟩
    | nil =>
      simp only [h2] at hd
      cases h3 : s.queue .low with
      | cons c rest =>
        simp only [h3] at hd
        cases hd
        exact ⟨.low,rest,h3,rfl⟩
      | nil => simp [h3] at hd

theorem Inv.worker (h : Inv s) (hc : Counts s') (hw : s.work ≠ .idle) (hqueue : s'.queue = s.queue)
    (hf : s'.flush = s.flush) (h1 : s'.flushInProgress = s.flushInProgress) (h2 : s'.flushIfType = s.flushIfType)
    (h3 : s'.quiesce = s.quiesce) (h4 : s'.txQuiesced = s.txQuiesced) (hl : s'.leaving = s.leaving)
    (ha : s'.accepted = s.accepted) (hnew : ∀ e ∈ s'.log, e ∈ s.log ∨ e.harmless) (hold : ∀ e ∈ s.log, e ∈ s'.log) :
    Inv s' :=
  h.frame hc (h.quiet.frame h3 h4 (by rw [h3]; exact fun hx hy => (h.quiet.busy hw hx hy).elim) (fun _ hx => absurd hx hw))
    hqueue hf h1 h2 hl ha hnew hold

theorem Inv.txWork (h : Inv s) {io : SubmitIo} (hs : s.txWork io = some s') : Inv s' := by
  unfold State.txWork at hs
  cases hw : s.work with
  | idle =>
    simp only [hw] at hs
    cases hp : s.workPending with
    | false => simp [hp] at hs
    | true =>
      rw [hp] at hs
      cases hs
      refine h.frame (h.counts.frame (by rw [hw]; rfl) (by rw [hw]; rfl) rfl rfl rfl rfl) ?_ rfl rfl rfl rfl rfl rfl
        (fun _ he => .inl he) (fun _ he => he)
      refine h.quiet.frame rfl rfl ?_ (fun hu _ => hu)
      intro hx hy
      rw [(h.quiet.work hx hy).2] at hp
      cases hp
  | loop =>
    have hne : s.work ≠ .idle := by rw [hw]; simp
    have hstop : Inv {s with work := .idle} :=
      h.worker (h.counts.frame (by rw [hw]; rfl) (by rw [hw]; rfl) rfl rfl rfl rfl) hne rfl rfl rfl rfl rfl rfl rfl rfl
        (fun _ he => .inl he) (fun _ he => he)
    simp only [hw] at hs
    by_cases hl : s.locked = true
    · rw [if_pos hl] at hs
      cases hs
    rw [if_neg hl] at hs
    by_cases hg : (s.txQuiesced || s.flushInProgress || decide ((ESP_USB_TX_URBS : Int) ≤ s.txInflight)) = true
    · rw [if_pos hg] at hs
      cases hs
      exact hstop
    rw [if_neg hg] at hs
    cases hd : s.dequeue with
    | none =>
      rw [hd] at hs
      cases hs
      exact hstop
    | some r =>
      obtain ⟨b,s1⟩ := r
      obtain ⟨q,rest,hq,rfl⟩ := dequeue_spec hd
      rw [hd] at hs
      cases hs
      simp only [Bool.or_eq_true,not_or,Bool.not_eq_true] at hg
      have hnone := h.window.flush_none hg.1.2
      have hidle := h.quiet.quiesced hg.1.1
      have hpop := line_pop (t := {(s.setQueue q rest).count b 1 with work := .taken b}) hq rfl rfl
      refine ⟨h.counts.hand (b := b) (d := 1) ?_ (by rw [hw]; rfl) rfl rfl rfl rfl,h.lines.sublist (fun p => (hpop p).1) rfl,
        Window.closed hnone hg.1.2,
        h.logged.frame (fun _ he => .inl he) (fun _ he => he) (fun p c hc => .inl ((hpop p).1.subset hc)) (Nat.le_refl _) rfl,
        ⟨fun hx => absurd hidle hx,fun hx => absurd hidle hx,fun hx => by rw [show s.quiesce = .zeroing from hx] at hidle; cases hidle⟩⟩
      intro p
      rw [hw]
      cases hp : p b <;> simp [WorkPc.counted,hp]
  | taken b =>
    have hne : s.work ≠ .idle := by rw [hw]; simp
    simp only [hw] at hs
    cases ha : io.alloc with
    | true =>
      rw [ha] at hs
      cases hs
      exact h.worker (h.counts.anchor (by rw [hw]; rfl) rfl (by rw [hw]; rfl) rfl rfl) hne rfl rfl rfl rfl rfl rfl rfl rfl
        (fun _ he => .inl he) (fun _ he => he)
    | false =>
      rw [ha] at hs
      cases hs
      exact h.worker (h.counts.frame (by rw [hw]; rfl) (by rw [hw]; rfl) rfl rfl rfl rfl) hne rfl rfl rfl rfl rfl rfl rfl rfl
        (fun _ he => .inl he) (fun _ he => he)
  | anchored b =>
    have hne : s.work ≠ .idle := by rw [hw]; simp
    simp only [hw] at hs
    cases he : io.err with
    | none =>
      rw [he] at hs
      cases hs
      exact h.worker (h.counts.submit hw rfl rfl rfl rfl rfl) hne rfl rfl rfl rfl rfl rfl rfl rfl
        (fun _ he => .inl he) (fun _ he => he)
    | some e =>
      rw [he] at hs
      cases hs
      exact h.worker (h.counts.anchor (by rw [hw]; rfl) rfl (by rw [hw]; rfl) rfl rfl) hne rfl rfl rfl rfl rfl rfl rfl rfl
        (fun _ he => .inl he) (fun _ he => he)
  | failed b e =>
    have hne : s.work ≠ .idle := by rw [hw]; simp
    simp only [hw] at hs
    cases hs
    refine h.worker (h.counts.hand (b := b) (d := -1) ?_ (by rw [hw]; rfl) rfl rfl rfl rfl) hne rfl rfl rfl rfl rfl rfl rfl rfl
      (fun _ he => .inl he) (fun _ he => he)
    intro p
    rw [hw]
    cases hp : p b <;> simp [WorkPc.counted,hp]
  | uncounted b e =>
    have hne : s.work ≠ .idle := by rw [hw]; simp
    simp only [hw] at hs
    cases hs
    refine h.worker (h.counts.frame (by rw [hw]; rfl) (by rw [hw]; rfl) rfl rfl rfl rfl) hne rfl rfl rfl rfl rfl rfl rfl rfl ?_
      (fun _ he => List.mem_cons_of_mem _ he)
    intro x hx
    rcases List.mem_cons.mp hx with hx | hx
    · rw [hx]
      exact .inr trivial
    · exact .inl hx

theorem Inv.urb (h : Inv s) (hc : Counts s') (hqueue : s'.queue = s.queue) (hf : s'.flush = s.flush)
    (h1 : s'.flushInProgress = s.flushInProgress) (h2 : s'.flushIfType = s.flushIfType) (h3 : s'.quiesce = s.quiesce)
    (h4 : s'.txQuiesced = s.txQuiesced) (h5 : s'.work = s.work)
    (h6 : s'.workPending = s.workPending ∨ s.txQuiesced = false) (hu : s.urbs ≠ []) (hl : s'.leaving = s.leaving)
    (ha : s'.accepted = s.accepted) (hnew : ∀ e ∈ s'.log, e ∈ s.log ∨ e.harmless) (hold : ∀ e ∈ s.log, e ∈ s'.log) :
    Inv s' := by
  refine h.frame hc (h.quiet.frame h3 h4 ?_ (fun hx => absurd hx hu)) hqueue hf h1 h2 hl ha hnew hold
  rw [h3]
  intro hx hy
  obtain ⟨hw,hp⟩ := h.quiet.work hx hy
  refine ⟨h5.trans hw,?_⟩
  rcases h6 with h6 | h6
  · exact h6.trans hp
  · rw [h.quiet.flag hx] at h6
    cases h6

theorem urbs_ne_nil {i : Nat} {u : Urb} (hi : s.urbs[i]? = some u) : s.urbs ≠ [] := by
  intro hx
  simp [hx] at hi

theorem Inv.giveBack (h : Inv s) {i : Nat} {b : Skb} (failed : Bool) (hi : s.urbs[i]? = some ⟨b,.submitted⟩) :
    Inv (s.setUrb i ⟨b,.completed failed⟩) := by
  refine h.urb (h.counts.urb hi (v := ⟨b,.completed failed⟩) rfl rfl rfl ?_ ?_ ?_) rfl rfl rfl rfl rfl rfl rfl (.inl rfl) (urbs_ne_nil hi) rfl rfl
    (fun _ he => .inl he) (fun _ he => he)
  · simp [State.setUrb,UrbPc.anchored]
  · simp [State.setUrb,Urb.counted]
  · simp [State.setUrb,Urb.counted]

theorem Inv.txComplete (h : Inv s) {i : Nat} (hs : s.txComplete i = some s') : Inv s' := by
  unfold State.txComplete at hs
  cases hi : s.urbs[i]? with
  | none => simp [hi] at hs
  | some u =>
    obtain ⟨b,pc⟩ := u
    simp only [hi] at hs
    have hne := urbs_ne_nil hi
    cases pc with
    | submitted => cases hs
    | completed failed =>
      simp only at hs
      have hchecked : ∀ log, Counts {s.setUrb i ⟨b,.checked⟩ with log := log} := by
        intro log
        refine h.counts.urb hi (v := ⟨b,.checked⟩) rfl rfl rfl ?_ ?_ ?_
        · simp [State.setUrb,UrbPc.anchored]
        · simp [State.setUrb,Urb.counted]
        · simp [State.setUrb,Urb.counted]
      cases failed with
      | false =>
        cases hs
        exact h.urb (hchecked s.log) rfl rfl rfl rfl rfl rfl rfl (.inl rfl) hne rfl rfl (fun _ he => .inl he) (fun _ he => he)
      | true =>
        simp only [if_true] at hs
        cases hq : s.txQuiesced with
        | true =>
          rw [hq] at hs
          cases hs
          refine h.urb (hchecked _) rfl rfl rfl rfl rfl rfl rfl (.inl rfl) hne rfl rfl ?_ (fun _ he => List.mem_cons_of_mem _ he)
          intro e he
          rcases List.mem_cons.mp he with he | he
          · rw [he]
            exact .inr trivial
          · exact .inl he
        | false =>
          rw [hq] at hs
          cases hs
          refine h.urb (hchecked _) rfl rfl rfl rfl rfl rfl rfl (.inl rfl) hne rfl rfl ?_ (fun _ he => List.mem_cons_of_mem _ he)
          intro e he
          rcases List.mem_cons.mp he with he | he
          · rw [he]
            refine .inr (fun hb => ?_)
            rw [if_pos hb]
            exact statefulFail_accounted s
          · exact .inl he
    | checked =>
      simp only at hs
      cases hs
      refine h.urb (h.counts.urb hi (v := ⟨b,.uncounted⟩) rfl rfl rfl ?_ ?_ ?_) rfl rfl rfl rfl rfl rfl rfl (.inl rfl) hne rfl rfl
        (fun _ he => .inl he) (fun _ he => he)
      · simp [State.setUrb,State.count,UrbPc.anchored]
      · simp [State.setUrb,State.count,Urb.counted]
      · simp [State.setUrb,State.count,Urb.counted]
    | uncounted =>
      simp only at hs
      cases hs
      refine h.urb (h.counts.urb hi (v := ⟨b,.finished⟩) rfl rfl rfl ?_ ?_ ?_) rfl rfl rfl rfl rfl rfl rfl (.inl rfl) hne rfl rfl
        (fun _ he => .inl he) (fun _ he => he)
      · simp only [UrbPc.anchored,ne_eq,reduceCtorEq,not_false_eq_true,not_true_eq_false,decide_true,decide_false,
          Bool.toNat_true,Bool.toNat_false]
        omega
      · simp [State.setUrb,Urb.counted]
      · simp [State.setUrb,Urb.counted]
    | finished =>
      simp only at hs
      by_cases hl : s.locked = true
      · rw [if_pos hl] at hs
        cases hs
      · rw [if_neg hl] at hs
        cases hs
        refine h.urb (h.counts.erase hi rfl rfl rfl rfl rfl rfl) rfl rfl rfl rfl rfl rfl rfl ?_ hne rfl rfl
          (fun _ he => .inl he) (fun _ he => he)
        cases hq : s.txQuiesced with
        | true => exact .inl (by simp)
        | false => exact .inr rfl

theorem Inv.flushBegin (h : Inv s) {t : Nat} (ht : t = ESP_RCP_IF ∨ t = ESP_HCI_IF) (hs : s.flushBegin t = some s') : Inv s' := by
  unfold State.flushBegin at hs
  cases hf : s.flush with
  | some f => simp [hf] at hs
  | none =>
    simp only [hf,Option.isSome_none,Bool.false_eq_true,if_false] at hs
    cases hs
    have hline : s.line = s.queue := by
      funext p
      unfold State.line lineOf
      rw [hf]
    refine ⟨h.counts.frame rfl rfl rfl rfl rfl rfl,⟨fun p => ?_,fun p => ?_⟩,
      ⟨by simp,?_,?_,?_,?_,?_⟩,?_,h.quiet.frame rfl rfl (fun hx hy => h.quiet.work hx hy) (fun hu _ => hu)⟩
    · have := h.lines.ordered p
      rw [hline] at this
      exact this
    · have := h.lines.past p
      rw [hline] at this
      exact this
    · intro f hx
      cases hx
      exact ⟨rfl,rfl,ht⟩
    · intro f hx
      cases hx
      exact h.counts.typeInflight ht
    · intro f hx p
      cases hx
      have := h.lines.ordered p
      rw [hline] at this
      exact ⟨this,fun b hb _ => .inl hb⟩
    · intro f hx b hb
      cases hx
      cases hb
    · intro f hx p hd
      cases hx
      cases hd
    · refine h.logged.frame (fun _ he => .inl he) (fun _ he => he) ?_ (Nat.le_refl _) rfl
      intro p b hb
      rw [hline]
      exact .inl hb

theorem Inv.flushTo (h : Inv s) {f : Flush} {c : FlushPc} (hf : s.flush = some f) (hf' : s'.flush = some {f with pc := c})
    (hw : s'.work = s.work) (hp : s'.workPending = s.workPending ∨ s'.workPending = false)
    (hline : ∀ p, (s'.line p).Sublist (s.line p))
    (hmem : ∀ p, ∀ b ∈ s.line p, b.ifType ≠ f.ifType → b ∈ s'.line p) (hkeep : ∀ b ∈ c.keep, b.ifType ≠ f.ifType)
    (hdone : ∀ p, c.done p = true → ∀ b ∈ s'.queue p, b.ifType ≠ f.ifType)
    (h1 : s'.flushInProgress = s.flushInProgress) (h2 : s'.flushIfType = s.flushIfType) (h3 : s'.quiesce = s.quiesce)
    (h4 : s'.txQuiesced = s.txQuiesced) (hu : s'.urbs = s.urbs) (htx : s'.txInflight = s.txInflight)
    (hrcp : s'.rcpTxInflight = s.rcpTxInflight) (hhci : s'.hciTxInflight = s.hciTxInflight) (hl : s'.leaving = s.leaving)
    (ha : s'.accepted = s.accepted) (hnew : ∀ e ∈ s'.log, e ∈ s.log ∨ e.harmless) (hold : ∀ e ∈ s.log, e ∈ s'.log) :
    Inv s' where
  counts := h.counts.frame (by rw [hw]) (by rw [hw]) hu htx hrcp hhci
  lines := h.lines.sublist hline ha
  window := by
    refine ⟨by simp [hf'],?_,?_,?_,?_,?_⟩
    · intro g hg
      rw [hf'] at hg
      cases hg
      rw [h1,h2]
      exact h.window.busy f hf
    · intro g hg
      rw [hf'] at hg
      cases hg
      exact h.window.inflight f hf
    · intro g hg p
      rw [hf'] at hg
      cases hg
      obtain ⟨ho,hb⟩ := h.window.before f hf p
      refine ⟨ho,fun b hm ht => ?_⟩
      exact (hb b hm ht).imp (fun hx => hmem p b hx ht) (hold _)
    · intro g hg
      rw [hf'] at hg
      cases hg
      exact hkeep
    · intro g hg
      rw [hf'] at hg
      cases hg
      exact hdone
  logged := h.logged.frame hnew hold (fun p b hb => .inl ((hline p).subset hb)) (Nat.le_of_eq ha.symm) hl
  quiet := by
    refine h.quiet.frame h3 h4 ?_ (fun hx _ => hu.trans hx)
    rw [h3]
    intro hx hy
    obtain ⟨hwork,hpend⟩ := h.quiet.work hx hy
    exact ⟨hw.trans hwork,hp.elim (fun hz => hz.trans hpend) id⟩

theorem line_of_pc {f : Flush} (hf : s.flush = some f) (p : Prio) : s.line p =
    match f.pc with
    | .scan q keep => if p = q then keep ++ s.queue p else s.queue p
    | .restore q keep => if p = q then s.queue p ++ keep else s.queue p
    | _ => s.queue p := by
  unfold State.line lineOf
  rw [hf]

theorem mem_keep {f : Flush} {q : Prio} {keep : List Skb} (hf : s.flush = some f)
    (hpc : f.pc = .restore q keep) {b : Skb} (hb : b ∈ keep) : b ∈ s.line q := by
  rw [line_of_pc hf,hpc]
  simp [hb]

theorem Inv.flushScan (h : Inv s) {f : Flush} {q : Prio} {keep : List Skb} (hf : s.flush = some f)
    (hpc : f.pc = .scan q keep) (hs : s.flushStep = some s') : Inv s' := by
  have hkeep : ∀ b ∈ keep, b.ifType ≠ f.ifType := by
    have := h.window.keep f hf
    rw [hpc] at this
    exact this
  have hdone := h.window.done f hf
  rw [hpc] at hdone
  have hline := fun p => line_of_pc hf p
  simp only [hpc] at hline
  unfold State.flushStep at hs
  simp only [hf,hpc] at hs
  cases hq : s.queue q with
  | nil =>
    simp only [hq] at hs
    cases hs
    have heq : ∀ p, (s.flushTo f (.restore q keep)).line p = s.line p := by
      intro p
      rw [line_of_pc rfl,hline]
      by_cases hp : p = q
      · simp only [hp,if_true]
        rw [show (s.flushTo f (.restore q keep)).queue q = [] from hq,hq,List.nil_append,List.append_nil]
      · simp only [hp,if_false]
        rfl
    refine h.flushTo hf rfl rfl (.inl rfl) (fun p => by rw [heq]) (fun p b hb _ => by rw [heq]; exact hb) hkeep ?_
      rfl rfl rfl rfl rfl rfl rfl rfl rfl rfl (fun _ he => .inl he) (fun _ he => he)
    intro p hd b hb
    by_cases hp : p = q
    · rw [hp,show (s.flushTo f (.restore q keep)).queue q = [] from hq] at hb
      cases hb
    · refine hdone p ?_ b hb
      cases q <;> cases p <;> simp_all [FlushPc.done]
  | cons b rest =>
    simp only [hq] at hs
    have hqueue : ∀ p, (s.setQueue q rest).queue p = if p = q then rest else s.queue p := fun p => rfl
    by_cases hb : b.ifType = f.ifType
    · rw [if_pos hb] at hs
      cases hs
      generalize hs' : State.mk _ _ _ _ _ _ _ _ _ _ _ _ _ _ _ _ = s'
      have hf' : s'.flush = some {f with pc := .scan q keep} := by rw [← hs']; rfl
      have hq' : ∀ p, s'.queue p = if p = q then rest else s.queue p := by rw [← hs']; exact hqueue
      have hl' : ∀ p, s'.line p = if p = q then keep ++ rest else s.queue p := by
        intro p
        rw [line_of_pc hf']
        simp only [hq']
        by_cases hp : p = q <;> simp [hp]
      refine h.flushTo hf hf' (by rw [← hs']; rfl) (.inl (by rw [← hs']; rfl)) ?_ ?_ hkeep ?_
        (by rw [← hs']; rfl) (by rw [← hs']; rfl) (by rw [← hs']; rfl) (by rw [← hs']; rfl) (by rw [← hs']; rfl)
        (by rw [← hs']; rfl) (by rw [← hs']; rfl) (by rw [← hs']; rfl) (by rw [← hs']; rfl) (by rw [← hs']; rfl) ?_ ?_
      · intro p
        rw [hl',hline]
        by_cases hp : p = q
        · simp only [hp,if_true,hq]
          exact (List.sublist_cons_self b rest).append_left keep
        · simp only [hp,if_false]
          exact List.Sublist.refl _
      · intro p c hc ht
        rw [hl']
        rw [hline] at hc
        by_cases hp : p = q
        · simp only [hp,if_true,hq,List.mem_append,List.mem_cons] at hc ⊢
          rcases hc with hc | hc | hc
          · exact .inl hc
          · rw [hc] at ht
            exact absurd hb ht
          · exact .inr hc
        · simp only [hp,if_false] at hc ⊢
          exact hc
      · intro p hd c hc
        have hp : p ≠ q := by
          intro hx
          rw [hx] at hd
          cases q <;> cases hd
        rw [hq',if_neg hp] at hc
        exact hdone p hd c hc
      · intro e he
        rw [← hs'] at he
        rcases List.mem_cons.mp he with he | he
        · rw [he]
          exact .inr trivial
        · exact .inl he
      · intro e he
        rw [← hs']
        exact List.mem_cons_of_mem _ he
    · rw [if_neg hb] at hs
      cases hs
      have heq : ∀ p, ((s.setQueue q rest).flushTo f (.scan q (keep ++ [b]))).line p = s.line p := by
        intro p
        rw [line_of_pc rfl,hline]
        by_cases hp : p = q
        · simp only [hp,if_true,hq]
          rw [show ((s.setQueue q rest).flushTo f (.scan q (keep ++ [b]))).queue q = rest from if_pos rfl]
          simp
        · simp only [hp,if_false]
          exact if_neg hp
      refine h.flushTo hf rfl rfl (.inl rfl) (fun p => by rw [heq]) (fun p b hb _ => by rw [heq]; exact hb) ?_ ?_
        rfl rfl rfl rfl rfl rfl rfl rfl rfl rfl (fun _ he => .inl he) (fun _ he => he)
      · intro c hc
        rcases List.mem_append.mp hc with hc | hc
        · exact hkeep c hc
        · rw [List.mem_singleton.mp hc]
          exact hb
      · intro p hd c hc
        have hp : p ≠ q := by
          intro hx
          rw [hx] at hd
          cases q <;> cases hd
        rw [show ((s.setQueue q rest).flushTo f (.scan q (keep ++ [b]))).queue p = s.queue p from if_neg hp] at hc
        exact hdone p (by cases q <;> cases p <;> exact hd) c hc

theorem Inv.flushRestore (h : Inv s) {f : Flush} {q : Prio} {keep : List Skb} (hf : s.flush = some f)
    (hpc : f.pc = .restore q keep) (hs : s.flushStep = some s') : Inv s' := by
  have hkeep : ∀ b ∈ keep, b.ifType ≠ f.ifType := by
    have := h.window.keep f hf
    rw [hpc] at this
    exact this
  have hdone := h.window.done f hf
  rw [hpc] at hdone
  have hline := fun p => line_of_pc hf p
  simp only [hpc] at hline
  unfold State.flushStep at hs
  simp only [hf,hpc] at hs
  cases keep with
  | cons b rest =>
    simp only at hs
    cases hs
    have hown : txPriority b.ifType = q := (h.lines.ordered q).own b (mem_keep hf hpc List.mem_cons_self)
    rw [hown]
    have heq : ∀ p, ((s.setQueue q (s.queue q ++ [b])).flushTo f (.restore q rest)).line p = s.line p := by
      intro p
      rw [line_of_pc rfl,hline]
      by_cases hp : p = q
      · simp only [hp,if_true]
        rw [show ((s.setQueue q (s.queue q ++ [b])).flushTo f (.restore q rest)).queue q = s.queue q ++ [b] from if_pos rfl]
        simp
      · simp only [hp,if_false]
        exact if_neg hp
    refine h.flushTo hf rfl rfl (.inl rfl) (fun p => by rw [heq]) (fun p b hb _ => by rw [heq]; exact hb)
      (fun c hc => hkeep c (List.mem_cons_of_mem _ hc)) ?_ rfl rfl rfl rfl rfl rfl rfl rfl rfl rfl (fun _ he => .inl he)
      (fun _ he => he)
    intro p hd c hc
    have hd' : (FlushPc.restore q (b :: rest)).done p = true := by cases q <;> cases p <;> exact hd
    by_cases hp : p = q
    · rw [hp,show ((s.setQueue q (s.queue q ++ [b])).flushTo f (.restore q rest)).queue q = s.queue q ++ [b] from if_pos rfl] at hc
      rcases List.mem_append.mp hc with hc | hc
      · exact hdone q (hp ▸ hd') c hc
      · rw [List.mem_singleton.mp hc]
        exact hkeep b List.mem_cons_self
    · rw [show ((s.setQueue q (s.queue q ++ [b])).flushTo f (.restore q rest)).queue p = s.queue p from if_neg hp] at hc
      exact hdone p hd' c hc
  | nil =>
    have heq : ∀ p, s.line p = s.queue p := by
      intro p
      rw [hline]
      simp
    have hnext : ∀ c : FlushPc, c.keep = [] → (∀ p, c.done p = (FlushPc.restore q []).done p) →
        (∀ p, lineOf (some {f with pc := c}) s.queue p = s.queue p) → Inv (s.flushTo f c) := by
      intro c h1 h2 h3
      have hl : ∀ p, (s.flushTo f c).line p = s.line p := fun p => (h3 p).trans (heq p).symm
      refine h.flushTo hf rfl rfl (.inl rfl) (fun p => by rw [hl]) (fun p b hb _ => by rw [hl]; exact hb) (by simp [h1]) ?_
        rfl rfl rfl rfl rfl rfl rfl rfl rfl rfl (fun _ he => .inl he) (fun _ he => he)
      intro p hd
      rw [h2] at hd
      exact hdone p hd
    cases q with
    | high =>
      cases hs
      exact hnext _ rfl (fun p => by cases p <;> rfl) (fun p => by simp [lineOf])
    | mid =>
      cases hs
      exact hnext _ rfl (fun p => by cases p <;> rfl) (fun p => by simp [lineOf])
    | low =>
      cases hs
      exact hnext _ rfl (fun p => by cases p <;> rfl) (fun p => by simp [lineOf])

theorem Inv.flushFinish (h : Inv s) {f : Flush} (hf : s.flush = some f) (hpc : f.pc = .finish)
    (hs : s.flushStep = some s') : Inv s' := by
  unfold State.flushStep at hs
  simp only [hf,hpc] at hs
  cases hs
  have hline : ∀ p, s.line p = s.queue p := by
    intro p
    rw [line_of_pc hf,hpc]
  have hclean : ∀ p, ∀ b ∈ s.queue p, b.ifType ≠ f.ifType := fun p => h.window.done f hf p (by rw [hpc]; rfl)
  have hord : ∀ p, Ordered p (s.queue p) := fun p => hline p ▸ h.lines.ordered p
  have hpast : ∀ p, ∀ b ∈ s.queue p, b.id < s.accepted := fun p => hline p ▸ h.lines.past p
  obtain ⟨-,-,ht⟩ := h.window.busy f hf
  refine ⟨h.counts.frame rfl rfl rfl rfl rfl rfl,⟨hord,hpast⟩,Window.closed rfl rfl,
    ⟨?_,?_,?_,?_,?_⟩,?_⟩
  · intro t mark before after he
    rcases List.mem_cons.mp he with he | he
    · cases he
      exact ⟨Nat.le_refl _,fun p b hb hx => absurd hx (hclean p b hb)⟩
    · obtain ⟨h1,h2⟩ := h.logged.marks t mark before after he
      exact ⟨h1,fun p b hb => h2 p b (by rw [hline]; exact hb)⟩
  · intro t mark before after he p
    rcases List.mem_cons.mp he with he | he
    · cases he
      obtain ⟨ho,hb⟩ := h.window.before f hf p
      refine ⟨ho,hord p,hclean p,fun b hm hx => ?_⟩
      rw [hline] at hb
      exact (hb b hm hx).imp id (List.mem_cons_of_mem _)
    · obtain ⟨h1,h2,h3,h4⟩ := h.logged.kept t mark before after he p
      exact ⟨h1,h2,h3,fun b hb hx => (h4 b hb hx).imp id (List.mem_cons_of_mem _)⟩
  · intro t inflight outstanding hm hx
    rcases List.mem_append.mp hm with hm | hm
    · exact h.logged.leaving t inflight outstanding hm hx
    · cases List.mem_singleton.mp hm
      rcases Bool.or_eq_true_iff.mp hx with hx | hx
      · rw [h.window.inflight f hf hx]
        rfl
      · rw [h.counts.typeInflight ht hx,Bool.or_true]
  · intro t g he
    rcases List.mem_cons.mp he with he | he
    · cases he
    · exact h.logged.reported t g he
  · intro b g hb he
    rcases List.mem_cons.mp he with he | he
    · cases he
    · exact h.logged.dropped b g hb he
  · refine h.quiet.frame rfl rfl ?_ (fun hu _ => hu)
    intro hx hy
    obtain ⟨hw,hp⟩ := h.quiet.work hx hy
    refine ⟨hw,?_⟩
    rw [hp,show s.txQuiesced = true from h.quiet.flag hx]
    rfl

theorem Inv.flushStep (h : Inv s) (hs : s.flushStep = some s') : Inv s' := by
  cases hf : s.flush with
  | none => simp [State.flushStep,hf] at hs
  | some f =>
    have hline := fun p => line_of_pc hf p
    cases hpc : f.pc with
    | begun =>
      simp only [State.flushStep,hf,hpc] at hs
      by_cases hw : s.work = .idle
      · rw [if_pos hw] at hs
        cases hs
        simp only [hpc] at hline
        refine h.flushTo hf rfl rfl (.inr rfl) ?_ ?_ (by simp [FlushPc.keep]) (by simp [FlushPc.done])
          rfl rfl rfl rfl rfl rfl rfl rfl rfl rfl (fun _ he => .inl he) (fun _ he => he)
        · intro p
          rw [hline]
          exact List.Sublist.refl _
        · intro p b hb _
          rw [hline] at hb
          exact hb
      · rw [if_neg hw] at hs
        cases hs
    | cancelled =>
      simp only [State.flushStep,hf,hpc] at hs
      cases hs
      simp only [hpc] at hline
      have hl : ∀ p, (s.flushTo f (.scan .high [])).line p = s.queue p := by
        intro p
        rw [line_of_pc rfl]
        simp only [List.nil_append,ite_self]
        rfl
      refine h.flushTo hf rfl rfl (.inl rfl) ?_ ?_ (by simp [FlushPc.keep]) ?_
        rfl rfl rfl rfl rfl rfl rfl rfl rfl rfl (fun _ he => .inl he) (fun _ he => he)
      · intro p
        rw [hline,hl]
      · intro p b hb _
        rw [hline] at hb
        rw [hl]
        exact hb
      · intro p hd
        cases p <;> cases hd
    | scan q keep => exact h.flushScan hf hpc hs
    | restore q keep => exact h.flushRestore hf hpc hs
    | finish => exact h.flushFinish hf hpc hs

theorem Inv.flushReturn (h : Inv s) {i : Nat} (hs : s.flushReturn i = some s') : Inv s' := by
  unfold State.flushReturn at hs
  cases hi : s.leaving[i]? with
  | none => simp [hi] at hs
  | some r =>
    obtain ⟨t,inflight,outstanding⟩ := r
    simp only [hi] at hs
    cases hs
    have hmem : (t,inflight,outstanding) ∈ s.leaving := List.mem_of_getElem? hi
    refine ⟨h.counts.frame rfl rfl rfl rfl rfl rfl,h.lines.sublist (fun p => List.Sublist.refl _) rfl,
      h.window.frame rfl rfl rfl (fun p b hb => .inl hb) (fun p b hb => .inl hb) (fun b hb => List.mem_cons_of_mem _ hb),
      ⟨?_,?_,?_,?_,?_⟩,h.quiet.frame rfl rfl (fun hx hy => h.quiet.work hx hy) (fun hu _ => hu)⟩
    · intro u mark before after he
      rcases List.mem_cons.mp he with he | he
      · cases he
      · exact h.logged.marks u mark before after he
    · intro u mark before after he p
      rcases List.mem_cons.mp he with he | he
      · cases he
      · obtain ⟨h1,h2,h3,h4⟩ := h.logged.kept u mark before after he p
        exact ⟨h1,h2,h3,fun b hb hx => (h4 b hb hx).imp id (List.mem_cons_of_mem _)⟩
    · intro u a o hm
      exact h.logged.leaving u a o (List.mem_of_mem_eraseIdx hm)
    · intro u g he
      rcases List.mem_cons.mp he with he | he
      · cases he
        rw [h.logged.leaving t inflight true hmem rfl]
        exact statefulFail_accounted s
      · exact h.logged.reported u g he
    · intro b g hb he
      rcases List.mem_cons.mp he with he | he
      · cases he
      · exact h.logged.dropped b g hb he

theorem Inv.quiesceStep (h : Inv s) (hs : s.quiesceStep = some s') : Inv s' := by
  unfold State.quiesceStep at hs
  cases hq : s.quiesce with
  | idle =>
    simp only [hq] at hs
    by_cases hl : s.locked = true
    · rw [if_pos hl] at hs
      cases hs
    · rw [if_neg hl] at hs
      cases hs
      exact h.frame (h.counts.frame rfl rfl rfl rfl rfl rfl) ⟨fun _ => rfl,fun _ hx => absurd rfl hx,fun hx => by cases hx⟩
        rfl rfl rfl rfl rfl rfl (fun _ he => .inl he) (fun _ he => he)
  | flagged =>
    simp only [hq] at hs
    have hflag := h.quiet.flag (by rw [hq]; simp)
    by_cases hw : s.work = .idle
    · rw [if_pos hw] at hs
      cases hs
      exact h.frame (h.counts.frame rfl rfl rfl rfl rfl rfl) ⟨fun _ => hflag,fun _ _ => ⟨hw,rfl⟩,fun hx => by cases hx⟩
        rfl rfl rfl rfl rfl rfl (fun _ he => .inl he) (fun _ he => he)
    · rw [if_neg hw] at hs
      cases hs
  | purging qs =>
    have hflag := h.quiet.flag (by rw [hq]; simp)
    have hwork := h.quiet.work (by rw [hq]; simp) (by rw [hq]; simp)
    cases qs with
    | nil =>
      simp only [hq] at hs
      cases hs
      exact h.frame (h.counts.frame rfl rfl rfl rfl rfl rfl) ⟨fun _ => hflag,fun _ _ => hwork,fun hx => by cases hx⟩
        rfl rfl rfl rfl rfl rfl (fun _ he => .inl he) (fun _ he => he)
    | cons q qs =>
      simp only [hq] at hs
      cases hl : s.queue q with
      | nil =>
        simp only [hl] at hs
        cases hs
        exact h.frame (h.counts.frame rfl rfl rfl rfl rfl rfl) ⟨fun _ => hflag,fun _ _ => hwork,fun hx => by cases hx⟩
          rfl rfl rfl rfl rfl rfl (fun _ he => .inl he) (fun _ he => he)
      | cons b rest =>
        simp only [hl] at hs
        cases hs
        have hpop := line_pop (t := {s.setQueue q rest with log := .dropped b .purged :: s.log}) hl rfl rfl
        refine ⟨h.counts.frame rfl rfl rfl rfl rfl rfl,h.lines.sublist (fun p => (hpop p).1) rfl,
          h.window.frame rfl rfl rfl ?_ ?_ (fun c hc => List.mem_cons_of_mem _ hc),
          h.logged.frame ?_ (fun _ he => List.mem_cons_of_mem _ he) (fun p c hc => .inl ((hpop p).1.subset hc)) (Nat.le_refl _) rfl,
          h.quiet.frame rfl rfl (fun _ _ => hwork) (fun hu _ => hu)⟩
        · intro p c hc
          by_cases hp : p = q
          · simp only [State.setQueue,hp,if_true] at hc
            rw [hp,hl]
            exact .inl (List.mem_cons_of_mem _ hc)
          · simp only [State.setQueue,hp,if_false] at hc
            exact .inl hc
        · intro p c hc
          rcases (hpop p).2 c hc with hx | hx
          · exact .inl hx
          · rw [hx]
            exact .inr List.mem_cons_self
        · intro e he
          rcases List.mem_cons.mp he with he | he
          · rw [he]
            exact .inr trivial
          · exact .inl he
  | killing =>
    simp only [hq] at hs
    have hflag := h.quiet.flag (by rw [hq]; simp)
    have hwork := h.quiet.work (by rw [hq]; simp) (by rw [hq]; simp)
    cases hu : s.urbs with
    | cons u us => simp [hu] at hs
    | nil =>
      simp only [hu,List.isEmpty_nil,if_true] at hs
      cases hs
      rw [← hu]
      exact h.frame (h.counts.frame rfl rfl rfl rfl rfl rfl) ⟨fun _ => hflag,fun _ _ => hwork,fun _ => hu⟩
        rfl rfl rfl rfl rfl rfl (fun _ he => .inl he) (fun _ he => he)
  | zeroing =>
    simp only [hq] at hs
    cases hs
    have hu := h.quiet.urbs hq
    have hw := (h.quiet.work (by rw [hq]; simp) (by rw [hq]; simp)).1
    refine h.frame ⟨?_,?_,?_⟩ ⟨fun hx => absurd rfl hx,fun hx => absurd rfl hx,fun hx => by cases hx⟩
      rfl rfl rfl rfl rfl rfl (fun _ he => .inl he) (fun _ he => he)
    · simp [hu,hw,WorkPc.anchoredUrbs]
    · simp [State.load,hu,hw,WorkPc.counted]
    · simp [State.load,hu,hw,WorkPc.counted]

theorem step_inv (h : Inv s) {a : Action} (hs : step s a = some s') : Inv s' := by
  cases a with
  | write t =>
    simp only [step] at hs
    by_cases hl : s.locked = true
    · rw [if_pos hl] at hs
      cases hs
    · rw [if_neg hl] at hs
      cases hs
      exact h.write (by simpa using hl) t
  | work io => exact h.txWork hs
  | giveBack i failed =>
    simp only [step] at hs
    split at hs
    · rename_i b hi
      cases hs
      exact h.giveBack failed hi
    · cases hs
  | complete i => exact h.txComplete hs
  | flushBt => exact h.flushBegin (.inr rfl) hs
  | flushRcp => exact h.flushBegin (.inl rfl) hs
  | flush => exact h.flushStep hs
  | flushReturn i => exact h.flushReturn hs
  | quiesce => exact h.quiesceStep hs
  | reinit =>
    simp only [step] at hs
    by_cases hl : s.locked = true ∨ s.quiesce ≠ .idle
    · rw [if_pos hl] at hs
      cases hs
    · rw [if_neg hl] at hs
      cases hs
      have hidle : s.quiesce = .idle := by
        by_contra hx
        exact hl (.inr hx)
      exact h.frame (h.counts.frame rfl rfl rfl rfl rfl rfl)
        ⟨fun hx => absurd hidle hx,fun hx => absurd hidle hx,fun hx => by rw [show s.quiesce = .zeroing from hx] at hidle; cases hidle⟩
        rfl rfl rfl rfl rfl rfl (fun _ he => .inl he) (fun _ he => he)
  | setFlags f =>
    cases hs
    exact h.frame (h.counts.frame rfl rfl rfl rfl rfl rfl)
      (h.quiet.frame rfl rfl (fun hx hy => h.quiet.work hx hy) (fun hu _ => hu))
      rfl rfl rfl rfl rfl rfl (fun _ he => .inl he) (fun _ he => he)

theorem inv_init : Inv {} where
  counts := ⟨rfl,rfl,rfl⟩
  lines := ⟨fun p => ⟨List.Pairwise.nil,by simp [State.line,lineOf]⟩,by simp [State.line,lineOf]⟩
  window := Window.closed rfl rfl
  logged := ⟨by simp,by simp,by simp,by simp,by simp⟩
  quiet := ⟨by simp,by simp,by simp⟩

theorem Inv.boundary (h : Inv s) : Boundary Fail.accounted s where
  cleared := by
    intro t mark before after he p b hb
    exact (h.logged.marks t mark before after he).2 p b ((queue_sublist_line s p).subset hb)
  kept := h.logged.kept
  queues := fun p => ⟨(h.lines.ordered p).sublist (queue_sublist_line s p),
    fun b hb => h.lines.past p b ((queue_sublist_line s p).subset hb)⟩
  reported := h.logged.reported
  txInflight := by rw [anchored_eq]; exact h.counts.tx
  rcpTxInflight := by rw [outstanding_countP]; exact h.counts.rcp
  hciTxInflight := by rw [outstanding_countP]; exact h.counts.hci
  dropped := h.logged.dropped

end

/-- In every state of every interleaving. -/
theorem flush_boundary (acts : List Action) (s : State) (hs : exec step {} acts = some s) : Boundary Fail.accounted s :=
  (exec_invariant (fun _ _ _ h => step_inv h) inv_init hs).boundary

def submitRun (t : Nat) : List Action := .write t :: List.replicate 4 (.work {})

/-- An RCP frame is with the USB core when its stream is closed; a station frame waits behind it. -/
def closingRun (f : Flags) : List Action :=
  submitRun ESP_RCP_IF ++ ([.work {},.write ESP_RCP_IF,.write ESP_STA_IF,.setFlags f,.flushRcp] : List Action) ++
    (List.replicate 12 .flush : List Action) ++ ([.flushReturn 0] : List Action)

def State.returns (s : State) : List (Nat × Bool × Fail) :=
  s.log.filterMap fun e => match e with | .returned t o f => some (t,o,f) | _ => none

theorem flush_boundary_closing :
    ∃ s ∈ exec step {} (closingRun {}),
      (s.returns = [(ESP_RCP_IF,true,.scheduled)] ∧ (s.queue .mid).length = 0 ∧ (s.queue .low).length = 1 ∧
        s.rcpTxInflight = 1) ∧ Boundary Fail.accounted s := by
  have hrun : (exec step {} (closingRun {})).any (fun s => s.returns = [(ESP_RCP_IF,true,.scheduled)] ∧
      (s.queue .mid).length = 0 ∧ (s.queue .low).length = 1 ∧ s.rcpTxInflight = 1) = true := by decide +kernel
  cases hs : exec step {} (closingRun {}) with
  | none => simp [hs] at hrun
  | some s => exact ⟨s,rfl,by simpa [hs] using hrun,flush_boundary (closingRun {}) s hs⟩

/-- While a recovery is pending the failure is not scheduled. -/
theorem flush_unscheduled_in_recovery :
    ∃ s ∈ exec step {} (closingRun {recoveryPending := true}), ¬ Boundary (· = .scheduled) s := by
  have hrun : (exec step {} (closingRun {recoveryPending := true})).any
      (fun s => s.returns = [(ESP_RCP_IF,true,.refused {recoveryPending := true})]) = true := by decide +kernel
  cases hs : exec step {} (closingRun {recoveryPending := true}) with
  | none => simp [hs] at hrun
  | some s =>
    refine ⟨s,rfl,fun h => ?_⟩
    have hret : s.returns = [(ESP_RCP_IF,true,.refused {recoveryPending := true})] := by simpa [hs] using hrun
    have hmem : (ESP_RCP_IF,true,Fail.refused {recoveryPending := true}) ∈ s.returns := by
      rw [hret]
      exact List.mem_singleton_self _
    obtain ⟨e,he,hx⟩ := List.mem_filterMap.mp hmem
    cases e with
    | returned t o f =>
      cases hx
      exact absurd (h.reported _ _ he) (by simp)
    | _ => cases hx

end EspHosted.UsbFlush
