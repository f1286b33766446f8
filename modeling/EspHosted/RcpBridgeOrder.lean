import EspHosted.RcpBridge

/-!
Who owns which slot, and in which order chunks reach the host queue. The gate admits one
publisher, so what has been accepted and not handed over is the handle a drain holds and
the pre-boot queue behind it.
-/

set_option autoImplicit false

namespace EspHosted.RcpBridge
open EspHosted Run

/-- A task that confirms the session does so after the host was found ready. -/
def Pc.confirms : Pc → Bool
  | .loop c => c.ty = .rcpSession
  | .filled c _ => c.ty = .rcpSession
  | .gated c _ => c.ty = .rcpSession
  | .published c => c.ty = .rcpSession
  | .refused c _ => c.ty = .rcpSession
  | .giveBack c _ => c.ty = .rcpSession
  | .leaving _ ok => ok
  | _ => false

/-- The call whose chunk lies in the slot a task holds. -/
def Pc.holds : Pc → Option (Call × Slot)
  | .filled c x => some (c,x)
  | .gated c x => some (c,x)
  | _ => none

structure TaskOk (s : Tx) (t : Nat) (pc : Pc) : Prop where
  gate : pc.hasGate = true ↔ s.gate = some t
  confirm : pc.confirms = true → s.hostReady = true
  filled : ∀ c x, pc.holds = some (c,x) → (s.storage x).take c.chunk.length = c.chunk
  sent : s.bytesFrom t = s.through t ++ pc.progress

structure QueueOk (s : Tx) : Prop where
  emptied : s.hostReady = true → s.preboot = [] ∧ s.inHand = []
  later : s.hostReady = false → s.later = []
  early : ∀ a ∈ s.early, a.2.ty = .data
  order : (s.handed ++ (s.inHand ++ s.preboot).map s.content).Sublist ((s.early ++ s.later).map Prod.snd)
  count : (s.early ++ s.later).length =
    s.handed.length+(s.inHand.length+s.preboot.length)+s.lost.length

structure Inv (s : Tx) : Prop where
  custody : Custody s.bag
  pool : s.accountingError = false
  queue : QueueOk s
  task : ∀ t, TaskOk s t (s.pc t)

theorem TaskOk.frame {s s' : Tx} {t : Nat} {pc : Pc} (h : TaskOk s t pc)
    (hgate : s'.gate = some t ↔ s.gate = some t) (hready : s.hostReady = true → s'.hostReady = true)
    (hstorage : ∀ x, pc.slot = some x → s'.storage x = s.storage x)
    (hsent : s'.bytesFrom t = s.bytesFrom t) (hthrough : s'.through t = s.through t) :
    TaskOk s' t pc where
  gate := h.gate.trans hgate.symm
  confirm := fun hc => hready (h.confirm hc)
  filled := fun c x hx => by
    have hslot : pc.slot = some x := by
      cases pc <;> cases hx <;> rfl
    rw [hstorage x hslot]
    exact h.filled c x hx
  sent := by rw [hsent,hthrough,h.sent]

@[simp] theorem setPc_pc_self (s : Tx) (t : Nat) (pc : Pc) : (s.setPc t pc).pc t = pc := by
  simp [Tx.setPc]

theorem bag_caller {s : Tx} {t : Nat} {x : Slot} (h : (s.pc t).slot = some x) : x ∈ s.bag (.caller t) := by
  simp [Tx.bag,h]

theorem custody_initial : Custody (Tx.bag {}) := by
  refine ⟨fun _ => .free,fun p x => ?_⟩
  cases p with
  | free =>
    rw [if_pos rfl]
    exact List.count_eq_one_of_mem (List.nodup_finRange _) (List.mem_finRange x)
  | preboot => rfl
  | toHost => rfl
  | transport => rfl
  | caller t => rfl

theorem inv_initial : Inv {} where
  custody := custody_initial
  pool := rfl
  queue :=
    { emptied := by rintro ⟨⟩
      later := fun _ => rfl
      early := by simp
      order := List.nil_sublist _
      count := rfl }
  task := fun t =>
    { gate := by simp [Pc.hasGate]
      confirm := by simp [Pc.confirms]
      filled := by simp [Pc.holds]
      sent := rfl }

theorem Inv.of_task {s s' : Tx} {t : Nat} {pc : Pc} (hpc : s'.pc = Function.update s.pc t pc)
    (hcustody : Custody s'.bag) (hpool : s'.accountingError = false) (hqueue : QueueOk s')
    (hself : TaskOk s' t pc) (hothers : ∀ r, r ≠ t → TaskOk s' r (s.pc r)) : Inv s' := by
  refine ⟨hcustody,hpool,hqueue,fun r => ?_⟩
  rw [hpc]
  by_cases hr : r = t
  · subst hr
    rw [Function.update_self]
    exact hself
  · rw [Function.update_of_ne hr]
    exact hothers r hr

/-- How a step of task `t` may change the gate. -/
def GateMove (t : Nat) (g g' : Option Nat) (had has : Bool) : Prop :=
  (g' = g ∧ has = had) ∨ (g = none ∧ g' = some t ∧ has = true) ∨ (g = some t ∧ g' = none ∧ has = false)

theorem GateMove.self {t : Nat} {g g' : Option Nat} {had has : Bool} (h : GateMove t g g' had has)
    (hg : had = true ↔ g = some t) : has = true ↔ g' = some t := by
  rcases h with ⟨rfl,rfl⟩ | ⟨-,rfl,rfl⟩ | ⟨-,rfl,rfl⟩
  · exact hg
  · simp
  · simp

theorem GateMove.other {t r : Nat} {g g' : Option Nat} {had has : Bool} (h : GateMove t g g' had has)
    (hr : r ≠ t) : g' = some r ↔ g = some r := by
  rcases h with ⟨rfl,-⟩ | ⟨rfl,rfl,-⟩ | ⟨rfl,rfl,-⟩
  · rfl
  · simp [Ne.symm hr]
  · simp [Ne.symm hr]

/-- A step of task `t` that moves no handle leaves what the drain holds as it is. -/
theorem inHand_eq {s s' : Tx} {t : Nat} {pc : Pc} (hpc : s'.pc = Function.update s.pc t pc)
    (hgate : GateMove t s.gate s'.gate (s.pc t).hasGate pc.hasGate)
    (hhand : (s.pc t).inHand = []) (hhand' : pc.inHand = []) : s'.inHand = s.inHand := by
  simp only [Tx.inHand,hpc]
  rcases hgate with ⟨hg,-⟩ | ⟨hg,hg',-⟩ | ⟨hg,hg',-⟩
  · rw [hg]
    cases hs : s.gate with
    | none => rfl
    | some r =>
      by_cases hr : r = t
      · subst hr
        simp [hhand,hhand']
      · simp [Function.update_of_ne hr]
  · simp [hg,hg',hhand']
  · simp [hg,hg',hhand]

theorem bag_other {s s' : Tx} {t r : Nat} {pc : Pc} (hpc : s'.pc = Function.update s.pc t pc) (hr : r ≠ t) :
    s'.bag (.caller r) = s.bag (.caller r) := by
  simp [Tx.bag,hpc,Function.update_of_ne hr]

theorem bag_self {s s' : Tx} {t : Nat} {pc : Pc} (hpc : s'.pc = Function.update s.pc t pc) :
    s'.bag (.caller t) = pc.slot.toList := by
  simp [Tx.bag,hpc]

theorem Inv.inHand_of_gate {s : Tx} (h : Inv s) {t : Nat} (hg : (s.pc t).hasGate = true) :
    s.inHand = (s.pc t).inHand := by
  simp [Tx.inHand,(h.task t).gate.mp hg]

theorem QueueOk.ready {s s' : Tx} (h : QueueOk s) (hin : s'.inHand = s.inHand)
    (hqueues : s'.preboot = s.preboot ∧ s'.early = s.early ∧ s'.later = s.later ∧ s'.handed = s.handed ∧
      s'.lost = s.lost ∧ s'.storage = s.storage)
    (hready : s'.hostReady = s.hostReady ∨ s'.hostReady = true ∧ s.preboot = [] ∧ s.inHand = []) :
    QueueOk s' := by
  obtain ⟨h1,h2,h3,h4,h5,h6⟩ := hqueues
  have hcontent : s'.content = s.content := by
    funext x
    simp [Tx.content,h6]
  refine ⟨fun hx => ?_,fun hx => ?_,?_,?_,?_⟩
  · rw [hin,h1]
    rcases hready with hr | hr
    · exact h.emptied (hr ▸ hx)
    · exact hr.2
  · rw [h3]
    rcases hready with hr | hr
    · exact h.later (hr ▸ hx)
    · rw [hr.1] at hx
      cases hx
  · rw [h2]
    exact h.early
  · rw [hin,h1,h2,h3,h4,hcontent]
    exact h.order
  · rw [hin,h1,h2,h3,h4,h5]
    exact h.count

theorem Inv.goto {s : Tx} (h : Inv s) (t : Nat) (pc : Pc) (g : Option Nat) (ready session restart : Bool)
    (hslot : pc.slot = (s.pc t).slot) (hhand : (s.pc t).inHand = []) (hhand' : pc.inHand = [])
    (hprog : pc.progress = (s.pc t).progress) (hholds : pc.holds = none ∨ pc.holds = (s.pc t).holds)
    (hgate : GateMove t s.gate g (s.pc t).hasGate pc.hasGate)
    (hready : ready = s.hostReady ∨ ready = true ∧ s.preboot = [] ∧ (s.pc t).hasGate = true)
    (hconf : pc.confirms = true → ready = true) :
    Inv (Tx.setPc {s with gate := g, hostReady := ready, sessionReady := session, restart := restart} t pc) := by
  have hmono : s.hostReady = true → ready = true := by
    intro hx
    rcases hready with hr | hr
    · rw [hr,hx]
    · exact hr.1
  refine Inv.of_task rfl ?_ h.pool ?_ ?_ ?_
  · convert h.custody using 1
    funext p
    cases p with
    | caller r =>
      by_cases hr : r = t
      · subst hr
        rw [bag_self rfl,hslot]
        rfl
      · exact bag_other rfl hr
    | free => rfl
    | preboot => rfl
    | toHost => rfl
    | transport => rfl
  · refine h.queue.ready (inHand_eq rfl hgate hhand hhand') ⟨rfl,rfl,rfl,rfl,rfl,rfl⟩ ?_
    rcases hready with hr | ⟨hr,hp,hg⟩
    · exact .inl hr
    · exact .inr ⟨hr,hp,(h.inHand_of_gate hg).trans hhand⟩
  · refine ⟨hgate.self (h.task t).gate,hconf,fun c x hx => ?_,?_⟩
    · rcases hholds with hn | hn
      · rw [hn] at hx
        cases hx
      · exact (h.task t).filled c x (hn ▸ hx)
    · rw [hprog]
      exact (h.task t).sent
  · exact fun r hr => (h.task r).frame (hgate.other hr) hmono (fun _ _ => rfl) rfl rfl

theorem bytesFrom_self {s : Tx} {t : Nat} {c : Chunk} {early later : List (Nat × Chunk)}
    (h : early ++ later = s.early ++ s.later ++ [(t,c)]) :
    Tx.bytesFrom {s with early := early, later := later} t = s.bytesFrom t ++ c.payload := by
  simp [Tx.bytesFrom,h]

theorem bytesFrom_other {s : Tx} {t r : Nat} {c : Chunk} {early later : List (Nat × Chunk)}
    (h : early ++ later = s.early ++ s.later ++ [(t,c)]) (hr : r ≠ t) :
    Tx.bytesFrom {s with early := early, later := later} r = s.bytesFrom r := by
  simp [Tx.bytesFrom,h,Ne.symm hr]

theorem Call.take_chunk (c : Call) :
    c.data.take (c.done+c.chunk.length) = c.data.take c.done ++ c.chunk := by
  rw [List.take_add]
  congr 1
  simp [Call.chunk]

theorem release_eq {s : Tx} (h : Custody s.bag) {p : Place} {x : Slot} (hx : x ∈ s.bag p) (hp : p ≠ .free) :
    espHostedRcpReleaseTxSlot s x = {s with free := s.free ++ [x]} := by
  have hno : x ∉ s.bag .free := fun hf => hp (h.eq_of_mem hx hf)
  have hlt := h.length_lt_card hno
  rw [Fintype.card_fin] at hlt
  exact if_pos hlt

theorem Inv.release {s : Tx} (h : Inv s) {t : Nat} {x : Slot} {pc : Pc} (hx : (s.pc t).slot = some x)
    (hslot : pc.slot = none) (hhand : (s.pc t).inHand = []) (hhand' : pc.inHand = [])
    (hprog : pc.progress = (s.pc t).progress) (hholds : pc.holds = none)
    (hgate : pc.hasGate = (s.pc t).hasGate) (hconf : pc.confirms = true → s.hostReady = true) :
    Inv ((espHostedRcpReleaseTxSlot s x).setPc t pc) := by
  have hmove : GateMove t s.gate s.gate (s.pc t).hasGate pc.hasGate := .inl ⟨rfl,hgate⟩
  rw [release_eq h.custody (bag_caller hx) (by simp)]
  refine Inv.of_task rfl ?_ h.pool ?_ ?_ ?_
  · refine h.custody.move (p := .caller t) (q := .free) (x := x) (by simp) ?_ ?_ ?_
    · simp [Tx.bag,Tx.setPc,hx,hslot]
    · exact List.perm_append_singleton _ _
    · intro p hp hq
      cases p with
      | caller r => exact bag_other rfl (fun hr => hp (hr ▸ rfl))
      | free => exact absurd rfl hq
      | preboot => rfl
      | toHost => rfl
      | transport => rfl
  · exact h.queue.ready (inHand_eq rfl hmove hhand hhand') ⟨rfl,rfl,rfl,rfl,rfl,rfl⟩ (.inl rfl)
  · refine ⟨hmove.self (h.task t).gate,hconf,fun c y hy => ?_,?_⟩
    · rw [hholds] at hy
      cases hy
    · rw [hprog]
      exact (h.task t).sent
  · exact fun r hr => (h.task r).frame Iff.rfl id (fun _ _ => rfl) rfl rfl

theorem Inv.leave {s : Tx} (h : Inv s) {t : Nat} {c : Call} (hpc : s.pc t = .loop c) (restart : Bool) :
    Inv {s.leave t c with restart := restart} := by
  have htask := h.task t
  have hmove : GateMove t s.gate s.gate (s.pc t).hasGate Pc.idle.hasGate := .inl ⟨rfl,by rw [hpc]; rfl⟩
  refine Inv.of_task rfl ?_ h.pool ?_ ?_ ?_
  · convert h.custody using 1
    funext p
    cases p with
    | caller r =>
      by_cases hr : r = t
      · subst hr
        rw [bag_self rfl,Tx.bag,hpc]
        rfl
      · exact bag_other rfl hr
    | free => rfl
    | preboot => rfl
    | toHost => rfl
    | transport => rfl
  · exact h.queue.ready (inHand_eq rfl hmove (by rw [hpc]; rfl) rfl) ⟨rfl,rfl,rfl,rfl,rfl,rfl⟩ (.inl rfl)
  · refine ⟨hmove.self htask.gate,by rintro ⟨⟩,by rintro _ _ ⟨⟩,?_⟩
    have hsent := htask.sent
    rw [hpc] at hsent
    simpa [Tx.leave,Tx.bytesFrom,Tx.through,Pc.progress] using hsent
  · intro r hr
    exact (h.task r).frame Iff.rfl id (fun _ _ => rfl) rfl (by simp [Tx.leave,Tx.through,Function.update_of_ne hr])

theorem content_fill {s : Tx} {x : Slot} {bytes : Bytes} {h : Handle} (hne : h.slot ≠ x) :
    (s.fill x bytes).content h = s.content h := by
  simp [Tx.content,Tx.fill,Function.update_of_ne hne]

theorem inHand_slot {s : Tx} {k : Handle} (hk : k ∈ s.inHand ++ s.preboot) :
    ∃ p, p ≠ .free ∧ k.slot ∈ s.bag p := by
  rcases List.mem_append.mp hk with hk | hk
  · simp only [Tx.inHand] at hk
    cases hg : s.gate with
    | none => simp [hg] at hk
    | some t =>
      rw [hg] at hk
      refine ⟨.caller t,by simp,?_⟩
      cases hp : s.pc t <;> simp_all [Pc.inHand,Tx.bag,Pc.slot]
  · exact ⟨.preboot,by simp,List.mem_map_of_mem hk⟩

theorem Inv.takeSlot {s : Tx} (h : Inv s) {t : Nat} {c : Call} (hpc : s.pc t = .loop c) {x : Slot}
    {free : List Slot} (hfree : s.free = x :: free) :
    Inv ((Tx.fill {s with free := free} x c.chunk).setPc t (.filled c x)) := by
  have htask := h.task t
  have hx : x ∈ s.bag .free := by simp [Tx.bag,hfree]
  have hmove : GateMove t s.gate s.gate (s.pc t).hasGate (Pc.filled c x).hasGate :=
    .inl ⟨rfl,by rw [hpc]; rfl⟩
  have hin : Tx.inHand ((Tx.fill {s with free := free} x c.chunk).setPc t (.filled c x)) = s.inHand :=
    inHand_eq rfl hmove (by rw [hpc]; rfl) rfl
  refine Inv.of_task rfl ?_ h.pool ?_ ?_ ?_
  · refine h.custody.move (p := .free) (q := .caller t) (x := x) (by simp) ?_ ?_ ?_
    · simp [Tx.bag,hfree,Tx.setPc,Tx.fill]
    · rw [bag_self rfl]
      simp [Tx.bag,hpc,Pc.slot]
    · intro p hp hq
      cases p with
      | caller r => exact bag_other rfl (fun hr => hq (hr ▸ rfl))
      | free => exact absurd rfl hp
      | preboot => rfl
      | toHost => rfl
      | transport => rfl
  · have hsame : ∀ k ∈ s.inHand ++ s.preboot,
        ((Tx.fill {s with free := free} x c.chunk).setPc t (.filled c x)).content k = s.content k := by
      intro k hk
      obtain ⟨p,hp,hm⟩ := inHand_slot hk
      refine content_fill (fun he => hp ?_)
      rw [he] at hm
      exact h.custody.eq_of_mem hm hx
    refine ⟨fun hr => ?_,h.queue.later,h.queue.early,?_,?_⟩
    · rw [hin]
      exact h.queue.emptied hr
    · rw [hin]
      change (s.handed ++ (s.inHand ++ s.preboot).map _).Sublist _
      rw [List.map_congr_left hsame]
      exact h.queue.order
    · rw [hin]
      exact h.queue.count
  · refine ⟨hmove.self htask.gate,fun hc => htask.confirm (by rw [hpc]; exact hc),?_,?_⟩
    · rintro _ _ ⟨⟩
      simp [Tx.setPc,Tx.fill]
    · have hsent := htask.sent
      rw [hpc] at hsent
      exact hsent
  · intro r hr
    refine (h.task r).frame Iff.rfl id (fun y hy => ?_) rfl rfl
    have hne : y ≠ x := by
      rintro rfl
      have hp := h.custody.eq_of_mem (bag_caller hy) hx
      cases hp
    simp [Tx.setPc,Tx.fill,Function.update_of_ne hne]

theorem custody_publish {s s' : Tx} (h : Custody s.bag) {t : Nat} {pc : Pc} {k : Handle} {q : Place}
    (hpc : s'.pc = Function.update s.pc t pc) (hslot : (s.pc t).slot = some k.slot) (hnone : pc.slot = none)
    (hq : s'.bag q = s.bag q ++ [k.slot]) (hne : ∀ r, q ≠ .caller r)
    (hrest : ∀ p, p ≠ q → (∀ r, p ≠ .caller r) → s'.bag p = s.bag p) : Custody s'.bag := by
  refine h.move (p := .caller t) (q := q) (x := k.slot) (fun he => hne t he.symm) ?_ ?_ ?_
  · simp [Tx.bag,hpc,hslot,hnone]
  · rw [hq]
    exact List.perm_append_singleton _ _
  · intro p hp hpq
    by_cases hr : ∃ r, p = .caller r
    · obtain ⟨r,rfl⟩ := hr
      exact bag_other hpc (fun hr => hp (hr ▸ rfl))
    · exact hrest p hpq (fun r hr' => hr ⟨r,hr'⟩)

theorem content_handle {s : Tx} {c : Call} {x : Slot}
    (h : (s.storage x).take c.chunk.length = c.chunk) : s.content (c.handle x) = ⟨c.ty,c.chunk⟩ := by
  simp [Tx.content,Call.handle,h]

theorem TaskOk.publish {s s' : Tx} {t : Nat} {c : Call} {x : Slot} (h : TaskOk s t (.gated c x))
    (hgate : s'.gate = s.gate) (hready : s'.hostReady = s.hostReady)
    (hsent : s'.bytesFrom t = s.bytesFrom t ++ c.chunk) (hthrough : s'.through t = s.through t) :
    TaskOk s' t (.published c) where
  gate := by
    rw [hgate]
    exact h.gate
  confirm := fun hc => by
    rw [hready]
    exact h.confirm hc
  filled := by rintro _ _ ⟨⟩
  sent := by
    rw [hsent,hthrough,h.sent,List.append_assoc]
    exact congrArg _ c.take_chunk.symm

theorem Inv.publishToHost {s : Tx} (h : Inv s) {t : Nat} {c : Call} {x : Slot}
    (hpc : s.pc t = .gated c x) (hready : s.hostReady = true) :
    Inv (Tx.setPc {s.sendToHost (c.handle x) with later := s.later ++ [(t,⟨c.ty,c.chunk⟩)]} t
      (.published c)) := by
  have htask := h.task t
  rw [hpc] at htask
  have hmove : GateMove t s.gate s.gate (s.pc t).hasGate (Pc.published c).hasGate :=
    .inl ⟨rfl,by rw [hpc]; rfl⟩
  have hin : Tx.inHand (Tx.setPc {s.sendToHost (c.handle x) with
      later := s.later ++ [(t,⟨c.ty,c.chunk⟩)]} t (.published c)) = s.inHand :=
    inHand_eq rfl hmove (by rw [hpc]; rfl) rfl
  obtain ⟨hpre,hhand⟩ := h.queue.emptied hready
  have hacc : s.early ++ (s.later ++ [(t,⟨c.ty,c.chunk⟩)]) =
      s.early ++ s.later ++ [(t,(⟨c.ty,c.chunk⟩ : Chunk))] := (List.append_assoc _ _ _).symm
  refine Inv.of_task rfl ?_ h.pool ?_ ?_ ?_
  · refine custody_publish (k := c.handle x) (q := .toHost) h.custody rfl (by rw [hpc]; rfl) rfl ?_
      (by simp) ?_
    · simp [Tx.bag,Tx.setPc,Tx.sendToHost]
    · intro p hp hr
      cases p with
      | caller r => exact absurd rfl (hr r)
      | toHost => exact absurd rfl hp
      | free => rfl
      | preboot => rfl
      | transport => rfl
  · have horder := h.queue.order
    have hcount := h.queue.count
    refine ⟨fun _ => ⟨hpre,hin.trans hhand⟩,fun hr => ?_,h.queue.early,?_,?_⟩
    · change s.hostReady = false at hr
      rw [hready] at hr
      cases hr
    · rw [hin]
      simp only [hhand,hpre,List.append_nil,List.map_nil] at horder
      simp only [Tx.setPc,Tx.sendToHost,hhand,hpre,List.append_nil,List.map_nil,hacc,List.map_append]
      rw [content_handle (htask.filled c x rfl)]
      simpa using horder.append (List.Sublist.refl [(⟨c.ty,c.chunk⟩ : Chunk)])
    · rw [hin]
      simp only [Tx.setPc,Tx.sendToHost,hacc,List.length_append,List.length_singleton] at hcount ⊢
      omega
  · exact htask.publish rfl rfl (bytesFrom_self hacc) rfl
  · exact fun r hr => (h.task r).frame Iff.rfl id (fun _ _ => rfl) (bytesFrom_other hacc hr) rfl

theorem Inv.publishPreboot {s : Tx} (h : Inv s) {t : Nat} {c : Call} {x : Slot}
    (hpc : s.pc t = .gated c x) (hready : s.hostReady = false) :
    Inv (Tx.setPc {s with
      preboot := s.preboot ++ [c.handle x]
      early := s.early ++ [(t,⟨c.ty,c.chunk⟩)]} t (.published c)) := by
  have htask := h.task t
  rw [hpc] at htask
  have hmove : GateMove t s.gate s.gate (s.pc t).hasGate (Pc.published c).hasGate :=
    .inl ⟨rfl,by rw [hpc]; rfl⟩
  have hin : Tx.inHand (Tx.setPc {s with
      preboot := s.preboot ++ [c.handle x]
      early := s.early ++ [(t,⟨c.ty,c.chunk⟩)]} t (.published c)) = s.inHand :=
    inHand_eq rfl hmove (by rw [hpc]; rfl) rfl
  have hlater := h.queue.later hready
  have hacc : s.early ++ [(t,⟨c.ty,c.chunk⟩)] ++ s.later =
      s.early ++ s.later ++ [(t,(⟨c.ty,c.chunk⟩ : Chunk))] := by simp [hlater]
  have hdata : c.ty = .data := by
    cases hty : c.ty with
    | data => rfl
    | rcpSession =>
      have hx := htask.confirm (by simp [Pc.confirms,hty])
      rw [hready] at hx
      cases hx
  refine Inv.of_task rfl ?_ h.pool ?_ ?_ ?_
  · refine custody_publish (k := c.handle x) (q := .preboot) h.custody rfl (by rw [hpc]; rfl) rfl ?_
      (by simp) ?_
    · simp [Tx.bag,Tx.setPc]
    · intro p hp hr
      cases p with
      | caller r => exact absurd rfl (hr r)
      | preboot => exact absurd rfl hp
      | free => rfl
      | toHost => rfl
      | transport => rfl
  · have horder := h.queue.order
    have hcount := h.queue.count
    refine ⟨fun hr => ?_,fun _ => hlater,?_,?_,?_⟩
    · change s.hostReady = true at hr
      rw [hready] at hr
      cases hr
    · intro a ha
      rcases List.mem_append.mp ha with ha | ha
      · exact h.queue.early a ha
      · rw [List.mem_singleton.mp ha]
        exact hdata
    · rw [hin]
      simp only [Tx.setPc,hacc,List.map_append,← List.append_assoc]
      change (s.handed ++ s.inHand.map s.content ++ s.preboot.map s.content ++
        [s.content (c.handle x)]).Sublist _
      rw [content_handle (htask.filled c x rfl)]
      simpa using horder.append (List.Sublist.refl [(⟨c.ty,c.chunk⟩ : Chunk)])
    · rw [hin]
      simp only [Tx.setPc,hacc,List.length_append,List.length_singleton] at hcount ⊢
      omega
  · exact htask.publish rfl rfl (bytesFrom_self hacc) rfl
  · exact fun r hr => (h.task r).frame Iff.rfl id (fun _ _ => rfl) (bytesFrom_other hacc hr) rfl

section drain
variable {s : Tx} {t : Nat} {after : Option UInt64} {k : Handle}

theorem inHand_setPc (s : Tx) (pc : Pc) (hgate : s.gate = some t) :
    (s.setPc t pc).inHand = pc.inHand := by
  simp [Tx.inHand,Tx.setPc,hgate]

theorem Inv.drainPop (h : Inv s) (hpc : s.pc t = .draining after) {preboot : List Handle}
    (hpre : s.preboot = k :: preboot) :
    Inv (Tx.setPc {s with preboot := preboot} t (.pending after k)) := by
  have htask := h.task t
  rw [hpc] at htask
  have hgate := htask.gate.mp rfl
  have hin : s.inHand = [] := by simp [Tx.inHand,hgate,hpc,Pc.inHand]
  have hin' : Tx.inHand (Tx.setPc {s with preboot := preboot} t (.pending after k)) = [k] :=
    inHand_setPc _ _ hgate
  refine Inv.of_task rfl ?_ h.pool ?_ ?_ ?_
  · refine h.custody.move (p := .preboot) (q := .caller t) (x := k.slot) (by simp) ?_ ?_ ?_
    · simp [Tx.bag,Tx.setPc,hpre]
    · simp [Tx.bag,Tx.setPc,hpc,Pc.slot]
    · intro p hp hq
      cases p with
      | caller r => exact bag_other rfl (fun hr => hq (hr ▸ rfl))
      | preboot => exact absurd rfl hp
      | free => rfl
      | toHost => rfl
      | transport => rfl
  · have horder := h.queue.order
    have hcount := h.queue.count
    rw [hin,hpre] at horder hcount
    refine ⟨fun hr => ?_,h.queue.later,h.queue.early,?_,?_⟩
    · have hno := (h.queue.emptied hr).1
      rw [hpre] at hno
      cases hno
    · rw [hin']
      exact horder
    · rw [hin']
      simp only [Tx.setPc,List.length_cons,List.length_nil] at hcount ⊢
      omega
  · exact ⟨htask.gate,by rintro ⟨⟩,by rintro _ _ ⟨⟩,htask.sent⟩
  · exact fun r _ => (h.task r).frame Iff.rfl id (fun _ _ => rfl) rfl rfl

theorem Inv.drainSend (h : Inv s) (hpc : s.pc t = .pending after k) :
    Inv ((s.sendToHost k).setPc t (.draining after)) := by
  have htask := h.task t
  rw [hpc] at htask
  have hgate := htask.gate.mp rfl
  have hin : s.inHand = [k] := by simp [Tx.inHand,hgate,hpc,Pc.inHand]
  have hin' : Tx.inHand ((s.sendToHost k).setPc t (.draining after)) = [] := inHand_setPc _ _ hgate
  refine Inv.of_task rfl ?_ h.pool ?_ ?_ ?_
  · refine custody_publish (k := k) (q := .toHost) h.custody rfl (by rw [hpc]; rfl) rfl ?_ (by simp) ?_
    · simp [Tx.bag,Tx.setPc,Tx.sendToHost]
    · intro p hp hr
      cases p with
      | caller r => exact absurd rfl (hr r)
      | toHost => exact absurd rfl hp
      | free => rfl
      | preboot => rfl
      | transport => rfl
  · have horder := h.queue.order
    have hcount := h.queue.count
    rw [hin] at horder hcount
    refine ⟨fun hr => ⟨(h.queue.emptied hr).1,hin'⟩,h.queue.later,h.queue.early,?_,?_⟩
    · rw [hin']
      simp only [Tx.setPc,Tx.sendToHost,List.nil_append,List.append_assoc]
      exact horder
    · rw [hin']
      simp only [Tx.setPc,Tx.sendToHost,List.length_append,List.length_cons,List.length_nil] at hcount ⊢
      omega
  · exact ⟨htask.gate,by rintro ⟨⟩,by rintro _ _ ⟨⟩,htask.sent⟩
  · exact fun r _ => (h.task r).frame Iff.rfl id (fun _ _ => rfl) rfl rfl

theorem Inv.drainLose (h : Inv s) (hpc : s.pc t = .pending after k) :
    Inv (Tx.setPc {s with lost := s.lost ++ [s.content k]} t (.unsent after k)) := by
  have htask := h.task t
  rw [hpc] at htask
  have hgate := htask.gate.mp rfl
  have hin : s.inHand = [k] := by simp [Tx.inHand,hgate,hpc,Pc.inHand]
  have hin' : Tx.inHand (Tx.setPc {s with lost := s.lost ++ [s.content k]} t (.unsent after k)) = [] :=
    inHand_setPc _ _ hgate
  refine Inv.of_task rfl ?_ h.pool ?_ ?_ ?_
  · convert h.custody using 1
    funext p
    cases p with
    | caller r =>
      by_cases hr : r = t
      · subst hr
        rw [bag_self rfl,Tx.bag,hpc]
        rfl
      · exact bag_other rfl hr
    | free => rfl
    | preboot => rfl
    | toHost => rfl
    | transport => rfl
  · have horder := h.queue.order
    have hcount := h.queue.count
    rw [hin] at horder hcount
    refine ⟨fun hr => ⟨(h.queue.emptied hr).1,hin'⟩,h.queue.later,h.queue.early,?_,?_⟩
    · rw [hin']
      refine List.Sublist.trans ?_ horder
      exact (List.Sublist.refl _).append (List.Sublist.map _ (List.sublist_append_right [k] _))
    · rw [hin']
      simp only [Tx.setPc,List.length_append,List.length_cons,List.length_nil] at hcount ⊢
      omega
  · exact ⟨htask.gate,by rintro ⟨⟩,by rintro _ _ ⟨⟩,htask.sent⟩
  · exact fun r _ => (h.task r).frame Iff.rfl id (fun _ _ => rfl) rfl rfl

end drain

theorem Inv.transmit {s : Tx} (h : Inv s) {k : Handle} {toHost : List Handle}
    (hq : s.toHost = k :: toHost) :
    Inv {s with toHost := toHost, transport := s.transport ++ [k.slot]} := by
  refine ⟨?_,h.pool,h.queue.ready rfl ⟨rfl,rfl,rfl,rfl,rfl,rfl⟩ (.inl rfl),fun r => ?_⟩
  · refine h.custody.move (p := .toHost) (q := .transport) (x := k.slot) (by simp) ?_ ?_ ?_
    · simp [Tx.bag,hq]
    · exact List.perm_append_singleton _ _
    · intro p hp hq
      cases p <;> first | rfl | exact absurd rfl hp | exact absurd rfl hq
  · exact (h.task r).frame Iff.rfl id (fun _ _ => rfl) rfl rfl

theorem Inv.complete {s : Tx} (h : Inv s) {x : Slot} (hx : x ∈ s.transport) :
    Inv {s with free := s.free ++ [x], transport := s.transport.erase x} := by
  refine ⟨?_,h.pool,h.queue.ready rfl ⟨rfl,rfl,rfl,rfl,rfl,rfl⟩ (.inl rfl),fun r => ?_⟩
  · refine h.custody.move (p := .transport) (q := .free) (x := x) (by simp) ?_ ?_ ?_
    · exact List.perm_cons_erase hx
    · exact List.perm_append_singleton _ _
    · intro p hp hq
      cases p <;> first | rfl | exact absurd rfl hp | exact absurd rfl hq
  · exact (h.task r).frame Iff.rfl id (fun _ _ => rfl) rfl rfl

theorem leave_setPc (s : Tx) (t : Nat) (pc : Pc) (c : Call) : (s.setPc t pc).leave t c = s.leave t c := by
  simp [Tx.leave,Tx.setPc]

theorem Inv.advance {s s' : Tx} (h : Inv s) {t : Nat} {ok : Bool}
    (hs : advance s t ok = some s') : Inv s' := by
  have htask := h.task t
  have hgoto := h.goto t
  simp only [RcpBridge.advance] at hs
  cases hpc : s.pc t with
  | idle => simp [hpc] at hs
  | loop c =>
    simp only [hpc] at hs
    split at hs
    · cases hs
      exact h.leave hpc s.restart
    split at hs
    · rename_i x free hfree
      cases hs
      exact h.takeSlot hpc hfree
    · split at hs <;> cases hs
      exact h.leave hpc true
  | filled c x =>
    simp only [hpc] at hs hgoto htask
    split at hs
    · rename_i hnone
      cases hs
      exact hgoto (.gated c x) (some t) s.hostReady s.sessionReady s.restart rfl rfl rfl rfl (.inr rfl)
        (.inr (.inl ⟨hnone,rfl,rfl⟩)) (.inl rfl) htask.confirm
    split at hs <;> cases hs
    exact hgoto (.giveBack c x) s.gate s.hostReady s.sessionReady s.restart rfl rfl rfl rfl (.inl rfl)
      (.inl ⟨rfl,rfl⟩) (.inl rfl) htask.confirm
  | gated c x =>
    simp only [hpc] at hs hgoto htask
    have hrefused : Inv (s.setPc t (.refused c x)) :=
      hgoto (.refused c x) s.gate s.hostReady s.sessionReady s.restart rfl rfl rfl rfl (.inl rfl)
        (.inl ⟨rfl,rfl⟩) (.inl rfl) htask.confirm
    split at hs
    · rename_i hready
      split at hs <;> cases hs
      · exact h.publishToHost hpc hready
      · exact hrefused
    split at hs
    · rename_i hready _
      cases hs
      exact h.publishPreboot hpc (by simpa using hready)
    split at hs <;> cases hs
    exact hrefused
  | published c =>
    simp only [hpc] at hs hgoto htask
    cases hs
    exact hgoto (.loop {c with done := c.done+c.chunk.length}) none s.hostReady s.sessionReady s.restart
      rfl rfl rfl rfl (.inl rfl) (.inr (.inr ⟨htask.gate.mp rfl,rfl,rfl⟩)) (.inl rfl) htask.confirm
  | refused c x =>
    simp only [hpc] at hs hgoto htask
    cases hs
    exact hgoto (.giveBack c x) none s.hostReady s.sessionReady s.restart rfl rfl rfl rfl (.inl rfl)
      (.inr (.inr ⟨htask.gate.mp rfl,rfl,rfl⟩)) (.inl rfl) htask.confirm
  | giveBack c x =>
    simp only [hpc] at hs htask
    cases hs
    have hrel : Inv ((espHostedRcpReleaseTxSlot s x).setPc t (.loop c)) :=
      h.release (by rw [hpc]; rfl) rfl (by rw [hpc]; rfl) rfl (by rw [hpc]; rfl) rfl (by rw [hpc]; rfl)
        htask.confirm
    have hleave := hrel.leave (setPc_pc_self _ _ _) true
    rw [leave_setPc] at hleave
    exact hleave
  | marker nonce =>
    simp only [hpc] at hs hgoto htask
    split at hs
    · rename_i hnone
      cases hs
      exact hgoto (.marking nonce) (some t) s.hostReady s.sessionReady s.restart rfl rfl rfl rfl (.inl rfl)
        (.inr (.inl ⟨hnone,rfl,rfl⟩)) (.inl rfl) (by rintro ⟨⟩)
    split at hs <;> cases hs
    exact hgoto .idle s.gate s.hostReady s.sessionReady true rfl rfl rfl rfl (.inl rfl)
      (.inl ⟨rfl,rfl⟩) (.inl rfl) (by rintro ⟨⟩)
  | marking nonce =>
    simp only [hpc] at hs hgoto htask
    cases hs
    exact hgoto (.ready (some nonce)) none s.hostReady true s.restart rfl rfl rfl rfl (.inl rfl)
      (.inr (.inr ⟨htask.gate.mp rfl,rfl,rfl⟩)) (.inl rfl) (by rintro ⟨⟩)
  | ready after =>
    simp only [hpc] at hs hgoto htask
    split at hs
    · rename_i hnone
      cases hs
      exact hgoto (.draining after) (some t) s.hostReady s.sessionReady s.restart rfl rfl rfl rfl (.inl rfl)
        (.inr (.inl ⟨hnone,rfl,rfl⟩)) (.inl rfl) (by rintro ⟨⟩)
    split at hs <;> cases hs
    exact hgoto .idle s.gate s.hostReady s.sessionReady (s.restart || after.isSome) rfl rfl rfl rfl
      (.inl rfl) (.inl ⟨rfl,rfl⟩) (.inl rfl) (by rintro ⟨⟩)
  | draining after =>
    simp only [hpc] at hs hgoto htask
    split at hs
    · rename_i k preboot hpre
      cases hs
      exact h.drainPop hpc hpre
    · rename_i hpre
      cases hs
      exact hgoto (.leaving after true) s.gate true s.sessionReady s.restart rfl rfl rfl rfl (.inl rfl)
        (.inl ⟨rfl,rfl⟩) (.inr ⟨rfl,hpre,rfl⟩) (fun _ => rfl)
  | pending after k =>
    simp only [hpc] at hs
    split at hs <;> cases hs
    · exact h.drainSend hpc
    · exact h.drainLose hpc
  | unsent after k =>
    simp only [hpc] at hs
    cases hs
    exact h.release (by rw [hpc]; rfl) rfl (by rw [hpc]; rfl) rfl (by rw [hpc]; rfl) rfl
      (by rw [hpc]; rfl) (by rintro ⟨⟩)
  | leaving after published =>
    simp only [hpc] at hs hgoto htask
    have hgive : GateMove t s.gate none true false := .inr (.inr ⟨htask.gate.mp rfl,rfl,rfl⟩)
    split at hs
    · rename_i hp
      cases hs
      cases after with
      | none =>
        exact hgoto .idle none s.hostReady s.sessionReady s.restart rfl rfl rfl rfl (.inl rfl) hgive
          (.inl rfl) (by rintro ⟨⟩)
      | some nonce =>
        exact hgoto (.loop (sessionAck nonce)) none s.hostReady s.sessionReady s.restart rfl rfl rfl rfl
          (.inl rfl) hgive (.inl rfl) (fun _ => htask.confirm hp)
    · cases hs
      exact hgoto .idle none s.hostReady s.sessionReady true rfl rfl rfl rfl (.inl rfl) hgive (.inl rfl)
        (by rintro ⟨⟩)

theorem Inv.txStep {cfg : Config} {s s' : Tx} (h : Inv s) {a : Action}
    (hs : txStep cfg s a = some s') : Inv s' := by
  cases a with
  | send t data =>
    simp only [RcpBridge.txStep] at hs
    split at hs <;> cases hs
    rename_i hpc
    have hgoto := h.goto t
    simp only [hpc] at hgoto
    exact hgoto (.loop {ty := .data, data := data}) s.gate s.hostReady s.sessionReady s.restart rfl rfl rfl
      rfl (.inl rfl) (.inl ⟨rfl,rfl⟩) (.inl rfl) (by rintro ⟨⟩)
  | hostReady t =>
    simp only [RcpBridge.txStep] at hs
    split at hs <;> cases hs
    rename_i hpc
    have hgoto := h.goto t
    simp only [hpc] at hgoto
    exact hgoto (.ready none) s.gate s.hostReady s.sessionReady s.restart rfl rfl rfl
      rfl (.inl rfl) (.inl ⟨rfl,rfl⟩) (.inl rfl) (by rintro ⟨⟩)
  | sessionStart t version nonce =>
    simp only [RcpBridge.txStep] at hs
    split at hs
    · rename_i hpc
      have hgoto := h.goto t
      simp only [hpc] at hgoto
      split at hs <;> cases hs
      · exact h
      · exact hgoto (.marker nonce) s.gate s.hostReady s.sessionReady s.restart rfl rfl rfl
          rfl (.inl rfl) (.inl ⟨rfl,rfl⟩) (.inl rfl) (by rintro ⟨⟩)
    · cases hs
  | advance t ok => exact h.advance hs
  | transmit =>
    simp only [RcpBridge.txStep] at hs
    split at hs <;> cases hs
    rename_i hq
    exact h.transmit hq
  | complete x =>
    simp only [RcpBridge.txStep] at hs
    split at hs <;> cases hs
    rename_i hx
    have hroom := release_eq h.custody (p := .transport) hx (by simp)
    have hsame : espHostedRcpReleaseTxSlot {s with transport := s.transport.erase x} x =
        {s with free := s.free ++ [x], transport := s.transport.erase x} := by
      simp only [espHostedRcpReleaseTxSlot] at hroom ⊢
      split
      · rfl
      · rename_i hfull
        have herr := congrArg Tx.free hroom
        simp [if_neg hfull] at herr
    rw [hsame]
    exact h.complete hx
  | rxFromHost data alloc => cases hs; exact h
  | read size => cases hs; exact h
  | readStep => cases hs; exact h

/-! The calls of a task are its sends. -/

def sends (t : Nat) : Action → List Bytes
  | .send r data => if r = t then [data] else []
  | _ => []

def Pc.asked (pc : Pc) : List Bytes := (pc.call.toList.filter fun c => c.ty = .data).map Call.data

theorem asked_eq (s : Tx) (t : Nat) :
    s.asked t = ((s.returned t).filter fun c => c.ty = .data).map Call.data ++ (s.pc t).asked := by
  simp [Tx.asked,Tx.calls,Pc.asked]

theorem asked_goto {s s' : Tx} {r t : Nat} {pc : Pc} (hret : s'.returned = s.returned) (hpc : s'.pc = Function.update s.pc r pc)
    (hcall : pc.asked = (s.pc r).asked) : s'.asked t = s.asked t := by
  rw [asked_eq,asked_eq,hret,hpc]
  by_cases ht : t = r
  · subst ht
    rw [Function.update_self,hcall]
  · rw [Function.update_of_ne ht]

theorem asked_leave {s s' : Tx} {r t : Nat} {c : Call} (hret : s'.returned = Function.update s.returned r (s.returned r ++ [c]))
    (hpc : s'.pc = Function.update s.pc r .idle) (hcall : (s.pc r).call = some c) : s'.asked t = s.asked t := by
  simp only [Tx.asked,Tx.calls,hret,hpc]
  by_cases ht : t = r
  · subst ht
    rw [Function.update_self,Function.update_self,hcall]
    simp [Pc.call]
  · simp [Function.update_of_ne ht]

theorem release_calls (s : Tx) (x : Slot) :
    (espHostedRcpReleaseTxSlot s x).returned = s.returned ∧ (espHostedRcpReleaseTxSlot s x).pc = s.pc := by
  unfold espHostedRcpReleaseTxSlot
  split <;> exact ⟨rfl,rfl⟩

theorem advance_asked {s s' : Tx} {r : Nat} {ok : Bool} (hs : advance s r ok = some s') (t : Nat) :
    s'.asked t = s.asked t := by
  unfold advance at hs
  cases hpc : s.pc r <;> simp only [hpc] at hs
  case idle => cases hs
  case loop c =>
    split at hs
    · cases hs
      exact asked_leave rfl rfl (by rw [hpc]; rfl)
    split at hs
    · cases hs
      exact asked_goto rfl rfl (by rw [hpc]; rfl)
    · split at hs <;> cases hs
      exact asked_leave rfl rfl (by rw [hpc]; rfl)
  case giveBack c x =>
    cases hs
    obtain ⟨hret,hsame⟩ := release_calls s x
    exact asked_leave (r := r) (c := c) (by simp [Tx.leave,hret]) (by simp [Tx.leave,hsame]) (by rw [hpc]; rfl)
  case unsent after h =>
    cases hs
    obtain ⟨hret,hsame⟩ := release_calls s h.slot
    have hmoved : (Tx.setPc (espHostedRcpReleaseTxSlot s h.slot) r (.leaving after false)).pc =
        Function.update s.pc r (.leaving after false) := by
      rw [Tx.setPc,hsame]
    exact asked_goto hret hmoved (by rw [hpc]; rfl)
  case published c =>
    cases hs
    refine asked_goto rfl rfl ?_
    rw [hpc]
    cases hty : c.ty <;> simp [Pc.asked,Pc.call,hty]
  case leaving after published =>
    split at hs <;> cases hs
    · cases after <;> exact asked_goto rfl rfl (by rw [hpc]; rfl)
    · exact asked_goto rfl rfl (by rw [hpc]; rfl)
  all_goals
    repeat' split at hs
    all_goals cases hs
    all_goals exact asked_goto rfl rfl (by rw [hpc]; rfl)

theorem txStep_asked {cfg : Config} {s s' : Tx} {a : Action} (hs : txStep cfg s a = some s') (t : Nat) :
    s'.asked t = s.asked t ++ sends t a := by
  have hsame (h : s'.asked t = s.asked t) : s'.asked t = s.asked t ++ [] := by rw [h,List.append_nil]
  cases a with
  | send r data =>
    simp only [txStep] at hs
    split at hs <;> cases hs
    rename_i hpc
    rw [asked_eq,asked_eq]
    by_cases ht : r = t
    · subst ht
      simp [sends,Tx.setPc,Pc.asked,Pc.call,hpc]
    · simp [sends,Tx.setPc,ht,Function.update_of_ne (Ne.symm ht)]
  | hostReady r =>
    simp only [txStep] at hs
    split at hs <;> cases hs
    exact hsame (asked_goto rfl rfl (by rw [‹s.pc r = .idle›]; rfl))
  | sessionStart r version nonce =>
    simp only [txStep] at hs
    split at hs
    · split at hs <;> cases hs
      · exact hsame rfl
      · exact hsame (asked_goto rfl rfl (by rw [‹s.pc r = .idle›]; rfl))
    · cases hs
  | advance r ok => exact hsame (advance_asked hs t)
  | transmit =>
    simp only [txStep] at hs
    split at hs <;> cases hs
    exact hsame rfl
  | complete x =>
    simp only [txStep] at hs
    split at hs <;> cases hs
    obtain ⟨hret,hpc⟩ := release_calls {s with transport := s.transport.erase x} x
    exact hsame (by simp [Tx.asked,Tx.calls,hret,hpc])
  | rxFromHost data alloc => cases hs; exact hsame rfl
  | read size => cases hs; exact hsame rfl
  | readStep => cases hs; exact hsame rfl

theorem step_asked {cfg : Config} {s s' : Bridge} {a : Action} (hs : step cfg s a = some s') (t : Nat) :
    s'.tx.asked t = s.tx.asked t ++ sends t a := by
  simp only [step] at hs
  split at hs
  · cases hs
    unfold espHostedRcpRxFromHost
    repeat' split
    all_goals exact (List.append_nil _).symm
  · obtain ⟨tx,htx,hs⟩ := Option.bind_eq_some_iff.mp hs
    obtain ⟨rx,-,rfl⟩ := Option.map_eq_some_iff.mp hs
    exact txStep_asked htx t

theorem exec_asked {cfg : Config} {acts : List Action} {s s' : Bridge} (h : exec (step cfg) s acts = some s') (t : Nat) :
    s'.tx.asked t = s.tx.asked t ++ acts.flatMap (sends t) := by
  induction acts generalizing s with
  | nil =>
    cases h
    simp
  | cons a acts ih =>
    obtain ⟨m,hm,hrest⟩ := exec_cons h
    rw [ih hrest,step_asked hm,List.flatMap_cons,List.append_assoc]

/-! The receiving half: a chunk is in the queue, in `s_current_rx` or read. -/

def RxOk (s : Rx) : Prop := s.reads.flatten ++ s.waiting = s.received.flatten

theorem RxChunk.split (chunk : RxChunk) (n : Nat) :
    (chunk.data.drop chunk.off).take n ++ chunk.data.drop (chunk.off+n) = chunk.data.drop chunk.off := by
  rw [← List.drop_drop]
  exact List.take_append_drop _ _

theorem RxOk.readStep {s s' : Rx} (h : RxOk s) (hs : readStep s = some s') : RxOk s' := by
  obtain ⟨r,hr,hs⟩ := Option.bind_eq_some_iff.mp hs
  simp only [RxOk,Rx.waiting,hr,Option.elim_some] at h
  split at hs
  · cases hs
    simpa [RxOk,Rx.waiting] using h
  split at hs
  · rename_i q chunk hcur
    cases hs
    generalize min (r.size-r.copied.length) (chunk.data.length-chunk.off) = n
    rw [hcur,Option.elim_some,← chunk.split n] at h
    simp only [RxOk,Rx.waiting,Option.elim_some]
    split
    · rename_i hend
      rw [hend,List.drop_length,List.append_nil] at h
      simpa using h
    · simp only [Option.elim_some,List.append_assoc] at h ⊢
      exact h
  · rename_i chunk q hcur hq
    cases hs
    simpa [RxOk,Rx.waiting,hr,hcur,hq] using h
  · cases hs
    simpa [RxOk,Rx.waiting] using h

theorem RxOk.rxStep {s s' : Rx} (h : RxOk s) {a : Action} (hs : rxStep s a = some s') : RxOk s' := by
  cases a with
  | read size =>
    simp only [RcpBridge.rxStep] at hs
    split at hs <;> cases hs
    rename_i hno
    split
    · exact h
    · simpa [RxOk,Rx.waiting,hno] using h
  | readStep => exact h.readStep hs
  | send t data => cases hs; exact h
  | hostReady t => cases hs; exact h
  | sessionStart t version nonce => cases hs; exact h
  | advance t ok => cases hs; exact h
  | transmit => cases hs; exact h
  | complete x => cases hs; exact h
  | rxFromHost data alloc => cases hs; exact h

theorem inv_rxFromHost {cfg : Config} {s : Bridge} (h : Inv s.tx ∧ RxOk s.rx) (data : Bytes) (alloc : Bool) :
    Inv (espHostedRcpRxFromHost cfg s data alloc).tx ∧ RxOk (espHostedRcpRxFromHost cfg s data alloc).rx := by
  have hrestart : Inv {s.tx with restart := true} :=
    ⟨h.1.custody,h.1.pool,h.1.queue.ready rfl ⟨rfl,rfl,rfl,rfl,rfl,rfl⟩ (.inl rfl),
      fun r => (h.1.task r).frame Iff.rfl id (fun _ _ => rfl) rfl rfl⟩
  simp only [espHostedRcpRxFromHost]
  split
  · exact ⟨hrestart,h.2⟩
  split
  · exact ⟨h.1,h.2⟩
  split
  · refine ⟨h.1,?_⟩
    have hrx : s.rx.reads.flatten ++ s.rx.waiting = s.rx.received.flatten := h.2
    simp only [RxOk,List.flatten_append,← hrx]
    simp [Rx.waiting]
  · exact ⟨hrestart,h.2⟩

theorem step_inv {cfg : Config} (s : Bridge) (a : Action) (s' : Bridge) (h : Inv s.tx ∧ RxOk s.rx)
    (hs : step cfg s a = some s') : Inv s'.tx ∧ RxOk s'.rx := by
  simp only [step] at hs
  split at hs
  · cases hs
    exact inv_rxFromHost h _ _
  · obtain ⟨tx,htx,hs⟩ := Option.bind_eq_some_iff.mp hs
    obtain ⟨rx,hrx,rfl⟩ := Option.map_eq_some_iff.mp hs
    exact ⟨h.1.txStep htx,h.2.rxStep hrx⟩

/-- Every chunk accepted from a producer, in the order of acceptance. -/
def Tx.accepted (s : Tx) : List Chunk := (s.early ++ s.later).map Prod.snd

def Tx.unsent (s : Tx) : List Chunk := (s.inHand ++ s.preboot).map s.content

/-- Every slot is in one place and a release finds room. The host queue gets the accepted
chunks in order, those from before the host was ready first and the session ACK after
them, less the pre-boot chunks whose publication timed out; what has been accepted from a
task is what its sends have returned as done, and what the running one has got. Reads
return the received chunks. -/
theorem bridge_slots_and_order (cfg : Config) (acts : List Action) (s : Bridge)
    (hrun : exec (step cfg) {} acts = some s) :
    (∀ x, ∃! p, x ∈ s.tx.bag p) ∧ (∀ p, (s.tx.bag p).Nodup) ∧ s.tx.accountingError = false ∧
    (s.tx.handed ++ s.tx.unsent).Sublist s.tx.accepted ∧
    (s.tx.lost = [] → s.tx.handed ++ s.tx.unsent = s.tx.accepted) ∧
    (s.tx.hostReady = false → s.tx.later = []) ∧ (s.tx.hostReady = true → s.tx.unsent = []) ∧
    (∀ a ∈ s.tx.early, a.2.ty = .data) ∧
    (∀ t, s.tx.asked t = acts.flatMap (sends t)) ∧
    (∀ t, s.tx.bytesFrom t = s.tx.through t ++ (s.tx.pc t).progress) ∧
    s.rx.reads.flatten ++ s.rx.waiting = s.rx.received.flatten := by
  have hinit : Inv (Bridge.tx {}) ∧ RxOk (Bridge.rx {}) := ⟨inv_initial,rfl⟩
  have hinv : Inv s.tx ∧ RxOk s.rx := exec_invariant (I := fun s => Inv s.tx ∧ RxOk s.rx) step_inv hinit hrun
  obtain ⟨h,hrx⟩ := hinv
  refine ⟨h.custody.existsUnique,h.custody.nodup,h.pool,h.queue.order,fun hlost => ?_,h.queue.later,
    fun hr => ?_,h.queue.early,fun t => exec_asked hrun t,fun t => (h.task t).sent,hrx⟩
  · refine h.queue.order.eq_of_length ?_
    have hcount := h.queue.count
    rw [hlost] at hcount
    simp only [List.length_append,List.length_map,List.length_nil] at hcount ⊢
    omega
  · simp [Tx.unsent,h.queue.emptied hr]

/-- Task `t` takes `n` steps without a timeout. -/
def goes (t n : Nat) : List Action := List.replicate n (.advance t true)

def sampleConfig : Config := {nonce := 7, rxQueueSize := 4}

/-- A chunk from before the session, the session, a chunk after it, and one H2E chunk read
in two parts. -/
def sessionRun : List Action :=
  ([.send 0 [1,2]] : List Action) ++ goes 0 5 ++ ([.sessionStart 1 1 7] : List Action) ++ goes 1 12 ++
    ([.send 0 [3],.transmit] : List Action) ++ goes 0 5 ++
    ([.complete ⟨0,by decide⟩,.rxFromHost [8,9] true,.read 1,.readStep,.readStep,.readStep,.read 4,
      .readStep,.readStep] : List Action)

theorem bridge_slots_and_order_session :
    ∃ s ∈ exec (step sampleConfig) {} sessionRun,
      s.tx.handed = [⟨.data,[1,2]⟩,⟨.rcpSession,(sessionAck 7).data⟩,⟨.data,[3]⟩] ∧
      s.tx.handed ++ s.tx.unsent = s.tx.accepted ∧
      s.rx.reads.flatten ++ s.rx.waiting = s.rx.received.flatten := by
  have h : ∃ s ∈ exec (step sampleConfig) {} sessionRun,
      s.tx.handed = [⟨.data,[1,2]⟩,⟨.rcpSession,(sessionAck 7).data⟩,⟨.data,[3]⟩] ∧ s.tx.lost = [] := by
    decide +kernel
  obtain ⟨s,hs,hh,hl⟩ := h
  have hall := bridge_slots_and_order sampleConfig sessionRun s hs
  exact ⟨s,hs,hh,hall.2.2.2.2.1 hl,hall.2.2.2.2.2.2.2.2.2.2⟩

/-- Two chunks wait for the host; the first cannot be published in time and is dropped,
and a second host-ready event hands over the other one alone. An H2E chunk from before the
session is taken and never read. -/
theorem bridge_preboot_chunk_lost :
    (∃ s ∈ exec (step sampleConfig) {}
        ([.send 0 [1]] ++ goes 0 5 ++ [.send 0 [2]] ++ goes 0 5 ++
          [.hostReady 1] ++ goes 1 2 ++ [.advance 1 false] ++ goes 1 2 ++ [.hostReady 1] ++ goes 1 5),
      s.tx.accepted = [⟨.data,[1]⟩,⟨.data,[2]⟩] ∧ s.tx.hostReady = true ∧ s.tx.handed = [⟨.data,[2]⟩]) ∧
    ∃ s ∈ exec (step sampleConfig) {}
        ([.rxFromHost [9] true,.sessionStart 1 1 7] ++ goes 1 10 ++ [.read 4,.readStep]),
      s.tx.sessionReady = true ∧ s.rx.discarded = [[9]] ∧ s.rx.reads = [[]] := by decide +kernel

end EspHosted.RcpBridge
