import EspHosted.SpiSlots

/-!
One transaction is in circulation at a time, so its slot is alone; blocks only move from one
place to the next.
-/

set_option autoImplicit false

namespace EspHosted.SpiSlots
open EspHosted Run

/-! One transaction in circulation. -/

section
variable {B : Type} {s s' : State B}

/-- In `queue_next_transaction`. -/
def NextPc.busy : NextPc B → Nat
  | .done => 0
  | .noSlot => 0
  | _ => 1

def NextPc.chosen : NextPc B → Option Nat
  | .acquire i => some i
  | .fallback i => some i
  | .malloc i => some i
  | .mark i _ => some i
  | .fill i _ => some i
  | .queue i _ => some i
  | _ => none

def TaskPc.busy : TaskPc → Nat
  | .fetched _ _ => 1
  | _ => 0

theorem NextPc.idle {pc : NextPc B} (h : pc.busy = 0) : pc.chosen = none ∧ pc.marked = none ∧ pc.buf = none := by
  cases pc with
  | done => exact ⟨rfl,rfl,rfl⟩
  | noSlot => exact ⟨rfl,rfl,rfl⟩
  | _ => cases h

structure Slots (s : State B) : Prop where
  token : s.queued.length+s.task.busy+(s.next .boot).busy+(s.next .task).busy ≤ 1
  boot : (s.next .boot).busy = 1 → s.task = .waiting
  calling : (s.next .task).busy = 1 → ∃ i ok, s.task = .calling i ok
  hasSlot : ∀ w, s.next w ≠ .noSlot
  inUse : ∀ i, s.inUse i = true ↔ i ∈ s.queued ∨ s.task.slot = some i ∨ ∃ w, (s.next w).marked = some i
  apart : ∀ i, s.task.slot = some i → i ∉ s.queued ∧ ∀ w, (s.next w).chosen ≠ some i

/-- The caller that is in `queue_next_transaction` has nothing else to reckon with. -/
theorem Slots.alone (h : Slots s) {w : Who} (hw : (s.next w).busy = 1) :
    s.queued = [] ∧ s.task.busy = 0 ∧ ∀ v, v ≠ w → (s.next v).busy = 0 := by
  have ht := h.token
  cases w with
  | boot =>
    refine ⟨List.length_eq_zero_iff.mp (by omega),by omega,?_⟩
    intro v hv
    cases v with
    | boot => exact absurd rfl hv
    | task => omega
  | task =>
    refine ⟨List.length_eq_zero_iff.mp (by omega),by omega,?_⟩
    intro v hv
    cases v with
    | boot => omega
    | task => exact absurd rfl hv

/-- A transaction that is queued, or collected and not answered, is the only thing under way. -/
theorem Slots.nextIdle (h : Slots s) (hq : 0 < s.queued.length+s.task.busy) (w : Who) : (s.next w).busy = 0 := by
  have ht := h.token
  cases w with
  | boot => omega
  | task => omega

theorem Slots.settled (h : Slots s) (ht : s.task = .waiting) (hb : s.next .boot = .done) (i : Nat) :
    s.inUse i = true ↔ i ∈ s.queued := by
  rw [h.inUse,ht]
  constructor
  · intro hi
    rcases hi with hi | hi | ⟨w,hw⟩
    · exact hi
    · cases hi
    · cases w with
      | boot => simp [hb,NextPc.marked] at hw
      | task =>
        have hx : (s.next .task).busy = 0 := by
          by_contra hne
          obtain ⟨j,ok,hj⟩ := h.calling (by have := h.token; omega)
          rw [ht] at hj
          cases hj
        simp [(NextPc.idle hx).2.1] at hw
  · exact .inl

theorem Slots.once (h : Slots s) : s.queued.Nodup := by
  have ht := h.token
  cases hq : s.queued with
  | nil => exact List.nodup_nil
  | cons i rest =>
    rw [hq] at ht
    have hr : rest = [] := List.length_eq_zero_iff.mp (by simp only [List.length_cons] at ht; omega)
    rw [hr]
    exact List.nodup_singleton i

theorem Slots.find (h : Slots s) {w : Who} (hw : s.next w = .find) :
    (List.range SPI_SLOT_NUM).find? (fun i => !s.inUse i) ≠ none := by
  obtain ⟨hq,-,hv⟩ := h.alone (w := w) (by rw [hw]; rfl)
  have huse : ∀ i, s.inUse i = true → s.task.slot = some i := by
    intro i hi
    rcases (h.inUse i).mp hi with hi | hi | ⟨v,hv'⟩
    · simp [hq] at hi
    · exact hi
    · by_cases hvw : v = w
      · simp [hvw,hw,NextPc.marked] at hv'
      · simp [(NextPc.idle (hv v hvw)).2.1] at hv'
  intro hnone
  rw [List.find?_eq_none] at hnone
  have h0 := huse 0 (by simpa using hnone 0 (by decide))
  have h1 := huse 1 (by simpa using hnone 1 (by decide))
  rw [h0] at h1
  cases h1

theorem Slots.next (h : Slots s) {w : Who} {c : NextPc B} (hw : (s.next w).busy = 1) (hpc : c.busy = 1)
    (hn : s'.next = (s.setNext w c).next) (hq : s'.queued = s.queued) (ht : s'.task = s.task)
    (hc : ∀ i, c.chosen = some i → (s.next w).chosen = some i ∨ s.inUse i = false)
    (hu : ∀ i, s'.inUse i = true ↔ s.inUse i = true ∨ c.marked = some i)
    (hm : ∀ i, (s.next w).marked = some i → c.marked = some i) : Slots s' := by
  have hself : s'.next w = c := by simp [hn,State.setNext]
  have hother : ∀ v, v ≠ w → s'.next v = s.next v := fun v hv => by simp [hn,State.setNext,hv]
  have hbusy : ∀ v, (s'.next v).busy = (s.next v).busy := by
    intro v
    by_cases hv : v = w
    · rw [hv,hself,hpc,hw]
    · rw [hother v hv]
  refine ⟨by rw [hq,ht,hbusy,hbusy]; exact h.token,by rw [hbusy,ht]; exact h.boot,by rw [hbusy,ht]; exact h.calling,?_,?_,?_⟩
  · intro v hv
    by_cases hvw : v = w
    · rw [hvw,hself] at hv
      rw [hv] at hpc
      cases hpc
    · exact h.hasSlot v (hother v hvw ▸ hv)
  · intro i
    rw [hu,h.inUse,hq,ht]
    constructor
    · intro hx
      rcases hx with (hx | hx | ⟨v,hx⟩) | hx
      · exact .inl hx
      · exact .inr (.inl hx)
      · by_cases hv : v = w
        · exact .inr (.inr ⟨w,by rw [hself]; exact hm i (hv ▸ hx)⟩)
        · exact .inr (.inr ⟨v,by rw [hother v hv]; exact hx⟩)
      · exact .inr (.inr ⟨w,by rw [hself]; exact hx⟩)
    · intro hx
      rcases hx with hx | hx | ⟨v,hx⟩
      · exact .inl (.inl hx)
      · exact .inl (.inr (.inl hx))
      · by_cases hv : v = w
        · rw [hv,hself] at hx
          exact .inr hx
        · rw [hother v hv] at hx
          exact .inl (.inr (.inr ⟨v,hx⟩))
  · intro i hi
    rw [ht] at hi
    rw [hq]
    refine ⟨(h.apart i hi).1,?_⟩
    intro v hv
    by_cases hvw : v = w
    · rw [hvw,hself] at hv
      rcases hc i hv with hx | hx
      · exact (h.apart i hi).2 w hx
      · rw [(h.inUse i).mpr (.inr (.inl hi))] at hx
        cases hx
    · rw [hother v hvw] at hv
      exact (h.apart i hi).2 v hv

theorem Slots.queue (h : Slots s) {w : Who} {i : Nat} {b : B} (hw : s.next w = .queue i b)
    (hn : s'.next = (s.setNext w .done).next) (hq : s'.queued = [i]) (ht : s'.task = s.task)
    (hu : s'.inUse = s.inUse) : Slots s' := by
  obtain ⟨hempty,htask,hv⟩ := h.alone (w := w) (by rw [hw]; rfl)
  have hbusy : ∀ v, (s'.next v).busy = 0 := by
    intro v
    by_cases hvw : v = w
    · rw [hn,hvw]
      simp [State.setNext,NextPc.busy]
    · rw [hn]
      simp only [State.setNext,hvw,if_false]
      exact hv v hvw
  have hidle := fun v => NextPc.idle (hbusy v)
  refine ⟨by rw [hq,ht,htask,hbusy,hbusy]; simp,by simp [hbusy],by simp [hbusy],?_,?_,?_⟩
  · intro v hx
    by_cases hvw : v = w
    · simp [hn,State.setNext,hvw] at hx
    · exact h.hasSlot v (by simpa [hn,State.setNext,hvw] using hx)
  · intro j
    rw [hu,h.inUse,hempty,hq,ht]
    simp only [List.not_mem_nil,false_or,List.mem_singleton,hidle,reduceCtorEq,exists_false,or_false]
    constructor
    · intro hx
      rcases hx with hx | ⟨v,hx⟩
      · exact .inr hx
      · by_cases hvw : v = w
        · rw [hvw,hw] at hx
          exact .inl (Option.some.inj hx).symm
        · simp [(NextPc.idle (hv v hvw)).2.1] at hx
    · intro hx
      rcases hx with hx | hx
      · exact .inr ⟨w,by rw [hw,hx]; rfl⟩
      · exact .inl hx
  · intro j hj
    rw [ht] at hj
    refine ⟨?_,fun v => by simp [hidle]⟩
    rw [hq,List.mem_singleton]
    intro hji
    exact (h.apart j hj).2 w (by rw [hw,hji]; rfl)

theorem Slots.task (h : Slots s) (hq : s'.queued = s.queued) (hn : s'.next = s.next) (hu : s'.inUse = s.inUse)
    (hs : s'.task.slot = s.task.slot) (hb : s'.task.busy ≤ s.task.busy) (hnw : s.task.slot ≠ none)
    (hc : (s.next .task).busy = 0) : Slots s' := by
  have hbt : (s.next .boot).busy ≠ 1 := by
    intro hx
    rw [h.boot hx] at hnw
    exact hnw rfl
  have ht := h.token
  refine ⟨by rw [hq,hn]; omega,by rw [hn]; exact fun hx => absurd hx hbt,by rw [hn,hc]; simp,by rw [hn]; exact h.hasSlot,?_,?_⟩
  · intro i
    rw [hu,hq,hn,hs]
    exact h.inUse i
  · intro i hi
    rw [hq,hn]
    exact h.apart i (hs ▸ hi)

theorem Slots.call (h : Slots s) {i : Nat} {ok : Bool} (ht : s.task = .fetched i ok) (hq : s'.queued = s.queued)
    (hn : s'.next = (s.setNext .task .find).next) (hu : s'.inUse = s.inUse) (ht' : s'.task = .calling i ok) : Slots s' := by
  have hidle := h.nextIdle (by rw [ht]; simp [TaskPc.busy])
  have htok := h.token
  have hboot : s'.next .boot = s.next .boot := by simp [hn,State.setNext]
  have htask : s'.next .task = .find := by simp [hn,State.setNext]
  have hmark : ∀ v j, (s'.next v).marked = some j ↔ (s.next v).marked = some j := by
    intro v j
    cases v with
    | boot => rw [hboot]
    | task =>
      rw [htask,(NextPc.idle (hidle .task)).2.1]
      simp [NextPc.marked]
  refine ⟨?_,by simp [hboot,hidle],fun _ => ⟨i,ok,ht'⟩,?_,?_,?_⟩
  · rw [ht,hidle,hidle] at htok
    rw [hq,ht',hboot,htask,hidle]
    simp only [TaskPc.busy,NextPc.busy] at htok ⊢
    omega
  · intro v
    cases v with
    | boot => rw [hboot]; exact h.hasSlot .boot
    | task => simp [htask]
  · intro j
    rw [hu,hq,h.inUse,ht,ht']
    simp only [hmark]
    rfl
  · intro j hj
    rw [ht'] at hj
    rw [hq]
    refine ⟨(h.apart j (by rw [ht]; exact hj)).1,?_⟩
    intro v
    cases v with
    | boot => simp [hboot,(NextPc.idle (hidle .boot)).1]
    | task => simp [htask,NextPc.chosen]

theorem Slots.complete (h : Slots s) (hq : s'.queued = s.queued) (hn : s'.next = s.next) (hu : s'.inUse = s.inUse)
    (ht : s'.task = s.task) : Slots s' := by
  refine ⟨by rw [hq,hn,ht]; exact h.token,by rw [hn,ht]; exact h.boot,by rw [hn,ht]; exact h.calling,by rw [hn]; exact h.hasSlot,
    by rw [hu,hq,hn,ht]; exact h.inUse,by rw [hq,hn,ht]; exact h.apart⟩

theorem Slots.fetch (h : Slots s) {i : Nat} {ok : Bool} {rest : List (Nat × Bool)} (hr : s.results = (i,ok) :: rest)
    (ht : s.task = .waiting) : Slots {s with results := rest, task := .fetched i ok} := by
  have hlen : s.queued.length = s.driver.length+(rest.length+1) := by simp [State.queued,hr]
  have htok := h.token
  have hidle := h.nextIdle (by omega)
  have hempty : s.driver = [] ∧ rest = [] := by
    refine ⟨List.length_eq_zero_iff.mp (by omega),List.length_eq_zero_iff.mp (by omega)⟩
  have hq : s.queued = [i] := by simp [State.queued,hr,hempty]
  refine ⟨?_,by simp [hidle],by simp [hidle],h.hasSlot,?_,?_⟩
  · simp [State.queued,hempty,hidle,TaskPc.busy]
  · intro j
    rw [h.inUse,hq,ht]
    simp only [State.queued,hempty,TaskPc.slot,List.map_nil,List.append_nil,List.not_mem_nil,List.mem_singleton,
      Option.some.injEq,reduceCtorEq,false_or]
    constructor
    · intro hx
      exact hx.imp Eq.symm id
    · intro hx
      exact hx.imp Eq.symm id
  · intro j _
    refine ⟨by simp [State.queued,hempty],fun v => ?_⟩
    rw [(NextPc.idle (hidle v)).1]
    simp

theorem Slots.release (h : Slots s) {i : Nat} {reboot : Bool} (ht : s.task = .handed i reboot)
    (hn : (s.next .task).busy = 0) (hq : s'.queued = s.queued) (hn' : s'.next = s.next)
    (hu : s'.inUse = (s.setUse i false false).inUse) (ht' : s'.task = .waiting) : Slots s' := by
  have hb : (s.next .boot).busy = 0 := by
    by_contra hx
    have := h.boot (by have := h.token; omega)
    rw [ht] at this
    cases this
  have hidle : ∀ v, (s.next v).busy = 0 := by
    intro v
    cases v with
    | boot => exact hb
    | task => exact hn
  have htok := h.token
  obtain ⟨hnq,-⟩ := h.apart i (by rw [ht]; rfl)
  refine ⟨by rw [hq,hn',ht',hb,hn]; simp only [TaskPc.busy]; omega,fun _ => ht',by rw [hn',hn]; simp,by rw [hn']; exact h.hasSlot,?_,?_⟩
  · intro j
    rw [hu,hq,hn',ht']
    simp only [State.setUse,TaskPc.slot,reduceCtorEq,fun v => (NextPc.idle (hidle v)).2.1,exists_false,or_false]
    by_cases hj : j = i
    · subst hj
      simpa using hnq
    · have hx := h.inUse j
      simp only [ht,TaskPc.slot,Option.some.injEq,Ne.symm hj,fun v => (NextPc.idle (hidle v)).2.1,reduceCtorEq,
        exists_false,or_false] at hx
      rw [if_neg hj]
      exact hx
  · intro j hj
    rw [ht'] at hj
    cases hj

theorem Slots.notCalling (h : Slots s) (hne : ∀ i ok, s.task ≠ .calling i ok) : (s.next .task).busy = 0 := by
  by_contra hx
  obtain ⟨i,ok,hi⟩ := h.calling (by have := h.token; omega)
  exact hne i ok hi

theorem Slots.hand (h : Slots s) {i : Nat} {ok reboot b : Bool} (ht : s.task = .post i ok reboot) (hq : s'.queued = s.queued)
    (hn : s'.next = s.next) (hu : s'.inUse = s.inUse) (ht' : s'.task = .handed i b) : Slots s' :=
  h.task hq hn hu (by rw [ht,ht']; rfl) (by rw [ht,ht']; exact Nat.le_refl 0) (by rw [ht]; simp [TaskPc.slot])
    (h.notCalling (by rw [ht]; simp))

end

/-! The buffers. -/

section
variable {B : Type} [DecidableEq B] {m : Memory B} {s s' : State B}

def Place.home : Place → Bool
  | .heap => true
  | .pool => true
  | .emergency => true
  | _ => false

/-- How often a block is at one of the places it is taken from. -/
def State.home (m : Memory B) (s : State B) (b : B) : Nat :=
  (s.bag m .heap).count b+(s.bag m .pool).count b+(s.bag m .emergency).count b

structure Buffers (m : Memory B) (s : State B) : Prop where
  custody : Custody (s.bag m)
  owner : ∀ i b, s.rxBuf i = some b → i ∈ s.queued ∨ s.task.slot = some i
  handed : ∀ i reboot, s.task = .handed i reboot → s.rxBuf i = none
  ledger : ∀ b, s.log.count (.acquired b)+s.home m b = s.log.count (.recycled b)+1
  writes : ∀ i, .wrote i true ∉ s.log

theorem home_le (h : Custody (s.bag m)) (b : B) : s.home m b ≤ 1 := by
  obtain ⟨loc,hloc⟩ := h
  unfold State.home
  rw [hloc,hloc,hloc]
  cases loc b <;> simp

theorem home_congr (hb : ∀ p, p.home = true → s'.bag m p = s.bag m p) (b : B) : s'.home m b = s.home m b := by
  unfold State.home
  rw [hb .heap rfl,hb .pool rfl,hb .emergency rfl]

theorem home_cons {p : Place} {b : B} (hp : p.home = true) (hperm : (s.bag m p).Perm (b :: s'.bag m p))
    (hrest : ∀ r, r.home = true → r ≠ p → s'.bag m r = s.bag m r) (c : B) :
    s.home m c = s'.home m c+(if b = c then 1 else 0) := by
  have hcount := hperm.count_eq c
  simp only [List.count_cons,beq_iff_eq] at hcount
  unfold State.home
  cases p with
  | heap =>
    rw [hrest .pool rfl (by simp),hrest .emergency rfl (by simp)]
    omega
  | pool =>
    rw [hrest .heap rfl (by simp),hrest .emergency rfl (by simp)]
    omega
  | emergency =>
    rw [hrest .heap rfl (by simp),hrest .pool rfl (by simp)]
    omega
  | _ => cases hp

theorem Buffers.recycled_le (h : Buffers m s) (b : B) : s.log.count (.recycled b) ≤ s.log.count (.acquired b) := by
  have hl := h.ledger b
  have hle := home_le h.custody b
  omega

theorem bag_congr (hh : s'.heap = s.heap) (hp : s'.pool = s.pool) (he : s'.emergencyInUse = s.emergencyInUse)
    (hr : s'.rxBuf = s.rxBuf) (hq : s'.rxQueue = s.rxQueue) (hd : s'.held = s.held)
    (hn : ∀ w, (s'.next w).buf = (s.next w).buf) : s'.bag m = s.bag m := by
  funext p
  cases p with
  | heap => exact hh
  | pool => exact hp
  | emergency => simp only [State.bag,he]
  | slot i => simp only [State.bag,hr]
  | hand w => simp only [State.bag,hn]
  | queue q => simp only [State.bag,hq]
  | reader => simp only [State.bag,hd]

theorem Buffers.frame (h : Buffers m s) (hb : s'.bag m = s.bag m) (hr : s'.rxBuf = s.rxBuf)
    (ho : ∀ i, i ∈ s.queued ∨ s.task.slot = some i → (∃ b, s.rxBuf i = some b) →
      i ∈ s'.queued ∨ s'.task.slot = some i)
    (hd : ∀ i reboot, s'.task = .handed i reboot → s.rxBuf i = none)
    (hl : ∀ b, s'.log.count (.acquired b) = s.log.count (.acquired b) ∧
      s'.log.count (.recycled b) = s.log.count (.recycled b))
    (hw : ∀ i, .wrote i true ∈ s'.log → .wrote i true ∈ s.log) : Buffers m s' where
  custody := by rw [hb]; exact h.custody
  owner := by
    intro i b hi
    rw [hr] at hi
    exact ho i (h.owner i b hi) ⟨b,hi⟩
  handed := by
    intro i reboot ht
    rw [hr]
    exact hd i reboot ht
  ledger := by
    intro b
    have hhome : s'.home m b = s.home m b := home_congr (fun p _ => by rw [hb]) b
    rw [(hl b).1,(hl b).2,hhome]
    exact h.ledger b
  writes := fun i hi => h.writes i (hw i hi)

theorem Buffers.acquire (h : Buffers m s) {w : Who} {i : Nat} {b : B} {p : Place} (hw : (s.next w).buf = none)
    (hp : p.home = true) (hfrom : (s.bag m p).Perm (b :: s'.bag m p))
    (hrest : ∀ r, r ≠ p → r ≠ .hand w → s'.bag m r = s.bag m r) (hn : s'.next w = .mark i b)
    (hr : s'.rxBuf = s.rxBuf) (hq : s'.queued = s.queued) (ht : s'.task = s.task)
    (hl : s'.log = .acquired b :: s.log) : Buffers m s' where
  custody := by
    refine h.custody.move (by intro hx; rw [hx] at hp; cases hp) hfrom ?_ hrest
    simp only [State.bag,hn,hw]
    exact List.Perm.refl _
  owner := by
    rw [hr,hq,ht]
    exact h.owner
  handed := by
    rw [hr,ht]
    exact h.handed
  ledger := by
    intro c
    have h1 := h.ledger c
    have h2 := home_cons hp hfrom (fun r hr hne => hrest r hne (by intro hx; rw [hx] at hr; cases hr)) c
    rw [hl,List.count_cons,List.count_cons_of_ne (by simp)]
    simp only [beq_iff_eq,Ev.acquired.injEq]
    omega
  writes := by
    intro j hj
    rw [hl] at hj
    exact h.writes j (by simpa using hj)

theorem Buffers.shift (h : Buffers m s) {p q : Place} {b : B} (hpq : p ≠ q) (hp : p.home = false) (hq : q.home = false)
    (hfrom : (s.bag m p).Perm (b :: s'.bag m p)) (hto : (s'.bag m q).Perm (b :: s.bag m q))
    (hrest : ∀ r, r ≠ p → r ≠ q → s'.bag m r = s.bag m r) (hl : s'.log = s.log)
    (ho : ∀ i c, s'.rxBuf i = some c → i ∈ s'.queued ∨ s'.task.slot = some i)
    (hd : ∀ i reboot, s'.task = .handed i reboot → s'.rxBuf i = none) : Buffers m s' where
  custody := h.custody.move hpq hfrom hto hrest
  owner := ho
  handed := hd
  ledger := by
    intro c
    have hhome : ∀ r, r.home = true → s'.bag m r = s.bag m r := by
      intro r hr
      refine hrest r ?_ ?_
      · intro hx
        rw [hx,hp] at hr
        cases hr
      · intro hx
        rw [hx,hq] at hr
        cases hr
    rw [hl,home_congr hhome c]
    exact h.ledger c
  writes := by rw [hl]; exact h.writes

theorem recycle_eq (m : Memory B) (s : State B) (b : B) : s.recycle m b =
    {s with
      heap := if b = m.emergency ∨ s.pool.length < SPI_SLOT_NUM+m.queueSize+2 then s.heap else b :: s.heap
      pool := if b ≠ m.emergency ∧ s.pool.length < SPI_SLOT_NUM+m.queueSize+2 then s.pool ++ [b] else s.pool
      emergencyInUse := if b = m.emergency then false else s.emergencyInUse
      log := .recycled b :: s.log} := by
  unfold State.recycle
  by_cases hb : b = m.emergency
  · simp [hb]
  by_cases hlen : s.pool.length < SPI_SLOT_NUM+m.queueSize+2 <;> simp [hb,hlen]

/-- Where `recycle_spi_rx_buf` puts a block. -/
theorem recycle_place {b : B} (he : b = m.emergency → s.emergencyInUse = true) (hh : s'.heap = (s.recycle m b).heap)
    (hp : s'.pool = (s.recycle m b).pool) (hu : s'.emergencyInUse = (s.recycle m b).emergencyInUse) :
    ∃ q : Place, q.home = true ∧ (s'.bag m q).Perm (b :: s.bag m q) ∧
      ∀ r, r.home = true → r ≠ q → s'.bag m r = s.bag m r := by
  unfold State.recycle at hh hp hu
  by_cases hb : b = m.emergency
  · simp only [hb,if_true] at hh hp hu
    refine ⟨.emergency,rfl,by simp [State.bag,hu,he hb,hb],?_⟩
    intro r hr hne
    cases r with
    | heap => exact hh
    | pool => exact hp
    | emergency => exact absurd rfl hne
    | _ => cases hr
  simp only [hb,if_false] at hh hp hu
  by_cases hlen : s.pool.length < SPI_SLOT_NUM+m.queueSize+2
  · simp only [hlen,if_true] at hh hp hu
    refine ⟨.pool,rfl,by simp only [State.bag,hp]; exact List.perm_append_singleton b s.pool,?_⟩
    intro r hr hne
    cases r with
    | heap => exact hh
    | pool => exact absurd rfl hne
    | emergency => simp only [State.bag,hu]
    | _ => cases hr
  · simp only [hlen,if_false] at hh hp hu
    refine ⟨.heap,rfl,by simp only [State.bag,hh]; exact List.Perm.refl _,?_⟩
    intro r hr hne
    cases r with
    | heap => exact absurd rfl hne
    | pool => exact hp
    | emergency => simp only [State.bag,hu]
    | _ => cases hr

theorem Buffers.recycle (h : Buffers m s) {p : Place} {b : B} (hp : p.home = false) (hfrom : s.bag m p = [b])
    (hto : s'.bag m p = []) (hrest : ∀ r, r.home = false → r ≠ p → s'.bag m r = s.bag m r)
    (hh : s'.heap = (s.recycle m b).heap) (hpool : s'.pool = (s.recycle m b).pool)
    (hu : s'.emergencyInUse = (s.recycle m b).emergencyInUse) (hl : s'.log = (s.recycle m b).log)
    (ho : ∀ i c, s'.rxBuf i = some c → i ∈ s'.queued ∨ s'.task.slot = some i)
    (hd : ∀ i reboot, s'.task = .handed i reboot → s'.rxBuf i = none) : Buffers m s' := by
  have hmem : b ∈ s.bag m p := by rw [hfrom]; exact List.mem_singleton_self b
  -- the emergency buffer cannot be free while somebody has it
  have he : b = m.emergency → s.emergencyInUse = true := by
    intro hb
    by_contra hx
    have hq : b ∈ s.bag m .emergency := by simp [State.bag,hx,hb]
    rw [h.custody.eq_of_mem hmem hq] at hp
    cases hp
  obtain ⟨q,hq,hperm,hothers⟩ := recycle_place he hh hpool hu
  have hpq : p ≠ q := by
    intro hx
    rw [hx,hq] at hp
    cases hp
  refine ⟨h.custody.move hpq (by rw [hfrom,hto]) hperm ?_,ho,hd,?_,?_⟩
  · intro r hrp hrq
    cases hr : r.home with
    | true => exact hothers r hr hrq
    | false => exact hrest r hr hrp
  · intro c
    have h1 := h.ledger c
    have h2 := home_cons hq hperm (fun r hr hne => (hothers r hr hne).symm) c
    rw [hl,recycle_eq,List.count_cons_of_ne (by simp),List.count_cons]
    simp only [beq_iff_eq,Ev.recycled.injEq]
    omega
  · intro i hi
    rw [hl,recycle_eq] at hi
    exact h.writes i (by simpa using hi)

theorem Buffers.setNext (h : Buffers m s) {w : Who} {c : NextPc B} (hpc : c.buf = (s.next w).buf) :
    Buffers m (s.setNext w c) := by
  refine h.frame (bag_congr rfl rfl rfl rfl rfl rfl ?_) rfl (fun _ hi _ => hi) h.handed (fun _ => ⟨rfl,rfl⟩) (fun _ hi => hi)
  intro v
  by_cases hv : v = w
  · simp [State.setNext,hv,hpc]
  · simp [State.setNext,hv]

theorem Buffers.setUse (h : Buffers m s) (i : Nat) (inUse rebootAck : Bool) : Buffers m (s.setUse i inUse rebootAck) :=
  h.frame rfl rfl (fun _ hi _ => hi) h.handed (fun _ => ⟨rfl,rfl⟩) (fun _ hi => hi)

theorem Buffers.setTask (h : Buffers m s) {pc : TaskPc} (hs : pc.slot = s.task.slot)
    (hd : ∀ i reboot, pc = .handed i reboot → s.rxBuf i = none) : Buffers m {s with task := pc} :=
  h.frame rfl rfl (fun _ hi _ => hs ▸ hi) hd (fun _ => ⟨rfl,rfl⟩) (fun _ hi => hi)

theorem Buffers.setDead (h : Buffers m s) (dead : Bool) : Buffers m {s with dead := dead} :=
  h.frame rfl rfl (fun _ hi _ => hi) h.handed (fun _ => ⟨rfl,rfl⟩) (fun _ hi => hi)

structure Inv (m : Memory B) (s : State B) : Prop where
  slots : Slots s
  buffers : Buffers m s

theorem Inv.setDead (h : Inv m s) (dead : Bool) : Inv m {s with dead := dead} :=
  ⟨h.slots.complete rfl rfl rfl rfl,h.buffers.setDead dead⟩

theorem Inv.rxBuf_none (h : Inv m s) {w : Who} {i : Nat} (hbusy : (s.next w).busy = 1)
    (hi : (s.next w).chosen = some i) : s.rxBuf i = none := by
  cases hr : s.rxBuf i with
  | none => rfl
  | some b =>
    rcases h.buffers.owner i b hr with hx | hx
    · rw [(h.slots.alone hbusy).1] at hx
      cases hx
    · exact absurd hi ((h.slots.apart i hx).2 w)

theorem Inv.acquire (h : Inv m s) {w : Who} {i : Nat} {b : B} {p : Place} (hbusy : (s.next w).busy = 1)
    (hc : (s.next w).chosen = some i) (hm : (s.next w).marked = none) (hb : (s.next w).buf = none)
    (hp : p.home = true) (hfrom : (s.bag m p).Perm (b :: s'.bag m p))
    (hrest : ∀ r, r.home = true → r ≠ p → s'.bag m r = s.bag m r)
    (hn : s'.next = (s.setNext w (.mark i b)).next) (hr : s'.rxBuf = s.rxBuf) (hq : s'.queued = s.queued)
    (ht : s'.task = s.task) (hu : s'.inUse = s.inUse) (hrq : s'.rxQueue = s.rxQueue) (hheld : s'.held = s.held)
    (hl : s'.log = .acquired b :: s.log) : Inv m s' where
  slots := by
    refine h.slots.next hbusy rfl hn hq ht ?_ ?_ ?_
    · intro j hj
      rw [hc]
      exact .inl hj
    · intro j
      rw [hu]
      simp [NextPc.marked]
    · intro j hj
      rw [hm] at hj
      cases hj
  buffers := by
    have hself : s'.next w = .mark i b := by rw [hn]; simp [State.setNext]
    refine h.buffers.acquire hb hp hfrom ?_ hself hr hq ht hl
    intro r hrp hrw
    cases r with
    | heap => exact hrest _ rfl hrp
    | pool => exact hrest _ rfl hrp
    | emergency => exact hrest _ rfl hrp
    | slot j => simp only [State.bag,hr]
    | hand v =>
      have hv : v ≠ w := fun hx => hrw (by rw [hx])
      simp only [State.bag,hn,State.setNext,hv,if_false]
    | queue q => simp only [State.bag,hrq]
    | reader => simp only [State.bag,hheld]

theorem Inv.queueNext (h : Inv m s) {w : Who} {io : NextIo B} (hs : s.queueNext m w io = some s') : Inv m s' := by
  unfold State.queueNext at hs
  cases hn : s.next w with
  | done => simp [hn] at hs
  | noSlot => simp [hn] at hs
  | find =>
    simp only [hn] at hs
    cases hf : (List.range SPI_SLOT_NUM).find? (fun i => !s.inUse i) with
    | none => exact absurd hf (h.slots.find hn)
    | some i =>
      rw [hf] at hs
      cases hs
      have hfree : s.inUse i = false := by simpa using List.find?_some hf
      refine ⟨h.slots.next (w := w) (by rw [hn]; rfl) rfl rfl rfl rfl ?_ ?_ ?_,h.buffers.setNext (by rw [hn]; rfl)⟩
      · intro j hj
        cases hj
        exact .inr hfree
      · intro j
        simp [State.setNext,NextPc.marked]
      · intro j hj
        rw [hn] at hj
        cases hj
  | acquire i =>
    simp only [hn] at hs
    cases hp : s.pool with
    | nil =>
      rw [hp] at hs
      cases hs
      refine ⟨h.slots.next (w := w) (by rw [hn]; rfl) rfl rfl rfl rfl ?_ ?_ ?_,h.buffers.setNext (by rw [hn]; rfl)⟩
      · intro j hj
        rw [hn]
        exact .inl hj
      · intro j
        simp [State.setNext,NextPc.marked]
      · intro j hj
        rw [hn] at hj
        cases hj
    | cons b rest =>
      rw [hp] at hs
      cases hs
      refine h.acquire (p := .pool) (by rw [hn]; rfl) (by rw [hn]; rfl) (by rw [hn]; rfl) (by rw [hn]; rfl) rfl ?_ ?_
        rfl rfl rfl rfl rfl rfl rfl rfl
      · simp only [State.bag,hp]
        exact List.Perm.refl _
      · intro r hr hne
        cases r with
        | heap => rfl
        | pool => exact absurd rfl hne
        | emergency => rfl
        | _ => cases hr
  | fallback i =>
    simp only [hn] at hs
    cases he : s.emergencyInUse with
    | true =>
      rw [he] at hs
      cases hs
      refine ⟨h.slots.next (w := w) (by rw [hn]; rfl) rfl rfl rfl rfl ?_ ?_ ?_,h.buffers.setNext (by rw [hn]; rfl)⟩
      · intro j hj
        rw [hn]
        exact .inl hj
      · intro j
        simp [State.setNext,NextPc.marked]
      · intro j hj
        rw [hn] at hj
        cases hj
    | false =>
      rw [he] at hs
      cases hs
      refine h.acquire (p := .emergency) (by rw [hn]; rfl) (by rw [hn]; rfl) (by rw [hn]; rfl) (by rw [hn]; rfl) rfl ?_ ?_
        rfl rfl rfl rfl rfl rfl rfl rfl
      · simp [State.bag,he]
      · intro r hr hne
        cases r with
        | heap => rfl
        | pool => rfl
        | emergency => exact absurd rfl hne
        | _ => cases hr
  | malloc i =>
    simp only [hn] at hs
    cases hb : io.block with
    | none =>
      rw [hb] at hs
      cases hs
      exact h.setDead true
    | some b =>
      simp only [hb] at hs
      by_cases hmem : b ∈ s.heap
      · rw [if_pos hmem] at hs
        cases hs
        refine h.acquire (p := .heap) (by rw [hn]; rfl) (by rw [hn]; rfl) (by rw [hn]; rfl) (by rw [hn]; rfl) rfl ?_ ?_
          rfl rfl rfl rfl rfl rfl rfl rfl
        · exact List.perm_cons_erase hmem
        · intro r hr hne
          cases r with
          | heap => exact absurd rfl hne
          | pool => rfl
          | emergency => rfl
          | _ => cases hr
      · rw [if_neg hmem] at hs
        cases hs
  | mark i b =>
    simp only [hn] at hs
    cases hs
    refine ⟨h.slots.next (w := w) (c := .fill i b) (by rw [hn]; rfl) rfl rfl rfl rfl ?_ ?_ ?_,
      (h.buffers.setNext (by rw [hn]; rfl)).setUse i true false⟩
    · intro j hj
      rw [hn]
      exact .inl hj
    · intro j
      by_cases hj : j = i
      · simp [State.setUse,State.setNext,NextPc.marked,hj]
      · simp [State.setUse,State.setNext,NextPc.marked,hj,Ne.symm hj]
    · intro j hj
      rw [hn] at hj
      cases hj
  | fill i b =>
    simp only [hn] at hs
    cases hs
    have hempty := (h.slots.alone (w := w) (by rw [hn]; rfl)).1
    have hdriver : s.driver = [] := (List.append_eq_nil_iff.mp hempty).1
    refine ⟨h.slots.next (w := w) (c := .queue i b) (by rw [hn]; rfl) rfl rfl rfl rfl ?_ ?_ ?_,?_⟩
    · intro j hj
      rw [hn]
      exact .inl hj
    · intro j
      by_cases hj : j = i
      · simp [State.setUse,State.setNext,NextPc.marked,hj]
      · simp [State.setUse,State.setNext,NextPc.marked,hj,Ne.symm hj]
    · intro j hj
      rw [hn] at hj
      exact hj
    · refine ((h.buffers.setNext (w := w) (c := .queue i b) (by rw [hn]; rfl)).setUse i true io.reboot).frame rfl rfl
        (fun _ hi _ => hi) h.buffers.handed ?_ ?_
      · intro c
        exact ⟨List.count_cons_of_ne (by simp),List.count_cons_of_ne (by simp)⟩
      · intro j hj
        have hlog : .wrote j true ∈ s.log := by simpa [hdriver] using hj
        exact hlog
  | queue i b =>
    simp only [hn] at hs
    cases hq : io.queued with
    | false =>
      rw [hq] at hs
      cases hs
      exact h.setDead true
    | true =>
      rw [hq] at hs
      cases hs
      have hbusy : (s.next w).busy = 1 := by rw [hn]; rfl
      have hchosen : (s.next w).chosen = some i := by rw [hn]; rfl
      have hempty := (h.slots.alone hbusy).1
      obtain ⟨hdriver,hresults⟩ := List.append_eq_nil_iff.mp hempty
      have hq' : (s.driver ++ [i]) ++ s.results.map (·.1) = [i] := by rw [hdriver,hresults]; rfl
      refine ⟨h.slots.queue hn rfl hq' rfl rfl,?_⟩
      refine h.buffers.shift (p := .hand w) (q := .slot i) (b := b) (by simp) rfl rfl ?_ ?_ ?_ rfl ?_ ?_
      · simp [State.bag,hn,State.setRx,State.setNext,NextPc.buf]
      · simp [State.bag,State.setRx,h.rxBuf_none hbusy hchosen]
      · intro r hrw hri
        cases r with
        | hand v =>
          have hv : v ≠ w := fun hx => hrw (by rw [hx])
          simp [State.bag,State.setRx,State.setNext,hv]
        | slot j =>
          have hj : j ≠ i := fun hx => hri (by rw [hx])
          simp [State.bag,State.setRx,State.setNext,hj]
        | _ => rfl
      · intro j c hj
        by_cases hji : j = i
        · exact .inl (by simp [State.queued,hji])
        · simp only [State.setRx,hji,if_false] at hj
          exact (h.buffers.owner j c hj).imp (fun hx => by rw [hempty] at hx; cases hx) id
      · intro j reboot ht
        have hj : j ≠ i := by
          intro hx
          exact (h.slots.apart j (by rw [show s.task = .handed j reboot from ht]; rfl)).2 w (hx ▸ hchosen)
        simp only [State.setRx,hj,if_false]
        exact h.buffers.handed j reboot ht

theorem Buffers.owner_handed (h : Buffers m s) {i : Nat} {ok reboot : Bool} (ht : s.task = .post i ok reboot) (b : Bool) :
    (∀ j c, (s.setRx i none).rxBuf j = some c → j ∈ s.queued ∨ (TaskPc.handed i b).slot = some j) ∧
    ∀ j reboot, TaskPc.handed i b = .handed j reboot → (s.setRx i none).rxBuf j = none := by
  constructor
  · intro j c hj
    by_cases hji : j = i
    · simp [State.setRx,hji] at hj
    · simp only [State.setRx,hji,if_false] at hj
      have hown := h.owner j c hj
      rw [ht] at hown
      exact hown
  · intro j r hj
    cases hj
    simp [State.setRx]

theorem Inv.drop (h : Inv m s) {i : Nat} {ok reboot b : Bool} {c : B} (ht : s.task = .post i ok reboot)
    (hr : s.rxBuf i = some c) : Inv m {(s.setRx i none).recycle m c with task := .handed i b} := by
  rw [recycle_eq]
  refine ⟨h.slots.hand ht rfl rfl rfl rfl,?_⟩
  refine h.buffers.recycle (p := .slot i) (b := c) rfl (by simp [State.bag,hr]) (by simp [State.bag,State.setRx]) ?_
    (by rw [recycle_eq]; rfl) (by rw [recycle_eq]; rfl) (by rw [recycle_eq]; rfl) (by rw [recycle_eq]; rfl)
    (h.buffers.owner_handed ht b).1 (h.buffers.owner_handed ht b).2
  intro r hr hne
  cases r with
  | slot j =>
    have hj : j ≠ i := fun hx => hne (by rw [hx])
    simp [State.bag,State.setRx,hj]
  | hand v => rfl
  | queue q => rfl
  | reader => rfl
  | _ => cases hr

theorem Inv.postProcess (h : Inv m s) {v : Verdict} (hs : s.postProcess m v = some s') : Inv m s' := by
  unfold State.postProcess at hs
  cases ht : s.task with
  | waiting => simp [ht] at hs
  | fetched i ok =>
    simp only [ht] at hs
    have hidle := h.slots.nextIdle (by rw [ht]; simp [TaskPc.busy]) .task
    by_cases hr : (ok && s.rebootAck i) = true
    · rw [if_pos hr] at hs
      cases hs
      exact ⟨h.slots.task rfl rfl rfl (by rw [ht]; rfl) (Nat.zero_le _) (by rw [ht]; simp [TaskPc.slot]) hidle,
        h.buffers.setTask (by rw [ht]; rfl) (by simp)⟩
    · rw [if_neg hr] at hs
      cases hs
      exact ⟨h.slots.call ht rfl rfl rfl rfl,
        (h.buffers.setNext (c := .find) (NextPc.idle hidle).2.2.symm).setTask (congrArg TaskPc.slot ht).symm (by simp)⟩
  | calling i ok =>
    simp only [ht] at hs
    by_cases hn : s.next .task = .done
    · rw [if_pos hn] at hs
      cases hs
      exact ⟨h.slots.task rfl rfl rfl (by rw [ht]; rfl) (Nat.zero_le _) (by rw [ht]; simp [TaskPc.slot]) (by rw [hn]; rfl),
        h.buffers.setTask (by rw [ht]; rfl) (by simp)⟩
    · rw [if_neg hn] at hs
      cases hs
  | post i ok reboot =>
    simp only [ht] at hs
    cases hr : s.rxBuf i with
    | none =>
      simp only [hr] at hs
      cases hs
      refine ⟨h.slots.hand ht rfl rfl rfl rfl,h.buffers.setTask (by rw [ht]; rfl) ?_⟩
      intro j r hj
      cases hj
      exact hr
    | some b =>
      simp only [hr] at hs
      by_cases hfail : ok = false ∨ reboot = true
      · rw [if_pos hfail] at hs
        cases hs
        exact h.drop ht hr
      · rw [if_neg hfail] at hs
        cases v with
        | drop =>
          cases hs
          exact h.drop ht hr
        | fatal =>
          cases hs
          rw [← ht]
          exact h.setDead true
        | enqueue p =>
          simp only at hs
          by_cases hlen : (s.rxQueue p).length < m.queueSize
          · rw [if_pos hlen] at hs
            cases hs
            obtain ⟨ho,hd⟩ := h.buffers.owner_handed ht false
            refine ⟨h.slots.hand ht rfl rfl rfl rfl,
              h.buffers.shift (p := .slot i) (q := .queue p) (b := b) (by simp) rfl rfl ?_ ?_ ?_ rfl ho hd⟩
            · simp [State.bag,hr,State.setRx]
            · simp only [State.bag,if_true]
              exact List.perm_append_singleton b (s.rxQueue p)
            · intro r hrs hrq
              cases r with
              | slot j =>
                have hj : j ≠ i := fun hx => hrs (by rw [hx])
                simp [State.bag,State.setRx,hj]
              | queue q =>
                have hq : q ≠ p := fun hx => hrq (by rw [hx])
                simp [State.bag,hq]
              | _ => rfl
          · rw [if_neg hlen] at hs
            cases hs
  | handed i reboot =>
    simp only [ht] at hs
    cases hs
    refine ⟨h.slots.release ht (h.slots.notCalling (by rw [ht]; simp)) rfl rfl rfl rfl,?_⟩
    refine h.buffers.frame rfl rfl ?_ (by simp) (fun _ => ⟨rfl,rfl⟩) (fun _ hi => hi)
    intro j hj hb
    rcases hj with hj | hj
    · exact .inl hj
    · rw [ht] at hj
      cases hj
      obtain ⟨b,hb⟩ := hb
      rw [h.buffers.handed i reboot ht] at hb
      cases hb

theorem step_inv (h : Inv m s) {a : Action B} (hs : step m s a = some s') : Inv m s' := by
  unfold step at hs
  by_cases hdead : s.dead = true
  · rw [if_pos hdead] at hs
    cases hs
  rw [if_neg hdead] at hs
  cases a with
  | next w io => exact h.queueNext hs
  | task v => exact h.postProcess hs
  | complete ok =>
    simp only at hs
    cases hd : s.driver with
    | nil => simp [hd] at hs
    | cons i rest =>
      simp only [hd] at hs
      cases hs
      -- it was the only one
      have hlen : s.queued.length = rest.length+s.results.length+1 := by simp [State.queued,hd]
      have htok := h.slots.token
      have hrest : rest = [] := List.length_eq_zero_iff.mp (by omega)
      have hres : s.results = [] := List.length_eq_zero_iff.mp (by omega)
      have hq : rest ++ (s.results ++ [(i,ok)]).map (·.1) = s.queued := by simp [State.queued,hd,hrest,hres]
      refine ⟨h.slots.complete hq rfl rfl rfl,h.buffers.frame rfl rfl ?_ h.buffers.handed (fun _ => ⟨rfl,rfl⟩) (fun _ hi => hi)⟩
      intro j hj _
      rw [← hq] at hj
      exact hj
  | fetch =>
    simp only at hs
    cases hr : s.results with
    | nil => simp [hr] at hs
    | cons r rest =>
      obtain ⟨i,ok⟩ := r
      simp only [hr] at hs
      by_cases ht : s.task = .waiting
      · rw [if_pos ht] at hs
        cases hs
        refine ⟨h.slots.fetch hr ht,h.buffers.frame rfl rfl ?_ (by simp) (fun _ => ⟨rfl,rfl⟩) (fun _ hi => hi)⟩
        intro j hj _
        rcases hj with hj | hj
        · simp only [State.queued,hr,List.map_cons,List.mem_append,List.mem_cons] at hj ⊢
          rcases hj with hj | hj | hj
          · exact .inl (.inl hj)
          · exact .inr (by rw [hj]; rfl)
          · exact .inl (.inr hj)
        · rw [ht] at hj
          cases hj
      · rw [if_neg ht] at hs
        cases hs
  | read p =>
    simp only at hs
    cases hq : s.rxQueue p with
    | nil => simp [hq] at hs
    | cons b rest =>
      simp only [hq] at hs
      cases hh : s.held with
      | some c => simp [hh] at hs
      | none =>
        simp only [hh,Option.isSome_none,Bool.false_eq_true,if_false] at hs
        cases hs
        refine ⟨h.slots.complete rfl rfl rfl rfl,h.buffers.shift (p := .queue p) (q := .reader) (b := b) (by simp) rfl rfl ?_ ?_ ?_
          rfl h.buffers.owner h.buffers.handed⟩
        · simp only [State.bag,hq,if_true]
          exact List.Perm.refl _
        · simp only [State.bag,hh]
          exact List.Perm.refl _
        · intro r hrq hrr
          cases r with
          | queue q =>
            have hne : q ≠ p := fun hx => hrq (by rw [hx])
            simp [State.bag,hne]
          | reader => exact absurd rfl hrr
          | _ => rfl
  | readDone =>
    simp only at hs
    cases hh : s.held with
    | none => simp [hh] at hs
    | some b =>
      simp only [hh] at hs
      rw [recycle_eq] at hs
      cases hs
      refine ⟨h.slots.complete rfl rfl rfl rfl,h.buffers.recycle (p := .reader) (b := b) rfl (by simp [State.bag,hh]) rfl ?_
        (by rw [recycle_eq]) (by rw [recycle_eq]) (by rw [recycle_eq]) (by rw [recycle_eq]) h.buffers.owner h.buffers.handed⟩
      intro r hr hne
      cases r with
      | reader => exact absurd rfl hne
      | slot j => rfl
      | hand v => rfl
      | queue q => rfl
      | _ => cases hr

theorem Memory.init_custody (m : Memory B) : Custody (m.init.bag m) := by
  refine ⟨fun b => if b = m.emergency then .emergency else if b ∈ m.pool then .pool else .heap,?_⟩
  intro p b
  have heach := m.each b
  simp only [List.count_cons,List.count_append,beq_iff_eq] at heach
  by_cases he : b = m.emergency
  · simp only [he,if_true] at heach ⊢
    cases p with
    | heap => simp [State.bag,Memory.init]; omega
    | pool => simp [State.bag,Memory.init]; omega
    | emergency => simp [State.bag,Memory.init]
    | hand w => cases w <;> simp [State.bag,Memory.init,NextPc.buf]
    | _ => simp [State.bag,Memory.init]
  simp only [he,Ne.symm he,if_false] at heach ⊢
  by_cases hp : b ∈ m.pool
  · have hpos : 0 < m.pool.count b := List.count_pos_iff.mpr hp
    simp only [hp,if_true]
    cases p with
    | heap => simp [State.bag,Memory.init]; omega
    | pool => simp [State.bag,Memory.init]; omega
    | emergency => simp [State.bag,Memory.init,Ne.symm he]
    | hand w => cases w <;> simp [State.bag,Memory.init,NextPc.buf]
    | _ => simp [State.bag,Memory.init]
  · have hzero : m.pool.count b = 0 := List.count_eq_zero_of_not_mem hp
    simp only [hp,if_false]
    cases p with
    | heap => simp [State.bag,Memory.init]; omega
    | pool => simpa [State.bag,Memory.init] using hzero
    | emergency => simp [State.bag,Memory.init,Ne.symm he]
    | hand w => cases w <;> simp [State.bag,Memory.init,NextPc.buf]
    | _ => simp [State.bag,Memory.init]

theorem Memory.init_inv (m : Memory B) : Inv m m.init where
  slots := by
    refine ⟨?_,fun _ => rfl,?_,?_,?_,by simp [Memory.init,TaskPc.slot]⟩
    · simp [Memory.init,State.queued,TaskPc.busy,NextPc.busy]
    · simp [Memory.init,NextPc.busy]
    · intro w
      cases w <;> simp [Memory.init]
    · intro i
      simp only [Memory.init,Bool.false_eq_true,State.queued,List.map_nil,List.append_nil,List.not_mem_nil,TaskPc.slot,
        reduceCtorEq,false_or,false_iff,not_exists]
      intro w
      cases w <;> simp [NextPc.marked]
  buffers := by
    refine ⟨m.init_custody,by simp [Memory.init],by simp [Memory.init],?_,by simp [Memory.init]⟩
    intro b
    have heach := m.each b
    simp only [List.count_cons,List.count_append,beq_iff_eq] at heach
    simp only [Memory.init,State.home,State.bag,List.count_nil,Bool.false_eq_true,if_false,List.count_singleton,beq_iff_eq]
    omega

theorem Inv.safe (h : Inv m s) : Safe m s where
  slots := h.slots.inUse
  settled := h.slots.settled
  once := h.slots.once
  hasSlot := h.slots.hasSlot
  custody := h.buffers.custody
  recycled := h.buffers.recycled_le
  writes := h.buffers.writes

/-- At every moment of every interleaving. -/
theorem slots_safe (m : Memory B) (acts : List (Action B)) (s : State B) (hs : exec (step m) m.init acts = some s) :
    Safe m s :=
  (exec_invariant (fun _ _ _ h => step_inv h) m.init_inv hs).safe

end

/-- Receive queues of two, and one block left to allocate. -/
def smallMemory : Memory (Fin 9) where
  queueSize := 2
  emergency := ⟨0,by decide⟩
  pool := ((List.finRange 9).take 8).tail
  heap := (List.finRange 9).drop 8
  full := by decide
  each := by decide

/-- One transaction is clocked and its frame queued, while the next one is set up in `k` steps. -/
def cycle (k : Nat) (v : Verdict) : List (Action (Fin 9)) :=
  ([.complete true,.fetch,.task v] : List (Action (Fin 9))) ++
    (List.replicate k (.next .task {block := some ⟨8,by decide⟩}) : List (Action (Fin 9))) ++
    (List.replicate 3 (.task v) : List (Action (Fin 9)))

/-- The reader is slow: the pool, the emergency buffer and the heap are used up in turn. -/
def slowReaderRun : List (Action (Fin 9)) :=
  (List.replicate 5 (.next .boot {}) : List (Action (Fin 9))) ++ cycle 5 (.enqueue .high) ++
    ([.read .high] : List (Action (Fin 9))) ++ cycle 5 (.enqueue .high) ++ cycle 5 (.enqueue .high) ++
    cycle 5 (.enqueue .mid) ++ cycle 5 (.enqueue .mid) ++ cycle 5 (.enqueue .low) ++ cycle 6 (.enqueue .low) ++
    cycle 7 .drop ++ ([.readDone] : List (Action (Fin 9)))

theorem slots_safe_slow_reader :
    ∃ s ∈ exec (step smallMemory) smallMemory.init slowReaderRun,
      (s.heap = [] ∧ s.pool.length = 1 ∧ s.log.count (.acquired smallMemory.emergency) = 1) ∧ Safe smallMemory s := by
  have hrun : (exec (step smallMemory) smallMemory.init slowReaderRun).any
      (fun s => s.heap = [] ∧ s.pool.length = 1 ∧ s.log.count (.acquired smallMemory.emergency) = 1) = true := by
    decide +kernel
  cases hs : exec (step smallMemory) smallMemory.init slowReaderRun with
  | none => simp [hs] at hrun
  | some s => exact ⟨s,rfl,by simpa [hs] using hrun,slots_safe smallMemory _ s hs⟩

end EspHosted.SpiSlots
