import EspHosted.SdioCredits
import Mathlib.Data.List.Nodup

/-!
Reservations of the SDIO transmitter. An aggregate that has a part in the credits is of the
present epoch or will be abandoned; a thread that changes the counters moves the epoch in
the same program, so that only one kind of aggregate has to be followed.
-/

set_option autoImplicit false

namespace EspHosted.SdioCredits
open EspHosted Run Sdio

/-! What every program of the two threads keeps to. -/

/-- From here on: the bump of `get_firmware_data` is followed by its read, zeroing the
credits goes with a bump, and setting the count goes with a bump before and a zeroing on either side. -/
def ordered : Bool → Bool → List Op → Bool
  | _, _, [] => true
  | bumped, zeroed, op :: l =>
    match op with
    | .barrier => ordered true false l
    | .incEpoch => l.head? == some .read && ordered true false l
    | .dropCredits => (bumped || l.any Op.bumps) && ordered bumped true l
    | .baseline => bumped && (zeroed || l.contains .dropCredits) && ordered bumped zeroed l
    | .zeroCount => bumped && (zeroed || l.contains .dropCredits) && ordered bumped zeroed l
    | _ => ordered bumped zeroed l

def stopsWell : List Op → Bool
  | [] => true
  | op :: l => (op != .stopTx || l.head? == some .joinTx) && stopsWell l

def leavesTx (l : List Op) : Bool := l.all (fun op => op != .stopTx && op != .joinTx && op != .startTx)

def programOk (o : Owner) (l : List Op) : Bool :=
  ordered false false l && stopsWell l && (o == .boot || leavesTx l)

theorem suspend_ok (io : SuspendIo) : programOk .pm (espSuspendInner io) = true := by
  obtain ⟨⟨a,b⟩,c,⟨d,e⟩,f⟩ := io
  cases a <;> cases b <;> cases c <;> cases d <;> cases e <;> cases f <;> rfl

theorem resume_ok (io : ResumeIo) : programOk .pm (espResumeInner io) = true := by
  obtain ⟨⟨a,b⟩,⟨c,d⟩,e⟩ := io
  cases a <;> cases b <;> cases c <;> cases d <;> cases e <;> rfl

theorem bootup_ok (io : BootIo) : programOk .boot (processEventEspBootup io) = true := by
  obtain ⟨a,b,⟨c,d⟩,e,f⟩ := io
  cases a <;> cases b <;> cases c <;> cases d <;> cases e <;> cases f <;> rfl

theorem recover_ok (io : RecoverIo) (p : Pass) :
    programOk .pm (espSdioRecoverTransportInner io p) = true := by
  obtain ⟨h,⟨a,b⟩,⟨c,d⟩,e,f,i,r⟩ := io
  cases p with
  | soft m n => cases m <;> cases n <;> cases a <;> cases b <;> rfl
  | slaveReset =>
    cases h <;> cases a <;> cases b <;> cases c <;> cases d <;> cases i <;> cases r <;> rfl
  | rebase => cases h <;> cases c <;> cases d <;> cases r <;> rfl
  | resync => cases h <;> cases e <;> cases f <;> cases i <;> cases r <;> rfl
  | hard => cases h <;> cases r <;> rfl
  | reenableFailed => cases h <;> cases r <;> rfl
  | healthy => rfl
  | stale => rfl
  | rearm => rfl
  | openOnly => rfl
  | wrapped => rfl

/-! The invariant. -/

def Pc.idle : Pc → Bool
  | .top => true
  | .building => true
  | .filling _ => true
  | _ => false

/-- An aggregate that has no reservation and is not in the middle of making one. -/
def Pc.waiting : Pc → Option Aggregate
  | .credit g => some g
  | .left g => if g.aborted then some g else none
  | .packed g => if g.aborted then some g else none
  | .vetted g => if g.aborted then some g else none
  | .claiming g => if g.aborted then some g else none
  | .writing g => if g.aborted then some g else none
  | _ => none

def Pc.active : Pc → Option Aggregate
  | .checking g => some g
  | .reading g _ => some g
  | .storing g _ _ => some g
  | .comparing g _ => some g
  | .taking g _ => some g
  | .subtracting g _ => some g
  | .left g => if g.aborted then none else some g
  | .packed g => if g.aborted then none else some g
  | .vetted g => if g.aborted then none else some g
  | .claiming g => if g.aborted then none else some g
  | .writing g => if g.aborted then none else some g
  | _ => none

def Pc.asking : Pc → Option Aggregate
  | .credit g => some g
  | .checking g => some g
  | .reading g _ => some g
  | .storing g _ _ => some g
  | .comparing g _ => some g
  | .taking g _ => some g
  | .subtracting g _ => some g
  | _ => none

def Pc.aggregate : Pc → Option Aggregate
  | .credit g => some g
  | .checking g => some g
  | .reading g _ => some g
  | .storing g _ _ => some g
  | .comparing g _ => some g
  | .taking g _ => some g
  | .subtracting g _ => some g
  | .left g => some g
  | .packed g => some g
  | .vetted g => some g
  | .claiming g => some g
  | .writing g => some g
  | _ => none

def Pc.epoch : Pc → Option Nat
  | .filling e => some e
  | p => p.aggregate.map Aggregate.epoch

def Fits (s : State) : Prop := s.available+s.position ≤ s.token

def Backed (s : State) (g : Aggregate) : Prop :=
  (∃ r, g.held = some r ∧ r.buffers = g.needed ∧ r.epoch = s.epoch ∧ r.zeroings = s.zeroings) ∧
  s.available+g.needed+s.position ≤ s.token

def PcOk (s : State) : Pc → Prop
  | .checking _ => Fits s
  | .reading _ _ => Fits s
  | .storing _ _ raw => ∃ t, raw = t%ESP_TX_BUFFER_MAX ∧ s.position ≤ t ∧ t ≤ s.token
  | .comparing _ _ => Fits s
  | .taking g r => Fits s ∧ (r ≠ 0 → g.needed ≤ s.available)
  | .subtracting g _ => Fits s ∧ g.needed ≤ s.available
  | .left g => s.failed = false → Backed s g
  | .packed g => Backed s g
  | .vetted g => Backed s g
  | .claiming g => Backed s g
  | .writing g => Backed s g
  | _ => True

/-- A thread has zeroed the credits and its change of the epoch is still to come. -/
def State.spoiled (s : State) : Prop :=
  ∃ o, (s.thread o).zeroed = true ∧ (s.thread o).bumped = false

/-- A thread is going to zero the credits before it is done with the counters. -/
def State.excused (s : State) : Prop :=
  ∃ o, (s.thread o).mid = true ∧ .dropCredits ∈ (s.thread o).todo

def Settled (s : State) : Prop := s.synced = true → s.excused ∨ Fits s

/-- The aggregate of `p` was started in this epoch and has no part in the credits. -/
def Clean (s : State) (p : Pc) : Prop :=
  p.idle = true ∨ ∃ g, p.waiting = some g ∧ g.epoch = s.epoch

/-- `p` against the rest of the state. -/
structure At (s : State) (p : Pc) : Prop where
  asking : ∀ g ∈ p.asking, g.aborted = false
  epochs : ∀ e ∈ p.epoch, e ≤ s.epoch
  quiet : ∀ g ∈ p.active, g.epoch = s.epoch → ∀ o, (s.thread o).bumped = true →
    (s.thread o).todo.any Op.onCounters = false
  zero : Clean s p → ∀ o, (s.thread o).bumped = true → (s.thread o).zeroed = true →
    (s.thread o).todo.any Op.onCounters = true → s.available = 0
  idle : p.idle = true → Settled s
  waiting : ∀ g ∈ p.waiting, g.epoch = s.epoch → ¬s.spoiled → Settled s
  active : ∀ g ∈ p.active, g.epoch = s.epoch → ¬s.spoiled → s.synced = true → PcOk s p
  host : ∀ g, p = .writing g → g.epoch = s.epoch ∨
    ∃ o, (s.thread o).bumped = true ∧ (s.thread o).todo.head? = some .read
  dead : p = .dead → (s.thread .boot).todo.head? = some .joinTx ∨ s.available = 0
  stopping : p ≠ .dead → s.shouldStop = true → (s.thread .boot).todo.head? = some .joinTx
  held : ∀ g ∈ p.aggregate, ∀ r ∈ g.held, r.id < s.nextId ∧ ∀ w ∈ s.log, ∀ q ∈ w.held, q.id ≠ r.id

structure Base (s : State) : Prop where
  sync : s.synced = true →
    s.used ≤ s.position ∧ s.position ≤ s.token ∧ s.count = s.position%ESP_TX_BUFFER_MAX
  books : s.synced = true ∨ s.written = 0 → s.before+s.written = s.used
  ordered : ∀ o, ordered (s.thread o).bumped (s.thread o).zeroed (s.thread o).todo = true
  owed : ∀ o, (s.thread o).zeroed = true → (s.thread o).bumped = false →
    (s.thread o).todo.any Op.bumps = true
  fresh : ∀ o, (s.thread o).bumped = true → (s.thread o).todo.any Op.onCounters = true → s.written = 0
  stops : stopsWell (s.thread .boot).todo = true
  leaves : leavesTx (s.thread .pm).todo = true
  safe : Safe s
  ids : ∀ w ∈ s.log, ∀ r ∈ w.held, r.id < s.nextId

structure Inv (s : State) : Prop where
  base : Base s
  pcAt : At s s.pc

theorem txBufferNum_fits {t p : Nat} (h : p ≤ t) :
    txBufferNum (t%ESP_TX_BUFFER_MAX) (p%ESP_TX_BUFFER_MAX)+p ≤ t := by
  unfold txBufferNum ESP_TX_BUFFER_MAX
  omega

theorem baselinePosition_le (s : State) : s.baselinePosition ≤ s.token := by
  unfold State.baselinePosition
  split <;> omega

theorem mid_of_counters {t : Thread} (hb : t.bumped = true ∨ t.zeroed = true)
    (ht : t.todo.any Op.onCounters = true) : t.mid = true := by
  simp only [Thread.mid,Bool.and_eq_true,Bool.or_eq_true]
  exact ⟨hb,ht⟩

theorem State.not_mid {s : State} (h : s.mid = false) (o : Owner) : (s.thread o).mid = false := by
  simp only [State.mid,Bool.or_eq_false_iff] at h
  cases o
  · exact h.1
  · exact h.2

theorem State.free {s : State} (h : s.mid = false) (o : Owner) (hb : (s.thread o).bumped = true) :
    (s.thread o).todo.any Op.onCounters = false := by
  by_contra hx
  have hm := mid_of_counters (.inl hb) (by simpa using hx)
  rw [State.not_mid h o] at hm
  cases hm

theorem any_counters_of_bumps {l : List Op} (h : l.any Op.bumps = true) : l.any Op.onCounters = true := by
  simp only [List.any_eq_true] at *
  obtain ⟨op,hm,hb⟩ := h
  exact ⟨op,hm,by cases op <;> simp_all [Op.bumps,Op.onCounters]⟩

theorem any_counters_of_drop {l : List Op} (h : .dropCredits ∈ l) : l.any Op.onCounters = true :=
  List.any_eq_true.mpr ⟨_,h,rfl⟩

theorem Base.not_spoiled {s : State} (h : Base s) (hm : s.mid = false) : ¬s.spoiled := by
  intro ⟨o,hz,hb⟩
  have hx := mid_of_counters (.inr hz) (any_counters_of_bumps (h.owed o hz hb))
  rw [State.not_mid hm o] at hx
  cases hx

theorem not_excused {s : State} (hm : s.mid = false) : ¬s.excused := by
  intro ⟨o,hx,_⟩
  rw [State.not_mid hm o] at hx
  cases hx

theorem Base.settled_zero {s : State} (h : Base s) (ha : s.available = 0) : Settled s := by
  intro hs
  have hk := (h.sync hs).2.1
  exact .inr (by unfold Fits; omega)

theorem Pc.epoch_of {p : Pc} {g : Aggregate} (h : p.aggregate = some g) : p.epoch = some g.epoch := by
  cases p <;> simp_all [Pc.epoch,Pc.aggregate]

theorem Pc.of_active {p : Pc} {g : Aggregate} (h : p.active = some g) : p.aggregate = some g := by
  cases p <;> simp_all [Pc.active,Pc.aggregate]

theorem Pc.of_waiting {p : Pc} {g : Aggregate} (h : p.waiting = some g) : p.aggregate = some g := by
  cases p <;> simp_all [Pc.waiting,Pc.aggregate]

/-! Steps of the transmitter. -/

theorem Base.ofTx {s : State} (h : Base s) (p : Pc) (f : Bool) : Base {s with pc := p, failed := f} :=
  ⟨h.sync,h.books,h.ordered,h.owed,h.fresh,h.stops,h.leaves,⟨h.safe.good,h.safe.once⟩,h.ids⟩

theorem At.ofTx {s : State} {p : Pc} (h : At s p) (q : Pc) : At {s with pc := q} p :=
  ⟨h.asking,h.epochs,h.quiet,h.zero,h.idle,h.waiting,h.active,h.host,h.dead,h.stopping,h.held⟩

theorem Inv.goto {s : State} (h : Inv s) {p : Pc} (hp : At s p) : Inv {s with pc := p} :=
  ⟨h.base.ofTx p s.failed,hp.ofTx p⟩

theorem At.move {s : State} {p q : Pc} (h : At s p) (ha : q.active = p.active) (hw : q.waiting = p.waiting)
    (hg : q.aggregate = p.aggregate) (he : q.epoch = p.epoch) (hi : q.idle = false) (hp : p ≠ .dead)
    (hq : q ≠ .dead)
    (hk : s.synced = true → PcOk s p → PcOk s q) (hh : ∀ g, q = .writing g → g.epoch = s.epoch)
    (hs : ∀ g ∈ q.asking, g ∈ p.asking) : At s q where
  asking := fun g hm => h.asking g (hs g hm)
  epochs := fun e hm => h.epochs e (he ▸ hm)
  quiet := fun g hg => h.quiet g (ha ▸ hg)
  zero := by
    rintro (hx | ⟨g,hg,hge⟩)
    · rw [hi] at hx
      cases hx
    · exact h.zero (.inr ⟨g,hw ▸ hg,hge⟩)
  idle := fun hx => by rw [hi] at hx; cases hx
  waiting := fun g hg => h.waiting g (hw ▸ hg)
  active := fun g hg hge hsp hsy => hk hsy (h.active g (ha ▸ hg) hge hsp hsy)
  host := fun g hg => .inl (hh g hg)
  dead := fun hd => absurd hd hq
  stopping := fun _ => h.stopping hp
  held := fun g hm => h.held g (hg ▸ hm)

theorem At.die {s : State} {p : Pc} (h : At s p) (hp : p ≠ .dead) (hs : s.shouldStop = true) : At s .dead where
  asking := by simp [Pc.asking]
  epochs := by simp [Pc.epoch,Pc.aggregate]
  quiet := by simp [Pc.active]
  zero := by simp [Clean,Pc.idle,Pc.waiting]
  idle := by simp [Pc.idle]
  waiting := by simp [Pc.waiting]
  active := by simp [Pc.active]
  host := by simp
  dead := fun _ => .inl (h.stopping hp hs)
  stopping := fun hx => absurd rfl hx
  held := by simp [Pc.aggregate]

theorem Pc.plain_of_idle {p : Pc} (hi : p.idle = true) :
    p.active = none ∧ p.waiting = none ∧ p.aggregate = none ∧ p.asking = none := by
  cases p
  all_goals first
    | exact ⟨rfl,rfl,rfl,rfl⟩
    | cases hi

theorem At.top {s : State} (hz : ∀ o, (s.thread o).bumped = true → (s.thread o).zeroed = true →
      (s.thread o).todo.any Op.onCounters = true → s.available = 0) (hs : Settled s)
    (hst : s.shouldStop = true → (s.thread .boot).todo.head? = some .joinTx) {p : Pc}
    (hi : p.idle = true) (he : ∀ e ∈ p.epoch, e ≤ s.epoch) : At s p := by
  obtain ⟨ha,hw,hg,hk⟩ := Pc.plain_of_idle hi
  refine ⟨by simp [hk],he,?_,fun _ => hz,fun _ => hs,?_,?_,?_,?_,fun _ => hst,?_⟩
  · simp [ha]
  · simp [hw]
  · simp [ha]
  · intro g hg
    simp [hg,Pc.idle] at hi
  · intro hd
    simp [hd,Pc.idle] at hi
  · simp [hg]

theorem Base.zero {s : State} (h : Base s) : Base s.zero :=
  ⟨h.sync,h.books,h.ordered,h.owed,h.fresh,h.stops,h.leaves,⟨h.safe.good,h.safe.once⟩,h.ids⟩

theorem Inv.abandon {s : State} (h : Inv s) (hd : s.pc ≠ .dead) : Inv s.abandon := by
  have hb : Base s.zero := h.base.zero
  have ht : At s.zero .top :=
    .top (fun _ _ _ _ => rfl) (hb.settled_zero rfl) (h.pcAt.stopping hd) rfl
      (by simp [Pc.epoch,Pc.aggregate])
  exact ⟨hb.ofTx .top s.failed,ht.ofTx .top⟩

theorem Inv.step_credit {s : State} (h : Inv s) {g : Aggregate} (hp : s.pc = .credit g)
    (hm : s.mid = false) : At s (.checking g) := by
  have hc := h.pcAt
  rw [hp] at hc
  refine ⟨hc.asking,hc.epochs,fun _ _ _ => State.free hm,?_,?_,?_,?_,?_,?_,fun _ => hc.stopping (by simp),hc.held⟩
  · simp [Clean,Pc.idle,Pc.waiting]
  · simp [Pc.idle]
  · simp [Pc.waiting]
  · intro g' hg hge hsp hs
    obtain rfl : g = g' := by simpa [Pc.active] using hg
    exact (hc.waiting g rfl hge hsp hs).resolve_left (not_excused hm)
  · simp
  · simp

theorem At.again {s : State} {p : Pc} {g : Aggregate} (h : At s p) (ha : p.active = some g)
    (hp : p ≠ .dead) (hk : p.asking = some g) (hf : PcOk s p → Fits s) : At s (.credit g) where
  asking := fun g' hg => h.asking g' (by rw [hk]; exact hg)
  epochs := fun e he => h.epochs e (by rw [Pc.epoch_of (Pc.of_active ha)]; exact he)
  quiet := by simp [Pc.active]
  zero := by
    rintro (hx | ⟨g',hg,hge⟩) o hb _ ht
    · simp [Pc.idle] at hx
    · obtain rfl : g = g' := by simpa [Pc.waiting] using hg
      rw [h.quiet g ha hge o hb] at ht
      cases ht
  idle := by simp [Pc.idle]
  waiting := fun g' hg hge hsp hs => by
    obtain rfl : g = g' := by simpa [Pc.waiting] using hg
    exact .inr (hf (h.active g ha hge hsp hs))
  active := by simp [Pc.active]
  host := by simp
  dead := by simp
  stopping := fun _ => h.stopping hp
  held := fun g' hg => h.held g' (by rw [Pc.of_active ha]; exact hg)

theorem Inv.step_left {s : State} (h : Inv s) {p : Pc} {g : Aggregate} (hp : s.pc = p) (hf : s.failed = false)
    (hl : p = .left g) : At s (.packed g) := by
  subst hl
  have hc := h.pcAt
  rw [hp] at hc
  exact hc.move rfl rfl rfl rfl rfl (by simp) (by simp) (fun _ hk => hk hf) (by simp) (by simp [Pc.asking])

theorem Inv.step_store {s : State} (h : Inv s) {g : Aggregate} {r raw : Nat} (hp : s.pc = .storing g r raw) :
    Inv {s with available := txBufferNum raw s.count, pc := .comparing g r} := by
  have hc := h.pcAt
  rw [hp] at hc
  refine ⟨⟨h.base.sync,h.base.books,h.base.ordered,h.base.owed,h.base.fresh,h.base.stops,h.base.leaves,
    ⟨h.base.safe.good,h.base.safe.once⟩,h.base.ids⟩,
    ⟨hc.asking,hc.epochs,hc.quiet,?_,?_,?_,?_,?_,?_,fun _ => hc.stopping (by simp),hc.held⟩⟩
  · simp [Clean,Pc.idle,Pc.waiting]
  · simp [Pc.idle]
  · simp [Pc.waiting]
  · intro g' hg hge hsp hs
    obtain ⟨t,ht,hpt,htt⟩ := hc.active g' hg hge hsp hs
    obtain ⟨-,-,hk⟩ := h.base.sync hs
    have hx : txBufferNum raw s.count+s.position ≤ t := by
      rw [ht,hk]
      exact txBufferNum_fits hpt
    show txBufferNum raw s.count+s.position ≤ s.token
    omega
  · simp
  · simp

/-- After a reservation that leaves `n` credits. -/
def State.taken (s : State) (n : Nat) : State :=
  {s with available := n, nextId := s.nextId+1, failed := false}

theorem Inv.step_subtract {s : State} (h : Inv s) {g g' : Aggregate} {r n : Nat} (hp : s.pc = .subtracting g r)
    (hg' : g' = {g with held := some (s.reserve g)})
    (hn : g.needed ≤ s.available → n = s.available-g.needed) :
    At (s.taken n) (.credit g') ∧ At (s.taken n) (.left g') := by
  have hc := h.pcAt
  rw [hp] at hc
  have hheld : ∀ r ∈ g'.held, r.id < s.nextId+1 ∧ ∀ w ∈ s.log, ∀ q ∈ w.held, q.id ≠ r.id := by
    intro r hr
    obtain rfl : s.reserve g = r := by simpa [hg'] using hr
    exact ⟨Nat.lt_succ_self _,fun w hw q hq => Nat.ne_of_lt (h.base.ids w hw q hq)⟩
  have hge : g'.epoch = g.epoch := by rw [hg']
  have ha' : g'.aborted = false := by rw [hg',hc.asking g rfl]
  have hact : g'.epoch = s.epoch → ¬s.spoiled → s.synced = true →
      n+g.needed+s.position ≤ s.token := by
    intro he hsp hs
    obtain ⟨hfit,hav⟩ := hc.active g rfl (hge ▸ he) hsp hs
    have hx := hn hav
    unfold Fits at hfit
    omega
  constructor
  · refine ⟨by simp [Pc.asking,ha'],?_,?_,?_,?_,?_,?_,?_,?_,fun _ => hc.stopping (by simp),?_⟩
    · intro e he
      exact hc.epochs e (by simpa [Pc.epoch,Pc.aggregate,hge] using he)
    · simp [Pc.active]
    · rintro (hx | ⟨g'',hg,he⟩) o hb _ ht
      · simp [Pc.idle] at hx
      · obtain rfl : g' = g'' := by simpa [Pc.waiting] using hg
        have hx := hc.quiet g rfl (hge ▸ he) o hb
        simp only [State.taken] at ht
        rw [hx] at ht
        cases ht
    · simp [Pc.idle]
    · intro g'' hg he hsp hs
      obtain rfl : g' = g'' := by simpa [Pc.waiting] using hg
      have hfit := hact he hsp hs
      exact .inr (by simp only [Fits,State.taken]; omega)
    · simp [Pc.active]
    · simp
    · simp
    · intro g'' hg
      obtain rfl : g' = g'' := by simpa [Pc.aggregate] using hg
      exact hheld
  · refine ⟨by simp [Pc.asking],?_,?_,?_,?_,?_,?_,?_,?_,fun _ => hc.stopping (by simp),?_⟩
    · intro e he
      exact hc.epochs e (by simpa [Pc.epoch,Pc.aggregate,hge] using he)
    · intro g'' hg he
      obtain rfl : g' = g'' := by simpa [Pc.active,ha'] using hg
      exact hc.quiet g rfl (hge ▸ he)
    · simp [Clean,Pc.idle,Pc.waiting,ha']
    · simp [Pc.idle]
    · simp [Pc.waiting,ha']
    · intro g'' hg he hsp hs _
      obtain rfl : g' = g'' := by simpa [Pc.active,ha'] using hg
      refine ⟨⟨s.reserve g,by rw [hg'],by rw [hg']; rfl,rfl,rfl⟩,?_⟩
      rw [hg']
      exact hact he hsp hs
    · simp
    · simp
    · intro g'' hg
      obtain rfl : g' = g'' := by simpa [Pc.aggregate] using hg
      exact hheld

theorem Inv.step_write {s : State} (h : Inv s) {g : Aggregate} (hp : s.pc = .writing g)
    (ha : g.aborted = false) (hs : s.synced = true) (hm : s.mid = false) (ok : Bool) : Inv (s.cmd53 g ok) := by
  have hc := h.pcAt
  rw [hp] at hc
  have hfree := State.free hm
  have hge : g.epoch = s.epoch := by
    refine (hc.host g rfl).resolve_right ?_
    intro ⟨o,hb,hr⟩
    have hx := hfree o hb
    cases ht : (s.thread o).todo with
    | nil => simp [ht] at hr
    | cons op l =>
      obtain rfl : op = .read := by simpa [ht] using hr
      simp [ht,Op.onCounters] at hx
  obtain ⟨⟨r,hr,hrb,hre,hrz⟩,hfit⟩ :=
    hc.active g (by simp [Pc.active,ha]) hge (h.base.not_spoiled hm) hs
  obtain ⟨hu,hpt,hk⟩ := h.base.sync hs
  have hbook := h.base.books (.inl hs)
  obtain ⟨hid,hnew⟩ := hc.held g rfl r hr
  have hgood : (s.writeOf g ok).Good := by
    refine ⟨⟨r,hr,hrb,hre,hrz⟩,?_⟩
    cases ok <;> simp only [State.writeOf] <;> simp <;> omega
  have hb : Base (s.cmd53 g ok) := by
    refine ⟨?_,?_,h.base.ordered,h.base.owed,?_,h.base.stops,h.base.leaves,⟨?_,?_⟩,?_⟩
    · intro _
      cases ok <;> simp [State.cmd53]
      · exact ⟨hu,hpt,hk⟩
      · refine ⟨hu,by omega,?_⟩
        rw [hk,Nat.mod_add_mod]
    · intro _
      cases ok <;> simp [State.cmd53] <;> omega
    · intro o hob hot
      have hx := hfree o hob
      simp only [State.cmd53] at hot
      rw [hx] at hot
      cases hot
    · simpa [State.cmd53,hgood] using h.base.safe.good
    · have hnot : some r.id ∉ s.log.map (fun w => w.held.map (fun r => r.id)) := by
        intro hx
        obtain ⟨w,hw,hwr⟩ := List.mem_map.mp hx
        obtain ⟨q,hq,hqr⟩ := Option.map_eq_some_iff.mp hwr
        exact hnew w hw q hq hqr
      simpa [State.cmd53,State.writeOf,hr] using ⟨by simpa using hnot,h.base.safe.once⟩
    · simp only [State.cmd53,List.mem_cons,State.writeOf]
      rintro w (rfl | hw) q hq
      · simp only [hr,Option.mem_def,Option.some.injEq] at hq
        exact hq ▸ hid
      · exact h.base.ids w hw q hq
  have hst := hc.stopping (by simp)
  suffices ht : At (s.cmd53 g ok) .top from ⟨hb,ht⟩
  refine At.top (s := s.cmd53 g ok) ?_ ?_ hst rfl (by simp [Pc.epoch,Pc.aggregate])
  · intro o hob _ hot
    have hx := hfree o hob
    simp only [State.cmd53] at hot
    rw [hx] at hot
    cases hot
  · intro _
    refine .inr ?_
    cases ok <;> simp [Fits,State.cmd53] <;> omega

theorem At.toCredit {s : State} {e n : Nat} (h : At s (.filling e)) :
    At s (.credit {needed := n, epoch := e}) where
  asking := by simp [Pc.asking]
  epochs := by simpa [Pc.epoch,Pc.aggregate] using h.epochs
  quiet := by simp [Pc.active]
  zero := fun _ => h.zero (.inl rfl)
  idle := by simp [Pc.idle]
  waiting := fun _ _ _ _ => h.idle rfl
  active := by simp [Pc.active]
  host := by simp
  dead := by simp
  stopping := fun _ => h.stopping (by simp)
  held := by simp [Pc.aggregate]

theorem At.abort {s : State} {g : Aggregate} (h : At s (.credit g)) : At s (.left {g with aborted := true}) where
  asking := by simp [Pc.asking]
  epochs := by simpa [Pc.epoch,Pc.aggregate] using h.epochs
  quiet := by simp [Pc.active]
  zero := by
    rintro (hx | ⟨g',hg,hge⟩)
    · simp [Pc.idle] at hx
    · obtain rfl : _ = g' := by simpa [Pc.waiting] using hg
      exact h.zero (.inr ⟨g,rfl,hge⟩)
  idle := by simp [Pc.idle]
  waiting := by
    intro g' hg hge
    obtain rfl : _ = g' := by simpa [Pc.waiting] using hg
    exact h.waiting g rfl hge
  active := by simp [Pc.active]
  host := by simp
  dead := by simp
  stopping := fun _ => h.stopping (by simp)
  held := by
    intro g' hg
    obtain rfl : _ = g' := by simpa [Pc.aggregate] using hg
    exact h.held g rfl

theorem At.toStale {s : State} {p : Pc} (h : At s p) (hp : p ≠ .dead) : At s .staleCmd where
  asking := by simp [Pc.asking]
  epochs := by simp [Pc.epoch,Pc.aggregate]
  quiet := by simp [Pc.active]
  zero := by simp [Clean,Pc.idle,Pc.waiting]
  idle := by simp [Pc.idle]
  waiting := by simp [Pc.waiting]
  active := by simp [Pc.active]
  host := by simp
  dead := by simp
  stopping := fun _ => h.stopping hp
  held := by simp [Pc.aggregate]

theorem Inv.refuse {s : State} (h : Inv s) {p : Pc} {g : Aggregate} (hp : s.pc = p) (ha : p.active = some g)
    (hk : p.asking = some g) (hd : p ≠ .dead) {f : Bool} (hf : f = true ∨ ¬PcOk s p) :
    Inv {s with failed := f, pc := .left g} := by
  have hc := h.pcAt
  rw [hp] at hc
  have hab : g.aborted = false := hc.asking g hk
  refine ⟨h.base.ofTx _ f,⟨by simp [Pc.asking],?_,?_,?_,?_,?_,?_,?_,?_,fun _ => hc.stopping hd,?_⟩⟩
  · intro e he
    exact hc.epochs e (by rw [Pc.epoch_of (Pc.of_active ha)]; exact he)
  · intro g' hg
    obtain rfl : g = g' := by simpa [Pc.active,hab] using hg
    exact hc.quiet g ha
  · simp [Clean,Pc.idle,Pc.waiting,hab]
  · simp [Pc.idle]
  · simp [Pc.waiting,hab]
  · intro g' hg hge hsp hs hx
    obtain rfl : g = g' := by simpa [Pc.active,hab] using hg
    rcases hf with rfl | hf
    · cases hx
    · exact absurd (hc.active g ha hge hsp hs) hf
  · simp
  · simp
  · intro g' hg
    obtain rfl : g = g' := by simpa [Pc.aggregate] using hg
    exact hc.held g (Pc.of_active ha)

theorem At.refail {s : State} {p : Pc} (h : At s p) (f : Bool) (hp : ∀ g, p ≠ .left g) :
    At {s with failed := f} p := by
  refine ⟨h.asking,h.epochs,h.quiet,h.zero,h.idle,h.waiting,?_,h.host,h.dead,h.stopping,h.held⟩
  intro g hg hge hsp hs
  have hk := h.active g hg hge hsp hs
  cases p <;> first | exact hk | exact absurd rfl (hp _)

theorem Base.taken {s : State} (h : Base s) (n : Nat) : Base (s.taken n) :=
  ⟨h.sync,h.books,h.ordered,h.owed,h.fresh,h.stops,h.leaves,⟨h.safe.good,h.safe.once⟩,
    fun w hw r hr => Nat.lt_succ_of_lt (h.ids w hw r hr)⟩

/-- From one place of `is_sdio_write_buffer_available` to the next. -/
theorem Inv.proceed {s : State} (h : Inv s) {p q : Pc} (hp : s.pc = p) (ha : q.active = p.active)
    (hw : q.waiting = p.waiting) (hg : q.aggregate = p.aggregate) (he : q.epoch = p.epoch)
    (hi : q.idle = false) (hpd : p ≠ .dead) (hqd : q ≠ .dead)
    (hk : s.synced = true → PcOk s p → PcOk s q)
    (hh : ∀ g, q = .writing g → g.epoch = s.epoch) (hs : ∀ g ∈ q.asking, g ∈ p.asking) :
    Inv {s with pc := q} := by
  have hc := h.pcAt
  rw [hp] at hc
  exact h.goto (hc.move ha hw hg he hi hpd hqd hk hh hs)

theorem Inv.tx {s s' : State} {io : TxIo} (h : Inv s) (hok : Followed s (.tx io))
    (hs : txStep io s = some s') : Inv s' := by
  have hc := h.pcAt
  cases hp : s.pc with
  | dead => simp [txStep,hp] at hs
  | top =>
    rw [hp] at hc
    simp only [txStep,hp] at hs
    split_ifs at hs <;> obtain rfl := Option.some.inj hs
    · rename_i hst
      exact h.goto (hc.die (by simp) hst)
    · exact h
    · exact h.goto (.top (hc.zero (.inl rfl)) (hc.idle rfl) (hc.stopping (by simp)) rfl (by simp [Pc.epoch,Pc.aggregate]))
  | building =>
    rw [hp] at hc
    simp only [txStep,hp] at hs
    obtain rfl := Option.some.inj hs
    exact h.goto (.top (hc.zero (.inl rfl)) (hc.idle rfl) (hc.stopping (by simp)) rfl (by simp [Pc.epoch]))
  | filling e =>
    rw [hp] at hc
    simp only [txStep,hp] at hs
    split_ifs at hs <;> obtain rfl := Option.some.inj hs
    · exact h.goto (.top (hc.zero (.inl rfl)) (hc.idle rfl) (hc.stopping (by simp)) rfl (by simp [Pc.epoch,Pc.aggregate]))
    · exact h.goto hc.toCredit
  | credit g =>
    rw [hp] at hc
    simp only [txStep,hp] at hs
    split_ifs at hs with hst hgt <;> obtain rfl := Option.some.inj hs
    · exact h.goto (hc.toStale (by simp))
    · exact h.goto hc.abort
    · have hm : s.mid = false := by simpa [Followed,follows,hp,hst,hgt] using hok
      exact h.goto (h.step_credit hp hm)
  | checking g =>
    simp only [txStep,hp] at hs
    split_ifs at hs with hlt <;> obtain rfl := Option.some.inj hs
    · exact h.proceed hp rfl rfl rfl rfl rfl (by simp) (by simp) (fun _ hk => hk) (by simp) (by simp [Pc.asking])
    · refine h.proceed hp rfl rfl rfl rfl rfl (by simp) (by simp) ?_ (by simp) (by simp [Pc.asking])
      exact fun _ hk => ⟨hk,fun _ => by omega⟩
  | reading g r =>
    simp only [txStep,hp] at hs
    split_ifs at hs <;> obtain rfl := Option.some.inj hs
    · refine h.proceed hp rfl rfl rfl rfl rfl (by simp) (by simp) ?_ (by simp) (by simp [Pc.asking])
      exact fun hsy _ => ⟨s.token,rfl,(h.base.sync hsy).2.1,Nat.le_refl _⟩
    · exact h.refuse hp rfl rfl (by simp) (.inl rfl)
  | storing g r raw =>
    simp only [txStep,hp] at hs
    obtain rfl := Option.some.inj hs
    exact h.step_store hp
  | comparing g r =>
    simp only [txStep,hp] at hs
    split_ifs at hs with hlt hr <;> obtain rfl := Option.some.inj hs
    · refine h.proceed hp rfl rfl rfl rfl rfl (by simp) (by simp) ?_ (by simp) (by simp [Pc.asking])
      exact fun _ hk => ⟨hk,fun hx => absurd rfl hx⟩
    · exact h.proceed hp rfl rfl rfl rfl rfl (by simp) (by simp) (fun _ hk => hk) (by simp) (by simp [Pc.asking])
    · refine h.proceed hp rfl rfl rfl rfl rfl (by simp) (by simp) ?_ (by simp) (by simp [Pc.asking])
      exact fun _ hk => ⟨hk,fun _ => by omega⟩
  | taking g r =>
    rw [hp] at hc
    simp only [txStep,hp] at hs
    split_ifs at hs with hle hr <;> obtain rfl := Option.some.inj hs
    · refine h.proceed hp rfl rfl rfl rfl rfl (by simp) (by simp) ?_ (by simp) (by simp [Pc.asking])
      exact fun _ hk => ⟨hk.1,hle⟩
    · have hn := hc.again rfl (by simp) rfl (fun hk => hk.1)
      exact ⟨h.base.ofTx _ false,(hn.refail false (by simp)).ofTx _⟩
    · refine h.refuse hp rfl rfl (by simp) (.inr ?_)
      exact fun hk => hle (hk.2 hr)
  | subtracting g r =>
    simp only [txStep,hp] at hs
    have hn : g.needed ≤ s.available → wrappingSub s.available g.needed = s.available-g.needed :=
      fun hle => if_pos hle
    generalize wrappingSub s.available g.needed = n at hs hn
    obtain rfl := Option.some.inj hs
    have hb := h.base.taken n
    obtain ⟨hcr,hlf⟩ := h.step_subtract hp rfl hn
    by_cases hr : r = 0
    · simp only [hr,if_true]
      exact ⟨hb.ofTx _ false,hcr.ofTx _⟩
    · simp only [hr,if_false]
      exact ⟨hb.ofTx _ false,hlf.ofTx _⟩
  | staleCmd =>
    rw [hp] at hc
    simp only [txStep,hp] at hs
    split_ifs at hs with hst <;> obtain rfl := Option.some.inj hs
    · exact h.goto (hc.die (by simp) hst)
    · exact h.abandon (by simp [hp])
  | left g =>
    rw [hp] at hc
    simp only [txStep,hp] at hs
    split_ifs at hs with hst hab <;> obtain rfl := Option.some.inj hs
    · exact h.goto (hc.die (by simp) hst)
    · exact h.abandon (by simp [hp])
    · exact h.goto (h.step_left hp (by simp_all) rfl)
  | packed g =>
    simp only [txStep,hp] at hs
    split_ifs at hs <;> obtain rfl := Option.some.inj hs
    · exact h.abandon (by simp [hp])
    · exact h.proceed hp rfl rfl rfl rfl rfl (by simp) (by simp) (fun _ hk => hk) (by simp) (by simp [Pc.asking])
  | vetted g =>
    simp only [txStep,hp] at hs
    split_ifs at hs <;> obtain rfl := Option.some.inj hs
    · exact h.abandon (by simp [hp])
    · exact h.proceed hp rfl rfl rfl rfl rfl (by simp) (by simp) (fun _ hk => hk) (by simp) (by simp [Pc.asking])
  | claiming g =>
    simp only [txStep,hp] at hs
    split_ifs at hs with hab <;> obtain rfl := Option.some.inj hs
    · exact h.abandon (by simp [hp])
    · refine h.proceed hp rfl rfl rfl rfl rfl (by simp) (by simp) (fun _ hk => hk) ?_ (by simp [Pc.asking])
      intro g' hg
      obtain rfl : g = g' := by simpa using hg
      by_contra hx
      exact hab (.inr (Ne.symm hx))
  | writing g =>
    simp only [txStep,hp] at hs
    obtain rfl := Option.some.inj hs
    have hx : (g.aborted = false ∧ s.synced = true) ∧ s.mid = false := by
      simpa [Followed,follows,hp] using hok
    exact h.step_write hp hx.1.1 hx.1.2 hx.2 io.writeOk

/-! Steps of the threads. -/

theorem Inv.flags {s : State} (h : Inv s) (sleep ready removing : Bool) :
    Inv {s with hostSleep := sleep, ready := ready, removing := removing} :=
  ⟨⟨h.base.sync,h.base.books,h.base.ordered,h.base.owed,h.base.fresh,h.base.stops,h.base.leaves,
      ⟨h.base.safe.good,h.base.safe.once⟩,h.base.ids⟩,
    ⟨h.pcAt.asking,h.pcAt.epochs,h.pcAt.quiet,h.pcAt.zero,h.pcAt.idle,h.pcAt.waiting,h.pcAt.active,
      h.pcAt.host,h.pcAt.dead,h.pcAt.stopping,h.pcAt.held⟩⟩

theorem Inv.restart {s : State} (h : Inv s) : Inv s.restart := by
  refine ⟨⟨?_,?_,h.base.ordered,h.base.owed,h.base.fresh,h.base.stops,h.base.leaves,
      ⟨h.base.safe.good,h.base.safe.once⟩,h.base.ids⟩,
    ⟨h.pcAt.asking,h.pcAt.epochs,h.pcAt.quiet,h.pcAt.zero,?_,?_,?_,
      h.pcAt.host,h.pcAt.dead,h.pcAt.stopping,h.pcAt.held⟩⟩
  · simp [State.restart]
  · simp [State.restart]
  · intro _ hs
    cases hs
  · intro _ _ _ _ hs
    cases hs
  · intro _ _ _ _ hs
    cases hs

theorem Fits.produce {s : State} (h : Fits s) (n : Nat) : Fits {s with token := s.token+n} :=
  Nat.le_trans h (Nat.le_add_right _ _)

theorem Settled.produce {s : State} (h : Settled s) (n : Nat) : Settled {s with token := s.token+n} :=
  fun hs => (h hs).imp id (fun hf => hf.produce n)

theorem PcOk.produce {s : State} {p : Pc} (h : PcOk s p) (n : Nat) : PcOk {s with token := s.token+n} p := by
  have hb : ∀ g, Backed s g → Backed {s with token := s.token+n} g :=
    fun g hg => ⟨hg.1,Nat.le_trans hg.2 (Nat.le_add_right _ _)⟩
  cases p with
  | storing g r raw =>
    obtain ⟨t,ht,hpt,htt⟩ := h
    exact ⟨t,ht,hpt,Nat.le_trans htt (Nat.le_add_right _ _)⟩
  | checking g => exact Fits.produce h n
  | reading g r => exact Fits.produce h n
  | comparing g r => exact Fits.produce h n
  | taking g r => exact ⟨h.1.produce n,h.2⟩
  | subtracting g r => exact ⟨h.1.produce n,h.2⟩
  | left g => exact fun hf => hb g (h hf)
  | packed g => exact hb g h
  | vetted g => exact hb g h
  | claiming g => exact hb g h
  | writing g => exact hb g h
  | _ => trivial

theorem Inv.produce {s : State} (h : Inv s) (n : Nat) : Inv {s with token := s.token+n} := by
  refine ⟨⟨?_,h.base.books,h.base.ordered,h.base.owed,h.base.fresh,h.base.stops,h.base.leaves,
      ⟨h.base.safe.good,h.base.safe.once⟩,h.base.ids⟩,
    ⟨h.pcAt.asking,h.pcAt.epochs,h.pcAt.quiet,h.pcAt.zero,?_,?_,?_,
      h.pcAt.host,h.pcAt.dead,h.pcAt.stopping,h.pcAt.held⟩⟩
  · intro hs
    obtain ⟨hu,hp,hk⟩ := h.base.sync hs
    exact ⟨hu,Nat.le_trans hp (Nat.le_add_right _ _),hk⟩
  · exact fun hi => (h.pcAt.idle hi).produce n
  · exact fun g hg he hsp => (h.pcAt.waiting g hg he hsp).produce n
  · exact fun g hg he hsp hs => (h.pcAt.active g hg he hsp hs).produce n

theorem Inv.setCount {s : State} (h : Inv s) {o : Owner} {n : Nat} (hb : (s.thread o).bumped = true)
    (hd : (s.thread o).zeroed = true ∨ .dropCredits ∈ (s.thread o).todo)
    (hc : (s.thread o).todo.any Op.onCounters = true) (hn : n ≤ s.token) : Inv (s.setCount n) := by
  have hset : Clean s s.pc → Settled (s.setCount n) := by
    intro hcl _
    rcases hd with hz | hd
    · have ha := h.pcAt.zero hcl o hb hz hc
      refine .inr ?_
      simp only [Fits,State.setCount,ha]
      omega
    · exact .inl ⟨o,mid_of_counters (.inl hb) hc,hd⟩
  refine ⟨⟨?_,?_,h.base.ordered,h.base.owed,h.base.fresh,h.base.stops,h.base.leaves,
      ⟨h.base.safe.good,h.base.safe.once⟩,h.base.ids⟩,
    ⟨h.pcAt.asking,h.pcAt.epochs,h.pcAt.quiet,h.pcAt.zero,?_,?_,?_,
      h.pcAt.host,h.pcAt.dead,h.pcAt.stopping,h.pcAt.held⟩⟩
  · intro hs
    exact ⟨of_decide_eq_true hs,hn,rfl⟩
  · exact fun _ => h.base.books (.inr (h.base.fresh o hb hc))
  · exact fun hi => hset (.inl hi)
  · exact fun g hg he _ => hset (.inr ⟨g,hg,he⟩)
  · intro g hg he
    have hx := h.pcAt.quiet g hg he o hb
    rw [hx] at hc
    cases hc

theorem leavesTx_tail {op : Op} {l : List Op} (h : leavesTx (op :: l) = true) :
    (op ≠ .stopTx ∧ op ≠ .joinTx ∧ op ≠ .startTx) ∧ leavesTx l = true := by
  simp only [leavesTx,List.all_cons,Bool.and_eq_true,bne_iff_ne] at h
  exact ⟨⟨h.1.1.1,h.1.1.2,h.1.2⟩,h.2⟩

theorem stopsWell_tail {op : Op} {l : List Op} (h : stopsWell (op :: l) = true) : stopsWell l = true := by
  simp only [stopsWell,Bool.and_eq_true] at h
  exact h.2

/-- What the threads are when `o` has taken its next operation. -/
def State.advanced (s : State) (o : Owner) (op : Op) (l : List Op) : Owner → Thread :=
  Function.update s.thread o ((s.thread o).advance op l)

theorem advanced_self (s : State) (o : Owner) (op : Op) (l : List Op) :
    s.advanced o op l o = (s.thread o).advance op l := by
  simp [State.advanced]

theorem advanced_other {s : State} {o o' : Owner} (h : o' ≠ o) (op : Op) (l : List Op) :
    s.advanced o op l o' = s.thread o' := by
  simp [State.advanced,h]

theorem Base.stops_advanced {s : State} (h : Base s) {o : Owner} {op : Op} {l : List Op}
    (ht : (s.thread o).todo = op :: l) : stopsWell (s.advanced o op l .boot).todo = true := by
  have hx := h.stops
  by_cases ho : Owner.boot = o
  · subst ho
    rw [ht] at hx
    simpa [advanced_self,Thread.advance] using stopsWell_tail hx
  · simpa [advanced_other ho] using hx

theorem Base.leaves_advanced {s : State} (h : Base s) {o : Owner} {op : Op} {l : List Op}
    (ht : (s.thread o).todo = op :: l) : leavesTx (s.advanced o op l .pm).todo = true := by
  have hx := h.leaves
  by_cases ho : Owner.pm = o
  · subst ho
    rw [ht] at hx
    simpa [advanced_self,Thread.advance] using (leavesTx_tail hx).2
  · simpa [advanced_other ho] using hx

theorem advanced_neutral {s : State} {o : Owner} {op : Op} {l : List Op} (ht : (s.thread o).todo = op :: l)
    (hb : op.bumps = false) (hd : op ≠ .dropCredits) (o' : Owner) :
    (s.advanced o op l o').bumped = (s.thread o').bumped ∧ (s.advanced o op l o').zeroed = (s.thread o').zeroed ∧
    ((s.advanced o op l o').todo.any Op.onCounters = true → (s.thread o').todo.any Op.onCounters = true) ∧
    ((s.thread o').todo.any Op.bumps = true → (s.advanced o op l o').todo.any Op.bumps = true) ∧
    (.dropCredits ∈ (s.thread o').todo → .dropCredits ∈ (s.advanced o op l o').todo) := by
  by_cases ho : o' = o
  · subst ho
    rw [advanced_self,ht]
    have hne : Op.dropCredits ≠ op := Ne.symm hd
    simp only [Thread.advance,hb,List.any_cons]
    simp_all
  · rw [advanced_other ho]
    simp

theorem ordered_tail {b z : Bool} {op : Op} {l : List Op} (h : ordered b z (op :: l) = true) (hb : op.bumps = false)
    (hd : op ≠ .dropCredits) : ordered b z l = true := by
  cases op <;> simp only [ordered,Op.bumps,Bool.and_eq_true,Bool.true_eq_false] at * <;>
    first | exact h | exact h.2 | contradiction

theorem Inv.shrink {s : State} (h : Inv s) {o : Owner} {op : Op} {l : List Op}
    (ht : (s.thread o).todo = op :: l) (hb : op.bumps = false) (hd : op ≠ .dropCredits)
    (hr : op = .read → s.pc.onBus = false) (hj : op = .joinTx → s.pc = .dead ∧ s.available = 0) :
    Inv {s with thread := s.advanced o op l} := by
  have hT := fun o' => advanced_neutral ht hb hd o'
  have hsp : ¬{s with thread := s.advanced o op l}.spoiled → ¬s.spoiled := by
    rintro hx ⟨o',hz,hbb⟩
    obtain ⟨h1,h2,-⟩ := hT o'
    exact hx ⟨o',h2.trans hz,h1.trans hbb⟩
  have hset : Settled s → Settled {s with thread := s.advanced o op l} := by
    intro hx hs
    refine (hx hs).imp ?_ id
    rintro ⟨o',hm,hdm⟩
    obtain ⟨h1,h2,-,-,h5⟩ := hT o'
    simp only [Thread.mid,Bool.and_eq_true,Bool.or_eq_true] at hm
    exact ⟨o',mid_of_counters (by rw [h1,h2]; exact hm.1) (any_counters_of_drop (h5 hdm)),h5 hdm⟩
  have hbase : Base {s with thread := s.advanced o op l} := by
    refine ⟨h.base.sync,h.base.books,?_,?_,?_,h.base.stops_advanced ht,h.base.leaves_advanced ht,
      ⟨h.base.safe.good,h.base.safe.once⟩,h.base.ids⟩
    · intro o'
      obtain ⟨h1,h2,-⟩ := hT o'
      have hx := h.base.ordered o'
      simp only [h1,h2]
      by_cases ho : o' = o
      · subst ho
        rw [ht] at hx
        rw [advanced_self]
        exact ordered_tail hx hb hd
      · rwa [advanced_other ho]
    · intro o' hz hbb
      obtain ⟨h1,h2,-,h4,-⟩ := hT o'
      exact h4 (h.base.owed o' (h2 ▸ hz) (h1 ▸ hbb))
    · intro o' hbb hc
      obtain ⟨h1,-,h3,-⟩ := hT o'
      exact h.base.fresh o' (h1 ▸ hbb) (h3 hc)
  have hc := h.pcAt
  refine ⟨hbase,⟨hc.asking,hc.epochs,?_,?_,fun hi => hset (hc.idle hi),
    fun g hg he hx => hset (hc.waiting g hg he (hsp hx)),
    fun g hg he hx => hc.active g hg he (hsp hx),?_,?_,?_,hc.held⟩⟩
  · intro g hg he o' hbb
    obtain ⟨h1,-,h3,-⟩ := hT o'
    have hx := hc.quiet g hg he o' (h1 ▸ hbb)
    by_contra hy
    rw [h3 (by simpa using hy)] at hx
    cases hx
  · intro hcl o' hbb hz hcn
    obtain ⟨h1,h2,h3,-⟩ := hT o'
    exact hc.zero hcl o' (h1 ▸ hbb) (h2 ▸ hz) (h3 hcn)
  · intro g hg
    refine (hc.host g hg).imp id ?_
    rintro ⟨o',hbb,hh⟩
    have ho : o' ≠ o := by
      rintro rfl
      rw [ht] at hh
      have hx := hr (by simpa using hh)
      have hpc : s.pc = .writing g := hg
      simp [hpc,Pc.onBus] at hx
    exact ⟨o',by simpa [advanced_other ho] using hbb,by simpa [advanced_other ho] using hh⟩
  · intro hp
    by_cases ho : Owner.boot = o
    · subst ho
      rcases hc.dead hp with hx | hx
      · rw [ht] at hx
        exact .inr (hj (by simpa using hx)).2
      · exact .inr hx
    · simpa [advanced_other ho] using hc.dead hp
  · intro hp hst
    have hx := hc.stopping hp hst
    by_cases ho : Owner.boot = o
    · subst ho
      rw [ht] at hx
      exact absurd (hj (by simpa using hx)).1 hp
    · simpa [advanced_other ho] using hx

/-- The epoch moves on: every aggregate that has a part in the credits is now an old one. -/
theorem Inv.bump {s : State} (h : Inv s) {o : Owner} {op : Op} {l : List Op}
    (ht : (s.thread o).todo = op :: l) (hb : op.bumps = true) (hbus : op = .barrier → s.pc.onBus = false) :
    Inv {s.bump with thread := s.advanced o op l} := by
  have hself : s.advanced o op l o = {todo := l, bumped := true, zeroed := false} := by
    simp [advanced_self,Thread.advance,hb]
  have hord := h.base.ordered o
  rw [ht] at hord
  have hc := h.pcAt
  have hold : ∀ g ∈ s.pc.aggregate, g.epoch ≠ s.epoch+1 := by
    intro g hg he
    have hx := hc.epochs g.epoch (Pc.epoch_of hg)
    omega
  refine ⟨⟨h.base.sync,fun _ => Nat.add_zero _,?_,?_,fun _ _ _ => rfl,h.base.stops_advanced ht,
      h.base.leaves_advanced ht,⟨h.base.safe.good,h.base.safe.once⟩,h.base.ids⟩,
    ⟨hc.asking,fun e he => Nat.le_succ_of_le (hc.epochs e he),?_,?_,?_,?_,?_,?_,?_,?_,hc.held⟩⟩
  · intro o'
    dsimp only [State.bump]
    by_cases ho : o' = o
    · subst ho
      rw [hself]
      cases op <;> simp_all [ordered,Op.bumps]
    · rw [advanced_other ho]
      exact h.base.ordered o'
  · intro o'
    by_cases ho : o' = o
    · subst ho
      simp [hself]
    · simp only [advanced_other ho]
      exact h.base.owed o'
  · intro g hg he
    exact absurd he (hold g (Pc.of_active hg))
  · rintro (hi | ⟨g,hg,he⟩) o'
    · by_cases ho : o' = o
      · subst ho
        simp [hself]
      · simp only [advanced_other ho]
        exact hc.zero (.inl hi) o'
    · exact absurd he (hold g (Pc.of_waiting hg))
  · intro hi hs
    refine (hc.idle hi hs).imp ?_ id
    rintro ⟨o',hm,hd⟩
    by_cases ho : o' = o
    · subst ho
      rw [ht] at hd
      have hl : Op.dropCredits ∈ l := by
        rcases List.mem_cons.mp hd with rfl | hl
        · cases hb
        · exact hl
      exact ⟨o',mid_of_counters (.inl (by simp [hself])) (any_counters_of_drop (by simpa [hself] using hl)),
        by simpa [hself] using hl⟩
    · exact ⟨o',by simpa [advanced_other ho] using hm,by simpa [advanced_other ho] using hd⟩
  · intro g hg he
    exact absurd he (hold g (Pc.of_waiting hg))
  · intro g hg he
    exact absurd he (hold g (Pc.of_active hg))
  · intro g hg
    have hpc : s.pc = .writing g := hg
    refine .inr ⟨o,by simp [hself],?_⟩
    dsimp only [State.bump]
    rw [hself]
    cases op with
    | barrier =>
      have hx := hbus rfl
      simp [hpc,Pc.onBus] at hx
    | incEpoch =>
      simp only [ordered,Bool.and_eq_true,beq_iff_eq] at hord
      exact hord.1
    | _ => cases hb
  · intro hp
    by_cases ho : Owner.boot = o
    · subst ho
      rcases hc.dead hp with hx | hx
      · rw [ht] at hx
        obtain rfl : op = .joinTx := by simpa using hx
        cases hb
      · exact .inr hx
    · dsimp only [State.bump]
      rw [advanced_other ho]
      exact hc.dead hp
  · intro hp hst
    have hx := hc.stopping hp hst
    by_cases ho : Owner.boot = o
    · subst ho
      rw [ht] at hx
      obtain rfl : op = .joinTx := by simpa using hx
      cases hb
    · simpa [advanced_other ho] using hx

theorem Inv.drop {s : State} (h : Inv s) {o : Owner} {l : List Op} (ht : (s.thread o).todo = .dropCredits :: l) :
    Inv {s.zero with thread := s.advanced o .dropCredits l} := by
  have hself : s.advanced o .dropCredits l o = {todo := l, bumped := (s.thread o).bumped, zeroed := true} := by
    simp [advanced_self,Thread.advance,Op.bumps]
  have hord := h.base.ordered o
  rw [ht] at hord
  simp only [ordered,Bool.and_eq_true,Bool.or_eq_true] at hord
  have hc := h.pcAt
  have hmine : (s.thread o).todo.any Op.onCounters = true := by simp [ht,Op.onCounters]
  have hbase : Base {s.zero with thread := s.advanced o .dropCredits l} := by
    refine ⟨h.base.sync,h.base.books,?_,?_,?_,h.base.stops_advanced ht,h.base.leaves_advanced ht,
      ⟨h.base.safe.good,h.base.safe.once⟩,h.base.ids⟩
    · intro o'
      dsimp only [State.zero]
      by_cases ho : o' = o
      · subst ho
        rw [hself]
        exact hord.2
      · rw [advanced_other ho]
        exact h.base.ordered o'
    · intro o'
      by_cases ho : o' = o
      · subst ho
        intro _ hb
        simp only [hself] at hb ⊢
        simpa [hb] using hord.1
      · simp only [advanced_other ho]
        exact h.base.owed o'
    · intro o'
      by_cases ho : o' = o
      · subst ho
        intro hb _
        exact h.base.fresh o' (by simpa [hself] using hb) hmine
      · simp only [advanced_other ho]
        exact h.base.fresh o'
  refine ⟨hbase,⟨hc.asking,hc.epochs,?_,fun _ _ _ _ _ => rfl,fun _ => hbase.settled_zero rfl,
    fun _ _ _ _ => hbase.settled_zero rfl,?_,?_,fun _ => .inr rfl,?_,hc.held⟩⟩
  · intro g hg he o'
    by_cases ho : o' = o
    · subst ho
      intro hb
      have hx := hc.quiet g hg he o' (by simpa [hself] using hb)
      rw [hx] at hmine
      cases hmine
    · simp only [advanced_other ho]
      exact hc.quiet g hg he o'
  · intro g hg he hsp
    have hb : (s.thread o).bumped = true := by
      by_contra hx
      exact hsp ⟨o,by simp [hself],by simpa [hself] using hx⟩
    have hx := hc.quiet g hg he o hb
    rw [hx] at hmine
    cases hmine
  · intro g hg
    refine (hc.host g hg).imp id ?_
    rintro ⟨o',hbb,hh⟩
    have ho : o' ≠ o := by
      rintro rfl
      simp [ht] at hh
    exact ⟨o',by simpa [advanced_other ho] using hbb,by simpa [advanced_other ho] using hh⟩
  · intro hp hst
    have hx := hc.stopping hp hst
    by_cases ho : Owner.boot = o
    · subst ho
      simp [ht] at hx
    · simpa [advanced_other ho] using hx

theorem Inv.stop {s : State} (h : Inv s) (hj : (s.thread .boot).todo.head? = some .joinTx) :
    Inv {s with shouldStop := true} :=
  ⟨⟨h.base.sync,h.base.books,h.base.ordered,h.base.owed,h.base.fresh,h.base.stops,h.base.leaves,
      ⟨h.base.safe.good,h.base.safe.once⟩,h.base.ids⟩,
    ⟨h.pcAt.asking,h.pcAt.epochs,h.pcAt.quiet,h.pcAt.zero,h.pcAt.idle,h.pcAt.waiting,h.pcAt.active,
      h.pcAt.host,h.pcAt.dead,fun _ _ => hj,h.pcAt.held⟩⟩

theorem Inv.stopTx {s : State} (h : Inv s) {l : List Op} (ht : (s.thread .boot).todo = .stopTx :: l) :
    Inv {s with shouldStop := true, thread := s.advanced .boot .stopTx l} := by
  have hj : l.head? = some .joinTx := by
    have hw := h.base.stops
    rw [ht] at hw
    simp only [stopsWell,Bool.and_eq_true] at hw
    simpa using hw.1
  exact (h.shrink ht rfl (by simp) (by simp) (by simp)).stop (by simpa [advanced_self,Thread.advance] using hj)

theorem Inv.joinTx {s : State} (h : Inv s) (hp : s.pc = .dead) : Inv s.zero := by
  have hc := h.pcAt
  rw [hp] at hc
  refine ⟨h.base.zero,?_⟩
  have hz : s.zero.pc = .dead := hp
  rw [hz]
  exact ⟨hc.asking,hc.epochs,hc.quiet,by simp [Clean,Pc.idle,Pc.waiting],by simp [Pc.idle],by simp [Pc.waiting],
    by simp [Pc.active],by simp,fun _ => .inr rfl,fun hx => absurd rfl hx,by simp [Pc.aggregate]⟩

theorem Inv.startTx {s : State} (h : Inv s) (hp : s.pc = .dead) {l : List Op}
    (ht : (s.thread .boot).todo = .startTx :: l) :
    Inv {s with pc := .top, shouldStop := false, failed := false} := by
  have hc := h.pcAt
  rw [hp] at hc
  have ha : s.available = 0 := by simpa [ht] using hc.dead rfl
  have hb : Base {s with pc := .top, shouldStop := false, failed := false} :=
    ⟨h.base.sync,h.base.books,h.base.ordered,h.base.owed,h.base.fresh,h.base.stops,h.base.leaves,
      ⟨h.base.safe.good,h.base.safe.once⟩,h.base.ids⟩
  exact ⟨hb,At.top (s := {s with pc := .top, shouldStop := false, failed := false}) (fun _ _ _ _ => ha)
    (hb.settled_zero ha) (by simp) rfl (by simp [Pc.epoch,Pc.aggregate])⟩

theorem Inv.begin {s s' : State} (h : Inv s) {o : Owner} {todo : List Op} (hk : programOk o todo = true)
    (hs : begin s o todo = some s') : Inv s' := by
  unfold SdioCredits.begin at hs
  split_ifs at hs with ht
  obtain rfl := Option.some.inj hs
  simp only [programOk,Bool.and_eq_true,Bool.or_eq_true,beq_iff_eq] at hk
  obtain ⟨⟨hord,hstop⟩,hleave⟩ := hk
  have hc := h.pcAt
  have hself : Function.update s.thread o {todo := todo} o = {todo := todo} := by simp
  have hother : ∀ o' ≠ o, Function.update s.thread o {todo := todo} o' = s.thread o' :=
    fun o' ho => by simp [ho]
  have hsp : ¬{s with thread := Function.update s.thread o {todo := todo}}.spoiled → ¬s.spoiled := by
    rintro hx ⟨o',hz,hb⟩
    refine hx ⟨o',?_⟩
    have ho : o' ≠ o := by
      rintro rfl
      have hy := h.base.owed o' hz hb
      simp [ht] at hy
    simp only [hother o' ho]
    exact ⟨hz,hb⟩
  have hset : Settled s → Settled {s with thread := Function.update s.thread o {todo := todo}} := by
    intro hx hs
    refine (hx hs).imp ?_ id
    rintro ⟨o',hm,hd⟩
    refine ⟨o',?_⟩
    have ho : o' ≠ o := by
      rintro rfl
      simp [ht] at hd
    simp only [hother o' ho]
    exact ⟨hm,hd⟩
  refine ⟨⟨h.base.sync,h.base.books,?_,?_,?_,?_,?_,⟨h.base.safe.good,h.base.safe.once⟩,h.base.ids⟩,
    ⟨hc.asking,hc.epochs,?_,?_,fun hi => hset (hc.idle hi),
      fun g hg he hx => hset (hc.waiting g hg he (hsp hx)),fun g hg he hx => hc.active g hg he (hsp hx),
      ?_,?_,?_,hc.held⟩⟩
  · intro o'
    by_cases ho : o' = o
    · subst ho
      simpa using hord
    · simpa only [hother o' ho] using h.base.ordered o'
  · intro o'
    by_cases ho : o' = o
    · subst ho
      simp
    · simpa only [hother o' ho] using h.base.owed o'
  · intro o'
    by_cases ho : o' = o
    · subst ho
      simp
    · simpa only [hother o' ho] using h.base.fresh o'
  · by_cases ho : Owner.boot = o
    · subst ho
      simpa using hstop
    · simpa only [hother _ ho] using h.base.stops
  · by_cases ho : Owner.pm = o
    · subst ho
      simpa using hleave
    · simpa only [hother _ ho] using h.base.leaves
  · intro g hg he o'
    by_cases ho : o' = o
    · subst ho
      simp
    · simpa only [hother o' ho] using hc.quiet g hg he o'
  · intro hcl o'
    by_cases ho : o' = o
    · subst ho
      simp
    · simpa only [hother o' ho] using hc.zero hcl o'
  · intro g hg
    refine (hc.host g hg).imp id ?_
    rintro ⟨o',hb,hh⟩
    have ho : o' ≠ o := by
      rintro rfl
      simp [ht] at hh
    exact ⟨o',by simpa only [hother o' ho] using hb,by simpa only [hother o' ho] using hh⟩
  · intro hp
    by_cases ho : Owner.boot = o
    · subst ho
      exact .inr ((hc.dead hp).resolve_left (by simp [ht]))
    · simpa only [hother _ ho] using hc.dead hp
  · intro hp hst
    have hx := hc.stopping hp hst
    by_cases ho : Owner.boot = o
    · subst ho
      simp [ht] at hx
    · simpa only [hother _ ho] using hx

theorem Inv.run {s s' : State} (h : Inv s) {o : Owner} (hs : run s o = some s') : Inv s' := by
  unfold SdioCredits.run at hs
  cases ht : (s.thread o).todo with
  | nil => simp [ht] at hs
  | cons op l =>
    simp only [ht] at hs
    split_ifs at hs with hbus
    obtain ⟨t,hop,rfl⟩ := Option.map_eq_some_iff.mp hs
    have hord := h.base.ordered o
    rw [ht] at hord
    have hboot : op = .stopTx ∨ op = .joinTx ∨ op = .startTx → o = .boot := by
      intro hx
      cases o with
      | boot => rfl
      | pm =>
        have hl := h.base.leaves
        rw [ht] at hl
        obtain ⟨⟨h1,h2,h3⟩,-⟩ := leavesTx_tail hl
        rcases hx with rfl | rfl | rfl <;> contradiction
    have hfree : op.onBus = true → s.pc.onBus = false := fun hx => by simpa [hx] using hbus
    cases op with
    | sleep b =>
      obtain rfl := Option.some.inj hop
      exact (h.flags b s.ready s.removing).shrink ht rfl (by simp) (by simp) (by simp)
    | state b =>
      obtain rfl := Option.some.inj hop
      exact (h.flags s.hostSleep b s.removing).shrink ht rfl (by simp) (by simp) (by simp)
    | barrier =>
      obtain rfl := Option.some.inj hop
      exact h.bump ht rfl (fun _ => hfree rfl)
    | incEpoch =>
      obtain rfl := Option.some.inj hop
      exact h.bump ht rfl (by simp)
    | dropCredits =>
      obtain rfl := Option.some.inj hop
      exact h.drop ht
    | baseline =>
      obtain rfl := Option.some.inj hop
      simp only [ordered,Bool.and_eq_true,Bool.or_eq_true,List.contains_iff_mem] at hord
      refine Inv.shrink (h.setCount hord.1.1 (o := o) ?_ ?_ (baselinePosition_le s)) ht rfl (by simp) (by simp) (by simp)
      · exact hord.1.2.imp id (fun hd => by simp [ht,hd])
      · simp [ht,Op.onCounters]
    | zeroCount =>
      obtain rfl := Option.some.inj hop
      simp only [ordered,Bool.and_eq_true,Bool.or_eq_true,List.contains_iff_mem] at hord
      refine Inv.shrink (h.setCount hord.1.1 (o := o) ?_ ?_ (Nat.zero_le _)) ht rfl (by simp) (by simp) (by simp)
      · exact hord.1.2.imp id (fun hd => by simp [ht,hd])
      · simp [ht,Op.onCounters]
    | read =>
      obtain rfl := Option.some.inj hop
      exact h.shrink ht rfl (by simp) (fun _ => hfree rfl) (by simp)
    | bus =>
      obtain rfl := Option.some.inj hop
      exact h.shrink ht rfl (by simp) (by simp) (by simp)
    | restart =>
      obtain rfl := Option.some.inj hop
      exact h.restart.shrink ht rfl (by simp) (by simp) (by simp)
    | stopTx =>
      obtain rfl := Option.some.inj hop
      obtain rfl := hboot (.inl rfl)
      exact h.stopTx ht
    | joinTx =>
      simp only [opStep] at hop
      split_ifs at hop with hd
      obtain rfl := Option.some.inj hop
      exact (h.joinTx hd).shrink ht rfl (by simp) (by simp) (fun _ => ⟨hd,rfl⟩)
    | startTx =>
      simp only [opStep] at hop
      split_ifs at hop with hd
      obtain rfl := Option.some.inj hop
      obtain rfl := hboot (.inr (.inr rfl))
      exact (h.startTx hd ht).shrink ht rfl (by simp) (by simp) (by simp)

theorem step_inv (s : State) (a : Action) (s' : State) (h : Inv s) (hok : Followed s a)
    (hs : step s a = some s') : Inv s' := by
  cases a with
  | tx io => exact h.tx hok hs
  | suspend io => exact h.begin (suspend_ok io) hs
  | resume io => exact h.begin (resume_ok io) hs
  | recover io p => exact h.begin (recover_ok io p) hs
  | bootup io => exact h.begin (bootup_ok io) hs
  | run o => exact h.run hs
  | clamp =>
    obtain rfl := Option.some.inj hs
    exact h.flags s.hostSleep false s.removing
  | remove =>
    obtain rfl := Option.some.inj hs
    exact h.flags s.hostSleep s.ready true
  | produce n =>
    obtain rfl := Option.some.inj hs
    exact h.produce n
  | crash =>
    obtain rfl := Option.some.inj hs
    exact h.restart

theorem inv_probe (token : Nat) : Inv (probe token) := by
  have hb : Base (probe token) := by
    refine ⟨fun _ => ⟨Nat.zero_le _,baselinePosition_le _,rfl⟩,fun _ => rfl,fun _ => rfl,?_,?_,rfl,rfl,⟨?_,?_⟩,?_⟩
    all_goals simp [probe,State.setCount]
  refine ⟨hb,At.top (s := probe token) (fun _ _ _ _ => rfl) (hb.settled_zero rfl) ?_ rfl ?_⟩
  · simp [probe,State.setCount]
  · simp [probe,State.setCount,Pc.epoch,Pc.aggregate]

theorem credits_reserved (token : Nat) (acts : List Action) (s : State)
    (hok : Along step Followed (probe token) acts) (hs : exec step (probe token) acts = some s) : Safe s :=
  (exec_invariant_along step_inv hok (inv_probe token) hs).base.safe

def txRun (n : Nat) : List Action := List.replicate n (.tx {})
def pmRun (n : Nat) : List Action := List.replicate n (.run .pm)

def firstBoot : List Action := [.bootup {reinitializing := false},.run .boot,.run .boot]

/-- The second aggregate holds its credits when the host goes to sleep. -/
def suspendedRun : List Action :=
  firstBoot ++ txRun 22 ++ ([.suspend {}] : List Action) ++ pmRun 2 ++ txRun 12 ++
    ([.resume {},.run .pm,.produce 10] : List Action) ++ pmRun 6 ++ txRun 15

theorem credits_reserved_resume :
    ∃ s ∈ exec step (probe 10) suspendedRun, (s.log.map Write.epoch = [1,0] ∧ s.zeroings = 3) ∧ Safe s := by
  have hok : Along step Followed (probe 10) suspendedRun := by decide +kernel
  have hrun : (exec step (probe 10) suspendedRun).any
      (fun s => s.log.map Write.epoch = [1,0] ∧ s.zeroings = 3) = true := by decide +kernel
  cases hs : exec step (probe 10) suspendedRun with
  | none => simp [hs] at hrun
  | some s => exact ⟨s,rfl,by simpa [hs] using hrun,credits_reserved 10 _ s hok hs⟩

/-- The aggregate leaves its credit loop because of the suspend, whose handshake then
fails, and is written without credits. -/
def unwoundRun : List Action :=
  firstBoot ++ txRun 3 ++ ([.suspend {psOn := {ok := false}},.run .pm] : List Action) ++ txRun 1 ++ pmRun 2 ++ txRun 5

theorem credits_unreserved_after_unwind :
    ∃ s ∈ exec step (probe 10) unwoundRun, ¬Safe s := by
  have hrun : (exec step (probe 10) unwoundRun).any
      (fun s => s.log.any (fun w => w.held == none)) = true := by decide +kernel
  cases hs : exec step (probe 10) unwoundRun with
  | none => simp [hs] at hrun
  | some s =>
    refine ⟨s,rfl,fun hsafe => ?_⟩
    simp only [hs,Option.any_some,List.any_eq_true,beq_iff_eq] at hrun
    obtain ⟨w,hw,hn⟩ := hrun
    obtain ⟨⟨r,hr,-⟩,-⟩ := hsafe.good w hw
    rw [hn] at hr
    cases hr

end EspHosted.SdioCredits
