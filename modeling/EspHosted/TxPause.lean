import EspHosted.Lib.Run
import Mathlib.Logic.Function.Basic
import Mathlib.Data.List.Basic

/-!
The transmit queues of the SDIO and SPI backends and the netdev queues they stop,
`host/sdio/esp_sdio.c`, `host/spi/esp_spi.c` and `esp_tx_pause` of `host/main.c`. A step is
what one thread does under a queue lock or with one atomic counter. The oversize check and
the raw throughput producer are left out.
-/

set_option autoImplicit false

namespace EspHosted.TxPause
open EspHosted Run

inductive Backend where
  | sdio
  | spi
  deriving DecidableEq, Repr

def Backend.TX_MAX_PENDING_COUNT : Backend → Nat
  | .sdio => 1000
  | .spi => 100

def Backend.TX_RESUME_THRESHOLD (b : Backend) : Nat := b.TX_MAX_PENDING_COUNT/5

inductive Iface where
  | sta
  | ap
  deriving DecidableEq, Repr

inductive IfType where
  | wlan (i : Iface)
  | internal
  | hci
  | rcp
  | test
  deriving DecidableEq, Repr

structure Frame where
  ifType : IfType
  /-- `cb->priv` is set: the frame came through `ndo_start_xmit`. -/
  priv : Bool
  /-- `tx_process` drops the frame for its length or offset. -/
  malformed : Bool := false
  deriving DecidableEq, Repr

def Frame.owner (f : Frame) : Option Iface :=
  match f.ifType with
  | .wlan i => if f.priv then some i else none
  | _ => none

inductive Prio where
  | high
  | mid
  | low
  deriving DecidableEq, Repr

def Frame.prio (f : Frame) : Prio :=
  match f.ifType with
  | .internal => .high
  | .hci => .mid
  | .rcp => .mid
  | _ => .low

/-- `write_packet` of a frame of the interface, after its first look at `tx_pending`. -/
inductive WriterPc where
  | idle
  | pausing
  | passed (f : Frame)
  deriving DecidableEq, Repr

/-- `tx_process` or `esp_spi_work`. -/
inductive ConsumerPc where
  | idle
  /-- It has dequeued a malformed frame. -/
  | dropping
  | popped (f : Frame)
  /-- `tx_pending` is counted down. -/
  | counted (f : Frame)
  deriving DecidableEq, Repr

structure State where
  /-- The lifecycle tests of `write_packet` pass. -/
  accepting : Bool := true
  q : Prio → List Frame := fun _ => []
  pending : Nat := 0
  stopped : Iface → Bool := fun _ => false
  writer : Iface → WriterPc := fun _ => .idle
  consumer : ConsumerPc := .idle
  /-- Frames that a purge has taken and not yet counted. -/
  purging : Nat := 0

inductive Action where
  | setAccepting (b : Bool)
  /-- `esp_hard_start_xmit` of an interface; its transmit lock admits one at a time. -/
  | xmit (i : Iface) (f : Frame)
  | pause (i : Iface)
  | publish (i : Iface)
  /-- `write_packet` of any other frame. -/
  | post (f : Frame)
  | dequeue (p : Prio)
  | consume
  /-- One turn of the loop in `sdio_purge_tx_queues` or `esp_spi_purge_queues`, and its look at `tx_pending`. -/
  | purge (p : Prio)
  | purgeCount
  /-- `atomic_set(&tx_pending, 0)` -/
  | clearPending
  /-- `flush_if_traffic` on one queue, for HCI or RCP. -/
  | flush (hci : Bool) (p : Prio)
  deriving DecidableEq, Repr

def State.enqueue (s : State) (f : Frame) : State :=
  if s.accepting then
    {s with pending := s.pending+1, q := Function.update s.q f.prio (s.q f.prio ++ [f])}
  else s

def State.pop (s : State) (p : Prio) : State := {s with q := Function.update s.q p (s.q p).tail}

def Backend.drops (b : Backend) (f : Frame) : Bool := b = .sdio && f.malformed

def consume (b : Backend) (s : State) : Option State :=
  match s.consumer with
  | .idle => none
  | .dropping => some {s with pending := s.pending-1, consumer := .idle}
  | .popped f => some {s with pending := s.pending-1, consumer := .counted f}
  | .counted f =>
    match f.owner with
    | some i =>
      if s.pending < b.TX_RESUME_THRESHOLD then
        some {s with stopped := Function.update s.stopped i false, consumer := .idle}
      else some {s with consumer := .idle}
    | none => some {s with consumer := .idle}

def step (b : Backend) (s : State) : Action → Option State
  | .setAccepting v => some {s with accepting := v}
  | .xmit i f =>
    if s.writer i = .idle ∧ s.stopped i = false ∧ f.owner = some i then
      if s.accepting = false then some s
      else if b.TX_MAX_PENDING_COUNT ≤ s.pending then
        some {s with writer := Function.update s.writer i .pausing}
      else some {s with writer := Function.update s.writer i (.passed f)}
    else none
  | .pause i =>
    if s.writer i = .pausing then
      some {s with stopped := Function.update s.stopped i true, writer := Function.update s.writer i .idle}
    else none
  | .publish i =>
    match s.writer i with
    | .passed f => some (State.enqueue {s with writer := Function.update s.writer i .idle} f)
    | _ => none
  | .post f => if f.owner = none then some (s.enqueue f) else none
  | .dequeue p =>
    match s.consumer,s.q p with
    | .idle,f :: _ => some {s.pop p with consumer := if b.drops f then .dropping else .popped f}
    | _,_ => none
  | .consume => consume b s
  | .purge p =>
    match s.q p with
    | _ :: _ => some {s.pop p with purging := s.purging+1}
    | [] => none
  | .purgeCount => if s.purging = 0 then none else some {s with pending := s.pending-1, purging := s.purging-1}
  | .clearPending => some {s with pending := 0}
  | .flush hci p =>
    let keep := (s.q p).filter fun f => f.ifType ≠ if hci then .hci else .rcp
    some {s with q := Function.update s.q p keep, pending := s.pending-((s.q p).length-keep.length)}

/-- A frame of the interface is in one of the queues. -/
def State.queued (s : State) (i : Iface) : Bool :=
  (s.q .high ++ s.q .mid ++ s.q .low).any fun f => f.owner = some i

/-- The consumer has a frame of the interface and its look at `tx_pending` still ahead. -/
def State.held (s : State) (i : Iface) : Bool :=
  match s.consumer with
  | .popped f => f.owner = some i
  | .counted f => f.owner = some i
  | _ => false

/-- No write is half way and no frame is in the consumer's hands. -/
def State.Quiet (s : State) : Prop := s.consumer = .idle ∧ s.writer .sta = .idle ∧ s.writer .ap = .idle

instance (s : State) : Decidable s.Quiet := inferInstanceAs (Decidable (_ ∧ _ ∧ _))

theorem queued_iff {s : State} {i : Iface} : s.queued i = true ↔ ∃ p, ∃ f ∈ s.q p, f.owner = some i := by
  simp only [State.queued,List.any_eq_true,List.mem_append,decide_eq_true_eq]
  constructor
  · rintro ⟨f,(hf | hf) | hf,ho⟩
    · exact ⟨.high,f,hf,ho⟩
    · exact ⟨.mid,f,hf,ho⟩
    · exact ⟨.low,f,hf,ho⟩
  · rintro ⟨p,f,hf,ho⟩
    cases p with
    | high => exact ⟨f,.inl (.inl hf),ho⟩
    | mid => exact ⟨f,.inl (.inr hf),ho⟩
    | low => exact ⟨f,.inr hf,ho⟩

/-- The steps after which a stopped interface may be left without a frame: a pause, a drop, a
purge, and a dequeue that finds `tx_pending` too high to resume. Each needs another frame. -/
def keepsWaker (b : Backend) (s : State) : Action → Bool
  | .pause i => s.queued i || s.held i
  | .dequeue p =>
    match s.q p with
    | f :: _ => !b.drops f || f.owner.all fun i => !s.stopped i || (s.pop p).queued i
    | [] => true
  | .purge p =>
    match s.q p with
    | f :: _ => f.owner.all fun i => !s.stopped i || (s.pop p).queued i || s.held i
    | [] => true
  | .consume =>
    match s.consumer with
    | .counted f => f.owner.all fun i => !s.stopped i || s.pending < b.TX_RESUME_THRESHOLD || s.queued i
    | _ => true
  | _ => true

def KeepsWaker (b : Backend) (s : State) (a : Action) : Prop := keepsWaker b s a = true

instance (b : Backend) (s : State) (a : Action) : Decidable (KeepsWaker b s a) :=
  inferInstanceAs (Decidable (keepsWaker b s a = true))

/-- Whatever is stopped has something to wake it. -/
def Inv (s : State) : Prop := ∀ i, s.stopped i = true → s.queued i = true ∨ s.held i = true

theorem queued_enqueue {s : State} {i : Iface} (f : Frame) (h : s.queued i = true) : (s.enqueue f).queued i = true := by
  obtain ⟨p,g,hg,ho⟩ := queued_iff.mp h
  unfold State.enqueue
  split
  · refine queued_iff.mpr ⟨p,g,?_,ho⟩
    by_cases hp : p = f.prio
    · subst hp
      simp [hg]
    · simpa [Function.update_of_ne hp] using hg
  · exact h

theorem queued_pop {s : State} {i : Iface} {p : Prio} {f : Frame} {rest : List Frame} (hq : s.q p = f :: rest)
    (h : s.queued i = true) : (s.pop p).queued i = true ∨ f.owner = some i := by
  obtain ⟨r,g,hg,ho⟩ := queued_iff.mp h
  by_cases hr : r = p
  · subst hr
    rw [hq] at hg
    rcases List.mem_cons.mp hg with rfl | hg
    · exact .inr ho
    · exact .inl (queued_iff.mpr ⟨r,g,by simpa [State.pop,hq] using hg,ho⟩)
  · exact .inl (queued_iff.mpr ⟨r,g,by simpa [State.pop,Function.update_of_ne hr] using hg,ho⟩)

theorem Inv.mono {s s' : State} (h : Inv s) (hstop : ∀ i, s'.stopped i = true → s.stopped i = true)
    (hq : ∀ i, s.queued i = true → s'.queued i = true) (hc : s'.consumer = s.consumer) : Inv s' := by
  intro i hi
  refine (h i (hstop i hi)).imp (hq i) fun hx => ?_
  simpa [State.held,hc] using hx

theorem Inv.enqueue {s : State} (h : Inv s) (f : Frame) : Inv (s.enqueue f) := by
  refine h.mono (fun i hi => ?_) (fun i hi => queued_enqueue f hi) ?_
  · unfold State.enqueue at hi
    split at hi <;> exact hi
  · unfold State.enqueue
    split <;> rfl

theorem Inv.consume {b : Backend} {s s' : State} (h : Inv s) (hok : KeepsWaker b s .consume) (hs : consume b s = some s') :
    Inv s' := by
  simp only [TxPause.consume] at hs
  split at hs
  · cases hs
  · rename_i hc
    obtain rfl := Option.some.inj hs
    intro i hi
    refine .inl ((h i hi).resolve_right ?_)
    simp [State.held,hc]
  · rename_i f hc
    obtain rfl := Option.some.inj hs
    intro i hi
    refine (h i hi).imp_right fun hx => ?_
    simpa [State.held,hc] using hx
  · rename_i f hc
    simp only [KeepsWaker,keepsWaker,hc] at hok
    have hkeep : ∀ i, s.stopped i = true → (f.owner = some i → s.queued i = true) → s.queued i = true := by
      intro i hi hx
      rcases h i hi with hy | hy
      · exact hy
      · exact hx (by simpa [State.held,hc] using hy)
    split at hs
    · rename_i j hj
      simp only [hj,Option.all_some,Bool.or_eq_true,Bool.not_eq_true',decide_eq_true_eq] at hok
      split at hs
      · obtain rfl := Option.some.inj hs
        intro i hi
        have hij : i ≠ j := by
          rintro rfl
          simp at hi
        have hi' : s.stopped i = true := by simpa [Function.update_of_ne hij] using hi
        refine .inl (hkeep i hi' fun hx => ?_)
        rw [hj] at hx
        exact absurd (Option.some.inj hx).symm hij
      · rename_i hlow
        obtain rfl := Option.some.inj hs
        intro i hi
        have hi' : s.stopped i = true := hi
        refine .inl (hkeep i hi fun hx => ?_)
        obtain rfl : j = i := Option.some.inj (hj.symm.trans hx)
        rcases hok with (hy | hy) | hy
        · simp [hi'] at hy
        · exact absurd hy hlow
        · exact hy
    · rename_i hj
      obtain rfl := Option.some.inj hs
      intro i hi
      exact .inl (hkeep i hi fun hx => by simp [hj] at hx)

theorem step_inv {b : Backend} {s s' : State} {a : Action} (h : Inv s) (hok : KeepsWaker b s a) (hs : step b s a = some s') :
    Inv s' := by
  cases a with
  | setAccepting v => exact Option.some.inj hs ▸ h.mono (fun _ => id) (fun _ => id) rfl
  | xmit i f =>
    simp only [step] at hs
    split_ifs at hs
    all_goals exact Option.some.inj hs ▸ h.mono (fun _ => id) (fun _ => id) rfl
  | pause i =>
    simp only [step] at hs
    split_ifs at hs
    obtain rfl := Option.some.inj hs
    intro j hj
    by_cases hij : j = i
    · subst hij
      have hx : s.queued j = true ∨ s.held j = true := by simpa [KeepsWaker,keepsWaker] using hok
      exact hx
    · exact h j (by simpa [Function.update_of_ne hij] using hj)
  | publish i =>
    simp only [step] at hs
    split at hs
    · rename_i f hw
      have hi : Inv {s with writer := Function.update s.writer i .idle} := h.mono (fun _ => id) (fun _ => id) rfl
      exact Option.some.inj hs ▸ hi.enqueue f
    · cases hs
  | post f =>
    simp only [step] at hs
    split_ifs at hs
    exact Option.some.inj hs ▸ h.enqueue f
  | dequeue p =>
    simp only [step] at hs
    split at hs
    · rename_i f rest hc hq
      obtain rfl := Option.some.inj hs
      intro i hi
      have hi' : s.stopped i = true := hi
      have hqueued := (h i hi').resolve_right (by simp [State.held,hc])
      rcases queued_pop hq hqueued with hx | hx
      · exact .inl hx
      · cases hd : b.drops f with
        | false => exact .inr (by simp [State.held,hx])
        | true =>
          have hy : (s.pop p).queued i = true := by simpa [KeepsWaker,keepsWaker,hq,hd,hx,hi'] using hok
          exact .inl hy
    · cases hs
  | consume => exact h.consume hok hs
  | purge p =>
    simp only [step] at hs
    split at hs
    · rename_i f rest hq
      obtain rfl := Option.some.inj hs
      intro i hi
      have hi' : s.stopped i = true := hi
      rcases h i hi' with hx | hx
      · rcases queued_pop hq hx with hy | hy
        · exact .inl hy
        · have hz : (s.pop p).queued i = true ∨ s.held i = true := by
            simpa [KeepsWaker,keepsWaker,hq,hy,hi'] using hok
          exact hz
      · exact .inr hx
    · cases hs
  | purgeCount =>
    simp only [step] at hs
    split_ifs at hs
    exact Option.some.inj hs ▸ h.mono (fun _ => id) (fun _ => id) rfl
  | clearPending => exact Option.some.inj hs ▸ h.mono (fun _ => id) (fun _ => id) rfl
  | flush hci p =>
    obtain rfl := Option.some.inj hs
    refine h.mono (fun _ => id) (fun i hi => ?_) rfl
    -- a frame with an owner is neither HCI nor RCP
    obtain ⟨r,f,hf,ho⟩ := queued_iff.mp hi
    refine queued_iff.mpr ⟨r,f,?_,ho⟩
    by_cases hr : r = p
    · subst hr
      have hne : f.ifType ≠ if hci then .hci else .rcp := by
        intro hx
        cases hci <;> simp [Frame.owner,hx] at ho
      simp [hf,hne]
    · simpa [Function.update_of_ne hr] using hf

theorem stopped_queue_has_waker {b : Backend} {as : List Action} {s : State} (h : exec (step b) {} as = some s)
    (hok : Along (step b) (KeepsWaker b) {} as) (hq : s.Quiet) (i : Iface) (hi : s.stopped i = true) :
    ∃ p, ∃ f ∈ s.q p, f.owner = some i := by
  have hinv : Inv s :=
    exec_invariant_along (fun _ _ _ hi hok hs => step_inv hi hok hs) hok (fun i hi => by simp at hi) h
  refine queued_iff.mp ((hinv i hi).resolve_right ?_)
  simp [State.held,hq.1]

def staFrame : Frame := {ifType := .wlan .sta, priv := true}

def fullRun : List Action :=
  ((List.replicate 100 [.xmit .sta staFrame,.publish .sta]).flatten : List Action) ++
    ([.xmit .sta staFrame,.pause .sta,.dequeue .low,.consume,.consume] : List Action)

theorem stopped_queue_has_waker_full :
    ∃ s ∈ exec (step .spi) {} fullRun, s.Quiet ∧ s.stopped .sta = true ∧ ∃ p, ∃ f ∈ s.q p, f.owner = some .sta := by
  have h : ∃ s ∈ exec (step .spi) {} fullRun, s.Quiet ∧ s.stopped .sta = true := by decide +kernel
  have hok : Along (step .spi) (KeepsWaker .spi) {} fullRun := by decide +kernel
  obtain ⟨s,hs,hq,hi⟩ := h
  exact ⟨s,hs,hq,hi,stopped_queue_has_waker hs hok hq .sta hi⟩

/-- Another service fills the queue, so the first station frame stops the station. -/
def crowdedRun : List Action :=
  (List.replicate 100 (.post {ifType := .rcp, priv := false}) : List Action) ++
    ([.xmit .sta staFrame,.pause .sta] : List Action)

theorem stopped_queue_without_waker :
    ∃ s ∈ exec (step .spi) {} crowdedRun, s.Quiet ∧ s.stopped .sta = true ∧ ¬∃ p, ∃ f ∈ s.q p, f.owner = some .sta := by
  have h : ∃ s ∈ exec (step .spi) {} crowdedRun, s.Quiet ∧ s.stopped .sta = true ∧ s.queued .sta = false := by
    decide +kernel
  obtain ⟨s,hs,hq,hi,hn⟩ := h
  refine ⟨s,hs,hq,hi,fun hx => ?_⟩
  rw [queued_iff.mpr hx] at hn
  cases hn

end EspHosted.TxPause
