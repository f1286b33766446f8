import EspHosted.Wire
import EspHosted.Lib.Run

/-!
Firmware side of the SPI data-ready line, `main/spi_slave_api.c`. Writers and the
transaction task share the three TX queues and the GPIO without a lock; a step is
one queue or GPIO operation.
-/

set_option autoImplicit false

namespace EspHosted.SpiSlave
open EspHosted Run

inductive Prio where
  | high
  | mid
  | low
  deriving DecidableEq, Repr

structure TxItem where
  ifType : Nat
  /-- `none` is a null payload pointer. -/
  payload : Option Bytes
  rawTpRunId : Nat := 0
  deriving DecidableEq, Repr

def prioOf (ifType : Nat) : Prio :=
  if ifType = ESP_INTERNAL_IF then .high
  else if ifType = ESP_RCP_IF ∨ ifType = ESP_HCI_IF then .mid
  else .low

/-- Where `queue_next_transaction` stands. -/
inductive Pc where
  | idle
  | poll (p : Prio)
  | receive (p : Prio)
  | hasTx (f : TxItem)
  | armTx (f : TxItem)
  | checkEmpty (p : Prio)
  | clear
  | armDummy
  deriving DecidableEq, Repr

structure State where
  txQueue : Prio → List TxItem
  dataReady : Bool
  /-- Armed transaction: a real frame or the dummy header. -/
  armed : Option (Option TxItem)
  /-- Writers between their enqueue and their raise of the line. -/
  writers : List Nat
  pc : Pc

def State.init : State :=
  {txQueue := fun _ => [], dataReady := false, armed := none, writers := [], pc := .idle}

def State.setQueue (s : State) (p : Prio) (q : List TxItem) : State :=
  {s with txQueue := fun r => if r = p then q else s.txQueue r}

def State.allEmpty (s : State) : Bool :=
  (s.txQueue .high).isEmpty && (s.txQueue .mid).isEmpty && (s.txQueue .low).isEmpty

def afterPoll : Prio → Pc
  | .high => .poll .mid
  | .mid => .poll .low
  | .low => .checkEmpty .high

def afterEmpty : Prio → Pc
  | .high => .checkEmpty .mid
  | .mid => .checkEmpty .low
  | .low => .clear

/-- `get_next_tx_buffer` on the item it has received. -/
def received (f : TxItem) (runActive : Bool) : Pc :=
  match f.payload with
  | none => .checkEmpty .high
  | some _ => if f.ifType = ESP_TEST_IF ∧ runActive = false then .poll .high else .hasTx f

/-- One step of `queue_next_transaction`; `runActive` is what
`debug_raw_tp_is_run_active` answers if it is asked. -/
def queueNextTransaction (s : State) (runActive : Bool) : Option State :=
  match s.pc with
  | .idle => none
  | .poll p =>
    some {s with pc := if s.txQueue p = [] then afterPoll p else .receive p}
  | .receive p =>
    match s.txQueue p with
    | [] => some {s with pc := .checkEmpty .high}
    | f :: rest => some {s.setQueue p rest with pc := received f runActive}
  | .hasTx f => some {s with dataReady := true, pc := .armTx f}
  | .armTx f => some {s with armed := some (some f), pc := .idle}
  | .checkEmpty p =>
    some {s with pc := if s.txQueue p = [] then afterEmpty p else .armDummy}
  | .clear => some {s with dataReady := false, pc := .armDummy}
  | .armDummy => some {s with armed := some none, pc := .idle}

inductive Act where
  /-- `xQueueSend` of one `esp_spi_write` succeeds. -/
  | enqueue (w : Nat) (f : TxItem)
  /-- The same call raises the line. -/
  | raise (w : Nat)
  /-- The host has clocked the armed transaction. -/
  | complete
  /-- `queue_next_transaction` is called. -/
  | start
  | next (runActive : Bool)
  /-- `esp_restart`, from `queue_next_transaction` or after a reboot ACK. -/
  | restart
  deriving DecidableEq, Repr

/-- A full queue blocks its writer, a failing `esp_spi_write` changes nothing. -/
def step (queueSize : Nat) (s : State) : Act → Option State
  | .enqueue w f =>
    let q := s.txQueue (prioOf f.ifType)
    if w ∈ s.writers ∨ queueSize ≤ q.length then none
    else some {s.setQueue (prioOf f.ifType) (q ++ [f]) with writers := w :: s.writers}
  | .raise w =>
    if w ∈ s.writers then some {s with dataReady := true, writers := s.writers.erase w} else none
  | .complete =>
    if s.pc = .idle ∧ s.armed ≠ none then some {s with armed := none} else none
  | .start => if s.pc = .idle ∧ s.armed = none then some {s with pc := .poll .high} else none
  | .next runActive => queueNextTransaction s runActive
  | .restart => some State.init

/-- No writer and no `queue_next_transaction` is in the middle of its work. -/
def State.Quiescent (s : State) : Prop := s.pc = .idle ∧ s.writers = []

def State.armedFrame (s : State) : Option TxItem := s.armed.getD none

def State.HasData (s : State) : Prop := s.allEmpty = false ∨ s.armedFrame ≠ none

def State.ReadyIfData (s : State) : Prop := s.Quiescent → s.HasData → s.dataReady = true

instance (s : State) : Decidable s.Quiescent := inferInstanceAs (Decidable (_ ∧ _))
instance (s : State) : Decidable s.HasData := inferInstanceAs (Decidable (_ ∨ _))
instance (s : State) : Decidable s.ReadyIfData := inferInstanceAs (Decidable (_ → _ → _))

/-- The line is lowered only over empty queues or under a writer that will raise it. -/
def ClearSafe (s : State) (a : Act) : Prop :=
  match a, s.pc with
  | .next _, .clear => s.allEmpty = true ∨ s.writers ≠ []
  | _, _ => True

instance (s : State) (a : Act) : Decidable (ClearSafe s a) := by
  unfold ClearSafe
  split <;> infer_instance

structure Inv (s : State) : Prop where
  queued : s.allEmpty = false → s.dataReady = true ∨ s.writers ≠ []
  armedReal : s.armedFrame ≠ none → s.dataReady = true
  arming : ∀ f, s.pc = .armTx f → s.dataReady = true
  exclusive : s.pc ≠ .idle → s.armed = none

theorem Inv.init : Inv State.init where
  queued := by decide
  armedReal := fun hf => absurd rfl hf
  arming := by simp [State.init]
  exclusive := by simp [State.init]

theorem allEmpty_iff (s : State) : s.allEmpty = true ↔ ∀ p, s.txQueue p = [] := by
  simp only [State.allEmpty,Bool.and_eq_true,List.isEmpty_iff]
  constructor
  · rintro ⟨⟨hh,hm⟩,hl⟩ p
    cases p with
    | high => exact hh
    | mid => exact hm
    | low => exact hl
  · intro h
    exact ⟨⟨h .high,h .mid⟩,h .low⟩

theorem allEmpty_of_cons {s : State} {p : Prio} {f : TxItem} {rest : List TxItem}
    (hq : s.txQueue p = f :: rest) : s.allEmpty = false := by
  by_contra h
  have hp := (allEmpty_iff s).mp (by simpa using h) p
  simp [hq] at hp

theorem received_ne_armTx (f g : TxItem) (runActive : Bool) : received f runActive ≠ .armTx g := by
  unfold received
  split
  · simp
  · split <;> simp

theorem afterPoll_ne_armTx (p : Prio) (f : TxItem) : afterPoll p ≠ .armTx f := by
  cases p <;> simp [afterPoll]

theorem afterEmpty_ne_armTx (p : Prio) (f : TxItem) : afterEmpty p ≠ .armTx f := by
  cases p <;> simp [afterEmpty]

/-- Moving the program counter alone keeps the invariant unless it claims a frame. -/
theorem Inv.movePc {s : State} (h : Inv s) (hp : s.pc ≠ .idle) {pc : Pc}
    (hpc : ∀ f, pc ≠ .armTx f) : Inv {s with pc := pc} where
  queued := h.queued
  armedReal := h.armedReal
  arming := fun f hf => absurd hf (hpc f)
  exclusive := fun _ => h.exclusive hp

theorem Inv.queueNextTransaction {s s' : State} {runActive : Bool} (h : Inv s)
    (hsafe : s.pc = .clear → s.allEmpty = true ∨ s.writers ≠ [])
    (hs : queueNextTransaction s runActive = some s') : Inv s' := by
  cases hpc : s.pc with
  | idle => simp [SpiSlave.queueNextTransaction,hpc] at hs
  | poll p =>
    simp only [SpiSlave.queueNextTransaction,hpc,Option.some.injEq] at hs
    subst hs
    refine h.movePc (by simp [hpc]) (fun f => ?_)
    split
    · exact afterPoll_ne_armTx p f
    · simp
  | receive p =>
    cases hq : s.txQueue p with
    | nil =>
      simp only [SpiSlave.queueNextTransaction,hpc,hq,Option.some.injEq] at hs
      subst hs
      exact h.movePc (by simp [hpc]) (by simp)
    | cons f rest =>
      simp only [SpiSlave.queueNextTransaction,hpc,hq,Option.some.injEq] at hs
      subst hs
      exact {
        queued := fun _ => h.queued (allEmpty_of_cons hq)
        armedReal := h.armedReal
        arming := fun g hg => absurd hg (received_ne_armTx f g runActive)
        exclusive := fun _ => h.exclusive (by simp [hpc]) }
  | hasTx f =>
    simp only [SpiSlave.queueNextTransaction,hpc,Option.some.injEq] at hs
    subst hs
    exact {
      queued := fun _ => .inl rfl
      armedReal := fun _ => rfl
      arming := fun _ _ => rfl
      exclusive := fun _ => h.exclusive (by simp [hpc]) }
  | armTx f =>
    simp only [SpiSlave.queueNextTransaction,hpc,Option.some.injEq] at hs
    subst hs
    exact {
      queued := h.queued
      armedReal := fun _ => h.arming f hpc
      arming := fun _ hg => by cases hg
      exclusive := fun hi => absurd rfl hi }
  | checkEmpty p =>
    simp only [SpiSlave.queueNextTransaction,hpc,Option.some.injEq] at hs
    subst hs
    refine h.movePc (by simp [hpc]) (fun f => ?_)
    split
    · exact afterEmpty_ne_armTx p f
    · simp
  | clear =>
    simp only [SpiSlave.queueNextTransaction,hpc,Option.some.injEq] at hs
    subst hs
    have hnone := h.exclusive (by simp [hpc])
    refine {
      queued := fun he => ?_
      armedReal := fun hf => absurd (by simp [State.armedFrame,hnone]) hf
      arming := fun _ hg => by cases hg
      exclusive := fun _ => hnone }
    rcases hsafe hpc with ha | hw
    · exact absurd (he.symm.trans ha) (by simp)
    · exact .inr hw
  | armDummy =>
    simp only [SpiSlave.queueNextTransaction,hpc,Option.some.injEq] at hs
    subst hs
    exact {
      queued := h.queued
      armedReal := fun hf => absurd rfl hf
      arming := fun _ hg => by cases hg
      exclusive := fun hi => absurd rfl hi }

theorem Inv.step {queueSize : Nat} {s s' : State} {a : Act} (h : Inv s) (hsafe : ClearSafe s a)
    (hs : SpiSlave.step queueSize s a = some s') : Inv s' := by
  cases a with
  | enqueue w f =>
    simp only [SpiSlave.step] at hs
    split at hs
    · cases hs
    · cases hs
      exact {
        queued := fun _ => .inr (by simp)
        armedReal := h.armedReal
        arming := h.arming
        exclusive := h.exclusive }
  | raise w =>
    simp only [SpiSlave.step] at hs
    split at hs
    · cases hs
      exact {
        queued := fun _ => .inl rfl
        armedReal := fun _ => rfl
        arming := fun _ _ => rfl
        exclusive := h.exclusive }
    · cases hs
  | complete =>
    simp only [SpiSlave.step] at hs
    split at hs
    · cases hs
      exact {
        queued := h.queued
        armedReal := fun hf => absurd rfl hf
        arming := h.arming
        exclusive := fun _ => rfl }
    · cases hs
  | start =>
    simp only [SpiSlave.step] at hs
    split at hs
    · rename_i hi
      cases hs
      exact {
        queued := h.queued
        armedReal := h.armedReal
        arming := fun _ hg => by cases hg
        exclusive := fun _ => hi.2 }
    · cases hs
  | next runActive =>
    refine h.queueNextTransaction (fun hpc => ?_) hs
    simpa [ClearSafe,hpc] using hsafe
  | restart =>
    simp only [SpiSlave.step,Option.some.injEq] at hs
    subst hs
    exact Inv.init

theorem Inv.readyIfData {s : State} (h : Inv s) : s.ReadyIfData := by
  rintro ⟨_,hw⟩ (he | hf)
  · exact (h.queued he).resolve_right (by simp [hw])
  · exact h.armedReal hf

/-- Data-ready is never lost in a run that never lowers it over a frame whose
writer has already raised it. -/
theorem data_ready_never_lost (queueSize : Nat) (as : List Act) (s : State)
    (hrun : exec (step queueSize) State.init as = some s)
    (hsafe : Along (step queueSize) ClearSafe State.init as) : s.ReadyIfData :=
  (exec_invariant_along (fun _ _ _ => Inv.step) hsafe Inv.init hrun).readyIfData

def bootFrame : TxItem := {ifType := ESP_INTERNAL_IF, payload := some [1]}
def wifiFrame : TxItem := {ifType := ESP_STA_IF, payload := some [2]}

/-- The boot event goes out, the task finds all queues empty and is about to clear. -/
def upToClear : List Act :=
  [.enqueue 0 bootFrame,.raise 0,.start,.next true,.next true,.next true,.next true,.complete,
   .start,.next true,.next true,.next true,.next true,.next true,.next true]

/-- The task clears the line before the writer raises it. -/
def lateRaise : List Act := upToClear ++ [.enqueue 1 wifiFrame,.next true,.raise 1,.next true]

theorem data_ready_never_lost_late_raise :
    (∃ s ∈ exec (step 4) State.init lateRaise, s.Quiescent ∧ s.txQueue .low = [wifiFrame]) ∧
      ∀ s ∈ exec (step 4) State.init lateRaise, s.ReadyIfData :=
  ⟨by decide,fun s hs => data_ready_never_lost 4 lateRaise s hs (by decide)⟩

/-- The writer finishes between the last emptiness check and the clear. -/
theorem data_ready_lost_by_clear :
    ∃ s ∈ exec (step 4) State.init
        (upToClear ++ [.enqueue 1 wifiFrame,.raise 1,.next true,.next true]),
      s.Quiescent ∧ s.HasData ∧ ¬s.ReadyIfData := by
  decide

end EspHosted.SpiSlave
