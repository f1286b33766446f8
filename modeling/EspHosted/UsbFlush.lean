import Mathlib.Data.List.Perm.Basic
import EspHosted.Lib.Run
import EspHosted.Wire

/-!
TX side of the USB transport, `usb/esp_usb.c`: writers, the TX worker, URB completions,
the stateful flush and quiescing. A step is one critical section of `tx_state_lock`, one
operation on an skb queue or one atomic operation. `cancel_work_sync` and
`usb_kill_anchored_urbs` return when what they wait for is over. The context is running:
disconnecting is not part of it.
-/

set_option autoImplicit false

namespace EspHosted.UsbFlush
open EspHosted Run

def ESP_USB_TX_URBS : Nat := 4
def ESP_USB_TX_QUEUE_MAX : Nat := 256

structure Skb where
  /-- Skbs are numbered in the order in which `esp_usb_write` accepts them. -/
  id : Nat
  ifType : Nat
  deriving DecidableEq, Repr

def Skb.stateful (b : Skb) : Bool := decide (b.ifType = ESP_RCP_IF ∨ b.ifType = ESP_HCI_IF)

inductive Prio where
  | high
  | mid
  | low
  deriving DecidableEq, Repr

def txPriority (ifType : Nat) : Prio :=
  if ifType = ESP_INTERNAL_IF then .high
  else if ifType = ESP_HCI_IF ∨ ifType = ESP_RCP_IF then .mid
  else .low

/-- The state bits that keep a stateful failure from being scheduled. -/
structure Flags where
  recoveryPending : Bool := false
  resetExpected : Bool := false
  cleanup : Bool := false
  removing : Bool := false
  deriving DecidableEq, Repr

def Flags.any (f : Flags) : Bool := f.recoveryPending || f.resetExpected || f.cleanup || f.removing

/-- `esp_usb_schedule_stateful_fail`, when it is called. -/
inductive Fail where
  | notAsked
  | refused (f : Flags)
  | scheduled
  deriving DecidableEq, Repr

inductive SubmitErr where
  /-- `-ENODEV` and `-ESHUTDOWN` -/
  | gone
  | other
  deriving DecidableEq, Repr

inductive Cause where
  | flushed (ifType : Nat)
  | purged
  | submitFailed (e : SubmitErr)
  /-- The URB failed while the transport was up. -/
  | urbFailed (f : Fail)
  | quiesced
  deriving DecidableEq, Repr

inductive Ev where
  | dropped (b : Skb) (c : Cause)
  /-- End of the second critical section, with the queues of the first and of this one. -/
  | flushed (ifType mark : Nat) (before after : Prio → List Skb)
  /-- `outstanding`: a frame of the type was neither queued nor completed at the boundary. -/
  | returned (ifType : Nat) (outstanding : Bool) (f : Fail)

/-- `esp_usb_tx_work` -/
inductive WorkPc where
  | idle
  | loop
  | taken (b : Skb)
  | anchored (b : Skb)
  | failed (b : Skb) (e : SubmitErr)
  | uncounted (b : Skb) (e : SubmitErr)
  deriving DecidableEq, Repr

/-- `esp_usb_tx_complete` -/
inductive UrbPc where
  | submitted
  | completed (failed : Bool)
  | checked
  | uncounted
  | finished
  deriving DecidableEq, Repr

structure Urb where
  skb : Skb
  pc : UrbPc := .submitted
  deriving DecidableEq, Repr

/-- `esp_usb_flush_if_traffic` under `tx_flush_lock` -/
inductive FlushPc where
  | begun
  | cancelled
  | scan (q : Prio) (keep : List Skb)
  | restore (q : Prio) (keep : List Skb)
  | finish
  deriving DecidableEq, Repr

structure Flush where
  ifType : Nat
  inflight : Bool
  outstanding : Bool
  before : Prio → List Skb
  pc : FlushPc := .begun

/-- `esp_usb_quiesce_for_fw_reset` -/
inductive QuiescePc where
  | idle
  | flagged
  | purging (qs : List Prio)
  | killing
  | zeroing
  deriving DecidableEq, Repr

structure State where
  queue : Prio → List Skb := fun _ => []
  txQuiesced : Bool := false
  flushInProgress : Bool := false
  flushIfType : Nat := ESP_MAX_IF
  txInflight : Int := 0
  rcpTxInflight : Int := 0
  hciTxInflight : Int := 0
  workPending : Bool := false
  work : WorkPc := .idle
  urbs : List Urb := []
  flush : Option Flush := none
  /-- Flushes that have released `tx_flush_lock`. -/
  leaving : List (Nat × Bool × Bool) := []
  quiesce : QuiescePc := .idle
  flags : Flags := {}
  accepted : Nat := 0
  log : List Ev := []

def State.setQueue (s : State) (p : Prio) (l : List Skb) : State :=
  {s with queue := fun q => if q = p then l else s.queue q}

/-- The atomic counter of a stateful type moves with its frames. -/
def State.count (s : State) (b : Skb) (d : Int) : State :=
  {s with
    rcpTxInflight := s.rcpTxInflight+(if b.ifType = ESP_RCP_IF then d else 0)
    hciTxInflight := s.hciTxInflight+(if b.ifType = ESP_HCI_IF then d else 0)}

def State.typeInflight (s : State) (ifType : Nat) : Bool :=
  if ifType = ESP_RCP_IF then decide (s.rcpTxInflight ≠ 0)
  else if ifType = ESP_HCI_IF then decide (s.hciTxInflight ≠ 0)
  else false

def State.statefulFail (s : State) : Fail := if s.flags.any then .refused s.flags else .scheduled

/-- Dequeued, and its counter not yet taken back. -/
def WorkPc.counted : WorkPc → List Skb
  | .taken b => [b]
  | .anchored b => [b]
  | .failed b _ => [b]
  | _ => []

def Urb.counted (u : Urb) : Bool :=
  match u.pc with
  | .submitted => true
  | .completed _ => true
  | .checked => true
  | _ => false

/-- The frames that have left the queues and are not completed. -/
def State.outstanding (s : State) : List Skb :=
  s.work.counted ++ (s.urbs.filter Urb.counted).map (·.skb)

/-- The second critical section of a flush holds `tx_state_lock`. -/
def State.locked (s : State) : Bool :=
  match s.flush with
  | none => false
  | some f =>
    match f.pc with
    | .begun => false
    | .cancelled => false
    | _ => true

/-- `esp_usb_write` from the lock on -/
def State.write (s : State) (ifType : Nat) : State :=
  if s.txQuiesced then s
  else if s.flushInProgress ∧ s.flushIfType = ifType then s
  else if ESP_USB_TX_QUEUE_MAX ≤ (s.queue .high).length+(s.queue .mid).length+(s.queue .low).length then s
  else
    {s.setQueue (txPriority ifType) (s.queue (txPriority ifType) ++ [⟨s.accepted,ifType⟩]) with
      accepted := s.accepted+1
      workPending := s.workPending || !s.flushInProgress}

/-- `esp_usb_dequeue_tx` -/
def State.dequeue (s : State) : Option (Skb × State) :=
  match s.queue .high with
  | b :: rest => some (b,s.setQueue .high rest)
  | [] =>
    match s.queue .mid with
    | b :: rest => some (b,s.setQueue .mid rest)
    | [] =>
      match s.queue .low with
      | b :: rest => some (b,s.setQueue .low rest)
      | [] => none

/-- What the allocator and the USB core answer to `esp_usb_submit_tx`. -/
structure SubmitIo where
  alloc : Bool := true
  err : Option SubmitErr := none

def State.txWork (s : State) (io : SubmitIo) : Option State :=
  match s.work with
  | .idle => if s.workPending then some {s with workPending := false, work := .loop} else none
  | .loop =>
    if s.locked then none
    else if s.txQuiesced || s.flushInProgress || decide ((ESP_USB_TX_URBS : Int) ≤ s.txInflight) then
      some {s with work := .idle}
    else
      match s.dequeue with
      | none => some {s with work := .idle}
      | some (b,s') => some {s'.count b 1 with work := .taken b}
  | .taken b =>
    if io.alloc then some {s with txInflight := s.txInflight+1, work := .anchored b}
    else some {s with work := .failed b .other}
  | .anchored b =>
    match io.err with
    | none => some {s with urbs := s.urbs ++ [{skb := b}], work := .loop}
    | some e => some {s with txInflight := s.txInflight-1, work := .failed b e}
  | .failed b e => some {s.count b (-1) with work := .uncounted b e}
  | .uncounted b e =>
    -- esp_schedule_transport_recovery
    some {s with
      work := .idle
      flags := if e = .other ∧ s.flags.removing = false then {s.flags with recoveryPending := true} else s.flags
      log := .dropped b (.submitFailed e) :: s.log}

def State.setUrb (s : State) (i : Nat) (u : Urb) : State := {s with urbs := s.urbs.set i u}

def State.txComplete (s : State) (i : Nat) : Option State :=
  match s.urbs[i]? with
  | none => none
  | some u =>
    match u.pc with
    | .submitted => none
    | .completed failed =>
      let s' := s.setUrb i {u with pc := .checked}
      if failed then
        if s.txQuiesced then some {s' with log := .dropped u.skb .quiesced :: s.log}
        else
          some {s' with
            log := .dropped u.skb (.urbFailed (if u.skb.stateful then s.statefulFail else .notAsked)) :: s.log}
      else some s'
    | .checked => some ((s.setUrb i {u with pc := .uncounted}).count u.skb (-1))
    | .uncounted => some {s.setUrb i {u with pc := .finished} with txInflight := s.txInflight-1}
    | .finished =>
      if s.locked then none
      else
        some {s with
          urbs := s.urbs.eraseIdx i
          workPending := s.workPending || (!s.txQuiesced && !s.flushInProgress)}

def State.hasOutstanding (s : State) (ifType : Nat) : Bool := s.outstanding.any (fun b => b.ifType = ifType)

def State.flushBegin (s : State) (ifType : Nat) : Option State :=
  if s.flush.isSome then none
  else
    some {s with
      flushInProgress := true
      flushIfType := ifType
      flush := some {
        ifType := ifType
        inflight := s.typeInflight ifType
        outstanding := s.hasOutstanding ifType
        before := s.queue}}

def State.flushTo (s : State) (f : Flush) (pc : FlushPc) : State := {s with flush := some {f with pc := pc}}

def State.flushStep (s : State) : Option State :=
  match s.flush with
  | none => none
  | some f =>
    match f.pc with
    | .begun => if s.work = .idle then some {s.flushTo f .cancelled with workPending := false} else none
    | .cancelled => some (s.flushTo f (.scan .high []))
    | .scan q keep =>
      match s.queue q with
      | [] => some (s.flushTo f (.restore q keep))
      | b :: rest =>
        if b.ifType = f.ifType then
          some {(s.setQueue q rest).flushTo f (.scan q keep) with log := .dropped b (.flushed f.ifType) :: s.log}
        else some ((s.setQueue q rest).flushTo f (.scan q (keep ++ [b])))
    | .restore q keep =>
      match keep with
      | b :: rest =>
        let p := txPriority b.ifType
        some ((s.setQueue p (s.queue p ++ [b])).flushTo f (.restore q rest))
      | [] =>
        match q with
        | .high => some (s.flushTo f (.scan .mid []))
        | .mid => some (s.flushTo f (.scan .low []))
        | .low => some (s.flushTo f .finish)
    | .finish =>
      some {s with
        flushInProgress := false
        flushIfType := ESP_MAX_IF
        workPending := s.workPending || !s.txQuiesced
        flush := none
        leaving := s.leaving ++
          [(f.ifType,f.inflight || s.typeInflight f.ifType,f.outstanding || s.hasOutstanding f.ifType)]
        log := .flushed f.ifType s.accepted f.before s.queue :: s.log}

def State.flushReturn (s : State) (i : Nat) : Option State :=
  match s.leaving[i]? with
  | none => none
  | some (t,inflight,outstanding) =>
    some {s with
      leaving := s.leaving.eraseIdx i
      log := .returned t outstanding (if inflight then s.statefulFail else .notAsked) :: s.log}

def State.quiesceStep (s : State) : Option State :=
  match s.quiesce with
  | .idle => if s.locked then none else some {s with txQuiesced := true, quiesce := .flagged}
  | .flagged =>
    if s.work = .idle then some {s with workPending := false, quiesce := .purging [.high,.mid,.low]} else none
  | .purging [] => some {s with quiesce := .killing}
  | .purging (q :: qs) =>
    match s.queue q with
    | [] => some {s with quiesce := .purging qs}
    | b :: rest => some {s.setQueue q rest with log := .dropped b .purged :: s.log}
  | .killing => if s.urbs.isEmpty then some {s with quiesce := .zeroing} else none
  | .zeroing => some {s with txInflight := 0, rcpTxInflight := 0, hciTxInflight := 0, quiesce := .idle}

inductive Action where
  | write (ifType : Nat)
  | work (io : SubmitIo)
  /-- The USB core gives a URB back. -/
  | giveBack (i : Nat) (failed : Bool)
  | complete (i : Nat)
  | flushBt
  | flushRcp
  | flush
  | flushReturn (i : Nat)
  | quiesce
  /-- `esp_usb_reinit_after_fw_reset` -/
  | reinit
  /-- The rest of the driver. -/
  | setFlags (f : Flags)

def step (s : State) : Action → Option State
  | .write t => if s.locked then none else some (s.write t)
  | .work io => s.txWork io
  | .giveBack i failed =>
    match s.urbs[i]? with
    | some ⟨b,.submitted⟩ => some (s.setUrb i ⟨b,.completed failed⟩)
    | _ => none
  | .complete i => s.txComplete i
  | .flushBt => s.flushBegin ESP_HCI_IF
  | .flushRcp => s.flushBegin ESP_RCP_IF
  | .flush => s.flushStep
  | .flushReturn i => s.flushReturn i
  | .quiesce => s.quiesceStep
  | .reinit =>
    if s.locked ∨ s.quiesce ≠ .idle then none else some {s with txQuiesced := false, workPending := true}
  | .setFlags f => some {s with flags := f}

/-! What is claimed. -/

/-- Each once, in the order of acceptance, and in its own queue. -/
structure Ordered (p : Prio) (l : List Skb) : Prop where
  sorted : l.Pairwise (fun a b => a.id < b.id)
  own : ∀ b ∈ l, txPriority b.ifType = p

def UrbPc.anchored (pc : UrbPc) : Bool := decide (pc ≠ .finished)

/-- What `tx_inflight` stands for. -/
def State.anchored (s : State) : Nat :=
  (match s.work with | .anchored _ => 1 | _ => 0)+(s.urbs.filter (fun u => u.pc.anchored)).length

/-- `met` says which calls of `esp_usb_schedule_stateful_fail` count as a scheduled failure. -/
structure Boundary (met : Fail → Prop) (s : State) : Prop where
  cleared : ∀ t mark before after, .flushed t mark before after ∈ s.log →
    ∀ p, ∀ b ∈ s.queue p, b.ifType = t → mark ≤ b.id
  kept : ∀ t mark before after, .flushed t mark before after ∈ s.log → ∀ p,
    Ordered p (before p) ∧ Ordered p (after p) ∧ (∀ b ∈ after p, b.ifType ≠ t) ∧
    ∀ b ∈ before p, b.ifType ≠ t → b ∈ after p ∨ .dropped b .purged ∈ s.log
  queues : ∀ p, Ordered p (s.queue p) ∧ ∀ b ∈ s.queue p, b.id < s.accepted
  reported : ∀ t f, .returned t true f ∈ s.log → met f
  txInflight : s.txInflight = s.anchored
  rcpTxInflight : s.rcpTxInflight = s.outstanding.countP (fun b => b.ifType = ESP_RCP_IF)
  hciTxInflight : s.hciTxInflight = s.outstanding.countP (fun b => b.ifType = ESP_HCI_IF)
  dropped : ∀ b f, b.stateful = true → .dropped b (.urbFailed f) ∈ s.log → met f

/-- Scheduled, or refused because a recovery, a cleanup or a removal is under way. -/
def Fail.accounted (f : Fail) : Prop := f = .scheduled ∨ ∃ g : Flags, f = .refused g ∧ g.any = true

end EspHosted.UsbFlush
