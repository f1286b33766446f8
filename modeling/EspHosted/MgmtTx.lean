import Mathlib.Data.List.Basic
import EspHosted.Lib.Run
import EspHosted.Wire

/-!
Management frames of the host, `cmd.c`: `process_mgmt_tx` in the command task, `mgmt_txcb` in the
Wi-Fi task and the expiry of the transaction timers in the timer task. A step is one critical
section of `s_hosted_mgmt_lock` or one call that other tasks can notice. Requests of hosts that do
not set the marker are left out.
-/

set_option autoImplicit false

namespace EspHosted.MgmtTx
open EspHosted Run

def HOSTED_MGMT_BODY_MATCH_LEN : Nat := 16
def WLAN_FC_STYPE_DISASSOC : Nat := 10
def WLAN_FC_STYPE_DEAUTH : Nat := 12
def WLAN_FC_STYPE_ACTION : Nat := 13

def unprotectedCategories : List Nat := [4,7,11,15,20,21,22,127]

def wlanIsRobustMgmtPlain (frame : Bytes) : Bool :=
  if frame.length < HOSTED_MGMT_HDR_LEN then false
  else
    let stype := (frame.getD 0 0).toNat/16
    if stype = WLAN_FC_STYPE_DEAUTH || stype = WLAN_FC_STYPE_DISASSOC then true
    else if stype ≠ WLAN_FC_STYPE_ACTION || frame.length < HOSTED_MGMT_HDR_LEN+1 then false
    else (frame.getD HOSTED_MGMT_HDR_LEN 0).toNat ∉ unprotectedCategories

/-- `hosted_mgmt_frame_matches_locked` for a pending frame -/
def frameMatches (reference candidate : Bytes) : Bool :=
  if reference.length < HOSTED_MGMT_HDR_LEN || candidate.length < HOSTED_MGMT_HDR_LEN then false
  else if candidate.getD 0 0 ≠ reference.getD 0 0 || (candidate.drop 4).take 18 ≠ (reference.drop 4).take 18 then false
  else if (candidate.getD 1 0).toNat/64%2 = 1 && wlanIsRobustMgmtPlain reference then true
  else
    let bodyLen := min (reference.length-HOSTED_MGMT_HDR_LEN) HOSTED_MGMT_BODY_MATCH_LEN
    if candidate.length < HOSTED_MGMT_HDR_LEN+bodyLen then false
    else (candidate.drop HOSTED_MGMT_HDR_LEN).take bodyLen = (reference.drop HOSTED_MGMT_HDR_LEN).take bodyLen

def dataMatches (reference data : Bytes) : Bool :=
  frameMatches reference data || (8 < data.length && frameMatches reference (data.drop 8))

/-- `s_hosted_mgmt` while `pending`; the copy of the frame and the timer bear the number of the request. -/
structure Txn where
  id : Nat
  cookie : Nat
  frame : Bytes
  reportStatus : Bool
  accepted : Bool := false
  completed : Bool := false
  ack : Bool := false
  deriving DecidableEq, Repr

/-- A transaction somebody has taken, with what is to be reported. -/
structure Owned where
  id : Nat
  cookie : Nat
  ack : Bool
  report : Bool
  deriving DecidableEq, Repr

/-- `hosted_mgmt_finish_owned`: first the timer, then the status and the frame. -/
inductive Own where
  | timer (o : Owned)
  | status (o : Owned)
  deriving DecidableEq, Repr

def Own.owned : Own → Owned
  | .timer o | .status o => o

/-- A request with the marker: whether its lengths and the interface are right, the cookie (its own,
or the sequence number), the frame, and whether the status is to be waited for. -/
structure Request where
  valid : Bool := true
  cookie : Nat
  frame : Bytes
  track : Bool := true
  deriving DecidableEq, Repr

/-- What the command task does after the transaction is finished. -/
inductive After where
  | refuse (n : Nat)
  | done
  deriving DecidableEq, Repr

/-- Where the command task is in `process_mgmt_tx` for request `n`. -/
inductive Cmd where
  | idle
  | checked (n : Nat) (r : Request)
  | created (n : Nat) (r : Request)
  /-- `hosted_mgmt_begin` found another transaction. -/
  | dropping (n : Nat)
  | begun (n cookie : Nat)
  | submitted (n cookie : Nat)
  /-- `hosted_mgmt_abort_pending`, in front of each of its critical sections -/
  | abort (n : Nat) (after : After)
  | aborting (n : Nat) (after : After)
  | accepted (n cookie : Nat)
  | arming (n cookie : Nat)
  | startFailed (n : Nat)
  | flip (n cookie : Nat)
  /-- `hosted_mgmt_fail_pending` -/
  | failing
  | own (x : Own) (after : After)
  deriving DecidableEq, Repr

inductive Wifi where
  | idle
  /-- `mgmt_txcb` saw a pending transaction. -/
  | looked
  | own (x : Own)
  deriving DecidableEq, Repr

inductive Timer where
  | idle
  /-- In the expiry callback of timer `n`. -/
  | running (n : Nat)
  | own (x : Own)
  /-- `esp_restart` is next. -/
  | ending
  deriving DecidableEq, Repr

structure Status where
  id : Nat
  ack : Bool
  /-- The ack the last callback for the frame saw. -/
  seen : Option Bool
  deriving DecidableEq, Repr

structure State where
  pending : Option Txn := none
  draining : Bool := false
  cmd : Cmd := .idle
  wifi : Wifi := .idle
  timer : Timer := .idle
  /-- Timers that have been started and that the timer task can still let expire. -/
  armed : List Nat := []
  next : Nat := 0
  restarted : Bool := false
  /-- Requests for which a copy and a timer were made, copies freed and timers deleted. -/
  copies : List Nat := []
  frees : List Nat := []
  deletes : List Nat := []
  accepts : List Nat := []
  refusals : List Nat := []
  statuses : List Status := []
  /-- Callbacks that matched: the transaction and the ack, the latest first. -/
  seen : List (Nat × Bool) := []
  /-- Expiry callbacks that took a transaction: the timer's number and the transaction's. -/
  expiries : List (Nat × Nat) := []
  deriving DecidableEq, Repr

def State.lastSeen (s : State) (n : Nat) : Option Bool := (s.seen.find? (fun x => x.1 = n)).map Prod.snd

def Txn.own (t : Txn) (ack report : Bool) : Owned := ⟨t.id,t.cookie,ack,report⟩

/-- The end of the handler: refused, or nothing more to say. -/
def State.ends (s : State) : After → State
  | .refuse n => {s with refusals := n :: s.refusals, cmd := .idle}
  | .done => {s with cmd := .idle}

/-- `xTimerStop` and `xTimerDelete`; the timer task acts on it later. -/
def State.deleteTimer (s : State) (o : Owned) (ok : Bool) : State :=
  if ok then {s with deletes := o.id :: s.deletes} else s

/-- The status event and the frame; `ok`: `hosted_send_mgmt_status` could send it. -/
def State.report (s : State) (o : Owned) (ok : Bool) : State :=
  if !o.report then {s with frees := o.id :: s.frees}
  else if ok && o.cookie ≠ 0 then
    {s with statuses := ⟨o.id,o.ack,s.lastSeen o.id⟩ :: s.statuses, frees := o.id :: s.frees}
  else {s with frees := o.id :: s.frees, restarted := true}

inductive Act where
  | request (r : Request)
  /-- `cb`: `mgmt_tx_ensure_cb` succeeds; `mem`: so do `malloc` and `xTimerCreate`. -/
  | create (cb mem : Bool)
  | begin
  | drop (deleted : Bool)
  | submit (ok : Bool)
  | accept (ok : Bool)
  | clearDraining
  | take
  | fetchTimer
  | startTimer (ok : Bool)
  | markAccepted
  | failPending
  | cmdTimer (deleted : Bool)
  | cmdStatus (ok : Bool)
  | txDone
  | txMatch (data : Bytes) (ack : Bool)
  | wifiTimer (deleted : Bool)
  | wifiStatus (ok : Bool)
  | expire (n : Nat)
  | takeTimeout
  | timerTimer (deleted : Bool)
  | timerStatus (ok : Bool)
  | espRestart
  /-- The timer task carries out a delete. -/
  | retire (n : Nat)
  deriving DecidableEq, Repr

def State.request (s : State) (r : Request) : Option State :=
  match s.cmd with
  | .idle =>
    if !r.valid || r.frame.length < HOSTED_MGMT_HDR_LEN || s.draining || s.pending.isSome then
      some {s with next := s.next+1, refusals := s.next :: s.refusals}
    else some {s with next := s.next+1, cmd := .checked s.next r}
  | _ => none

def State.create (s : State) (cb mem : Bool) : Option State :=
  match s.cmd with
  | .checked n r =>
    if !cb then some (s.ends (.refuse n))
    -- the status of a frame that is not tracked is sent at once
    else if !r.track then some {s with cmd := .idle}
    else if !mem then some (s.ends (.refuse n))
    else some {s with copies := n :: s.copies, cmd := .created n r}
  | _ => none

def State.begin (s : State) : Option State :=
  match s.cmd with
  | .created n r =>
    if s.pending.isSome || s.draining then some {s with cmd := .dropping n}
    else some {s with pending := some {id := n, cookie := r.cookie, frame := r.frame, reportStatus := true},
                      cmd := .begun n r.cookie}
  | _ => none

/-- The end of `hosted_mgmt_begin` that found another transaction -/
def State.drop (s : State) (deleted : Bool) : Option State :=
  match s.cmd with
  | .dropping n =>
    some ({s with deletes := if deleted then n :: s.deletes else s.deletes, frees := n :: s.frees}.ends (.refuse n))
  | _ => none

def State.submit (s : State) (ok : Bool) : Option State :=
  match s.cmd with
  | .begun n c => some {s with cmd := if ok then .submitted n c else .abort n (.refuse n)}
  | _ => none

def State.accept (s : State) (ok : Bool) : Option State :=
  match s.cmd with
  | .submitted n c =>
    some (if ok then {s with accepts := n :: s.accepts, cmd := .accepted n c} else {s with cmd := .abort n .done})
  | _ => none

def State.clearDraining (s : State) : Option State :=
  match s.cmd with
  | .abort n after => some {s with draining := false, cmd := .aborting n after}
  | _ => none

/-- `hosted_mgmt_take` in `hosted_mgmt_abort_pending`, `hosted_mgmt_mark_accepted` and `hosted_mgmt_fail_pending` -/
def State.take (s : State) : Option State :=
  match s.cmd, s.pending with
  | .aborting _ after, some t => some {s with pending := none, cmd := .own (.timer (t.own false false)) after}
  | .aborting _ after, none => some (s.ends after)
  | .startFailed _, some t => some {s with pending := none, cmd := .own (.timer (t.own false t.reportStatus)) .done}
  | .startFailed _, none => some {s with cmd := .idle}
  | .failing, some t => some {s with pending := none, cmd := .own (.timer (t.own false t.reportStatus)) .done}
  | .failing, none => some {s with cmd := .idle}
  | _, _ => none

def State.fetchTimer (s : State) : Option State :=
  match s.cmd with
  | .accepted n c =>
    some {s with cmd := if s.pending.any (fun t => t.cookie = c) then .arming n c else .startFailed n}
  | _ => none

def State.startTimer (s : State) (ok : Bool) : Option State :=
  match s.cmd with
  | .arming n c => some (if ok then {s with armed := n :: s.armed, cmd := .flip n c} else {s with cmd := .startFailed n})
  | _ => none

def State.markAccepted (s : State) : Option State :=
  match s.cmd with
  | .flip _ c =>
    match s.pending with
    | some t =>
      if t.cookie ≠ c then some {s with cmd := .idle}
      else if t.completed then some {s with pending := none, cmd := .own (.timer (t.own t.ack t.reportStatus)) .done}
      else some {s with pending := some {t with accepted := true}, cmd := .idle}
    | none => some {s with cmd := .idle}
  | _ => none

def State.failPending (s : State) : Option State :=
  match s.cmd with
  | .idle => some {s with draining := false, cmd := .failing}
  | _ => none

def State.cmdTimer (s : State) (deleted : Bool) : Option State :=
  match s.cmd with
  | .own (.timer o) after => some {s.deleteTimer o deleted with cmd := .own (.status o) after}
  | _ => none

def State.cmdStatus (s : State) (ok : Bool) : Option State :=
  match s.cmd with
  | .own (.status o) after => some ((s.report o ok).ends after)
  | _ => none

def State.command (s : State) : Act → Option State
  | .request r => s.request r
  | .create cb mem => s.create cb mem
  | .begin => s.begin
  | .drop deleted => s.drop deleted
  | .submit ok => s.submit ok
  | .accept ok => s.accept ok
  | .clearDraining => s.clearDraining
  | .take => s.take
  | .fetchTimer => s.fetchTimer
  | .startTimer ok => s.startTimer ok
  | .markAccepted => s.markAccepted
  | .failPending => s.failPending
  | .cmdTimer deleted => s.cmdTimer deleted
  | .cmdStatus ok => s.cmdStatus ok
  | _ => none

/-- The first critical section of `mgmt_txcb`, and its second one -/
def State.txDone (s : State) : Option State :=
  match s.wifi with
  | .idle =>
    if s.draining then some {s with draining := false}
    else some {s with wifi := if s.pending.isSome then .looked else .idle}
  | _ => none

def State.txMatch (s : State) (data : Bytes) (ack : Bool) : Option State :=
  match s.wifi, s.pending with
  | .looked, some t =>
    if !dataMatches t.frame data then some {s with wifi := .idle}
    else if !t.accepted then
      some {s with pending := some {t with completed := true, ack}, seen := (t.id,ack) :: s.seen, wifi := .idle}
    else some {s with pending := none, seen := (t.id,ack) :: s.seen, wifi := .own (.timer (t.own ack t.reportStatus))}
  | .looked, none => some {s with wifi := .idle}
  | _, _ => none

def State.wifiTimer (s : State) (deleted : Bool) : Option State :=
  match s.wifi with
  | .own (.timer o) => some {s.deleteTimer o deleted with wifi := .own (.status o)}
  | _ => none

def State.wifiStatus (s : State) (ok : Bool) : Option State :=
  match s.wifi with
  | .own (.status o) => some {s.report o ok with wifi := .idle}
  | _ => none

def State.wifiTask (s : State) : Act → Option State
  | .txDone => s.txDone
  | .txMatch data ack => s.txMatch data ack
  | .wifiTimer deleted => s.wifiTimer deleted
  | .wifiStatus ok => s.wifiStatus ok
  | _ => none

def State.expire (s : State) (n : Nat) : Option State :=
  if s.timer = .idle ∧ n ∈ s.armed then some {s with armed := s.armed.erase n, timer := .running n} else none

/-- `hosted_mgmt_take_timeout`; the callback does not look at its timer. -/
def State.takeTimeout (s : State) : Option State :=
  match s.timer, s.pending with
  | .running n, some t =>
    some {s with
      pending := none
      draining := true
      expiries := (n,t.id) :: s.expiries
      timer := .own (.timer (t.own false t.reportStatus))}
  | .running _, none => some {s with timer := .idle}
  | _, _ => none

def State.timerTimer (s : State) (deleted : Bool) : Option State :=
  match s.timer with
  | .own (.timer o) => some {s.deleteTimer o deleted with timer := .own (.status o)}
  | _ => none

def State.timerStatus (s : State) (ok : Bool) : Option State :=
  match s.timer with
  | .own (.status o) => some {s.report o ok with timer := .ending}
  | _ => none

def State.espRestart (s : State) : Option State := if s.timer = .ending then some {s with restarted := true} else none

def State.retire (s : State) (n : Nat) : Option State :=
  if s.timer = .idle ∧ n ∈ s.deletes then some {s with armed := s.armed.erase n} else none

def State.timerTask (s : State) : Act → Option State
  | .expire n => s.expire n
  | .takeTimeout => s.takeTimeout
  | .timerTimer deleted => s.timerTimer deleted
  | .timerStatus ok => s.timerStatus ok
  | .espRestart => s.espRestart
  | .retire n => s.retire n
  | _ => none

def step (s : State) (a : Act) : Option State :=
  if s.restarted then none else ((s.command a).or (s.wifiTask a)).or (s.timerTask a)

def Cmd.own? : Cmd → List Own
  | .own x _ => [x]
  | _ => []

def Wifi.own? : Wifi → List Own
  | .own x => [x]
  | _ => []

def Timer.own? : Timer → List Own
  | .own x => [x]
  | _ => []

/-- Copies and timers that are in no transaction yet, or no more. -/
def Cmd.raw : Cmd → List Nat
  | .created n _ | .dropping n => [n]
  | _ => []

def State.owns (s : State) : List Own := s.cmd.own? ++ s.wifi.own? ++ s.timer.own?

def State.pend (s : State) : List Nat := s.pending.toList.map Txn.id

def Own.timer? : Own → List Nat
  | .timer o => [o.id]
  | .status _ => []

/-- Who is to free a copy, and who is to delete a timer. -/
def State.frameHolders (s : State) : List Nat := s.pend ++ s.owns.map (fun x => x.owned.id) ++ s.cmd.raw
def State.timerHolders (s : State) : List Nat := s.pend ++ s.owns.flatMap Own.timer? ++ s.cmd.raw

def Cmd.arms (n : Nat) : Cmd → Bool
  | .accepted m _ | .arming m _ | .startFailed m => m = n
  | _ => false

/-- The status of `n` is still to come: its timer is running or about to be started, or somebody
has taken it in order to report it. -/
def State.awaits (s : State) (n : Nat) : Bool :=
  s.pending.any (fun t => t.id = n && (n ∈ s.armed || s.timer = .running n || s.cmd.arms n)) ||
    s.owns.any (fun x => x.owned.id = n && x.owned.report)

structure State.Safe (s : State) : Prop where
  once : (s.statuses.map Status.id).Nodup
  kept : s.restarted = false → ∀ n ∈ s.accepts, n ∈ s.statuses.map Status.id ∨ s.awaits n = true
  refused : ∀ n ∈ s.refusals, n ∉ s.statuses.map Status.id
  frames : s.frees.Nodup ∧ ∀ n ∈ s.copies, n ∈ s.frees ∨ n ∈ s.frameHolders
  timers : s.deletes.Nodup ∧ ∀ n ∈ s.copies, n ∈ s.deletes ∨ n ∈ s.timerHolders
  expiry : ∀ x ∈ s.expiries, x.1 = x.2
  ack : ∀ x ∈ s.statuses, x.seen = none ∨ x.seen = some x.ack

instance (s : State) : Decidable s.Safe :=
  decidable_of_iff
    ((s.statuses.map Status.id).Nodup ∧
      (s.restarted = false → ∀ n ∈ s.accepts, n ∈ s.statuses.map Status.id ∨ s.awaits n = true) ∧
      (∀ n ∈ s.refusals, n ∉ s.statuses.map Status.id) ∧
      (s.frees.Nodup ∧ ∀ n ∈ s.copies, n ∈ s.frees ∨ n ∈ s.frameHolders) ∧
      (s.deletes.Nodup ∧ ∀ n ∈ s.copies, n ∈ s.deletes ∨ n ∈ s.timerHolders) ∧
      (∀ x ∈ s.expiries, x.1 = x.2) ∧ ∀ x ∈ s.statuses, x.seen = none ∨ x.seen = some x.ack)
    ⟨fun ⟨h1,h2,h3,h4,h5,h6,h7⟩ => ⟨h1,h2,h3,h4,h5,h6,h7⟩,
      fun h => ⟨h.once,h.kept,h.refused,h.frames,h.timers,h.expiry,h.ack⟩⟩

def Timer.expiring : Timer → Bool
  | .running _ => true
  | _ => false

/-- No request is begun while the timer of an earlier one can still expire; the timer task takes
every delete; and neither a timer that does not start nor one that expires meets a transaction
whose callback came before its acceptance was marked. -/
def admits (s : State) : Act → Bool
  | .begin => s.pending.isSome || s.draining || (s.armed = [] && !s.timer.expiring)
  | .drop deleted | .cmdTimer deleted | .wifiTimer deleted | .timerTimer deleted => deleted
  | .take =>
    match s.cmd with
    | .startFailed _ => s.pending.all (fun t => !t.completed)
    | _ => true
  | .takeTimeout => s.pending.all (fun t => t.accepted || !t.completed)
  | _ => true

/-- Every copy is freed by the one who holds it, and every timer deleted. -/
structure State.Books (s : State) : Prop where
  frames : ∀ n, s.frees.count n+s.frameHolders.count n = s.copies.count n
  timers : ∀ n, s.deletes.count n+s.timerHolders.count n = s.copies.count n
  nodup : s.copies.Nodup
  known : ∀ n ∈ s.copies, n < s.next

/-- The timers that can expire belong to the pending transaction. -/
structure State.Watch (s : State) : Prop where
  alive : ∀ t, s.pending = some t → ∀ m, m ∈ s.armed ∨ s.timer = .running m → m = t.id
  live : ∀ t, s.pending = some t → t.accepted = true → t.id ∈ s.armed ∨ s.timer = .running t.id

/-- What is to be reported is what the callbacks saw. -/
structure State.Sight (s : State) : Prop where
  pending : ∀ t, s.pending = some t → s.lastSeen t.id = if t.completed then some t.ack else none
  owned : ∀ x ∈ s.owns, x.owned.report = true → s.lastSeen x.owned.id = none ∨ s.lastSeen x.owned.id = some x.owned.ack
  known : ∀ x ∈ s.seen, x.1 ∈ s.copies
  raw : ∀ n ∈ s.cmd.raw, ∀ x ∈ s.seen, x.1 ≠ n

structure State.Log (s : State) : Prop where
  report : ∀ t, s.pending = some t → t.reportStatus = true
  freed : ∀ n, (s.statuses.map Status.id).count n ≤ s.frees.count n
  refused : ∀ n ∈ s.refusals, n < s.next ∧ n ∉ s.frameHolders ∧ n ∉ s.statuses.map Status.id
  accepted : s.restarted = false → ∀ n ∈ s.accepts,
    n ∈ s.statuses.map Status.id ∨ n ∈ s.pend ∨ ∃ x ∈ s.owns, x.owned.id = n ∧ x.owned.report = true
  made : ∀ n ∈ s.accepts, n ∈ s.copies
  expiry : ∀ x ∈ s.expiries, x.1 = x.2
  ack : ∀ x ∈ s.statuses, x.seen = none ∨ x.seen = some x.ack

/-- The pending transaction of request `n`, before it is marked; no timer is running. -/
def State.Mine (s : State) (n c : Nat) : Prop :=
  ∃ t, s.pending = some t ∧ t.id = n ∧ t.cookie = c ∧ t.accepted = false ∧ s.armed = [] ∧ s.timer.expiring = false

/-- Its timer has been started; it may have expired and taken the transaction meanwhile. -/
def State.Started (s : State) (n c : Nat) : Prop :=
  ∀ t, s.pending = some t → t.id = n ∧ t.cookie = c ∧ t.accepted = false ∧ (n ∈ s.armed ∨ s.timer = .running n)

/-- What is pending between two requests has been accepted, and its callback has not come. -/
def State.Settled (s : State) : Prop := ∀ t, s.pending = some t → t.accepted = true ∧ t.completed = false

def State.Place (s : State) : Prop :=
  match s.cmd with
  | .idle | .failing => s.Settled
  | .checked n _ => s.Settled ∧ n < s.next ∧ n ∉ s.copies ∧ n ∉ s.refusals
  | .created n _ | .dropping n => s.Settled ∧ n ∉ s.accepts
  | .begun n c | .submitted n c => s.Mine n c ∧ n ∉ s.accepts
  | .abort n after | .aborting n after => (∃ c, s.Mine n c) ∧ n ∉ s.accepts ∧ (after = .refuse n ∨ after = .done)
  | .accepted n c | .arming n c => s.Mine n c
  | .startFailed n => ∃ c, s.Mine n c
  | .flip n c => s.Started n c
  | .own x after => s.Settled ∧ ∀ n, after = .refuse n → x.owned.id = n ∧ x.owned.report = false

structure State.Inv (s : State) : Prop where
  books : s.Books
  watch : s.Watch
  sight : s.Sight
  log : s.Log
  place : s.Place

structure Same (s s' : State) : Prop where
  next : s'.next = s.next
  copies : s'.copies = s.copies
  accepts : s'.accepts = s.accepts
  refusals : s'.refusals = s.refusals
  raw : s'.cmd.raw = s.cmd.raw

theorem count_pend (s : State) (n : Nat) :
    s.frameHolders.count n = s.pend.count n+(s.owns.map (fun x => x.owned.id)).count n+s.cmd.raw.count n ∧
    s.timerHolders.count n = s.pend.count n+(s.owns.flatMap Own.timer?).count n+s.cmd.raw.count n := by
  simp [State.frameHolders,State.timerHolders,Nat.add_assoc]

theorem State.Books.took {s s' : State} {t : Txn} {o : Owned} (h : s.Books) (k : Same s s') (hp : s.pending = some t)
    (hp' : s'.pending = none) (ho : s'.owns.Perm (.timer o :: s.owns)) (hid : o.id = t.id) (hf : s'.frees = s.frees)
    (hd : s'.deletes = s.deletes) : s'.Books := by
  have hpend : s.pend = [t.id] := by simp [State.pend,hp]
  have hpend' : s'.pend = [] := by simp [State.pend,hp']
  refine ⟨fun n => ?_,fun n => ?_,by rw [k.copies]; exact h.nodup,by rw [k.copies,k.next]; exact h.known⟩
  · have hn := h.frames n
    have hc := (ho.map (fun x => x.owned.id)).count_eq n
    rw [(count_pend s n).1,hpend] at hn
    rw [(count_pend s' n).1,hpend',hf,k.copies,k.raw,hc]
    simp only [List.map_cons,List.count_cons,List.count_nil,Own.owned,hid] at hn ⊢
    omega
  · have hn := h.timers n
    have hc := (ho.flatMap_right Own.timer?).count_eq n
    rw [(count_pend s n).2,hpend] at hn
    rw [(count_pend s' n).2,hpend',hd,k.copies,k.raw,hc]
    simp only [List.flatMap_cons,List.count_append,List.count_cons,List.count_nil,Own.timer?,hid] at hn ⊢
    omega

theorem State.Books.deleted {s s' : State} {o : Owned} {rest : List Own} (h : s.Books) (k : Same s s')
    (hp : s'.pending = s.pending) (ho : s.owns.Perm (.timer o :: rest)) (ho' : s'.owns.Perm (.status o :: rest))
    (hf : s'.frees = s.frees) (hd : s'.deletes = o.id :: s.deletes) : s'.Books := by
  have hpend : s'.pend = s.pend := by simp [State.pend,hp]
  refine ⟨fun n => ?_,fun n => ?_,by rw [k.copies]; exact h.nodup,by rw [k.copies,k.next]; exact h.known⟩
  · have hn := h.frames n
    have hc := (ho.map (fun x => x.owned.id)).count_eq n
    have hc' := (ho'.map (fun x => x.owned.id)).count_eq n
    rw [(count_pend s n).1,hc] at hn
    rw [(count_pend s' n).1,hpend,hf,k.copies,k.raw,hc']
    simpa only [List.map_cons,Own.owned] using hn
  · have hn := h.timers n
    have hc := (ho.flatMap_right Own.timer?).count_eq n
    have hc' := (ho'.flatMap_right Own.timer?).count_eq n
    rw [(count_pend s n).2,hc] at hn
    rw [(count_pend s' n).2,hpend,hd,k.copies,k.raw,hc']
    simp only [List.flatMap_cons,List.count_append,List.count_cons,List.count_nil,Own.timer?] at hn ⊢
    omega

theorem State.Books.freed {s s' : State} {o : Owned} (h : s.Books) (k : Same s s')
    (hp : s'.pending = s.pending) (ho : s.owns.Perm (.status o :: s'.owns))
    (hf : s'.frees = o.id :: s.frees) (hd : s'.deletes = s.deletes) : s'.Books := by
  have hpend : s'.pend = s.pend := by simp [State.pend,hp]
  refine ⟨fun n => ?_,fun n => ?_,by rw [k.copies]; exact h.nodup,by rw [k.copies,k.next]; exact h.known⟩
  · have hn := h.frames n
    have hc := (ho.map (fun x => x.owned.id)).count_eq n
    rw [(count_pend s n).1,hc] at hn
    rw [(count_pend s' n).1,hpend,hf,k.copies,k.raw]
    simp only [List.map_cons,List.count_cons,Own.owned] at hn ⊢
    omega
  · have hn := h.timers n
    have hc := (ho.flatMap_right Own.timer?).count_eq n
    rw [(count_pend s n).2,hc] at hn
    rw [(count_pend s' n).2,hpend,hd,k.copies,k.raw]
    simpa only [List.flatMap_cons,Own.timer?,List.nil_append] using hn

theorem State.Books.frame {s s' : State} (h : s.Books) (k : Same s s') (hp : s'.pend = s.pend)
    (ho : s'.owns = s.owns) (hf : s'.frees = s.frees) (hd : s'.deletes = s.deletes) : s'.Books := by
  obtain ⟨h1,h2,h3,h4⟩ := h
  have hfh : s'.frameHolders = s.frameHolders := by simp only [State.frameHolders,hp,ho,k.raw]
  have hth : s'.timerHolders = s.timerHolders := by simp only [State.timerHolders,hp,ho,k.raw]
  refine ⟨?_,?_,by rwa [k.copies],by rwa [k.copies,k.next]⟩
  · rwa [hf,hfh,k.copies]
  · rwa [hd,hth,k.copies]

theorem State.Books.held {s : State} (h : s.Books) {n : Nat} (hn : n ∈ s.frameHolders) :
    s.frameHolders.count n = 1 ∧ s.frees.count n = 0 ∧ n ∈ s.copies := by
  have h1 := h.frames n
  have h2 := List.nodup_iff_count.mp h.nodup n
  have h3 := List.count_pos_iff.mpr hn
  refine ⟨by omega,by omega,List.count_pos_iff.mp (by omega)⟩

theorem mem_frameHolders_pend {s : State} {t : Txn} (hp : s.pending = some t) : t.id ∈ s.frameHolders := by
  simp [State.frameHolders,State.pend,hp]

theorem mem_frameHolders_owns {s : State} {x : Own} (hx : x ∈ s.owns) : x.owned.id ∈ s.frameHolders := by
  simp only [State.frameHolders,List.mem_append,List.mem_map]
  exact .inl (.inr ⟨x,hx,rfl⟩)

theorem State.Books.pend_ne_owned {s : State} {t : Txn} {x : Own} (h : s.Books) (hp : s.pending = some t)
    (hx : x ∈ s.owns) : x.owned.id ≠ t.id := by
  intro heq
  have h1 := (h.held (mem_frameHolders_pend hp)).1
  rw [(count_pend s t.id).1] at h1
  have h2 : 0 < (s.owns.map (fun x => x.owned.id)).count t.id :=
    List.count_pos_iff.mpr (List.mem_map.mpr ⟨x,hx,heq⟩)
  have h3 : 0 < s.pend.count t.id := List.count_pos_iff.mpr (by simp [State.pend,hp])
  omega

theorem State.Books.raw_ne_pend {s : State} {t : Txn} {n : Nat} (h : s.Books) (hp : s.pending = some t)
    (hn : n ∈ s.cmd.raw) : n ≠ t.id := by
  intro heq
  have h1 := (h.held (mem_frameHolders_pend hp)).1
  rw [(count_pend s t.id).1] at h1
  have h2 : 0 < s.cmd.raw.count t.id := List.count_pos_iff.mpr (heq ▸ hn)
  have h3 : 0 < s.pend.count t.id := List.count_pos_iff.mpr (by simp [State.pend,hp])
  omega

theorem State.Sight.took {s s' : State} {t : Txn} {o : Owned} (h : s.Sight) (k : Same s s')
    (hp : s.pending = some t) (hp' : s'.pending = none) (ho : s'.owns.Perm (.timer o :: s.owns)) (hid : o.id = t.id)
    (hs : s'.seen = s.seen) (ha : o.report = true → t.completed = true → o.ack = t.ack) : s'.Sight := by
  have hl : ∀ n, s'.lastSeen n = s.lastSeen n := fun n => by simp only [State.lastSeen,hs]
  refine ⟨fun u hu => ?_,fun x hx hr => ?_,?_,?_⟩
  · rw [hp'] at hu
    cases hu
  · rcases List.mem_cons.mp (ho.mem_iff.mp hx) with rfl | hx
    · have hseen := h.pending t hp
      simp only [Own.owned] at hr ⊢
      rw [hid,hl,hseen]
      cases hc : t.completed with
      | true => exact .inr (by rw [ha hr hc]; rfl)
      | false => exact .inl rfl
    · rw [hl]
      exact h.owned x hx hr
  · rw [hs,k.copies]
    exact h.known
  · rw [hs,k.raw]
    exact h.raw

theorem State.Sight.owns {s s' : State} (h : s.Sight) (k : Same s s') (hp : s'.pending = s.pending)
    (ho : ∀ x ∈ s'.owns, ∃ y ∈ s.owns, y.owned = x.owned) (hs : s'.seen = s.seen) : s'.Sight := by
  have hl : ∀ n, s'.lastSeen n = s.lastSeen n := fun n => by simp only [State.lastSeen,hs]
  refine ⟨fun u hu => ?_,fun x hx hr => ?_,?_,?_⟩
  · rw [hl]
    exact h.pending u (hp ▸ hu)
  · obtain ⟨y,hy,heq⟩ := ho x hx
    rw [hl,← heq]
    exact h.owned y hy (heq ▸ hr)
  · rw [hs,k.copies]
    exact h.known
  · rw [hs,k.raw]
    exact h.raw

theorem State.Log.took {s s' : State} {t : Txn} {o : Owned} (h : s.Log) (k : Same s s') (hp : s.pending = some t)
    (hp' : s'.pending = none) (ho : s'.owns.Perm (.timer o :: s.owns)) (hid : o.id = t.id)
    (hf : s'.frees = s.frees) (hst : s'.statuses = s.statuses) (hrs : s'.restarted = s.restarted)
    (hx : ∀ x ∈ s'.expiries, x.1 = x.2) (hr : o.report = true ∨ t.id ∉ s.accepts) : s'.Log := by
  have hpend : s.pend = [t.id] := by simp [State.pend,hp]
  have hpend' : s'.pend = [] := by simp [State.pend,hp']
  have hholders : ∀ n, n ∈ s'.frameHolders ↔ n ∈ s.frameHolders := by
    intro n
    rw [← List.count_pos_iff,← List.count_pos_iff,(count_pend s n).1,(count_pend s' n).1,hpend,hpend',k.raw,
      (ho.map (fun x => x.owned.id)).count_eq n]
    simp only [List.map_cons,List.count_cons,List.count_nil,Own.owned,hid]
    omega
  refine ⟨fun u hu => (by rw [hp'] at hu; cases hu),by rw [hst,hf]; exact h.freed,fun n hn => ?_,fun hrun n hn => ?_,
    by rw [k.accepts,k.copies]; exact h.made,hx,by rw [hst]; exact h.ack⟩
  · rw [k.refusals] at hn
    rw [k.next,hst,hholders]
    exact h.refused n hn
  · rw [k.accepts] at hn
    rw [hst]
    rcases h.accepted (hrs ▸ hrun) n hn with hy | hy | ⟨x,hy,hz⟩
    · exact .inl hy
    · rw [hpend,List.mem_singleton] at hy
      rcases hr with hr | hr
      · exact .inr (.inr ⟨.timer o,ho.mem_iff.mpr List.mem_cons_self,by simp [Own.owned,hid,hy],hr⟩)
      · exact absurd (hy ▸ hn) hr
    · exact .inr (.inr ⟨x,ho.mem_iff.mpr (List.mem_cons_of_mem _ hy),hz⟩)

/-- The log when only the stage of a task changes. -/
theorem State.Log.stage {s s' : State} (h : s.Log) (k : Same s s') (hp : s'.pending = s.pending)
    (hperm : (s'.owns.map Own.owned).Perm (s.owns.map Own.owned))
    (hf : s'.frees = s.frees) (hst : s'.statuses = s.statuses) (hrs : s'.restarted = s.restarted)
    (hx : s'.expiries = s.expiries) : s'.Log := by
  have hpend : s'.pend = s.pend := by simp only [State.pend,hp]
  have hmap : ∀ s : State, s.owns.map (fun x => x.owned.id) = (s.owns.map Own.owned).map Owned.id := by simp
  have hholders : ∀ n, n ∈ s'.frameHolders ↔ n ∈ s.frameHolders := by
    intro n
    rw [← List.count_pos_iff,← List.count_pos_iff,(count_pend s n).1,(count_pend s' n).1,hpend,k.raw,hmap,hmap,
      (hperm.map Owned.id).count_eq n]
  refine ⟨by rw [hp]; exact h.report,by rw [hst,hf]; exact h.freed,fun n hn => ?_,fun hrun n hn => ?_,
    by rw [k.accepts,k.copies]; exact h.made,by rw [hx]; exact h.expiry,by rw [hst]; exact h.ack⟩
  · rw [k.refusals] at hn
    rw [k.next,hst,hholders]
    exact h.refused n hn
  · rw [k.accepts] at hn
    rw [hst,hpend]
    rcases h.accepted (hrs ▸ hrun) n hn with hy | hy | ⟨x,hy,hz⟩
    · exact .inl hy
    · exact .inr (.inl hy)
    · obtain ⟨y,hy',heq⟩ := List.mem_map.mp (hperm.mem_iff.mpr (List.mem_map.mpr ⟨x,hy,rfl⟩))
      exact .inr (.inr ⟨y,hy',by rw [heq]; exact hz⟩)

theorem report_cases (s : State) (o : Owned) (ok : Bool) :
    (s.report o ok = {s with frees := o.id :: s.frees} ∧ o.report = false) ∨
    (s.report o ok =
      {s with statuses := ⟨o.id,o.ack,s.lastSeen o.id⟩ :: s.statuses, frees := o.id :: s.frees} ∧ o.report = true) ∨
    (s.report o ok = {s with frees := o.id :: s.frees, restarted := true} ∧ o.report = true) := by
  unfold State.report
  cases hr : o.report with
  | false => exact .inl ⟨by simp,rfl⟩
  | true =>
    right
    by_cases hc : (ok && o.cookie ≠ 0) = true
    · exact .inl ⟨by simp only [Bool.not_true,Bool.false_eq_true,if_false,if_pos hc],rfl⟩
    · exact .inr ⟨by simp only [Bool.not_true,Bool.false_eq_true,if_false,if_neg hc],rfl⟩

theorem State.Log.reported {s s' : State} {o : Owned} {ok : Bool} (h : s.Log) (hb : s.Books) (hs : s.Sight)
    (hnext : s'.next = s.next) (hcopies : s'.copies = s.copies) (haccepts : s'.accepts = s.accepts)
    (hraw : s'.cmd.raw = s.cmd.raw) (hp : s'.pending = s.pending) (ho : s.owns.Perm (.status o :: s'.owns))
    (hf : s'.frees = o.id :: s.frees) (hst : s'.statuses = (s.report o ok).statuses)
    (hrs : s'.restarted = (s.report o ok).restarted) (hx : s'.expiries = s.expiries)
    (hacc : o.report = false → o.id ∉ s.accepts)
    (href : s'.refusals = s.refusals ∨ (s'.refusals = o.id :: s.refusals ∧ o.report = false)) : s'.Log := by
  have hmem : (.status o : Own) ∈ s.owns := ho.mem_iff.mpr List.mem_cons_self
  obtain ⟨hone,hzero,hcopy⟩ := hb.held (mem_frameHolders_owns hmem)
  simp only [Own.owned] at hone hzero hcopy
  have hpend : s'.pend = s.pend := by simp only [State.pend,hp]
  have hcount : ∀ n, s.frameHolders.count n = s'.frameHolders.count n+if o.id = n then 1 else 0 := by
    intro n
    rw [(count_pend s n).1,(count_pend s' n).1,hpend,hraw,(ho.map (fun x => x.owned.id)).count_eq n]
    simp only [List.map_cons,List.count_cons,Own.owned,beq_iff_eq]
    omega
  have hsub : ∀ n, n ∈ s'.frameHolders → n ∈ s.frameHolders := by
    intro n hn
    rw [← List.count_pos_iff] at hn ⊢
    have := hcount n
    omega
  have hgone : o.id ∉ s'.frameHolders := by
    intro hn
    rw [← List.count_pos_iff] at hn
    have := hcount o.id
    simp only [if_true] at this
    omega
  have hnew : o.id ∉ s.statuses.map Status.id := by
    intro hn
    have h1 := h.freed o.id
    have h2 := List.count_pos_iff.mpr hn
    omega
  have hids : ∀ n, n ∈ s'.statuses.map Status.id → n ∈ s.statuses.map Status.id ∨ (n = o.id ∧ o.report = true) := by
    intro n hn
    rw [hst] at hn
    rcases report_cases s o ok with ⟨hr,hx⟩ | ⟨hr,hx⟩ | ⟨hr,hx⟩
    · rw [hr] at hn
      exact .inl hn
    · rw [hr] at hn
      rcases List.mem_cons.mp hn with hn | hn
      · exact .inr ⟨hn,hx⟩
      · exact .inl hn
    · rw [hr] at hn
      exact .inl hn
  refine ⟨by rw [hp]; exact h.report,fun n => ?_,fun n hn => ?_,fun hrun n hn => ?_,by rw [haccepts,hcopies]; exact h.made,
    by rw [hx]; exact h.expiry,fun x hxs => ?_⟩
  · have h1 := h.freed n
    rw [hst,hf]
    rcases report_cases s o ok with ⟨hr,-⟩ | ⟨hr,-⟩ | ⟨hr,-⟩
    · rw [hr]
      simp only [List.count_cons]
      omega
    · rw [hr]
      simp only [List.map_cons,List.count_cons]
      omega
    · rw [hr]
      simp only [List.count_cons]
      omega
  · have hold : n ∈ s.refusals → n < s'.next ∧ n ∉ s'.frameHolders ∧ n ∉ s'.statuses.map Status.id := by
      intro hn
      obtain ⟨h1,h2,h3⟩ := h.refused n hn
      refine ⟨by rw [hnext]; exact h1,fun hx => h2 (hsub n hx),fun hx => ?_⟩
      rcases hids n hx with hx | hx
      · exact h3 hx
      · exact h2 (hx.1 ▸ mem_frameHolders_owns hmem)
    rcases href with href | ⟨href,hno⟩
    · exact hold (href ▸ hn)
    · rw [href] at hn
      rcases List.mem_cons.mp hn with rfl | hn
      · refine ⟨by rw [hnext]; exact hb.known _ hcopy,hgone,fun hx => ?_⟩
        rcases hids _ hx with hx | hx
        · exact hnew hx
        · rw [hno] at hx
          cases hx.2
      · exact hold hn
  · rw [haccepts] at hn
    rw [hpend]
    rcases report_cases s o ok with ⟨hr,hno⟩ | ⟨hr,-⟩ | ⟨hr,-⟩
    · rw [hst,hr]
      rw [hrs,hr] at hrun
      rcases h.accepted hrun n hn with hy | hy | ⟨x,hy,hz⟩
      · exact .inl hy
      · exact .inr (.inl hy)
      · rcases List.mem_cons.mp (ho.mem_iff.mp hy) with rfl | hy
        · exact absurd (hz.1 ▸ hn) (hacc hno)
        · exact .inr (.inr ⟨x,hy,hz⟩)
    · rw [hst,hr]
      rw [hrs,hr] at hrun
      rcases h.accepted hrun n hn with hy | hy | ⟨x,hy,hz⟩
      · exact .inl (List.mem_cons_of_mem _ hy)
      · exact .inr (.inl hy)
      · rcases List.mem_cons.mp (ho.mem_iff.mp hy) with rfl | hy
        · exact .inl (by simp only [List.map_cons,List.mem_cons]; exact .inl hz.1.symm)
        · exact .inr (.inr ⟨x,hy,hz⟩)
    · rw [hrs,hr] at hrun
      cases hrun
  · rw [hst] at hxs
    rcases report_cases s o ok with ⟨hr,-⟩ | ⟨hr,hrep⟩ | ⟨hr,-⟩
    · rw [hr] at hxs
      exact h.ack x hxs
    · rw [hr] at hxs
      rcases List.mem_cons.mp hxs with rfl | hxs
      · exact hs.owned (.status o) hmem hrep
      · exact h.ack x hxs
    · rw [hr] at hxs
      exact h.ack x hxs

theorem State.Inv.safe {s : State} (h : s.Inv) : s.Safe where
  once := by
    refine List.nodup_iff_count.mpr (fun n => ?_)
    have h1 := h.log.freed n
    have h2 := h.books.frames n
    have h3 := List.nodup_iff_count.mp h.books.nodup n
    omega
  kept := by
    intro hrun n hn
    rcases h.log.accepted hrun n hn with hx | hx | ⟨x,hx,hid,hr⟩
    · exact .inl hx
    · right
      cases hp : s.pending with
      | none => simp [State.pend,hp] at hx
      | some t =>
        have hid : t.id = n := by simpa [State.pend,hp,eq_comm] using hx
        have hway : n ∈ s.armed ∨ s.timer = .running n ∨ s.cmd.arms n = true := by
          cases ha : t.accepted with
          | true =>
            have := h.watch.live t hp ha
            rw [hid] at this
            tauto
          | false =>
            have hplace := h.place
            have hset : ¬ s.Settled := fun hs => by rw [(hs t hp).1] at ha; cases ha
            have hmine : ∀ {m c : Nat}, s.Mine m c → m = n := by
              rintro m c ⟨u,hu,hm,-⟩
              rw [hp] at hu
              cases hu
              exact hm.symm.trans hid
            unfold State.Place at hplace
            cases hc : s.cmd with
            | idle => rw [hc] at hplace; exact absurd hplace hset
            | failing => rw [hc] at hplace; exact absurd hplace hset
            | checked m r => rw [hc] at hplace; exact absurd hplace.1 hset
            | created m r => rw [hc] at hplace; exact absurd hplace.1 hset
            | dropping m => rw [hc] at hplace; exact absurd hplace.1 hset
            | own x after => rw [hc] at hplace; exact absurd hplace.1 hset
            | begun m c => rw [hc] at hplace; exact absurd (hmine hplace.1 ▸ hn) hplace.2
            | submitted m c => rw [hc] at hplace; exact absurd (hmine hplace.1 ▸ hn) hplace.2
            | abort m after =>
              rw [hc] at hplace
              obtain ⟨⟨c,hm⟩,hna,-⟩ := hplace
              exact absurd (hmine hm ▸ hn) hna
            | aborting m after =>
              rw [hc] at hplace
              obtain ⟨⟨c,hm⟩,hna,-⟩ := hplace
              exact absurd (hmine hm ▸ hn) hna
            | accepted m c =>
              rw [hc] at hplace
              exact .inr (.inr (by simp [Cmd.arms,hmine hplace]))
            | arming m c =>
              rw [hc] at hplace
              exact .inr (.inr (by simp [Cmd.arms,hmine hplace]))
            | startFailed m =>
              rw [hc] at hplace
              obtain ⟨c,hm⟩ := hplace
              exact .inr (.inr (by simp [Cmd.arms,hmine hm]))
            | flip m c =>
              rw [hc] at hplace
              obtain ⟨hm,-,-,hw⟩ := hplace t hp
              rw [← hm,hid] at hw
              tauto
        simp only [State.awaits,hp,Option.any_some,hid,decide_true,Bool.true_and,Bool.or_eq_true,decide_eq_true_eq]
        tauto
    · right
      simp only [State.awaits,Bool.or_eq_true,List.any_eq_true]
      exact .inr ⟨x,hx,by simp [hid,hr]⟩
  refused := fun n hn => (h.log.refused n hn).2.2
  frames := by
    refine ⟨List.nodup_iff_count.mpr (fun n => ?_),fun n hn => ?_⟩
    · have h1 := h.books.frames n
      have h2 := List.nodup_iff_count.mp h.books.nodup n
      omega
    · have h1 := h.books.frames n
      have h2 := List.count_pos_iff.mpr hn
      rw [← List.count_pos_iff,← List.count_pos_iff]
      omega
  timers := by
    refine ⟨List.nodup_iff_count.mpr (fun n => ?_),fun n hn => ?_⟩
    · have h1 := h.books.timers n
      have h2 := List.nodup_iff_count.mp h.books.nodup n
      omega
    · have h1 := h.books.timers n
      have h2 := List.count_pos_iff.mpr hn
      rw [← List.count_pos_iff,← List.count_pos_iff]
      omega
  expiry := h.log.expiry
  ack := h.log.ack

theorem State.Inv.goto {s s' : State} (h : s.Inv)
    (hs : s' = {s with cmd := s'.cmd, wifi := s'.wifi, draining := s'.draining})
    (ho : s'.owns = s.owns) (hr : s'.cmd.raw = s.cmd.raw) (place : s'.Place) : s'.Inv := by
  have k : Same s s' := ⟨by rw [hs],by rw [hs],by rw [hs],by rw [hs],hr⟩
  have hp : s'.pending = s.pending := by rw [hs]
  exact
    { books := h.books.frame k (by simp only [State.pend,hp]) ho (by rw [hs]) (by rw [hs])
      watch := by
        rw [hs]
        exact ⟨h.watch.alive,h.watch.live⟩
      sight := h.sight.owns k hp (fun x hx => ⟨x,ho ▸ hx,rfl⟩) (by rw [hs])
      log := h.log.stage k hp (by rw [ho]) (by rw [hs]) (by rw [hs]) (by rw [hs]) (by rw [hs])
      place := place }

theorem State.Inv.place_at {s : State} (h : s.Inv) {c : Cmd} (hc : s.cmd = c) : ({s with cmd := c} : State).Place := by
  have hs : ({s with cmd := c} : State) = s := by rw [← hc]
  rw [hs]
  exact h.place

theorem State.Inv.numbered {s : State} (h : s.Inv) (hc : s.cmd = .idle) :
    ({s with next := s.next+1} : State).Inv where
  books := ⟨h.books.frames,h.books.timers,h.books.nodup,fun n hn => Nat.lt_succ_of_lt (h.books.known n hn)⟩
  watch := ⟨h.watch.alive,h.watch.live⟩
  sight := ⟨h.sight.pending,h.sight.owned,h.sight.known,h.sight.raw⟩
  log := ⟨h.log.report,h.log.freed,fun n hn => ⟨Nat.lt_succ_of_lt (h.log.refused n hn).1,(h.log.refused n hn).2⟩,
    h.log.accepted,h.log.made,h.log.expiry,h.log.ack⟩
  place := by
    have hplace : s.Settled := h.place_at hc
    simp only [State.Place,hc]
    exact hplace

theorem State.Inv.refuse {s : State} {n : Nat} (h : s.Inv) (ho : s.cmd.own? = []) (hr : s.cmd.raw = [])
    (hset : s.Settled) (hn : n < s.next) (hcopy : n ∉ s.copies ∨ n ∈ s.frees ∧ n ∉ s.statuses.map Status.id) :
    (s.ends (.refuse n)).Inv := by
  have hidle : ({s with cmd := .idle} : State).Inv := h.goto rfl (by simp only [State.owns,ho]; rfl) hr.symm hset
  have hfree : n ∉ s.frameHolders ∧ n ∉ s.statuses.map Status.id := by
    refine ⟨fun hx => ?_,fun hx => ?_⟩
    · obtain ⟨-,h2,h3⟩ := h.books.held hx
      rcases hcopy with hcopy | hcopy
      · exact hcopy h3
      · have := List.count_pos_iff.mpr hcopy.1
        omega
    · rcases hcopy with hcopy | hcopy
      · have h1 := h.log.freed n
        have h2 := h.books.frames n
        have h3 := List.count_pos_iff.mpr hx
        exact hcopy (List.count_pos_iff.mp (by omega))
      · exact hcopy.2 hx
  have hholders : ({s with cmd := .idle} : State).frameHolders = s.frameHolders := by
    simp only [State.frameHolders,State.owns,State.pend,hr,ho]
    rfl
  exact
    { books := ⟨hidle.books.frames,hidle.books.timers,hidle.books.nodup,hidle.books.known⟩
      watch := ⟨hidle.watch.alive,hidle.watch.live⟩
      sight := ⟨hidle.sight.pending,hidle.sight.owned,hidle.sight.known,hidle.sight.raw⟩
      log := ⟨hidle.log.report,hidle.log.freed,fun m hm => by
          rcases List.mem_cons.mp hm with rfl | hm
          · exact ⟨hn,fun hx => hfree.1 (hholders ▸ hx),hfree.2⟩
          · exact hidle.log.refused m hm,
        hidle.log.accepted,hidle.log.made,hidle.log.expiry,hidle.log.ack⟩
      place := hset }

theorem State.Inv.request {s s' : State} {r : Request} (h : s.Inv) (hs : s.request r = some s') : s'.Inv := by
  simp only [State.request] at hs
  split at hs
  · next hc =>
    have hset : s.Settled := h.place_at hc
    have hcopy : s.next ∉ s.copies := fun hn => Nat.lt_irrefl _ (h.books.known _ hn)
    have h' := h.numbered hc
    split at hs
    · cases hs
      have hr := h'.refuse (n := s.next) (by simp [hc,Cmd.own?]) (by simp [hc,Cmd.raw]) hset (Nat.lt_succ_self _) (.inl hcopy)
      simp only [State.ends] at hr
      rwa [← hc] at hr
    · cases hs
      exact h'.goto rfl (by simp [State.owns,hc,Cmd.own?]) (by simp [hc,Cmd.raw])
        ⟨hset,Nat.lt_succ_self _,hcopy,fun hn => Nat.lt_irrefl _ (h.log.refused _ hn).1⟩
  · cases hs

theorem State.Inv.create {s s' : State} {cb mem : Bool} (h : s.Inv) (hs : s.create cb mem = some s') :
    s'.Inv := by
  simp only [State.create] at hs
  split at hs
  · next n r hc =>
    obtain ⟨hset,hlt,hcopy,href⟩ : s.Settled ∧ n < s.next ∧ n ∉ s.copies ∧ n ∉ s.refusals := h.place_at hc
    have ho : s.cmd.own? = [] := by simp [hc,Cmd.own?]
    have hr : s.cmd.raw = [] := by simp [hc,Cmd.raw]
    split at hs
    · cases hs
      exact h.refuse ho hr hset hlt (.inl hcopy)
    · split at hs
      · cases hs
        exact h.goto rfl (by simp [State.owns,hc,Cmd.own?]) hr.symm hset
      · split at hs
        · cases hs
          exact h.refuse ho hr hset hlt (.inl hcopy)
        · cases hs
          have hpend : ({s with copies := n :: s.copies, cmd := .created n r} : State).frameHolders.Perm
              (n :: s.frameHolders) := by
            simp only [State.frameHolders,State.owns,State.pend,hc,Cmd.own?,Cmd.raw,List.append_nil,List.nil_append]
            exact List.perm_append_comm
          have htimer : ({s with copies := n :: s.copies, cmd := .created n r} : State).timerHolders.Perm
              (n :: s.timerHolders) := by
            simp only [State.timerHolders,State.owns,State.pend,hc,Cmd.own?,Cmd.raw,List.append_nil,List.nil_append]
            exact List.perm_append_comm
          have howns : ({s with copies := n :: s.copies, cmd := .created n r} : State).owns = s.owns := by
            simp only [State.owns,hc,Cmd.own?]
          refine
            { books := ⟨fun m => ?_,fun m => ?_,List.nodup_cons.mpr ⟨hcopy,h.books.nodup⟩,fun m hm => ?_⟩
              watch := ⟨h.watch.alive,h.watch.live⟩
              sight := ⟨h.sight.pending,by rw [howns]; exact h.sight.owned,
                fun x hx => List.mem_cons_of_mem _ (h.sight.known x hx),fun m hm x hx => ?_⟩
              log := ⟨h.log.report,h.log.freed,fun m hm => ?_,by rw [howns]; exact h.log.accepted,
                fun m hm => List.mem_cons_of_mem _ (h.log.made m hm),h.log.expiry,h.log.ack⟩
              place := ⟨hset,fun hn => hcopy (h.log.made n hn)⟩ }
          · have := h.books.frames m
            rw [hpend.count_eq m]
            simp only [List.count_cons]
            omega
          · have := h.books.timers m
            rw [htimer.count_eq m]
            simp only [List.count_cons]
            omega
          · rcases List.mem_cons.mp hm with rfl | hm
            · exact hlt
            · exact h.books.known m hm
          · simp only [Cmd.raw,List.mem_singleton] at hm
            intro heq
            exact hcopy (hm ▸ heq ▸ h.sight.known x hx)
          · obtain ⟨h1,h2,h3⟩ := h.log.refused m hm
            refine ⟨h1,fun hx => ?_,h3⟩
            rcases List.mem_cons.mp (hpend.mem_iff.mp hx) with rfl | hx
            · exact href hm
            · exact h2 hx
  · cases hs

theorem State.Inv.begin {s s' : State} (h : s.Inv) (ha : admits s .begin = true) (hs : s.begin = some s') :
    s'.Inv := by
  simp only [State.begin] at hs
  split at hs
  · next n r hc =>
    obtain ⟨hset,hna⟩ : s.Settled ∧ n ∉ s.accepts := h.place_at hc
    split at hs
    · cases hs
      exact h.goto rfl (by simp [State.owns,hc,Cmd.own?]) (by simp [hc,Cmd.raw]) ⟨hset,hna⟩
    · next hbusy =>
      simp only [Bool.or_eq_true,not_or,Bool.not_eq_true,Option.isSome_eq_false_iff,Option.isNone_iff_eq_none] at hbusy
      simp only [admits,hbusy.1,hbusy.2,Option.isSome_none,Bool.false_or,Bool.and_eq_true,decide_eq_true_eq,
        Bool.not_eq_true'] at ha
      have hraw : n ∈ s.cmd.raw := by simp [hc,Cmd.raw]
      have hseen : s.lastSeen n = none := by
        simp only [State.lastSeen,Option.map_eq_none_iff,List.find?_eq_none,decide_eq_true_eq]
        exact h.sight.raw n hraw
      cases hs
      generalize hs' : ({s with pending := _, cmd := _} : State) = s'
      have howns : s'.owns = s.owns := by simp [← hs',State.owns,hc,Cmd.own?]
      have hframe : s'.frameHolders.Perm s.frameHolders := by
        have h1 : s.frameHolders = s.owns.map (fun x => x.owned.id) ++ [n] := by
          simp [State.frameHolders,State.pend,hbusy.1,hc,Cmd.raw]
        have h2 : s'.frameHolders = n :: s.owns.map (fun x => x.owned.id) := by
          rw [State.frameHolders,howns]
          simp [← hs',State.pend,Cmd.raw]
        rw [h1,h2]
        exact (List.perm_append_singleton _ _).symm
      have htimer : s'.timerHolders.Perm s.timerHolders := by
        have h1 : s.timerHolders = s.owns.flatMap Own.timer? ++ [n] := by
          simp [State.timerHolders,State.pend,hbusy.1,hc,Cmd.raw]
        have h2 : s'.timerHolders = n :: s.owns.flatMap Own.timer? := by
          rw [State.timerHolders,howns]
          simp [← hs',State.pend,Cmd.raw]
        rw [h1,h2]
        exact (List.perm_append_singleton _ _).symm
      have hlive : ∀ m, ¬ (m ∈ s.armed ∨ s.timer = .running m) := by
        rintro m (hm | hm)
        · rw [ha.1] at hm
          cases hm
        · have := ha.2
          rw [hm] at this
          cases this
      refine
        { books := ⟨fun m => ?_,fun m => ?_,by rw [← hs']; exact h.books.nodup,by rw [← hs']; exact h.books.known⟩
          watch := ⟨fun t ht m hm => ?_,fun t ht hacc => ?_⟩
          sight := ⟨fun t ht => ?_,by rw [howns,← hs']; exact h.sight.owned,by rw [← hs']; exact h.sight.known,
            fun m hm => ?_⟩
          log := ⟨fun t ht => ?_,by rw [← hs']; exact h.log.freed,fun m hm => ?_,fun hrun m hm => ?_,
            by rw [← hs']; exact h.log.made,by rw [← hs']; exact h.log.expiry,by rw [← hs']; exact h.log.ack⟩
          place := ?_ }
      · rw [hframe.count_eq m,← hs']
        exact h.books.frames m
      · rw [htimer.count_eq m,← hs']
        exact h.books.timers m
      · rw [← hs'] at hm
        exact absurd hm (hlive m)
      · rw [← hs'] at ht
        cases ht
        cases hacc
      · rw [← hs'] at ht ⊢
        cases ht
        exact hseen
      · rw [← hs'] at hm
        cases hm
      · rw [← hs'] at ht
        cases ht
        rfl
      · rw [hframe.mem_iff]
        rw [← hs'] at hm ⊢
        exact h.log.refused m hm
      · rw [howns]
        rw [← hs'] at hrun hm ⊢
        rcases h.log.accepted hrun m hm with hx | hx | hx
        · exact .inl hx
        · simp [State.pend,hbusy.1] at hx
        · exact .inr (.inr hx)
      · rw [← hs']
        exact ⟨⟨_,rfl,rfl,rfl,rfl,ha.1,ha.2⟩,hna⟩
  · cases hs

theorem State.Inv.drop {s s' : State} (h : s.Inv) (hs : s.drop true = some s') : s'.Inv := by
  simp only [State.drop] at hs
  split at hs
  · next n hc =>
    obtain ⟨hset,hna⟩ : s.Settled ∧ n ∉ s.accepts := h.place_at hc
    have hheld : n ∈ s.frameHolders := by simp [State.frameHolders,hc,Cmd.raw]
    obtain ⟨-,hzero,hcopy⟩ := h.books.held hheld
    cases hs
    generalize hs1 : ({s with deletes := n :: s.deletes, frees := n :: s.frees, cmd := .idle} : State) = s1
    have howns : s1.owns = s.owns := by simp [← hs1,State.owns,hc,Cmd.own?]
    have hframe : ∀ m, s.frameHolders.count m = s1.frameHolders.count m+[n].count m := by
      intro m
      rw [(count_pend s m).1,(count_pend s1 m).1,howns,hc]
      simp [← hs1,State.pend,Cmd.raw]
    have htimer : ∀ m, s.timerHolders.count m = s1.timerHolders.count m+[n].count m := by
      intro m
      rw [(count_pend s m).2,(count_pend s1 m).2,howns,hc]
      simp [← hs1,State.pend,Cmd.raw]
    have h1 : s1.Inv := by
      refine
        { books := ⟨fun m => ?_,fun m => ?_,by rw [← hs1]; exact h.books.nodup,by rw [← hs1]; exact h.books.known⟩
          watch := by rw [← hs1]; exact ⟨h.watch.alive,h.watch.live⟩
          sight := ⟨by rw [← hs1]; exact h.sight.pending,by rw [howns,← hs1]; exact h.sight.owned,
            by rw [← hs1]; exact h.sight.known,fun m hm => ?_⟩
          log := ⟨by rw [← hs1]; exact h.log.report,fun m => ?_,fun m hm => ?_,
            by rw [howns,← hs1]; exact h.log.accepted,
            by rw [← hs1]; exact h.log.made,by rw [← hs1]; exact h.log.expiry,by rw [← hs1]; exact h.log.ack⟩
          place := by rw [← hs1]; exact hset }
      · have h1 := h.books.frames m
        rw [hframe m] at h1
        have h2 : s1.frees.count m = s.frees.count m+[n].count m := by simp [← hs1,List.count_cons]
        have h3 : s1.copies = s.copies := by rw [← hs1]
        rw [h2,h3]
        omega
      · have h1 := h.books.timers m
        rw [htimer m] at h1
        have h2 : s1.deletes.count m = s.deletes.count m+[n].count m := by simp [← hs1,List.count_cons]
        have h3 : s1.copies = s.copies := by rw [← hs1]
        rw [h2,h3]
        omega
      · rw [← hs1] at hm
        cases hm
      · have h1 := h.log.freed m
        rw [← hs1]
        simp only [List.count_cons]
        omega
      · have hm' : m ∈ s.refusals := by rw [← hs1] at hm; exact hm
        obtain ⟨hr1,hr2,hr3⟩ := h.log.refused m hm'
        refine ⟨by rw [← hs1]; exact hr1,fun hx => hr2 ?_,by rw [← hs1]; exact hr3⟩
        rw [← List.count_pos_iff] at hx ⊢
        have := hframe m
        omega
    have hgoal := h1.refuse (n := n) (by rw [← hs1]; rfl) (by rw [← hs1]; rfl) (by rw [← hs1]; exact hset)
      (by rw [← hs1]; exact h.books.known n hcopy) (.inr ⟨by simp [← hs1],fun hx => ?_⟩)
    · rw [← hs1] at hgoal
      exact hgoal
    · rw [← hs1] at hx
      have h1 := h.log.freed n
      have h2 : 0 < (s.statuses.map Status.id).count n := List.count_pos_iff.mpr hx
      omega
  · cases hs

theorem State.Inv.submit {s s' : State} {ok : Bool} (h : s.Inv) (hs : s.submit ok = some s') : s'.Inv := by
  simp only [State.submit] at hs
  split at hs
  · next n c hc =>
    obtain ⟨hm,hna⟩ : s.Mine n c ∧ n ∉ s.accepts := h.place_at hc
    cases hs
    cases ok with
    | true => exact h.goto rfl (by simp [State.owns,hc,Cmd.own?]) (by simp [hc,Cmd.raw]) ⟨hm,hna⟩
    | false =>
      exact h.goto rfl (by simp [State.owns,hc,Cmd.own?]) (by simp [hc,Cmd.raw]) ⟨⟨c,hm⟩,hna,.inl rfl⟩
  · cases hs

theorem State.Inv.accept {s s' : State} {ok : Bool} (h : s.Inv) (hs : s.accept ok = some s') : s'.Inv := by
  simp only [State.accept] at hs
  split at hs
  · next n c hc =>
    obtain ⟨hm,hna⟩ : s.Mine n c ∧ n ∉ s.accepts := h.place_at hc
    cases hs
    cases ok with
    | false => exact h.goto rfl (by simp [State.owns,hc,Cmd.own?]) (by simp [hc,Cmd.raw]) ⟨⟨c,hm⟩,hna,.inr rfl⟩
    | true =>
      have h1 : ({s with cmd := .accepted n c} : State).Inv :=
        h.goto rfl (by simp [State.owns,hc,Cmd.own?]) (by simp [hc,Cmd.raw]) hm
      obtain ⟨t,hp,hid,-⟩ := hm
      exact
        { books := ⟨h1.books.frames,h1.books.timers,h1.books.nodup,h1.books.known⟩
          watch := ⟨h1.watch.alive,h1.watch.live⟩
          sight := ⟨h1.sight.pending,h1.sight.owned,h1.sight.known,h1.sight.raw⟩
          log := ⟨h1.log.report,h1.log.freed,h1.log.refused,fun hrun m hm => by
              rcases List.mem_cons.mp hm with rfl | hm
              · exact .inr (.inl (by simp [State.pend,hp,hid]))
              · exact h1.log.accepted hrun m hm,
            fun m hm => by
              rcases List.mem_cons.mp hm with rfl | hm
              · exact hid ▸ (h.books.held (mem_frameHolders_pend hp)).2.2
              · exact h1.log.made m hm,
            h1.log.expiry,h1.log.ack⟩
          place := h1.place }
  · cases hs

theorem State.Inv.taken {s s' : State} {t : Txn} {o : Owned} (h : s.Inv) (k : Same s s') (hp : s.pending = some t)
    (hp' : s'.pending = none) (ho : s'.owns.Perm (.timer o :: s.owns)) (hid : o.id = t.id) (hf : s'.frees = s.frees)
    (hd : s'.deletes = s.deletes) (hst : s'.statuses = s.statuses) (hrs : s'.restarted = s.restarted)
    (hx : ∀ x ∈ s'.expiries, x.1 = x.2) (hr : o.report = true ∨ t.id ∉ s.accepts) (sight : s'.Sight)
    (place : s'.Place) : s'.Inv where
  books := h.books.took k hp hp' ho hid hf hd
  watch := by
    refine ⟨fun u hu => ?_,fun u hu => ?_⟩
    · rw [hp'] at hu
      cases hu
    · rw [hp'] at hu
      cases hu
  sight := sight
  log := h.log.took k hp hp' ho hid hf hst hrs hx hr
  place := place

theorem State.Inv.takenByCmd {s : State} {t : Txn} {ack report : Bool} {after : After} (h : s.Inv)
    (hp : s.pending = some t) (hown : s.cmd.own? = []) (hraw : s.cmd.raw = [])
    (hack : report = true → t.completed = true → ack = t.ack) (hr : report = true ∨ t.id ∉ s.accepts)
    (hafter : ∀ n, after = .refuse n → t.id = n ∧ report = false) :
    ({s with pending := none, cmd := .own (.timer (t.own ack report)) after} : State).Inv := by
  have ho : ({s with pending := none, cmd := .own (.timer (t.own ack report)) after} : State).owns.Perm
      (.timer (t.own ack report) :: s.owns) := by
    simp only [State.owns,hown]
    exact .refl _
  have k : Same s {s with pending := none, cmd := .own (.timer (t.own ack report)) after} :=
    ⟨rfl,rfl,rfl,rfl,hraw.symm⟩
  exact h.taken k hp rfl ho rfl rfl rfl rfl rfl h.log.expiry hr (h.sight.took k hp rfl ho rfl rfl hack)
    ⟨fun u hu => (by cases hu),hafter⟩

theorem State.Inv.take {s s' : State} (h : s.Inv) (ha : admits s .take = true) (hs : s.take = some s') :
    s'.Inv := by
  simp only [State.take] at hs
  split at hs
  · next n after t hc hp =>
    obtain ⟨⟨c,hm⟩,hna,hafter⟩ : (∃ c, s.Mine n c) ∧ n ∉ s.accepts ∧ (after = .refuse n ∨ after = .done) := h.place_at hc
    have hid : t.id = n := by
      obtain ⟨u,hu,hid,-⟩ := hm
      rw [hp] at hu
      cases hu
      exact hid
    cases hs
    refine h.takenByCmd hp (by simp [hc,Cmd.own?]) (by simp [hc,Cmd.raw]) (fun hr => by cases hr) (.inr (hid ▸ hna)) ?_
    intro m hm
    rcases hafter with rfl | rfl
    · cases hm
      exact ⟨hid,rfl⟩
    · cases hm
  · next n after hc hp =>
    obtain ⟨⟨c,u,hu,-⟩,-⟩ : (∃ c, s.Mine n c) ∧ n ∉ s.accepts ∧ (after = .refuse n ∨ after = .done) := h.place_at hc
    rw [hp] at hu
    cases hu
  · next n t hc hp =>
    have hcomp : t.completed = false := by simpa [admits,hc,hp] using ha
    cases hs
    exact h.takenByCmd hp (by simp [hc,Cmd.own?]) (by simp [hc,Cmd.raw]) (fun _ hx => by rw [hcomp] at hx; cases hx)
      (.inl (h.log.report t hp)) (fun m hm => by cases hm)
  · next n hc hp =>
    obtain ⟨c,u,hu,-⟩ : ∃ c, s.Mine n c := h.place_at hc
    rw [hp] at hu
    cases hu
  · next t hc hp =>
    have hset : s.Settled := h.place_at hc
    have hcomp := (hset t hp).2
    cases hs
    exact h.takenByCmd hp (by simp [hc,Cmd.own?]) (by simp [hc,Cmd.raw]) (fun _ hx => by rw [hcomp] at hx; cases hx)
      (.inl (h.log.report t hp)) (fun m hm => by cases hm)
  · next hc hp =>
    have hset : s.Settled := h.place_at hc
    cases hs
    exact h.goto rfl (by simp [State.owns,hc,Cmd.own?]) (by simp [hc,Cmd.raw]) hset
  · cases hs

theorem State.Inv.clearDraining {s s' : State} (h : s.Inv) (hs : s.clearDraining = some s') : s'.Inv := by
  simp only [State.clearDraining] at hs
  split at hs
  · next n after hc =>
    have hplace : (∃ c, s.Mine n c) ∧ n ∉ s.accepts ∧ (after = .refuse n ∨ after = .done) := h.place_at hc
    cases hs
    exact h.goto rfl (by simp [State.owns,hc,Cmd.own?]) (by simp [hc,Cmd.raw]) hplace
  · cases hs

theorem State.Inv.failPending {s s' : State} (h : s.Inv) (hs : s.failPending = some s') : s'.Inv := by
  simp only [State.failPending] at hs
  split at hs
  · next hc =>
    have hset : s.Settled := h.place_at hc
    cases hs
    exact h.goto rfl (by simp [State.owns,hc,Cmd.own?]) (by simp [hc,Cmd.raw]) hset
  · cases hs

theorem State.Inv.fetchTimer {s s' : State} (h : s.Inv) (hs : s.fetchTimer = some s') : s'.Inv := by
  simp only [State.fetchTimer] at hs
  split at hs
  · next n c hc =>
    have hm : s.Mine n c := h.place_at hc
    have hany : s.pending.any (fun t => t.cookie = c) = true := by
      obtain ⟨t,hp,-,hcookie,-⟩ := hm
      simp [hp,hcookie]
    rw [if_pos hany] at hs
    cases hs
    exact h.goto rfl (by simp [State.owns,hc,Cmd.own?]) (by simp [hc,Cmd.raw]) hm
  · cases hs

theorem State.Inv.startTimer {s s' : State} {ok : Bool} (h : s.Inv) (hs : s.startTimer ok = some s') :
    s'.Inv := by
  simp only [State.startTimer] at hs
  split at hs
  · next n c hc =>
    have hm : s.Mine n c := h.place_at hc
    cases hs
    cases ok with
    | false => exact h.goto rfl (by simp [State.owns,hc,Cmd.own?]) (by simp [hc,Cmd.raw]) ⟨c,hm⟩
    | true =>
      have h1 : ({s with cmd := .startFailed n} : State).Inv :=
        h.goto rfl (by simp [State.owns,hc,Cmd.own?]) (by simp [hc,Cmd.raw]) ⟨c,hm⟩
      obtain ⟨t,hp,hid,hcookie,hacc,harmed,htimer⟩ := hm
      refine
        { books := ⟨h1.books.frames,h1.books.timers,h1.books.nodup,h1.books.known⟩
          watch := ⟨fun u hu m hm => ?_,fun u hu hx => ?_⟩
          sight := ⟨h1.sight.pending,h1.sight.owned,h1.sight.known,h1.sight.raw⟩
          log := ⟨h1.log.report,h1.log.freed,h1.log.refused,h1.log.accepted,h1.log.made,h1.log.expiry,h1.log.ack⟩
          place := fun u hu => ?_ }
      · have hu : t = u := Option.some.inj (hp.symm.trans hu)
        rcases hm with hm | hm
        · simp only [harmed,if_true,List.mem_singleton] at hm
          rw [hm,← hu,hid]
        · exact h.watch.alive u (hu ▸ hp) m (.inr hm)
      · have hu : t = u := Option.some.inj (hp.symm.trans hu)
        rw [← hu,hacc] at hx
        cases hx
      · have hu : t = u := Option.some.inj (hp.symm.trans hu)
        rw [← hu]
        exact ⟨hid,hcookie,hacc,.inl List.mem_cons_self⟩
  · cases hs

theorem State.Inv.markAccepted {s s' : State} (h : s.Inv) (hs : s.markAccepted = some s') : s'.Inv := by
  simp only [State.markAccepted] at hs
  split at hs
  · next n c hc =>
    have hstart : s.Started n c := h.place_at hc
    split at hs
    · next t hp =>
      obtain ⟨hid,hcookie,hacc,hway⟩ := hstart t hp
      rw [if_neg (by simp [hcookie])] at hs
      split at hs
      · cases hs
        exact h.takenByCmd hp (by simp [hc,Cmd.own?]) (by simp [hc,Cmd.raw]) (fun _ _ => rfl)
          (.inl (h.log.report t hp)) (fun m hm => by cases hm)
      · next hcomp =>
        cases hs
        have hcomp : t.completed = false := by simpa using hcomp
        generalize hs' : ({s with pending := some {t with accepted := true}, cmd := .idle} : State) = s'
        have hp' : s'.pending = some {t with accepted := true} := by rw [← hs']
        have howns : s'.owns = s.owns := by simp [← hs',State.owns,hc,Cmd.own?]
        have hpend : s'.pend = s.pend := by simp [State.pend,hp,hp']
        have k : Same s s' := by
          rw [← hs']
          exact ⟨rfl,rfl,rfl,rfl,by simp [hc,Cmd.raw]⟩
        have hholders : s'.frameHolders = s.frameHolders := by simp only [State.frameHolders,hpend,howns,k.raw]
        refine
          { books := h.books.frame k hpend howns (by rw [← hs']) (by rw [← hs'])
            watch := ⟨fun u hu m hm => ?_,fun u hu hx => ?_⟩
            sight := ⟨fun u hu => ?_,by rw [howns,← hs']; exact h.sight.owned,by rw [← hs']; exact h.sight.known,
              fun m hm => ?_⟩
            log := ⟨fun u hu => ?_,by rw [← hs']; exact h.log.freed,by rw [hholders,← hs']; exact h.log.refused,
              by rw [hpend,howns,← hs']; exact h.log.accepted,by rw [← hs']; exact h.log.made,
              by rw [← hs']; exact h.log.expiry,by rw [← hs']; exact h.log.ack⟩
            place := by
              rw [← hs']
              intro u hu
              cases hu
              exact ⟨rfl,hcomp⟩ }
        · rw [hp'] at hu
          cases hu
          rw [← hs'] at hm
          exact h.watch.alive t hp m hm
        · rw [hp'] at hu
          cases hu
          rw [← hs']
          simpa only [hid] using hway
        · rw [hp'] at hu
          cases hu
          rw [← hs']
          exact h.sight.pending t hp
        · rw [← hs'] at hm
          cases hm
        · rw [hp'] at hu
          cases hu
          exact h.log.report t hp
    · next hp =>
      cases hs
      refine h.goto rfl (by simp [State.owns,hc,Cmd.own?]) (by simp [hc,Cmd.raw]) (fun u hu => ?_)
      have hu : s.pending = some u := hu
      rw [hp] at hu
      cases hu
  · cases hs

theorem State.Watch.same {s s' : State} (h : s.Watch) (hp : s'.pending = s.pending) (ha : s'.armed = s.armed)
    (ht : ∀ m, s'.timer = .running m ↔ s.timer = .running m) : s'.Watch := by
  refine ⟨fun t hu m hm => ?_,fun t hu hacc => ?_⟩
  · rw [ha,ht] at hm
    exact h.alive t (hp ▸ hu) m hm
  · rw [ha,ht]
    exact h.live t (hp ▸ hu) hacc

/-- `hosted_mgmt_finish_owned` has deleted the timer. -/
theorem State.Inv.stopped {s s' : State} {o : Owned} {l : List Own} (h : s.Inv)
    (hs : s' = {s.deleteTimer o true with cmd := s'.cmd, wifi := s'.wifi, timer := s'.timer})
    (ho : s.owns.Perm (.timer o :: l)) (ho' : s'.owns.Perm (.status o :: l)) (hr : s'.cmd.raw = s.cmd.raw)
    (ht : ∀ m, s'.timer = .running m ↔ s.timer = .running m) (place : s'.Place) : s'.Inv := by
  simp only [State.deleteTimer,if_true] at hs
  have k : Same s s' := ⟨by rw [hs],by rw [hs],by rw [hs],by rw [hs],hr⟩
  have hp : s'.pending = s.pending := by rw [hs]
  have hmap : (s'.owns.map Own.owned).Perm (s.owns.map Own.owned) :=
    (ho'.map Own.owned).trans (ho.map Own.owned).symm
  refine
    { books := h.books.deleted k hp ho ho' (by rw [hs]) (by rw [hs])
      watch := h.watch.same hp (by rw [hs]) ht
      sight := h.sight.owns k hp (fun x hx => ?_) (by rw [hs])
      log := h.log.stage k hp hmap (by rw [hs]) (by rw [hs]) (by rw [hs]) (by rw [hs])
      place := place }
  obtain ⟨y,hy,heq⟩ := List.mem_map.mp (hmap.mem_iff.mp (List.mem_map.mpr ⟨x,hx,rfl⟩))
  exact ⟨y,hy,heq⟩

theorem report_eq (s : State) (o : Owned) (ok : Bool) :
    s.report o ok = {s with
      frees := o.id :: s.frees
      statuses := (s.report o ok).statuses
      restarted := (s.report o ok).restarted} := by
  rcases report_cases s o ok with ⟨hr,-⟩ | ⟨hr,-⟩ | ⟨hr,-⟩
  · rw [hr]
  · rw [hr]
  · rw [hr]

theorem State.Inv.unreported {s : State} {o : Owned} {rest : List Own} (h : s.Inv) (hrun : s.restarted = false)
    (ho : s.owns.Perm (.status o :: rest)) (hno : o.report = false) : o.id ∉ s.accepts := by
  intro hn
  have hmem : (.status o : Own) ∈ s.owns := ho.mem_iff.mpr List.mem_cons_self
  obtain ⟨hone,hzero,-⟩ := h.books.held (mem_frameHolders_owns hmem)
  simp only [Own.owned] at hone hzero
  rcases h.log.accepted hrun o.id hn with hx | hx | ⟨y,hy,hid,hrep⟩
  · have h1 := h.log.freed o.id
    have h2 := List.count_pos_iff.mpr hx
    omega
  · cases hp : s.pending with
    | none => simp [State.pend,hp] at hx
    | some t =>
      have hid : o.id = t.id := by simpa [State.pend,hp] using hx
      exact h.books.pend_ne_owned hp hmem hid
  · rcases List.mem_cons.mp (ho.mem_iff.mp hy) with rfl | hy
    · simp only [Own.owned,hno] at hrep
      cases hrep
    · have h1 : 0 < (rest.map (fun x => x.owned.id)).count o.id :=
        List.count_pos_iff.mpr (List.mem_map.mpr ⟨y,hy,hid⟩)
      rw [(count_pend s o.id).1,(ho.map (fun x => x.owned.id)).count_eq] at hone
      have hown : (Own.status o).owned.id = o.id := rfl
      simp only [List.map_cons,hown,List.count_cons_self] at hone
      omega

theorem State.Inv.finished {s s' : State} {o : Owned} {b : Bool} (h : s.Inv) (hrun : s.restarted = false)
    (hs : s' = {s.report o b with cmd := s'.cmd, wifi := s'.wifi, timer := s'.timer, refusals := s'.refusals})
    (ho : s.owns.Perm (.status o :: s'.owns)) (hr : s'.cmd.raw = s.cmd.raw)
    (ht : ∀ m, s'.timer = .running m ↔ s.timer = .running m)
    (href : s'.refusals = s.refusals ∨ (s'.refusals = o.id :: s.refusals ∧ o.report = false))
    (place : s'.Place) : s'.Inv := by
  have hst : s'.statuses = (s.report o b).statuses := by rw [hs]
  have hrs : s'.restarted = (s.report o b).restarted := by rw [hs]
  rw [report_eq] at hs
  have hp : s'.pending = s.pending := by rw [hs]
  have k : Same s {s' with refusals := s.refusals} := ⟨by rw [hs],by rw [hs],by rw [hs],rfl,hr⟩
  have hbooks : ({s' with refusals := s.refusals} : State).Books := h.books.freed k hp ho (by rw [hs]) (by rw [hs])
  have hsight : ({s' with refusals := s.refusals} : State).Sight :=
    h.sight.owns k hp (fun x hx => ⟨x,ho.mem_iff.mpr (List.mem_cons_of_mem _ hx),rfl⟩) (by rw [hs])
  exact
    { books := ⟨hbooks.frames,hbooks.timers,hbooks.nodup,hbooks.known⟩
      watch := h.watch.same hp (by rw [hs]) ht
      sight := ⟨hsight.pending,hsight.owned,hsight.known,hsight.raw⟩
      log := h.log.reported h.books h.sight (by rw [hs]) (by rw [hs]) (by rw [hs]) hr hp ho (by rw [hs]) hst hrs
        (by rw [hs]) (h.unreported hrun ho) href
      place := place }

theorem State.Inv.cmdTimer {s s' : State} (h : s.Inv) (hs : s.cmdTimer true = some s') : s'.Inv := by
  simp only [State.cmdTimer] at hs
  split at hs
  · next o after hc =>
    obtain ⟨hset,hafter⟩ : s.Settled ∧ ∀ n, after = .refuse n → o.id = n ∧ o.report = false := h.place_at hc
    cases hs
    refine h.stopped (o := o) (l := s.wifi.own? ++ s.timer.own?) rfl ?_ ?_ ?_ (fun m => .rfl) ⟨hset,hafter⟩
    · simp [State.owns,hc,Cmd.own?]
    · simp [State.owns,Cmd.own?,State.deleteTimer]
    · simp [hc,Cmd.raw]
  · cases hs

theorem State.Inv.cmdStatus {s s' : State} {ok : Bool} (h : s.Inv) (hrun : s.restarted = false)
    (hs : s.cmdStatus ok = some s') : s'.Inv := by
  simp only [State.cmdStatus] at hs
  split at hs
  · next o after hc =>
    obtain ⟨hset,hafter⟩ : s.Settled ∧ ∀ n, after = .refuse n → o.id = n ∧ o.report = false := h.place_at hc
    have hsettled : (s.report o ok).Settled := by
      rw [report_eq]
      exact hset
    have howns : s.owns.Perm (.status o :: (s.wifi.own? ++ s.timer.own?)) := by simp [State.owns,hc,Cmd.own?]
    cases hs
    cases after with
    | done =>
      simp only [State.ends]
      refine h.finished (o := o) (b := ok) hrun rfl ?_ (by simp [hc,Cmd.raw]) (fun m => ?_) (.inl ?_) hsettled
      · rw [report_eq]
        simpa [State.owns,Cmd.own?] using howns
      · rw [report_eq]
      · rw [report_eq]
    | refuse n =>
      obtain ⟨hid,hno⟩ := hafter n rfl
      simp only [State.ends]
      refine h.finished (o := o) (b := ok) hrun rfl ?_ (by simp [hc,Cmd.raw]) (fun m => ?_) (.inr ⟨?_,hno⟩) hsettled
      · rw [report_eq]
        simpa [State.owns,Cmd.own?] using howns
      · rw [report_eq]
      · rw [report_eq,hid]
  · cases hs

theorem State.Place.moved {s s' : State} (h : s.Place) (hc : s'.cmd = s.cmd) (hn : s'.next = s.next)
    (hcopies : s'.copies = s.copies) (hrefusals : s'.refusals = s.refusals) (haccepts : s'.accepts = s.accepts)
    (hset : s.Settled → s'.Settled) (hmine : ∀ n c, s.Mine n c → s'.Mine n c)
    (hstart : ∀ n c, s.Started n c → s'.Started n c) : s'.Place := by
  unfold State.Place at h ⊢
  rw [hc]
  cases hcmd : s.cmd with
  | idle => rw [hcmd] at h; exact hset h
  | failing => rw [hcmd] at h; exact hset h
  | checked n r =>
    rw [hcmd] at h
    rw [hn,hcopies,hrefusals]
    exact ⟨hset h.1,h.2⟩
  | created n r => rw [hcmd] at h; rw [haccepts]; exact ⟨hset h.1,h.2⟩
  | dropping n => rw [hcmd] at h; rw [haccepts]; exact ⟨hset h.1,h.2⟩
  | begun n c => rw [hcmd] at h; rw [haccepts]; exact ⟨hmine n c h.1,h.2⟩
  | submitted n c => rw [hcmd] at h; rw [haccepts]; exact ⟨hmine n c h.1,h.2⟩
  | abort n after =>
    rw [hcmd] at h
    obtain ⟨⟨c,hm⟩,hrest⟩ := h
    rw [haccepts]
    exact ⟨⟨c,hmine n c hm⟩,hrest⟩
  | aborting n after =>
    rw [hcmd] at h
    obtain ⟨⟨c,hm⟩,hrest⟩ := h
    rw [haccepts]
    exact ⟨⟨c,hmine n c hm⟩,hrest⟩
  | accepted n c => rw [hcmd] at h; exact hmine n c h
  | arming n c => rw [hcmd] at h; exact hmine n c h
  | startFailed n =>
    rw [hcmd] at h
    obtain ⟨c,hm⟩ := h
    exact ⟨c,hmine n c hm⟩
  | flip n c => rw [hcmd] at h; exact hstart n c h
  | own x after => rw [hcmd] at h; exact ⟨hset h.1,h.2⟩

theorem State.Inv.open_of_accepted {s : State} {t : Txn} (h : s.Inv) (hp : s.pending = some t)
    (ha : t.accepted = true) : t.completed = false := by
  have hmine : ∀ {n c : Nat}, ¬ s.Mine n c := by
    rintro n c ⟨u,hu,-,-,hx,-⟩
    rw [hp] at hu
    cases hu
    rw [ha] at hx
    cases hx
  have hstart : ∀ {n c : Nat}, ¬ s.Started n c := by
    intro n c hx
    have := (hx t hp).2.2.1
    rw [ha] at this
    cases this
  have hplace := h.place
  unfold State.Place at hplace
  cases hcmd : s.cmd with
  | idle => rw [hcmd] at hplace; exact (hplace t hp).2
  | failing => rw [hcmd] at hplace; exact (hplace t hp).2
  | checked n r => rw [hcmd] at hplace; exact (hplace.1 t hp).2
  | created n r => rw [hcmd] at hplace; exact (hplace.1 t hp).2
  | dropping n => rw [hcmd] at hplace; exact (hplace.1 t hp).2
  | own x after => rw [hcmd] at hplace; exact (hplace.1 t hp).2
  | begun n c => rw [hcmd] at hplace; exact absurd hplace.1 hmine
  | submitted n c => rw [hcmd] at hplace; exact absurd hplace.1 hmine
  | abort n after => rw [hcmd] at hplace; exact absurd hplace.1.choose_spec hmine
  | aborting n after => rw [hcmd] at hplace; exact absurd hplace.1.choose_spec hmine
  | accepted n c => rw [hcmd] at hplace; exact absurd hplace hmine
  | arming n c => rw [hcmd] at hplace; exact absurd hplace hmine
  | startFailed n => rw [hcmd] at hplace; exact absurd hplace.choose_spec hmine
  | flip n c => rw [hcmd] at hplace; exact absurd hplace hstart

theorem State.Inv.txDone {s s' : State} (h : s.Inv) (hs : s.txDone = some s') : s'.Inv := by
  simp only [State.txDone] at hs
  split at hs
  · next hw =>
    split at hs
    · cases hs
      exact h.goto rfl (by simp [State.owns]) rfl
        (h.place.moved rfl rfl rfl rfl rfl (fun hx => hx) (fun _ _ hx => hx) (fun _ _ hx => hx))
    · cases hs
      refine h.goto rfl ?_ rfl
        (h.place.moved rfl rfl rfl rfl rfl (fun hx => hx) (fun _ _ hx => hx) (fun _ _ hx => hx))
      cases s.pending.isSome with
      | true => simp [State.owns,hw,Wifi.own?]
      | false => simp [State.owns,hw,Wifi.own?]
  · cases hs

theorem State.Sight.noted {s s' : State} {t : Txn} {ack : Bool} (h : s.Sight) (hb : s.Books)
    (hp : s.pending = some t) (hp' : s'.pending = some {t with completed := true, ack := ack})
    (hs : s'.seen = (t.id,ack) :: s.seen) (hc : s'.cmd = s.cmd) (ho : s'.owns = s.owns)
    (hcopies : s'.copies = s.copies) : s'.Sight := by
  have hnew : s'.lastSeen t.id = some ack := by simp [State.lastSeen,hs]
  have hold : ∀ n, n ≠ t.id → s'.lastSeen n = s.lastSeen n := by
    intro n hn
    simp [State.lastSeen,hs,hn.symm]
  refine ⟨fun u hu => ?_,fun x hx hr => ?_,fun x hx => ?_,fun n hn x hx => ?_⟩
  · rw [hp'] at hu
    cases hu
    exact hnew
  · rw [ho] at hx
    rw [hold _ (hb.pend_ne_owned hp hx)]
    exact h.owned x hx hr
  · rw [hs] at hx
    rw [hcopies]
    rcases List.mem_cons.mp hx with rfl | hx
    · exact (hb.held (mem_frameHolders_pend hp)).2.2
    · exact h.known x hx
  · rw [hs] at hx
    rw [hc] at hn
    rcases List.mem_cons.mp hx with rfl | hx
    · exact (hb.raw_ne_pend hp hn).symm
    · exact h.raw n hn x hx

theorem State.Inv.txMatch {s s' : State} {data : Bytes} {ack : Bool} (h : s.Inv)
    (hs : s.txMatch data ack = some s') : s'.Inv := by
  simp only [State.txMatch] at hs
  split at hs
  · next t hw hp =>
    split at hs
    · cases hs
      exact h.goto rfl (by simp [State.owns,hw,Wifi.own?]) rfl
        (h.place.moved rfl rfl rfl rfl rfl (fun hx => hx) (fun _ _ hx => hx) (fun _ _ hx => hx))
    · split at hs
      · next hacc =>
        have hacc : t.accepted = false := by simpa using hacc
        cases hs
        generalize hs' : ({s with pending := _, seen := _, wifi := _} : State) = s'
        have hp' : s'.pending = some {t with completed := true, ack := ack} := by rw [← hs']
        have howns : s'.owns = s.owns := by simp [← hs',State.owns,hw,Wifi.own?]
        have hpend : s'.pend = s.pend := by simp [State.pend,hp,hp']
        have k : Same s s' := by
          rw [← hs']
          exact ⟨rfl,rfl,rfl,rfl,rfl⟩
        have hholders : s'.frameHolders = s.frameHolders := by simp only [State.frameHolders,hpend,howns,k.raw]
        refine
          { books := h.books.frame k hpend howns (by rw [← hs']) (by rw [← hs'])
            watch := ⟨fun u hu m hm => ?_,fun u hu hx => ?_⟩
            sight := h.sight.noted h.books hp hp' (by rw [← hs']) (by rw [← hs']) howns k.copies
            log := ⟨fun u hu => ?_,by rw [← hs']; exact h.log.freed,by rw [hholders,← hs']; exact h.log.refused,
              by rw [hpend,howns,← hs']; exact h.log.accepted,by rw [← hs']; exact h.log.made,
              by rw [← hs']; exact h.log.expiry,by rw [← hs']; exact h.log.ack⟩
            place := h.place.moved (by rw [← hs']) (by rw [← hs']) (by rw [← hs']) (by rw [← hs']) (by rw [← hs'])
              (fun hset => ?_) (fun n c hm => ?_) (fun n c hx u hu => ?_) }
        · rw [hp'] at hu
          cases hu
          rw [← hs'] at hm
          exact h.watch.alive t hp m hm
        · rw [hp'] at hu
          cases hu
          rw [show ({t with completed := true, ack := ack} : Txn).accepted = t.accepted from rfl,hacc] at hx
          cases hx
        · rw [hp'] at hu
          cases hu
          exact h.log.report t hp
        · rw [(hset t hp).1] at hacc
          cases hacc
        · obtain ⟨u,hu,hid,hcookie,-,harmed,htimer⟩ := hm
          rw [hp] at hu
          cases hu
          refine ⟨_,hp',hid,hcookie,hacc,?_,?_⟩
          · rw [← hs']
            exact harmed
          · rw [← hs']
            exact htimer
        · rw [hp'] at hu
          cases hu
          rw [← hs']
          exact hx t hp
      · next hacc =>
        have hacc : t.accepted = true := by simpa using hacc
        cases hs
        generalize hs' : ({s with pending := _, seen := _, wifi := _} : State) = s'
        have hp' : s'.pending = none := by rw [← hs']
        have k : Same s s' := by
          rw [← hs']
          exact ⟨rfl,rfl,rfl,rfl,rfl⟩
        have ho : s'.owns.Perm (.timer (t.own ack t.reportStatus) :: s.owns) := by
          simp only [← hs',State.owns,hw,Wifi.own?,List.append_nil,List.append_assoc]
          exact List.perm_middle
        -- first what it saw, then that it took the transaction
        have hnoted : ({s with
            pending := some {t with completed := true, ack := ack}
            seen := (t.id,ack) :: s.seen} : State).Sight :=
          h.sight.noted h.books hp rfl rfl rfl rfl rfl
        refine h.taken k hp hp' ho rfl (by rw [← hs']) (by rw [← hs']) (by rw [← hs']) (by rw [← hs'])
          (by rw [← hs']; exact h.log.expiry) (.inl (h.log.report t hp))
          (hnoted.took ⟨k.next,k.copies,k.accepts,k.refusals,k.raw⟩ rfl hp' ho rfl (by rw [← hs']) (fun _ _ => rfl)) ?_
        refine h.place.moved (by rw [← hs']) (by rw [← hs']) (by rw [← hs']) (by rw [← hs']) (by rw [← hs'])
          (fun _ u hu => ?_) (fun n c hm => ?_) (fun n c hx u hu => ?_)
        · rw [hp'] at hu
          cases hu
        · obtain ⟨u,hu,-,-,hx,-⟩ := hm
          rw [hp] at hu
          cases hu
          rw [hacc] at hx
          cases hx
        · rw [hp'] at hu
          cases hu
  · next hw hp =>
    cases hs
    exact h.goto rfl (by simp [State.owns,hw,Wifi.own?]) rfl
      (h.place.moved rfl rfl rfl rfl rfl (fun hx => hx) (fun _ _ hx => hx) (fun _ _ hx => hx))
  · cases hs

theorem State.Inv.wifiTimer {s s' : State} (h : s.Inv) (hs : s.wifiTimer true = some s') : s'.Inv := by
  simp only [State.wifiTimer] at hs
  split at hs
  · next o hw =>
    cases hs
    refine h.stopped (o := o) (l := s.cmd.own? ++ s.timer.own?) rfl ?_ ?_ rfl (fun m => .rfl)
      (h.place.moved rfl rfl rfl rfl rfl (fun hx => hx) (fun _ _ hx => hx) (fun _ _ hx => hx))
    · simp only [State.owns,hw,Wifi.own?,List.append_assoc]
      exact List.perm_middle
    · simp only [State.owns,Wifi.own?,State.deleteTimer,if_true,List.append_assoc]
      exact List.perm_middle
  · cases hs

theorem State.Place.reported {s s' : State} {o : Owned} {ok : Bool} (h : s.Place)
    (hs : s' = {s.report o ok with wifi := s'.wifi, timer := s'.timer})
    (ht : ∀ m, s'.timer = .running m ↔ s.timer = .running m) : s'.Place := by
  rw [report_eq] at hs
  have hexp : s.timer.expiring = false → s'.timer.expiring = false := by
    intro hx
    cases ht' : s'.timer with
    | running m =>
      rw [(ht m).mp ht'] at hx
      cases hx
    | idle => rfl
    | own x => rfl
    | ending => rfl
  refine h.moved (by rw [hs]) (by rw [hs]) (by rw [hs]) (by rw [hs]) (by rw [hs]) (fun hset u hu => ?_)
    (fun n c hm => ?_) (fun n c hx u hu => ?_)
  · exact hset u (by rw [hs] at hu; exact hu)
  · obtain ⟨u,hu,hid,hcookie,hacc,harmed,htimer⟩ := hm
    exact ⟨u,by rw [hs]; exact hu,hid,hcookie,hacc,by rw [hs]; exact harmed,hexp htimer⟩
  · obtain ⟨hid,hcookie,hacc,hway⟩ := hx u (by rw [hs] at hu; exact hu)
    refine ⟨hid,hcookie,hacc,?_⟩
    rw [ht,show s'.armed = s.armed by rw [hs]]
    exact hway

theorem State.Inv.wifiStatus {s s' : State} {ok : Bool} (h : s.Inv) (hrun : s.restarted = false)
    (hs : s.wifiStatus ok = some s') : s'.Inv := by
  simp only [State.wifiStatus] at hs
  split at hs
  · next o hw =>
    have ht : ∀ m, (s.report o ok).timer = .running m ↔ s.timer = .running m := fun m => by rw [report_eq]
    cases hs
    refine h.finished (o := o) (b := ok) hrun rfl ?_ ?_ ht (.inl ?_) (h.place.reported rfl ht)
    · rw [report_eq]
      simp only [State.owns,hw,Wifi.own?,List.append_nil,List.append_assoc]
      exact List.perm_middle
    · rw [report_eq]
    · rw [report_eq]
  · cases hs

theorem State.Inv.timerTimer {s s' : State} (h : s.Inv) (hs : s.timerTimer true = some s') : s'.Inv := by
  simp only [State.timerTimer] at hs
  split at hs
  · next o hw =>
    have hno : ∀ m, s.timer ≠ .running m := fun m hx => by rw [hw] at hx; cases hx
    cases hs
    refine h.stopped (o := o) (l := s.cmd.own? ++ s.wifi.own?) rfl ?_ ?_ rfl (fun m => ?_) ?_
    · simp only [State.owns,hw,Timer.own?]
      exact List.perm_append_singleton _ _
    · simp only [State.owns,Timer.own?,State.deleteTimer,if_true]
      exact List.perm_append_singleton _ _
    · exact ⟨fun hx => (by cases hx),fun hx => absurd hx (hno m)⟩
    · refine h.place.moved rfl rfl rfl rfl rfl (fun hx => hx) (fun n c hm => ?_) (fun n c hx u hu => ?_)
      · obtain ⟨u,hu,hid,hcookie,hacc,harmed,-⟩ := hm
        exact ⟨u,hu,hid,hcookie,hacc,harmed,rfl⟩
      · obtain ⟨hid,hcookie,hacc,hway⟩ := hx u hu
        exact ⟨hid,hcookie,hacc,.inl (hway.resolve_right (hno n))⟩
  · cases hs

theorem State.Inv.timerStatus {s s' : State} {ok : Bool} (h : s.Inv) (hrun : s.restarted = false)
    (hs : s.timerStatus ok = some s') : s'.Inv := by
  simp only [State.timerStatus] at hs
  split at hs
  · next o hw =>
    have ht : ∀ m, Timer.ending = .running m ↔ s.timer = .running m := by
      intro m
      rw [hw]
      exact ⟨fun hx => (by cases hx),fun hx => (by cases hx)⟩
    cases hs
    refine h.finished (o := o) (b := ok) hrun rfl ?_ ?_ ht (.inl ?_) (h.place.reported rfl ht)
    · rw [report_eq]
      simp only [State.owns,hw,Timer.own?,List.append_nil]
      exact List.perm_append_singleton _ _
    · rw [report_eq]
    · rw [report_eq]
  · cases hs

theorem State.Inv.expire {s s' : State} {n : Nat} (h : s.Inv) (hs : s.expire n = some s') : s'.Inv := by
  simp only [State.expire] at hs
  split at hs
  · next hx =>
    obtain ⟨ht,hn⟩ := hx
    have hno : ∀ m, s.timer ≠ .running m := fun m hx => by rw [ht] at hx; cases hx
    have howns : ({s with armed := s.armed.erase n, timer := .running n} : State).owns = s.owns := by
      simp [State.owns,ht,Timer.own?]
    have hmine : ∀ {m c : Nat}, ¬ s.Mine m c := by
      rintro m c ⟨-,-,-,-,-,harmed,-⟩
      rw [harmed] at hn
      cases hn
    cases hs
    refine
      { books := h.books.frame ⟨rfl,rfl,rfl,rfl,rfl⟩ rfl howns rfl rfl
        watch := ⟨fun u hu m hm => ?_,fun u hu hacc => ?_⟩
        sight := h.sight.owns ⟨rfl,rfl,rfl,rfl,rfl⟩ rfl (fun x hx => ⟨x,howns ▸ hx,rfl⟩) rfl
        log := h.log.stage ⟨rfl,rfl,rfl,rfl,rfl⟩ rfl (by rw [howns]) rfl rfl rfl rfl
        place := h.place.moved rfl rfl rfl rfl rfl (fun hx => hx) (fun _ _ hm => absurd hm hmine)
          (fun m c hx u hu => ?_) }
    · rcases hm with hm | hm
      · exact h.watch.alive u hu m (.inl (List.mem_of_mem_erase hm))
      · cases hm
        exact h.watch.alive u hu n (.inl hn)
    · exact .inr (congrArg Timer.running (h.watch.alive u hu n (.inl hn)))
    · obtain ⟨hid,hcookie,hacc,-⟩ := hx u hu
      exact ⟨hid,hcookie,hacc,.inr (congrArg Timer.running ((h.watch.alive u hu n (.inl hn)).trans hid))⟩
  · cases hs

theorem State.Inv.takeTimeout {s s' : State} (h : s.Inv) (ha : admits s .takeTimeout = true)
    (hs : s.takeTimeout = some s') : s'.Inv := by
  simp only [State.takeTimeout] at hs
  split at hs
  · next n t ht hp =>
    have hid : n = t.id := h.watch.alive t hp n (.inr ht)
    have hcomp : t.completed = false := by
      have hx : t.accepted = true ∨ t.completed = false := by simpa [admits,hp] using ha
      rcases hx with hx | hx
      · exact h.open_of_accepted hp hx
      · exact hx
    cases hs
    generalize hs' : ({s with pending := _, draining := _, expiries := _, timer := _} : State) = s'
    have hp' : s'.pending = none := by rw [← hs']
    have k : Same s s' := by
      rw [← hs']
      exact ⟨rfl,rfl,rfl,rfl,rfl⟩
    have ho : s'.owns.Perm (.timer (t.own false t.reportStatus) :: s.owns) := by
      simp only [← hs',State.owns,ht,Timer.own?,List.append_nil]
      exact List.perm_append_singleton _ _
    refine h.taken k hp hp' ho rfl (by rw [← hs']) (by rw [← hs']) (by rw [← hs']) (by rw [← hs']) (fun x hx => ?_)
      (.inl (h.log.report t hp))
      (h.sight.took k hp hp' ho rfl (by rw [← hs']) (fun _ hx => by rw [hcomp] at hx; cases hx))
      (h.place.moved (by rw [← hs']) (by rw [← hs']) (by rw [← hs']) (by rw [← hs']) (by rw [← hs'])
        (fun _ u hu => ?_) (fun m c hm => ?_) (fun m c _ u hu => ?_))
    · rw [← hs'] at hx
      rcases List.mem_cons.mp hx with rfl | hx
      · exact hid
      · exact h.log.expiry x hx
    · rw [hp'] at hu
      cases hu
    · obtain ⟨-,-,-,-,-,-,hx⟩ := hm
      rw [ht] at hx
      cases hx
    · rw [hp'] at hu
      cases hu
  · next n ht hp =>
    have howns : ({s with timer := .idle} : State).owns = s.owns := by simp [State.owns,ht,Timer.own?]
    have hnone : ∀ u, s.pending ≠ some u := fun u hu => by rw [hp] at hu; cases hu
    cases hs
    exact
      { books := h.books.frame ⟨rfl,rfl,rfl,rfl,rfl⟩ rfl howns rfl rfl
        watch := ⟨fun u hu => absurd hu (hnone u),fun u hu => absurd hu (hnone u)⟩
        sight := h.sight.owns ⟨rfl,rfl,rfl,rfl,rfl⟩ rfl (fun x hx => ⟨x,howns ▸ hx,rfl⟩) rfl
        log := h.log.stage ⟨rfl,rfl,rfl,rfl,rfl⟩ rfl (by rw [howns]) rfl rfl rfl rfl
        place := h.place.moved rfl rfl rfl rfl rfl (fun hx => hx) (fun m c hm => absurd hm.choose_spec.1 (hnone _))
          (fun m c _ u hu => absurd hu (hnone u)) }
  · cases hs

theorem State.Inv.espRestart {s s' : State} (h : s.Inv) (hs : s.espRestart = some s') : s'.Inv := by
  simp only [State.espRestart] at hs
  split at hs
  · cases hs
    exact
      { books := ⟨h.books.frames,h.books.timers,h.books.nodup,h.books.known⟩
        watch := ⟨h.watch.alive,h.watch.live⟩
        sight := ⟨h.sight.pending,h.sight.owned,h.sight.known,h.sight.raw⟩
        log := ⟨h.log.report,h.log.freed,h.log.refused,fun hx => (by cases hx),h.log.made,h.log.expiry,h.log.ack⟩
        place := h.place.moved rfl rfl rfl rfl rfl (fun hx => hx) (fun _ _ hx => hx) (fun _ _ hx => hx) }
  · cases hs

theorem State.Books.not_deleted {s : State} {t : Txn} (h : s.Books) (hp : s.pending = some t) : t.id ∉ s.deletes := by
  intro hn
  have h1 := h.timers t.id
  have h2 := List.nodup_iff_count.mp h.nodup t.id
  have h3 := List.count_pos_iff.mpr hn
  have h4 : 0 < s.timerHolders.count t.id := List.count_pos_iff.mpr (by simp [State.timerHolders,State.pend,hp])
  omega

theorem State.Inv.retire {s s' : State} {n : Nat} (h : s.Inv) (hs : s.retire n = some s') : s'.Inv := by
  simp only [State.retire] at hs
  split at hs
  · next hx =>
    obtain ⟨-,hn⟩ := hx
    have hkeep : ∀ u, s.pending = some u → ∀ m, m = u.id → m ∈ s.armed → m ∈ s.armed.erase n := by
      rintro u hu m rfl hm
      refine (List.mem_erase_of_ne ?_).mpr hm
      rintro rfl
      exact h.books.not_deleted hu hn
    cases hs
    refine
      { books := ⟨h.books.frames,h.books.timers,h.books.nodup,h.books.known⟩
        watch := ⟨fun u hu m hm => ?_,fun u hu hacc => ?_⟩
        sight := ⟨h.sight.pending,h.sight.owned,h.sight.known,h.sight.raw⟩
        log := ⟨h.log.report,h.log.freed,h.log.refused,h.log.accepted,h.log.made,h.log.expiry,h.log.ack⟩
        place := h.place.moved rfl rfl rfl rfl rfl (fun hx => hx) (fun m c hm => ?_) (fun m c hx u hu => ?_) }
    · exact h.watch.alive u hu m (hm.imp_left List.mem_of_mem_erase)
    · exact (h.watch.live u hu hacc).imp_left (hkeep u hu _ rfl)
    · obtain ⟨u,hu,hid,hcookie,hacc,harmed,htimer⟩ := hm
      exact ⟨u,hu,hid,hcookie,hacc,by simp [harmed],htimer⟩
    · obtain ⟨hid,hcookie,hacc,hway⟩ := hx u hu
      exact ⟨hid,hcookie,hacc,hway.imp_left (hkeep u hu _ hid.symm)⟩
  · cases hs

theorem step_cases {s s' : State} {a : Act} (h : step s a = some s') :
    s.restarted = false ∧ (s.command a = some s' ∨ s.wifiTask a = some s' ∨ s.timerTask a = some s') := by
  unfold step at h
  split at h
  · cases h
  · next hrun =>
    refine ⟨by simpa using hrun,?_⟩
    rcases Option.or_eq_some_iff.mp h with h | ⟨-,h⟩
    · rcases Option.or_eq_some_iff.mp h with h | ⟨-,h⟩
      · exact .inl h
      · exact .inr (.inl h)
    · exact .inr (.inr h)

theorem command_inv {s s' : State} {a : Act} (h : s.Inv) (ha : admits s a = true) (hrun : s.restarted = false)
    (hs : s.command a = some s') : s'.Inv := by
  cases a with
  | request r => exact h.request hs
  | create cb mem => exact h.create hs
  | begin => exact h.begin ha hs
  | drop deleted =>
    cases deleted with
    | true => exact h.drop hs
    | false => cases ha
  | submit ok => exact h.submit hs
  | accept ok => exact h.accept hs
  | clearDraining => exact h.clearDraining hs
  | take => exact h.take ha hs
  | fetchTimer => exact h.fetchTimer hs
  | startTimer ok => exact h.startTimer hs
  | markAccepted => exact h.markAccepted hs
  | failPending => exact h.failPending hs
  | cmdTimer deleted =>
    cases deleted with
    | true => exact h.cmdTimer hs
    | false => cases ha
  | cmdStatus ok => exact h.cmdStatus hrun hs
  | _ => cases hs

theorem wifiTask_inv {s s' : State} {a : Act} (h : s.Inv) (ha : admits s a = true) (hrun : s.restarted = false)
    (hs : s.wifiTask a = some s') : s'.Inv := by
  cases a with
  | txDone => exact h.txDone hs
  | txMatch data ack => exact h.txMatch hs
  | wifiTimer deleted =>
    cases deleted with
    | true => exact h.wifiTimer hs
    | false => cases ha
  | wifiStatus ok => exact h.wifiStatus hrun hs
  | _ => cases hs

theorem timerTask_inv {s s' : State} {a : Act} (h : s.Inv) (ha : admits s a = true) (hrun : s.restarted = false)
    (hs : s.timerTask a = some s') : s'.Inv := by
  cases a with
  | expire n => exact h.expire hs
  | takeTimeout => exact h.takeTimeout ha hs
  | timerTimer deleted =>
    cases deleted with
    | true => exact h.timerTimer hs
    | false => cases ha
  | timerStatus ok => exact h.timerStatus hrun hs
  | espRestart => exact h.espRestart hs
  | retire n => exact h.retire hs
  | _ => cases hs

theorem step_inv {s s' : State} {a : Act} (h : s.Inv) (ha : admits s a = true) (hs : step s a = some s') : s'.Inv := by
  obtain ⟨hrun,hs | hs | hs⟩ := step_cases hs
  · exact command_inv h ha hrun hs
  · exact wifiTask_inv h ha hrun hs
  · exact timerTask_inv h ha hrun hs

theorem init_inv : ({} : State).Inv where
  books := ⟨fun n => rfl,fun n => rfl,List.nodup_nil,fun n hn => by cases hn⟩
  watch := ⟨fun t ht => (by cases ht),fun t ht => by cases ht⟩
  sight := ⟨fun t ht => (by cases ht),fun x hx => (by cases hx),fun x hx => (by cases hx),fun n hn => by cases hn⟩
  log := ⟨fun t ht => (by cases ht),fun n => Nat.le_refl _,fun n hn => (by cases hn),fun _ n hn => (by cases hn),
    fun n hn => (by cases hn),fun x hx => (by cases hx),fun x hx => by cases hx⟩
  place := fun t ht => by cases ht

theorem mgmt_tx_safe (as : List Act) (s : State) (hok : Along step (fun s a => admits s a = true) {} as)
    (hs : exec step {} as = some s) : s.Safe :=
  (exec_invariant_along (fun _ _ _ hi ha hx => step_inv hi ha hx) hok init_inv hs).safe

def deauthFrame : Bytes := 0xc0 :: 0 :: List.replicate 24 3

/-- A frame whose callback comes before its acceptance, one whose callback comes after it, and a
request that is refused while that one is pending. -/
def twoFrames : List Act :=
  [.request ⟨true,7,deauthFrame,true⟩,.create true true,.begin,.submit true,.txDone,.txMatch deauthFrame true,
   .accept true,.fetchTimer,.startTimer true,.markAccepted,.cmdTimer true,.retire 0,.cmdStatus true,
   .request ⟨true,8,deauthFrame,true⟩,.create true true,.begin,.submit true,.accept true,.fetchTimer,
   .startTimer true,.markAccepted,.request ⟨true,9,deauthFrame,true⟩,.txDone,.txMatch deauthFrame false,
   .expire 1,.takeTimeout,.wifiTimer true,.wifiStatus true]

theorem mgmt_tx_safe_two :
    (exec step {} twoFrames).any (fun s => decide (s.statuses = [⟨1,false,some false⟩,⟨0,true,some true⟩] ∧
      s.refusals = [2] ∧ s.frees = [1,0] ∧ s.deletes = [1,0])) = true ∧
    ∃ s, exec step {} twoFrames = some s ∧ s.Safe := by
  refine ⟨by decide +kernel,?_⟩
  cases hs : exec step {} twoFrames with
  | none =>
    have : (exec step {} twoFrames).isSome = true := by decide +kernel
    simp [hs] at this
  | some s => exact ⟨s,rfl,mgmt_tx_safe twoFrames s (by decide +kernel) hs⟩

/-- The timer of the first frame expires as its callback takes it; the expiry then finds the second. -/
def expiryMeetsNext : List Act :=
  [.request ⟨true,7,deauthFrame,true⟩,.create true true,.begin,.submit true,.accept true,.fetchTimer,
   .startTimer true,.markAccepted,.txDone,.txMatch deauthFrame true,.expire 0,.wifiTimer true,.wifiStatus true,
   .request ⟨true,8,deauthFrame,true⟩,.create true true,.begin,.takeTimeout]

/-- The callback saw the ack, and then the timer does not start. -/
def timerNotStarted : List Act :=
  [.request ⟨true,7,deauthFrame,true⟩,.create true true,.begin,.submit true,.txDone,.txMatch deauthFrame true,
   .accept true,.fetchTimer,.startTimer false,.take,.cmdTimer true,.cmdStatus true]

/-- The second request is refused, because its frame was not taken, and gets a status all the same. -/
def refusedReported : List Act :=
  expiryMeetsNext ++ ([.submit false,.clearDraining,.take,.timerTimer true,.timerStatus true] : List Act)

theorem mgmt_tx_broken :
    (exec step {} expiryMeetsNext).any (fun s => decide (¬ s.Safe ∧ s.expiries = [(0,1)])) = true ∧
    (exec step {} timerNotStarted).any (fun s => decide (¬ s.Safe ∧ s.statuses = [⟨0,false,some true⟩])) = true ∧
    (exec step {} refusedReported).any (fun s => decide (¬ s.Safe ∧ 1 ∈ s.refusals ∧ 1 ∈ s.statuses.map Status.id)) = true :=
  ⟨by decide +kernel,by decide +kernel,by decide +kernel⟩

end EspHosted.MgmtTx
