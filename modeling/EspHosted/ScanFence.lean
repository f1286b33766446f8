import Mathlib.Data.List.Basic
import EspHosted.Lib.Run

/-!
Scans and the stop fence of the firmware, `cmd.c`: the command task, the event task and the events
queued between them. A step is one critical section of `s_scan_lock`, one access to another flag or
to the semaphore, one call of the Wi-Fi library or one event posted.
-/

set_option autoImplicit false

namespace EspHosted.ScanFence
open Run

inductive Event where
  /-- `WIFI_EVENT_SCAN_DONE` of one scan. -/
  | scanDone (n : Nat)
  | staStop
  | fence
  | other
  deriving DecidableEq, Repr

inductive Cmd where
  | idle
  /-- `process_start_scan`, past its first look at the flags -/
  | scanChecked
  /-- `s_scan_in_progress` is set, `esp_wifi_scan_start` is next. -/
  | published
  | scanning
  /-- `process_auth_request` in front of the blocking lookup, and in it -/
  | authChecked
  | authLookup
  /-- `hosted_wifi_stop`; `sta` is `expect_sta_stop` -/
  | stopEntered (sta : Bool)
  | stopMark (sta : Bool)
  | stopAbort (sta : Bool)
  | stopWifi (sta : Bool)
  | stopWait
  /-- `waited`: the STA_STOP event was waited for. -/
  | stopClear (waited : Bool)
  | stopEmpty (waited : Bool)
  | stopPost
  /-- Waits for the fence that was posted as event `k`. -/
  | stopFence (k : Nat)
  | restarted
  deriving DecidableEq, Repr

inductive Task where
  | idle
  /-- Past the look at `s_auth_scan_in_progress`. -/
  | scanDone (n : Nat)
  /-- `s_sta_stop_ack_pending` was seen set. -/
  | staSeen
  | staGive
  | fenceGive
  deriving DecidableEq, Repr

inductive StopRet where
  | ok
  /-- `ESP_ERR_WIFI_NOT_STARTED` and `ESP_ERR_WIFI_NOT_INIT` -/
  | notStarted
  | failed
  deriving DecidableEq, Repr

/-- A return of `hosted_wifi_stop`. -/
structure Return where
  drain : Bool
  /-- An event posted before the fence was not handled yet. -/
  undelivered : Bool
  deriving DecidableEq, Repr

structure State where
  wifiStarted : Bool := false
  stopInProgress : Bool := false
  staStopAckPending : Bool := false
  scanInProgress : Bool := false
  scanDrainPending : Bool := false
  authScanInProgress : Bool := false
  /-- The binary semaphore `s_wifi_stop_ack`. -/
  stopAck : Bool := false
  cmd : Cmd := .idle
  task : Task := .idle
  /-- Events with their numbers, in the order of posting. -/
  queue : List (Nat × Event) := []
  posted : Nat := 0
  /-- The number of the last event dispatched. -/
  handled : Nat := 0
  /-- Scans of the Wi-Fi library that can still post their SCAN_DONE. -/
  running : List Nat := []
  /-- Those that were running when a fence was posted. -/
  late : List Nat := []
  scans : Nat := 0
  /-- The scan that `s_scan_in_progress` was last set for. -/
  current : Nat := 0
  /-- The scan of the event and the scan that was reported, by `handle_scan_event`. -/
  reports : List (Nat × Nat) := []
  /-- Accepted scans, with `s_scan_drain_pending` at that time. -/
  accepts : List (Nat × Bool) := []
  returns : List Return := []
  deriving DecidableEq, Repr

def State.post (s : State) (e : Event) : State :=
  {s with queue := s.queue ++ [(s.posted+1,e)], posted := s.posted+1}

inductive Act where
  | scanRequest
  /-- `mode`: `esp_wifi_get_mode` finds one. -/
  | scanPublish (mode : Bool)
  | scanStart (ok : Bool)
  | scanRespond
  | authRequest
  | authStart
  | authDone
  | wifiStart
  | wifiStop (mode : Bool)
  | takeAck
  | markStop
  | scanAbort
  | libStop (r : StopRet)
  | ackTaken
  | clearPending
  | postFence
  | restart
  /-- Posts of the Wi-Fi library. -/
  | postStaStop
  | postOther
  | postScanDone (n : Nat)
  | dispatch
  | handle
  deriving DecidableEq, Repr

def State.postScanDone (s : State) (n : Nat) : Option State :=
  if n ∈ s.running ∨ n ∈ s.late then
    some ({s with running := s.running.erase n, late := s.late.erase n}.post (.scanDone n))
  else none

/-- `wifi_event_handler` and `hosted_scan_fence_handler`, up to the first shared access. -/
def State.dispatch (s : State) : Option State :=
  match s.task, s.queue with
  | .idle, (k,e) :: rest =>
    let s := {s with queue := rest, handled := k}
    match e with
    | .scanDone n => some (if s.authScanInProgress then s else {s with task := .scanDone n})
    | .staStop => some (if s.staStopAckPending then {s with task := .staSeen} else s)
    | .fence => some {s with scanDrainPending := false, task := .fenceGive}
    | .other => some s
  | _, _ => none

def State.handle (s : State) : Option State :=
  match s.task with
  | .idle => none
  | .scanDone n =>
    if s.scanDrainPending then some {s with scanDrainPending := false, task := .idle}
    else if s.scanInProgress then
      some {s with scanInProgress := false, reports := (n,s.current) :: s.reports, task := .idle}
    else some {s with task := .idle}
  | .staSeen => some {s with staStopAckPending := false, task := .staGive}
  | .staGive | .fenceGive => some {s with stopAck := true, task := .idle}

/-- `hosted_scan_abort` in `hosted_wifi_stop` -/
def State.scanAbort (s : State) : State :=
  if s.scanInProgress then {s with scanInProgress := false, scanDrainPending := true} else s

/-- `esp_wifi_stop` and what follows at once. -/
def State.libStop (s : State) (sta : Bool) : StopRet → State
  | .ok => {s with running := [], late := [], wifiStarted := false, cmd := if sta then .stopWait else .stopClear false}
  | .notStarted => {s with wifiStarted := false, cmd := .stopClear false}
  | .failed => {s with cmd := .stopClear false}

def State.undelivered (s : State) (k : Nat) : Bool :=
  s.queue.any (fun e => e.1 < k) || (s.task ≠ .idle && s.handled < k)

def step (s : State) : Act → Option State
  | .scanRequest =>
    if s.cmd = .idle then
      some (if s.scanInProgress || s.scanDrainPending then s else {s with cmd := .scanChecked})
    else none
  | .scanPublish mode =>
    if s.cmd = .scanChecked then
      if s.wifiStarted && !s.stopInProgress && mode then
        if s.scanInProgress || s.scanDrainPending then some {s with cmd := .idle}
        else some {s with scanInProgress := true, current := s.scans, scans := s.scans+1, cmd := .published}
      else some {s with cmd := .idle}
    else none
  | .scanStart ok =>
    if s.cmd = .published then
      some (if ok then {s with running := s.running ++ [s.current], cmd := .scanning}
        else {s with scanInProgress := false, cmd := .idle})
    else none
  | .scanRespond =>
    if s.cmd = .scanning then
      some {s with accepts := (s.current,s.scanDrainPending) :: s.accepts, cmd := .idle}
    else none
  | .authRequest =>
    if s.cmd = .idle then
      some (if s.scanInProgress || s.scanDrainPending then s else {s with cmd := .authChecked})
    else none
  | .authStart => if s.cmd = .authChecked then some {s with authScanInProgress := true, cmd := .authLookup} else none
  | .authDone => if s.cmd = .authLookup then some {s with authScanInProgress := false, cmd := .idle} else none
  | .wifiStart => if s.cmd = .idle then some {s with wifiStarted := true} else none
  | .wifiStop mode => if s.cmd = .idle then some {s with cmd := .stopEntered (s.wifiStarted && mode)} else none
  | .takeAck =>
    match s.cmd with
    | .stopEntered sta => some {s with stopAck := false, cmd := .stopMark sta}
    | .stopEmpty _ => some {s with stopAck := false, cmd := .stopPost}
    | _ => none
  | .markStop =>
    match s.cmd with
    | .stopMark sta => some {s with staStopAckPending := sta, stopInProgress := true, cmd := .stopAbort sta}
    | _ => none
  | .scanAbort =>
    match s.cmd with
    | .stopAbort sta => some {s.scanAbort with cmd := .stopWifi sta}
    | _ => none
  | .libStop r =>
    match s.cmd with
    | .stopWifi sta => some (s.libStop sta r)
    | _ => none
  | .ackTaken =>
    if s.stopAck then
      match s.cmd with
      | .stopWait => some {s with stopAck := false, cmd := .stopClear true}
      | .stopFence k =>
        some {s with
          stopAck := false
          stopInProgress := false
          cmd := .idle
          returns := ⟨s.scanDrainPending,s.undelivered k⟩ :: s.returns}
      | _ => none
    else none
  | .clearPending =>
    match s.cmd with
    | .stopClear waited => some {s with staStopAckPending := false, cmd := .stopEmpty waited}
    | _ => none
  | .postFence =>
    if s.cmd = .stopPost then
      some {s.post .fence with running := [], late := s.late ++ s.running, cmd := .stopFence (s.posted+1)}
    else none
  | .restart =>
    match s.cmd with
    | .stopWait | .stopPost | .stopFence _ => some {s with cmd := .restarted}
    | _ => none
  | .postStaStop => if s.cmd = .restarted then none else some (s.post .staStop)
  | .postOther => if s.cmd = .restarted then none else some (s.post .other)
  | .postScanDone n => if s.cmd = .restarted then none else s.postScanDone n
  | .dispatch => if s.cmd = .restarted then none else s.dispatch
  | .handle => if s.cmd = .restarted then none else s.handle

structure State.Safe (s : State) : Prop where
  own : ∀ r ∈ s.reports, r.1 = r.2
  once : (s.reports.map Prod.snd).Nodup
  exclusive : ¬ (s.scanInProgress = true ∧ s.scanDrainPending = true)
  accepted : ∀ a ∈ s.accepts, a.2 = false
  fenced : ∀ r ∈ s.returns, r.drain = false ∧ r.undelivered = false

instance (s : State) : Decidable s.Safe :=
  decidable_of_iff
    ((∀ r ∈ s.reports, r.1 = r.2) ∧ (s.reports.map Prod.snd).Nodup ∧
      ¬ (s.scanInProgress = true ∧ s.scanDrainPending = true) ∧ (∀ a ∈ s.accepts, a.2 = false) ∧
      ∀ r ∈ s.returns, r.drain = false ∧ r.undelivered = false)
    ⟨fun ⟨h1,h2,h3,h4,h5⟩ => ⟨h1,h2,h3,h4,h5⟩,fun h => ⟨h.own,h.once,h.exclusive,h.accepted,h.fenced⟩⟩

/-- Where a stop went wrong: a scan it left running posts its SCAN_DONE behind the fence, or the
STA_STOP handler gives the semaphore after it was emptied for the fence. -/
def admits (s : State) : Act → Bool
  | .postScanDone n => n ∉ s.late
  | .takeAck =>
    match s.cmd with
    | .stopEmpty waited => waited || (s.task ≠ .staSeen && s.task ≠ .staGive)
    | _ => true
  | _ => true

def Event.scan : Event → List Nat
  | .scanDone n => [n]
  | _ => []

def Task.scan : Task → List Nat
  | .scanDone n => [n]
  | _ => []

/-- The SCAN_DONE events that are still to come, on their way or being handled. -/
def State.pend (s : State) : List Nat := s.running ++ s.queue.flatMap (fun e => e.2.scan) ++ s.task.scan

structure State.Scans (s : State) : Prop where
  single : s.pend.length ≤ 1
  own : s.scanInProgress = true → ∀ n ∈ s.pend, n = s.current
  free : s.scanInProgress = false → s.scanDrainPending = false → s.pend = []
  exclusive : ¬ (s.scanInProgress = true ∧ s.scanDrainPending = true)
  lookup : s.authScanInProgress = true → s.cmd = .authLookup

def State.Place (s : State) : Prop :=
  match s.cmd with
  | .published => s.scanInProgress = true ∧ s.scanDrainPending = false ∧ s.pend = []
  | .scanning => s.scanDrainPending = false
  | .authChecked | .authLookup => s.scanInProgress = false ∧ s.scanDrainPending = false
  | .stopWifi _ | .stopWait | .stopClear _ | .stopEmpty _ | .stopPost | .stopFence _ => s.scanInProgress = false
  | _ => True

structure State.Numbers (s : State) : Prop where
  known : ∀ r ∈ s.reports, r.2 < s.scans
  current : s.scanInProgress = true → s.current < s.scans ∧ ∀ r ∈ s.reports, r.2 ≠ s.current

/-- Nobody has given the semaphore and nobody is about to. -/
def State.Quiet (s : State) : Prop :=
  s.stopAck = false ∧ s.staStopAckPending = false ∧ s.task ≠ .staSeen ∧ s.task ≠ .staGive ∧ s.task ≠ .fenceGive

/-- A STA_STOP event gives the semaphore once. -/
def State.Once (s : State) : Prop :=
  s.task ≠ .fenceGive ∧
  ((s.stopAck = false ∧ s.staStopAckPending = true ∧ s.task ≠ .staGive) ∨
    (s.stopAck = false ∧ s.staStopAckPending = false ∧ s.task = .staGive) ∨
    (s.stopAck = true ∧ s.staStopAckPending = false ∧ s.task ≠ .staSeen ∧ s.task ≠ .staGive))

def State.FenceFree (s : State) : Prop := ∀ e ∈ s.queue, e.2 ≠ .fence

/-- The fence is queued with no SCAN_DONE behind it, or its handler has run. -/
def State.Fence (s : State) (k : Nat) : Prop :=
  (∃ pre post, s.queue = pre ++ (k,.fence) :: post ∧ (∀ e ∈ pre, e.2 ≠ .fence) ∧
    (∀ e ∈ post, e.2 ≠ .fence ∧ e.2.scan = []) ∧ s.running = [] ∧ s.stopAck = false ∧ s.task ≠ .fenceGive) ∨
  (s.FenceFree ∧ s.scanDrainPending = false ∧ k ≤ s.handled ∧
    ((s.stopAck = false ∧ s.task = .fenceGive) ∨ (s.stopAck = true ∧ s.task ≠ .fenceGive)))

/-- Who can have given the semaphore, by where the command task is. -/
def State.Ack (s : State) : Prop :=
  match s.cmd with
  | .stopAbort sta | .stopWifi sta => s.FenceFree ∧ (if sta then s.Once else s.Quiet)
  | .stopWait => s.FenceFree ∧ s.Once
  | .stopClear waited => s.FenceFree ∧ s.task ≠ .fenceGive ∧ (waited = true → s.Quiet)
  | .stopEmpty waited =>
    s.FenceFree ∧ s.task ≠ .fenceGive ∧ s.staStopAckPending = false ∧ (waited = true → s.Quiet)
  | .stopFence k => s.staStopAckPending = false ∧ s.task ≠ .staSeen ∧ s.task ≠ .staGive ∧ s.Fence k
  | .restarted => True
  | _ => s.FenceFree ∧ s.Quiet

/-- The queue is in the order of the numbers, behind what was dispatched. -/
structure State.Ordered (s : State) : Prop where
  sorted : s.queue.Pairwise (fun a b => a.1 < b.1)
  above : ∀ e ∈ s.queue, s.handled < e.1
  below : ∀ e ∈ s.queue, e.1 ≤ s.posted
  handled : s.handled ≤ s.posted

structure State.Inv (s : State) : Prop where
  scans : s.Scans
  place : s.Place
  numbers : s.Numbers
  ack : s.Ack
  ordered : s.Ordered
  safe : s.Safe

theorem State.Ordered.post {s : State} (h : s.Ordered) (e : Event) : (s.post e).Ordered where
  sorted := by
    refine List.pairwise_append.mpr ⟨h.sorted,List.pairwise_singleton _ _,fun a ha b hb => ?_⟩
    have := h.below a ha
    simp only [List.mem_singleton] at hb
    rw [hb]
    omega
  above := by
    intro x hx
    rcases List.mem_append.mp hx with hx | hx
    · exact h.above x hx
    · have := h.handled
      simp only [List.mem_singleton] at hx
      rw [hx]
      simp only [State.post]
      omega
  below := by
    intro x hx
    rcases List.mem_append.mp hx with hx | hx
    · exact Nat.le_succ_of_le (h.below x hx)
    · simp only [List.mem_singleton] at hx
      rw [hx]
      exact Nat.le_refl _
  handled := Nat.le_succ_of_le h.handled

theorem State.Ordered.pop {s s' : State} {k : Nat} {e : Event} (h : s.Ordered) (hq : s.queue = (k,e) :: s'.queue)
    (hk : s'.handled = k) (hp : s'.posted = s.posted) : s'.Ordered := by
  have hs := h.sorted
  have hb := h.below
  rw [hq] at hs hb
  obtain ⟨hfirst,hrest⟩ := List.pairwise_cons.mp hs
  refine ⟨hrest,fun x hx => ?_,fun x hx => ?_,?_⟩
  · rw [hk]
    exact hfirst x hx
  · rw [hp]
    exact hb x (List.mem_cons_of_mem _ hx)
  · rw [hk,hp]
    exact hb (k,e) List.mem_cons_self

theorem State.Ordered.frame {s s' : State} (h : s.Ordered) (hq : s'.queue = s.queue) (hk : s'.handled = s.handled)
    (hp : s'.posted = s.posted) : s'.Ordered := by
  obtain ⟨h1,h2,h3,h4⟩ := h
  exact ⟨by rwa [hq],by rwa [hq,hk],by rwa [hq,hp],by rwa [hk,hp]⟩

theorem post_pend (s : State) (e : Event) : (s.post e).pend.Perm (s.pend ++ e.scan) := by
  simp only [State.pend,State.post,List.flatMap_append,List.flatMap_singleton,List.append_assoc]
  exact ((List.perm_append_comm.append_left _).append_left _)

/-- Nothing about the scans has changed, but where their SCAN_DONE events are. -/
structure SameScans (s s' : State) : Prop where
  pend : s'.pend.Perm s.pend
  inProgress : s'.scanInProgress = s.scanInProgress
  drain : s'.scanDrainPending = s.scanDrainPending
  current : s'.current = s.current

theorem State.Scans.same {s s' : State} (h : s.Scans) (k : SameScans s s')
    (hl : s'.authScanInProgress = true → s'.cmd = .authLookup) : s'.Scans := by
  obtain ⟨hp,hi,hd,hc⟩ := k
  refine ⟨?_,?_,?_,?_,hl⟩
  · rw [hp.length_eq]
    exact h.single
  · rw [hi,hc]
    exact fun hx n hn => h.own hx n (hp.mem_iff.mp hn)
  · rw [hi,hd]
    exact fun hx hy => List.Perm.eq_nil (h.free hx hy ▸ hp)
  · rw [hi,hd]
    exact h.exclusive

theorem State.Place.same {s s' : State} (h : s.Place) (k : SameScans s s') (hc : s'.cmd = s.cmd) : s'.Place := by
  obtain ⟨hp,hi,hd,-⟩ := k
  unfold State.Place at *
  rw [hc,hi,hd]
  cases hcmd : s.cmd <;> simp only [hcmd] at h ⊢
  all_goals first | exact h | skip
  exact ⟨h.1,h.2.1,List.Perm.eq_nil (h.2.2 ▸ hp)⟩

theorem State.Numbers.same {s s' : State} (h : s.Numbers) (hr : s'.reports = s.reports) (hn : s'.scans = s.scans)
    (hi : s'.scanInProgress = true → s.scanInProgress = true) (hc : s'.current = s.current) : s'.Numbers := by
  obtain ⟨h1,h2⟩ := h
  refine ⟨by rwa [hr,hn],fun hx => ?_⟩
  rw [hr,hn,hc]
  exact h2 (hi hx)

theorem State.Safe.same {s s' : State} (h : s.Safe) (hr : s'.reports = s.reports) (ha : s'.accepts = s.accepts)
    (ht : s'.returns = s.returns) (hx : s'.Scans) : s'.Safe := by
  obtain ⟨h1,h2,-,h4,h5⟩ := h
  exact ⟨by rwa [hr],by rwa [hr],hx.exclusive,by rwa [ha],by rwa [ht]⟩

structure SameAck (s s' : State) : Prop where
  ack : s'.stopAck = s.stopAck
  pending : s'.staStopAckPending = s.staStopAckPending
  task : s'.task = s.task
  queue : s'.queue = s.queue

theorem State.Quiet.same {s s' : State} (h : s.Quiet) (k : SameAck s s') : s'.Quiet := by
  unfold State.Quiet at *
  rwa [k.ack,k.pending,k.task]

theorem State.FenceFree.same {s s' : State} (h : s.FenceFree) (k : SameAck s s') : s'.FenceFree := by
  unfold State.FenceFree at *
  rwa [k.queue]

/-- Commands outside `hosted_wifi_stop`, and the first two of it. -/
def Cmd.calm : Cmd → Bool
  | .idle | .scanChecked | .published | .scanning | .authChecked | .authLookup => true
  | .stopEntered _ | .stopMark _ | .stopPost => true
  | _ => false

theorem State.Ack.of_calm {s : State} (hc : s.cmd.calm = true) (h : s.FenceFree ∧ s.Quiet) : s.Ack := by
  unfold State.Ack
  cases hcmd : s.cmd <;> simp only [hcmd,Cmd.calm,Bool.false_eq_true] at hc ⊢
  all_goals exact h

theorem State.Ack.calm {s : State} (h : s.Ack) (hc : s.cmd.calm = true) : s.FenceFree ∧ s.Quiet := by
  unfold State.Ack at h
  cases hcmd : s.cmd <;> simp only [hcmd,Cmd.calm,Bool.false_eq_true] at hc h
  all_goals exact h

theorem State.Inv.calm {s s' : State} (h : s.Inv) (hc : s.cmd.calm = true) (hc' : s'.cmd.calm = true) (k : SameAck s s')
    (hk : s'.handled = s.handled) (hp : s'.posted = s.posted) (scans : s'.Scans) (place : s'.Place)
    (numbers : s'.Numbers) (safe : s'.Safe) : s'.Inv where
  scans := scans
  place := place
  numbers := numbers
  ack := Ack.of_calm hc' ⟨FenceFree.same (Ack.calm h.ack hc).1 k,Quiet.same (Ack.calm h.ack hc).2 k⟩
  ordered := Ordered.frame h.ordered k.queue hk hp
  safe := safe

/-- Only the place of the command task has changed. -/
theorem State.Inv.goto {s s' : State} (h : s.Inv) (hc : s.cmd.calm = true) (hc' : s'.cmd.calm = true)
    (hs : s' = {s with cmd := s'.cmd}) (place : s'.Place) (hl : s.authScanInProgress = true → s'.cmd = .authLookup) :
    s'.Inv := by
  rw [hs] at place hl ⊢
  have scans : ({s with cmd := s'.cmd} : State).Scans := Scans.same h.scans ⟨List.Perm.refl _,rfl,rfl,rfl⟩ hl
  exact h.calm hc hc' ⟨rfl,rfl,rfl,rfl⟩ rfl rfl scans place (Numbers.same h.numbers rfl rfl id rfl)
    (Safe.same h.safe rfl rfl rfl scans)

theorem State.Inv.not_lookup {s : State} (h : s.Inv) (hc : s.cmd ≠ .authLookup) : s.authScanInProgress = false := by
  cases ha : s.authScanInProgress with
  | false => rfl
  | true => exact absurd (h.scans.lookup ha) hc

theorem State.Inv.scanRequest {s s' : State} (h : s.Inv) (hs : step s .scanRequest = some s') : s'.Inv := by
  simp only [step] at hs
  split at hs
  · next hc =>
    cases hs
    split
    · exact h
    · exact h.goto (by rw [hc]; rfl) rfl rfl trivial (fun hx => by rw [h.not_lookup (by simp [hc])] at hx; cases hx)
  · cases hs

theorem State.Inv.authRequest {s s' : State} (h : s.Inv) (hs : step s .authRequest = some s') : s'.Inv := by
  simp only [step] at hs
  split at hs
  · next hc =>
    cases hs
    split
    · exact h
    · next hf =>
      simp only [Bool.or_eq_true,not_or,Bool.not_eq_true] at hf
      exact h.goto (by rw [hc]; rfl) rfl rfl hf (fun hx => by rw [h.not_lookup (by simp [hc])] at hx; cases hx)
  · cases hs

theorem State.Inv.scanPublish {s s' : State} {mode : Bool} (h : s.Inv) (hs : step s (.scanPublish mode) = some s') :
    s'.Inv := by
  simp only [step] at hs
  split at hs
  · next hc =>
    have hcalm : s.cmd.calm = true := by rw [hc]; rfl
    have hno : s.authScanInProgress = false := h.not_lookup (by simp [hc])
    have hidle : ({s with cmd := .idle} : State).Inv :=
      h.goto hcalm rfl rfl trivial (fun hx => by rw [hno] at hx; cases hx)
    split at hs
    · split at hs
      · cases hs
        exact hidle
      · next hf =>
        simp only [Bool.or_eq_true,not_or,Bool.not_eq_true] at hf
        have hp := h.scans.free hf.1 hf.2
        cases hs
        have scans : ({s with scanInProgress := true, current := s.scans, scans := s.scans+1, cmd := .published} :
            State).Scans := by
          refine ⟨h.scans.single,fun _ n hn => ?_,fun hx => ?_,fun hx => ?_,fun hx => ?_⟩
          · have hn' : n ∈ s.pend := hn
            rw [hp] at hn'
            cases hn'
          · cases hx
          · rw [hf.2] at hx
            cases hx.2
          · rw [hno] at hx
            cases hx
        refine h.calm hcalm rfl ⟨rfl,rfl,rfl,rfl⟩ rfl rfl scans ⟨rfl,hf.2,hp⟩ ⟨?_,?_⟩ (Safe.same h.safe rfl rfl rfl scans)
        · exact fun r hr => Nat.lt_succ_of_lt (h.numbers.known r hr)
        · exact fun _ => ⟨Nat.lt_succ_self _,fun r hr => Nat.ne_of_lt (h.numbers.known r hr)⟩
    · cases hs
      exact hidle
  · cases hs

theorem State.Inv.scanStart {s s' : State} {ok : Bool} (h : s.Inv) (hs : step s (.scanStart ok) = some s') : s'.Inv := by
  simp only [step] at hs
  split at hs
  · next hc =>
    have hcalm : s.cmd.calm = true := by rw [hc]; rfl
    have hno : s.authScanInProgress = false := h.not_lookup (by simp [hc])
    obtain ⟨hi,hd,hp⟩ : s.scanInProgress = true ∧ s.scanDrainPending = false ∧ s.pend = [] := by
      have hplace := h.place
      simpa only [State.Place,hc] using hplace
    cases ok with
    | true =>
      cases hs
      have hpend : ({s with running := s.running ++ [s.current], cmd := .scanning} : State).pend = [s.current] := by
        simp only [State.pend,List.append_eq_nil_iff] at hp ⊢
        simp [hp.1.1,hp.1.2,hp.2]
      have scans : ({s with running := s.running ++ [s.current], cmd := .scanning} : State).Scans := by
        refine ⟨?_,fun _ n hn => ?_,fun hx => ?_,h.scans.exclusive,fun hx => ?_⟩
        · rw [hpend]
          exact Nat.le_refl _
        · rw [hpend] at hn
          exact List.mem_singleton.mp hn
        · rw [hi] at hx
          cases hx
        · rw [hno] at hx
          cases hx
      exact h.calm hcalm rfl ⟨rfl,rfl,rfl,rfl⟩ rfl rfl scans hd (Numbers.same h.numbers rfl rfl id rfl)
        (Safe.same h.safe rfl rfl rfl scans)
    | false =>
      cases hs
      have scans : ({s with scanInProgress := false, cmd := .idle} : State).Scans :=
        ⟨h.scans.single,fun hx => (by cases hx),fun _ _ => hp,fun hx => (by cases hx.1),
          fun hx => (by rw [hno] at hx; cases hx)⟩
      exact h.calm hcalm rfl ⟨rfl,rfl,rfl,rfl⟩ rfl rfl scans trivial
        (Numbers.same h.numbers rfl rfl (fun hx => by cases hx) rfl) (Safe.same h.safe rfl rfl rfl scans)
  · cases hs

theorem State.Inv.scanRespond {s s' : State} (h : s.Inv) (hs : step s .scanRespond = some s') : s'.Inv := by
  simp only [step] at hs
  split at hs
  · next hc =>
    cases hs
    have hd : s.scanDrainPending = false := by
      have hplace := h.place
      simpa only [State.Place,hc] using hplace
    have hno : s.authScanInProgress = false := h.not_lookup (by simp [hc])
    have scans : ({s with accepts := (s.current,s.scanDrainPending) :: s.accepts, cmd := .idle} : State).Scans :=
      Scans.same h.scans ⟨List.Perm.refl _,rfl,rfl,rfl⟩ (fun hx => by rw [hno] at hx; cases hx)
    refine h.calm (by rw [hc]; rfl) rfl ⟨rfl,rfl,rfl,rfl⟩ rfl rfl scans trivial (Numbers.same h.numbers rfl rfl id rfl) ?_
    refine ⟨h.safe.own,h.safe.once,h.safe.exclusive,fun a ha => ?_,h.safe.fenced⟩
    rcases List.mem_cons.mp ha with rfl | ha
    · exact hd
    · exact h.safe.accepted a ha
  · cases hs

theorem State.Inv.authStart {s s' : State} (h : s.Inv) (hs : step s .authStart = some s') : s'.Inv := by
  simp only [step] at hs
  split at hs
  · next hc =>
    cases hs
    have hf : s.scanInProgress = false ∧ s.scanDrainPending = false := by
      have hplace := h.place
      simpa only [State.Place,hc] using hplace
    have scans : ({s with authScanInProgress := true, cmd := .authLookup} : State).Scans :=
      Scans.same h.scans ⟨List.Perm.refl _,rfl,rfl,rfl⟩ (fun _ => rfl)
    exact h.calm (by rw [hc]; rfl) rfl ⟨rfl,rfl,rfl,rfl⟩ rfl rfl scans hf (Numbers.same h.numbers rfl rfl id rfl)
      (Safe.same h.safe rfl rfl rfl scans)
  · cases hs

theorem State.Inv.authDone {s s' : State} (h : s.Inv) (hs : step s .authDone = some s') : s'.Inv := by
  simp only [step] at hs
  split at hs
  · next hc =>
    cases hs
    have scans : ({s with authScanInProgress := false, cmd := .idle} : State).Scans :=
      Scans.same h.scans ⟨List.Perm.refl _,rfl,rfl,rfl⟩ (fun hx => by cases hx)
    exact h.calm (by rw [hc]; rfl) rfl ⟨rfl,rfl,rfl,rfl⟩ rfl rfl scans trivial (Numbers.same h.numbers rfl rfl id rfl)
      (Safe.same h.safe rfl rfl rfl scans)
  · cases hs

theorem State.Inv.wifiStart {s s' : State} (h : s.Inv) (hs : step s .wifiStart = some s') : s'.Inv := by
  simp only [step] at hs
  split at hs
  · next hc =>
    cases hs
    have hcalm : s.cmd.calm = true := by rw [hc]; rfl
    have scans : ({s with wifiStarted := true} : State).Scans :=
      Scans.same h.scans ⟨List.Perm.refl _,rfl,rfl,rfl⟩ h.scans.lookup
    exact h.calm hcalm hcalm ⟨rfl,rfl,rfl,rfl⟩ rfl rfl scans (Place.same h.place ⟨List.Perm.refl _,rfl,rfl,rfl⟩ rfl)
      (Numbers.same h.numbers rfl rfl id rfl) (Safe.same h.safe rfl rfl rfl scans)
  · cases hs

theorem State.Inv.wifiStop {s s' : State} {mode : Bool} (h : s.Inv) (hs : step s (.wifiStop mode) = some s') :
    s'.Inv := by
  simp only [step] at hs
  split at hs
  · next hc =>
    cases hs
    exact h.goto (by rw [hc]; rfl) rfl rfl trivial (fun hx => by rw [h.not_lookup (by simp [hc])] at hx; cases hx)
  · cases hs

/-- A step inside `hosted_wifi_stop` that leaves the queue, the scans and the log alone. -/
theorem State.Inv.stopStep {s s' : State} (h : s.Inv) (hc : s.cmd ≠ .authLookup) (hs : SameScans s s')
    (ha : s'.authScanInProgress = s.authScanInProgress) (hq : s'.queue = s.queue) (hk : s'.handled = s.handled)
    (hp : s'.posted = s.posted) (hr : s'.reports = s.reports) (hn : s'.scans = s.scans) (hx : s'.accepts = s.accepts)
    (ht : s'.returns = s.returns) (place : s'.Place) (ack : s'.Ack) : s'.Inv := by
  have scans : s'.Scans := Scans.same h.scans hs (fun hy => by rw [ha,h.not_lookup hc] at hy; cases hy)
  exact
    { scans := scans
      place := place
      numbers := Numbers.same h.numbers hr hn (fun hy => by rwa [hs.inProgress] at hy) hs.current
      ack := ack
      ordered := Ordered.frame h.ordered hq hk hp
      safe := Safe.same h.safe hr hx ht scans }

theorem State.Inv.takeAck {s s' : State} (h : s.Inv) (hok : admits s .takeAck = true)
    (hs : step s .takeAck = some s') : s'.Inv := by
  have hack := h.ack
  have hplace := h.place
  simp only [step] at hs
  split at hs
  · next sta hc =>
    cases hs
    simp only [State.Ack,hc] at hack
    exact h.stopStep (by simp [hc]) ⟨List.Perm.refl _,rfl,rfl,rfl⟩ rfl rfl rfl rfl rfl rfl rfl rfl trivial
      ⟨hack.1,rfl,hack.2.2⟩
  · next waited hc =>
    cases hs
    simp only [State.Ack,hc] at hack
    simp only [State.Place,hc] at hplace
    obtain ⟨hfree,hgive,hpend,hw⟩ := hack
    have hsta : s.task ≠ .staSeen ∧ s.task ≠ .staGive := by
      cases waited with
      | true => exact ⟨(hw rfl).2.2.1,(hw rfl).2.2.2.1⟩
      | false => simpa [admits,hc] using hok
    exact h.stopStep (by simp [hc]) ⟨List.Perm.refl _,rfl,rfl,rfl⟩ rfl rfl rfl rfl rfl rfl rfl rfl hplace
      ⟨hfree,rfl,hpend,hsta.1,hsta.2,hgive⟩
  · cases hs

theorem State.Inv.markStop {s s' : State} (h : s.Inv) (hs : step s .markStop = some s') : s'.Inv := by
  have hack := h.ack
  simp only [step] at hs
  split at hs
  · next sta hc =>
    cases hs
    simp only [State.Ack,hc] at hack
    obtain ⟨hfree,hq⟩ := hack
    refine h.stopStep (by simp [hc]) ⟨List.Perm.refl _,rfl,rfl,rfl⟩ rfl rfl rfl rfl rfl rfl rfl rfl trivial ⟨hfree,?_⟩
    cases sta with
    | true => exact ⟨hq.2.2.2.2,.inl ⟨hq.1,rfl,hq.2.2.2.1⟩⟩
    | false => exact ⟨hq.1,rfl,hq.2.2⟩
  · cases hs

theorem State.Inv.scanAbort {s s' : State} (h : s.Inv) (hs : step s .scanAbort = some s') : s'.Inv := by
  have hack := h.ack
  simp only [step] at hs
  split at hs
  · next sta hc =>
    cases hs
    simp only [State.Ack,hc] at hack
    have hno : s.authScanInProgress = false := h.not_lookup (by simp [hc])
    cases hi : s.scanInProgress with
    | false =>
      have hsame : s.scanAbort = s := by simp [State.scanAbort,hi]
      rw [hsame]
      refine h.stopStep (by simp [hc]) ⟨List.Perm.refl _,rfl,rfl,rfl⟩ rfl rfl rfl rfl rfl rfl rfl rfl hi ?_
      exact hack
    | true =>
      have hsame : s.scanAbort = {s with scanInProgress := false, scanDrainPending := true} := by
        simp [State.scanAbort,hi]
      rw [hsame]
      have scans : ({s with scanInProgress := false, scanDrainPending := true, cmd := .stopWifi sta} : State).Scans :=
        ⟨h.scans.single,fun hx => (by cases hx),fun _ hx => (by cases hx),fun hx => (by cases hx.1),
          fun hx => (by rw [hno] at hx; cases hx)⟩
      exact
        { scans := scans
          place := rfl
          numbers := Numbers.same h.numbers rfl rfl (fun hx => by cases hx) rfl
          ack := hack
          ordered := Ordered.frame h.ordered rfl rfl rfl
          safe := Safe.same h.safe rfl rfl rfl scans }
  · cases hs

theorem State.Inv.clearPending {s s' : State} (h : s.Inv) (hs : step s .clearPending = some s') : s'.Inv := by
  have hack := h.ack
  have hplace := h.place
  simp only [step] at hs
  split at hs
  · next waited hc =>
    cases hs
    simp only [State.Ack,hc] at hack
    simp only [State.Place,hc] at hplace
    obtain ⟨hfree,hgive,hw⟩ := hack
    exact h.stopStep (by simp [hc]) ⟨List.Perm.refl _,rfl,rfl,rfl⟩ rfl rfl rfl rfl rfl rfl rfl rfl hplace
      ⟨hfree,hgive,rfl,fun hx => ⟨(hw hx).1,rfl,(hw hx).2.2⟩⟩
  · cases hs

theorem State.Scans.shrink {s s' : State} (h : s.Scans) (hp : s'.pend.Sublist s.pend)
    (hi : s'.scanInProgress = s.scanInProgress) (hd : s'.scanDrainPending = s.scanDrainPending)
    (hc : s'.current = s.current) (hl : s'.authScanInProgress = true → s'.cmd = .authLookup) : s'.Scans := by
  refine ⟨Nat.le_trans hp.length_le h.single,?_,?_,?_,hl⟩
  · rw [hi,hc]
    exact fun hx n hn => h.own hx n (hp.subset hn)
  · rw [hi,hd]
    exact fun hx hy => List.sublist_nil.mp (h.free hx hy ▸ hp)
  · rw [hi,hd]
    exact h.exclusive

theorem pend_sublist (s : State) : (s.queue.flatMap (fun e => e.2.scan) ++ s.task.scan).Sublist s.pend := by
  rw [State.pend,List.append_assoc]
  exact List.sublist_append_right _ _

theorem State.Inv.libStop {s s' : State} {r : StopRet} (h : s.Inv) (hs : step s (.libStop r) = some s') : s'.Inv := by
  have hack := h.ack
  have hplace := h.place
  simp only [step] at hs
  split at hs
  · next sta hc =>
    have hno : s.authScanInProgress = false := h.not_lookup (by simp [hc])
    simp only [State.Ack,hc] at hack
    simp only [State.Place,hc] at hplace
    obtain ⟨hfree,hsta⟩ := hack
    have hgive : s.task ≠ .fenceGive := by
      cases sta with
      | true => exact hsta.1
      | false => exact hsta.2.2.2.2
    cases r with
    | ok =>
      cases hs
      have scans : (s.libStop sta .ok).Scans :=
        Scans.shrink h.scans (pend_sublist s) rfl rfl rfl (fun hx => by rw [show s.authScanInProgress = true from hx] at hno; cases hno)
      refine
        { scans := scans
          place := ?_
          numbers := Numbers.same h.numbers rfl rfl id rfl
          ack := ?_
          ordered := Ordered.frame h.ordered rfl rfl rfl
          safe := Safe.same h.safe rfl rfl rfl scans }
      · cases sta with
        | true => exact hplace
        | false => exact hplace
      · cases sta with
        | true => exact ⟨hfree,hsta⟩
        | false => exact ⟨hfree,hgive,fun hx => by cases hx⟩
    | notStarted =>
      cases hs
      exact h.stopStep (by simp [hc]) ⟨List.Perm.refl _,rfl,rfl,rfl⟩ rfl rfl rfl rfl rfl rfl rfl rfl hplace
        ⟨hfree,hgive,fun hx => by cases hx⟩
    | failed =>
      cases hs
      exact h.stopStep (by simp [hc]) ⟨List.Perm.refl _,rfl,rfl,rfl⟩ rfl rfl rfl rfl rfl rfl rfl rfl hplace
        ⟨hfree,hgive,fun hx => by cases hx⟩
  · cases hs

/-- The fence is taken in only after everything that was posted before it. -/
theorem State.Fence.given {s : State} {k : Nat} (h : s.Fence k) (ha : s.stopAck = true) :
    s.FenceFree ∧ s.scanDrainPending = false ∧ k ≤ s.handled ∧ s.task ≠ .fenceGive := by
  rcases h with ⟨_,_,-,-,-,-,hf,-⟩ | ⟨hfree,hd,hk,hx | hx⟩
  · rw [ha] at hf
    cases hf
  · rw [ha] at hx
    cases hx.1
  · exact ⟨hfree,hd,hk,hx.2⟩

theorem undelivered_eq_false {s : State} {k : Nat} (h : s.Ordered) (hk : k ≤ s.handled) : s.undelivered k = false := by
  simp only [State.undelivered,Bool.or_eq_false_iff,List.any_eq_false,Bool.and_eq_false_iff,decide_eq_false_iff_not,
    decide_eq_true_eq]
  refine ⟨fun e he => ?_,.inr (by omega)⟩
  have := h.above e he
  omega

theorem State.Inv.ackTaken {s s' : State} (h : s.Inv) (hs : step s .ackTaken = some s') : s'.Inv := by
  have hack := h.ack
  have hplace := h.place
  simp only [step] at hs
  split at hs
  · next ha =>
    split at hs
    · next hc =>
      cases hs
      simp only [State.Ack,hc] at hack
      simp only [State.Place,hc] at hplace
      obtain ⟨hfree,hgive,hx | hx | hx⟩ := hack
      · rw [ha] at hx
        cases hx.1
      · rw [ha] at hx
        cases hx.1
      · exact h.stopStep (by simp [hc]) ⟨List.Perm.refl _,rfl,rfl,rfl⟩ rfl rfl rfl rfl rfl rfl rfl rfl hplace
          ⟨hfree,hgive,fun _ => ⟨rfl,hx.2.1,hx.2.2.1,hx.2.2.2,hgive⟩⟩
    · next k hc =>
      cases hs
      simp only [State.Ack,hc] at hack
      obtain ⟨hpend,hseen,hsta,hfence⟩ := hack
      obtain ⟨hfree,hd,hk,hgive⟩ := hfence.given ha
      have hno : s.authScanInProgress = false := h.not_lookup (by simp [hc])
      exact
        { scans := Scans.same h.scans ⟨List.Perm.refl _,rfl,rfl,rfl⟩
            (fun hx => by rw [show s.authScanInProgress = true from hx] at hno; cases hno)
          place := trivial
          numbers := Numbers.same h.numbers rfl rfl id rfl
          ack := ⟨hfree,rfl,hpend,hseen,hsta,hgive⟩
          ordered := Ordered.frame h.ordered rfl rfl rfl
          safe := ⟨h.safe.own,h.safe.once,h.safe.exclusive,h.safe.accepted,fun r hr => by
            rcases List.mem_cons.mp hr with rfl | hr
            · exact ⟨hd,undelivered_eq_false h.ordered hk⟩
            · exact h.safe.fenced r hr⟩ }
    · cases hs
  · cases hs

theorem State.Inv.postFence {s s' : State} (h : s.Inv) (hs : step s .postFence = some s') : s'.Inv := by
  have hack := h.ack
  have hplace := h.place
  simp only [step] at hs
  split at hs
  · next hc =>
    cases hs
    simp only [State.Ack,hc] at hack
    simp only [State.Place,hc] at hplace
    obtain ⟨hfree,ha,hpend,hseen,hsta,hgive⟩ := hack
    have hno : s.authScanInProgress = false := h.not_lookup (by simp [hc])
    generalize hs' : ({s.post .fence with running := [], late := s.late ++ s.running, cmd := .stopFence (s.posted+1)} :
      State) = s'
    have hsub : s'.pend.Sublist s.pend := by
      subst hs'
      have hp : (({s.post .fence with running := [], late := s.late ++ s.running, cmd := .stopFence (s.posted+1)} :
          State)).pend = s.queue.flatMap (fun e => e.2.scan) ++ s.task.scan := by
        simp [State.pend,State.post,Event.scan]
      rw [hp]
      exact pend_sublist s
    subst hs'
    have scans := Scans.shrink h.scans hsub rfl rfl rfl
      (fun hx => by rw [show s.authScanInProgress = true from hx] at hno; cases hno)
    exact
      { scans := scans
        place := hplace
        numbers := Numbers.same h.numbers rfl rfl id rfl
        ack := ⟨hpend,hseen,hsta,.inl ⟨s.queue,[],rfl,hfree,fun e he => (by cases he),rfl,ha,hgive⟩⟩
        ordered := Ordered.frame (Ordered.post h.ordered .fence) rfl rfl rfl
        safe := Safe.same h.safe rfl rfl rfl scans }
  · cases hs

theorem State.Inv.restart {s s' : State} (h : s.Inv) (hs : step s .restart = some s') : s'.Inv := by
  simp only [step] at hs
  split at hs
  · next hc =>
    cases hs
    exact h.stopStep (by simp [hc]) ⟨List.Perm.refl _,rfl,rfl,rfl⟩ rfl rfl rfl rfl rfl rfl rfl rfl trivial trivial
  · next hc =>
    cases hs
    exact h.stopStep (by simp [hc]) ⟨List.Perm.refl _,rfl,rfl,rfl⟩ rfl rfl rfl rfl rfl rfl rfl rfl trivial trivial
  · next k hc =>
    cases hs
    exact h.stopStep (by simp [hc]) ⟨List.Perm.refl _,rfl,rfl,rfl⟩ rfl rfl rfl rfl rfl rfl rfl rfl trivial trivial
  · cases hs

/-- Each part of `Ack` on its own, for a command task that stays where it is. -/
theorem State.Ack.map {s s' : State} (h : s.Ack) (hc : s'.cmd = s.cmd) (hfree : s.FenceFree → s'.FenceFree)
    (hq : s.Quiet → s'.Quiet) (ho : s.Once → s'.Once) (hg : s.task ≠ .fenceGive → s'.task ≠ .fenceGive)
    (hp : s.staStopAckPending = false → s'.staStopAckPending = false)
    (hfence : ∀ k, s.cmd = .stopFence k → s.staStopAckPending = false → s.task ≠ .staSeen → s.task ≠ .staGive →
      s.Fence k → s'.task ≠ .staSeen ∧ s'.task ≠ .staGive ∧ s'.Fence k) : s'.Ack := by
  unfold State.Ack at h ⊢
  rw [hc]
  cases hcmd : s.cmd with
  | stopAbort sta =>
    rw [hcmd] at h
    cases sta with
    | true => exact ⟨hfree h.1,ho h.2⟩
    | false => exact ⟨hfree h.1,hq h.2⟩
  | stopWifi sta =>
    rw [hcmd] at h
    cases sta with
    | true => exact ⟨hfree h.1,ho h.2⟩
    | false => exact ⟨hfree h.1,hq h.2⟩
  | stopWait =>
    rw [hcmd] at h
    exact ⟨hfree h.1,ho h.2⟩
  | stopClear waited =>
    rw [hcmd] at h
    exact ⟨hfree h.1,hg h.2.1,fun hw => hq (h.2.2 hw)⟩
  | stopEmpty waited =>
    rw [hcmd] at h
    exact ⟨hfree h.1,hg h.2.1,hp h.2.2.1,fun hw => hq (h.2.2.2 hw)⟩
  | stopFence k =>
    rw [hcmd] at h
    exact ⟨hp h.1,hfence k hcmd h.1 h.2.1 h.2.2.1 h.2.2.2⟩
  | restarted => trivial
  | _ =>
    rw [hcmd] at h
    exact ⟨hfree h.1,hq h.2⟩

theorem State.Ack.event {s s' : State} (h : s.Ack) (hc : s'.cmd = s.cmd) (hfree : s.FenceFree → s'.FenceFree)
    (hfence : ∀ k, s.cmd = .stopFence k → s.Fence k → s'.Fence k) (ha : s'.stopAck = s.stopAck)
    (hp : s'.staStopAckPending = s.staStopAckPending) (hseen : s'.task = .staSeen → s.task = .staSeen)
    (hsta : s'.task = .staGive ↔ s.task = .staGive) (hgive : s'.task = .fenceGive → s.task = .fenceGive) : s'.Ack := by
  have hq : s.Quiet → s'.Quiet := by
    unfold State.Quiet
    rw [ha,hp]
    exact fun ⟨h1,h2,h3,h4,h5⟩ => ⟨h1,h2,fun hx => h3 (hseen hx),fun hx => h4 (hsta.mp hx),fun hx => h5 (hgive hx)⟩
  have ho : s.Once → s'.Once := by
    unfold State.Once
    rw [ha,hp]
    rintro ⟨h5,h1 | h1 | h1⟩
    · exact ⟨fun hx => h5 (hgive hx),.inl ⟨h1.1,h1.2.1,fun hx => h1.2.2 (hsta.mp hx)⟩⟩
    · exact ⟨fun hx => h5 (hgive hx),.inr (.inl ⟨h1.1,h1.2.1,hsta.mpr h1.2.2⟩)⟩
    · exact ⟨fun hx => h5 (hgive hx),.inr (.inr ⟨h1.1,h1.2.1,fun hx => h1.2.2.1 (hseen hx),
        fun hx => h1.2.2.2 (hsta.mp hx)⟩)⟩
  exact h.map hc hfree hq ho (fun hx hy => hx (hgive hy)) (fun hx => by rw [hp]; exact hx)
    (fun k hk _ hs hg hf => ⟨fun hx => hs (hseen hx),fun hx => hg (hsta.mp hx),hfence k hk hf⟩)

theorem State.Fence.snoc {s s' : State} {k n : Nat} {e : Event} (h : s.Fence k) (hq : s'.queue = s.queue ++ [(n,e)])
    (he : e ≠ .fence) (hscan : e.scan = [] ∨ s.running ≠ []) (hrun : s.running = [] → s'.running = [])
    (hk : s'.handled = s.handled) (hd : s'.scanDrainPending = s.scanDrainPending) (ha : s'.stopAck = s.stopAck)
    (ht : s'.task = s.task) : s'.Fence k := by
  unfold State.Fence State.FenceFree at *
  rw [ha,ht,hd,hk,hq]
  rcases h with ⟨pre,post,h1,h2,h3,h4,h5,h6⟩ | ⟨h1,h2,h3,h4⟩
  · refine .inl ⟨pre,post ++ [(n,e)],by simp [h1],h2,fun x hx => ?_,hrun h4,h5,h6⟩
    rcases List.mem_append.mp hx with hx | hx
    · exact h3 x hx
    · simp only [List.mem_singleton] at hx
      rw [hx]
      exact ⟨he,hscan.resolve_right (fun hy => hy h4)⟩
  · refine .inr ⟨fun x hx => ?_,h2,h3,h4⟩
    rcases List.mem_append.mp hx with hx | hx
    · exact h1 x hx
    · simp only [List.mem_singleton] at hx
      rw [hx]
      exact he

theorem State.Inv.posted {s s' : State} {e : Event} (h : s.Inv) (he : e ≠ .fence)
    (hscan : e.scan = [] ∨ s.running ≠ []) (hrun : s.running = [] → s'.running = [])
    (hpend : s'.pend.Perm s.pend) (hq : s'.queue = s.queue ++ [(s.posted+1,e)]) (hpost : s'.posted = s.posted+1)
    (hs : s' = {s with queue := s'.queue, posted := s'.posted, running := s'.running, late := s'.late}) : s'.Inv := by
  have hcmd : s'.cmd = s.cmd := by rw [hs]
  have hsame : SameScans s s' := ⟨hpend,by rw [hs],by rw [hs],by rw [hs]⟩
  have hlook : s'.authScanInProgress = true → s'.cmd = .authLookup := by
    rw [hs]
    exact h.scans.lookup
  have scans : s'.Scans := Scans.same h.scans hsame hlook
  have hfree : s.FenceFree → s'.FenceFree := by
    intro hf x hx
    rw [hq] at hx
    rcases List.mem_append.mp hx with hx | hx
    · exact hf x hx
    · simp only [List.mem_singleton] at hx
      rw [hx]
      exact he
  exact
    { scans := scans
      place := Place.same h.place hsame hcmd
      numbers := Numbers.same h.numbers (by rw [hs]) (by rw [hs]) (fun hx => by rwa [hsame.inProgress] at hx)
        hsame.current
      ack := Ack.event h.ack hcmd hfree
        (fun k _ hf => Fence.snoc hf hq he hscan hrun (by rw [hs]) hsame.drain (by rw [hs]) (by rw [hs]))
        (by rw [hs]) (by rw [hs]) (by rw [hs]; exact id) (by rw [hs]) (by rw [hs]; exact id)
      ordered := Ordered.frame (Ordered.post h.ordered e) hq (by rw [hs]; rfl) hpost
      safe := Safe.same h.safe (by rw [hs]) (by rw [hs]) (by rw [hs]) scans }

theorem State.Inv.postPlain {s : State} {e : Event} (h : s.Inv) (he : e ≠ .fence) (hscan : e.scan = []) :
    (s.post e).Inv := by
  refine h.posted he (.inl hscan) id ?_ rfl rfl rfl
  have hp := post_pend s e
  rwa [hscan,List.append_nil] at hp

theorem State.Inv.postScanDone {s s' : State} {n : Nat} (h : s.Inv) (hok : admits s (.postScanDone n) = true)
    (hs : step s (.postScanDone n) = some s') : s'.Inv := by
  have hlate : n ∉ s.late := by simpa [admits] using hok
  simp only [step] at hs
  split at hs
  · cases hs
  · simp only [State.postScanDone] at hs
    split at hs
    · next hn =>
      have hrun : n ∈ s.running := hn.resolve_right hlate
      cases hs
      refine h.posted (by simp) (.inr (List.ne_nil_of_mem hrun)) ?_ ?_ rfl rfl rfl
      · intro hx
        rw [hx] at hrun
        cases hrun
      · refine (post_pend _ (.scanDone n)).trans ?_
        have hperm := List.perm_cons_erase hrun
        simp only [State.pend,Event.scan]
        refine List.perm_append_comm.trans ?_
        simp only [List.singleton_append,← List.cons_append]
        exact (hperm.symm.append_right _).append_right _
    · cases hs

theorem State.Fence.pop {s s' : State} {k n : Nat} {e : Event} (h : s.Fence k) (hq : s.queue = (n,e) :: s'.queue)
    (he : e ≠ .fence) (hord : s.Ordered) (hk : s'.handled = n) (hr : s'.running = s.running)
    (hd : s'.scanDrainPending = s.scanDrainPending) (ha : s'.stopAck = s.stopAck)
    (ht : s.task ≠ .fenceGive ∧ s'.task ≠ .fenceGive) : s'.Fence k := by
  unfold State.Fence State.FenceFree at *
  rw [ha,hd,hr]
  rcases h with ⟨pre,post,h1,h2,h3,h4,h5,h6⟩ | ⟨h1,h2,h3,h4⟩
  · rw [hq] at h1
    cases pre with
    | nil =>
      simp only [List.nil_append,List.cons.injEq,Prod.mk.injEq] at h1
      exact absurd h1.1.2 he
    | cons x pre =>
      simp only [List.cons_append,List.cons.injEq] at h1
      exact .inl ⟨pre,post,h1.2,fun y hy => h2 y (List.mem_cons_of_mem _ hy),h3,h4,h5,ht.2⟩
  · refine .inr ⟨fun x hx => h1 x (by rw [hq]; exact List.mem_cons_of_mem _ hx),h2,?_,?_⟩
    · have := hord.above (n,e) (by rw [hq]; exact List.mem_cons_self)
      rw [hk]
      omega
    · rcases h4 with h4 | h4
      · exact absurd h4.2 ht.1
      · exact .inr ⟨h4.1,ht.2⟩

theorem State.FenceFree.pop {s s' : State} {x : Nat × Event} (h : s.FenceFree) (hq : s.queue = x :: s'.queue) :
    s'.FenceFree := fun y hy => h y (by rw [hq]; exact List.mem_cons_of_mem _ hy)

theorem State.Inv.dispatched {s s' : State} {k : Nat} {e : Event} (h : s.Inv) (ht : s.task = .idle)
    (hq : s.queue = (k,e) :: s'.queue) (he : e ≠ .fence) (hpend : s'.pend.Perm s.pend)
    (ht' : s'.task ≠ .staSeen ∧ s'.task ≠ .staGive ∧ s'.task ≠ .fenceGive)
    (hs : s' = {s with queue := s'.queue, handled := k, task := s'.task}) : s'.Inv := by
  have hcmd : s'.cmd = s.cmd := by rw [hs]
  have hsame : SameScans s s' := ⟨hpend,by rw [hs],by rw [hs],by rw [hs]⟩
  have hlook : s'.authScanInProgress = true → s'.cmd = .authLookup := by
    rw [hs]
    exact h.scans.lookup
  have scans : s'.Scans := Scans.same h.scans hsame hlook
  have ordered : s'.Ordered := Ordered.pop h.ordered hq (by rw [hs]) (by rw [hs])
  exact
    { scans := scans
      place := Place.same h.place hsame hcmd
      numbers := Numbers.same h.numbers (by rw [hs]) (by rw [hs]) (fun hx => by rwa [hsame.inProgress] at hx)
        hsame.current
      ack := Ack.event h.ack hcmd (fun hf => hf.pop hq)
        (fun n _ hf => Fence.pop hf hq he h.ordered (by rw [hs]) (by rw [hs]) hsame.drain (by rw [hs])
          ⟨by simp [ht],ht'.2.2⟩)
        (by rw [hs]) (by rw [hs]) (fun hx => absurd hx ht'.1)
        ⟨fun hx => absurd hx ht'.2.1,fun hx => by rw [ht] at hx; cases hx⟩ (fun hx => absurd hx ht'.2.2)
      ordered := ordered
      safe := Safe.same h.safe (by rw [hs]) (by rw [hs]) (by rw [hs]) scans }

theorem State.Ack.seen {s s' : State} (h : s.Ack) (hc : s'.cmd = s.cmd) (hfree : s.FenceFree → s'.FenceFree)
    (hp : s.staStopAckPending = true) (hp' : s'.staStopAckPending = true) (ha : s'.stopAck = s.stopAck)
    (ht' : s'.task = .staSeen) : s'.Ack := by
  have hq : ¬ s.Quiet := fun hx => by rw [hx.2.1] at hp; cases hp
  have ho : s.Once → s'.Once := by
    unfold State.Once
    rw [ha,hp,hp',ht']
    rintro ⟨-,h1 | h1 | h1⟩
    · exact ⟨by simp,.inl ⟨h1.1,rfl,by simp⟩⟩
    · cases h1.2.1
    · cases h1.2.1
  have hflag : s.staStopAckPending ≠ false := by simp [hp]
  exact h.map hc hfree (fun hx => absurd hx hq) ho (fun _ => by simp [ht']) (fun hx => absurd hx hflag)
    (fun _ _ hx => absurd hx hflag)

/-- Only a stop that waits for it has posted a fence. -/
theorem State.Ack.fence_queued {s : State} (h : s.Ack) (hr : s.cmd ≠ .restarted) (hf : ¬ s.FenceFree) :
    ∃ k, s.cmd = .stopFence k ∧ s.staStopAckPending = false ∧ s.Fence k := by
  unfold State.Ack at h
  cases hcmd : s.cmd with
  | stopFence k =>
    rw [hcmd] at h
    exact ⟨k,rfl,h.1,h.2.2.2⟩
  | restarted => exact absurd hcmd hr
  | _ =>
    rw [hcmd] at h
    exact absurd h.1 hf

theorem State.Inv.dispatch {s s' : State} (h : s.Inv) (hs : step s .dispatch = some s') : s'.Inv := by
  simp only [step] at hs
  split at hs
  · cases hs
  · next hrun =>
    unfold State.dispatch at hs
    split at hs
    · next k e rest ht hq =>
      cases e with
      | scanDone n =>
        cases ha : s.authScanInProgress with
        | true =>
          -- the lookup starts with no SCAN_DONE on its way
          have hlook := h.scans.lookup ha
          have hplace := h.place
          simp only [State.Place,hlook] at hplace
          have hp := h.scans.free hplace.1 hplace.2
          simp [State.pend,hq,Event.scan] at hp
        | false =>
          simp only [ha,Bool.false_eq_true,if_false,Option.some.injEq] at hs
          subst hs
          refine h.dispatched ht hq (by simp) ?_ ⟨by simp,by simp,by simp⟩ (by rw [← ha])
          simp only [State.pend,ht,Task.scan,hq,List.flatMap_cons,Event.scan,List.append_nil,List.append_assoc]
          exact (List.perm_append_comm.append_left _)
      | staStop =>
        cases hp : s.staStopAckPending with
        | true =>
          simp only [hp,if_true,Option.some.injEq] at hs
          subst hs
          rw [← hp]
          have hpend : ({s with queue := rest, handled := k, task := .staSeen} : State).pend = s.pend := by
            simp [State.pend,ht,Task.scan,hq,Event.scan]
          have hsame : SameScans s {s with queue := rest, handled := k, task := .staSeen} :=
            ⟨by rw [hpend],rfl,rfl,rfl⟩
          have scans := Scans.same h.scans hsame h.scans.lookup
          exact
            { scans := scans
              place := Place.same h.place hsame rfl
              numbers := Numbers.same h.numbers rfl rfl id rfl
              ack := Ack.seen h.ack rfl (fun hf => hf.pop hq) hp hp rfl rfl
              ordered := Ordered.pop h.ordered hq rfl rfl
              safe := Safe.same h.safe rfl rfl rfl scans }
        | false =>
          simp only [hp,Bool.false_eq_true,if_false,Option.some.injEq] at hs
          subst hs
          refine h.dispatched ht hq (by simp) ?_ ⟨by simp [ht],by simp [ht],by simp [ht]⟩ (by rw [← hp])
          simp [State.pend,ht,Task.scan,hq,Event.scan]
      | other =>
        simp only [Option.some.injEq] at hs
        subst hs
        refine h.dispatched ht hq (by simp) ?_ ⟨by simp [ht],by simp [ht],by simp [ht]⟩ rfl
        simp [State.pend,ht,Task.scan,hq,Event.scan]
      | fence =>
        simp only [Option.some.injEq] at hs
        have hnot : ¬ s.FenceFree := fun hf => hf (k,.fence) (by rw [hq]; exact List.mem_cons_self) rfl
        obtain ⟨k',hc,hp,hf⟩ := State.Ack.fence_queued h.ack hrun hnot
        rcases hf with ⟨pre,post,h1,h2,h3,h4,h5,h6⟩ | hf
        · have hpre : pre = [] := by
            cases pre with
            | nil => rfl
            | cons x pre =>
              rw [hq,List.cons_append,List.cons.injEq] at h1
              exact absurd (h1.1 ▸ rfl) (h2 x List.mem_cons_self)
          rw [hpre,hq,List.nil_append,List.cons.injEq,Prod.mk.injEq] at h1
          obtain ⟨⟨rfl,-⟩,rfl⟩ := h1
          have hscan : rest.flatMap (fun e => e.2.scan) = [] := List.flatMap_eq_nil_iff.mpr (fun x hx => (h3 x hx).2)
          have hpend : s'.pend = [] := by
            subst hs
            simp [State.pend,h4,hscan,Task.scan]
          have hplace := h.place
          simp only [State.Place,hc] at hplace
          have hno : s.authScanInProgress = false := h.not_lookup (by simp [hc])
          subst hs
          have scans : ({s with queue := rest, handled := k, scanDrainPending := false, task := .fenceGive} :
              State).Scans :=
            ⟨by rw [hpend]; exact Nat.zero_le _,fun hx => (by rw [show s.scanInProgress = true from hx] at hplace; cases hplace),
              fun _ _ => hpend,fun hx => (by cases hx.2),fun hx => (by rw [show s.authScanInProgress = true from hx] at hno; cases hno)⟩
          refine
            { scans := scans
              place := ?_
              numbers := Numbers.same h.numbers rfl rfl id rfl
              ack := ?_
              ordered := Ordered.pop h.ordered hq rfl rfl
              safe := Safe.same h.safe rfl rfl rfl scans }
          · simp only [State.Place,hc]
            exact hplace
          · simp only [State.Ack,hc]
            exact ⟨hp,by simp,by simp,.inr ⟨fun x hx => (h3 x hx).1,rfl,Nat.le_refl _,.inl ⟨h5,rfl⟩⟩⟩
        · exact absurd hf.1 hnot
    · cases hs

theorem State.Scans.last {s : State} {n : Nat} (h : s.Scans) (ht : s.task = .scanDone n) :
    n ∈ s.pend ∧ s.running = [] ∧ s.queue.flatMap (fun e => e.2.scan) = [] := by
  have hl := h.single
  simp only [State.pend,ht,Task.scan,List.length_append,List.length_singleton] at hl
  refine ⟨by simp [State.pend,ht,Task.scan],List.length_eq_zero_iff.mp (by omega),List.length_eq_zero_iff.mp (by omega)⟩

theorem State.Inv.scanHandled {s s' : State} {n : Nat} (h : s.Inv) (ht : s.task = .scanDone n)
    (hoff : s'.scanInProgress = false) (hd : s'.scanDrainPending = true → s.scanDrainPending = true)
    (hs : s' = {s with
      scanInProgress := s'.scanInProgress, scanDrainPending := s'.scanDrainPending, task := .idle, reports := s'.reports})
    (numbers : s'.Numbers) (safe : s'.Scans → s'.Safe) : s'.Inv := by
  obtain ⟨hmem,hr,hq⟩ := h.scans.last ht
  have hcmd : s'.cmd = s.cmd := by rw [hs]
  have hpend : s'.pend = [] := by
    rw [hs]
    simp [State.pend,hr,hq,Task.scan]
  have scans : s'.Scans :=
    ⟨by rw [hpend]; exact Nat.zero_le _,fun hx => (by rw [hoff] at hx; cases hx),fun _ _ => hpend,
      fun hx => (by rw [hoff] at hx; cases hx.1),by rw [hs]; exact h.scans.lookup⟩
  have hdrain : s.scanDrainPending = false → s'.scanDrainPending = false := by
    intro hx
    cases hy : s'.scanDrainPending with
    | false => rfl
    | true =>
      rw [hd hy] at hx
      cases hx
  refine
    { scans := scans
      place := ?_
      numbers := numbers
      ack := ?_
      ordered := Ordered.frame h.ordered (by rw [hs]) (by rw [hs]) (by rw [hs])
      safe := safe scans }
  · have hplace := h.place
    unfold State.Place at hplace ⊢
    rw [hcmd]
    cases hc : s.cmd with
    | published =>
      rw [hc] at hplace
      rw [hplace.2.2] at hmem
      cases hmem
    | scanning =>
      rw [hc] at hplace
      exact hdrain hplace
    | authChecked =>
      rw [hc] at hplace
      exact ⟨hoff,hdrain hplace.2⟩
    | authLookup =>
      rw [hc] at hplace
      exact ⟨hoff,hdrain hplace.2⟩
    | stopWifi _ => exact hoff
    | stopWait => exact hoff
    | stopClear _ => exact hoff
    | stopEmpty _ => exact hoff
    | stopPost => exact hoff
    | stopFence _ => exact hoff
    | _ => trivial
  · have hidle : s'.task = .idle := by rw [hs]
    refine Ack.event h.ack hcmd (fun hf x hx => hf x (by rw [hs] at hx; exact hx)) (fun k _ hf => ?_) (by rw [hs])
      (by rw [hs]) (fun hx => by rw [hidle] at hx; cases hx)
      ⟨fun hx => (by rw [hidle] at hx; cases hx),fun hx => (by rw [ht] at hx; cases hx)⟩
      (fun hx => by rw [hidle] at hx; cases hx)
    rcases hf with ⟨pre,post,h1,h2,h3,h4,h5,-⟩ | ⟨h1,h2,h3,h4 | h4⟩
    · exact .inl ⟨pre,post,by rw [hs]; exact h1,h2,h3,by rw [hs]; exact h4,by rw [hs]; exact h5,by simp [hidle]⟩
    · rw [ht] at h4
      cases h4.2
    · exact .inr ⟨by rw [hs]; exact h1,hdrain h2,by rw [hs]; exact h3,.inr ⟨by rw [hs]; exact h4.1,by simp [hidle]⟩⟩

theorem State.Ack.sta {s s' : State} (h : s.Ack) (hc : s'.cmd = s.cmd) (hq : s'.queue = s.queue)
    (ht : s.task = .staSeen ∨ s.task = .staGive) (ht' : s'.task ≠ .fenceGive)
    (hp : s.staStopAckPending = false → s'.staStopAckPending = false) (ho : s.Once → s'.Once) : s'.Ack := by
  have hquiet : ¬ s.Quiet := by
    intro hx
    rcases ht with ht | ht
    · exact hx.2.2.1 ht
    · exact hx.2.2.2.1 ht
  have hfree : s.FenceFree → s'.FenceFree := fun hf x hx => hf x (by rwa [hq] at hx)
  refine h.map hc hfree (fun hx => absurd hx hquiet) ho (fun _ => ht') hp (fun k _ _ hseen hgive => ?_)
  rcases ht with ht | ht
  · exact absurd ht hseen
  · exact absurd ht hgive

theorem State.Ack.fence_giving {s : State} (h : s.Ack) (hr : s.cmd ≠ .restarted) (ht : s.task = .fenceGive) :
    ∃ k, s.cmd = .stopFence k ∧ s.staStopAckPending = false ∧ s.Fence k := by
  unfold State.Ack at h
  cases hcmd : s.cmd with
  | stopFence k =>
    rw [hcmd] at h
    exact ⟨k,rfl,h.1,h.2.2.2⟩
  | stopAbort sta =>
    rw [hcmd] at h
    cases sta with
    | true => exact absurd ht h.2.1
    | false => exact absurd ht h.2.2.2.2.2
  | stopWifi sta =>
    rw [hcmd] at h
    cases sta with
    | true => exact absurd ht h.2.1
    | false => exact absurd ht h.2.2.2.2.2
  | stopWait =>
    rw [hcmd] at h
    exact absurd ht h.2.1
  | stopClear waited =>
    rw [hcmd] at h
    exact absurd ht h.2.1
  | stopEmpty waited =>
    rw [hcmd] at h
    exact absurd ht h.2.1
  | restarted => exact absurd hcmd hr
  | _ =>
    rw [hcmd] at h
    exact absurd ht h.2.2.2.2.2

/-- A step of a handler that does not touch the scans. -/
theorem State.Inv.given {s s' : State} (h : s.Inv) (hscan : s.task.scan = []) (hscan' : s'.task.scan = [])
    (hs : s' = {s with task := s'.task, stopAck := s'.stopAck, staStopAckPending := s'.staStopAckPending})
    (ack : s'.Ack) : s'.Inv := by
  have hpend : s'.pend = s.pend := by
    rw [hs]
    simp only [State.pend,hscan,hscan']
  have hsame : SameScans s s' := ⟨by rw [hpend],by rw [hs],by rw [hs],by rw [hs]⟩
  have scans : s'.Scans := Scans.same h.scans hsame (by rw [hs]; exact h.scans.lookup)
  exact
    { scans := scans
      place := Place.same h.place hsame (by rw [hs])
      numbers := Numbers.same h.numbers (by rw [hs]) (by rw [hs]) (fun hx => by rwa [hsame.inProgress] at hx)
        hsame.current
      ack := ack
      ordered := Ordered.frame h.ordered (by rw [hs]) (by rw [hs]) (by rw [hs])
      safe := Safe.same h.safe (by rw [hs]) (by rw [hs]) (by rw [hs]) scans }

theorem State.Inv.handle {s s' : State} (h : s.Inv) (hs : step s .handle = some s') : s'.Inv := by
  simp only [step] at hs
  split at hs
  · cases hs
  · next hrun =>
    unfold State.handle at hs
    split at hs
    · cases hs
    · next n ht =>
      split at hs
      · next hd =>
        have hoff : s.scanInProgress = false := by
          cases hi : s.scanInProgress with
          | false => rfl
          | true => exact absurd ⟨hi,hd⟩ h.scans.exclusive
        cases hs
        exact h.scanHandled ht hoff (fun hx => by cases hx) rfl (Numbers.same h.numbers rfl rfl id rfl)
          (Safe.same h.safe rfl rfl rfl)
      · next hd =>
        split at hs
        · next hi =>
          cases hs
          obtain ⟨hlt,hnew⟩ := h.numbers.current hi
          have hn : n = s.current := h.scans.own hi n (h.scans.last ht).1
          refine h.scanHandled ht rfl id rfl ⟨?_,fun hx => by cases hx⟩ (fun hx => ⟨?_,?_,hx.exclusive,h.safe.accepted,
            h.safe.fenced⟩)
          · intro r hr
            rcases List.mem_cons.mp hr with rfl | hr
            · exact hlt
            · exact h.numbers.known r hr
          · intro r hr
            rcases List.mem_cons.mp hr with rfl | hr
            · exact hn
            · exact h.safe.own r hr
          · refine List.nodup_cons.mpr ⟨fun hmem => ?_,h.safe.once⟩
            obtain ⟨r,hr,hx⟩ := List.mem_map.mp hmem
            exact hnew r hr hx
        · next hi =>
          cases hs
          exact h.scanHandled ht (by simpa using hi) id rfl (Numbers.same h.numbers rfl rfl id rfl)
            (Safe.same h.safe rfl rfl rfl)
    · next ht =>
      cases hs
      refine h.given (by simp [ht,Task.scan]) rfl rfl (Ack.sta h.ack rfl rfl (.inl ht) (by simp) (fun _ => rfl) ?_)
      rintro ⟨-,h1 | h1 | h1⟩
      · exact ⟨by simp,.inr (.inl ⟨h1.1,rfl,rfl⟩)⟩
      · rw [ht] at h1
        cases h1.2.2
      · exact absurd ht h1.2.2.1
    · next ht =>
      cases hs
      refine h.given (by simp [ht,Task.scan]) rfl rfl (Ack.sta h.ack rfl rfl (.inr ht) (by simp) id ?_)
      rintro ⟨-,h1 | h1 | h1⟩
      · exact absurd ht h1.2.2
      · exact ⟨by simp,.inr (.inr ⟨rfl,h1.2.1,by simp,by simp⟩)⟩
      · exact absurd ht h1.2.2.2
    · next ht =>
      cases hs
      obtain ⟨k,hc,hp,hf⟩ := Ack.fence_giving h.ack hrun ht
      refine h.given (by simp [ht,Task.scan]) rfl rfl ?_
      simp only [State.Ack,hc]
      refine ⟨hp,by simp,by simp,?_⟩
      rcases hf with ⟨_,_,-,-,-,-,-,hx⟩ | ⟨h1,h2,h3,-⟩
      · exact absurd ht hx
      · exact .inr ⟨h1,h2,h3,.inr ⟨rfl,by simp⟩⟩

theorem step_inv {s s' : State} {a : Act} (h : s.Inv) (hok : admits s a = true) (hs : step s a = some s') :
    s'.Inv := by
  cases a with
  | scanRequest => exact h.scanRequest hs
  | scanPublish mode => exact h.scanPublish hs
  | scanStart ok => exact h.scanStart hs
  | scanRespond => exact h.scanRespond hs
  | authRequest => exact h.authRequest hs
  | authStart => exact h.authStart hs
  | authDone => exact h.authDone hs
  | wifiStart => exact h.wifiStart hs
  | wifiStop mode => exact h.wifiStop hs
  | takeAck => exact h.takeAck hok hs
  | markStop => exact h.markStop hs
  | scanAbort => exact h.scanAbort hs
  | libStop r => exact h.libStop hs
  | ackTaken => exact h.ackTaken hs
  | clearPending => exact h.clearPending hs
  | postFence => exact h.postFence hs
  | restart => exact h.restart hs
  | postStaStop =>
    simp only [step] at hs
    split at hs
    · cases hs
    · cases hs
      exact h.postPlain (by simp) rfl
  | postOther =>
    simp only [step] at hs
    split at hs
    · cases hs
    · cases hs
      exact h.postPlain (by simp) rfl
  | postScanDone n => exact h.postScanDone hok hs
  | dispatch => exact h.dispatch hs
  | handle => exact h.handle hs

theorem init_inv : ({} : State).Inv where
  scans := ⟨by decide,by decide,by decide,by decide,by decide⟩
  place := trivial
  numbers := ⟨by decide,by decide⟩
  ack := ⟨fun x hx => (by cases hx),rfl,rfl,by simp,by simp,by simp⟩
  ordered := ⟨List.Pairwise.nil,fun x hx => (by cases hx),fun x hx => (by cases hx),Nat.le_refl _⟩
  safe := ⟨by decide,by decide,by decide,by decide,by decide⟩

/-- The fence keeps a SCAN_DONE from the wrong scan, in every run in which a stop that failed leaves no
SCAN_DONE and no semaphore behind. -/
theorem scan_fence_safe (as : List Act) (s : State) (hok : Along step (fun s a => admits s a = true) {} as)
    (hs : exec step {} as = some s) : s.Safe :=
  (exec_invariant_along (fun _ _ _ hi ha hx => step_inv hi ha hx) hok init_inv hs).safe

/-- A scan is aborted by a stop, its SCAN_DONE arrives late, and the next scan is completed. -/
def abortedScan : List Act :=
  [.wifiStart,.scanRequest,.scanPublish true,.scanStart true,.scanRespond,
   .wifiStop true,.takeAck,.markStop,.scanAbort,.postScanDone 0,.postStaStop,.libStop .ok,
   .dispatch,.handle,.dispatch,.handle,.handle,.ackTaken,.clearPending,.takeAck,.postFence,.dispatch,.handle,.ackTaken,
   .wifiStart,.scanRequest,.scanPublish true,.scanStart true,.postScanDone 1,.dispatch,.handle,.scanRespond]

theorem scan_fence_safe_aborted :
    (exec step {} abortedScan).any (fun s => decide (s.reports = [(1,1)] ∧ s.accepts.length = 2)) = true ∧
    ∃ s, exec step {} abortedScan = some s ∧ s.Safe := by
  refine ⟨by decide +kernel,?_⟩
  cases hs : exec step {} abortedScan with
  | none =>
    have : (exec step {} abortedScan).isSome = true := by decide +kernel
    simp [hs] at this
  | some s => exact ⟨s,rfl,scan_fence_safe abortedScan s (by decide +kernel) hs⟩

/-- `esp_wifi_stop` fails, the aborted scan goes on, and its SCAN_DONE is taken for that of the next. -/
def failedStop : List Act :=
  [.wifiStart,.scanRequest,.scanPublish true,.scanStart true,.scanRespond,
   .wifiStop true,.takeAck,.markStop,.scanAbort,.libStop .failed,.clearPending,.takeAck,.postFence,
   .dispatch,.handle,.ackTaken,
   .scanRequest,.scanPublish true,.scanStart true,.scanRespond,.postScanDone 0,.dispatch,.handle]

/-- `esp_wifi_stop` fails while an older STA_STOP is handled, whose semaphore stands for the fence. -/
def straySemaphore : List Act :=
  [.wifiStart,.scanRequest,.scanPublish true,.scanStart true,.scanRespond,.postStaStop,.postOther,
   .wifiStop true,.takeAck,.markStop,.dispatch,.scanAbort,.libStop .failed,.clearPending,.takeAck,.handle,.postFence,
   .handle,.ackTaken]

/-- The first scan's SCAN_DONE reports the second; a stop returns before its fence. -/
theorem scan_fence_passed :
    (exec step {} failedStop).any (fun s => decide (¬ s.Safe ∧ s.reports = [(0,1)])) = true ∧
    (exec step {} straySemaphore).any (fun s => decide (¬ s.Safe ∧ s.returns = [⟨true,true⟩])) = true :=
  ⟨by decide +kernel,by decide +kernel⟩

end EspHosted.ScanFence
