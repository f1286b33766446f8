import Mathlib.Data.List.Nodup
import Mathlib.Data.List.Perm.Basic
import EspHosted.Lib.Run

/-!
Scans asked for by cfg80211: `cmd_scan_request`, the SCAN_DONE event, `esp_scan_timeout_work`,
`esp_mark_scan_done_and_disconnect` and `esp_mlme_cancel`. cfg80211 makes one scan call at a time;
the other operations run beside it, any number of them, and a step is one access to what they share.
The scans `cmd_auth_request` makes on its own are left out.
-/

set_option autoImplicit false

namespace EspHosted.ScanRequest
open Run

/-- The delay of `scan_timeout_work`, in milliseconds. -/
def SCAN_TIMEOUT : Nat := 15000

/-- Where `cmd_scan_request` is for request `n`. -/
inductive Caller where
  | idle
  | checked (n : Nat)
  /-- `scan_in_progress` is set, `request` not yet. -/
  | flagged (n : Nat)
  | waiting (n : Nat)
  | acked (n : Nat)
  /-- `wait_and_decode_cmd_resp` has cleared both. -/
  | failing (n : Nat)
  deriving DecidableEq, Repr

inductive Op where
  /-- SCAN_DONE, in front of `cancel_delayed_work` -/
  | event
  /-- `esp_mlme_cancel` in `cancel_delayed_work_sync` and behind it -/
  | cancelling
  | cancelled
  /-- In front of the exchange in `esp_mark_scan_done`, and behind it -/
  | mark (abort : Bool)
  | took (r : Option Nat) (abort : Bool)
  deriving DecidableEq, Repr

/-- `esp_scan_timeout_work` -/
inductive Work where
  | idle
  | started
  | mark
  | took (r : Option Nat)
  deriving DecidableEq, Repr

structure State where
  now : Nat := 0
  /-- `scan_timeout_work` is pending, until then. -/
  deadline : Option Nat := none
  inProgress : Bool := false
  request : Option Nat := none
  caller : Caller := .idle
  ops : List Op := []
  work : Work := .idle
  next : Nat := 0
  /-- Requests whose command was acknowledged, and when. -/
  acks : List (Nat × Nat) := []
  accepts : List Nat := []
  errors : List Nat := []
  /-- The calls of `cfg80211_scan_done`: the request, and whether it was aborted. -/
  done : List (Nat × Bool) := []
  /-- Requests `esp_scan_timeout_work` took, and when. -/
  timeouts : List (Nat × Nat) := []
  deriving DecidableEq, Repr

/-- `refused`: one of the other checks fails, or there is no command node. -/
def State.scan (s : State) (refused : Bool) : Option State :=
  match s.caller with
  | .idle =>
    if refused || s.inProgress || s.request.isSome then
      some {s with next := s.next+1, errors := s.next :: s.errors}
    else some {s with next := s.next+1, caller := .checked s.next}
  | _ => none

def State.flag (s : State) : Option State :=
  match s.caller with
  | .checked n => some {s with inProgress := true, caller := .flagged n}
  | _ => none

def State.publish (s : State) : Option State :=
  match s.caller with
  | .flagged n => some {s with request := some n, caller := .waiting n}
  | _ => none

/-- The command is answered with success, or it is refused, times out, fails or is aborted. -/
def State.response (s : State) (ok : Bool) : Option State :=
  match s.caller with
  | .waiting n =>
    if ok then some {s with acks := (n,s.now) :: s.acks, caller := .acked n}
    else some {s with inProgress := false, request := none, caller := .failing n}
  | _ => none

def State.fail (s : State) : Option State :=
  match s.caller with
  | .failing n => some {s with inProgress := false, request := none, errors := n :: s.errors, caller := .idle}
  | _ => none

/-- `schedule_delayed_work` does nothing while the work is pending or being cancelled. -/
def State.arm (s : State) : Option State :=
  match s.caller with
  | .acked n =>
    some {s with
      deadline := if s.deadline.isSome || s.ops.contains .cancelling then s.deadline else some (s.now+SCAN_TIMEOUT)
      accepts := n :: s.accepts
      caller := .idle}
  | _ => none

def State.scanDone (s : State) : Option State :=
  some (if !s.inProgress && s.request.isNone then s else {s with ops := .event :: s.ops})

/-- `esp_mark_scan_done_and_disconnect` -/
def State.stop (s : State) : Option State := some {s with ops := .mark true :: s.ops}

def State.mlmeCancel (s : State) : Option State := some {s with deadline := none, ops := .cancelling :: s.ops}

def State.cancelTimer (s : State) : Option State :=
  if .event ∈ s.ops then some {s with deadline := none, ops := .mark false :: s.ops.erase .event} else none

/-- `cancel_delayed_work_sync` waits for the work that is running. -/
def State.cancelSync (s : State) : Option State :=
  if .cancelling ∈ s.ops ∧ s.work = .idle then some {s with ops := .cancelled :: s.ops.erase .cancelling} else none

def State.cancelCheck (s : State) : Option State :=
  if .cancelled ∈ s.ops then
    if s.inProgress || s.request.isSome then some {s with ops := .mark true :: s.ops.erase .cancelled}
    else some {s with ops := s.ops.erase .cancelled}
  else none

def State.exchange (s : State) (abort : Bool) : Option State :=
  if .mark abort ∈ s.ops then
    some {s with request := none, ops := .took s.request abort :: s.ops.erase (.mark abort)}
  else none

def State.finish (s : State) (r : Option Nat) (abort : Bool) : Option State :=
  if .took r abort ∈ s.ops then
    some {s with
      inProgress := false
      done := r.toList.map (fun n => (n,abort)) ++ s.done
      ops := s.ops.erase (.took r abort)}
  else none

def State.fire (s : State) : Option State :=
  match s.work, s.deadline with
  | .idle, some d => if d ≤ s.now then some {s with deadline := none, work := .started} else none
  | _, _ => none

def State.workCheck (s : State) : Option State :=
  match s.work with
  | .started => some {s with work := if s.inProgress || s.request.isSome then .mark else .idle}
  | _ => none

def State.workExchange (s : State) : Option State :=
  match s.work with
  | .mark =>
    some {s with
      request := none
      timeouts := s.request.toList.map (fun n => (n,s.now)) ++ s.timeouts
      work := .took s.request}
  | _ => none

def State.workFinish (s : State) : Option State :=
  match s.work with
  | .took r => some {s with inProgress := false, done := r.toList.map (fun n => (n,true)) ++ s.done, work := .idle}
  | _ => none

inductive Act where
  | tick (ms : Nat)
  | scan (refused : Bool)
  | flag
  | publish
  | response (ok : Bool)
  | fail
  | arm
  | scanDone
  | stop
  | mlmeCancel
  | cancelTimer
  | cancelSync
  | cancelCheck
  | exchange (abort : Bool)
  | finish (r : Option Nat) (abort : Bool)
  | fire
  | workCheck
  | workExchange
  | workFinish
  deriving DecidableEq, Repr

def step (s : State) : Act → Option State
  | .tick ms => some {s with now := s.now+ms}
  | .scan refused => s.scan refused
  | .flag => s.flag
  | .publish => s.publish
  | .response ok => s.response ok
  | .fail => s.fail
  | .arm => s.arm
  | .scanDone => s.scanDone
  | .stop => s.stop
  | .mlmeCancel => s.mlmeCancel
  | .cancelTimer => s.cancelTimer
  | .cancelSync => s.cancelSync
  | .cancelCheck => s.cancelCheck
  | .exchange abort => s.exchange abort
  | .finish r abort => s.finish r abort
  | .fire => s.fire
  | .workCheck => s.workCheck
  | .workExchange => s.workExchange
  | .workFinish => s.workFinish

def Op.took? : Op → List Nat
  | .took r _ => r.toList
  | _ => []

def Work.took? : Work → List Nat
  | .took r => r.toList
  | _ => []

/-- The requests somebody has taken from `request` and is about to report. -/
def State.taken (s : State) : List Nat := s.ops.flatMap Op.took? ++ s.work.took?

/-- It has cancelled the timer, or needs none, and is going to take the request. -/
def Op.ends : Op → Bool
  | .cancelling | .cancelled | .mark _ => true
  | _ => false

def Work.ends : Work → Bool
  | .started | .mark => true
  | _ => false

/-- Somebody is going to complete what is in `request`. -/
def State.watched (s : State) : Bool := s.deadline.isSome || s.work.ends || s.ops.any Op.ends

structure State.Safe (s : State) : Prop where
  once : (s.done.map Prod.fst).Nodup
  refused : ∀ n ∈ s.errors, n ∉ s.done.map Prod.fst
  kept : ∀ n ∈ s.accepts, n ∈ s.done.map Prod.fst ∨ n ∈ s.taken ∨ (s.request = some n ∧ s.watched = true)
  timeout : ∀ x ∈ s.timeouts, ∃ t, (x.1,t) ∈ s.acks ∧ t+SCAN_TIMEOUT ≤ x.2

instance (s : State) : Decidable s.Safe :=
  decidable_of_iff
    ((s.done.map Prod.fst).Nodup ∧ (∀ n ∈ s.errors, n ∉ s.done.map Prod.fst) ∧
      (∀ n ∈ s.accepts, n ∈ s.done.map Prod.fst ∨ n ∈ s.taken ∨ (s.request = some n ∧ s.watched = true)) ∧
      ∀ x ∈ s.timeouts, ∃ y ∈ s.acks, y.1 = x.1 ∧ y.2+SCAN_TIMEOUT ≤ x.2)
    ⟨fun ⟨h1,h2,h3,h4⟩ => ⟨h1,h2,h3,fun x hx => by
        obtain ⟨y,hy,heq,hle⟩ := h4 x hx
        exact ⟨y.2,by rw [← heq]; exact hy,hle⟩⟩,
      fun h => ⟨h.once,h.refused,h.kept,fun x hx => by
        obtain ⟨t,ht,hle⟩ := h.timeout x hx
        exact ⟨(x.1,t),ht,rfl,hle⟩⟩⟩

/-- A request is published while `scan_timeout_work` is neither pending nor running, and a command
that fails finds its request still there. -/
def admits (s : State) : Act → Bool
  | .publish => s.deadline.isNone && s.work = .idle
  | .response ok => ok || s.request.isSome
  | _ => true

/-- Every request that has been in `request`, with the place where it is now. -/
def State.published (s : State) : List Nat := s.request.toList ++ s.taken ++ s.done.map Prod.fst

/-- What `cmd_scan_request` relies on between its steps. -/
def State.Place (s : State) : Prop :=
  match s.caller with
  | .idle => ∀ r, s.request = some r → r ∈ s.accepts
  | .checked n | .flagged n => n < s.next ∧ n ∉ s.published ∧ n ∉ s.errors ∧ s.request = none
  | .waiting n => n ∈ s.published ∧ s.deadline = none ∧ s.work = .idle ∧ (s.request = none ∨ s.request = some n) ∧
      n ∉ s.accepts
  | .acked n => n ∈ s.published ∧ s.deadline = none ∧ s.work = .idle ∧ (s.request = none ∨ s.request = some n) ∧
      ∃ t, (n,t) ∈ s.acks ∧ t ≤ s.now
  | .failing n => n < s.next ∧ n ∉ s.published ∧ s.request = none

structure State.Inv (s : State) : Prop where
  once : s.published.Nodup
  known : ∀ n ∈ s.published, n < s.next
  refused : ∀ n ∈ s.errors, n < s.next ∧ n ∉ s.published
  kept : ∀ n ∈ s.accepts, n ∈ s.published
  place : s.Place
  due : ∀ r, s.request = some r → r ∈ s.accepts → s.watched = true
  pending : ∀ d r, s.deadline = some d → s.request = some r → ∃ t, (r,t) ∈ s.acks ∧ t+SCAN_TIMEOUT ≤ d
  running : ∀ r, s.work.ends = true → s.request = some r → ∃ t, (r,t) ∈ s.acks ∧ t+SCAN_TIMEOUT ≤ s.now
  timeout : ∀ x ∈ s.timeouts, ∃ t, (x.1,t) ∈ s.acks ∧ t+SCAN_TIMEOUT ≤ x.2

theorem State.Inv.safe {s : State} (h : s.Inv) : s.Safe where
  once := (List.nodup_append.mp h.once).2.1
  refused := fun n hn hx => (h.refused n hn).2 (List.mem_append_right _ hx)
  kept := by
    intro n hn
    rcases List.mem_append.mp (h.kept n hn) with hx | hx
    · rcases List.mem_append.mp hx with hx | hx
      · have hr : s.request = some n := by simpa [eq_comm] using hx
        exact .inr (.inr ⟨hr,h.due n hr hn⟩)
      · exact .inr (.inl hx)
    · exact .inl hx
  timeout := h.timeout

/-- A step of one of the other operations: requests only move on, and the timer is not armed. -/
theorem State.Inv.moved {s s' : State} (h : s.Inv) (hcaller : s'.caller = s.caller) (hnext : s'.next = s.next)
    (hacks : s'.acks = s.acks) (haccepts : s'.accepts = s.accepts) (herrors : s'.errors = s.errors)
    (hp : s'.published.Perm s.published) (hnow : s.now ≤ s'.now)
    (hreq : s'.request = s.request ∨ s'.request = none) (hdl : s'.deadline = s.deadline ∨ s'.deadline = none)
    (hwork : s'.work.ends = true → s.work.ends = true ∨ ∃ d, s.deadline = some d ∧ d ≤ s'.now)
    (hidle : s.work = .idle → s.deadline = none → s'.work = .idle)
    (hdue : s'.request.isSome = true → s.watched = true → s'.watched = true)
    (ht : ∀ x ∈ s'.timeouts, ∃ t, (x.1,t) ∈ s.acks ∧ t+SCAN_TIMEOUT ≤ x.2) : s'.Inv := by
  have hold : ∀ r, s'.request = some r → s.request = some r := by
    intro r hr
    rcases hreq with hx | hx
    · exact hx ▸ hr
    · rw [hx] at hr
      cases hr
  have hno : s.deadline = none → s'.deadline = none := by
    intro hd
    rcases hdl with hx | hx
    · rw [hx,hd]
    · exact hx
  have hnone : s.request = none → s'.request = none := by
    intro hr
    rcases hreq with hx | hx
    · rw [hx,hr]
    · exact hx
  have hmem : ∀ n, n ∈ s'.published ↔ n ∈ s.published := fun n => hp.mem_iff
  refine
    { once := hp.nodup_iff.mpr h.once
      known := fun n hn => ?_
      refused := fun n hn => ?_
      kept := fun n hn => ?_
      place := ?_
      due := fun r hr ha => ?_
      pending := fun d r hd hr => ?_
      running := fun r hw hr => ?_
      timeout := by rw [hacks]; exact ht }
  · rw [hnext]
    exact h.known n ((hmem n).mp hn)
  · rw [hnext,hmem]
    exact h.refused n (herrors ▸ hn)
  · rw [hmem]
    exact h.kept n (haccepts ▸ hn)
  · have hplace := h.place
    unfold State.Place at hplace ⊢
    rw [hcaller]
    cases hc : s.caller with
    | idle =>
      rw [hc] at hplace
      exact fun r hr => by rw [haccepts]; exact hplace r (hold r hr)
    | checked n =>
      rw [hc] at hplace
      obtain ⟨h1,h2,h3,h4⟩ := hplace
      exact ⟨by rw [hnext]; exact h1,fun hx => h2 ((hmem n).mp hx),by rw [herrors]; exact h3,hnone h4⟩
    | flagged n =>
      rw [hc] at hplace
      obtain ⟨h1,h2,h3,h4⟩ := hplace
      exact ⟨by rw [hnext]; exact h1,fun hx => h2 ((hmem n).mp hx),by rw [herrors]; exact h3,hnone h4⟩
    | waiting n =>
      rw [hc] at hplace
      obtain ⟨h1,h2,h3,h4,h5⟩ := hplace
      exact ⟨(hmem n).mpr h1,hno h2,hidle h3 h2,hreq.elim (fun hx => by rw [hx]; exact h4) .inl,
        by rw [haccepts]; exact h5⟩
    | acked n =>
      rw [hc] at hplace
      obtain ⟨h1,h2,h3,h4,t,h5,h6⟩ := hplace
      exact ⟨(hmem n).mpr h1,hno h2,hidle h3 h2,hreq.elim (fun hx => by rw [hx]; exact h4) .inl,t,
        by rw [hacks]; exact h5,Nat.le_trans h6 hnow⟩
    | failing n =>
      rw [hc] at hplace
      obtain ⟨h1,h2,h3⟩ := hplace
      exact ⟨by rw [hnext]; exact h1,fun hx => h2 ((hmem n).mp hx),hnone h3⟩
  · exact hdue (by rw [hr]; rfl) (h.due r (hold r hr) (haccepts ▸ ha))
  · rw [hacks]
    rcases hdl with hx | hx
    · exact h.pending d r (hx ▸ hd) (hold r hr)
    · rw [hx] at hd
      cases hd
  · rw [hacks]
    rcases hwork hw with hx | ⟨d,hd,hle⟩
    · obtain ⟨t,ha,hle⟩ := h.running r hx (hold r hr)
      exact ⟨t,ha,by omega⟩
    · obtain ⟨t,ha,hdt⟩ := h.pending d r hd (hold r hr)
      exact ⟨t,ha,by omega⟩

/-- An operation goes from `o` to `o'`. -/
theorem taken_replace {s s' : State} {o : Op} (l : List Op) (ho : o ∈ s.ops) (hs : s'.ops = l ++ s.ops.erase o)
    (hw : s'.work = s.work) : (o.took? ++ s'.taken).Perm (l.flatMap Op.took? ++ s.taken) := by
  have hperm : (s.ops.flatMap Op.took?).Perm (o.took? ++ (s.ops.erase o).flatMap Op.took?) :=
    (List.perm_cons_erase ho).flatMap_right Op.took?
  have h1 : s'.taken = l.flatMap Op.took? ++ ((s.ops.erase o).flatMap Op.took? ++ s.work.took?) := by
    simp [State.taken,hs,hw]
  rw [h1]
  refine List.perm_append_comm_assoc _ _ _ |>.trans (List.Perm.append_left _ ?_)
  rw [State.taken,← List.append_assoc]
  exact (hperm.append_right _).symm

theorem published_perm {s s' : State} (hr : s'.request = s.request) (hd : s'.done = s.done)
    (ht : s'.taken.Perm s.taken) : s'.published.Perm s.published := by
  simp only [State.published,hr,hd]
  exact (ht.append_left _).append_right _

/-- A step that only makes or moves operations that have taken nothing. -/
theorem State.Inv.operated {s s' : State} (h : s.Inv)
    (hs : s' = {s with now := s'.now, deadline := s'.deadline, ops := s'.ops}) (hnow : s.now ≤ s'.now)
    (ht : s'.taken.Perm s.taken) (hdl : s'.deadline = s.deadline ∨ s'.deadline = none)
    (hdue : s'.request.isSome = true → s.watched = true → s'.watched = true) : s'.Inv := by
  have hwork : s'.work = s.work := by rw [hs]
  have hreq : s'.request = s.request := by rw [hs]
  exact h.moved (by rw [hs]) (by rw [hs]) (by rw [hs]) (by rw [hs]) (by rw [hs])
    (published_perm hreq (by rw [hs]) ht) hnow (.inl hreq) hdl (fun hx => .inl (hwork ▸ hx))
    (fun hx _ => hwork.trans hx) hdue (by rw [hs]; exact h.timeout)

theorem watched_of_op {s : State} {o : Op} (ho : o ∈ s.ops) (he : o.ends = true) : s.watched = true := by
  simp only [State.watched,Bool.or_eq_true,List.any_eq_true]
  exact .inr ⟨o,ho,he⟩

theorem State.Inv.scanDone {s s' : State} (h : s.Inv) (hs : s.scanDone = some s') : s'.Inv := by
  simp only [State.scanDone,Option.some.injEq] at hs
  subst hs
  split
  · exact h
  · refine h.operated rfl (Nat.le_refl _) (by simp [State.taken,Op.took?]) (.inl rfl) (fun _ hw => ?_)
    simp only [State.watched,List.any_cons,Bool.or_eq_true] at hw ⊢
    tauto

theorem State.Inv.stop {s s' : State} (h : s.Inv) (hs : s.stop = some s') : s'.Inv := by
  simp only [State.stop,Option.some.injEq] at hs
  subst hs
  exact h.operated rfl (Nat.le_refl _) (by simp [State.taken,Op.took?]) (.inl rfl)
    (fun _ _ => watched_of_op List.mem_cons_self rfl)

theorem State.Inv.mlmeCancel {s s' : State} (h : s.Inv) (hs : s.mlmeCancel = some s') : s'.Inv := by
  simp only [State.mlmeCancel,Option.some.injEq] at hs
  subst hs
  exact h.operated rfl (Nat.le_refl _) (by simp [State.taken,Op.took?]) (.inr rfl)
    (fun _ _ => watched_of_op List.mem_cons_self rfl)

theorem State.Inv.cancelTimer {s s' : State} (h : s.Inv) (hs : s.cancelTimer = some s') : s'.Inv := by
  simp only [State.cancelTimer] at hs
  split at hs
  · next ho =>
    cases hs
    exact h.operated rfl (Nat.le_refl _) (taken_replace [.mark false] ho rfl rfl) (.inr rfl)
      (fun _ _ => watched_of_op List.mem_cons_self rfl)
  · cases hs

theorem State.Inv.cancelSync {s s' : State} (h : s.Inv) (hs : s.cancelSync = some s') : s'.Inv := by
  simp only [State.cancelSync] at hs
  split at hs
  · next ho =>
    cases hs
    exact h.operated rfl (Nat.le_refl _) (taken_replace [.cancelled] ho.1 rfl rfl) (.inl rfl)
      (fun _ _ => watched_of_op List.mem_cons_self rfl)
  · cases hs

theorem State.Inv.cancelCheck {s s' : State} (h : s.Inv) (hs : s.cancelCheck = some s') : s'.Inv := by
  simp only [State.cancelCheck] at hs
  split at hs
  · next ho =>
    split at hs
    · cases hs
      exact h.operated rfl (Nat.le_refl _) (taken_replace [.mark true] ho rfl rfl) (.inl rfl)
        (fun _ _ => watched_of_op List.mem_cons_self rfl)
    · next hno =>
      cases hs
      refine h.operated rfl (Nat.le_refl _) (taken_replace [] ho rfl rfl) (.inl rfl) (fun hr _ => ?_)
      simp only [Bool.or_eq_true,not_or] at hno
      exact absurd hr hno.2
  · cases hs

theorem State.Inv.exchange {s s' : State} {abort : Bool} (h : s.Inv) (hs : s.exchange abort = some s') : s'.Inv := by
  simp only [State.exchange] at hs
  split at hs
  · next ho =>
    cases hs
    generalize hs' : ({s with request := none, ops := .took s.request abort :: s.ops.erase (.mark abort)} : State) = s'
    have ht : s'.taken.Perm (s.request.toList ++ s.taken) := by
      have hx : (Op.took? (.mark abort) ++ s'.taken).Perm ([Op.took s.request abort].flatMap Op.took? ++ s.taken) :=
        taken_replace _ ho (by rw [← hs']; rfl) (by rw [← hs'])
      simpa [Op.took?] using hx
    have hp : s'.published.Perm s.published := by
      have h1 : s'.published = s'.taken ++ s.done.map Prod.fst := by simp [State.published,← hs']
      rw [h1,State.published]
      exact ht.append_right _
    refine h.moved (by rw [← hs']) (by rw [← hs']) (by rw [← hs']) (by rw [← hs']) (by rw [← hs']) hp
      (Nat.le_of_eq (by rw [← hs'])) (.inr (by rw [← hs'])) (.inl (by rw [← hs'])) (fun hx => .inl (by rw [← hs'] at hx; exact hx))
      (fun hx _ => by rw [← hs']; exact hx) (fun hx => ?_) (by rw [← hs']; exact h.timeout)
    rw [← hs'] at hx
    cases hx
  · cases hs

theorem State.Inv.finish {s s' : State} {r : Option Nat} {abort : Bool} (h : s.Inv)
    (hs : s.finish r abort = some s') : s'.Inv := by
  simp only [State.finish] at hs
  split at hs
  · next ho =>
    cases hs
    generalize hs' : ({s with inProgress := _, done := _, ops := _} : State) = s'
    have ht : (r.toList ++ s'.taken).Perm s.taken := taken_replace [] ho (by rw [← hs']; rfl) (by rw [← hs'])
    have hp : s'.published.Perm s.published := by
      have h1 : s'.published = s.request.toList ++ s'.taken ++ (r.toList ++ s.done.map Prod.fst) := by
        simp [State.published,← hs',Function.comp_def]
      rw [h1,State.published,List.append_assoc,List.append_assoc]
      refine List.Perm.append_left _ ((List.perm_append_comm_assoc _ _ _).trans ?_)
      rw [← List.append_assoc]
      exact ht.append_right _
    refine h.moved (by rw [← hs']) (by rw [← hs']) (by rw [← hs']) (by rw [← hs']) (by rw [← hs']) hp
      (Nat.le_of_eq (by rw [← hs'])) (.inl (by rw [← hs'])) (.inl (by rw [← hs'])) (fun hx => .inl (by rw [← hs'] at hx; exact hx))
      (fun hx _ => by rw [← hs']; exact hx) (fun _ hw => ?_) (by rw [← hs']; exact h.timeout)
    -- what goes away was past its exchange
    simp only [State.watched,Bool.or_eq_true,List.any_eq_true] at hw
    rcases hw with hw | ⟨o,hmem,he⟩
    · simp only [State.watched,← hs',Bool.or_eq_true]
      exact .inl hw
    · refine watched_of_op (o := o) ?_ he
      rw [← hs']
      exact (List.mem_erase_of_ne (fun heq => by rw [heq] at he; cases he)).mpr hmem
  · cases hs

theorem State.Inv.tick {s : State} (h : s.Inv) (ms : Nat) : ({s with now := s.now+ms} : State).Inv :=
  h.operated rfl (Nat.le_add_right _ _) (.refl _) (.inl rfl) (fun _ hw => hw)

theorem State.Inv.fire {s s' : State} (h : s.Inv) (hs : s.fire = some s') : s'.Inv := by
  simp only [State.fire] at hs
  split at hs
  · next d hw hd =>
    split at hs
    · next hle =>
      cases hs
      exact h.moved rfl rfl rfl rfl rfl (published_perm rfl rfl (by simp [State.taken,hw,Work.took?])) (Nat.le_refl _)
        (.inl rfl) (.inr rfl) (fun _ => .inr ⟨d,hd,hle⟩) (fun _ hx => by rw [hd] at hx; cases hx)
        (fun _ _ => by simp [State.watched,Work.ends]) h.timeout
    · cases hs
  · cases hs

theorem State.Inv.workCheck {s s' : State} (h : s.Inv) (hs : s.workCheck = some s') : s'.Inv := by
  simp only [State.workCheck] at hs
  split at hs
  · next hw =>
    have hends : s.work.ends = true := by rw [hw]; rfl
    cases hs
    refine h.moved rfl rfl rfl rfl rfl (published_perm rfl rfl ?_) (Nat.le_refl _) (.inl rfl) (.inl rfl)
      (fun _ => .inl hends) (fun hx => by rw [hw] at hx; cases hx) (fun hr _ => ?_) h.timeout
    · by_cases hx : (s.inProgress || s.request.isSome) = true
      · simp [State.taken,hw,Work.took?,hx]
      · simp [State.taken,hw,Work.took?,hx]
    · have hr : s.request.isSome = true := hr
      simp [State.watched,hr,Work.ends]
  · cases hs

theorem State.Inv.workExchange {s s' : State} (h : s.Inv) (hs : s.workExchange = some s') : s'.Inv := by
  simp only [State.workExchange] at hs
  split at hs
  · next hw =>
    cases hs
    refine h.moved rfl rfl rfl rfl rfl ?_ (Nat.le_refl _) (.inr rfl) (.inl rfl) (fun hx => by cases hx)
      (fun hx => by rw [hw] at hx; cases hx) (fun hx => by cases hx) (fun x hx => ?_)
    · simp only [State.published,State.taken,hw,Work.took?,Option.toList_none,List.nil_append,List.append_nil]
      exact List.perm_append_comm.append_right _
    · rcases List.mem_append.mp hx with hx | hx
      · obtain ⟨r,hr,rfl⟩ := List.mem_map.mp hx
        exact h.running r (by rw [hw]; rfl) (Option.mem_toList.mp hr)
      · exact h.timeout x hx
  · cases hs

theorem State.Inv.workFinish {s s' : State} (h : s.Inv) (hs : s.workFinish = some s') : s'.Inv := by
  simp only [State.workFinish] at hs
  split at hs
  · next r hw =>
    cases hs
    refine h.moved rfl rfl rfl rfl rfl ?_ (Nat.le_refl _) (.inl rfl) (.inl rfl) (fun hx => by cases hx)
      (fun hx => by rw [hw] at hx; cases hx) (fun _ hx => ?_) h.timeout
    · simp [State.published,State.taken,hw,Work.took?,Function.comp_def]
    · simp only [State.watched,hw,Work.ends] at hx ⊢
      exact hx
  · cases hs

theorem State.Inv.place_at {s : State} (h : s.Inv) {c : Caller} (hc : s.caller = c) :
    ({s with caller := c} : State).Place := by
  have hs : ({s with caller := c} : State) = s := by rw [← hc]
  rw [hs]
  exact h.place

theorem State.Inv.scan {s s' : State} {refused : Bool} (h : s.Inv) (hs : s.scan refused = some s') : s'.Inv := by
  simp only [State.scan] at hs
  split at hs
  · next hc =>
    have hplace : ∀ r, s.request = some r → r ∈ s.accepts := h.place_at hc
    have hnew : s.next ∉ s.published := fun hx => Nat.lt_irrefl _ (h.known _ hx)
    split at hs
    · cases hs
      refine ⟨h.once,fun n hn => Nat.lt_succ_of_lt (h.known n hn),fun n hn => ?_,h.kept,?_,h.due,h.pending,h.running,
        h.timeout⟩
      · rcases List.mem_cons.mp hn with rfl | hn
        · exact ⟨Nat.lt_succ_self _,hnew⟩
        · exact ⟨Nat.lt_succ_of_lt (h.refused n hn).1,(h.refused n hn).2⟩
      · simp only [State.Place,hc]
        exact hplace
    · next hfree =>
      simp only [Bool.or_eq_true,not_or,Bool.not_eq_true,Option.isSome_eq_false_iff,Option.isNone_iff_eq_none] at hfree
      cases hs
      exact ⟨h.once,fun n hn => Nat.lt_succ_of_lt (h.known n hn),
        fun n hn => ⟨Nat.lt_succ_of_lt (h.refused n hn).1,(h.refused n hn).2⟩,h.kept,
        ⟨Nat.lt_succ_self _,hnew,fun hn => Nat.lt_irrefl _ (h.refused _ hn).1,hfree.2⟩,h.due,h.pending,h.running,h.timeout⟩
  · cases hs

theorem State.Inv.flag {s s' : State} (h : s.Inv) (hs : s.flag = some s') : s'.Inv := by
  simp only [State.flag] at hs
  split at hs
  · next n hc =>
    have hplace : n < s.next ∧ n ∉ s.published ∧ n ∉ s.errors ∧ s.request = none := h.place_at hc
    cases hs
    exact ⟨h.once,h.known,h.refused,h.kept,hplace,h.due,h.pending,h.running,h.timeout⟩
  · cases hs

theorem State.Inv.publish {s s' : State} (h : s.Inv) (ha : admits s .publish = true) (hs : s.publish = some s') :
    s'.Inv := by
  simp only [State.publish] at hs
  split at hs
  · next n hc =>
    obtain ⟨hlt,hnew,herr,hreq⟩ : n < s.next ∧ n ∉ s.published ∧ n ∉ s.errors ∧ s.request = none := h.place_at hc
    simp only [admits,Bool.and_eq_true,Option.isNone_iff_eq_none,decide_eq_true_eq] at ha
    cases hs
    generalize hs' : ({s with request := some n, caller := .waiting n} : State) = s'
    have hp : s'.published = n :: s.published := by simp [State.published,State.taken,← hs',hreq]
    have hacc : n ∉ s.accepts := fun hx => hnew (h.kept n hx)
    refine
      { once := by rw [hp]; exact List.nodup_cons.mpr ⟨hnew,h.once⟩
        known := fun m hm => ?_
        refused := fun m hm => ?_
        kept := fun m hm => ?_
        place := by
          rw [← hs'] at hp ⊢
          exact ⟨by rw [hp]; exact List.mem_cons_self,ha.1,ha.2,.inr rfl,hacc⟩
        due := fun r hr hx => ?_
        pending := fun d r hd => ?_
        running := fun r hw => ?_
        timeout := by rw [← hs']; exact h.timeout }
    · rw [hp] at hm
      rw [← hs']
      rcases List.mem_cons.mp hm with rfl | hm
      · exact hlt
      · exact h.known m hm
    · have hm : m ∈ s.errors := by rw [← hs'] at hm; exact hm
      rw [hp,← hs']
      refine ⟨(h.refused m hm).1,fun hx => ?_⟩
      rcases List.mem_cons.mp hx with rfl | hx
      · exact herr hm
      · exact (h.refused m hm).2 hx
    · have hm : m ∈ s.accepts := by rw [← hs'] at hm; exact hm
      rw [hp]
      exact List.mem_cons_of_mem _ (h.kept m hm)
    · rw [← hs'] at hr hx
      cases hr
      exact absurd hx hacc
    · rw [← hs',ha.1] at hd
      cases hd
    · rw [← hs',ha.2] at hw
      cases hw
  · cases hs

theorem State.Inv.response {s s' : State} {ok : Bool} (h : s.Inv) (ha : admits s (.response ok) = true)
    (hs : s.response ok = some s') : s'.Inv := by
  simp only [State.response] at hs
  split at hs
  · next n hc =>
    obtain ⟨hin,hdl,hwork,hreq,hacc⟩ : n ∈ s.published ∧ s.deadline = none ∧ s.work = .idle ∧
      (s.request = none ∨ s.request = some n) ∧ n ∉ s.accepts := h.place_at hc
    cases ok with
    | true =>
      cases hs
      refine ⟨h.once,h.known,h.refused,h.kept,⟨hin,hdl,hwork,hreq,s.now,List.mem_cons_self,Nat.le_refl _⟩,h.due,
        fun d r hd => ?_,fun r hw => ?_,fun x hx => ?_⟩
      · have hd : s.deadline = some d := hd
        rw [hdl] at hd
        cases hd
      · have hw : s.work.ends = true := hw
        rw [hwork] at hw
        cases hw
      · obtain ⟨t,ht,hle⟩ := h.timeout x hx
        exact ⟨t,List.mem_cons_of_mem _ ht,hle⟩
    | false =>
      have hreq : s.request = some n := by
        rcases hreq with hx | hx
        · simp [admits,hx] at ha
        · exact hx
      cases hs
      generalize hs' : ({s with inProgress := false, request := none, caller := .failing n} : State) = s'
      have hp : s.published = n :: s'.published := by simp [State.published,State.taken,← hs',hreq]
      have honce := h.once
      rw [hp,List.nodup_cons] at honce
      have hnone : s'.request = none := by rw [← hs']
      refine
        { once := honce.2
          known := fun m hm => ?_
          refused := fun m hm => ?_
          kept := fun m hm => ?_
          place := by
            rw [← hs'] at honce ⊢
            exact ⟨h.known n hin,honce.1,rfl⟩
          due := fun r hr => by rw [hnone] at hr; cases hr
          pending := fun d r _ hr => by rw [hnone] at hr; cases hr
          running := fun r _ hr => by rw [hnone] at hr; cases hr
          timeout := by rw [← hs']; exact h.timeout }
      · rw [← hs']
        exact h.known m (by rw [hp]; exact List.mem_cons_of_mem _ hm)
      · have hm : m ∈ s.errors := by rw [← hs'] at hm; exact hm
        refine ⟨by rw [← hs']; exact (h.refused m hm).1,fun hx => (h.refused m hm).2 ?_⟩
        rw [hp]
        exact List.mem_cons_of_mem _ hx
      · have hm : m ∈ s.accepts := by rw [← hs'] at hm; exact hm
        have hx := h.kept m hm
        rw [hp] at hx
        rcases List.mem_cons.mp hx with rfl | hx
        · exact absurd hm hacc
        · exact hx
  · cases hs

theorem State.Inv.fail {s s' : State} (h : s.Inv) (hs : s.fail = some s') : s'.Inv := by
  simp only [State.fail] at hs
  split at hs
  · next n hc =>
    obtain ⟨hlt,hnew,hreq⟩ : n < s.next ∧ n ∉ s.published ∧ s.request = none := h.place_at hc
    cases hs
    generalize hs' : ({s with inProgress := _, request := _, errors := _, caller := _} : State) = s'
    have hp : s'.published = s.published := by simp [State.published,State.taken,← hs',hreq]
    have hnone : s'.request = none := by rw [← hs']
    refine
      { once := by rw [hp]; exact h.once
        known := by rw [hp,← hs']; exact h.known
        refused := fun m hm => ?_
        kept := by rw [hp,← hs']; exact h.kept
        place := by rw [← hs']; exact fun r hr => by cases hr
        due := fun r hr => by rw [hnone] at hr; cases hr
        pending := fun d r _ hr => by rw [hnone] at hr; cases hr
        running := fun r _ hr => by rw [hnone] at hr; cases hr
        timeout := by rw [← hs']; exact h.timeout }
    rw [hp]
    rw [← hs'] at hm ⊢
    rcases List.mem_cons.mp hm with rfl | hm
    · exact ⟨hlt,hnew⟩
    · exact h.refused m hm
  · cases hs

theorem State.Inv.arm {s s' : State} (h : s.Inv) (hs : s.arm = some s') : s'.Inv := by
  simp only [State.arm] at hs
  split at hs
  · next n hc =>
    obtain ⟨hin,hdl,hwork,hreq,t,hack,hle⟩ : n ∈ s.published ∧ s.deadline = none ∧ s.work = .idle ∧
      (s.request = none ∨ s.request = some n) ∧ ∃ t, (n,t) ∈ s.acks ∧ t ≤ s.now := h.place_at hc
    have hmine : ∀ r, s.request = some r → r = n := by
      intro r hr
      rcases hreq with hx | hx
      · rw [hx] at hr
        cases hr
      · exact Option.some.inj (hr.symm.trans hx)
    cases hs
    refine ⟨h.once,h.known,h.refused,fun m hm => ?_,fun r hr => ?_,fun r hr _ => ?_,fun d r hd hr => ?_,h.running,h.timeout⟩
    · rcases List.mem_cons.mp hm with rfl | hm
      · exact hin
      · exact h.kept m hm
    · rw [hmine r hr]
      exact List.mem_cons_self
    · -- the work is armed, or `esp_mlme_cancel` keeps it from being armed and ends the scan itself
      by_cases hx : Op.cancelling ∈ s.ops
      · exact watched_of_op hx rfl
      · simp [State.watched,hdl,hx]
    · rw [hmine r hr]
      refine ⟨t,hack,?_⟩
      simp only [hdl,Option.isSome_none,Bool.false_or] at hd
      split at hd
      · cases hd
      · cases hd
        omega
  · cases hs

theorem step_inv {s s' : State} {a : Act} (h : s.Inv) (ha : admits s a = true) (hs : step s a = some s') : s'.Inv := by
  cases a with
  | tick ms =>
    cases hs
    exact h.tick ms
  | scan refused => exact h.scan hs
  | flag => exact h.flag hs
  | publish => exact h.publish ha hs
  | response ok => exact h.response ha hs
  | fail => exact h.fail hs
  | arm => exact h.arm hs
  | scanDone => exact h.scanDone hs
  | stop => exact h.stop hs
  | mlmeCancel => exact h.mlmeCancel hs
  | cancelTimer => exact h.cancelTimer hs
  | cancelSync => exact h.cancelSync hs
  | cancelCheck => exact h.cancelCheck hs
  | exchange abort => exact h.exchange hs
  | finish r abort => exact h.finish hs
  | fire => exact h.fire hs
  | workCheck => exact h.workCheck hs
  | workExchange => exact h.workExchange hs
  | workFinish => exact h.workFinish hs

theorem init_inv : ({} : State).Inv :=
  ⟨List.nodup_nil,fun n hn => (by cases hn),fun n hn => (by cases hn),fun n hn => (by cases hn),fun r hr => (by cases hr),
    fun r hr => (by cases hr),fun d r hd => (by cases hd),fun r hw => (by cases hw),fun x hx => by cases hx⟩

theorem scan_request_safe (as : List Act) (s : State) (hok : Along step (fun s a => admits s a = true) {} as)
    (hs : exec step {} as = some s) : s.Safe :=
  (exec_invariant_along (fun _ _ _ hi ha hx => step_inv hi ha hx) hok init_inv hs).safe

/-- A scan that times out, one that is done, and one the firmware refuses. -/
def threeScans : List Act :=
  [.scan false,.flag,.publish,.response true,.arm,.tick 15000,.fire,.workCheck,.workExchange,.workFinish,
   .scan false,.flag,.publish,.response true,.arm,.scan false,.tick 300,.scanDone,.cancelTimer,.exchange false,
   .finish (some 1) false,
   .scan false,.flag,.publish,.response false,.fail,.mlmeCancel,.cancelSync,.cancelCheck]

theorem scan_request_safe_three :
    (exec step {} threeScans).any (fun s => decide (s.done = [(1,false),(0,true)] ∧ s.timeouts = [(0,15000)] ∧
      s.accepts = [1,0] ∧ s.errors = [3,2])) = true ∧
    ∃ s, exec step {} threeScans = some s ∧ s.Safe := by
  refine ⟨by decide +kernel,?_⟩
  cases hs : exec step {} threeScans with
  | none =>
    have hx : (exec step {} threeScans).isSome = true := by decide +kernel
    rw [hs] at hx
    cases hx
  | some s => exact ⟨s,rfl,scan_request_safe threeScans s (by decide +kernel) hs⟩

/-- SCAN_DONE is handled before the work is armed, which then ends the next scan after 5 s. -/
def staleTimer : List Act :=
  [.scan false,.flag,.publish,.response true,.scanDone,.cancelTimer,.exchange false,.finish (some 0) false,.arm,
   .tick 10000,.scan false,.flag,.publish,.response true,.arm,.tick 5000,.fire,.workCheck,.workExchange]

/-- The interface is stopped while the command is waited for, and the command is then aborted. -/
def stoppedScan : List Act :=
  [.scan false,.flag,.publish,.stop,.exchange true,.finish (some 0) true,.response false,.fail]

theorem scan_request_broken :
    (exec step {} staleTimer).any
      (fun s => decide (¬ s.Safe ∧ s.timeouts = [(1,15000)] ∧ s.acks = [(1,10000),(0,0)])) = true ∧
    (exec step {} stoppedScan).any (fun s => decide (¬ s.Safe ∧ s.done = [(0,true)] ∧ s.errors = [0])) = true :=
  ⟨by decide +kernel,by decide +kernel⟩

end EspHosted.ScanRequest
