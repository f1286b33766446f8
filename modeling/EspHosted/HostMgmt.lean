import Mathlib.Data.List.Nodup
import EspHosted.Lib.Run
import EspHosted.Wire

/-!
Transmission of management frames by the host, `cmd_mgmt_request` and HOSTED_EVENT_MGMT_TX_STATUS in
`esp_cmd.c`. The calls share one pending transaction of the interface; a step is one critical section
of its lock, a response that is decoded, or a status given to cfg80211.
-/

set_option autoImplicit false

namespace EspHosted.HostMgmt
open EspHosted Run

/-- `sizeof(struct cmd_mgmt_tx)`: the command header, 16 bytes and the length at offset 24 -/
def cmdMgmtTxSize : Nat := 28

def le32 (d : Bytes) (off : Nat) : Nat :=
  (d.getD off 0).toNat+256*((d.getD (off+1) 0).toNat+256*((d.getD (off+2) 0).toNat+256*(d.getD (off+3) 0).toNat))

/-- `process_cmd_resp`: a successful response with the marker only accepts the frame. -/
def isAcceptance (d : Bytes) : Bool :=
  d.getD 1 0 = CMD_RESPONSE_SUCCESS && d.getD 6 0 = HOSTED_MGMT_TX_ASYNC_STATUS_V1

/-- The result, and the ack and the frame that are reported at once. -/
def handleMgmtTxDone (dontWait : Bool) (mgmtFrame : Bytes) : Option Bytes → Int × Option (Bool × Bytes)
  | none => (-EINVAL,none)
  | some d =>
    let status := d.getD 1 0
    if d.length < cmdMgmtTxSize then (-EINVAL,none)
    else if status = CMD_RESPONSE_BUSY then (-EBUSY,none)
    else if status = CMD_RESPONSE_INVALID ∨ status = CMD_RESPONSE_UNSUPPORTED then (-EINVAL,none)
    else if dontWait || isAcceptance d then (0,none)
    else
      let len := le32 d 24
      let frame := if len ≠ 0 ∧ len ≤ d.length-cmdMgmtTxSize then (d.drop cmdMgmtTxSize).take len else mgmtFrame
      (0,some (status = CMD_RESPONSE_SUCCESS,frame))

/-- `wait_and_decode_cmd_resp`, with what the wait returned and the response. -/
def decode (dontWait : Bool) (mgmtFrame : Bytes) (ret : Int) (resp : Option Bytes) : Int × Option (Bool × Bytes) :=
  if ret = 0 then handleMgmtTxDone dontWait mgmtFrame resp else (ret,none)

/-- The error in the pointer, or none for a null pointer. -/
def cmdPrepareErr (errno : Nat) : Int := if errno = 0 then -ENOMEM else -errno

inductive Stage where
  /-- It has taken the slot. -/
  | claimed
  /-- It has a command node and has stored its cookie. -/
  | stored
  | waiting
  | failing (ret : Int)
  | returned (ret : Int)
  deriving DecidableEq, Repr

structure Call where
  id : UInt64
  dontWait : Bool
  frame : Bytes
  cookie : UInt64 := 0
  stage : Stage := .claimed
  deriving DecidableEq, Repr

def Call.failed (c : Call) : Bool :=
  match c.stage with
  | .returned r => r ≠ 0
  | _ => false

/-- A call of `cfg80211_mgmt_tx_status`: the request the cookie was stored by, and the id of the
event that caused it. -/
structure Status where
  call : Option Nat
  cookie : UInt64
  ack : Bool
  frame : Bytes
  id : Option UInt64 := none
  deriving DecidableEq, Repr

def Call.reports (c : Call) (n : Nat) (r : Option (Bool × Bytes)) : List Status :=
  r.toList.map fun x => ⟨some n,c.cookie,x.1,x.2,none⟩

structure Event where
  id : UInt64
  ack : Bool
  frameLen : Nat
  /-- What follows the fixed part of the event. -/
  frame : Bytes
  deriving DecidableEq, Repr

/-- `jiffies` has `w` bits. -/
structure State (w : Nat) where
  mgmtTxId : UInt64 := 0
  active : Bool := false
  pendingId : UInt64 := 0
  pendingCookie : UInt64 := 0
  sentAt : BitVec w := 0
  calls : List Call := []
  /-- The request that took the slot last, and the one that stored the pending cookie. -/
  owner : Nat := 0
  cookieBy : Option Nat := none
  /-- The event handler has taken the transaction and is about to report it. -/
  taken : Option Status := none
  statuses : List Status := []
  /-- Requests refused because of the slot: its owner, and whether that one was over. -/
  busy : List (Nat × Bool) := []
  deriving DecidableEq, Repr

variable {w : Nat}

def timeAfter (a b : BitVec w) : Bool := (b-a).msb

def State.over (s : State w) (n : Nat) : Bool :=
  (s.calls[n]?.any Call.failed) || some n ∈ s.statuses.map Status.call

def nextId (i : UInt64) : UInt64 := if i+1 = 0 then 1 else i+1

def State.claim (s : State w) (dontWait : Bool) (frame : Bytes) (jiffies : BitVec w) : State w :=
  {s with
    mgmtTxId := nextId s.mgmtTxId
    pendingId := nextId s.mgmtTxId
    active := true
    sentAt := jiffies
    owner := s.calls.length
    calls := s.calls ++ [{id := nextId s.mgmtTxId, dontWait, frame}]}

inductive Node where
  | error (errno : Nat)
  | ok (seq : UInt16)
  deriving DecidableEq, Repr

inductive Act (w : Nat) where
  | request (dontWait : Bool) (frame : Bytes) (jiffies : BitVec w)
  /-- `prepare_command_request`, with the sequence number of the node or its error -/
  | prepare (n : Nat) (node : Node)
  /-- `kmemdup` of the frame, after which the command is queued -/
  | copy (n : Nat) (ok : Bool)
  | complete (n : Nat) (ret : Int) (resp : Option Bytes)
  | release (n : Nat)
  | event (e : Event)
  | report
  deriving DecidableEq, Repr

def State.setCall (s : State w) (n : Nat) (c : Call) : State w := {s with calls := s.calls.set n c}

/-- `timeout` is 7 s in jiffies. -/
def step (timeout : BitVec w) (s : State w) : Act w → Option (State w)
  | .request dontWait frame jiffies =>
    if frame = [] ∨ cmdMgmtTxSize+frame.length > U16_MAX then some s
    else if !s.active then some (s.claim dontWait frame jiffies)
    else if timeAfter jiffies (s.sentAt+timeout) then
      some ({s with pendingCookie := 0, cookieBy := none}.claim dontWait frame jiffies)
    else some {s with busy := (s.owner,s.over s.owner) :: s.busy}
  | .prepare n node =>
    match s.calls[n]? with
    | some c =>
      if c.stage = .claimed then
        match node with
        | .error e => some ({s with active := false}.setCall n {c with stage := .returned (cmdPrepareErr e)})
        | .ok q =>
          some ({s with pendingCookie := q.toUInt64, cookieBy := some n}.setCall n
            {c with cookie := q.toUInt64, stage := .stored})
      else none
    | none => none
  | .copy n ok =>
    match s.calls[n]? with
    | some c =>
      if c.stage = .stored then
        if ok then some (s.setCall n {c with stage := .waiting})
        else some ({s with active := false}.setCall n {c with stage := .returned (-ENOMEM)})
      else none
    | none => none
  | .complete n ret resp =>
    match s.calls[n]? with
    | some c =>
      if c.stage = .waiting then
        let d := decode c.dontWait c.frame ret resp
        if d.1 ≠ 0 then some (s.setCall n {c with stage := .failing d.1})
        else
          some ({s with statuses := c.reports n d.2 ++ s.statuses}.setCall n {c with stage := .returned 0})
      else none
    | none => none
  | .release n =>
    match s.calls[n]? with
    | some c =>
      match c.stage with
      | .failing r =>
        some ({s with active := s.active && s.pendingId ≠ c.id}.setCall n {c with stage := .returned r})
      | _ => none
    | none => none
  | .event e =>
    if s.taken.isSome then none
    else if e.id = 0 ∨ e.frameLen > e.frame.length then some s
    else if s.active && s.pendingId = e.id then
      some {s with
        active := false
        taken := some ⟨s.cookieBy,s.pendingCookie,e.ack,e.frame.take e.frameLen,some e.id⟩}
    else some s
  | .report =>
    match s.taken with
    | some st => some {s with statuses := st :: s.statuses, taken := none}
    | none => none

/-- The statuses given, and the one that is about to be. -/
def State.owed (s : State w) : List Status := s.taken.toList ++ s.statuses

structure State.Safe (s : State w) : Prop where
  once : (s.statuses.map Status.call).Nodup
  mine : ∀ st ∈ s.statuses, ∃ n c, st.call = some n ∧ s.calls[n]? = some c ∧ st.cookie = c.cookie ∧
    c.failed = false ∧ ∀ i, st.id = some i → i = c.id
  free : ∀ x ∈ s.busy, x.2 = false

instance (s : State w) : Decidable s.Safe :=
  decidable_of_iff
    ((s.statuses.map Status.call).Nodup ∧
      (∀ st ∈ s.statuses, (st.call.any fun n => s.calls[n]?.any fun c =>
        st.cookie = c.cookie && !c.failed && st.id.all (fun i => i = c.id)) = true) ∧ ∀ x ∈ s.busy, x.2 = false)
    ⟨fun ⟨h1,h2,h3⟩ => ⟨h1,fun st hx => by
        have := h2 st hx
        simp only [Option.any_eq_true,Bool.and_eq_true,decide_eq_true_eq,Bool.not_eq_true',Option.all_eq_true] at this
        obtain ⟨n,hn,c,hc,⟨hck,hf⟩,hi⟩ := this
        exact ⟨n,c,hn,hc,hck,hf,hi⟩,h3⟩,
      fun h => ⟨h.once,fun st hx => by
        obtain ⟨n,c,hn,hc,hck,hf,hi⟩ := h.mine st hx
        simp only [Option.any_eq_true,Bool.and_eq_true,decide_eq_true_eq,Bool.not_eq_true',Option.all_eq_true]
        exact ⟨n,hn,c,hc,⟨hck,hf⟩,hi⟩,h.free⟩⟩

def State.reported (s : State w) (n : Nat) : Bool := some n ∈ s.owed.map Status.call

/-- A request fails only before a status event took it; a deferred completion comes for a request
that no event completed and that no longer has the slot; and an event for the slot comes when the
pending cookie is its owner's. -/
def admits (s : State w) : Act w → Bool
  | .prepare n (.error _) => !s.reported n
  | .copy n ok => ok || !s.reported n
  | .release n => !s.reported n
  | .complete n ret resp =>
    match s.calls[n]? with
    | some c =>
      (decode c.dontWait c.frame ret resp).2.isNone || !s.reported n && !(s.active && s.pendingId = c.id)
    | none => true
  | .event e => !(s.active && s.pendingId = e.id) || s.cookieBy = some s.owner
  | _ => true

structure State.Inv (s : State w) : Prop where
  /-- The owner of an active slot is neither over nor about to be. -/
  owner : s.active = true → ∃ c, s.calls[s.owner]? = some c ∧ c.id = s.pendingId ∧ c.failed = false ∧
    s.reported s.owner = false
  cookie : ∀ n, s.cookieBy = some n → ∃ c, s.calls[n]? = some c ∧ c.cookie = s.pendingCookie ∧ c.stage ≠ .claimed
  once : (s.owed.map Status.call).Nodup
  mine : ∀ st ∈ s.owed, ∃ n c, st.call = some n ∧ s.calls[n]? = some c ∧ st.cookie = c.cookie ∧
    c.stage ≠ .claimed ∧ c.failed = false ∧ ∀ i, st.id = some i → i = c.id
  free : ∀ x ∈ s.busy, x.2 = false

/-- The calls go on; only `bad` may fail. -/
def Grows (s s' : State w) (bad : Option Nat) : Prop :=
  ∀ (m : Nat) (c : Call), s.calls[m]? = some c → ∃ c', s'.calls[m]? = some c' ∧ c'.id = c.id ∧
    (c.stage ≠ .claimed → c'.cookie = c.cookie ∧ c'.stage ≠ .claimed) ∧ (bad ≠ some m → c'.failed = c.failed)

theorem Grows.refl (s s' : State w) (h : s'.calls = s.calls) : Grows s s' none :=
  fun _ c hc => ⟨c,by rw [h]; exact hc,rfl,fun hx => ⟨rfl,hx⟩,fun _ => rfl⟩

theorem Grows.claim (s : State w) (dontWait : Bool) (frame : Bytes) (jiffies : BitVec w) :
    Grows s (s.claim dontWait frame jiffies) none := by
  intro m c hc
  have hlt := (List.getElem?_eq_some_iff.mp hc).1
  exact ⟨c,by simp only [State.claim]; rw [List.getElem?_append_left hlt]; exact hc,rfl,fun hx => ⟨rfl,hx⟩,fun _ => rfl⟩

theorem Grows.set {s s' : State w} {n : Nat} {c c' : Call} {bad : Option Nat} (hc : s.calls[n]? = some c)
    (hs : s'.calls = s.calls.set n c') (hid : c'.id = c.id)
    (hcookie : c.stage ≠ .claimed → c'.cookie = c.cookie ∧ c'.stage ≠ .claimed)
    (hbad : bad ≠ some n → c'.failed = c.failed) : Grows s s' bad := by
  intro m d hd
  have hlt := (List.getElem?_eq_some_iff.mp hc).1
  by_cases hm : n = m
  · subst hm
    rw [hc] at hd
    cases hd
    exact ⟨c',by rw [hs]; exact List.getElem?_set_self hlt,hid,hcookie,hbad⟩
  · exact ⟨d,by rw [hs,List.getElem?_set_ne hm]; exact hd,rfl,fun hx => ⟨rfl,hx⟩,fun _ => rfl⟩

theorem State.Inv.cookie_kept {s s' : State w} {bad : Option Nat} (h : s.Inv) (g : Grows s s' bad)
    (hb : s'.cookieBy = s.cookieBy) (hc : s'.pendingCookie = s.pendingCookie) :
    ∀ n, s'.cookieBy = some n → ∃ c, s'.calls[n]? = some c ∧ c.cookie = s'.pendingCookie ∧ c.stage ≠ .claimed := by
  intro n hn
  obtain ⟨c,hcall,hcookie,hstage⟩ := h.cookie n (hb ▸ hn)
  obtain ⟨c',hcall',-,hk,-⟩ := g n c hcall
  exact ⟨c',hcall',by rw [(hk hstage).1,hc]; exact hcookie,(hk hstage).2⟩

theorem State.Inv.moved {s s' : State w} {bad : Option Nat} (h : s.Inv) (g : Grows s s' bad)
    (hbad : ∀ n, bad = some n → s.reported n = false) (ht : s'.taken = s.taken) (hst : s'.statuses = s.statuses)
    (hact : s'.active = true → s.active = true ∧ s'.owner = s.owner ∧ s'.pendingId = s.pendingId ∧ bad ≠ some s.owner)
    (hcookie : ∀ n, s'.cookieBy = some n → ∃ c, s'.calls[n]? = some c ∧ c.cookie = s'.pendingCookie ∧ c.stage ≠ .claimed)
    (hbusy : s'.busy = s.busy) : s'.Inv := by
  have howed : s'.owed = s.owed := by simp only [State.owed,ht,hst]
  refine ⟨fun ha => ?_,hcookie,by rw [howed]; exact h.once,fun st hx => ?_,by rw [hbusy]; exact h.free⟩
  · obtain ⟨hs,ho,hp,hb⟩ := hact ha
    obtain ⟨c,hc,hid,hf,hr⟩ := h.owner hs
    obtain ⟨c',hc',hid',-,hf'⟩ := g _ c hc
    refine ⟨c',by rw [ho]; exact hc',by rw [hid',hp]; exact hid,by rw [hf' hb]; exact hf,?_⟩
    simp only [State.reported,howed,ho] at hr ⊢
    exact hr
  · rw [howed] at hx
    obtain ⟨n,c,hcall,hc,hck,hs,hf,hi⟩ := h.mine st hx
    obtain ⟨c',hc',hid',hk,hf'⟩ := g n c hc
    refine ⟨n,c',hcall,hc',by rw [(hk hs).1]; exact hck,(hk hs).2,?_,fun i hx => by rw [hid']; exact hi i hx⟩
    rw [hf' (fun hb => ?_)]
    · exact hf
    · have hr := hbad n hb
      simp only [State.reported,decide_eq_false_iff_not,List.mem_map,not_exists,not_and] at hr
      exact hr st hx hcall

theorem State.Inv.claimed {s : State w} (h : s.Inv) (dontWait : Bool) (frame : Bytes) (jiffies : BitVec w) :
    (s.claim dontWait frame jiffies).Inv := by
  have g := Grows.claim s dontWait frame jiffies
  refine ⟨fun _ => ?_,h.cookie_kept g rfl rfl,h.once,fun st hx => ?_,h.free⟩
  · refine ⟨_,List.getElem?_concat_length,rfl,rfl,?_⟩
    simp only [State.reported,decide_eq_false_iff_not,List.mem_map,not_exists,not_and]
    intro st hx hcall
    obtain ⟨n,c,hn,hc,-⟩ := h.mine st hx
    rw [hcall] at hn
    cases hn
    exact Nat.lt_irrefl _ (List.getElem?_eq_some_iff.mp hc).1
  · obtain ⟨n,c,hcall,hc,hck,hs,hf,hi⟩ := h.mine st hx
    obtain ⟨c',hc',hid',hk,hf'⟩ := g n c hc
    exact ⟨n,c',hcall,hc',by rw [(hk hs).1]; exact hck,(hk hs).2,by rw [hf' (by simp)]; exact hf,
      fun i hx => by rw [hid']; exact hi i hx⟩

theorem reported_eq_false {s : State w} {n : Nat} : s.reported n = false ↔ ∀ st ∈ s.owed, st.call ≠ some n := by
  simp [State.reported]

/-- A step that reports request `n`, or is about to. -/
theorem State.Inv.reporting {s s' : State w} {n : Nat} {c : Call} {y : Status} (h : s.Inv) (g : Grows s s' none)
    (hp : s'.owed.Perm (y :: s.owed)) (hcall : y.call = some n) (hnew : s.reported n = false)
    (hc : s'.calls[n]? = some c) (hck : y.cookie = c.cookie) (hstage : c.stage ≠ .claimed) (hf : c.failed = false)
    (hid : ∀ i, y.id = some i → i = c.id)
    (hact : s'.active = true → s.active = true ∧ s'.owner = s.owner ∧ s'.pendingId = s.pendingId ∧ s.owner ≠ n)
    (hb : s'.cookieBy = s.cookieBy) (hpc : s'.pendingCookie = s.pendingCookie) (hbusy : s'.busy = s.busy) : s'.Inv := by
  refine ⟨fun ha => ?_,h.cookie_kept g hb hpc,?_,fun st' hx => ?_,by rw [hbusy]; exact h.free⟩
  · obtain ⟨hs,ho,hpid,hne⟩ := hact ha
    obtain ⟨d,hd,hid,hfd,hr⟩ := h.owner hs
    obtain ⟨d',hd',hid',-,hf'⟩ := g _ d hd
    refine ⟨d',by rw [ho]; exact hd',by rw [hid',hpid]; exact hid,by rw [hf' (by simp)]; exact hfd,?_⟩
    rw [reported_eq_false] at hr ⊢
    intro x hx
    rcases List.mem_cons.mp (hp.mem_iff.mp hx) with rfl | hx
    · rw [hcall,ho]
      exact fun heq => hne (Option.some.inj heq).symm
    · rw [ho]
      exact hr x hx
  · rw [(hp.map Status.call).nodup_iff,List.map_cons,List.nodup_cons]
    refine ⟨fun hx => ?_,h.once⟩
    obtain ⟨x,hx,heq⟩ := List.mem_map.mp hx
    exact reported_eq_false.mp hnew x hx (heq.trans hcall)
  · rcases List.mem_cons.mp (hp.mem_iff.mp hx) with rfl | hx
    · exact ⟨n,c,hcall,hc,hck,hstage,hf,hid⟩
    · obtain ⟨m,d,hm,hd,hdk,hs,hfd,hi⟩ := h.mine st' hx
      obtain ⟨d',hd',hid',hk,hf'⟩ := g m d hd
      exact ⟨m,d',hm,hd',by rw [(hk hs).1]; exact hdk,(hk hs).2,by rw [hf' (by simp)]; exact hfd,
        fun i hx => by rw [hid']; exact hi i hx⟩

theorem State.Inv.request {timeout : BitVec w} {s s' : State w} {dontWait : Bool} {frame : Bytes} {jiffies : BitVec w}
    (h : s.Inv) (hs : step timeout s (.request dontWait frame jiffies) = some s') : s'.Inv := by
  simp only [step] at hs
  split at hs
  · cases hs
    exact h
  · split at hs
    · cases hs
      exact h.claimed dontWait frame jiffies
    · next hact =>
      have hact : s.active = true := by simpa using hact
      split at hs
      · cases hs
        have h' : ({s with pendingCookie := 0, cookieBy := none} : State w).Inv :=
          h.moved (Grows.refl _ _ rfl) (fun n hn => by cases hn) rfl rfl (fun _ => ⟨hact,rfl,rfl,by simp⟩)
            (fun n hn => by cases hn) rfl
        exact h'.claimed dontWait frame jiffies
      · cases hs
        refine ⟨h.owner,h.cookie,h.once,h.mine,fun x hx => ?_⟩
        rcases List.mem_cons.mp hx with rfl | hx
        · obtain ⟨c,hc,-,hf,hr⟩ := h.owner hact
          simp only [State.over,hc,Option.any_some,hf,Bool.false_or,decide_eq_false_iff_not,List.mem_map,not_exists,not_and]
          exact fun st hst => reported_eq_false.mp hr st (List.mem_append_right _ hst)
        · exact h.free x hx

theorem State.Inv.prepare {timeout : BitVec w} {s s' : State w} {n : Nat} {node : Node} (h : s.Inv)
    (ha : admits s (.prepare n node) = true) (hs : step timeout s (.prepare n node) = some s') : s'.Inv := by
  simp only [step] at hs
  split at hs
  · next c hc =>
    have hlt := (List.getElem?_eq_some_iff.mp hc).1
    split at hs
    · next hstage =>
      cases node with
      | error e =>
        cases hs
        have g : Grows s ({s with active := false}.setCall n {c with stage := .returned (cmdPrepareErr e)}) (some n) :=
          Grows.set hc rfl rfl (fun hx => absurd hstage hx) (fun hx => absurd rfl hx)
        refine h.moved g (fun m hm => ?_) rfl rfl (fun hx => by cases hx) (h.cookie_kept g rfl rfl) rfl
        cases hm
        simpa [admits] using ha
      | ok q =>
        cases hs
        have g : Grows s ({s with pendingCookie := q.toUInt64, cookieBy := some n}.setCall n
            {c with cookie := q.toUInt64, stage := .stored}) none :=
          Grows.set hc rfl rfl (fun hx => absurd hstage hx) (fun _ => by simp [Call.failed,hstage])
        refine h.moved g (fun m hm => by cases hm) rfl rfl (fun hx => ⟨hx,rfl,rfl,by simp⟩) (fun m hm => ?_) rfl
        cases hm
        exact ⟨_,List.getElem?_set_self hlt,rfl,by simp⟩
    · cases hs
  · cases hs

theorem State.Inv.copy {timeout : BitVec w} {s s' : State w} {n : Nat} {ok : Bool} (h : s.Inv)
    (ha : admits s (.copy n ok) = true) (hs : step timeout s (.copy n ok) = some s') : s'.Inv := by
  simp only [step] at hs
  split at hs
  · next c hc =>
    split at hs
    · next hstage =>
      cases ok with
      | true =>
        cases hs
        have g : Grows s (s.setCall n {c with stage := .waiting}) none :=
          Grows.set hc rfl rfl (fun _ => ⟨rfl,by simp⟩) (fun _ => by simp [Call.failed,hstage])
        exact h.moved g (fun m hm => by cases hm) rfl rfl (fun hx => ⟨hx,rfl,rfl,by simp⟩) (h.cookie_kept g rfl rfl) rfl
      | false =>
        cases hs
        have g : Grows s ({s with active := false}.setCall n {c with stage := .returned (-ENOMEM)}) (some n) :=
          Grows.set hc rfl rfl (fun _ => ⟨rfl,by simp⟩) (fun hx => absurd rfl hx)
        refine h.moved g (fun m hm => ?_) rfl rfl (fun hx => by cases hx) (h.cookie_kept g rfl rfl) rfl
        cases hm
        simpa [admits] using ha
    · cases hs
  · cases hs

theorem State.Inv.release {timeout : BitVec w} {s s' : State w} {n : Nat} (h : s.Inv)
    (ha : admits s (.release n) = true) (hs : step timeout s (.release n) = some s') : s'.Inv := by
  simp only [step] at hs
  split at hs
  · next c hc =>
    split at hs
    · next r hstage =>
      cases hs
      generalize hs' : ({s with active := s.active && s.pendingId ≠ c.id}.setCall n {c with stage := .returned r} : State w) = s'
      have hcalls : s'.calls = s.calls.set n {c with stage := .returned r} := by rw [← hs']; rfl
      have g : Grows s s' (some n) := Grows.set hc hcalls rfl (fun _ => ⟨rfl,by simp⟩) (fun hx => absurd rfl hx)
      refine h.moved g (fun m hm => ?_) (by rw [← hs']; rfl) (by rw [← hs']; rfl) (fun hx => ?_)
        (h.cookie_kept g (by rw [← hs']; rfl) (by rw [← hs']; rfl)) (by rw [← hs']; rfl)
      · cases hm
        simpa [admits] using ha
      · -- the slot stays only if it is another request's
        have hx : s.active = true ∧ s.pendingId ≠ c.id := by simpa [← hs',State.setCall] using hx
        refine ⟨hx.1,by rw [← hs']; rfl,by rw [← hs']; rfl,fun heq => ?_⟩
        obtain ⟨d,hd,hid,-⟩ := h.owner hx.1
        rw [← Option.some.inj heq,hc] at hd
        cases hd
        exact hx.2 hid.symm
    · cases hs
  · cases hs

theorem State.Inv.complete {timeout : BitVec w} {s s' : State w} {n : Nat} {ret : Int} {resp : Option Bytes} (h : s.Inv)
    (ha : admits s (.complete n ret resp) = true) (hs : step timeout s (.complete n ret resp) = some s') : s'.Inv := by
  simp only [step] at hs
  split at hs
  · next c hc =>
    have hlt := (List.getElem?_eq_some_iff.mp hc).1
    simp only [admits,hc] at ha
    split at hs
    · next hstage =>
      split at hs
      · cases hs
        have g : ∀ r, Grows s (s.setCall n {c with stage := .failing r}) none := fun r =>
          Grows.set hc rfl rfl (fun _ => ⟨rfl,by simp⟩) (fun _ => by simp [Call.failed,hstage])
        exact h.moved (g _) (fun m hm => by cases hm) rfl rfl (fun hx => ⟨hx,rfl,rfl,by simp⟩)
          (h.cookie_kept (g _) rfl rfl) rfl
      · cases hs
        generalize hr : (decode c.dontWait c.frame ret resp).2 = r at ha
        have hcalls : ∀ l, Grows s ({s with statuses := l}.setCall n {c with stage := .returned 0}) none := fun l =>
          Grows.set hc rfl rfl (fun _ => ⟨rfl,by simp⟩) (fun _ => by simp [Call.failed,hstage])
        cases r with
        | none =>
          exact h.moved (hcalls _) (fun m hm => by cases hm) rfl rfl (fun hx => ⟨hx,rfl,rfl,by simp⟩)
            (h.cookie_kept (hcalls _) rfl rfl) rfl
        | some x =>
          simp only [Option.isNone_some,Bool.false_or,Bool.and_eq_true,Bool.not_eq_true',Bool.and_eq_false_iff,
            decide_eq_false_iff_not] at ha
          refine h.reporting (n := n) (c := {c with stage := .returned 0}) (y := ⟨some n,c.cookie,x.1,x.2,none⟩) (hcalls _) ?_ rfl ha.1
            (List.getElem?_set_self hlt) rfl (by simp) rfl (fun i hi => by cases hi) (fun hx => ?_) rfl rfl rfl
          · exact List.perm_middle
          · refine ⟨hx,rfl,rfl,fun heq => ?_⟩
            obtain ⟨d,hd,hid,-⟩ := h.owner hx
            rw [heq,hc] at hd
            cases hd
            rcases ha.2 with hact | hne
            · exact Bool.false_ne_true (hact.symm.trans hx)
            · exact hne hid.symm
    · cases hs
  · cases hs

theorem State.Inv.event {timeout : BitVec w} {s s' : State w} {e : Event} (h : s.Inv)
    (ha : admits s (.event e) = true) (hs : step timeout s (.event e) = some s') : s'.Inv := by
  simp only [step] at hs
  split at hs
  · cases hs
  · next ht =>
    have ht : s.taken = none := by simpa using ht
    split at hs
    · cases hs
      exact h
    · split at hs
      · next hslot =>
        simp only [admits,hslot,Bool.not_true,Bool.false_or,decide_eq_true_eq] at ha
        simp only [Bool.and_eq_true,decide_eq_true_eq] at hslot
        obtain ⟨c,hc,hid,hf,hr⟩ := h.owner hslot.1
        obtain ⟨d,hd,hck,hstage⟩ := h.cookie s.owner ha
        rw [hc] at hd
        cases hd
        cases hs
        refine h.reporting (n := s.owner) (c := c)
          (y := ⟨s.cookieBy,s.pendingCookie,e.ack,e.frame.take e.frameLen,some e.id⟩) (Grows.refl _ _ rfl) ?_ ha hr hc hck.symm hstage hf (fun i hi => ?_)
          (fun hx => by cases hx) rfl rfl rfl
        · simp [State.owed,ht]
        · cases hi
          exact hslot.2.symm.trans hid.symm
      · cases hs
        exact h

theorem State.Inv.report {timeout : BitVec w} {s s' : State w} (h : s.Inv) (hs : step timeout s .report = some s') :
    s'.Inv := by
  simp only [step] at hs
  split at hs
  · next st ht =>
    cases hs
    have howed : ({s with statuses := st :: s.statuses, taken := none} : State w).owed = s.owed := by
      simp [State.owed,ht]
    refine ⟨?_,h.cookie,by rw [howed]; exact h.once,by rw [howed]; exact h.mine,h.free⟩
    simp only [State.reported,howed]
    exact h.owner
  · cases hs

theorem step_inv {timeout : BitVec w} {s s' : State w} {a : Act w} (h : s.Inv) (ha : admits s a = true)
    (hs : step timeout s a = some s') : s'.Inv := by
  cases a with
  | request dontWait frame jiffies => exact h.request hs
  | prepare n node => exact h.prepare ha hs
  | copy n ok => exact h.copy ha hs
  | complete n ret resp => exact h.complete ha hs
  | release n => exact h.release ha hs
  | event e => exact h.event ha hs
  | report => exact h.report hs

theorem init_inv : ({} : State w).Inv :=
  ⟨fun hx => (by cases hx),fun n hn => (by cases hn),List.nodup_nil,fun st hx => (by cases hx),fun x hx => by cases hx⟩

theorem State.Inv.safe {s : State w} (h : s.Inv) : s.Safe where
  once := by
    have := h.once
    simp only [State.owed,List.map_append] at this
    exact this.of_append_right
  mine := fun st hx => by
    obtain ⟨n,c,hcall,hc,hck,-,hf,hi⟩ := h.mine st (List.mem_append_right _ hx)
    exact ⟨n,c,hcall,hc,hck,hf,hi⟩
  free := h.free

theorem host_mgmt_safe (timeout : BitVec w) (as : List (Act w)) (s : State w)
    (hok : Along (step timeout) (fun s a => admits s a = true) {} as) (hs : exec (step timeout) {} as = some s) :
    s.Safe :=
  (exec_invariant_along (fun _ _ _ hi ha hx => step_inv hi ha hx) hok init_inv hs).safe

def mgmtResponse (status reserved1 : UInt8) : Bytes := [15,status,20,0,0,0,reserved1,0] ++ List.replicate 20 0

/-- One status overtakes the acceptance; a second request finds a busy slot, is refused by the
firmware on its next try, and a last one expires and makes room. -/
def threeRequests : List (Act 32) :=
  [.request false [208,0] 0,.prepare 0 (.ok 7),.copy 0 true,.request false [208,1] 10,.event ⟨1,true,0,[]⟩,.report,
   .complete 0 0 (some (mgmtResponse 2 0xA5)),
   .request false [208,1] 20,.prepare 1 (.ok 8),.copy 1 true,.complete 1 0 (some (mgmtResponse 3 0)),.release 1,
   .request false [208,2] 30,.prepare 2 (.ok 9),.copy 2 true,.complete 2 0 (some (mgmtResponse 2 0xA5)),
   .request true [208,3] 2000,.event ⟨3,true,0,[]⟩]

theorem host_mgmt_safe_three :
    (exec (step 1750) {} threeRequests).any (fun s => decide (s.statuses = [⟨some 0,7,true,[],some 1⟩] ∧
      s.busy = [(0,false)] ∧ s.calls.map Call.stage = [.returned 0,.returned (-16),.returned 0,.claimed])) = true ∧
    ∃ s, exec (step 1750) {} threeRequests = some s ∧ s.Safe := by
  refine ⟨by decide +kernel,?_⟩
  cases hs : exec (step 1750) {} threeRequests with
  | none =>
    have hx : (exec (step 1750) {} threeRequests).isSome = true := by decide +kernel
    rw [hs] at hx
    cases hx
  | some s => exact ⟨s,rfl,host_mgmt_safe 1750 threeRequests s (by decide +kernel) hs⟩

/-- An older firmware completes the first request; the second is refused because of it. -/
def deferredCompletion : List (Act 32) :=
  [.request false [208,0] 0,.prepare 0 (.ok 7),.copy 0 true,.complete 0 0 (some (mgmtResponse 2 0)),
   .request false [208,1] 10]

/-- The status comes, but the acceptance does not, and the command times out. -/
def lostAcceptance : List (Act 32) :=
  [.request false [208,0] 0,.prepare 0 (.ok 7),.copy 0 true,.event ⟨1,true,0,[]⟩,.report,.complete 0 (-110) none,
   .release 0]

/-- An event for the second request comes before it has stored its cookie. -/
def earlyEvent : List (Act 32) :=
  [.request false [208,0] 0,.prepare 0 (.ok 7),.copy 0 true,.complete 0 0 (some (mgmtResponse 2 0xA5)),
   .event ⟨1,true,0,[]⟩,.report,.request false [208,1] 10,.event ⟨2,false,0,[]⟩,.report]

theorem host_mgmt_broken :
    (exec (step 1750) {} deferredCompletion).any (fun s => decide (¬ s.Safe ∧ s.busy = [(0,true)])) = true ∧
    (exec (step 1750) {} lostAcceptance).any
      (fun s => decide (¬ s.Safe ∧ s.statuses.length = 1 ∧ s.calls.map Call.stage = [.returned (-110)])) = true ∧
    (exec (step 1750) {} earlyEvent).any
      (fun s => decide (¬ s.Safe ∧ s.statuses.map Status.cookie = [7,7])) = true :=
  ⟨by decide +kernel,by decide +kernel,by decide +kernel⟩

end EspHosted.HostMgmt
