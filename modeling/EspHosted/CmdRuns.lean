import EspHosted.CmdResponses
import EspHosted.Lib.Run

/-!
The command task beside the TX callback `mgmt_txcb_unmarked` of the Wi-Fi task. A step of the
command task is one action of its handler, a step of the callback one critical section of
`s_mgmt_tx_lock` or the response it queues. Responses are always queued, and a restart ends the run.
The numbers of commands are for the proof only.
-/

set_option autoImplicit false

namespace EspHosted.Dispatch
open EspHosted Prog Run

/-- `s_mgmt_tx_pending` with `s_mgmt_tx_seq`; the token is valid exactly as long. -/
structure Pending where
  cmd : Nat
  seq : Nat
  deriving DecidableEq, Repr

structure Task where
  cmd : Nat
  frame : Frame
  rest : Handler Unit

inductive Wifi where
  | idle
  /-- The frame found in the data is not a broadcast. -/
  | matching (data : Bytes) (frame : Option Bytes)
  | sending (p : Pending) (frame : Option Bytes)
  deriving DecidableEq, Repr

structure State where
  frames : List Frame := []
  task : Option Task := none
  slot : Option Pending := none
  /-- `s_mgmt_tx_da` -/
  da : Bytes := zeroMac
  wifi : Wifi := .idle
  out : List (Nat × Resp) := []
  overread : Bool := false

def mgmtTxHdrMatches (da frame : Bytes) : Bool := decide (10 ≤ frame.length ∧ slice frame 4 6 = da)

def mgmtTxTokenMatches (da data : Bytes) : Bool :=
  mgmtTxHdrMatches da data || (decide (8 < data.length) && mgmtTxHdrMatches da (data.drop 8))

def locate (txDonePrefix : Nat) (da data : Bytes) : Option Bytes :=
  if mgmtTxHdrMatches da data then some data
  else if 8 < data.length ∧ mgmtTxHdrMatches da (data.drop 8) then some (data.drop 8)
  else if txDonePrefix+10 ≤ data.length then some (data.drop txDonePrefix)
  else none

def isBroadcast (frame : Option Bytes) : Bool :=
  match frame with
  | none => false
  | some b => decide (10 ≤ b.length ∧ slice b 4 6 = broadcastMac)

/-- The response of the callback: with the frame if there is one, it was copied and it fits. -/
def txDoneResp (frame : Option Bytes) (ack copied : Bool) (seq : Nat) : Option Resp :=
  let failed := mgmtTxDone ESP_AP_IF CMD_RESPONSE_FAIL [] seq
  match frame with
  | none => failed
  | some b =>
    if 10 ≤ b.length ∧ copied then
      (mgmtTxDone ESP_AP_IF (if ack then CMD_RESPONSE_SUCCESS else CMD_RESPONSE_FAIL) b seq).or failed
    else failed

inductive Event where
  | recv (f : Frame)
  /-- The next action of the command task, with the reply of a call, a test or a fetch. -/
  | run (reply : Int) (b : Bool) (bytes : Bytes)
  /-- The callback of a frame while no frame with the marker is pending. -/
  | txStart (data : Bytes)
  | txMatch
  | txSend (ack copied : Bool)
  deriving DecidableEq, Repr

instance (f : Frame) : Decidable f.addressed := inferInstanceAs (Decidable (_ → _))

/-- A command comes with its header, on an interface the driver uses for it. -/
def State.recv (cfg : Config) (s : State) (f : Frame) : Option State :=
  if s.task.isNone ∧ 8 ≤ f.payload.length ∧ f.addressed then
    some {s with
      frames := s.frames ++ [f]
      task := some ⟨s.frames.length,f,espCmdDispatch cfg f.ifType f.payload.length⟩}
  else none

def State.goto (s : State) (t : Task) (rest : Handler Unit) : State := {s with task := some {t with rest := rest}}

def State.queue (s : State) (n : Nat) (r : Option Resp) : State :=
  {s with out := s.out ++ r.toList.map fun r => (n,r)}

def State.failPending (s : State) : State :=
  match s.slot with
  | none => s
  | some p => ({s with slot := none} : State).queue p.cmd (mgmtTxDone ESP_AP_IF CMD_RESPONSE_FAIL [] p.seq)

def State.perform (s : State) (t : Task) (reply : Int) (b : Bool) (bytes : Bytes) : Option State :=
  match t.rest with
  | .ret _ => some {s with task := none}
  | .act (.read off len) k =>
    some {s.goto t (k (slice t.frame.payload off len)) with
      overread := s.overread || decide (t.frame.payload.length < off+len)}
  | .act .call k => some (s.goto t (k reply))
  | .act .test k => some (s.goto t (k b))
  | .act .fetch k => some (s.goto t (k bytes))
  | .act (.respond r) k => some ((s.goto t (k ())).queue t.cmd (some r))
  | .act (.begin seq da) k =>
    match s.slot with
    | some _ => some (s.goto t (k false))
    | none => some {s.goto t (k true) with slot := some ⟨t.cmd,seq⟩, da := da}
  | .act .take k => some {s.goto t (k ()) with slot := none}
  | .act .failPending k => some (s.failPending.goto t (k ()))
  | .act .espRestart _ => none

def step (cfg : Config) (s : State) : Event → Option State
  | .recv f => s.recv cfg f
  | .run reply b bytes => s.task.bind fun t => s.perform t reply b bytes
  | .txStart data =>
    if s.wifi = .idle then
      let frame := locate cfg.txDonePrefix s.da data
      some (if isBroadcast frame then s else {s with wifi := .matching data frame})
    else none
  | .txMatch =>
    match s.wifi with
    | .matching data frame =>
      match s.slot with
      | some p =>
        if mgmtTxTokenMatches s.da data then some {s with slot := none, wifi := .sending p frame}
        else some {s with wifi := .idle}
      | none => some {s with wifi := .idle}
    | _ => none
  | .txSend ack copied =>
    match s.wifi with
    | .sending p frame => some (({s with wifi := .idle} : State).queue p.cmd (txDoneResp frame ack copied p.seq))
    | _ => none

/-! What a state has given and still owes. -/

def State.given (s : State) (n : Nat) : Nat := s.out.countP fun x => x.1 = n

def Wifi.holder : Wifi → Option Nat
  | .sending p _ => some p.cmd
  | _ => none

/-- A command is due in the slot or in the callback. -/
def State.due (s : State) (n : Nat) : Nat :=
  (if s.slot.map Pending.cmd = some n then 1 else 0)+(if s.wifi.holder = some n then 1 else 0)

structure State.Answered (s : State) : Prop where
  inBounds : s.overread = false
  own : ∀ x ∈ s.out, ∃ f, s.frames[x.1]? = some f ∧ x.2.code = f.code ∧ x.2.seq = f.seq
  once : ∀ n < s.frames.length, (∀ t, s.task = some t → t.cmd ≠ n) → s.given n+s.due n = 1
  later : ∀ n f, s.frames[n]? = some f → s.due n ≠ 0 → f.unmarked

/-- The handler is at `mgmt_tx_inflight_take`. -/
def takes : Handler Unit → Bool
  | .act .take _ => true
  | _ => false

/-- The command whose handler takes the slot back still has it. -/
def kept (s : State) : Event → Bool
  | .run _ _ _ =>
    match s.task with
    | some t => !takes t.rest || s.slot.map Pending.cmd = some t.cmd
    | none => true
  | _ => true

/-! The tally of a command: responses given and due. -/

def State.tally (s : State) (n : Nat) : Nat := s.given n+s.due n

variable {s s' : State} {t : Task} {n : Nat}

theorem tally_goto (rest : Handler Unit) : (s.goto t rest).tally n = s.tally n := rfl

theorem given_queue (m : Nat) (r : Resp) : (s.queue m (some r)).given n = s.given n+if m = n then 1 else 0 := by
  simp [State.given,State.queue,List.countP_append,List.countP_cons]

theorem tally_queue (m : Nat) (r : Resp) : (s.queue m (some r)).tally n = s.tally n+if m = n then 1 else 0 := by
  have hdue : (s.queue m (some r)).due n = s.due n := rfl
  rw [State.tally,given_queue,hdue,State.tally]
  omega

theorem tally_begin {p : Pending} {da : Bytes} (h : s.slot = none) :
    ({s with slot := some p, da := da} : State).tally n = s.tally n+if p.cmd = n then 1 else 0 := by
  simp [State.tally,State.given,State.due,h]
  omega

theorem tally_take {p : Pending} (h : s.slot = some p) :
    ({s with slot := none} : State).tally n+(if p.cmd = n then 1 else 0) = s.tally n := by
  simp [State.tally,State.given,State.due,h]
  omega

theorem tally_handed {p : Pending} {frame : Option Bytes} (hs : s.slot = some p) (hw : s.wifi.holder = none) :
    ({s with slot := none, wifi := .sending p frame} : State).tally n = s.tally n := by
  have hholder : (Wifi.sending p frame).holder = some p.cmd := rfl
  simp [State.tally,State.given,State.due,hs,hw,hholder]

theorem tally_sent {p : Pending} {frame : Option Bytes} (h : s.wifi = .sending p frame) :
    ({s with wifi := .idle} : State).tally n+(if p.cmd = n then 1 else 0) = s.tally n := by
  simp [State.tally,State.given,State.due,h,Wifi.holder]
  omega

theorem tally_wifi {w : Wifi} (hw : s.wifi.holder = none) (hw' : w.holder = none) :
    ({s with wifi := w} : State).tally n = s.tally n := by
  simp [State.tally,State.given,State.due,hw,hw']

/-- Some response comes of the callback, whatever the frame. -/
theorem txDoneResp_spec (frame : Option Bytes) (ack copied : Bool) (seq : Nat) :
    ∃ r, txDoneResp frame ack copied seq = some r ∧ r.code = CMD_MGMT_TX ∧ r.seq = seq := by
  have hfailed : ∃ r, mgmtTxDone ESP_AP_IF CMD_RESPONSE_FAIL [] seq = some r ∧ r.code = CMD_MGMT_TX ∧ r.seq = seq :=
    ⟨_,rfl,rfl,rfl⟩
  unfold txDoneResp
  cases frame with
  | none => exact hfailed
  | some b =>
    simp only
    split
    · unfold mgmtTxDone
      split
      · exact hfailed
      · exact ⟨_,rfl,rfl,rfl⟩
    · exact hfailed

/-! The invariant. -/

def State.has (s : State) (n : Nat) (f : Frame) : Prop := s.frames[n]? = some f

/-- A number held for a command is one of a frame without the marker. -/
def State.Holds (s : State) (p : Pending) : Prop := ∃ f, s.has p.cmd f ∧ f.unmarked ∧ p.seq = f.seq

def Duty.weight : Duty → Nat
  | .owed => 0
  | _ => 1

/-- The handler of the last command still has its duty. -/
def State.TaskOk (s : State) (t : Task) : Prop :=
  t.cmd+1 = s.frames.length ∧ s.has t.cmd t.frame ∧
    ∃ d, wp (duties t.frame) t.rest d (fun _ d => d = .answered ∨ d = .inSlot) ∧ s.tally t.cmd = d.weight

structure State.Inv (s : State) : Prop where
  inBounds : s.overread = false
  own : ∀ x ∈ s.out, ∃ f, s.has x.1 f ∧ x.2.code = f.code ∧ x.2.seq = f.seq
  slot : ∀ p, s.slot = some p → s.Holds p
  wifi : ∀ p frame, s.wifi = .sending p frame → s.Holds p
  once : ∀ n < s.frames.length, (∀ t, s.task = some t → t.cmd ≠ n) → s.tally n = 1
  task : ∀ t, s.task = some t → s.TaskOk t

theorem State.has_lt {f : Frame} (h : s.has n f) : n < s.frames.length := (List.getElem?_eq_some_iff.mp h).1

theorem State.Inv.fresh (h : s.Inv) (hn : s.frames.length ≤ n) : s.tally n = 0 := by
  have hout : s.given n = 0 := by
    refine List.countP_eq_zero.mpr fun x hx => ?_
    obtain ⟨f,hf,-⟩ := h.own x hx
    have := State.has_lt hf
    simp only [decide_eq_true_eq]
    omega
  have hslot : s.slot.map Pending.cmd ≠ some n := by
    intro hcmd
    obtain ⟨p,hp,rfl⟩ := Option.map_eq_some_iff.mp hcmd
    obtain ⟨f,hf,-⟩ := h.slot p hp
    have := State.has_lt hf
    omega
  have hwifi : s.wifi.holder ≠ some n := by
    intro hw
    cases hc : s.wifi with
    | idle => simp [hc,Wifi.holder] at hw
    | matching data frame => simp [hc,Wifi.holder] at hw
    | sending p frame =>
      simp only [hc,Wifi.holder,Option.some.injEq] at hw
      obtain ⟨f,hf,-⟩ := h.wifi p frame hc
      have := State.has_lt hf
      omega
  simp [State.tally,State.due,hout,hslot,hwifi]

theorem State.has_append {f g : Frame} (h : s.has n f) : (s.frames ++ [g])[n]? = some f := by
  rw [List.getElem?_append_left (State.has_lt h)]
  exact h

theorem State.Inv.recv {cfg : Config} {f : Frame} (h : s.Inv) (hs : s.recv cfg f = some s') : s'.Inv := by
  unfold State.recv at hs
  split at hs
  · rename_i hok
    obtain ⟨hidle,hheader,haddr⟩ := hok
    cases hs
    have hnone : s.task = none := Option.isNone_iff_eq_none.mp hidle
    refine ⟨h.inBounds,fun x hx => ?_,fun p hp => ?_,fun p frame hw => ?_,fun n hn hrun => ?_,fun t ht => ?_⟩
    · obtain ⟨g,hg,hx⟩ := h.own x hx
      exact ⟨g,State.has_append hg,hx⟩
    · obtain ⟨g,hg,hp⟩ := h.slot p hp
      exact ⟨g,State.has_append hg,hp⟩
    · obtain ⟨g,hg,hp⟩ := h.wifi p frame hw
      exact ⟨g,State.has_append hg,hp⟩
    · have hne := hrun _ rfl
      simp only [List.length_append,List.length_singleton] at hn
      refine h.once n ?_ (by simp [hnone])
      simp only at hne
      omega
    · cases ht
      refine ⟨by simp,by simp [State.has],.owed,answers_espCmdDispatch cfg hheader haddr,?_⟩
      exact h.fresh (Nat.le_refl _)
  · cases hs

theorem State.Inv.moved {rest : Handler Unit} {d : Duty} (h : s.Inv) (ht : s.task = some t)
    (hframes : s'.frames = s.frames) (htask : s'.task = some {t with rest := rest}) (hin : s'.overread = false)
    (hown : ∀ x ∈ s'.out, ∃ f, s.has x.1 f ∧ x.2.code = f.code ∧ x.2.seq = f.seq)
    (hslot : ∀ p, s'.slot = some p → s.Holds p) (hwifi : s'.wifi = s.wifi)
    (htally : ∀ n, n ≠ t.cmd → s'.tally n = s.tally n)
    (hwp : wp (duties t.frame) rest d fun _ d => d = .answered ∨ d = .inSlot) (hd : s'.tally t.cmd = d.weight) :
    s'.Inv := by
  obtain ⟨hcmd,hhas,-⟩ := h.task t ht
  have hsame (n : Nat) (f : Frame) (hf : s.has n f) : s'.has n f := by
    unfold State.has
    rw [hframes]
    exact hf
  have hholds (p : Pending) (hp : s.Holds p) : s'.Holds p := by
    obtain ⟨f,hf,hp⟩ := hp
    exact ⟨f,hsame _ _ hf,hp⟩
  refine ⟨hin,fun x hx => ?_,fun p hp => hholds p (hslot p hp),fun p frame hw => ?_,fun n hn hrun => ?_,fun u hu => ?_⟩
  · obtain ⟨f,hf,hx⟩ := hown x hx
    exact ⟨f,hsame _ _ hf,hx⟩
  · exact hholds p (h.wifi p frame (hwifi.symm.trans hw))
  · rw [hframes] at hn
    have hne : t.cmd ≠ n := hrun {t with rest := rest} htask
    rw [htally n (Ne.symm hne)]
    refine h.once n hn fun u hu => ?_
    rw [ht] at hu
    cases hu
    exact hne
  · rw [htask] at hu
    cases hu
    refine ⟨?_,hsame _ _ hhas,d,hwp,hd⟩
    rw [hframes]
    exact hcmd

theorem State.Inv.goto {rest : Handler Unit} {d : Duty} (h : s.Inv) (ht : s.task = some t)
    (hwp : wp (duties t.frame) rest d fun _ d => d = .answered ∨ d = .inSlot) (hd : s.tally t.cmd = d.weight) :
    (s.goto t rest).Inv :=
  h.moved ht rfl rfl h.inBounds h.own h.slot rfl (fun _ _ => rfl) hwp hd

theorem State.Inv.ended {x : Unit} (h : s.Inv) (ht : s.task = some t) (hrest : t.rest = .ret x) :
    ({s with task := none} : State).Inv := by
  obtain ⟨hcmd,hhas,d,hwp,hd⟩ := h.task t ht
  refine ⟨h.inBounds,h.own,h.slot,h.wifi,fun n hn _ => ?_,fun u hu => by cases hu⟩
  by_cases hne : t.cmd = n
  · rw [hrest] at hwp
    subst hne
    rcases hwp with rfl | rfl
    · exact hd
    · exact hd
  · refine h.once n hn fun u hu => ?_
    rw [ht] at hu
    cases hu
    exact hne

theorem State.Inv.responded {r : Resp} {k : Unit → Handler Unit} (h : s.Inv) (ht : s.task = some t)
    (hrest : t.rest = .act (.respond r) k) : ((s.goto t (k ())).queue t.cmd (some r)).Inv := by
  obtain ⟨hcmd,hhas,d,hwp,hd⟩ := h.task t ht
  rw [hrest] at hwp
  obtain ⟨⟨rfl,hcode,hseq⟩,hk⟩ := hwp
  refine h.moved ht rfl rfl h.inBounds (fun x hx => ?_) h.slot rfl (fun n hn => ?_) hk ?_
  · simp only [State.queue,State.goto,Option.toList_some,List.map_cons,List.map_nil,List.mem_append,List.mem_singleton] at hx
    rcases hx with hx | rfl
    · exact h.own x hx
    · exact ⟨t.frame,hhas,hcode,hseq⟩
  · rw [tally_queue,tally_goto,if_neg (Ne.symm hn)]
    rfl
  · rw [tally_queue,tally_goto,hd,if_pos rfl]
    rfl

theorem State.Inv.begun {seq : Nat} {da : Bytes} {k : Bool → Handler Unit} (h : s.Inv) (ht : s.task = some t)
    (hrest : t.rest = .act (.begin seq da) k) (hfree : s.slot = none) :
    ({s.goto t (k true) with slot := some ⟨t.cmd,seq⟩, da := da} : State).Inv := by
  obtain ⟨hcmd,hhas,d,hwp,hd⟩ := h.task t ht
  rw [hrest] at hwp
  obtain ⟨⟨rfl,hun,hseq⟩,hk,-⟩ := hwp
  have hfree' : (s.goto t (k true)).slot = none := hfree
  refine h.moved ht rfl rfl h.inBounds h.own (fun p hp => ?_) rfl (fun n hn => ?_) hk ?_
  · cases hp
    exact ⟨t.frame,hhas,hun,hseq⟩
  · rw [tally_begin hfree',tally_goto,if_neg (Ne.symm hn)]
    rfl
  · rw [tally_begin hfree',tally_goto,hd,if_pos rfl]
    rfl

theorem State.Inv.busy {seq : Nat} {da : Bytes} {k : Bool → Handler Unit} (h : s.Inv) (ht : s.task = some t)
    (hrest : t.rest = .act (.begin seq da) k) : (s.goto t (k false)).Inv := by
  obtain ⟨hcmd,hhas,d,hwp,hd⟩ := h.task t ht
  rw [hrest] at hwp
  obtain ⟨⟨rfl,-⟩,-,hk⟩ := hwp
  exact h.goto ht hk hd

theorem State.Inv.taken {k : Unit → Handler Unit} (h : s.Inv) (ht : s.task = some t)
    (hrest : t.rest = .act .take k) (hkept : s.slot.map Pending.cmd = some t.cmd) :
    ({s.goto t (k ()) with slot := none} : State).Inv := by
  obtain ⟨hcmd,hhas,d,hwp,hd⟩ := h.task t ht
  rw [hrest] at hwp
  obtain ⟨rfl,hk⟩ := hwp
  obtain ⟨p,hp,hpt⟩ := Option.map_eq_some_iff.mp hkept
  have hp' : (s.goto t (k ())).slot = some p := hp
  refine h.moved ht rfl rfl h.inBounds h.own (fun p hp => by cases hp) rfl (fun n hn => ?_) hk ?_
  · have := @tally_take (s.goto t (k ())) n p hp'
    rw [hpt,if_neg (Ne.symm hn),tally_goto] at this
    exact this
  · have := @tally_take (s.goto t (k ())) t.cmd p hp'
    rw [hpt,if_pos rfl,tally_goto,hd] at this
    exact Nat.succ.inj this

theorem tally_failPending : s.failPending.tally n = s.tally n := by
  unfold State.failPending
  cases hs : s.slot with
  | none => rfl
  | some p => exact (tally_queue p.cmd _).trans (tally_take hs)

theorem State.Inv.failed {k : Unit → Handler Unit} (h : s.Inv) (ht : s.task = some t)
    (hrest : t.rest = .act .failPending k) : (s.failPending.goto t (k ())).Inv := by
  obtain ⟨hcmd,hhas,d,hwp,hd⟩ := h.task t ht
  rw [hrest] at hwp
  obtain ⟨rfl,hk⟩ := hwp
  have htally (n : Nat) : (s.failPending.goto t (k ())).tally n = s.tally n := (tally_goto _).trans tally_failPending
  cases hs : s.slot with
  | none =>
    have hsame : s.failPending = s := by simp [State.failPending,hs]
    rw [hsame]
    exact h.goto ht hk hd
  | some p =>
    have hsame : s.failPending = ({s with slot := none} : State).queue p.cmd
        (mgmtTxDone ESP_AP_IF CMD_RESPONSE_FAIL [] p.seq) := by simp [State.failPending,hs]
    rw [hsame] at htally ⊢
    refine h.moved ht rfl rfl h.inBounds (fun x hx => ?_) (fun q hq => by cases hq) rfl (fun n _ => htally n) hk
      ((htally _).trans hd)
    rcases List.mem_append.mp hx with hx | hx
    · exact h.own x hx
    · obtain ⟨f,hf,hun,hseq⟩ := h.slot p hs
      cases List.mem_singleton.mp hx
      exact ⟨f,hf,hun.1.symm,hseq⟩

theorem State.Inv.perform {reply : Int} {b : Bool} {bytes : Bytes} (h : s.Inv) (ht : s.task = some t)
    (hkept : ∀ k, t.rest = .act .take k → s.slot.map Pending.cmd = some t.cmd)
    (hs : s.perform t reply b bytes = some s') : s'.Inv := by
  obtain ⟨hcmd,hhas,d,hwp,hd⟩ := h.task t ht
  unfold State.perform at hs
  cases hrest : t.rest with
  | ret x =>
    simp only [hrest,Option.some.injEq] at hs
    rw [← hs]
    exact h.ended ht hrest
  | act a k =>
    rw [hrest] at hwp
    cases a with
    | read off len =>
      simp only [hrest,Option.some.injEq] at hs
      rw [← hs]
      refine h.moved ht rfl rfl ?_ h.own h.slot rfl (fun _ _ => rfl) hwp.2 hd
      simp only [h.inBounds,Bool.false_or,decide_eq_false_iff_not]
      exact Nat.not_lt.mpr hwp.1
    | call =>
      simp only [hrest,Option.some.injEq] at hs
      rw [← hs]
      exact h.goto ht (hwp reply) hd
    | test =>
      simp only [hrest,Option.some.injEq] at hs
      rw [← hs]
      exact h.goto ht (hwp b) hd
    | fetch =>
      simp only [hrest,Option.some.injEq] at hs
      rw [← hs]
      exact h.goto ht (hwp bytes) hd
    | respond r =>
      simp only [hrest,Option.some.injEq] at hs
      rw [← hs]
      exact h.responded ht hrest
    | begin seq da =>
      cases hslot : s.slot with
      | none =>
        simp only [hrest,hslot,Option.some.injEq] at hs
        rw [← hs]
        exact h.begun ht hrest hslot
      | some p =>
        simp only [hrest,hslot,Option.some.injEq] at hs
        rw [← hs]
        exact h.busy ht hrest
    | take =>
      simp only [hrest,Option.some.injEq] at hs
      rw [← hs]
      exact h.taken ht hrest (hkept k hrest)
    | failPending =>
      simp only [hrest,Option.some.injEq] at hs
      rw [← hs]
      exact h.failed ht hrest
    | espRestart => simp [hrest] at hs

theorem State.Inv.callback (h : s.Inv) (hframes : s'.frames = s.frames) (htask : s'.task = s.task)
    (hin : s'.overread = s.overread)
    (hown : ∀ x ∈ s'.out, ∃ f, s.has x.1 f ∧ x.2.code = f.code ∧ x.2.seq = f.seq)
    (hslot : ∀ p, s'.slot = some p → s.Holds p) (hwifi : ∀ p frame, s'.wifi = .sending p frame → s.Holds p)
    (htally : ∀ n, s'.tally n = s.tally n) : s'.Inv := by
  have hsame (n : Nat) (f : Frame) (hf : s.has n f) : s'.has n f := by
    unfold State.has
    rw [hframes]
    exact hf
  have hholds (p : Pending) (hp : s.Holds p) : s'.Holds p := by
    obtain ⟨f,hf,hp⟩ := hp
    exact ⟨f,hsame _ _ hf,hp⟩
  refine ⟨hin.trans h.inBounds,fun x hx => ?_,fun p hp => hholds p (hslot p hp),
    fun p frame hw => hholds p (hwifi p frame hw),fun n hn hrun => ?_,fun t ht => ?_⟩
  · obtain ⟨f,hf,hx⟩ := hown x hx
    exact ⟨f,hsame _ _ hf,hx⟩
  · rw [htally]
    rw [hframes] at hn
    exact h.once n hn fun t ht => hrun t (htask.trans ht)
  · obtain ⟨hcmd,hhas,d,hwp,hd⟩ := h.task t (htask.symm.trans ht)
    refine ⟨?_,hsame _ _ hhas,d,hwp,(htally _).trans hd⟩
    rw [hframes]
    exact hcmd

theorem State.Inv.txMatch {cfg : Config} (h : s.Inv) (hs : step cfg s .txMatch = some s') : s'.Inv := by
  simp only [step] at hs
  cases hw : s.wifi with
  | idle => simp [hw] at hs
  | sending p frame => simp [hw] at hs
  | matching data frame =>
    have hholder : s.wifi.holder = none := by rw [hw]; rfl
    have hidle : ({s with wifi := .idle} : State).Inv :=
      h.callback rfl rfl rfl h.own h.slot (fun p frame hp => by cases hp) fun n => tally_wifi hholder rfl
    cases hslot : s.slot with
    | none =>
      simp only [hw,hslot,Option.some.injEq] at hs
      rw [← hs]
      simpa [hslot] using hidle
    | some p =>
      simp only [hw,hslot] at hs
      split at hs
      · cases hs
        refine h.callback rfl rfl rfl h.own (fun q hq => by cases hq) (fun q fr hq => ?_) fun n => tally_handed hslot hholder
        cases hq
        exact h.slot _ hslot
      · cases hs
        simpa [hslot] using hidle

theorem State.Inv.txSend {cfg : Config} {ack copied : Bool} (h : s.Inv) (hs : step cfg s (.txSend ack copied) = some s') :
    s'.Inv := by
  simp only [step] at hs
  cases hw : s.wifi with
  | idle => simp [hw] at hs
  | matching data frame => simp [hw] at hs
  | sending p frame =>
    obtain ⟨r,hr,hcode,hseq⟩ := txDoneResp_spec frame ack copied p.seq
    simp only [hw,hr,Option.some.injEq] at hs
    rw [← hs]
    refine h.callback rfl rfl rfl (fun x hx => ?_) h.slot (fun q fr hq => by cases hq) fun n =>
      (tally_queue p.cmd r).trans (tally_sent hw)
    rcases List.mem_append.mp hx with hx | hx
    · exact h.own x hx
    · obtain ⟨f,hf,hun,hpf⟩ := h.wifi p frame hw
      cases List.mem_singleton.mp hx
      exact ⟨f,hf,hcode.trans hun.1.symm,hseq.trans hpf⟩

theorem step_inv {cfg : Config} {e : Event} (h : s.Inv) (hk : kept s e = true) (hs : step cfg s e = some s') : s'.Inv := by
  cases e with
  | recv f => exact h.recv hs
  | run reply b bytes =>
    obtain ⟨t,ht,hp⟩ := Option.bind_eq_some_iff.mp hs
    refine h.perform ht (fun k hrest => ?_) hp
    simpa [kept,ht,hrest,takes] using hk
  | txStart data =>
    simp only [step] at hs
    split at hs
    · rename_i hw
      cases hs
      split
      · exact h
      · have hholder : s.wifi.holder = none := by rw [hw]; rfl
        exact h.callback rfl rfl rfl h.own h.slot (fun p frame hp => by cases hp) fun n => tally_wifi hholder rfl
    · cases hs
  | txMatch => exact h.txMatch hs
  | txSend ack copied => exact h.txSend hs

theorem init_inv : ({} : State).Inv where
  inBounds := rfl
  own x hx := by cases hx
  slot p hp := by cases hp
  wifi p frame hp := by cases hp
  once n hn := by cases hn
  task t ht := by cases ht

theorem State.Inv.due_unmarked {f : Frame} (h : s.Inv) (hf : s.has n f) (hdue : s.due n ≠ 0) : f.unmarked := by
  have hheld (p : Pending) (hp : p.cmd = n) (hholds : s.Holds p) : f.unmarked := by
    obtain ⟨g,hg,hun,-⟩ := hholds
    unfold State.has at hf hg
    rw [hp,hf] at hg
    cases hg
    exact hun
  by_cases hslot : s.slot.map Pending.cmd = some n
  · obtain ⟨p,hp,hn⟩ := Option.map_eq_some_iff.mp hslot
    exact hheld p hn (h.slot p hp)
  · by_cases hwifi : s.wifi.holder = some n
    · cases hw : s.wifi with
      | idle => simp [hw,Wifi.holder] at hwifi
      | matching data frame => simp [hw,Wifi.holder] at hwifi
      | sending p frame =>
        simp only [hw,Wifi.holder,Option.some.injEq] at hwifi
        exact hheld p hwifi (h.wifi p frame hw)
    · simp [State.due,hslot,hwifi] at hdue

theorem State.Inv.answered (h : s.Inv) : s.Answered where
  inBounds := h.inBounds
  own := h.own
  once := h.once
  later _ _ hf hdue := h.due_unmarked hf hdue

/-- Each command has one response, given or due from the callback or a stop, in every run in
which no command loses the slot before its handler takes it back. -/
theorem one_response_each {cfg : Config} {es : List Event} (hkept : Along (step cfg) (fun s e => kept s e = true) {} es)
    (h : exec (step cfg) {} es = some s) : s.Answered :=
  State.Inv.answered (exec_invariant_along (fun _ _ _ => step_inv) hkept init_inv h)

def stationFrame : Bytes := [0xD0,0,0,0,2,0,0,0,0,1]

def unmarkedFrame : Frame :=
  ⟨ESP_AP_IF,[25,0,0,0,7,0,0,0,1,0,0,0,0,0,0,0,10,0,0,0] ++ stationFrame⟩

/-- `n` steps of the command task; calls return `reply`, and what is tested holds. -/
def handler (n : Nat) (reply : Int) : List Event := List.replicate n (.run reply true [])

def spiBuild : Config := ⟨true,0,0⟩

def deferredRun : List Event :=
  [.recv unmarkedFrame] ++ handler 13 0 ++ [.txStart stationFrame,.txMatch,.txSend true true]

/-- The firmware's own frame to the station completes while the command is submitted, and the
submission fails. -/
def stolenSlot : List Event :=
  [.recv unmarkedFrame] ++ handler 9 0 ++ [.txStart stationFrame,.txMatch,.txSend true true] ++ handler 5 1

theorem one_response_deferred : ∃ s, exec (step spiBuild) {} deferredRun = some s ∧ s.Answered ∧ s.given 0 = 1 := by
  have hrun : (exec (step spiBuild) {} deferredRun).map (fun s => s.given 0) = some 1 := by decide
  obtain ⟨s,hs,hgiven⟩ := Option.map_eq_some_iff.mp hrun
  exact ⟨s,hs,one_response_each (by decide) hs,hgiven⟩

/-- The callback answers the command, and so does its handler. -/
theorem two_responses : ∃ s, exec (step spiBuild) {} stolenSlot = some s ∧ s.given 0 = 2 := by
  have hrun : (exec (step spiBuild) {} stolenSlot).map (fun s => s.given 0) = some 2 := by decide
  exact Option.map_eq_some_iff.mp hrun

end EspHosted.Dispatch
