import EspHosted.MlmeReports

/-!
`mlme_timeout_work` against the clock. One delayed work serves the three operations, and
`schedule_delayed_work` does not move a timer that is pending.
-/

set_option autoImplicit false

namespace EspHosted.Mlme
open EspHosted Run

def mlmeTimeoutMs : Nat := 5000

/-- `enum esp_mlme_op`. -/
inductive Op where
  | auth
  | assoc
  | disconnect
  deriving DecidableEq, Repr

def Cmd.op : Cmd → Op
  | .auth => .auth
  | .assoc => .assoc
  | .disconnect _ _ _ => .disconnect

def Device.awaiting (d : Device) : Op → Bool
  | .auth => d.auth.awaitingMlme
  | .assoc => d.assoc.awaitingMlme
  | .disconnect => d.disc.awaitingMlme

/-- An operation that `esp_mlme_timeout_work` treats as timed out: when `esp_mlme_end`
made it wait, when the timer that fired was armed, and when the work finds it waiting. -/
structure Expiry where
  op : Op
  since : Nat
  armed : Nat
  found : Nat
  deriving DecidableEq, Repr

/-- Times are in milliseconds. `armed` belongs to the pending timer, `fired` to the one
whose work has started. -/
structure Timed where
  sys : System := {}
  now : Nat := 0
  armed : Nat := 0
  fired : Nat := 0
  since : Op → Nat := fun _ => 0
  expiries : List Expiry := []

inductive TimedAction where
  | tick (ms : Nat)
  | act (a : Action)
  deriving DecidableEq, Repr

/-- The section in which `esp_mlme_end` makes an operation wait. -/
def startsWaiting (s : System) : Action → Option Op
  | .holder _ =>
    match s.pc with
    | .endFinal c true => some c.op
    | _ => none
  | _ => none

/-- What the section of `esp_mlme_timeout_work` finds. -/
def foundWaiting (s : System) : Action → List Op
  | .timer =>
    if s.timer = .started then [Op.assoc,.disconnect,.auth].filter s.dev.awaiting else []
  | _ => []

/-- The times beside a section that leads to `s`: the timer is armed only where it was
not pending. -/
def Timed.after (t : Timed) (a : Action) (s : System) : Timed where
  sys := s
  now := t.now
  armed := if s.dev.mlmeTimeout && !t.sys.dev.mlmeTimeout then t.now else t.armed
  fired := if a = .expire then t.armed else t.fired
  since op := if startsWaiting t.sys a = some op then t.now else t.since op
  expiries := t.expiries ++ (foundWaiting t.sys a).map (fun op => ⟨op,t.since op,t.fired,t.now⟩)

/-- The work of a timer starts no earlier than `mlmeTimeoutMs` after it was armed. -/
def timedStep (t : Timed) : TimedAction → Option Timed
  | .tick ms => some {t with now := t.now+ms}
  | .act a =>
    if a = .expire ∧ t.now < t.armed+mlmeTimeoutMs then none
    else (step t.sys a).map (t.after a)

/-! What is known of the waiting flags while a command is under way. -/

/-- The operations that cannot be waiting at this point of the thread that holds the
wdev lock: `esp_retire_stale_disconnect_generation`, `-EBUSY`, `esp_wifi_clear_*` and
`esp_mlme_begin` have seen to it. -/
def clearedBy : Cmd → Op → Bool
  | .assoc, .auth => false
  | _, _ => true

def Caller.clears : Caller → Op → Bool
  | .work, _ => false
  | .finish c _, op => clearedBy c op

def Entry.clears : Entry → Op → Bool
  | .disconnect _ _ _ _, _ => false
  | _, op => op != .auth

def Deliverer.clears : Deliverer → Op → Bool
  | .flush k, op => k.clears op
  | .retire _, op => op == .assoc

def Pc.clears : Pc → Op → Bool
  | .retireReset _, op => op == .assoc
  | .prepare n, op => n.clears op
  | .authSet _ _, op => op != .auth
  | .assocSet _ _ _, op => op != .auth
  | .discClear .auth _ _ _ _ _, op => op == .assoc
  | .discSet _ _ _ _, op => op != .disconnect
  | .begin (.disconnect _ _ _), op => op != .disconnect
  | .begin c, op => clearedBy c op
  | .wait c, op => clearedBy c op
  | .endFailed c, op => clearedBy c op
  | .flush k, op => k.clears op
  | .deliverAuth _ _ _ k, op => k.clears op
  | .deliverAssoc _ _ k, op => k.clears op
  | .deliverDisconnect _ k, op => k.clears op
  | .deliverClear _ k, op => k.clears op
  | .flushEnd k, op => k.clears op
  | .endFinal _ true, _ => true
  | .endFinal c false, op => clearedBy c op
  | _, _ => false

/-- No section but the last of `esp_mlme_end` makes an operation wait or arms the timer. -/
structure Quiet (d d' : Device) : Prop where
  auth : d'.auth.awaitingMlme = true → d.auth.awaitingMlme = true
  assoc : d'.assoc.awaitingMlme = true → d.assoc.awaitingMlme = true
  disc : d'.disc.awaitingMlme = true → d.disc.awaitingMlme = true
  timeout : d'.mlmeTimeout = true → d.mlmeTimeout = true

/-- Nor do the others begin a command, but for the one that does. -/
structure Settles (d d' : Device) : Prop extends Quiet d d' where
  assocPending : d'.assoc.cmdPending = true → d.assoc.cmdPending = true
  discPending : d'.disc.cmdPending = true → d.disc.cmdPending = true

theorem Settles.refl (d : Device) : Settles d d := ⟨⟨id,id,id,id⟩,id,id⟩

theorem Quiet.awaiting {d d' : Device} (h : Quiet d d') (op : Op) :
    d'.awaiting op = true → d.awaiting op = true := by
  cases op
  exacts [h.auth,h.assoc,h.disc]

theorem settles_clearPending (d : Device) (op : ClearOp) : Settles d (clearPending d op) := by
  cases op
  exacts [⟨⟨id,by rintro ⟨⟩,id,id⟩,by rintro ⟨⟩,id⟩,⟨⟨by rintro ⟨⟩,id,id,id⟩,id,id⟩]

theorem settles_deliverAuth (d : Device) (e : FrameEvent) : Settles d (espDeliverAuth d e) := by
  unfold espDeliverAuth
  split
  · exact ⟨⟨by rintro ⟨⟩,id,id,id⟩,id,id⟩
  · exact Settles.refl d

theorem settles_deliverAssoc (currentBss : Bool) (d : Device) (e : FrameEvent) :
    Settles d (espDeliverAssoc currentBss d e) := by
  unfold espDeliverAssoc
  dsimp only
  split
  · split
    · exact ⟨⟨id,by rintro ⟨⟩,id,id⟩,by rintro ⟨⟩,id⟩
    · split <;> exact ⟨⟨id,by rintro ⟨⟩,id,id⟩,by rintro ⟨⟩,id⟩
  · exact Settles.refl d

theorem settles_deliverDisconnect (d : Device) (e : DisconnectEvent) (b : Bool) :
    Settles d (espDeliverDisconnect d e b) :=
  ⟨⟨id,by rintro ⟨⟩,(by rintro ⟨⟩),id⟩,id,id⟩

theorem settles_stageEvent (d : Device) (alloc : Bool) (e : Event) :
    Settles d (espMlmeStageEvent d alloc e) := by
  cases e <;> simp only [espMlmeStageEvent] <;> split
  all_goals try split
  · exact ⟨⟨id,id,id,id⟩,id,id⟩
  · exact Settles.refl d
  · exact ⟨⟨by rintro ⟨⟩,id,id,id⟩,id,id⟩
  · exact ⟨⟨id,id,id,id⟩,id,id⟩
  · exact Settles.refl d
  · exact ⟨⟨id,by rintro ⟨⟩,id,id⟩,by rintro ⟨⟩,id⟩
  · exact ⟨⟨id,id,id,id⟩,id,id⟩
  · exact Settles.refl d
  · exact ⟨⟨id,id,by rintro ⟨⟩,id⟩,id,by rintro ⟨⟩⟩

theorem settles_timeoutWork (d : Device) : Settles d (espMlmeTimeoutWork d).1 := by
  refine ⟨⟨?_,?_,?_,?_⟩,?_,?_⟩ <;> dsimp only [espMlmeTimeoutWork] <;> grind

theorem settles_retireTake (d : Device) : Settles d (retireTake d).1 := by
  refine ⟨⟨?_,?_,?_,?_⟩,?_,?_⟩ <;> dsimp only [retireTake] <;> grind

theorem settles_retireReset (currentBss : Bool) (d : Device) : Settles d (retireReset currentBss d) := by
  refine ⟨⟨?_,?_,?_,?_⟩,?_,?_⟩ <;> dsimp only [retireReset] <;> grind

theorem settles_endFailed (d : Device) (c : Cmd) : Settles d (endFailed d c) := by
  cases c
  exacts [⟨⟨by rintro ⟨⟩,id,id,id⟩,id,id⟩,⟨⟨id,by rintro ⟨⟩,id,id⟩,id,id⟩,⟨⟨id,id,id,id⟩,id,id⟩]

theorem settles_wait (d : Device) (r : Response) (c : Cmd) : Settles d (waitAndDecodeCmdResp d r c).1 := by
  cases c
  · exact Settles.refl d
  · exact Settles.refl d
  · cases r <;> exact ⟨⟨id,id,id,id⟩,id,id⟩

theorem settles_flushEnd (d : Device) :
    Settles d {d with mlmeTimeout := d.mlmeTimeout && awaitingAny d} := by
  refine ⟨⟨id,id,id,fun ht => ?_⟩,id,id⟩
  rw [Bool.and_eq_true] at ht
  exact ht.1

theorem settles_disconnectTail (d : Device) (q : Request) (reason : UInt16) (subtype : DisconnectType) :
    Settles d (disconnectTail d q reason subtype).1 := by
  cases subtype
  · refine ⟨⟨?_,?_,?_,?_⟩,?_,?_⟩ <;> dsimp only [disconnectTail] <;> grind
  · exact ⟨⟨id,id,by rintro ⟨⟩,id⟩,id,id⟩

def Pc.inDisconnect (p : Pc) : Bool := isDisconnect p.cmd && !p.ended

/-- The thread that holds the wdev lock, against the flags. -/
structure Held (d : Device) (p : Pc) : Prop where
  clear : ∀ op, p.clears op = true → d.awaiting op = false
  assoc : d.assoc.cmdPending = true → isAssoc p.cmd = true
  disc : d.disc.cmdPending = true → p.inDisconnect = true
  cancelled : ∀ c, p = .endFinal c true → d.mlmeTimeout = false

section
variable {d d' : Device} {p p' : Pc}

theorem Held.settles (h : Held d p) (q : Settles d d') : Held d' p where
  clear op hop := by
    have hd := h.clear op hop
    cases hd' : d'.awaiting op with
    | false => rfl
    | true => rw [q.awaiting op hd'] at hd; cases hd
  assoc ha := h.assoc (q.assocPending ha)
  disc hd := h.disc (q.discPending hd)
  cancelled c hc := by
    have hd := h.cancelled c hc
    cases hd' : d'.mlmeTimeout with
    | false => rfl
    | true => rw [q.timeout hd'] at hd; cases hd

theorem Held.goto (h : Held d p) (hclear : ∀ op, p'.clears op = true → p.clears op = true ∨ d.awaiting op = false)
    (ha : isAssoc p'.cmd = isAssoc p.cmd) (hd : p'.inDisconnect = p.inDisconnect)
    (hc : ∀ c, p' ≠ .endFinal c true) : Held d p' where
  clear op hop := (hclear op hop).elim (h.clear op) id
  assoc := ha ▸ h.assoc
  disc := hd ▸ h.disc
  cancelled c hp := absurd hp (hc c)

theorem Held.section (h : Held d p) (q : Settles d d')
    (hclear : ∀ op, p'.clears op = true → p.clears op = true ∨ d'.awaiting op = false)
    (ha : isAssoc p'.cmd = isAssoc p.cmd) (hd : p'.inDisconnect = p.inDisconnect)
    (hc : ∀ c, p' ≠ .endFinal c true) : Held d' p' :=
  (h.settles q).goto hclear ha hd hc

theorem Held.retireTake {n : Entry} (h : Held d (.retireTake n)) :
    (retireTake d).1.assoc.awaitingMlme = false := by
  have hp : d.assoc.cmdPending = false := by
    cases hp : d.assoc.cmdPending with
    | false => rfl
    | true => exact absurd (h.assoc hp) (by rintro ⟨⟩)
  simp [Mlme.retireTake,hp]

theorem Held.retireReset {n : Entry} (h : Held d (.retireReset n)) (currentBss : Bool) :
    (retireReset currentBss d).disc.awaitingMlme = false := by
  have hp : d.disc.cmdPending = false := by
    cases hp : d.disc.cmdPending with
    | false => rfl
    | true => exact absurd (h.disc hp) (by rintro ⟨⟩)
  simp [Mlme.retireReset,hp]

theorem Held.authSet {seq : UInt16} {bssid : Bssid} (h : Held d (.authSet seq bssid)) :
    Held (cmdAuthRequest d seq bssid).1 (cmdAuthRequest d seq bssid).2 := by
  unfold cmdAuthRequest
  split
  · exact h.goto (by rintro _ ⟨⟩) rfl rfl (by rintro _ ⟨⟩)
  · rename_i hb
    simp only [Bool.or_eq_true,not_or,Bool.not_eq_true] at hb
    refine h.section ⟨⟨id,id,id,id⟩,id,id⟩ (fun op => ?_) rfl rfl (by rintro _ ⟨⟩)
    cases op
    exacts [fun _ => Or.inr hb.2,fun _ => Or.inl rfl,fun _ => Or.inl rfl]

theorem Held.assocSet {seq : UInt16} {bssid : Bssid} {ie : Bytes} (h : Held d (.assocSet seq bssid ie)) :
    Held (cmdAssocRequest d seq bssid ie).1 (cmdAssocRequest d seq bssid ie).2 := by
  unfold cmdAssocRequest
  split
  · exact h.goto (by rintro _ ⟨⟩) rfl rfl (by rintro _ ⟨⟩)
  · constructor
    · intro op
      cases op
      exacts [(by rintro ⟨⟩),fun _ => h.clear .assoc rfl,fun _ => h.clear .disconnect rfl]
    · exact fun _ => rfl
    · exact fun hd => absurd (h.disc hd) (by rintro ⟨⟩)
    · rintro _ ⟨⟩

theorem Held.begin {c : Cmd} (h : Held d (.begin c)) : Held (espMlmeBegin d c) (.wait c) := by
  cases c with
  | auth =>
    refine h.section ⟨⟨by rintro ⟨⟩,id,id,id⟩,id,id⟩ (fun op => ?_) rfl rfl (by rintro _ ⟨⟩)
    cases op
    exacts [fun _ => Or.inl rfl,fun _ => Or.inl rfl,fun _ => Or.inl rfl]
  | assoc => exact h.section ⟨⟨id,id,id,id⟩,id,id⟩ (fun _ => Or.inl) rfl rfl (by rintro _ ⟨⟩)
  | disconnect q subtype reason =>
    constructor
    · intro op
      cases op
      exacts [fun _ => h.clear .auth rfl,fun _ => h.clear .assoc rfl,fun _ => rfl]
    · exact fun ha => absurd (h.assoc ha) (by rintro ⟨⟩)
    · exact fun _ => rfl
    · rintro _ ⟨⟩

theorem Held.deliverer {k : Deliverer} (h : Held d (.deliverClear .auth k)) : Held d k.next := by
  cases k with
  | flush k => exact h.goto (fun _ => Or.inl) rfl rfl (by rintro _ ⟨⟩)
  | retire n => exact h.goto (fun _ => Or.inl) rfl rfl (by rintro _ ⟨⟩)

theorem Held.flushEnd {k : Caller} (h : Held d (.flushEnd k))
    (hf : k = .finish .assoc true → d.auth.awaitingMlme = false) :
    Held {d with mlmeTimeout := d.mlmeTimeout && awaitingAny d} k.next := by
  have hq := settles_flushEnd d
  cases k with
  | work => exact h.section hq (by rintro _ ⟨⟩) rfl rfl (by rintro _ ⟨⟩)
  | finish c success =>
    cases success with
    | false => exact h.section hq (fun _ => Or.inl) rfl rfl (by rintro _ ⟨⟩)
    | true =>
      have hall : ∀ op, d.awaiting op = false := by
        intro op
        cases c <;> cases op
        all_goals first | exact h.clear _ rfl | exact hf rfl
      have hany : awaitingAny d = false := by
        simp only [awaitingAny]
        have h1 := hall .auth
        have h2 := hall .assoc
        have h3 := hall .disconnect
        simp only [Device.awaiting] at h1 h2 h3
        simp [h1,h2,h3]
      have hs := h.settles hq
      exact ⟨fun op _ => hall op,hs.assoc,hs.disc,fun _ _ => by simp [hany]⟩

theorem Held.endFinal {c : Cmd} {success : Bool} (h : Held d (.endFinal c success)) :
    Held (espMlmeEnd d c success) (endFinalNext c success) := by
  have hc : ∀ c', endFinalNext c success ≠ .endFinal c' true := by cases c <;> cases success <;> rintro _ ⟨⟩
  have hn : ∀ op, (endFinalNext c success).clears op = false := by
    cases c <;> cases success <;> exact fun _ => rfl
  refine ⟨fun op hop => absurd hop (by simp [hn]),fun ha => ?_,fun hd => ?_,fun c' hp => absurd hp (hc c')⟩
  · cases c with
    | assoc => cases ha
    | auth => exact absurd (h.assoc ha) (by rintro ⟨⟩)
    | disconnect => exact absurd (h.assoc ha) (by rintro ⟨⟩)
  · cases c with
    | disconnect => cases hd
    | auth => exact absurd (h.disc hd) (by rintro ⟨⟩)
    | assoc => exact absurd (h.disc hd) (by rintro ⟨⟩)

theorem Held.holder (h : Held d p) (i : Env)
    (hf : p = .flushEnd (.finish .assoc true) → d.auth.awaitingMlme = false) :
    Held (runHolder d i p).1 (runHolder d i p).2 := by
  cases p with
  | idle => exact h
  | retireTake n =>
    have ht := h.retireTake
    simp only [runHolder]
    split
    all_goals
      refine h.section (settles_retireTake d) (fun op => ?_) rfl rfl (by rintro _ ⟨⟩)
      cases op
      exacts [(by rintro ⟨⟩),fun _ => Or.inr ht,(by rintro ⟨⟩)]
  | retireReset n =>
    have ht := h.retireReset i.currentBss
    have ha := (h.settles (settles_retireReset i.currentBss d)).clear .assoc rfl
    refine h.section (settles_retireReset i.currentBss d) (fun op => ?_) rfl rfl (by rintro _ ⟨⟩)
    cases n <;> cases op
    exacts [(by rintro ⟨⟩),fun _ => Or.inr ha,fun _ => Or.inr ht,by rintro ⟨⟩,fun _ => Or.inr ha,fun _ => Or.inr ht,
      (by rintro ⟨⟩),by rintro ⟨⟩,(by rintro ⟨⟩)]
  | prepare n =>
    simp only [runHolder]
    split
    · cases n
      · exact h.section ⟨⟨id,id,id,id⟩,id,id⟩ (fun _ => Or.inl) rfl rfl (by rintro _ ⟨⟩)
      · exact h.section ⟨⟨id,id,id,id⟩,id,id⟩ (fun _ => Or.inl) rfl rfl (by rintro _ ⟨⟩)
      · exact h.section ⟨⟨id,id,id,id⟩,id,id⟩ (by rintro _ ⟨⟩) rfl rfl (by rintro _ ⟨⟩)
    · exact h.goto (by rintro _ ⟨⟩) rfl rfl (by rintro _ ⟨⟩)
  | authSet seq bssid => exact h.authSet
  | assocSet seq bssid ie => exact h.assocSet
  | discClear op isAp seq bssid subtype reason =>
    cases op with
    | assoc =>
      refine h.section (settles_clearPending d .assoc) (fun op => ?_) rfl rfl (by rintro _ ⟨⟩)
      cases op
      exacts [(by rintro ⟨⟩),fun _ => Or.inr rfl,(by rintro ⟨⟩)]
    | auth =>
      cases isAp with
      | true => exact h.section (settles_clearPending d .auth) (by rintro _ ⟨⟩) rfl rfl (by rintro _ ⟨⟩)
      | false =>
        refine h.section (settles_clearPending d .auth) (fun op => ?_) rfl rfl (by rintro _ ⟨⟩)
        cases op
        exacts [fun _ => Or.inr rfl,fun _ => Or.inl rfl,(by rintro ⟨⟩)]
  | discSet seq bssid subtype reason =>
    constructor
    · exact h.clear
    · exact fun ha => absurd (h.assoc ha) (by rintro ⟨⟩)
    · exact fun _ => rfl
    · rintro _ ⟨⟩
  | begin c => exact h.begin
  | wait c =>
    refine h.section (settles_wait d i.response c) ?_ ?_ ?_ ?_
    all_goals cases c <;> cases hr : i.response <;> simp only [runHolder,waitAndDecodeCmdResp,hr]
    all_goals first | exact fun _ => Or.inl | rfl | rintro _ ⟨⟩
  | endFailed c => exact h.section (settles_endFailed d c) (fun _ => Or.inl) rfl rfl (by rintro _ ⟨⟩)
  | flush k => exact h.section ⟨⟨id,id,id,id⟩,id,id⟩ (fun _ => Or.inl) rfl rfl (by rintro _ ⟨⟩)
  | deliverAuth es a e k =>
    cases es with
    | nil => exact h.goto (fun _ => Or.inl) rfl rfl (by rintro _ ⟨⟩)
    | cons x xs => exact h.section (settles_deliverAuth d x) (fun _ => Or.inl) rfl rfl (by rintro _ ⟨⟩)
  | deliverAssoc a e k =>
    have hd : Held (runHolder d i (.deliverAssoc a e k)).1 (.deliverAssoc a e k) := by
      cases a with
      | none => exact h
      | some x => exact h.settles (settles_deliverAssoc i.currentBss d x)
    cases e with
    | none => exact hd.goto (fun _ => Or.inl) rfl rfl (by rintro _ ⟨⟩)
    | some x => exact hd.goto (fun _ => Or.inl) rfl rfl (by rintro _ ⟨⟩)
  | deliverDisconnect e k =>
    simp only [runHolder]
    split
    · exact Held.deliverer (h.goto (fun _ => Or.inl) rfl rfl (by rintro _ ⟨⟩))
    · exact h.section (settles_deliverDisconnect d e _) (fun _ => Or.inl) rfl rfl (by rintro _ ⟨⟩)
  | deliverClear op k =>
    cases op with
    | assoc => exact h.section (settles_clearPending d .assoc) (fun _ => Or.inl) rfl rfl (by rintro _ ⟨⟩)
    | auth => exact Held.deliverer (h.settles (settles_clearPending d .auth))
  | flushEnd k => exact h.flushEnd (fun hk => hf (by rw [hk]))
  | endFinal c success => exact h.endFinal
  | failClear op => exact h.section (settles_clearPending d op) (by rintro _ ⟨⟩) rfl rfl (by rintro _ ⟨⟩)
  | discTail q subtype reason =>
    cases subtype with
    | deauth => exact h.section (settles_disconnectTail d q reason .deauth) (by rintro _ ⟨⟩) rfl rfl (by rintro _ ⟨⟩)
    | disassoc => exact h.section (settles_disconnectTail d q reason .disassoc) (by rintro _ ⟨⟩) rfl rfl (by rintro _ ⟨⟩)
  | syncClear op =>
    cases op with
    | assoc => exact h.section (settles_clearPending d .assoc) (by rintro _ ⟨⟩) rfl rfl (by rintro _ ⟨⟩)
    | auth => exact h.section (settles_clearPending d .auth) (by rintro _ ⟨⟩) rfl rfl (by rintro _ ⟨⟩)

end

theorem quiet_holder (d : Device) (i : Env) (p : Pc) (hp : ∀ c success, p ≠ .endFinal c success) :
    Quiet d (runHolder d i p).1 := by
  cases p with
  | idle => exact ⟨id,id,id,id⟩
  | retireTake n => exact (settles_retireTake d).toQuiet
  | retireReset n => exact (settles_retireReset i.currentBss d).toQuiet
  | prepare n =>
    simp only [runHolder]
    split <;> exact ⟨id,id,id,id⟩
  | authSet seq bssid =>
    simp only [runHolder,cmdAuthRequest]
    split <;> exact ⟨id,id,id,id⟩
  | assocSet seq bssid ie =>
    simp only [runHolder,cmdAssocRequest]
    split <;> exact ⟨id,id,id,id⟩
  | discClear op =>
    cases op
    exacts [(settles_clearPending d .assoc).toQuiet,(settles_clearPending d .auth).toQuiet]
  | discSet seq bssid subtype reason => exact ⟨id,id,id,id⟩
  | begin c =>
    cases c
    exacts [⟨by rintro ⟨⟩,id,id,id⟩,⟨id,id,id,id⟩,⟨id,id,by rintro ⟨⟩,id⟩]
  | wait c => exact (settles_wait d i.response c).toQuiet
  | endFailed c => exact (settles_endFailed d c).toQuiet
  | flush k => exact ⟨id,id,id,id⟩
  | deliverAuth es a e k =>
    cases es with
    | nil => exact ⟨id,id,id,id⟩
    | cons x xs => exact (settles_deliverAuth d x).toQuiet
  | deliverAssoc a e k =>
    cases a with
    | none => exact ⟨id,id,id,id⟩
    | some x => exact (settles_deliverAssoc i.currentBss d x).toQuiet
  | deliverDisconnect e k =>
    simp only [runHolder]
    split
    · exact ⟨id,id,id,id⟩
    · exact (settles_deliverDisconnect d e _).toQuiet
  | deliverClear op k =>
    cases op
    exacts [(settles_clearPending d .assoc).toQuiet,(settles_clearPending d .auth).toQuiet]
  | flushEnd k => exact (settles_flushEnd d).toQuiet
  | endFinal c success => exact absurd rfl (hp c success)
  | failClear op => exact (settles_clearPending d op).toQuiet
  | discTail q subtype reason => exact (settles_disconnectTail d q reason subtype).toQuiet
  | syncClear op =>
    cases op
    exacts [(settles_clearPending d .assoc).toQuiet,(settles_clearPending d .auth).toQuiet]

theorem settles_beside {s s' : System} {a : Action} (hs : step s a = some s') (ha : ∀ i, a ≠ .holder i) :
    Settles s.dev s'.dev := by
  cases a with
  | holder i => exact absurd rfl (ha i)
  | request n =>
    simp only [step] at hs
    split at hs <;> cases hs
    exact Settles.refl _
  | event e =>
    simp only [step] at hs
    split at hs
    · split at hs <;> cases hs <;> exact Settles.refl _
    · cases hs
  | rx alloc =>
    simp only [step,runRx] at hs
    split at hs <;> cases hs
    · exact settles_stageEvent _ _ _
    · exact ⟨⟨id,id,id,id⟩,id,id⟩
  | work =>
    simp only [step] at hs
    split at hs <;> cases hs
    exact ⟨⟨id,id,id,id⟩,id,id⟩
  | workLock =>
    simp only [step] at hs
    split at hs <;> cases hs
    exact Settles.refl _
  | expire =>
    simp only [step] at hs
    split at hs <;> cases hs
    exact ⟨⟨id,id,id,by rintro ⟨⟩⟩,id,id⟩
  | timer =>
    simp only [step,runTimer] at hs
    split at hs <;> cases hs
    · exact settles_timeoutWork _
    · exact Settles.refl _
    · exact settles_clearPending _ _
  | otherCommand =>
    cases hs
    exact ⟨⟨id,id,id,id⟩,id,id⟩

theorem step_timer {s s' : System} {a : Action} (hs : step s a = some s') (he : a ≠ .expire)
    (ht : a ≠ .timer) : s'.timer = s.timer := by
  cases a with
  | expire => exact absurd rfl he
  | timer => exact absurd rfl ht
  | otherCommand => cases hs; rfl
  | rx alloc =>
    simp only [step,runRx] at hs
    split at hs <;> cases hs <;> rfl
  | event e =>
    simp only [step] at hs
    split at hs
    · split at hs <;> cases hs <;> rfl
    · cases hs
  | _ =>
    simp only [step] at hs
    split at hs <;> cases hs
    rfl

theorem held_beside {s s' : System} {a : Action} (h : Held s.dev s.pc) (hs : step s a = some s')
    (ha : ∀ i, a ≠ .holder i) : Held s'.dev s'.pc := by
  have hd := h.settles (settles_beside hs ha)
  cases a with
  | holder i => exact absurd rfl (ha i)
  | request n =>
    simp only [step] at hs
    split at hs <;> cases hs
    rename_i hp
    rw [hp] at hd
    cases n <;> exact hd.goto (by rintro _ ⟨⟩) rfl rfl (by rintro _ ⟨⟩)
  | event e =>
    simp only [step] at hs
    split at hs
    · split at hs <;> cases hs <;> exact hd
    · cases hs
  | rx alloc =>
    simp only [step,runRx] at hs
    split at hs <;> cases hs <;> exact hd
  | workLock =>
    simp only [step] at hs
    split at hs <;> cases hs
    rename_i hp
    rw [hp.2] at hd
    exact hd.goto (by rintro _ ⟨⟩) rfl rfl (by rintro _ ⟨⟩)
  | timer =>
    simp only [step,runTimer] at hs
    split at hs <;> cases hs <;> exact hd
  | otherCommand => cases hs; exact hd
  | _ =>
    simp only [step] at hs
    split at hs <;> cases hs
    exact hd

/-- A successful `esp_mlme_end` cancels the timer, unless an association is made while
an authentication still waits, and no started work is about to look at the flags. -/
def Punctual (t : Timed) : TimedAction → Prop
  | .act (.holder _) =>
    match t.sys.pc with
    | .flushEnd (.finish .assoc true) => t.sys.dev.auth.awaitingMlme = false
    | .endFinal _ true => t.sys.timer ≠ .started
    | _ => True
  | _ => True

structure OnTime (t : Timed) : Prop where
  held : Held t.sys.dev t.sys.pc
  past : ∀ op, t.since op ≤ t.now
  pending : t.sys.dev.mlmeTimeout = true → ∀ op, t.sys.dev.awaiting op = true → t.since op ≤ t.armed
  started : t.sys.timer = .started → t.fired+mlmeTimeoutMs ≤ t.now ∧
    ∀ op, t.sys.dev.awaiting op = true → t.since op ≤ t.fired
  expiries : ∀ x ∈ t.expiries, x.since ≤ x.armed ∧ x.armed+mlmeTimeoutMs ≤ x.found

theorem timedStep_act {t t' : Timed} {a : Action} (h : timedStep t (.act a) = some t') :
    ∃ s, step t.sys a = some s ∧ (a = .expire → t.armed+mlmeTimeoutMs ≤ t.now) ∧ t' = t.after a s := by
  simp only [timedStep] at h
  split at h
  · cases h
  · rename_i hg
    rw [Option.map_eq_some_iff] at h
    obtain ⟨s,hs,rfl⟩ := h
    exact ⟨s,hs,fun he => Nat.le_of_not_lt (fun hlt => hg ⟨he,hlt⟩),rfl⟩

section
variable {t : Timed} {s : System} {a : Action}

theorem OnTime.quiet (h : OnTime t) (hh : Held s.dev s.pc) (hq : Quiet t.sys.dev s.dev)
    (ht : s.timer = .started → t.sys.timer = .started) (he : a ≠ .expire)
    (hw : startsWaiting t.sys a = none) (hf : foundWaiting t.sys a = []) : OnTime (t.after a s) := by
  have harm : (s.dev.mlmeTimeout && !t.sys.dev.mlmeTimeout) = false := by
    cases hs : s.dev.mlmeTimeout with
    | false => rfl
    | true => simp [hq.timeout hs]
  have hafter : t.after a s = {t with sys := s} := by simp [Timed.after,harm,hw,hf,he]
  rw [hafter]
  exact ⟨hh,h.past,fun hp op ho => h.pending (hq.timeout hp) op (hq.awaiting op ho),
    fun hs => ⟨(h.started (ht hs)).1,fun op ho => (h.started (ht hs)).2 op (hq.awaiting op ho)⟩,h.expiries⟩

theorem awaiting_endFlags {d : Device} {c : Cmd} {success : Bool} {op : Op}
    (h : (espMlmeEnd d c success).awaiting op = true) :
    (op = c.op ∧ success = true) ∨ (op ≠ c.op ∧ d.awaiting op = true) := by
  cases c <;> cases op
  all_goals first
    | exact Or.inr ⟨by rintro ⟨⟩,h⟩
    | refine Or.inl ⟨rfl,?_⟩
      simp [espMlmeEnd,espMlmeEndFlags,Device.awaiting] at h
      simp [h]

/-- The last section of `esp_mlme_end` on a success: the timer has been cancelled, so
that this operation alone waits and has armed it. -/
theorem OnTime.endSuccess {c : Cmd} {i : Env} (h : OnTime t) (hpc : t.sys.pc = .endFinal c true)
    (hok : t.sys.timer ≠ .started) (ha : a = .holder i)
    (hs : s = {t.sys with dev := espMlmeEnd t.sys.dev c true, pc := endFinalNext c true}) :
    OnTime (t.after a s) := by
  have hh := h.held
  rw [hpc] at hh
  have hnew : ∀ op, (espMlmeEnd t.sys.dev c true).awaiting op = true → op = c.op := by
    intro op hop
    rcases awaiting_endFlags hop with ho | ho
    · exact ho.1
    · rw [hh.clear op rfl] at ho
      exact absurd ho.2 (by rintro ⟨⟩)
  have hsince : (t.after a s).since c.op = t.now := by
    simp [Timed.after,startsWaiting,ha,hpc]
  subst hs ha
  refine ⟨hh.endFinal,fun op => ?_,fun hp op hop => ?_,fun ht => absurd ht hok,?_⟩
  · simp only [Timed.after]
    split
    · exact Nat.le_refl _
    · exact h.past op
  · rw [hnew op hop,hsince]
    have harm : t.sys.dev.mlmeTimeout = false := hh.cancelled c rfl
    simp only [Timed.after] at hp ⊢
    simp [hp,harm]
  · simpa [Timed.after,foundWaiting] using h.expiries

theorem OnTime.endFailure {c : Cmd} {i : Env} (h : OnTime t) (hpc : t.sys.pc = .endFinal c false)
    (ha : a = .holder i)
    (hs : s = {t.sys with dev := espMlmeEnd t.sys.dev c false, pc := endFinalNext c false}) :
    OnTime (t.after a s) := by
  have hh := h.held
  rw [hpc] at hh
  have hold : ∀ op, (espMlmeEnd t.sys.dev c false).awaiting op = true → t.sys.dev.awaiting op = true := by
    intro op hop
    rcases awaiting_endFlags hop with ho | ho
    · exact absurd ho.2 (by rintro ⟨⟩)
    · exact ho.2
  have hsince : (t.after a s).since = t.since := by
    simp [Timed.after,startsWaiting,ha,hpc]
  subst hs ha
  refine ⟨hh.endFinal,fun op => by rw [hsince]; exact h.past op,fun hp op hop => ?_,fun ht => ?_,?_⟩
  · rw [hsince]
    cases hpend : t.sys.dev.mlmeTimeout with
    | true =>
      simp only [Timed.after,hpend,Bool.not_true,Bool.and_false,Bool.false_eq_true,if_false]
      exact h.pending hpend op (hold op hop)
    | false =>
      simp only [Timed.after] at hp ⊢
      simpa [hp,hpend] using h.past op
  · rw [hsince]
    obtain ⟨h1,h2⟩ := h.started ht
    exact ⟨h1,fun op hop => h2 op (hold op hop)⟩
  · simpa [Timed.after,foundWaiting] using h.expiries

theorem OnTime.expire (h : OnTime t) (hs : step t.sys .expire = some s)
    (hnow : t.armed+mlmeTimeoutMs ≤ t.now) : OnTime (t.after .expire s) := by
  have hh := held_beside h.held hs (by rintro _ ⟨⟩)
  simp only [step] at hs
  split at hs
  · rename_i hg
    cases hs
    have hq := h.pending hg.1
    refine ⟨hh,h.past,by rintro ⟨⟩,fun _ => ⟨hnow,hq⟩,?_⟩
    simpa [Timed.after,foundWaiting] using h.expiries
  · cases hs

/-- The section of `esp_mlme_timeout_work`: all it finds has waited since the timer
that fired was armed. -/
theorem OnTime.timer (h : OnTime t) (hs : step t.sys .timer = some s) : OnTime (t.after .timer s) := by
  have hh := held_beside h.held hs (by rintro _ ⟨⟩)
  have hq := (settles_beside hs (by rintro _ ⟨⟩)).toQuiet
  cases ht : t.sys.timer with
  | started =>
    obtain ⟨hnow,hsince⟩ := h.started ht
    simp only [step,runTimer,ht] at hs
    cases hs
    have hfound : ∀ op ∈ foundWaiting t.sys .timer, t.since op ≤ t.fired := by
      intro op hop
      simp only [foundWaiting,ht,if_true] at hop
      exact hsince op (List.mem_filter.mp hop).2
    refine ⟨hh,h.past,fun hp op hop => ?_,by rintro ⟨⟩,fun x hx => ?_⟩
    · have hpend : t.sys.dev.mlmeTimeout = true := hp
      simp only [Timed.after,hpend,Bool.not_true,Bool.and_false,Bool.false_eq_true,if_false]
      exact h.pending hp op (hq.awaiting op hop)
    · rcases List.mem_append.mp hx with hx | hx
      · exact h.expiries x hx
      · obtain ⟨op,hop,rfl⟩ := List.mem_map.mp hx
        exact ⟨hfound op hop,hnow⟩
  | idle =>
    simp only [step,runTimer,ht] at hs
    cases hs
  | clearing ops =>
    refine h.quiet hh hq ?_ (by rintro ⟨⟩) rfl (by simp [foundWaiting,ht])
    simp only [step,runTimer,ht] at hs
    split at hs <;> cases hs <;> rintro ⟨⟩

theorem OnTime.holder {i : Env} (h : OnTime t) (hok : Punctual t (.act (.holder i)))
    (hs : step t.sys (.holder i) = some s) : OnTime (t.after (.holder i) s) := by
  simp only [step] at hs
  split at hs
  · cases hs
  · cases hs
    by_cases hp : ∃ c success, t.sys.pc = .endFinal c success
    · obtain ⟨c,success,hp⟩ := hp
      have hsys : ({t.sys with dev := (runHolder t.sys.dev i t.sys.pc).1
                               pc := (runHolder t.sys.dev i t.sys.pc).2} : System) =
          {t.sys with dev := espMlmeEnd t.sys.dev c success, pc := endFinalNext c success} := by
        simp only [hp,runHolder]
      cases success with
      | true =>
        simp only [Punctual,hp] at hok
        exact h.endSuccess hp hok rfl hsys
      | false => exact h.endFailure hp rfl hsys
    · have hne : ∀ c success, t.sys.pc ≠ .endFinal c success := fun c b hc => hp ⟨c,b,hc⟩
      have hheld : Held (runHolder t.sys.dev i t.sys.pc).1 (runHolder t.sys.dev i t.sys.pc).2 := by
        refine h.held.holder i (fun hf => ?_)
        simpa only [Punctual,hf] using hok
      refine h.quiet hheld (quiet_holder _ i _ hne) id (by rintro ⟨⟩) ?_ rfl
      simp only [startsWaiting]
      split
      · rename_i c hc
        exact absurd hc (hne c true)
      · rfl

end

theorem step_onTime (t : Timed) (a : TimedAction) (t' : Timed) (h : OnTime t) (hok : Punctual t a)
    (hs : timedStep t a = some t') : OnTime t' := by
  cases a with
  | tick ms =>
    cases hs
    refine ⟨h.held,fun op => Nat.le_add_right_of_le (h.past op),h.pending,fun ht => ?_,h.expiries⟩
    exact ⟨Nat.le_add_right_of_le (h.started ht).1,(h.started ht).2⟩
  | act a =>
    obtain ⟨s,hact,hnow,rfl⟩ := timedStep_act hs
    cases a with
    | expire => exact h.expire hact (hnow rfl)
    | timer => exact h.timer hact
    | holder i => exact h.holder hok hact
    | _ =>
      exact h.quiet (held_beside h.held hact (by rintro _ ⟨⟩)) (settles_beside hact (by rintro _ ⟨⟩)).toQuiet
        (by rw [step_timer hact (by rintro ⟨⟩) (by rintro ⟨⟩)]; exact id) (by rintro ⟨⟩) rfl rfl

def started (nextCmdSeq : UInt16) : Timed := {sys := initial nextCmdSeq}

theorem onTime_started (n : UInt16) : OnTime (started n) :=
  ⟨⟨by rintro _ ⟨⟩,by rintro ⟨⟩,(by rintro ⟨⟩),by rintro _ ⟨⟩⟩,fun _ => Nat.zero_le _,by rintro ⟨⟩,(by rintro ⟨⟩),by rintro _ ⟨⟩⟩

/-- An operation times out at least `mlmeTimeoutMs` after `esp_mlme_end` made it wait, by
a timer that was not armed before. -/
theorem no_premature_timeout (n : UInt16) (acts : List TimedAction) (t : Timed)
    (hrun : exec timedStep (started n) acts = some t) (hok : Along timedStep Punctual (started n) acts) :
    ∀ x ∈ t.expiries, x.since ≤ x.armed ∧ x.since+mlmeTimeoutMs ≤ x.found := by
  have h : OnTime t := exec_invariant_along step_onTime hok (onTime_started n) hrun
  intro x hx
  obtain ⟨h1,h2⟩ := h.expiries x hx
  exact ⟨h1,by omega⟩

instance (t : Timed) (a : TimedAction) : Decidable (Punctual t a) := by
  unfold Punctual
  split
  · split <;> infer_instance
  · infer_instance

def authenticating : List TimedAction :=
  ((.request (.auth 5) :: sections 11).map .act)

theorem no_premature_timeout_auth :
    ∃ t ∈ exec timedStep (started 0) (authenticating ++ [.tick 5000,.act .expire,.tick 3,.act .timer]),
      t.expiries = [⟨.auth,0,0,5003⟩] ∧ ∀ x ∈ t.expiries, x.since ≤ x.armed ∧ x.since+mlmeTimeoutMs ≤ x.found := by
  have h : ∃ t ∈ exec timedStep (started 0)
      (authenticating ++ [.tick 5000,.act .expire,.tick 3,.act .timer]), t.expiries = [⟨.auth,0,0,5003⟩] := by
    decide +kernel
  obtain ⟨t,ht,he⟩ := h
  have hok : Along timedStep Punctual (started 0)
      (authenticating ++ [.tick 5000,.act .expire,.tick 3,.act .timer]) := by decide +kernel
  exact ⟨t,ht,he,no_premature_timeout 0 _ t ht hok⟩

/-- An association made at 4990 ms, before the authentication is answered: the timer of
the authentication stays pending, also when the answer has come. -/
def associatedLate : List TimedAction :=
  List.flatten [authenticating,[.tick 4990],((Action.request (.assoc 5 []) :: sections 11).map .act),
    ((List.flatten [arrives (.authRx {seq := 1, bssid := 5}),[.work,.workLock],sections 5]).map .act),
    [.tick 10,.act .expire,.act .timer]]

/-- The work has started when a disconnect request is made to wait. -/
def disconnectedLate : List TimedAction :=
  List.flatten [authenticating,[.tick 5000,.act .expire],
    ((Action.request (.disconnect false 5 .deauth 3) :: sections 11).map .act),[.act .timer]]

theorem premature_timeout_assoc :
    (∃ t ∈ exec timedStep (started 0) associatedLate,
      t.sys.dev.ledger.log.length = 1 ∧ t.expiries = [⟨.assoc,4990,0,5000⟩]) ∧
    (∃ t ∈ exec timedStep (started 0) disconnectedLate, t.expiries = [⟨.disconnect,5000,0,5000⟩]) := by
  decide +kernel

end EspHosted.Mlme
