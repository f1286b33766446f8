import EspHosted.MlmeAssoc

/-!
The BSS references of one STA interface: `priv->bss` with `esp_wifi_put_bss`,
`esp_wifi_ref_bss` and `esp_wifi_take_assoc_bss` of `host/esp_cmd.c`, beside the MLME
commands and events.
-/

set_option autoImplicit false

namespace EspHosted.Mlme.Bss
open EspHosted EspHosted.Mlme Run

/-- A call that is still to be made, with its section under `bss_lock`: `ref` is
`esp_wifi_ref_bss` from its `cfg80211_ref_bss` on and `store` the rest of it, `take` is
`esp_wifi_take_assoc_bss`, `clear` is `esp_wifi_put_bss` and `put` is `cfg80211_put_bss`. -/
inductive RefOp where
  | ref (b : Nat)
  | store (b : Nat)
  | take (b : Nat)
  | clear
  | put (b : Nat)
  deriving DecidableEq, Repr

/-- `priv->bss`, with the references that were taken from or given by cfg80211 and those
that were put or passed on, for each `struct cfg80211_bss`. -/
structure Refs where
  bss : Option Nat := none
  got : Nat → Nat := fun _ => 0
  gone : Nat → Nat := fun _ => 0

def bump (f : Nat → Nat) (b c : Nat) : Nat := if c = b then f c+1 else f c

def espWifiPutBss (r : Refs) : Refs × List RefOp :=
  ({r with bss := none},match r.bss with
    | none => []
    | some old => [.put old])

/-- The section of `esp_wifi_ref_bss`. -/
def espWifiRefBss (r : Refs) (b : Nat) : Refs × List RefOp :=
  match r.bss with
  | none => ({r with bss := some b},[])
  | some old => if old = b then (r,[.put b]) else ({r with bss := some b},[.put old])

/-- The reference that a successful `.assoc` transfers is counted here; `outstanding` is
`assoc_cmd_pending || assoc_awaiting_mlme`. -/
def espWifiTakeAssocBss (outstanding : Bool) (r : Refs) (b : Nat) : Refs × List RefOp :=
  let r := {r with got := bump r.got b}
  match r.bss with
  | none => if outstanding then ({r with bss := some b},[]) else (r,[.put b])
  | some old => if old = b then (r,[.put b]) else ({r with bss := some b},[.put old])

def runOp (outstanding : Bool) (r : Refs) : RefOp → Refs × List RefOp
  | .ref b => ({r with got := bump r.got b},[.store b])
  | .store b => espWifiRefBss r b
  | .take b => espWifiTakeAssocBss outstanding r b
  | .clear => espWifiPutBss r
  | .put b => ({r with gone := bump r.gone b},[])

/-- `CFG80211_RX_ASSOC_RESP` is given the stored BSS with its reference. -/
def passBss (r : Refs) : Refs :=
  match r.bss with
  | none => r
  | some b => {r with bss := none, gone := bump r.gone b}

structure Sys where
  mlme : System := {}
  refs : Refs := {}
  /-- `req->bss` of the operation under way. -/
  arg : Nat := 0
  needBssRef : Bool := false
  /-- What the holder of the wdev lock and `esp_mlme_timeout_work` call next. -/
  hold : List RefOp := []
  timerOps : List RefOp := []
  discTimedOut : Bool := false
  /-- `req->bss` of the association accepted last. -/
  asked : Nat := 0
  /-- That association was accepted while another BSS was stored, or a timeout has put its
  BSS since, and none has been stored after that. -/
  unsettled : Bool := false
  /-- The BSS passed to `CFG80211_RX_ASSOC_RESP` and the one that was asked for. -/
  passed : List (Option Nat × Nat) := []

def Sys.outstanding (s : Sys) : Bool := s.mlme.dev.assoc.cmdPending || s.mlme.dev.assoc.awaitingMlme

/-- The section that `cmd_assoc_request` begins an association in. -/
def Sys.accepts (s : Sys) : Bool :=
  match s.mlme.pc with
  | .assocSet _ _ _ => !s.outstanding
  | _ => false

/-- The section that `esp_deliver_assoc_from_skb` answers an association in. -/
def Sys.delivers (s : Sys) : Bool :=
  match s.mlme.pc with
  | .deliverAssoc (some e) _ _ => skbHasFlexFrame e && assocMatch s.mlme.dev.assoc e
  | _ => false

/-- What the thread that holds the wdev lock calls after a section. -/
def Sys.follow (s : Sys) : List RefOp :=
  match s.mlme.pc with
  | .assocSet _ _ _ => if s.accepts && s.refs.bss.isNone then [.ref s.arg] else []
  | .deliverDisconnect e _ => if (disconnectMatch s.mlme.dev e).isSome then [.clear] else []
  | .endFinal .auth true => [.ref s.arg]
  | .endFinal .assoc true => [.take s.arg]
  | .failClear .assoc => if s.needBssRef then [.clear] else []
  | .discTail _ .disassoc _ => [.clear]
  | _ => []

def Sys.holder (s : Sys) (m : System) : Sys :=
  if s.accepts then
    {s with
      mlme := m, hold := s.follow, needBssRef := s.refs.bss.isNone, asked := s.arg
      unsettled := s.refs.bss != none && s.refs.bss != some s.arg}
  else if s.delivers then
    {s with
      mlme := m, hold := s.follow, refs := passBss s.refs
      passed := s.passed ++ [(s.refs.bss,s.asked)]}
  else {s with mlme := m, hold := s.follow}

/-- A disconnect that timed out puts the BSS before its `esp_wifi_clear_assoc_pending`. -/
def Sys.timer (s : Sys) (m : System) : Sys :=
  let due := match s.mlme.timer with
    | .started => s.mlme.dev.disc.awaitingMlme
    | _ => s.discTimedOut
  match m.timer with
  | .clearing (.assoc :: .auth :: _) =>
    {s with mlme := m, discTimedOut := false, timerOps := if due then [.clear] else []}
  | _ => {s with mlme := m, discTimedOut := due}

inductive Act where
  /-- `b` is `req->bss` of a request. -/
  | mlme (a : Action) (b : Nat)
  | holderOp
  | timerOp
  deriving DecidableEq, Repr

/-- A thread first makes the calls its last section left. -/
def Sys.ready (s : Sys) : Action → Bool
  | .request _ => s.hold.isEmpty
  | .holder _ => s.hold.isEmpty
  | .workLock => s.hold.isEmpty
  | .timer => s.timerOps.isEmpty
  | _ => true

def Sys.after (s : Sys) (b : Nat) (m : System) : Action → Sys
  | .request _ => {s with mlme := m, arg := b}
  | .holder _ => s.holder m
  | .timer => s.timer m
  | _ => {s with mlme := m}

def RefOp.stores : RefOp → Bool
  | .store _ => true
  | .take _ => true
  | _ => false

def Sys.holderOp (s : Sys) (op : RefOp) (ops : List RefOp) : Sys :=
  let t := runOp s.outstanding s.refs op
  {s with refs := t.1, hold := t.2 ++ ops, unsettled := s.unsettled && !op.stores}

def Sys.timerOp (s : Sys) (op : RefOp) (ops : List RefOp) : Sys :=
  let t := runOp s.outstanding s.refs op
  {s with
    refs := t.1, timerOps := t.2 ++ ops
    unsettled := s.unsettled || (op == .clear && live s.mlme.dev.assoc)}

def step (s : Sys) : Act → Option Sys
  | .mlme a b => if s.ready a then (Mlme.step s.mlme a).map (fun m => s.after b m a) else none
  | .holderOp =>
    match s.hold with
    | [] => none
    | op :: ops => some (s.holderOp op ops)
  | .timerOp =>
    match s.timerOps with
    | [] => none
    | op :: ops => some (s.timerOp op ops)

def start (nextCmdSeq : UInt16) : Sys := {mlme := initial nextCmdSeq}

/-! References are neither lost nor put twice. -/

/-- The BSS a call has a reference of in hand. -/
def RefOp.held : RefOp → Option Nat
  | .store b => some b
  | .put b => some b
  | _ => none

def one (x : Option Nat) (c : Nat) : Nat := if x = some c then 1 else 0

def inHand : List RefOp → Nat → Nat
  | [], _ => 0
  | op :: ops, c => one op.held c+inHand ops c

/-- One reference to the stored BSS and one to each that a call has in hand. -/
def Balanced (r : Refs) (ops : List RefOp) : Prop := ∀ c, r.got c = r.gone c+one r.bss c+inHand ops c

variable {r : Refs} {op : RefOp} {ops ops' : List RefOp} {o : Bool}

theorem inHand_append (c : Nat) : inHand (ops ++ ops') c = inHand ops c+inHand ops' c := by
  induction ops with
  | nil => simp [inHand]
  | cons op ops ih =>
    simp only [List.cons_append,inHand,ih]
    omega

@[simp] theorem one_none (c : Nat) : one none c = 0 := rfl

theorem bump_apply (f : Nat → Nat) (b c : Nat) : bump f b c = f c+one (some b) c := by
  by_cases h : c = b
  · simp [bump,one,h]
  · have hb : b ≠ c := fun he => h he.symm
    simp [bump,one,h,hb]

theorem Balanced.comm (h : Balanced r (ops ++ ops')) : Balanced r (ops' ++ ops) := by
  intro c
  have := h c
  simp only [inHand_append] at this ⊢
  omega

theorem balanced_put (r : Refs) (c : Nat) :
    one (espWifiPutBss r).1.bss c+inHand (espWifiPutBss r).2 c = one r.bss c := by
  cases hb : r.bss <;> simp [espWifiPutBss,hb,inHand,RefOp.held]

theorem balanced_ref (r : Refs) (b c : Nat) :
    one (espWifiRefBss r b).1.bss c+inHand (espWifiRefBss r b).2 c =
      one r.bss c+one (some b) c := by
  cases hb : r.bss with
  | none => simp [espWifiRefBss,hb,inHand]
  | some old =>
    by_cases ho : old = b
    · simp [espWifiRefBss,hb,ho,inHand,RefOp.held]
    · simp [espWifiRefBss,hb,ho,inHand,RefOp.held,Nat.add_comm]

theorem balanced_take (o : Bool) (r : Refs) (b c : Nat) :
    one (espWifiTakeAssocBss o r b).1.bss c+inHand (espWifiTakeAssocBss o r b).2 c =
      one r.bss c+one (some b) c := by
  cases hb : r.bss with
  | none => cases o <;> simp [espWifiTakeAssocBss,hb,inHand,RefOp.held]
  | some old =>
    by_cases ho : old = b
    · simp [espWifiTakeAssocBss,hb,ho,inHand,RefOp.held]
    · simp [espWifiTakeAssocBss,hb,ho,inHand,RefOp.held,Nat.add_comm]

theorem espWifiRefBss_counts (r : Refs) (b : Nat) :
    (espWifiRefBss r b).1.got = r.got ∧ (espWifiRefBss r b).1.gone = r.gone := by
  unfold espWifiRefBss
  split
  · exact ⟨rfl,rfl⟩
  · split <;> exact ⟨rfl,rfl⟩

theorem espWifiTakeAssocBss_counts (o : Bool) (r : Refs) (b : Nat) :
    (espWifiTakeAssocBss o r b).1.got = bump r.got b ∧ (espWifiTakeAssocBss o r b).1.gone = r.gone := by
  simp only [espWifiTakeAssocBss]
  split
  · cases o <;> exact ⟨rfl,rfl⟩
  · split <;> exact ⟨rfl,rfl⟩

theorem Balanced.runOp (h : Balanced r (op :: ops)) :
    Balanced (runOp o r op).1 ((runOp o r op).2 ++ ops) := by
  intro c
  have hc := h c
  simp only [inHand_append,inHand] at hc ⊢
  cases op with
  | ref b =>
    simp only [Bss.runOp,inHand,RefOp.held,bump_apply,one_none] at hc ⊢
    omega
  | store b =>
    have hs := balanced_ref r b c
    obtain ⟨hgot,hgone⟩ := espWifiRefBss_counts r b
    simp only [Bss.runOp,RefOp.held,hgot,hgone] at hc ⊢
    omega
  | take b =>
    have hs := balanced_take o r b c
    obtain ⟨hgot,hgone⟩ := espWifiTakeAssocBss_counts o r b
    simp only [Bss.runOp,RefOp.held,hgot,hgone,bump_apply,one_none] at hc ⊢
    omega
  | clear =>
    have hs := balanced_put r c
    simp only [Bss.runOp,RefOp.held,one_none] at hc ⊢
    simp only [espWifiPutBss] at hs ⊢
    omega
  | put b =>
    simp only [Bss.runOp,inHand,RefOp.held,bump_apply] at hc ⊢
    omega

theorem Balanced.pass (h : Balanced r ops) : Balanced (passBss r) ops := by
  intro c
  have hc := h c
  cases hb : r.bss with
  | none => simpa [passBss,hb] using hc
  | some b =>
    simp only [passBss,hb,bump_apply,one_none] at hc ⊢
    omega

variable {s s' : Sys} {m : System}

theorem step_mlme {a : Action} {b : Nat} (hs : step s (.mlme a b) = some s') :
    s.ready a = true ∧ ∃ m, Mlme.step s.mlme a = some m ∧ s' = s.after b m a := by
  simp only [step] at hs
  split at hs
  · rename_i hready
    obtain ⟨m,hm,rfl⟩ := Option.map_eq_some_iff.mp hs
    exact ⟨hready,m,hm,rfl⟩
  · cases hs

theorem step_holderOp (hs : step s .holderOp = some s') :
    ∃ op ops, s.hold = op :: ops ∧ s' = s.holderOp op ops := by
  simp only [step] at hs
  split at hs
  · cases hs
  · cases hs
    exact ⟨_,_,by assumption,rfl⟩

theorem step_timerOp (hs : step s .timerOp = some s') :
    ∃ op ops, s.timerOps = op :: ops ∧ s' = s.timerOp op ops := by
  simp only [step] at hs
  split at hs
  · cases hs
  · cases hs
    exact ⟨_,_,by assumption,rfl⟩

/-- No call that `follow` leaves has a reference in hand. -/
theorem inHand_follow (s : Sys) (c : Nat) : inHand s.follow c = 0 := by
  unfold Sys.follow
  split
  all_goals first | rfl | (split <;> rfl)

theorem balanced_holder (m : System) (h : Balanced s.refs s.timerOps) :
    Balanced (s.holder m).refs ((s.holder m).hold ++ (s.holder m).timerOps) := by
  have hf : Balanced s.refs (s.follow ++ s.timerOps) := by
    intro c
    rw [inHand_append,inHand_follow,Nat.zero_add]
    exact h c
  unfold Sys.holder
  split
  · exact hf
  · split
    · exact hf.pass
    · exact hf

/-- Beside the MLME state a section of `esp_mlme_timeout_work` only decides on its calls. -/
theorem timer_cases (s : Sys) (m : System) (ht : s.timerOps = []) :
    ∃ due ops, s.timer m = {s with mlme := m, discTimedOut := due, timerOps := ops} ∧
      (ops = [] ∨ ops = [.clear]) := by
  simp only [Sys.timer]
  generalize (match s.mlme.timer with
    | .started => s.mlme.dev.disc.awaitingMlme
    | _ => s.discTimedOut) = due
  split
  · refine ⟨false,_,rfl,?_⟩
    cases due <;> simp
  · exact ⟨due,s.timerOps,rfl,.inl ht⟩

theorem balanced_timer (m : System) (h : Balanced s.refs s.hold) (ht : s.timerOps = []) :
    Balanced (s.timer m).refs ((s.timer m).hold ++ (s.timer m).timerOps) := by
  obtain ⟨due,ops,he,rfl | rfl⟩ := timer_cases s m ht
  · simpa [he] using h
  · intro c
    simpa [he,inHand_append,inHand,RefOp.held] using h c

theorem step_balanced (s : Sys) (a : Act) (s' : Sys) (h : Balanced s.refs (s.hold ++ s.timerOps))
    (hs : step s a = some s') : Balanced s'.refs (s'.hold ++ s'.timerOps) := by
  cases a with
  | mlme a b =>
    obtain ⟨hready,m,hm,rfl⟩ := step_mlme hs
    cases a with
    | holder i =>
      rw [List.isEmpty_iff.mp hready] at h
      exact balanced_holder m h
    | timer =>
      have ht := List.isEmpty_iff.mp hready
      rw [ht,List.append_nil] at h
      exact balanced_timer m h ht
    | _ => exact h
  | holderOp =>
    obtain ⟨op,ops,hop,rfl⟩ := step_holderOp hs
    rw [hop] at h
    have hr : Balanced (runOp s.outstanding s.refs op).1
        ((runOp s.outstanding s.refs op).2 ++ (ops ++ s.timerOps)) := Balanced.runOp h
    rwa [← List.append_assoc] at hr
  | timerOp =>
    obtain ⟨op,ops,hop,rfl⟩ := step_timerOp hs
    rw [hop] at h
    have hr : Balanced (runOp s.outstanding s.refs op).1
        ((runOp s.outstanding s.refs op).2 ++ (ops ++ s.hold)) := Balanced.runOp h.comm
    rw [← List.append_assoc] at hr
    exact hr.comm

/-! The BSS of the association that is outstanding. -/

/-- A call that the holder of the wdev lock may have left while an association for `b`
is outstanding. -/
def RefOp.Fits (b : Nat) : RefOp → Prop
  | .ref c => c = b
  | .store c => c = b
  | .take c => c = b
  | .clear => False
  | .put _ => True

structure Tracked (s : Sys) : Prop where
  flags : AssocAt s.mlme.dev s.mlme.pc
  arg : s.mlme.dev.assoc.cmdPending = true → s.arg = s.asked
  calls : live s.mlme.dev.assoc = true → ∀ op ∈ s.hold, op.Fits s.asked
  own : live s.mlme.dev.assoc = true → s.unsettled = false →
    s.refs.bss = some s.asked ∨ RefOp.ref s.asked ∈ s.hold ∨ RefOp.store s.asked ∈ s.hold
  other : live s.mlme.dev.assoc = true → s.unsettled = true → s.refs.bss ≠ some s.asked
  puts : ∀ op ∈ s.timerOps, op = .clear ∨ ∃ b, op = .put b

theorem Tracked.stored (h : Tracked s) (hl : live s.mlme.dev.assoc = true) (hh : s.hold = []) :
    s.refs.bss = some s.asked ↔ s.unsettled = false := by
  cases hu : s.unsettled with
  | true => simpa using h.other hl hu
  | false => simpa [hh] using h.own hl hu

theorem Tracked.fades (h : Tracked s) (hm : AssocAt m.dev m.pc) (hf : Fades s.mlme.dev.assoc m.dev.assoc) :
    Tracked {s with mlme := m} where
  flags := hm
  arg hp := h.arg (hf.pending hp)
  calls hl := h.calls (hf.live hl)
  own hl := h.own (hf.live hl)
  other hl := h.other (hf.live hl)
  puts := h.puts

theorem Tracked.timer (h : Tracked s) (hm : AssocAt m.dev m.pc) (hf : Fades s.mlme.dev.assoc m.dev.assoc)
    (ht : s.timerOps = []) : Tracked (s.timer m) := by
  have hd := h.fades hm hf
  obtain ⟨due,ops,he,hops⟩ := timer_cases s m ht
  rw [he]
  refine ⟨hd.flags,hd.arg,hd.calls,hd.own,hd.other,fun op hop => ?_⟩
  rcases hops with rfl | rfl
  · cases hop
  · exact .inl (List.mem_singleton.mp hop)

theorem Tracked.request {b : Nat} (h : Tracked s) (hm : AssocAt m.dev m.pc)
    (hf : Fades s.mlme.dev.assoc m.dev.assoc) (hp : s.mlme.pc = .idle) : Tracked {s with mlme := m, arg := b} where
  flags := hm
  arg hc := by
    have := h.flags.pending (hf.pending hc)
    rw [hp] at this
    cases this
  calls hl := h.calls (hf.live hl)
  own hl := h.own (hf.live hl)
  other hl := h.other (hf.live hl)
  puts := h.puts

theorem runOp_stores {b : Nat} (hs : op.stores = true) (hf : op.Fits b) (ho : o = true) :
    (runOp o r op).1.bss = some b := by
  cases op with
  | store c =>
    cases hf
    simp only [runOp,espWifiRefBss]
    split
    · rfl
    · rename_i old hb
      split
      · rename_i he
        rw [hb,he]
      · rfl
  | take c =>
    cases hf
    simp only [runOp,espWifiTakeAssocBss,ho,if_true]
    split
    · rfl
    · rename_i old hb
      split
      · rename_i he
        simp only at hb ⊢
        rw [hb,he]
      · rfl
  | _ => cases hs

theorem runOp_fits {b : Nat} (hf : op.Fits b) : ∀ op' ∈ (runOp o r op).2, op'.Fits b := by
  intro op' hop
  cases op with
  | ref c =>
    cases List.mem_singleton.mp hop
    exact hf
  | store c =>
    simp only [runOp,espWifiRefBss] at hop
    split at hop
    · cases hop
    · split at hop <;> cases List.mem_singleton.mp hop <;> trivial
  | take c =>
    simp only [runOp,espWifiTakeAssocBss] at hop
    split at hop
    · split at hop
      · cases hop
      · cases List.mem_singleton.mp hop
        trivial
    · split at hop <;> cases List.mem_singleton.mp hop <;> trivial
  | clear => cases hf
  | put c => cases hop

theorem live_outstanding (hl : live s.mlme.dev.assoc = true) : s.outstanding = true := by
  simp only [live,Bool.and_eq_true] at hl
  exact hl.1

theorem Tracked.holderOp (h : Tracked s) (hop : s.hold = op :: ops) : Tracked (s.holderOp op ops) := by
  have hfit : live s.mlme.dev.assoc = true → op.Fits s.asked := fun hl => h.calls hl op (by rw [hop]; simp)
  refine ⟨h.flags,h.arg,fun hl op' hm => ?_,fun hl hu => ?_,fun hl hu => ?_,h.puts⟩
  · rcases List.mem_append.mp hm with hnew | hold
    · exact runOp_fits (hfit hl) op' hnew
    · exact h.calls hl op' (by rw [hop]; exact List.mem_cons_of_mem _ hold)
  · have hf := hfit hl
    cases op with
    | store c => exact .inl (runOp_stores rfl hf (live_outstanding hl))
    | take c => exact .inl (runOp_stores rfl hf (live_outstanding hl))
    | ref c =>
      cases hf
      exact .inr (.inr (by simp [Sys.holderOp,runOp]))
    | clear => cases hf
    | put c =>
      have hun : s.unsettled = false := by simpa [Sys.holderOp,RefOp.stores] using hu
      have hown := h.own hl hun
      simpa [Sys.holderOp,runOp,hop] using hown
  · have hf := hfit hl
    simp only [Sys.holderOp,Bool.and_eq_true] at hu
    cases op with
    | ref c => exact h.other hl hu.1
    | put c => exact h.other hl hu.1
    | clear => cases hf
    | _ => cases hu.2

theorem Tracked.timerOp (h : Tracked s) (hop : s.timerOps = op :: ops) : Tracked (s.timerOp op ops) := by
  have hrest : ∀ op' ∈ ops, op' = .clear ∨ ∃ b, op' = .put b := fun op' hm =>
    h.puts op' (by rw [hop]; exact List.mem_cons_of_mem _ hm)
  rcases h.puts op (by rw [hop]; simp) with rfl | ⟨b,rfl⟩
  · refine ⟨h.flags,h.arg,h.calls,fun hl hu => ?_,fun _ _ => nofun,fun op' hm => ?_⟩
    · replace hl : live s.mlme.dev.assoc = true := hl
      simp [Sys.timerOp,hl] at hu
    · rcases List.mem_append.mp hm with hnew | hold
      · simp only [runOp,espWifiPutBss] at hnew
        split at hnew
        · cases hnew
        · exact .inr ⟨_,List.mem_singleton.mp hnew⟩
      · exact hrest op' hold
  · refine ⟨h.flags,h.arg,h.calls,fun hl hu => ?_,fun hl hu => ?_,hrest⟩
    · exact h.own hl (by simpa [Sys.timerOp] using hu)
    · exact h.other hl (by simpa [Sys.timerOp] using hu)

theorem accepts_assocSet (ha : s.accepts = true) : ∃ seq bssid ie, s.mlme.pc = .assocSet seq bssid ie := by
  unfold Sys.accepts at ha
  split at ha
  · exact ⟨_,_,_,by assumption⟩
  · cases ha

theorem delivers_live (hd : s.delivers = true) :
    ∃ e x k, s.mlme.pc = .deliverAssoc (some e) x k ∧ skbHasFlexFrame e = true ∧
      assocMatch s.mlme.dev.assoc e = true ∧ live s.mlme.dev.assoc = true := by
  unfold Sys.delivers at hd
  split at hd
  · rename_i e x k hp
    obtain ⟨hflex,hmatch⟩ := Bool.and_eq_true_iff.mp hd
    refine ⟨e,x,k,hp,hflex,hmatch,?_⟩
    simp only [assocMatch,Bool.and_eq_true] at hmatch
    exact Bool.and_eq_true_iff.mpr ⟨hmatch.1.1.1,hmatch.1.1.2⟩
  · cases hd

theorem Tracked.follow {i : Env} (h : Tracked s) (ha : s.accepts = false)
    (hl : live (runHolder s.mlme.dev i s.mlme.pc).1.assoc = true) :
    ∀ op ∈ s.follow, op.Fits s.asked := by
  have hflags := h.flags
  unfold Sys.follow
  split
  · simp [ha]
  · rename_i e k hp
    split
    · rename_i hmatch
      obtain ⟨b,hb⟩ := Option.isSome_iff_exists.mp hmatch
      simp [hp,runHolder,hb,espDeliverDisconnect,live] at hl
    · simp
  · rename_i hp
    rw [hp] at hl hflags
    have hlive : live s.mlme.dev.assoc = true := hl
    rw [hflags.not_live rfl rfl] at hlive
    cases hlive
  · rename_i hp
    rw [hp] at hl hflags
    have hlive := live_endFlags hflags hl
    have hseq : s.mlme.dev.assoc.cmdSeq ≠ 0 := by
      simp only [live,Bool.and_eq_true,bne_iff_ne] at hlive
      exact hlive.2
    intro op hop
    cases List.mem_singleton.mp hop
    exact h.arg (hflags.seq rfl hseq)
  · rename_i hp
    rw [hp] at hl
    cases hl
  · rename_i q reason hp
    rw [hp] at hl hflags
    have hlive : live s.mlme.dev.assoc = true := hl
    rw [hflags.not_live rfl rfl] at hlive
    cases hlive
  · simp

/-- Outside `cmd_assoc_request` no section begins an association. -/
theorem fades_unaccepted (i : Env) (ha : s.accepts = false) :
    Fades s.mlme.dev.assoc (runHolder s.mlme.dev i s.mlme.pc).1.assoc ∨
      ∃ success, s.mlme.pc = .endFinal .assoc success := by
  by_cases hset : ∃ seq bssid ie, s.mlme.pc = .assocSet seq bssid ie
  · obtain ⟨seq,bssid,ie,hp⟩ := hset
    have hout : s.outstanding = true := by simpa [Sys.accepts,hp] using ha
    simp only [Sys.outstanding] at hout
    left
    simp only [hp,runHolder,cmdAssocRequest,hout,if_true]
    exact .refl _
  · by_cases hend : ∃ success, s.mlme.pc = .endFinal .assoc success
    · exact .inr hend
    · left
      refine fades_holder s.mlme.dev i s.mlme.pc (fun seq bssid ie hp => ?_) (fun success hp => ?_)
      · exact hset ⟨seq,bssid,ie,hp⟩
      · exact hend ⟨success,hp⟩

theorem Tracked.live_before {i : Env} (h : Tracked s) (ha : s.accepts = false)
    (hl : live (runHolder s.mlme.dev i s.mlme.pc).1.assoc = true) : live s.mlme.dev.assoc = true := by
  rcases fades_unaccepted i ha with hf | ⟨success,hp⟩
  · exact hf.live hl
  · have hflags := h.flags
    rw [hp] at hl hflags
    exact live_endFlags hflags hl

theorem pending_before {i : Env} (ha : s.accepts = false)
    (hc : (runHolder s.mlme.dev i s.mlme.pc).1.assoc.cmdPending = true) :
    s.mlme.dev.assoc.cmdPending = true := by
  rcases fades_unaccepted i ha with hf | ⟨success,hp⟩
  · exact hf.pending hc
  · rw [hp] at hc
    cases hc

theorem Tracked.accept {i : Env} (h : Tracked s) (ha : s.accepts = true)
    (hm : m.dev = (runHolder s.mlme.dev i s.mlme.pc).1 ∧ m.pc = (runHolder s.mlme.dev i s.mlme.pc).2) :
    Tracked (s.holder m) := by
  have hflags := h.flags.holder i
  rw [← hm.1,← hm.2] at hflags
  obtain ⟨seq,bssid,ie,hp⟩ := accepts_assocSet ha
  have hfollow : s.follow = if s.refs.bss.isNone then [.ref s.arg] else [] := by simp [Sys.follow,hp,ha]
  simp only [Sys.holder,ha,if_true]
  refine ⟨hflags,fun _ => rfl,fun _ op hop => ?_,fun _ hu => ?_,fun _ hu => ?_,h.puts⟩
  · simp only [hfollow] at hop
    split at hop
    · cases List.mem_singleton.mp hop
      rfl
    · cases hop
  · cases hb : s.refs.bss with
    | none => exact .inr (.inl (by simp [hfollow,hb]))
    | some old => exact .inl (by simpa [hb] using hu)
  · simp only [Bool.and_eq_true,bne_iff_ne] at hu
    exact hu.2

theorem Tracked.deliver {i : Env} (h : Tracked s) (ha : s.accepts = false) (hd : s.delivers = true)
    (hm : m.dev = (runHolder s.mlme.dev i s.mlme.pc).1 ∧ m.pc = (runHolder s.mlme.dev i s.mlme.pc).2) :
    Tracked (s.holder m) := by
  have hflags := h.flags.holder i
  rw [← hm.1,← hm.2] at hflags
  obtain ⟨e,x,k,hp,hflex,hmatch,-⟩ := delivers_live hd
  have hdone : m.dev.assoc.cmdPending = false ∧ m.dev.assoc.cmdSeq = 0 := by
    rw [hm.1,hp]
    simp only [runHolder,espDeliverAssoc,hflex,hmatch,Bool.and_self,if_true]
    split
    · exact ⟨rfl,rfl⟩
    · split <;> exact ⟨rfl,rfl⟩
  have hdead : live m.dev.assoc = false := by simp [live,hdone.2]
  simp only [Sys.holder,ha,hd,if_true,Bool.false_eq_true,if_false]
  refine ⟨hflags,fun hc => ?_,fun hl => ?_,fun hl => ?_,fun hl => ?_,h.puts⟩
  · replace hc : m.dev.assoc.cmdPending = true := hc
    rw [hdone.1] at hc
    cases hc
  all_goals
    replace hl : live m.dev.assoc = true := hl
    rw [hdead] at hl
    cases hl

theorem Tracked.holder {i : Env} (h : Tracked s) (hh : s.hold = [])
    (hm : m.dev = (runHolder s.mlme.dev i s.mlme.pc).1 ∧ m.pc = (runHolder s.mlme.dev i s.mlme.pc).2) :
    Tracked (s.holder m) := by
  cases ha : s.accepts with
  | true => exact h.accept ha hm
  | false =>
    cases hd : s.delivers with
    | true => exact h.deliver ha hd hm
    | false =>
      have hflags := h.flags.holder i
      have hlive : live m.dev.assoc = true → live s.mlme.dev.assoc = true := fun hl =>
        h.live_before ha (hm.1 ▸ hl)
      rw [← hm.1,← hm.2] at hflags
      simp only [Sys.holder,ha,hd,Bool.false_eq_true,if_false]
      refine ⟨hflags,fun hc => ?_,fun hl => ?_,fun hl hu => ?_,fun hl hu => ?_,h.puts⟩
      · exact h.arg (pending_before ha (hm.1 ▸ hc))
      · exact h.follow ha (hm.1 ▸ hl)
      · exact .inl ((h.stored (hlive hl) hh).mpr hu)
      · exact h.other (hlive hl) hu

theorem step_holder {i : Env} (hs : Mlme.step s.mlme (.holder i) = some m) :
    m.dev = (runHolder s.mlme.dev i s.mlme.pc).1 ∧ m.pc = (runHolder s.mlme.dev i s.mlme.pc).2 := by
  simp only [Mlme.step] at hs
  split at hs
  · cases hs
  · cases hs
    exact ⟨rfl,rfl⟩

theorem step_tracked (s : Sys) (a : Act) (s' : Sys) (h : Tracked s) (hs : step s a = some s') : Tracked s' := by
  cases a with
  | mlme a b =>
    obtain ⟨hready,m,hm,rfl⟩ := step_mlme hs
    by_cases ha : ∃ i, a = .holder i
    · obtain ⟨i,rfl⟩ := ha
      exact h.holder (List.isEmpty_iff.mp hready) (step_holder hm)
    · have hne : ∀ i, a ≠ .holder i := fun i he => ha ⟨i,he⟩
      have hflags := h.flags.beside hm hne
      have hf := fades_beside hm hne
      cases a with
      | holder i => exact absurd rfl (hne i)
      | request n =>
        refine h.request hflags hf ?_
        simp only [Mlme.step] at hm
        split at hm
        · assumption
        · cases hm
      | timer => exact h.timer hflags hf (List.isEmpty_iff.mp hready)
      | _ => exact h.fades hflags hf
  | holderOp =>
    obtain ⟨op,ops,hop,rfl⟩ := step_holderOp hs
    exact h.holderOp hop
  | timerOp =>
    obtain ⟨op,ops,hop,rfl⟩ := step_timerOp hs
    exact h.timerOp hop

theorem tracked_start (n : UInt16) : Tracked (start n) :=
  ⟨⟨fun h => (by cases h),fun h => (by cases h),fun h => (by cases h)⟩,
   fun h => (by cases h),fun h => (by cases h),fun h => (by cases h),fun h => (by cases h),nofun⟩

/-- No association is answered that was accepted while another BSS was stored, or whose
BSS a disconnect timeout has put, before its own has been stored. -/
def Settled (s : Sys) : Act → Prop
  | .mlme (.holder _) _ => s.hold = [] → s.delivers = true → s.unsettled = false
  | _ => True

instance (s : Sys) : (a : Act) → Decidable (Settled s a)
  | .mlme (.holder _) _ => inferInstanceAs (Decidable (_ → _))
  | .mlme (.request _) _ | .mlme (.event _) _ | .mlme (.rx _) _ | .mlme .work _ | .mlme .workLock _
  | .mlme .expire _ | .mlme .timer _ | .mlme .otherCommand _ | .holderOp | .timerOp => isTrue trivial

def Passed (s : Sys) : Prop := ∀ p ∈ s.passed, p.1 = some p.2

theorem passed_after {a : Action} (b : Nat) (ha : ∀ i, a ≠ .holder i) : (s.after b m a).passed = s.passed := by
  cases a with
  | holder i => exact absurd rfl (ha i)
  | timer =>
    simp only [Sys.after,Sys.timer]
    split <;> rfl
  | _ => rfl

/-- A step passes its own BSS to each answer exactly if it meets the condition. -/
theorem passed_step (h : Tracked s) (hok : Passed s) {a : Act} (hs : step s a = some s') :
    Passed s' ↔ Settled s a := by
  cases a with
  | mlme a b =>
    obtain ⟨hready,m,hm,rfl⟩ := step_mlme hs
    by_cases ha : ∃ i, a = .holder i
    · obtain ⟨i,rfl⟩ := ha
      have hh : s.hold = [] := List.isEmpty_iff.mp hready
      simp only [Settled,hh,true_implies,Sys.after]
      cases hacc : s.accepts with
      | true =>
        obtain ⟨seq,bssid,ie,hp⟩ := accepts_assocSet hacc
        have hd : s.delivers = false := by simp [Sys.delivers,hp]
        simpa [Sys.holder,hacc,hd,Passed] using hok
      | false =>
        cases hd : s.delivers with
        | false => simpa [Sys.holder,hacc,hd,Passed] using hok
        | true =>
          obtain ⟨-,-,-,-,-,-,hl⟩ := delivers_live hd
          rw [← h.stored hl hh]
          simp only [Sys.holder,hacc,hd,Passed,Bool.false_eq_true,if_false,if_true]
          constructor
          · intro hp _
            exact hp (s.refs.bss,s.asked) (by simp)
          · intro hb p hp
            rcases List.mem_append.mp hp with hold | hnew
            · exact hok p hold
            · cases List.mem_singleton.mp hnew
              exact hb trivial
    · have hne : ∀ i, a ≠ .holder i := fun i he => ha ⟨i,he⟩
      have hset : Settled s (.mlme a b) := by
        cases a with
        | holder i => exact absurd rfl (hne i)
        | _ => trivial
      simp only [Passed,passed_after b hne]
      exact ⟨fun _ => hset,fun _ => hok⟩
  | holderOp =>
    obtain ⟨op,ops,hop,rfl⟩ := step_holderOp hs
    exact ⟨fun _ => trivial,fun _ => hok⟩
  | timerOp =>
    obtain ⟨op,ops,hop,rfl⟩ := step_timerOp hs
    exact ⟨fun _ => trivial,fun _ => hok⟩

theorem settled_of_none {a : Act} (hs : step s a = none) : Settled s a := by
  cases a with
  | mlme a b =>
    cases a with
    | holder i =>
      intro hh hd
      obtain ⟨e,x,k,hp,-⟩ := delivers_live hd
      simp [step,Sys.ready,hh,Mlme.step,hp] at hs
    | _ => trivial
  | holderOp => trivial
  | timerOp => trivial

/-- In every state of every run the driver has one reference to the stored BSS and one to
each that a call has in hand. Every association is answered with its own BSS exactly in
the runs that meet the condition. -/
theorem bss_references (n : UInt16) (acts : List Act) :
    (∀ s, Reached step (start n) acts s →
      ∀ c, s.refs.got c = s.refs.gone c+one s.refs.bss c+inHand (s.hold ++ s.timerOps) c) ∧
    ((∀ s, Reached step (start n) acts s → ∀ p ∈ s.passed, p.1 = some p.2) ↔
      Along step Settled (start n) acts) := by
  refine ⟨fun s hr => ?_,?_⟩
  · have hstart : Balanced (start n).refs ((start n).hold ++ (start n).timerOps) := fun _ => rfl
    exact reached_invariant (I := fun s => Balanced s.refs (s.hold ++ s.timerOps)) step_balanced hstart hr
  · have htracked : ∀ s, Reached step (start n) acts s → Tracked s := fun s hr =>
      reached_invariant step_tracked (tracked_start n) hr
    rw [← along_iff_reached (I := fun s => Tracked s ∧ Passed s) ?_ (fun s a => settled_of_none)
      ⟨tracked_start n,nofun⟩ acts]
    · exact ⟨fun h s hr => ⟨htracked s hr,h s hr⟩,fun h s hr => (h s hr).2⟩
    · rintro s a s' ⟨ht,hok⟩ hs
      rw [← passed_step ht hok hs]
      exact and_iff_right (step_tracked s a s' ht hs)

/-- Actions of the MLME model; `b` is `req->bss` of the requests among them. -/
def threads (b : Nat) (acts : List Action) : List Act := acts.map (fun a => .mlme a b)

/-- A reassociation for BSS 1, with none stored, whose answer comes during the command. -/
def reassociated : List Act :=
  List.flatten [threads 1 (.request (.assoc 6 []) :: sections 4),[.holderOp,.holderOp],
    threads 0 (sections 1 ++ arrives (.assocRx {seq := 1, bssid := 6}) ++ sections 6),[.holderOp,.holderOp]]

theorem bss_references_reassociated :
    (∀ s, Reached step (start 0) reassociated s → ∀ p ∈ s.passed, p.1 = some p.2) ∧
    ∃ s ∈ exec step (start 0) reassociated,
      s.passed = [(some 1,1)] ∧ s.refs.bss = none ∧ s.refs.got 1 = 2 ∧ s.refs.gone 1 = 2 :=
  ⟨(bss_references 0 reassociated).2.mpr (by decide +kernel),by decide +kernel⟩

/-- An authentication for BSS 1, whose answer comes during the command. -/
def authenticated : List Act :=
  List.flatten [threads 1 (.request (.auth 5) :: sections 5 ++ arrives (.authRx {seq := 1, bssid := 5}) ++ sections 6),
    [.holderOp,.holderOp],threads 0 ([.work,.workLock] ++ sections 5)]

/-- Then an association for BSS 2, answered during the command. -/
def answeredEarly : List Act :=
  List.flatten [authenticated,threads 2 (.request (.assoc 6 []) :: sections 5 ++
    arrives (.assocRx {seq := 2, bssid := 6}) ++ sections 4)]

/-- A disconnect times out, and its `esp_wifi_put_bss` runs inside the next association. -/
def putLate : List Act :=
  List.flatten [reassociated,
    threads 0 (.request (.disconnect false 6 .deauth 3) :: sections 12 ++ [.expire,.timer]),
    threads 1 (.request (.assoc 6 []) :: sections 4),[.holderOp,.holderOp,.timerOp],
    threads 0 (sections 1 ++ arrives (.assocRx {seq := 3, bssid := 6}) ++ sections 5)]

/-- The answer to an association for BSS 2 is passed on with BSS 1, and one with no BSS. -/
theorem bss_of_another :
    (∃ s ∈ exec step (start 0) answeredEarly, s.passed = [(some 1,2)]) ∧
    (∃ s ∈ exec step (start 0) putLate, s.passed = [(some 1,1),(none,1)]) := by
  decide +kernel

end EspHosted.Mlme.Bss
