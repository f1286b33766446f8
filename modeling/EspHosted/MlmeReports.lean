import EspHosted.Mlme
import EspHosted.Lib.Run

/-!
Every report to cfg80211 belongs to the outstanding request or the current connection,
and nothing is reported twice, along runs that avoid the sections where the staging
slots, the timer and the synchronous disassociation get in each other's way.
-/

set_option autoImplicit false

namespace EspHosted.Mlme
open EspHosted Run Ledger

/-! The numbers a report is about. -/

def Report.auth? : Report → Option Nat
  | .auth _ req => req.map Request.id
  | _ => none

def Report.attempt? : Report → Option Nat
  | .assocResp _ _ req => req.map Request.id
  | _ => none

def Report.request? : Report → Option Nat
  | .disconnected _ _ req => req.map Request.id
  | _ => none

/-- Both kinds of report end a connection. -/
def Report.conn? : Report → Option Nat
  | .deauth _ _ conn => conn.map Connection.id
  | .disconnected _ _ req => req.bind Request.conn
  | _ => none

def Report.Right : Report → Prop
  | .auth e req => ∃ q, req = some q ∧ e.seq ≠ 0 ∧ e.seq = q.seq ∧ e.bssid = q.bssid
  | .assocResp e _ req => ∃ q, req = some q ∧ e.seq ≠ 0 ∧ e.seq = q.seq ∧ e.bssid = q.bssid
  | .deauth _ e conn => ∃ c, conn = some c ∧ e.seq ≠ 0 ∧ e.seq = c.seq
  | .disconnected _ e req => ∃ q, req = some q ∧ ∀ x, e = some x → x.seq = q.seq

/-! Where the holder of the wdev lock is. -/

def Caller.cmd : Caller → Option Cmd
  | .work => none
  | .finish c _ => some c

def Deliverer.cmd : Deliverer → Option Cmd
  | .flush k => k.cmd
  | .retire _ => none

def Pc.cmd : Pc → Option Cmd
  | .begin c => some c
  | .wait c => some c
  | .endFailed c => some c
  | .flush k => k.cmd
  | .deliverAuth _ _ _ k => k.cmd
  | .deliverAssoc _ _ k => k.cmd
  | .deliverDisconnect _ k => k.cmd
  | .deliverClear _ k => k.cmd
  | .flushEnd k => k.cmd
  | .endFinal c _ => some c
  | .discTail q subtype reason => some (.disconnect q subtype reason)
  | _ => none

def isDisconnect : Option Cmd → Bool
  | some (.disconnect _ _ _) => true
  | _ => false

def isAssoc : Option Cmd → Bool
  | some .assoc => true
  | _ => false

def Pc.waiting : Pc → Option Request
  | .begin (.disconnect q _ _) => some q
  | .wait (.disconnect q _ _) => some q
  | _ => none

def Caller.sync : Caller → Option Request
  | .finish (.disconnect q .disassoc _) true => some q
  | _ => none

def Deliverer.sync : Deliverer → Option Request
  | .flush k => k.sync
  | .retire _ => none

def Pc.sync : Pc → Option Request
  | .flush k => k.sync
  | .deliverAuth _ _ _ k => k.sync
  | .deliverAssoc _ _ k => k.sync
  | .deliverDisconnect _ k => k.sync
  | .deliverClear _ k => k.sync
  | .flushEnd k => k.sync
  | .endFinal c success => (Caller.finish c success).sync
  | .discTail q .disassoc _ => some q
  | _ => none

def Pc.heldAssoc : Pc → Option FrameEvent
  | .deliverAuth _ a _ _ => a
  | .deliverAssoc a _ _ => a
  | _ => none

/-- The DISCONNECT that has been taken out of its slot and not yet been looked at. -/
def Pc.heldDisconnect : Pc → Option DisconnectEvent
  | .deliverAuth _ _ e _ => e
  | .deliverAssoc _ e _ => e
  | .deliverDisconnect e _ => some e
  | _ => none

def Pc.ended : Pc → Bool
  | .discTail _ _ _ => true
  | _ => false

def Pc.seq : Pc → Option UInt16
  | .discClear _ _ seq _ _ _ => some seq
  | .discSet seq _ _ _ => some seq
  | _ => none

structure DiscView where
  inCmd : Bool
  waiting : Option Request
  sync : Option Request
  ended : Bool

def Pc.discView (p : Pc) : DiscView := ⟨isDisconnect p.cmd,p.waiting,p.sync,p.ended⟩

structure AssocView where
  inCmd : Bool
  begun : Bool
  failing : Bool
  heldAssoc : Option FrameEvent
  heldDisconnect : Option DisconnectEvent

def Pc.begun : Pc → Bool
  | .begin _ => false
  | p => isAssoc p.cmd

def Pc.failing : Pc → Bool
  | .failClear .assoc => true
  | _ => false

def Pc.assocView (p : Pc) : AssocView :=
  ⟨isAssoc p.cmd,p.begun,p.failing,p.heldAssoc,p.heldDisconnect⟩

/-! What holds of each operation. -/

def AuthInv (x : AuthState) (g : Ledger Report) : Prop :=
  x.cmdSeq ≠ 0 → ∃ q, x.req = some q ∧ q.seq = x.cmdSeq ∧ q.bssid = x.bssid ∧ Fresh Report.auth? g q.id

def Deliverable (x : AssocState) (e : FrameEvent) : Prop :=
  skbHasFlexFrame e = true ∧ assocMatch x e = true

/-- A staged sequence number is that of the outstanding association, and the event
staged with it is there to use it up before any DISCONNECT is looked at. -/
structure AssocInv (x : AssocState) (v : AssocView) (g : Ledger Report) : Prop where
  owner : x.cmdSeq ≠ 0 → x.cmdPending = true ∨ x.awaitingMlme = true →
    ∃ q, x.req = some q ∧ q.seq = x.cmdSeq ∧ q.bssid = x.bssid ∧ Fresh Report.attempt? g q.id
  pending : x.cmdPending = true → v.inCmd = true
  outstanding : v.inCmd = true → x.cmdSeq ≠ 0 → x.cmdPending = true
  notified : v.begun = true → x.mlmeNotified = true → x.cmdSeq = 0
  staged : v.failing = false → x.stagedSeq ≠ 0 → x.stagedSeq = x.cmdSeq ∧
    ∃ e, (x.staged = some e ∨ v.heldAssoc = some e) ∧ Deliverable x e
  held : ∀ e, v.heldDisconnect = some e → x.stagedSeq ≠ 0 → e.seq = x.stagedSeq →
    ∃ a, v.heldAssoc = some a ∧ Deliverable x a

structure ConnInv (gen : UInt16) (conn : Option Connection) (g : Ledger Report) : Prop where
  current : gen ≠ 0 → ∃ c, conn = some c ∧ c.seq = gen ∧ Fresh Report.conn? g c.id
  gone : gen = 0 → conn = none

def Request.Fresh (q : Request) (g : Ledger Report) : Prop :=
  Ledger.Fresh Report.request? g q.id ∧ ∀ c, q.conn = some c → Ledger.Fresh Report.conn? g c

structure DiscInv (x : DisconnectState) (v : DiscView) (g : Ledger Report) : Prop where
  owner : x.cmdSeq ≠ 0 → x.cmdPending = true ∨ x.awaitingMlme = true ∨ v.inCmd = true →
    ∃ q, x.req = some q ∧ q.seq = x.cmdSeq ∧ q.Fresh g
  pending : x.cmdPending = true → v.inCmd = true
  awaiting : x.awaitingMlme = true → v.inCmd = false → x.cmdSeq ≠ 0
  localReq : v.inCmd = true → x.localReq = true → x.cmdSeq ≠ 0
  waiting : ∀ q, v.waiting = some q → v.inCmd = true ∧ x.cmdSeq ≠ 0 ∧ x.req = some q
  sync : ∀ q, v.sync = some q → v.inCmd = true ∧ q.Fresh g
  ended : v.ended = true → x.cmdPending = false

structure LogInv (g : Ledger Report) : Prop where
  right : ∀ r ∈ g.log, r.Right
  auths : Once Report.auth? g
  attempts : Once Report.attempt? g
  conns : Once Report.conn? g
  requests : Once Report.request? g

structure Inv (d : Device) (p : Pc) : Prop where
  auth : AuthInv d.auth d.ledger
  assoc : AssocInv d.assoc p.assocView d.ledger
  conn : ConnInv d.connGeneration d.conn d.ledger
  disc : DiscInv d.disc p.discView d.ledger
  log : LogInv d.ledger
  seq : ∀ n, p.seq = some n → n ≠ 0

/-! The ledger. -/

section Ledger

variable {g g' : Ledger Report} {r : Report}

theorem AuthInv.mono {x : AuthState} (h : AuthInv x g)
    (hf : ∀ id, Fresh Report.auth? g id → Fresh Report.auth? g' id) : AuthInv x g' := by
  intro hs
  obtain ⟨q,hq,h1,h2,h3⟩ := h hs
  exact ⟨q,hq,h1,h2,hf _ h3⟩

theorem AssocInv.mono {x : AssocState} {v : AssocView} (h : AssocInv x v g)
    (hf : ∀ id, Fresh Report.attempt? g id → Fresh Report.attempt? g' id) : AssocInv x v g' := by
  refine {h with owner := fun hs ho => ?_}
  obtain ⟨q,hq,h1,h2,h3⟩ := h.owner hs ho
  exact ⟨q,hq,h1,h2,hf _ h3⟩

theorem ConnInv.mono {gen : UInt16} {conn : Option Connection} (h : ConnInv gen conn g)
    (hf : ∀ id, Fresh Report.conn? g id → Fresh Report.conn? g' id) : ConnInv gen conn g' := by
  refine ⟨fun hg => ?_,h.gone⟩
  obtain ⟨c,hc,h1,h2⟩ := h.current hg
  exact ⟨c,hc,h1,hf _ h2⟩

theorem DiscInv.mono {x : DisconnectState} {v : DiscView} (h : DiscInv x v g)
    (hr : ∀ id, Fresh Report.request? g id → Fresh Report.request? g' id)
    (hc : ∀ id, Fresh Report.conn? g id → Fresh Report.conn? g' id) : DiscInv x v g' := by
  have hq : ∀ q : Request, q.Fresh g → q.Fresh g' :=
    fun q hf => ⟨hr _ hf.1,fun c hcn => hc c (hf.2 c hcn)⟩
  refine {h with owner := fun hs ho => ?_, sync := fun q hs => ⟨(h.sync q hs).1,hq q (h.sync q hs).2⟩}
  obtain ⟨q,hreq,h1,h2⟩ := h.owner hs ho
  exact ⟨q,hreq,h1,hq q h2⟩

theorem LogInv.issue (h : LogInv g) : LogInv g.issue :=
  ⟨h.right,h.auths.issue,h.attempts.issue,h.conns.issue,h.requests.issue⟩

theorem LogInv.report (h : LogInv g) (hr : r.Right)
    (ha : ∀ id, r.auth? = some id → Fresh Report.auth? g id)
    (ht : ∀ id, r.attempt? = some id → Fresh Report.attempt? g id)
    (hc : ∀ id, r.conn? = some id → Fresh Report.conn? g id)
    (hq : ∀ id, r.request? = some id → Fresh Report.request? g id) : LogInv (g.report r) := by
  refine ⟨fun x hx => ?_,h.auths.report ha,h.attempts.report ht,h.conns.report hc,h.requests.report hq⟩
  rcases List.mem_cons.1 hx with rfl | hx
  · exact hr
  · exact h.right x hx

theorem LogInv.disconnected {q : Request} {e : Option DisconnectEvent} (h : LogInv g) (reason : UInt16)
    (hf : q.Fresh g) (he : ∀ x, e = some x → x.seq = q.seq) :
    LogInv (g.report (.disconnected reason e (some q))) := by
  refine h.report ⟨q,rfl,he⟩ nofun nofun (fun id hid => hf.2 id hid) fun id hid => ?_
  obtain rfl : q.id = id := Option.some.inj hid
  exact hf.1

theorem Inv.issue {d : Device} {p : Pc} (h : Inv d p) : Inv {d with ledger := d.ledger.issue} p :=
  ⟨h.auth.mono fun _ hf => hf.issue,h.assoc.mono fun _ hf => hf.issue,h.conn.mono fun _ hf => hf.issue,
   h.disc.mono (fun _ hf => hf.issue) fun _ hf => hf.issue,h.log.issue,h.seq⟩

end Ledger

section Zero

variable {g : Ledger Report}

theorem authInv_zero {x : AuthState} (h : x.cmdSeq = 0) : AuthInv x g := fun hs => absurd h hs

theorem assocInv_zero {x : AssocState} {v : AssocView} (h : x.cmdSeq = 0) (hs : x.stagedSeq = 0)
    (hp : x.cmdPending = true → v.inCmd = true) : AssocInv x v g where
  owner := fun hx => absurd h hx
  pending := hp
  outstanding := fun _ hx => absurd h hx
  notified := fun _ _ => h
  staged := fun _ hx => absurd hs hx
  held := fun _ _ hx => absurd hs hx

theorem connInv_zero : ConnInv 0 none g := ⟨fun h => absurd rfl h,fun _ => rfl⟩

theorem discInv_zero {x : DisconnectState} {v : DiscView} (h : x.cmdSeq = 0)
    (hp : x.cmdPending = true → v.inCmd = true) (ha : x.awaitingMlme = false)
    (hl : v.inCmd = true → x.localReq = false) (hw : v.waiting = none) (hs : v.sync = none)
    (he : v.ended = true → x.cmdPending = false) : DiscInv x v g where
  owner := fun hx => absurd h hx
  pending := hp
  awaiting := fun hx => by rw [ha] at hx; cases hx
  localReq := fun hv hx => by rw [hl hv] at hx; cases hx
  waiting := fun q hq => by rw [hw] at hq; cases hq
  sync := fun q hq => by rw [hs] at hq; cases hq
  ended := he

theorem discInv_off {x : DisconnectState} {v : DiscView} (hp : x.cmdPending = false)
    (ha : x.awaitingMlme = false) (hv : v.inCmd = false) (hw : v.waiting = none) (hs : v.sync = none) :
    DiscInv x v g where
  owner := fun _ ho => absurd ho (by simp [hp,ha,hv])
  pending := fun hx => by rw [hp] at hx; cases hx
  awaiting := fun hx => by rw [ha] at hx; cases hx
  localReq := fun hx => by rw [hv] at hx; cases hx
  waiting := fun q hq => by rw [hw] at hq; cases hq
  sync := fun q hq => by rw [hs] at hq; cases hq
  ended := fun _ => hp

end Zero

/-! The sections that report. -/

theorem Inv.deliverAuth {d : Device} {p : Pc} (h : Inv d p) (e : FrameEvent) :
    Inv (espDeliverAuth d e) p := by
  unfold espDeliverAuth
  split
  · rename_i hm
    simp only [authMatch,Bool.and_eq_true,bne_iff_ne,beq_iff_eq] at hm
    obtain ⟨-,⟨hz,hseq⟩,hb⟩ := hm
    obtain ⟨q,hq,h1,h2,h3⟩ := h.auth hz
    refine ⟨authInv_zero rfl,h.assoc.mono fun _ hf => hf.report nofun,
      h.conn.mono fun _ hf => hf.report nofun,
      h.disc.mono (fun _ hf => hf.report nofun) fun _ hf => hf.report nofun,?_,h.seq⟩
    refine h.log.report ⟨q,hq,hseq ▸ hz,hseq.trans h1.symm,hb.symm.trans h2.symm⟩ ?_ nofun nofun nofun
    intro id hid
    obtain rfl : q.id = id := by simpa [Report.auth?,hq] using hid
    exact h3
  · exact h

theorem disconnectMatch_cases {d : Device} {p : Pc} {e : DisconnectEvent} {b : Bool} (h : Inv d p)
    (he : p.heldDisconnect = some e) (ha : p.heldAssoc = none) (hm : disconnectMatch d e = some b) :
    (b = true ∧ ∃ q, d.disc.req = some q ∧ e.seq = q.seq ∧ q.Fresh d.ledger) ∨
    (b = false ∧ ∃ c, d.conn = some c ∧ e.seq ≠ 0 ∧ e.seq = c.seq ∧ Fresh Report.conn? d.ledger c.id) := by
  unfold disconnectMatch at hm
  split at hm
  · rename_i hc
    simp only [Bool.and_eq_true,Bool.or_eq_true,bne_iff_ne,beq_iff_eq] at hc
    obtain ⟨⟨ho,hz⟩,hseq⟩ := hc
    obtain ⟨q,hq,h1,h2⟩ := h.disc.owner hz (ho.elim .inl fun hx => .inr (.inl hx))
    exact .inl ⟨(Option.some.inj hm).symm,q,hq,hseq.trans h1.symm,h2⟩
  split at hm
  · rename_i hc
    simp only [Bool.and_eq_true,Bool.or_eq_true,bne_iff_ne,beq_iff_eq] at hc
    rcases hc with ⟨hz,hseq⟩ | ⟨hz,hseq⟩
    · obtain ⟨c,hcn,h1,h2⟩ := h.conn.current hz
      exact .inr ⟨(Option.some.inj hm).symm,c,hcn,hseq ▸ hz,hseq.trans h1.symm,h2⟩
    · -- the association that was staged first has been looked at, so its number is used up
      obtain ⟨a,hheld,-⟩ := h.assoc.held e he hz hseq
      change p.heldAssoc = some a at hheld
      rw [ha] at hheld
      cases hheld
  split at hm
  · rename_i hc
    simp only [Bool.and_eq_true,Bool.or_eq_true,beq_iff_eq] at hc
    obtain ⟨⟨hl,ho⟩,hz⟩ := hc
    have hin : p.discView.inCmd = true := by
      rcases ho with ho | ho
      · exact h.disc.pending ho
      · by_contra hn
        exact h.disc.awaiting ho (by simpa using hn) hz
    exact absurd hz (h.disc.localReq hin hl)
  · cases hm

theorem Inv.deliverDisconnect {d : Device} {e : DisconnectEvent} {k : Deliverer} {b : Bool}
    (h : Inv d (.deliverDisconnect e k)) (hm : disconnectMatch d e = some b) (hs : k.sync = none) :
    Inv (espDeliverDisconnect d e b) (.deliverClear .assoc k) := by
  have hlog : LogInv (espDeliverDisconnect d e b).ledger := by
    rcases disconnectMatch_cases h rfl rfl hm with ⟨rfl,q,hq,hseq,hf⟩ | ⟨rfl,c,hc,hz,hseq,hf⟩
    · simp only [espDeliverDisconnect,hq,if_true]
      refine h.log.disconnected _ hf fun x hx => ?_
      cases hx
      exact hseq
    · refine h.log.report ⟨c,hc,hz,hseq⟩ nofun nofun ?_ nofun
      intro id hid
      obtain rfl : c.id = id := by simpa [Report.conn?,hc] using hid
      exact hf
  refine ⟨h.auth.mono fun _ hf => hf.report ?_,assocInv_zero rfl rfl h.assoc.pending,connInv_zero,
    discInv_zero rfl h.disc.pending rfl (fun _ => rfl) rfl hs nofun,hlog,nofun⟩
  cases b <;> exact nofun

/-- Once the held association has been looked at in vain it does not matter. -/
theorem AssocInv.looked {x : AssocState} {v : AssocView} {g : Ledger Report} (h : AssocInv x v g)
    (hn : ∀ a, v.heldAssoc = some a → ¬Deliverable x a) : AssocInv x {v with heldAssoc := none} g := by
  refine {h with staged := fun hf hs => ?_, held := fun e he hs hseq => ?_}
  · obtain ⟨hseq,e,he,hd⟩ := h.staged hf hs
    rcases he with he | he
    · exact ⟨hseq,e,.inl he,hd⟩
    · exact absurd hd (hn e he)
  · obtain ⟨a,ha,hd⟩ := h.held e he hs hseq
    exact absurd hd (hn a ha)

theorem AssocInv.release {x : AssocState} {v : AssocView} {g : Ledger Report} (h : AssocInv x v g) :
    AssocInv x {v with heldDisconnect := none} g :=
  {h with held := nofun}

theorem Inv.reportAssoc {d : Device} {p : Pc} {e : FrameEvent} (h : Inv d p)
    (hm : assocMatch d.assoc e = true) :
    AuthInv d.auth (d.ledger.report (.assocResp e d.assoc.reqIe d.assoc.req)) ∧
    ConnInv d.connGeneration d.conn (d.ledger.report (.assocResp e d.assoc.reqIe d.assoc.req)) ∧
    DiscInv d.disc p.discView (d.ledger.report (.assocResp e d.assoc.reqIe d.assoc.req)) ∧
    LogInv (d.ledger.report (.assocResp e d.assoc.reqIe d.assoc.req)) := by
  simp only [assocMatch,Bool.and_eq_true,Bool.or_eq_true,bne_iff_ne,beq_iff_eq] at hm
  obtain ⟨⟨⟨ho,hz⟩,hseq⟩,hb⟩ := hm
  obtain ⟨q,hq,h1,h2,h3⟩ := h.assoc.owner hz ho
  refine ⟨h.auth.mono fun _ hf => hf.report nofun,h.conn.mono fun _ hf => hf.report nofun,
    h.disc.mono (fun _ hf => hf.report nofun) fun _ hf => hf.report nofun,?_⟩
  refine h.log.report ⟨q,hq,hseq ▸ hz,hseq.trans h1.symm,hb.symm.trans h2.symm⟩ nofun ?_ nofun nofun
  intro id hid
  obtain rfl : q.id = id := by simpa [Report.attempt?,hq] using hid
  exact h3

theorem Inv.deliverAssoc {d : Device} {p p' : Pc} {e : FrameEvent} (h : Inv d p)
    (ha : p.heldAssoc = some e) (currentBss : Bool) (hd : p'.discView = p.discView)
    (hv : p'.assocView = {p.assocView with heldAssoc := none}) (hseq : p'.seq = none) :
    Inv (espDeliverAssoc currentBss d e) p' := by
  have hs : ∀ n, p'.seq = some n → n ≠ 0 := fun _ hn => absurd (hseq.symm.trans hn) nofun
  unfold espDeliverAssoc
  split
  · rename_i hm
    rw [Bool.and_eq_true] at hm
    obtain ⟨hauth,hconn,hdisc,hlog⟩ := h.reportAssoc hm.2
    rw [← hd] at hdisc
    split
    · refine ⟨hauth.mono fun _ hf => hf.issue,assocInv_zero rfl rfl nofun,⟨fun _ => ?_,fun hz => ?_⟩,
        hdisc.mono (fun _ hf => hf.issue) fun _ hf => hf.issue,hlog.issue,hs⟩
      · exact ⟨_,rfl,rfl,hlog.conns.fresh⟩
      · have hne := hm.2
        simp only [assocMatch,Bool.and_eq_true,bne_iff_ne] at hne
        exact absurd hz hne.1.1.2
    split
    · exact ⟨hauth,assocInv_zero rfl rfl nofun,hconn,hdisc,hlog,hs⟩
    · exact ⟨hauth,assocInv_zero rfl rfl nofun,connInv_zero,hdisc,hlog,hs⟩
  · rename_i hm
    refine ⟨h.auth,?_,h.conn,hd ▸ h.disc,h.log,hs⟩
    rw [hv]
    refine h.assoc.looked fun a hheld hdel => hm ?_
    obtain rfl : e = a := Option.some.inj (ha.symm.trans hheld)
    rw [hdel.1,hdel.2]
    rfl

theorem Inv.disassocTail {d : Device} {q : Request} {reason : UInt16}
    (h : Inv d (.discTail q .disassoc reason)) :
    Inv (disconnectTail d q reason .disassoc).1 (.syncClear .assoc) := by
  obtain ⟨-,hf⟩ := h.disc.sync q rfl
  exact ⟨h.auth.mono fun _ hf => hf.report nofun,h.assoc.mono fun _ hf => hf.report nofun,connInv_zero,
    discInv_zero rfl (fun hp => absurd (hp.symm.trans (h.disc.ended rfl)) nofun) rfl nofun rfl rfl nofun,
    h.log.disconnected reason hf nofun,nofun⟩

/-! The other sections of the holder. -/

theorem Inv.goto {d : Device} {p p' : Pc} (h : Inv d p) (hd : p'.discView = p.discView)
    (ha : p'.assocView = p.assocView) (hs : p'.seq = none) : Inv d p' :=
  ⟨h.auth,ha ▸ h.assoc,h.conn,hd ▸ h.disc,h.log,fun _ hn => absurd (hs.symm.trans hn) nofun⟩

theorem Inv.clearAuth {d : Device} {p : Pc} (h : Inv d p) : Inv (espWifiClearAuthPending d) p :=
  ⟨authInv_zero rfl,h.assoc,h.conn,h.disc,h.log,h.seq⟩

theorem Inv.clearAssoc {d : Device} {p : Pc} (h : Inv d p) : Inv (espWifiClearAssocPending d) p :=
  ⟨h.auth,assocInv_zero rfl rfl nofun,h.conn,h.disc,h.log,h.seq⟩

theorem Inv.clearPending {d : Device} {p : Pc} (h : Inv d p) (op : ClearOp) : Inv (clearPending d op) p := by
  cases op with
  | assoc => exact h.clearAssoc
  | auth => exact h.clearAuth

theorem Inv.deliverer {d : Device} {p : Pc} {k : Deliverer} (h : Inv d p)
    (hd : p.discView = (Pc.deliverClear .auth k).discView)
    (ha : {p.assocView with heldDisconnect := none} = (Pc.deliverClear .auth k).assocView) :
    Inv d k.next := by
  have hassoc := h.assoc.release
  have hdisc := h.disc
  rw [ha] at hassoc
  rw [hd] at hdisc
  cases k with
  | flush k => exact ⟨h.auth,hassoc,h.conn,hdisc,h.log,nofun⟩
  | retire n => exact ⟨h.auth,hassoc,h.conn,hdisc,h.log,nofun⟩

theorem Inv.retireTake {d : Device} {n : Entry} (h : Inv d (.retireTake n)) :
    Inv (retireTake d).1 (.retireReset n) ∧
    ∀ e, (Mlme.retireTake d).2 = some e → Inv (Mlme.retireTake d).1 (.deliverDisconnect e (.retire n)) := by
  have hp : d.assoc.cmdPending = false := Bool.eq_false_iff.2 fun hx => absurd (h.assoc.pending hx) nofun
  have hassoc : ∀ v : AssocView, v.inCmd = false → v.begun = false →
      AssocInv (Mlme.retireTake d).1.assoc v d.ledger := by
    intro v hv hb
    simp only [Mlme.retireTake,hp,if_false,Bool.false_eq_true]
    exact {
      owner := fun _ ho => absurd ho (by simp)
      pending := nofun
      outstanding := fun hx => absurd hx (by simp [hv])
      notified := fun hx => absurd hx (by simp [hb])
      staged := fun _ hx => absurd rfl hx
      held := fun _ _ hx => absurd rfl hx}
  exact ⟨⟨h.auth,hassoc _ rfl rfl,h.conn,h.disc,h.log,nofun⟩,
    fun e _ => ⟨h.auth,hassoc _ rfl rfl,h.conn,h.disc,h.log,nofun⟩⟩

theorem Inv.retireReset {d : Device} {n : Entry} (h : Inv d (.retireReset n)) (currentBss : Bool) :
    Inv (retireReset currentBss d) (.prepare n) := by
  have hp : d.disc.cmdPending = false := Bool.eq_false_iff.2 fun hx => absurd (h.disc.pending hx) nofun
  unfold Mlme.retireReset
  rw [if_neg (by simp [hp])]
  refine ⟨h.auth,h.assoc,?_,discInv_zero rfl h.disc.pending rfl nofun rfl rfl nofun,h.log,nofun⟩
  cases currentBss with
  | false => exact connInv_zero
  | true => exact h.conn

theorem Inv.prepare {d : Device} {n : Entry} (h : Inv d (.prepare n)) :
    Inv (prepareCommandRequest d n).1 (prepareCommandRequest d n).2 := by
  cases n with
  | auth bssid => exact ⟨h.auth,h.assoc,h.conn,h.disc,h.log,nofun⟩
  | assoc bssid ie => exact ⟨h.auth,h.assoc,h.conn,h.disc,h.log,nofun⟩
  | disconnect isAp bssid subtype reason =>
    refine ⟨h.auth,h.assoc,h.conn,h.disc,h.log,fun n hn => ?_⟩
    cases hn
    exact allocCmdSeq_ne_zero _

theorem Inv.authSet {d : Device} {seq : UInt16} {bssid : Bssid} (h : Inv d (.authSet seq bssid)) :
    Inv (cmdAuthRequest d seq bssid).1 (cmdAuthRequest d seq bssid).2 := by
  unfold cmdAuthRequest
  split
  · exact h.goto rfl rfl rfl
  · have hi := h.issue
    exact ⟨fun _ => ⟨_,rfl,rfl,rfl,h.log.auths.fresh⟩,hi.assoc,hi.conn,hi.disc,hi.log,nofun⟩

theorem Inv.assocSet {d : Device} {seq : UInt16} {bssid : Bssid} {ie : Bytes}
    (h : Inv d (.assocSet seq bssid ie)) :
    Inv (cmdAssocRequest d seq bssid ie).1 (cmdAssocRequest d seq bssid ie).2 := by
  unfold cmdAssocRequest
  split
  · exact h.goto rfl rfl rfl
  · rename_i hbusy
    have hi := h.issue
    have hs : d.assoc.stagedSeq = 0 := by
      by_contra hne
      obtain ⟨-,e,-,-,hm⟩ := h.assoc.staged rfl hne
      simp only [assocMatch,Bool.and_eq_true] at hm
      exact hbusy hm.1.1.1
    refine ⟨hi.auth,?_,hi.conn,hi.disc,hi.log,nofun⟩
    exact {
      owner := fun _ _ => ⟨_,rfl,rfl,rfl,h.log.attempts.fresh⟩
      pending := fun _ => rfl
      outstanding := fun _ _ => rfl
      notified := nofun
      staged := fun _ hx => absurd hs hx
      held := nofun}

theorem Inv.discSet {d : Device} {seq : UInt16} {bssid : Bssid} {subtype : DisconnectType}
    {reason : UInt16} (h : Inv d (.discSet seq bssid subtype reason)) :
    Inv (cmdDisconnectRequest d seq bssid subtype reason).1
      (cmdDisconnectRequest d seq bssid subtype reason).2 := by
  have hi := h.issue
  have hz : seq ≠ 0 := h.seq seq rfl
  have hf : (Request.mk d.ledger.nextId seq bssid (d.conn.map Connection.id)).Fresh d.ledger.issue := by
    refine ⟨h.log.requests.fresh,fun c hc => ?_⟩
    have hg : d.connGeneration ≠ 0 := by
      intro hg
      rw [h.conn.gone hg] at hc
      cases hc
    obtain ⟨x,hx,-,hxf⟩ := hi.conn.current hg
    change d.conn = some x at hx
    rw [hx] at hc
    cases hc
    exact hxf
  refine ⟨hi.auth,hi.assoc,hi.conn,?_,hi.log,nofun⟩
  exact {
    owner := fun _ _ => ⟨_,rfl,rfl,hf⟩
    pending := fun _ => rfl
    awaiting := fun _ hx => nomatch hx
    localReq := fun _ _ => hz
    waiting := fun q hq => ⟨rfl,hz,hq⟩
    sync := nofun
    ended := nofun}

theorem Inv.begin {d : Device} {c : Cmd} (h : Inv d (.begin c)) : Inv (espMlmeBegin d c) (.wait c) := by
  cases c with
  | auth => exact ⟨h.auth,h.assoc,h.conn,h.disc,h.log,nofun⟩
  | assoc => exact ⟨h.auth,{h.assoc with notified := nofun},h.conn,h.disc,h.log,nofun⟩
  | disconnect q subtype reason =>
    refine ⟨h.auth,h.assoc,h.conn,?_,h.log,nofun⟩
    exact {h.disc with
      owner := fun hs _ => h.disc.owner hs (.inr (.inr rfl))
      pending := fun _ => rfl
      awaiting := nofun
      ended := nofun}

theorem Inv.wait {d : Device} {c : Cmd} (h : Inv d (.wait c)) (r : Response) :
    Inv (waitAndDecodeCmdResp d r c).1 (waitAndDecodeCmdResp d r c).2 := by
  cases c with
  | auth =>
    simp only [waitAndDecodeCmdResp]
    split <;> exact h.goto rfl rfl rfl
  | assoc =>
    simp only [waitAndDecodeCmdResp]
    split <;> exact h.goto rfl rfl rfl
  | disconnect q subtype reason =>
    obtain ⟨-,hz,hreq⟩ := h.disc.waiting q rfl
    have hfresh : q.Fresh d.ledger := by
      obtain ⟨x,hx,-,hf⟩ := h.disc.owner hz (.inr (.inr rfl))
      rwa [Option.some.inj (hreq.symm.trans hx)]
    have hfail : DiscInv d.disc ⟨true,none,none,false⟩ d.ledger :=
      {h.disc with waiting := nofun, sync := nofun}
    cases r with
    | ok =>
      refine ⟨h.auth,h.assoc,h.conn,?_,h.log,nofun⟩
      refine {hfail with localReq := fun _ _ => hz, sync := fun x hx => ⟨rfl,?_⟩}
      cases subtype with
      | deauth => cases hx
      | disassoc =>
        cases hx
        exact hfresh
    | rejected => exact ⟨h.auth,h.assoc,h.conn,{hfail with localReq := nofun},h.log,nofun⟩
    | lost => exact ⟨h.auth,h.assoc,h.conn,hfail,h.log,nofun⟩

theorem Inv.endFailed {d : Device} {c : Cmd} (h : Inv d (.endFailed c)) :
    Inv (endFailed d c) (.flush (.finish c false)) := by
  cases c with
  | auth => exact ⟨authInv_zero rfl,h.assoc,h.conn,h.disc,h.log,nofun⟩
  | assoc =>
    refine ⟨h.auth,?_,h.conn,h.disc,h.log,nofun⟩
    exact {h.assoc with
      owner := fun hs ho => h.assoc.owner hs (.inl (ho.resolve_right nofun))
      notified := nofun
      staged := fun _ hx => absurd rfl hx
      held := nofun}
  | disconnect q subtype reason =>
    refine ⟨h.auth,h.assoc,h.conn,?_,h.log,nofun⟩
    cases subtype <;> exact {h.disc with localReq := nofun}

theorem Inv.flush {d : Device} {k : Caller} (h : Inv d (.flush k)) (cleanup : Bool) :
    Inv (flushTake cleanup d k).1 (flushTake cleanup d k).2 := by
  -- what was in the slot is held from here on
  have hslot : d.assoc.stagedSeq ≠ 0 → d.assoc.stagedSeq = d.assoc.cmdSeq ∧
      ∃ e, d.assoc.staged = some e ∧ Deliverable d.assoc e := by
    intro hs
    obtain ⟨hseq,e,he,hd⟩ := h.assoc.staged rfl hs
    exact ⟨hseq,e,he.resolve_right nofun,hd⟩
  refine ⟨h.auth,?_,h.conn,h.disc,h.log,nofun⟩
  refine {h.assoc with staged := fun _ hs => ?_, held := fun e _ hs _ => (hslot hs).2}
  obtain ⟨hseq,e,he,hd⟩ := hslot hs
  exact ⟨hseq,e,.inr he,hd⟩

theorem Inv.endAssoc {d : Device} {success : Bool} (h : Inv d (.endFinal .assoc success)) :
    Inv (espMlmeEnd d .assoc success) (endFinalNext .assoc success) := by
  have howner : ∀ v : AssocView, v.inCmd = false → v.begun = false → v.heldDisconnect = none →
      (v.failing = false → success = true) →
      AssocInv (espMlmeEnd d .assoc success).assoc v d.ledger := by
    intro v hv hb hh hf
    refine {
      owner := fun hs ho => h.assoc.owner hs (.inl (h.assoc.outstanding rfl hs))
      pending := nofun
      outstanding := fun hx => by rw [hv] at hx; cases hx
      notified := fun hx => by rw [hb] at hx; cases hx
      staged := fun hx hs => ?_
      held := fun e he => by rw [hh] at he; cases he}
    obtain ⟨hseq,e,he,hd⟩ := h.assoc.staged rfl hs
    have hz : d.assoc.cmdSeq ≠ 0 := hseq ▸ hs
    have hn : d.assoc.mlmeNotified = false :=
      Bool.eq_false_iff.2 fun hx => hz (h.assoc.notified rfl hx)
    refine ⟨hseq,e,.inl (he.resolve_right nofun),hd.1,?_⟩
    have hm := hd.2
    simp only [assocMatch,Bool.and_eq_true] at hm
    simpa [assocMatch,espMlmeEnd,espMlmeEndFlags,hf hx,hn,hz] using ⟨beq_iff_eq.1 hm.1.2,beq_iff_eq.1 hm.2⟩
  cases success with
  | false => exact ⟨h.auth,howner _ rfl rfl rfl nofun,h.conn,h.disc,h.log,nofun⟩
  | true => exact ⟨h.auth,howner _ rfl rfl rfl fun _ => rfl,h.conn,h.disc,h.log,nofun⟩

theorem Inv.endDisconnect {d : Device} {success : Bool} {q : Request} {subtype : DisconnectType}
    {reason : UInt16} (h : Inv d (.endFinal (.disconnect q subtype reason) success)) :
    Inv (espMlmeEnd d (.disconnect q subtype reason) success)
      (endFinalNext (.disconnect q subtype reason) success) := by
  cases success with
  | false => exact ⟨h.auth,h.assoc,h.conn,discInv_off rfl rfl rfl rfl rfl,h.log,nofun⟩
  | true =>
    refine ⟨h.auth,h.assoc,h.conn,?_,h.log,nofun⟩
    exact {
      owner := fun hs _ => h.disc.owner hs (.inr (.inr rfl))
      pending := nofun
      awaiting := fun _ hx => nomatch hx
      localReq := h.disc.localReq
      waiting := nofun
      sync := fun x hx => by cases subtype <;> exact h.disc.sync x hx
      ended := fun _ => rfl}

theorem Inv.endFinal {d : Device} {c : Cmd} {success : Bool} (h : Inv d (.endFinal c success)) :
    Inv (espMlmeEnd d c success) (endFinalNext c success) := by
  cases c with
  | auth => cases success <;> exact ⟨h.auth,h.assoc,h.conn,h.disc,h.log,nofun⟩
  | assoc => exact h.endAssoc
  | disconnect q subtype reason => exact h.endDisconnect

theorem Inv.deauthTail {d : Device} {q : Request} {reason : UInt16}
    (h : Inv d (.discTail q .deauth reason)) : Inv (disconnectTail d q reason .deauth).1 .idle := by
  have hp := h.disc.ended rfl
  refine ⟨h.auth,h.assoc,h.conn,?_,h.log,nofun⟩
  simp only [disconnectTail]
  split
  · rename_i hl
    exact {
      owner := fun hs _ => h.disc.owner hs (.inr (.inr rfl))
      pending := fun hx => absurd (hx.symm.trans hp) nofun
      awaiting := fun _ _ => h.disc.localReq rfl hl
      localReq := nofun
      waiting := nofun
      sync := nofun
      ended := nofun}
  · exact discInv_off hp rfl rfl rfl rfl

/-! Whole runs. -/

/-- The steps the reports survive: a successful DISASSOC flushes no DISCONNECT that
matches; no copy of a DISCONNECT fails during a disconnect command; an ASSOC is staged
while its association is outstanding, and not beside a taken DISCONNECT with its
number; and the timer finds no disconnect during a disconnect command or on a live
connection. -/
def Orderly (s : System) : Action → Prop
  | .holder _ =>
    match s.pc with
    | .deliverDisconnect e k => disconnectMatch s.dev e = none ∨ k.sync = none
    | _ => True
  | .rx alloc =>
    match s.rx with
    | .matched (.staDisconnect _) _ => alloc = true ∨ isDisconnect s.pc.cmd = false
    | .matched (.assocRx e) _ => alloc = false ∨ s.dev.assoc.staged.isSome = true ∨
        s.dev.assoc.cmdSeq = s.dev.assoc.stagedSeq ∨
        (skbHasFlexFrame e = true ∧ assocMatch s.dev.assoc e = true) ∧
        s.pc.heldDisconnect.map DisconnectEvent.seq ≠ some s.dev.assoc.cmdSeq
    | _ => True
  | .timer => s.timer = .started → s.dev.disc.awaitingMlme = true →
      isDisconnect s.pc.cmd = false ∧ s.dev.connGeneration = 0
  | _ => True

instance (s : System) (a : Action) : Decidable (Orderly s a) := by
  unfold Orderly
  split <;> try infer_instance
  all_goals split <;> infer_instance

theorem Inv.caller {d : Device} {k : Caller} (h : Inv d (.flushEnd k)) : Inv d k.next := by
  cases k with
  | work => exact h.goto rfl rfl rfl
  | finish c success =>
    refine ⟨h.auth,?_,h.conn,h.disc,h.log,nofun⟩
    exact h.assoc

theorem Inv.holder {d : Device} {p : Pc} (h : Inv d p) (i : Env)
    (hok : ∀ e k, p = .deliverDisconnect e k → disconnectMatch d e = none ∨ k.sync = none) :
    Inv (runHolder d i p).1 (runHolder d i p).2 := by
  cases p with
  | idle => exact h
  | retireTake n =>
    obtain ⟨h1,h2⟩ := h.retireTake
    simp only [runHolder]
    split
    · exact h1
    · rename_i e he
      exact h2 e he
  | retireReset n => exact h.retireReset i.currentBss
  | prepare n =>
    simp only [runHolder]
    split
    · exact h.prepare
    · exact h.goto rfl rfl rfl
  | authSet seq bssid => exact h.authSet
  | assocSet seq bssid ie => exact h.assocSet
  | discClear op isAp seq bssid subtype reason =>
    cases op with
    | assoc =>
      have hc := h.clearAssoc
      exact ⟨hc.auth,hc.assoc,hc.conn,hc.disc,hc.log,hc.seq⟩
    | auth =>
      have hc := h.clearAuth
      cases isAp with
      | true => exact hc.goto rfl rfl rfl
      | false => exact ⟨hc.auth,hc.assoc,hc.conn,hc.disc,hc.log,hc.seq⟩
  | discSet seq bssid subtype reason => exact h.discSet
  | begin c => exact h.begin
  | wait c => exact h.wait i.response
  | endFailed c => exact h.endFailed
  | flush k => exact h.flush i.cleanup
  | deliverAuth es a e k =>
    cases es with
    | nil => exact h.goto rfl rfl rfl
    | cons x xs => exact (h.deliverAuth x).goto rfl rfl rfl
  | deliverAssoc a e k =>
    cases a with
    | none => cases e <;> exact h.goto rfl rfl rfl
    | some x => cases e <;> exact h.deliverAssoc rfl i.currentBss rfl rfl rfl
  | deliverDisconnect e k =>
    simp only [runHolder]
    split
    · exact h.deliverer rfl rfl
    · rename_i b hm
      refine h.deliverDisconnect hm ((hok e k rfl).resolve_left fun hn => ?_)
      rw [hm] at hn
      cases hn
  | deliverClear op k =>
    cases op with
    | assoc => exact h.clearAssoc.goto rfl rfl rfl
    | auth => exact h.clearAuth.deliverer rfl rfl
  | flushEnd k =>
    have hc := h.caller
    exact ⟨hc.auth,hc.assoc,hc.conn,hc.disc,hc.log,hc.seq⟩
  | endFinal c success => exact h.endFinal
  | failClear op =>
    cases op with
    | assoc =>
      have hc := h.clearAssoc
      exact ⟨hc.auth,assocInv_zero rfl rfl nofun,hc.conn,hc.disc,hc.log,nofun⟩
    | auth => exact h.clearAuth.goto rfl rfl rfl
  | discTail q subtype reason =>
    cases subtype with
    | disassoc => exact h.disassocTail
    | deauth => exact h.deauthTail
  | syncClear op =>
    cases op with
    | assoc => exact h.clearAssoc.goto rfl rfl rfl
    | auth => exact h.clearAuth.goto rfl rfl rfl

theorem DiscInv.quiet {x : DisconnectState} {v : DiscView} {g : Ledger Report} (h : DiscInv x v g)
    (hv : v.inCmd = false) : v.waiting = none ∧ v.sync = none := by
  constructor
  · cases hw : v.waiting with
    | none => rfl
    | some q => exact absurd (hv.symm.trans (h.waiting q hw).1) nofun
  · cases hs : v.sync with
    | none => rfl
    | some q => exact absurd (hv.symm.trans (h.sync q hs).1) nofun

theorem AssocInv.stage {x : AssocState} {v : AssocView} {g : Ledger Report} {e : FrameEvent}
    (h : AssocInv x v g) (hslot : x.staged = none)
    (hok : x.cmdSeq = x.stagedSeq ∨
      Deliverable x e ∧ v.heldDisconnect.map DisconnectEvent.seq ≠ some x.cmdSeq) :
    AssocInv {x with staged := some e, stagedSeq := x.cmdSeq} v g := by
  rcases hok with hseq | ⟨hd,hheld⟩
  · refine {h with staged := fun hf hs => ⟨rfl,?_⟩, held := fun y hy hs he => ?_}
    · obtain ⟨-,a,ha,hd⟩ := h.staged hf (hseq ▸ hs)
      rw [hslot] at ha
      exact ⟨a,.inr (ha.resolve_left nofun),hd⟩
    · exact h.held y hy (hseq ▸ hs) (hseq ▸ he)
  · refine {h with staged := fun _ _ => ⟨rfl,e,.inl rfl,hd⟩, held := fun y hy _ he => ?_}
    rw [hy] at hheld
    exact absurd (congrArg some he) hheld

theorem Inv.stage {s : System} {e : Event} {busy alloc : Bool} (h : Inv s.dev s.pc)
    (hrx : s.rx = .matched e busy) (hok : Orderly s (.rx alloc)) :
    Inv (espMlmeStageEvent s.dev alloc e) s.pc := by
  simp only [Orderly,hrx] at hok
  cases e with
  | authRx e =>
    simp only [espMlmeStageEvent]
    split
    · split <;> exact ⟨h.auth,h.assoc,h.conn,h.disc,h.log,h.seq⟩
    · exact ⟨authInv_zero rfl,h.assoc,h.conn,h.disc,h.log,h.seq⟩
  | assocRx e =>
    simp only [espMlmeStageEvent]
    split
    · rename_i ha
      split
      · rename_i hn
        rw [Option.isNone_iff_eq_none] at hn
        rw [hn,ha] at hok
        refine ⟨h.auth,h.assoc.stage hn ?_,h.conn,h.disc,h.log,h.seq⟩
        exact (hok.resolve_left nofun).resolve_left nofun
      · exact h
    · exact ⟨h.auth,assocInv_zero rfl rfl nofun,h.conn,h.disc,h.log,h.seq⟩
  | staDisconnect e =>
    simp only [espMlmeStageEvent]
    split
    · split <;> exact ⟨h.auth,h.assoc,h.conn,h.disc,h.log,h.seq⟩
    · rename_i ha
      have hv : s.pc.discView.inCmd = false := hok.resolve_left ha
      obtain ⟨hw,hs⟩ := h.disc.quiet hv
      exact ⟨h.auth,h.assoc,h.conn,discInv_zero rfl nofun rfl
        (fun hx => absurd (hv.symm.trans hx) nofun) hw hs fun _ => rfl,h.log,h.seq⟩

theorem Inv.timeoutAuthAssoc {d : Device} {p : Pc} (h : Inv d p) :
    AuthInv (espMlmeTimeoutWork d).1.auth d.ledger ∧
    AssocInv (espMlmeTimeoutWork d).1.assoc p.assocView d.ledger := by
  constructor
  · simp only [espMlmeTimeoutWork]
    split
    · exact authInv_zero rfl
    · exact h.auth
  · simp only [espMlmeTimeoutWork]
    split
    · exact assocInv_zero rfl rfl nofun
    · exact h.assoc

theorem Inv.timeout {d : Device} {p : Pc} (h : Inv d p)
    (hok : d.disc.awaitingMlme = true → isDisconnect p.cmd = false ∧ d.connGeneration = 0) :
    Inv (espMlmeTimeoutWork d).1 p := by
  obtain ⟨hauth,hassoc⟩ := h.timeoutAuthAssoc
  cases hb : d.disc.awaitingMlme with
  | false =>
    have hd : (espMlmeTimeoutWork d).1.disc = d.disc := by simp [espMlmeTimeoutWork,hb]
    have hg : (espMlmeTimeoutWork d).1.ledger = d.ledger := by simp [espMlmeTimeoutWork,hb]
    exact ⟨hg ▸ hauth,hg ▸ hassoc,hg ▸ h.conn,hg ▸ hd ▸ h.disc,hg ▸ h.log,h.seq⟩
  | true =>
    obtain ⟨hv,hgen⟩ := hok hb
    obtain ⟨q,hq,-,hf⟩ := h.disc.owner (h.disc.awaiting hb hv) (.inr (.inl hb))
    obtain ⟨hw,hs⟩ := h.disc.quiet hv
    have hg : (espMlmeTimeoutWork d).1.ledger =
        d.ledger.report (.disconnected WLAN_REASON_UNSPECIFIED none (some q)) := by
      simp [espMlmeTimeoutWork,hb,hq]
    have hdisc : DiscInv (espMlmeTimeoutWork d).1.disc p.discView (espMlmeTimeoutWork d).1.ledger := by
      simp only [espMlmeTimeoutWork,hb,if_true]
      exact discInv_zero rfl nofun rfl (fun hx => absurd (hv.symm.trans hx) nofun) hw hs fun _ => rfl
    refine ⟨?_,?_,⟨fun hx => absurd hgen hx,h.conn.gone⟩,hdisc,
      hg ▸ h.log.disconnected _ hf nofun,h.seq⟩
    · rw [hg]
      exact hauth.mono fun _ hf => hf.report nofun
    · rw [hg]
      exact hassoc.mono fun _ hf => hf.report nofun

theorem step_inv (s : System) (a : Action) (s' : System) (h : Inv s.dev s.pc) (hok : Orderly s a)
    (hs : step s a = some s') : Inv s'.dev s'.pc := by
  cases a with
  | request n =>
    simp only [step] at hs
    split at hs
    · rename_i hpc
      cases hs
      rw [hpc] at h
      cases n <;> exact h.goto rfl rfl rfl
    · cases hs
  | holder i =>
    simp only [step] at hs
    split at hs
    · cases hs
    · cases hs
      refine h.holder i fun e k hpc => ?_
      simpa only [Orderly,hpc] using hok
  | event e =>
    simp only [step] at hs
    split at hs
    · split at hs <;> cases hs <;> exact h
    · cases hs
  | rx alloc =>
    simp only [step,runRx] at hs
    split at hs
    · cases hs
    · rename_i e busy hrx
      cases hs
      exact h.stage hrx hok
    · cases hs
      exact ⟨h.auth,h.assoc,h.conn,h.disc,h.log,h.seq⟩
  | work =>
    simp only [step] at hs
    split at hs
    · cases hs
      exact ⟨h.auth,h.assoc,h.conn,h.disc,h.log,h.seq⟩
    · cases hs
  | workLock =>
    simp only [step] at hs
    split at hs
    · rename_i hw
      cases hs
      rw [hw.2] at h
      exact h.goto rfl rfl rfl
    · cases hs
  | expire =>
    simp only [step] at hs
    split at hs
    · cases hs
      exact ⟨h.auth,h.assoc,h.conn,h.disc,h.log,h.seq⟩
    · cases hs
  | timer =>
    simp only [step,runTimer] at hs
    split at hs
    · cases hs
    · rename_i ht
      cases hs
      exact h.timeout (hok ht)
    · cases hs
      exact h
    · cases hs
      exact h.clearPending _
  | otherCommand =>
    cases hs
    exact ⟨h.auth,h.assoc,h.conn,h.disc,h.log,h.seq⟩

def initial (nextCmdSeq : UInt16) : System := {dev := {nextCmdSeq := nextCmdSeq}}

theorem inv_initial (n : UInt16) : Inv (initial n).dev (initial n).pc :=
  ⟨authInv_zero rfl,assocInv_zero rfl rfl nofun,connInv_zero,
   discInv_zero rfl nofun rfl nofun rfl rfl nofun,
   ⟨nofun,once_empty _,once_empty _,once_empty _,once_empty _⟩,nofun⟩

/-- Every report belongs to what is outstanding, and each authentication, association
attempt, connection and disconnect request is reported on at most once. -/
theorem reports_right_once (n : UInt16) (acts : List Action) (s : System)
    (hrun : exec step (initial n) acts = some s) (hok : Along step Orderly (initial n) acts) :
    (∀ r ∈ s.dev.ledger.log, r.Right) ∧
    (s.dev.ledger.log.filterMap Report.auth?).Nodup ∧
    (s.dev.ledger.log.filterMap Report.attempt?).Nodup ∧
    (s.dev.ledger.log.filterMap Report.conn?).Nodup ∧
    (s.dev.ledger.log.filterMap Report.request?).Nodup := by
  have h : Inv s.dev s.pc :=
    exec_invariant_along (I := fun s => Inv s.dev s.pc) step_inv hok (inv_initial n) hrun
  exact ⟨h.log.right,h.log.auths.1,h.log.attempts.1,h.log.conns.1,h.log.requests.1⟩

/-- `k` sections of the thread that holds the wdev lock, each with a good outcome. -/
def sections (k : Nat) : List Action := List.replicate k (.holder {})

/-- An event that is matched, staged and left to the holder of the lock. -/
def arrives (e : Event) : List Action := [.event e,.rx true,.rx true]

/-- An association whose answer arrives during the command. -/
def associated : List Action :=
  List.flatten [[.request (.assoc 5 [])],sections 5,arrives (.assocRx {seq := 1, bssid := 5}),sections 6]

/-- A disconnect request whose DISCONNECT arrives during the command. -/
def disconnected (subtype : DisconnectType) : List Action :=
  List.flatten [associated,[.request (.disconnect false 5 subtype 3)],sections 5,
    arrives (.staDisconnect {seq := 2})]

theorem reports_right_once_deauth :
    ∃ s ∈ exec step (initial 0) (disconnected .deauth ++ sections 10),
      s.dev.ledger.log.length = 2 ∧ (∀ r ∈ s.dev.ledger.log, r.Right) ∧
      (s.dev.ledger.log.filterMap Report.request?).Nodup := by
  have h : ∃ s ∈ exec step (initial 0) (disconnected .deauth ++ sections 10),
      s.dev.ledger.log.length = 2 := by decide +kernel
  obtain ⟨s,hs,hl⟩ := h
  obtain ⟨hr,-,-,-,hq⟩ := reports_right_once 0 _ s hs (by decide +kernel)
  exact ⟨s,hs,hl,hr,hq⟩

/-- The timer ends a disconnect request, then the connection it was made on ends. -/
def timedOut : List Action :=
  List.flatten [associated,[.request (.disconnect false 5 .deauth 3)],sections 12,[.expire,.timer],
    arrives (.staDisconnect {seq := 1}),[.work,.workLock],sections 4]

/-- The copy of a DISCONNECT fails during the command, and one of no request follows. -/
def copyFailed : List Action :=
  List.flatten [associated,[.request (.disconnect false 5 .deauth 3)],sections 5,
    [.event (.staDisconnect {seq := 2}),.rx false,.rx false],sections 7,
    arrives (.staDisconnect {seq := 77}),[.work,.workLock],sections 4]

/-- An ASSOC is matched, its association given up for a new one, and only then staged. -/
def stagedLate : List Action :=
  List.flatten [[.request (.assoc 5 [])],sections 11,
    [.event (.assocRx {seq := 1, bssid := 5}),.request (.assoc 6 []),.holder {},.rx true,.rx true],
    sections 4,arrives (.staDisconnect {seq := 1}),sections 5]

/-- A DISASSOC whose DISCONNECT is staged during the command is reported twice. So is
the end of a connection after a timeout; a failed copy leaves a request that any
DISCONNECT answers; and an ASSOC staged late lets through a DISCONNECT of no connection. -/
theorem reports_twice_disassoc :
    (∃ s ∈ exec step (initial 0) (disconnected .disassoc ++ sections 12),
      s.pc = .idle ∧ s.dev.ledger.log.filterMap Report.request? = [2,2]) ∧
    (∃ s ∈ exec step (initial 0) timedOut, s.dev.ledger.log.filterMap Report.conn? = [1,1]) ∧
    (∃ s ∈ exec step (initial 0) copyFailed,
      Report.disconnected 0 (some {seq := 77}) none ∈ s.dev.ledger.log) ∧
    (∃ s ∈ exec step (initial 0) stagedLate, Report.deauth false {seq := 1} none ∈ s.dev.ledger.log) := by
  decide +kernel

end EspHosted.Mlme
