import EspHosted.MlmeReports

/-!
The association that is outstanding, against the thread that holds the wdev lock: which
sections begin one, which only end it, and where none is awaited.
-/

set_option autoImplicit false

namespace EspHosted.Mlme.Bss
open EspHosted EspHosted.Mlme

def live (x : AssocState) : Bool := (x.cmdPending || x.awaitingMlme) && x.cmdSeq != 0

/-- A section that begins no association and ends no command. -/
structure Fades (x x' : AssocState) : Prop where
  pending : x'.cmdPending = true → x.cmdPending = true
  awaiting : x'.awaitingMlme = true → x.awaitingMlme = true
  seq : x'.cmdSeq ≠ 0 → x.cmdSeq ≠ 0
  kept : x'.cmdSeq ≠ 0 → x.cmdPending = true → x'.cmdPending = true

variable {x x' : AssocState} {d d' : Device} {p p' : Pc}

theorem Fades.refl (x : AssocState) : Fades x x := ⟨id,id,id,fun _ => id⟩

theorem Fades.live (f : Fades x x') (h : live x' = true) : live x = true := by
  simp only [Bss.live,Bool.and_eq_true,Bool.or_eq_true,bne_iff_ne] at h ⊢
  exact ⟨h.1.imp f.pending f.awaiting,f.seq h.2⟩

theorem fades_cleared (x : AssocState) : Fades x {} :=
  ⟨fun h => (by cases h),fun h => (by cases h),fun h => absurd rfl h,fun h => absurd rfl h⟩

theorem fades_clearPending (d : Device) (op : ClearOp) : Fades d.assoc (clearPending d op).assoc := by
  cases op
  · exact fades_cleared _
  · exact .refl _

theorem fades_deliverAssoc (currentBss : Bool) (d : Device) (e : FrameEvent) :
    Fades d.assoc (espDeliverAssoc currentBss d e).assoc := by
  unfold espDeliverAssoc
  split
  · split
    · exact ⟨fun h => (by cases h),fun h => (by cases h),fun h => absurd rfl h,fun h => absurd rfl h⟩
    · split
      all_goals exact ⟨fun h => (by cases h),fun h => (by cases h),fun h => absurd rfl h,fun h => absurd rfl h⟩
  · exact .refl _

theorem fades_deliverAuth (d : Device) (e : FrameEvent) : Fades d.assoc (espDeliverAuth d e).assoc := by
  unfold espDeliverAuth
  split <;> exact .refl _

theorem fades_deliverDisconnect (d : Device) (e : DisconnectEvent) (b : Bool) :
    Fades d.assoc (espDeliverDisconnect d e b).assoc :=
  ⟨id,fun h => (by cases h),fun h => absurd rfl h,fun h => absurd rfl h⟩

theorem fades_stageEvent (d : Device) (alloc : Bool) (e : Event) :
    Fades d.assoc (espMlmeStageEvent d alloc e).assoc := by
  cases e with
  | authRx e =>
    simp only [espMlmeStageEvent]
    split
    · split <;> exact .refl _
    · exact .refl _
  | assocRx e =>
    simp only [espMlmeStageEvent]
    split
    · split
      · exact ⟨id,id,id,fun _ => id⟩
      · exact .refl _
    · exact ⟨fun h => (by cases h),fun h => (by cases h),fun h => absurd rfl h,fun h => absurd rfl h⟩
  | staDisconnect e =>
    simp only [espMlmeStageEvent]
    split
    · split <;> exact .refl _
    · exact .refl _

theorem fades_timeoutWork (d : Device) : Fades d.assoc (espMlmeTimeoutWork d).1.assoc := by
  simp only [espMlmeTimeoutWork]
  split
  · exact ⟨fun h => (by cases h),fun h => (by cases h),fun h => absurd rfl h,fun h => absurd rfl h⟩
  · exact .refl _

theorem fades_retireTake (d : Device) : Fades d.assoc (retireTake d).1.assoc := by
  simp only [retireTake]
  split
  · exact .refl _
  · exact ⟨id,fun h => (by cases h),id,fun _ => id⟩

theorem fades_retireReset (currentBss : Bool) (d : Device) : Fades d.assoc (retireReset currentBss d).assoc := by
  unfold retireReset
  split <;> exact .refl _

/-- Where the thread that holds the wdev lock has seen to it that no association is awaited. -/
def still : Pc → Bool
  | .retireReset _ | .authSet _ _ | .assocSet _ _ _ | .discClear .auth _ _ _ _ _ | .discSet _ _ _ _ | .begin _
  | .wait _ | .endFailed _ | .endFinal _ _ | .discTail _ _ _ | .syncClear _ => true
  | .prepare (.auth _) | .prepare (.assoc _ _) => true
  | .flush (.finish _ _) | .deliverAuth _ _ _ (.finish _ _) | .deliverAssoc _ _ (.finish _ _)
  | .flushEnd (.finish _ _) => true
  | .deliverDisconnect _ (.flush (.finish _ _)) | .deliverClear _ (.flush (.finish _ _)) => true
  | .deliverDisconnect _ (.retire _) | .deliverClear _ (.retire _) => true
  | _ => false

/-- The flags of an association against the thread that holds the wdev lock. -/
structure AssocAt (d : Device) (p : Pc) : Prop where
  pending : d.assoc.cmdPending = true → isAssoc p.cmd = true
  seq : isAssoc p.cmd = true → d.assoc.cmdSeq ≠ 0 → d.assoc.cmdPending = true
  still : still p = true → d.assoc.awaitingMlme = false

theorem AssocAt.fades (h : AssocAt d p) (f : Fades d.assoc d'.assoc) (hcmd : isAssoc p'.cmd = isAssoc p.cmd)
    (hstill : Bss.still p' = true → Bss.still p = true ∨ d'.assoc.awaitingMlme = false) : AssocAt d' p' where
  pending hp := hcmd ▸ h.pending (f.pending hp)
  seq hc hs := f.kept hs (h.seq (hcmd ▸ hc) (f.seq hs))
  still hp := by
    rcases hstill hp with hold | hnew
    · cases ha : d'.assoc.awaitingMlme with
      | false => rfl
      | true =>
        have := h.still hold
        rw [f.awaiting ha] at this
        cases this
    · exact hnew

theorem AssocAt.goto (h : AssocAt d p) (hcmd : isAssoc p'.cmd = isAssoc p.cmd)
    (hstill : Bss.still p' = true → Bss.still p = true) : AssocAt d p' :=
  h.fades (.refl _) hcmd (fun hp => .inl (hstill hp))

theorem AssocAt.not_live (h : AssocAt d p) (hcmd : isAssoc p.cmd = false) (hstill : Bss.still p = true) :
    live d.assoc = false := by
  have hp : d.assoc.cmdPending = false := by
    cases hp : d.assoc.cmdPending with
    | false => rfl
    | true =>
      have := h.pending hp
      rw [hcmd] at this
      cases this
  simp [live,hp,h.still hstill]

theorem AssocAt.retireTake {n : Entry} (h : AssocAt d (.retireTake n)) :
    (retireTake d).1.assoc.awaitingMlme = false := by
  have hp : d.assoc.cmdPending = false := by
    cases hp : d.assoc.cmdPending with
    | false => rfl
    | true => cases h.pending hp
  simp [Mlme.retireTake,hp]

theorem AssocAt.assocSet {seq : UInt16} {bssid : Bssid} {ie : Bytes} (h : AssocAt d (.assocSet seq bssid ie)) :
    AssocAt (cmdAssocRequest d seq bssid ie).1 (cmdAssocRequest d seq bssid ie).2 := by
  unfold cmdAssocRequest
  split
  · exact h.goto rfl (fun hp => by cases hp)
  · exact ⟨fun _ => rfl,fun _ _ => rfl,fun _ => h.still rfl⟩

theorem AssocAt.endFinal {c : Cmd} {success : Bool} (h : AssocAt d (.endFinal c success)) :
    AssocAt (espMlmeEnd d c success) (endFinalNext c success) := by
  cases c with
  | auth => cases success <;> exact h.fades (.refl _) rfl (fun hp => by cases hp)
  | assoc =>
    cases success <;>
    exact ⟨fun hp => (by cases hp),fun hc => (by cases hc),fun hp => (by cases hp)⟩
  | disconnect q subtype reason =>
    cases success
    · exact ⟨fun hp => (by cases h.pending hp),fun hc => (by cases hc),fun hp => (by cases hp)⟩
    · exact h.fades (.refl _) rfl (fun _ => .inl rfl)

/-- A matching event ends the association before `esp_mlme_end` does: the flags it leaves. -/
theorem live_endFlags {success : Bool} (h : AssocAt d (.endFinal .assoc success))
    (hl : live (espMlmeEnd d .assoc success).assoc = true) : live d.assoc = true := by
  have hseq : d.assoc.cmdSeq ≠ 0 := by
    simp only [live,espMlmeEnd,espMlmeEndFlags,Bool.and_eq_true,bne_iff_ne] at hl
    exact hl.2
  simp [live,h.seq rfl hseq,hseq]

theorem AssocAt.caller {k : Caller} (h : AssocAt d (.flushEnd k)) : AssocAt d k.next := by
  cases k with
  | work => exact h.goto rfl (fun hp => by cases hp)
  | finish c success => exact h.goto rfl (fun _ => rfl)

theorem AssocAt.deliverer {k : Deliverer} (h : AssocAt d (.deliverClear .auth k)) : AssocAt d k.next := by
  cases k with
  | flush k => cases k <;> exact h.goto rfl id
  | retire n => exact h.goto rfl id

theorem fades_wait (d : Device) (r : Response) (c : Cmd) : Fades d.assoc (waitAndDecodeCmdResp d r c).1.assoc := by
  cases c <;> cases r <;> exact .refl _

theorem fades_endFailed (d : Device) (c : Cmd) : Fades d.assoc (endFailed d c).assoc := by
  cases c with
  | auth => exact .refl _
  | assoc => exact ⟨id,fun h => (by cases h),id,fun _ => id⟩
  | disconnect q subtype reason => exact .refl _

theorem fades_disconnectTail (d : Device) (q : Request) (reason : UInt16) (subtype : DisconnectType) :
    Fades d.assoc (disconnectTail d q reason subtype).1.assoc := by
  cases subtype <;> exact .refl _

/-- Only `cmd_assoc_request` begins an association and only `esp_mlme_end` ends its command. -/
theorem fades_holder (d : Device) (i : Env) (p : Pc) (hset : ∀ seq bssid ie, p ≠ .assocSet seq bssid ie)
    (hend : ∀ success, p ≠ .endFinal .assoc success) : Fades d.assoc (runHolder d i p).1.assoc := by
  cases p with
  | idle => exact .refl _
  | retireTake n => exact fades_retireTake d
  | retireReset n => exact fades_retireReset i.currentBss d
  | prepare n =>
    simp only [runHolder]
    split <;> exact .refl _
  | authSet seq bssid =>
    simp only [runHolder,cmdAuthRequest]
    split <;> exact .refl _
  | assocSet seq bssid ie => exact absurd rfl (hset seq bssid ie)
  | discClear op =>
    cases op
    exacts [fades_cleared _,.refl _]
  | discSet seq bssid subtype reason => exact .refl _
  | begin c => cases c <;> exact ⟨id,id,id,fun _ => id⟩
  | wait c => exact fades_wait d i.response c
  | endFailed c => exact fades_endFailed d c
  | flush k => exact ⟨id,id,id,fun _ => id⟩
  | deliverAuth es a e k =>
    cases es with
    | nil => exact .refl _
    | cons x xs => exact fades_deliverAuth d x
  | deliverAssoc a e k =>
    cases a with
    | none => exact .refl _
    | some x => exact fades_deliverAssoc i.currentBss d x
  | deliverDisconnect e k =>
    simp only [runHolder]
    split
    · exact .refl _
    · exact fades_deliverDisconnect d e _
  | deliverClear op k =>
    cases op
    exacts [fades_cleared _,.refl _]
  | flushEnd k => exact .refl _
  | endFinal c success =>
    cases c with
    | auth => exact .refl _
    | assoc => exact absurd rfl (hend success)
    | disconnect q subtype reason => exact .refl _
  | failClear op => exact fades_clearPending d op
  | discTail q subtype reason => exact fades_disconnectTail d q reason subtype
  | syncClear op =>
    cases op
    exacts [fades_cleared _,.refl _]

theorem AssocAt.holder (h : AssocAt d p) (i : Env) : AssocAt (runHolder d i p).1 (runHolder d i p).2 := by
  cases p with
  | idle => exact h
  | retireTake n =>
    have ht := h.retireTake
    have hf := fades_retireTake d
    simp only [runHolder]
    split <;> exact h.fades hf rfl (fun _ => .inr ht)
  | retireReset n =>
    exact h.fades (fades_retireReset i.currentBss d) rfl (fun _ => .inl rfl)
  | prepare n =>
    simp only [runHolder]
    split
    · cases n
      · exact h.fades (.refl _) rfl (fun _ => .inl rfl)
      · exact h.fades (.refl _) rfl (fun _ => .inl rfl)
      · exact h.fades (.refl _) rfl (fun hp => by cases hp)
    · exact h.goto rfl (fun hp => by cases hp)
  | authSet seq bssid =>
    simp only [runHolder,cmdAuthRequest]
    split
    · exact h.goto rfl (fun hp => by cases hp)
    · exact h.fades (.refl _) rfl (fun _ => .inl rfl)
  | assocSet seq bssid ie => exact h.assocSet
  | discClear op isAp seq bssid subtype reason =>
    cases op with
    | assoc => exact h.fades (fades_cleared _) rfl (fun _ => .inr rfl)
    | auth => cases isAp <;> exact h.fades (.refl _) rfl (fun _ => .inl rfl)
  | discSet seq bssid subtype reason => exact h.fades (.refl _) rfl (fun _ => .inl rfl)
  | begin c => cases c <;> exact h.fades ⟨id,id,id,fun _ => id⟩ rfl (fun _ => .inl rfl)
  | wait c =>
    refine h.fades (fades_wait d i.response c) ?_ (fun _ => .inl rfl)
    cases c <;> cases hr : i.response <;> simp only [runHolder,waitAndDecodeCmdResp,hr] <;> rfl
  | endFailed c => exact h.fades (fades_endFailed d c) rfl (fun _ => .inl rfl)
  | flush k => cases k <;> exact h.fades ⟨id,id,id,fun _ => id⟩ rfl (fun hp => .inl hp)
  | deliverAuth es a e k =>
    cases es with
    | nil => cases k <;> exact h.goto rfl id
    | cons x xs => cases k <;> exact h.fades (fades_deliverAuth d x) rfl .inl
  | deliverAssoc a e k =>
    have hf := fades_holder d i (.deliverAssoc a e k) (fun _ _ _ hp => by cases hp) (fun _ hp => by cases hp)
    cases e with
    | none => cases k <;> exact h.fades hf rfl .inl
    | some x => cases k <;> exact h.fades hf rfl .inl
  | deliverDisconnect e k =>
    simp only [runHolder]
    split
    · refine AssocAt.deliverer (h.goto rfl ?_)
      cases k with
      | flush k => cases k <;> exact id
      | retire n => exact id
    · exact h.fades (fades_deliverDisconnect d e _) rfl (fun _ => .inr rfl)
  | deliverClear op k =>
    cases op with
    | assoc => exact h.fades (fades_cleared _) rfl (fun _ => .inr rfl)
    | auth =>
      have hd : AssocAt (espWifiClearAuthPending d) (.deliverClear .auth k) := h.fades (.refl _) rfl .inl
      exact hd.deliverer
  | flushEnd k =>
    have hd : AssocAt (runHolder d i (.flushEnd k)).1 (.flushEnd k) := h.fades (.refl _) rfl .inl
    exact hd.caller
  | endFinal c success => exact h.endFinal
  | failClear op => exact h.fades (fades_clearPending d op) rfl (fun hp => by cases hp)
  | discTail q subtype reason =>
    cases subtype with
    | deauth =>
      exact ⟨fun hp => (by cases h.pending hp),fun hc => (by cases hc),fun hp => (by cases hp)⟩
    | disassoc =>
      exact ⟨fun hp => (by cases h.pending hp),fun hc => (by cases hc),fun _ => h.still rfl⟩
  | syncClear op =>
    cases op with
    | assoc => exact h.fades (fades_cleared _) rfl (fun _ => .inl rfl)
    | auth => exact h.fades (.refl _) rfl (fun hp => by cases hp)

theorem fades_beside {m m' : System} {a : Action} (hs : Mlme.step m a = some m') (ha : ∀ i, a ≠ .holder i) :
    Fades m.dev.assoc m'.dev.assoc := by
  cases a with
  | holder i => exact absurd rfl (ha i)
  | event e =>
    simp only [Mlme.step] at hs
    split at hs
    · split at hs <;> cases hs <;> exact .refl _
    · cases hs
  | rx alloc =>
    simp only [Mlme.step,runRx] at hs
    split at hs <;> cases hs
    · exact fades_stageEvent _ _ _
    · exact .refl _
  | timer =>
    simp only [Mlme.step,runTimer] at hs
    split at hs <;> cases hs
    · exact fades_timeoutWork _
    · exact .refl _
    · exact fades_clearPending _ _
  | otherCommand =>
    cases hs
    exact .refl _
  | _ =>
    simp only [Mlme.step] at hs
    split at hs <;> cases hs
    exact .refl _

theorem AssocAt.beside {m m' : System} {a : Action} (h : AssocAt m.dev m.pc) (hs : Mlme.step m a = some m')
    (ha : ∀ i, a ≠ .holder i) : AssocAt m'.dev m'.pc := by
  have hd : AssocAt m'.dev m.pc := h.fades (fades_beside hs ha) rfl .inl
  cases a with
  | holder i => exact absurd rfl (ha i)
  | request n =>
    simp only [Mlme.step] at hs
    split at hs <;> cases hs
    rename_i hp
    rw [hp] at hd
    cases n <;> exact hd.goto rfl (fun hp => by cases hp)
  | event e =>
    simp only [Mlme.step] at hs
    split at hs
    · split at hs <;> cases hs <;> exact hd
    · cases hs
  | rx alloc =>
    simp only [Mlme.step,runRx] at hs
    split at hs <;> cases hs <;> exact hd
  | workLock =>
    simp only [Mlme.step] at hs
    split at hs <;> cases hs
    rename_i hp
    rw [hp.2] at hd
    exact hd.goto rfl (fun hp => by cases hp)
  | timer =>
    simp only [Mlme.step,runTimer] at hs
    split at hs <;> cases hs <;> exact hd
  | otherCommand =>
    cases hs
    exact hd
  | _ =>
    simp only [Mlme.step] at hs
    split at hs <;> cases hs
    exact hd

end EspHosted.Mlme.Bss
