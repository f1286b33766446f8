import EspHosted.SkbRx

/-!
The rules of an skb: it is looked at inside its bounds and while it is held, and it is given away or
freed once. Under them the receive path takes any bytes.
-/

set_option autoImplicit false

namespace EspHosted.SkbRx
open EspHosted Prog Packed

inductive Skb where
  /-- The bytes that were pulled off, and those from `skb->data` on. -/
  | held (front data : Bytes)
  /-- Freed, or with its new owner. -/
  | gone (dest : Option (Sink × Bytes))
  deriving DecidableEq, Repr

structure St where
  skb : Skb
  reports : List Report := []
  deriving DecidableEq, Repr

/-- What an action demands and does; `env` says which answers the surroundings may give. -/
def rules (env : Test → Bool → Prop) : Spec Act Ans St
  | .len, ⟨.held f d,rs⟩, Q => Q d.length ⟨.held f d,rs⟩
  | .peek off n, ⟨.held f d,rs⟩, Q => off+n ≤ (f ++ d).length ∧ Q (field off n (f ++ d)) ⟨.held f d,rs⟩
  | .read off n, ⟨.held f d,rs⟩, Q => off+n ≤ d.length ∧ Q (field off n d) ⟨.held f d,rs⟩
  | .writeHead off b, ⟨.held f d,rs⟩, Q =>
    f = [] ∧ off+b.length ≤ d.length ∧ Q () ⟨.held [] (d.take off ++ b ++ d.drop (off+b.length)),rs⟩
  | .write off b, ⟨.held f d,rs⟩, Q =>
    off+b.length ≤ d.length ∧ Q () ⟨.held f (d.take off ++ b ++ d.drop (off+b.length)),rs⟩
  | .pull n, ⟨.held f d,rs⟩, Q => n ≤ d.length ∧ Q () ⟨.held (f ++ d.take n) (d.drop n),rs⟩
  | .trim n, ⟨.held f d,rs⟩, Q => n ≤ d.length ∧ Q () ⟨.held f (d.take n),rs⟩
  | .push b, ⟨.held _ d,rs⟩, Q => Q () ⟨.held [] (b ++ d),rs⟩
  | .free, ⟨.held _ _,rs⟩, Q => Q () ⟨.gone none,rs⟩
  | .give k, ⟨.held _ d,rs⟩, Q => Q () ⟨.gone (some (k,d)),rs⟩
  | .ask t, s, Q => ∀ b, env t b → Q b s
  | .report r, s, Q => Q () {s with reports := s.reports ++ [r]}
  | .recover, s, Q => Q () s
  | _, ⟨.gone _,_⟩, _ => False

section primitives

variable {env : Test → Bool → Prop} {f d : Bytes} {rs : List Report} {s : St}

@[simp] theorem does_skbLen {Q : Nat → St → Prop} :
    wp (rules env) skbLen ⟨.held f d,rs⟩ Q ↔ Q d.length ⟨.held f d,rs⟩ := Iff.rfl

@[simp] theorem does_peek {off n : Nat} {Q : Bytes → St → Prop} :
    wp (rules env) (peek off n) ⟨.held f d,rs⟩ Q ↔
      off+n ≤ (f ++ d).length ∧ Q (field off n (f ++ d)) ⟨.held f d,rs⟩ := Iff.rfl

@[simp] theorem does_read {off n : Nat} {Q : Bytes → St → Prop} :
    wp (rules env) (read off n) ⟨.held f d,rs⟩ Q ↔ off+n ≤ d.length ∧ Q (field off n d) ⟨.held f d,rs⟩ := Iff.rfl

@[simp] theorem does_writeHead {off : Nat} {b : Bytes} {Q : Unit → St → Prop} :
    wp (rules env) (writeHead off b) ⟨.held f d,rs⟩ Q ↔
      f = [] ∧ off+b.length ≤ d.length ∧ Q () ⟨.held [] (d.take off ++ b ++ d.drop (off+b.length)),rs⟩ := Iff.rfl

@[simp] theorem does_write {off : Nat} {b : Bytes} {Q : Unit → St → Prop} :
    wp (rules env) (write off b) ⟨.held f d,rs⟩ Q ↔
      off+b.length ≤ d.length ∧ Q () ⟨.held f (d.take off ++ b ++ d.drop (off+b.length)),rs⟩ := Iff.rfl

@[simp] theorem does_skbPull {n : Nat} {Q : Unit → St → Prop} :
    wp (rules env) (skbPull n) ⟨.held f d,rs⟩ Q ↔ n ≤ d.length ∧ Q () ⟨.held (f ++ d.take n) (d.drop n),rs⟩ := Iff.rfl

@[simp] theorem does_skbTrim {n : Nat} {Q : Unit → St → Prop} :
    wp (rules env) (skbTrim n) ⟨.held f d,rs⟩ Q ↔ n ≤ d.length ∧ Q () ⟨.held f (d.take n),rs⟩ := Iff.rfl

@[simp] theorem does_skbPush {b : Bytes} {Q : Unit → St → Prop} :
    wp (rules env) (skbPush b) ⟨.held f d,rs⟩ Q ↔ Q () ⟨.held [] (b ++ d),rs⟩ := Iff.rfl

@[simp] theorem does_kfreeSkb {Q : Unit → St → Prop} :
    wp (rules env) kfreeSkb ⟨.held f d,rs⟩ Q ↔ Q () ⟨.gone none,rs⟩ := Iff.rfl

@[simp] theorem does_kfreeSkb_gone {dest : Option (Sink × Bytes)} {Q : Unit → St → Prop} :
    wp (rules env) kfreeSkb ⟨.gone dest,rs⟩ Q ↔ False := Iff.rfl

@[simp] theorem does_give {k : Sink} {Q : Unit → St → Prop} :
    wp (rules env) (give k) ⟨.held f d,rs⟩ Q ↔ Q () ⟨.gone (some (k,d)),rs⟩ := Iff.rfl

@[simp] theorem does_ask {t : Test} {Q : Bool → St → Prop} :
    wp (rules env) (ask t) s Q ↔ ∀ b, env t b → Q b s := Iff.rfl

@[simp] theorem does_report {r : Report} {Q : Unit → St → Prop} :
    wp (rules env) (report r) s Q ↔ Q () {s with reports := s.reports ++ [r]} := Iff.rfl

@[simp] theorem does_recover {Q : Unit → St → Prop} : wp (rules env) recover s Q ↔ Q () s := Iff.rfl

end primitives

theorem rules_mono (env : Test → Bool → Prop) : (rules env).Mono := by
  rintro a ⟨skb,rs⟩ Q Q' hQ h
  cases a with
  | ask t => exact fun b hb => hQ _ _ (h b hb)
  | report r => exact hQ _ _ h
  | recover => exact hQ _ _ h
  | len => cases skb with
    | held f d => exact hQ _ _ h
    | gone dest => exact h.elim
  | peek off n => cases skb with
    | held f d => exact ⟨h.1,hQ _ _ h.2⟩
    | gone dest => exact h.elim
  | read off n => cases skb with
    | held f d => exact ⟨h.1,hQ _ _ h.2⟩
    | gone dest => exact h.elim
  | writeHead off b => cases skb with
    | held f d => exact ⟨h.1,h.2.1,hQ _ _ h.2.2⟩
    | gone dest => exact h.elim
  | write off b => cases skb with
    | held f d => exact ⟨h.1,hQ _ _ h.2⟩
    | gone dest => exact h.elim
  | pull n => cases skb with
    | held f d => exact ⟨h.1,hQ _ _ h.2⟩
    | gone dest => exact h.elim
  | trim n => cases skb with
    | held f d => exact ⟨h.1,hQ _ _ h.2⟩
    | gone dest => exact h.elim
  | push b => cases skb with
    | held f d => exact hQ _ _ h
    | gone dest => exact h.elim
  | free => cases skb with
    | held f d => exact hQ _ _ h
    | gone dest => exact h.elim
  | give k => cases skb with
    | held f d => exact hQ _ _ h
    | gone dest => exact h.elim

variable {env : Test → Bool → Prop} {f d : Bytes} {rs : List Report}

/-- The skb is freed or given away as `ok` says, once and as the last thing that is done with it. -/
def Ends (env : Test → Bool → Prop) (ok : Sink → Bytes → Prop) (p : Rx Unit) (f d : Bytes) : Prop :=
  ∀ rs, wp (rules env) p ⟨.held f d,rs⟩ fun _ s => s.skb = .gone none ∨ ∃ k b, ok k b ∧ s.skb = .gone (some (k,b))

def Looks {α : Type} (env : Test → Bool → Prop) (p : Rx α) (f d : Bytes) : Prop :=
  ∀ rs, wp (rules env) p ⟨.held f d,rs⟩ fun _ s => s.skb = .held f d

theorem Looks.wp {α : Type} {p : Rx α} {Q : α → St → Prop} (h : Looks env p f d)
    (hQ : ∀ x rs, Q x ⟨.held f d,rs⟩) : wp (rules env) p ⟨.held f d,rs⟩ Q :=
  wp_mono (rules_mono env) (fun x s hs => by obtain ⟨skb,rs⟩ := s; cases hs; exact hQ x rs) (h rs)

theorem espMlmeStageEvent_looks (code : UInt8) : Looks env (espMlmeStageEvent code) f d := by
  intro rs
  simp [espMlmeStageEvent]

theorem processScanResultEvent_looks : Looks env processScanResultEvent f d := by
  intro rs
  simp [processScanResultEvent,skbHasFlexFrame]
  simp only [eventHeaderSize,scanFrameOffset,fixedParamsSize]
  grind

theorem processAuthEvent_looks : Looks env processAuthEvent f d := by
  intro rs
  simp [processAuthEvent]
  intro _ hn
  exact ⟨hn,fun _ _ => espMlmeStageEvent_looks _ rs⟩

theorem processAssocEvent_looks : Looks env processAssocEvent f d := by
  intro rs
  simp [processAssocEvent]
  intro hn
  exact ⟨hn,fun _ _ => espMlmeStageEvent_looks _ rs⟩

theorem processDisconnectEvent_looks : Looks env processDisconnectEvent f d := by
  intro rs
  simp [processDisconnectEvent]
  intro hn
  exact ⟨hn,fun _ => espMlmeStageEvent_looks _ rs⟩

theorem processApMgmtRx_looks : Looks env processApMgmtRx f d := by
  intro rs
  simp [processApMgmtRx,skbHasFlexFrame]
  grind

theorem processMgmtTxStatusEvent_looks : Looks env processMgmtTxStatusEvent f d := by
  intro rs
  simp [processMgmtTxStatusEvent,skbHasFlexFrame]
  grind

theorem looks_pure {α : Type} (x : α) : Looks env (pure x : Rx α) f d := fun _ => rfl

theorem processCmdEvent_looks : Looks env processCmdEvent f d := by
  intro rs
  simp only [processCmdEvent,wp_bind,does_skbLen,wp_ite,wp_pure,does_read]
  refine ⟨fun _ => trivial,fun hn => ⟨by omega,?_⟩⟩
  refine ⟨fun _ => processScanResultEvent_looks rs,fun _ => ⟨fun _ => processAssocEvent_looks rs,fun _ => ?_⟩⟩
  refine ⟨fun _ => processDisconnectEvent_looks rs,fun _ => ⟨fun _ => processAuthEvent_looks rs,fun _ => ?_⟩⟩
  exact ⟨fun _ => processApMgmtRx_looks rs,fun _ => ⟨fun _ => processMgmtTxStatusEvent_looks rs,fun _ => trivial⟩⟩

@[simp] theorem does_trimTo {len : Nat} {Q : Unit → St → Prop} :
    wp (rules env) (trimTo len) ⟨.held f d,rs⟩ Q ↔ Q () ⟨.held f (d.take len),rs⟩ := by
  by_cases h : len < d.length
  · have hle : len ≤ d.length := by omega
    simp [trimTo,hle,h,Nat.not_le.mpr h]
  · have hd : d.take len = d := List.take_of_length_le (by omega)
    simp only [trimTo,wp_bind,does_skbLen,wp_ite,wp_pure,h,hd,false_imp_iff,not_false_iff,true_imp_iff,true_and]

theorem espRcpSessionAck_looks : Looks env espRcpSessionAck f d := by
  intro rs
  simp [espRcpSessionAck]
  omega

/-- Induction on the fuel: what is left lies inside the skb, and every turn moves to the right of what it read. -/
theorem legacyTlvs_looks (fuel pos left : Nat) (ext : Option Nat) (hin : pos+left ≤ d.length) :
    Looks env (legacyTlvs fuel pos left ext) f d := by
  induction fuel generalizing pos left ext with
  | zero => exact looks_pure _
  | succ fuel ih =>
    intro rs
    simp only [legacyTlvs,wp_bind,wp_ite,wp_pure,does_read]
    refine ⟨fun _ => trivial,fun hl => ⟨by omega,fun _ => trivial,fun htag => ⟨fun hcap => ⟨fun _ => trivial,fun _ => ?_⟩,fun _ => ?_⟩⟩⟩
    · exact ⟨by omega,ih _ _ _ (by omega) rs⟩
    · exact ih _ _ _ (by omega) rs

theorem espBootupEventStructurallyValid_looks : Looks env espBootupEventStructurallyValid f d := by
  intro rs
  simp [espBootupEventStructurallyValid,bootDataOffset]

theorem does_structurallyValid {Q : Bool → St → Prop}
    (h : ∀ v, (v = true → bootDataOffset+(byteOf 4 (field 0 bootDataOffset d)).toNat ≤ d.length) → Q v ⟨.held f d,rs⟩) :
    wp (rules env) espBootupEventStructurallyValid ⟨.held f d,rs⟩ Q := by
  simp only [espBootupEventStructurallyValid,wp_bind,does_skbLen,wp_ite,wp_pure,does_read]
  refine ⟨fun _ => h _ (by simp),fun hn => ⟨by omega,fun _ => h _ (by simp),fun _ => h _ fun hv => ?_⟩⟩
  simp only [Bool.not_eq_true',decide_eq_false_iff_not] at hv
  omega

theorem espBootupEventLegacyRcpActive_looks : Looks env espBootupEventLegacyRcpActive f d := by
  intro rs
  simp only [espBootupEventLegacyRcpActive,wp_bind]
  refine does_structurallyValid fun v hv => ?_
  simp only [wp_ite,wp_pure,wp_bind,does_read]
  refine ⟨fun _ => trivial,fun hval => ?_⟩
  have hin := hv (by simpa using hval)
  exact ⟨by omega,(legacyTlvs_looks _ _ _ _ hin).wp fun _ _ => rfl⟩

theorem does_checksumTlvs (sum : Bool) (fuel pos left : Nat) (hin : pos+left ≤ (f ++ d).length) {Q : Bool → St → Prop}
    (h : ∀ v, (sum = true → v = true) → Q v ⟨.held f d,rs⟩) :
    wp (rules env) (checksumTlvs sum fuel pos left) ⟨.held f d,rs⟩ Q := by
  induction fuel generalizing pos left with
  | zero => exact h _ id
  | succ fuel ih =>
    simp only [checksumTlvs,wp_bind,wp_ite,wp_pure,does_peek]
    refine ⟨fun _ => h _ id,fun hl => ⟨by omega,fun _ => h _ id,fun htag => ⟨fun hcap => ?_,fun _ => ?_⟩⟩⟩
    · exact ⟨by omega,h _ fun hs => by simp [hs]⟩
    · exact ih _ _ (by omega)

theorem does_checksumRequired {len offset : Nat} (sum : Bool) (hin : len+offset ≤ (f ++ d).length) {Q : Bool → St → Prop}
    (h : ∀ v, (sum = true → v = true) → Q v ⟨.held f d,rs⟩) :
    wp (rules env) (espInternalChecksumRequired len offset sum) ⟨.held f d,rs⟩ Q := by
  simp only [espInternalChecksumRequired,wp_bind,wp_ite,wp_pure,does_peek]
  refine ⟨fun _ => h _ id,fun hn => ⟨by omega,fun _ => h _ id,fun _ => ⟨fun _ => h _ id,fun hlen => ?_⟩⟩⟩
  exact does_checksumTlvs _ _ _ _ (by omega) h

/-! The handlers. -/

variable {ok : Sink → Bytes → Prop}

theorem ends_free : Ends env ok kfreeSkb f d := fun _ => .inl rfl

theorem ends_give {k : Sink} (h : ok k d) : Ends env ok (give k) f d := fun _ => .inr ⟨k,d,h,rfl⟩

theorem Ends.ite {c : Prop} [Decidable c] {p q : Rx Unit} (hp : c → Ends env ok p f d) (hq : ¬c → Ends env ok q f d) :
    Ends env ok (if c then p else q) f d := fun rs =>
  (wp_ite c p q).mpr ⟨fun h => hp h rs,fun h => hq h rs⟩

theorem Ends.asked {t : Test} {p : Bool → Rx Unit} (h : ∀ b, env t b → Ends env ok (p b) f d) :
    Ends env ok (ask t >>= p) f d := by
  intro rs
  rw [wp_bind,does_ask]
  exact fun b hb => h b hb rs

theorem Ends.measured {p : Nat → Rx Unit} (h : Ends env ok (p d.length) f d) : Ends env ok (skbLen >>= p) f d := by
  intro rs
  rw [wp_bind,does_skbLen]
  exact h rs

theorem Ends.trimmed {len : Nat} {p : Unit → Rx Unit} (h : Ends env ok (p ()) f (d.take len)) :
    Ends env ok (trimTo len >>= p) f d := by
  intro rs
  rw [wp_bind,does_trimTo]
  exact h rs

theorem Ends.looked {α : Type} {x : Rx α} {p : α → Rx Unit} (hx : Looks env x f d) (h : ∀ a, Ends env ok (p a) f d) :
    Ends env ok (x >>= p) f d := by
  intro rs
  rw [wp_bind]
  exact hx.wp fun a rs => h a rs

theorem rcpOverflow_ends : Ends env ok rcpOverflow f d := by
  intro rs
  exact .inl rfl

theorem espRcpRx_ends (he : ok .rcpEarly d) (hr : ok .rcpRx d) : Ends env ok espRcpRx f d := by
  refine .asked fun _ _ => .ite (fun _ => ?_) fun _ => ?_
  · exact .asked fun _ _ => .ite (fun _ => ends_free) fun _ => ends_give he
  · refine .asked fun _ _ => .ite (fun _ => ends_free) fun _ => ?_
    refine .asked fun _ _ => .ite (fun _ => ends_free) fun _ => ?_
    refine .asked fun _ _ => .ite (fun _ => ?_) fun _ => ?_
    · refine .asked fun _ _ => .ite (fun _ => ends_free) fun _ => ?_
      exact .asked fun _ _ => .ite (fun _ => rcpOverflow_ends) fun _ => ends_give he
    · exact .asked fun _ _ => .ite (fun _ => rcpOverflow_ends) fun _ => ends_give hr

theorem does_le32InPlace {off : Nat} (h : off+4 ≤ d.length) {Q : Unit → St → Prop} (hQ : Q () ⟨.held f d,rs⟩) :
    wp (rules env) (le32InPlace off) ⟨.held f d,rs⟩ Q := by
  have hlen := field_length h
  have hsame : d.take off ++ field off 4 d ++ d.drop (off+4) = d := by
    rw [field,List.append_assoc,← List.drop_drop,List.take_append_drop,List.take_append_drop]
  simp only [le32InPlace,wp_bind,does_read,does_write,hlen,hsame]
  exact ⟨h,h,hQ⟩

theorem le32InPlace_looks (off : Nat) (h : off+4 ≤ d.length) : Looks env (le32InPlace off) f d := fun _ =>
  does_le32InPlace h rfl

theorem processCmdResp_ends (h : ok .cmdResp d) : Ends env ok processCmdResp f d := by
  refine .asked fun _ _ => .ite (fun _ => ends_free) fun _ => ?_
  refine .measured (.ite (fun _ => ends_free) fun hn => ?_)
  refine .looked (fun rs => ⟨by omega,rfl⟩) fun hdr => ?_
  refine .ite (fun _ => ends_free) fun _ => ?_
  have htail : Ends env ok (do
      if !(← ask .curCmd) then kfreeSkb
      else if !(← ask (.curCmdIs (byteOf 0 hdr) (le 4 2 hdr))) then kfreeSkb
      else if ← ask .curCmdDone then kfreeSkb
      else give .cmdResp) f d := by
    refine .asked fun _ _ => .ite (fun _ => ends_free) fun _ => ?_
    refine .asked fun _ _ => .ite (fun _ => ends_free) fun _ => ?_
    exact .asked fun _ _ => .ite (fun _ => ends_free) fun _ => ends_give h
  have hmgmt := Ends.ite (c := byteOf 0 hdr = CMD_MGMT_TX ∧ mgmtBufOffset ≤ d.length)
    (fun hm => .looked (le32InPlace_looks mgmtLenOffset hm.2) fun _ => htail) fun _ => htail
  refine .ite (fun hv => ?_) fun _ => hmgmt
  exact .looked (le32InPlace_looks _ hv.2.1) fun _ => hmgmt

def monitorBody (c : Config) (d : Bytes) : Bytes :=
  c.radiotap (field 0 metaSize d) ++ (d.drop metaSize).take (le 12 2 (field 0 metaSize d))

theorem espCfg80211MonitorRx_ends {c : Config} (h : ok .monitor (monitorBody c d)) :
    Ends env ok (espCfg80211MonitorRx c) f d := by
  refine .asked fun _ _ => .ite (fun _ => ends_free) fun _ => ?_
  refine .measured (.ite (fun _ => ends_free) fun hn rs => ?_)
  have hm : metaSize ≤ d.length := by omega
  rw [wp_bind,does_read]
  refine ⟨by omega,?_⟩
  refine Ends.ite (fun _ => ends_free) (fun _ => Ends.ite (fun _ => ends_free) fun _ => ?_) rs
  refine .ite (fun _ => ends_free) fun _ rs => ?_
  rw [wp_bind,does_skbPull]
  refine ⟨hm,Ends.trimmed (.asked fun _ _ => .ite (fun _ => ends_free) fun _ rs => ?_) rs⟩
  exact .inr ⟨_,_,h,rfl⟩

theorem netifRx_ends {eapol : Bool} (hlen : ETH_HLEN ≤ d.length)
    (h : ok (.netRx eapol (d.take ETH_HLEN)) (d.drop ETH_HLEN)) : Ends env ok (netifRx eapol) f d := by
  intro rs
  have hin : 0+ETH_HLEN ≤ d.length := by omega
  rw [netifRx,ethTypeTrans,wp_bind,wp_bind,does_read,wp_bind,does_skbPull]
  exact ⟨hin,hlen,.inr ⟨_,_,h,rfl⟩⟩

/-- The packet types that go to the network stack. -/
def ethernet (hdr : Bytes) : Prop := byteOf 2 hdr = PACKET_TYPE_EAPOL ∨ byteOf 2 hdr = PACKET_TYPE_DATA

theorem netFrame_ends {hdr : Bytes} (hlen : ethernet hdr → ETH_HLEN ≤ d.length)
    (hnet : byteOf 2 hdr = PACKET_TYPE_EAPOL → ok (.netRx true (d.take ETH_HLEN)) (d.drop ETH_HLEN))
    (hdata : byteOf 2 hdr = PACKET_TYPE_DATA → ok (.netRx false (d.take ETH_HLEN)) (d.drop ETH_HLEN))
    (hcmd : byteOf 2 hdr = PACKET_TYPE_COMMAND_RESPONSE → ok .cmdResp d) : Ends env ok (netFrame hdr) f d := by
  refine .asked fun _ _ => .ite (fun _ => ends_free) fun _ => .ite (fun he => ?_) fun _ => .ite (fun hd => ?_) fun _ => ?_
  · exact .asked fun _ _ => .ite (fun _ => ends_free) fun _ => netifRx_ends (hlen (.inl he)) (hnet he)
  · exact .asked fun _ _ => .ite (fun _ => ends_free) fun _ => netifRx_ends (hlen (.inr hd)) (hdata hd)
  · refine .ite (fun hc => processCmdResp_ends (hcmd hc)) fun _ => .ite (fun _ => ?_) fun _ => ends_free
    exact .looked processCmdEvent_looks fun _ => ends_free

theorem rcpFrame_ends {hdr : Bytes}
    (h : byteOf 2 hdr = PACKET_TYPE_DATA → le 4 2 hdr ≠ 0 → ∀ k, k = .rcpEarly ∨ k = .rcpRx → ok k (d.take (le 4 2 hdr))) :
    Ends env ok (rcpFrame hdr) f d := by
  refine .ite (fun _ => ?_) fun _ => .ite (fun _ rs => .inl rfl) fun hd => ?_
  · exact .trimmed (.looked espRcpSessionAck_looks fun _ => ends_free)
  · rw [not_or,not_not] at hd
    exact .trimmed (espRcpRx_ends (h hd.1 hd.2 _ (.inl rfl)) (h hd.1 hd.2 _ (.inr rfl)))

theorem monitorFrame_ends {c : Config} {hdr : Bytes}
    (hcmd : byteOf 2 hdr = PACKET_TYPE_COMMAND_RESPONSE → ok .cmdResp (d.take (le 4 2 hdr)))
    (hmon : byteOf 2 hdr = PACKET_TYPE_MONITOR → ok .monitor (monitorBody c (d.take (le 4 2 hdr)))) :
    Ends env ok (monitorFrame c hdr) f d := by
  refine .trimmed (.ite (fun hc => processCmdResp_ends (hcmd hc)) fun _ => .ite (fun hm => ?_) fun _ => ends_free)
  exact espCfg80211MonitorRx_ends (hmon hm)

theorem hciFrame_ends {hdr : Bytes} (hlen : d ≠ [] → le 4 2 hdr ≠ 0)
    (h : ∀ t b, d.take (le 4 2 hdr) = t :: b → ok (.hci t) b) : Ends env ok (hciFrame hdr) f d := by
  refine .asked fun _ _ => .asked fun _ _ => .asked fun _ _ => .asked fun _ _ => .asked fun _ _ => ?_
  refine .ite (fun _ => ends_free) fun _ => .measured (.ite (fun _ => ends_free) fun hn => .trimmed ?_)
  have hne := hlen (by simpa using hn)
  have hpos : 1 ≤ (d.take (le 4 2 hdr)).length := by
    rw [List.length_take]
    omega
  cases hd : d.take (le 4 2 hdr) with
  | nil => simp [hd] at hpos
  | cons t b =>
    intro rs
    rw [wp_bind,does_read,wp_bind,does_skbPull]
    refine ⟨by simp,by simp,.inr ⟨.hci t,b,h t b hd,?_⟩⟩
    rfl

theorem internalFrame_ends (hwq : ¬env .eventsWq false) (h : ok .events d) : Ends env ok internalFrame f d := by
  have htail : Ends env ok (do
      if (← ask .driverUnloading) || (← ask .transportRemoving) then kfreeSkb
      else
        give .events
        if !(← ask .eventsWq) then kfreeSkb) f d := by
    refine .asked fun _ _ => .asked fun _ _ => .ite (fun _ => ends_free) fun _ rs => ?_
    rw [wp_bind,does_give,wp_bind,does_ask]
    intro b hb
    cases b with
    | false => exact absurd hb hwq
    | true => exact .inr ⟨_,_,h,rfl⟩
  refine .measured (.ite (fun hn => ?_) fun _ => htail)
  refine .looked (fun rs => ⟨by simpa using hn,rfl⟩) fun evt => .ite (fun _ => ?_) fun _ => htail
  refine .looked (espBootupEventStructurallyValid_looks) fun _ => .ite (fun _ => ?_) fun _ => htail
  refine .looked espBootupEventLegacyRcpActive_looks fun _ => .asked fun _ _ => .ite (fun _ => ?_) fun _ => htail
  exact .looked (fun _ => rfl) fun _ => htail

/-! The whole path. -/

def head (skb : Bytes) : Bytes := field 0 headerSize skb

def zeroed (skb : Bytes) : Bytes := skb.take 8 ++ [0,0] ++ skb.drop 10

/-- Whether a frame may get behind the checks; `c` computes the checksum. -/
structure Admitted (env : Test → Bool → Prop) (c : Config) (skb : Bytes) : Prop where
  whole : headerSize ≤ skb.length
  offset : espOffsetValid (le 6 2 (head skb)) = true
  span : le 6 2 (head skb)+le 4 2 (head skb) ≤ skb.length
  intact : (hdrIfType (head skb) = ESP_INTERNAL_IF → le 8 2 (head skb) ≠ 0) →
    (hdrIfType (head skb) ≠ ESP_INTERNAL_IF → ¬env .checksumEnabled false) →
    c.computeChecksum (field 0 (le 4 2 (head skb)+le 6 2 (head skb)) (zeroed skb)) = le 8 2 (head skb)
  session : plain (head skb) = true → env .sessionReady true
  stays : plain (head skb) = true → env .cleanup false ∨ env .allowReconstruct true

theorem does_dropCorrupt {Q : Unit → St → Prop} (h : Q () ⟨.gone none,rs⟩) :
    wp (rules env) dropCorrupt ⟨.held f d,rs⟩ Q := by
  simp only [dropCorrupt,espFailRcpRxIfRequired,wp_bind,wp_ite,does_ask,does_recover,wp_pure,does_kfreeSkb]
  exact fun _ _ => ⟨fun _ => h,fun _ => h⟩

theorem does_closed {s : St} {Q : Bool → St → Prop} (hclosed : Q true s)
    (hopen : env .sessionReady true → env .cleanup false ∨ env .allowReconstruct true → Q false s) :
    wp (rules env) closed s Q := by
  simp only [closed,wp_bind,wp_ite,does_ask,wp_pure]
  intro ready hr
  refine ⟨fun _ => hclosed,fun hready cleanup hc => ⟨fun _ allow ha => ?_,fun hstill => ?_⟩⟩
  · cases allow with
    | false => exact hclosed
    | true => exact hopen (by simp_all) (.inr ha)
  · exact hopen (by simp_all) (.inl (by simp_all))

theorem does_closedTo {hdr : Bytes} {s : St} {Q : Bool → St → Prop} (hclosed : Q true s)
    (hopen : (plain hdr = true → env .sessionReady true) →
      (plain hdr = true → env .cleanup false ∨ env .allowReconstruct true) → Q false s) :
    wp (rules env) (closedTo hdr) s Q := by
  rw [closedTo,wp_ite]
  exact ⟨fun _ => does_closed hclosed fun hr hc => hopen (fun _ => hr) fun _ => hc,
    fun hp => hopen (fun h => absurd h hp) fun h => absurd h hp⟩

theorem zeroed_drop {skb : Bytes} {off : Nat} (hlen : headerSize ≤ skb.length) (hoff : headerSize ≤ off) :
    (zeroed skb).drop off = skb.drop off := by
  simp only [headerSize] at hlen hoff
  have h10 : (skb.take 8 ++ [0,0]).length = 10 := by simp; omega
  rw [zeroed,List.drop_append,List.drop_eq_nil_of_le (by omega),h10,List.nil_append,List.drop_drop]
  congr 1
  omega

theorem zeroed_length {skb : Bytes} (hlen : headerSize ≤ skb.length) : (zeroed skb).length = skb.length := by
  simp only [headerSize] at hlen
  simp [zeroed]
  omega

theorem does_validateChecksum {skb : Bytes} {Q : Bool → St → Prop}
    (hspan : le 4 2 (head skb)+le 6 2 (head skb) ≤ skb.length)
    (h : ∀ v, (v = false → hdrIfType (head skb) = ESP_INTERNAL_IF → ¬le 8 2 (head skb) ≠ 0) →
      (v = false → hdrIfType (head skb) ≠ ESP_INTERNAL_IF → env .checksumEnabled false) → Q v ⟨.held [] skb,rs⟩) :
    wp (rules env) (validateChecksum (head skb)) ⟨.held [] skb,rs⟩ Q := by
  rw [validateChecksum,wp_ite]
  refine ⟨fun hi => does_checksumRequired _ (by simpa using hspan) fun v hv => h v ?_ ?_,fun hi => ?_⟩
  · rintro rfl _ hne
    exact absurd (hv (by simpa using hne)) (by simp)
  · exact fun _ hn => absurd hi hn
  · rw [does_ask]
    exact fun v hv => h v (fun _ hi' => absurd hi' hi) fun hf _ => hf ▸ hv

theorem does_checksumPasses {c : Config} {skb : Bytes} {Q : Bool → St → Prop} (hlen : headerSize ≤ skb.length)
    (hspan : le 4 2 (head skb)+le 6 2 (head skb) ≤ skb.length)
    (hbad : ∀ d, Q false ⟨.held [] d,rs⟩)
    (hgood : ((hdrIfType (head skb) = ESP_INTERNAL_IF → le 8 2 (head skb) ≠ 0) →
      (hdrIfType (head skb) ≠ ESP_INTERNAL_IF → ¬env .checksumEnabled false) →
      c.computeChecksum (field 0 (le 4 2 (head skb)+le 6 2 (head skb)) (zeroed skb)) = le 8 2 (head skb)) →
      ∀ d, d = skb ∨ d = zeroed skb → Q true ⟨.held [] d,rs⟩) :
    wp (rules env) (checksumPasses c (head skb)) ⟨.held [] skb,rs⟩ Q := by
  rw [checksumPasses,wp_bind]
  refine does_validateChecksum hspan fun v hzero hoff => (wp_ite _ _ _).mpr ⟨fun _ => ?_,fun hv => ?_⟩
  · have hz : skb.take 8 ++ [0,0] ++ skb.drop (8+[(0 : UInt8),0].length) = zeroed skb := rfl
    have hzl := zeroed_length hlen
    simp only [headerSize] at hlen
    rw [checksumHolds,wp_bind,does_writeHead,hz,wp_bind,does_peek,wp_pure]
    refine ⟨rfl,by simp; omega,by simpa [hzl] using hspan,?_⟩
    rw [List.nil_append]
    by_cases hsum : c.computeChecksum (field 0 (le 4 2 (head skb)+le 6 2 (head skb)) (zeroed skb)) = le 8 2 (head skb)
    · rw [decide_eq_true hsum]
      exact hgood (fun _ _ => hsum) _ (.inr rfl)
    · rw [decide_eq_false hsum]
      exact hbad _
  · have hf : v = false := by simpa using hv
    refine hgood (fun hwire hcap => ?_) _ (.inl rfl)
    by_cases hi : hdrIfType (head skb) = ESP_INTERNAL_IF
    · exact absurd (hwire hi) (hzero hf hi)
    · exact absurd (hoff hf hi) (hcap hi)

theorem does_behindBounds {c : Config} {skb : Bytes} {Q : Unit → St → Prop} (hlen : headerSize ≤ skb.length)
    (hoff : espOffsetValid (le 6 2 (head skb)) = true) (hspan : le 6 2 (head skb)+le 4 2 (head skb) ≤ skb.length)
    (hdrop : Q () ⟨.gone none,rs⟩)
    (hgo : Admitted env c skb → ∀ f,
      wp (rules env) (dispatch c (head skb)) ⟨.held f (skb.drop (le 6 2 (head skb))),rs⟩ Q) :
    wp (rules env) (behindBounds c (head skb)) ⟨.held [] skb,rs⟩ Q := by
  rw [behindBounds,wp_bind]
  refine does_checksumPasses hlen (by omega) (fun _ => ?_) fun hsum d hd => ?_
  · exact (wp_ite _ _ _).mpr ⟨fun _ => does_dropCorrupt hdrop,by simp⟩
  · refine (wp_ite _ _ _).mpr ⟨by simp,fun _ => ?_⟩
    rw [wp_bind]
    refine does_closedTo ((wp_ite _ _ _).mpr ⟨fun _ => hdrop,by simp⟩) fun hs hc =>
      (wp_ite _ _ _).mpr ⟨by simp,fun _ => ?_⟩
    have hle : headerSize ≤ le 6 2 (head skb) := by
      simp only [espOffsetValid,Bool.and_eq_true,decide_eq_true_eq] at hoff
      exact hoff.1
    have hd' : d.length = skb.length ∧ d.drop (le 6 2 (head skb)) = skb.drop (le 6 2 (head skb)) := by
      obtain rfl | rfl := hd
      · exact ⟨rfl,rfl⟩
      · exact ⟨zeroed_length hlen,zeroed_drop hlen hle⟩
    rw [wp_bind,does_skbPull,hd'.1,hd'.2]
    exact ⟨by omega,hgo ⟨hlen,hoff,hspan,hsum,hs,hc⟩ _⟩

theorem does_processRxPacket {c : Config} {skb : Bytes} {Q : Unit → St → Prop} (hdrop : Q () ⟨.gone none,rs⟩)
    (hgo : Admitted env c skb → ∀ f,
      wp (rules env) (dispatch c (head skb)) ⟨.held f (skb.drop (le 6 2 (head skb))),rs⟩ Q) :
    wp (rules env) (processRxPacket c) ⟨.held [] skb,rs⟩ Q := by
  rw [processRxPacket,wp_bind,does_skbLen,wp_ite]
  refine ⟨fun _ => does_dropCorrupt hdrop,fun hn => ?_⟩
  rw [wp_bind,does_peek]
  refine ⟨by simpa using hn,?_⟩
  rw [List.nil_append,← head]
  refine (wp_ite _ _ _).mpr ⟨fun _ => does_dropCorrupt hdrop,fun hb => ?_⟩
  simp only [Bool.or_eq_true,Bool.not_eq_true',decide_eq_true_eq,not_or,Bool.not_eq_false] at hb
  have hspan : le 6 2 (head skb)+le 4 2 (head skb) ≤ skb.length := by omega
  have hrest : wp (rules env) (behindBounds c (head skb)) ⟨.held [] skb,rs⟩ Q :=
    does_behindBounds (by omega) hb.1.1 hspan hdrop hgo
  refine (wp_ite _ _ _).mpr ⟨fun _ => ?_,fun _ => hrest⟩
  rw [wp_bind,does_peek]
  exact ⟨by simp; omega,hrest⟩

/-- Who may get a frame with the header `hdr` and the payload `d`, and what of it. -/
def Routed (c : Config) (hdr d : Bytes) : Sink → Bytes → Prop
  | .netRx eapol eth, b => (hdrIfType hdr = ESP_STA_IF ∨ hdrIfType hdr = ESP_AP_IF) ∧
    byteOf 2 hdr = (if eapol then PACKET_TYPE_EAPOL else PACKET_TYPE_DATA) ∧ eth.length = ETH_HLEN ∧ eth ++ b = d
  | .cmdResp, b => byteOf 2 hdr = PACKET_TYPE_COMMAND_RESPONSE ∧
    ((hdrIfType hdr = ESP_STA_IF ∨ hdrIfType hdr = ESP_AP_IF) ∧ b = d ∨
      hdrIfType hdr = ESP_MONITOR_IF ∧ b = d.take (le 4 2 hdr))
  | .rcpEarly, b | .rcpRx, b => hdrIfType hdr = ESP_RCP_IF ∧ byteOf 2 hdr = PACKET_TYPE_DATA ∧
    le 4 2 hdr ≠ 0 ∧ b = d.take (le 4 2 hdr)
  | .monitor, b => hdrIfType hdr = ESP_MONITOR_IF ∧ byteOf 2 hdr = PACKET_TYPE_MONITOR ∧
    b = monitorBody c (d.take (le 4 2 hdr))
  | .hci t, b => hdrIfType hdr = ESP_HCI_IF ∧ d.take (le 4 2 hdr) = t :: b
  | .events, b => hdrIfType hdr = ESP_INTERNAL_IF ∧ b = d

/-- An HCI frame without a payload, and bytes behind its header. -/
structure Hollow (skb : Bytes) : Prop where
  whole : headerSize ≤ skb.length
  offset : espOffsetValid (le 6 2 (head skb)) = true
  hci : hdrIfType (head skb) = ESP_HCI_IF
  empty : le 4 2 (head skb) = 0
  more : le 6 2 (head skb) < skb.length

/-- A frame for the network stack that is shorter than an Ethernet header. -/
structure Headless (skb : Bytes) : Prop where
  whole : headerSize ≤ skb.length
  offset : espOffsetValid (le 6 2 (head skb)) = true
  span : le 6 2 (head skb)+le 4 2 (head skb) ≤ skb.length
  net : hdrIfType (head skb) = ESP_STA_IF ∨ hdrIfType (head skb) = ESP_AP_IF
  ethernet : ethernet (head skb)
  short : skb.length < le 6 2 (head skb)+ETH_HLEN

theorem dispatch_ends {c : Config} {hdr : Bytes} (hwq : ¬env .eventsWq false)
    (hlen : hdrIfType hdr = ESP_HCI_IF → d ≠ [] → le 4 2 hdr ≠ 0)
    (heth : hdrIfType hdr = ESP_STA_IF ∨ hdrIfType hdr = ESP_AP_IF → ethernet hdr → ETH_HLEN ≤ d.length) :
    Ends env (Routed c hdr d) (dispatch c hdr) f d := by
  refine .ite (fun hi => ?_) fun _ => .ite (fun hi => ?_) fun _ => .ite (fun hi => ?_) fun _ => .ite (fun hi => ?_) fun _ =>
    .ite (fun hi => ?_) fun _ => .ite (fun _ => ?_) fun _ => ends_free
  · refine netFrame_ends (heth hi) (fun he => ⟨hi,he,?_,List.take_append_drop _ _⟩)
      (fun hd => ⟨hi,hd,?_,List.take_append_drop _ _⟩) fun hc => ⟨hc,.inl ⟨hi,rfl⟩⟩
    · rw [List.length_take]
      exact Nat.min_eq_left (heth hi (.inl he))
    · rw [List.length_take]
      exact Nat.min_eq_left (heth hi (.inr hd))
  · refine rcpFrame_ends fun hd hpos k hk => ?_
    obtain rfl | rfl := hk
    · exact ⟨hi,hd,hpos,rfl⟩
    · exact ⟨hi,hd,hpos,rfl⟩
  · exact monitorFrame_ends (fun hc => ⟨hc,.inr ⟨hi,rfl⟩⟩) fun hm => ⟨hi,hm,rfl⟩
  · exact hciFrame_ends (hlen hi) fun _ _ hd => ⟨hi,hd⟩
  · exact internalFrame_ends hwq ⟨hi,rfl⟩
  · exact .asked fun _ _ => .ite (fun _ => .looked (fun _ => rfl) fun _ => ends_free) fun _ => ends_free

/-- Whatever the bytes and whatever the surroundings answer: the skb is looked at inside its bounds, it goes to one place,
there and in the form its header asks for, and with a frame that is not admitted nothing happens at all. -/
theorem rx_routes {c : Config} {skb : Bytes} (hwq : ¬env .eventsWq false) (hh : ¬Hollow skb) (he : ¬Headless skb) :
    wp (rules env) (processRxPacket c) ⟨.held [] skb,rs⟩ fun _ s =>
      (Admitted env c skb ∨ s = ⟨.gone none,rs⟩) ∧
        (s.skb = .gone none ∨
          ∃ k b, Routed c (head skb) (skb.drop (le 6 2 (head skb))) k b ∧ s.skb = .gone (some (k,b))) := by
  refine does_processRxPacket ⟨.inr rfl,.inl rfl⟩ fun ha f => ?_
  refine wp_mono (rules_mono env) (fun _ s hs => ⟨.inl ha,hs⟩)
    (dispatch_ends hwq (fun hi hne hz => hh ?_) (fun hi hn => ?_) rs)
  · refine ⟨ha.whole,ha.offset,hi,hz,?_⟩
    simpa using hne
  · by_contra hshort
    refine he ⟨ha.whole,ha.offset,ha.span,hi,hn,?_⟩
    rw [List.length_drop] at hshort
    omega

theorem wp_of_answers {α : Type} (env' : Test → Bool → Prop) {p : Rx α} {s : St} {Q : α → St → Prop}
    (hsub : ∀ t b, env' t b → env t b) (h : wp (rules env) p s Q) : wp (rules env') p s Q := by
  refine wp_of_le (rules_mono env') (fun a s R hR => ?_) h
  obtain ⟨skb,rs⟩ := s
  cases a with
  | ask t => exact fun b hb => hR b (hsub t b hb)
  | _ => cases skb <;> exact hR

theorem rx_routes_event : wp (rules fun _ b => b = true) (processRxPacket ⟨fun _ => 0,fun _ => []⟩)
    ⟨.held [] [3,0,0,0,0,0,12,0,0,0,0,0],[]⟩ fun _ s =>
      (Admitted (fun _ b => b = true) ⟨fun _ => 0,fun _ => []⟩ [3,0,0,0,0,0,12,0,0,0,0,0] ∨ s = ⟨.gone none,[]⟩) ∧
        (s.skb = .gone none ∨ ∃ k b, Routed ⟨fun _ => 0,fun _ => []⟩ (head [3,0,0,0,0,0,12,0,0,0,0,0])
          (List.drop (le 6 2 (head [3,0,0,0,0,0,12,0,0,0,0,0])) [3,0,0,0,0,0,12,0,0,0,0,0]) k b ∧
            s.skb = .gone (some (k,b))) :=
  rx_routes (by simp) (fun h => absurd h.hci (by decide)) fun h => absurd h.net (by decide)

/-- The surroundings answer as they like, and there is a workqueue. -/
def live (t : Test) (b : Bool) : Prop := t = .eventsWq → b = true

/-- A session that is up, with Bluetooth and both network interfaces. -/
def up : Test → Bool
  | .sessionReady | .hcidev | .initDone | .eventsWq | .privFor _ | .netUp => true
  | _ => false

theorem does_ask_fixed {answer : Test → Bool} {t : Test} {s : St} {Q : Bool → St → Prop} :
    wp (rules fun t b => b = answer t) (ask t) s Q ↔ Q (answer t) s := by
  simp

theorem hciFrame_hollow {hdr : Bytes} {Q : Unit → St → Prop} (hne : d ≠ []) (hz : le 4 2 hdr = 0) :
    ¬wp (rules fun t b => b = up t) (hciFrame hdr) ⟨.held f d,rs⟩ Q := by
  intro h
  have hd : ¬d.length = 0 := by simpa using hne
  simp only [hciFrame,wp_bind,does_ask_fixed,wp_ite,does_skbLen,does_trimTo,does_read,hz,up] at h
  simpa using (h.2 (by simp)).2 hd

theorem netFrame_headless {hdr : Bytes} {Q : Unit → St → Prop} (he : ethernet hdr) (hshort : d.length < ETH_HLEN) :
    ¬wp (rules fun t b => b = up t) (netFrame hdr) ⟨.held f d,rs⟩ Q := by
  intro h
  have hpriv : ∀ n, up (.privFor n) = true := fun _ => rfl
  have hup : up .netUp = true := rfl
  have hin : ¬0+ETH_HLEN ≤ d.length := by omega
  simp only [netFrame,netifRx,ethTypeTrans,wp_bind,does_ask_fixed,wp_ite,does_read,hpriv,hup,hin] at h
  rcases he with he | he
  · simp [he] at h
  · simp [he] at h

theorem behindBounds_up {c : Config} {skb : Bytes} {Q : Unit → St → Prop} (hplain : plain (head skb) = true)
    (h : wp (rules fun t b => b = up t) (behindBounds c (head skb)) ⟨.held [] skb,rs⟩ Q) :
    wp (rules fun t b => b = up t) (dispatch c (head skb))
      ⟨.held (skb.take (le 6 2 (head skb))) (skb.drop (le 6 2 (head skb))),rs⟩ Q := by
  have hint : ¬hdrIfType (head skb) = ESP_INTERNAL_IF := fun hi => by simp [plain,hi] at hplain
  have hsum : up .checksumEnabled = false := rfl
  have hready : up .sessionReady = true := rfl
  have hcleanup : up .cleanup = false := rfl
  simp only [behindBounds,checksumPasses,validateChecksum,closedTo,closed,hint,hplain,if_false,if_true,wp_bind,wp_ite,
    wp_pure,does_ask_fixed,hsum,hready,hcleanup,does_skbPull] at h
  simp only [Bool.false_eq_true,Bool.not_true,false_imp_iff,not_false_iff,true_imp_iff,true_and] at h
  exact h.2

theorem processRxPacket_bounds {env : Test → Bool → Prop} {c : Config} {skb : Bytes} {Q : Unit → St → Prop}
    (hlen : headerSize ≤ skb.length) (hoff : espOffsetValid (le 6 2 (head skb)) = true)
    (hspan : le 6 2 (head skb)+le 4 2 (head skb) ≤ skb.length)
    (h : wp (rules env) (processRxPacket c) ⟨.held [] skb,rs⟩ Q) :
    wp (rules env) (behindBounds c (head skb)) ⟨.held [] skb,rs⟩ Q := by
  rw [processRxPacket,wp_bind,does_skbLen,wp_ite] at h
  have hpeek := h.2 (by omega)
  rw [wp_bind,does_peek,List.nil_append,← head] at hpeek
  have hin := ((wp_ite _ _ _).mp hpeek.2).2 (by simp [hoff]; omega)
  rw [wp_ite] at hin
  by_cases hwake : hdrIfType (head skb) ≠ ESP_TEST_IF ∧ byteOf 10 (head skb) = 0xFF
  · have hdump := hin.1 hwake
    rw [wp_bind,does_peek] at hdump
    exact hdump.2
  · exact hin.2 hwake

theorem behindBounds_hollow {c : Config} {skb : Bytes} {Q : Unit → St → Prop} (hh : Hollow skb) :
    ¬wp (rules fun t b => b = up t) (behindBounds c (head skb)) ⟨.held [] skb,rs⟩ Q := by
  have hplain : plain (head skb) = true := by simp [plain,hh.hci,ESP_HCI_IF,ESP_INTERNAL_IF,ESP_RCP_IF]
  have hhci : dispatch c (head skb) = hciFrame (head skb) := by
    simp [dispatch,hh.hci,ESP_STA_IF,ESP_AP_IF,ESP_HCI_IF,ESP_RCP_IF,ESP_MONITOR_IF]
  have hne : skb.drop (le 6 2 (head skb)) ≠ [] := by simpa using hh.more
  intro h
  have hd := behindBounds_up hplain h
  rw [hhci] at hd
  exact hciFrame_hollow hne hh.empty hd

theorem behindBounds_headless {c : Config} {skb : Bytes} {Q : Unit → St → Prop} (hh : Headless skb) :
    ¬wp (rules fun t b => b = up t) (behindBounds c (head skb)) ⟨.held [] skb,rs⟩ Q := by
  have hplain : plain (head skb) = true := by
    rcases hh.net with hi | hi
    · simp [plain,hi,ESP_STA_IF,ESP_INTERNAL_IF,ESP_RCP_IF]
    · simp [plain,hi,ESP_AP_IF,ESP_INTERNAL_IF,ESP_RCP_IF]
  have hnet : dispatch c (head skb) = netFrame (head skb) := by
    rw [dispatch]
    exact if_pos hh.net
  have hshort : (skb.drop (le 6 2 (head skb))).length < ETH_HLEN := by
    have hs := hh.short
    have hw := hh.span
    rw [List.length_drop]
    omega
  intro h
  have hd := behindBounds_up hplain h
  rw [hnet] at hd
  exact netFrame_headless hh.ethernet hshort hd

/-- Hollow and headless frames, and no others, are not handled inside their bounds. -/
theorem rx_custody (c : Config) (skb : Bytes) :
    Ends live (fun _ _ => True) (processRxPacket c) [] skb ↔ ¬Hollow skb ∧ ¬Headless skb := by
  constructor
  · intro h
    have hup := wp_of_answers (fun t b => b = up t) (fun t b hb ht => by subst ht; exact hb) (h [])
    refine ⟨fun hh => ?_,fun hh => ?_⟩
    · have hoff := hh.offset
      simp only [espOffsetValid,headerSize,Bool.and_eq_true,decide_eq_true_eq] at hoff
      have hm := hh.more
      have hz := hh.empty
      exact behindBounds_hollow hh (processRxPacket_bounds hh.whole hh.offset (by omega) hup)
    · exact behindBounds_headless hh (processRxPacket_bounds hh.whole hh.offset hh.span hup)
  · rintro ⟨hh,he⟩ rs
    refine wp_mono (rules_mono live) ?_ (rx_routes (by simp [live]) hh he)
    rintro _ s ⟨_,hs | ⟨k,b,_,hs⟩⟩
    · exact .inl hs
    · exact .inr ⟨k,b,trivial,hs⟩

end EspHosted.SkbRx
