import EspHosted.HostTx

/-!
The rules of the two skbs, under which the transmit paths neither lose nor free one twice, and the frame
they hand to the transport as the firmware takes it apart in `process_rx_pkt` of `app_main.c`.
-/

set_option autoImplicit false

namespace EspHosted.HostTx
open EspHosted Prog Packed

/-- The skbs the path has, with their data, and what the transport has got. -/
structure St where
  orig : Option Bytes
  new : Option Bytes := none
  out : List Bytes := []
  deriving DecidableEq, Repr

def St.get (s : St) : Which → Option Bytes
  | .orig => s.orig
  | .new => s.new

def St.set (s : St) (d : Option Bytes) : Which → St
  | .orig => {s with orig := d}
  | .new => {s with new := d}

/-- What an action demands and does; the bytes of fresh room are anything. -/
def rules (env : Test → Bool → Prop) : Spec Act Ans St
  | .len, s, Q => ∃ d, s.orig = some d ∧ Q d.length s
  | .read w, s, Q => ∃ d, s.get w = some d ∧ Q d s
  | .push pad, s, Q => ∃ d, s.orig = some d ∧ ∀ g : Bytes, g.length = pad → Q () {s with orig := some (g ++ d)}
  | .copy pad, s, Q => ∃ d, s.orig = some d ∧ s.new = none ∧
    ∀ g : Bytes, g.length = pad → Q () {s with new := some (g ++ d)}
  | .fill w b, s, Q => ∃ d, s.get w = some d ∧ b.length ≤ d.length ∧ Q () (s.set (some (b ++ d.drop b.length)) w)
  | .free w, s, Q => ∃ d, s.get w = some d ∧ Q () (s.set none w)
  | .write w, s, Q => ∃ d, s.get w = some d ∧ Q () {s.set none w with out := s.out ++ [d]}
  | .ask t, s, Q => ∀ b, env t b → Q b s
  | .recover, s, Q => Q () s

section primitives

variable {env : Test → Bool → Prop} {s : St} {d : Bytes} {w : Which}

@[simp] theorem does_skbLen {Q : Nat → St → Prop} (h : s.orig = some d) : wp (rules env) skbLen s Q ↔ Q d.length s := by
  show (∃ x, s.orig = some x ∧ Q x.length s) ↔ _
  simp [h]

@[simp] theorem does_skbData {Q : Bytes → St → Prop} (h : s.get w = some d) : wp (rules env) (skbData w) s Q ↔ Q d s := by
  show (∃ x, s.get w = some x ∧ Q x s) ↔ _
  simp [h]

@[simp] theorem does_ask {t : Test} {Q : Bool → St → Prop} : wp (rules env) (ask t) s Q ↔ ∀ b, env t b → Q b s := Iff.rfl

@[simp] theorem does_recover {Q : Unit → St → Prop} : wp (rules env) recover s Q ↔ Q () s := Iff.rfl

theorem does_skbPush {pad : Nat} {Q : Unit → St → Prop} (h : s.orig = some d)
    (hQ : ∀ g : Bytes, g.length = pad → Q () {s with orig := some (g ++ d)}) : wp (rules env) (skbPush pad) s Q := ⟨d,h,hQ⟩

theorem does_copyBehind {pad : Nat} {Q : Unit → St → Prop} (h : s.orig = some d) (hn : s.new = none)
    (hQ : ∀ g : Bytes, g.length = pad → Q () {s with new := some (g ++ d)}) : wp (rules env) (copyBehind pad) s Q :=
  ⟨d,h,hn,hQ⟩

theorem does_fill {b : Bytes} {Q : Unit → St → Prop} (h : s.get w = some d) (hb : b.length ≤ d.length)
    (hQ : Q () (s.set (some (b ++ d.drop b.length)) w)) : wp (rules env) (fill w b) s Q := ⟨d,h,hb,hQ⟩

theorem does_free {Q : Unit → St → Prop} (h : s.get w = some d) (hQ : Q () (s.set none w)) :
    wp (rules env) (devKfreeSkb w) s Q := ⟨d,h,hQ⟩

theorem does_ifWrite {Q : Unit → St → Prop} (h : s.get w = some d) (hQ : Q () {s.set none w with out := s.out ++ [d]}) :
    wp (rules env) (ifWrite w) s Q := ⟨d,h,hQ⟩

end primitives

theorem rules_mono (env : Test → Bool → Prop) : (rules env).Mono := by
  intro a s Q Q' hQ h
  cases a with
  | len =>
    obtain ⟨d,hd,hq⟩ := h
    exact ⟨d,hd,hQ _ _ hq⟩
  | read w =>
    obtain ⟨d,hd,hq⟩ := h
    exact ⟨d,hd,hQ _ _ hq⟩
  | push pad =>
    obtain ⟨d,hd,hq⟩ := h
    exact ⟨d,hd,fun g hg => hQ _ _ (hq g hg)⟩
  | copy pad =>
    obtain ⟨d,hd,hn,hq⟩ := h
    exact ⟨d,hd,hn,fun g hg => hQ _ _ (hq g hg)⟩
  | fill w b =>
    obtain ⟨d,hd,hb,hq⟩ := h
    exact ⟨d,hd,hb,hQ _ _ hq⟩
  | free w =>
    obtain ⟨d,hd,hq⟩ := h
    exact ⟨d,hd,hQ _ _ hq⟩
  | write w =>
    obtain ⟨d,hd,hq⟩ := h
    exact ⟨d,hd,hQ _ _ hq⟩
  | ask t => exact fun b hb => hQ _ _ (h b hb)
  | recover => exact hQ _ _ h

variable {env : Test → Bool → Prop} {d : Bytes}

/-- The path has one skb, `w`, with the bytes `b`. -/
def Holds (w : Which) (b : Bytes) : St := ({orig := none} : St).set (some b) w

@[simp] theorem get_holds (w : Which) (b : Bytes) : (Holds w b).get w = some b := by cases w <;> rfl

@[simp] theorem set_holds (w : Which) (b : Bytes) (x : Option Bytes) : (Holds w b).set x w = ({orig := none} : St).set x w := by
  cases w <;> rfl

@[simp] theorem set_none (w : Which) : ({orig := none} : St).set none w = {orig := none} := by cases w <;> rfl

@[simp] theorem out_holds (w : Which) (b : Bytes) : (Holds w b).out = [] := by cases w <;> rfl

theorem does_makeRoom {pad : Nat} {Q : Room → St → Prop} (hfail : Q .failed {orig := some d})
    (hgot : ∀ (w : Which) (g : Bytes), g.length = pad → Q (.got w) (Holds w (g ++ d))) :
    wp (rules env) (makeRoom pad) {orig := some d} Q := by
  simp only [makeRoom,wp_bind,wp_ite,does_ask,wp_pure]
  intro room _ aligned _
  refine ⟨fun _ lin _ => ⟨fun _ => hfail,fun _ al _ => ⟨fun _ => hfail,fun _ => ?_⟩⟩,fun _ => ?_⟩
  · refine does_copyBehind rfl rfl fun g hg => ?_
    exact does_free (w := .orig) (d := d) rfl (hgot .new g hg)
  · exact does_skbPush rfl fun g hg => hgot .orig g hg

/-- The frame for the payload `d`: with a checksum, if that was asked for when it was made. -/
def Framed (env : Test → Bool → Prop) (computeChecksum : Bytes → UInt16) (p : Prefix) (d f : Bytes) : Prop :=
  ∃ on, env .checksumEnabled on ∧ f = p (if on then computeChecksum (p 0 ++ d) else 0) ++ d

variable {computeChecksum : Bytes → UInt16}

theorem drop_front {a g : Bytes} (h : a.length = g.length) : (g ++ d).drop a.length = d := by rw [h,List.drop_left]

theorem does_setHeader {w : Which} {g : Bytes} {p : Prefix} {Q : Unit → St → Prop} (hp : ∀ c, (p c).length = g.length)
    (hQ : ∀ f, Framed env computeChecksum p d f → Q () (Holds w f)) :
    wp (rules env) (setHeader computeChecksum w p) (Holds w (g ++ d)) Q := by
  have hlen : ∀ (c : UInt16) (a : Bytes), a.length = g.length → (p c).length ≤ (a ++ d).length := by
    intro c a ha
    rw [hp c,List.length_append]
    omega
  rw [setHeader,wp_bind]
  refine does_fill (get_holds w _) (hlen 0 g rfl) ?_
  rw [set_holds,drop_front (hp 0),wp_bind,does_ask]
  intro on hon
  rw [wp_ite]
  refine ⟨fun hc => ?_,fun hc => hQ _ ⟨false,?_,?_⟩⟩
  · rw [wp_bind]
    refine (does_skbData (get_holds w _)).mpr (does_fill (get_holds w _) (hlen _ _ (hp 0)) ?_)
    rw [set_holds,drop_front ((hp _).trans (hp 0).symm)]
    exact hQ _ ⟨true,by simpa [hc] using hon,by simp⟩
  · simpa [show on = false by simpa using hc] using hon
  · simp

/-- Whatever it returns, the skb is not the caller's any more. -/
theorem does_espSendPacket {w : Which} {f : Bytes} {Q : Bool → St → Prop} (hdrop : Q true {orig := none})
    (hsent : ∀ fail, Q fail {orig := none, out := [f]}) : wp (rules env) (espSendPacket w) (Holds w f) Q := by
  have hfree : wp (rules env) (devKfreeSkb w) (Holds w f) fun _ s => Q true s := by
    refine does_free (get_holds w f) ?_
    rwa [set_holds,set_none]
  simp only [espSendPacket,wp_bind,wp_ite,does_ask,wp_pure]
  refine fun there _ => ⟨fun _ => hfree,fun _ r _ c _ a _ b _ => ⟨fun _ => hfree,fun _ => ?_⟩⟩
  refine does_ifWrite (get_holds w f) ?_
  rw [set_holds,set_none,out_holds]
  exact fun ok _ => hsent _

/-! The two entries. -/

theorem padLen_bounds (len : Nat) : headerSize ≤ padLen len ∧ padLen len ≤ headerSize+3 ∧ (len+padLen len)%4 = 0 := by
  simp only [padLen,headerSize,SKB_DATA_ADDR_ALIGNMENT]
  omega

theorem netPrefix_length (i : Iface) (eapol : Bool) (len : Nat) (c : UInt16) :
    (netPrefix i eapol len (padLen len) c).length = padLen len := by
  have h := (padLen_bounds len).1
  simp [netPrefix]
  omega

theorem btPrefix_length (pktType : UInt8) (len : Nat) (c : UInt16) :
    (btPrefix pktType len (padLen len) c).length = padLen len := by
  have h := (padLen_bounds len).1
  simp only [headerSize] at h
  simp [btPrefix,headerSize]
  omega

/-- What may become of the caller's skb with the data `d`. -/
def XmitEnds (env : Test → Bool → Prop) (computeChecksum : Bytes → UInt16) (i : Iface) (eapol : Bool) (d : Bytes)
    (ret : NetdevTx) (s : St) : Prop :=
  (ret = .busy ∧ s = {orig := some d}) ∨
    (ret = .ok ∧ (s = {orig := none} ∨
      ∃ f, s = {orig := none, out := [f]} ∧ (eapol = true ∨ env .portOpen true) ∧
        Framed env computeChecksum (netPrefix i eapol d.length (padLen d.length)) d f))

theorem xmit_dropped {i : Iface} {eapol : Bool} : XmitEnds env computeChecksum i eapol d .ok {orig := none} :=
  .inr ⟨rfl,.inl rfl⟩

theorem processTxPacket_ends (i : Iface) (eapol : Bool) :
    wp (rules env) (processTxPacket computeChecksum i eapol) {orig := some d} (XmitEnds env computeChecksum i eapol d) := by
  have hfree : wp (rules env) (devKfreeSkb .orig) {orig := some d} fun _ s =>
      XmitEnds env computeChecksum i eapol d .ok s := does_free (w := .orig) (d := d) rfl xmit_dropped
  simp only [processTxPacket,wp_bind,wp_ite,does_ask,wp_pure]
  refine fun priv _ => ⟨fun _ => hfree,fun _ stopped _ => ⟨fun _ => .inl ⟨rfl,rfl⟩,fun _ sleep _ => ⟨fun _ => .inl ⟨rfl,rfl⟩,?_⟩⟩⟩
  intro _
  refine (does_skbLen rfl).mpr (does_makeRoom ?_ fun w g hg => ?_)
  · exact (wp_bind _ _).mpr hfree
  · rw [wp_bind]
    refine does_setHeader (fun c => (netPrefix_length i eapol d.length c).trans hg.symm) fun f hf => ?_
    simp only [wp_bind,wp_ite,does_ask,wp_pure]
    intro stop _ port hport
    refine ⟨fun hgo => ?_,fun _ => does_free (get_holds w f) ?_⟩
    · have hopen : eapol = true ∨ env .portOpen true := by
        cases eapol with
        | true => exact .inl rfl
        | false => exact .inr (by simp_all)
      exact does_espSendPacket xmit_dropped fun _ => .inr ⟨rfl,.inr ⟨f,rfl,hopen,hf⟩⟩
    · rw [set_holds,set_none]
      exact xmit_dropped

/-- `NETDEV_TX_BUSY` gives the skb back as it was; otherwise both skbs are gone, and at most one frame is with the
transport, which only EAPOL may be while the port is closed. -/
theorem xmit_custody (env : Test → Bool → Prop) (computeChecksum : Bytes → UInt16) (i : Iface) (eapol : Bool) (d : Bytes) :
    wp (rules env) (espHardStartXmit computeChecksum i eapol) {orig := some d} fun ret s =>
      XmitEnds env computeChecksum i eapol d ret s ∧ (s.out ≠ [] → 0 < d.length ∧ d.length ≤ ETH_FRAME_LEN) := by
  have hdrop : XmitEnds env computeChecksum i eapol d .ok {orig := none} ∧
      (({orig := none} : St).out ≠ [] → 0 < d.length ∧ d.length ≤ ETH_FRAME_LEN) := ⟨xmit_dropped,fun h => absurd rfl h⟩
  have hfree : wp (rules env) (devKfreeSkb .orig) {orig := some d} fun _ s =>
      XmitEnds env computeChecksum i eapol d .ok s ∧ (s.out ≠ [] → 0 < d.length ∧ d.length ≤ ETH_FRAME_LEN) :=
    does_free (w := .orig) (d := d) rfl hdrop
  simp only [espHardStartXmit,wp_bind,wp_ite,does_ask,wp_pure]
  refine fun priv _ => ⟨fun _ => hfree,fun _ port _ => ⟨fun _ => hfree,fun _ => (does_skbLen rfl).mpr ?_⟩⟩
  refine ⟨fun _ => hfree,fun hlen => ?_⟩
  simp only [Bool.or_eq_true,decide_eq_true_eq,not_or] at hlen
  exact wp_mono (rules_mono env) (fun _ _ h => ⟨h,fun _ => by omega⟩) (processTxPacket_ends i eapol)

def BtEnds (env : Test → Bool → Prop) (computeChecksum : Bytes → UInt16) (pktType : UInt8) (d : Bytes) (ok : Bool) (s : St) :
    Prop :=
  (ok = false ∧ s = {orig := some d}) ∨
    (ok = true ∧ (s = {orig := none} ∨
      ∃ f, s = {orig := none, out := [f]} ∧ env .btSessionReady true ∧
        Framed env computeChecksum (btPrefix pktType d.length (padLen d.length)) d f))

/-- The HCI core frees the skb when the driver returns an error, so it keeps it then and only then. -/
theorem bt_custody (env : Test → Bool → Prop) (computeChecksum : Bytes → UInt16) (pktType : UInt8) (d : Bytes) :
    wp (rules env) (espBtSendFrame computeChecksum pktType) {orig := some d} (BtEnds env computeChecksum pktType d) := by
  simp only [espBtSendFrame,wp_bind,wp_ite,does_ask,wp_pure]
  refine fun there _ => ⟨fun _ => .inl ⟨rfl,rfl⟩,fun _ ready hready => ⟨fun _ => .inl ⟨rfl,rfl⟩,fun hr => ?_⟩⟩
  refine (does_skbLen rfl).mpr (does_makeRoom (.inl ⟨rfl,rfl⟩) fun w g hg => ?_)
  rw [wp_bind]
  refine does_setHeader (fun c => (btPrefix_length pktType d.length c).trans hg.symm) fun f hf => ?_
  have hup : env .btSessionReady true := by simpa [show ready = true by simpa using hr] using hready
  rw [wp_bind]
  have hsent : BtEnds env computeChecksum pktType d true {orig := none, out := [f]} := .inr ⟨rfl,.inr ⟨f,rfl,hup,hf⟩⟩
  refine does_espSendPacket ?_ fun fail => ?_
  · exact (wp_ite _ _ _).mpr ⟨fun _ => .inr ⟨rfl,.inl rfl⟩,by simp⟩
  · exact (wp_ite _ _ _).mpr ⟨fun _ => hsent,fun _ => hsent⟩

end EspHosted.HostTx
