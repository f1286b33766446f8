import EspHosted.BootChecksum
import EspHosted.Lib.Word
import EspHosted.MonitorCapture
import EspHosted.RcpEndpoint
import EspHosted.SkbRxSafe

/-!
The receive path follows the skb. What it decides is modelled without one in `MonitorCapture` (the
monitor interface), `RcpEndpoint` (the RCP queues) and `BootChecksum` (the boot events): the skb
ends where these say.
-/

set_option autoImplicit false

namespace EspHosted.SkbRx
open EspHosted Prog Packed

variable {env : Test → Bool → Prop} {c : Config} {f d : Bytes} {rs : List Report}

/-! The monitor interface. -/

theorem readMeta_field (d : Bytes) : Capture.readMeta (field 0 metaSize d) = Capture.readMeta d := by
  have hcut : ∀ off n, off+n ≤ 18 → field off n (field 0 metaSize d) = field off n d :=
    fun _ _ h => field_take d h
  simp (disch := decide) only [Capture.readMeta,Capture.byteAt,hcut]

theorem le_lt (off n : Nat) (b : Bytes) : le off n b < 256^n := by
  have hlen : (field off n b).length ≤ n := List.length_take_le _ _
  exact (leValue_lt _).trans_le (Nat.pow_le_pow_right (by decide) hlen)

theorem readMeta_frameLen (b : Bytes) : (Capture.readMeta b).frameLen.toNat = le 12 2 b := by
  have hlt := le_lt 12 2 b
  simp only [Capture.readMeta,UInt16.toNat_ofNat',le] at *
  omega

variable {toFrequency : UInt8 → Capture.Band → UInt16}

theorem espCfg80211MonitorRx_agrees (h : Capture.Host) (e : Capture.RxEnv)
    (hradiotap : ∀ evt, c.radiotap evt = Capture.espMonitorRadiotap toFrequency (Capture.readMeta evt) 32)
    (hup : ∀ b, env .monitorUp b → b = h.up) (hcow : ∀ b, env .cowHead b → b = e.cow) :
    wp (rules env) (espCfg80211MonitorRx c) ⟨.held f d,rs⟩ fun _ s =>
      s = ⟨.gone ((Capture.espCfg80211MonitorRx toFrequency h e d).2.map (Prod.mk .monitor)),rs⟩ := by
  have hmeta := readMeta_field d
  have hlen := readMeta_frameLen (field 0 metaSize d)
  rw [hmeta] at hlen
  have hversion : byteOf 0 (field 0 metaSize d) = (Capture.readMeta d).version := by rw [← hmeta]; rfl
  have hchannel : byteOf 2 (field 0 metaSize d) = (Capture.readMeta d).channel := by rw [← hmeta]; rfl
  simp only [espCfg80211MonitorRx,wp_bind,wp_ite,does_ask,does_skbLen,does_read,does_kfreeSkb,does_skbPull,does_trimTo,
    does_skbPush,does_give,← hlen,hversion,hchannel,hradiotap,hmeta]
  have hsplit : ((Capture.readMeta d).frameLen.toNat = 0) = ((Capture.readMeta d).frameLen = 0) := by
    rw [← UInt16.toNat_inj]
    rfl
  intro up hu
  obtain rfl := hup up hu
  refine ⟨fun hdown => ?_,fun hopen => ⟨fun hshort => ?_,fun hn => ⟨by omega,fun hv => ?_,fun hv => ?_⟩⟩⟩
  · simp [Capture.espCfg80211MonitorRx,hdown]
  · simp [Capture.espCfg80211MonitorRx,hopen,hshort]
  · simp [Capture.espCfg80211MonitorRx,hopen,hn,hv]
  · refine ⟨fun hbad => ?_,fun hbad => ?_⟩
    · simp only [hsplit,Bool.or_eq_true,decide_eq_true_eq,or_assoc] at hbad
      simp [Capture.espCfg80211MonitorRx,hopen,hn,hv,hbad]
    · simp only [hsplit,Bool.or_eq_true,decide_eq_true_eq,or_assoc] at hbad
      refine ⟨fun hnone => ?_,fun hsome => ⟨by omega,fun cow hc => ?_⟩⟩
      · simp [Capture.espCfg80211MonitorRx,hopen,hn,hv,hbad,hnone]
      · obtain rfl := hcow cow hc
        refine ⟨fun hcow => ?_,fun hcow => ?_⟩
        · simp [Capture.espCfg80211MonitorRx,hopen,hn,hv,hbad,hsome,hcow]
        · cases ha : e.accepted <;>
            simp [Capture.espCfg80211MonitorRx,hopen,hn,hv,hbad,hsome,hcow,ha,field]

/-! The RCP interface. -/

/-- What the endpoint `s` answers. -/
def rcpAnswers (s : Rcp.Endpoint) : Test → Bool → Prop
  | .rcpFailClosed, b => b = Rcp.espRcpFailClosedRequired s
  | .rcpBootPending, b => b = s.bootPending
  | .rcpEarlyFull, b => b = decide (Rcp.ESP_RCP_RX_QUEUE_LIMIT ≤ s.earlyQ.length)
  | .rcpRegistered, b => b = (s.registered && s.sessionActive && Rcp.espRcpSessionReady s)
  | .rcpOpened, b => b = s.opened
  | .rcpAcked, b => b = decide (s.ackedNonce = s.nonce)
  | .rcpOpeningFirst, b => b = s.openingFirst
  | .rcpFull, b => b = decide (Rcp.ESP_RCP_RX_QUEUE_LIMIT ≤ s.rxQ.length)
  | _, _ => True

/-- The skb is the last one of a queue, or no queue has grown. -/
def Queued (s s' : Rcp.Endpoint) : Option (Sink × Bytes) → Prop
  | none => (s'.rxQ = s.rxQ ∨ s'.rxQ = []) ∧ (s'.earlyQ = s.earlyQ ∨ s'.earlyQ = [])
  | some (.rcpRx,b) => s'.rxQ = s.rxQ ++ [b] ∧ s'.earlyQ = s.earlyQ
  | some (.rcpEarly,b) => s'.rxQ = s.rxQ ∧ s'.earlyQ = s.earlyQ ++ [b]
  | some _ => False

theorem espRcpRx_agrees (clock : Recovery.Clock) (now : Nat) (s : Rcp.Endpoint) :
    wp (rules (rcpAnswers s)) espRcpRx ⟨.held f d,rs⟩ fun _ st =>
      st.reports = rs ∧ ∃ dest, st.skb = .gone dest ∧ Queued s (Rcp.espRcpRx clock now s d) dest := by
  have hready : Rcp.espRcpSessionReady {s with handed := s.handed ++ [d]} = Rcp.espRcpSessionReady s := rfl
  have hopen : (s.registered && s.sessionActive && Rcp.espRcpSessionReady s) = false ↔
      s.registered = false ∨ s.sessionActive = false ∨ Rcp.espRcpSessionReady s = false := by
    simp only [Bool.and_eq_false_iff,or_assoc]
  simp only [espRcpRx,rcpOverflow,wp_bind,wp_ite,does_ask,does_kfreeSkb,does_give,does_recover,rcpAnswers,forall_eq,
    Bool.not_eq_true',decide_eq_true_eq,decide_eq_false_iff_not,hopen,Skb.gone.injEq,exists_eq_left',true_and,
    Rcp.espRcpRx,hready]
  refine ⟨fun hp => ⟨fun hf => ?_,fun hf => ?_⟩,
    fun hp => ⟨fun hr => ?_,fun hr => ⟨fun ho => ?_,fun ho => ⟨fun ha => ?_,fun ha => ?_⟩⟩⟩⟩
  · rw [if_pos hp,if_pos hf]
    exact ⟨.inl rfl,.inr rfl⟩
  · rw [if_pos hp,if_neg hf]
    exact ⟨rfl,rfl⟩
  · rw [if_neg hp,if_pos hr]
    exact ⟨.inl rfl,.inl rfl⟩
  · rw [if_neg hp,if_neg hr,if_pos ho]
    exact ⟨.inl rfl,.inl rfl⟩
  · rw [if_neg hp,if_neg hr,if_neg ho,if_pos ha]
    refine ⟨fun hq => ?_,fun hq => ⟨fun hf => ?_,fun hf => ?_⟩⟩
    · rw [if_pos hq]
      exact ⟨.inl rfl,.inl rfl⟩
    · rw [if_neg hq,if_pos hf]
      exact ⟨.inl rfl,.inr rfl⟩
    · rw [if_neg hq,if_neg hf]
      exact ⟨rfl,rfl⟩
  · rw [if_neg hp,if_neg hr,if_neg ho,if_neg ha]
    refine ⟨fun hf => ?_,fun hf => ?_⟩
    · rw [if_pos hf]
      exact ⟨.inr rfl,.inl rfl⟩
    · rw [if_neg hf]
      exact ⟨rfl,rfl⟩

/-- A frame of the RCP interface as `RcpEndpoint` has it; a marker of another size or version is passed over. -/
def rcpPacket (hdr d : Bytes) : Option Rcp.Packet :=
  let body := d.take (le 4 2 hdr)
  if byteOf 2 hdr = PACKET_TYPE_RCP_SESSION then
    if body.length = rcpSessionMarkerSize ∧ byteOf 0 body = ESP_RCP_SESSION_VERSION then
      some (.session (UInt64.ofNat (le 4 8 body)))
    else none
  else if byteOf 2 hdr ≠ PACKET_TYPE_DATA ∨ le 4 2 hdr = 0 then some .unknown
  else some (.data body)

def Follows (clock : Recovery.Clock) (now : Nat) (s : Rcp.Endpoint) (rs : List Report) :
    Option Rcp.Packet → St → Prop
  | some (.session nonce), st => st = ⟨.gone none,rs ++ [.rcpSession nonce.toNat]⟩
  | some (.data b), st =>
    st.reports = rs ∧ ∃ dest, st.skb = .gone dest ∧ Queued s (Rcp.processRxPacket clock now s (.data b)) dest
  | _, st => st = ⟨.gone none,rs⟩

theorem le_nonce (b : Bytes) : (UInt64.ofNat (le 4 8 b)).toNat = le 4 8 b := by
  have hlt := le_lt 4 8 b
  rw [UInt64.toNat_ofNat']
  exact Nat.mod_eq_of_lt hlt

theorem rcpFrame_agrees (clock : Recovery.Clock) (now : Nat) (s : Rcp.Endpoint) {hdr : Bytes}
    (hin : le 4 2 hdr ≤ d.length) :
    wp (rules (rcpAnswers s)) (rcpFrame hdr) ⟨.held f d,rs⟩ fun _ st =>
      Follows clock now s rs (rcpPacket hdr d) st := by
  have hlen : (d.take (le 4 2 hdr)).length = le 4 2 hdr := by
    rw [List.length_take]
    exact Nat.min_eq_left hin
  rw [rcpFrame,wp_ite]
  refine ⟨fun hs => ?_,fun hs => (wp_ite _ _ _).mpr ⟨fun hu => ?_,fun hu => ?_⟩⟩
  · rw [wp_bind,does_trimTo,wp_bind,espRcpSessionAck,wp_bind,does_skbLen,wp_ite]
    refine ⟨fun hn => ?_,fun hn => ?_⟩
    · rw [rcpPacket,if_pos hs,if_neg fun h => hn h.1]
      rfl
    · rw [not_not] at hn
      have hall : field 0 rcpSessionMarkerSize (d.take (le 4 2 hdr)) = d.take (le 4 2 hdr) := by
        rw [← hn]
        exact field_all _
      rw [wp_bind,does_read,hall,wp_ite]
      refine ⟨by omega,fun hv => ?_,fun hv => ?_⟩
      · rw [rcpPacket,if_pos hs,if_pos ⟨hn,hv⟩]
        simp only [Follows,does_report,does_kfreeSkb,le_nonce]
      · rw [rcpPacket,if_pos hs,if_neg fun h => hv h.2]
        rfl
  · rw [rcpPacket,if_neg hs,if_pos hu]
    rfl
  · rw [wp_bind,does_trimTo,rcpPacket,if_neg hs,if_neg hu]
    rw [not_or] at hu
    have hne : ¬(d.take (le 4 2 hdr)).length = 0 := by rw [hlen]; exact hu.2
    simp only [Follows,Rcp.processRxPacket,if_neg hne]
    exact espRcpRx_agrees clock now s

/-- Every frame of the RCP interface is dropped by the checks or ends as the endpoint has it. -/
theorem processRxPacket_rcp (clock : Recovery.Clock) (now : Nat) (s : Rcp.Endpoint) {skb : Bytes}
    (hi : hdrIfType (head skb) = ESP_RCP_IF) :
    wp (rules (rcpAnswers s)) (processRxPacket c) ⟨.held [] skb,rs⟩ fun _ st =>
      st = ⟨.gone none,rs⟩ ∨
        Follows clock now s rs (rcpPacket (head skb) (skb.drop (le 6 2 (head skb)))) st := by
  refine does_processRxPacket (.inl rfl) fun ha f => ?_
  have hspan := ha.span
  have hrcp : dispatch c (head skb) = rcpFrame (head skb) := by
    rw [dispatch,hi]
    rfl
  rw [hrcp]
  refine wp_mono (rules_mono _) (fun _ st h => .inr h) (rcpFrame_agrees clock now s ?_)
  rw [List.length_drop]
  omega

/-! The boot events. -/

theorem getD_drop (b : Bytes) (off i : Nat) : (b.drop off).getD i 0 = b.getD (off+i) 0 := by
  simp only [List.getD_eq_getElem?_getD,List.getElem?_drop]

theorem byteOf_eq (i : Nat) (b : Bytes) : byteOf i b = b.getD i 0 := by
  simp [byteOf,field,List.getD_eq_getElem?_getD]

theorem byteOf_field {i n : Nat} (off : Nat) (b : Bytes) (h : i+1 ≤ n) :
    byteOf i (field off n b) = (b.drop off).getD i 0 := by
  rw [← byteOf_eq]
  exact congrArg (·.getD 0 0) (field_take (b.drop off) h)

theorem two_le_length {l : Bytes} (h : 2 ≤ l.length) : ∃ a b t, l = a :: b :: t := by
  rcases l with _ | ⟨a,_ | ⟨b,t⟩⟩
  · simp at h
  · simp at h
  · exact ⟨a,b,t,rfl⟩

theorem le_head {skb : Bytes} {off : Nat} (hlen : headerSize ≤ skb.length) (ho : off+2 ≤ headerSize) :
    le off 2 (head skb) = le16ToCpu (skb.getD off 0) (skb.getD (off+1) 0) := by
  have hcut : field off 2 (head skb) = field off 2 skb := field_take skb ho
  have h0 := getD_drop skb off 0
  have h1 := getD_drop skb off 1
  have htwo : 2 ≤ (skb.drop off).length := by
    rw [List.length_drop]
    omega
  obtain ⟨a,b,t,hd⟩ := two_le_length htwo
  rw [hd] at h0 h1
  simp only [List.getD_cons_zero,List.getD_cons_succ] at h0 h1
  rw [le,hcut,field,hd]
  simp [leValue,le16ToCpu,h0,h1]

theorem hdrIfType_head (skb : Bytes) : hdrIfType (head skb) = hdrIfType skb := by
  cases skb with
  | nil => rfl
  | cons b skb => rfl

theorem zeroed_eq {skb : Bytes} (h : headerSize ≤ skb.length) : zeroed skb = SpiHd.setChecksum skb 0 := by
  simp only [headerSize] at h
  have h8 : skb.set 8 0 = skb.take 8 ++ 0 :: skb.drop 9 :=
    List.set_eq_take_append_cons_drop .. |>.trans (if_pos (by omega))
  have hl : (skb.take 8).length = 8 := by rw [List.length_take]; omega
  have h9 : skb.drop 9 = skb[9] :: skb.drop 10 := List.drop_eq_getElem_cons (by omega)
  show _ = (skb.set 8 0).set 9 0
  rw [h8,h9,List.set_append_right _ _ (by omega),hl,zeroed,List.append_assoc]
  rfl

/-- The bit of a capability of one byte. -/
theorem capability_bit (x : UInt8) :
    Boot.testBit (Boot.leNat [x]) SpiReboot.checksumBit = decide (x &&& ESP_CHECKSUM_ENABLED ≠ 0) := by
  have hand := Word.and_mask x.toNat 1 7
  have hmod := Nat.mod_lt (x.toNat/2^7) (show 0 < 2^1 by decide)
  rw [Boot.testBit,decide_eq_decide,ne_eq,← UInt8.toNat_inj,UInt8.toNat_and]
  simp [Boot.leNat,SpiReboot.checksumBit,ESP_CHECKSUM_ENABLED] at *
  omega

theorem requiredTlvs_short (sum : Bool) (fuel : Nat) {l : Bytes} (h : l.length < 2) :
    BootChecksum.requiredTlvs sum (fuel+1) l = sum := by
  rcases l with _ | ⟨_,_ | ⟨_,_⟩⟩
  · rfl
  · rfl
  · simp only [List.length_cons] at h
    omega

theorem does_checksumTlvs_eq (sum : Bool) {skb : Bytes} {st : St} {Q : Bool → St → Prop}
    (hst : st.skb = .held [] skb) (fuel pos left : Nat) (hin : pos+left ≤ skb.length)
    (h : Q (BootChecksum.requiredTlvs sum fuel (field pos left skb)) st) :
    wp (rules env) (checksumTlvs sum fuel pos left) st Q := by
  obtain ⟨_,rs⟩ := st
  cases hst
  induction fuel generalizing pos left with
  | zero =>
    have hsum : BootChecksum.requiredTlvs sum 0 (field pos left skb) = sum := by
      cases field pos left skb <;> rfl
    rwa [hsum] at h
  | succ fuel ih =>
    have hlen := field_length hin
    simp only [checksumTlvs,wp_bind,wp_ite,wp_pure,does_peek,List.nil_append]
    refine ⟨fun hl => ?_,fun hl => ?_⟩
    · rwa [requiredTlvs_short sum fuel (by omega)] at h
    · obtain ⟨tag,n,rest,hf⟩ := two_le_length (l := field pos left skb) (by omega)
      rw [hf] at h hlen
      simp only [List.length_cons] at hlen
      have htake : ∀ w, w ≤ left → field pos w skb = (tag :: n :: rest).take w := fun w hw => by
        rw [← hf,field,field,List.take_take,Nat.min_eq_left hw]
      have hdrop : ∀ k, field (pos+k) (left-k) skb = (tag :: n :: rest).drop k := fun k => by
        rw [← hf,field,field,List.drop_take,List.drop_drop]
      have hhead : field pos 2 skb = [tag,n] := htake 2 (by omega)
      have htag : byteOf 0 [tag,n] = tag := rfl
      have hcount : byteOf 1 [tag,n] = n := rfl
      have hiff : tag.toNat = ESP_BOOTUP_CAPABILITY.toNat ↔ tag = ESP_BOOTUP_CAPABILITY := UInt8.toNat_inj
      rw [hhead,htag,hcount]
      simp only [BootChecksum.requiredTlvs,hiff] at h
      refine ⟨by omega,fun hshort => ?_,fun hfit => ⟨fun hcap => ?_,fun hcap => ?_⟩⟩
      · rwa [if_pos (by omega)] at h
      · rw [if_neg (by omega),if_pos hcap] at h
        refine ⟨by omega,?_⟩
        have hone : (tag :: n :: rest).drop 2 = rest := rfl
        have hcapField : field (pos+2) 1 skb = rest.take 1 := by
          rw [← hone,← hdrop 2,field,field,List.take_take,Nat.min_eq_left (by omega)]
        have hbit : decide (byteOf 0 (field (pos+2) 1 skb) &&& ESP_CHECKSUM_ENABLED ≠ 0) =
            Boot.testBit (Boot.leNat (rest.take 1)) SpiReboot.checksumBit := by
          rw [hcapField]
          cases rest with
          | nil =>
            simp only [List.length_nil] at hlen
            omega
          | cons x t => exact (capability_bit x).symm
        rw [hcap.2,← hbit] at h
        exact h
      · rw [if_neg (by omega),if_neg hcap] at h
        refine ih _ _ (by omega) ?_
        rw [hdrop]
        exact h

theorem does_checksumRequired_eq {skb : Bytes} {len offset : Nat} {Q : Bool → St → Prop}
    (hin : len+offset ≤ skb.length)
    (h : Q (BootChecksum.espInternalChecksumRequired skb len offset) ⟨.held [] skb,rs⟩) :
    wp (rules env) (espInternalChecksumRequired len offset (SpiHd.hdrChecksum skb != 0)) ⟨.held [] skb,rs⟩ Q := by
  have hcode := byteOf_field (i := 0) offset skb (show 0+1 ≤ bootDataOffset by decide)
  have hcount := byteOf_field (i := 4) offset skb (show 4+1 ≤ bootDataOffset by decide)
  have hdata : field (offset+bootDataOffset) ((skb.drop offset).getD 4 0).toNat skb =
      ((skb.drop offset).drop bootDataOffset).take ((skb.drop offset).getD 4 0).toNat := by
    rw [List.drop_drop]
    rfl
  have hiff : (skb.drop offset).getD 0 0 ≠ ESP_INTERNAL_BOOTUP_EVENT ↔
      ((skb.drop offset).getD 0 0).toNat ≠ ESP_INTERNAL_BOOTUP_EVENT.toNat := not_congr UInt8.toNat_inj.symm
  simp only [espInternalChecksumRequired,wp_bind,wp_ite,wp_pure,does_peek,List.nil_append,hcode,hcount,hiff]
  simp only [BootChecksum.espInternalChecksumRequired] at h
  refine ⟨fun hl => ?_,fun hl => ⟨by omega,fun he => ?_,fun he => ⟨fun hn => ?_,fun hn => ?_⟩⟩⟩
  · rwa [if_pos hl] at h
  · rwa [if_neg hl,if_pos he] at h
  · rwa [if_neg hl,if_neg he,if_pos hn] at h
  · rw [if_neg hl,if_neg he,if_neg hn,← hdata] at h
    exact does_checksumTlvs_eq _ rfl _ _ _ (by omega) h

/-- Only an skb that is put on the queue gets past the driver that is going away. -/
theorem internalFrame_agrees {gone : Bool} (hwq : ¬env .eventsWq false)
    (hgone : ∀ u r, env .driverUnloading u → env .transportRemoving r → (u || r) = gone) :
    wp (rules env) internalFrame ⟨.held f d,rs⟩ fun _ st =>
      st.skb = .gone (if gone then none else some (.events,d)) := by
  have htail : ∀ rs, wp (rules env) (do
      if (← ask .driverUnloading) || (← ask .transportRemoving) then kfreeSkb
      else
        give .events
        if !(← ask .eventsWq) then kfreeSkb) ⟨.held f d,rs⟩ fun _ st =>
          st.skb = .gone (if gone then none else some (.events,d)) := by
    intro rs
    simp only [wp_bind,wp_ite,does_ask,does_give,does_kfreeSkb,does_kfreeSkb_gone,wp_pure]
    intro u hu r hr
    rw [hgone u r hu hr]
    refine ⟨fun hg => by rw [if_pos hg],fun hg b hb => ⟨fun hno => ?_,fun _ => by rw [if_neg hg]⟩⟩
    cases b with
    | false => exact hwq hb
    | true => cases hno
  rw [internalFrame,wp_bind,does_skbLen,wp_ite]
  refine ⟨fun hn => ?_,fun _ => htail rs⟩
  rw [wp_bind,does_read,wp_ite]
  refine ⟨by omega,fun _ => ?_,fun _ => htail rs⟩
  rw [wp_bind]
  refine espBootupEventStructurallyValid_looks.wp fun v rs => (wp_ite _ _ _).mpr ⟨fun _ => ?_,fun _ => htail rs⟩
  rw [wp_bind]
  refine espBootupEventLegacyRcpActive_looks.wp fun legacy rs => ?_
  rw [wp_bind,does_ask]
  refine fun b _ => (wp_ite _ _ _).mpr ⟨fun _ => ?_,fun _ => htail rs⟩
  rw [wp_bind,does_report]
  exact htail _

theorem checksum_eq {skb : Bytes} (hsum : ∀ b, c.computeChecksum b = (SpiReboot.computeChecksum b b.length).toNat)
    (hwhole : headerSize ≤ skb.length) :
    decide (c.computeChecksum (field 0 (hdrLen skb+hdrOffset skb) (zeroed skb)) = SpiHd.hdrChecksum skb) =
      BootChecksum.checksumOk skb := by
  have hcut : field 0 (hdrLen skb+hdrOffset skb) (zeroed skb) = (zeroed skb).take (hdrLen skb+hdrOffset skb) := rfl
  rw [hsum,hcut,SpiReboot.computeChecksum,List.take_length,zeroed_eq hwhole]
  rfl

/-- An internal frame that has passed the checksum is queued, with what lies behind its offset. -/
theorem admitted_events {gone : Bool} {hdr skb : Bytes} {off : Nat} (hi : hdrIfType hdr = ESP_INTERNAL_IF)
    (hoff : off ≤ skb.length) (hwq : ¬env .eventsWq false)
    (hgone : ∀ u r, env .driverUnloading u → env .transportRemoving r → (u || r) = gone) :
    wp (rules env) (do
      if ← closedTo hdr then kfreeSkb
      else
        skbPull off
        dispatch c hdr) ⟨.held [] skb,rs⟩ fun _ st =>
      st.skb = .gone ((if gone then none else some (skb.drop off)).map (Prod.mk .events)) := by
  have hplain : plain hdr = false := by simp [plain,hi]
  have hinternal : dispatch c hdr = internalFrame := by
    rw [dispatch,hi]
    rfl
  rw [wp_bind,closedTo,if_neg (by simp [hplain]),wp_pure,if_neg (by decide),wp_bind,does_skbPull,hinternal]
  have hmap : (if gone then none else some (skb.drop off)).map (Prod.mk Sink.events) =
      if gone then none else some (.events,skb.drop off) := by
    cases gone <;> rfl
  rw [hmap]
  exact ⟨hoff,internalFrame_agrees hwq hgone⟩

/-- What `process_rx_packet` puts on `events_skb_q` is what `internalRx` says; any other internal frame is freed. -/
theorem processRxPacket_events {s : BootChecksum.RxState} {skb : Bytes} (hi : hdrIfType skb = ESP_INTERNAL_IF)
    (hsum : ∀ b, c.computeChecksum b = (SpiReboot.computeChecksum b b.length).toNat) (hwq : ¬env .eventsWq false)
    (hgone : ∀ u r, env .driverUnloading u → env .transportRemoving r → (u || r) = s.gone) :
    wp (rules env) (processRxPacket c) ⟨.held [] skb,rs⟩ fun _ st =>
      st.skb = .gone ((BootChecksum.internalRx s skb).map (Prod.mk .events)) := by
  rw [processRxPacket,wp_bind,does_skbLen,wp_ite]
  refine ⟨fun hshort => does_dropCorrupt ?_,fun hn => ?_⟩
  · rw [BootChecksum.internalRx,if_pos hshort]
    rfl
  have hwhole : headerSize ≤ skb.length := by omega
  have hlen : le 4 2 (head skb) = hdrLen skb := le_head hwhole (by decide)
  have hoff : le 6 2 (head skb) = hdrOffset skb := le_head hwhole (by decide)
  have hck : le 8 2 (head skb) = SpiHd.hdrChecksum skb := le_head hwhole (by decide)
  have hif : hdrIfType (head skb) = ESP_INTERNAL_IF := (hdrIfType_head skb).trans hi
  rw [wp_bind,does_peek,List.nil_append,← head,hlen,hoff,wp_ite]
  refine ⟨by omega,fun hb => does_dropCorrupt ?_,fun hb => ?_⟩
  · simp only [Bool.or_eq_true,Bool.not_eq_true',decide_eq_true_eq,or_assoc] at hb
    rw [BootChecksum.internalRx,if_neg hn,if_pos hb]
    rfl
  simp only [Bool.or_eq_true,Bool.not_eq_true',decide_eq_true_eq,or_assoc] at hb
  have hfits : hdrLen skb+hdrOffset skb ≤ skb.length := by omega
  have hrest : wp (rules env) (behindBounds c (head skb)) ⟨.held [] skb,rs⟩ fun _ st =>
      st.skb = .gone ((BootChecksum.internalRx s skb).map (Prod.mk .events)) := by
    rw [BootChecksum.internalRx,if_neg hn,if_neg hb,if_neg (not_not.mpr hi)]
    have hne : decide (SpiHd.hdrChecksum skb ≠ 0) = (SpiHd.hdrChecksum skb != 0) := by
      rw [Bool.eq_iff_iff]
      simp
    rw [behindBounds,wp_bind,checksumPasses,wp_bind,validateChecksum,if_pos hif,hlen,hoff,hck,hne]
    refine does_checksumRequired_eq hfits ((wp_ite _ _ _).mpr ⟨fun hreq => ?_,fun hreq => ?_⟩)
    · have hz : skb.take 8 ++ [0,0] ++ skb.drop (8+[(0 : UInt8),0].length) = zeroed skb := rfl
      rw [checksumHolds,wp_bind,does_writeHead,hz,wp_bind,does_peek,wp_pure,List.nil_append,hlen,hoff,hck,
        checksum_eq hsum hwhole]
      have hle : headerSize ≤ hdrOffset skb := by
        rw [espOffsetValid_eq_false] at hb
        omega
      have hzl := zeroed_length hwhole
      refine ⟨rfl,by simp only [headerSize] at hwhole; simp; omega,by omega,?_⟩
      cases hok : BootChecksum.checksumOk skb with
      | false =>
        refine does_dropCorrupt ?_
        rw [if_pos ⟨hreq,rfl⟩]
        rfl
      | true =>
        have hkeep : ¬(BootChecksum.espInternalChecksumRequired skb (hdrLen skb) (hdrOffset skb) = true ∧
            true = false) := fun h => absurd h.2 (by decide)
        rw [if_neg (by decide),if_neg hkeep,← zeroed_drop hwhole hle]
        exact admitted_events hif (by omega) hwq hgone
    · rw [if_neg fun h => hreq h.1]
      exact admitted_events hif (by omega) hwq hgone
  refine (wp_ite _ _ _).mpr ⟨fun _ => ?_,fun _ => hrest⟩
  rw [wp_bind,does_peek]
  exact ⟨by simpa using hfits,hrest⟩

end EspHosted.SkbRx
