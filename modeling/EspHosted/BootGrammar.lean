import EspHosted.BootTlv
import Mathlib.Data.List.Nodup

/-!
The payloads that the parsing stage of `process_event_esp_bootup` accepts, and the boot
events that the firmware sends.
-/

set_option autoImplicit false

namespace EspHosted.Boot
open EspHosted

structure Tlv where
  tag : UInt8
  value : Bytes
  fits : value.length < 256
  deriving DecidableEq, Repr

def Tlv.wire (t : Tlv) : Bytes := t.tag :: UInt8.ofNat t.value.length :: t.value

def wire (ts : List Tlv) : Bytes := (ts.map Tlv.wire).flatten

def value? (ts : List Tlv) (tag : Nat) : Option Bytes :=
  (ts.find? (fun t => decide (t.tag.toNat = tag))).map Tlv.value

def knownTags : List Nat := [0,1,2,3,5,6,7,8]

def admissible (bus : Bus) (tag : Nat) (v : Bytes) : Bool :=
  match tag with
  | 0 => decide (v.length = 1 ∨ v.length = 2 ∨ v.length = 4)
  | 1 => decide (v.length = fwDataSize ∧ checkEspVersion v = 0)
  | 2 => decide (v.length = 1 ∧ leNat v ≠ 0)
  | 3 => decide (v.length = 1 ∧ leNat v ∈ supportedChips bus)
  | 5 => decide (v.length = 4) && txAggrSizeValid bus (leNat v)
  | 6 => decide (v.length = 4)
  | 7 => decide (v.length = 8)
  | 8 => decide (v.length = 7) && isValidEtherAddr (v.take 6) &&
      decide ((v.getD 6 0).toNat = 1 ∨ (v.getD 6 0).toNat = 2 ∨ (v.getD 6 0).toNat = 4)
  | _ => true

/-- The values of the TLVs, with the defaults for those that are absent. -/
def decode (ts : List Tlv) : BootMeta where
  capabilities := (value? ts 0).elim 0 leNat
  extCapabilities := (value? ts 6).elim 0 leNat
  rcpSessionNonce := (value? ts 7).elim 0 leNat
  baseMac := (value? ts 8).elim (List.replicate 6 0) (fun v => v.take 6)
  baseMacCount := (value? ts 8).elim 0 (fun v => (v.getD 6 0).toNat)
  baseMacPresent := (value? ts 8).isSome
  chipset := (value? ts 3).elim CHIP_UNRECOGNIZED leNat
  txAggrSize := (value? ts 5).elim 0 leNat

/-- A nonce comes with the RCP capability and is not zero; where the RCP is active from boot it comes. -/
structure NonceRules (ts : List Tlv) : Prop where
  advertised : (value? ts 7).isSome = true → extRcp (decode ts) = true
  legacy : extRcp (decode ts) = true → extRadioServiceCtrl (decode ts) = false →
    (value? ts 7).isSome = true ∧ (decode ts).rcpSessionNonce ≠ 0
  runtime : extRadioServiceCtrl (decode ts) = true → (value? ts 7).isSome = true → (decode ts).rcpSessionNonce ≠ 0

structure Grammar (bus : Bus) (ts : List Tlv) : Prop where
  unique : ((ts.map (fun t => t.tag.toNat)).filter (fun tag => decide (tag ∈ knownTags))).Nodup
  admissible : ∀ t ∈ ts, admissible bus t.tag.toNat t.value = true
  required : (value? ts 0).isSome = true ∧ (value? ts 3).isSome = true ∧ (value? ts 1).isSome = true
  transport : testBit (decode ts).capabilities (transportBit bus) = true
  nonce : NonceRules ts

/-- SPI-HD has no clock of its own to fall back to. -/
def ClockGiven (bus : Bus) (ts : List Tlv) : Prop := bus = .spiHd → (value? ts 2).isSome = true

/-! The loop. -/

def parsed (ts : List Tlv) : Parse where
  boot := decode ts
  seenCapability := (value? ts 0).isSome
  seenChipset := (value? ts 3).isSome
  seenFwData := (value? ts 1).isSome
  seenRxBufSize := (value? ts 5).isSome
  seenSpiClk := (value? ts 2).isSome
  seenExtCapability := (value? ts 6).isSome
  seenRcpNonce := (value? ts 7).isSome

/-- The loop takes `t` after `ts`. -/
def Follows (bus : Bus) (ts : List Tlv) (t : Tlv) : Prop :=
  (t.tag.toNat ∈ knownTags → value? ts t.tag.toNat = none) ∧ admissible bus t.tag.toNat t.value = true

theorem value?_snoc (ts : List Tlv) (t : Tlv) (tag : Nat) :
    value? (ts ++ [t]) tag = (value? ts tag).or (if t.tag.toNat = tag then some t.value else none) := by
  simp only [value?,List.find?_append,List.find?_singleton]
  cases ts.find? (fun t => decide (t.tag.toNat = tag)) with
  | some u => rfl
  | none =>
    by_cases h : t.tag.toNat = tag
    · simp [h]
    · simp [h]

variable {bus : Bus} {ts : List Tlv} {t : Tlv}

theorem known_of_ne {n : Nat} (h : n ∉ knownTags) (p : Parse) (v : Bytes) : applyTag bus p n v = (p,0) := by
  unfold applyTag
  split
  all_goals first | rfl | (exfalso; exact h (by decide))

theorem espAdjustSpiClock_of_ne {n : Nat} (h : n ≠ 0) : espAdjustSpiClock bus n = 0 := by
  simp [espAdjustSpiClock,h]

theorem espValidateChipset_of_mem {n : Nat} (h : n ∈ supportedChips bus) (m : BootMeta) :
    espValidateChipset bus m n = ({m with chipset := n},0) := by
  simp [espValidateChipset,h]

theorem applyTag_follows (h : Follows bus ts t) :
    applyTag bus (parsed ts) t.tag.toNat t.value = (parsed (ts ++ [t]),0) := by
  obtain ⟨hnew,hadm⟩ := h
  by_cases hknown : t.tag.toNat ∈ knownTags
  · have hnone := hnew hknown
    simp only [knownTags,List.mem_cons,List.not_mem_nil,or_false] at hknown
    rcases hknown with ht | ht | ht | ht | ht | ht | ht | ht
    all_goals
      rw [ht] at hnone hadm
      simp only [admissible,decide_eq_true_eq,Bool.and_eq_true] at hadm
    · simp [applyTag,parsed,decode,value?_snoc,ht,hnone,hadm]
    · simp [applyTag,parsed,decode,value?_snoc,ht,hnone,hadm]
    · simp [applyTag,parsed,decode,value?_snoc,ht,hnone,hadm,espAdjustSpiClock_of_ne]
    · simp [applyTag,parsed,decode,value?_snoc,ht,hnone,hadm,espValidateChipset_of_mem]
    · simp [applyTag,parsed,decode,value?_snoc,ht,hnone,hadm]
    · simp [applyTag,parsed,decode,value?_snoc,ht,hnone,hadm]
    · simp [applyTag,parsed,decode,value?_snoc,ht,hnone,hadm]
    · obtain ⟨⟨hlen,hmac⟩,hcount⟩ := hadm
      have hno : ¬((t.value.getD 6 0).toNat ≠ 1 ∧ (t.value.getD 6 0).toNat ≠ 2 ∧ (t.value.getD 6 0).toNat ≠ 4) := by
        omega
      simp only [applyTag,parsed,decode,hnone,hmac,hlen,hno,ht,value?_snoc]
      simp
  · have hne : ∀ tag ∈ knownTags, t.tag.toNat ≠ tag := fun tag htag he => hknown (he ▸ htag)
    rw [known_of_ne hknown]
    simp only [knownTags,List.forall_mem_cons] at hne
    simp [parsed,decode,value?_snoc,hne]

/-- The flag that the case of a known tag tests. -/
def Parse.seen (p : Parse) : Nat → Bool
  | 0 => p.seenCapability
  | 1 => p.seenFwData
  | 2 => p.seenSpiClk
  | 3 => p.seenChipset
  | 5 => p.seenRxBufSize
  | 6 => p.seenExtCapability
  | 7 => p.seenRcpNonce
  | 8 => p.boot.baseMacPresent
  | _ => false

theorem seen_parsed {n : Nat} (h : n ∈ knownTags) : (parsed ts).seen n = (value? ts n).isSome := by
  simp only [knownTags,List.mem_cons,List.not_mem_nil,or_false] at h
  rcases h with rfl | rfl | rfl | rfl | rfl | rfl | rfl | rfl <;> rfl

theorem applyTag_zero {p : Parse} {n : Nat} {v : Bytes} (h : (applyTag bus p n v).2 = 0) :
    p.seen n = false ∧ admissible bus n v = true := by
  unfold applyTag at h
  split at h
  · split at h
    · cases h
    · split at h
      · simp_all [Parse.seen,admissible]
      · cases h
  · split at h
    · cases h
    · split at h
      · cases h
      · split at h
        · simp_all [Parse.seen,admissible]
        · contradiction
  · split at h
    · cases h
    · split at h
      · cases h
      · simp_all [Parse.seen,admissible]
  · split at h
    · cases h
    · split at h
      · cases h
      · simp only [espValidateChipset] at h
        split at h
        · simp_all [Parse.seen,admissible]
        · split at h <;> cases h
  · split at h
    · cases h
    · split at h
      · cases h
      · split at h
        · simp_all [Parse.seen,admissible]
        · cases h
  · split at h
    · cases h
    · simp_all [Parse.seen,admissible]
  · split at h
    · cases h
    · simp_all [Parse.seen,admissible]
  · dsimp only at h
    split at h
    · cases h
    · next hok =>
      simp only [not_or,not_and,Bool.not_eq_true,Bool.not_eq_false,ne_eq,not_not] at hok
      obtain ⟨hseen,hlen,hmac,hcount⟩ := hok
      refine ⟨hseen,?_⟩
      simp only [admissible,hlen,hmac,decide_true,Bool.true_and,decide_eq_true_eq]
      omega
  · simp_all [Parse.seen,admissible]

theorem follows_of_applyTag (h : (applyTag bus (parsed ts) t.tag.toNat t.value).2 = 0) : Follows bus ts t := by
  obtain ⟨hseen,hadm⟩ := applyTag_zero h
  refine ⟨fun hknown => ?_,hadm⟩
  rwa [seen_parsed hknown,Option.isSome_eq_false_iff,Option.isNone_iff_eq_none] at hseen

/-- The loop takes all of `us` after `ts`. -/
def AllFollow (bus : Bus) : List Tlv → List Tlv → Prop
  | _, [] => True
  | ts, u :: us => Follows bus ts u ∧ AllFollow bus (ts ++ [u]) us

theorem wire_cons (u : Tlv) (us : List Tlv) :
    wire (u :: us) = u.tag :: UInt8.ofNat u.value.length :: (u.value ++ wire us) := rfl

theorem toNat_length (u : Tlv) : (UInt8.ofNat u.value.length).toNat = u.value.length := by
  rw [UInt8.toNat_ofNat']
  exact Nat.mod_eq_of_lt u.fits

theorem parseTlvs_wire {us : List Tlv} (h : AllFollow bus ts us) {fuel : Nat} (hfuel : (wire us).length ≤ fuel) :
    parseTlvs bus fuel (parsed ts) (wire us) = (parsed (ts ++ us),0) := by
  induction us generalizing ts fuel with
  | nil => cases fuel <;> simp [wire,parseTlvs]
  | cons u us ih =>
    obtain ⟨hu,hus⟩ := h
    rw [wire_cons] at hfuel ⊢
    cases fuel with
    | zero => simp at hfuel
    | succ fuel =>
      have hrest : (wire us).length ≤ fuel := by
        simp only [List.length_cons,List.length_append] at hfuel
        omega
      simp only [parseTlvs,toNat_length]
      rw [if_neg (by simp),List.take_left,List.drop_left,applyTag_follows hu]
      simp only
      rw [ih hus hrest,List.append_assoc]
      rfl

theorem parseTlvs_sound {fuel : Nat} {evt : Bytes} (h : (parseTlvs bus fuel (parsed ts) evt).2 = 0) :
    ∃ us, evt = wire us ∧ AllFollow bus ts us := by
  induction fuel generalizing ts evt with
  | zero =>
    cases evt with
    | nil => exact ⟨[],rfl,trivial⟩
    | cons a evt => cases h
  | succ fuel ih =>
    match evt with
    | [] => exact ⟨[],rfl,trivial⟩
    | [a] => cases h
    | tag :: len :: rest =>
      simp only [parseTlvs] at h
      split at h
      · cases h
      · next hlen =>
        have hvalue : (rest.take len.toNat).length = len.toNat := by
          rw [List.length_take]
          omega
        let u : Tlv := ⟨tag,rest.take len.toNat,by rw [hvalue]; exact len.toNat_lt⟩
        have hret : (applyTag bus (parsed ts) u.tag.toNat u.value).2 = 0 := by
          split at h
          · next p hp => exact congrArg Prod.snd hp
          · next p ret hne hp =>
            exact absurd h hne
        have hu := follows_of_applyTag hret
        rw [show applyTag bus (parsed ts) tag.toNat (rest.take len.toNat) = _ from applyTag_follows hu] at h
        obtain ⟨us,hus,hall⟩ := ih h
        refine ⟨u :: us,?_,hu,hall⟩
        rw [wire_cons,← hus]
        simp only [u,hvalue,List.take_append_drop]
        simp

theorem allFollow_iff {us : List Tlv} :
    AllFollow bus ts us ↔ (∀ u ∈ us, admissible bus u.tag.toNat u.value = true) ∧
      (∀ u ∈ us, u.tag.toNat ∈ knownTags → value? ts u.tag.toNat = none) ∧
      ((us.map (fun u => u.tag.toNat)).filter (fun tag => decide (tag ∈ knownTags))).Nodup := by
  induction us generalizing ts with
  | nil => simp [AllFollow]
  | cons u us ih =>
    simp only [AllFollow,ih,Follows,List.forall_mem_cons,List.map_cons]
    have hsnoc : ∀ w : Tlv, value? (ts ++ [u]) w.tag.toNat = none ↔
        value? ts w.tag.toNat = none ∧ u.tag.toNat ≠ w.tag.toNat := by
      intro w
      rw [value?_snoc,Option.or_eq_none_iff]
      simp
    by_cases hknown : u.tag.toNat ∈ knownTags
    · have hnot : u.tag.toNat ∉ (us.map (fun u => u.tag.toNat)).filter (fun tag => decide (tag ∈ knownTags)) ↔
          ∀ w ∈ us, w.tag.toNat ∈ knownTags → u.tag.toNat ≠ w.tag.toNat := by
        simp only [List.mem_filter,List.mem_map,decide_eq_true_eq,not_and,forall_exists_index,and_imp]
        constructor
        · intro h w hw hwk he
          exact h w hw he.symm hknown
        · intro h w hw he _
          exact h w hw (he ▸ hknown) he.symm
      rw [List.filter_cons_of_pos (by simpa using hknown),List.nodup_cons,hnot]
      simp only [hsnoc]
      constructor
      · rintro ⟨⟨hu,hadm⟩,hadms,hnone,hnodup⟩
        exact ⟨⟨hadm,hadms⟩,⟨hu,fun w hw hk => (hnone w hw hk).1⟩,fun w hw hk => (hnone w hw hk).2,hnodup⟩
      · rintro ⟨⟨hadm,hadms⟩,⟨hu,hnone⟩,hne,hnodup⟩
        exact ⟨⟨hu,hadm⟩,hadms,fun w hw hk => ⟨hnone w hw hk,hne w hw hk⟩,hnodup⟩
    · have hne : ∀ w : Tlv, w.tag.toNat ∈ knownTags → u.tag.toNat ≠ w.tag.toNat := by
        intro w hw he
        exact hknown (he ▸ hw)
      rw [List.filter_cons_of_neg (by simpa using hknown)]
      simp only [hsnoc]
      constructor
      · rintro ⟨⟨hu,hadm⟩,hadms,hnone,hnodup⟩
        exact ⟨⟨hadm,hadms⟩,⟨hu,fun w hw hk => (hnone w hw hk).1⟩,hnodup⟩
      · rintro ⟨⟨hadm,hadms⟩,⟨hu,hnone⟩,hnodup⟩
        exact ⟨⟨hu,hadm⟩,hadms,fun w hw hk => ⟨hnone w hw hk,hne w hk⟩,hnodup⟩

/-! The checks behind the loop. -/

theorem chipset_recognized (h : (value? ts 3).isSome = true) (hadm : ∀ t ∈ ts, admissible bus t.tag.toNat t.value = true) :
    (decode ts).chipset ≠ CHIP_UNRECOGNIZED := by
  obtain ⟨v,hv⟩ := Option.isSome_iff_exists.mp h
  obtain ⟨t,ht,rfl⟩ := Option.map_eq_some_iff.mp hv
  have htag : t.tag.toNat = 3 := by simpa using List.find?_some ht
  have hmem := hadm t (List.mem_of_find?_eq_some ht)
  simp only [htag,admissible,decide_eq_true_eq] at hmem
  simp only [decode,hv,Option.elim]
  have hchips : ∀ n ∈ supportedChips bus, n ≠ CHIP_UNRECOGNIZED := by
    cases bus <;> decide
  exact hchips _ hmem.2

theorem clockGiven_iff :
    (bus.isSpi && !(value? ts 2).isSome && decide (espAdjustSpiClock bus 0 ≠ 0)) = false ↔ ClockGiven bus ts := by
  cases bus
  all_goals simp [Bus.isSpi,espAdjustSpiClock,ClockGiven,EINVAL]

theorem nonceRules_iff {nonce rcp ctrl : Bool} {n : Nat} (hnonce : (value? ts 7).isSome = nonce)
    (hrcp : extRcp (decode ts) = rcp) (hctrl : extRadioServiceCtrl (decode ts) = ctrl)
    (hn : (decode ts).rcpSessionNonce = n) :
    NonceRules ts ↔ (nonce && !rcp) = false ∧ (rcp && !ctrl && (!nonce || decide (n = 0))) = false ∧
      (ctrl && nonce && decide (n = 0)) = false := by
  subst hnonce hrcp hctrl hn
  constructor
  · rintro ⟨h₁,h₂,h₃⟩
    grind
  · rintro ⟨h₁,h₂,h₃⟩
    constructor <;> grind

theorem checkParsed_zero (p : Parse) :
    checkParsed bus p = 0 ↔
      (p.seenCapability = true ∧ p.seenChipset = true ∧ p.seenFwData = true) ∧
      testBit p.boot.capabilities (transportBit bus) = true ∧ p.boot.chipset ≠ CHIP_UNRECOGNIZED ∧
      (bus.isSpi && !p.seenSpiClk && decide (espAdjustSpiClock bus 0 ≠ 0)) = false ∧
      (p.seenRcpNonce && !extRcp p.boot) = false ∧
      (extRcp p.boot && !extRadioServiceCtrl p.boot && (!p.seenRcpNonce || decide (p.boot.rcpSessionNonce = 0))) = false ∧
      (extRadioServiceCtrl p.boot && p.seenRcpNonce && decide (p.boot.rcpSessionNonce = 0)) = false := by
  have hproto : -EPROTO ≠ 0 := by decide
  unfold checkParsed
  constructor
  · intro h
    split at h
    · exact absurd h hproto
    · next hreq =>
      simp only [Bool.or_eq_true,Bool.not_eq_true',not_or,Bool.not_eq_false] at hreq
      split at h
      · exact absurd h hproto
      · next htransport =>
        split at h
        · exact absurd h hproto
        · next hchip =>
          split at h
          · next hclock =>
            simp only [Bool.and_eq_true,decide_eq_true_eq] at hclock
            exact absurd h hclock.2
          · next hclock =>
            split at h
            · exact absurd h hproto
            · next h₁ =>
              split at h
              · exact absurd h hproto
              · next h₂ =>
                split at h
                · exact absurd h hproto
                · next h₃ =>
                  simp only [Bool.not_eq_true] at hclock h₁ h₂ h₃
                  exact ⟨⟨hreq.1.1,hreq.1.2,hreq.2⟩,by simpa using htransport,hchip,hclock,h₁,h₂,h₃⟩
  · rintro ⟨⟨hcap,hchipset,hfw⟩,htransport,hchip,hclock,h₁,h₂,h₃⟩
    rw [if_neg (by simp [hcap,hchipset,hfw]),if_neg (by simp [htransport]),if_neg hchip,
      if_neg (by rw [hclock]; simp),if_neg (by rw [h₁]; simp),if_neg (by rw [h₂]; simp),if_neg (by rw [h₃]; simp)]

theorem checkParsed_iff (hadm : ∀ t ∈ ts, admissible bus t.tag.toNat t.value = true) :
    checkParsed bus (parsed ts) = 0 ↔
      ((value? ts 0).isSome = true ∧ (value? ts 3).isSome = true ∧ (value? ts 1).isSome = true) ∧
      testBit (decode ts).capabilities (transportBit bus) = true ∧ ClockGiven bus ts ∧ NonceRules ts := by
  rw [← clockGiven_iff,nonceRules_iff rfl rfl rfl rfl,checkParsed_zero]
  constructor
  · rintro ⟨hreq,htransport,-,hclock,hnonce⟩
    exact ⟨hreq,htransport,hclock,hnonce⟩
  · rintro ⟨hreq,htransport,hclock,hnonce⟩
    exact ⟨hreq,htransport,chipset_recognized hreq.2.1 hadm,hclock,hnonce⟩

/-- The parsing stage accepts exactly the grammar, and leaves the values of the TLVs. -/
theorem parseBootEvent_iff (bus : Bus) (evt : Bytes) (m : BootMeta) :
    parseBootEvent bus evt = (m,0) ↔ ∃ ts, evt = wire ts ∧ Grammar bus ts ∧ ClockGiven bus ts ∧ m = decode ts := by
  constructor
  · intro h
    unfold parseBootEvent at h
    split at h
    · next p hp =>
      obtain ⟨hm,hcheck⟩ := Prod.mk.inj h
      have hzero : (parseTlvs bus evt.length (parsed []) evt).2 = 0 := congrArg Prod.snd hp
      obtain ⟨ts,rfl,hall⟩ := parseTlvs_sound hzero
      have hparsed : p = parsed ts := by
        have hw := parseTlvs_wire hall (Nat.le_refl _)
        rw [show parseTlvs bus (wire ts).length (parsed []) (wire ts) = (p,0) from hp] at hw
        exact (Prod.mk.inj hw).1
      obtain ⟨hadm,-,hunique⟩ := allFollow_iff.mp hall
      rw [hparsed] at hcheck hm
      obtain ⟨hreq,htransport,hclock,hnonce⟩ := (checkParsed_iff hadm).mp hcheck
      exact ⟨ts,rfl,⟨hunique,hadm,hreq,htransport,hnonce⟩,hclock,hm.symm⟩
    · next p ret hne hp =>
      exact absurd (Prod.mk.inj h).2 hne
  · rintro ⟨ts,rfl,hg,hclock,rfl⟩
    have hall : AllFollow bus [] ts := allFollow_iff.mpr ⟨hg.admissible,fun _ _ _ => rfl,hg.unique⟩
    have hp : parseTlvs bus (wire ts).length {} (wire ts) = (parsed ts,0) := parseTlvs_wire hall (Nat.le_refl _)
    unfold parseBootEvent
    rw [hp]
    simp only
    rw [(checkParsed_iff hg.admissible).mpr ⟨hg.required,hg.transport,hclock,hg.nonce⟩]
    rfl

theorem parseTlvs_fuel (p : Parse) {evt : Bytes} {n m : Nat} (hn : evt.length ≤ n) (hm : evt.length ≤ m) :
    parseTlvs bus n p evt = parseTlvs bus m p evt := by
  induction n generalizing p evt m with
  | zero =>
    cases evt with
    | nil => cases m <;> rfl
    | cons a evt => simp at hn
  | succ n ih =>
    match evt with
    | [] => cases m <;> rfl
    | [a] =>
      cases m with
      | zero => simp at hm
      | succ m => rfl
    | tag :: len :: rest =>
      cases m with
      | zero => simp at hm
      | succ m =>
        have hdrop : ∀ k, rest.length+2 ≤ k+1 → (rest.drop len.toNat).length ≤ k := by
          intro k hk
          rw [List.length_drop]
          omega
        simp only [parseTlvs]
        split
        · rfl
        · split
          · exact ih _ (hdrop n hn) (hdrop m hm)
          · rfl

/-! The bytes that the loop reads. -/

/-- How much of a value of length `len` the case of its tag reads; the error text of the clock prints a byte. -/
def tagReads (p : Parse) (tag len : Nat) : Nat :=
  match tag with
  | 0 => if p.seenCapability then 0 else if len = 1 then 1 else if len = 2 then 2 else if len = 4 then 4 else 0
  | 1 => if p.seenFwData ∨ len ≠ fwDataSize then 0 else fwDataSize
  | 2 => if p.seenSpiClk ∨ len = 0 then 0 else 1
  | 3 => if p.seenChipset ∨ len ≠ 1 then 0 else 1
  | 5 => if p.seenRxBufSize ∨ len ≠ 4 then 0 else 4
  | 6 => if p.seenExtCapability ∨ len ≠ 4 then 0 else 4
  | 7 => if p.seenRcpNonce ∨ len ≠ 8 then 0 else 8
  | 8 => if p.boot.baseMacPresent ∨ len ≠ 7 then 0 else 7
  | _ => 0

/-- The end of what the loop reads, from `pos` on. -/
def readEnd (bus : Bus) : Nat → Parse → Nat → Bytes → Nat
  | 0, _, pos, _ => pos
  | _+1, _, pos, [] => pos
  | _+1, _, pos, [_] => pos
  | fuel+1, p, pos, tag :: len :: rest =>
    if rest.length < len.toNat then pos+2
    else
      match applyTag bus p tag.toNat (rest.take len.toNat) with
      | (p',0) => max (pos+2+tagReads p tag.toNat len.toNat)
          (readEnd bus fuel p' (pos+2+len.toNat) (rest.drop len.toNat))
      | _ => pos+2+tagReads p tag.toNat len.toNat

theorem tagReads_le (p : Parse) (tag len : Nat) : tagReads p tag len ≤ len := by
  unfold tagReads fwDataSize
  split <;> grind

theorem readEnd_le (fuel : Nat) (p : Parse) (pos : Nat) (evt : Bytes) :
    readEnd bus fuel p pos evt ≤ pos+evt.length := by
  induction fuel generalizing p pos evt with
  | zero => simp [readEnd]
  | succ fuel ih =>
    match evt with
    | [] => simp [readEnd]
    | [a] => simp [readEnd]
    | tag :: len :: rest =>
      have htag := tagReads_le p tag.toNat len.toNat
      simp only [readEnd,List.length_cons]
      split
      · omega
      · split
        · next p' hp =>
          have hrest := ih p' (pos+2+len.toNat) (rest.drop len.toNat)
          rw [List.length_drop] at hrest
          omega
        · omega

/-! Metadata of an earlier boot. -/

def BootMeta.reset (m : BootMeta) : BootMeta :=
  {m with
    capabilities := 0
    extCapabilities := 0
    rcpSessionNonce := 0
    baseMac := List.replicate 6 0
    baseMacCount := 0
    baseMacPresent := false
    chipset := CHIP_UNRECOGNIZED
    txAggrSize := 0}

/-- The parsing stage on an adapter that holds the metadata `old`. -/
def parseAfter (bus : Bus) (old : BootMeta) (evt : Bytes) : BootMeta × Int :=
  match parseTlvs bus evt.length {boot := old.reset} evt with
  | (p,0) => (p.boot,checkParsed bus p)
  | (p,ret) => (p.boot,ret)

theorem parseAfter_eq (bus : Bus) (old : BootMeta) (evt : Bytes) : parseAfter bus old evt = parseBootEvent bus evt := rfl

end EspHosted.Boot
