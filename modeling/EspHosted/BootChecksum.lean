import EspHosted.BootTlv
import EspHosted.SdioE2h
import EspHosted.SpiReboot

/-!
Which boot events `process_rx_packet` of `host/main.c` checks the checksum of, and which
`esp_spi_bootstrap_frame_valid` of `host/spi/esp_spi.c`.
-/

set_option autoImplicit false

namespace EspHosted.BootChecksum
open EspHosted Boot
open EspHosted.SpiHd (hdrChecksum setChecksum)
open EspHosted.SpiReboot (checksumBit computeChecksum bootNeedsSum bootTlvs bootTag BootSeen)
open EspHosted.Sdio.E2h (WireFrame)

/-- The loop of `esp_internal_checksum_required`. -/
def requiredTlvs (sum : Bool) : Nat → Bytes → Bool
  | _, [] => sum
  | 0, _ :: _ => sum
  | _+1, [_] => sum
  | fuel+1, tag :: n :: rest =>
    if rest.length < n.toNat then sum
    else if tag.toNat = ESP_BOOTUP_CAPABILITY.toNat ∧ n.toNat = 1 then
      testBit (leNat (rest.take n.toNat)) checksumBit || sum
    else requiredTlvs sum fuel (rest.drop n.toNat)

def espInternalChecksumRequired (frame : Bytes) (len offset : Nat) : Bool :=
  let evt := frame.drop offset
  let n := (evt.getD 4 0).toNat
  let sum := hdrChecksum frame != 0
  if len < bootDataOffset then sum
  else if (evt.getD 0 0).toNat ≠ ESP_INTERNAL_BOOTUP_EVENT.toNat then sum
  else if len-bootDataOffset < n then sum
  else requiredTlvs sum n ((evt.drop bootDataOffset).take n)

/-- The checksum is the one computed with a zero in its place. -/
def checksumOk (skb : Bytes) : Bool :=
  decide ((computeChecksum (setChecksum skb 0) (hdrLen skb+hdrOffset skb)).toNat = hdrChecksum skb)

/-- `ESP_DRIVER_UNLOADING` or `ESP_TRANSPORT_REMOVING`, when the frame arrives and when its work runs. -/
structure RxState where
  gone : Bool := false
  goneLater : Bool := false
  deriving DecidableEq, Repr

/-- What `process_rx_packet` puts on `events_skb_q`. -/
def internalRx (s : RxState) (skb : Bytes) : Option Bytes :=
  let len := hdrLen skb
  let offset := hdrOffset skb
  if skb.length < headerSize then none
  else if espOffsetValid offset = false ∨ skb.length < offset ∨ skb.length-offset < len then none
  else if hdrIfType skb ≠ ESP_INTERNAL_IF then none
  else if espInternalChecksumRequired skb len offset ∧ checksumOk skb = false then none
  else if s.gone then none
  else some (skb.drop offset)

/-- The payload with which `process_event_esp_bootup` is called. -/
def reachesBootup (s : RxState) (skb : Bytes) : Option Bytes :=
  match internalRx s skb with
  | none => none
  | some ev =>
    if s.goneLater then none
    else if isBootEvent ev && espBootupEventStructurallyValid ev then some (bootPayload ev)
    else none

/-- The values of all capability TLVs, as far as the list is well formed. -/
def capValues : Nat → Bytes → List Bytes
  | _, [] => []
  | 0, _ :: _ => []
  | _+1, [_] => []
  | fuel+1, tag :: n :: rest =>
    if rest.length < n.toNat then []
    else if tag.toNat = ESP_BOOTUP_CAPABILITY.toNat then rest.take n.toNat :: capValues fuel (rest.drop n.toNat)
    else capValues fuel (rest.drop n.toNat)

/-- A received boot event with the capability TLV `v`, of a width that the parser accepts,
that sets `ESP_CHECKSUM_ENABLED`. -/
structure ChecksumBoot (skb v : Bytes) : Prop where
  wire : WireFrame skb
  internal : hdrIfType skb = ESP_INTERNAL_IF
  event : bootDataOffset ≤ hdrLen skb
  code : ((skb.drop (hdrOffset skb)).getD 0 0).toNat = ESP_INTERNAL_BOOTUP_EVENT.toNat
  fits : ((skb.drop (hdrOffset skb)).getD 4 0).toNat ≤ hdrLen skb-bootDataOffset
  cap : capValues ((skb.drop (hdrOffset skb)).getD 4 0).toNat (bootPayload (skb.drop (hdrOffset skb))) = [v]
  width : v.length = 1 ∨ v.length = 2 ∨ v.length = 4
  enabled : testBit (leNat v) checksumBit = true

instance (skb v : Bytes) : Decidable (ChecksumBoot skb v) :=
  have : Decidable (WireFrame skb) :=
    inferInstanceAs (Decidable (espHostWireSpanValid (hdrLen skb) (hdrOffset skb) skb.length = some skb.length))
  decidable_of_iff
    (WireFrame skb ∧ hdrIfType skb = ESP_INTERNAL_IF ∧ bootDataOffset ≤ hdrLen skb ∧
      ((skb.drop (hdrOffset skb)).getD 0 0).toNat = ESP_INTERNAL_BOOTUP_EVENT.toNat ∧
      ((skb.drop (hdrOffset skb)).getD 4 0).toNat ≤ hdrLen skb-bootDataOffset ∧
      capValues ((skb.drop (hdrOffset skb)).getD 4 0).toNat (bootPayload (skb.drop (hdrOffset skb))) = [v] ∧
      (v.length = 1 ∨ v.length = 2 ∨ v.length = 4) ∧ testBit (leNat v) checksumBit = true)
    ⟨fun ⟨h1,h2,h3,h4,h5,h6,h7,h8⟩ => ⟨h1,h2,h3,h4,h5,h6,h7,h8⟩,
     fun h => ⟨h.wire,h.internal,h.event,h.code,h.fits,h.cap,h.width,h.enabled⟩⟩

/-! The two walks. -/

/-- Only a TLV of one byte counts. -/
theorem requiredTlvs_eq (sum : Bool) (fuel : Nat) (data : Bytes) :
    requiredTlvs sum fuel data =
      match (capValues fuel data).find? (fun v => v.length = 1) with
      | some v => testBit (leNat v) checksumBit || sum
      | none => sum := by
  induction fuel generalizing data with
  | zero => cases data <;> rfl
  | succ fuel ih =>
    match data with
    | [] => rfl
    | [_] => rfl
    | tag :: n :: rest =>
      by_cases hl : rest.length < n.toNat
      · simp [requiredTlvs,capValues,hl]
      · have hn : (rest.take n.toNat).length = n.toNat := by
          rw [List.length_take]
          omega
        by_cases ht : tag.toNat = ESP_BOOTUP_CAPABILITY.toNat
        · by_cases h1 : n.toNat = 1
          · simp only [requiredTlvs,capValues,if_neg hl,if_pos ht,if_pos (And.intro ht h1)]
            rw [List.find?_cons_of_pos (by simpa using hn.trans h1)]
          · have hno : ¬(tag.toNat = ESP_BOOTUP_CAPABILITY.toNat ∧ n.toNat = 1) := fun h => h1 h.2
            simp only [requiredTlvs,capValues,if_neg hl,if_pos ht,if_neg hno]
            rw [List.find?_cons_of_neg (by simpa [hn] using h1),ih]
        · have hno : ¬(tag.toNat = ESP_BOOTUP_CAPABILITY.toNat ∧ n.toNat = 1) := fun h => ht h.1
          simp only [requiredTlvs,capValues,if_neg hl,if_neg ht,if_neg hno,ih]

theorem bootTag_needsSum {p q : BootSeen} {tag : Nat} {v : Bytes} (h : bootTag p tag v = some q) :
    q.needsSum = (p.needsSum || (decide (tag = ESP_BOOTUP_CAPABILITY.toNat) && testBit (leNat v) checksumBit)) := by
  have hz : ESP_BOOTUP_CAPABILITY.toNat = 0 := rfl
  rw [hz]
  by_cases ht : tag = 0
  · subst ht
    simp only [bootTag] at h
    split at h
    · cases h
    · split at h
      · cases h
      · cases h
        rfl
  · rw [decide_eq_false ht,Bool.false_and,Bool.or_false]
    unfold bootTag at h
    split at h
    · exact absurd rfl ht
    all_goals
      first
      | cases h; rfl
      | split at h <;> cases h; rfl

/-- Every width counts. -/
theorem bootTlvs_needsSum {fuel : Nat} {p q : BootSeen} {data : Bytes} (h : bootTlvs fuel p data = some q) :
    q.needsSum = (p.needsSum || (capValues fuel data).any (fun v => testBit (leNat v) checksumBit)) := by
  induction fuel generalizing p data with
  | zero =>
    cases data with
    | nil => cases h; simp [capValues]
    | cons b bs => cases h
  | succ fuel ih =>
    match data with
    | [] => cases h; simp [capValues]
    | [_] => cases h
    | tag :: n :: rest =>
      simp only [bootTlvs] at h
      split at h
      · cases h
      · rename_i hl
        cases hb : bootTag p tag.toNat (rest.take n.toNat) with
        | none =>
          rw [hb] at h
          cases h
        | some p' =>
          rw [hb] at h
          rw [ih h,bootTag_needsSum hb]
          by_cases ht : tag.toNat = ESP_BOOTUP_CAPABILITY.toNat
          · simp [capValues,hl,ht,Bool.or_assoc]
          · simp [capValues,hl,ht]

/-! One frame. -/

variable {skb v : Bytes}

theorem ChecksumBoot.required (h : ChecksumBoot skb v) :
    espInternalChecksumRequired skb (hdrLen skb) (hdrOffset skb) =
      (decide (v.length = 1) || hdrChecksum skb != 0) := by
  have hev := h.event
  have hfits := h.fits
  simp only [espInternalChecksumRequired]
  rw [if_neg (by omega),if_neg (fun hc => hc h.code),if_neg (by omega),requiredTlvs_eq]
  have hcap := h.cap
  simp only [bootPayload] at hcap
  rw [hcap]
  by_cases h1 : v.length = 1
  · simp [h1,h.enabled]
  · simp [h1]

theorem ChecksumBoot.bootstrap (h : ChecksumBoot skb v) {b : Bool}
    (hb : bootNeedsSum skb (hdrOffset skb) (hdrLen skb) = some b) : b = true := by
  simp only [bootNeedsSum] at hb
  split at hb
  · cases hb
  · split at hb
    · cases hb
    · cases hw : bootTlvs ((skb.drop (hdrOffset skb)).getD 4 0).toNat {needsSum := hdrChecksum skb != 0}
        (((skb.drop (hdrOffset skb)).drop bootDataOffset).take ((skb.drop (hdrOffset skb)).getD 4 0).toNat) with
      | none =>
        rw [hw] at hb
        cases hb
      | some q =>
        rw [hw] at hb
        simp only at hb
        have hq := bootTlvs_needsSum hw
        have hcap := h.cap
        simp only [bootPayload] at hcap
        rw [hcap] at hq
        simp only [List.any_cons,h.enabled,Bool.true_or,Bool.or_true] at hq
        split at hb
        · rw [hq] at hb
          exact (Option.some.inj hb).symm
        · cases hb

/-- The event of a frame that is let through is handled unless its status says failure. -/
theorem ChecksumBoot.reaches (h : ChecksumBoot skb v) (s : RxState) :
    (reachesBootup s skb).isSome =
      (!(espInternalChecksumRequired skb (hdrLen skb) (hdrOffset skb) && !checksumOk skb) &&
        !s.gone && !s.goneLater && ((skb.drop (hdrOffset skb)).getD 1 0 == 0)) := by
  obtain ⟨hlen,hoff,hsum,hhdr⟩ := h.wire.spec
  have hev := h.event
  have hfits := h.fits
  have hlow : (skb.drop (hdrOffset skb)).length = hdrLen skb := by
    rw [List.length_drop]
    omega
  have h8 : bootDataOffset = 8 := rfl
  have hboot : isBootEvent (skb.drop (hdrOffset skb)) = true := by
    rw [isBootEvent,decide_eq_true h.code,Bool.and_true,decide_eq_true_eq,hlow]
    omega
  have hvalid : espBootupEventStructurallyValid (skb.drop (hdrOffset skb)) =
      ((skb.drop (hdrOffset skb)).getD 1 0 == 0) := by
    rw [espBootupEventStructurallyValid,hlow,decide_eq_true hev,decide_eq_true hfits,Bool.true_and,Bool.and_true]
  have hbounds : ¬(espOffsetValid (hdrOffset skb) = false ∨ skb.length < hdrOffset skb ∨
      skb.length-hdrOffset skb < hdrLen skb) := by
    rw [hoff]
    simp
    omega
  have hint : ¬hdrIfType skb ≠ ESP_INTERNAL_IF := fun hc => hc h.internal
  simp only [reachesBootup,internalRx,if_neg (show ¬skb.length < headerSize by omega),if_neg hbounds,if_neg hint]
  generalize ((skb.drop (hdrOffset skb)).getD 1 0 == 0) = status at hvalid ⊢
  cases espInternalChecksumRequired skb (hdrLen skb) (hdrOffset skb) <;> cases checksumOk skb <;>
    cases s.gone <;> cases s.goneLater <;> cases status <;> simp [hboot,hvalid]

/-- A boot event that sets the bit reaches the handler with a wrong checksum only if its capability is wider than
a byte and the field is zero, and there alone the two walks differ. -/
theorem checksumBoot_contract (skb v : Bytes) (h : ChecksumBoot skb v) :
    ((∀ s, (reachesBootup s skb).isSome = true → checksumOk skb = true) ↔
      v.length = 1 ∨ hdrChecksum skb ≠ 0 ∨ (skb.drop (hdrOffset skb)).getD 1 0 ≠ 0 ∨ checksumOk skb = true) ∧
    ((∀ b, bootNeedsSum skb (hdrOffset skb) (hdrLen skb) = some b →
        espInternalChecksumRequired skb (hdrLen skb) (hdrOffset skb) = b) ↔
      v.length = 1 ∨ hdrChecksum skb ≠ 0 ∨ bootNeedsSum skb (hdrOffset skb) (hdrLen skb) = none) := by
  have hreq := h.required
  constructor
  · constructor
    · intro hr
      have h0 := hr {}
      rw [h.reaches,hreq] at h0
      by_cases h1 : v.length = 1
      · exact .inl h1
      by_cases h2 : hdrChecksum skb = 0
      · simp [h1,h2] at h0
        by_cases h3 : (skb.drop (hdrOffset skb)).getD 1 0 = 0
        · exact .inr (.inr (.inr (h0 (by simpa using h3))))
        · exact .inr (.inr (.inl h3))
      · exact .inr (.inl h2)
    · intro hc s hs
      rw [h.reaches,hreq] at hs
      simp only [Bool.and_eq_true] at hs
      obtain ⟨⟨⟨hgate,-⟩,-⟩,hst⟩ := hs
      rcases hc with h1 | h2 | h3 | h4
      · simpa [h1] using hgate
      · simpa [h2] using hgate
      · exact absurd (by simpa using hst) h3
      · exact h4
  · constructor
    · intro hb
      cases hs : bootNeedsSum skb (hdrOffset skb) (hdrLen skb) with
      | none => exact .inr (.inr rfl)
      | some b =>
        have := hb b hs
        rw [h.bootstrap hs,hreq] at this
        by_cases h1 : v.length = 1
        · exact .inl h1
        · exact .inr (.inl (by simpa [h1] using this))
    · intro hc b hs
      rw [h.bootstrap hs,hreq]
      rcases hc with h1 | h2 | h3
      · simp [h1]
      · simp [h2]
      · rw [hs] at h3
        cases h3

/-- A boot event of an ESP32-C6 over SPI with the given capability TLV and checksum field. -/
def bootFrame (cap : Bytes) (sum : UInt16) : Bytes :=
  let tlvs := [0,UInt8.ofNat cap.length] ++ cap ++ [3,1,0x0D] ++ [1,12,78,71,0,1,0,6,0,23,0,0,0,0]
  PayloadHeader.encode
    {ifType := Usb.nibble 3, ifNum := Usb.nibble 0, packetType := 3, len := UInt16.ofNat (8+tlvs.length), offset := 12,
      checksum := sum} ++
    [1,0,0,0,UInt8.ofNat tlvs.length,0,0,0] ++ tlvs

theorem checksumBoot_contract_byte :
    ChecksumBoot (bootFrame [0xa0] 0) [0xa0] ∧
    ∀ s, (reachesBootup s (bootFrame [0xa0] 0)).isSome = true → checksumOk (bootFrame [0xa0] 0) = true := by
  have h : ChecksumBoot (bootFrame [0xa0] 0) [0xa0] := by decide +kernel
  exact ⟨h,(checksumBoot_contract _ _ h).1.mpr (.inl rfl)⟩

/-- With a capability of four bytes a frame whose checksum is zero and wrong is parsed, and the two walks differ. -/
theorem checksumBoot_unchecked :
    ChecksumBoot (bootFrame [0xa0,0,0,0] 0) [0xa0,0,0,0] ∧
    (reachesBootup {} (bootFrame [0xa0,0,0,0] 0)).isSome = true ∧ checksumOk (bootFrame [0xa0,0,0,0] 0) = false ∧
    bootNeedsSum (bootFrame [0xa0,0,0,0] 0) 12 (hdrLen (bootFrame [0xa0,0,0,0] 0)) = some true ∧
    espInternalChecksumRequired (bootFrame [0xa0,0,0,0] 0) (hdrLen (bootFrame [0xa0,0,0,0] 0)) 12 = false := by
  decide +kernel

end EspHosted.BootChecksum
