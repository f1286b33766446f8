import EspHosted.Wire

/-!
Boot event of the firmware: its structural check and the TLV loop of
`process_event_esp_bootup` in `host/main.c`.
-/

set_option autoImplicit false

namespace EspHosted.Boot
open EspHosted

inductive Bus where
  | sdio
  | spi
  | spiHd
  | usb
  deriving DecidableEq, Repr

/-- `adapter->if_type`; SPI-HD binds as `ESP_IF_TYPE_SPI`. -/
def Bus.isSpi (b : Bus) : Bool := b = .spi || b = .spiHd

def leNat : Bytes → Nat
  | [] => 0
  | b :: bs => b.toNat+256*leNat bs

def CHIP_UNRECOGNIZED : Nat := 0xff

structure BootMeta where
  capabilities : Nat := 0
  extCapabilities : Nat := 0
  rcpSessionNonce : Nat := 0
  baseMac : Bytes := List.replicate 6 0
  baseMacCount : Nat := 0
  baseMacPresent : Bool := false
  chipset : Nat := CHIP_UNRECOGNIZED
  txAggrSize : Nat := 0
  deriving DecidableEq, Repr

structure Parse where
  boot : BootMeta := {}
  seenCapability : Bool := false
  seenChipset : Bool := false
  seenFwData : Bool := false
  seenRxBufSize : Bool := false
  seenSpiClk : Bool := false
  seenExtCapability : Bool := false
  seenRcpNonce : Bool := false
  deriving DecidableEq, Repr

def isValidEtherAddr (mac : Bytes) : Bool :=
  (mac.getD 0 0).toNat%2 = 0 && mac.any (fun b => b != 0)

def supportedChips : Bus → List Nat
  | .sdio => [0x0,0x0D,0x14,0x17]
  | .spi => [0x0,0x2,0x9,0x0C,0x5,0x0D,0x14,0x17,0x20]
  | .spiHd => [0x2,0x9,0x0C,0x5,0x17,0x0D,0x14,0x20]
  | .usb => [0x20]

def espValidateChipset (bus : Bus) (m : BootMeta) (chip : Nat) : BootMeta × Int :=
  if chip ∈ supportedChips bus then ({m with chipset := chip},0)
  else ({m with chipset := CHIP_UNRECOGNIZED},if bus = .sdio then -1 else -ENODEV)

/-- The version string equals `NG-1.0.6.0.23` exactly when its parts do. -/
def checkEspVersion (v : Bytes) : Int :=
  if (v.take 3).takeWhile (fun b => b != 0) = [78,71] ∧ (v.drop 3).take 5 = [1,0,6,0,23] then 0
  else -1

/-- Zero stands for an absent clock TLV and is refused by SPI-HD only. -/
def espAdjustSpiClock (bus : Bus) (mhz : Nat) : Int :=
  if bus = .spiHd ∧ mhz = 0 then -EINVAL else 0

def txAggrSizeValid (bus : Bus) (n : Nat) : Bool :=
  n != 0 && (if bus = .usb then n ≤ 16384 else n ≤ 15872) && (bus.isSpi || n%512 = 0)

def fwDataSize : Nat := 12

/-- One `case` of the tag switch: the state it leaves and `ret`. -/
def applyTag (bus : Bus) (p : Parse) (tag : Nat) (v : Bytes) : Parse × Int :=
  match tag with
  | 0 =>
    if p.seenCapability then (p,-EPROTO)
    else if v.length = 1 ∨ v.length = 2 ∨ v.length = 4 then
      ({p with boot := {p.boot with capabilities := leNat v}, seenCapability := true},0)
    else (p,-EINVAL)
  | 1 =>
    if p.seenFwData then (p,-EPROTO)
    else if v.length ≠ fwDataSize then (p,-EINVAL)
    else if checkEspVersion v = 0 then ({p with seenFwData := true},0)
    else (p,checkEspVersion v)
  | 2 =>
    if p.seenSpiClk then (p,-EPROTO)
    else if v.length ≠ 1 ∨ leNat v = 0 then (p,-EINVAL)
    else if espAdjustSpiClock bus (leNat v) = 0 then ({p with seenSpiClk := true},0)
    else (p,espAdjustSpiClock bus (leNat v))
  | 3 =>
    if p.seenChipset then (p,-EPROTO)
    else if v.length ≠ 1 then (p,-EINVAL)
    else
      let r := espValidateChipset bus p.boot (leNat v)
      ({p with boot := r.1, seenChipset := decide (r.2 = 0)},r.2)
  | 5 =>
    if p.seenRxBufSize then (p,-EPROTO)
    else if v.length ≠ 4 then (p,-EINVAL)
    else
      let q := {p with boot := {p.boot with txAggrSize := leNat v}}
      if txAggrSizeValid bus (leNat v) then ({q with seenRxBufSize := true},0) else (q,-EINVAL)
  | 6 =>
    if p.seenExtCapability ∨ v.length ≠ 4 then (p,-EPROTO)
    else ({p with boot := {p.boot with extCapabilities := leNat v}, seenExtCapability := true},0)
  | 7 =>
    if p.seenRcpNonce ∨ v.length ≠ 8 then (p,-EPROTO)
    else ({p with boot := {p.boot with rcpSessionNonce := leNat v}, seenRcpNonce := true},0)
  | 8 =>
    let count := (v.getD 6 0).toNat
    if p.boot.baseMacPresent ∨ v.length ≠ 7 ∨ isValidEtherAddr (v.take 6) = false ∨
        (count ≠ 1 ∧ count ≠ 2 ∧ count ≠ 4) then (p,-EPROTO)
    else
      ({p with boot := {p.boot with baseMac := v.take 6, baseMacCount := count,
                                    baseMacPresent := true}},0)
  | _ => (p,0)

/-- `while (len_left > 0)`; every pass takes at least two bytes. -/
def parseTlvs (bus : Bus) : Nat → Parse → Bytes → Parse × Int
  | _, p, [] => (p,0)
  | 0, p, _ :: _ => (p,-EINVAL)
  | _+1, p, [_] => (p,-EINVAL)
  | fuel+1, p, tag :: len :: rest =>
    if rest.length < len.toNat then (p,-EINVAL)
    else
      match applyTag bus p tag.toNat (rest.take len.toNat) with
      | (p',0) => parseTlvs bus fuel p' (rest.drop len.toNat)
      | (p',ret) => (p',ret)

def testBit (n bit : Nat) : Bool := n/2^bit%2 = 1

def transportBit : Bus → Nat
  | .sdio => 0
  | .spi => 5
  | .spiHd => 5
  | .usb => 9

def extRcp (m : BootMeta) : Bool := testBit m.extCapabilities 6
def extRadioServiceCtrl (m : BootMeta) : Bool := testBit m.extCapabilities 14

/-- The checks between the TLV loop and the reopening of the transport. -/
def checkParsed (bus : Bus) (p : Parse) : Int :=
  if !p.seenCapability || !p.seenChipset || !p.seenFwData then -EPROTO
  else if !testBit p.boot.capabilities (transportBit bus) then -EPROTO
  else if p.boot.chipset = CHIP_UNRECOGNIZED then -EPROTO
  else if bus.isSpi && !p.seenSpiClk && decide (espAdjustSpiClock bus 0 ≠ 0) then
    espAdjustSpiClock bus 0
  else if p.seenRcpNonce && !extRcp p.boot then -EPROTO
  else if extRcp p.boot && !extRadioServiceCtrl p.boot &&
      (!p.seenRcpNonce || decide (p.boot.rcpSessionNonce = 0)) then -EPROTO
  else if extRadioServiceCtrl p.boot && p.seenRcpNonce && decide (p.boot.rcpSessionNonce = 0) then
    -EPROTO
  else 0

/-- The parsing stage of `process_event_esp_bootup`: metadata and result. -/
def parseBootEvent (bus : Bus) (evt : Bytes) : BootMeta × Int :=
  match parseTlvs bus evt.length {} evt with
  | (p,0) => (p.boot,checkParsed bus p)
  | (p,ret) => (p.boot,ret)

def espBootupEventStructurallyValid (skb : Bytes) : Bool :=
  decide (bootDataOffset ≤ skb.length) && (skb.getD 1 0 == 0) &&
    decide ((skb.getD 4 0).toNat ≤ skb.length-bootDataOffset)

def isBootEvent (skb : Bytes) : Bool :=
  decide (4 ≤ skb.length) && decide ((skb.getD 0 0).toNat = ESP_INTERNAL_BOOTUP_EVENT.toNat)

/-- `evt->data` cut to `evt->len`. -/
def bootPayload (skb : Bytes) : Bytes := (skb.drop bootDataOffset).take (skb.getD 4 0).toNat

end EspHosted.Boot
