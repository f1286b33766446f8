import EspHosted.BootGrammar

/-!
`send_bootup_event_to_host` of the four firmware transports, `main/sdio_slave_api.c`,
`main/spi_slave_api.c`, `main/spi_hd_slave_api.c` and `main/usb/esp_usb_device.c`.
-/

set_option autoImplicit false

namespace EspHosted.Boot
open EspHosted

inductive Target where
  | esp32
  | esp32s2
  | esp32s3
  | esp32s31
  | esp32c2
  | esp32c3
  | esp32c5
  | esp32c6
  | esp32c61
  deriving DecidableEq, Repr

/-- `CONFIG_IDF_FIRMWARE_CHIP_ID`. -/
def Target.chipId : Target → UInt8
  | .esp32 => 0x0
  | .esp32s2 => 0x2
  | .esp32s3 => 0x9
  | .esp32s31 => 0x20
  | .esp32c2 => 0x0C
  | .esp32c3 => 0x5
  | .esp32c5 => 0x17
  | .esp32c6 => 0x0D
  | .esp32c61 => 0x14

def Bus.targets : Bus → List Target
  | .sdio => [.esp32,.esp32c5,.esp32c6,.esp32c61]
  | .spi => [.esp32,.esp32s2,.esp32s3,.esp32s31,.esp32c2,.esp32c3,.esp32c5,.esp32c6,.esp32c61]
  | .spiHd => [.esp32s2,.esp32s3,.esp32s31,.esp32c2,.esp32c3,.esp32c5,.esp32c6,.esp32c61]
  | .usb => [.esp32s31]

inductive BtMode where
  | ble
  | bt
  | dual
  deriving DecidableEq, Repr

/-- Where HCI runs: `BLUETOOTH_HCI`, `BLUETOOTH_UART` or neither. -/
inductive BtLink where
  | hosted
  | uart
  | none
  deriving DecidableEq, Repr

/-- A build of the firmware and what it finds at run time: `mac` is the result of `esp_read_mac`. -/
structure Firmware (bus : Bus) where
  target : Target
  built : target ∈ bus.targets
  wifi : Bool
  gcmp : Bool
  checksum : Bool
  bluetooth : Option (BtLink × Option BtMode)
  rcp : Bool
  spiHdMaxClkMhz : UInt8
  clkRange : spiHdMaxClkMhz ≠ 0
  resetReason : UInt32
  mac : Option Bytes
  macLength : ∀ m ∈ mac, m.length = 6
  macCount : UInt8

def btLinkBit : Bus → UInt32
  | .sdio => 4
  | .spi => 64
  | .spiHd => 64
  | .usb => 1024

def getBluetoothCapabilities (bus : Bus) (link : BtLink) (mode : Option BtMode) : UInt32 :=
  (match link with
    | .hosted => btLinkBit bus
    | .uart => 2
    | .none => 0) |||
  (match mode with
    | some .ble => 8
    | some .bt => 16
    | some .dual => 8 ||| 16
    | none => 0)

def wlanSupport : Bus → UInt32
  | .sdio => 1
  | .spi => 32
  | .spiHd => 32
  | .usb => 512

variable {bus : Bus}

namespace Firmware

def getCapabilities (f : Firmware bus) : UInt32 :=
  wlanSupport bus ||| (if f.wifi then 2048 else 0) ||| (if f.gcmp then 256 else 0) |||
    (if f.checksum then 128 else 0) |||
    match f.bluetooth with
    | some (link,mode) => getBluetoothCapabilities bus link mode
    | none => 0

def hostedHci (f : Firmware bus) : Bool :=
  match f.bluetooth with
  | some (.hosted,_) => true
  | _ => false

def getExtendedCapabilities (f : Firmware bus) : UInt32 :=
  (if f.rcp || f.hostedHci then 16384 else 0) ||| (if f.rcp then 32768 else 0)

end Firmware

def le32 (n : UInt32) : Bytes :=
  [UInt8.ofNat (n.toNat%256),UInt8.ofNat (n.toNat/256%256),UInt8.ofNat (n.toNat/65536%256),
    UInt8.ofNat (n.toNat/16777216)]

def byteTlv (tag : UInt8) (b : UInt8) : Tlv := ⟨tag,[b],by simp⟩

def wordTlv (tag : UInt8) (n : UInt32) : Tlv := ⟨tag,le32 n,by simp [le32]⟩

/-- `PROJECT_NAME` and the version numbers, then the reset reason. -/
def fwData (reason : UInt32) : Tlv := ⟨1,[78,71,0,1,0,6,0,23] ++ le32 reason,by simp [le32]⟩

/-- `esp_hosted_add_boot_mac_tlv`. -/
def espHostedAddBootMacTlv (f : Firmware bus) : List Tlv :=
  match h : f.mac with
  | none => []
  | some m =>
    if (m.getD 0 0).toNat%2 = 1 ∨ (f.macCount ≠ 1 ∧ f.macCount ≠ 2 ∧ f.macCount ≠ 4) then []
    else [⟨8,m ++ [f.macCount],by simp [f.macLength m h]⟩]

/-- What the transports share; `clk` is the clock TLV and `mac` the TLV of the base MAC. -/
def eventTlvs (f : Firmware bus) (clk : Option UInt8) (mac : List Tlv) (rxBufSize : UInt32) : List Tlv :=
  [byteTlv 3 f.target.chipId] ++ (clk.map (byteTlv 2)).toList ++ [wordTlv 0 f.getCapabilities] ++
    (if f.getExtendedCapabilities = 0 then [] else [wordTlv 6 f.getExtendedCapabilities]) ++ mac ++
    [wordTlv 5 rxBufSize,fwData f.resetReason]

/-- The `size` field of a DMA descriptor has 12 bits on the ESP32 and 14 on the others. -/
def sdioRxBufSize : Target → UInt32
  | .esp32 => 4095/512*512
  | _ => 16383/512*512

def spiClkMhz : Target → UInt8
  | .esp32 => 10
  | .esp32s2 | .esp32s3 | .esp32c2 | .esp32c3 | .esp32c5 => 30
  | .esp32c6 | .esp32c61 | .esp32s31 => 26

def sdioBootTlvs (f : Firmware .sdio) : List Tlv :=
  eventTlvs f none (espHostedAddBootMacTlv f) (sdioRxBufSize f.target)

def spiBootTlvs (f : Firmware .spi) : List Tlv :=
  eventTlvs f (some (spiClkMhz f.target)) (espHostedAddBootMacTlv f) 1600

/-- SPI-HD does not send the MAC. -/
def spiHdBootTlvs (f : Firmware .spiHd) : List Tlv := eventTlvs f (some f.spiHdMaxClkMhz) [] 1600

def usbBootTlvs (f : Firmware .usb) : List Tlv := eventTlvs f none (espHostedAddBootMacTlv f) 16384

def sendBootupEventToHost : (bus : Bus) → Firmware bus → List Tlv
  | .sdio, f => sdioBootTlvs f
  | .spi, f => spiBootTlvs f
  | .spiHd, f => spiHdBootTlvs f
  | .usb, f => usbBootTlvs f

/-- `struct esp_internal_bootup_event`. -/
def bootEvent (ts : List Tlv) : Bytes :=
  [1,0] ++ htole16 (UInt16.ofNat ((wire ts).length+1)) ++ [UInt8.ofNat (wire ts).length,0,0,0] ++ wire ts

theorem leNat_le32 (n : UInt32) : leNat (le32 n) = n.toNat := by
  have hn : n.toNat < 4294967296 := n.toNat_lt
  simp only [le32,leNat,UInt8.toNat_ofNat']
  omega

theorem testBit_eq (n bit : Nat) : testBit n bit = n.testBit bit := by
  rw [Nat.testBit_eq_decide_div_mod_eq,testBit]

variable (f : Firmware bus)

theorem getCapabilities_transport : testBit f.getCapabilities.toNat (transportBit bus) = true := by
  have hbus : (wlanSupport bus).toNat.testBit (transportBit bus) = true := by
    cases bus <;> decide
  simp only [testBit_eq,Firmware.getCapabilities,UInt32.toNat_or,Nat.testBit_or,hbus,Bool.true_or]

theorem getExtendedCapabilities_rcp : testBit f.getExtendedCapabilities.toNat 6 = false := by
  unfold Firmware.getExtendedCapabilities
  cases f.rcp <;> cases f.hostedHci <;> decide

theorem chipId_supported : f.target.chipId.toNat ∈ supportedChips bus := by
  have hall : ∀ t ∈ bus.targets, t.chipId.toNat ∈ supportedChips bus := by
    cases bus <;> decide
  exact hall _ f.built

def Firmware.announces (f : Firmware bus) (mac : List Tlv) (rxBufSize : UInt32) : BootMeta where
  capabilities := f.getCapabilities.toNat
  extCapabilities := f.getExtendedCapabilities.toNat
  chipset := f.target.chipId.toNat
  txAggrSize := rxBufSize.toNat
  baseMac := if mac = [] then List.replicate 6 0 else f.mac.getD []
  baseMacCount := if mac = [] then 0 else f.macCount.toNat
  baseMacPresent := decide (mac ≠ [])

/-- `esp_read_mac` has not returned the all-zero address. -/
def Firmware.MacSet (f : Firmware bus) : Prop := ∀ m ∈ f.mac, m.any (fun b => b != 0) = true

theorem macTlv_cases : espHostedAddBootMacTlv f = [] ∨
    ∃ t m, espHostedAddBootMacTlv f = [t] ∧ f.mac = some m ∧ t.tag = 8 ∧ t.value = m ++ [f.macCount] ∧
      (m.getD 0 0).toNat%2 = 0 ∧ (f.macCount = 1 ∨ f.macCount = 2 ∨ f.macCount = 4) := by
  unfold espHostedAddBootMacTlv
  split
  · exact .inl rfl
  · next m hm =>
    split
    · exact .inl rfl
    · next hno =>
      refine .inr ⟨_,m,rfl,hm,rfl,rfl,by omega,?_⟩
      by_contra hcount
      simp only [not_or] at hcount hno
      exact hno.2 hcount

/-- The MAC TLV is absent, or there is one and it is admissible. -/
def MacTlv (f : Firmware bus) (mac : List Tlv) : Prop :=
  mac = [] ∨ ∃ t m, mac = [t] ∧ f.mac = some m ∧ t.tag = 8 ∧ t.value = m ++ [f.macCount] ∧
    admissible bus 8 t.value = true

theorem macTlv_sent (h : f.MacSet) : MacTlv f (espHostedAddBootMacTlv f) := by
  rcases macTlv_cases f with hnone | ⟨t,m,hmac,hm,htag,hvalue,heven,hcount⟩
  · exact .inl hnone
  · refine .inr ⟨t,m,hmac,hm,htag,hvalue,?_⟩
    have hlen := f.macLength m hm
    have hset := h m hm
    have hget : (m ++ [f.macCount]).getD 6 0 = f.macCount := by
      simp [List.getD,← hlen]
    rw [hvalue]
    simp only [admissible,hget,Bool.and_eq_true,decide_eq_true_eq]
    refine ⟨⟨by simp [hlen],?_⟩,?_⟩
    · rw [List.take_left' hlen,isValidEtherAddr]
      simp only [heven,hset,decide_true,Bool.and_self]
    · rcases hcount with hc | hc | hc <;> simp [hc]

variable {f} {clk : Option UInt8} {mac : List Tlv} {rx : UInt32}

theorem value_mac (hmac : MacTlv f mac) (tag : Nat) :
    value? mac tag = if tag = 8 ∧ mac ≠ [] then some (f.mac.getD [] ++ [f.macCount]) else none := by
  rcases hmac with rfl | ⟨t,m,rfl,hm,htag,hvalue,-⟩
  · simp [value?]
  · by_cases h : tag = 8
    · simp [value?,htag,h,hvalue,hm]
    · have hne : ¬8 = tag := fun he => h he.symm
      simp [value?,htag,h,hne]

theorem value?_append (ts us : List Tlv) (tag : Nat) : value? (ts ++ us) tag = (value? ts tag).or (value? us tag) := by
  simp only [value?,List.find?_append]
  cases ts.find? (fun t => decide (t.tag.toNat = tag)) <;> rfl

theorem value?_singleton (t : Tlv) (tag : Nat) : value? [t] tag = if t.tag.toNat = tag then some t.value else none := by
  by_cases h : t.tag.toNat = tag <;> simp [value?,h]

def eventValue (f : Firmware bus) (clk : Option UInt8) (mac : List Tlv) (rx : UInt32) : Nat → Option Bytes
  | 0 => some (le32 f.getCapabilities)
  | 1 => some (fwData f.resetReason).value
  | 2 => clk.map fun b => [b]
  | 3 => some [f.target.chipId]
  | 5 => some (le32 rx)
  | 6 => if f.getExtendedCapabilities = 0 then none else some (le32 f.getExtendedCapabilities)
  | 8 => if mac ≠ [] then some (f.mac.getD [] ++ [f.macCount]) else none
  | _ => none

theorem value?_eventTlvs (hmac : MacTlv f mac) (tag : Nat) :
    value? (eventTlvs f clk mac rx) tag = eventValue f clk mac rx tag := by
  have hclk : value? (clk.map (byteTlv 2)).toList tag = if tag = 2 then clk.map fun b => [b] else none := by
    cases clk with
    | none => simp [value?]
    | some b => simp [value?_singleton,byteTlv,eq_comm]
  have hext : value? (if f.getExtendedCapabilities = 0 then [] else [wordTlv 6 f.getExtendedCapabilities]) tag =
      if tag = 6 ∧ f.getExtendedCapabilities ≠ 0 then some (le32 f.getExtendedCapabilities) else none := by
    by_cases h : f.getExtendedCapabilities = 0
    · simp [h,value?]
    · simp [h,value?_singleton,wordTlv,eq_comm]
  have hlast : value? [wordTlv 5 rx,fwData f.resetReason] tag =
      if tag = 5 then some (le32 rx) else if tag = 1 then some (fwData f.resetReason).value else none := by
    rw [show [wordTlv 5 rx,fwData f.resetReason] = [wordTlv 5 rx] ++ [fwData f.resetReason] from rfl,value?_append,
      value?_singleton,value?_singleton]
    by_cases h5 : tag = 5
    · simp [h5,wordTlv]
    · have hne : ¬5 = tag := fun he => h5 he.symm
      simp [h5,hne,wordTlv,fwData,eq_comm]
  simp only [eventTlvs,value?_append]
  rw [hclk,hext,hlast,value_mac hmac,value?_singleton,value?_singleton]
  clear hclk hext hlast
  simp only [byteTlv,wordTlv]
  rcases tag with _ | _ | _ | _ | _ | _ | _ | _ | _ | n
  all_goals simp [eventValue]

theorem decode_eventTlvs (hmac : MacTlv f mac) : decode (eventTlvs f clk mac rx) = f.announces mac rx := by
  have hchip : leNat [f.target.chipId] = f.target.chipId.toNat := by simp [leNat]
  have hext : (if f.getExtendedCapabilities = 0 then none else some (le32 f.getExtendedCapabilities)).elim 0 leNat =
      f.getExtendedCapabilities.toNat := by
    split
    · next h => simp [h]
    · exact leNat_le32 _
  simp only [decode,Firmware.announces,value?_eventTlvs hmac,eventValue,Option.elim_some,leNat_le32,hchip]
  rcases hmac with rfl | ⟨t,m,rfl,hm,-⟩
  · simpa using hext
  · have hlen := f.macLength m hm
    have htake : (m ++ [f.macCount]).take 6 = m := List.take_left' hlen
    have hget : (m ++ [f.macCount]).getD 6 0 = f.macCount := by simp [List.getD,← hlen]
    simp only [hm,Option.getD_some,ne_eq,List.cons_ne_nil,not_false_eq_true,if_true,if_false,Option.isSome_some,
      decide_true,BootMeta.mk.injEq,true_and,and_true]
    exact ⟨hext,rfl,htake,congrArg UInt8.toNat hget⟩

theorem grammar_eventTlvs (hmac : MacTlv f mac) (hclk : ∀ b ∈ clk, b ≠ 0)
    (hrx : txAggrSizeValid bus rx.toNat = true) : Grammar bus (eventTlvs f clk mac rx) where
  unique := by
    rcases hmac with rfl | ⟨t,m,rfl,-,htag,-⟩
    · cases clk <;> by_cases hext : f.getExtendedCapabilities = 0
      all_goals simp [eventTlvs,byteTlv,wordTlv,fwData,hext,knownTags]
    · cases clk <;> by_cases hext : f.getExtendedCapabilities = 0
      all_goals simp [eventTlvs,byteTlv,wordTlv,fwData,hext,htag,knownTags]
  admissible := by
    intro t ht
    simp only [eventTlvs,List.mem_append,List.mem_cons,List.not_mem_nil,or_false] at ht
    rcases ht with ((((rfl | ht) | rfl) | ht) | ht) | rfl | rfl
    · simpa [byteTlv,admissible,leNat] using chipId_supported f
    · cases clk with
      | none => simp at ht
      | some b =>
        obtain rfl : t = byteTlv 2 b := by simpa using ht
        have hb : b.toNat ≠ 0 := fun h => hclk b rfl (UInt8.toNat_inj.mp h)
        simpa [byteTlv,admissible,leNat] using hb
    · simp [wordTlv,admissible,le32]
    · split at ht
      · simp at ht
      · obtain rfl := List.mem_singleton.mp ht
        simp [wordTlv,admissible,le32]
    · rcases hmac with rfl | ⟨u,m,rfl,-,htag,-,hadm⟩
      · simp at ht
      · obtain rfl := List.mem_singleton.mp ht
        rw [htag]
        exact hadm
    · simp only [wordTlv,admissible,leNat_le32,hrx]
      simp [le32]
    · simp [fwData,admissible,le32,fwDataSize,checkEspVersion]
  required := by simp [value?_eventTlvs hmac,eventValue]
  transport := by
    rw [decode_eventTlvs hmac]
    exact getCapabilities_transport f
  nonce := by
    have hnone : value? (eventTlvs f clk mac rx) 7 = none := value?_eventTlvs hmac 7
    have hrcp : extRcp (decode (eventTlvs f clk mac rx)) = false := by
      rw [decode_eventTlvs hmac]
      exact getExtendedCapabilities_rcp f
    constructor
    · simp [hnone]
    · simp [hrcp]
    · simp [hnone]

theorem wire_append (ts us : List Tlv) : wire (ts ++ us) = wire ts ++ wire us := by simp [wire]

theorem wire_eventTlvs_length (hmac : MacTlv f mac) : (wire (eventTlvs f clk mac rx)).length ≤ 47 := by
  have hm : (wire mac).length ≤ 9 := by
    rcases hmac with rfl | ⟨t,m,rfl,hm,-,hvalue,-⟩
    · simp [wire]
    · simp [wire,Tlv.wire,hvalue,f.macLength m hm]
  have hc : (wire (clk.map (byteTlv 2)).toList).length ≤ 3 := by
    cases clk <;> simp [wire,Tlv.wire,byteTlv]
  have he : (wire (if f.getExtendedCapabilities = 0 then [] else [wordTlv 6 f.getExtendedCapabilities])).length ≤ 6 := by
    split <;> simp [wire,Tlv.wire,wordTlv,le32]
  simp only [eventTlvs,wire_append,List.length_append]
  have hrest : (wire [byteTlv 3 f.target.chipId]).length = 3 ∧ (wire [wordTlv 0 f.getCapabilities]).length = 6 ∧
      (wire [wordTlv 5 rx,fwData f.resetReason]).length = 20 := by
    simp [wire,Tlv.wire,byteTlv,wordTlv,fwData,le32]
  omega

theorem bootEvent_spec {ts : List Tlv} (h : (wire ts).length ≤ 47) :
    espBootupEventStructurallyValid (bootEvent ts) = true ∧ bootPayload (bootEvent ts) = wire ts := by
  have hlen : (UInt8.ofNat (wire ts).length).toNat = (wire ts).length := by
    rw [UInt8.toNat_ofNat']
    exact Nat.mod_eq_of_lt (by omega)
  constructor
  · simp [espBootupEventStructurallyValid,bootEvent,htole16,bootDataOffset,hlen]
  · simp [bootPayload,bootEvent,htole16,bootDataOffset,hlen]

/-- What the host is to have in its metadata after the boot event. -/
def Firmware.announced : (bus : Bus) → Firmware bus → BootMeta
  | .sdio, f => f.announces (espHostedAddBootMacTlv f) (sdioRxBufSize f.target)
  | .spi, f => f.announces (espHostedAddBootMacTlv f) 1600
  | .spiHd, f => f.announces [] 1600
  | .usb, f => f.announces (espHostedAddBootMacTlv f) 16384

theorem sendBootupEventToHost_spec (f : Firmware bus) (h : f.MacSet) :
    (wire (sendBootupEventToHost bus f)).length ≤ 47 ∧ Grammar bus (sendBootupEventToHost bus f) ∧
      ClockGiven bus (sendBootupEventToHost bus f) ∧ decode (sendBootupEventToHost bus f) = f.announced bus := by
  have hmac := macTlv_sent f h
  have hnone : MacTlv f [] := .inl rfl
  cases bus with
  | sdio =>
    have hrx : txAggrSizeValid .sdio (sdioRxBufSize f.target).toNat = true := by
      cases f.target <;> decide
    exact ⟨wire_eventTlvs_length hmac,grammar_eventTlvs hmac (by simp) hrx,(by simp [ClockGiven]),decode_eventTlvs hmac⟩
  | spi =>
    have hclk : ∀ b ∈ some (spiClkMhz f.target), b ≠ 0 := by
      cases f.target <;> simp [spiClkMhz]
    exact ⟨wire_eventTlvs_length hmac,grammar_eventTlvs hmac hclk (by decide),(by simp [ClockGiven]),
      decode_eventTlvs hmac⟩
  | spiHd =>
    have hclk : ∀ b ∈ some f.spiHdMaxClkMhz, b ≠ 0 := by
      simpa using f.clkRange
    refine ⟨wire_eventTlvs_length hnone,grammar_eventTlvs hnone hclk (by decide),fun _ => ?_,decode_eventTlvs hnone⟩
    rw [sendBootupEventToHost,spiHdBootTlvs,value?_eventTlvs hnone]
    rfl
  | usb =>
    exact ⟨wire_eventTlvs_length hmac,grammar_eventTlvs hmac (by simp) (by decide),(by simp [ClockGiven]),
      decode_eventTlvs hmac⟩

/-- The parsing stage accepts the grammar, with a clock TLV on SPI-HD, and nothing else. -/
theorem boot_grammar (bus : Bus) :
    (∀ old evt,
      (∀ m, parseAfter bus old evt = (m,0) ↔
        ∃ ts, evt = wire ts ∧ Grammar bus ts ∧ ClockGiven bus ts ∧ m = decode ts) ∧
      (∀ fuel, evt.length ≤ fuel → parseTlvs bus fuel {boot := old.reset} evt = parseTlvs bus evt.length {} evt) ∧
      readEnd bus evt.length {boot := old.reset} 0 evt ≤ evt.length) ∧
    ∀ f : Firmware bus, f.MacSet →
      espBootupEventStructurallyValid (bootEvent (sendBootupEventToHost bus f)) = true ∧
      ∀ old, parseAfter bus old (bootPayload (bootEvent (sendBootupEventToHost bus f))) = (f.announced bus,0) := by
  refine ⟨fun old evt => ⟨fun m => ?_,fun fuel hfuel => ?_,?_⟩,fun f hf => ?_⟩
  · rw [parseAfter_eq]
    exact parseBootEvent_iff bus evt m
  · exact parseTlvs_fuel {} hfuel (Nat.le_refl _)
  · simpa using readEnd_le evt.length {boot := old.reset} 0 evt
  · obtain ⟨hlen,hgrammar,hclock,hdecode⟩ := sendBootupEventToHost_spec f hf
    obtain ⟨hvalid,hpayload⟩ := bootEvent_spec hlen
    refine ⟨hvalid,fun old => ?_⟩
    rw [hpayload,parseAfter_eq]
    exact (parseBootEvent_iff bus _ _).mpr ⟨_,rfl,hgrammar,hclock,hdecode.symm⟩

def clockless : List Tlv := [byteTlv 3 0x17,byteTlv 0 32,fwData 1]

/-- An SDIO build whose `esp_read_mac` returns the all-zero address. -/
def zeroMac : Firmware .sdio where
  target := .esp32c6
  built := by decide
  wifi := true
  gcmp := false
  checksum := false
  bluetooth := none
  rcp := false
  spiHdMaxClkMhz := 40
  clkRange := by decide
  resetReason := 1
  mac := some (List.replicate 6 0)
  macLength := by decide
  macCount := 4

/-- SPI-HD refuses a payload of the grammar that has no clock TLV, and the host a boot event with the zero MAC, which
the encoder sends. -/
theorem clockless_refused :
    (Grammar .spiHd clockless ∧ (parseBootEvent .spi (wire clockless)).2 = 0 ∧
      (parseBootEvent .spiHd (wire clockless)).2 = -EINVAL) ∧
    (parseBootEvent .sdio (bootPayload (bootEvent (sendBootupEventToHost .sdio zeroMac)))).2 = -EPROTO := by
  refine ⟨⟨⟨by decide,by decide,by decide,by decide,⟨by decide,by decide,by decide⟩⟩,by decide,by decide⟩,?_⟩
  decide +kernel

end EspHosted.Boot
