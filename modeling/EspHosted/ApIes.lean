import Mathlib.Data.List.Basic
import EspHosted.Lib.Framing
import EspHosted.Wire

/-!
Information elements of the access point, `esp_cfg80211.c`: what `start_ap`, `change_beacon` and
`stop_ap` keep in `ap_ie_buf`/`ap_ie_len` and what they set in the firmware.
-/

set_option autoImplicit false

namespace EspHosted.ApIes
open EspHosted

def ESP_BEACON_PROBE_HEAD_FIXED_LEN : Nat := 34
def ESP_BEACON_HEAD_IE_OFF : Nat := 36

/-- The element at the front, unless there is none or it is cut off. -/
def nextTlv : Bytes → Option (Bytes × Bytes)
  | id :: len :: rest =>
    if len.toNat ≤ rest.length then some (id :: len :: rest.take len.toNat,rest.drop len.toNat) else none
  | _ => none

def ieBlobContainsTlvLoop (tlv : Bytes) : Nat → Bytes → Bool
  | 0, _ => false
  | fuel+1, pos =>
    match nextTlv pos with
    | none => false
    | some (e,rest) => if e = tlv then true else ieBlobContainsTlvLoop tlv fuel rest

def espIeBlobContainsTlv (blob tlv : Bytes) : Bool :=
  if tlv.length < 2 then false else ieBlobContainsTlvLoop tlv blob.length blob

def filterExtraLoop (headIes tail : Bytes) : Nat → Bytes → Bytes
  | 0, pos => pos
  | fuel+1, pos =>
    match nextTlv pos with
    | none => pos
    | some (e,rest) =>
      (if !espIeBlobContainsTlv headIes e && !espIeBlobContainsTlv tail e then e else []) ++
        filterExtraLoop headIes tail fuel rest

def espFilterExtraIes (headIes tail extra : Bytes) : Bytes := filterExtraLoop headIes tail extra.length extra

/-- `esp_ap_ie_slot_type` -/
inductive Slot where
  | head
  | tail
  | beacon
  | probeResp
  | assocResp
  deriving DecidableEq, Repr

def slots : List Slot := [.head,.tail,.beacon,.probeResp,.assocResp]

/-- A pointer and its length in `cfg80211_beacon_data`; `absent` is `NULL`. -/
inductive Field where
  | absent (len : Nat)
  | given (data : Bytes)
  deriving DecidableEq, Repr

structure BeaconData where
  head : Field := .absent 0
  tail : Field := .absent 0
  beaconIes : Field := .absent 0
  proberespIes : Field := .absent 0
  assocrespIes : Field := .absent 0
  deriving DecidableEq, Repr

inductive Err where
  | einval
  | enomem
  | cmd (e : Nat)
  deriving DecidableEq, Repr

/-- `cache` is `ap_ie_buf`/`ap_ie_len`, `fw` the slots in the firmware. -/
structure Ap where
  cache : Slot → Bytes := fun _ => []
  fw : Slot → Bytes := fun _ => []
  /-- `esp_schedule_fw_reset_recovery` and `esp_request_firmware_restart` have been called. -/
  reset : Bool := false
  /-- A `SET_IE` was not issued, as the driver was cleaning up. -/
  skipped : Bool := false

inductive Reply where
  | ok
  | refused (e : Nat)
  /-- `ESP_CLEANUP_IN_PROGRESS`: success without a command. -/
  | cleanup
  deriving DecidableEq, Repr

/-- An empty blob removes the slot. -/
def cmdSetIe (s : Ap) (i : Slot) (ie : Bytes) : Reply → Ap × Option Err
  | .ok => ({s with fw := Function.update s.fw i ie},none)
  | .refused e => (s,some (.cmd e))
  | .cleanup => ({s with skipped := true},none)

def espApCompareHeadTail (s : Ap) (info : BeaconData) : Bytes × Bytes :=
  (match info.head with
   | .given d => if ESP_BEACON_HEAD_IE_OFF < d.length then d.drop ESP_BEACON_HEAD_IE_OFF else []
   | .absent _ => if 2 < (s.cache .head).length then (s.cache .head).drop 2 else [],
   match info.tail with
   | .given d => d
   | .absent _ => s.cache .tail)

/-- `alloc`: the `kmalloc` of `esp_filter_extra_ies` succeeds. -/
def espPrepFilteredExtra (s : Ap) (info : BeaconData) (alloc : Bool) (extra : Bytes) : Except Err Bytes :=
  if extra = [] then .ok []
  else if !alloc then .error .enomem
  else .ok (espFilterExtraIes (espApCompareHeadTail s info).1 (espApCompareHeadTail s info).2 extra)

def prepHead : Field → Except Err (Option Bytes)
  | .absent 0 => .ok none
  | .absent (_+1) => .error .einval
  | .given d =>
    if d.length < ESP_BEACON_HEAD_IE_OFF ∨ U16_MAX < d.length-ESP_BEACON_PROBE_HEAD_FIXED_LEN then .error .einval
    else .ok (some (d.drop ESP_BEACON_PROBE_HEAD_FIXED_LEN))

/-- The checks of every other field: what it becomes when it is given is `prep`, when not, `absent`. -/
def prepField (absent : Option Bytes) (prep : Bytes → Except Err Bytes) : Field → Except Err (Option Bytes)
  | .absent 0 => .ok absent
  | .absent (_+1) => .error .einval
  | .given d => if U16_MAX < d.length then .error .einval else (prep d).map some

def prepTail : Field → Except Err (Option Bytes) := prepField none .ok

def prepExtra (s : Ap) (info : BeaconData) (absent : Option Bytes) (alloc : Bool) : Field → Except Err (Option Bytes) :=
  prepField absent (espPrepFilteredExtra s info alloc)

def prepAssoc (absent : Option Bytes) : Field → Except Err (Option Bytes) := prepField absent .ok

structure Mem where
  filter : Slot → Bool := fun _ => true
  dup : Slot → Bool := fun _ => true

/-- What each slot is to hold, `none` where it is not updated. -/
structure Update where
  head : Option Bytes
  tail : Option Bytes
  beacon : Option Bytes
  probeResp : Option Bytes
  assocResp : Option Bytes
  deriving DecidableEq, Repr

def Update.new (u : Update) : Slot → Option Bytes
  | .head => u.head
  | .tail => u.tail
  | .beacon => u.beacon
  | .probeResp => u.probeResp
  | .assocResp => u.assocResp

/-- The first half of `esp_set_ies` (`absent = none`) and `esp_change_ap_ies` (`absent = some []`),
up to the copies for the cache. -/
def prepare (absent : Option Bytes) (s : Ap) (info : BeaconData) (m : Mem) : Except Err Update :=
  match prepHead info.head with
  | .error e => .error e
  | .ok head =>
  match prepTail info.tail with
  | .error e => .error e
  | .ok tail =>
  match prepExtra s info absent (m.filter .beacon) info.beaconIes with
  | .error e => .error e
  | .ok beacon =>
  match prepExtra s info absent (m.filter .probeResp) info.proberespIes with
  | .error e => .error e
  | .ok probeResp =>
  match prepAssoc absent info.assocrespIes with
  | .error e => .error e
  | .ok assocResp =>
    let u : Update := ⟨head,tail,beacon,probeResp,assocResp⟩
    if slots.any (fun i => (u.new i).any (fun b => b ≠ []) && !m.dup i) then .error .enomem else .ok u

def setLoop (r : Slot → Reply) (new : Slot → Option Bytes) : List Slot → Ap → Ap × Option Err
  | [], s => (s,none)
  | i :: is, s =>
    match new i with
    | none => setLoop r new is s
    | some ie =>
      match cmdSetIe s i ie (r i) with
      | (s',some e) => (s',some e)
      | (s',none) => setLoop r new is s'

def Ap.commit (s : Ap) (new : Slot → Option Bytes) : Ap := {s with cache := fun i => (new i).getD (s.cache i)}

def espSetIes (s : Ap) (info : BeaconData) (m : Mem) (r : Slot → Reply) : Ap × Option Err :=
  match prepare none s info m with
  | .error e => (s,some e)
  | .ok u =>
    match setLoop r u.new slots s with
    | (s',some e) => (s',some e)
    | (s',none) => (s'.commit u.new,none)

/-- The slots that were set go back to what the cache has, the latest first. -/
def rollback (r : Slot → Reply) : List Slot → Ap → Ap
  | [], s => s
  | i :: is, s =>
    match cmdSetIe s i (s.cache i) (r i) with
    | (s',some _) => rollback r is {s' with reset := true}
    | (s',none) => rollback r is s'

def changeLoop (r back : Slot → Reply) (new : Slot → Option Bytes) (committed : List Slot) :
    List Slot → Ap → Ap × Option Err
  | [], s => (s,none)
  | i :: is, s =>
    match new i with
    | none => changeLoop r back new committed is s
    | some ie =>
      match cmdSetIe s i ie (r i) with
      | (s',some e) => (rollback back committed s',some e)
      | (s',none) => changeLoop r back new (i :: committed) is s'

/-- Slots that stay as they are get no command. -/
def changed (s : Ap) (new : Slot → Option Bytes) (i : Slot) : Option Bytes :=
  if new i = some (s.cache i) then none else new i

/-- `esp_cfg80211_change_beacon` on the access point's interface. -/
def espChangeApIes (s : Ap) (info : BeaconData) (m : Mem) (r back : Slot → Reply) : Ap × Option Err :=
  match prepare (some []) s info m with
  | .error e => (s,some e)
  | .ok u =>
    match changeLoop r back (changed s u.new) [] slots s with
    | (s',some e) => (s',some e)
    | (s',none) => (s'.commit (changed s u.new),none)

def clearLoop (r : Slot → Reply) : List Slot → Option Err → Ap → Ap × Option Err
  | [], first, s => (s,first)
  | i :: is, first, s =>
    match cmdSetIe s i [] (r i) with
    | (s',ret) => clearLoop r is (first.or ret) s'

def espClearApIes (s : Ap) (r : Slot → Reply) : Ap × Option Err :=
  clearLoop r slots none {s with cache := fun _ => []}

/-- The replies to the commands of `start_ap`. -/
structure StartReplies where
  mode : Option Nat := none
  clear : Slot → Reply := fun _ => .ok
  mem : Mem := {}
  set : Slot → Reply := fun _ => .ok
  apConfig : Option Nat := none
  clearAgain : Slot → Reply := fun _ => .ok
  stop : Option Nat := none

def startRollback (s : Ap) (r : StartReplies) (e : Err) : Ap × Option Err :=
  match espClearApIes s r.clearAgain with
  | (s',ret) => (if ret.isSome || r.stop.isSome then {s' with reset := true} else s',some e)

/-- `sizeof(ap_config.ssid)` -/
def ssidSize : Nat := 32

def espCfg80211StartAp (s : Ap) (info : BeaconData) (ssid : Option Bytes) (r : StartReplies) : Ap × Option Err :=
  match r.mode with
  | some e => (s,some (.cmd e))
  | none =>
  match espClearApIes s r.clear with
  | (s,some e) => startRollback s r e
  | (s,none) =>
  match espSetIes s info r.mem r.set with
  | (s,some e) => startRollback s r e
  | (s,none) =>
  match info.head with
  | .absent _ => startRollback s r .einval
  | .given d =>
    if d.length < ESP_BEACON_HEAD_IE_OFF then startRollback s r .einval
    else if ssid.all (fun x => x = [] ∨ ssidSize < x.length) then startRollback s r .einval
    else
      match r.apConfig with
      | some e => startRollback s r (.cmd e)
      | none => (s,none)

def espCfg80211StopAp (s : Ap) (stop : Option Nat) (r : Slot → Reply) : Ap × Option Err :=
  match stop with
  | some e => (s,some (.cmd e))
  | none =>
    match espClearApIes s r with
    | (s',ret) => (if ret.isSome then {s' with reset := true} else s',none)

inductive Call where
  | startAp (info : BeaconData) (ssid : Option Bytes) (r : StartReplies)
  | changeBeacon (info : BeaconData) (m : Mem) (r back : Slot → Reply)
  | stopAp (stop : Option Nat) (r : Slot → Reply)

def Ap.call (s : Ap) : Call → Ap × Option Err
  | .startAp info ssid r => espCfg80211StartAp s info ssid r
  | .changeBeacon info m r back => espChangeApIes s info m r back
  | .stopAp stop r => espCfg80211StopAp s stop r

theorem nextTlv_split {pos e rest : Bytes} (h : nextTlv pos = some (e,rest)) :
    pos = e ++ rest ∧ 2 ≤ e.length ∧ ∀ t, nextTlv (e ++ t) = some (e,t) := by
  unfold nextTlv at h
  split at h
  · next id len r =>
    split at h
    · next hl =>
      cases h
      refine ⟨by simp,by simp,fun t => ?_⟩
      have ht : (r.take len.toNat).length = len.toNat := by rw [List.length_take]; omega
      simp only [List.cons_append,nextTlv,List.length_append,ht]
      rw [if_pos (by omega),List.take_left' ht,List.drop_left' ht]
    · cases h
  · cases h

/-- The walk along a blob that the loops of the driver make. -/
def ieDecoder : Framing.Decoder Unit UInt8 Bytes where
  next := fun _ pos => (nextTlv pos).map (fun r => ((),r.2,[r.1]))
  weight := fun _ => 0
  stable := by
    intro _ _ buf rest out t h
    cases hn : nextTlv buf with
    | none => simp [hn] at h
    | some r =>
      obtain ⟨e,rest'⟩ := r
      obtain ⟨hb,-,hs⟩ := nextTlv_split hn
      simp only [hn,Option.map_some,Option.some.injEq,Prod.mk.injEq,true_and] at h
      obtain ⟨rfl,rfl⟩ := h
      rw [hb,List.append_assoc,hs (rest' ++ t)]
      rfl
  shrinks := by
    intro _ _ buf rest out h
    cases hn : nextTlv buf with
    | none => simp [hn] at h
    | some r =>
      obtain ⟨e,rest'⟩ := r
      obtain ⟨hb,hl,-⟩ := nextTlv_split hn
      simp only [hn,Option.map_some,Option.some.injEq,Prod.mk.injEq,true_and] at h
      obtain ⟨rfl,rfl⟩ := h
      rw [hb,List.length_append]
      omega

def elements (b : Bytes) : List Bytes := (ieDecoder.run () b).2.2

def remainder (b : Bytes) : Bytes := (ieDecoder.run () b).2.1

theorem run_none {b : Bytes} (h : nextTlv b = none) : elements b = [] ∧ remainder b = b := by
  have hn : ieDecoder.next () b = none := by simp [ieDecoder,h]
  simp [elements,remainder,ieDecoder.run_wait hn]

theorem run_some {b e rest : Bytes} (h : nextTlv b = some (e,rest)) :
    elements b = e :: elements rest ∧ remainder b = remainder rest := by
  have hn : ieDecoder.next () b = some ((),rest,[e]) := by simp [ieDecoder,h]
  simp [elements,remainder,ieDecoder.run_step hn]

theorem elements_append {e : Bytes} (h : ∀ t, nextTlv (e ++ t) = some (e,t)) (t : Bytes) :
    elements (e ++ t) = e :: elements t := (run_some (h t)).1

theorem elements_remainder (b : Bytes) : elements (remainder b) = [] := by
  have h := ieDecoder.next_run () b
  simp only [ieDecoder,Option.map_eq_none_iff] at h
  exact (run_none h).1

/-- The rule for walks along a blob. -/
theorem walk_induct {P : Bytes → Prop} (stop : ∀ b, nextTlv b = none → P b)
    (next : ∀ b e rest, nextTlv b = some (e,rest) → P rest → P b) (b : Bytes) : P b := by
  refine ieDecoder.run_induct (fun _ b h => stop b (by simpa [ieDecoder] using h)) (fun _ b _ rest _ h ih => ?_) () b
  cases hn : nextTlv b with
  | none => simp [ieDecoder,hn] at h
  | some r =>
    simp only [ieDecoder,hn,Option.map_some,Option.some.injEq,Prod.mk.injEq,true_and] at h
    exact next b r.1 r.2 hn (h.1 ▸ ih)

theorem isElement {b e : Bytes} (h : e ∈ elements b) : 2 ≤ e.length ∧ ∀ t, nextTlv (e ++ t) = some (e,t) := by
  induction b using walk_induct with
  | stop b hn => simp [(run_none hn).1] at h
  | next b e' rest hn ih =>
    rw [(run_some hn).1] at h
    rcases List.mem_cons.mp h with rfl | h
    · exact (nextTlv_split hn).2
    · exact ih h

theorem ieBlobContainsTlvLoop_eq (tlv b : Bytes) (fuel : Nat) (hf : b.length ≤ fuel) :
    ieBlobContainsTlvLoop tlv fuel b = decide (tlv ∈ elements b) := by
  induction b using walk_induct generalizing fuel with
  | stop b hn =>
    cases fuel with
    | zero => simp [ieBlobContainsTlvLoop,(run_none hn).1]
    | succ fuel => simp [ieBlobContainsTlvLoop,hn,(run_none hn).1]
  | next b e rest hn ih =>
    obtain ⟨hb,hl,-⟩ := nextTlv_split hn
    have hlen : b.length = e.length+rest.length := by rw [hb,List.length_append]
    cases fuel with
    | zero => omega
    | succ fuel =>
      simp only [ieBlobContainsTlvLoop,hn,ih fuel (by omega),(run_some hn).1,List.mem_cons]
      by_cases he : e = tlv
      · simp [he]
      · simp [he,Ne.symm he]

theorem espIeBlobContainsTlv_eq {blob e : Bytes} (h : 2 ≤ e.length) :
    espIeBlobContainsTlv blob e = decide (e ∈ elements blob) := by
  unfold espIeBlobContainsTlv
  rw [if_neg (by omega),ieBlobContainsTlvLoop_eq e blob blob.length (Nat.le_refl _)]

/-- What the extra slot is to hold: the elements of `extra` that neither HEAD nor TAIL has, and the
malformed end. -/
def extraOnly (headIes tail extra : Bytes) : Bytes :=
  ((elements extra).filter (fun e => e ∉ elements headIes ∧ e ∉ elements tail)).flatten ++ remainder extra

theorem filterExtraLoop_eq (headIes tail b : Bytes) (fuel : Nat) (hf : b.length ≤ fuel) :
    filterExtraLoop headIes tail fuel b = extraOnly headIes tail b := by
  induction b using walk_induct generalizing fuel with
  | stop b hn =>
    obtain ⟨he,hr⟩ := run_none hn
    cases fuel with
    | zero => simp [filterExtraLoop,extraOnly,he,hr]
    | succ fuel => simp [filterExtraLoop,extraOnly,hn,he,hr]
  | next b e rest hn ih =>
    obtain ⟨hb,hl,-⟩ := nextTlv_split hn
    obtain ⟨he,hr⟩ := run_some hn
    have hlen : b.length = e.length+rest.length := by rw [hb,List.length_append]
    cases fuel with
    | zero => omega
    | succ fuel =>
      simp only [filterExtraLoop,hn,ih fuel (by omega),espIeBlobContainsTlv_eq hl]
      simp only [extraOnly,he,hr,List.filter_cons]
      by_cases hh : e ∈ elements headIes
      · simp [hh]
      · by_cases ht : e ∈ elements tail
        · simp [hh,ht]
        · simp [hh,ht]

theorem espFilterExtraIes_eq (headIes tail extra : Bytes) :
    espFilterExtraIes headIes tail extra = extraOnly headIes tail extra :=
  filterExtraLoop_eq headIes tail extra extra.length (Nat.le_refl _)

theorem elements_flatten (es : List Bytes) (b : Bytes) (h : ∀ e ∈ es, ∀ t, nextTlv (e ++ t) = some (e,t)) :
    elements (es.flatten ++ b) = es ++ elements b := by
  induction es with
  | nil => rfl
  | cons e es ih =>
    rw [List.flatten_cons,List.append_assoc,elements_append (h e (by simp)),ih (fun x hx => h x (by simp [hx]))]
    rfl

theorem elements_extraOnly (headIes tail extra : Bytes) :
    elements (extraOnly headIes tail extra) =
      (elements extra).filter (fun e => e ∉ elements headIes ∧ e ∉ elements tail) := by
  unfold extraOnly
  rw [elements_flatten _ _ (fun e he => (isElement (List.mem_filter.mp he).1).2),elements_remainder,List.append_nil]

/-- Neither has a reset been scheduled nor a command been skipped. -/
def Ap.Clean (s : Ap) : Prop := s.reset = false ∧ s.skipped = false

/-- A cache that describes the firmware, where nothing says otherwise. -/
def Ap.Consistent (s : Ap) : Prop := s.Clean → ∀ i, s.fw i = s.cache i

theorem cmdSetIe_cases (s : Ap) (i : Slot) (ie : Bytes) (r : Reply) :
    cmdSetIe s i ie r = ({s with fw := Function.update s.fw i ie},none) ∨
    (∃ e, cmdSetIe s i ie r = (s,some e)) ∨ cmdSetIe s i ie r = ({s with skipped := true},none) := by
  cases r with
  | ok => exact .inl rfl
  | refused e => exact .inr (.inl ⟨_,rfl⟩)
  | cleanup => exact .inr (.inr rfl)

/-- `s'` is `s` after some `SET_IE` commands. -/
structure Sent (s s' : Ap) : Prop where
  cache : s'.cache = s.cache
  clean : s'.Clean → s.Clean

theorem Sent.refl (s : Ap) : Sent s s := ⟨rfl,id⟩

theorem Sent.trans {s t u : Ap} (h : Sent s t) (k : Sent t u) : Sent s u :=
  ⟨k.cache.trans h.cache,fun hc => h.clean (k.clean hc)⟩

theorem cmdSetIe_sent (s : Ap) (i : Slot) (ie : Bytes) (r : Reply) : Sent s (cmdSetIe s i ie r).1 := by
  rcases cmdSetIe_cases s i ie r with h | ⟨e,h⟩ | h
  · rw [h]
    exact ⟨rfl,id⟩
  · rw [h]
    exact Sent.refl s
  · rw [h]
    exact ⟨rfl,fun hc => by cases hc.2⟩

theorem cmdSetIe_none {s s' : Ap} {i : Slot} {ie : Bytes} {r : Reply} (h : cmdSetIe s i ie r = (s',none))
    (hc : s'.Clean) : s' = {s with fw := Function.update s.fw i ie} := by
  rcases cmdSetIe_cases s i ie r with h' | ⟨e,h'⟩ | h'
  · rw [h] at h'
    exact (Prod.mk.inj h').1
  · rw [h] at h'
    cases (Prod.mk.inj h').2
  · rw [h] at h'
    rw [(Prod.mk.inj h').1] at hc
    cases hc.2

theorem cmdSetIe_some {s s' : Ap} {i : Slot} {ie : Bytes} {r : Reply} {e : Err}
    (h : cmdSetIe s i ie r = (s',some e)) : s' = s := by
  rcases cmdSetIe_cases s i ie r with h' | ⟨e,h'⟩ | h'
  · rw [h] at h'
    cases (Prod.mk.inj h').2
  · rw [h] at h'
    exact (Prod.mk.inj h').1
  · rw [h] at h'
    cases (Prod.mk.inj h').2

theorem setLoop_sent (r : Slot → Reply) (new : Slot → Option Bytes) (is : List Slot) (s : Ap) :
    Sent s (setLoop r new is s).1 := by
  induction is generalizing s with
  | nil => exact Sent.refl s
  | cons i is ih =>
    cases hn : new i with
    | none =>
      simp only [setLoop,hn]
      exact ih s
    | some ie =>
      have h := cmdSetIe_sent s i ie (r i)
      simp only [setLoop,hn]
      cases heq : cmdSetIe s i ie (r i) with
      | mk s' ret =>
        rw [heq] at h
        cases ret with
        | some e => exact h
        | none => exact h.trans (ih s')

theorem setLoop_done {r : Slot → Reply} {new : Slot → Option Bytes} {is : List Slot} {s s' : Ap}
    (h : setLoop r new is s = (s',none)) (hc : s'.Clean) (i : Slot) :
    s'.fw i = if i ∈ is then (new i).getD (s.fw i) else s.fw i := by
  induction is generalizing s with
  | nil =>
    cases h
    simp
  | cons j is ih =>
    unfold setLoop at h
    cases hn : new j with
    | none =>
      simp only [hn] at h
      rw [ih h]
      by_cases hj : i = j
      · simp [hj,hn]
      · simp [hj]
    | some ie =>
      simp only [hn] at h
      split at h
      · cases h
      · next t heq =>
        have hsent := setLoop_sent r new is t
        rw [h] at hsent
        have ht := cmdSetIe_none heq (hsent.clean hc)
        rw [ih h,ht]
        by_cases hj : i = j
        · simp [hj,hn]
        · simp [hj]

theorem clearLoop_sent (r : Slot → Reply) (is : List Slot) (first : Option Err) (s : Ap) :
    Sent s (clearLoop r is first s).1 := by
  induction is generalizing s first with
  | nil => exact Sent.refl s
  | cons i is ih =>
    unfold clearLoop
    exact (cmdSetIe_sent s i [] (r i)).trans (ih _ _)

theorem clearLoop_first {r : Slot → Reply} {is : List Slot} {first : Option Err} {s s' : Ap}
    (h : clearLoop r is first s = (s',none)) : first = none := by
  induction is generalizing s first with
  | nil =>
    cases h
    rfl
  | cons i is ih =>
    unfold clearLoop at h
    exact (Option.or_eq_none_iff.mp (ih h)).1

theorem clearLoop_done {r : Slot → Reply} {is : List Slot} {first : Option Err} {s s' : Ap}
    (h : clearLoop r is first s = (s',none)) (hc : s'.Clean) (i : Slot) :
    s'.fw i = if i ∈ is then [] else s.fw i := by
  induction is generalizing s first with
  | nil =>
    cases h
    simp
  | cons j is ih =>
    unfold clearLoop at h
    cases heq : cmdSetIe s j [] (r j) with
    | mk t ret =>
      simp only [heq] at h
      have hret : ret = none := (Option.or_eq_none_iff.mp (clearLoop_first h)).2
      have hsent := clearLoop_sent r is (first.or ret) t
      rw [h] at hsent
      rw [hret] at heq
      rw [ih h,cmdSetIe_none heq (hsent.clean hc)]
      by_cases hj : i = j
      · simp [hj]
      · simp [hj]

theorem mem_slots (i : Slot) : i ∈ slots := by
  cases i <;> simp [slots]

theorem espClearApIes_done {s s' : Ap} {r : Slot → Reply} (h : espClearApIes s r = (s',none)) (hc : s'.Clean) :
    ∀ i, s'.fw i = [] ∧ s'.cache i = [] := by
  intro i
  have hsent := clearLoop_sent r slots none {s with cache := fun _ => []}
  have hfw := clearLoop_done h hc i
  unfold espClearApIes at h
  rw [h] at hsent
  simp only [mem_slots i,if_true] at hfw
  exact ⟨hfw,by rw [hsent.cache]⟩

theorem rollback_sent (r : Slot → Reply) (is : List Slot) (s : Ap) : Sent s (rollback r is s) := by
  induction is generalizing s with
  | nil => exact Sent.refl s
  | cons i is ih =>
    have h := cmdSetIe_sent s i (s.cache i) (r i)
    unfold rollback
    cases heq : cmdSetIe s i (s.cache i) (r i) with
    | mk s' ret =>
      rw [heq] at h
      cases ret with
      | none => exact h.trans (ih s')
      | some e =>
        have hr : Sent s' {s' with reset := true} := ⟨rfl,fun hc => by cases hc.1⟩
        exact (h.trans hr).trans (ih _)

theorem rollback_done {r : Slot → Reply} {is : List Slot} {s : Ap} (hc : (rollback r is s).Clean) (i : Slot) :
    (rollback r is s).fw i = if i ∈ is then s.cache i else s.fw i := by
  induction is generalizing s with
  | nil => simp [rollback]
  | cons j is ih =>
    unfold rollback at hc ⊢
    cases heq : cmdSetIe s j (s.cache j) (r j) with
    | mk s' ret =>
      rw [heq] at hc
      cases ret with
      | none =>
        simp only at hc ⊢
        have hs := cmdSetIe_none heq ((rollback_sent r is s').clean hc)
        rw [ih hc,hs]
        by_cases hj : i = j
        · simp [hj]
        · simp [hj]
      | some e =>
        have hx := (rollback_sent r is {s' with reset := true}).clean hc
        cases hx.1

theorem changeLoop_sent (r back : Slot → Reply) (new : Slot → Option Bytes) (committed is : List Slot) (s : Ap) :
    Sent s (changeLoop r back new committed is s).1 := by
  induction is generalizing s committed with
  | nil => exact Sent.refl s
  | cons i is ih =>
    cases hn : new i with
    | none =>
      simp only [changeLoop,hn]
      exact ih committed s
    | some ie =>
      have h := cmdSetIe_sent s i ie (r i)
      simp only [changeLoop,hn]
      cases heq : cmdSetIe s i ie (r i) with
      | mk s' ret =>
        rw [heq] at h
        cases ret with
        | some e => exact h.trans (rollback_sent back committed s')
        | none => exact h.trans (ih _ s')

theorem changeLoop_done {r back : Slot → Reply} {new : Slot → Option Bytes} {committed is : List Slot} {s s' : Ap}
    (h : changeLoop r back new committed is s = (s',none)) (hc : s'.Clean) (i : Slot) :
    s'.fw i = if i ∈ is then (new i).getD (s.fw i) else s.fw i := by
  induction is generalizing s committed with
  | nil =>
    cases h
    simp
  | cons j is ih =>
    unfold changeLoop at h
    cases hn : new j with
    | none =>
      simp only [hn] at h
      rw [ih h]
      by_cases hj : i = j
      · simp [hj,hn]
      · simp [hj]
    | some ie =>
      simp only [hn] at h
      split at h
      · cases h
      · next t heq =>
        have hsent := changeLoop_sent r back new (j :: committed) is t
        rw [h] at hsent
        have ht := cmdSetIe_none heq (hsent.clean hc)
        rw [ih h,ht]
        by_cases hj : i = j
        · simp [hj,hn]
        · simp [hj]

/-- The induction carries that the slots outside `committed` are still those of the cache. -/
theorem changeLoop_failed {r back : Slot → Reply} {new : Slot → Option Bytes} {committed is : List Slot} {s s' : Ap}
    {e : Err} (h : changeLoop r back new committed is s = (s',some e)) (hc : s'.Clean)
    (hs : ∀ i, i ∉ committed → s.fw i = s.cache i) (i : Slot) : s'.fw i = s.cache i := by
  induction is generalizing s committed with
  | nil => cases h
  | cons j is ih =>
    unfold changeLoop at h
    cases hn : new j with
    | none =>
      simp only [hn] at h
      exact ih h hs
    | some ie =>
      simp only [hn] at h
      split at h
      · next t e' heq =>
        cases h
        rw [cmdSetIe_some heq] at hc ⊢
        rw [rollback_done hc]
        by_cases hm : i ∈ committed
        · simp [hm]
        · simp [hm,hs i hm]
      · next t heq =>
        have hsent := changeLoop_sent r back new (j :: committed) is t
        rw [h] at hsent
        have ht := cmdSetIe_none heq (hsent.clean hc)
        have hout : ∀ k, k ∉ j :: committed → t.fw k = t.cache k := by
          intro k hk
          simp only [List.mem_cons,not_or] at hk
          rw [ht]
          simp only [Function.update_of_ne hk.1]
          exact hs k hk.2
        have hfw := ih h hout
        rwa [ht] at hfw

def Field.data : Field → Bytes
  | .given d => d
  | .absent _ => []

/-- What a slot of HEAD or TAIL is after the request: the new blob, or what it was. -/
def Field.orOld (f : Field) (off : Nat) (old : Bytes) : Bytes :=
  match f with
  | .given d => d.drop off
  | .absent _ => old

/-- The variable elements of a HEAD blob, behind the capability field. -/
def headIes (head : Bytes) : Bytes := head.drop 2

/-- The slots that a request asks for, over what HEAD and TAIL were. -/
def wanted (info : BeaconData) (old : Slot → Bytes) : Slot → Bytes
  | .head => info.head.orOld ESP_BEACON_PROBE_HEAD_FIXED_LEN (old .head)
  | .tail => info.tail.orOld 0 (old .tail)
  | .beacon => extraOnly (headIes (info.head.orOld ESP_BEACON_PROBE_HEAD_FIXED_LEN (old .head)))
      (info.tail.orOld 0 (old .tail)) info.beaconIes.data
  | .probeResp => extraOnly (headIes (info.head.orOld ESP_BEACON_PROBE_HEAD_FIXED_LEN (old .head)))
      (info.tail.orOld 0 (old .tail)) info.proberespIes.data
  | .assocResp => info.assocrespIes.data

theorem drop_if_longer (n : Nat) (b : Bytes) : (if n < b.length then b.drop n else []) = b.drop n := by
  split
  · rfl
  · exact (List.drop_eq_nil_of_le (by omega)).symm

theorem espApCompareHeadTail_eq (s : Ap) (info : BeaconData) :
    espApCompareHeadTail s info =
      (headIes (info.head.orOld ESP_BEACON_PROBE_HEAD_FIXED_LEN (s.cache .head)),info.tail.orOld 0 (s.cache .tail)) := by
  unfold espApCompareHeadTail
  congr 1
  cases info.head with
  | given d =>
    simp only [Field.orOld,headIes,List.drop_drop]
    exact drop_if_longer ESP_BEACON_HEAD_IE_OFF d
  | absent n => exact drop_if_longer 2 (s.cache .head)

theorem extraOnly_nil (h t : Bytes) : extraOnly h t [] = [] := by
  obtain ⟨he,hr⟩ := run_none (b := []) rfl
  simp [extraOnly,he,hr]

theorem espPrepFilteredExtra_ok {s : Ap} {info : BeaconData} {alloc : Bool} {extra b : Bytes}
    (h : espPrepFilteredExtra s info alloc extra = .ok b) :
    b = extraOnly (headIes (info.head.orOld ESP_BEACON_PROBE_HEAD_FIXED_LEN (s.cache .head)))
      (info.tail.orOld 0 (s.cache .tail)) extra := by
  unfold espPrepFilteredExtra at h
  split at h
  · next hx =>
    cases h
    rw [hx,extraOnly_nil]
  · split at h
    · cases h
    · cases h
      rw [espFilterExtraIes_eq,espApCompareHeadTail_eq]

theorem prepField_ok {absent : Option Bytes} {prep : Bytes → Except Err Bytes} {f : Field} {b : Option Bytes}
    (h : prepField absent prep f = .ok b) : (f = .absent 0 ∧ b = absent) ∨ ∃ d c, f = .given d ∧ prep d = .ok c ∧ b = some c := by
  unfold prepField at h
  split at h
  · cases h
    exact .inl ⟨rfl,rfl⟩
  · cases h
  · next d =>
    split at h
    · cases h
    · cases hp : prep d with
      | error e => simp [hp,Except.map] at h
      | ok c =>
        simp only [hp,Except.map,Except.ok.injEq] at h
        exact .inr ⟨d,c,rfl,hp,h.symm⟩

theorem prepHead_ok {f : Field} {b : Option Bytes} (h : prepHead f = .ok b) :
    (f = .absent 0 ∧ b = none) ∨ ∃ d, f = .given d ∧ b = some (d.drop ESP_BEACON_PROBE_HEAD_FIXED_LEN) := by
  unfold prepHead at h
  split at h
  · cases h
    exact .inl ⟨rfl,rfl⟩
  · cases h
  · next d =>
    split at h
    · cases h
    · cases h
      exact .inr ⟨d,rfl,rfl⟩

theorem prepare_parts {absent : Option Bytes} {s : Ap} {info : BeaconData} {m : Mem} {u : Update}
    (h : prepare absent s info m = .ok u) :
    prepHead info.head = .ok u.head ∧ prepTail info.tail = .ok u.tail ∧
    prepExtra s info absent (m.filter .beacon) info.beaconIes = .ok u.beacon ∧
    prepExtra s info absent (m.filter .probeResp) info.proberespIes = .ok u.probeResp ∧
    prepAssoc absent info.assocrespIes = .ok u.assocResp := by
  unfold prepare at h
  cases hh : prepHead info.head with
  | error e => simp [hh] at h
  | ok head =>
  cases ht : prepTail info.tail with
  | error e => simp [hh,ht] at h
  | ok tail =>
  cases hb : prepExtra s info absent (m.filter .beacon) info.beaconIes with
  | error e => simp [hh,ht,hb] at h
  | ok beacon =>
  cases hp : prepExtra s info absent (m.filter .probeResp) info.proberespIes with
  | error e => simp [hh,ht,hb,hp] at h
  | ok probe =>
  cases ha : prepAssoc absent info.assocrespIes with
  | error e => simp [hh,ht,hb,hp,ha] at h
  | ok assoc =>
    simp only [hh,ht,hb,hp,ha] at h
    split at h
    · cases h
    · cases h
      exact ⟨rfl,rfl,rfl,rfl,rfl⟩

/-- What `prepare` accepts is what the request asks for, where an absent extra field empties its slot. -/
theorem prepare_ok {absent : Option Bytes} {s : Ap} {info : BeaconData} {m : Mem} {u : Update}
    (h : prepare absent s info m = .ok u)
    (ha : ∀ i, i ≠ .head → i ≠ .tail → absent.getD (s.cache i) = []) (i : Slot) :
    (u.new i).getD (s.cache i) = wanted info s.cache i := by
  obtain ⟨hh,ht,hb,hp,hv⟩ := prepare_parts h
  cases i with
  | head =>
    rcases prepHead_ok hh with ⟨hf,hx⟩ | ⟨d,hf,hx⟩
    · simp [Update.new,wanted,hf,hx,Field.orOld]
    · simp [Update.new,wanted,hf,hx,Field.orOld]
  | tail =>
    rcases prepField_ok ht with ⟨hf,hx⟩ | ⟨d,c,hf,hc,hx⟩
    · simp [Update.new,wanted,hf,hx,Field.orOld]
    · cases hc
      simp [Update.new,wanted,hf,hx,Field.orOld]
  | beacon =>
    rcases prepField_ok hb with ⟨hf,hx⟩ | ⟨d,c,hf,hc,hx⟩
    · simp [Update.new,wanted,hf,hx,Field.data,extraOnly_nil,ha]
    · simp [Update.new,wanted,hf,hx,Field.data,espPrepFilteredExtra_ok hc]
  | probeResp =>
    rcases prepField_ok hp with ⟨hf,hx⟩ | ⟨d,c,hf,hc,hx⟩
    · simp [Update.new,wanted,hf,hx,Field.data,extraOnly_nil,ha]
    · simp [Update.new,wanted,hf,hx,Field.data,espPrepFilteredExtra_ok hc]
  | assocResp =>
    rcases prepField_ok hv with ⟨hf,hx⟩ | ⟨d,c,hf,hc,hx⟩
    · simp [Update.new,wanted,hf,hx,Field.data,ha]
    · cases hc
      simp [Update.new,wanted,hf,hx,Field.data]

theorem changed_getD (s : Ap) (new : Slot → Option Bytes) (i : Slot) :
    (changed s new i).getD (s.cache i) = (new i).getD (s.cache i) := by
  unfold changed
  split
  · next h => simp [h]
  · rfl

theorem espChangeApIes_clean {s s' : Ap} {info : BeaconData} {m : Mem} {r back : Slot → Reply} {e : Option Err}
    (h : espChangeApIes s info m r back = (s',e)) (hc : s'.Clean) : s.Clean := by
  unfold espChangeApIes at h
  split at h
  · cases h
    exact hc
  · next u hu =>
    have hsent := changeLoop_sent r back (changed s u.new) [] slots s
    split at h
    · next t e' heq =>
      cases h
      rw [heq] at hsent
      exact hsent.clean hc
    · next t heq =>
      cases h
      rw [heq] at hsent
      exact hsent.clean hc

/-- A `change_beacon` that fails keeps the cache, and the firmware is as the cache has it. -/
theorem espChangeApIes_failed {s s' : Ap} {info : BeaconData} {m : Mem} {r back : Slot → Reply} {e : Err}
    (h : espChangeApIes s info m r back = (s',some e)) :
    s'.cache = s.cache ∧ (s.Consistent → s'.Clean → ∀ i, s'.fw i = s.cache i) := by
  have hcl := espChangeApIes_clean h
  unfold espChangeApIes at h
  split at h
  · cases h
    exact ⟨rfl,fun hs hc => hs hc⟩
  · next u hu =>
    have hsent := changeLoop_sent r back (changed s u.new) [] slots s
    split at h
    · next t e' heq =>
      cases h
      rw [heq] at hsent
      exact ⟨hsent.cache,fun hs hc => changeLoop_failed heq hc (fun i _ => hs (hcl hc) i)⟩
    · cases h

theorem espChangeApIes_done {s s' : Ap} {info : BeaconData} {m : Mem} {r back : Slot → Reply}
    (h : espChangeApIes s info m r back = (s',none)) (hs : s.Consistent) (hc : s'.Clean) (i : Slot) :
    s'.cache i = wanted info s.cache i ∧ s'.fw i = wanted info s.cache i := by
  have hcl := espChangeApIes_clean h
  unfold espChangeApIes at h
  split at h
  · cases h
  · next u hu =>
    have hsent := changeLoop_sent r back (changed s u.new) [] slots s
    have hw := prepare_ok hu (fun _ _ _ => rfl) i
    split at h
    · cases h
    · next t heq =>
      cases h
      rw [heq] at hsent
      have hfw := changeLoop_done heq hc i
      simp only [mem_slots i,if_true,hs (hcl hc) i,changed_getD] at hfw
      have hcache : t.cache = s.cache := hsent.cache
      refine ⟨?_,hfw.trans hw⟩
      simp only [Ap.commit,hcache,changed_getD]
      exact hw

theorem espSetIes_clean {s s' : Ap} {info : BeaconData} {m : Mem} {r : Slot → Reply} {e : Option Err}
    (h : espSetIes s info m r = (s',e)) (hc : s'.Clean) : s.Clean := by
  unfold espSetIes at h
  split at h
  · cases h
    exact hc
  · next u hu =>
    have hsent := setLoop_sent r u.new slots s
    split at h
    · next t e' heq =>
      cases h
      rw [heq] at hsent
      exact hsent.clean hc
    · next t heq =>
      cases h
      rw [heq] at hsent
      exact hsent.clean hc

theorem espSetIes_done {s s' : Ap} {info : BeaconData} {m : Mem} {r : Slot → Reply}
    (h : espSetIes s info m r = (s',none)) (hs : ∀ i, s.fw i = [] ∧ s.cache i = []) (hc : s'.Clean) (i : Slot) :
    s'.cache i = wanted info s.cache i ∧ s'.fw i = wanted info s.cache i := by
  unfold espSetIes at h
  split at h
  · cases h
  · next u hu =>
    have hsent := setLoop_sent r u.new slots s
    have hw := prepare_ok hu (fun i _ _ => (hs i).2) i
    split at h
    · cases h
    · next t heq =>
      cases h
      rw [heq] at hsent
      have hfw := setLoop_done heq hc i
      simp only [mem_slots i,if_true,(hs i).1,← (hs i).2] at hfw
      have hcache : t.cache = s.cache := hsent.cache
      refine ⟨?_,hfw.trans hw⟩
      simp only [Ap.commit,hcache]
      exact hw

/-- A failed `start_ap` ends with empty slots. -/
theorem startRollback_done {s s' : Ap} {r : StartReplies} {e : Err} {e' : Option Err}
    (h : startRollback s r e = (s',e')) (hc : s'.Clean) : e' = some e ∧ ∀ i, s'.fw i = [] ∧ s'.cache i = [] := by
  unfold startRollback at h
  cases hcl : espClearApIes s r.clearAgain with
  | mk t ret =>
    rw [hcl] at h
    obtain ⟨h1,h2⟩ := Prod.mk.inj h
    refine ⟨h2.symm,?_⟩
    cases ret with
    | some e0 =>
      simp only [Option.isSome_some,Bool.true_or,if_true] at h1
      rw [← h1] at hc
      cases hc.1
    | none =>
      cases hst : r.stop with
      | some e0 =>
        simp only [hst,Option.isSome_some,Bool.or_true,if_true] at h1
        rw [← h1] at hc
        cases hc.1
      | none =>
        simp only [hst,Option.isSome_none,Bool.or_self,Bool.false_eq_true,if_false] at h1
        subst h1
        exact espClearApIes_done hcl hc

theorem espCfg80211StartAp_done {s s' : Ap} {info : BeaconData} {ssid : Option Bytes} {r : StartReplies}
    {e : Option Err} (h : espCfg80211StartAp s info ssid r = (s',e)) (hs : s.Consistent) (hc : s'.Clean) :
    (∀ i, s'.fw i = s'.cache i) ∧ (e = none → ∀ i, s'.fw i = wanted info (fun _ => []) i) := by
  have hback : ∀ {t : Ap} {e0 : Err}, startRollback t r e0 = (s',e) →
      (∀ i, s'.fw i = s'.cache i) ∧ (e = none → ∀ i, s'.fw i = wanted info (fun _ => []) i) := by
    intro t e0 hb
    obtain ⟨he,hz⟩ := startRollback_done hb hc
    exact ⟨fun i => (hz i).1.trans (hz i).2.symm,fun hx => by rw [he] at hx; cases hx⟩
  unfold espCfg80211StartAp at h
  split at h
  · cases h
    exact ⟨hs hc,fun hx => by cases hx⟩
  · split at h
    · exact hback h
    · next t hclear =>
      split at h
      · exact hback h
      · next t' hset =>
        split at h
        · exact hback h
        · split at h
          · exact hback h
          · split at h
            · exact hback h
            · split at h
              · exact hback h
              · cases h
                have hempty := espClearApIes_done hclear (espSetIes_clean hset hc)
                have hcache : t.cache = fun _ => [] := funext (fun i => (hempty i).2)
                have hdone := espSetIes_done hset hempty hc
                rw [hcache] at hdone
                exact ⟨fun i => (hdone i).2.trans (hdone i).1.symm,fun _ i => (hdone i).2⟩

theorem espCfg80211StopAp_done {s s' : Ap} {stop : Option Nat} {r : Slot → Reply} {e : Option Err}
    (h : espCfg80211StopAp s stop r = (s',e)) (hs : s.Consistent) (hc : s'.Clean) :
    (∀ i, s'.fw i = s'.cache i) ∧ (e = none → ∀ i, s'.fw i = []) := by
  unfold espCfg80211StopAp at h
  split at h
  · cases h
    exact ⟨hs hc,fun hx => by cases hx⟩
  · cases hcl : espClearApIes s r with
    | mk t ret =>
      rw [hcl] at h
      cases ret with
      | some e0 =>
        cases h
        cases hc.1
      | none =>
        cases h
        have hz := espClearApIes_done hcl hc
        exact ⟨fun i => (hz i).1.trans (hz i).2.symm,fun _ i => (hz i).1⟩

def requested (info : BeaconData) : List Bytes :=
  elements (headIes (info.head.orOld ESP_BEACON_PROBE_HEAD_FIXED_LEN [])) ++ elements info.tail.data ++
    elements info.beaconIes.data

def present (fw : Slot → Bytes) : List Bytes :=
  elements (headIes (fw .head)) ++ elements (fw .tail) ++ elements (fw .beacon)

theorem elements_nil : elements [] = [] := (run_none rfl).1

theorem requested_subset {info : BeaconData} {old fw : Slot → Bytes} (h : ∀ i, fw i = wanted info old i) :
    ∀ e ∈ requested info, e ∈ present fw := by
  intro e he
  simp only [present,h,wanted,List.mem_append]
  simp only [requested,List.mem_append] at he
  rcases he with (he | he) | he
  · left
    left
    cases hf : info.head with
    | given d => simpa [hf,Field.orOld] using he
    | absent n => simp [hf,Field.orOld,headIes,elements_nil] at he
  · left
    right
    cases hf : info.tail with
    | given d => simpa [hf,Field.orOld,Field.data] using he
    | absent n => simp [hf,Field.data,elements_nil] at he
  · rw [elements_extraOnly]
    simp only [List.mem_filter,decide_eq_true_eq]
    by_cases hh : e ∈ elements (headIes (info.head.orOld ESP_BEACON_PROBE_HEAD_FIXED_LEN (old .head)))
    · exact .inl (.inl hh)
    · by_cases ht : e ∈ elements (info.tail.orOld 0 (old .tail))
      · exact .inl (.inr ht)
      · exact .inr ⟨he,hh,ht⟩

/-- What a call that succeeded has set in the firmware. -/
def Call.Granted (s s' : Ap) : Call → Prop
  | .startAp info _ _ => (∀ i, s'.fw i = wanted info (fun _ => []) i) ∧ ∀ e ∈ requested info, e ∈ present s'.fw
  | .changeBeacon info _ _ _ => (∀ i, s'.fw i = wanted info s.fw i) ∧ ∀ e ∈ requested info, e ∈ present s'.fw
  | .stopAp _ _ => ∀ i, s'.fw i = []

/-- What holds of a call in `s`, whatever its commands are answered. -/
structure CallOk (s : Ap) (c : Call) : Prop where
  consistent : (s.call c).1.Consistent
  undone : ∀ info m r back, c = .changeBeacon info m r back → (s.call c).2 ≠ none →
    (s.call c).1.cache = s.cache ∧ ((s.call c).1.Clean → (s.call c).1.fw = s.fw)
  granted : (s.call c).2 = none → (s.call c).1.Clean → c.Granted s (s.call c).1

theorem callOk_of_consistent {s : Ap} (hs : s.Consistent) (c : Call) : CallOk s c := by
  cases c with
  | startAp info ssid r =>
    cases h : espCfg80211StartAp s info ssid r with
    | mk s' e =>
      have hd := espCfg80211StartAp_done h hs
      refine ⟨?_,fun _ _ _ _ hx => (by cases hx),?_⟩
      · simp only [Ap.call,h]
        exact fun hc => (hd hc).1
      · simp only [Ap.call,h]
        exact fun he hc => ⟨(hd hc).2 he,requested_subset ((hd hc).2 he)⟩
  | stopAp stop r =>
    cases h : espCfg80211StopAp s stop r with
    | mk s' e =>
      have hd := espCfg80211StopAp_done h hs
      refine ⟨?_,fun _ _ _ _ hx => (by cases hx),?_⟩
      · simp only [Ap.call,h]
        exact fun hc => (hd hc).1
      · simp only [Ap.call,h]
        exact fun he hc => (hd hc).2 he
  | changeBeacon info m r back =>
    cases h : espChangeApIes s info m r back with
    | mk s' e =>
      have hcl := espChangeApIes_clean h
      cases e with
      | some e =>
        obtain ⟨hcache,hfw⟩ := espChangeApIes_failed h
        refine ⟨?_,fun _ _ _ _ _ _ => ?_,?_⟩
        · simp only [Ap.call,h]
          exact fun hc i => by rw [hfw hs hc i,hcache]
        · simp only [Ap.call,h]
          exact ⟨hcache,fun hc => funext (fun i => by rw [hfw hs hc i,hs (hcl hc) i])⟩
        · simp [Ap.call,h]
      | none =>
        have hd := espChangeApIes_done h hs
        refine ⟨?_,fun _ _ _ _ _ hx => ?_,?_⟩
        · simp only [Ap.call,h]
          exact fun hc i => (hd hc i).2.trans (hd hc i).1.symm
        · simp [Ap.call,h] at hx
        · simp only [Ap.call,h]
          intro _ hc
          have heq : s.cache = s.fw := funext (fun i => (hs (hcl hc) i).symm)
          have hw : ∀ i, s'.fw i = wanted info s.fw i := fun i => by rw [(hd hc i).2,heq]
          exact ⟨hw,requested_subset hw⟩

/-- The interface after a sequence of calls, from empty slots. -/
def afterCalls (cs : List Call) : Ap := cs.foldl (fun s c => (s.call c).1) {}

theorem afterCalls_consistent (cs : List Call) : (afterCalls cs).Consistent := by
  unfold afterCalls
  have hfold : ∀ s : Ap, s.Consistent → (cs.foldl (fun s c => (s.call c).1) s).Consistent := by
    induction cs with
    | nil => exact fun s hs => hs
    | cons c cs ih => exact fun s hs => ih _ (callOk_of_consistent hs c).consistent
  exact hfold {} (fun _ _ => rfl)

/-- Behind any sequence of calls, every call keeps cache and firmware together or has asked for a
reset, undoes itself when it fails, and sets what it was asked for when it succeeds. -/
theorem ap_ies_kept (cs : List Call) (c : Call) : CallOk (afterCalls cs) c :=
  callOk_of_consistent (afterCalls_consistent cs) c

def started : Call := .startAp {head := .given (List.replicate 36 0 ++ [0,1,66])} (some [66]) {}

/-- HEAD and TAIL change, TAIL is refused, and so is putting HEAD back. -/
def failedRollback : Call :=
  .changeBeacon {head := .given (List.replicate 36 0 ++ [0,1,65]), tail := .given [42,1,0]} {}
    (fun i => if i = .tail then .refused 21 else .ok) (fun _ => .refused 21)

/-- Such a `change_beacon` fails and leaves the new HEAD in the firmware; a reset is scheduled. -/
theorem failed_rollback_leaves_head :
    ((afterCalls [started]).call failedRollback).2 ≠ none ∧
    ((afterCalls [started]).call failedRollback).1.fw .head ≠ (afterCalls [started]).fw .head ∧
    ((afterCalls [started]).call failedRollback).1.reset = true :=
  ⟨by decide +kernel,by decide +kernel,by decide +kernel⟩

end EspHosted.ApIes
