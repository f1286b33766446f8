import EspHosted.MonitorConfig
import EspHosted.Wire

/-!
Mode and AP configuration changes of `main/cmd.c`: `process_set_mode`, `process_set_ap_config`
and the helpers `hosted_wifi_stop`, `hosted_wifi_start` and `mgmt_tx_ensure_cb`. Each Wi-Fi
call has a reply, and is applied where it returns OK. `none` is a restart of the firmware.
-/

set_option autoImplicit false

namespace EspHosted.Transition
open EspHosted.Monitor (EspErr ESP_OK ESP_FAIL)

def WIFI_MODE_STA : Nat := 1
def WIFI_MODE_AP : Nat := 2
def WIFI_MODE_APSTA : Nat := 3
def WIFI_AUTH_WPA2_WPA3_PSK : Nat := 7
def dummyMac : Bytes := [0x00,0x11,0x22,0x33,0x44,0x55]
def dummyMac2 : Bytes := [0x00,0x11,0x22,0x33,0x44,0x66]

/-- `wifi_config_t` of the AP; `rest` is what the handlers leave at zero. -/
structure ApConfig where
  ssid : Bytes := []
  password : Bytes := []
  authmode : Nat := 0
  ssidLen : Nat := 0
  channel : UInt8 := 0
  ssidHidden : UInt8 := 0
  beaconInterval : Nat := 0
  maxConnection : Nat := 0
  rest : Bytes := []
  deriving DecidableEq, Repr

inductive RxCb where
  | none
  | wlanApRxCallback
  | other
  deriving DecidableEq, Repr

structure WifiState where
  mode : Nat
  staMac : Bytes
  apMac : Bytes
  /-- Empty is the configuration of all zeros. -/
  staConfig : Bytes
  apConfig : ApConfig
  inactiveTime : Nat
  apRxCb : RxCb
  /-- `s_wifi_started` and `s_mgmt_cb_owned`. -/
  started : Bool
  cbOwned : Bool
  deriving DecidableEq, Repr

inductive Status where
  | fail
  | success
  | busy
  | invalid
  deriving DecidableEq, Repr

/-- `settled` is whether STA_STOP and the fence arrive in time. -/
structure StopReply where
  err : EspErr := ESP_OK
  settled : Bool := true
  deriving DecidableEq, Repr

structure StartReply where
  err : EspErr := ESP_OK
  registerCb : EspErr := ESP_OK
  /-- `esp_hosted_monitor_restore`, `none` where it restarts the firmware. -/
  monitor : Option EspErr := some ESP_OK
  stop : StopReply := {}
  deriving DecidableEq, Repr

def wifiStopped (err : EspErr) : Bool :=
  decide (err = ESP_OK ∨ err = ESP_ERR_WIFI_NOT_STARTED ∨ err = ESP_ERR_WIFI_NOT_INIT)

def hostedWifiStop (w : WifiState) (r : StopReply) : Option (WifiState × EspErr) :=
  if r.settled then
    some (if wifiStopped r.err then {w with started := false, cbOwned := false} else w,r.err)
  else none

def mgmtTxEnsureCb (w : WifiState) (register : EspErr) : WifiState × EspErr :=
  if w.cbOwned then (w,ESP_OK)
  else if register ≠ ESP_OK then ({w with cbOwned := false},register)
  else ({w with cbOwned := true},ESP_OK)

/-- The failure of a start that has to be taken back, whatever becomes of the stop. -/
def stopAfter (w : WifiState) (r : StopReply) (ret : EspErr) : Option (WifiState × EspErr) :=
  (hostedWifiStop w r).map fun s => (s.1,ret)

def hostedWifiStart (w : WifiState) (r : StartReply) : Option (WifiState × EspErr) :=
  if r.err ≠ ESP_OK then some (w,r.err)
  else
    let cb := mgmtTxEnsureCb {w with started := true, cbOwned := false} r.registerCb
    if cb.2 ≠ ESP_OK then stopAfter cb.1 r.stop cb.2
    else
      match r.monitor with
      | none => none
      | some ret => if ret ≠ ESP_OK then stopAfter cb.1 r.stop ret else some (cb.1,ESP_OK)

/-- Runs what follows where the call before was OK. -/
def onOk (s : WifiState × EspErr) (k : WifiState → WifiState × EspErr) : WifiState × EspErr :=
  if s.2 ≠ ESP_OK then s else k s.1

/-- A setter: applied where it returns OK. -/
def set (err : EspErr) (f : WifiState → WifiState) (w : WifiState) : WifiState × EspErr :=
  (if err = ESP_OK then f w else w,err)

structure ModeReplies where
  getMode : EspErr := ESP_OK
  getStaConfig : EspErr := ESP_OK
  getApConfig : EspErr := ESP_OK
  getStaMac : EspErr := ESP_OK
  getApMac : EspErr := ESP_OK
  stop : StopReply := {}
  setFirstMac : EspErr := ESP_OK
  setMode : EspErr := ESP_OK
  setSecondMac : EspErr := ESP_OK
  setStaConfig : EspErr := ESP_OK
  ensureCb : EspErr := ESP_OK
  start : StartReply := {}
  backMode : EspErr := ESP_OK
  backStaMac : EspErr := ESP_OK
  backApMac : EspErr := ESP_OK
  backStaConfig : EspErr := ESP_OK
  backApConfig : EspErr := ESP_OK
  backStart : StartReply := {}
  backStop : StopReply := {}
  deriving DecidableEq, Repr

/-- The changes of `process_set_mode` between the stop and the start. -/
def modeChanges (devMac : Bytes) (req : Nat) (w : WifiState) (r : ModeReplies) : WifiState × EspErr :=
  if req = WIFI_MODE_AP ∨ req = WIFI_MODE_APSTA then
    onOk (set r.setFirstMac (fun w => {w with staMac := dummyMac}) w) fun w =>
    onOk (set r.setMode (fun w => {w with mode := WIFI_MODE_APSTA}) w) fun w =>
    onOk (set r.setSecondMac (fun w => {w with apMac := devMac}) w) fun w =>
    set r.setStaConfig (fun w => {w with staConfig := []}) w
  else
    onOk (set r.setFirstMac (fun w => {w with apMac := dummyMac2}) w) fun w =>
    onOk (set r.setMode (fun w => {w with mode := WIFI_MODE_STA}) w) fun w =>
    set r.setSecondMac (fun w => {w with staMac := devMac}) w

def needApCb (req : Nat) : Bool := decide (req = WIFI_MODE_AP ∨ req = WIFI_MODE_APSTA)

def modeForward (devMac : Bytes) (req oldMode : Nat) (w : WifiState) (r : ModeReplies) : Option (WifiState × EspErr) :=
  let s := onOk (if oldMode ≠ req then modeChanges devMac req w r else (w,ESP_OK)) fun w =>
    if needApCb req then mgmtTxEnsureCb w r.ensureCb else (w,ESP_OK)
  if s.2 ≠ ESP_OK then some s
  else if s.1.started then some s
  else hostedWifiStart s.1 r.start

def backToStarted (old w : WifiState) (start : StartReply) (stop : StopReply) : Option (WifiState × EspErr) :=
  if old.started && !w.started then hostedWifiStart w start
  else if !old.started && w.started then hostedWifiStop w stop
  else some (w,ESP_OK)

def dropCb (old w : WifiState) : WifiState := if !old.cbOwned && w.cbOwned then {w with cbOwned := false} else w

def modeBack (old : WifiState) (r : ModeReplies) (w : WifiState) : WifiState :=
  {w with
    mode := old.mode
    staMac := if r.getStaMac = ESP_OK then old.staMac else List.replicate 6 0
    apMac := if r.getApMac = ESP_OK then old.apMac else List.replicate 6 0
    staConfig := if r.getStaConfig = ESP_OK then old.staConfig else w.staConfig
    apConfig := if r.getApConfig = ESP_OK then old.apConfig else w.apConfig}

def modeBackOk (r : ModeReplies) : Bool :=
  decide (r.backMode = ESP_OK ∧ r.backStaMac = ESP_OK ∧ r.backApMac = ESP_OK ∧
    (r.getStaConfig = ESP_OK → r.backStaConfig = ESP_OK) ∧ (r.getApConfig = ESP_OK → r.backApConfig = ESP_OK))

/-- Any failure on the way back ends in a restart. -/
def modeRollback (old w : WifiState) (r : ModeReplies) : Option (WifiState × Status) :=
  if modeBackOk r then
    match backToStarted old (dropCb old (modeBack old r w)) r.backStart r.backStop with
    | some (w,ret) => if ret = ESP_OK then some (w,.fail) else none
    | none => none
  else none

def modeRequest (payload : Bytes) : Nat := le16ToCpu (payload.getD 8 0) (payload.getD 9 0)

/-- The stop of a mode change; a restart in the same mode does without it. -/
def modeStop (req : Nat) (w : WifiState) (r : ModeReplies) : Option (WifiState × EspErr) :=
  if w.mode ≠ req then hostedWifiStop w r.stop else some (w,ESP_OK)

def modeTransition (devMac : Bytes) (req : Nat) (w : WifiState) (r : ModeReplies) : Option (WifiState × Status) :=
  match modeStop req w r with
  | none => none
  | some (w1,ret) =>
    if ret ≠ ESP_OK then some (w1,.fail)
    else
      match modeForward devMac req w.mode w1 r with
      | none => none
      | some (w2,ret) => if ret = ESP_OK then some (w2,.success) else modeRollback w w2 r

def processSetMode (devMac : Bytes) (w : WifiState) (r : ModeReplies) (payload : Bytes) :
    Option (WifiState × Status) :=
  let req := modeRequest payload
  if payload.length < 12 then some (w,.invalid)
  else if req ≠ WIFI_MODE_STA ∧ req ≠ WIFI_MODE_AP ∧ req ≠ WIFI_MODE_APSTA then some (w,.invalid)
  else if r.getMode ≠ ESP_OK then some (w,.fail)
  else if w.mode = req ∧ w.started ∧ (needApCb req = false ∨ w.cbOwned) then some (w,.success)
  else modeTransition devMac req w r

structure ApReplies where
  getMode : EspErr := ESP_OK
  getInactiveTime : EspErr := ESP_OK
  getApConfig : EspErr := ESP_OK
  stop : StopReply := {}
  setMode : EspErr := ESP_OK
  setApConfig : EspErr := ESP_OK
  setInactiveTime : EspErr := ESP_OK
  ensureCb : EspErr := ESP_OK
  regRxCb : EspErr := ESP_OK
  start : StartReply := {}
  backMode : EspErr := ESP_OK
  backApConfig : EspErr := ESP_OK
  backInactiveTime : EspErr := ESP_OK
  unregRxCb : EspErr := ESP_OK
  backStart : StartReply := {}
  backStop : StopReply := {}
  deriving DecidableEq, Repr

/-- The AP configuration of a command; a protected network gets a key for the data path. -/
def apConfigOf (payload : Bytes) : ApConfig :=
  let ssidLen := (payload.getD 40 0).toNat
  let secured := payload.getD 52 0 ≠ 0
  {ssid := (payload.drop 8).take ssidLen ++ List.replicate (32-ssidLen) 0
   password := if secured then [0x31,0x32,0x33,0x34,0x35,0x36,0x37,0x38] else []
   authmode := if secured then WIFI_AUTH_WPA2_WPA3_PSK else 0
   ssidLen := ssidLen
   channel := payload.getD 41 0
   ssidHidden := payload.getD 43 0
   beaconInterval := le16ToCpu (payload.getD 48 0) (payload.getD 49 0)
   maxConnection := 8}

def inactivityOf (payload : Bytes) : Nat := le16ToCpu (payload.getD 50 0) (payload.getD 51 0)

/-- The changes of `process_set_ap_config` between the stop and the start. -/
def apChanges (payload : Bytes) (oldMode : Nat) (w : WifiState) (r : ApReplies) : WifiState × EspErr :=
  onOk (if oldMode ≠ WIFI_MODE_APSTA then set r.setMode (fun w => {w with mode := WIFI_MODE_APSTA}) w
    else (w,ESP_OK)) fun w =>
  onOk (set r.setApConfig (fun w => {w with apConfig := apConfigOf payload}) w) fun w =>
  onOk (if inactivityOf payload ≠ 0 then
      set r.setInactiveTime (fun w => {w with inactiveTime := inactivityOf payload}) w
    else (w,ESP_OK)) fun w =>
  onOk (mgmtTxEnsureCb w r.ensureCb) fun w =>
  set r.regRxCb (fun w => {w with apRxCb := .wlanApRxCallback}) w

def apForward (payload : Bytes) (oldMode : Nat) (w : WifiState) (r : ApReplies) : Option (WifiState × EspErr) :=
  let s := apChanges payload oldMode w r
  if s.2 ≠ ESP_OK then some s else hostedWifiStart s.1 r.start

def apBack (old : WifiState) (r : ApReplies) (w : WifiState) : WifiState :=
  {w with
    mode := old.mode
    apConfig := if r.getApConfig = ESP_OK then old.apConfig else {}
    inactiveTime := if r.getInactiveTime = ESP_OK then old.inactiveTime else w.inactiveTime}

def apBackOk (r : ApReplies) : Bool :=
  decide (r.backMode = ESP_OK ∧ r.backApConfig = ESP_OK ∧ (r.getInactiveTime = ESP_OK → r.backInactiveTime = ESP_OK))

def dropRxCb (old : WifiState) (r : ApReplies) (w : WifiState) : WifiState :=
  if !old.started ∧ r.unregRxCb = ESP_OK then {w with apRxCb := .none} else w

def apRollback (old w : WifiState) (r : ApReplies) : Option (WifiState × Status) :=
  if apBackOk r then
    match backToStarted old (dropRxCb old r (dropCb old (apBack old r w))) r.backStart r.backStop with
    | some (w,ret) => if ret = ESP_OK then some (w,.fail) else none
    | none => none
  else none

def apTransition (w : WifiState) (r : ApReplies) (payload : Bytes) : Option (WifiState × Status) :=
  match hostedWifiStop w r.stop with
  | none => none
  | some (w1,ret) =>
    if ret ≠ ESP_OK then some (w1,.fail)
    else
      match apForward payload w.mode w1 r with
      | none => none
      | some (w2,ret) => if ret = ESP_OK then some (w2,.success) else apRollback w w2 r

/-- `monitorRejects` is that monitoring is pinned to another channel. -/
def processSetApConfig (monitorRejects : UInt8 → Bool) (w : WifiState) (r : ApReplies) (ifType : Nat)
    (payload : Bytes) : Option (WifiState × Status) :=
  if ifType ≠ ESP_AP_IF ∨ payload.length < 53 then some (w,.invalid)
  else if monitorRejects (payload.getD 41 0) then some (w,.busy)
  else if 32 < (payload.getD 40 0).toNat then some (w,.invalid)
  else if r.getMode ≠ ESP_OK then some (w,.fail)
  else apTransition w r payload

/-! The helpers: only the two flags change. -/

variable {w w' old : WifiState} {ret : EspErr}

def WifiState.withFlags (w : WifiState) (started cbOwned : Bool) : WifiState :=
  {w with started := started, cbOwned := cbOwned}

theorem withFlags_withFlags (a b c d : Bool) : (w.withFlags a b).withFlags c d = w.withFlags c d := rfl

theorem stop_spec {r : StopReply} (h : hostedWifiStop w r = some (w',ret)) :
    ret = r.err ∧ w' = if wifiStopped r.err then w.withFlags false false else w := by
  simp only [hostedWifiStop] at h
  split at h
  · cases h
    exact ⟨rfl,rfl⟩
  · cases h

theorem ensureCb_spec (register : EspErr) :
    (mgmtTxEnsureCb w register = (w,ESP_OK) ∧ w.cbOwned = true) ∨
      (mgmtTxEnsureCb w register = (w.withFlags w.started true,ESP_OK) ∧ w.cbOwned = false) ∨
      (mgmtTxEnsureCb w register = (w,register) ∧ register ≠ ESP_OK ∧ w.cbOwned = false) := by
  rcases w with ⟨mode,staMac,apMac,staConfig,apConfig,inactiveTime,apRxCb,started,cbOwned⟩
  cases cbOwned with
  | true => exact .inl ⟨rfl,rfl⟩
  | false =>
    by_cases hr : register = ESP_OK
    · exact .inr (.inl ⟨by simp [mgmtTxEnsureCb,hr,WifiState.withFlags],rfl⟩)
    · exact .inr (.inr ⟨by simp [mgmtTxEnsureCb,hr],hr,rfl⟩)

def CbLost (r : StartReply) : Prop := r.err = ESP_OK ∧ r.registerCb ≠ ESP_OK ∧ wifiStopped r.stop.err = false

theorem stopAfter_spec {r : StopReply} {e : EspErr} (h : stopAfter w r e = some (w',ret)) :
    ret = e ∧ w' = if wifiStopped r.err then w.withFlags false false else w := by
  simp only [stopAfter,Option.map_eq_some_iff] at h
  obtain ⟨⟨v,e'⟩,hs,heq⟩ := h
  cases heq
  exact ⟨rfl,(stop_spec hs).2⟩

theorem start_spec {r : StartReply} (h : hostedWifiStart w r = some (w',ret)) :
    (ret = ESP_OK ∧ w' = w.withFlags true true) ∨
      (ret ≠ ESP_OK ∧ (w' = w ∨ w' = w.withFlags false false ∨ w' = w.withFlags true true ∨
        (w' = w.withFlags true false ∧ CbLost r))) := by
  unfold hostedWifiStart at h
  by_cases he : r.err = ESP_OK
  · have hcb : mgmtTxEnsureCb {w with started := true, cbOwned := false} r.registerCb =
        if r.registerCb ≠ ESP_OK then (w.withFlags true false,r.registerCb) else (w.withFlags true true,ESP_OK) := rfl
    simp only [he,ne_eq,not_true_eq_false,if_false,hcb] at h
    by_cases hr : r.registerCb = ESP_OK
    · simp only [hr,not_true_eq_false,if_false] at h
      cases hm : r.monitor with
      | none => simp [hm] at h
      | some e =>
        simp only [hm] at h
        by_cases hme : e = ESP_OK
        · simp only [hme,not_true_eq_false,if_false,Option.some.injEq,Prod.mk.injEq] at h
          exact .inl ⟨h.2.symm,h.1.symm⟩
        · rw [if_pos hme] at h
          obtain ⟨rfl,rfl⟩ := stopAfter_spec h
          refine .inr ⟨hme,?_⟩
          split
          · exact .inr (.inl rfl)
          · exact .inr (.inr (.inl rfl))
    · simp only [hr,not_false_eq_true,if_true] at h
      obtain ⟨rfl,rfl⟩ := stopAfter_spec h
      refine .inr ⟨hr,?_⟩
      cases hs : wifiStopped r.stop.err with
      | true => exact .inr (.inl rfl)
      | false => exact .inr (.inr (.inr ⟨rfl,he,hr,hs⟩))
  · rw [if_pos he] at h
    cases h
    exact .inr ⟨he,.inl rfl⟩

/-! The way back to the flags. -/

theorem backToStarted_spec {start : StartReply} {stop : StopReply}
    (h : backToStarted old w start stop = some (w',ESP_OK)) :
    w' = w.withFlags old.started (if old.started = w.started then w.cbOwned else old.started) := by
  unfold backToStarted at h
  cases ho : old.started with
  | true =>
    cases hw : w.started with
    | true =>
      simp only [ho,hw,Bool.not_true,Bool.and_false,Bool.false_and,Bool.false_eq_true,if_false] at h
      cases h
      rw [if_pos rfl,← hw]
      rfl
    | false =>
      simp only [ho,hw,Bool.not_false,Bool.and_true,if_true] at h
      rcases start_spec h with ⟨-,hw'⟩ | ⟨hne,-⟩
      · exact hw'
      · exact absurd rfl hne
  | false =>
    cases hw : w.started with
    | true =>
      simp only [ho,hw,Bool.not_false,Bool.not_true,Bool.and_false,Bool.and_true,Bool.false_eq_true,if_false,
        if_true] at h
      obtain ⟨hr,hw'⟩ := stop_spec h
      rw [← hr] at hw'
      exact hw'
    | false =>
      simp only [ho,hw,Bool.not_false,Bool.and_false,Bool.false_and,Bool.false_eq_true,if_false] at h
      cases h
      rw [if_pos rfl,← hw]
      rfl

theorem dropCb_spec : dropCb old w = w.withFlags w.started (old.cbOwned && w.cbOwned) := by
  rcases w with ⟨mode,staMac,apMac,staConfig,apConfig,inactiveTime,apRxCb,started,cbOwned⟩
  cases ho : old.cbOwned <;> cases cbOwned <;> simp [dropCb,ho,WifiState.withFlags]

/-! Chains of calls. -/

theorem onOk_keeps {p : WifiState → Prop} {s : WifiState × EspErr} {k : WifiState → WifiState × EspErr} (h : p s.1)
    (hk : ∀ v, p v → p (k v).1) : p (onOk s k).1 := by
  unfold onOk
  split
  · exact h
  · exact hk _ h

theorem set_keeps {p : WifiState → Prop} {e : EspErr} {f : WifiState → WifiState} (h : p w) (hf : p w → p (f w)) :
    p (set e f w).1 := by
  unfold set
  split
  · exact hf h
  · exact h

theorem onOk_fails {p : WifiState → Prop} {s : WifiState × EspErr} {k : WifiState → WifiState × EspErr} (h : p s.1)
    (hk : ∀ v, p v → (k v).2 ≠ ESP_OK → p (k v).1) (hne : (onOk s k).2 ≠ ESP_OK) : p (onOk s k).1 := by
  unfold onOk at hne ⊢
  split
  · exact h
  · rename_i hs
    rw [if_neg hs] at hne
    exact hk _ h hne

/-- A chain that ends OK has made every call. -/
theorem onOk_ok {s : WifiState × EspErr} {k : WifiState → WifiState × EspErr} (h : (onOk s k).2 = ESP_OK) :
    s.2 = ESP_OK ∧ onOk s k = k s.1 := by
  unfold onOk at h ⊢
  split at h
  · exact absurd h ‹_›
  · rename_i hs
    exact ⟨Decidable.not_not.mp hs,if_neg hs⟩

theorem set_ok {e : EspErr} {f : WifiState → WifiState} (h : (set e f w).2 = ESP_OK) : (set e f w).1 = f w := if_pos h

/-! `process_set_mode`. -/

structure ModeFrame (w w' : WifiState) : Prop where
  apConfig : w'.apConfig = w.apConfig
  inactiveTime : w'.inactiveTime = w.inactiveTime
  apRxCb : w'.apRxCb = w.apRxCb

theorem ModeFrame.withFlags {v : WifiState} (h : ModeFrame w v) (b c : Bool) : ModeFrame w (v.withFlags b c) :=
  ⟨h.apConfig,h.inactiveTime,h.apRxCb⟩

variable {devMac : Bytes} {req : Nat} {r : ModeReplies}

/-- The changes stay inside the frame and away from the flags. -/
def ModeChanged (w w' : WifiState) : Prop := ModeFrame w w' ∧ w'.started = w.started ∧ w'.cbOwned = w.cbOwned

theorem modeChanges_keeps : ModeChanged w (modeChanges devMac req w r).1 := by
  have hw : ModeChanged w w := ⟨⟨rfl,rfl,rfl⟩,rfl,rfl⟩
  unfold modeChanges
  split
  · exact onOk_keeps (set_keeps hw fun h => ⟨⟨h.1.1,h.1.2,h.1.3⟩,h.2⟩) fun v hv =>
      onOk_keeps (set_keeps hv fun h => ⟨⟨h.1.1,h.1.2,h.1.3⟩,h.2⟩) fun v hv =>
      onOk_keeps (set_keeps hv fun h => ⟨⟨h.1.1,h.1.2,h.1.3⟩,h.2⟩) fun v hv =>
      set_keeps hv fun h => ⟨⟨h.1.1,h.1.2,h.1.3⟩,h.2⟩
  · exact onOk_keeps (set_keeps hw fun h => ⟨⟨h.1.1,h.1.2,h.1.3⟩,h.2⟩) fun v hv =>
      onOk_keeps (set_keeps hv fun h => ⟨⟨h.1.1,h.1.2,h.1.3⟩,h.2⟩) fun v hv =>
      set_keeps hv fun h => ⟨⟨h.1.1,h.1.2,h.1.3⟩,h.2⟩

/-- An AP is configured in APSTA mode. -/
def modeFor (req : Nat) : Nat := if needApCb req then WIFI_MODE_APSTA else WIFI_MODE_STA

theorem modeChanges_ok (h : (modeChanges devMac req w r).2 = ESP_OK) : (modeChanges devMac req w r).1.mode = modeFor req := by
  unfold modeChanges at h ⊢
  by_cases hreq : req = WIFI_MODE_AP ∨ req = WIFI_MODE_APSTA
  · rw [if_pos hreq] at h ⊢
    obtain ⟨h1,e1⟩ := onOk_ok h
    rw [e1] at h ⊢
    obtain ⟨h2,e2⟩ := onOk_ok h
    rw [e2] at h ⊢
    obtain ⟨h3,e3⟩ := onOk_ok h
    rw [e3] at h ⊢
    rw [set_ok h,set_ok h3,set_ok h2]
    simp [modeFor,needApCb,hreq]
  · rw [if_neg hreq] at h ⊢
    obtain ⟨h1,e1⟩ := onOk_ok h
    rw [e1] at h ⊢
    obtain ⟨h2,e2⟩ := onOk_ok h
    rw [e2] at h ⊢
    rw [set_ok h,set_ok h2]
    simp [modeFor,needApCb,hreq]

theorem ensureCb_flags (register : EspErr) : ∃ c, (mgmtTxEnsureCb w register).1 = w.withFlags w.started c := by
  rcases @ensureCb_spec w register with ⟨he,-⟩ | ⟨he,-⟩ | ⟨he,-⟩
  · exact ⟨w.cbOwned,by rw [he]; rfl⟩
  · exact ⟨true,by rw [he]⟩
  · exact ⟨w.cbOwned,by rw [he]; rfl⟩

theorem modeForward_spec {oldMode : Nat} (h : modeForward devMac req oldMode w r = some (w',ret)) :
    ModeFrame w w' ∧
      (ret = ESP_OK → w'.started = true ∧ w'.mode = if oldMode ≠ req then modeFor req else w.mode) ∧
      (ret ≠ ESP_OK → w.started = false → w'.started = true → w'.cbOwned = true ∨ CbLost r.start) := by
  unfold modeForward at h
  have hchanges : ModeFrame w (if oldMode ≠ req then modeChanges devMac req w r else (w,ESP_OK)).1 ∧
      (if oldMode ≠ req then modeChanges devMac req w r else (w,ESP_OK)).1.started = w.started := by
    split
    · exact ⟨modeChanges_keeps.1,modeChanges_keeps.2.1⟩
    · exact ⟨⟨rfl,rfl,rfl⟩,rfl⟩
  have hmode : (if oldMode ≠ req then modeChanges devMac req w r else (w,ESP_OK)).2 = ESP_OK →
      (if oldMode ≠ req then modeChanges devMac req w r else (w,ESP_OK)).1.mode =
        if oldMode ≠ req then modeFor req else w.mode := by
    split
    · exact modeChanges_ok
    · exact fun _ => rfl
  generalize (if oldMode ≠ req then modeChanges devMac req w r else (w,ESP_OK)) = c at h hchanges hmode
  have hcb (v : WifiState) : ∃ b, (if needApCb req then mgmtTxEnsureCb v r.ensureCb else (v,ESP_OK)).1 =
      v.withFlags v.started b := by
    split
    · exact ensureCb_flags r.ensureCb
    · exact ⟨v.cbOwned,rfl⟩
  generalize hs : onOk c (fun v => if needApCb req then mgmtTxEnsureCb v r.ensureCb else (v,ESP_OK)) = s at h
  have hframe : ModeFrame w s.1 ∧ s.1.started = w.started := by
    rw [← hs]
    refine onOk_keeps (p := fun v => ModeFrame w v ∧ v.started = w.started) hchanges fun v hv => ?_
    obtain ⟨b,hb⟩ := hcb v
    rw [hb]
    exact ⟨hv.1.withFlags _ _,hv.2⟩
  have hsmode (h : s.2 = ESP_OK) : s.1.mode = if oldMode ≠ req then modeFor req else w.mode := by
    rw [← hs] at h ⊢
    obtain ⟨h1,e1⟩ := onOk_ok h
    obtain ⟨b,hb⟩ := hcb c.1
    rw [e1,hb]
    exact hmode h1
  by_cases hs2 : s.2 = ESP_OK
  · rw [if_neg (fun h => h hs2)] at h
    cases hst : s.1.started with
    | true =>
      rw [hst,if_pos rfl] at h
      cases h
      refine ⟨hframe.1,fun _ => ⟨hst,hsmode hs2⟩,fun hne => absurd hs2 hne⟩
    | false =>
      rw [hst,if_neg (by decide)] at h
      rcases start_spec h with ⟨rfl,rfl⟩ | ⟨hne,rfl | rfl | rfl | ⟨rfl,hlost⟩⟩
      · exact ⟨hframe.1.withFlags _ _,fun _ => ⟨rfl,hsmode hs2⟩,fun hne => absurd rfl hne⟩
      · refine ⟨hframe.1,fun hok => absurd hok hne,fun _ _ ht => ?_⟩
        rw [hst] at ht
        cases ht
      · exact ⟨hframe.1.withFlags _ _,fun hok => absurd hok hne,fun _ _ ht => by cases ht⟩
      · exact ⟨hframe.1.withFlags _ _,fun hok => absurd hok hne,fun _ _ _ => .inl rfl⟩
      · exact ⟨hframe.1.withFlags _ _,fun hok => absurd hok hne,fun _ _ _ => .inr hlost⟩
  · rw [if_pos hs2] at h
    cases h
    refine ⟨hframe.1,fun hok => absurd hok hs2,fun _ hw ht => ?_⟩
    rw [hframe.2,hw] at ht
    cases ht

/-! After a FAIL. -/

/-- The stop says that there is no radio to stop. -/
def NoRadio (err : EspErr) : Prop := err = ESP_ERR_WIFI_NOT_STARTED ∨ err = ESP_ERR_WIFI_NOT_INIT

/-- The flags are as before, where the callback was owned just while Wi-Fi was started and
did not get lost; or they are cleared, with no radio running. -/
def FlagsHeld (old w : WifiState) (stop : StopReply) (start : StartReply) : Prop :=
  (NoRadio stop.err ∧ w.started = false ∧ w.cbOwned = false) ∨
    (w.started = old.started ∧ (old.cbOwned = old.started → ¬CbLost start → w.cbOwned = old.cbOwned))

structure ModeHeld (old w : WifiState) (r : ModeReplies) : Prop where
  mode : w.mode = old.mode
  frame : ModeFrame old w
  staMac : r.getStaMac = ESP_OK → w.staMac = old.staMac
  apMac : r.getApMac = ESP_OK → w.apMac = old.apMac
  staConfig : r.getStaConfig = ESP_OK → w.staConfig = old.staConfig
  flags : FlagsHeld old w r.stop r.start

/-- A stop that is refused has changed nothing but flags. -/
theorem stop_refused {s : StopReply} (start : StartReply) (h : hostedWifiStop w s = some (w',ret)) (hne : ret ≠ ESP_OK) :
    (∃ b c, w' = w.withFlags b c) ∧ FlagsHeld w w' s start := by
  obtain ⟨rfl,rfl⟩ := stop_spec h
  by_cases hs : wifiStopped s.err = true
  · rw [if_pos hs]
    have hno : NoRadio s.err := by
      simp only [wifiStopped,decide_eq_true_eq] at hs
      exact hs.resolve_left hne
    exact ⟨⟨false,false,rfl⟩,.inl ⟨hno,rfl,rfl⟩⟩
  · rw [if_neg hs]
    exact ⟨⟨w.started,w.cbOwned,rfl⟩,.inr ⟨rfl,fun _ _ => rfl⟩⟩

theorem flags_back {start : StartReply} {stop : StopReply} {v : WifiState} (s : StopReply) (r : StartReply)
    (hv : v.started = w.started ∧ v.cbOwned = (old.cbOwned && w.cbOwned))
    (hb : backToStarted old v start stop = some (w',ESP_OK))
    (hw : old.cbOwned = old.started → old.started = true → w.started = true → w.cbOwned = true ∨ CbLost r) :
    FlagsHeld old w' s r := by
  have hw' := backToStarted_spec hb
  rw [hw']
  refine .inr ⟨rfl,fun heq hlost => ?_⟩
  simp only [WifiState.withFlags,hv.1,hv.2]
  by_cases hst : old.started = w.started
  · rw [if_pos hst]
    cases ho : old.started with
    | true =>
      have := (hw heq ho (hst ▸ ho)).resolve_right hlost
      rw [heq,ho,this]
      rfl
    | false => rw [heq,ho]; rfl
  · rw [if_neg hst]
    exact heq.symm

theorem modeRollback_spec {st : Status} (h : modeRollback old w r = some (w',st)) :
    st = .fail ∧ ∃ b c, w' = (modeBack old r w).withFlags b c ∧
      backToStarted old (dropCb old (modeBack old r w)) r.backStart r.backStop = some (w',ESP_OK) := by
  unfold modeRollback at h
  split at h
  · split at h
    · rename_i v e hback
      split at h
      · rename_i he
        cases h
        rw [he] at hback
        have hw := backToStarted_spec hback
        rw [dropCb_spec,withFlags_withFlags] at hw
        exact ⟨rfl,_,_,hw,hback⟩
      · cases h
    · cases h
  · cases h

theorem modeRollback_held {st : Status} {w1 w2 : WifiState} (hstop : w1 = w ∨ w1 = w.withFlags false false)
    (hf : modeForward devMac req w.mode w1 r = some (w2,ret)) (hret : ret ≠ ESP_OK)
    (hrun : w.started = true → w.cbOwned = true → w1.started = false)
    (h : modeRollback w w2 r = some (w',st)) : st = .fail ∧ ModeHeld w w' r := by
  obtain ⟨rfl,b,c,rfl,hback⟩ := modeRollback_spec h
  obtain ⟨hframe,-,hfail⟩ := modeForward_spec hf
  have hframe' : ModeFrame w w2 := by
    rcases hstop with rfl | rfl
    · exact hframe
    · exact ⟨hframe.apConfig,hframe.inactiveTime,hframe.apRxCb⟩
  refine ⟨rfl,rfl,⟨?_,hframe'.inactiveTime,hframe'.apRxCb⟩,?_,?_,?_,?_⟩
  · simp only [WifiState.withFlags,modeBack]
    split
    · rfl
    · exact hframe'.apConfig
  · intro hg
    simp [WifiState.withFlags,modeBack,hg]
  · intro hg
    simp [WifiState.withFlags,modeBack,hg]
  · intro hg
    simp [WifiState.withFlags,modeBack,hg]
  · have hdrop := @dropCb_spec (modeBack w r w2) w
    have hv : (dropCb w (modeBack w r w2)).started = w2.started ∧
        (dropCb w (modeBack w r w2)).cbOwned = (w.cbOwned && w2.cbOwned) := by
      rw [hdrop]
      exact ⟨rfl,rfl⟩
    refine flags_back r.stop r.start hv hback fun heq hs ht => hfail hret (hrun hs ?_) ht
    rw [heq,hs]

/-- The mode asked for, or APSTA where an AP is asked for. -/
structure ModeInEffect (req : Nat) (w : WifiState) : Prop where
  started : w.started = true
  mode : w.mode = req ∨ (req = WIFI_MODE_AP ∧ w.mode = WIFI_MODE_APSTA)

theorem modeFor_spec (h : req = WIFI_MODE_STA ∨ req = WIFI_MODE_AP ∨ req = WIFI_MODE_APSTA) :
    modeFor req = req ∨ (req = WIFI_MODE_AP ∧ modeFor req = WIFI_MODE_APSTA) := by
  rcases h with rfl | rfl | rfl
  · exact .inl rfl
  · exact .inr ⟨rfl,rfl⟩
  · exact .inl rfl

theorem modeHeld_self : ModeHeld w w r :=
  ⟨rfl,⟨rfl,rfl,rfl⟩,fun _ => rfl,fun _ => rfl,fun _ => rfl,.inr ⟨rfl,fun _ _ => rfl⟩⟩

theorem modeTransition_spec {st : Status} (hreq : req = WIFI_MODE_STA ∨ req = WIFI_MODE_AP ∨ req = WIFI_MODE_APSTA)
    (hnot : ¬(w.mode = req ∧ w.started = true ∧ (needApCb req = false ∨ w.cbOwned = true)))
    (h : modeTransition devMac req w r = some (w',st)) :
    (st = .fail → ModeHeld w w' r) ∧ (st = .success → ModeInEffect req w') := by
  unfold modeTransition at h
  cases hs : modeStop req w r with
  | none => simp [hs] at h
  | some s =>
    obtain ⟨w1,e⟩ := s
    simp only [hs] at h
    by_cases he : e = ESP_OK
    · rw [if_neg (fun h => h he)] at h
      cases hf : modeForward devMac req w.mode w1 r with
      | none => simp [hf] at h
      | some f =>
        obtain ⟨w2,ret⟩ := f
        simp only [hf] at h
        by_cases hret : ret = ESP_OK
        · rw [if_pos hret] at h
          cases h
          obtain ⟨hst,hm⟩ := (modeForward_spec hf).2.1 hret
          refine ⟨(fun h => by cases h),fun _ => ⟨hst,?_⟩⟩
          by_cases hreq' : w.mode = req
          · rw [modeStop,if_neg (fun h => h hreq')] at hs
            cases hs
            rw [if_neg (fun h => h hreq')] at hm
            exact .inl (hm.trans hreq')
          · rw [if_pos hreq'] at hm
            rw [hm]
            exact modeFor_spec hreq
        · rw [if_neg hret] at h
          have hstop : (w1 = w ∨ w1 = w.withFlags false false) ∧
              (w.started = true → w.cbOwned = true → w1.started = false) := by
            by_cases hreq' : w.mode = req
            · rw [modeStop,if_neg (fun h => h hreq')] at hs
              cases hs
              exact ⟨.inl rfl,fun h1 h2 => absurd ⟨hreq',h1,.inr h2⟩ hnot⟩
            · rw [modeStop,if_pos hreq'] at hs
              obtain ⟨hr,hw1⟩ := stop_spec hs
              have hstopped : wifiStopped r.stop.err = true := by
                simp [wifiStopped,← hr,he]
              rw [if_pos hstopped] at hw1
              exact ⟨.inr hw1,fun _ _ => by rw [hw1]; rfl⟩
          obtain ⟨rfl,hheld⟩ := modeRollback_held hstop.1 hf hret hstop.2 h
          exact ⟨fun _ => hheld,fun h => by cases h⟩
    · rw [if_pos he] at h
      cases h
      refine ⟨fun _ => ?_,fun h => by cases h⟩
      by_cases hreq' : w.mode = req
      · rw [modeStop,if_neg (fun h => h hreq')] at hs
        cases hs
        exact absurd rfl he
      · rw [modeStop,if_pos hreq'] at hs
        obtain ⟨⟨b,c,rfl⟩,hflags⟩ := stop_refused r.start hs he
        exact ⟨rfl,⟨rfl,rfl,rfl⟩,fun _ => rfl,fun _ => rfl,fun _ => rfl,hflags⟩

theorem processSetMode_spec {st : Status} {payload : Bytes} (h : processSetMode devMac w r payload = some (w',st)) :
    (st = .fail → ModeHeld w w' r) ∧ (st = .success → ModeInEffect (modeRequest payload) w') := by
  unfold processSetMode at h
  by_cases hlen : payload.length < 12
  · rw [if_pos hlen] at h
    cases h
    exact ⟨(fun h => by cases h),fun h => by cases h⟩
  rw [if_neg hlen] at h
  by_cases hreq : modeRequest payload ≠ WIFI_MODE_STA ∧ modeRequest payload ≠ WIFI_MODE_AP ∧
      modeRequest payload ≠ WIFI_MODE_APSTA
  · rw [if_pos hreq] at h
    cases h
    exact ⟨(fun h => by cases h),fun h => by cases h⟩
  rw [if_neg hreq] at h
  by_cases hget : r.getMode = ESP_OK
  · rw [if_neg (fun h => h hget)] at h
    by_cases hsame : w.mode = modeRequest payload ∧ w.started = true ∧
        (needApCb (modeRequest payload) = false ∨ w.cbOwned = true)
    · rw [if_pos hsame] at h
      cases h
      exact ⟨(fun h => by cases h),fun _ => ⟨hsame.2.1,.inl hsame.1⟩⟩
    · rw [if_neg hsame] at h
      refine modeTransition_spec ?_ hsame h
      omega
  · rw [if_pos hget] at h
    cases h
    exact ⟨fun _ => modeHeld_self,fun h => by cases h⟩

/-! `process_set_ap_config`. -/

variable {payload : Bytes} {oldMode : Nat} {q : ApReplies}

structure ApFrame (w w' : WifiState) : Prop where
  staMac : w'.staMac = w.staMac
  apMac : w'.apMac = w.apMac
  staConfig : w'.staConfig = w.staConfig
  apRxCb : w'.apRxCb = w.apRxCb ∨ w'.apRxCb = .wlanApRxCallback

theorem ApFrame.withFlags {v : WifiState} (h : ApFrame w v) (b c : Bool) : ApFrame w (v.withFlags b c) :=
  ⟨h.staMac,h.apMac,h.staConfig,h.apRxCb⟩

def ApChanged (w w' : WifiState) : Prop := ApFrame w w' ∧ w'.started = w.started

theorem apChanges_keeps : ApChanged w (apChanges payload oldMode w q).1 := by
  have hw : ApChanged w w := ⟨⟨rfl,rfl,rfl,.inl rfl⟩,rfl⟩
  unfold apChanges
  refine onOk_keeps ?_ fun v hv => onOk_keeps (set_keeps hv fun h => ⟨⟨h.1.1,h.1.2,h.1.3,h.1.4⟩,h.2⟩) fun v hv =>
    onOk_keeps ?_ fun v hv => onOk_keeps ?_ fun v hv => set_keeps hv fun h => ⟨⟨h.1.1,h.1.2,h.1.3,.inr rfl⟩,h.2⟩
  · split
    · exact set_keeps hw fun h => ⟨⟨h.1.1,h.1.2,h.1.3,h.1.4⟩,h.2⟩
    · exact hw
  · split
    · exact set_keeps hv fun h => ⟨⟨h.1.1,h.1.2,h.1.3,h.1.4⟩,h.2⟩
    · exact hv
  · obtain ⟨c,hc⟩ := @ensureCb_flags v q.ensureCb
    rw [hc]
    exact ⟨hv.1.withFlags _ _,hv.2⟩

theorem apChanges_rxCb (h : (apChanges payload oldMode w q).2 ≠ ESP_OK) :
    (apChanges payload oldMode w q).1.apRxCb = w.apRxCb := by
  unfold apChanges at h ⊢
  refine onOk_fails (p := fun v => v.apRxCb = w.apRxCb) ?_ (fun v hv => ?_) h
  · split
    · exact set_keeps (p := fun v => v.apRxCb = w.apRxCb) rfl id
    · rfl
  refine onOk_fails (p := fun v => v.apRxCb = w.apRxCb) (set_keeps (p := fun v => v.apRxCb = w.apRxCb) hv id) fun v hv => ?_
  refine onOk_fails (p := fun v => v.apRxCb = w.apRxCb) ?_ fun v hv => ?_
  · split
    · exact set_keeps (p := fun v => v.apRxCb = w.apRxCb) hv id
    · exact hv
  refine onOk_fails (p := fun v => v.apRxCb = w.apRxCb) ?_ fun v hv hne => ?_
  · obtain ⟨c,hc⟩ := @ensureCb_flags v q.ensureCb
    rw [hc]
    exact hv
  · exact (congrArg WifiState.apRxCb (if_neg hne)).trans hv

/-- The configuration of the command, before or after the start. -/
structure ApApplied (payload : Bytes) (w : WifiState) : Prop where
  mode : w.mode = WIFI_MODE_APSTA
  apConfig : w.apConfig = apConfigOf payload
  inactiveTime : inactivityOf payload ≠ 0 → w.inactiveTime = inactivityOf payload
  apRxCb : w.apRxCb = .wlanApRxCallback

theorem apChanges_ok (h : (apChanges payload w.mode w q).2 = ESP_OK) :
    ApApplied payload (apChanges payload w.mode w q).1 := by
  unfold apChanges at h ⊢
  obtain ⟨h1,e1⟩ := onOk_ok h
  rw [e1] at h ⊢
  have hmode : (if w.mode ≠ WIFI_MODE_APSTA then set q.setMode (fun w => {w with mode := WIFI_MODE_APSTA}) w
      else (w,ESP_OK)).1.mode = WIFI_MODE_APSTA := by
    split at h1
    · rw [if_pos ‹_›,set_ok h1]
    · rw [if_neg ‹_›]
      exact Decidable.not_not.mp ‹_›
  generalize (if w.mode ≠ WIFI_MODE_APSTA then set q.setMode (fun w => {w with mode := WIFI_MODE_APSTA}) w
    else (w,ESP_OK)).1 = v1 at h hmode ⊢
  obtain ⟨h2,e2⟩ := onOk_ok h
  rw [e2,set_ok h2] at h ⊢
  obtain ⟨h3,e3⟩ := onOk_ok h
  rw [e3] at h ⊢
  have hv3 : ApApplied payload {(if inactivityOf payload ≠ 0 then
      set q.setInactiveTime (fun w => {w with inactiveTime := inactivityOf payload})
        {v1 with apConfig := apConfigOf payload}
      else ({v1 with apConfig := apConfigOf payload},ESP_OK)).1 with apRxCb := .wlanApRxCallback} := by
    split at h3
    · rw [if_pos ‹_›,set_ok h3]
      exact ⟨hmode,rfl,fun _ => rfl,rfl⟩
    · rw [if_neg ‹_›]
      exact ⟨hmode,rfl,fun h => absurd h ‹_›,rfl⟩
  generalize (if inactivityOf payload ≠ 0 then
      set q.setInactiveTime (fun w => {w with inactiveTime := inactivityOf payload})
        {v1 with apConfig := apConfigOf payload}
      else ({v1 with apConfig := apConfigOf payload},ESP_OK)).1 = v3 at h hv3 ⊢
  obtain ⟨-,e4⟩ := onOk_ok h
  rw [e4] at h ⊢
  obtain ⟨c,hc⟩ := @ensureCb_flags v3 q.ensureCb
  rw [set_ok h,hc]
  exact ⟨hv3.mode,hv3.apConfig,hv3.inactiveTime,rfl⟩

theorem ApApplied.withFlags (h : ApApplied payload w) (b c : Bool) : ApApplied payload (w.withFlags b c) :=
  ⟨h.mode,h.apConfig,h.inactiveTime,h.apRxCb⟩

theorem apForward_spec (h : apForward payload w.mode w q = some (w',ret)) :
    ApFrame w w' ∧ (ret = ESP_OK → w'.started = true ∧ ApApplied payload w') ∧
      (ret ≠ ESP_OK → w.started = false → w'.started = true → w'.cbOwned = true ∨ CbLost q.start) := by
  obtain ⟨hframe,hst⟩ := @apChanges_keeps w payload w.mode q
  unfold apForward at h
  by_cases hs : (apChanges payload w.mode w q).2 = ESP_OK
  · have happ := apChanges_ok hs
    simp only [hs,ne_eq,not_true_eq_false,if_false] at h
    rcases start_spec h with ⟨rfl,rfl⟩ | ⟨hne,rfl | rfl | rfl | ⟨rfl,hlost⟩⟩
    · exact ⟨hframe.withFlags _ _,fun _ => ⟨rfl,happ.withFlags _ _⟩,fun hne => absurd rfl hne⟩
    · refine ⟨hframe,fun hok => absurd hok hne,fun _ hw ht => ?_⟩
      rw [hst,hw] at ht
      cases ht
    · exact ⟨hframe.withFlags _ _,fun hok => absurd hok hne,fun _ _ ht => by cases ht⟩
    · exact ⟨hframe.withFlags _ _,fun hok => absurd hok hne,fun _ _ _ => .inl rfl⟩
    · exact ⟨hframe.withFlags _ _,fun hok => absurd hok hne,fun _ _ _ => .inr hlost⟩
  · simp only [ne_eq,hs,not_false_eq_true,if_true,Option.some.injEq] at h
    rw [h] at hframe hst hs
    refine ⟨hframe,fun hok => absurd hok hs,fun _ hw ht => ?_⟩
    rw [hst,hw] at ht
    cases ht

theorem apForward_rxCb (h : apForward payload w.mode w q = some (w',ret)) :
    w'.apRxCb = if (apChanges payload w.mode w q).2 = ESP_OK then .wlanApRxCallback else w.apRxCb := by
  unfold apForward at h
  by_cases hs : (apChanges payload w.mode w q).2 = ESP_OK
  · have hcb := (apChanges_ok hs).apRxCb
    simp only [hs,ne_eq,not_true_eq_false,if_false] at h
    rw [if_pos hs]
    rcases start_spec h with ⟨-,rfl⟩ | ⟨-,rfl | rfl | rfl | ⟨rfl,-⟩⟩ <;> exact hcb
  · simp only [ne_eq,hs,not_false_eq_true,if_true,Option.some.injEq] at h
    rw [if_neg hs,← apChanges_rxCb hs,h]

/-- The command fails before it changes anything; or it clears the callback on its way back, and there was none; or it
does not clear it, and has not registered it or it was registered before. -/
def RxCbRestorable (old : WifiState) (q : ApReplies) (payload : Bytes) : Prop :=
  q.getMode ≠ ESP_OK ∨ q.stop.err ≠ ESP_OK ∨
    if old.started = false ∧ q.unregRxCb = ESP_OK then old.apRxCb = .none
    else (apChanges payload old.mode (old.withFlags false false) q).2 = ESP_OK → old.apRxCb = .wlanApRxCallback

structure ApHeld (old w : WifiState) (q : ApReplies) (payload : Bytes) : Prop where
  mode : w.mode = old.mode
  staMac : w.staMac = old.staMac
  apMac : w.apMac = old.apMac
  staConfig : w.staConfig = old.staConfig
  apConfig : q.getApConfig = ESP_OK → w.apConfig = old.apConfig
  inactiveTime : q.getInactiveTime = ESP_OK → w.inactiveTime = old.inactiveTime
  apRxCb : RxCbRestorable old q payload → w.apRxCb = old.apRxCb
  flags : FlagsHeld old w q.stop q.start

theorem apHeld_withFlags {b c : Bool} (h : FlagsHeld w (w.withFlags b c) q.stop q.start) :
    ApHeld w (w.withFlags b c) q payload :=
  ⟨rfl,rfl,rfl,rfl,fun _ => rfl,fun _ => rfl,fun _ => rfl,h⟩

theorem apRollback_spec {st : Status} (h : apRollback old w q = some (w',st)) :
    st = .fail ∧ (∃ b c, w' = (dropRxCb old q (dropCb old (apBack old q w))).withFlags b c) ∧
      backToStarted old (dropRxCb old q (dropCb old (apBack old q w))) q.backStart q.backStop = some (w',ESP_OK) := by
  unfold apRollback at h
  split at h
  · split at h
    · rename_i v e hback
      split at h
      · rename_i he
        cases h
        rw [he] at hback
        exact ⟨rfl,⟨_,_,backToStarted_spec hback⟩,hback⟩
      · cases h
    · cases h
  · cases h

theorem dropRxCb_spec (q : ApReplies) : dropRxCb old q w =
    {w with apRxCb := if old.started = false ∧ q.unregRxCb = ESP_OK then .none else w.apRxCb} := by
  unfold dropRxCb
  cases ho : old.started <;> by_cases hu : q.unregRxCb = ESP_OK <;> simp [hu]

theorem apRollback_held {st : Status} {w2 : WifiState} (hget : q.getMode = ESP_OK) (hstop : q.stop.err = ESP_OK)
    (hf : apForward payload w.mode (w.withFlags false false) q = some (w2,ret)) (hret : ret ≠ ESP_OK)
    (h : apRollback w w2 q = some (w',st)) : st = .fail ∧ ApHeld w w' q payload := by
  obtain ⟨rfl,⟨b,c,hw'⟩,hback⟩ := apRollback_spec h
  obtain ⟨hframe,-,hfail⟩ := apForward_spec (w := w.withFlags false false) hf
  have hcb := apForward_rxCb (w := w.withFlags false false) hf
  rw [dropRxCb_spec,dropCb_spec] at hw' hback
  have hflags : FlagsHeld w w' q.stop q.start := by
    refine flags_back (w := w2) q.stop q.start ?_ hback fun _ _ ht => hfail hret rfl ht
    exact ⟨rfl,rfl⟩
  rw [hw'] at hflags ⊢
  refine ⟨rfl,rfl,hframe.staMac,hframe.apMac,hframe.staConfig,?_,?_,fun hrx => ?_,hflags⟩
  · intro hg
    simp [WifiState.withFlags,apBack,hg]
  · intro hg
    simp [WifiState.withFlags,apBack,hg]
  · have hrx := (hrx.resolve_left fun hne => hne hget).resolve_left fun hne => hne hstop
    change (if w.started = false ∧ q.unregRxCb = ESP_OK then RxCb.none else w2.apRxCb) = w.apRxCb
    split at hrx
    · rw [if_pos ‹_›,hrx]
    · rw [if_neg ‹_›,hcb]
      split
      · exact (hrx ‹_›).symm
      · rfl

structure ApInEffect (payload : Bytes) (w : WifiState) : Prop where
  started : w.started = true
  applied : ApApplied payload w

theorem apTransition_spec {st : Status} (hget : q.getMode = ESP_OK) (h : apTransition w q payload = some (w',st)) :
    (st = .fail → ApHeld w w' q payload) ∧ (st = .success → ApInEffect payload w') := by
  unfold apTransition at h
  cases hs : hostedWifiStop w q.stop with
  | none => simp [hs] at h
  | some s =>
    obtain ⟨w1,e⟩ := s
    simp only [hs] at h
    by_cases he : e = ESP_OK
    · rw [if_neg (fun h => h he)] at h
      obtain ⟨hr,hw1⟩ := stop_spec hs
      have hstopped : wifiStopped q.stop.err = true := by
        simp [wifiStopped,← hr,he]
      rw [if_pos hstopped] at hw1
      rw [hw1] at h
      cases hf : apForward payload w.mode (w.withFlags false false) q with
      | none => simp [hf] at h
      | some f =>
        obtain ⟨w2,ret⟩ := f
        simp only [hf] at h
        by_cases hret : ret = ESP_OK
        · rw [if_pos hret] at h
          cases h
          obtain ⟨hst,happ⟩ := (apForward_spec (w := w.withFlags false false) hf).2.1 hret
          exact ⟨(fun h => by cases h),fun _ => ⟨hst,happ⟩⟩
        · rw [if_neg hret] at h
          obtain ⟨rfl,hheld⟩ := apRollback_held hget (hr.symm.trans he) hf hret h
          exact ⟨fun _ => hheld,fun h => by cases h⟩
    · rw [if_pos he] at h
      cases h
      obtain ⟨⟨b,c,rfl⟩,hflags⟩ := stop_refused q.start hs he
      exact ⟨fun _ => apHeld_withFlags hflags,fun h => by cases h⟩

theorem processSetApConfig_spec {monitorRejects : UInt8 → Bool} {ifType : Nat} {st : Status}
    (h : processSetApConfig monitorRejects w q ifType payload = some (w',st)) :
    (st = .fail → ApHeld w w' q payload) ∧ (st = .success → ApInEffect payload w') := by
  unfold processSetApConfig at h
  by_cases hlen : ifType ≠ ESP_AP_IF ∨ payload.length < 53
  · rw [if_pos hlen] at h
    cases h
    exact ⟨(fun h => by cases h),fun h => by cases h⟩
  rw [if_neg hlen] at h
  split at h
  · cases h
    exact ⟨(fun h => by cases h),fun h => by cases h⟩
  split at h
  · cases h
    exact ⟨(fun h => by cases h),fun h => by cases h⟩
  by_cases hget : q.getMode = ESP_OK
  · rw [if_neg (fun h => h hget)] at h
    exact apTransition_spec hget h
  · rw [if_pos hget] at h
    cases h
    exact ⟨fun _ => apHeld_withFlags (.inr ⟨rfl,fun _ _ => rfl⟩),fun h => by cases h⟩

/-! Either command. -/

inductive Command where
  | setMode (payload : Bytes) (r : ModeReplies)
  | apConfig (ifType : Nat) (payload : Bytes) (r : ApReplies)
  deriving DecidableEq, Repr

def process (devMac : Bytes) (monitorRejects : UInt8 → Bool) (w : WifiState) : Command → Option (WifiState × Status)
  | .setMode payload r => processSetMode devMac w r payload
  | .apConfig ifType payload r => processSetApConfig monitorRejects w r ifType payload

def Command.Held (old w : WifiState) : Command → Prop
  | .setMode _ r => ModeHeld old w r
  | .apConfig _ payload r => ApHeld old w r payload

def Command.InEffect (w : WifiState) : Command → Prop
  | .setMode payload _ => ModeInEffect (modeRequest payload) w
  | .apConfig _ payload _ => ApInEffect payload w

/-- A transition that is answered FAIL is taken back, one that is answered SUCCESS is in effect. -/
theorem transition_atomic {monitorRejects : UInt8 → Bool} {c : Command} {st : Status}
    (h : process devMac monitorRejects w c = some (w',st)) :
    (st = .fail → c.Held w w') ∧ (st = .success → c.InEffect w') := by
  cases c with
  | setMode payload r => exact processSetMode_spec h
  | apConfig ifType payload r => exact processSetApConfig_spec h

def station : WifiState :=
  {mode := WIFI_MODE_STA, staMac := [2,0,0,0,0,1], apMac := [2,0,0,0,0,2], staConfig := [], apConfig := {},
   inactiveTime := 300, apRxCb := .none, started := true, cbOwned := true}

/-- `SET_MODE` to an AP. -/
def apMode : Bytes := [0,0,0,0,0,0,0,0,2,0,0,0]

/-- The last change of the mode is refused, and the mode goes back. -/
theorem transition_atomic_refused :
    process [2,0,0,0,0,9] (fun _ => false) station (.setMode apMode {setStaConfig := ESP_FAIL}) = some (station,.fail) ∧
      (Command.setMode apMode {setStaConfig := ESP_FAIL}).Held station station :=
  have h : process [2,0,0,0,0,9] (fun _ => false) station (.setMode apMode {setStaConfig := ESP_FAIL}) =
      some (station,.fail) := by decide
  ⟨h,(transition_atomic h).1 rfl⟩

/-- The AP that is asked for runs in APSTA mode. -/
theorem ap_in_apsta : ∃ w, process [2,0,0,0,0,9] (fun _ => false) station (.setMode apMode {}) = some (w,.success) ∧
    modeRequest apMode = WIFI_MODE_AP ∧ w.mode ≠ WIFI_MODE_AP :=
  ⟨_,rfl,by decide,by decide⟩

end EspHosted.Transition
