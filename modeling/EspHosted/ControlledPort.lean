import Mathlib.Data.List.Basic
import EspHosted.Lib.Run

/-!
The controlled port of a station. In the firmware, `cmd.c` and `app_main.c`: the task that takes
commands and frames from the host, the Wi-Fi task with the association responses, and the event
task. On the host, `esp_cmd.c` and `main.c`: the delivery of association and disconnect events,
`cmd_sta_set_authorized` and the transmit path. Nothing locks the flags against their readers, so
the writes of one function that a reader can see apart are separate steps.
-/

set_option autoImplicit false

namespace EspHosted.Port
open Run

abbrev Bssid := BitVec 48

/-- An association whose response was accepted: whether its request asked for a controlled port, and
whether it has been authorized since. -/
structure Assoc where
  id : Nat
  asked : Bool
  authorized : Bool := false
  deriving DecidableEq, Repr

def Assoc.free (a : Assoc) : Bool := !a.asked || a.authorized

/-- The task that takes commands and frames from the host; `seen` is the association it found. -/
inductive RxTask where
  | idle
  /-- `process_assoc_request`, in front of the control port and of the request that is sent -/
  | assocPort (asked reassoc : Bool)
  | assocSend
  | authDone (seen : Option Nat)
  /-- In `wifi_tx_with_retry` with a data frame. -/
  | sending (seen : Option Nat)
  /-- In `esp_wifi_stop`. -/
  | stopping
  deriving DecidableEq, Repr

/-- `sta_rx_assoc` behind its test: what the request asked for, and the status. -/
inductive WifiTask where
  | idle
  | assocRx (asked success : Bool)
  deriving DecidableEq, Repr

/-- STA_DISCONNECTED: in front of `handle_sta_disconnected_event`, and behind it. -/
inductive EventTask where
  | idle
  | lost
  | reported
  deriving DecidableEq, Repr

/-- How far a request to authenticate comes: it is accepted, it finds the AP, and it succeeds. -/
structure AuthEnd where
  accepted : Bool := true
  found : Bool := true
  ok : Bool := true
  deriving DecidableEq, Repr

structure Firmware where
  stationConnected : Bool := false
  associationOngoing : Bool := false
  stationAuthorized : Bool := false
  assocGeneration : Nat := 0
  assocBssid : Bssid := 0
  assocControlPort : Bool := false
  assocIsReassoc : Bool := false
  apBssid : Option Bssid := none
  wifiStarted : Bool := false
  stopInProgress : Bool := false
  rx : RxTask := .idle
  wifi : WifiTask := .idle
  event : EventTask := .idle
  /-- What the request with the current generation asked for. -/
  asked : Bool := false
  assoc : Option Assoc := none
  next : Nat := 0
  /-- The association at each time a data frame was handed to Wi-Fi. -/
  sent : List (Option Assoc) := []
  deriving DecidableEq, Repr

namespace Firmware

def seen (s : Firmware) : Option Nat := s.assoc.map Assoc.id

/-- The fields of an association attempt that many handlers clear. -/
def clearAttempt (s : Firmware) : Firmware :=
  {s with assocGeneration := 0, assocBssid := 0, assocControlPort := false, assocIsReassoc := false}

/-- `process_auth_request` -/
def auth (s : Firmware) (bssid : Bssid) (e : AuthEnd) : Option Firmware :=
  match s.rx with
  | .idle =>
    some (if e.accepted then {s with
        assocBssid := bssid
        apBssid := if e.found then some bssid else s.apBssid
        associationOngoing := s.associationOngoing || e.ok}
      else s)
  | _ => none

/-- `process_assoc_request`; `bssid` is the configured one. -/
def assocRequest (s : Firmware) (seq : Nat) (bssid : Option Bssid) (asked reassoc : Bool) : Option Firmware :=
  match s.rx with
  | .idle =>
    if s.assocGeneration ≠ 0 then some s
    else some {s with
      associationOngoing := true
      assocGeneration := seq
      assocBssid := bssid.getD s.assocBssid
      asked := asked
      rx := .assocPort asked reassoc}
  | _ => none

def assocPort (s : Firmware) : Option Firmware :=
  match s.rx with
  | .assocPort asked reassoc => some {s with assocControlPort := asked, assocIsReassoc := reassoc, rx := .assocSend}
  | _ => none

def assocSend (s : Firmware) (ok : Bool) : Option Firmware :=
  match s.rx with
  | .assocSend =>
    some (if ok then {s with rx := .idle}
      else {s.clearAttempt with
        associationOngoing := false
        stationAuthorized := s.stationAuthorized && s.assocIsReassoc
        rx := .idle})
  | _ => none

/-- `process_sta_set_authorized`; `assocBssid` is what `esp_wifi_get_assoc_bssid_internal` gives. -/
def setAuthorized (s : Firmware) (authorized : Bool) (bssid : Bssid) (assocBssid : Option Bssid) : Option Firmware :=
  match s.rx with
  | .idle =>
    if !authorized && !s.stationConnected then some {s with stationAuthorized := false}
    else
      match s.apBssid.or assocBssid with
      | none => some s
      | some peer =>
        if bssid ≠ 0 ∧ bssid ≠ BitVec.allOnes 48 ∧ peer ≠ bssid then some s
        else if authorized then some {s with rx := .authDone s.seen}
        else some {s with stationAuthorized := false}
  | _ => none

/-- `esp_wifi_auth_done_internal` and what follows it. -/
def authDone (s : Firmware) (ok : Bool) : Option Firmware :=
  match s.rx with
  | .authDone seen =>
    some (if ok then {s with
        stationAuthorized := true
        assoc := if s.seen = seen then s.assoc.map (fun a => {a with authorized := true}) else s.assoc
        rx := .idle}
      else {s with rx := .idle})
  | _ => none

/-- `process_rx_pkt` for PACKET_TYPE_DATA. -/
def data (s : Firmware) : Option Firmware :=
  match s.rx with
  | .idle =>
    some (if (s.stationConnected || s.associationOngoing) && s.stationAuthorized then {s with rx := .sending s.seen}
      else s)
  | _ => none

/-- One call of `esp_wifi_internal_tx`. -/
def tx (s : Firmware) (again : Bool) : Option Firmware :=
  match s.rx with
  | .sending seen => some {s with sent := s.assoc :: s.sent, rx := if again then .sending seen else .idle}
  | _ => none

/-- `process_disconnect`, when it deauthenticates. -/
def disconnect (s : Firmware) : Option Firmware :=
  match s.rx with
  | .idle =>
    some (if s.stationConnected || s.associationOngoing then {s.clearAttempt with associationOngoing := false} else s)
  | _ => none

/-- `process_deinit_interface`, up to `hosted_wifi_stop` -/
def deinitInterface (s : Firmware) : Option Firmware :=
  match s.rx with
  | .idle => some {s.clearAttempt with
      associationOngoing := false
      stationConnected := false
      stationAuthorized := false
      assoc := none}
  | _ => none

def wifiStop (s : Firmware) : Option Firmware :=
  match s.rx with
  | .idle => some {s with stopInProgress := true, rx := .stopping}
  | _ => none

def wifiStopped (s : Firmware) (ok : Bool) : Option Firmware :=
  match s.rx with
  | .stopping =>
    some (if ok then {s.clearAttempt with
        wifiStarted := false
        associationOngoing := false
        stationConnected := false
        stationAuthorized := false
        assoc := none
        stopInProgress := false
        rx := .idle}
      else {s with stopInProgress := false, rx := .idle})
  | _ => none

def wifiStart (s : Firmware) : Option Firmware :=
  match s.rx with
  | .idle => some {s with wifiStarted := true}
  | _ => none

def staConnection (s : Firmware) (bssid : Bssid) : Option Firmware :=
  match s.wifi with
  | .idle => some {s with apBssid := some bssid}
  | _ => none

def staRxAssoc (s : Firmware) (reassoc : Bool) (sender : Bssid) (success : Bool) : Option Firmware :=
  match s.wifi with
  | .idle =>
    some (if s.assocGeneration = 0 ∨ s.assocBssid ≠ sender ∨ reassoc ≠ s.assocIsReassoc then s
      else {s with wifi := .assocRx s.asked success})
  | _ => none

def staRxAssocApply (s : Firmware) : Option Firmware :=
  match s.wifi with
  | .assocRx asked true =>
    some {s.clearAttempt with
      stationAuthorized := !s.assocControlPort
      assoc := some {id := s.next, asked}
      next := s.next+1
      wifi := .idle}
  | .assocRx _ false =>
    some {s.clearAttempt with
      stationAuthorized := s.stationAuthorized && s.stationConnected
      associationOngoing := false
      wifi := .idle}
  | _ => none

def staConnected (s : Firmware) : Option Firmware :=
  match s.event with
  | .idle =>
    some (if s.stopInProgress || !s.wifiStarted then s
      else {s.clearAttempt with associationOngoing := false, stationConnected := true})
  | _ => none

def staDisconnected (s : Firmware) : Option Firmware :=
  match s.event with
  | .idle =>
    some (if s.stopInProgress || !s.wifiStarted then s
      else {s.clearAttempt with associationOngoing := false, event := .lost})
  | _ => none

/-- `handle_sta_disconnected_event` -/
def handleStaDisconnected (s : Firmware) : Option Firmware :=
  match s.event with
  | .lost => some {s.clearAttempt with stationAuthorized := false, assoc := none, event := .reported}
  | _ => none

def staDisconnectedEnd (s : Firmware) : Option Firmware :=
  match s.event with
  | .reported => some {s with
      apBssid := none
      stationConnected := false
      stationAuthorized := false
      event := .idle}
  | _ => none

def staStop (s : Firmware) : Option Firmware :=
  match s.event with
  | .idle =>
    some (if s.wifiStarted && !s.stopInProgress then s
      else {s.clearAttempt with associationOngoing := false, stationAuthorized := false, assoc := none})
  | _ => none

inductive Act where
  | auth (bssid : Bssid) (e : AuthEnd)
  | assocRequest (seq : Nat) (bssid : Option Bssid) (asked reassoc : Bool)
  | assocPort
  | assocSend (ok : Bool)
  | setAuthorized (authorized : Bool) (bssid : Bssid) (assocBssid : Option Bssid)
  | authDone (ok : Bool)
  | data
  | tx (again : Bool)
  | disconnect
  | deinitInterface
  | wifiStop
  | wifiStopped (ok : Bool)
  | wifiStart
  | staConnection (bssid : Bssid)
  | staRxAssoc (reassoc : Bool) (sender : Bssid) (success : Bool)
  | staRxAssocApply
  | staConnected
  | staDisconnected
  | handleStaDisconnected
  | staDisconnectedEnd
  | staStop
  deriving DecidableEq, Repr

def step (s : Firmware) : Act → Option Firmware
  | .auth bssid e => s.auth bssid e
  | .assocRequest seq bssid asked reassoc => s.assocRequest seq bssid asked reassoc
  | .assocPort => s.assocPort
  | .assocSend ok => s.assocSend ok
  | .setAuthorized authorized bssid assocBssid => s.setAuthorized authorized bssid assocBssid
  | .authDone ok => s.authDone ok
  | .data => s.data
  | .tx again => s.tx again
  | .disconnect => s.disconnect
  | .deinitInterface => s.deinitInterface
  | .wifiStop => s.wifiStop
  | .wifiStopped ok => s.wifiStopped ok
  | .wifiStart => s.wifiStart
  | .staConnection bssid => s.staConnection bssid
  | .staRxAssoc reassoc sender success => s.staRxAssoc reassoc sender success
  | .staRxAssocApply => s.staRxAssocApply
  | .staConnected => s.staConnected
  | .staDisconnected => s.staDisconnected
  | .handleStaDisconnected => s.handleStaDisconnected
  | .staDisconnectedEnd => s.staDisconnectedEnd
  | .staStop => s.staStop

/-- Every data frame went out under an association that was free to send it. -/
def Safe (s : Firmware) : Prop := ∀ x ∈ s.sent, x.any Assoc.free = true

instance (s : Firmware) : Decidable s.Safe := inferInstanceAs (Decidable (∀ x ∈ s.sent, x.any Assoc.free = true))

/-- A successful response finds the control port of its own request; and neither an authorization
nor a frame meets another association than the one that was there when it was checked. -/
def admits (s : Firmware) : Act → Bool
  | .staRxAssocApply =>
    match s.wifi with
    | .assocRx asked true => s.assocControlPort = asked
    | _ => true
  | .authDone ok =>
    match s.rx with
    | .authDone seen => !ok || (seen.isSome && s.seen = seen)
    | _ => true
  | .tx _ =>
    match s.rx with
    | .sending seen => s.seen = seen
    | _ => true
  | _ => true

structure Inv (s : Firmware) : Prop where
  authorized : s.stationAuthorized = true → s.assoc.any Assoc.free = true
  known : ∀ a, s.assoc = some a → a.id < s.next
  /-- The frame that is being sent was checked under an association that was free to send it. -/
  sending : ∀ seen, s.rx = .sending seen → ∃ i, seen = some i ∧ i < s.next ∧
    ∀ a, s.assoc = some a → a.id = i → a.free = true
  sent : s.Safe

theorem Inv.kept {s s' : Firmware} (h : s.Inv) (hnext : s'.next = s.next) (hsent : s'.sent = s.sent)
    (hassoc : s'.assoc = s.assoc ∨ (s'.assoc = none ∧ s'.stationAuthorized = false))
    (hauth : s'.stationAuthorized = true → s.stationAuthorized = true)
    (hrx : ∀ seen, s'.rx = .sending seen → s.rx = .sending seen) : s'.Inv := by
  have hold : ∀ a, s'.assoc = some a → s.assoc = some a := by
    intro a ha
    rcases hassoc with hx | hx
    · exact hx ▸ ha
    · rw [hx.1] at ha
      cases ha
  refine ⟨fun ha => ?_,fun a ha => ?_,fun seen hs => ?_,?_⟩
  · rcases hassoc with hx | hx
    · rw [hx]
      exact h.authorized (hauth ha)
    · rw [hx.2] at ha
      cases ha
  · rw [hnext]
    exact h.known a (hold a ha)
  · obtain ⟨i,hi,hlt,hfree⟩ := h.sending seen (hrx seen hs)
    exact ⟨i,hi,by rw [hnext]; exact hlt,fun a ha => hfree a (hold a ha)⟩
  · unfold Safe
    rw [hsent]
    exact h.sent

theorem Inv.auth {s s' : Firmware} {bssid : Bssid} {e : AuthEnd} (h : s.Inv) (hs : s.auth bssid e = some s') : s'.Inv := by
  simp only [Firmware.auth] at hs
  split at hs
  · cases hs
    split
    · exact h.kept rfl rfl (.inl rfl) (fun hx => hx) (fun _ hx => hx)
    · exact h
  · cases hs

theorem Inv.assocRequest {s s' : Firmware} {seq : Nat} {bssid : Option Bssid} {asked reassoc : Bool} (h : s.Inv)
    (hs : s.assocRequest seq bssid asked reassoc = some s') : s'.Inv := by
  simp only [Firmware.assocRequest] at hs
  split at hs
  · split at hs
    · cases hs
      exact h
    · cases hs
      exact h.kept rfl rfl (.inl rfl) (fun hx => hx) (fun _ hx => by cases hx)
  · cases hs

theorem Inv.assocPort {s s' : Firmware} (h : s.Inv) (hs : s.assocPort = some s') : s'.Inv := by
  simp only [Firmware.assocPort] at hs
  split at hs
  · cases hs
    exact h.kept rfl rfl (.inl rfl) (fun hx => hx) (fun _ hx => by cases hx)
  · cases hs

theorem Inv.assocSend {s s' : Firmware} {ok : Bool} (h : s.Inv) (hs : s.assocSend ok = some s') : s'.Inv := by
  simp only [Firmware.assocSend] at hs
  split at hs
  · cases hs
    cases ok with
    | true => exact h.kept rfl rfl (.inl rfl) (fun hx => hx) (fun _ hx => by cases hx)
    | false => exact h.kept rfl rfl (.inl rfl) (fun hx => (Bool.and_eq_true_iff.mp hx).1) (fun _ hx => by cases hx)
  · cases hs

theorem Inv.setAuthorized {s s' : Firmware} {authorized : Bool} {bssid : Bssid} {assocBssid : Option Bssid} (h : s.Inv)
    (hs : s.setAuthorized authorized bssid assocBssid = some s') : s'.Inv := by
  have hclosed : ({s with stationAuthorized := false} : Firmware).Inv :=
    h.kept rfl rfl (.inl rfl) (fun hx => by cases hx) (fun _ hx => hx)
  simp only [Firmware.setAuthorized] at hs
  split at hs
  · split at hs
    · cases hs
      exact hclosed
    · split at hs
      · cases hs
        exact h
      · split at hs
        · cases hs
          exact h
        · split at hs
          · cases hs
            exact h.kept rfl rfl (.inl rfl) (fun hx => hx) (fun _ hx => by cases hx)
          · cases hs
            exact hclosed
  · cases hs

theorem Inv.authDone {s s' : Firmware} {ok : Bool} (h : s.Inv) (ha : admits s (.authDone ok) = true)
    (hs : s.authDone ok = some s') : s'.Inv := by
  simp only [Firmware.authDone] at hs
  split at hs
  · next seen hrx =>
    cases hs
    cases ok with
    | false => exact h.kept rfl rfl (.inl rfl) (fun hx => hx) (fun _ hx => by cases hx)
    | true =>
      simp only [admits,hrx,Bool.not_true,Bool.false_or,Bool.and_eq_true,decide_eq_true_eq] at ha
      obtain ⟨a,hassoc⟩ : ∃ a, s.assoc = some a := by
        have hx := ha.1
        rw [← ha.2,Firmware.seen,Option.isSome_map] at hx
        exact Option.isSome_iff_exists.mp hx
      simp only [if_pos ha.2,hassoc,Option.map_some,if_true]
      refine ⟨fun _ => by simp [Assoc.free],fun b hb => ?_,fun _ hx => (by cases hx),h.sent⟩
      cases hb
      exact h.known a hassoc
  · cases hs

theorem Inv.data {s s' : Firmware} (h : s.Inv) (hs : s.data = some s') : s'.Inv := by
  simp only [Firmware.data] at hs
  split at hs
  · cases hs
    split
    · next hopen =>
      obtain ⟨a,hassoc,hfree⟩ : ∃ a, s.assoc = some a ∧ a.free = true := by
        simpa [Option.any_eq_true] using h.authorized (Bool.and_eq_true_iff.mp hopen).2
      refine ⟨h.authorized,h.known,fun seen hx => ?_,h.sent⟩
      cases hx
      refine ⟨a.id,by simp [Firmware.seen,hassoc],h.known a hassoc,fun b hb _ => ?_⟩
      have hb : s.assoc = some b := hb
      rw [hassoc] at hb
      cases hb
      exact hfree
    · exact h
  · cases hs

theorem Inv.tx {s s' : Firmware} {again : Bool} (h : s.Inv) (ha : admits s (.tx again) = true)
    (hs : s.tx again = some s') : s'.Inv := by
  simp only [Firmware.tx] at hs
  split at hs
  · next seen hrx =>
    obtain ⟨i,rfl,hlt,hfree⟩ := h.sending seen hrx
    have hseen : s.seen = some i := by simpa [admits,hrx] using ha
    obtain ⟨a,hassoc,hid⟩ : ∃ a, s.assoc = some a ∧ a.id = i := by simpa [Firmware.seen] using hseen
    cases hs
    refine ⟨h.authorized,h.known,fun seen hx => ?_,fun x hx => ?_⟩
    · cases again with
      | true =>
        cases hx
        exact ⟨i,rfl,hlt,hfree⟩
      | false => cases hx
    · rcases List.mem_cons.mp hx with rfl | hx
      · rw [hassoc]
        exact hfree a hassoc hid
      · exact h.sent x hx
  · cases hs

theorem Inv.disconnect {s s' : Firmware} (h : s.Inv) (hs : s.disconnect = some s') : s'.Inv := by
  simp only [Firmware.disconnect] at hs
  split at hs
  · cases hs
    split
    · exact h.kept rfl rfl (.inl rfl) (fun hx => hx) (fun _ hx => hx)
    · exact h
  · cases hs

theorem Inv.deinitInterface {s s' : Firmware} (h : s.Inv) (hs : s.deinitInterface = some s') : s'.Inv := by
  simp only [Firmware.deinitInterface] at hs
  split at hs
  · cases hs
    exact h.kept rfl rfl (.inr ⟨rfl,rfl⟩) (fun hx => by cases hx) (fun _ hx => hx)
  · cases hs

theorem Inv.wifiStop {s s' : Firmware} (h : s.Inv) (hs : s.wifiStop = some s') : s'.Inv := by
  simp only [Firmware.wifiStop] at hs
  split at hs
  · cases hs
    exact h.kept rfl rfl (.inl rfl) (fun hx => hx) (fun _ hx => by cases hx)
  · cases hs

theorem Inv.wifiStopped {s s' : Firmware} {ok : Bool} (h : s.Inv) (hs : s.wifiStopped ok = some s') : s'.Inv := by
  simp only [Firmware.wifiStopped] at hs
  split at hs
  · cases hs
    cases ok with
    | true => exact h.kept rfl rfl (.inr ⟨rfl,rfl⟩) (fun hx => by cases hx) (fun _ hx => by cases hx)
    | false => exact h.kept rfl rfl (.inl rfl) (fun hx => hx) (fun _ hx => by cases hx)
  · cases hs

theorem Inv.wifiStart {s s' : Firmware} (h : s.Inv) (hs : s.wifiStart = some s') : s'.Inv := by
  simp only [Firmware.wifiStart] at hs
  split at hs
  · cases hs
    exact h.kept rfl rfl (.inl rfl) (fun hx => hx) (fun _ hx => hx)
  · cases hs

theorem Inv.staConnection {s s' : Firmware} {bssid : Bssid} (h : s.Inv) (hs : s.staConnection bssid = some s') :
    s'.Inv := by
  simp only [Firmware.staConnection] at hs
  split at hs
  · cases hs
    exact h.kept rfl rfl (.inl rfl) (fun hx => hx) (fun _ hx => hx)
  · cases hs

theorem Inv.staRxAssoc {s s' : Firmware} {reassoc : Bool} {sender : Bssid} {success : Bool} (h : s.Inv)
    (hs : s.staRxAssoc reassoc sender success = some s') : s'.Inv := by
  simp only [Firmware.staRxAssoc] at hs
  split at hs
  · cases hs
    split
    · exact h
    · exact h.kept rfl rfl (.inl rfl) (fun hx => hx) (fun _ hx => hx)
  · cases hs

theorem Inv.staRxAssocApply {s s' : Firmware} (h : s.Inv) (ha : admits s .staRxAssocApply = true)
    (hs : s.staRxAssocApply = some s') : s'.Inv := by
  simp only [Firmware.staRxAssocApply] at hs
  split at hs
  · next asked hw =>
    have hport : s.assocControlPort = asked := by simpa [admits,hw] using ha
    cases hs
    refine ⟨fun hx => ?_,fun a hx => ?_,fun seen hx => ?_,h.sent⟩
    · have hx : asked = false := by simpa [hport] using hx
      simp [Assoc.free,hx]
    · cases hx
      exact Nat.lt_succ_self _
    · -- the frame was checked under an older association
      obtain ⟨i,hi,hlt,-⟩ := h.sending seen hx
      refine ⟨i,hi,Nat.lt_succ_of_lt hlt,fun a ha hid => ?_⟩
      cases ha
      exact absurd hid (Nat.ne_of_gt hlt)
  · cases hs
    exact h.kept rfl rfl (.inl rfl) (fun hx => (Bool.and_eq_true_iff.mp hx).1) (fun _ hx => hx)
  · cases hs

theorem Inv.staConnected {s s' : Firmware} (h : s.Inv) (hs : s.staConnected = some s') : s'.Inv := by
  simp only [Firmware.staConnected] at hs
  split at hs
  · cases hs
    split
    · exact h
    · exact h.kept rfl rfl (.inl rfl) (fun hx => hx) (fun _ hx => hx)
  · cases hs

theorem Inv.staDisconnected {s s' : Firmware} (h : s.Inv) (hs : s.staDisconnected = some s') : s'.Inv := by
  simp only [Firmware.staDisconnected] at hs
  split at hs
  · cases hs
    split
    · exact h
    · exact h.kept rfl rfl (.inl rfl) (fun hx => hx) (fun _ hx => hx)
  · cases hs

theorem Inv.handleStaDisconnected {s s' : Firmware} (h : s.Inv) (hs : s.handleStaDisconnected = some s') : s'.Inv := by
  simp only [Firmware.handleStaDisconnected] at hs
  split at hs
  · cases hs
    exact h.kept rfl rfl (.inr ⟨rfl,rfl⟩) (fun hx => by cases hx) (fun _ hx => hx)
  · cases hs

theorem Inv.staDisconnectedEnd {s s' : Firmware} (h : s.Inv) (hs : s.staDisconnectedEnd = some s') : s'.Inv := by
  simp only [Firmware.staDisconnectedEnd] at hs
  split at hs
  · cases hs
    exact h.kept rfl rfl (.inl rfl) (fun hx => by cases hx) (fun _ hx => hx)
  · cases hs

theorem Inv.staStop {s s' : Firmware} (h : s.Inv) (hs : s.staStop = some s') : s'.Inv := by
  simp only [Firmware.staStop] at hs
  split at hs
  · cases hs
    split
    · exact h
    · exact h.kept rfl rfl (.inr ⟨rfl,rfl⟩) (fun hx => by cases hx) (fun _ hx => hx)
  · cases hs

theorem step_inv {s s' : Firmware} {a : Act} (h : s.Inv) (ha : admits s a = true) (hs : s.step a = some s') : s'.Inv := by
  cases a with
  | auth bssid e => exact h.auth hs
  | assocRequest seq bssid asked reassoc => exact h.assocRequest hs
  | assocPort => exact h.assocPort hs
  | assocSend ok => exact h.assocSend hs
  | setAuthorized authorized bssid assocBssid => exact h.setAuthorized hs
  | authDone ok => exact h.authDone ha hs
  | data => exact h.data hs
  | tx again => exact h.tx ha hs
  | disconnect => exact h.disconnect hs
  | deinitInterface => exact h.deinitInterface hs
  | wifiStop => exact h.wifiStop hs
  | wifiStopped ok => exact h.wifiStopped hs
  | wifiStart => exact h.wifiStart hs
  | staConnection bssid => exact h.staConnection hs
  | staRxAssoc reassoc sender success => exact h.staRxAssoc hs
  | staRxAssocApply => exact h.staRxAssocApply ha hs
  | staConnected => exact h.staConnected hs
  | staDisconnected => exact h.staDisconnected hs
  | handleStaDisconnected => exact h.handleStaDisconnected hs
  | staDisconnectedEnd => exact h.staDisconnectedEnd hs
  | staStop => exact h.staStop hs

theorem init_inv : ({} : Firmware).Inv :=
  ⟨fun hx => (by cases hx),fun a ha => (by cases ha),fun seen hx => (by cases hx),fun x hx => by cases hx⟩

end Firmware

/-- Who delivers an event under the wdev lock, in front of its next write. -/
inductive Delivery where
  | idle
  /-- `esp_deliver_assoc_from_skb` behind the write of the generation: success -/
  | assocStop (controlPort : Bool)
  | assocPort (controlPort : Bool)
  /-- and failure -/
  | failStop
  | failPort
  /-- `esp_deliver_disconnect_from_skb` -/
  | lostPort
  | lostStop
  /-- The synchronous disassociation of `cmd_disconnect_request` -/
  | syncPort
  deriving DecidableEq, Repr

/-- `cmd_sta_set_authorized`, which found connection `seen`. -/
inductive Authorize where
  | idle
  | waiting (seen : Option Nat) (authorized : Bool)
  | opened
  deriving DecidableEq, Repr

structure Host where
  /-- The connection `conn_generation` stands for. -/
  conn : Option Nat := none
  portOpen : Bool := false
  stopData : Bool := true
  delivery : Delivery := .idle
  authorize : Authorize := .idle
  /-- `process_tx_packet` has let a frame pass that is not EAPOL. -/
  tx : Option (Option Nat) := none
  /-- The connection `port_open` was last set for. -/
  grant : Option Nat := none
  next : Nat := 0
  /-- The connection and the grant at each time such a frame was sent. -/
  sent : List (Option Nat × Option Nat) := []
  deriving DecidableEq, Repr

namespace Host

def assocDelivered (s : Host) (controlPort : Bool) : Option Host :=
  match s.delivery with
  | .idle => some {s with conn := some s.next, next := s.next+1, delivery := .assocStop controlPort}
  | _ => none

/-- An association fails; with another BSS nothing changes. -/
def assocFailed (s : Host) (currentBss : Bool) : Option Host :=
  match s.delivery with
  | .idle => some (if currentBss then s else {s with conn := none, delivery := .failStop})
  | _ => none

def disconnectDelivered (s : Host) : Option Host :=
  match s.delivery with
  | .idle => some {s with conn := none, delivery := .lostPort}
  | _ => none

def disassociated (s : Host) : Option Host :=
  match s.delivery with
  | .idle => some {s with conn := none, delivery := .syncPort}
  | _ => none

def deliver (s : Host) : Option Host :=
  match s.delivery with
  | .idle => none
  | .assocStop controlPort => some {s with stopData := false, delivery := .assocPort controlPort}
  | .assocPort controlPort =>
    some {s with portOpen := !controlPort, grant := if controlPort then s.grant else s.conn, delivery := .idle}
  | .failStop => some {s with stopData := true, delivery := .failPort}
  | .failPort => some {s with portOpen := false, delivery := .idle}
  | .lostPort => some {s with portOpen := false, delivery := .lostStop}
  | .lostStop => some {s with stopData := true, delivery := .idle}
  | .syncPort => some {s with portOpen := false, delivery := .idle}

/-- `esp_retire_stale_disconnect_generation` without a current BSS, and `esp_mlme_cancel`. -/
def retire (s : Host) : Option Host :=
  match s.delivery with
  | .idle => some {s with conn := none}
  | _ => none

def setAuthorized (s : Host) (authorized : Bool) : Option Host :=
  match s.authorize with
  | .idle => some {s with authorize := .waiting s.conn authorized}
  | _ => none

/-- The command is answered; `esp_port_open` makes two writes. -/
def authorizeResponse (s : Host) (ok : Bool) : Option Host :=
  match s.authorize with
  | .waiting seen authorized =>
    some (if !ok then {s with authorize := .idle}
      else if authorized then {s with portOpen := true, grant := seen, authorize := .opened}
      else {s with portOpen := false, authorize := .idle})
  | _ => none

def authorizeOpened (s : Host) : Option Host :=
  match s.authorize with
  | .opened => some {s with stopData := false, authorize := .idle}
  | _ => none

/-- `esp_port_close` and `stop_data` in `esp_stop` and the cleanup. -/
def portClose (s : Host) : Option Host := some {s with portOpen := false}

def stop (s : Host) : Option Host := some {s with stopData := true}

/-- `process_tx_packet` for a frame that is not EAPOL. -/
def processTxPacket (s : Host) : Option Host :=
  match s.tx with
  | none => some (if !s.stopData && s.portOpen then {s with tx := some s.conn} else s)
  | some _ => none

def sendPacket (s : Host) : Option Host :=
  match s.tx with
  | some _ => some {s with sent := (s.conn,s.grant) :: s.sent, tx := none}
  | none => none

inductive Act where
  | assocDelivered (controlPort : Bool)
  | assocFailed (currentBss : Bool)
  | disconnectDelivered
  | disassociated
  | deliver
  | retire
  | setAuthorized (authorized : Bool)
  | authorizeResponse (ok : Bool)
  | authorizeOpened
  | portClose
  | stop
  | processTxPacket
  | sendPacket
  deriving DecidableEq, Repr

def step (s : Host) : Act → Option Host
  | .assocDelivered controlPort => s.assocDelivered controlPort
  | .assocFailed currentBss => s.assocFailed currentBss
  | .disconnectDelivered => s.disconnectDelivered
  | .disassociated => s.disassociated
  | .deliver => s.deliver
  | .retire => s.retire
  | .setAuthorized authorized => s.setAuthorized authorized
  | .authorizeResponse ok => s.authorizeResponse ok
  | .authorizeOpened => s.authorizeOpened
  | .portClose => s.portClose
  | .stop => s.stop
  | .processTxPacket => s.processTxPacket
  | .sendPacket => s.sendPacket

/-- The port was granted for the connection each frame was sent on; and outside of a delivery an
open port is one that was granted for the current connection. -/
structure Safe (s : Host) : Prop where
  sent : ∀ x ∈ s.sent, x.1.isSome = true ∧ x.2 = x.1
  granted : s.delivery = .idle → s.portOpen = true → s.conn.isSome = true ∧ s.grant = s.conn

instance (s : Host) : Decidable s.Safe :=
  decidable_of_iff ((∀ x ∈ s.sent, x.1.isSome = true ∧ x.2 = x.1) ∧
      (s.delivery = .idle → s.portOpen = true → s.conn.isSome = true ∧ s.grant = s.conn))
    ⟨fun ⟨h1,h2⟩ => ⟨h1,h2⟩,fun h => ⟨h.sent,h.granted⟩⟩

/-- An authorization finds the connection it was made on; the generation is retired while the port is
closed; and a frame is neither let pass during a delivery nor sent on another connection. -/
def admits (s : Host) : Act → Bool
  | .authorizeResponse ok =>
    match s.authorize with
    | .waiting seen true => !ok || (seen.isSome && s.conn = seen)
    | _ => true
  | .retire => !s.portOpen
  | .processTxPacket => s.delivery = .idle
  | .sendPacket => s.tx.all (fun seen => s.conn = seen)
  | _ => true

end Host

/-- It is going to write `port_open`. -/
def Delivery.writes : Delivery → Bool
  | .idle | .lostStop => false
  | _ => true

def Delivery.associates : Delivery → Bool
  | .assocStop _ | .assocPort _ => true
  | _ => false

namespace Host

structure Inv (s : Host) : Prop where
  granted : s.portOpen = true → s.delivery.writes = true ∨ (s.conn.isSome = true ∧ s.grant = s.conn)
  known : ∀ i, s.conn = some i ∨ s.tx = some (some i) → i < s.next
  associates : s.delivery.associates = true → s.conn.isSome = true
  /-- The frame was let pass on a connection the port was granted for. -/
  passing : ∀ seen, s.tx = some seen → seen.isSome = true ∧ (s.conn = seen → s.grant = seen)
  sent : ∀ x ∈ s.sent, x.1.isSome = true ∧ x.2 = x.1

theorem Inv.safe {s : Host} (h : s.Inv) : s.Safe where
  sent := h.sent
  granted := fun hd hp => by
    rcases h.granted hp with hx | hx
    · rw [hd] at hx
      cases hx
    · exact hx

theorem Inv.kept {s s' : Host} (h : s.Inv) (hconn : s'.conn = s.conn) (hgrant : s'.grant = s.grant)
    (hnext : s'.next = s.next) (hsent : s'.sent = s.sent) (htx : s'.tx = s.tx)
    (hport : s'.portOpen = true → s.portOpen = true) (hwrites : s'.portOpen = true → s'.delivery.writes = s.delivery.writes)
    (hassoc : s'.delivery.associates = true → s.delivery.associates = true) : s'.Inv := by
  refine ⟨fun hp => ?_,?_,fun hx => ?_,?_,?_⟩
  · rw [hwrites hp,hconn,hgrant]
    exact h.granted (hport hp)
  · rw [hconn,htx,hnext]
    exact h.known
  · rw [hconn]
    exact h.associates (hassoc hx)
  · rw [htx,hconn,hgrant]
    exact h.passing
  · rw [hsent]
    exact h.sent

theorem Inv.changed {s s' : Host} (h : s.Inv) (hconn : s'.conn = none ∨ (s'.conn = some s.next ∧ s'.next = s.next+1))
    (hnext : s.next ≤ s'.next) (hsent : s'.sent = s.sent) (htx : s'.tx = s.tx)
    (hwrites : s'.portOpen = true → s'.delivery.writes = true)
    (hassoc : s'.delivery.associates = true → s'.conn.isSome = true) : s'.Inv := by
  refine ⟨fun hp => .inl (hwrites hp),fun i hi => ?_,hassoc,fun seen hs => ?_,by rw [hsent]; exact h.sent⟩
  · rcases hi with hi | hi
    · rcases hconn with hx | ⟨hx,hy⟩
      · rw [hx] at hi
        cases hi
      · rw [hx] at hi
        cases hi
        omega
    · have := h.known i (.inr (htx ▸ hi))
      omega
  · rw [htx] at hs
    obtain ⟨hsome,-⟩ := h.passing seen hs
    refine ⟨hsome,fun heq => ?_⟩
    rcases hconn with hx | ⟨hx,-⟩
    · rw [← heq,hx] at hsome
      cases hsome
    · rw [← heq,hx] at hs
      exact absurd (h.known s.next (.inr hs)) (Nat.lt_irrefl _)

theorem Inv.assocDelivered {s s' : Host} {controlPort : Bool} (h : s.Inv)
    (hs : s.assocDelivered controlPort = some s') : s'.Inv := by
  simp only [Host.assocDelivered] at hs
  split at hs
  · cases hs
    exact h.changed (.inr ⟨rfl,rfl⟩) (Nat.le_succ _) rfl rfl (fun _ => rfl) (fun _ => rfl)
  · cases hs

theorem Inv.assocFailed {s s' : Host} {currentBss : Bool} (h : s.Inv) (hs : s.assocFailed currentBss = some s') :
    s'.Inv := by
  simp only [Host.assocFailed] at hs
  split at hs
  · cases hs
    cases currentBss with
    | true => exact h
    | false => exact h.changed (.inl rfl) (Nat.le_refl _) rfl rfl (fun _ => rfl) (fun hx => by cases hx)
  · cases hs

theorem Inv.disconnectDelivered {s s' : Host} (h : s.Inv) (hs : s.disconnectDelivered = some s') : s'.Inv := by
  simp only [Host.disconnectDelivered] at hs
  split at hs
  · cases hs
    exact h.changed (.inl rfl) (Nat.le_refl _) rfl rfl (fun _ => rfl) (fun hx => by cases hx)
  · cases hs

theorem Inv.disassociated {s s' : Host} (h : s.Inv) (hs : s.disassociated = some s') : s'.Inv := by
  simp only [Host.disassociated] at hs
  split at hs
  · cases hs
    exact h.changed (.inl rfl) (Nat.le_refl _) rfl rfl (fun _ => rfl) (fun hx => by cases hx)
  · cases hs

theorem Inv.deliver {s s' : Host} (h : s.Inv) (hs : s.deliver = some s') : s'.Inv := by
  simp only [Host.deliver] at hs
  split at hs
  · cases hs
  · next controlPort hd =>
    cases hs
    exact h.kept rfl rfl rfl rfl rfl (fun hx => hx) (fun _ => by rw [hd]; rfl) (fun _ => by rw [hd]; rfl)
  · next controlPort hd =>
    have hconn := h.associates (by rw [hd]; rfl)
    cases hs
    cases controlPort with
    | true => exact h.kept rfl rfl rfl rfl rfl (fun hx => by cases hx) (fun hx => by cases hx) (fun hx => by cases hx)
    | false =>
      refine ⟨fun _ => .inr ⟨hconn,rfl⟩,h.known,fun hx => (by cases hx),fun seen hs => ?_,h.sent⟩
      exact ⟨(h.passing seen hs).1,fun heq => heq⟩
  · next hd =>
    cases hs
    exact h.kept rfl rfl rfl rfl rfl (fun hx => hx) (fun _ => by rw [hd]; rfl) (fun hx => by cases hx)
  · cases hs
    exact h.kept rfl rfl rfl rfl rfl (fun hx => by cases hx) (fun hx => by cases hx) (fun hx => by cases hx)
  · cases hs
    exact h.kept rfl rfl rfl rfl rfl (fun hx => by cases hx) (fun hx => by cases hx) (fun hx => by cases hx)
  · next hd =>
    cases hs
    exact h.kept rfl rfl rfl rfl rfl (fun hx => hx) (fun _ => by rw [hd]; rfl) (fun hx => by cases hx)
  · cases hs
    exact h.kept rfl rfl rfl rfl rfl (fun hx => by cases hx) (fun hx => by cases hx) (fun hx => by cases hx)

theorem Inv.retire {s s' : Host} (h : s.Inv) (ha : admits s .retire = true) (hs : s.retire = some s') : s'.Inv := by
  have hport : s.portOpen = false := by simpa [admits] using ha
  simp only [Host.retire] at hs
  split at hs
  · next hd =>
    cases hs
    refine h.changed (.inl rfl) (Nat.le_refl _) rfl rfl (fun hx => ?_) (fun hx => ?_)
    · rw [hport] at hx
      cases hx
    · have hx : s.delivery.associates = true := hx
      rw [hd] at hx
      cases hx
  · cases hs

theorem Inv.setAuthorized {s s' : Host} {authorized : Bool} (h : s.Inv) (hs : s.setAuthorized authorized = some s') :
    s'.Inv := by
  simp only [Host.setAuthorized] at hs
  split at hs
  · cases hs
    exact h.kept rfl rfl rfl rfl rfl (fun hx => hx) (fun _ => rfl) (fun hx => hx)
  · cases hs

theorem Inv.authorizeResponse {s s' : Host} {ok : Bool} (h : s.Inv) (ha : admits s (.authorizeResponse ok) = true)
    (hs : s.authorizeResponse ok = some s') : s'.Inv := by
  simp only [Host.authorizeResponse] at hs
  split at hs
  · next seen authorized hw =>
    cases hs
    split
    · exact h.kept rfl rfl rfl rfl rfl (fun hx => hx) (fun _ => rfl) (fun hx => hx)
    · next hok =>
      cases authorized with
      | false => exact h.kept rfl rfl rfl rfl rfl (fun hx => by cases hx) (fun hx => by cases hx) (fun hx => hx)
      | true =>
        simp only [admits,hw,hok,Bool.false_or,Bool.and_eq_true,decide_eq_true_eq] at ha
        refine ⟨fun _ => .inr ⟨?_,?_⟩,h.known,h.associates,fun seen' hx => ?_,h.sent⟩
        · show s.conn.isSome = true
          rw [ha.2]
          exact ha.1
        · exact ha.2.symm
        · obtain ⟨hsome,-⟩ := h.passing seen' hx
          exact ⟨hsome,fun heq => ha.2.symm.trans heq⟩
  · cases hs

theorem Inv.authorizeOpened {s s' : Host} (h : s.Inv) (hs : s.authorizeOpened = some s') : s'.Inv := by
  simp only [Host.authorizeOpened] at hs
  split at hs
  · cases hs
    exact h.kept rfl rfl rfl rfl rfl (fun hx => hx) (fun _ => rfl) (fun hx => hx)
  · cases hs

theorem Inv.portClose {s s' : Host} (h : s.Inv) (hs : s.portClose = some s') : s'.Inv := by
  cases hs
  exact h.kept rfl rfl rfl rfl rfl (fun hx => by cases hx) (fun hx => by cases hx) (fun hx => hx)

theorem Inv.stop {s s' : Host} (h : s.Inv) (hs : s.stop = some s') : s'.Inv := by
  cases hs
  exact h.kept rfl rfl rfl rfl rfl (fun hx => hx) (fun _ => rfl) (fun hx => hx)

theorem Inv.processTxPacket {s s' : Host} (h : s.Inv) (ha : admits s .processTxPacket = true)
    (hs : s.processTxPacket = some s') : s'.Inv := by
  have hd : s.delivery = .idle := by simpa [admits] using ha
  simp only [Host.processTxPacket] at hs
  split at hs
  · cases hs
    split
    · next hopen =>
      obtain ⟨hconn,hgrant⟩ : s.conn.isSome = true ∧ s.grant = s.conn := by
        rcases h.granted (Bool.and_eq_true_iff.mp hopen).2 with hx | hx
        · rw [hd] at hx
          cases hx
        · exact hx
      refine ⟨h.granted,fun i hi => ?_,h.associates,fun seen hx => ?_,h.sent⟩
      · rcases hi with hi | hi
        · exact h.known i (.inl hi)
        · exact h.known i (.inl (Option.some.inj hi))
      · cases hx
        exact ⟨hconn,fun _ => hgrant⟩
    · exact h
  · cases hs

theorem Inv.sendPacket {s s' : Host} (h : s.Inv) (ha : admits s .sendPacket = true) (hs : s.sendPacket = some s') :
    s'.Inv := by
  simp only [Host.sendPacket] at hs
  split at hs
  · next seen hx =>
    have hconn : s.conn = seen := by simpa [admits,hx] using ha
    obtain ⟨hsome,hgrant⟩ := h.passing seen hx
    cases hs
    refine ⟨h.granted,fun i hi => ?_,h.associates,fun seen hx => (by cases hx),fun x hmem => ?_⟩
    · rcases hi with hi | hi
      · exact h.known i (.inl hi)
      · cases hi
    · rcases List.mem_cons.mp hmem with rfl | hmem
      · exact ⟨by rw [hconn]; exact hsome,(hgrant hconn).trans hconn.symm⟩
      · exact h.sent x hmem
  · cases hs

theorem step_inv {s s' : Host} {a : Act} (h : s.Inv) (ha : admits s a = true) (hs : s.step a = some s') : s'.Inv := by
  cases a with
  | assocDelivered controlPort => exact h.assocDelivered hs
  | assocFailed currentBss => exact h.assocFailed hs
  | disconnectDelivered => exact h.disconnectDelivered hs
  | disassociated => exact h.disassociated hs
  | deliver => exact h.deliver hs
  | retire => exact h.retire ha hs
  | setAuthorized authorized => exact h.setAuthorized hs
  | authorizeResponse ok => exact h.authorizeResponse ha hs
  | authorizeOpened => exact h.authorizeOpened hs
  | portClose => exact h.portClose hs
  | stop => exact h.stop hs
  | processTxPacket => exact h.processTxPacket ha hs
  | sendPacket => exact h.sendPacket ha hs

theorem init_inv : ({} : Host).Inv :=
  ⟨fun hx => (by cases hx),fun i hi => (by rcases hi with hi | hi <;> cases hi),fun hx => (by cases hx),
    fun seen hx => (by cases hx),fun x hx => by cases hx⟩

end Host

/-- Both sides; each acts on its own. -/
structure System where
  firmware : Firmware := {}
  host : Host := {}
  deriving DecidableEq, Repr

inductive Act where
  | firmware (a : Firmware.Act)
  | host (a : Host.Act)
  deriving DecidableEq, Repr

def step (s : System) : Act → Option System
  | .firmware a => (s.firmware.step a).map (fun f => {s with firmware := f})
  | .host a => (s.host.step a).map (fun h => {s with host := h})

def System.Safe (s : System) : Prop := s.firmware.Safe ∧ s.host.Safe

instance (s : System) : Decidable s.Safe := inferInstanceAs (Decidable (s.firmware.Safe ∧ s.host.Safe))

def admits (s : System) : Act → Bool
  | .firmware a => s.firmware.admits a
  | .host a => s.host.admits a

theorem step_inv {s s' : System} {a : Act} (h : s.firmware.Inv ∧ s.host.Inv) (ha : admits s a = true)
    (hs : step s a = some s') : s'.firmware.Inv ∧ s'.host.Inv := by
  cases a with
  | firmware a =>
    obtain ⟨f,hf,rfl⟩ := Option.map_eq_some_iff.mp hs
    exact ⟨Firmware.step_inv h.1 ha hf,h.2⟩
  | host a =>
    obtain ⟨x,hx,rfl⟩ := Option.map_eq_some_iff.mp hs
    exact ⟨h.1,Host.step_inv h.2 ha hx⟩

theorem controlled_port_safe (as : List Act) (s : System) (hok : Along step (fun s a => admits s a = true) {} as)
    (hs : exec step {} as = some s) : s.Safe := by
  have h := exec_invariant_along (I := fun s : System => s.firmware.Inv ∧ s.host.Inv)
    (fun _ _ _ hi ha hx => step_inv hi ha hx) hok ⟨Firmware.init_inv,Host.init_inv⟩ hs
  exact ⟨h.1.sent,h.2.safe⟩

/-- An association with a controlled port up to the end of its request, and up to its response. -/
def associating : List Act :=
  [.firmware .wifiStart,.firmware (.auth 5 {}),.firmware (.assocRequest 9 (some 5) true false),
   .firmware .assocPort,.firmware (.assocSend true),.firmware (.staRxAssoc false 5 true),.firmware .staRxAssocApply,
   .firmware .staConnected,.host (.assocDelivered true),.host .deliver,.host .deliver]

/-- It is authorized, frames are sent on both sides, and it ends. -/
def authorizedRun : List Act :=
  associating ++
  ([.firmware .data,.host .processTxPacket,.host (.setAuthorized true),.firmware (.setAuthorized true 5 none),
   .firmware (.authDone true),.host (.authorizeResponse true),.host .authorizeOpened,.host .processTxPacket,
   .host .sendPacket,.firmware .data,.firmware (.tx true),.firmware (.tx false),.firmware .staDisconnected,
   .firmware .handleStaDisconnected,.firmware .staDisconnectedEnd,.host .disconnectDelivered,.host .deliver,
   .host .deliver] : List Act)

theorem controlled_port_safe_authorized :
    (exec step {} authorizedRun).any (fun s => decide (s.firmware.sent = [some ⟨0,true,true⟩,some ⟨0,true,true⟩] ∧
      s.host.sent = [(some 0,some 0)] ∧ s.host.portOpen = false)) = true ∧
    ∃ s, exec step {} authorizedRun = some s ∧ s.Safe := by
  refine ⟨by decide +kernel,?_⟩
  cases hs : exec step {} authorizedRun with
  | none =>
    have hx : (exec step {} authorizedRun).isSome = true := by decide +kernel
    rw [hs] at hx
    cases hx
  | some s => exact ⟨s,rfl,controlled_port_safe authorizedRun s (by decide +kernel) hs⟩

/-- The connection is lost while the host waits for its authorization to be carried out. -/
def lostWhileAuthorizing : List Act :=
  associating ++ ([.host (.setAuthorized true),.host .disconnectDelivered,.host .deliver,.host .deliver,
   .host (.authorizeResponse true),.host .authorizeOpened] : List Act)

/-- The same inside the firmware; the next attempt then sends data before it is associated. -/
def lostInAuthDone : List Act :=
  associating ++
  ([.firmware (.setAuthorized true 5 none),.firmware .staDisconnected,.firmware .handleStaDisconnected,
   .firmware .staDisconnectedEnd,.firmware (.authDone true),.firmware (.auth 6 {}),.firmware .data,
   .firmware (.tx false)] : List Act)

theorem controlled_port_left_open :
    (exec step {} lostWhileAuthorizing).any
      (fun s => decide (¬ s.Safe ∧ s.host.portOpen = true ∧ s.host.stopData = false ∧ s.host.conn = none)) = true ∧
    (exec step {} lostInAuthDone).any (fun s => decide (¬ s.Safe ∧ s.firmware.sent = [none])) = true :=
  ⟨by decide +kernel,by decide +kernel⟩

end EspHosted.Port
