import Mathlib.Data.List.Basic
import EspHosted.Lib.Run
import EspHosted.Wire

/-!
Firmware update: the OTA commands of `cmd.c` over the OTA operations of ESP-IDF, and
`esp_start_ota` of the host.
-/

set_option autoImplicit false

namespace EspHosted.Ota
open EspHosted Run

inductive CmdStatus where
  | fail
  | success
  | invalid
  deriving DecidableEq, Repr

structure Entry (Part : Type) where
  handle : Nat
  part : Part
  wrote : Nat
  deriving DecidableEq, Repr

/-- The OTA operations of ESP-IDF and the flash under them. -/
structure Idf (Part : Type) where
  /-- What a partition holds from its start on. -/
  written : Part → Bytes
  /-- How often a partition has been written or erased. -/
  touches : Part → Nat
  /-- The partition of the next boot. -/
  boot : Part
  entries : List (Entry Part) := []
  lastHandle : Nat := 0

inductive WriteReply where
  | ok
  /-- The bytes that reached the flash before the error. -/
  | failed (part : Bytes)
  deriving DecidableEq, Repr

section Idf
variable {Part : Type}

/-- `OTA_WITH_SEQUENTIAL_WRITES` leaves erasing to the writes. -/
def espOtaBegin (f : Idf Part) (p : Part) : Idf Part :=
  {f with entries := ⟨f.lastHandle+1,p,0⟩ :: f.entries, lastHandle := f.lastHandle+1}

def espOtaAbort (f : Idf Part) (h : Nat) : Idf Part :=
  {f with entries := f.entries.filter (fun e => e.handle ≠ h)}

def Idf.program [DecidableEq Part] (f : Idf Part) (e : Entry Part) (data : Bytes) : Idf Part :=
  {f with
    written := Function.update f.written e.part ((f.written e.part).take e.wrote ++ data)
    touches := Function.update f.touches e.part (f.touches e.part+1)}

def espOtaWrite [DecidableEq Part] (f : Idf Part) (h : Nat) (data : Bytes) (r : WriteReply) : Idf Part × Bool :=
  match f.entries.find? (fun e => e.handle = h) with
  | none => (f,false)
  | some e =>
    match r with
    | .failed part => (f.program e part,false)
    | .ok =>
      ({f.program e data with
        entries := f.entries.map (fun x => if x.handle = h then {x with wrote := x.wrote+data.length} else x)},true)

/-- Fails for a handle that was never written to; the handle is gone in any case. -/
def espOtaEnd (f : Idf Part) (h : Nat) (valid : Bool) : Idf Part × Bool :=
  match f.entries.find? (fun e => e.handle = h) with
  | none => (f,false)
  | some e => (espOtaAbort f h,e.wrote ≠ 0 && valid)

/-- The globals `handle`, `update_partition` and `verify_ota`, and the reset timer. -/
structure Fw (Part : Type) where
  idf : Idf Part
  handle : Nat := 0
  updatePartition : Option Part := none
  verifyOta : Bool := false
  resetTimer : Bool := false

/-- `next`: the reply of `esp_ota_get_next_update_partition`; `begun`: that of `esp_ota_begin`. -/
def processOtaStart (s : Fw Part) (next : Option Part) (begun : Bool) : Fw Part × CmdStatus :=
  let idf := if s.handle = 0 then s.idf else espOtaAbort s.idf s.handle
  match next with
  | none => ({s with idf, handle := 0, updatePartition := none, verifyOta := false},.fail)
  | some p =>
    if begun then
      ({s with
        idf := espOtaBegin idf p, handle := idf.lastHandle+1, updatePartition := some p, verifyOta := false},.success)
    else ({s with idf, handle := 0, updatePartition := none, verifyOta := false},.fail)

def otaBinaryOffset : Nat := 10
/-- `sizeof(esp_image_header_t)` -/
def imageHeaderSize : Nat := 24

def otaBinaryLen (payload : Bytes) : Nat := le16ToCpu (payload.getD 8 0) (payload.getD 9 0)

def otaBinary (payload : Bytes) : Bytes := (payload.drop otaBinaryOffset).take (otaBinaryLen payload)

def cmdFlexLenValid (payloadLen fixedLen embeddedLen : Nat) : Bool :=
  fixedLen ≤ payloadLen && embeddedLen ≤ payloadLen-fixedLen

def verifyOtaImageHeader (chipId : Nat) (binary : Bytes) : Bool :=
  le16ToCpu (binary.getD 12 0) (binary.getD 13 0) = chipId

/-- The checks of `process_ota_write` in front of `esp_ota_write`. -/
def otaWriteCheck (chipId : Nat) (verifyOta : Bool) (payload : Bytes) : CmdStatus :=
  if payload.length < otaBinaryOffset then .invalid
  else if otaBinaryLen payload = 0 || !cmdFlexLenValid payload.length otaBinaryOffset (otaBinaryLen payload) ||
      (!verifyOta && otaBinaryLen payload < imageHeaderSize) then .invalid
  else if !verifyOta && !verifyOtaImageHeader chipId (otaBinary payload) then .fail
  else .success

/-- The `fail` label of `process_ota_write`. -/
def Fw.abandon (s : Fw Part) : Fw Part :=
  {s with
    idf := if s.handle = 0 then s.idf else espOtaAbort s.idf s.handle
    handle := 0
    updatePartition := none
    verifyOta := false}

def processOtaWrite [DecidableEq Part] (chipId : Nat) (s : Fw Part) (payload : Bytes) (r : WriteReply) :
    Fw Part × CmdStatus :=
  match otaWriteCheck chipId s.verifyOta payload with
  | .invalid => (s,.invalid)
  | .fail => (s.abandon,.fail)
  | .success =>
    let w := espOtaWrite s.idf s.handle (otaBinary payload) r
    if w.2 then ({s with idf := w.1, verifyOta := true},.success)
    else ({s with idf := w.1}.abandon,.fail)

/-- The replies of the calls of `process_ota_end`. -/
structure EndReply where
  valid : Bool := true
  timerCreated : Bool := true
  /-- `esp_ota_get_boot_partition` finds one. -/
  oldBoot : Bool := true
  bootSet : Bool := true
  timerStarted : Bool := true
  rolledBack : Bool := true
  deriving DecidableEq, Repr

inductive EndResult (Part : Type) where
  /-- The boot partition is what it was. -/
  | failed
  | rebooting (p : Part)
  /-- The timer did not start and there was nothing to roll back to. -/
  | noTimer (p : Part)
  /-- `esp_restart`, as the rollback failed too. -/
  | restarted (p : Part)
  deriving DecidableEq, Repr

def Fw.closed (s : Fw Part) : Fw Part := {s with handle := 0, updatePartition := none, verifyOta := false}

def processOtaEnd (s : Fw Part) (r : EndReply) : Fw Part × EndResult Part :=
  let e := espOtaEnd s.idf s.handle r.valid
  let s' := {s with idf := e.1}
  if !e.2 || !r.timerCreated then (s'.closed,.failed)
  else
    match s.updatePartition with
    -- esp_ota_set_boot_partition(NULL)
    | none => (s'.closed,.failed)
    | some p =>
      if !r.bootSet then (s'.closed,.failed)
      else if r.timerStarted then ({s' with idf.boot := p, resetTimer := true}.closed,.rebooting p)
      else if !r.oldBoot then ({s' with idf.boot := p}.closed,.noTimer p)
      else if r.rolledBack then (s'.closed,.failed)
      else ({s' with idf.boot := p}.closed,.restarted p)

def Fw.restart (s : Fw Part) : Fw Part :=
  {idf := {written := s.idf.written, touches := s.idf.touches, boot := s.idf.boot}}

inductive Act (Part : Type) where
  | start (next : Option Part) (begun : Bool)
  | write (payload : Bytes) (r : WriteReply)
  | finish (r : EndReply)
  | restart
  deriving DecidableEq, Repr

/-- A partition selected for the next boot, as it was at that moment. -/
structure Selection (Part : Type) where
  part : Part
  content : Bytes
  touches : Nat
  received : List Bytes
  refused : Bool
  deriving DecidableEq, Repr

/-- The firmware with a record of the commands since the last `OTA_START` and of what was selected. -/
structure Trace (Part : Type) where
  fw : Fw Part
  received : List Bytes := []
  refused : Bool := false
  history : List (Selection Part) := []
  /-- Selections of this incarnation. -/
  live : List (Selection Part) := []

def Trace.selection (t : Trace Part) (f : Idf Part) (p : Part) : Selection Part :=
  ⟨p,f.written p,f.touches p,t.received,t.refused⟩

def Trace.finish (t : Trace Part) (s : Fw Part) : EndResult Part → Trace Part
  | .failed => {t with fw := s}
  | .rebooting p | .noTimer p =>
    {t with
      fw := s
      history := t.selection s.idf p :: t.history
      live := t.selection s.idf p :: t.live}
  | .restarted p => {t with fw := s.restart, history := t.selection s.idf p :: t.history, live := []}

def step [DecidableEq Part] (chipId : Nat) (t : Trace Part) : Act Part → Option (Trace Part)
  | .start next begun => some {t with fw := (processOtaStart t.fw next begun).1, received := [], refused := false}
  | .write payload r =>
    let w := processOtaWrite chipId t.fw payload r
    some {t with
      fw := w.1
      received := t.received ++ [otaBinary payload]
      refused := t.refused || decide (w.2 ≠ .success)}
  | .finish r => some (t.finish (processOtaEnd t.fw r).1 (processOtaEnd t.fw r).2)
  | .restart => some {t with fw := t.fw.restart, live := []}

def boot (f : Idf Part) : Trace Part := {fw := Fw.restart {idf := f}}

/-- What was selected is what was received, and has been left alone since. -/
structure Trace.Safe (t : Trace Part) : Prop where
  whole : ∀ x ∈ t.history, x.content = x.received.flatten ∧ x.refused = false
  untouched : ∀ x ∈ t.live, t.fw.idf.touches x.part = x.touches

instance [DecidableEq Part] (t : Trace Part) : Decidable t.Safe :=
  decidable_of_iff
    ((∀ x ∈ t.history, x.content = x.received.flatten ∧ x.refused = false) ∧
      ∀ x ∈ t.live, t.fw.idf.touches x.part = x.touches)
    ⟨fun h => ⟨h.1,h.2⟩,fun h => ⟨h.whole,h.untouched⟩⟩

/-- The replies with which `process_ota_end` leaves the new partition selected. -/
def EndReply.selects (r : EndReply) : Bool :=
  r.valid && r.timerCreated && r.bootSet && (r.timerStarted || !r.oldBoot || !r.rolledBack)

/-- No `OTA_END` that goes through behind a refused `OTA_WRITE`, no `OTA_WRITE` to a partition
that is selected already. -/
def admits [DecidableEq Part] (chipId : Nat) (t : Trace Part) : Act Part → Bool
  | .start _ _ | .restart => true
  | .write payload _ =>
    t.fw.handle = 0 || otaWriteCheck chipId t.fw.verifyOta payload ≠ .success ||
      t.live.all (fun x => t.fw.updatePartition ≠ some x.part)
  | .finish r => t.fw.handle = 0 || !t.refused || !r.selects

/-- The one handle that can be open is that of the firmware's own transaction. -/
def Fw.Owned (s : Fw Part) : Prop :=
  (s.handle = 0 ∧ s.idf.entries = []) ∨
    ∃ p n, s.handle ≠ 0 ∧ s.updatePartition = some p ∧ s.idf.entries = [⟨s.handle,p,n⟩]

/-- A transaction without a refused write holds what it received. -/
def Trace.Filled (t : Trace Part) : Prop :=
  t.refused = false → ∀ e ∈ t.fw.idf.entries, e.wrote = t.received.flatten.length ∧
    (e.wrote ≠ 0 → t.fw.idf.written e.part = t.received.flatten)

structure Trace.Inv (t : Trace Part) : Prop where
  owned : t.fw.Owned
  filled : t.Filled
  safe : t.Safe

@[simp] theorem espOtaAbort_touches (f : Idf Part) (h : Nat) : (espOtaAbort f h).touches = f.touches := rfl

@[simp] theorem espOtaAbort_written (f : Idf Part) (h : Nat) : (espOtaAbort f h).written = f.written := rfl

theorem Fw.Owned.aborted {s : Fw Part} (h : s.Owned) :
    (if s.handle = 0 then s.idf else espOtaAbort s.idf s.handle).entries = [] := by
  rcases h with ⟨h0,he⟩ | ⟨p,n,h0,-,he⟩
  · simp [h0,he]
  · simp [h0,espOtaAbort,he]

theorem aborted_touches (s : Fw Part) :
    (if s.handle = 0 then s.idf else espOtaAbort s.idf s.handle).touches = s.idf.touches := by
  split <;> rfl

theorem processOtaStart_owned {s : Fw Part} (h : s.Owned) (next : Option Part) (begun : Bool) :
    (processOtaStart s next begun).1.Owned := by
  have he := h.aborted
  unfold processOtaStart
  cases next with
  | none => exact .inl ⟨rfl,he⟩
  | some p =>
    cases begun with
    | false => exact .inl ⟨rfl,he⟩
    | true =>
      refine .inr ⟨p,0,?_⟩
      simp [espOtaBegin,he]

theorem processOtaStart_touches (s : Fw Part) (next : Option Part) (begun : Bool) :
    (processOtaStart s next begun).1.idf.touches = s.idf.touches := by
  have ht := aborted_touches s
  unfold processOtaStart
  cases next with
  | none => exact ht
  | some p =>
    cases begun with
    | false => exact ht
    | true => exact ht

/-- Behind `OTA_START` a handle, if there is one, has not been written to. -/
theorem processOtaStart_entries {s : Fw Part} (h : s.Owned) (next : Option Part) (begun : Bool) :
    ∀ e ∈ (processOtaStart s next begun).1.idf.entries, e.wrote = 0 := by
  have he := h.aborted
  unfold processOtaStart
  cases next with
  | none => simp [he]
  | some p =>
    cases begun with
    | false => simp [he]
    | true => simp [espOtaBegin,he]

theorem Fw.Owned.abandon {s : Fw Part} (h : s.Owned) :
    s.abandon.handle = 0 ∧ s.abandon.idf.entries = [] ∧ s.abandon.idf.touches = s.idf.touches :=
  ⟨rfl,h.aborted,aborted_touches s⟩

/-- `OTA_END`: either nothing is selected, or the partition of the one open handle is. -/
theorem processOtaEnd_cases {s : Fw Part} (h : s.Owned) (r : EndReply) :
    (processOtaEnd s r).1.handle = 0 ∧ (processOtaEnd s r).1.idf.entries = [] ∧
    (processOtaEnd s r).1.idf.touches = s.idf.touches ∧ (processOtaEnd s r).1.idf.written = s.idf.written ∧
    ((processOtaEnd s r).2 = .failed ∨
      ∃ p n, s.handle ≠ 0 ∧ s.idf.entries = [⟨s.handle,p,n⟩] ∧ n ≠ 0 ∧ r.selects = true ∧
        ((processOtaEnd s r).2 = .rebooting p ∨ (processOtaEnd s r).2 = .noTimer p ∨
          (processOtaEnd s r).2 = .restarted p)) := by
  rcases h with ⟨h0,he⟩ | ⟨p,n,h0,hp,he⟩
  · simp [processOtaEnd,espOtaEnd,he,Fw.closed]
  · obtain ⟨valid,created,old,set,started,rolled⟩ := r
    have hn : espOtaEnd s.idf s.handle valid = (espOtaAbort s.idf s.handle,n ≠ 0 && valid) := by
      simp [espOtaEnd,he]
    have ha : (espOtaAbort s.idf s.handle).entries = [] := by simp [espOtaAbort,he]
    by_cases hfail : (!(n ≠ 0 && valid) || !created) = true
    · simp only [processOtaEnd,hn,hfail,if_true,Fw.closed]
      exact ⟨trivial,ha,rfl,rfl,.inl trivial⟩
    · simp only [processOtaEnd,hn,if_neg hfail,hp]
      simp only [Bool.or_eq_true,Bool.not_eq_true',Bool.and_eq_false_iff,decide_eq_false_iff_not,not_not] at hfail
      have hn0 : n ≠ 0 := fun hx => hfail (.inl (.inl hx))
      have hv : valid = true := by
        cases valid with
        | true => rfl
        | false => exact absurd (.inl (.inr rfl)) hfail
      have hcr : created = true := by
        cases created with
        | true => rfl
        | false => exact absurd (.inr rfl) hfail
      cases set <;> cases started <;> cases old <;> cases rolled <;>
        simp [Fw.closed,ha,EndReply.selects,hv,hcr,h0,he,hn0]

theorem start_inv {t : Trace Part} (h : t.Inv) (next : Option Part) (begun : Bool) :
    Trace.Inv {t with fw := (processOtaStart t.fw next begun).1, received := [], refused := false} where
  owned := processOtaStart_owned h.owned next begun
  filled := by
    intro _ e he
    have h0 := processOtaStart_entries h.owned next begun e he
    exact ⟨h0,fun hx => absurd h0 hx⟩
  safe := ⟨h.safe.whole,fun x hx => by
    have ht := processOtaStart_touches t.fw next begun
    simp only [ht]
    exact h.safe.untouched x hx⟩

theorem finish_inv {t : Trace Part} (h : t.Inv) (r : EndReply)
    (hok : t.fw.handle = 0 ∨ t.refused = false ∨ r.selects = false) :
    (t.finish (processOtaEnd t.fw r).1 (processOtaEnd t.fw r).2).Inv := by
  obtain ⟨h0,he,ht,hw,hcase⟩ := processOtaEnd_cases h.owned r
  have howned : (processOtaEnd t.fw r).1.Owned := .inl ⟨h0,he⟩
  have huntouched : ∀ x ∈ t.live, (processOtaEnd t.fw r).1.idf.touches x.part = x.touches := by
    rw [ht]
    exact h.safe.untouched
  rcases hcase with hf | ⟨p,n,hh,hentry,hn,hsel,hcase⟩
  · rw [hf]
    exact ⟨howned,fun _ e hmem => by simp [Trace.finish,he] at hmem,h.safe.whole,huntouched⟩
  · have hrefused : t.refused = false := by
      rcases hok with hx | hx | hx
      · exact absurd hx hh
      · exact hx
      · rw [hsel] at hx
        cases hx
    obtain ⟨-,hwr⟩ := h.filled hrefused ⟨t.fw.handle,p,n⟩ (by simp [hentry])
    have hwhole : ∀ x ∈ t.selection (processOtaEnd t.fw r).1.idf p :: t.history,
        x.content = x.received.flatten ∧ x.refused = false := by
      intro x hx
      rcases List.mem_cons.mp hx with rfl | hx
      · exact ⟨by simpa [Trace.selection,hw] using hwr hn,hrefused⟩
      · exact h.safe.whole x hx
    have hlive : ∀ x ∈ t.selection (processOtaEnd t.fw r).1.idf p :: t.live,
        (processOtaEnd t.fw r).1.idf.touches x.part = x.touches := by
      intro x hx
      rcases List.mem_cons.mp hx with rfl | hx
      · rfl
      · exact huntouched x hx
    rcases hcase with hr | hr | hr
    · rw [hr]
      exact ⟨howned,fun _ e hmem => by simp [Trace.finish,he] at hmem,hwhole,hlive⟩
    · rw [hr]
      exact ⟨howned,fun _ e hmem => by simp [Trace.finish,he] at hmem,hwhole,hlive⟩
    · rw [hr]
      exact ⟨.inl ⟨rfl,rfl⟩,fun _ e hmem => by simp [Trace.finish,Fw.restart] at hmem,hwhole,
        fun x hx => by simp [Trace.finish] at hx⟩

theorem boot_inv (f : Idf Part) : (boot f).Inv :=
  ⟨.inl ⟨rfl,rfl⟩,fun _ e hmem => by simp [boot,Fw.restart] at hmem,fun x hx => by simp [boot] at hx,
    fun x hx => by simp [boot] at hx⟩

variable [DecidableEq Part]

/-- What `esp_ota_write` does for the firmware's own handle. -/
theorem espOtaWrite_own (f : Idf Part) {h n : Nat} {p : Part} (he : f.entries = [⟨h,p,n⟩]) (data : Bytes) :
    ∀ r, espOtaWrite f h data r =
      match r with
      | .ok => ({f.program ⟨h,p,n⟩ data with entries := [⟨h,p,n+data.length⟩]},true)
      | .failed part => (f.program ⟨h,p,n⟩ part,false)
  | .ok => by simp [espOtaWrite,he]
  | .failed part => by simp [espOtaWrite,he]

theorem espOtaWrite_none {f : Idf Part} (he : f.entries = []) (h : Nat) (data : Bytes) (r : WriteReply) :
    espOtaWrite f h data r = (f,false) := by
  simp [espOtaWrite,he]

theorem program_touches (f : Idf Part) (e : Entry Part) (data : Bytes) {q : Part} (h : q ≠ e.part) :
    (f.program e data).touches q = f.touches q := by
  simp [Idf.program,Function.update_of_ne h]

/-- `OTA_WRITE`, by its outcome. -/
theorem processOtaWrite_cases (chipId : Nat) {s : Fw Part} (h : s.Owned) (payload : Bytes) (r : WriteReply) :
    processOtaWrite chipId s payload r = (s,.invalid) ∨
    ((processOtaWrite chipId s payload r).2 = .fail ∧
      (processOtaWrite chipId s payload r).1.handle = 0 ∧
      (processOtaWrite chipId s payload r).1.idf.entries = [] ∧
      ((processOtaWrite chipId s payload r).1.idf.touches = s.idf.touches ∨
        s.handle ≠ 0 ∧ otaWriteCheck chipId s.verifyOta payload = .success ∧
        ∃ e part, s.updatePartition = some e.part ∧
          (processOtaWrite chipId s payload r).1.idf.touches = (s.idf.program e part).touches)) ∨
    ∃ p n, s.handle ≠ 0 ∧ s.updatePartition = some p ∧ s.idf.entries = [⟨s.handle,p,n⟩] ∧
      otaWriteCheck chipId s.verifyOta payload = .success ∧
      processOtaWrite chipId s payload r =
        ({s with
          idf := {s.idf.program ⟨s.handle,p,n⟩ (otaBinary payload) with
            entries := [⟨s.handle,p,n+(otaBinary payload).length⟩]}
          verifyOta := true},.success) := by
  unfold processOtaWrite
  cases hc : otaWriteCheck chipId s.verifyOta payload with
  | invalid => exact .inl rfl
  | fail =>
    obtain ⟨h0,he,ht⟩ := h.abandon
    exact .inr (.inl ⟨rfl,h0,he,.inl ht⟩)
  | success =>
    right
    rcases h with ⟨h0,he⟩ | ⟨p,n,h0,hp,he⟩
    · left
      simp [espOtaWrite_none he,Fw.abandon,h0,he]
    · cases r with
      | ok =>
        right
        simp only [espOtaWrite_own s.idf he,if_true]
        exact ⟨p,n,h0,hp,he,trivial,rfl⟩
      | failed part =>
        left
        simp only [espOtaWrite_own s.idf he,Bool.false_eq_true,if_false]
        refine ⟨trivial,rfl,?_,.inr ⟨h0,trivial,⟨s.handle,p,n⟩,part,hp,?_⟩⟩
        · simp [Fw.abandon,h0,espOtaAbort,Idf.program,he]
        · simp [Fw.abandon,h0]

theorem program_filled {f : Idf Part} {h n : Nat} {p : Part} {received : List Bytes} (data : Bytes)
    (hn : n = received.flatten.length) (hw : n ≠ 0 → f.written p = received.flatten) :
    (f.program ⟨h,p,n⟩ data).written p = (received ++ [data]).flatten := by
  rw [List.flatten_append,List.flatten_singleton]
  simp only [Idf.program,Function.update_self]
  by_cases h0 : n = 0
  · have he : received.flatten = [] := List.length_eq_zero_iff.mp (by omega)
    rw [h0,he,List.take_zero]
  · rw [hw h0,hn,List.take_length]

theorem write_inv {chipId : Nat} {t : Trace Part} (h : t.Inv) (payload : Bytes) (r : WriteReply)
    (hok : admits chipId t (.write payload r) = true) :
    Trace.Inv {t with
      fw := (processOtaWrite chipId t.fw payload r).1
      received := t.received ++ [otaBinary payload]
      refused := t.refused || decide ((processOtaWrite chipId t.fw payload r).2 ≠ .success)} := by
  -- a write that reaches the flash goes to the partition of the handle, which is not selected
  have hfree : t.fw.handle ≠ 0 → otaWriteCheck chipId t.fw.verifyOta payload = .success →
      ∀ x ∈ t.live, t.fw.updatePartition ≠ some x.part := by
    intro h0 hc x hx
    simp only [admits,h0,hc,Bool.or_eq_true,decide_eq_true_eq,ne_eq,not_true,false_or,List.all_eq_true] at hok
    exact hok x hx
  have htouch : ∀ (e : Entry Part) (data : Bytes), t.fw.handle ≠ 0 →
      otaWriteCheck chipId t.fw.verifyOta payload = .success → t.fw.updatePartition = some e.part →
      ∀ x ∈ t.live, (t.fw.idf.program e data).touches x.part = x.touches := by
    intro e data h0 hc hp x hx
    rw [program_touches]
    · exact h.safe.untouched x hx
    · intro heq
      exact hfree h0 hc x hx (heq ▸ hp)
  rcases processOtaWrite_cases chipId h.owned payload r with hw | ⟨hw,h0,he,ht⟩ | ⟨p,n,h0,hp,he,hc,hw⟩
  · rw [hw]
    exact ⟨h.owned,fun hx => by simp at hx,h.safe.whole,h.safe.untouched⟩
  · refine ⟨.inl ⟨h0,he⟩,fun hx => by simp [hw] at hx,h.safe.whole,fun x hx => ?_⟩
    rcases ht with ht | ⟨hh,hc,e,part,hp,ht⟩
    · simp only [ht]
      exact h.safe.untouched x hx
    · simp only [ht]
      exact htouch e part hh hc hp x hx
  · rw [hw]
    refine ⟨.inr ⟨p,_,h0,hp,rfl⟩,fun hx e hmem => ?_,h.safe.whole,fun x hx => ?_⟩
    · simp only [ne_eq,not_true,decide_false,Bool.or_false] at hx
      obtain ⟨hn,hwr⟩ : n = t.received.flatten.length ∧ (n ≠ 0 → t.fw.idf.written p = t.received.flatten) :=
        h.filled hx ⟨t.fw.handle,p,n⟩ (by simp [he])
      simp only [List.mem_singleton] at hmem
      subst hmem
      refine ⟨?_,fun _ => program_filled _ hn hwr⟩
      simp only [List.flatten_append,List.flatten_singleton,List.length_append]
      omega
    · exact htouch ⟨t.fw.handle,p,n⟩ (otaBinary payload) h0 hc hp x hx

theorem step_inv {chipId : Nat} {t t' : Trace Part} {a : Act Part} (h : t.Inv)
    (hok : admits chipId t a = true) (hs : step chipId t a = some t') : t'.Inv := by
  cases a with
  | start next begun =>
    cases hs
    exact start_inv h next begun
  | write payload r =>
    cases hs
    exact write_inv h payload r hok
  | finish r =>
    cases hs
    refine finish_inv h r ?_
    simpa [admits,or_assoc] using hok
  | restart =>
    cases hs
    exact ⟨.inl ⟨rfl,rfl⟩,fun _ e hmem => by simp [Fw.restart] at hmem,h.safe.whole,fun x hx => by simp at hx⟩

end Idf

def OTA_CHUNK_SIZE : Nat := 1016

/-- The state bits `esp_ota_finish_or_recover` reads. -/
structure Flags where
  unloading : Bool := false
  removing : Bool := false
  resetExpected : Bool := false
  deriving DecidableEq, Repr

inductive Recovery where
  | none
  | requested
  /-- `ESP_FW_RESET_EXPECTED` was set already. -/
  | expected
  deriving DecidableEq, Repr

/-- `esp_schedule_fw_reset_recovery` and `esp_request_firmware_restart` behind their guards. -/
def otaRecover (f : Flags) : Recovery :=
  if f.unloading || f.removing then .none
  else if f.resetExpected then .expected
  else .requested

/-- `priv`: the station interface exists. -/
def espOtaFinishOrRecover (priv : Bool) (f : Flags) (ret : Int) : Recovery :=
  if ret = 0 || !priv then .none else otaRecover f

/-- What one command meets: the interface, an error `-(e+1)` of `prepare_command_request`, the
decoded response and the state bits at the end. -/
structure CmdReply where
  priv : Bool := true
  prepareErr : Option Nat := .none
  ret : Int := 0
  flags : Flags := {}
  deriving DecidableEq, Repr

inductive Sent where
  | start
  | write (data : Bytes)
  | finish
  deriving DecidableEq, Repr

structure CmdResult where
  ret : Int
  sent : List Sent := []
  recovery : Recovery := .none
  deriving DecidableEq, Repr

/-- Unlike the other stages it does not recover when it could not be prepared. -/
def cmdProcessOtaStart (r : CmdReply) : CmdResult :=
  if !r.priv then {ret := -EINVAL}
  else
    match r.prepareErr with
    | some e => {ret := -(e+1)}
    | .none => {ret := r.ret, sent := [.start], recovery := espOtaFinishOrRecover r.priv r.flags r.ret}

def cmdProcessOtaWrite (r : CmdReply) (chunk : Bytes) : CmdResult :=
  if !r.priv then {ret := -EINVAL}
  else if OTA_CHUNK_SIZE < chunk.length then
    {ret := -EINVAL, recovery := espOtaFinishOrRecover r.priv r.flags (-EINVAL)}
  else
    match r.prepareErr with
    | some e => {ret := -(e+1), recovery := espOtaFinishOrRecover r.priv r.flags (-(e+1))}
    | .none => {ret := r.ret, sent := [.write chunk], recovery := espOtaFinishOrRecover r.priv r.flags r.ret}

def cmdProcessOtaEnd (r : CmdReply) : CmdResult :=
  if !r.priv then {ret := -EINVAL}
  else
    match r.prepareErr with
    | some e => {ret := -(e+1), recovery := espOtaFinishOrRecover r.priv r.flags (-(e+1))}
    | .none => {ret := r.ret, sent := [.finish], recovery := espOtaFinishOrRecover r.priv r.flags r.ret}

inductive ReadReply where
  /-- `esp_kernel_read` returns `-(e+1)`. -/
  | error (e : Nat)
  | ok (n : Nat)
  deriving DecidableEq, Repr

structure Turn where
  read : ReadReply
  /-- The state bits when the read returns. -/
  flags : Flags := {}
  cmd : CmdReply := {}
  deriving DecidableEq, Repr

/-- `esp_ota_host_read_failed` in `esp_kernel_read`, then `esp_ota_finish_or_recover`. -/
def readFailed (priv : Bool) (f : Flags) (ret : Int) : Recovery :=
  match otaRecover f with
  | .requested => .requested
  | .expected => .expected
  | .none => espOtaFinishOrRecover priv f ret

structure HostRun where
  ret : Int
  sent : List Sent
  recovery : Recovery
  deriving DecidableEq, Repr

/-- The loop of `esp_start_ota` from turn `i` on, with `rest` of the file left to read and `sent` sent. -/
def otaLoop (turns : Nat → Turn) (last : CmdReply) : Nat → Nat → Bytes → List Sent → Option HostRun
  | 0, _, _, _ => .none
  | fuel+1, i, rest, sent =>
    match (turns i).read with
    | .error e => some ⟨-(e+1),sent,readFailed (turns i).cmd.priv (turns i).flags (-(e+1))⟩
    | .ok n =>
      let nread := min n (min OTA_CHUNK_SIZE rest.length)
      if nread = 0 then
        let r := cmdProcessOtaEnd last
        some ⟨r.ret,sent ++ r.sent,r.recovery⟩
      else
        let w := cmdProcessOtaWrite (turns i).cmd (rest.take nread)
        if w.ret ≠ 0 then some ⟨w.ret,sent ++ w.sent,w.recovery⟩
        else if nread < OTA_CHUNK_SIZE then
          let r := cmdProcessOtaEnd last
          some ⟨r.ret,sent ++ w.sent ++ r.sent,r.recovery⟩
        else otaLoop turns last fuel (i+1) (rest.drop nread) (sent ++ w.sent)

/-- The results of the other calls of `esp_start_ota`. -/
structure HostEnv where
  chunkAllocated : Bool := true
  fileOpened : Bool := true
  start : CmdReply := {}
  turns : Nat → Turn
  last : CmdReply := {}

def espStartOta (env : HostEnv) (file : Bytes) : Option HostRun :=
  if !env.chunkAllocated then some ⟨-ENOMEM,[],.none⟩
  else if !env.fileOpened then some ⟨-EINVAL,[],.none⟩
  else
    let r := cmdProcessOtaStart env.start
    if r.ret ≠ 0 then some ⟨r.ret,r.sent,r.recovery⟩
    else otaLoop env.turns env.last (file.length+1) 0 file r.sent

def Sent.data : Sent → Bytes
  | .write d => d
  | _ => []

/-- `OTA_END` only behind the whole file; without it a reset, unless nothing was started. -/
structure HostRun.Safe (file : Bytes) (r : HostRun) : Prop where
  whole : .finish ∈ r.sent → (r.sent.flatMap Sent.data) = file
  reset : .finish ∉ r.sent → r.recovery ≠ .none ∨ .start ∉ r.sent

instance (file : Bytes) (r : HostRun) : Decidable (r.Safe file) :=
  decidable_of_iff
    ((.finish ∈ r.sent → r.sent.flatMap Sent.data = file) ∧
      (.finish ∉ r.sent → r.recovery ≠ .none ∨ .start ∉ r.sent))
    ⟨fun h => ⟨h.1,h.2⟩,fun h => ⟨h.whole,h.reset⟩⟩

def Flags.up (f : Flags) : Prop := f.unloading = false ∧ f.removing = false

/-- The interface is there, and the driver is not going away while the command fails. -/
def CmdReply.Fine (r : CmdReply) : Prop := r.priv = true ∧ (r.ret ≠ 0 ∨ r.prepareErr ≠ .none → r.flags.up)

/-- Reads are short at the end of the file only; failures meet a driver that stays. -/
structure HostEnv.Fine (env : HostEnv) (file : Bytes) : Prop where
  full : ∀ i n, (env.turns i).read = .ok n → min OTA_CHUNK_SIZE (file.length-OTA_CHUNK_SIZE*i) ≤ n
  read : ∀ i e, (env.turns i).read = .error e → (env.turns i).flags.up
  start : env.start.ret ≠ 0 → env.start.flags.up
  write : ∀ i, (env.turns i).cmd.Fine
  last : env.last.Fine

theorem otaRecover_up {f : Flags} (h : f.up) : otaRecover f ≠ .none := by
  simp only [otaRecover,h.1,h.2,Bool.or_self,Bool.false_eq_true,if_false]
  split <;> simp

theorem espOtaFinishOrRecover_up {f : Flags} {ret : Int} (h : f.up) (hr : ret ≠ 0) :
    espOtaFinishOrRecover true f ret ≠ .none := by
  simpa [espOtaFinishOrRecover,hr] using otaRecover_up h

theorem cmdProcessOtaEnd_cases {r : CmdReply} (h : r.Fine) :
    (cmdProcessOtaEnd r).sent = [.finish] ∨
      (cmdProcessOtaEnd r).sent = [] ∧ (cmdProcessOtaEnd r).recovery ≠ .none := by
  cases he : r.prepareErr with
  | none => simp [cmdProcessOtaEnd,h.1,he]
  | some e =>
    right
    have hup := h.2 (.inr (by simp [he]))
    simp only [cmdProcessOtaEnd,h.1,he,Bool.not_true,Bool.false_eq_true,if_false]
    exact ⟨trivial,espOtaFinishOrRecover_up hup (by omega)⟩

theorem cmdProcessOtaWrite_cases {r : CmdReply} (h : r.Fine) {chunk : Bytes} (hc : chunk.length ≤ OTA_CHUNK_SIZE) :
    ((cmdProcessOtaWrite r chunk).ret = 0 ∧ (cmdProcessOtaWrite r chunk).sent = [.write chunk]) ∨
      ((cmdProcessOtaWrite r chunk).ret ≠ 0 ∧ .finish ∉ (cmdProcessOtaWrite r chunk).sent ∧
        (cmdProcessOtaWrite r chunk).recovery ≠ .none) := by
  have hle : ¬ OTA_CHUNK_SIZE < chunk.length := by omega
  cases he : r.prepareErr with
  | none =>
    simp only [cmdProcessOtaWrite,h.1,he,hle,Bool.not_true,Bool.false_eq_true,if_false]
    by_cases hr : r.ret = 0
    · exact .inl ⟨hr,trivial⟩
    · exact .inr ⟨hr,by simp,espOtaFinishOrRecover_up (h.2 (.inl hr)) hr⟩
  | some e =>
    have hup := h.2 (.inr (by simp [he]))
    simp only [cmdProcessOtaWrite,h.1,he,hle,Bool.not_true,Bool.false_eq_true,if_false]
    exact .inr ⟨by omega,by simp,espOtaFinishOrRecover_up hup (by omega)⟩

/-- The end of the loop behind the whole file. -/
theorem end_safe {r : CmdReply} (h : r.Fine) {file : Bytes} {sent : List Sent} (hf : .finish ∉ sent)
    (hw : sent.flatMap Sent.data = file) :
    HostRun.Safe file ⟨(cmdProcessOtaEnd r).ret,sent ++ (cmdProcessOtaEnd r).sent,(cmdProcessOtaEnd r).recovery⟩ := by
  rcases cmdProcessOtaEnd_cases h with hs | ⟨hs,hr⟩
  · exact ⟨fun _ => by simp [hs,hw,Sent.data],fun hx => by simp [hs] at hx⟩
  · exact ⟨fun hx => by simp [hs,hf] at hx,fun _ => .inl hr⟩

/-- A stage that fails with a recovery, before `OTA_END`. -/
theorem failed_safe {file : Bytes} {ret : Int} {sent : List Sent} {v : Recovery} (hf : .finish ∉ sent)
    (hv : v ≠ .none) : HostRun.Safe file ⟨ret,sent,v⟩ :=
  ⟨fun hx => absurd hx hf,fun _ => .inl hv⟩

/-- Induction on the turns left: what was sent and what is left to read make up the file. -/
theorem otaLoop_safe {env : HostEnv} {file : Bytes} (hfine : env.Fine file) (fuel i : Nat) (rest : Bytes)
    (sent : List Sent) (hfuel : rest.length < fuel) (hlen : rest.length = file.length-OTA_CHUNK_SIZE*i)
    (hf : .finish ∉ sent) (hw : sent.flatMap Sent.data ++ rest = file) :
    ∃ r, otaLoop env.turns env.last fuel i rest sent = some r ∧ r.Safe file := by
  induction fuel generalizing i rest sent with
  | zero => omega
  | succ fuel ih =>
    cases hr : (env.turns i).read with
    | error e =>
      simp only [otaLoop,hr]
      refine ⟨_,rfl,failed_safe hf ?_⟩
      have hup := otaRecover_up (hfine.read i e hr)
      unfold readFailed
      cases ho : otaRecover (env.turns i).flags with
      | requested => simp
      | expected => simp
      | none => exact absurd ho hup
    | ok n =>
      have hn : min n (min OTA_CHUNK_SIZE rest.length) = min OTA_CHUNK_SIZE rest.length := by
        have := hfine.full i n hr
        rw [hlen]
        omega
      simp only [otaLoop,hr,hn]
      by_cases h0 : min OTA_CHUNK_SIZE rest.length = 0
      · have hnil : rest = [] := by
          have : rest.length = 0 := by simp only [OTA_CHUNK_SIZE] at h0; omega
          exact List.length_eq_zero_iff.mp this
        rw [if_pos h0]
        refine ⟨_,rfl,end_safe hfine.last hf ?_⟩
        simpa [hnil] using hw
      · rw [if_neg h0]
        have hchunk : (rest.take (min OTA_CHUNK_SIZE rest.length)).length ≤ OTA_CHUNK_SIZE := by
          rw [List.length_take]
          omega
        rcases cmdProcessOtaWrite_cases (hfine.write i) hchunk with ⟨hret,hs⟩ | ⟨hret,hs,hv⟩
        · have hdata : (sent ++ [Sent.write (rest.take (min OTA_CHUNK_SIZE rest.length))]).flatMap Sent.data ++
              rest.drop (min OTA_CHUNK_SIZE rest.length) = file := by
            simp only [List.flatMap_append,List.flatMap_singleton,Sent.data,List.append_assoc,List.take_append_drop]
            exact hw
          have hnf : Sent.finish ∉ sent ++ [Sent.write (rest.take (min OTA_CHUNK_SIZE rest.length))] := by
            simp [hf]
          rw [if_neg (not_not.mpr hret),hs]
          by_cases hshort : min OTA_CHUNK_SIZE rest.length < OTA_CHUNK_SIZE
          · rw [if_pos hshort]
            refine ⟨_,rfl,end_safe hfine.last hnf ?_⟩
            have hall : rest.drop (min OTA_CHUNK_SIZE rest.length) = [] := List.drop_eq_nil_of_le (by omega)
            rwa [hall,List.append_nil] at hdata
          · rw [if_neg hshort]
            refine ih (i+1) _ _ ?_ ?_ hnf hdata
            · rw [List.length_drop]
              omega
            · rw [List.length_drop]
              simp only [OTA_CHUNK_SIZE] at *
              omega
        · rw [if_pos hret]
          exact ⟨_,rfl,failed_safe (by simp [hf,hs]) hv⟩

theorem espStartOta_safe {env : HostEnv} {file : Bytes} (hfine : env.Fine file) :
    ∃ r, espStartOta env file = some r ∧ r.Safe file := by
  have hidle : ∀ ret, HostRun.Safe file ⟨ret,[],.none⟩ := fun ret => ⟨fun hx => by simp at hx,fun _ => .inr (by simp)⟩
  unfold espStartOta
  cases env.chunkAllocated with
  | false => exact ⟨_,rfl,hidle _⟩
  | true =>
    cases env.fileOpened with
    | false => exact ⟨_,rfl,hidle _⟩
    | true =>
      simp only [Bool.not_true,Bool.false_eq_true,if_false]
      cases hp : env.start.priv with
      | false =>
        exact ⟨⟨-EINVAL,[],.none⟩,by simp [cmdProcessOtaStart,hp,EINVAL],hidle _⟩
      | true =>
        cases he : env.start.prepareErr with
        | some e =>
          have hne : (-((e : Int)+1)) ≠ 0 := by omega
          simp only [cmdProcessOtaStart,hp,he,Bool.not_true,Bool.false_eq_true,if_false]
          rw [if_pos hne]
          exact ⟨_,rfl,hidle _⟩
        | none =>
          simp only [cmdProcessOtaStart,hp,he,Bool.not_true,Bool.false_eq_true,if_false]
          by_cases hr : env.start.ret = 0
          · rw [if_neg (not_not.mpr hr)]
            exact otaLoop_safe hfine _ 0 file [.start] (by omega) (by simp) (by simp) (by simp [Sent.data])
          · rw [if_pos hr]
            exact ⟨_,rfl,failed_safe (by simp) (espOtaFinishOrRecover_up (hfine.start hr) hr)⟩

/-- In every run of commands that are admitted, a selected partition is what was received and is left
alone; and the host finishes behind the whole file only. -/
theorem ota_safe {Part : Type} [DecidableEq Part] (chipId : Nat) (f : Idf Part) (as : List (Act Part))
    (t : Trace Part) (hok : Along (step chipId) (fun t a => admits chipId t a = true) (boot f) as)
    (ht : exec (step chipId) (boot f) as = some t) (env : HostEnv) (file : Bytes) (hfine : env.Fine file) :
    t.Safe ∧ ∃ r, espStartOta env file = some r ∧ r.Safe file :=
  ⟨(exec_invariant_along (fun _ _ _ hi ha hs => step_inv hi ha hs) hok (boot_inv f) ht).safe,
    espStartOta_safe hfine⟩

def smallImage : Bytes := [233,1,2,3,0,0,0,64,0,0,0,0,5,0,0,0,0,0,0,0,0,0,0,1]

def writeOf (data : Bytes) : Bytes := List.replicate 8 0 ++ htole16 (UInt16.ofNat data.length) ++ data

/-- An update in two writes with one `OTA_START` more behind it, and the new image's own update. -/
def updateRun : List (Act Bool) :=
  [.start (some true) true,.write (writeOf smallImage) .ok,.write (writeOf [1,2,3]) .ok,.finish {},
   .start (some true) true,.restart,
   .start (some false) true,.write (writeOf smallImage) .ok,.write (writeOf []) .ok,.finish {valid := false}]

def flash0 : Idf Bool := {written := fun _ => [255], touches := fun _ => 0, boot := false}

def allRead (file : Bytes) : HostEnv where
  turns := fun i => {read := .ok (min OTA_CHUNK_SIZE (file.length-OTA_CHUNK_SIZE*i))}

theorem ota_safe_update_run :
    (exec (step 5) (boot flash0) updateRun).any
      (fun t => decide (t.history.map Selection.content = [smallImage ++ [1,2,3]])) = true ∧
    ∃ t, exec (step 5) (boot flash0) updateRun = some t ∧ t.Safe ∧
      ∃ r, espStartOta (allRead smallImage) smallImage = some r ∧ r.Safe smallImage := by
  refine ⟨by decide +kernel,?_⟩
  cases ht : exec (step 5) (boot flash0) updateRun with
  | none =>
    have : (exec (step 5) (boot flash0) updateRun).isSome = true := by decide +kernel
    simp [ht] at this
  | some t =>
    refine ⟨t,rfl,ota_safe 5 flash0 updateRun t (by decide +kernel) ht (allRead smallImage) smallImage ?_⟩
    exact
      { full := fun i n h => by
          simp only [allRead,ReadReply.ok.injEq] at h
          omega
        read := fun i e h => by simp [allRead] at h
        start := fun h => by simp [allRead] at h
        write := fun i => ⟨rfl,fun h => by simp [allRead] at h⟩
        last := ⟨rfl,fun h => by simp [allRead] at h⟩ }

/-- The second write announces more than it carries and is refused, the third one goes on. -/
def refusedRun : List (Act Bool) :=
  [.start (some true) true,.write (writeOf smallImage) .ok,.write (List.replicate 8 0 ++ [4,0,1,2]) .ok,
   .write (writeOf [5,6]) .ok,.finish {}]

/-- After the update has been selected a new one is started and written, before the restart. -/
def secondUpdateRun : List (Act Bool) :=
  [.start (some true) true,.write (writeOf smallImage) .ok,.finish {},
   .start (some true) true,.write (writeOf (smallImage ++ [9])) .ok]

/-- The first read of a file of 1016 bytes returns 40. -/
def shortRead : HostEnv where
  turns := fun _ => {read := .ok 40}

/-- The firmware selects an image from which a refused write is missing, and overwrites one that is
selected; the host ends the update of a file behind its first 40 bytes. -/
theorem ota_incomplete_image :
    (exec (step 5) (boot flash0) refusedRun).any (fun t => decide (¬ t.Safe)) = true ∧
    (exec (step 5) (boot flash0) secondUpdateRun).any (fun t => decide (¬ t.Safe)) = true ∧
    (espStartOta shortRead (List.replicate 1016 7)).any
      (fun r => decide (.finish ∈ r.sent ∧ ¬ r.Safe (List.replicate 1016 7))) = true :=
  ⟨by decide +kernel,by decide +kernel,by decide +kernel⟩

end EspHosted.Ota
