import EspHosted.SdioH2e

/-!
Progress of `tx_process`. `write_packet` admits frames by the size of the receive buffer, the
aggregation loop by the aggregate size that the firmware has announced.
-/

set_option autoImplicit false

namespace EspHosted.Sdio.H2e
open EspHosted Padded
open EspHosted.SpiHd (Prio)

/-- `tx_aggr_size` of `tx_process` for the value in the adapter. -/
def txAggrSize (adapter : Nat) : Nat :=
  let n := if adapter ≠ 0 then adapter else ESP_HOST_TX_AGGR_SIZE
  if n = 0 ∨ ESP_TX_AGGR_SIZE_MAX < n then ESP_HOST_TX_AGGR_SIZE else n

/-- What `process_event_esp_bootup` lets into `adapter->tx_aggr_size` over SDIO. -/
def txAggrSizeAccepted (n : Nat) : Bool := n ≠ 0 && n ≤ ESP_TX_AGGR_SIZE_MAX && n%ESP_BLOCK_SIZE = 0

theorem txAggrSize_accepted {n : Nat} (h : txAggrSizeAccepted n = true) : txAggrSize n = n := by
  simp only [txAggrSizeAccepted,Bool.and_eq_true,decide_eq_true_eq] at h
  obtain ⟨⟨h0,hm⟩,-⟩ := h
  simp only [txAggrSize,if_pos h0]
  rw [if_neg (by omega)]

/-- What `write_packet` finds; `full` is the limit on `tx_pending` for a frame it applies to. -/
structure WriteIo where
  ready : Bool := true
  full : Bool := false
  readyLocked : Bool := true
  deriving DecidableEq, Repr

def maxPktSize : Nat := ESP_RX_BUFFER_SIZE-headerSize

def writePrio (skb : Bytes) : Prio :=
  if hdrIfType skb = ESP_INTERNAL_IF then .high
  else if hdrIfType skb = ESP_HCI_IF ∨ hdrIfType skb = ESP_RCP_IF then .mid
  else .low

def writePacket (io : WriteIo) (q : Prio → List Bytes) (skb : Bytes) : (Prio → List Bytes) × Int :=
  if skb = [] then (q,-EINVAL)
  else if io.ready = false then (q,-ENODEV)
  else if maxPktSize < skb.length then (q,-EPERM)
  else if io.full then (q,-EBUSY)
  else if io.readyLocked = false then (q,-ESHUTDOWN)
  else (setQueue q (writePrio skb) (q (writePrio skb) ++ [skb]),0)

def nextPrio (q : Prio → List Bytes) : Option Prio :=
  if q .high ≠ [] then some .high
  else if q .mid ≠ [] then some .mid
  else if q .low ≠ [] then some .low
  else none

def queued (q : Prio → List Bytes) : Nat := (q .high).length+(q .mid).length+(q .low).length

/-- `current i` and `rawTp i` are what turn `i` of the pass finds. -/
structure PassEnv where
  first : UInt32 := 0
  current : Nat → Bool := fun _ => true
  rawTp : Nat → Bool := fun _ => false

def PassEnv.turn (e : PassEnv) (i : Nat) (p : Prio) : Turn := {prio := p, current := e.current i, rawTp := e.rawTp i}

/-- The inner loop of `tx_process`, up to the point where it is left. -/
def passLoop (c : Config) (e : PassEnv) : Nat → Nat → Tx → Tx
  | 0, _, s => s
  | fuel+1, i, s =>
    match s.pc with
    | .fill first aggr frames rawTpFrames =>
      match nextPrio s.q with
      | none => {s with pc := .built aggr frames}
      | some p => passLoop c e fuel (i+1) (fillTurn c (e.turn i p) s first aggr frames rawTpFrames)
    | _ => s

/-- Every turn takes a frame off a queue or leaves the loop, so the fuel is enough. -/
def aggregationPass (c : Config) (e : PassEnv) (q : Prio → List Bytes) : Tx :=
  passLoop c e (queued q+1) 0 {q := q, pc := .fill e.first [] [] 0}

def passes (c : Config) : List PassEnv → (Prio → List Bytes) → Prio → List Bytes
  | [], q => q
  | e :: es, q => passes c es (aggregationPass c e q).q

/-- The tests that make `tx_process` drop a frame. -/
def droppedFrame (skb : Bytes) : Bool :=
  espOffsetValid (hdrOffset skb) = false || hdrLen skb = 0 || decide (skb.length < hdrOffset skb+hdrLen skb)

/-- A frame that is sound and does not fit an empty aggregate. -/
def oversize (c : Config) (skb : Bytes) : Bool :=
  !droppedFrame skb && decide (c.txAggrSize < alignUp 4 (hdrOffset skb+hdrLen skb))

variable {c : Config}

theorem oversize_iff {skb : Bytes} : oversize c skb = true ↔
    ¬(espOffsetValid (hdrOffset skb) = false ∨ hdrLen skb = 0) ∧ ¬skb.length < hdrOffset skb+hdrLen skb ∧
      c.txAggrSize < alignUp 4 (hdrOffset skb+hdrLen skb) := by
  simp [oversize,droppedFrame,and_assoc]

/-! One turn. -/

theorem queued_setQueue {q : Prio → List Bytes} {p : Prio} {skb : Bytes} {rest : List Bytes}
    (h : q p = skb :: rest) : queued (setQueue q p rest)+1 = queued q := by
  cases p <;> simp only [queued,setQueue,h,List.length_cons,if_true,reduceCtorEq,if_false] <;> omega

theorem fillTurn_cases (e : Turn) (s : Tx) (first n : UInt32) (aggr : Bytes) (frames : List Copied)
    {skb : Bytes} {rest : List Bytes} (hq : s.q e.prio = skb :: rest) :
    (fillTurn c e s first aggr frames n).q = setQueue s.q e.prio rest ∨
    fillTurn c e s first aggr frames n = {s with pc := .built aggr frames} := by
  simp only [fillTurn,hq]
  split
  · exact .inr rfl
  · split
    · exact .inl rfl
    · split
      · exact .inl rfl
      · split
        · exact .inr rfl
        · split
          · exact .inr rfl
          · split <;> exact .inl rfl

theorem fillTurn_empty (hc : 0 < c.txAggrSize) (e : Turn) (s : Tx) (first n : UInt32) (frames : List Copied)
    {skb : Bytes} {rest : List Bytes} (hq : s.q e.prio = skb :: rest) (hs : oversize c skb = false) :
    (fillTurn c e s first [] frames n).q = setQueue s.q e.prio rest := by
  simp only [fillTurn,hq,List.length_nil,if_neg (Nat.not_le.mpr hc)]
  split
  · rfl
  · rename_i hv
    split
    · rfl
    · rename_i hl
      rw [if_neg (by simp),if_neg ?_]
      · split <;> rfl
      · intro hlt
        have ho : oversize c skb = true := oversize_iff.mpr ⟨hv,hl,by omega⟩
        rw [ho] at hs
        cases hs

theorem fillTurn_oversize (e : Turn) (s : Tx) (first n : UInt32) (aggr : Bytes) (frames : List Copied)
    {skb : Bytes} {rest : List Bytes} (hq : s.q e.prio = skb :: rest) (hs : oversize c skb = true) :
    fillTurn c e s first aggr frames n = {s with pc := .built aggr frames} := by
  obtain ⟨hv,hl,ho⟩ := oversize_iff.mp hs
  simp only [fillTurn,hq,if_neg hv,if_neg hl]
  have hfull : c.txAggrSize < aggr.length+alignUp 4 (hdrOffset skb+hdrLen skb) := by omega
  rw [if_pos hfull]
  simp only [ite_self]

/-! A pass. -/

theorem passLoop_done (e : PassEnv) (fuel i : Nat) {s : Tx}
    (h : ∀ first aggr frames n, s.pc ≠ .fill first aggr frames n) : passLoop c e fuel i s = s := by
  cases fuel with
  | zero => rfl
  | succ fuel =>
    cases hpc : s.pc with
    | fill first aggr frames n => exact absurd hpc (h first aggr frames n)
    | idle => simp [passLoop,hpc]
    | built aggr frames => simp [passLoop,hpc]

theorem nextPrio_some {q : Prio → List Bytes} {p : Prio} (h : nextPrio q = some p) :
    ∃ skb rest, q p = skb :: rest := by
  have hp : q p ≠ [] := by
    unfold nextPrio at h
    split at h
    · cases h
      assumption
    · split at h
      · cases h
        assumption
      · split at h
        · cases h
          assumption
        · cases h
  exact List.exists_cons_of_ne_nil hp

theorem nextPrio_none {q : Prio → List Bytes} (h : nextPrio q = none) : queued q = 0 := by
  unfold nextPrio at h
  split at h
  · cases h
  · split at h
    · cases h
    · split at h
      · cases h
      · simp_all [queued]

theorem passLoop_fill (e : PassEnv) (fuel i : Nat) {s : Tx} {first n : UInt32} {aggr : Bytes} {frames : List Copied}
    (h : s.pc = .fill first aggr frames n) : passLoop c e (fuel+1) i s =
    match nextPrio s.q with
    | none => {s with pc := .built aggr frames}
    | some p => passLoop c e fuel (i+1) (fillTurn c (e.turn i p) s first aggr frames n) := by
  rw [passLoop,h]

theorem queued_passLoop (e : PassEnv) (fuel i : Nat) (s : Tx) : queued (passLoop c e fuel i s).q ≤ queued s.q := by
  induction fuel generalizing i s with
  | zero => exact Nat.le_refl _
  | succ fuel ih =>
    cases hpc : s.pc with
    | idle => simp [passLoop,hpc]
    | built aggr frames => simp [passLoop,hpc]
    | fill first aggr frames n =>
      rw [passLoop_fill e fuel i hpc]
      cases hp : nextPrio s.q with
      | none => exact Nat.le_refl _
      | some p =>
        obtain ⟨skb,rest,hq⟩ := nextPrio_some hp
        refine Nat.le_trans (ih _ _) ?_
        rcases fillTurn_cases (c := c) (e.turn i p) s first n aggr frames hq with h | h
        · have hd := queued_setQueue hq
          rw [h]
          change queued (setQueue s.q p rest) ≤ _
          omega
        · simp only [h]
          exact Nat.le_refl _

theorem fillTurn_not_idle (e : Turn) {s : Tx} (first n : UInt32) (aggr : Bytes) (frames : List Copied)
    (h : s.pc ≠ .idle) : (fillTurn c e s first aggr frames n).pc ≠ .idle := by
  simp only [fillTurn]
  repeat' split
  all_goals first | exact h | (intro hpc; cases hpc)

theorem passLoop_built (e : PassEnv) (fuel i : Nat) (s : Tx) (hf : queued s.q < fuel)
    (hidle : s.pc ≠ .idle) : ∃ aggr frames, (passLoop c e fuel i s).pc = .built aggr frames := by
  induction fuel generalizing i s with
  | zero => omega
  | succ fuel ih =>
    cases hpc : s.pc with
    | idle => exact absurd hpc hidle
    | built aggr frames => exact ⟨aggr,frames,by simp [passLoop,hpc]⟩
    | fill first aggr frames n =>
      rw [passLoop_fill e fuel i hpc]
      cases hp : nextPrio s.q with
      | none => exact ⟨aggr,frames,rfl⟩
      | some p =>
        obtain ⟨skb,rest,hq⟩ := nextPrio_some hp
        rcases fillTurn_cases (c := c) (e.turn i p) s first n aggr frames hq with h | h
        · have hd := queued_setQueue hq
          refine ih _ _ ?_ (fillTurn_not_idle (e.turn i p) first n aggr frames hidle)
          rw [h]
          change queued (setQueue s.q p rest) < fuel
          omega
        · simp only [h]
          rw [passLoop_done]
          · exact ⟨aggr,frames,rfl⟩
          · intro first aggr frames n hfill
            cases hfill

theorem aggregationPass_built (e : PassEnv) (q : Prio → List Bytes) :
    ∃ aggr frames, (aggregationPass c e q).pc = .built aggr frames :=
  passLoop_built e _ _ _ (Nat.lt_succ_self _) (by intro hpc; cases hpc)

theorem aggregationPass_removes (hc : 0 < c.txAggrSize) (e : PassEnv) {q : Prio → List Bytes} {p : Prio}
    {skb : Bytes} {rest : List Bytes} (hp : nextPrio q = some p) (hq : q p = skb :: rest)
    (hs : oversize c skb = false) : queued (aggregationPass c e q).q < queued q := by
  have ht := fillTurn_empty hc (e.turn 0 p) {q := q, pc := .fill e.first [] [] 0} e.first 0 [] hq hs
  have hd := queued_setQueue hq
  have hl := queued_passLoop (c := c) e (queued q) (0+1)
    (fillTurn c (e.turn 0 p) {q := q, pc := .fill e.first [] [] 0} e.first [] [] 0)
  rw [ht] at hl
  change _ ≤ queued (setQueue q p rest) at hl
  simp only [aggregationPass,passLoop,hp]
  omega

/-- No pass takes an oversize frame off its queue. -/
theorem fillTurn_keeps (e : Turn) (s : Tx) (first n : UInt32) (aggr : Bytes) (frames : List Copied)
    {skb : Bytes} {p : Prio} (hs : oversize c skb = true) (hm : skb ∈ s.q p) :
    skb ∈ (fillTurn c e s first aggr frames n).q p := by
  cases hq : s.q e.prio with
  | nil =>
    simp only [fillTurn,hq]
    split <;> exact hm
  | cons head rest =>
    rcases fillTurn_cases (c := c) e s first n aggr frames hq with h | h
    · by_cases hp : p = e.prio
      · subst hp
        rw [hq] at hm
        rcases List.mem_cons.mp hm with rfl | hr
        · rw [fillTurn_oversize e s first n aggr frames hq hs]
          simp [hq]
        · rw [h]
          simpa [setQueue] using hr
      · rw [h]
        simpa [setQueue,hp] using hm
    · rw [h]
      exact hm

theorem passLoop_keeps (e : PassEnv) (fuel i : Nat) (s : Tx) {skb : Bytes} {p : Prio} (hs : oversize c skb = true)
    (hm : skb ∈ s.q p) : skb ∈ (passLoop c e fuel i s).q p := by
  induction fuel generalizing i s with
  | zero => exact hm
  | succ fuel ih =>
    cases hpc : s.pc with
    | idle => simpa [passLoop,hpc] using hm
    | built aggr frames => simpa [passLoop,hpc] using hm
    | fill first aggr frames n =>
      rw [passLoop_fill e fuel i hpc]
      cases hp : nextPrio s.q with
      | none => exact hm
      | some p' => exact ih _ _ (fillTurn_keeps (e.turn i p') s first n aggr frames hs hm)

theorem fillTurn_subset (e : Turn) (s : Tx) (first n : UInt32) (aggr : Bytes) (frames : List Copied)
    {skb : Bytes} {p : Prio} (hm : skb ∈ (fillTurn c e s first aggr frames n).q p) : skb ∈ s.q p := by
  cases hq : s.q e.prio with
  | nil =>
    simp only [fillTurn,hq] at hm
    split at hm <;> exact hm
  | cons head rest =>
    rcases fillTurn_cases (c := c) e s first n aggr frames hq with h | h
    · rw [h] at hm
      by_cases hp : p = e.prio
      · subst hp
        rw [hq]
        exact List.mem_cons_of_mem head (by simpa [setQueue] using hm)
      · simpa [setQueue,hp] using hm
    · rw [h] at hm
      exact hm

theorem passLoop_subset (e : PassEnv) (fuel i : Nat) (s : Tx) {skb : Bytes} {p : Prio}
    (hm : skb ∈ (passLoop c e fuel i s).q p) : skb ∈ s.q p := by
  induction fuel generalizing i s with
  | zero => exact hm
  | succ fuel ih =>
    cases hpc : s.pc with
    | idle => simpa [passLoop,hpc] using hm
    | built aggr frames => simpa [passLoop,hpc] using hm
    | fill first aggr frames n =>
      rw [passLoop_fill e fuel i hpc] at hm
      cases hp : nextPrio s.q with
      | none =>
        rw [hp] at hm
        exact hm
      | some p' =>
        rw [hp] at hm
        exact fillTurn_subset (e.turn i p') s first n aggr frames (ih _ _ hm)

/-! Pass after pass. -/

theorem passes_keeps (es : List PassEnv) {q : Prio → List Bytes} {skb : Bytes} {p : Prio}
    (hs : oversize c skb = true) (hm : skb ∈ q p) : skb ∈ passes c es q p := by
  induction es generalizing q with
  | nil => exact hm
  | cons e es ih => exact ih (passLoop_keeps e _ _ _ hs hm)

theorem passes_subset (es : List PassEnv) {q : Prio → List Bytes} {skb : Bytes} {p : Prio}
    (hm : skb ∈ passes c es q p) : skb ∈ q p := by
  induction es generalizing q with
  | nil => exact hm
  | cons e es ih => exact passLoop_subset e _ _ _ (ih hm)

theorem queued_pos {q : Prio → List Bytes} {skb : Bytes} {p : Prio} (h : skb ∈ q p) : queued q ≠ 0 := by
  have hl : 0 < (q p).length := List.length_pos_of_mem h
  cases p <;> simp only [queued] <;> omega

/-- Every pass over queues that are not empty takes a frame off them, now and after any number of
passes, and so many passes as there are frames leave none. -/
structure TxProgress (c : Config) (q : Prio → List Bytes) : Prop where
  removes : ∀ es e, queued (passes c es q) ≠ 0 →
    queued (aggregationPass c e (passes c es q)).q < queued (passes c es q)
  drains : ∀ es, queued q ≤ es.length → queued (passes c es q) = 0

def NoOversize (c : Config) (q : Prio → List Bytes) : Prop := ∀ p, ∀ skb ∈ q p, oversize c skb = false

theorem removes_of_noOversize (hc : 0 < c.txAggrSize) (e : PassEnv) {q : Prio → List Bytes} (h : NoOversize c q)
    (hq : queued q ≠ 0) : queued (aggregationPass c e q).q < queued q := by
  cases hp : nextPrio q with
  | none => exact absurd (nextPrio_none hp) hq
  | some p =>
    obtain ⟨skb,rest,hskb⟩ := nextPrio_some hp
    have hmem : skb ∈ q p := by simp [hskb]
    exact aggregationPass_removes hc e hp hskb (h p skb hmem)

theorem drains_of_removes {q : Prio → List Bytes} (es : List PassEnv)
    (h : ∀ es e, queued (passes c es q) ≠ 0 →
      queued (aggregationPass c e (passes c es q)).q < queued (passes c es q)) :
    queued (passes c es q) ≤ queued q-es.length := by
  induction es generalizing q with
  | nil => exact Nat.le_refl _
  | cons e es ih =>
    have ihe := ih (q := (aggregationPass c e q).q) (fun es' e' hq => h (e :: es') e' hq)
    have hle : queued (aggregationPass c e q).q ≤ queued q := queued_passLoop e _ _ _
    rw [List.length_cons]
    simp only [passes]
    by_cases h0 : queued q = 0
    · omega
    · have hlt := h [] e h0
      simp only [passes] at hlt
      omega

theorem txProgress_iff (hc : 0 < c.txAggrSize) (q : Prio → List Bytes) : TxProgress c q ↔ NoOversize c q := by
  constructor
  · intro h p skb hm
    cases hs : oversize c skb with
    | false => rfl
    | true =>
      -- an oversize frame outlives every pass
      have hk := passes_keeps (List.replicate (queued q) {}) hs hm
      exact absurd (h.drains _ (by simp)) (queued_pos hk)
  · intro h
    have hr : ∀ es e, queued (passes c es q) ≠ 0 →
        queued (aggregationPass c e (passes c es q)).q < queued (passes c es q) := by
      intro es e hq
      refine removes_of_noOversize hc e ?_ hq
      intro p skb hm
      exact h p skb (passes_subset es hm)
    refine ⟨hr,?_⟩
    intro es hes
    have := drains_of_removes es hr
    omega

/-! What `write_packet` lets in. -/

theorem writePacket_length {io : WriteIo} {q : Prio → List Bytes} {skb : Bytes} {p : Prio} {f : Bytes}
    (h : f ∈ (writePacket io q skb).1 p) : f ∈ q p ∨ f.length ≤ maxPktSize := by
  unfold writePacket at h
  split at h
  · exact .inl h
  · split at h
    · exact .inl h
    · split at h
      · exact .inl h
      · rename_i hmax
        split at h
        · exact .inl h
        · split at h
          · exact .inl h
          · simp only [setQueue] at h
            split at h
            · rename_i hp
              rw [hp]
              rcases List.mem_append.mp h with h | h
              · exact .inl h
              · rw [List.mem_singleton.mp h]
                exact .inr (by omega)
            · exact .inl h

/-- A data frame of the STA interface with `n` bytes of payload. -/
def staFrame (n : Nat) : Bytes :=
  PayloadHeader.encode {ifType := Usb.nibble 0, ifNum := Usb.nibble 0, len := UInt16.ofNat n, offset := 12} ++ List.replicate n 0

theorem staFrame_length (n : Nat) : (staFrame n).length = headerSize+n := by simp [staFrame]

theorem oversize_staFrame {n : Nat} (h0 : n ≠ 0) (hn : n < 65536) :
    oversize c (staFrame n) = decide (c.txAggrSize < alignUp 4 (headerSize+n)) := by
  have hlen : hdrLen (staFrame n) = n := by
    rw [staFrame,hdrLen_encode]
    exact UInt16.toNat_ofNat_of_lt' hn
  have hoff : hdrOffset (staFrame n) = headerSize := by
    rw [staFrame,hdrOffset_encode]
    rfl
  have hd : droppedFrame (staFrame n) = false := by
    simp [droppedFrame,hlen,hoff,staFrame_length,h0,espOffsetValid,headerSize,ESP_MAX_OFFSET_SIZE]
  rw [oversize,hd,hlen,hoff]
  rfl

theorem writePacket_staFrame (q : Prio → List Bytes) {n : Nat} (hn : headerSize+n ≤ maxPktSize) :
    writePacket {} q (staFrame n) = (setQueue q .low (q .low ++ [staFrame n]),0) := by
  have hl := staFrame_length n
  have hne : staFrame n ≠ [] := by
    intro h
    rw [h,List.length_nil] at hl
    simp only [headerSize] at hl
    omega
  have hp : writePrio (staFrame n) = .low := by
    have ht : hdrIfType (staFrame n) = 0 := by rw [staFrame,hdrIfType_encode]; rfl
    simp [writePrio,ht,ESP_INTERNAL_IF,ESP_HCI_IF,ESP_RCP_IF]
  rw [writePacket,if_neg hne,if_neg (by decide),if_neg (by omega),if_neg (by decide),if_neg (by decide),hp]

/-- Only the largest aggregate size has room for the longest frame. -/
theorem eq_max_of_longest {n : Nat} (hn : txAggrSizeAccepted n = true) (hc : c.txAggrSize = txAggrSize n)
    (hs : oversize c (staFrame (maxPktSize-headerSize)) = false) : n = ESP_TX_AGGR_SIZE_MAX := by
  rw [oversize_staFrame (by decide) (by decide),hc,txAggrSize_accepted hn] at hs
  simp only [txAggrSizeAccepted,Bool.and_eq_true,decide_eq_true_eq] at hn
  obtain ⟨⟨h0,hm⟩,hb⟩ := hn
  have ha : alignUp 4 (headerSize+(maxPktSize-headerSize)) = 15860 := by decide
  simp only [ha,decide_eq_false_iff_not] at hs
  simp only [ESP_TX_AGGR_SIZE_MAX,ESP_BLOCK_SIZE] at *
  omega

theorem writePacket_noOversize {n : Nat} (hn : txAggrSizeAccepted n = true) (hc : c.txAggrSize = txAggrSize n)
    (h : n = ESP_TX_AGGR_SIZE_MAX) (io : WriteIo) (q : Prio → List Bytes) (skb : Bytes) (hq : NoOversize c q) :
    NoOversize c (writePacket io q skb).1 := by
  intro p f hf
  cases hs : oversize c f with
  | false => rfl
  | true =>
    rcases writePacket_length hf with hf | hf
    · rw [hq p f hf] at hs
      cases hs
    · obtain ⟨-,hl,ho⟩ := oversize_iff.mp hs
      have hle : hdrOffset f+hdrLen f ≤ 15860 := by
        simp only [maxPktSize,ESP_RX_BUFFER_SIZE,headerSize] at hf
        omega
      have := alignUp_le (show 0 < 4 by decide) hle (show 4 ∣ 15860 by decide)
      rw [hc,txAggrSize_accepted hn,h] at ho
      simp only [ESP_TX_AGGR_SIZE_MAX] at ho
      omega

/-- The queues after calls of `write_packet`. -/
def writes (ws : List (WriteIo × Bytes)) (q : Prio → List Bytes) : Prio → List Bytes :=
  ws.foldl (fun q w => (writePacket w.1 q w.2).1) q

theorem writes_noOversize (h : ∀ io q skb, NoOversize c q → NoOversize c (writePacket io q skb).1)
    (ws : List (WriteIo × Bytes)) {q : Prio → List Bytes} (hq : NoOversize c q) : NoOversize c (writes ws q) := by
  induction ws generalizing q with
  | nil => exact hq
  | cons w ws ih => exact ih (h w.1 q w.2 hq)

/-- The passes go on as long as the queues hold no frame that is larger than the announced
aggregate. Frames of that kind are admitted for every size but the largest. -/
theorem txProgress_iff_noOversize (n : Nat) (hn : txAggrSizeAccepted n = true) (c : Config)
    (hc : c.txAggrSize = txAggrSize n) :
    (∀ q, TxProgress c q ↔ NoOversize c q) ∧
    ((∀ ws, TxProgress c (writes ws (fun _ => []))) ↔ n = ESP_TX_AGGR_SIZE_MAX) := by
  have hpos : 0 < c.txAggrSize := by
    rw [hc,txAggrSize_accepted hn]
    simp only [txAggrSizeAccepted,Bool.and_eq_true,decide_eq_true_eq] at hn
    omega
  refine ⟨txProgress_iff hpos,?_⟩
  constructor
  · intro h
    apply (eq_max_of_longest hn hc)
    have hl := (txProgress_iff hpos _).mp (h [({},staFrame (maxPktSize-headerSize))])
    refine hl .low _ ?_
    simp only [writes,List.foldl_cons,List.foldl_nil]
    rw [writePacket_staFrame (fun _ => []) (by decide)]
    simp [setQueue]
  · intro h ws
    rw [txProgress_iff hpos]
    exact writes_noOversize (writePacket_noOversize hn hc h) ws (by simp [NoOversize])

def aggrConfig (n : Nat) (hb : ESP_BLOCK_SIZE ∣ n) (hm : n ≤ ESP_TX_AGGR_SIZE_MAX) : Config :=
  {txAggrSize := n, cksum := fun _ => 0, blocks := hb, limit := hm}

theorem txProgress_iff_noOversize_1024 :
    txAggrSizeAccepted 1024 = true ∧ TxProgress (aggrConfig 1024 (by decide) (by decide))
      (writes [({},staFrame 588)] (fun _ => [])) := by
  refine ⟨by decide,?_⟩
  rw [(txProgress_iff_noOversize 1024 (by decide) (aggrConfig 1024 (by decide) (by decide)) (by decide)).1]
  intro p skb hm
  simp only [writes,List.foldl_cons,List.foldl_nil] at hm
  rw [writePacket_staFrame (fun _ => []) (by decide)] at hm
  have hskb : skb = staFrame 588 := by
    simp only [setQueue] at hm
    split at hm
    · simpa using hm
    · cases hm
  rw [hskb,oversize_staFrame (by decide) (by decide)]
  decide

/-- A frame of 600 bytes is admitted and stays at the head of its queue when the firmware has
announced 512. -/
theorem txProgress_fails_512 :
    txAggrSizeAccepted 512 = true ∧ (writePacket {} (fun _ => []) (staFrame 588)).2 = 0 ∧
    ¬TxProgress (aggrConfig 512 (by decide) (by decide)) (writePacket {} (fun _ => []) (staFrame 588)).1 ∧
    ∀ es, staFrame 588 ∈ passes (aggrConfig 512 (by decide) (by decide)) es
      (writePacket {} (fun _ => []) (staFrame 588)).1 .low := by
  have hs : oversize (aggrConfig 512 (by decide) (by decide)) (staFrame 588) = true := by
    rw [oversize_staFrame (by decide) (by decide)]
    decide
  rw [writePacket_staFrame (fun _ => []) (by decide)]
  have hm : staFrame 588 ∈ setQueue (fun _ => []) .low ([] ++ [staFrame 588]) .low := by simp [setQueue]
  refine ⟨by decide,rfl,?_,fun es => passes_keeps es hs hm⟩
  intro h
  have hn := (txProgress_iff (by decide) _).mp h .low _ hm
  rw [hs] at hn
  cases hn

end EspHosted.Sdio.H2e
