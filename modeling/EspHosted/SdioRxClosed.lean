import EspHosted.SdioE2h

/-!
What `read_packet` of `host/sdio/esp_sdio.c` does with an aggregate of any content.
-/

set_option autoImplicit false

namespace EspHosted.Sdio.E2h
open EspHosted Padded

def zero (b : Bytes) : Bool := b.all (· == 0)

/-- `esp_sdio_fail_rcp_rx` and the other ways to ask for a new start of the firmware;
`required` is `esp_rcp_fail_closed_required`. -/
def HostRx.restarts (s : HostRx) (required : Bool) : Bool := s.resetRequested || (s.rcpFailed && required)

/-- Frames at multiples of four with zeros between them, then zeros only. The padding of the last frame
may be cut. -/
inductive Aggregated : Bytes → List Bytes → Prop where
  | zeros (b : Bytes) (h : zero b = true) : Aggregated b []
  | frame (f gap rest : Bytes) (fs : List Bytes) (hf : WireFrame f) (hg : zero gap = true)
      (hlen : f.length+gap.length ≤ alignUp 4 f.length)
      (hr : rest ≠ [] → f.length+gap.length = alignUp 4 f.length) (ht : Aggregated rest fs) :
      Aggregated (f ++ gap ++ rest) (f :: fs)

/-! The same loop with its 16-bit variables. -/

def u16 (n : Nat) : Nat := n%65536

theorem u16_eq {n : Nat} (h : n < 65536) : u16 n = n := Nat.mod_eq_of_lt h

/-- `posInAggr`, `frame_len` and `aligned_len` are `u16`. -/
def splitLoop16 (e : ReadEnv) (skb : Bytes) : Nat → Nat → Nat → HostRx → HostRx
  | 0, _, _, s => s
  | fuel+1, i, posInAggr, s =>
    let header := skb.drop posInAggr
    let len := hdrLen header
    let offset := hdrOffset header
    let frameLen := u16 (len+offset)
    let alignedLen := u16 (alignUp 4 frameLen)
    if skb.length < posInAggr+headerSize then s
    else if len = 0 ∧ (header.take headerSize).all (· == 0) then s
    else if len = 0 then {s with rcpFailed := true}
    else if ESP_RX_BUFFER_SIZE < len ∨ espOffsetValid offset = false then {s with rcpFailed := true}
    else if skb.length < posInAggr+frameLen then {s with rcpFailed := true}
    else if e.alloc i = false then {s with rcpFailed := true}
    else splitLoop16 e skb fuel (i+1) (u16 (posInAggr+alignedLen)) {s with rxQ := s.rxQ ++ [header.take frameLen]}

def splitAggregate16 (e : ReadEnv) (s : HostRx) (data : Bytes) : HostRx × Option Bytes :=
  let len := hdrLen data
  let offset := hdrOffset data
  let frameLen := u16 (len+offset)
  let alignedLen := u16 (alignUp 4 frameLen)
  if data.length < headerSize then ({s with resetRequested := true},none)
  else if len = 0 then ({s with rcpFailed := true},none)
  else if ESP_RX_BUFFER_SIZE < len ∨ espOffsetValid offset = false then ({s with rcpFailed := true},none)
  else if (espHostWireSpanValid len offset data.length).isNone then ({s with rcpFailed := true},none)
  else if data.length ≤ alignedLen then (s,some (data.take frameLen))
  else
    let s := splitLoop16 e data data.length 0 0 s
    ({s with rxQ := s.rxQ.tail},s.rxQ.head?)

theorem frame_bounds {len offset : Nat} (h : ¬(ESP_RX_BUFFER_SIZE < len ∨ espOffsetValid offset = false)) :
    len+offset ≤ 15888 ∧ alignUp 4 (len+offset) ≤ 15888 := by
  have hlen : len ≤ 15872 := by
    simp only [ESP_RX_BUFFER_SIZE] at h
    omega
  have hoff : offset ≤ 16 := by
    have ho : ¬espOffsetValid offset = false := fun h' => h (.inr h')
    rw [espOffsetValid_eq_false] at ho
    simp only [headerSize,ESP_MAX_OFFSET_SIZE,ESP_MAX_ALIGN_PADDING] at ho
    omega
  exact ⟨by omega,alignUp_le (by decide) (by omega) (by decide)⟩

/-- No variable of the loop wraps: the position stays within the aggregate and its padding. -/
theorem splitLoop16_eq (e : ReadEnv) (skb : Bytes) (fuel i pos : Nat) (s : HostRx)
    (hskb : skb.length ≤ ESP_HOST_RX_AGGR_SIZE) (hpos : pos ≤ skb.length+3) :
    splitLoop16 e skb fuel i pos s = splitLoop e fuel i (skb.drop pos) s := by
  induction fuel generalizing i pos s with
  | zero => rfl
  | succ fuel ih =>
    have hhdr : headerSize = 12 := rfl
    simp only [splitLoop16,splitLoop,List.length_drop]
    by_cases h1 : skb.length < pos+headerSize
    · rw [if_pos h1,if_pos (show skb.length-pos < headerSize by omega)]
    rw [if_neg h1,if_neg (show ¬skb.length-pos < headerSize by omega)]
    by_cases h2 : hdrLen (skb.drop pos) = 0 ∧ ((skb.drop pos).take headerSize).all (· == 0) = true
    · rw [if_pos h2,if_pos h2]
    rw [if_neg h2,if_neg h2]
    by_cases h3 : hdrLen (skb.drop pos) = 0
    · rw [if_pos h3,if_pos h3]
    rw [if_neg h3,if_neg h3]
    by_cases h4 : ESP_RX_BUFFER_SIZE < hdrLen (skb.drop pos) ∨ espOffsetValid (hdrOffset (skb.drop pos)) = false
    · rw [if_pos h4,if_pos h4]
    rw [if_neg h4,if_neg h4]
    obtain ⟨hf,ha⟩ := frame_bounds h4
    rw [u16_eq (show hdrLen (skb.drop pos)+hdrOffset (skb.drop pos) < 65536 by omega),u16_eq (n := alignUp 4 _) (by omega)]
    by_cases h5 : skb.length < pos+(hdrLen (skb.drop pos)+hdrOffset (skb.drop pos))
    · rw [if_pos h5,if_pos (show skb.length-pos < hdrLen (skb.drop pos)+hdrOffset (skb.drop pos) by omega)]
    rw [if_neg h5,if_neg (show ¬skb.length-pos < hdrLen (skb.drop pos)+hdrOffset (skb.drop pos) by omega)]
    by_cases h6 : e.alloc i = false
    · rw [if_pos h6,if_pos h6]
    have hstep : alignUp 4 (hdrLen (skb.drop pos)+hdrOffset (skb.drop pos)) ≤
        hdrLen (skb.drop pos)+hdrOffset (skb.drop pos)+3 := by
      have := alignUp_lt_add (show 0 < 4 by decide) (hdrLen (skb.drop pos)+hdrOffset (skb.drop pos))
      omega
    have hwrap : pos+alignUp 4 (hdrLen (skb.drop pos)+hdrOffset (skb.drop pos)) < 65536 := by
      simp only [ESP_HOST_RX_AGGR_SIZE] at hskb
      omega
    rw [if_neg h6,if_neg h6,u16_eq hwrap,ih _ _ _ (by omega),List.drop_drop]

theorem splitAggregate16_eq (e : ReadEnv) (s : HostRx) {data : Bytes} (h : data.length ≤ ESP_HOST_RX_AGGR_SIZE) :
    splitAggregate16 e s data = splitAggregate e s data := by
  simp only [splitAggregate16,splitAggregate]
  by_cases h4 : ESP_RX_BUFFER_SIZE < hdrLen data ∨ espOffsetValid (hdrOffset data) = false
  · simp only [if_pos h4]
  · obtain ⟨hf,ha⟩ := frame_bounds h4
    rw [u16_eq (show hdrLen data+hdrOffset data < 65536 by omega),u16_eq (n := alignUp 4 _) (by omega),
      splitLoop16_eq e data data.length 0 0 s h (by omega),List.drop_zero]

/-! The walk over the frames. -/

def frameLen (data : Bytes) : Nat := hdrLen data+hdrOffset data

def frameAt (data : Bytes) : Bool :=
  decide (headerSize ≤ data.length) && decide (hdrLen data ≠ 0) && decide (hdrLen data ≤ ESP_RX_BUFFER_SIZE) &&
    espOffsetValid (hdrOffset data) && decide (frameLen data ≤ data.length)

def gap (data : Bytes) : Bytes := (data.take (alignUp 4 (frameLen data))).drop (frameLen data)

def next (data : Bytes) : Bytes := data.drop (alignUp 4 (frameLen data))

def frames : Nat → Bytes → List Bytes
  | 0, _ => []
  | fuel+1, data => if frameAt data then data.take (frameLen data) :: frames fuel (next data) else []

/-- The loop meets a header that it does not accept, or finds no memory. -/
def checkFails (e : ReadEnv) : Nat → Nat → Bytes → Bool
  | 0, _, _ => false
  | fuel+1, i, data =>
    if frameAt data then !e.alloc i || checkFails e fuel (i+1) (next data)
    else decide (headerSize ≤ data.length) && !zero (data.take headerSize)

/-- Every byte that belongs to no frame is zero. -/
def gapsZero : Nat → Bytes → Bool
  | 0, data => zero data
  | fuel+1, data => if frameAt data then zero (gap data) && gapsZero fuel (next data) else zero data

theorem frameAt_iff {data : Bytes} : frameAt data = true ↔ headerSize ≤ data.length ∧ hdrLen data ≠ 0 ∧
    ¬(ESP_RX_BUFFER_SIZE < hdrLen data ∨ espOffsetValid (hdrOffset data) = false) ∧ frameLen data ≤ data.length := by
  simp [frameAt,and_assoc,not_or]

theorem offset_bounds {data : Bytes} (h : frameAt data = true) :
    headerSize ≤ hdrOffset data ∧ hdrOffset data ≤ ESP_MAX_OFFSET_SIZE := by
  obtain ⟨-,-,h3,-⟩ := frameAt_iff.mp h
  by_contra hc
  exact h3 (.inr (espOffsetValid_eq_false.mpr hc))

theorem zero_take {b : Bytes} (n : Nat) (h : zero b = true) : zero (b.take n) = true := by
  rw [zero,List.all_eq_true] at h ⊢
  exact fun x hx => h x (List.mem_of_mem_take hx)

theorem frameAt_of_zero {b : Bytes} (h : zero b = true) : frameAt b = false := by
  have hl := hdrLen_of_all_zero (zero_take headerSize h)
  simp [frameAt,hl]

theorem splitLoop_succ (e : ReadEnv) (fuel i : Nat) (data : Bytes) (s : HostRx) : splitLoop e (fuel+1) i data s =
    if frameAt data then
      if e.alloc i = false then {s with rcpFailed := true}
      else splitLoop e fuel (i+1) (next data) {s with rxQ := s.rxQ ++ [data.take (frameLen data)]}
    else if headerSize ≤ data.length ∧ zero (data.take headerSize) = false then {s with rcpFailed := true}
    else s := by
  by_cases h : frameAt data = true
  · obtain ⟨h1,h2,h3,h4⟩ := frameAt_iff.mp h
    rw [if_pos h,splitLoop,if_neg (by omega),if_neg (by simp [h2]),if_neg h2,if_neg h3,if_neg (by simpa [frameLen] using h4)]
    rfl
  · rw [if_neg h,splitLoop]
    by_cases h1 : data.length < headerSize
    · rw [if_pos h1,if_neg (by omega)]
    by_cases hz : zero (data.take headerSize) = true
    · rw [if_neg h1,if_pos ⟨hdrLen_of_all_zero hz,hz⟩,if_neg (by simp [hz])]
    have hbad : headerSize ≤ data.length ∧ zero (data.take headerSize) = false := ⟨by omega,by simpa using hz⟩
    rw [if_pos hbad,if_neg h1,if_neg (fun h' => hz h'.2)]
    rw [frameAt_iff] at h
    by_cases h2 : hdrLen data = 0
    · rw [if_pos h2]
    by_cases h3 : ESP_RX_BUFFER_SIZE < hdrLen data ∨ espOffsetValid (hdrOffset data) = false
    · rw [if_neg h2,if_pos h3]
    have h4 : data.length < hdrLen data+hdrOffset data := by
      by_contra h4
      exact h ⟨by omega,h2,h3,by simpa [frameLen] using h4⟩
    rw [if_neg h2,if_neg h3,if_pos h4]

theorem splitLoop_spec (e : ReadEnv) (fuel i : Nat) (data : Bytes) (s : HostRx) :
    (splitLoop e fuel i data s).rcpFailed = (s.rcpFailed || checkFails e fuel i data) ∧
    (splitLoop e fuel i data s).resetRequested = s.resetRequested ∧
    (checkFails e fuel i data = false → (splitLoop e fuel i data s).rxQ = s.rxQ ++ frames fuel data) := by
  induction fuel generalizing i data s with
  | zero => simp [splitLoop,checkFails,frames]
  | succ fuel ih =>
    rw [splitLoop_succ]
    by_cases h : frameAt data = true
    · by_cases ha : e.alloc i = false
      · simp [checkFails,h,ha]
      · obtain ⟨h1,h2,h3⟩ := ih (i+1) (next data) {s with rxQ := s.rxQ ++ [data.take (frameLen data)]}
        simp only [Bool.not_eq_false] at ha
        simp only [h,ha,if_true,Bool.true_eq_false,if_false]
        refine ⟨?_,h2,?_⟩
        · rw [h1]
          simp [checkFails,h,ha]
        · intro hc
          simp only [checkFails,h,ha,if_true,Bool.not_true,Bool.false_or] at hc
          rw [h3 hc]
          simp [frames,h]
    · simp only [Bool.not_eq_true] at h
      simp only [h,checkFails,frames,Bool.false_eq_true,if_false]
      by_cases hz : headerSize ≤ data.length ∧ zero (data.take headerSize) = false
      · simp [hz]
      · simp only [if_neg hz,List.append_nil,implies_true,and_true]
        have hb : (decide (headerSize ≤ data.length) && !zero (data.take headerSize)) = false := by
          simpa using hz
        simp [hb]

/-! A walk that meets no failure. -/

theorem next_length_lt {data : Bytes} (h : frameAt data = true) : (next data).length < data.length := by
  obtain ⟨h1,h2,-,-⟩ := frameAt_iff.mp h
  have hle := le_alignUp (show 0 < 4 by decide) (frameLen data)
  have hhdr : headerSize = 12 := rfl
  have hpos : 0 < frameLen data := by
    simp only [frameLen]
    omega
  rw [next,List.length_drop]
  omega

theorem frameLen_append {f : Bytes} (t : Bytes) (hf : WireFrame f) : frameLen (f ++ t) = f.length := by
  obtain ⟨-,-,hsum,hhdr⟩ := hf.spec
  rw [frameLen,hdrLen_append t (Nat.le_of_lt hhdr),hdrOffset_append t (Nat.le_of_lt hhdr),hsum]

theorem wireFrame_take {data : Bytes} (h : frameAt data = true) : WireFrame (data.take (frameLen data)) := by
  obtain ⟨h1,h2,h3,h4⟩ := frameAt_iff.mp h
  have hl : (data.take (frameLen data)).length = frameLen data := by rw [List.length_take]; omega
  have hoff := offset_bounds h
  have hhdr : headerSize ≤ (data.take (frameLen data)).length := by
    rw [hl,frameLen]
    omega
  have hlen : hdrLen (data.take (frameLen data)) = hdrLen data := by
    have := hdrLen_append (data.drop (frameLen data)) hhdr
    rwa [List.take_append_drop,eq_comm] at this
  have hofs : hdrOffset (data.take (frameLen data)) = hdrOffset data := by
    have := hdrOffset_append (data.drop (frameLen data)) hhdr
    rwa [List.take_append_drop,eq_comm] at this
  rw [WireFrame,hlen,hofs,hl]
  refine espHostWireSpanValid_eq_some.mpr ⟨by omega,hoff.1,hoff.2,?_,Nat.le_refl _⟩
  simp only [frameLen]
  omega

theorem gap_append {f g rest : Bytes} (hf : WireFrame f) (hl : f.length+g.length ≤ alignUp 4 f.length)
    (hr : rest ≠ [] → f.length+g.length = alignUp 4 f.length) :
    gap (f ++ g ++ rest) = g ∧ next (f ++ g ++ rest) = rest := by
  have hlen : frameLen (f ++ g ++ rest) = f.length := by rw [List.append_assoc,frameLen_append _ hf]
  rw [gap,next,hlen]
  by_cases h : rest = []
  · subst h
    have hle : (f ++ g ++ []).length ≤ alignUp 4 f.length := by simpa using hl
    rw [List.take_of_length_le hle,List.drop_eq_nil_iff.mpr hle,List.append_nil,List.drop_left]
    exact ⟨rfl,rfl⟩
  · have he : (f ++ g).length = alignUp 4 f.length := by rw [List.length_append,hr h]
    rw [List.take_left' he,List.drop_left' he,List.drop_left]
    exact ⟨rfl,rfl⟩

theorem take_gap_next (data : Bytes) : data.take (frameLen data) ++ gap data ++ next data = data := by
  have hle := le_alignUp (show 0 < 4 by decide) (frameLen data)
  have hjoin : data.take (frameLen data) ++ gap data = data.take (alignUp 4 (frameLen data)) := by
    have := List.take_append_drop (frameLen data) (data.take (alignUp 4 (frameLen data)))
    rwa [List.take_take,Nat.min_eq_left hle] at this
  rw [hjoin,next,List.take_append_drop]

theorem gap_length {data : Bytes} (h : frameAt data = true) :
    frameLen data+(gap data).length = min (alignUp 4 (frameLen data)) data.length := by
  obtain ⟨-,-,-,h4⟩ := frameAt_iff.mp h
  have hle := le_alignUp (show 0 < 4 by decide) (frameLen data)
  rw [gap,List.length_drop,List.length_take]
  omega

theorem aggregated_iff (fuel : Nat) {data : Bytes} (hf : data.length ≤ fuel) :
    Aggregated data (frames fuel data) ↔ gapsZero fuel data = true := by
  induction fuel generalizing data with
  | zero =>
    have hd : data = [] := List.length_eq_zero_iff.mp (by omega)
    subst hd
    exact ⟨fun _ => rfl,fun h => .zeros [] h⟩
  | succ fuel ih =>
    by_cases h : frameAt data = true
    · have hlt := next_length_lt h
      obtain ⟨-,-,-,h4⟩ := frameAt_iff.mp h
      have ihn := @ih (next data) (by omega)
      simp only [frames,gapsZero,h,if_true,Bool.and_eq_true,← ihn]
      constructor
      · intro ha
        generalize hfs : data.take (frameLen data) :: frames fuel (next data) = fs at ha
        cases ha with
        | zeros _ h0 =>
          rw [frameAt_of_zero h0] at h
          cases h
        | frame f g rest fs hw hg hlen hr ht =>
          obtain ⟨hgap,hnext⟩ := gap_append hw hlen hr
          rw [hnext] at hfs ⊢
          rw [hgap,(List.cons.inj hfs).2]
          exact ⟨hg,ht⟩
      · rintro ⟨hg,ha⟩
        have hL : (data.take (frameLen data)).length = frameLen data := by
          rw [List.length_take,Nat.min_eq_left h4]
        have hgl := gap_length h
        have hagg := Aggregated.frame (data.take (frameLen data)) (gap data) (next data) _ (wireFrame_take h) hg
          (by rw [hL]; omega) ?_ ha
        · rwa [take_gap_next] at hagg
        · intro hne
          have hlong : alignUp 4 (frameLen data) < data.length := by
            by_contra hc
            exact hne (List.drop_eq_nil_iff.mpr (by omega))
          rw [hL]
          omega
    · simp only [Bool.not_eq_true] at h
      simp only [frames,gapsZero,h,Bool.false_eq_true,if_false]
      constructor
      · intro ha
        cases ha with
        | zeros _ h0 => exact h0
      · exact fun h0 => .zeros data h0

/-! One call. -/

/-- The aggregate that a call of `read_packet` gets from the slave; `n` is `rx_byte_count`. -/
def aggregateRead (n : Nat) (e : ReadEnv) : Option Bytes :=
  let len := espSdioRxLenDelta e.raw n
  let paddedLen := alignUp 4 len
  if e.lenRead ∧ len ≤ ESP_HOST_RX_AGGR_SIZE ∧ len ≠ 0 ∧ e.bounce ∧ paddedLen ≤ ESP_HOST_RX_AGGR_SIZE ∧ e.skb then
    (readLoop e paddedLen 0 paddedLen len n e.stream []).2.map (·.take len)
  else none

/-- The aggregate starts with a frame, all checks pass and a byte that belongs to no frame is not zero.
The loop is entered for more than one frame. -/
def dropsSilently (e : ReadEnv) (data : Bytes) : Bool :=
  frameAt data && !gapsZero data.length data &&
    !(decide (alignUp 4 (frameLen data) < data.length) && checkFails e data.length 0 data)

theorem readPacket_aggregate {n : Nat} {e : ReadEnv} {data : Bytes} (h : aggregateRead n e = some data) :
    data.length ≤ ESP_HOST_RX_AGGR_SIZE ∧ ∃ n', readPacket {rxByteCount := n} e = splitAggregate e {rxByteCount := n'} data := by
  simp only [aggregateRead] at h
  split at h
  · rename_i hc
    obtain ⟨h1,h2,h3,h4,h5,h6⟩ := hc
    cases hl : readLoop e (alignUp 4 (espSdioRxLenDelta e.raw n)) 0 (alignUp 4 (espSdioRxLenDelta e.raw n))
      (espSdioRxLenDelta e.raw n) n e.stream [] with
    | mk n' buf =>
      rw [hl] at h
      cases buf with
      | none => cases h
      | some buf =>
        cases h
        refine ⟨?_,n',?_⟩
        · rw [List.length_take]
          omega
        · simp only [readPacket,h1,h4,h6,Bool.true_eq_false,if_false,if_neg h3,if_neg (Nat.not_lt.mpr h2),
            if_neg (Nat.not_lt.mpr h5),hl]
  · cases h

theorem splitAggregate_bad (e : ReadEnv) (n : Nat) {data : Bytes} (h : frameAt data = false) :
    (splitAggregate e {rxByteCount := n} data).1.restarts true = true := by
  simp only [splitAggregate]
  by_cases h1 : data.length < headerSize
  · rw [if_pos h1]
    rfl
  by_cases h2 : hdrLen data = 0
  · rw [if_neg h1,if_pos h2]
    rfl
  by_cases h3 : ESP_RX_BUFFER_SIZE < hdrLen data ∨ espOffsetValid (hdrOffset data) = false
  · rw [if_neg h1,if_neg h2,if_pos h3]
    rfl
  have h4 : data.length < frameLen data := by
    by_contra h4
    rw [frameAt_iff.mpr ⟨by omega,h2,h3,by omega⟩] at h
    cases h
  have hspan : (espHostWireSpanValid (hdrLen data) (hdrOffset data) data.length).isNone = true := by
    cases hv : espHostWireSpanValid (hdrLen data) (hdrOffset data) data.length with
    | none => rfl
    | some k =>
      obtain ⟨-,-,-,hk,hle⟩ := espHostWireSpanValid_eq_some.mp hv
      simp only [frameLen] at h4
      omega
  rw [if_neg h1,if_neg h2,if_neg h3,if_pos hspan]
  rfl

theorem splitAggregate_good (e : ReadEnv) (n : Nat) {data : Bytes} (h : frameAt data = true) :
    splitAggregate e {rxByteCount := n} data =
      if data.length ≤ alignUp 4 (frameLen data) then ({rxByteCount := n},some (data.take (frameLen data)))
      else ({splitLoop e data.length 0 data {rxByteCount := n} with
          rxQ := (splitLoop e data.length 0 data {rxByteCount := n}).rxQ.tail},
        (splitLoop e data.length 0 data {rxByteCount := n}).rxQ.head?) := by
  obtain ⟨h1,h2,h3,h4⟩ := frameAt_iff.mp h
  have hoff := offset_bounds h
  have hspan : espHostWireSpanValid (hdrLen data) (hdrOffset data) data.length = some (hdrOffset data+hdrLen data) :=
    espHostWireSpanValid_eq_some.mpr ⟨by omega,hoff.1,hoff.2,by omega,by simp only [frameLen] at h4; omega⟩
  simp only [splitAggregate]
  rw [if_neg (by omega),if_neg h2,if_neg h3,hspan,if_neg (by simp)]
  rfl

theorem splitAggregate_delivered (e : ReadEnv) (n : Nat) {data : Bytes} (h : frameAt data = true)
    (hr : (splitAggregate e {rxByteCount := n} data).1.restarts true = false) :
    (splitAggregate e {rxByteCount := n} data).2.toList ++ (splitAggregate e {rxByteCount := n} data).1.rxQ =
      frames data.length data := by
  rw [splitAggregate_good e n h] at hr ⊢
  by_cases hs : data.length ≤ alignUp 4 (frameLen data)
  · have hnext : next data = [] := List.drop_eq_nil_iff.mpr hs
    have hnone : ∀ fuel, frames fuel [] = [] := by
      intro fuel
      cases fuel <;> rfl
    cases hd : data.length with
    | zero =>
      obtain ⟨h1,-,-,-⟩ := frameAt_iff.mp h
      rw [hd] at h1
      cases h1
    | succ fuel =>
      rw [← hd,if_pos hs,hd]
      simp [frames,h,hnext,hnone]
  · rw [if_neg hs] at hr ⊢
    obtain ⟨h1,h2,h3⟩ := splitLoop_spec e data.length 0 data {rxByteCount := n}
    have hc : checkFails e data.length 0 data = false := by
      cases hc : checkFails e data.length 0 data with
      | false => rfl
      | true => simp [HostRx.restarts,h1,hc] at hr
    rw [h3 hc]
    cases frames data.length data <;> rfl

theorem restarts_iff (e : ReadEnv) (n : Nat) {data : Bytes} (h : frameAt data = true) :
    (splitAggregate e {rxByteCount := n} data).1.restarts true =
      (decide (alignUp 4 (frameLen data) < data.length) && checkFails e data.length 0 data) := by
  rw [splitAggregate_good e n h]
  by_cases hs : data.length ≤ alignUp 4 (frameLen data)
  · rw [if_pos hs,decide_eq_false (Nat.not_lt.mpr hs)]
    rfl
  · obtain ⟨h1,h2,-⟩ := splitLoop_spec e data.length 0 data {rxByteCount := n}
    rw [if_neg hs,decide_eq_true (Nat.lt_of_not_le hs)]
    simp [HostRx.restarts,h1,h2]

/-- With an RCP session a call either asks for a new start of the firmware or delivers every frame of an
aggregate that is nothing but frames and zeros, unless it drops a byte without a word. The 16-bit
variables hold every length. -/
theorem readPacket_failsClosed_iff (n : Nat) (e : ReadEnv) (data : Bytes) (h : aggregateRead n e = some data) :
    (((readPacket {rxByteCount := n} e).1.restarts true = true ∨
        Aggregated data ((readPacket {rxByteCount := n} e).2.toList ++ (readPacket {rxByteCount := n} e).1.rxQ)) ↔
      dropsSilently e data = false) ∧
    ∃ n', readPacket {rxByteCount := n} e = splitAggregate16 e {rxByteCount := n'} data := by
  obtain ⟨hl,n',hp⟩ := readPacket_aggregate h
  refine ⟨?_,n',by rw [hp,splitAggregate16_eq e _ hl]⟩
  rw [hp]
  cases hf : frameAt data with
  | false => simp [splitAggregate_bad e n' hf,dropsSilently,hf]
  | true =>
    have hr := restarts_iff e n' hf
    have hagg := aggregated_iff data.length (Nat.le_refl data.length)
    simp only [dropsSilently,hf,← hr,Bool.true_and]
    cases hs : (splitAggregate e {rxByteCount := n'} data).1.restarts true with
    | true => simp
    | false =>
      rw [splitAggregate_delivered e n' hf hs,hagg]
      simp

/-- A frame and a tail that is too short for a header, and the slave sends them as one aggregate. -/
def tailEnv (tail : Bytes) : ReadEnv :=
  let data := PayloadHeader.encode {ifType := Usb.nibble 5, ifNum := Usb.nibble 0, len := 4, offset := 12} ++ [1,2,3,4] ++ tail
  {raw := data.length, stream := data}

theorem readPacket_failsClosed_iff_zeros :
    dropsSilently (tailEnv [0,0,0,0,0,0,0,0]) (tailEnv [0,0,0,0,0,0,0,0]).stream = false ∧
    ((readPacket {rxByteCount := 0} (tailEnv [0,0,0,0,0,0,0,0])).1.restarts true = true ∨
      Aggregated (tailEnv [0,0,0,0,0,0,0,0]).stream
        ((readPacket {rxByteCount := 0} (tailEnv [0,0,0,0,0,0,0,0])).2.toList ++
          (readPacket {rxByteCount := 0} (tailEnv [0,0,0,0,0,0,0,0])).1.rxQ)) := by
  have hc : dropsSilently (tailEnv [0,0,0,0,0,0,0,0]) (tailEnv [0,0,0,0,0,0,0,0]).stream = false := by decide +kernel
  exact ⟨hc,(readPacket_failsClosed_iff 0 _ _ (by decide +kernel)).1.mpr hc⟩

/-- Eight bytes of a next header are lost and no reset is asked for. -/
theorem readPacket_drops_tail :
    ∃ data, aggregateRead 0 (tailEnv [5,0,0,0,4,0,12,0]) = some data ∧
      (readPacket {rxByteCount := 0} (tailEnv [5,0,0,0,4,0,12,0])).1.restarts true = false ∧
      ¬Aggregated data ((readPacket {rxByteCount := 0} (tailEnv [5,0,0,0,4,0,12,0])).2.toList ++
        (readPacket {rxByteCount := 0} (tailEnv [5,0,0,0,4,0,12,0])).1.rxQ) := by
  refine ⟨(tailEnv [5,0,0,0,4,0,12,0]).stream,by decide +kernel,by decide +kernel,?_⟩
  have hframes : (readPacket {rxByteCount := 0} (tailEnv [5,0,0,0,4,0,12,0])).2.toList ++
      (readPacket {rxByteCount := 0} (tailEnv [5,0,0,0,4,0,12,0])).1.rxQ =
      frames (tailEnv [5,0,0,0,4,0,12,0]).stream.length (tailEnv [5,0,0,0,4,0,12,0]).stream := by decide +kernel
  rw [hframes,aggregated_iff _ (Nat.le_refl _)]
  decide +kernel

end EspHosted.Sdio.E2h
