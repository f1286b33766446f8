import EspHosted.SdioE2h

/-!
`esp_rcp_write` of `host/esp_rcp.c`. What the session, the allocator, the user copy and the
transport answer is given for each chunk; a transport keeps a frame only when it returns 0.
-/

set_option autoImplicit false

namespace EspHosted.RcpWrite
open EspHosted
open EspHosted.SpiHd (setChecksum sameHeader_setChecksum SameHeader)
open EspHosted.Sdio.E2h (WireFrame Framed framed_of_sameHeader)

def ESP_RCP_HOSTED_CHUNK_MAX : Nat := 1400

/-- One turn of the loop. `current` and `ready` are `esp_rcp_file_is_current` and
`esp_rcp_session_ready` before the chunk, `session` is the test under `rcp_lock`. -/
structure ChunkIo where
  current : Bool := true
  ready : Bool := true
  reserve : Int := 0
  alloc : Bool := true
  copy : Bool := true
  session : Bool := true
  write : Int := 0
  reserveLe : reserve ≤ 0 := by decide
  writeLe : write ≤ 0 := by decide

/-- `lock` is `mutex_lock_interruptible`, `snapshot` that the adapter found there is ready. -/
structure CallIo where
  lock : Int := 0
  snapshot : Bool := true
  chunk : Nat → ChunkIo
  lockLe : lock ≤ 0 := by decide

/-- `checksum` is `ESP_CHECKSUM_ENABLED` among the capabilities. -/
structure Config where
  checksum : Bool
  cksum : Bytes → UInt16

def padLen (len : Nat) : Nat :=
  headerSize+(SKB_DATA_ADDR_ALIGNMENT-(len+headerSize)%SKB_DATA_ADDR_ALIGNMENT)%SKB_DATA_ADDR_ALIGNMENT

def header (len : Nat) : PayloadHeader :=
  {ifType := Usb.nibble ESP_RCP_IF, ifNum := Usb.nibble 0, packetType := PACKET_TYPE_DATA, len := UInt16.ofNat len,
    offset := UInt16.ofNat (padLen len)}

/-- The skb that `esp_rcp_send_chunk` builds. -/
def skbOf (c : Config) (buf : Bytes) : Bytes :=
  let plain := (header buf.length).encode ++ (List.replicate (padLen buf.length-headerSize) 0 ++ buf)
  if c.checksum then setChecksum plain (c.cksum plain) else plain

/-- Its result, and the frame that the transport has then. -/
def espRcpSendChunk (c : Config) (io : ChunkIo) (buf : Bytes) : Int × Option Bytes :=
  if io.reserve ≠ 0 then (io.reserve,none)
  else if io.alloc = false then (-ENOMEM,none)
  else if io.copy = false then (-EFAULT,none)
  else if io.session = false then (-ENODEV,none)
  else if io.write ≠ 0 then (io.write,none)
  else (0,some (skbOf c buf))

/-- The loop from chunk `i` on; `buf` is what follows the `done` bytes. -/
def writeLoop (c : Config) (io : Nat → ChunkIo) : Nat → Nat → Nat → Bytes → Int × List Bytes
  | 0, _, done, _ => (done,[])
  | fuel+1, i, done, buf =>
    if buf = [] then (done,[])
    else if (io i).current = false ∨ (io i).ready = false then (-ENODEV,[])
    else
      let chunk := buf.take ESP_RCP_HOSTED_CHUNK_MAX
      match espRcpSendChunk c (io i) chunk with
      | (_,some skb) =>
        let r := writeLoop c io fuel (i+1) (done+chunk.length) (buf.drop ESP_RCP_HOSTED_CHUNK_MAX)
        (r.1,skb :: r.2)
      | (ret,none) => ((if done ≠ 0 then (done : Int) else ret),[])

/-- The result of the call and the frames the transport has got, in order. -/
def espRcpWrite (c : Config) (io : CallIo) (buf : Bytes) : Int × List Bytes :=
  if buf = [] then (0,[])
  else if io.lock ≠ 0 then (io.lock,[])
  else if io.snapshot = false then (-ENODEV,[])
  else writeLoop c io.chunk buf.length 0 0 buf

/-! One chunk. -/

/-- What the header of a frame says is its payload. -/
def payload (f : Bytes) : Bytes := (f.drop (hdrOffset f)).take (hdrLen f)

def ChunkIo.checked (io : ChunkIo) : Bool := io.current && io.ready

def ChunkIo.passes (io : ChunkIo) : Bool :=
  io.checked && decide (io.reserve = 0) && io.alloc && io.copy && io.session && decide (io.write = 0)

variable {c : Config}

theorem padLen_bounds (n : Nat) : headerSize ≤ padLen n ∧ padLen n ≤ ESP_MAX_OFFSET_SIZE := by
  have h := Nat.mod_lt (SKB_DATA_ADDR_ALIGNMENT-(n+headerSize)%SKB_DATA_ADDR_ALIGNMENT)
    (show 0 < SKB_DATA_ADDR_ALIGNMENT by decide)
  simp only [padLen,ESP_MAX_OFFSET_SIZE,ESP_MAX_ALIGN_PADDING,SKB_DATA_ADDR_ALIGNMENT] at *
  omega

/-- A frame of the RCP interface with the bytes of a chunk. -/
structure Chunk (f buf : Bytes) : Prop where
  wire : WireFrame f
  ifType : hdrIfType f = ESP_RCP_IF
  len : hdrLen f ≤ ESP_RCP_HOSTED_CHUNK_MAX
  payload : payload f = buf

theorem chunk_skbOf (c : Config) {buf : Bytes} (h0 : buf ≠ []) (hl : buf.length ≤ ESP_RCP_HOSTED_CHUNK_MAX) :
    Chunk (skbOf c buf) buf := by
  obtain ⟨ho,hm⟩ := padLen_bounds buf.length
  have hoff : (header buf.length).offset.toNat = padLen buf.length := by
    simp only [ESP_MAX_OFFSET_SIZE,headerSize,ESP_MAX_ALIGN_PADDING] at hm
    simp only [header]
    exact UInt16.toNat_ofNat_of_lt' (by simp [UInt16.size]; omega)
  have hlen : (header buf.length).len.toNat = buf.length := by
    simp only [ESP_RCP_HOSTED_CHUNK_MAX] at hl
    simp only [header]
    exact UInt16.toNat_ofNat_of_lt' (by simp [UInt16.size]; omega)
  have hf : Framed (skbOf c buf) (header buf.length) buf := by
    refine framed_of_sameHeader ?_ (by omega) (by omega) hlen h0
    rw [hoff,skbOf]
    split
    · exact sameHeader_setChecksum _ _
    · exact ⟨rfl,rfl,rfl,⟨rfl,rfl⟩,⟨rfl,rfl⟩,rfl⟩
  refine ⟨hf.wire,hf.ifType,?_,?_⟩
  · rw [hf.len]
    exact hl
  · rw [payload,hf.offset,hf.payload,hf.len,List.take_length]

theorem espRcpSendChunk_cases (c : Config) {io : ChunkIo} (h : io.checked = true) (buf : Bytes) :
    (io.passes = true ∧ espRcpSendChunk c io buf = (0,some (skbOf c buf))) ∨
    (io.passes = false ∧ ∃ ret, ret < 0 ∧ espRcpSendChunk c io buf = (ret,none)) := by
  have hr := io.reserveLe
  have hw := io.writeLe
  unfold espRcpSendChunk ChunkIo.passes
  rw [h]
  by_cases h1 : io.reserve = 0
  · cases h2 : io.alloc with
    | false => exact .inr ⟨by simp,-ENOMEM,by decide,by simp [h1]⟩
    | true =>
      cases h3 : io.copy with
      | false => exact .inr ⟨by simp,-EFAULT,by decide,by simp [h1]⟩
      | true =>
        cases h4 : io.session with
        | false => exact .inr ⟨by simp,-ENODEV,by decide,by simp [h1]⟩
        | true =>
          by_cases h5 : io.write = 0
          · exact .inl ⟨by simp [h1,h5],by simp [h1,h5]⟩
          · exact .inr ⟨by simp [h5],io.write,by omega,by simp [h1,h5]⟩
  · exact .inr ⟨by simp [h1],io.reserve,by omega,by simp [h1]⟩

theorem ChunkIo.checked_of_passes {io : ChunkIo} (h : io.passes = true) : io.checked = true := by
  simp only [passes,Bool.and_eq_true] at h
  exact h.1.1.1.1.1

/-! The loop. -/

/-- From chunk `i` on, with `done` bytes handed over and `n` left, a check before a chunk fails after
bytes were handed over. -/
def LateFrom (io : Nat → ChunkIo) (i done n : Nat) : Prop :=
  ∃ k, 0 < done+k ∧ k*ESP_RCP_HOSTED_CHUNK_MAX < n ∧ (∀ j, j < k → (io (i+j)).passes = true) ∧
    (io (i+k)).checked = false

theorem lateFrom_checked {io : Nat → ChunkIo} {i done n : Nat} (hc : (io i).checked = false) (hn : 0 < n) :
    LateFrom io i done n ↔ 0 < done := by
  constructor
  · rintro ⟨k,hk,-,hp,-⟩
    cases k with
    | zero => exact hk
    | succ k =>
      have h0 := ChunkIo.checked_of_passes (hp 0 (by omega))
      rw [Nat.add_zero,hc] at h0
      cases h0
  · intro hd
    exact ⟨0,by omega,by omega,fun j hj => absurd hj (by omega),hc⟩

theorem lateFrom_failed {io : Nat → ChunkIo} {i done n : Nat} (hc : (io i).checked = true)
    (hp : (io i).passes = false) : ¬LateFrom io i done n := by
  rintro ⟨k,-,-,hall,hk⟩
  cases k with
  | zero =>
    rw [Nat.add_zero,hc] at hk
    cases hk
  | succ k =>
    have h0 := hall 0 (by omega)
    rw [Nat.add_zero,hp] at h0
    cases h0

theorem lateFrom_passed {io : Nat → ChunkIo} {i done m n : Nat} (hp : (io i).passes = true) (hm : 0 < m) :
    LateFrom io i done n ↔ LateFrom io (i+1) (done+m) (n-ESP_RCP_HOSTED_CHUNK_MAX) := by
  have hc := ChunkIo.checked_of_passes hp
  constructor
  · rintro ⟨k,-,hn,hall,hk⟩
    cases k with
    | zero =>
      rw [Nat.add_zero,hc] at hk
      cases hk
    | succ k =>
      refine ⟨k,by omega,?_,?_,?_⟩
      · rw [Nat.succ_mul] at hn
        omega
      · intro j hj
        have := hall (j+1) (by omega)
        rwa [show i+1+j = i+(j+1) by omega]
      · rwa [show i+1+k = i+(k+1) by omega]
  · rintro ⟨k,-,hn,hall,hk⟩
    refine ⟨k+1,by omega,?_,?_,?_⟩
    · rw [Nat.succ_mul]
      omega
    · intro j hj
      cases j with
      | zero => exact hp
      | succ j =>
        have := hall j (by omega)
        rwa [show i+(j+1) = i+1+j by omega]
    · rwa [show i+(k+1) = i+1+k by omega]

/-- The frames carry the first `m` bytes. -/
structure Handed (frames : List Bytes) (buf : Bytes) (m : Nat) : Prop where
  le : m ≤ buf.length
  bytes : (frames.map payload).flatten = buf.take m
  frames : ∀ f ∈ frames, WireFrame f ∧ hdrIfType f = ESP_RCP_IF ∧ hdrLen f ≤ ESP_RCP_HOSTED_CHUNK_MAX

theorem Handed.none (buf : Bytes) : Handed [] buf 0 := ⟨Nat.zero_le _,rfl,by simp⟩

theorem Handed.cons {f buf : Bytes} {fs : List Bytes} {m : Nat} (hf : Chunk f (buf.take ESP_RCP_HOSTED_CHUNK_MAX))
    (h : Handed fs (buf.drop ESP_RCP_HOSTED_CHUNK_MAX) m) :
    Handed (f :: fs) buf ((buf.take ESP_RCP_HOSTED_CHUNK_MAX).length+m) := by
  have hle := h.le
  rw [List.length_drop] at hle
  refine ⟨?_,?_,?_⟩
  · rw [List.length_take]
    omega
  · rw [List.map_cons,List.flatten_cons,hf.payload,h.bytes]
    by_cases hl : buf.length ≤ ESP_RCP_HOSTED_CHUNK_MAX
    · have hm : m = 0 := by omega
      simp [List.take_of_length_le hl,hm]
    · rw [List.length_take,Nat.min_eq_left (by omega),List.take_add]
  · intro g hg
    rcases List.mem_cons.mp hg with rfl | hg
    · exact ⟨hf.wire,hf.ifType,hf.len⟩
    · exact h.frames g hg

/-- The count and the error agree with what was handed over unless a check has come too late. -/
theorem writeLoop_spec (io : Nat → ChunkIo) (fuel i done : Nat) (buf : Bytes) (hf : buf.length ≤ fuel)
    (hne : buf = [] → 0 < done) :
    ∃ m, Handed (writeLoop c io fuel i done buf).2 buf m ∧
      ((LateFrom io i done buf.length ∧ (writeLoop c io fuel i done buf).1 < 0 ∧ 0 < done+m) ∨
       (¬LateFrom io i done buf.length ∧
         (((writeLoop c io fuel i done buf).1 = ((done+m : Nat) : Int) ∧ 0 < done+m) ∨
          ((writeLoop c io fuel i done buf).1 < 0 ∧ done+m = 0)))) := by
  induction fuel generalizing i done buf with
  | zero =>
    have hb : buf = [] := List.length_eq_zero_iff.mp (by omega)
    have hd := hne hb
    subst hb
    refine ⟨0,Handed.none _,.inr ⟨?_,.inl ⟨rfl,by omega⟩⟩⟩
    rintro ⟨k,-,hn,-⟩
    simp at hn
  | succ fuel ih =>
    by_cases hb : buf = []
    · have hd := hne hb
      subst hb
      refine ⟨0,Handed.none _,.inr ⟨?_,.inl ⟨rfl,by omega⟩⟩⟩
      rintro ⟨k,-,hn,-⟩
      simp at hn
    have hpos := List.length_pos_iff.mpr hb
    rw [writeLoop,if_neg hb]
    cases hc : (io i).checked with
    | false =>
      have hbad : (io i).current = false ∨ (io i).ready = false := Bool.and_eq_false_iff.mp hc
      rw [if_pos hbad]
      refine ⟨0,Handed.none _,?_⟩
      by_cases hd : 0 < done
      · exact .inl ⟨(lateFrom_checked hc hpos).mpr hd,by decide,by omega⟩
      · exact .inr ⟨fun hl => hd ((lateFrom_checked hc hpos).mp hl),.inr ⟨by decide,by omega⟩⟩
    | true =>
      have hgood : ¬((io i).current = false ∨ (io i).ready = false) := by
        simpa [ChunkIo.checked] using hc
      rw [if_neg hgood]
      rcases espRcpSendChunk_cases c hc (buf.take ESP_RCP_HOSTED_CHUNK_MAX) with ⟨hp,hs⟩ | ⟨hp,ret,hret,hs⟩
      · simp only [hs]
        have hcl : 0 < (buf.take ESP_RCP_HOSTED_CHUNK_MAX).length := by
          rw [List.length_take]
          have : 0 < ESP_RCP_HOSTED_CHUNK_MAX := by decide
          omega
        have hchunk := chunk_skbOf c (List.length_pos_iff.mp hcl) (List.length_take_le _ _)
        obtain ⟨m,hm,hr⟩ := ih (i+1) (done+(buf.take ESP_RCP_HOSTED_CHUNK_MAX).length)
          (buf.drop ESP_RCP_HOSTED_CHUNK_MAX) (by
            rw [List.length_drop]
            have : 0 < ESP_RCP_HOSTED_CHUNK_MAX := by decide
            omega) (by omega)
        rw [List.length_drop,← lateFrom_passed hp hcl,Nat.add_assoc] at hr
        exact ⟨_,hm.cons hchunk,hr⟩
      · simp only [hs]
        refine ⟨0,Handed.none _,.inr ⟨lateFrom_failed hc hp,?_⟩⟩
        by_cases hd : done = 0
        · simp [hd,hret]
        · simp [hd]
          omega

/-! The call. -/

/-- The result is the number of bytes that were handed over, and an error only when there was none. -/
structure Reports (buf : Bytes) (r : Int × List Bytes) : Prop where
  count : ∀ n : Nat, 0 < n → (r.1 = n ↔ Handed r.2 buf n)
  error : r.1 < 0 → Handed r.2 buf 0

/-- A check before a chunk fails after an earlier chunk of the call was handed over. -/
def LateCheck (io : CallIo) (buf : Bytes) : Prop :=
  io.lock = 0 ∧ io.snapshot = true ∧ ∃ k, 0 < k ∧ k*ESP_RCP_HOSTED_CHUNK_MAX < buf.length ∧
    (∀ j, j < k → (io.chunk j).passes = true) ∧ (io.chunk k).checked = false

theorem Handed.unique {frames : List Bytes} {buf : Bytes} {m n : Nat} (h : Handed frames buf m)
    (h' : Handed frames buf n) : m = n := by
  have hb := h.bytes.symm.trans h'.bytes
  have hl := congrArg List.length hb
  have h1 := h.le
  have h2 := h'.le
  rw [List.length_take,List.length_take] at hl
  omega

theorem reports_count {buf : Bytes} {frames : List Bytes} {m : Nat} (h : Handed frames buf m) (hm : 0 < m) :
    Reports buf ((m : Int),frames) := by
  constructor
  · intro n hn
    constructor
    · intro he
      have : m = n := Int.ofNat.inj he
      exact this ▸ h
    · intro hh
      simp [h.unique hh]
  · intro hneg
    simp only at hneg
    omega

theorem reports_nothing {buf : Bytes} {frames : List Bytes} {r : Int} (h : Handed frames buf 0) (hr : r ≤ 0) :
    Reports buf (r,frames) := by
  constructor
  · intro n hn
    constructor
    · intro he
      simp only at he
      omega
    · intro hh
      have := h.unique hh
      omega
  · intro _
    exact h

/-- The result tells what was handed over exactly when no check comes too late. -/
theorem espRcpWrite_reports_iff (c : Config) (io : CallIo) (buf : Bytes) :
    Reports buf (espRcpWrite c io buf) ↔ ¬LateCheck io buf := by
  unfold espRcpWrite
  by_cases h0 : buf = []
  · subst h0
    rw [if_pos rfl]
    refine ⟨fun _ => ?_,fun _ => reports_nothing (Handed.none _) (by decide)⟩
    rintro ⟨-,-,k,-,hk,-⟩
    simp at hk
  rw [if_neg h0]
  by_cases hl : io.lock = 0
  · rw [if_neg (by simpa using hl)]
    cases hs : io.snapshot with
    | false =>
      rw [if_pos rfl]
      refine ⟨fun _ => ?_,fun _ => reports_nothing (Handed.none _) (by decide)⟩
      rintro ⟨-,hsnap,-⟩
      rw [hs] at hsnap
      cases hsnap
    | true =>
      rw [if_neg (by decide)]
      have hlate : LateCheck io buf ↔ LateFrom io.chunk 0 0 buf.length := by
        simp [LateCheck,LateFrom,hl,hs]
      rw [hlate]
      obtain ⟨m,hm,hr⟩ := writeLoop_spec (c := c) io.chunk buf.length 0 0 buf (Nat.le_refl _) (fun h => absurd h h0)
      rw [Nat.zero_add] at hr
      generalize writeLoop c io.chunk buf.length 0 0 buf = r at hm hr
      obtain ⟨ret,frames⟩ := r
      rcases hr with ⟨hlate,hneg,hpos⟩ | ⟨hno,⟨he,hpos⟩ | ⟨hneg,hz⟩⟩
      · refine ⟨fun hrep => ?_,fun hno => absurd hlate hno⟩
        have := hm.unique (hrep.error hneg)
        omega
      · simp only at he
        subst he
        exact ⟨fun _ => hno,fun _ => reports_count hm hpos⟩
      · subst hz
        exact ⟨fun _ => hno,fun _ => reports_nothing hm (Int.le_of_lt hneg)⟩
  · rw [if_pos (by simpa using hl)]
    refine ⟨fun _ => ?_,fun _ => reports_nothing (Handed.none _) io.lockLe⟩
    rintro ⟨hlock,-⟩
    exact hl hlock

def plainConfig : Config := {checksum := false, cksum := fun _ => 0}

/-- The session ends between the first and the second chunk. -/
def endsAfterFirst : CallIo := {chunk := fun i => if i = 0 then {} else {current := false}}

/-- Of 1401 bytes 1400 are sent, and the caller is told that the device is gone. -/
theorem espRcpWrite_late :
    (espRcpWrite plainConfig endsAfterFirst (List.replicate 1401 7)).1 = -ENODEV ∧
    (espRcpWrite plainConfig endsAfterFirst (List.replicate 1401 7)).2.length = 1 ∧
    ¬Reports (List.replicate 1401 7) (espRcpWrite plainConfig endsAfterFirst (List.replicate 1401 7)) := by
  refine ⟨by decide +kernel,by decide +kernel,?_⟩
  intro h
  have hbytes := (h.error (by decide +kernel)).bytes
  have hsent : ((espRcpWrite plainConfig endsAfterFirst (List.replicate 1401 7)).2.map payload).flatten ≠ [] := by
    decide +kernel
  exact hsent hbytes

end EspHosted.RcpWrite
