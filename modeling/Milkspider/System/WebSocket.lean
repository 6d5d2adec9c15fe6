import Mathlib.Data.List.Infix
import Mathlib.Algebra.Group.Nat.Basic

/-! The daemon's WebSocket receive loop, `BrainDaemon::wsProcessFrame` of `src/main.cpp`, and
its frame length `header_len + payload_len` computed in 64 bits. -/

namespace Milkspider

/-- `RX_BUFFER_SIZE`. -/
def rxBufferSize : Nat := 4096

/-- A frame header as `wsProcessFrame` reads it. -/
structure FrameHeader where
  /-- `buf[0] & 0x80`. -/
  fin : Bool
  /-- `buf[0] & 0x0F`. -/
  opcode : BitVec 8
  /-- `buf[1] & 0x80`. -/
  masked : Bool
  /-- `payload_len`, a `uint64_t`. -/
  payloadLen : BitVec 64
  /-- `header_len`, a `size_t`, with the mask key. -/
  headerLen : BitVec 64
  deriving DecidableEq, Repr

/-- The loop `payload_len = (payload_len << 8) | buf[2 + i]`: bytes read big-endian into 64 bits. -/
def bigEndian64 (bytes : List (BitVec 8)) : BitVec 64 :=
  bytes.foldl (fun acc byte => (acc <<< 8) ||| byte.setWidth 64) 0

/-- The header at the front of the live bytes `rx` (at least two of them), or `none` where
`wsProcessFrame` returns because the extended length has not all arrived. -/
def decodeHeader (rx : List (BitVec 8)) : Option FrameHeader :=
  let b0 := rx.getD 0 0
  let b1 := rx.getD 1 0
  let len7 := b1 &&& 0x7F
  let masked := (b1 &&& 0x80) != 0
  let header (payloadLen headerLen : BitVec 64) : FrameHeader :=
    ⟨(b0 &&& 0x80) != 0, b0 &&& 0x0F, masked, payloadLen, if masked then headerLen + 4 else headerLen⟩
  if len7 = 126 then
    if rx.length < 4 then none
    else some (header (((rx.getD 2 0).setWidth 64 <<< 8) ||| (rx.getD 3 0).setWidth 64) 4)
  else if len7 = 127 then
    if rx.length < 10 then none
    else some (header (bigEndian64 ((rx.drop 2).take 8)) 10)
  else some (header (len7.setWidth 64) 2)

/-- What `wsProcessFrame` passes on for a frame. -/
inductive WsEvent
  /-- `handleCommand(msg)` with the payload of a final text frame. -/
  | command (payload : List (BitVec 8))
  /-- `wsSendFrame(client.fd, nullptr, 0, 0x08)`, the answer to a close frame. -/
  | close
  /-- `wsSendFrame(client.fd, payload, payload_len, 0x0A)`, the pong to a ping. -/
  | pong (payload : List (BitVec 8))
  deriving DecidableEq, Repr

/-- `payload[i] ^= mask[i % 4]`. -/
def unmask (mask payload : List (BitVec 8)) : List (BitVec 8) :=
  payload.enum.map fun (i, byte) => byte ^^^ mask.getD (i % 4) 0

/-- Whether a pass reads the frame's payload: to unmask it in place, to copy it into the command
string, or to echo it in the pong. -/
def FrameHeader.readsPayload (h : FrameHeader) : Bool :=
  h.masked || (h.opcode == 1 && h.fin) || h.opcode == 9

/-- What one pass of the loop does with the live bytes. -/
inductive FrameStep
  /-- `return`: the live bytes hold no complete frame. -/
  | incomplete
  /-- The frame was handled: the live bytes after the `memmove`, and what it passed on. -/
  | consumed (rest : List (BitVec 8)) (events : List WsEvent)
  /-- The pass reads or writes a byte at or past `rx_len`. -/
  | outOfBounds
  deriving DecidableEq, Repr

/-- One pass of `wsProcessFrame`'s loop on the live bytes `rx` (at least two of them). The length
check and `frame_len` are 64-bit sums; the payload the pass reads is `payload_len` bytes after the
header, counted without bound. The bytes it unmasks in place lie in the frame, which the
`memmove` drops whenever they are in the buffer. -/
def frameStep (rx : List (BitVec 8)) : FrameStep :=
  match decodeHeader rx with
  | none => .incomplete
  | some h =>
    let frameLen := h.headerLen + h.payloadLen
    if BitVec.ofNat 64 rx.length < frameLen then .incomplete
    else if h.readsPayload && rx.length < h.headerLen.toNat + h.payloadLen.toNat then .outOfBounds
    else
      let read := (rx.drop h.headerLen.toNat).take h.payloadLen.toNat
      let payload := if h.masked then unmask ((rx.drop (h.headerLen.toNat - 4)).take 4) read else read
      let events : List WsEvent :=
        if h.opcode == 1 && h.fin then [.command payload]
        else if h.opcode == 8 then [.close]
        else if h.opcode == 9 then [.pong payload]
        else []
      .consumed (if frameLen.toNat < rx.length then rx.drop frameLen.toNat else []) events

/-- How `wsProcessFrame` ends. -/
inductive FrameResult
  /-- It returns, leaving `rx_len` bytes `rest`, after the frames passed on `events`. -/
  | done (rest : List (BitVec 8)) (events : List WsEvent)
  /-- A pass read or wrote a byte at or past `rx_len`. -/
  | outOfBounds
  deriving DecidableEq, Repr

/-- The events of the frames before a result. -/
def FrameResult.after (events : List WsEvent) : FrameResult → FrameResult
  | .done rest more => .done rest (events ++ more)
  | .outOfBounds => .outOfBounds

/-- `wsProcessFrame` on the live bytes `rx_buffer[0, rx_len)`, with at most `fuel` tests of its
loop condition `rx_len >= 2`; `none` when they run out. -/
def wsProcessFrame : Nat → List (BitVec 8) → Option FrameResult
  | 0, _ => none
  | fuel + 1, rx =>
    if rx.length < 2 then some (.done rx [])
    else
      match frameStep rx with
      | .incomplete => some (.done rx [])
      | .outOfBounds => some .outOfBounds
      | .consumed rest events => (wsProcessFrame fuel rest).map (FrameResult.after events)

/-! ## Frames as RFC 6455 reads them -/

/-- The bytes hold no complete frame: fewer than two, a header whose extended length has not all
arrived, or a frame whose length, counted without bound, is more than the bytes. -/
def IncompleteFrame (rx : List (BitVec 8)) : Prop :=
  rx.length < 2 ∨ decodeHeader rx = none ∨
    ∃ h, decodeHeader rx = some h ∧ rx.length < h.headerLen.toNat + h.payloadLen.toNat

/-- The frame at the front of the bytes has a length, counted without bound, of `2^64` or more:
`header_len + payload_len` wraps. -/
def WrapsLength (rx : List (BitVec 8)) : Prop :=
  ∃ h, decodeHeader rx = some h ∧ 2 ^ 64 ≤ h.headerLen.toNat + h.payloadLen.toNat

/-! ## One pass of the loop -/

/-- The header, mask key included, is 2 to 14 bytes. -/
theorem decodeHeader_headerLen {rx : List (BitVec 8)} {h : FrameHeader} (decoded : decodeHeader rx = some h) :
    2 ≤ h.headerLen.toNat ∧ h.headerLen.toNat ≤ 14 := by
  -- Each of the header's length branches fixes the length.
  simp only [decodeHeader] at decoded
  split_ifs at decoded <;> (obtain rfl := Option.some.inj decoded; dsimp only; decide)

/-- The buffer's length fits in the 64-bit `rx_len`. -/
theorem ofNat_length_toNat {rx : List (BitVec 8)} (small : rx.length ≤ rxBufferSize) :
    (BitVec.ofNat 64 rx.length).toNat = rx.length :=
  -- 4096 is far below 2^64.
  Nat.mod_eq_of_lt (by unfold rxBufferSize at small; omega)

/-- Where the frame length does not wrap, a pass returns exactly when the frame is longer than
the bytes, and otherwise drops the frame. -/
theorem frameStep_of_fits {rx : List (BitVec 8)} {h : FrameHeader} (small : rx.length ≤ rxBufferSize)
    (decoded : decodeHeader rx = some h) (fits : h.headerLen.toNat + h.payloadLen.toNat < 2 ^ 64) :
    (rx.length < h.headerLen.toNat + h.payloadLen.toNat ∧ frameStep rx = .incomplete) ∨
    (h.headerLen.toNat + h.payloadLen.toNat ≤ rx.length ∧
      ∃ events, frameStep rx = .consumed (rx.drop (h.headerLen.toNat + h.payloadLen.toNat)) events) := by
  -- Without the wrap the 64-bit length is the true one, so the tests read as on naturals.
  have frameLen : (h.headerLen + h.payloadLen).toNat = h.headerLen.toNat + h.payloadLen.toNat := by
    rw [BitVec.toNat_add, Nat.mod_eq_of_lt fits]
  have length := ofNat_length_toNat small
  unfold frameStep
  rw [decoded]
  dsimp only
  by_cases short : rx.length < h.headerLen.toNat + h.payloadLen.toNat
  · exact .inl ⟨short, if_pos (by rw [BitVec.lt_def, length, frameLen]; exact short)⟩
  · refine .inr ⟨by omega, ?_⟩
    rw [if_neg (by rw [BitVec.lt_def, length, frameLen]; exact short), if_neg (by simp [short]), frameLen]
    refine ⟨_, congrArg₂ FrameStep.consumed ?_ rfl⟩
    -- A frame that fills the bytes leaves none.
    split_ifs with longer
    · rfl
    · rw [List.drop_eq_nil_of_le (by omega)]

/-- A frame whose 64-bit length is 0 and whose payload is not read is dropped with no byte: the
bytes stay as they were. -/
theorem frameStep_of_zero_length {rx : List (BitVec 8)} {h : FrameHeader} (two : 2 ≤ rx.length)
    (decoded : decodeHeader rx = some h) (zero : h.headerLen + h.payloadLen = 0) (unread : h.readsPayload = false) :
    ∃ events, frameStep rx = .consumed rx events := by
  -- A zero length is never above rx_len, and it drops nothing.
  unfold frameStep
  rw [decoded]
  dsimp only
  rw [zero, if_neg fun lt => absurd (BitVec.lt_def.mp lt) (by simp), unread, Bool.false_and, if_neg Bool.false_ne_true,
    if_pos (by simp; omega)]
  exact ⟨_, rfl⟩

/-- A frame whose length wraps to at most the bytes, and whose payload is read, is read past
`rx_len`. -/
theorem frameStep_of_wrapped_read {rx : List (BitVec 8)} {h : FrameHeader} (small : rx.length ≤ rxBufferSize)
    (decoded : decodeHeader rx = some h) (wraps : 2 ^ 64 ≤ h.headerLen.toNat + h.payloadLen.toNat)
    (within : h.headerLen.toNat + h.payloadLen.toNat - 2 ^ 64 ≤ rx.length) (reads : h.readsPayload = true) :
    frameStep rx = .outOfBounds := by
  -- The wrapped length is the true one less 2^64, at most rx_len, so the payload read goes past it.
  have bounded := (decodeHeader_headerLen decoded).2
  have frameLen : (h.headerLen + h.payloadLen).toNat = h.headerLen.toNat + h.payloadLen.toNat - 2 ^ 64 := by
    rw [BitVec.toNat_add]
    have := h.payloadLen.isLt
    omega
  have length := ofNat_length_toNat small
  unfold frameStep
  rw [decoded]
  dsimp only
  rw [if_neg (by rw [BitVec.lt_def, length, frameLen]; omega),
    if_pos (by simp [reads]; unfold rxBufferSize at small; omega)]

/-! ## The loop -/

/-- Where no frame length wraps, the loop returns once it has had more tests than there are
bytes. It reads nothing past `rx_len`, and leaves a suffix of the bytes that holds no complete
frame. -/
theorem wsProcessFrame_of_no_wrap {fuel : Nat} {rx : List (BitVec 8)} (enough : rx.length < fuel)
    (small : rx.length ≤ rxBufferSize) (noWrap : ∀ k, ¬WrapsLength (rx.drop k)) :
    ∃ rest events, wsProcessFrame fuel rx = some (.done rest events) ∧ rest <:+ rx ∧ IncompleteFrame rest := by
  -- Induction on the fuel: each pass either stops or drops at least two bytes.
  induction fuel generalizing rx with
  | zero => omega
  | succ fuel ih =>
    rw [wsProcessFrame]
    by_cases two : rx.length < 2
    · exact ⟨rx, [], by rw [if_pos two], List.suffix_refl rx, .inl two⟩
    rw [if_neg two]
    cases decoded : decodeHeader rx with
    | none =>
      -- The extended length has not all arrived.
      rw [show frameStep rx = .incomplete by simp [frameStep, decoded]]
      exact ⟨rx, [], rfl, List.suffix_refl rx, .inr (.inl decoded)⟩
    | some h =>
      have fits : h.headerLen.toNat + h.payloadLen.toNat < 2 ^ 64 :=
        Nat.lt_of_not_le fun wraps => noWrap 0 ⟨h, by simpa using decoded, wraps⟩
      rcases frameStep_of_fits small decoded fits with ⟨short, step⟩ | ⟨fitsIn, events, step⟩
      · rw [step]
        exact ⟨rx, [], rfl, List.suffix_refl rx, .inr (.inr ⟨h, decoded, short⟩)⟩
      · -- The frame is dropped, at least two bytes, and the loop goes on in what follows it.
        have header := decodeHeader_headerLen decoded
        obtain ⟨rest, more, run, suffix, incomplete⟩ :=
          @ih (rx.drop (h.headerLen.toNat + h.payloadLen.toNat)) (by simp only [List.length_drop]; omega)
            (by simp only [List.length_drop]; omega) fun k => by rw [List.drop_drop]; exact noWrap _
        rw [step]
        simp only [run]
        exact ⟨rest, events ++ more, rfl, suffix.trans (List.drop_suffix _ _), incomplete⟩

/-- A frame whose 64-bit length is 0 and whose payload is not read keeps the loop on the same
bytes: it never returns. -/
theorem wsProcessFrame_of_zero_length {rx : List (BitVec 8)} {h : FrameHeader} (two : 2 ≤ rx.length)
    (decoded : decodeHeader rx = some h) (zero : h.headerLen + h.payloadLen = 0) (unread : h.readsPayload = false)
    (fuel : Nat) : wsProcessFrame fuel rx = none := by
  -- Each pass returns to the same bytes, so every fuel runs out.
  obtain ⟨events, step⟩ := frameStep_of_zero_length two decoded zero unread
  induction fuel with
  | zero => rfl
  | succ fuel ih =>
    rw [wsProcessFrame, if_neg (by omega), step]
    simp only [ih, Option.map_none']

/--
`BrainDaemon::wsProcessFrame` on any `rx_buffer[0, rx_len)` with `rx_len <= RX_BUFFER_SIZE`.
Where no frame at any position has a length `header_len + payload_len` of `2^64` or more, it
returns after at most `rx_len` passes. It reads nothing at or past `rx_len`, and leaves
`rx_len` bytes that are a suffix holding no complete frame. A frame whose 64-bit length
wraps to 0, and whose payload is not read, keeps it looping on the same bytes forever. A frame
whose length wraps to at most `rx_len`, and whose payload is read, is read past `rx_len`.
-/
theorem ws_frame_length_wraps :
    (∀ (fuel : Nat) (rx : List (BitVec 8)), rx.length ≤ rxBufferSize → rx.length < fuel →
      (∀ k, ¬WrapsLength (rx.drop k)) →
      ∃ rest events, wsProcessFrame fuel rx = some (.done rest events) ∧ rest <:+ rx ∧ IncompleteFrame rest) ∧
    (∀ (rx : List (BitVec 8)) (h : FrameHeader), 2 ≤ rx.length → decodeHeader rx = some h →
      h.headerLen + h.payloadLen = 0 → h.readsPayload = false → ∀ fuel, wsProcessFrame fuel rx = none) ∧
    (∀ (rx : List (BitVec 8)) (h : FrameHeader), 2 ≤ rx.length → rx.length ≤ rxBufferSize →
      decodeHeader rx = some h → 2 ^ 64 ≤ h.headerLen.toNat + h.payloadLen.toNat →
      h.headerLen.toNat + h.payloadLen.toNat - 2 ^ 64 ≤ rx.length → h.readsPayload = true →
      ∀ fuel, wsProcessFrame (fuel + 1) rx = some .outOfBounds) :=
  -- The three parts are the three lemmas on the loop and on one pass.
  ⟨fun _ _ small enough noWrap => wsProcessFrame_of_no_wrap enough small noWrap,
    fun _ _ two decoded zero unread => wsProcessFrame_of_zero_length two decoded zero unread,
    fun rx _ two small decoded wraps within reads _ => by
      rw [wsProcessFrame, if_neg (by omega), frameStep_of_wrapped_read small decoded wraps within reads]⟩

/-- The ten bytes of a final binary frame, unmasked, whose 64-bit length is `2^64 - 10`. -/
def wrapToZeroFrame : List (BitVec 8) := [0x82, 0x7F, 0xFF, 0xFF, 0xFF, 0xFF, 0xFF, 0xFF, 0xFF, 0xF6]

/-- The fourteen bytes of a final text frame, masked, whose 64-bit length is `2^64 - 14`. -/
def wrapMaskedFrame : List (BitVec 8) :=
  [0x81, 0xFF, 0xFF, 0xFF, 0xFF, 0xFF, 0xFF, 0xFF, 0xFF, 0xF2, 0x01, 0x02, 0x03, 0x04]

/-- `wsProcessFrame` never returns on `wrapToZeroFrame`, and unmasks past `rx_len` on
`wrapMaskedFrame`. -/
theorem wrapped_frame_length_hangs :
    (∀ fuel, wsProcessFrame fuel wrapToZeroFrame = none) ∧ wsProcessFrame 1 wrapMaskedFrame = some .outOfBounds :=
  -- The two frames decode to the headers given, and the general statement applies.
  ⟨ws_frame_length_wraps.2.1 wrapToZeroFrame ⟨true, 2, false, 0xFFFFFFFFFFFFFFF6, 10⟩ (by decide) (by decide)
      (by decide) (by decide),
    ws_frame_length_wraps.2.2 wrapMaskedFrame ⟨true, 1, true, 0xFFFFFFFFFFFFFFF2, 14⟩ (by decide) (by decide)
      (by decide) (by decide) (by decide) (by decide) 0⟩

end Milkspider
