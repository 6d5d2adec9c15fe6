import Milkspider.System.WebSocket
import Mathlib.Data.List.GetD

/-! Frames in both directions of the daemon's WebSocket connections (`src/main.cpp`), and the
receive path of `processClients` over any sizes `recv` hands over. -/

namespace Milkspider

/-! ## Lengths in the header -/

/-- `wsSendFrame`'s loop `header[2 + i] = (len >> ((7 - i) * 8)) & 0xFF`: a 64-bit length, most
significant byte first. -/
def beBytes64 (len : BitVec 64) : List (BitVec 8) :=
  (List.range 8).map fun i => (len >>> ((7 - i) * 8)).setWidth 8

/-- `wsSendFrame` writes eight bytes of a 64-bit length. -/
@[simp] theorem length_beBytes64 (len : BitVec 64) : (beBytes64 len).length = 8 := by
  -- One byte per index of the loop.
  simp [beBytes64]

/-- Shifting in a byte below eight free bits adds it. -/
theorem toNat_shiftLeft_or_byte {acc : BitVec 64} (small : acc.toNat < 2 ^ 56) (byte : BitVec 8) :
    ((acc <<< 8) ||| byte.setWidth 64).toNat = acc.toNat * 256 + byte.toNat := by
  -- The byte fills the eight bits the shift cleared, so the or is an addition.
  have disjoint : (acc <<< 8) ||| byte.setWidth 64 = acc <<< 8 + byte.setWidth 64 := by
    rw [BitVec.add_eq_or_of_and_eq_zero]
    ext i
    simp only [BitVec.getLsbD_and, BitVec.getLsbD_shiftLeft, BitVec.getLsbD_setWidth, BitVec.getLsbD_zero]
    by_cases low : (i : Nat) < 8
    · simp [low]
    · simp [low, BitVec.getLsbD_ge byte i (by omega)]
  rw [disjoint, BitVec.toNat_add, BitVec.toNat_shiftLeft, BitVec.toNat_setWidth, Nat.shiftLeft_eq]
  have := byte.isLt
  omega

/-- Reading the first `k` bytes back gives the top `8 k` bits. -/
theorem bigEndian64_range (len : BitVec 64) {k : Nat} (le : k ≤ 8) :
    bigEndian64 ((List.range k).map fun i => (len >>> ((7 - i) * 8)).setWidth 8) = len >>> (64 - 8 * k) := by
  -- Induction on the bytes read: each one shifts in the next eight bits down.
  unfold bigEndian64
  induction k with
  | zero =>
    apply BitVec.eq_of_toNat_eq
    simp [Nat.shiftRight_eq_div_pow, Nat.div_eq_of_lt len.isLt]
  | succ k ih =>
    rw [List.range_succ, List.map_append, List.foldl_append, ih (by omega)]
    apply BitVec.eq_of_toNat_eq
    have top : (len >>> (64 - 8 * k)).toNat < 2 ^ 56 := by
      rw [BitVec.toNat_ushiftRight, Nat.shiftRight_eq_div_pow, Nat.div_lt_iff_lt_mul (Nat.two_pow_pos _), ← pow_add]
      exact len.isLt.trans_le (Nat.pow_le_pow_right (by decide) (by omega))
    simp only [List.map_cons, List.map_nil, List.foldl_cons, List.foldl_nil]
    -- The new byte is the next eight bits down.
    rw [toNat_shiftLeft_or_byte top, BitVec.toNat_setWidth, BitVec.toNat_ushiftRight, BitVec.toNat_ushiftRight,
      BitVec.toNat_ushiftRight, Nat.shiftRight_eq_div_pow, Nat.shiftRight_eq_div_pow, Nat.shiftRight_eq_div_pow,
      show 64 - 8 * (k + 1) = (7 - k) * 8 by omega, show 64 - 8 * k = (7 - k) * 8 + 8 by omega, pow_add,
      ← Nat.div_div_eq_div_mul]
    omega

/-- `wsProcessFrame`'s 64-bit length loop reads back what `wsSendFrame`'s writes. -/
theorem bigEndian64_beBytes64 (len : BitVec 64) : bigEndian64 (beBytes64 len) = len := by
  -- All eight bytes read back the whole length.
  simpa using bigEndian64_range len (le_refl 8)

/-! ## Reading a header -/

/-- A header with a 7-bit length. -/
theorem decodeHeader_of_short (b0 b1 : BitVec 8) (rest : List (BitVec 8)) (len7 : (b1 &&& 0x7F).toNat < 126) :
    decodeHeader (b0 :: b1 :: rest) = some ⟨(b0 &&& 0x80) != 0, b0 &&& 0x0F, (b1 &&& 0x80) != 0,
      (b1 &&& 0x7F).setWidth 64, if (b1 &&& 0x80) != 0 then 2 + 4 else 2⟩ := by
  -- A 7-bit length is neither of the two escapes.
  have no126 : b1 &&& 0x7F ≠ 126 := fun eq => by rw [eq] at len7; exact absurd len7 (by decide)
  have no127 : b1 &&& 0x7F ≠ 127 := fun eq => by rw [eq] at len7; exact absurd len7 (by decide)
  simp only [decodeHeader, List.getD_cons_zero, List.getD_cons_succ, if_neg no126, if_neg no127]

/-- A header with a 16-bit length. -/
theorem decodeHeader_of_medium (b0 b1 hi lo : BitVec 8) (rest : List (BitVec 8)) (len7 : b1 &&& 0x7F = 126) :
    decodeHeader (b0 :: b1 :: hi :: lo :: rest) = some ⟨(b0 &&& 0x80) != 0, b0 &&& 0x0F, (b1 &&& 0x80) != 0,
      (hi.setWidth 64 <<< 8) ||| lo.setWidth 64, if (b1 &&& 0x80) != 0 then 4 + 4 else 4⟩ := by
  -- The escape `126` reads the next two bytes, which have arrived.
  simp only [decodeHeader, List.getD_cons_zero, List.getD_cons_succ, if_pos len7, List.length_cons]
  rw [if_neg (by omega)]

/-- A header with a 64-bit length. -/
theorem decodeHeader_of_long (b0 b1 : BitVec 8) (ext rest : List (BitVec 8)) (eight : ext.length = 8)
    (len7 : b1 &&& 0x7F = 127) :
    decodeHeader (b0 :: b1 :: (ext ++ rest)) = some ⟨(b0 &&& 0x80) != 0, b0 &&& 0x0F, (b1 &&& 0x80) != 0,
      bigEndian64 ext, if (b1 &&& 0x80) != 0 then 10 + 4 else 10⟩ := by
  -- The escape `127` reads the next eight bytes, which have arrived.
  have no126 : b1 &&& 0x7F ≠ 126 := by rw [len7]; decide
  simp only [decodeHeader, List.getD_cons_zero, List.getD_cons_succ, if_neg no126, if_pos len7, List.length_cons,
    List.length_append, eight, List.drop_succ_cons, List.drop_zero, List.take_left' eight]
  rw [if_neg (by omega)]

/-- What `wsProcessFrame` does with a frame's payload: a final text frame goes to
`handleCommand`, a close is answered, and a ping is echoed in a pong. -/
def headerEvents (fin : Bool) (opcode : BitVec 8) (payload : List (BitVec 8)) : List WsEvent :=
  if opcode == 1 && fin then [.command payload]
  else if opcode == 8 then [.close]
  else if opcode == 9 then [.pong payload]
  else []

/-- A frame whose header reads back its own length is taken whole by one pass: the pass hands on
its payload, unmasked with the header's last four bytes when the mask bit is set, and the live bytes
after it are what followed it. -/
theorem frameStep_of_header {header body more : List (BitVec 8)} {h : FrameHeader}
    (decoded : decodeHeader (header ++ body ++ more) = some h) (headerLen : h.headerLen.toNat = header.length)
    (payloadLen : h.payloadLen.toNat = body.length) (keyInHeader : h.masked = true → 4 ≤ header.length)
    (fits : (header ++ body ++ more).length < 2 ^ 64) :
    frameStep (header ++ body ++ more) =
      .consumed more (headerEvents h.fin h.opcode
        (if h.masked then unmask (header.drop (header.length - 4)) body else body)) := by
  -- The frame's length is within the bytes, so the pass takes header and payload and moves the rest down.
  have frameLen : (h.headerLen + h.payloadLen).toNat = header.length + body.length := by
    rw [BitVec.toNat_add, headerLen, payloadLen]; simp only [List.length_append] at fits; omega
  have total : (BitVec.ofNat 64 (header ++ body ++ more).length).toNat = (header ++ body ++ more).length := by
    rw [BitVec.toNat_ofNat]; omega
  have afterHeader : (header ++ body ++ more).drop header.length = body ++ more := by
    rw [List.append_assoc, List.drop_left' rfl]
  unfold frameStep
  rw [decoded]
  dsimp only
  rw [if_neg (by rw [BitVec.lt_def, frameLen, total, List.length_append, List.length_append]; omega),
    if_neg (by simp only [Bool.and_eq_true, decide_eq_true_iff, headerLen, payloadLen, List.length_append]; omega),
    frameLen, headerLen, payloadLen, afterHeader, List.take_left' rfl]
  congr 1
  · -- The `memmove` leaves what followed the frame.
    split_ifs with longer
    · rw [← List.drop_drop, afterHeader, List.drop_left' rfl]
    · simp only [List.length_append] at longer
      exact (List.eq_nil_of_length_eq_zero (by omega)).symm
  · -- The masking key is the header's last four bytes.
    by_cases masked : h.masked = true
    · have key : ((header ++ body ++ more).drop (header.length - 4)).take 4 = header.drop (header.length - 4) := by
        have := keyInHeader masked
        rw [List.append_assoc, List.drop_append_of_le_length (by omega), List.take_left' (by simp; omega)]
      simp only [masked, if_true, key, headerEvents]
    · simp only [Bool.not_eq_true] at masked
      simp only [masked, Bool.false_eq_true, if_false, headerEvents]

/-! ## Frames the daemon sends -/

/-- `BrainDaemon::wsSendFrame`: the header it sends, `0x80 | opcode` and the length in its shortest
form, then the payload when there is one. -/
def wsSendFrame (data : List (BitVec 8)) (opcode : BitVec 8) : List (BitVec 8) :=
  let len : BitVec 64 := BitVec.ofNat 64 data.length
  let header : List (BitVec 8) :=
    if len < 126 then [0x80 ||| opcode, len.setWidth 8]
    else if len < 65536 then [0x80 ||| opcode, 126, (len >>> 8).setWidth 8, len.setWidth 8]
    else (0x80 ||| opcode) :: 127 :: beBytes64 len
  header ++ data

/-- The first byte `0x80 | opcode` of a frame the daemon sends: FIN and the opcode. -/
theorem sentFirstByte (opcode : BitVec 4) :
    ((0x80 ||| opcode.setWidth 8) &&& 0x80 != 0) = true ∧ (0x80 ||| opcode.setWidth 8) &&& 0x0F = opcode.setWidth 8 := by
  -- Every opcode is checked.
  revert opcode; decide

/-- Whatever its length, a frame `wsSendFrame` writes is read back by `wsProcessFrame` as one
final, unmasked frame with the same opcode and payload: the writer's three length forms are the
reader's. -/
theorem frameStep_wsSendFrame (opcode : BitVec 4) (data more : List (BitVec 8))
    (fits : (wsSendFrame data (opcode.setWidth 8) ++ more).length < 2 ^ 64) :
    frameStep (wsSendFrame data (opcode.setWidth 8) ++ more) =
      .consumed more (headerEvents true (opcode.setWidth 8) data) := by
  -- Each of the writer's three length forms is the reader's, and the daemon never masks.
  obtain ⟨fin, code⟩ := sentFirstByte opcode
  have dataSmall : data.length < 2 ^ 64 := by simp [wsSendFrame] at fits; omega
  have lenNat : (BitVec.ofNat 64 data.length).toNat = data.length := by rw [BitVec.toNat_ofNat]; omega
  unfold wsSendFrame at fits ⊢
  dsimp only at fits ⊢
  by_cases short : BitVec.ofNat 64 data.length < 126
  · -- A 7-bit length.
    rw [if_pos short] at fits ⊢
    have len7 : ∀ x : BitVec 8, x.toNat < 126 → x &&& 0x7F = x ∧ (x &&& 0x80 != 0) = false := by decide
    have shortNat : data.length < 126 := by rw [BitVec.lt_def, lenNat] at short; simpa using short
    have lenSmall : ((BitVec.ofNat 64 data.length).setWidth 8).toNat < 126 := by simp; omega
    obtain ⟨low, unmasked⟩ := len7 _ lenSmall
    have decoded := decodeHeader_of_short (0x80 ||| opcode.setWidth 8) ((BitVec.ofNat 64 data.length).setWidth 8)
      (data ++ more) (by rw [low]; exact lenSmall)
    rw [fin, code, low, unmasked] at decoded
    rw [@frameStep_of_header [_, _] _ _ _ decoded rfl ?_ (fun no => Bool.noConfusion no) fits]
    · rfl
    · simp; omega
  · by_cases medium : BitVec.ofNat 64 data.length < 65536
    · -- A 16-bit length.
      rw [if_neg short, if_pos medium] at fits ⊢
      have mediumNat : data.length < 65536 := by rw [BitVec.lt_def, lenNat] at medium; simpa using medium
      have decoded := decodeHeader_of_medium (0x80 ||| opcode.setWidth 8) 126
        ((BitVec.ofNat 64 data.length >>> 8).setWidth 8) ((BitVec.ofNat 64 data.length).setWidth 8) (data ++ more)
        (by decide)
      rw [fin, code, show ((126 : BitVec 8) &&& 0x80 != 0) = false by decide] at decoded
      rw [@frameStep_of_header [_, _, _, _] _ _ _ decoded rfl ?_ (fun no => Bool.noConfusion no) fits]
      · rfl
      · rw [toNat_shiftLeft_or_byte (by simp; omega)]
        simp only [BitVec.toNat_setWidth, BitVec.toNat_ushiftRight, lenNat, Nat.shiftRight_eq_div_pow]
        omega
    · -- A 64-bit length.
      rw [if_neg short, if_neg medium] at fits ⊢
      have decoded := decodeHeader_of_long (0x80 ||| opcode.setWidth 8) 127 (beBytes64 (BitVec.ofNat 64 data.length))
        (data ++ more) (length_beBytes64 _) (by decide)
      rw [fin, code, show ((127 : BitVec 8) &&& 0x80 != 0) = false by decide, bigEndian64_beBytes64] at decoded
      rw [@frameStep_of_header ((0x80 ||| opcode.setWidth 8) :: 127 :: beBytes64 (BitVec.ofNat 64 data.length)) data
        more _ decoded (by simp) lenNat (fun no => Bool.noConfusion no) fits]
      rfl

/-- The pong `wsSendFrame` writes to a ping of one byte is read back as a pong of that byte. -/
theorem sent_pong_read_back :
    (wsSendFrame [0x61] ((10 : BitVec 4).setWidth 8) ++ []).length < 2 ^ 64 ∧
      frameStep (wsSendFrame [0x61] ((10 : BitVec 4).setWidth 8) ++ []) =
        .consumed [] (headerEvents true ((10 : BitVec 4).setWidth 8) [0x61]) :=
  -- The frame is short; the theorem reads it back.
  ⟨by decide, frameStep_wsSendFrame 10 [0x61] [] (by decide)⟩

/-! ## Frames a client sends -/

/-- Unmasking keeps the payload's length. -/
@[simp] theorem length_unmask (mask payload : List (BitVec 8)) : (unmask mask payload).length = payload.length := by
  -- Unmasking maps each byte to one byte.
  simp [unmask]

/-- Byte `i` of the payload is masked with byte `i % 4` of the key. -/
theorem getElem?_unmask (mask payload : List (BitVec 8)) (i : Nat) :
    (unmask mask payload)[i]? = payload[i]?.map fun byte => byte ^^^ mask.getD (i % 4) 0 := by
  -- Unmasking indexes the key with the byte's position modulo four.
  simp [unmask, List.getElem?_enum]
  rfl

/-- Masking is its own inverse (RFC 6455, 5.3): `unmask` undoes what a client's masking did. -/
theorem unmask_unmask (mask payload : List (BitVec 8)) : unmask mask (unmask mask payload) = payload :=
  -- Each byte is xored twice with the same key byte.
  List.ext_getElem? fun i => by
    rw [getElem?_unmask, getElem?_unmask, Option.map_map]
    cases payload[i]? <;> simp [BitVec.xor_assoc]

/-- The four bytes a client masks a payload with. -/
structure MaskingKey where
  bytes : List (BitVec 8)
  four : bytes.length = 4

/-- A frame a client sends: FIN, the opcode, its masking key and the payload before masking. -/
structure ClientFrame where
  fin : Bool
  opcode : BitVec 4
  key : MaskingKey
  payload : List (BitVec 8)

/-- The second byte and the extended length of a masked frame, in the shortest form (RFC 6455,
5.2). -/
def maskedLength (len : Nat) : List (BitVec 8) :=
  if len < 126 then [0x80 ||| BitVec.ofNat 8 len]
  else if len < 65536 then [0xFE, BitVec.ofNat 8 (len / 256), BitVec.ofNat 8 len]
  else 0xFF :: beBytes64 (BitVec.ofNat 64 len)

/-- The bytes of the length field after the second byte. -/
def extendedLength (len : Nat) : Nat := if len < 126 then 0 else if len < 65536 then 2 else 8

/-- The header of a client frame: FIN and the opcode, the length with the mask bit, the key. -/
def ClientFrame.header (f : ClientFrame) : List (BitVec 8) :=
  (((if f.fin then 0x80 else 0) ||| f.opcode.setWidth 8) :: maskedLength f.payload.length) ++ f.key.bytes

/-- A client frame on the wire: the header, then the payload masked with the key. -/
def ClientFrame.bytes (f : ClientFrame) : List (BitVec 8) := f.header ++ unmask f.key.bytes f.payload

/-- What the daemon does with a client frame. -/
def ClientFrame.events (f : ClientFrame) : List WsEvent := headerEvents f.fin (f.opcode.setWidth 8) f.payload

/-- The length field of a masked frame: its second byte and the extended length. -/
@[simp] theorem length_maskedLength (len : Nat) : (maskedLength len).length = 1 + extendedLength len := by
  -- One case per length form.
  unfold maskedLength extendedLength
  split_ifs <;> simp

/-- A client frame's header: two bytes, the extended length and the key. -/
theorem ClientFrame.length_header (f : ClientFrame) : f.header.length = 6 + extendedLength f.payload.length := by
  -- The first byte, the length field and the four key bytes.
  simp [ClientFrame.header, f.key.four]; omega

/-- A client frame's bytes: its header and its payload. -/
theorem ClientFrame.length_bytes (f : ClientFrame) :
    f.bytes.length = 6 + extendedLength f.payload.length + f.payload.length := by
  -- The header, then a payload of its own length.
  simp [ClientFrame.bytes, f.length_header]

/-- The first byte of a client frame holds its FIN bit and its opcode. -/
theorem clientFirstByte (fin : Bool) (opcode : BitVec 4) :
    (((if fin then 0x80 else 0) ||| opcode.setWidth 8) &&& 0x80 != 0) = fin ∧
      ((if fin then 0x80 else 0) ||| opcode.setWidth 8) &&& 0x0F = opcode.setWidth 8 := by
  -- Every FIN bit and opcode is checked.
  revert fin opcode; decide

/-- `wsProcessFrame` reads a client frame's header as the frame's own: FIN, opcode, the mask bit,
and the length whatever its form. -/
theorem decodeHeader_clientFrame (f : ClientFrame) (more : List (BitVec 8)) (fits : f.payload.length < 2 ^ 64) :
    decodeHeader (f.bytes ++ more) = some ⟨f.fin, f.opcode.setWidth 8, true, BitVec.ofNat 64 f.payload.length,
      BitVec.ofNat 64 (6 + extendedLength f.payload.length)⟩ := by
  -- One case per length form, each with the mask bit set.
  obtain ⟨fin, opcode⟩ := clientFirstByte f.fin f.opcode
  unfold ClientFrame.bytes ClientFrame.header maskedLength extendedLength
  by_cases short : f.payload.length < 126
  · -- The mask bit over a 7-bit length.
    have len7 : ∀ x : BitVec 8, x.toNat < 126 → (0x80 ||| x) &&& 0x7F = x ∧ ((0x80 ||| x) &&& 0x80 != 0) = true := by
      decide
    have small : (BitVec.ofNat 8 f.payload.length).toNat < 126 := by simp; omega
    obtain ⟨low, maskBit⟩ := len7 _ small
    simp only [if_pos short, List.cons_append, List.singleton_append, List.append_assoc]
    rw [decodeHeader_of_short _ _ _ (by rw [low]; exact small), fin, opcode, low, maskBit]
    congr 2
    apply BitVec.eq_of_toNat_eq
    simp only [BitVec.toNat_setWidth, BitVec.toNat_ofNat]
    omega
  · by_cases medium : f.payload.length < 65536
    · -- `0xFE`, then a 16-bit length.
      simp only [if_neg short, if_pos medium, List.cons_append, List.singleton_append, List.append_assoc]
      rw [decodeHeader_of_medium _ _ _ _ _ (by decide), fin, opcode]
      congr 2
      apply BitVec.eq_of_toNat_eq
      rw [toNat_shiftLeft_or_byte (by simp; omega)]
      simp only [BitVec.toNat_setWidth, BitVec.toNat_ofNat]
      omega
    · -- `0xFF`, then a 64-bit length.
      simp only [if_neg short, if_neg medium, List.cons_append, List.singleton_append, List.append_assoc]
      rw [decodeHeader_of_long _ _ _ _ (length_beBytes64 _) (by decide), fin, opcode, bigEndian64_beBytes64]
      rfl

/-- One pass of `wsProcessFrame`'s loop takes a whole client frame, hands on its payload unmasked,
and leaves what followed it. -/
theorem frameStep_clientFrame (f : ClientFrame) (more : List (BitVec 8)) (fits : (f.bytes ++ more).length < 2 ^ 64) :
    frameStep (f.bytes ++ more) = .consumed more f.events := by
  -- The header reads back the frame's own length, and its last four bytes are the key.
  have lengths := f.length_bytes
  have headerLen := f.length_header
  simp only [List.length_append] at fits
  have decoded := decodeHeader_clientFrame f more (by omega)
  unfold ClientFrame.bytes at decoded ⊢
  rw [frameStep_of_header decoded (by rw [BitVec.toNat_ofNat, headerLen]; omega) (by simp; omega)
    (fun _ => by omega) (by simp only [List.length_append, length_unmask]; omega)]
  -- The header's last four bytes are the key.
  rw [if_pos rfl, show f.header.drop (f.header.length - 4) = f.key.bytes by
    rw [ClientFrame.header, List.drop_append_of_le_length (by simp [f.key.four]), List.length_append, f.key.four,
      Nat.add_sub_cancel, List.drop_length, List.nil_append], unmask_unmask]
  rfl

/-! ## Bytes that reach the loop -/

/-- Bytes after a header that has all arrived do not change it. -/
theorem decodeHeader_append {rx : List (BitVec 8)} {h : FrameHeader} (two : 2 ≤ rx.length)
    (decoded : decodeHeader rx = some h) (more : List (BitVec 8)) : decodeHeader (rx ++ more) = some h := by
  -- The header reads only bytes that have arrived, whichever length form it has.
  unfold decodeHeader at decoded ⊢
  rw [List.getD_append _ _ _ _ (by omega), List.getD_append _ _ _ _ (by omega)]
  dsimp only at decoded ⊢
  by_cases medium : rx.getD 1 0 &&& 0x7F = 126
  · have enough : ¬rx.length < 4 := fun short => by rw [if_pos medium, if_pos short] at decoded; cases decoded
    rw [if_pos medium, if_neg enough] at decoded
    rw [if_pos medium, if_neg (by simp; omega), List.getD_append _ _ _ _ (by omega),
      List.getD_append _ _ _ _ (by omega)]
    exact decoded
  · by_cases long : rx.getD 1 0 &&& 0x7F = 127
    · have enough : ¬rx.length < 10 := fun short => by
        rw [if_neg medium, if_pos long, if_pos short] at decoded; cases decoded
      rw [if_neg medium, if_pos long, if_neg enough] at decoded
      rw [if_neg medium, if_pos long, if_neg (by simp; omega), List.drop_append_of_le_length (by omega),
        List.take_append_of_le_length (by simp; omega)]
      exact decoded
    · rw [if_neg medium, if_neg long] at decoded ⊢
      exact decoded

/-- Bytes that hold no whole frame: fewer than two, or a client frame cut short. -/
def PartialFrame (part : List (BitVec 8)) : Prop :=
  part.length < 2 ∨ ∃ f : ClientFrame, ∃ rest, part ++ rest = f.bytes ∧ rest ≠ [] ∧ f.bytes.length < 2 ^ 64

/-- A client frame cut short is no frame yet: the pass returns. -/
theorem frameStep_of_cut {f : ClientFrame} {part rest : List (BitVec 8)} (whole : part ++ rest = f.bytes)
    (cut : rest ≠ []) (two : 2 ≤ part.length) (fits : f.bytes.length < 2 ^ 64) : frameStep part = .incomplete := by
  -- The header is the frame's own, so the length it reads runs past the bytes.
  have lengths := f.length_bytes
  have longer : part.length < f.bytes.length := by
    rw [← whole, List.length_append]; have := List.length_pos.mpr cut; omega
  unfold frameStep
  cases decoded : decodeHeader part with
  | none => rfl
  | some h =>
    -- The header is the frame's own, and so is the length it reads.
    have same := decodeHeader_append two decoded rest
    rw [whole, ← List.append_nil f.bytes, decodeHeader_clientFrame f [] (by omega)] at same
    cases same
    dsimp only
    rw [if_pos]
    rw [BitVec.lt_def, BitVec.toNat_add, BitVec.toNat_ofNat, BitVec.toNat_ofNat, BitVec.toNat_ofNat]
    omega

/-- Every client frame has at least its six header bytes. -/
theorem length_le_flatMap_bytes (frames : List ClientFrame) :
    frames.length ≤ (frames.flatMap ClientFrame.bytes).length := by
  -- Induction over the frames, each of at least six bytes.
  induction frames with
  | nil => rfl
  | cons f frames ih => simp only [List.flatMap_cons, List.length_append, f.length_bytes, List.length_cons]; omega

/-- `wsProcessFrame` on whole client frames followed by bytes that hold no whole frame hands on
each frame's events in order and keeps those bytes. -/
theorem wsProcessFrame_frames (frames : List ClientFrame) {part : List (BitVec 8)} (cut : PartialFrame part)
    (fits : (frames.flatMap ClientFrame.bytes ++ part).length < 2 ^ 64) {fuel : Nat} (enough : frames.length < fuel) :
    wsProcessFrame fuel (frames.flatMap ClientFrame.bytes ++ part) =
      some (.done part (frames.flatMap ClientFrame.events)) := by
  -- Induction over the frames: each pass takes one, and the loop stops on the cut frame.
  obtain ⟨fuel, rfl⟩ : ∃ n, fuel = n + 1 := ⟨fuel - 1, by omega⟩
  induction frames generalizing fuel with
  | nil =>
    -- The loop stops on the cut frame.
    rw [List.flatMap_nil, List.nil_append, List.flatMap_nil, wsProcessFrame]
    by_cases short : part.length < 2
    · rw [if_pos short]
    · obtain ⟨f, rest, whole, nonempty, small⟩ := cut.resolve_left short
      rw [if_neg short, frameStep_of_cut whole nonempty (by omega) small]
  | cons f frames ih =>
    have lengths := f.length_bytes
    rw [List.flatMap_cons, List.append_assoc] at fits ⊢
    rw [wsProcessFrame, if_neg (by simp only [List.length_append]; omega), frameStep_clientFrame f _ fits]
    dsimp only
    obtain ⟨fuel, rfl⟩ : ∃ n, fuel = n + 1 := ⟨fuel - 1, by simp at enough; omega⟩
    rw [ih (by simp only [List.length_append] at fits ⊢; omega) fuel (by simp at enough; omega)]
    simp [FrameResult.after, List.flatMap_cons]

/-- What one pass leaves is no longer than the bytes it had. -/
theorem frameStep_consumed_length {rx rest : List (BitVec 8)} {events : List WsEvent}
    (step : frameStep rx = .consumed rest events) : rest.length ≤ rx.length := by
  -- Only the three tests of the pass decide the rest; splitting on the events' tests too costs twice.
  unfold frameStep at step
  split at step
  · cases step
  · dsimp only at step
    split at step
    · cases step
    · split at step
      · cases step
      · cases step
        split <;> simp only [List.length_drop, List.length_nil] <;> omega

/-- `wsProcessFrame` leaves no more bytes than it had. -/
theorem wsProcessFrame_done_length {fuel : Nat} {rx rest : List (BitVec 8)} {events : List WsEvent}
    (run : wsProcessFrame fuel rx = some (.done rest events)) : rest.length ≤ rx.length := by
  -- Induction over the fuel: each pass leaves no more than it had.
  induction fuel generalizing rx events with
  | zero => cases run
  | succ fuel ih =>
    rw [wsProcessFrame] at run
    split_ifs at run with short
    · cases run; exact le_rfl
    · split at run
      · cases run; exact le_rfl
      · cases run
      · rename_i after more step
        obtain ⟨result, next, done⟩ := Option.map_eq_some'.mp run
        cases result with
        | done r e =>
          simp only [FrameResult.after, FrameResult.done.injEq] at done
          obtain ⟨rfl, -⟩ := done
          exact (ih next).trans (frameStep_consumed_length step)
        | outOfBounds => cases done

/-! ## The receive path of `processClients` -/

/-- A client past the handshake: `rx_buffer[0, rx_len)`, at most `RX_BUFFER_SIZE` bytes. -/
structure WsClient where
  rx : List (BitVec 8)
  fits : rx.length ≤ rxBufferSize

/-- A client whose handshake left no byte behind: `rx_len = 0`. -/
def WsClient.empty : WsClient := ⟨[], by decide⟩

/-- What a pass of `processClients` leaves of a client. -/
inductive WsConnection
  /-- Still in `m_clients`. -/
  | connected (client : WsClient)
  /-- `removeClient`, after `recv` returned 0. -/
  | removed
  /-- `wsProcessFrame` read past `rx_len`, or never returned. -/
  | faulted

/-- What `recv(client.fd, client.rx_buffer + client.rx_len, sizeof(client.rx_buffer) - client.rx_len, 0)`
returns when the first `n` of the bytes `pending` have arrived: as many of them as it asks for. -/
def WsClient.chunk (n : Nat) (pending : List (BitVec 8)) (c : WsClient) : List (BitVec 8) :=
  (pending.take n).take (rxBufferSize - c.rx.length)

/-- What `recv` returns fits in the buffer after what it already holds. -/
theorem WsClient.length_rx_append_chunk (c : WsClient) (n : Nat) (pending : List (BitVec 8)) :
    (c.rx ++ c.chunk n pending).length ≤ rxBufferSize := by
  -- `recv` is asked for at most the room left.
  have := c.fits
  simp only [WsClient.chunk, List.length_append, List.length_take]
  omega

/-- The bytes `recv` returns come off the front of those waiting. -/
theorem WsClient.chunk_append_drop (c : WsClient) (n : Nat) (pending : List (BitVec 8)) :
    c.chunk n pending ++ pending.drop (c.chunk n pending).length = pending := by
  -- What `recv` returns is a prefix of the bytes waiting.
  obtain ⟨rest, restEq⟩ : c.chunk n pending <+: pending := (List.take_prefix _ _).trans (List.take_prefix n pending)
  generalize c.chunk n pending = chunk at restEq ⊢
  subst restEq
  rw [List.drop_left]

/-- One pass of `processClients` over a client past its handshake, when the first `n` of the bytes
`pending` have arrived on its socket: what `wsProcessFrame` passes on, and the client after. With
none arrived `recv` fails with `EAGAIN` and nothing changes. A full buffer asks `recv` for 0 bytes,
which it returns, and the client is removed as disconnected. The loop is given one more test of
`rx_len >= 2` than there are bytes, which is every pass it makes unless one drops no byte. -/
def WsClient.receive (n : Nat) (pending : List (BitVec 8)) (c : WsClient) : List WsEvent × WsConnection :=
  if pending.take n = [] then ([], .connected c)
  else if c.chunk n pending = [] then ([], .removed)
  else
    match run : wsProcessFrame (c.rx.length + (c.chunk n pending).length + 1) (c.rx ++ c.chunk n pending) with
    | some (.done rest events) =>
      (events, .connected ⟨rest, (wsProcessFrame_done_length run).trans (c.length_rx_append_chunk n pending)⟩)
    | _ => ([], .faulted)

/-- Passes of `processClients` over one client, the first `n` of the bytes still waiting arrived at
each: what `wsProcessFrame` passes on, the client after the last pass, and the bytes still waiting. -/
def WsClient.run : List Nat → List (BitVec 8) → WsClient → List WsEvent × WsConnection × List (BitVec 8)
  | [], pending, c => ([], .connected c, pending)
  | n :: reads, pending, c =>
    let unread := pending.drop (c.chunk n pending).length
    match c.receive n pending with
    | (events, .connected next) =>
      let rest := WsClient.run reads unread next
      (events ++ rest.1, rest.2)
    | (events, other) => (events, other, unread)

/-- Bytes read from the front of a stream of frames are whole frames, then part of the next. -/
theorem flatMap_split {α : Type} (bytes : α → List (BitVec 8)) (frames : List α) {read unread : List (BitVec 8)}
    (stream : read ++ unread = frames.flatMap bytes) :
    ∃ j part, j ≤ frames.length ∧ read = (frames.take j).flatMap bytes ++ part ∧
      part ++ unread = (frames.drop j).flatMap bytes ∧
      ∀ next ∈ (frames.drop j).head?, part.length < (bytes next).length := by
  -- Induction over the frames: the bytes read end inside the first frame or past it.
  induction frames generalizing read with
  | nil => exact ⟨0, read, le_rfl, by simp, by simpa using stream, by simp⟩
  | cons f frames ih =>
    rw [List.flatMap_cons] at stream
    rcases List.append_eq_append_iff.mp stream with ⟨more, fEq, unreadEq⟩ | ⟨more, readEq, restEq⟩
    · by_cases exact : more = []
      · -- The first frame is read to its end, and nothing of the rest.
        subst exact
        obtain ⟨j, part, bound, nothing, rest, next⟩ := @ih [] (by simpa using unreadEq)
        refine ⟨j + 1, part, by simpa using bound, ?_, by simpa using rest, by simpa using next⟩
        rw [List.append_nil] at fEq
        simp [fEq, ← nothing]
      · -- Only part of the first frame is read.
        refine ⟨0, read, Nat.zero_le _, by simp, by simp [fEq, unreadEq], ?_⟩
        simp only [List.drop_zero, List.head?_cons, Option.mem_def, Option.some.injEq, forall_eq', fEq,
          List.length_append]
        have := List.length_pos.mpr exact
        omega
    · -- The first frame is read whole, and the rest goes on.
      obtain ⟨j, part, bound, readRest, rest, next⟩ := ih restEq.symm
      exact ⟨j + 1, part, by simpa using bound, by simp [readEq, readRest], by simpa using rest, by simpa using next⟩

/-- After part of the stream of `frames` has been read: `k` frames handed on, and the buffer and the
bytes still waiting are the rest of the stream, the buffer shorter than the next frame. -/
def WsWaiting (frames : List ClientFrame) (k : Nat) (rx pending : List (BitVec 8)) : Prop :=
  k ≤ frames.length ∧ rx ++ pending = (frames.drop k).flatMap ClientFrame.bytes ∧
    ∀ next ∈ (frames.drop k).head?, rx.length < next.bytes.length

/-- With nothing left waiting, every frame has been handed on. -/
theorem WsWaiting.all_frames {frames : List ClientFrame} {k : Nat} {rx : List (BitVec 8)}
    (waiting : WsWaiting frames k rx []) : k = frames.length := by
  -- A frame left over would have to fit in the buffer, which is shorter than it.
  obtain ⟨bound, stream, shorter⟩ := waiting
  cases rest : frames.drop k with
  | nil => exact le_antisymm bound (List.drop_eq_nil_iff.mp rest)
  | cons f later =>
    -- the buffer would hold the whole next frame
    rw [rest, List.append_nil, List.flatMap_cons] at stream
    have := shorter f (by simp [rest])
    rw [stream, List.length_append] at this
    omega

/-- Bytes shorter than the next frame, followed by the rest of the stream, are part of that frame. -/
theorem partialFrame_of_head {part unread : List (BitVec 8)} {frames : List ClientFrame}
    (stream : part ++ unread = frames.flatMap ClientFrame.bytes)
    (shorter : ∀ next ∈ frames.head?, part.length < next.bytes.length)
    (fit : ∀ f ∈ frames, f.bytes.length ≤ rxBufferSize) : PartialFrame part := by
  -- Shorter than the next frame, the bytes are its front, or nothing when no frame is left.
  cases frames with
  | nil =>
    rw [List.flatMap_nil, List.append_eq_nil] at stream
    exact .inl (by rw [stream.1]; decide)
  | cons f later =>
    have short := shorter f rfl
    rw [List.flatMap_cons] at stream
    rcases List.append_eq_append_iff.mp stream with ⟨more, fEq, -⟩ | ⟨more, partEq, -⟩
    · refine .inr ⟨f, more, fEq.symm, fun empty => ?_, ?_⟩
      · rw [fEq, empty, List.append_nil] at short
        exact lt_irrefl _ short
      · exact (fit f (List.mem_cons_self f later)).trans_lt (by decide)
    · rw [partEq, List.length_append] at short
      omega

/-- A client with an empty buffer waits on the whole stream. -/
theorem WsWaiting.start (frames : List ClientFrame) : WsWaiting frames 0 WsClient.empty.rx (frames.flatMap ClientFrame.bytes) :=
  -- The whole stream is waiting, and no frame is empty.
  ⟨Nat.zero_le _, rfl, fun next _ => by simp only [WsClient.empty, List.length_nil, ClientFrame.length_bytes]; omega⟩

section Receiving

variable {frames : List ClientFrame} (fit : ∀ f ∈ frames, f.bytes.length ≤ rxBufferSize)
include fit

/-- While frames that fit are waiting, the buffer is never full. -/
theorem WsWaiting.room {k : Nat} {rx pending : List (BitVec 8)} (waiting : WsWaiting frames k rx pending) :
    rx.length < rxBufferSize := by
  -- The buffer is shorter than the next frame, which fits.
  obtain ⟨-, stream, shorter⟩ := waiting
  cases rest : frames.drop k with
  | nil =>
    rw [rest, List.flatMap_nil, List.append_eq_nil] at stream
    rw [stream.1]
    decide
  | cons f later =>
    exact (shorter f (by simp [rest])).trans_le (fit f (List.mem_of_mem_drop (rest ▸ List.mem_cons_self f later)))

/-- One pass hands on the next `j` frames and keeps waiting on the rest. -/
theorem WsWaiting.receive {k : Nat} {c : WsClient} {pending : List (BitVec 8)}
    (waiting : WsWaiting frames k c.rx pending) (n : Nat) :
    ∃ j next, c.receive n pending = (((frames.drop k).take j).flatMap ClientFrame.events, .connected next) ∧
      WsWaiting frames (k + j) next.rx (pending.drop (c.chunk n pending).length) := by
  -- The bytes received split into whole frames and the front of the next, which the loop takes and keeps.
  have room := waiting.room fit
  obtain ⟨bound, stream, shorter⟩ := waiting
  by_cases arrived : pending.take n = []
  · -- `recv` fails with `EAGAIN`: nothing changes
    have none : c.chunk n pending = [] := by rw [WsClient.chunk, arrived, List.take_nil]
    refine ⟨0, c, by simp [WsClient.receive, arrived], ?_⟩
    rw [none, List.length_nil, List.drop_zero, Nat.add_zero]
    exact ⟨bound, stream, shorter⟩
  have nonempty : c.chunk n pending ≠ [] := by
    simp only [WsClient.chunk, Ne, List.take_eq_nil_iff, arrived, or_false]
    omega
  have whole : (c.rx ++ c.chunk n pending) ++ pending.drop (c.chunk n pending).length =
      (frames.drop k).flatMap ClientFrame.bytes := by
    rw [List.append_assoc, c.chunk_append_drop, stream]
  obtain ⟨j, part, jBound, readEq, rest, head⟩ := flatMap_split ClientFrame.bytes (frames.drop k) whole
  have small := c.length_rx_append_chunk n pending
  have lengths := congrArg List.length readEq
  simp only [List.length_append] at lengths small
  have cut : PartialFrame part :=
    partialFrame_of_head rest head fun f member => fit f (List.mem_of_mem_drop (List.mem_of_mem_drop member))
  have enough : ((frames.drop k).take j).length < c.rx.length + (c.chunk n pending).length + 1 := by
    have := length_le_flatMap_bytes ((frames.drop k).take j)
    omega
  have processed := wsProcessFrame_frames ((frames.drop k).take j) cut
    (by rw [← readEq, List.length_append]; unfold rxBufferSize at small; omega) enough
  rw [← readEq] at processed
  have received : c.receive n pending =
      (((frames.drop k).take j).flatMap ClientFrame.events, .connected ⟨part, by omega⟩) := by
    unfold WsClient.receive
    rw [if_neg arrived, if_neg nonempty]
    split
    · rename_i rest' events run
      rw [processed] at run
      cases run
      rfl
    · rename_i notDone
      exact (notDone _ _ processed).elim
  refine ⟨j, _, received, ?_⟩
  rw [List.length_drop] at jBound
  refine ⟨by omega, ?_, ?_⟩ <;> rw [← List.drop_drop] <;> assumption

/-- A run of passes hands on the next frames in order, keeps the client, and keeps waiting on the
rest. -/
theorem WsWaiting.run {k : Nat} {c : WsClient} {pending : List (BitVec 8)}
    (waiting : WsWaiting frames k c.rx pending) (reads : List Nat) :
    ∃ j next, (c.run reads pending).1 = ((frames.drop k).take j).flatMap ClientFrame.events ∧
      (c.run reads pending).2.1 = .connected next ∧ WsWaiting frames (k + j) next.rx (c.run reads pending).2.2 := by
  -- Each pass continues where the one before stopped.
  induction reads generalizing k c pending with
  | nil => exact ⟨0, c, by simp [WsClient.run], rfl, by simpa [WsClient.run] using waiting⟩
  | cons n reads ih =>
    obtain ⟨j, next, received, after⟩ := waiting.receive fit n
    obtain ⟨j', last, out, connection, final⟩ := ih after
    refine ⟨j + j', last, ?_, ?_, ?_⟩ <;> simp only [WsClient.run, received]
    · rw [out, List.take_add, List.drop_drop, List.flatMap_append]
    · exact connection
    · rwa [Nat.add_assoc] at final

end Receiving

/--
`processClients` hands `wsProcessFrame`'s work on a client's frames to `handleCommand` and the
answers, whatever sizes `recv` returns. Take a client past its handshake with an empty buffer, a
stream of frames as RFC 6455 has a client send them (masked, each length in its shortest form),
each of at most `RX_BUFFER_SIZE` bytes, and any number of bytes arriving before each pass. The
client is never removed and `wsProcessFrame` never faults; what it passes on is always that of the
first frames, in order, each unmasked; once the stream has been read to its end, it is that of all
of them.
-/
theorem ws_frames_any_chunking (frames : List ClientFrame) (fit : ∀ f ∈ frames, f.bytes.length ≤ rxBufferSize)
    (reads : List Nat) :
    (∃ next, (WsClient.empty.run reads (frames.flatMap ClientFrame.bytes)).2.1 = .connected next) ∧
    (∃ j, (WsClient.empty.run reads (frames.flatMap ClientFrame.bytes)).1 = (frames.take j).flatMap ClientFrame.events) ∧
    ((WsClient.empty.run reads (frames.flatMap ClientFrame.bytes)).2.2 = [] →
      (WsClient.empty.run reads (frames.flatMap ClientFrame.bytes)).1 = frames.flatMap ClientFrame.events) := by
  -- From an empty buffer the client waits on the whole stream, and the run keeps waiting.
  obtain ⟨j, next, out, connection, last⟩ := (WsWaiting.start frames).run fit reads
  rw [List.drop_zero, Nat.zero_add] at *
  refine ⟨⟨next, connection⟩, ⟨j, out⟩, fun readAll => ?_⟩
  rw [readAll] at last
  rw [out, last.all_frames, List.take_length]


/-- A text frame `{}` and a ping, read three, then four, then the rest of the bytes at a time:
the command goes to `handleCommand`, and the ping is answered. -/
example : (WsClient.empty.run [3, 4, 100] (([⟨true, 1, ⟨[0x12, 0x34, 0x56, 0x78], rfl⟩, [0x7B, 0x7D]⟩,
    ⟨true, 9, ⟨[1, 2, 3, 4], rfl⟩, [0x61]⟩] : List ClientFrame).flatMap ClientFrame.bytes)).1 =
      [.command [0x7B, 0x7D], .pong [0x61]] := by
  decide

/-- A text frame and a ping, read three, then four, then the rest of the bytes at a time. -/
theorem ws_frames_in_small_reads :
    (∀ f ∈ ([⟨true, 1, ⟨[0x12, 0x34, 0x56, 0x78], rfl⟩, [0x7B, 0x7D]⟩, ⟨true, 9, ⟨[1, 2, 3, 4], rfl⟩, [0x61]⟩] :
      List ClientFrame), f.bytes.length ≤ rxBufferSize) ∧
    (∃ next, (WsClient.empty.run [3, 4, 100] (([⟨true, 1, ⟨[0x12, 0x34, 0x56, 0x78], rfl⟩, [0x7B, 0x7D]⟩,
      ⟨true, 9, ⟨[1, 2, 3, 4], rfl⟩, [0x61]⟩] : List ClientFrame).flatMap ClientFrame.bytes)).2.1 = .connected next) ∧
    (∃ j, (WsClient.empty.run [3, 4, 100] (([⟨true, 1, ⟨[0x12, 0x34, 0x56, 0x78], rfl⟩, [0x7B, 0x7D]⟩,
      ⟨true, 9, ⟨[1, 2, 3, 4], rfl⟩, [0x61]⟩] : List ClientFrame).flatMap ClientFrame.bytes)).1 =
        (([⟨true, 1, ⟨[0x12, 0x34, 0x56, 0x78], rfl⟩, [0x7B, 0x7D]⟩, ⟨true, 9, ⟨[1, 2, 3, 4], rfl⟩, [0x61]⟩] :
          List ClientFrame).take j).flatMap ClientFrame.events) ∧
    ((WsClient.empty.run [3, 4, 100] (([⟨true, 1, ⟨[0x12, 0x34, 0x56, 0x78], rfl⟩, [0x7B, 0x7D]⟩,
      ⟨true, 9, ⟨[1, 2, 3, 4], rfl⟩, [0x61]⟩] : List ClientFrame).flatMap ClientFrame.bytes)).2.2 = [] →
      (WsClient.empty.run [3, 4, 100] (([⟨true, 1, ⟨[0x12, 0x34, 0x56, 0x78], rfl⟩, [0x7B, 0x7D]⟩,
        ⟨true, 9, ⟨[1, 2, 3, 4], rfl⟩, [0x61]⟩] : List ClientFrame).flatMap ClientFrame.bytes)).1 =
        ([⟨true, 1, ⟨[0x12, 0x34, 0x56, 0x78], rfl⟩, [0x7B, 0x7D]⟩, ⟨true, 9, ⟨[1, 2, 3, 4], rfl⟩, [0x61]⟩] :
          List ClientFrame).flatMap ClientFrame.events) :=
  -- Both frames fit; the theorem gives the run.
  ⟨by decide, ws_frames_any_chunking _ (by decide) _⟩

/-! ## A frame longer than the buffer -/

/-- A pass whose bytes hold only part of a frame buffers them and passes nothing on. -/
theorem WsClient.receive_of_partial {c : WsClient} {n : Nat} {pending : List (BitVec 8)}
    (cut : PartialFrame (c.rx ++ c.chunk n pending)) :
    c.receive n pending =
      if pending.take n = [] then ([], .connected c)
      else if c.chunk n pending = [] then ([], .removed)
      else ([], .connected ⟨c.rx ++ c.chunk n pending, c.length_rx_append_chunk n pending⟩) := by
  -- The loop finds no whole frame and keeps the bytes.
  have small := c.length_rx_append_chunk n pending
  have processed : wsProcessFrame (c.rx.length + (c.chunk n pending).length + 1) (c.rx ++ c.chunk n pending) =
      some (.done (c.rx ++ c.chunk n pending) []) := by
    simpa using wsProcessFrame_frames [] cut (by unfold rxBufferSize at small; simpa using small.trans_lt (by decide))
      (Nat.succ_pos _)
  unfold WsClient.receive
  split_ifs
  · rfl
  · rfl
  · split
    · rename_i rest events run
      rw [processed] at run
      cases run
      rfl
    · rename_i notDone
      exact (notDone _ _ processed).elim

section Oversize

variable {f : ClientFrame} {more : List (BitVec 8)} (long : rxBufferSize < f.bytes.length)
  (fits : f.bytes.length < 2 ^ 64)
include long fits

/-- While the buffer holds the front of a frame too long for it, a pass only buffers more of it. -/
theorem WsClient.receive_of_oversize {c : WsClient} {pending : List (BitVec 8)} (stuck : c.rx ++ pending = f.bytes ++ more)
    (n : Nat) :
    c.receive n pending =
      if pending.take n = [] then ([], .connected c)
      else if c.chunk n pending = [] then ([], .removed)
      else ([], .connected ⟨c.rx ++ c.chunk n pending, c.length_rx_append_chunk n pending⟩) := by
  -- The bytes buffered hold no whole frame, so the pass only buffers them.
  apply WsClient.receive_of_partial
  have small := c.length_rx_append_chunk n pending
  -- What is buffered is a proper prefix of the frame.
  have front : c.rx ++ c.chunk n pending <+: f.bytes ++ more := by
    rw [← stuck]
    exact (List.prefix_append_right_inj _).mpr ((List.take_prefix _ _).trans (List.take_prefix n pending))
  obtain ⟨rest, restEq⟩ := List.prefix_of_prefix_length_le front (List.prefix_append _ _) (by omega)
  refine .inr ⟨f, rest, restEq, fun empty => ?_, fits⟩
  rw [empty, List.append_nil] at restEq
  rw [← restEq] at long
  omega

/-- Over a run nothing is passed on, and the client is removed or buffers the front of the frame.
With a byte arriving at every pass, it is removed once the buffer has filled up. -/
theorem WsClient.run_of_oversize {c : WsClient} {pending : List (BitVec 8)} (stuck : c.rx ++ pending = f.bytes ++ more)
    (reads : List Nat) :
    (c.run reads pending).1 = [] ∧
    ((c.run reads pending).2.1 = .removed ∨
      ∃ next, (c.run reads pending).2.1 = .connected next ∧ next.rx ++ (c.run reads pending).2.2 = f.bytes ++ more) ∧
    ((∀ n ∈ reads, 0 < n) → rxBufferSize - c.rx.length < reads.length → (c.run reads pending).2.1 = .removed) := by
  -- Induction over the passes: each buffers more of the frame, until the buffer is full.
  induction reads generalizing c pending with
  | nil => exact ⟨rfl, .inr ⟨c, rfl, stuck⟩, fun _ none => absurd none (Nat.not_lt_zero _)⟩
  | cons n reads ih =>
    have waiting : 0 < pending.length := by
      have lengths := congrArg List.length stuck
      have := c.fits
      simp only [List.length_append] at lengths
      omega
    by_cases arrived : pending.take n = []
    · -- Nothing has arrived: `recv` fails with `EAGAIN`, which no byte arriving rules out.
      have none : c.chunk n pending = [] := by rw [WsClient.chunk, arrived, List.take_nil]
      obtain ⟨out, state, removed⟩ := @ih c pending stuck
      simp only [WsClient.run, receive_of_oversize long fits stuck n, if_pos arrived, none, List.length_nil,
        List.drop_zero, List.nil_append]
      refine ⟨out, state, fun positive _ => ?_⟩
      rw [List.take_eq_nil_iff] at arrived
      have := positive n (List.mem_cons_self n reads)
      rcases arrived with zero | empty
      · omega
      · rw [empty] at waiting; exact absurd waiting (Nat.lt_irrefl 0)
    by_cases full : c.chunk n pending = []
    · -- The buffer is full: `recv` is asked for no byte and returns 0.
      simp [WsClient.run, receive_of_oversize long fits stuck n, arrived, full]
    · -- The bytes are buffered, and the next pass has less room.
      have buffered : (c.rx ++ c.chunk n pending) ++ pending.drop (c.chunk n pending).length = f.bytes ++ more := by
        rw [List.append_assoc, c.chunk_append_drop, stuck]
      obtain ⟨out, state, removed⟩ := @ih ⟨_, c.length_rx_append_chunk n pending⟩ _ buffered
      simp only [WsClient.run, receive_of_oversize long fits stuck n, if_neg arrived, if_neg full, List.nil_append]
      refine ⟨out, state, fun positive shorter => removed (fun m mem => positive m (List.mem_cons_of_mem n mem)) ?_⟩
      have := List.length_pos.mpr full
      have small := c.length_rx_append_chunk n pending
      simp only [List.length_cons, List.length_append] at shorter small ⊢
      omega

end Oversize

/--
A frame longer than `RX_BUFFER_SIZE` never reaches `handleCommand`. Take a client past its
handshake with an empty buffer, and a stream that starts with a client frame of more than 4096
bytes. Whatever sizes `recv` returns, nothing is passed on, and the client is either removed or
holds the front of that frame in its buffer. Once a byte has arrived before each of 4097 passes, it
has been removed: its buffer is full, `recv` is asked for no byte, and its 0 reads as a disconnect.
-/
theorem ws_oversize_frame_removed (f : ClientFrame) (more : List (BitVec 8)) (long : rxBufferSize < f.bytes.length)
    (fits : f.bytes.length < 2 ^ 64) (reads : List Nat) :
    (WsClient.empty.run reads (f.bytes ++ more)).1 = [] ∧
    ((WsClient.empty.run reads (f.bytes ++ more)).2.1 = .removed ∨
      ∃ next, (WsClient.empty.run reads (f.bytes ++ more)).2.1 = .connected next ∧ next.rx <+: f.bytes) ∧
    ((∀ n ∈ reads, 0 < n) → rxBufferSize < reads.length →
      (WsClient.empty.run reads (f.bytes ++ more)).2.1 = .removed) := by
  -- The buffer holds the front of the frame until the client is removed.
  obtain ⟨out, state, removed⟩ := WsClient.run_of_oversize long fits (c := WsClient.empty) rfl reads
  refine ⟨out, state.imp_right fun ⟨next, connection, stuck⟩ => ⟨next, connection, ?_⟩, removed⟩
  have := next.fits
  exact List.prefix_of_prefix_length_le ⟨_, stuck⟩ (List.prefix_append _ _) (by omega)

/-- A text frame of 4089 bytes, 4097 bytes on the wire, read a byte at a time. -/
theorem ws_long_text_frame_removed :
    rxBufferSize < (⟨true, 1, ⟨[1, 2, 3, 4], rfl⟩, List.replicate 4089 0⟩ : ClientFrame).bytes.length ∧
    (⟨true, 1, ⟨[1, 2, 3, 4], rfl⟩, List.replicate 4089 0⟩ : ClientFrame).bytes.length < 2 ^ 64 ∧
    (WsClient.empty.run (List.replicate 4097 1)
      ((⟨true, 1, ⟨[1, 2, 3, 4], rfl⟩, List.replicate 4089 0⟩ : ClientFrame).bytes ++ [])).1 = [] ∧
    ((WsClient.empty.run (List.replicate 4097 1)
      ((⟨true, 1, ⟨[1, 2, 3, 4], rfl⟩, List.replicate 4089 0⟩ : ClientFrame).bytes ++ [])).2.1 = .removed ∨
      ∃ next, (WsClient.empty.run (List.replicate 4097 1)
        ((⟨true, 1, ⟨[1, 2, 3, 4], rfl⟩, List.replicate 4089 0⟩ : ClientFrame).bytes ++ [])).2.1 = .connected next ∧
        next.rx <+: (⟨true, 1, ⟨[1, 2, 3, 4], rfl⟩, List.replicate 4089 0⟩ : ClientFrame).bytes) ∧
    ((∀ n ∈ List.replicate 4097 1, 0 < n) → rxBufferSize < (List.replicate 4097 1).length →
      (WsClient.empty.run (List.replicate 4097 1)
        ((⟨true, 1, ⟨[1, 2, 3, 4], rfl⟩, List.replicate 4089 0⟩ : ClientFrame).bytes ++ [])).2.1 = .removed) := by
  -- The frame is 4097 bytes long; the theorem gives the run.
  have length : (⟨true, 1, ⟨[1, 2, 3, 4], rfl⟩, List.replicate 4089 0⟩ : ClientFrame).bytes.length = 4097 := by
    rw [ClientFrame.length_bytes]
    dsimp only
    rw [List.length_replicate]
    rfl
  have long : rxBufferSize < _ := length ▸ (by decide : rxBufferSize < 4097)
  have fits : _ < 2 ^ 64 := length ▸ (by decide : 4097 < 2 ^ 64)
  exact ⟨long, fits, ws_oversize_frame_removed _ [] long fits _⟩

end Milkspider
