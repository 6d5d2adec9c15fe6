import Milkspider.Protocol.Crc16
import Milkspider.Common.Limits
import Mathlib.Tactic.FinCases

/-! The 42-byte `PosePacket31`: its fields, its little-endian image, and the bit errors its CRC
catches. -/

namespace Milkspider

/-- The packet magic `0xB31A` (`SPIDER_MAGIC`). -/
def spiderMagic : BitVec 16 := 0xB31A#16

/-- The protocol's major version, `3` (`SPIDER_VERSION_MAJOR`). -/
def spiderVersionMajor : BitVec 8 := 3#8

/-- The protocol's minor version, `1` (`SPIDER_VERSION_MINOR`). -/
def spiderVersionMinor : BitVec 8 := 1#8

/-- `FLAG_ESTOP`: emergency stop. -/
def flagEstop : BitVec 16 := 0x01#16

/-- `FLAG_HOLD`: hold the current position. -/
def flagHold : BitVec 16 := 0x02#16

/-- `FLAG_CLAMP_ENABLE`: set on every packet the brain builds. -/
def flagClampEnable : BitVec 16 := 0x04#16

/-- `FLAG_INTERP_Q16`: interpolate in Q16.16 fixed point rather than in `float`. -/
def flagInterpQ16 : BitVec 16 := 0x08#16

/-- `FLAG_SCAN_ENABLE`: the scan servo is active. -/
def flagScanEnable : BitVec 16 := 0x20#16

/-- Whether a flag bit is set (`pkt.flags & FLAG_...`). -/
def hasFlag (flags flag : BitVec 16) : Bool := flags &&& flag != 0#16

/-- The packed packet (`PosePacket31`). -/
structure PosePacket31 where
  magic : BitVec 16
  verMajor : BitVec 8
  verMinor : BitVec 8
  seq : BitVec 32
  tMs : BitVec 32
  flags : BitVec 16
  servoUs : Pose
  crc16 : BitVec 16
  deriving DecidableEq

/-- The bytes of a little-endian `uint16_t`, low byte first. -/
def le16Bytes (value : BitVec 16) : List (BitVec 8) :=
  [value.extractLsb' 0 8, value.extractLsb' 8 8]

/-- The bytes of a little-endian `uint32_t`, low byte first. -/
def le32Bytes (value : BitVec 32) : List (BitVec 8) :=
  [value.extractLsb' 0 8, value.extractLsb' 8 8, value.extractLsb' 16 8, value.extractLsb' 24 8]

/-- The 40 bytes the CRC covers: every field before `crc16`, in layout order. -/
def PosePacket31.header (pkt : PosePacket31) : List (BitVec 8) :=
  le16Bytes pkt.magic ++ [pkt.verMajor, pkt.verMinor] ++ le32Bytes pkt.seq ++ le32Bytes pkt.tMs ++
    le16Bytes pkt.flags ++ (List.ofFn fun channel => le16Bytes (pkt.servoUs channel)).flatten

/-- The packet's image in memory: the header, then `crc16`. -/
def PosePacket31.bytes (pkt : PosePacket31) : List (BitVec 8) :=
  pkt.header ++ le16Bytes pkt.crc16

/-- A little-endian `uint16_t` read at an offset of an image. -/
def readLe16 (image : List (BitVec 8)) (offset : Nat) : BitVec 16 :=
  image.getD (offset + 1) 0 ++ image.getD offset 0

/-- A little-endian `uint32_t` read at an offset of an image. -/
def readLe32 (image : List (BitVec 8)) (offset : Nat) : BitVec 32 :=
  image.getD (offset + 3) 0 ++ image.getD (offset + 2) 0 ++ image.getD (offset + 1) 0 ++
    image.getD offset 0

/-- The packet a `const PosePacket31 *` into an image reads: each field at its offset. -/
def PosePacket31.ofBytes (image : List (BitVec 8)) : PosePacket31 where
  magic := readLe16 image 0
  verMajor := image.getD 2 0
  verMinor := image.getD 3 0
  seq := readLe32 image 4
  tMs := readLe32 image 8
  flags := readLe16 image 12
  servoUs channel := readLe16 image (14 + 2 * channel.val)
  crc16 := readLe16 image 40

/-- The header is 40 bytes. -/
@[simp] theorem PosePacket31.length_header (pkt : PosePacket31) : pkt.header.length = 40 := by
  -- Four fixed fields, `seq`, `t_ms`, the flags and thirteen servo values.
  simp [PosePacket31.header, le16Bytes, le32Bytes, List.ofFn_succ]

/-- The image is 42 bytes. -/
@[simp] theorem PosePacket31.length_bytes (pkt : PosePacket31) : pkt.bytes.length = 42 := by
  -- The header and the two CRC bytes.
  simp [PosePacket31.bytes, le16Bytes]

/-- The two bytes of a 16-bit field, high then low, are the field. -/
private theorem le16_join (value : BitVec 16) :
    value.extractLsb' 8 8 ++ value.extractLsb' 0 8 = value := by
  -- Bit by bit, each half reads back its own bits.
  ext i
  have := i.isLt
  simp only [BitVec.getLsbD_append, BitVec.getLsbD_extractLsb', Bool.cond_decide]
  split_ifs
  all_goals simp (disch := omega) only [decide_eq_true, Bool.true_and]
  all_goals exact congrArg value.getLsbD (by omega)

/-- The four bytes of a 32-bit field, high to low, are the field. -/
private theorem le32_join (value : BitVec 32) :
    value.extractLsb' 24 8 ++ value.extractLsb' 16 8 ++ value.extractLsb' 8 8 ++
      value.extractLsb' 0 8 = value := by
  -- Bit by bit, each byte reads back its own bits.
  ext i
  have := i.isLt
  simp only [BitVec.getLsbD_append, BitVec.getLsbD_extractLsb', Bool.cond_decide]
  split_ifs
  all_goals simp (disch := omega) only [decide_eq_true, Bool.true_and]
  all_goals exact congrArg value.getLsbD (by omega)

/-- Reading an image back gives the packet that was written: the layout is a bijection. -/
theorem PosePacket31.ofBytes_bytes (pkt : PosePacket31) : PosePacket31.ofBytes pkt.bytes = pkt := by
  -- Field by field, each reads back the bytes written for it.
  obtain ⟨magic, verMajor, verMinor, seq, tMs, flags, servoUs, crc16⟩ := pkt
  simp only [PosePacket31.ofBytes, PosePacket31.bytes, PosePacket31.header, readLe16, readLe32,
    le16Bytes, le32Bytes, List.ofFn_succ, List.ofFn_zero, List.flatten, List.cons_append,
    List.nil_append, List.singleton_append, List.append_nil, List.getD_cons_succ,
    List.getD_cons_zero, le16_join, le32_join, PosePacket31.mk.injEq, true_and, and_true]
  funext channel
  fin_cases channel <;> exact le16_join _

/-- A packet with the protocol's header, neutral servos and `FLAG_CLAMP_ENABLE`
(`posepacket31_init`). -/
def posepacket31Init (seq : BitVec 32) : PosePacket31 where
  magic := spiderMagic
  verMajor := spiderVersionMajor
  verMinor := spiderVersionMinor
  seq := seq
  tMs := 0
  flags := flagClampEnable
  servoUs := neutralPose
  crc16 := 0

/-- The last step of every packet builder: the CRC over the header. -/
def PosePacket31.seal (pkt : PosePacket31) : PosePacket31 :=
  { pkt with crc16 := crc16CcittFalse pkt.header }

/-- Sealing keeps the magic. -/
@[simp] theorem PosePacket31.seal_magic (pkt : PosePacket31) : pkt.seal.magic = pkt.magic := by
  -- Sealing writes only `crc16`.
  rw [PosePacket31.seal]

/-- Sealing keeps the major version. -/
@[simp] theorem PosePacket31.seal_verMajor (pkt : PosePacket31) : pkt.seal.verMajor = pkt.verMajor := by
  -- Sealing writes only `crc16`.
  rw [PosePacket31.seal]

/-- Sealing keeps the minor version. -/
@[simp] theorem PosePacket31.seal_verMinor (pkt : PosePacket31) : pkt.seal.verMinor = pkt.verMinor := by
  -- Sealing writes only `crc16`.
  rw [PosePacket31.seal]

/-- Sealing keeps `seq`. -/
@[simp] theorem PosePacket31.seal_seq (pkt : PosePacket31) : pkt.seal.seq = pkt.seq := by
  -- Sealing writes only `crc16`.
  rw [PosePacket31.seal]

/-- Sealing keeps `t_ms`. -/
@[simp] theorem PosePacket31.seal_tMs (pkt : PosePacket31) : pkt.seal.tMs = pkt.tMs := by
  -- Sealing writes only `crc16`.
  rw [PosePacket31.seal]

/-- Sealing keeps the flags. -/
@[simp] theorem PosePacket31.seal_flags (pkt : PosePacket31) : pkt.seal.flags = pkt.flags := by
  -- Sealing writes only `crc16`.
  rw [PosePacket31.seal]

/-- Sealing keeps the servo values. -/
@[simp] theorem PosePacket31.seal_servoUs (pkt : PosePacket31) : pkt.seal.servoUs = pkt.servoUs := by
  -- Sealing writes only `crc16`.
  rw [PosePacket31.seal]

/-- Sealing stores the CRC of the header. -/
theorem PosePacket31.seal_crc16 (pkt : PosePacket31) : pkt.seal.crc16 = crc16CcittFalse pkt.header := by
  -- By definition.
  rw [PosePacket31.seal]

/-- Replacing `crc16` leaves the header as it is. -/
theorem PosePacket31.header_withCrc16 (pkt : PosePacket31) (crc16 : BitVec 16) :
    { pkt with crc16 := crc16 }.header = pkt.header :=
  -- The header does not read `crc16`.
  rfl

/-- Sealing keeps the header. -/
@[simp] theorem PosePacket31.seal_header (pkt : PosePacket31) : pkt.seal.header = pkt.header :=
  -- Through `header_withCrc16`: a plain `rfl` has the kernel compare `pkt.seal` with `pkt`, and
  -- evaluate the CRC of a symbolic header, before it unfolds `header`.
  pkt.header_withCrc16 _

/-- A sealed packet carries the CRC of its own header. -/
theorem PosePacket31.crc16_seal (pkt : PosePacket31) : pkt.seal.crc16 = crc16CcittFalse pkt.seal.header := by
  -- Sealing keeps the header.
  rw [PosePacket31.seal_header, PosePacket31.seal_crc16]

/-- Sealing a packet that already carries the CRC of its header changes nothing. -/
theorem PosePacket31.seal_of_sealed {pkt : PosePacket31} (sealed : pkt.crc16 = crc16CcittFalse pkt.header) :
    pkt.seal = pkt := by
  -- The stored CRC is already the one sealing writes.
  rw [PosePacket31.seal, ← sealed]

/-- A sealed packet's image carries the CRC of its first 40 bytes in bytes 40 and 41. -/
theorem PosePacket31.sealed_seal (pkt : PosePacket31) :
    crc16CcittFalse (pkt.seal.bytes.take 40) = readLe16 pkt.seal.bytes 40 := by
  -- The image's last two bytes read back the sealed `crc16`.
  have stored : readLe16 pkt.seal.bytes 40 = pkt.seal.crc16 :=
    congrArg PosePacket31.crc16 (PosePacket31.ofBytes_bytes pkt.seal)
  rw [stored, PosePacket31.bytes, PosePacket31.seal_header, List.take_left' (PosePacket31.length_header _),
    PosePacket31.seal_crc16]

/-! ## Bit errors in an image -/

/-- What both receivers compare, as one word: the CRC of the first 40 bytes xor the stored
`crc16`, zero exactly when they agree. -/
def crcSyndrome (image : List (BitVec 8)) : BitVec 16 :=
  crc16CcittFalse (image.take 40) ^^^ readLe16 image 40

/-- The error pattern of one bit: bit `bit.2` of byte `bit.1`. -/
def bitError (bit : Fin 42 × Fin 8) : List (BitVec 8) :=
  List.replicate bit.1 0#8 ++ (1#8 <<< bit.2.val) :: List.replicate (41 - bit.1) 0#8

/-- An image with one bit flipped. -/
def flipBit (image : List (BitVec 8)) (bit : Fin 42 × Fin 8) : List (BitVec 8) :=
  List.zipWith (· ^^^ ·) image (bitError bit)

/-- An image after an error pattern: each listed bit flipped. -/
def corrupt (image : List (BitVec 8)) (errors : List (Fin 42 × Fin 8)) : List (BitVec 8) :=
  errors.foldl flipBit image

/-- The power of `x` a bit of the image carries in the codeword: the header's bits count down
from `x ^ 335`, and the stored CRC's bits are `x ^ 0` to `x ^ 15`. -/
def bitExponent (bit : Fin 42 × Fin 8) : Nat :=
  if bit.1.val < 40 then 8 * (41 - bit.1.val) + bit.2.val else 8 * (bit.1.val - 40) + bit.2.val

/-- Every bit of the image carries a power below `x ^ 336`. -/
theorem bitExponent_lt (bit : Fin 42 × Fin 8) : bitExponent bit < 336 := by
  -- Both branches stay below 336.
  have := bit.1.isLt
  have := bit.2.isLt
  unfold bitExponent
  split <;> omega

/-- Distinct bits carry distinct powers. -/
theorem bitExponent_injective : Function.Injective bitExponent := by
  -- Header bits and CRC bits take disjoint ranges, each one-to-one.
  rintro ⟨⟨i, hi⟩, ⟨j, hj⟩⟩ ⟨⟨k, hk⟩, ⟨l, hl⟩⟩ same
  simp only [bitExponent] at same
  simp only [Prod.mk.injEq, Fin.mk.injEq]
  split_ifs at same <;> omega

/-- An error pattern is as long as the image. -/
@[simp] theorem length_bitError (bit : Fin 42 × Fin 8) : (bitError bit).length = 42 := by
  -- The zeros before and after the flipped byte.
  have := bit.1.isLt
  simp [bitError]
  omega

/-- An error pattern is zero but at its byte. -/
theorem getD_bitError (bit : Fin 42 × Fin 8) (k : Nat) :
    (bitError bit).getD k 0 = if k = bit.1.val then 1#8 <<< bit.2.val else 0 := by
  -- Position by position: before, at, or after the flipped byte.
  simp only [bitError, List.getD_eq_getElem?_getD, List.getElem?_append, List.length_replicate,
    List.getElem?_replicate, List.getElem?_cons]
  split_ifs <;> first | omega | simp_all

/-- Flipping a bit keeps the image's length. -/
theorem length_flipBit {image : List (BitVec 8)} (sized : image.length = 42) (bit : Fin 42 × Fin 8) :
    (flipBit image bit).length = 42 := by
  -- The pattern is as long as the image.
  simp [flipBit, sized]

/-- The exclusive or of two strings of one length, byte by byte. -/
private theorem getD_zipWith_xor {first second : List (BitVec 8)}
    (sameLength : first.length = second.length) (k : Nat) :
    (List.zipWith (· ^^^ ·) first second).getD k 0 = first.getD k 0 ^^^ second.getD k 0 := by
  -- Induction on the strings, position by position.
  induction first generalizing second k with
  | nil => cases second <;> simp_all
  | cons x first ih =>
    cases second with
    | nil => simp at sameLength
    | cons y second =>
      cases k with
      | zero => rfl
      | succ k => exact ih (Nat.succ.inj sameLength) k

/-- The bytes the receivers compare, for a single-bit error: `x` to the bit's power. -/
theorem bitError_syndrome (bit : Fin 42 × Fin 8) :
    crcFrom 0#16 ((bitError bit).take 40) ^^^ readLe16 (bitError bit) 40 = crcPower (bitExponent bit) := by
  -- A header bit is shifted through the bytes after it; a CRC bit is read as it is.
  obtain ⟨⟨i, hi⟩, ⟨j, hj⟩⟩ := bit
  simp only [readLe16, getD_bitError, bitExponent]
  by_cases header : i < 40
  · -- a header bit: eight shifts for each byte after it; the stored CRC is untouched
    have taken : (bitError (⟨i, hi⟩, ⟨j, hj⟩)).take 40 =
        List.replicate i 0#8 ++ (1#8 <<< j) :: List.replicate (39 - i) 0#8 := by
      have rest : 40 - i = (39 - i) + 1 := by omega
      simp only [bitError, List.take_append_eq_append_take, List.take_replicate, List.length_replicate,
        rest, List.take_succ_cons, min_eq_right header.le, min_eq_left (show 39 - i ≤ 41 - i by omega)]
    have crcBytes : (if 40 + 1 = i then 1#8 <<< j else 0) ++ (if 40 = i then 1#8 <<< j else 0) = 0#16 := by
      rw [if_neg (by omega), if_neg (by omega)]
      rfl
    rw [taken, crcBytes, BitVec.xor_zero, crcFrom_append, crcFrom_cons, crcFrom_zero_replicate,
      crcByte_bit ⟨j, hj⟩, crcFrom_replicate_zero, crcPower_add, if_pos header, Fin.val_mk]
    congr 1
    omega
  · -- a bit of the stored CRC: the header is untouched
    have taken : (bitError (⟨i, hi⟩, ⟨j, hj⟩)).take 40 = List.replicate 40 0#8 := by
      have : 40 - i = 0 := by omega
      simp [bitError, List.take_append_eq_append_take, min_eq_left (not_lt.mp header), this]
    rw [taken, crcFrom_zero_replicate, BitVec.zero_xor, if_neg header]
    obtain rfl | rfl : i = 40 ∨ i = 41 := by omega
    · have : ∀ j : Fin 8, (0 : BitVec 8) ++ 1#8 <<< j.val = crcPower j := by decide
      simpa using this ⟨j, hj⟩
    · have : ∀ j : Fin 8, 1#8 <<< j.val ++ (0 : BitVec 8) = crcPower (8 + j) := by decide
      simpa using this ⟨j, hj⟩

/-- Flipping a bit moves the syndrome by that bit's power of `x`: the check is affine. -/
theorem crcSyndrome_flipBit {image : List (BitVec 8)} (sized : image.length = 42)
    (bit : Fin 42 × Fin 8) :
    crcSyndrome (flipBit image bit) = crcSyndrome image ^^^ crcPower (bitExponent bit) := by
  -- The CRC is linear, so the flip adds the error pattern's own syndrome.
  have sameLength : image.length = (bitError bit).length := by simp [sized]
  have header : crc16CcittFalse ((flipBit image bit).take 40) =
      crc16CcittFalse (image.take 40) ^^^ crcFrom 0#16 ((bitError bit).take 40) := by
    have := @crcFrom_xor crc16Init 0#16 (image.take 40) ((bitError bit).take 40) (by simp [sized])
    rwa [BitVec.xor_zero, ← List.take_zipWith] at this
  have stored : readLe16 (flipBit image bit) 40 = readLe16 image 40 ^^^ readLe16 (bitError bit) 40 := by
    simp only [readLe16, flipBit, getD_zipWith_xor sameLength]
    exact BitVec.xor_append.symm
  rw [crcSyndrome, header, stored, crcSyndrome, ← bitError_syndrome]
  ac_rfl

/-- After an error pattern, the syndrome has moved by the xor of the flipped bits' powers. -/
theorem crcSyndrome_corrupt {image : List (BitVec 8)} (sized : image.length = 42)
    (errors : List (Fin 42 × Fin 8)) :
    crcSyndrome (corrupt image errors) =
      errors.foldl (fun syndrome bit => syndrome ^^^ crcPower (bitExponent bit)) (crcSyndrome image) := by
  -- Induction over the flipped bits, one `crcSyndrome_flipBit` each.
  induction errors generalizing image with
  | nil => rfl
  | cons bit errors ih =>
    rw [corrupt, List.foldl_cons, ← corrupt, ih (length_flipBit sized bit), crcSyndrome_flipBit sized,
      List.foldl_cons]

/-- **The CRC catches every error of one to three bits**, anywhere in the 42 bytes: after it, the
CRC of the first 40 bytes no longer matches the stored one. One or three flips change the
parity of the syndrome, because `x + 1` divides the generator; two flips would need two equal
powers of `x` below `x ^ 336`, and the generator's period is longer. -/
theorem crc_mismatch_of_few_flips {image : List (BitVec 8)} (sized : image.length = 42)
    (sealed : crc16CcittFalse (image.take 40) = readLe16 image 40)
    {errors : List (Fin 42 × Fin 8)} (distinct : errors.Nodup) (nonempty : errors ≠ [])
    (few : errors.length ≤ 3) :
    crc16CcittFalse ((corrupt image errors).take 40) ≠ readLe16 (corrupt image errors) 40 := by
  -- A sealed image has syndrome zero, and one to three distinct flips cannot cancel.
  have zero : crcSyndrome image = 0#16 := by rw [crcSyndrome, sealed, BitVec.xor_self]
  have odd : ∀ bit, crcParity (crcPower (bitExponent bit)) = true := fun bit => crcParity_crcPower _
  intro agrees
  have cancel : crcSyndrome (corrupt image errors) = 0#16 := by rw [crcSyndrome, agrees, BitVec.xor_self]
  rw [crcSyndrome_corrupt sized, zero] at cancel
  match errors, distinct, nonempty, few with
  | [a], _, _, _ =>
    -- one flip: an odd-parity word is not zero
    have := congrArg crcParity cancel
    simp [odd] at this
  | [a, b], distinct, _, _ =>
    -- two flips: equal powers below `x ^ 336` come from one bit
    simp only [List.foldl_cons, List.foldl_nil, BitVec.zero_xor] at cancel
    have same : crcPower (bitExponent a) = crcPower (bitExponent b) := by
      calc crcPower (bitExponent a)
          = (crcPower (bitExponent a) ^^^ crcPower (bitExponent b)) ^^^ crcPower (bitExponent b) := by
            rw [BitVec.xor_assoc, BitVec.xor_self, BitVec.xor_zero]
        _ = crcPower (bitExponent b) := by rw [cancel, BitVec.zero_xor]
    have exponents : bitExponent a = bitExponent b := by
      by_contra differ
      rcases Nat.lt_or_gt_of_ne differ with lt | gt
      · exact crcPower_injOn lt (bitExponent_lt b) same
      · exact crcPower_injOn gt (bitExponent_lt a) same.symm
    simp [bitExponent_injective exponents] at distinct
  | [a, b, c], _, _, _ =>
    -- three flips: odd parity again
    have := congrArg crcParity cancel
    simp [crcParity_xor, odd] at this

end Milkspider
