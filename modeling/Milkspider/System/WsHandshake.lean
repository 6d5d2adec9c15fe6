import Milkspider.System.WsTransport
import Milkspider.System.JsonFields
import Milkspider.Brain.SerialControl

/-! The opening handshake of the daemon's WebSocket server (`src/main.cpp`): `wsHandshake` with
`sha1` and `base64_encode`, read over the whole of `rx_buffer`, and the handshake pass of
`processClients`. -/

namespace Milkspider

/-! ## SHA-1 -/

/-- `sha1_rol(value, bits)`: `(value << bits) | (value >> (32 - bits))`. -/
def sha1Rol (value : BitVec 32) (bits : Nat) : BitVec 32 := (value <<< bits) ||| (value >>> (32 - bits))

/-- `padded_len = ((len + 8) / 64 + 1) * 64`. -/
def sha1PaddedLen (len : Nat) : Nat := ((len + 8) / 64 + 1) * 64

/-- `msg` before the chunk loop: `padded_len` zero bytes (`new uint8_t[padded_len]()`), the data
copied over their front, `0x80` at `len`, and `msg[padded_len - 1 - i] = (bit_len >> (i * 8)) & 0xFF`
for the 64-bit `bit_len = len * 8`. -/
def sha1Message (data : List (BitVec 8)) : List (BitVec 8) :=
  let paddedLen := sha1PaddedLen data.length
  let bitLen : BitVec 64 := BitVec.ofNat 64 (data.length * 8)
  let msg := (data ++ (List.replicate paddedLen 0).drop data.length).set data.length 0x80
  (List.range 8).foldl (fun msg i => msg.set (paddedLen - 1 - i) ((bitLen >>> (i * 8)).setWidth 8)) msg

/-- The working variables `a` to `e`, or the state `h0` to `h4`. -/
structure Sha1Regs where
  a : BitVec 32
  b : BitVec 32
  c : BitVec 32
  d : BitVec 32
  e : BitVec 32

/-- `h0` to `h4` before the first chunk. -/
def sha1Init : Sha1Regs := ⟨0x67452301, 0xEFCDAB89, 0x98BADCFE, 0x10325476, 0xC3D2E1F0⟩

/-- `w[i]` for `i < 16`: the four bytes at `offset`, most significant first. -/
def sha1Word (msg : List (BitVec 8)) (offset : Nat) : BitVec 32 :=
  ((msg.getD offset 0).setWidth 32 <<< 24) ||| ((msg.getD (offset + 1) 0).setWidth 32 <<< 16) |||
    ((msg.getD (offset + 2) 0).setWidth 32 <<< 8) ||| (msg.getD (offset + 3) 0).setWidth 32

/-- `w[0, 80)` of the chunk at `chunk`: sixteen words read from it, then
`w[i] = sha1_rol(w[i-3] ^ w[i-8] ^ w[i-14] ^ w[i-16], 1)`. -/
def sha1Schedule (msg : List (BitVec 8)) (chunk : Nat) : List (BitVec 32) :=
  (List.range 64).foldl (fun w j => w ++ [sha1Rol (w.getD (j + 13) 0 ^^^ w.getD (j + 8) 0 ^^^ w.getD (j + 2) 0 ^^^ w.getD j 0) 1])
    ((List.range 16).map fun i => sha1Word msg (chunk + i * 4))

/-- Round `i` of the eighty: `f` and `k` of its quarter, then `temp` and the shift of `a` to `e`. -/
def sha1Round (w : List (BitVec 32)) (r : Sha1Regs) (i : Nat) : Sha1Regs :=
  let fk : BitVec 32 × BitVec 32 :=
    if i < 20 then ((r.b &&& r.c) ||| (~~~r.b &&& r.d), 0x5A827999)
    else if i < 40 then (r.b ^^^ r.c ^^^ r.d, 0x6ED9EBA1)
    else if i < 60 then ((r.b &&& r.c) ||| (r.b &&& r.d) ||| (r.c &&& r.d), 0x8F1BBCDC)
    else (r.b ^^^ r.c ^^^ r.d, 0xCA62C1D6)
  ⟨sha1Rol r.a 5 + fk.1 + r.e + fk.2 + w.getD i 0, r.a, sha1Rol r.b 30, r.c, r.d⟩

/-- One pass of the chunk loop: the eighty rounds from `h`, added into `h`. -/
def sha1Chunk (msg : List (BitVec 8)) (h : Sha1Regs) (chunk : Nat) : Sha1Regs :=
  let r := (List.range 80).foldl (sha1Round (sha1Schedule msg chunk)) h
  ⟨h.a + r.a, h.b + r.b, h.c + r.c, h.d + r.d, h.e + r.e⟩

/-- The four bytes `hash` gets from a word, most significant first. -/
def sha1WordBytes (word : BitVec 32) : List (BitVec 8) :=
  [(word >>> 24).setWidth 8, (word >>> 16).setWidth 8, (word >>> 8).setWidth 8, word.setWidth 8]

/-- `sha1(data, len, hash)`: the twenty bytes of `hash`. -/
def sha1 (data : List (BitVec 8)) : List (BitVec 8) :=
  let h := (List.range (sha1PaddedLen data.length / 64)).foldl (fun h k => sha1Chunk (sha1Message data) h (k * 64)) sha1Init
  [h.a, h.b, h.c, h.d, h.e].flatMap sha1WordBytes

/-- A digest has twenty bytes. -/
@[simp] theorem length_sha1 (data : List (BitVec 8)) : (sha1 data).length = 20 := by
  -- Five words of four bytes.
  simp [sha1, sha1WordBytes]

/-- FIPS 180-4, section 5.1.1, in bytes: the message, the byte `0x80` that holds the one bit, the
fewest zero bytes that bring the length to 56 modulo 64, and the length in bits as a 64-bit
number, most significant byte first. -/
def fipsPad (data : List (BitVec 8)) : List (BitVec 8) :=
  data ++ 0x80 :: List.replicate ((119 - data.length % 64) % 64) 0 ++ beBytes64 (BitVec.ofNat 64 (data.length * 8))

/-- Setting the last `k` places of a list, the last first. -/
theorem foldl_set_tail {α : Type} (f : Nat → α) {P : Nat} {msg : List α} (size : msg.length = P) {k : Nat}
    (within : k ≤ P) :
    (List.range k).foldl (fun msg i => msg.set (P - 1 - i) (f i)) msg = msg.take (P - k) ++ (List.range k).reverse.map f := by
  -- Induction on `k`: each write sets the place just below those already set.
  induction k with
  | zero => simp [← size]
  | succ k ih =>
    have short : (msg.take (P - k)).length = P - k := by rw [List.length_take, size]; omega
    rw [List.range_succ, List.foldl_append, ih (by omega), List.foldl_cons, List.foldl_nil,
      List.set_append, if_pos (by omega), List.set_eq_take_append_cons_drop, if_pos (by omega),
      List.take_take, List.drop_eq_nil_of_le (by omega), List.reverse_append, List.map_append]
    simp only [List.append_assoc, List.reverse_cons, List.reverse_nil, List.nil_append, List.map_cons, List.map_nil,
      List.singleton_append, List.cons_append]
    congr 2
    omega

/-- `padded_len` leaves room for the marker and the length after the fewest zero bytes. -/
theorem sha1PaddedLen_eq (len : Nat) : sha1PaddedLen len = len + 1 + (119 - len % 64) % 64 + 8 := by
  -- Both round `len + 9` up to a multiple of 64.
  unfold sha1PaddedLen; omega

/-- The length bytes `sha1` writes from the end are those of `beBytes64`. -/
theorem beBytes64_eq_reverse (len : BitVec 64) :
    (List.range 8).reverse.map (fun i => (len >>> (i * 8)).setWidth 8) = beBytes64 len := by
  -- Both write the eight bytes from the top down.
  simp [beBytes64, List.range_succ]

/-- The message `sha1` runs its chunk loop over is the padded message of FIPS 180-4: `padded_len`
is the least multiple of 64 that holds the data, the marker and the length, and none of the
writes overlaps another. -/
theorem sha1Message_eq_fipsPad (data : List (BitVec 8)) : sha1Message data = fipsPad data := by
  -- The marker is set after the data, then the length's eight bytes from the end.
  have padded := sha1PaddedLen_eq data.length
  have marked : (data ++ (List.replicate (sha1PaddedLen data.length) 0).drop data.length).set data.length 0x80 =
      data ++ 0x80 :: List.replicate (sha1PaddedLen data.length - data.length - 1) 0 := by
    rw [List.drop_replicate, List.set_append_right _ _ (le_refl _), Nat.sub_self,
      show sha1PaddedLen data.length - data.length = (sha1PaddedLen data.length - data.length - 1) + 1 by omega,
      List.replicate_succ]
    rfl
  unfold sha1Message
  dsimp only
  rw [marked, foldl_set_tail _ (by simp; omega) (by omega), beBytes64_eq_reverse, fipsPad]
  -- The zeros after the marker are those of the standard padding, then the eight the length overwrites.
  rw [show sha1PaddedLen data.length - data.length - 1 = (119 - data.length % 64) % 64 + 8 by omega,
    List.replicate_add, ← List.cons_append, ← List.append_assoc,
    List.take_left' (by simp only [List.length_append, List.length_cons, List.length_replicate]; omega)]

/-! ## Base64 -/

/-- `b64[]`, the alphabet of RFC 4648. -/
def base64Alphabet : List Char := "ABCDEFGHIJKLMNOPQRSTUVWXYZabcdefghijklmnopqrstuvwxyz0123456789+/".toList

/-- `b64[index]`, where `index` is always below 64. -/
def b64 (index : BitVec 32) : Char := base64Alphabet.getD index.toNat '='

/-- One pass of `base64_encode`'s loop, over `in[i]` and, where `i + 1 < len` and `i + 2 < len`,
`in[i + 1]` and `in[i + 2]`: the 24 bits `v` and the four characters written for them. -/
def base64Quad (b0 : BitVec 8) (b1 b2 : Option (BitVec 8)) : List Char :=
  let v : BitVec 32 := (b0.setWidth 32 <<< 16) ||| ((b1.getD 0).setWidth 32 <<< 8) ||| (b2.getD 0).setWidth 32
  [b64 ((v >>> 18) &&& 0x3F), b64 ((v >>> 12) &&& 0x3F),
    if b1.isSome then b64 ((v >>> 6) &&& 0x3F) else '=', if b2.isSome then b64 (v &&& 0x3F) else '=']

/-- `base64_encode(in, len, out)`: the characters before the terminating NUL. -/
def base64Encode : List (BitVec 8) → List Char
  | [] => []
  | [b0] => base64Quad b0 none none
  | [b0, b1] => base64Quad b0 (some b1) none
  | b0 :: b1 :: b2 :: rest => base64Quad b0 (some b1) (some b2) ++ base64Encode rest

/-- RFC 4648, section 4: the value of a character of the alphabet. -/
def base64Value (c : Char) : Option Nat :=
  if 'A' ≤ c ∧ c ≤ 'Z' then some (c.toNat - 'A'.toNat)
  else if 'a' ≤ c ∧ c ≤ 'z' then some (c.toNat - 'a'.toNat + 26)
  else if '0' ≤ c ∧ c ≤ '9' then some (c.toNat - '0'.toNat + 52)
  else if c = '+' then some 62
  else if c = '/' then some 63
  else none

/-- RFC 4648, section 4: four characters back to the three, two or one bytes of their 24-bit
group, the last one or two characters `=` where the group was short. -/
def base64DecodeQuad (c0 c1 c2 c3 : Char) : Option (List (BitVec 8)) := do
  let s0 ← base64Value c0
  let s1 ← base64Value c1
  if c2 = '=' ∧ c3 = '=' then pure [BitVec.ofNat 8 (s0 * 4 + s1 / 16)]
  else
    let s2 ← base64Value c2
    if c3 = '=' then pure [BitVec.ofNat 8 (s0 * 4 + s1 / 16), BitVec.ofNat 8 (s1 % 16 * 16 + s2 / 4)]
    else
      let s3 ← base64Value c3
      pure [BitVec.ofNat 8 (s0 * 4 + s1 / 16), BitVec.ofNat 8 (s1 % 16 * 16 + s2 / 4), BitVec.ofNat 8 (s2 % 4 * 64 + s3)]

/-- RFC 4648, section 4: a base64 text, four characters at a time. -/
def base64Decode : List Char → Option (List (BitVec 8))
  | [] => some []
  | c0 :: c1 :: c2 :: c3 :: rest => do
    let bytes ← base64DecodeQuad c0 c1 c2 c3
    let more ← base64Decode rest
    pure (bytes ++ more)
  | _ => none

/-- Every character of the alphabet reads back as its index, and none of them is the pad. -/
theorem base64Value_getD : ∀ s < 64, base64Value (base64Alphabet.getD s '=') = some s ∧ base64Alphabet.getD s '=' ≠ '=' := by
  -- Each of the 64 characters is checked.
  decide

/-- The 24 bits `v` of three bytes, as a number. -/
theorem toNat_base64Word (b0 b1 b2 : BitVec 8) :
    ((b0.setWidth 32 <<< 16) ||| (b1.setWidth 32 <<< 8) ||| b2.setWidth 32).toNat =
      b0.toNat * 65536 + b1.toNat * 256 + b2.toNat := by
  -- The three bytes occupy disjoint bits, so the ors are additions.
  have high : b0.setWidth 32 <<< 16 &&& b1.setWidth 32 <<< 8 = 0 := by
    ext i
    simp only [BitVec.getLsbD_and, BitVec.getLsbD_shiftLeft, BitVec.getLsbD_setWidth, BitVec.getLsbD_zero]
    by_cases low : (i : Nat) < 16
    · simp [low]
    · simp [low, BitVec.getLsbD_ge b1 (i - 8) (by omega)]
  have low : (b0.setWidth 32 <<< 16 ||| b1.setWidth 32 <<< 8) &&& b2.setWidth 32 = 0 := by
    ext i
    simp only [BitVec.getLsbD_and, BitVec.getLsbD_or, BitVec.getLsbD_shiftLeft, BitVec.getLsbD_setWidth,
      BitVec.getLsbD_zero]
    by_cases below : (i : Nat) < 8
    · simp [below, show (i : Nat) < 16 by omega]
    · simp [below, BitVec.getLsbD_ge b2 i (by omega)]
  rw [← BitVec.add_eq_or_of_and_eq_zero _ _ low, ← BitVec.add_eq_or_of_and_eq_zero _ _ high]
  simp only [BitVec.toNat_add, BitVec.toNat_shiftLeft, BitVec.toNat_setWidth, Nat.shiftLeft_eq]
  have := b0.isLt; have := b1.isLt; have := b2.isLt
  omega

/-- `(v >> k) & 0x3F` is the six bits of `v` from bit `k` up. -/
theorem toNat_sextet (v : BitVec 32) (k : Nat) : ((v >>> k) &&& 0x3F).toNat = v.toNat / 2 ^ k % 64 := by
  -- A shift is a division, and the mask a remainder.
  rw [BitVec.toNat_and, BitVec.toNat_ushiftRight, Nat.shiftRight_eq_div_pow,
    show (0x3F : BitVec 32).toNat = 2 ^ 6 - 1 from rfl, Nat.and_pow_two_sub_one_eq_mod]

/-- `v & 0x3F` is the low six bits of `v`. -/
theorem toNat_low_sextet (v : BitVec 32) : (v &&& 0x3F).toNat = v.toNat % 64 := by
  -- The mask is a remainder.
  rw [BitVec.toNat_and, show (0x3F : BitVec 32).toNat = 2 ^ 6 - 1 from rfl, Nat.and_pow_two_sub_one_eq_mod]

/-- The six bits of `v` from bit `k` up read back from the character `b64` writes for them, which
is not the pad. -/
theorem base64Value_b64_sextet (v : BitVec 32) (k : Nat) :
    base64Value (b64 ((v >>> k) &&& 0x3F)) = some (v.toNat / 2 ^ k % 64) ∧ b64 ((v >>> k) &&& 0x3F) ≠ '=' := by
  -- The sextet is below 64, an index of the alphabet.
  rw [← toNat_sextet]
  exact base64Value_getD _ (by rw [toNat_sextet]; omega)

/-- The low six bits of `v` read back from the character `b64` writes for them, which is not the
pad. -/
theorem base64Value_b64_low (v : BitVec 32) :
    base64Value (b64 (v &&& 0x3F)) = some (v.toNat % 64) ∧ b64 (v &&& 0x3F) ≠ '=' := by
  -- The sextet is below 64, an index of the alphabet.
  rw [← toNat_low_sextet]
  exact base64Value_getD _ (by rw [toNat_low_sextet]; omega)

/-- The four sextets of three bytes give the bytes back. -/
theorem base64_sextets (b0 b1 b2 : BitVec 8) :
    let v := (b0.setWidth 32 <<< 16) ||| (b1.setWidth 32 <<< 8) ||| b2.setWidth 32
    v.toNat / 2 ^ 18 % 64 * 4 + v.toNat / 2 ^ 12 % 64 / 16 = b0.toNat ∧
    v.toNat / 2 ^ 12 % 64 % 16 * 16 + v.toNat / 2 ^ 6 % 64 / 4 = b1.toNat ∧
    v.toNat / 2 ^ 6 % 64 % 4 * 64 + v.toNat % 64 = b2.toNat := by
  -- The sextets are the digits of `v` in base 64, and the bytes those of `v` in base 256.
  intro v
  rw [show v.toNat = _ from toNat_base64Word b0 b1 b2]
  have := b0.isLt; have := b1.isLt; have := b2.isLt
  simp only [Nat.reducePow]
  omega

/-- A group of three bytes reads back. -/
theorem base64Decode_three (b0 b1 b2 : BitVec 8) (rest : List Char) :
    base64Decode (base64Quad b0 (some b1) (some b2) ++ rest) = (base64Decode rest).map ([b0, b1, b2] ++ ·) := by
  -- Four characters of the alphabet, none the pad, decode to the three bytes.
  obtain ⟨first, second, third⟩ := base64_sextets b0 b1 b2
  simp only [base64Quad, Option.isSome_some, if_true, Option.getD_some, List.cons_append, List.nil_append]
  generalize (b0.setWidth 32 <<< 16) ||| (b1.setWidth 32 <<< 8) ||| b2.setWidth 32 = v at first second third
  obtain ⟨c0, -⟩ := base64Value_b64_sextet v 18
  obtain ⟨c1, -⟩ := base64Value_b64_sextet v 12
  obtain ⟨c2, pad2⟩ := base64Value_b64_sextet v 6
  obtain ⟨c3, pad3⟩ := base64Value_b64_low v
  simp only [base64Decode, base64DecodeQuad, c0, c1, c2, c3, pad2, pad3, false_and, if_false, first, second, third, BitVec.ofNat_toNat, BitVec.setWidth_eq, Option.pure_def, Option.bind_eq_bind, Option.some_bind]
  cases base64Decode rest <;> rfl

/-- A last group of two bytes reads back. -/
theorem base64Decode_two (b0 b1 : BitVec 8) : base64Decode (base64Quad b0 (some b1) none) = some [b0, b1] := by
  -- Three characters of the alphabet and a pad decode to the two bytes.
  obtain ⟨first, second, -⟩ := base64_sextets b0 b1 0
  simp only [base64Quad, Option.isSome_some, Option.isSome_none, if_true, Option.getD_some, Option.getD_none]
  generalize (b0.setWidth 32 <<< 16) ||| (b1.setWidth 32 <<< 8) ||| (0 : BitVec 8).setWidth 32 = v at first second
  obtain ⟨c0, -⟩ := base64Value_b64_sextet v 18
  obtain ⟨c1, -⟩ := base64Value_b64_sextet v 12
  obtain ⟨c2, pad2⟩ := base64Value_b64_sextet v 6
  simp only [base64Decode, base64DecodeQuad, c0, c1, c2, pad2, false_and, if_false, if_true, first, second, BitVec.ofNat_toNat, BitVec.setWidth_eq, Option.pure_def, Option.bind_eq_bind, Option.some_bind,
    List.append_nil, Bool.false_eq_true]

/-- A last group of one byte reads back. -/
theorem base64Decode_one (b0 : BitVec 8) : base64Decode (base64Quad b0 none none) = some [b0] := by
  -- Two characters of the alphabet and two pads decode to the byte.
  obtain ⟨first, -, -⟩ := base64_sextets b0 0 0
  simp only [base64Quad, Option.isSome_none, Option.getD_none]
  generalize (b0.setWidth 32 <<< 16) ||| ((0 : BitVec 8).setWidth 32 <<< 8) ||| (0 : BitVec 8).setWidth 32 = v at first
  obtain ⟨c0, -⟩ := base64Value_b64_sextet v 18
  obtain ⟨c1, -⟩ := base64Value_b64_sextet v 12
  simp only [base64Decode, base64DecodeQuad, c0, c1, and_self, if_true, if_false, first,
    BitVec.ofNat_toNat, BitVec.setWidth_eq, Option.pure_def, Option.bind_eq_bind, Option.some_bind, List.append_nil,
    Bool.false_eq_true]

/-- What `base64_encode` writes reads back, as RFC 4648 decodes it, as the bytes it was given. -/
theorem base64Decode_base64Encode (bytes : List (BitVec 8)) : base64Decode (base64Encode bytes) = some bytes := by
  -- Group by group, following the encoder's recursion.
  induction bytes using base64Encode.induct with
  | case1 => rfl
  | case2 b0 => exact base64Decode_one b0
  | case3 b0 b1 => exact base64Decode_two b0 b1
  | case4 b0 b1 b2 rest ih => rw [base64Encode, base64Decode_three, ih]; rfl

/-- `base64_encode` writes four characters for every three bytes or fewer. -/
theorem length_base64Encode (bytes : List (BitVec 8)) : (base64Encode bytes).length = 4 * ((bytes.length + 2) / 3) := by
  -- Group by group, four characters each.
  induction bytes using base64Encode.induct with
  | case1 => rfl
  | case2 b0 => simp [base64Encode, base64Quad]
  | case3 b0 b1 => simp [base64Encode, base64Quad]
  | case4 b0 b1 b2 rest ih =>
    rw [base64Encode, List.length_append, ih]
    simp only [base64Quad, List.length_cons, List.length_nil]
    omega



/-! ## The handshake -/

/-- A byte of `rx_buffer` read through `(char*)`. -/
def byteChar (b : BitVec 8) : Char := Char.ofNat b.toNat

/-- A character written through `(uint8_t*)`. -/
def charByte (c : Char) : BitVec 8 := BitVec.ofNat 8 c.toNat

/-- A byte is the NUL character exactly when it is 0, and reads back through `(uint8_t*)`. -/
theorem byteChar_spec : ∀ b : BitVec 8, (byteChar b = nulChar ↔ b = 0) ∧ charByte (byteChar b) = b := by
  -- Each of the 256 bytes is checked.
  decide

/-- `(char*)client.rx_buffer` as the C string `strstr` reads: the whole array, the `rx` bytes
received and after them the `stale` ones it still holds, up to the first NUL; `none` when the
array holds no NUL and `strstr` would read past its end. -/
def rxText (rx stale : List (BitVec 8)) : Option (List Char) :=
  if (0 : BitVec 8) ∈ rx ++ stale then some (((rx ++ stale).map byteChar).takeWhile (· != nulChar)) else none

/-- The blank line `"\r\n\r\n"` that ends the request's headers. -/
def crlfCrlf : List Char := "\r\n\r\n".toList

/-- `ws_find_header(headers, name)`: after the first occurrence of `name`, past the blanks and
colons that follow it. -/
def wsFindHeader (headers : List Char) (name : String) : Option (List Char) :=
  (findFrom name.toList headers).map fun p => (p.drop name.length).dropWhile fun c => c == ' ' || c == ':'

/-- The GUID of RFC 6455 that `wsHandshake` appends to the key. -/
def wsGuid : String := "258EAFA5-E914-47DA-95CA-C5AB0DC85B11"

/-- The text `snprintf` formats into `response` around the accept value. -/
def switchingProtocols (accept : List Char) : List Char :=
  "HTTP/1.1 101 Switching Protocols\r\nUpgrade: websocket\r\nConnection: Upgrade\r\nSec-WebSocket-Accept: ".toList ++
    accept ++ "\r\n\r\n".toList

/-- The 38 bytes of the frame `wsHandshake` sends once the handshake is done. -/
def connectedStatus : List (BitVec 8) := "\x7b\"status\":\"connected\",\"version\":\"3.1\"\x7d".toList.map charByte

/-- The line of a header value: `strpbrk(key_header, "\r\n")`. -/
def headerLine (value : List Char) : List Char := value.takeWhile fun c => c != '\r' && c != '\n'

/-- What `wsHandshake` makes of the bytes a client has sent so far. -/
inductive HandshakeAnswer
  /-- No blank line yet: it returns `true` and the client waits for more. -/
  | waiting
  /-- No `Sec-WebSocket-Key` header: it returns `false` and the client is removed. -/
  | refused
  /-- The array holds no NUL: `strstr` reads past `rx_buffer`, which is undefined. -/
  | overread
  /-- The `response` it sends, and the bytes after the blank line it keeps in `rx_buffer`. -/
  | accepted (response : List Char) (rest : List (BitVec 8))
  deriving DecidableEq, Repr

/-- `BrainDaemon::wsHandshake` once `strstr` has read the text `text` of the array whose first
`rx_len` bytes are `rx`: the key is the header's value up to the line end, at most 63 characters
(`key[64]`); `concat[128]` and `response[256]` keep what `snprintf` writes into them. -/
def handshakeAnswer (rx : List (BitVec 8)) (text : List Char) : HandshakeAnswer :=
  match findFrom crlfCrlf text with
  | none => .waiting
  | some fromEnd =>
    match wsFindHeader text "Sec-WebSocket-Key" with
    | none => .refused
    | some keyHeader =>
      let key := (headerLine keyHeader).take 63
      let concat := (key ++ wsGuid.toList).take 127
      let accept := base64Encode (sha1 (concat.map charByte))
      .accepted ((switchingProtocols accept).take 255) (rx.drop (text.length - fromEnd.length + 4))

/-- `BrainDaemon::wsHandshake` on `rx_buffer`: its first `rx_len` bytes `rx`, and the `stale` ones
after them, which `strstr` and `ws_find_header` read as well, up to the first NUL. -/
def wsHandshake (rx stale : List (BitVec 8)) : HandshakeAnswer :=
  match rxText rx stale with
  | none => .overread
  | some text => handshakeAnswer rx text

/-- What a search finds starts with the pattern and ends the text. -/
theorem findFrom_some {pattern text s : List Char} (found : findFrom pattern text = some s) : pattern <+: s ∧ s <:+ text := by
  -- Induction on the text: the search stops where the pattern starts.
  induction text with
  | nil =>
    simp only [findFrom] at found
    split at found
    · cases found; exact ⟨by simp_all, List.suffix_refl _⟩
    · cases found
  | cons c text ih =>
    simp only [findFrom] at found
    split at found
    · cases found; exact ⟨List.isPrefixOf_iff_prefix.mp ‹_›, List.suffix_refl _⟩
    · exact ⟨(ih found).1, (ih found).2.trans (List.suffix_cons c text)⟩

/-- What a search finds in the front of a text it finds in the whole text, with the rest after it. -/
theorem findFrom_append_of_some {pattern front s : List Char} (found : findFrom pattern front = some s) (back : List Char) :
    findFrom pattern (front ++ back) = some (s ++ back) := by
  -- Induction on the front: more text after it cannot match earlier than the front did.
  induction front with
  | nil =>
    simp only [findFrom] at found
    split at found
    · cases found; cases back <;> simp_all [findFrom, List.isEmpty_iff]
    · cases found
  | cons c front ih =>
    simp only [findFrom] at found
    split at found
    · cases found
      rename_i starts
      have hit : pattern.isPrefixOf (c :: front ++ back) = true :=
        List.isPrefixOf_iff_prefix.mpr ((List.isPrefixOf_iff_prefix.mp starts).trans (List.prefix_append _ back))
      rw [List.cons_append] at hit ⊢
      rw [findFrom, if_pos hit]
    · rename_i miss
      -- The pattern fits inside the front, so the back cannot complete a match the front missed.
      obtain ⟨starts, ends⟩ := findFrom_some found
      have short : pattern.length ≤ (c :: front).length := by
        have := starts.length_le; have := ends.length_le; simp only [List.length_cons]; omega
      have missAll : pattern.isPrefixOf (c :: (front ++ back)) = false := by
        rw [Bool.eq_false_iff]
        intro hit
        exact miss (List.isPrefixOf_iff_prefix.mpr (List.prefix_of_prefix_length_le
          (List.isPrefixOf_iff_prefix.mp hit) (List.prefix_append (c :: front) back) short))
      rw [List.cons_append, findFrom_cons_of_miss missAll, ih found]

/-- An array that holds a NUL right after a part without one reads as that part. -/
theorem rxText_of_zero {rx stale front more : List (BitVec 8)} (noNul : (0 : BitVec 8) ∉ front)
    (array : rx ++ stale = front ++ 0 :: more) : rxText rx stale = some (front.map byteChar) := by
  -- The search runs over the part and stops at the NUL after it.
  have nonNul : ∀ c ∈ front.map byteChar, (c != nulChar) = true := by
    intro c mem
    obtain ⟨b, inFront, rfl⟩ := List.mem_map.mp mem
    have nonzero : b ≠ 0 := fun zero => noNul (zero ▸ inFront)
    simpa [(byteChar_spec b).1] using nonzero
  have nul : byteChar 0 = nulChar := (byteChar_spec 0).1.mpr rfl
  rw [rxText, if_pos (array ▸ List.mem_append_right _ (List.mem_cons_self _ _)), array, List.map_append,
    List.takeWhile_append_of_pos nonNul, List.map_cons, nul]
  simp

/-- A search finds a pattern that ends the text. -/
theorem findFrom_append_pattern (pattern front : List Char) : ∃ s, findFrom pattern (front ++ pattern) = some s := by
  -- Either an earlier occurrence is found, or the search reaches the pattern at the end.
  induction front with
  | nil =>
    cases pattern with
    | nil => exact ⟨[], rfl⟩
    | cons c rest => exact ⟨c :: rest, by simp [findFrom, List.isPrefixOf_iff_prefix]⟩
  | cons c front ih =>
    rw [List.cons_append, findFrom]
    split
    · exact ⟨_, rfl⟩
    · exact ih

/-- RFC 6455, section 4.2.2: the `Sec-WebSocket-Accept` value for a key, the base64 of the SHA-1
of the key followed by the GUID. -/
def rfc6455Accept (key : List Char) : List Char := base64Encode (sha1 ((key ++ wsGuid.toList).map charByte))

/-- What the daemon sends when the handshake is done: the `101` response with the accept value of
the key, then the `connected` frame. -/
def handshakeReply (key : List Char) : List (BitVec 8) :=
  (switchingProtocols (rfc6455Accept key)).map charByte ++ wsSendFrame connectedStatus 1

/-- A handshake request as a client sends it: room for it and a byte after it in `rx_buffer`, no
NUL byte, its first blank line at its very end, and the `Sec-WebSocket-Key` header with a value of
at most 63 characters on its line (a key of RFC 6455 has 24). -/
structure HandshakeRequest (req : List (BitVec 8)) (key : List Char) : Prop where
  fits : req.length < rxBufferSize
  noNul : (0 : BitVec 8) ∉ req
  ends : findFrom crlfCrlf (req.map byteChar) = some crlfCrlf
  keyed : ∃ value, wsFindHeader (req.map byteChar) "Sec-WebSocket-Key" = some value ∧ headerLine value = key
  short : key.length ≤ 63

section Request

variable {req : List (BitVec 8)} {key : List Char} (request : HandshakeRequest req key)
include request

/-- Until its last byte has arrived, a request has no blank line. -/
theorem HandshakeRequest.waiting {part rest : List (BitVec 8)} (cut : part ++ rest = req) (more : rest ≠ []) :
    handshakeAnswer part (part.map byteChar) = .waiting := by
  -- A blank line in the part would be one in the request before its end.
  unfold handshakeAnswer
  cases found : findFrom crlfCrlf (part.map byteChar) with
  | none => rfl
  | some s =>
    have whole := findFrom_append_of_some found (rest.map byteChar)
    rw [← List.map_append, cut, request.ends, Option.some.injEq] at whole
    have := (findFrom_some found).1.length_le
    have := congrArg List.length whole
    simp only [List.length_append, List.length_map] at this
    exact absurd (List.length_pos.mpr more) (by simp only [crlfCrlf] at *; omega)

/-- A whole request is answered with the `101` response for its key, cut by none of the buffers,
and leaves no byte behind. -/
theorem HandshakeRequest.accepted :
    handshakeAnswer req (req.map byteChar) = .accepted (switchingProtocols (rfc6455Accept key)) [] := by
  -- The request's blank line ends it, and its key line gives the key.
  obtain ⟨value, found, line⟩ := request.keyed
  -- None of `key[64]`, `concat[128]` and `response[256]` cuts what is written into it.
  have concat : (key ++ wsGuid.toList).length ≤ 127 := by
    rw [List.length_append, show wsGuid.toList.length = 36 from rfl]; have := request.short; omega
  have response : (switchingProtocols (rfc6455Accept key)).length ≤ 255 := by
    simp [switchingProtocols, rfc6455Accept, length_base64Encode]
  -- The blank line ends the request, so nothing after it is kept.
  have consumed : req.length ≤ (req.map byteChar).length - crlfCrlf.length + 4 := by
    have := (findFrom_some request.ends).2.length_le
    simp only [List.length_map, show crlfCrlf.length = 4 from rfl] at this ⊢
    omega
  unfold handshakeAnswer
  rw [request.ends, found]
  dsimp only
  rw [line, List.take_of_length_le request.short, List.take_of_length_le concat, ← rfc6455Accept,
    List.take_of_length_le response, List.drop_eq_nil_of_le consumed]

end Request

/-- The opening handshake of RFC 6455, section 1.3. -/
def rfcRequest : List (BitVec 8) :=
  ("GET /chat HTTP/1.1\r\nHost: server.example.com\r\nUpgrade: websocket\r\nConnection: Upgrade\r\n" ++
    "Sec-WebSocket-Key: dGhlIHNhbXBsZSBub25jZQ==\r\nSec-WebSocket-Version: 13\r\n\r\n").toList.map charByte

/-- The request of RFC 6455, followed by a NUL in the array, gets the accept value the RFC gives
for it. -/
example : wsHandshake rfcRequest [0] = .accepted (switchingProtocols "s3pPLMBiTxaQ9kYGzzhZRbK+xOo=".toList) [] := by
  set_option maxRecDepth 100000 in rfl

/-- The bytes of the blank line. -/
def crlfCrlfBytes : List (BitVec 8) := [13, 10, 13, 10]

/-- With no key in it yet, the partial request is refused, and the client would be removed. -/
example : wsHandshake (rfcRequest.take 20) (crlfCrlfBytes ++ [0]) = .refused := by decide

/-! ## The handshake pass of `processClients` -/

/-- The bytes a handshake leaves behind are fewer than it was given. -/
theorem wsHandshake_rest_length {rx stale rest : List (BitVec 8)} {response : List Char}
    (answer : wsHandshake rx stale = .accepted response rest) : rest.length ≤ rx.length := by
  -- The only bytes kept are a suffix of those received.
  unfold wsHandshake handshakeAnswer at answer
  split at answer
  · cases answer
  · split at answer
    · cases answer
    · split at answer
      · cases answer
      · cases answer; simp

/-- A client before its handshake: the `rx_len` bytes received, and the rest of `rx_buffer` as it
still is. `acceptClients` never initialises the array (`WsClient client;`), so those bytes are
whatever the memory held. -/
structure HandshakingClient where
  rx : List (BitVec 8)
  stale : List (BitVec 8)
  size : rx.length + stale.length = rxBufferSize

/-- A client just accepted: `rx_len = 0`, and the array as it happens to be. -/
def HandshakingClient.fresh (initial : List (BitVec 8)) (size : initial.length = rxBufferSize) : HandshakingClient :=
  ⟨[], initial, by simpa using size⟩

/-- What `recv(client.fd, client.rx_buffer + client.rx_len, sizeof(client.rx_buffer) - client.rx_len, 0)`
returns when the first `n` of the bytes `pending` have arrived, as for a client past its handshake. -/
def HandshakingClient.chunk (n : Nat) (pending : List (BitVec 8)) (c : HandshakingClient) : List (BitVec 8) :=
  (pending.take n).take (rxBufferSize - c.rx.length)

/-- The bytes `recv` returns come off the front of those waiting. -/
theorem HandshakingClient.chunk_append_drop (c : HandshakingClient) (n : Nat) (pending : List (BitVec 8)) :
    c.chunk n pending ++ pending.drop (c.chunk n pending).length = pending := by
  -- What `recv` returns is a prefix of the bytes waiting.
  have front : c.chunk n pending <+: pending := (List.take_prefix _ _).trans (List.take_prefix n pending)
  nth_rewrite 1 [List.prefix_iff_eq_take.mp front]
  exact List.take_append_drop _ _

/-- The client after `recv` wrote its bytes at `rx_len` and `rx_len += n`. -/
def HandshakingClient.append (n : Nat) (pending : List (BitVec 8)) (c : HandshakingClient) : HandshakingClient :=
  ⟨c.rx ++ c.chunk n pending, c.stale.drop (c.chunk n pending).length, by
    have := c.size
    simp only [HandshakingClient.chunk, List.length_append, List.length_drop, List.length_take]
    omega⟩

/-- The bytes received fit in the array. -/
theorem HandshakingClient.rx_length_le (c : HandshakingClient) : c.rx.length ≤ rxBufferSize := by
  -- The stale bytes make up the rest of its size.
  have := c.size
  omega

/-- A client in `m_clients`, before its handshake is done (`handshake_done`) or after, or what a
pass of `processClients` left of it. -/
inductive WsSession
  /-- Waiting for the rest of the request. -/
  | handshaking (client : HandshakingClient)
  /-- Past the handshake. -/
  | opened (client : WsClient)
  /-- `removeClient`. -/
  | removed
  /-- `wsProcessFrame` read past `rx_len` or never returned, or `strstr` read past `rx_buffer`. -/
  | faulted

/-- What passes of `processClients` over one client leave: the bytes sent to it by the
handshake, what `wsProcessFrame` passed on, the client, and the bytes still on their way. -/
structure WsTrace where
  sent : List (BitVec 8)
  events : List WsEvent
  session : WsSession
  pending : List (BitVec 8)

/-- One pass of `processClients` over one client when the first `n` of the bytes `pending` have
arrived. Before the handshake, the bytes `recv` returns go to `wsHandshake`, which answers once a
blank line is in the array; after it, to `wsProcessFrame`, as `WsClient.receive` has it. -/
def WsSession.receive (n : Nat) (pending : List (BitVec 8)) : WsSession → WsTrace
  | .handshaking c =>
    let unread := pending.drop (c.chunk n pending).length
    if pending.take n = [] then ⟨[], [], .handshaking c, unread⟩
    else if c.chunk n pending = [] then ⟨[], [], .removed, unread⟩
    else
      match answer : wsHandshake (c.append n pending).rx (c.append n pending).stale with
      | .waiting => ⟨[], [], .handshaking (c.append n pending), unread⟩
      | .refused => ⟨[], [], .removed, unread⟩
      | .overread => ⟨[], [], .faulted, unread⟩
      | .accepted response rest =>
        ⟨response.map charByte ++ wsSendFrame connectedStatus 1, [],
          .opened ⟨rest, (wsHandshake_rest_length answer).trans (c.append n pending).rx_length_le⟩, unread⟩
  | .opened c =>
    let unread := pending.drop (c.chunk n pending).length
    match c.receive n pending with
    | (events, .connected next) => ⟨[], events, .opened next, unread⟩
    | (events, .removed) => ⟨[], events, .removed, unread⟩
    | (events, .faulted) => ⟨[], events, .faulted, unread⟩
  | .removed => ⟨[], [], .removed, pending⟩
  | .faulted => ⟨[], [], .faulted, pending⟩

/-- Passes of `processClients` over one client, the first `n` of the bytes still on their way
arrived at each. -/
def WsSession.run : List Nat → List (BitVec 8) → WsSession → WsTrace
  | [], pending, s => ⟨[], [], s, pending⟩
  | n :: reads, pending, s =>
    let pass := s.receive n pending
    let rest := WsSession.run reads pass.pending pass.session
    ⟨pass.sent ++ rest.sent, pass.events ++ rest.events, rest.session, rest.pending⟩

/-- With nothing on its way, passes over an open client change nothing. -/
theorem WsSession.run_opened_idle (reads : List Nat) (c : WsClient) :
    WsSession.run reads [] (.opened c) = ⟨[], [], .opened c, []⟩ := by
  -- Each pass finds nothing to receive.
  induction reads with
  | nil => rfl
  | cons n reads ih => simp [WsSession.run, WsSession.receive, WsClient.receive, ih]

/-- The array holds zero bytes from `rx_len` on, as far as the next `n` received bytes can reach
and one past them. -/
def ZeroAhead (stale : List (BitVec 8)) (n : Nat) : Prop := ∀ b ∈ stale.take (n + 1), b = 0

/-- Past `m` more bytes received, the array is still zero as far as it was. -/
theorem ZeroAhead.drop {stale : List (BitVec 8)} {n m : Nat} (zeroed : ZeroAhead stale n) (le : m ≤ n) :
    ZeroAhead (stale.drop m) (n - m) := by
  -- The bytes from `m` to `n` are among the first `n + 1`.
  intro b member
  rw [List.take_drop, show m + (n - m + 1) = n + 1 by omega] at member
  exact zeroed b (List.mem_of_mem_drop member)

/-- Past at most `n` more bytes received, the array holds a NUL right after them. -/
theorem ZeroAhead.head {stale : List (BitVec 8)} {n m : Nat} (zeroed : ZeroAhead stale n) (le : m ≤ n)
    (inside : m < stale.length) : ∃ more, stale.drop m = 0 :: more := by
  -- The byte at `m` is among the zeroed ones.
  obtain ⟨b, more, first⟩ : ∃ b more, stale.drop m = b :: more :=
    List.exists_cons_of_ne_nil (by simp only [ne_eq, List.drop_eq_nil_iff, not_le]; exact inside)
  have zero := zeroed.drop le b (by rw [first]; simp)
  exact ⟨more, zero ▸ first⟩

/-- Where passes over a client leave a request: still waiting for its rest, nothing sent, with
the array zero as far as the rest can reach, or answered by its reply, with an empty buffer and
nothing more on its way. -/
def HandshakeAfter (req : List (BitVec 8)) (key : List Char) (t : WsTrace) : Prop :=
  (t.sent = [] ∧ t.events = [] ∧ t.pending ≠ [] ∧
    ∃ c, t.session = .handshaking c ∧ c.rx ++ t.pending = req ∧ ZeroAhead c.stale t.pending.length) ∨
    t = ⟨handshakeReply key, [], .opened WsClient.empty, []⟩

/-- Passes over a removed client change nothing. -/
theorem WsSession.run_removed (reads : List Nat) (pending : List (BitVec 8)) :
    WsSession.run reads pending .removed = ⟨[], [], .removed, pending⟩ := by
  -- A removed client is never read again.
  induction reads with
  | nil => rfl
  | cons n reads ih => simp [WsSession.run, WsSession.receive, ih]

/-- Passes over a faulted client change nothing. -/
theorem WsSession.run_faulted (reads : List Nat) (pending : List (BitVec 8)) :
    WsSession.run reads pending .faulted = ⟨[], [], .faulted, pending⟩ := by
  -- After undefined behaviour the model follows the client no further.
  induction reads with
  | nil => rfl
  | cons n reads ih => simp [WsSession.run, WsSession.receive, ih]

/-- Past the handshake, passes over a client are those of the receive path. -/
theorem WsSession.run_opened (reads : List Nat) (pending : List (BitVec 8)) (c : WsClient) :
    (WsSession.run reads pending (.opened c)).sent = [] ∧
      (WsSession.run reads pending (.opened c)).events = (c.run reads pending).1 ∧
      (WsSession.run reads pending (.opened c)).pending = (c.run reads pending).2.2 ∧
      ∀ next, (c.run reads pending).2.1 = .connected next → (WsSession.run reads pending (.opened c)).session = .opened next := by
  -- Pass by pass, the session follows the client's receive path.
  induction reads generalizing c pending with
  | nil => exact ⟨rfl, rfl, rfl, fun next connected => by cases connected; rfl⟩
  | cons n reads ih =>
    simp only [WsSession.run, WsSession.receive, WsClient.run]
    rcases c.receive n pending with ⟨events, next | _ | _⟩
    · obtain ⟨sent, out, unread, session⟩ := ih (pending.drop (c.chunk n pending).length) next
      exact ⟨sent, by rw [out], unread, session⟩
    · simp [WsSession.run_removed]
    · simp [WsSession.run_faulted]

section Handshaking

variable {req : List (BitVec 8)} {key : List Char} (request : HandshakeRequest req key)
include request

/-- A pass over a client that has received part of a request, over an array zero as far as the
rest can reach, either keeps waiting for the rest or, once the last byte has arrived, answers it
and opens with an empty buffer. -/
theorem HandshakeRequest.receive {c : HandshakingClient} {pending : List (BitVec 8)} (waiting : c.rx ++ pending = req)
    (zeroed : ZeroAhead c.stale pending.length) (more : pending ≠ []) (n : Nat) :
    HandshakeAfter req key (WsSession.receive n pending (.handshaking c)) := by
  -- Follow the pass: nothing arrived, or the bytes arrived and the handshake reads them up to the zero after them.
  have split := c.chunk_append_drop n pending
  -- The request fits before the end of the array, so there is room after what was received.
  have room : c.rx.length + pending.length < rxBufferSize := by
    have := request.fits; rw [← waiting, List.length_append] at this; exact this
  have roomy : pending.length < c.stale.length := by have := c.size; omega
  unfold WsSession.receive
  dsimp only
  split_ifs with none noRoom
  · -- Nothing arrived: the client waits as it was.
    have nothing : c.chunk n pending = [] := by simp [HandshakingClient.chunk, none]
    rw [nothing, List.length_nil, List.drop_zero]
    exact .inl ⟨rfl, rfl, more, c, rfl, waiting, zeroed⟩
  · -- `recv` had room for at least one byte of the request.
    exfalso
    simp only [HandshakingClient.chunk, List.take_eq_nil_iff] at noRoom
    rcases noRoom with full | empty
    · omega
    · exact none (List.take_eq_nil_iff.mpr empty)
  · have chunkLength : (c.chunk n pending).length ≤ pending.length :=
      (List.length_take_le' _ _).trans (List.length_take_le' _ _)
    have whole : (c.append n pending).rx ++ pending.drop (c.chunk n pending).length = req := by
      rw [HandshakingClient.append, List.append_assoc, split, waiting]
    -- The array holds a NUL right after the bytes received, so `strstr` reads just them.
    obtain ⟨after, zero⟩ := zeroed.head chunkLength (by omega)
    have noNul : (0 : BitVec 8) ∉ (c.append n pending).rx := fun mem =>
      request.noNul (whole ▸ List.mem_append_left _ mem)
    have text : wsHandshake (c.append n pending).rx (c.append n pending).stale =
        handshakeAnswer (c.append n pending).rx ((c.append n pending).rx.map byteChar) := by
      rw [wsHandshake, rxText_of_zero noNul (show (c.append n pending).rx ++ (c.append n pending).stale = _ from
        congrArg _ zero)]
    by_cases last : pending.drop (c.chunk n pending).length = []
    · -- The last byte has arrived: the request is answered and nothing is left.
      rw [last, List.append_nil] at whole
      have answered := text.trans (whole ▸ request.accepted)
      split <;> rename_i answer <;> rw [answered] at answer <;> cases answer
      exact .inr (by rw [last]; rfl)
    · -- Some of the request is still on its way, with the array zero past it as before.
      have wait := text.trans (request.waiting whole last)
      split <;> rename_i answer <;> rw [wait] at answer <;> cases answer
      refine .inl ⟨rfl, rfl, last, _, rfl, whole, ?_⟩
      have := zeroed.drop chunkLength
      rwa [List.length_drop]

/-- Passes over a client that has received part of a request leave it waiting for the rest or
answered. -/
theorem HandshakeRequest.run {c : HandshakingClient} {pending : List (BitVec 8)} (waiting : c.rx ++ pending = req)
    (zeroed : ZeroAhead c.stale pending.length) (more : pending ≠ []) (reads : List Nat) :
    HandshakeAfter req key (WsSession.run reads pending (.handshaking c)) := by
  -- Induction on the passes, each waiting or answering.
  induction reads generalizing c pending with
  | nil => exact .inl ⟨rfl, rfl, more, c, rfl, waiting, zeroed⟩
  | cons n reads ih =>
    rcases request.receive waiting zeroed more n with
      ⟨sent, events, more', c', session, rest, zeroed'⟩ | answered
    · -- The pass left the client waiting: the passes after it start from there.
      simpa only [WsSession.run, sent, events, session, List.nil_append] using ih rest zeroed' more'
    · -- The pass answered: nothing more is on its way, and the passes after it change nothing.
      simp only [WsSession.run, answered, WsSession.run_opened_idle, List.append_nil]
      exact .inr rfl

/-- A request holds at least its blank line. -/
theorem HandshakeRequest.nonempty : req ≠ [] := by
  -- The blank line is found in it.
  rintro rfl
  cases request.ends

/-- Once the whole of a request has been read by a client accepted over an array zero as far as
the request reaches, it has been answered. -/
theorem HandshakeRequest.complete {initial : List (BitVec 8)} (size : initial.length = rxBufferSize)
    (zeroed : ZeroAhead initial req.length) (reads : List Nat)
    (read : (WsSession.run reads req (.handshaking (HandshakingClient.fresh initial size))).pending = []) :
    (WsSession.run reads req (.handshaking (HandshakingClient.fresh initial size))).sent = handshakeReply key ∧
      (WsSession.run reads req (.handshaking (HandshakingClient.fresh initial size))).session = .opened WsClient.empty := by
  -- A request still waiting has bytes on their way.
  rcases request.run (c := HandshakingClient.fresh initial size) rfl zeroed request.nonempty reads with
    ⟨-, -, more, -⟩ | answered
  · exact absurd read more
  · simp [answered]

end Handshaking

/-- An array of zero bytes, as `rx_buffer` would be had `acceptClients` cleared it. -/
def zeroArray : List (BitVec 8) := List.replicate rxBufferSize 0

/-- A zero array is as long as `rx_buffer`. -/
theorem zeroArray_length : zeroArray.length = rxBufferSize :=
  -- `RX_BUFFER_SIZE` zero bytes.
  List.length_replicate _ _

/-- A zero array holds a zero byte wherever a request can reach. -/
theorem zeroArray_zero (n : Nat) : ZeroAhead zeroArray n := fun _ member =>
  -- Every byte of the array is zero.
  List.eq_of_mem_replicate (List.mem_of_mem_take member)

/--
A whole connection of a client that follows RFC 6455, if its `rx_buffer` happens to hold zero
bytes as far as the request reaches and one byte past it (the code does not initialise it). The
client sends its request, with any number of bytes arriving before each pass, and once the request
has been read waits for the answer before it sends its frames (masked, each length in its shortest
form, each of at most `RX_BUFFER_SIZE` bytes), again with any number of bytes arriving before each
pass. The handshake is answered with the reply for the client's key; after it nothing more is sent
by the handshake, the client is never removed, what `wsProcessFrame` passes on is always that of
the first frames, in order, and once the frames have all been read it is that of all of them.
-/
theorem ws_connection_any_chunking (req : List (BitVec 8)) (key : List Char) (request : HandshakeRequest req key)
    (initial : List (BitVec 8)) (size : initial.length = rxBufferSize) (zeroed : ∀ b ∈ initial.take (req.length + 1), b = 0)
    (frames : List ClientFrame) (fit : ∀ f ∈ frames, f.bytes.length ≤ rxBufferSize) (opening reads : List Nat) :
    let handshake := WsSession.run opening req (.handshaking (HandshakingClient.fresh initial size))
    let session := WsSession.run reads (frames.flatMap ClientFrame.bytes) handshake.session
    handshake.pending = [] →
      handshake.sent = handshakeReply key ∧ session.sent = [] ∧ (∃ c, session.session = .opened c) ∧
      (∃ j, session.events = (frames.take j).flatMap ClientFrame.events) ∧
      (session.pending = [] → session.events = frames.flatMap ClientFrame.events) := by
  -- The handshake opens the client with an empty buffer, where the frames' receive path starts.
  dsimp only
  intro read
  obtain ⟨replied, opened⟩ := request.complete size zeroed opening read
  obtain ⟨j, next, out, connection, last⟩ := (WsWaiting.start frames).run fit reads
  obtain ⟨sent, events, pending, session'⟩ := WsSession.run_opened reads (frames.flatMap ClientFrame.bytes) WsClient.empty
  rw [opened]
  rw [List.drop_zero] at out
  rw [Nat.zero_add] at last
  refine ⟨replied, sent, ⟨next, session' next connection⟩, ⟨j, events.trans out⟩, fun readAll => ?_⟩
  rw [pending] at readAll
  rw [readAll] at last
  rw [events, out, last.all_frames, List.take_length]

set_option maxRecDepth 100000 in
/-- The request of RFC 6455 read whole by a client whose array holds zero bytes, then a text frame
`{}` and a ping read three, then four, then the rest of their bytes at a time. -/
theorem rfc_connection_in_small_reads :
    HandshakeRequest rfcRequest "dGhlIHNhbXBsZSBub25jZQ==".toList ∧ zeroArray.length = rxBufferSize ∧
      (∀ b ∈ zeroArray.take (rfcRequest.length + 1), b = 0) ∧
      (∀ f ∈ ([⟨true, 1, ⟨[0x12, 0x34, 0x56, 0x78], rfl⟩, [0x7B, 0x7D]⟩, ⟨true, 9, ⟨[1, 2, 3, 4], rfl⟩, [0x61]⟩] :
        List ClientFrame), f.bytes.length ≤ rxBufferSize) ∧
      (WsSession.run [1000] rfcRequest (.handshaking (HandshakingClient.fresh zeroArray zeroArray_length))).pending = [] ∧
      let handshake := WsSession.run [1000] rfcRequest (.handshaking (HandshakingClient.fresh zeroArray zeroArray_length))
      let session := WsSession.run [3, 4, 100] (([⟨true, 1, ⟨[0x12, 0x34, 0x56, 0x78], rfl⟩, [0x7B, 0x7D]⟩,
        ⟨true, 9, ⟨[1, 2, 3, 4], rfl⟩, [0x61]⟩] : List ClientFrame).flatMap ClientFrame.bytes) handshake.session
      handshake.sent = handshakeReply "dGhlIHNhbXBsZSBub25jZQ==".toList ∧ session.sent = [] ∧
        (∃ c, session.session = .opened c) ∧
        (∃ j, session.events = (([⟨true, 1, ⟨[0x12, 0x34, 0x56, 0x78], rfl⟩, [0x7B, 0x7D]⟩,
          ⟨true, 9, ⟨[1, 2, 3, 4], rfl⟩, [0x61]⟩] : List ClientFrame).take j).flatMap ClientFrame.events) ∧
        (session.pending = [] → session.events = ([⟨true, 1, ⟨[0x12, 0x34, 0x56, 0x78], rfl⟩, [0x7B, 0x7D]⟩,
          ⟨true, 9, ⟨[1, 2, 3, 4], rfl⟩, [0x61]⟩] : List ClientFrame).flatMap ClientFrame.events) := by
  -- The whole request arrives in one read; the theorem then gives the connection.
  have valid : HandshakeRequest rfcRequest "dGhlIHNhbXBsZSBub25jZQ==".toList :=
    ⟨by decide, by decide, rfl, ⟨_, rfl, rfl⟩, by decide⟩
  have read : (WsSession.run [1000] rfcRequest (.handshaking (HandshakingClient.fresh zeroArray zeroArray_length))).pending = [] := rfl
  exact ⟨valid, zeroArray_length, zeroArray_zero _, by decide, read,
    ws_connection_any_chunking _ _ valid zeroArray zeroArray_length (zeroArray_zero _) _ (by decide) _ _ read⟩

end Milkspider
