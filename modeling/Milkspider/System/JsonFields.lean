import Milkspider.System.Commands

/-! The JSON field readers of `src/main.cpp` (`parseJsonInt`, `parseJsonIntArray`,
`parseJsonString`, `servoNameToChannel`) and the `handleCommand` branches built on them. -/

namespace Milkspider

/-! ## Searching and reading the text -/

/-- `json.find(pattern)`: the text from the first occurrence of `pattern` on. -/
def findFrom (pattern : List Char) : List Char → Option (List Char)
  | [] => if pattern.isEmpty then some [] else none
  | c :: rest => if pattern.isPrefixOf (c :: rest) then some (c :: rest) else findFrom pattern rest

/-- A search that cannot start inside `skipped` goes on after it. -/
theorem findFrom_append_of_not_mem {first : Char} {pattern skipped : List Char} (text : List Char)
    (absent : first ∉ skipped) :
    findFrom (first :: pattern) (skipped ++ text) = findFrom (first :: pattern) text := by
  -- Induction on `skipped`: no match can start at a character other than the pattern's first.
  induction skipped with
  | nil => rfl
  | cons c skipped ih =>
    have other : (first == c) = false := beq_false_of_ne fun same => absent (same ▸ List.mem_cons_self c skipped)
    simp only [List.cons_append, findFrom, List.isPrefixOf, other, Bool.false_and, if_false]
    exact ih fun inside => absent (List.mem_cons_of_mem c inside)

/-- A text that starts with the pattern is found at once. -/
theorem findFrom_prefix (pattern rest : List Char) : findFrom pattern (pattern ++ rest) = some (pattern ++ rest) := by
  -- The first test already matches.
  cases pattern with
  | nil => cases rest <;> rfl
  | cons c pattern => simp [findFrom, List.isPrefixOf_iff_prefix]

/-- A search that does not match at the first character goes on after it. -/
theorem findFrom_cons_of_miss {pattern rest : List Char} {c : Char}
    (miss : pattern.isPrefixOf (c :: rest) = false) : findFrom pattern (c :: rest) = findFrom pattern rest := by
  -- The first test fails.
  simp [findFrom, miss]

/-- The value of a run of decimal digits read on from `acc`, with no bound. -/
def decimalValue (acc : Nat) (digits : List Char) : Nat :=
  digits.foldl (fun value c => value * 10 + (c.toNat - '0'.toNat)) acc

/-- The digit loop of the readers, `val = val * 10 + (json[pos] - '0')` in `int` while the next
character is a digit: the value and the unread text. -/
def readDigits (val : BitVec 32) : List Char → BitVec 32 × List Char
  | [] => (val, [])
  | c :: rest =>
    if c.isDigit then readDigits (val * 10 + BitVec.ofNat 32 (c.toNat - '0'.toNat)) rest else (val, c :: rest)

/-- The digit loop reads the longest run of digits ahead, its value cut to 32 bits, and leaves
the rest of the text. -/
theorem readDigits_eq (acc : Nat) (text : List Char) :
    readDigits (BitVec.ofNat 32 acc) text =
      (BitVec.ofNat 32 (decimalValue acc (text.takeWhile Char.isDigit)), text.dropWhile Char.isDigit) := by
  -- One digit more is `acc * 10 + digit` in 32 bits as well as in `Nat`.
  induction text generalizing acc with
  | nil => rfl
  | cons c rest ih =>
    by_cases digit : c.isDigit
    · have step : BitVec.ofNat 32 acc * 10 + BitVec.ofNat 32 (c.toNat - '0'.toNat) =
          BitVec.ofNat 32 (acc * 10 + (c.toNat - '0'.toNat)) := by
        rw [← BitVec.ofNat_add_ofNat]
        congr 1
        apply BitVec.eq_of_toNat_eq
        simp [Nat.mul_mod]
      simp only [readDigits, digit, if_true, step, ih, List.takeWhile_cons_of_pos digit,
        List.dropWhile_cons_of_pos digit]
      rfl
    · simp [readDigits, digit, List.takeWhile_cons, List.dropWhile_cons, decimalValue]

/-- A run of digits followed by a non-digit reads as its value and leaves exactly the rest. -/
theorem readDigits_literal {digits rest : List Char} (acc : Nat) (allDigits : ∀ c ∈ digits, c.isDigit)
    (ends : ∀ c ∈ rest.head?, c.isDigit = false) :
    readDigits (BitVec.ofNat 32 acc) (digits ++ rest) = (BitVec.ofNat 32 (decimalValue acc digits), rest) := by
  -- The digits are all read, and the loop stops at the first character after them.
  have stops : rest.takeWhile Char.isDigit = [] ∧ rest.dropWhile Char.isDigit = rest := by
    cases rest with
    | nil => exact ⟨rfl, rfl⟩
    | cons c rest => simp [List.takeWhile_cons, List.dropWhile_cons, ends c rfl]
  rw [readDigits_eq, List.takeWhile_append_of_pos allDigits, List.dropWhile_append_of_pos allDigits, stops.1,
    stops.2, List.append_nil]

/-- The blanks `parseJsonInt` skips after the colon. -/
def skipBlanks (text : List Char) : List Char :=
  text.dropWhile fun c => c == ' ' || c == '\t'

/-- The search text of `parseJsonInt`, `"key":`. -/
def intKey (key : String) : List Char := ("\"" ++ key ++ "\":").toList

/-- What `parseJsonInt` reads after its key: blanks, an optional minus sign, then digits (none at
all reads as 0); the default when the text ends first. -/
def readJsonInt (defaultVal : BitVec 32) (text : List Char) : BitVec 32 :=
  match skipBlanks text with
  | [] => defaultVal
  | c :: rest => if c = '-' then -(readDigits 0 rest).1 else (readDigits 0 (c :: rest)).1

/-- A value that does not start with a minus sign reads as its leading digits, 0 when there are
none, cut to 32 bits. -/
theorem readJsonInt_of_unsigned {text value : List Char} {first : Char} (start : skipBlanks text = first :: value)
    (unsigned : first ≠ '-') (defaultVal : BitVec 32) :
    readJsonInt defaultVal text = BitVec.ofNat 32 (decimalValue 0 ((first :: value).takeWhile Char.isDigit)) := by
  -- Without a minus sign the digit loop starts at the first character.
  simp only [readJsonInt, start, if_neg unsigned]
  exact congrArg Prod.fst (readDigits_eq 0 (first :: value))

/-- `parseJsonInt`: the number after the first `"key":` of the text, or the default. -/
def parseJsonInt (json key : String) (defaultVal : BitVec 32) : BitVec 32 :=
  match findFrom (intKey key) json.toList with
  | none => defaultVal
  | some found => readJsonInt defaultVal (found.drop (intKey key).length)

/-- `parseJsonInt` reads on from the first `"key":` of the text. -/
theorem parseJsonInt_of_find {json key : String} {after : List Char}
    (found : findFrom (intKey key) json.toList = some (intKey key ++ after)) (defaultVal : BitVec 32) :
    parseJsonInt json key defaultVal = readJsonInt defaultVal after := by
  -- The reader drops the key and reads on.
  rw [parseJsonInt, found]
  exact congrArg (readJsonInt defaultVal) (List.drop_left _ _)

/-- A character the loop of `parseJsonIntArray` skips before an element: blank or comma. -/
def isArraySeparator (c : Char) : Bool := c == ' ' || c == '\t' || c == ','

/-- The loop of `parseJsonIntArray` with room for `room` more entries: skip separators, stop at
the end or at `]`, else read digits (none if the next character is not a digit) and store the
value as `uint16_t`. -/
def readIntArray : Nat → List Char → List (BitVec 16)
  | 0, _ => []
  | room + 1, text =>
    match text.dropWhile isArraySeparator with
    | [] => []
    | c :: rest =>
      if c = ']' then []
      else (readDigits 0 (c :: rest)).1.setWidth 16 :: readIntArray room (readDigits 0 (c :: rest)).2

/-- The array loop skips a separator. -/
theorem readIntArray_separator {c : Char} (separator : isArraySeparator c) (room : Nat) (rest : List Char) :
    readIntArray room (c :: rest) = readIntArray room rest := by
  -- The loop's `dropWhile` skips the separator.
  cases room with
  | zero => rfl
  | succ room => simp only [readIntArray, List.dropWhile_cons_of_pos separator]

/-- A character that is no digit, separator or `]` is read as an element of value 0 without
being consumed, so it fills every entry left. -/
theorem readIntArray_junk {c : Char} (notDigit : c.isDigit = false) (notSeparator : isArraySeparator c = false)
    (notClose : c ≠ ']') (room : Nat) (rest : List Char) :
    readIntArray room (c :: rest) = List.replicate room 0 := by
  -- Induction on the room: each round reads no digit and stays at the junk character.
  induction room with
  | zero => rfl
  | succ room ih =>
    have kept : (c :: rest).dropWhile isArraySeparator = c :: rest :=
      List.dropWhile_cons_of_neg (by simp [notSeparator])
    simp only [readIntArray, kept, readDigits, notDigit, Bool.false_eq_true, if_false, if_neg notClose, ih]
    rfl

/-- A digit is neither a separator of the array loop nor its closing bracket. -/
theorem isArraySeparator_of_isDigit {c : Char} (digit : c.isDigit) : isArraySeparator c = false ∧ c ≠ ']' := by
  -- A digit is none of the four characters.
  constructor
  · cases separator : isArraySeparator c
    · rfl
    · simp only [isArraySeparator, Bool.or_eq_true, beq_iff_eq] at separator
      rcases separator with (rfl | rfl) | rfl <;> simp_all [Char.isDigit]
  · rintro rfl
    simp [Char.isDigit] at digit

/-- An element written as digits is stored as its value cut to 16 bits. -/
theorem readIntArray_literal {digits rest : List Char} (literal : digits ≠ [])
    (allDigits : ∀ c ∈ digits, c.isDigit)
    (ends : ∀ c ∈ rest.head?, c.isDigit = false) (room : Nat) :
    readIntArray (room + 1) (digits ++ rest) = BitVec.ofNat 16 (decimalValue 0 digits) :: readIntArray room rest := by
  -- The element starts with a digit, so the loop reads it whole.
  obtain ⟨first, others, rfl⟩ := List.exists_cons_of_ne_nil literal
  obtain ⟨notSeparator, notClose⟩ := isArraySeparator_of_isDigit (allDigits first (List.mem_cons_self _ _))
  have read := readDigits_literal 0 allDigits ends
  rw [List.cons_append] at read
  have kept : (first :: (others ++ rest)).dropWhile isArraySeparator = first :: (others ++ rest) :=
    List.dropWhile_cons_of_neg (by simp [notSeparator])
  simp only [readIntArray, List.cons_append, kept, if_neg notClose]
  rw [show (0 : BitVec 32) = BitVec.ofNat 32 0 from rfl, read, BitVec.setWidth_ofNat_of_le (by decide)]

/-- Elements written as digits, each followed by a comma, are stored in order. -/
theorem readIntArray_elements {elements : List (List Char)}
    (literals : ∀ element ∈ elements, element ≠ [] ∧ ∀ c ∈ element, c.isDigit) (room : Nat)
    (rest : List Char) :
    readIntArray (elements.length + room) (elements.flatMap (· ++ [',']) ++ rest) =
      elements.map (fun element => BitVec.ofNat 16 (decimalValue 0 element)) ++ readIntArray room rest := by
  -- Each element is one read of digits, stopped by its comma, which the next round skips.
  induction elements with
  | nil => simp
  | cons element elements ih =>
    obtain ⟨literal, allDigits⟩ := literals element (List.mem_cons_self _ _)
    rw [List.length_cons, Nat.add_right_comm, List.flatMap_cons, List.append_assoc, List.append_assoc,
      List.singleton_append,
      readIntArray_literal literal allDigits (fun c member => by cases Option.mem_some_iff.mp member; rfl),
      readIntArray_separator (c := ',') rfl, ih fun other member => literals other (List.mem_cons_of_mem _ member)]
    rfl

/-- The search texts of `parseJsonIntArray`, `"key":[` and then `"key": [`. -/
def arrayKey (key : String) : List Char := ("\"" ++ key ++ "\":[").toList

/-- The spaced search text of `parseJsonIntArray`, `"key": [`. -/
def arrayKeySpaced (key : String) : List Char := ("\"" ++ key ++ "\": [").toList

/-- The array key is the integer key and a bracket. -/
theorem arrayKey_eq (key : String) : arrayKey key = intKey key ++ ['['] := by
  -- Both are the same text.
  simp [arrayKey, intKey, String.toList]

/-- `parseJsonIntArray` with `max_count` entries: the values stored in `out`, whose length is
the count returned. -/
def parseJsonIntArray (json key : String) (maxCount : Nat) : List (BitVec 16) :=
  match findFrom (arrayKey key) json.toList <|> findFrom (arrayKeySpaced key) json.toList with
  | none => []
  | some found =>
    match findFrom ['['] found with
    | none => []
    | some bracket => readIntArray maxCount (bracket.drop 1)

/-- `parseJsonIntArray` reads on from the first `"key":[` of the text. -/
theorem parseJsonIntArray_of_find {json key : String} {body : List Char} (noBracket : '[' ∉ key.toList)
    (found : findFrom (arrayKey key) json.toList = some (arrayKey key ++ body)) (maxCount : Nat) :
    parseJsonIntArray json key maxCount = readIntArray maxCount body := by
  -- The bracket after the key is found at once.
  have bracket : findFrom ['['] (arrayKey key ++ body) = some ('[' :: body) := by
    rw [arrayKey_eq, List.append_assoc, findFrom_append_of_not_mem]
    · exact findFrom_prefix ['['] body
    · simpa [intKey, String.toList] using noBracket
  rw [parseJsonIntArray, found]
  simp only [HOrElse.hOrElse, OrElse.orElse, Option.orElse, bracket]
  rfl

/-- `parseJsonString` into a buffer of `out_size` characters: the characters between the quotes
after the first `"key":"` (or `"key": "`), cut to `out_size - 1`; `none` when it returns false. -/
def parseJsonString (json key : String) (outSize : Nat) : Option (List Char) :=
  match findFrom ("\"" ++ key ++ "\":\"").toList json.toList <|>
      findFrom ("\"" ++ key ++ "\": \"").toList json.toList with
  | none => none
  | some found =>
    match findFrom ['"'] (found.drop (key.length + 2)) with
    | none => none
    | some quote =>
      if '"' ∈ quote.drop 1 then some (((quote.drop 1).takeWhile fun c => c != '"').take (outSize - 1))
      else none

/-- The names `servoNameToChannel` knows, in channel order. -/
def servoNames : List String :=
  ["leg0_coxa", "leg0_femur", "leg1_coxa", "leg1_femur", "leg2_coxa", "leg2_femur", "leg3_coxa",
    "leg3_femur", "aux0", "aux1", "aux2", "aux3", "scan"]

/-- `servoNameToChannel`: the channel of a name, compared with `strcmp` up to its first NUL, or
-1. -/
def servoNameToChannel (name : List Char) : BitVec 32 :=
  match servoNames.findIdx? fun known => known.toList == name.takeWhile fun c => c != '\x00' with
  | some channel => BitVec.ofNat 32 channel
  | none => -1

/-! ## The servo commands -/

/-- The error `handleCommand` broadcasts for a bad channel. -/
def invalidChannelError : String := "\x7b\"error\":\"invalid_channel\"\x7d"

/-- The error `handleCommand` broadcasts when `us` reads negative. -/
def missingUsError : String := "\x7b\"error\":\"missing_us\"\x7d"

/-- The error `handleCommand` broadcasts when the `us` array does not hold 13 values. -/
def expectedServosError (count : Nat) : String :=
  "\x7b\"error\":\"expected_13_servos\",\"got\":" ++ toString count ++ "\x7d"

/-- The 32-bit value of a number below `2^31` reads as that number in `int`. -/
theorem toInt_ofNat_of_lt {value : Nat} (small : value < 2 ^ 31) : (BitVec.ofNat 32 value).toInt = value := by
  -- A value below `2^31` has its top bit clear.
  rw [BitVec.toInt_ofNat, Int.bmod_def, Int.emod_eq_of_lt (by omega) (by omega), if_pos (by omega)]

/-- The `servo` branch: the channel from `name`, or else from `channel`; the pulse from `us`,
cast to `uint16_t` and clamped; or the error it broadcasts. -/
def servoCommand (cmd : String) : Except String BrainDaemon.PoseRequest :=
  let channel := match parseJsonString cmd "name" 32 with
    | some name => servoNameToChannel name
    | none => parseJsonInt cmd "channel" (-1)
  if channel.toInt < 0 ∨ 13 ≤ channel.toInt then .error invalidChannelError
  else
    let us := parseJsonInt cmd "us" (-1)
    if us.toInt < 0 then .error missingUsError
    else .ok ⟨fun servos => Function.update servos (channel.toNat : Fin 13) (clampServoUs (us.setWidth 16)), 0, 0,
      .inl rfl⟩

/-- A `servo` text with no `name`, a channel and a non-negative `us` is accepted, and stores the
clamped `us` cut to 16 bits on that channel. -/
theorem servoCommand_of_fields {cmd : String} {channel : Fin 13} {us : Nat}
    (unnamed : parseJsonString cmd "name" 32 = none)
    (channelField : parseJsonInt cmd "channel" (-1) = BitVec.ofNat 32 channel)
    (usField : parseJsonInt cmd "us" (-1) = BitVec.ofNat 32 us) (small : us < 2 ^ 31) :
    servoCommand cmd =
      .ok ⟨fun servos => Function.update servos channel (clampServoUs (BitVec.ofNat 16 us)), 0, 0, .inl rfl⟩ := by
  -- The channel and `us` read in range, so both checks pass.
  have inRange : ¬((BitVec.ofNat 32 channel).toInt < 0 ∨ 13 ≤ (BitVec.ofNat 32 channel).toInt) := by
    rw [toInt_ofNat_of_lt (by omega)]
    omega
  have unsigned : ¬(BitVec.ofNat 32 us).toInt < 0 := by
    rw [toInt_ofNat_of_lt small]
    omega
  have sameChannel : (((BitVec.ofNat 32 channel).toNat : Nat) : Fin 13) = channel := by
    rw [BitVec.toNat_ofNat, Nat.mod_eq_of_lt (by omega), Fin.cast_val_eq_self]
  simp only [servoCommand, unnamed, channelField, if_neg inRange, usField, if_neg unsigned, sameChannel,
    BitVec.setWidth_ofNat_of_le (by decide : 16 ≤ 32)]

/-- The body `servos` and `move` share: 13 values from the `us` array, each clamped, sent with
`t_ms`; or the error it broadcasts. -/
def arrayCommand (tMs : BitVec 32) (cmd : String) : Except String BrainDaemon.PoseRequest :=
  let values := parseJsonIntArray cmd "us" 13
  if values.length = 13 then .ok ⟨fun _ channel => clampServoUs (values.getD channel 0), tMs, 0, .inl rfl⟩
  else .error (expectedServosError values.length)

/-- A `us` array that reads as 13 values is accepted, each value clamped. -/
theorem arrayCommand_of_length {tMs : BitVec 32} {cmd : String} {values : List (BitVec 16)}
    (parsed : parseJsonIntArray cmd "us" 13 = values) (thirteen : values.length = 13) :
    arrayCommand tMs cmd = .ok ⟨fun _ channel => clampServoUs (values.getD channel 0), tMs, 0, .inl rfl⟩ := by
  -- The count check passes.
  simp only [arrayCommand, parsed, thirteen, if_true]

/-- The `servos` branch. -/
def servosCommand (cmd : String) : Except String BrainDaemon.PoseRequest := arrayCommand 0 cmd

/-- The `t_ms` of a `move` command, 0 if it reads negative. -/
def moveTMs (cmd : String) : BitVec 32 :=
  if (parseJsonInt cmd "t_ms" 0).toInt < 0 then 0 else parseJsonInt cmd "t_ms" 0

/-- The `move` branch. -/
def moveCommand (cmd : String) : Except String BrainDaemon.PoseRequest := arrayCommand (moveTMs cmd) cmd

/-- The `scan` branch: the pulse from `us` on the scan channel, with `FLAG_SCAN_ENABLE`. -/
def scanCommand (cmd : String) : Except String BrainDaemon.PoseRequest :=
  let us := parseJsonInt cmd "us" (-1)
  if us.toInt < 0 then .error missingUsError
  else .ok ⟨fun servos => Function.update servos servoChannelScan (clampServoUs (us.setWidth 16)), 0,
    flagScanEnable, .inr rfl⟩

/-- The field readers as `handleCommand` uses them: the request of a command they accept. -/
def jsonCommandFields : CommandFields
  | .servo, cmd => (servoCommand cmd).toOption
  | .servos, cmd => (servosCommand cmd).toOption
  | .move, cmd => (moveCommand cmd).toOption
  | .scan, cmd => (scanCommand cmd).toOption
  | _, _ => none

/-- The JSON field readers store a servo value as the digits written, cut to 16 bits, then
clamped; a value that is not a number reads as 0, which clamps to 500 us. Take a `servo` text
without `name`, with a channel, in which the first `"us":` is followed by blanks and a character
other than `-`. `handleCommand` sends the leading digits' value (0 if there are none) modulo 2^16,
clamped, on that channel. Take a `servos` or `move` text in which the first `"us":[` is followed by
`k ≤ 13` runs of digits, each with a comma, then a character that is no digit, blank, comma or `]`.
It is accepted, with the `k` values cut to 16 bits and clamped, and 500 us on the other servos. -/
theorem json_servo_values_wrap :
    (∀ (cmd : String) (channel : Fin 13) (after value : List Char) (first : Char),
      commandBranch cmd = .servo → parseJsonString cmd "name" 32 = none →
      parseJsonInt cmd "channel" (-1) = BitVec.ofNat 32 channel →
      findFrom (intKey "us") cmd.toList = some (intKey "us" ++ after) →
      skipBlanks after = first :: value → first ≠ '-' →
      decimalValue 0 ((first :: value).takeWhile Char.isDigit) < 2 ^ 31 →
      handleCommand jsonCommandFields cmd =
        [.pose ⟨fun servos => Function.update servos channel
          (clampServoUs (BitVec.ofNat 16 (decimalValue 0 ((first :: value).takeWhile Char.isDigit)))), 0, 0,
          .inl rfl⟩]) ∧
    (∀ (cmd : String) (elements : List (List Char)) (junk : Char) (rest : List Char),
      commandBranch cmd = .servos ∨ commandBranch cmd = .move →
      findFrom (arrayKey "us") cmd.toList = some (arrayKey "us" ++ (elements.flatMap (· ++ [',']) ++ junk :: rest)) →
      (∀ element ∈ elements, element ≠ [] ∧ ∀ c ∈ element, c.isDigit) → elements.length ≤ 13 →
      junk.isDigit = false → isArraySeparator junk = false → junk ≠ ']' →
      ∃ request, handleCommand jsonCommandFields cmd = [.pose request] ∧
        ∀ servos channel, request.servos servos channel =
          clampServoUs ((elements.map (fun element => BitVec.ofNat 16 (decimalValue 0 element)) ++
            List.replicate (13 - elements.length) 0).getD channel 0)) := by
  -- Each part follows the reader from the first occurrence of its key to the branch's body.
  refine ⟨fun cmd channel after value first branch unnamed channelField usField start unsigned small => ?_,
    fun cmd elements junk rest branch usField literals few notDigit notSeparator notClose => ?_⟩
  · -- `us` reads as the leading digits, so the `servo` body accepts the text.
    have usValue := (parseJsonInt_of_find usField (-1)).trans (readJsonInt_of_unsigned start unsigned (-1))
    simp only [handleCommand, branch, jsonCommandFields, servoCommand_of_fields unnamed channelField usValue small]
    rfl
  · -- The array reads its `k` values, then the junk character fills the other `13 - k` entries.
    have parsed : parseJsonIntArray cmd "us" 13 =
        elements.map (fun element => BitVec.ofNat 16 (decimalValue 0 element)) ++
          List.replicate (13 - elements.length) 0 := by
      rw [parseJsonIntArray_of_find (by decide) usField, show 13 = elements.length + (13 - elements.length) by omega,
        readIntArray_elements literals, readIntArray_junk notDigit notSeparator notClose, Nat.add_sub_cancel_left]
    have thirteen : (elements.map (fun element => BitVec.ofNat 16 (decimalValue 0 element)) ++
        List.replicate (13 - elements.length) 0).length = 13 := by
      simp only [List.length_append, List.length_map, List.length_replicate]
      omega
    rcases branch with branch | branch
    · exact ⟨_, by simp only [handleCommand, branch, jsonCommandFields, servosCommand,
        arrayCommand_of_length parsed thirteen]; rfl, fun _ _ => rfl⟩
    · exact ⟨_, by simp only [handleCommand, branch, jsonCommandFields, moveCommand,
        arrayCommand_of_length parsed thirteen]; rfl, fun _ _ => rfl⟩

/-- The text `{"type":"servo","channel":0,"us":67036}`. -/
def servoUs67036Text : String := "\x7b\"type\":\"servo\",\"channel\":0,\"us\":67036\x7d"

/-- The text `{"type":"servos","us":[-1]}`. -/
def servosNegativeText : String := "\x7b\"type\":\"servos\",\"us\":[-1]\x7d"

/-- `"us":67036` is stored as 1500 us (67036 - 65536), not saturated to 2500 us; and the `servos`
text whose array holds only `-1` is accepted and moves every servo to 500 us. -/
theorem servo_literals_wrap_or_zero :
    handleCommand jsonCommandFields servoUs67036Text =
      [.pose ⟨fun servos => Function.update servos 0 (clampServoUs (BitVec.ofNat 16 67036)), 0, 0, .inl rfl⟩] ∧
    clampServoUs (BitVec.ofNat 16 67036) = 1500#16 ∧
    ∃ request, handleCommand jsonCommandFields servosNegativeText = [.pose request] ∧
      ∀ servos channel, request.servos servos channel = 500#16 := by
  -- Both texts meet the theorem's conditions; the clamped values are evaluated.
  refine ⟨json_servo_values_wrap.1 servoUs67036Text 0 "67036\x7d".toList "7036\x7d".toList '6' (by decide) (by decide)
    (by decide) (by decide) (by decide) (by decide) (by decide), by decide, ?_⟩
  obtain ⟨request, sent, stored⟩ :=
    json_servo_values_wrap.2 servosNegativeText [] '-' "1]\x7d".toList (.inl (by decide))
    (by decide) (by simp) (by decide) (by decide) (by decide) (by decide)
  exact ⟨request, sent, fun servos channel => (stored servos channel).trans (by revert channel; decide)⟩

end Milkspider
