import Milkspider.System.JsonFields

/-! The v3.1 JSON protocol of `brain_daemon/json_protocol.cpp`: `extractValue`, the envelope check,
the motion and system messages, `toMotionCommand` and `createAckResponse`. -/

namespace Milkspider

namespace JsonProtocol

/-! ## `extractValue` -/

/-- The brace loop of `extractValue` at nesting `depth`: the text up to and including the brace
that closes the value, or all of it. -/
def braceSpan : Nat → List Char → List Char
  | _, [] => []
  | depth, c :: rest =>
    if c = '{' then c :: braceSpan (depth + 1) rest
    else if c = '}' then (if depth = 1 then [c] else c :: braceSpan (depth - 1) rest)
    else c :: braceSpan depth rest

/-- `val.pop_back()` while the value ends in a blank. -/
def trimTrailingBlanks (value : List Char) : List Char :=
  (value.reverse.dropWhile fun c => c == ' ' || c == '\t').reverse

/-- `extractValue` after the colon: blanks skipped, then a string up to the next quote, an object
up to its closing brace, or anything else up to a comma or a closing brace, trailing blanks
trimmed. -/
def readValue (text : List Char) : List Char :=
  let rest := skipBlanks text
  if rest.head? = some '"' then (if '"' ∈ rest.tail then rest.tail.takeWhile (· != '"') else [])
  else if rest.head? = some '{' then '{' :: braceSpan 1 rest.tail
  else trimTrailingBlanks (rest.takeWhile fun c => c != ',' && c != '}')

/-- `json.find(':', pos)`, then the value after that colon; empty without a colon. -/
def valueAfterColon (found : List Char) : List Char :=
  match findFrom [':'] found with
  | none => []
  | some colon => readValue colon.tail

/-- The quoted key `extractValue` searches for. -/
def quotedKey (key : List Char) : List Char := '"' :: key ++ ['"']

/-- `extractValue(json, key)`: the value after the first colon that follows the first occurrence
of `"key"`, or empty when there is none. -/
def extractValue (json : List Char) (key : String) : List Char :=
  match findFrom (quotedKey key.toList) json with
  | none => []
  | some found => valueAfterColon found

/-! ## Messages -/

/-- `JsonProtocol::ParseResult`. -/
structure ParseResult where
  valid : Bool := false
  error : List Char := []
  type : List Char := []
  deriving DecidableEq, Repr

/-- The string fields of `JsonProtocol::MotionMsg`. -/
structure MotionMsg where
  mode : List Char
  cmd : List Char
  interp : List Char := "float".toList
  deriving DecidableEq, Repr

/-- `JsonProtocol::SystemMsg`. -/
structure SystemMsg where
  cmd : List Char
  wakepose : List Char
  deriving DecidableEq, Repr

/-- The messages a `JsonProtocol` keeps from its last `parseMessage`: `m_motion_msg` and
`m_system_msg`. -/
structure Messages where
  motionMsg : Option MotionMsg := none
  systemMsg : Option SystemMsg := none
  deriving DecidableEq, Repr

/-- `validateEnvelope`: the version reads `3.1` and the type is not empty. -/
def validateEnvelope (json : List Char) : Bool :=
  extractValue json "v" == "3.1".toList && !(extractValue json "type").isEmpty

/-- `parseMotion`: the motion message's strings, `interp` defaulting to `float`. -/
def parseMotion (msg : List Char) : MotionMsg :=
  let interp := extractValue msg "interp"
  { mode := extractValue msg "mode"
    cmd := extractValue msg "cmd"
    interp := if interp.isEmpty then "float".toList else interp }

/-- `parseSystem`. -/
def parseSystem (msg : List Char) : SystemMsg :=
  ⟨extractValue msg "cmd", extractValue msg "wakepose"⟩

/-- `parseMessage`: the result and the messages it leaves, every earlier one reset. The message
parsers always succeed; an eye message is accepted and not kept here. -/
def parseMessage (json : List Char) : ParseResult × Messages :=
  if !validateEnvelope json then ({ error := "Invalid envelope".toList }, {})
  else
    let type := extractValue json "type"
    let msg := extractValue json "msg"
    if type = "motion".toList then ({ valid := true, type := type }, { motionMsg := some (parseMotion msg) })
    else if type = "eyes".toList then ({ valid := true, type := type }, {})
    else if type = "sys".toList then ({ valid := true, type := type }, { systemMsg := some (parseSystem msg) })
    else ({ error := "Unknown type: ".toList ++ type, type := type }, {})

end JsonProtocol

/-- The fields of `MotionCommand` (`task_manager.hpp`) modelled here: the sequence's `name` and
whether it repeats. -/
structure MotionCommand where
  name : List Char
  continuous : Bool := false
  deriving DecidableEq, Repr

namespace JsonProtocol

/-- `toMotionCommand`: the motion message's `cmd` as the name, or an empty name without one. -/
def toMotionCommand (messages : Messages) : MotionCommand :=
  match messages.motionMsg with
  | some m => { name := m.cmd }
  | none => { name := [] }

/-- `createAckResponse(cmd)`. -/
def createAckResponse (cmd : List Char) : List Char :=
  "\x7b\"v\":\"3.1\",\"type\":\"ack\",\"msg\":\x7b\"cmd\":\"".toList ++ cmd ++ "\"\x7d\x7d".toList

/-! ## The motion envelopes of the protocol -/

/-- A member's value in an envelope: a string literal, by its characters, or a number literal,
by its text. -/
inductive JsonLiteral
  | str (chars : List Char)
  | num (text : List Char)
  deriving DecidableEq, Repr

namespace JsonLiteral

/-- The literal as written. -/
def render : JsonLiteral → List Char
  | .str chars => '"' :: chars ++ ['"']
  | .num text => text

/-- The literal's value: a string's characters, a number's text. -/
def value : JsonLiteral → List Char
  | .str chars => chars
  | .num text => text

end JsonLiteral

/-- A member `"key":value`. -/
def renderMember (member : List Char × JsonLiteral) : List Char :=
  '"' :: member.1 ++ '"' :: ':' :: member.2.render

/-- An object after its opening brace: the members separated by commas, then the closing
brace. -/
def renderObject : List (List Char × JsonLiteral) → List Char
  | [] => ['}']
  | [member] => renderMember member ++ ['}']
  | member :: next :: rest => renderMember member ++ ',' :: renderObject (next :: rest)

/-- The envelope `{"v":"3.1","type":"motion","msg":{...}}` with the given members. -/
def motionEnvelope (members : List (List Char × JsonLiteral)) : List Char :=
  "\x7b\"v\":\"3.1\",\"type\":\"motion\",\"msg\":\x7b".toList ++ renderObject members ++ ['}']

/-- The characters a JSON number is written with. -/
def numberChars : List Char := "0123456789+-.eE".toList

/-- Text with no quote and no brace in it. -/
def PlainText (chars : List Char) : Prop := ∀ c ∈ chars, c ≠ '"' ∧ c ≠ '{' ∧ c ≠ '}'

instance : DecidablePred PlainText := fun chars => inferInstanceAs (Decidable (∀ c ∈ chars, _))

/-- A literal of the envelopes below: a string with no quote or brace inside, or a number. -/
def JsonLiteral.WellFormed : JsonLiteral → Prop
  | .str chars => PlainText chars
  | .num text => text ≠ [] ∧ ∀ c ∈ text, c ∈ numberChars

instance : DecidablePred JsonLiteral.WellFormed
  | .str chars => inferInstanceAs (Decidable (PlainText chars))
  | .num text => inferInstanceAs (Decidable (text ≠ [] ∧ ∀ c ∈ text, c ∈ numberChars))

/-- A member whose key holds no quote, brace or colon, with a well-formed value. -/
def MemberWellFormed (member : List Char × JsonLiteral) : Prop :=
  PlainText member.1 ∧ ':' ∉ member.1 ∧ member.2.WellFormed

instance : DecidablePred MemberWellFormed := fun member =>
  inferInstanceAs (Decidable (PlainText member.1 ∧ ':' ∉ member.1 ∧ member.2.WellFormed))

/-- What `extractValue` reads for `key` from the object of these members: the value of the first
member named `key`, unless a string value spelling `key` comes first. The search stops at that
value, and the colon after it is the next member's, so the value read is the next member's, or
empty without one. -/
def firstOccurrenceValue (key : List Char) : List (List Char × JsonLiteral) → List Char
  | [] => []
  | (name, value) :: rest =>
    if name = key then value.value
    else if value = .str key then (rest.head?.map fun next => next.2.value).getD []
    else firstOccurrenceValue key rest

/-- The value of the member named `key`, the first if there are several, or empty without one:
the name the protocol's description asks of `toMotionCommand`. -/
def memberValue (key : List Char) (members : List (List Char × JsonLiteral)) : List Char :=
  ((members.find? fun member => member.1 == key).map fun member => member.2.value).getD []

/-- A key the search below is stated for: plain text with no colon and no comma, so that no
occurrence of it starts at a closing quote. -/
def SearchKey (key : List Char) : Prop := PlainText key ∧ ':' ∉ key ∧ ',' ∉ key

instance : DecidablePred SearchKey := fun key =>
  inferInstanceAs (Decidable (PlainText key ∧ ':' ∉ key ∧ ',' ∉ key))

/-! ## The search over members -/

/-- Every character a number is written with is neither a quote, a brace, a separator nor a
blank. -/
theorem numberChars_plain : ∀ x ∈ numberChars,
    x ≠ '"' ∧ x ≠ '{' ∧ x ≠ '}' ∧ x ≠ ',' ∧ x ≠ ':' ∧ (x == ' ' || x == '\t') = false := by
  -- Each of the fifteen characters is checked.
  decide

/-- A search key starts with neither a colon, a comma nor a closing brace. -/
theorem SearchKey.head_ne {key : List Char} (searched : SearchKey key) :
    ∀ x ∈ key.head?, x ≠ ':' ∧ x ≠ ',' ∧ x ≠ '}' :=
  -- The first character is in the key, which holds no colon, comma or brace.
  fun x first =>
  have mem := List.mem_of_mem_head? first
  ⟨fun same => searched.2.1 (same ▸ mem), fun same => searched.2.2 (same ▸ mem), (searched.1 x mem).2.2⟩

/-- A quoted key matches quoted text exactly when the two are equal. -/
theorem isPrefixOf_quoted {key text : List Char} (plainKey : '"' ∉ key) (plainText : '"' ∉ text)
    (rest : List Char) : (key ++ ['"']).isPrefixOf (text ++ '"' :: rest) = true ↔ key = text := by
  -- Induction on the key: neither side holds a quote before the closing one.
  induction key generalizing text with
  | nil =>
    cases text with
    | nil => simp [List.isPrefixOf]
    | cons c text => simp [List.isPrefixOf, List.ne_of_not_mem_cons plainText]
  | cons a key ih =>
    cases text with
    | nil => simp [List.isPrefixOf, Ne.symm (List.ne_of_not_mem_cons plainKey)]
    | cons b text =>
      simp [List.isPrefixOf, ih (List.not_mem_of_not_mem_cons plainKey) (List.not_mem_of_not_mem_cons plainText)]

/-- The search goes past a quoted text other than the key. -/
theorem findFrom_quoted_skip {key text : List Char} (plainKey : '"' ∉ key) (plainText : '"' ∉ text)
    (other : text ≠ key) (rest : List Char) :
    findFrom (quotedKey key) ('"' :: (text ++ '"' :: rest)) = findFrom (quotedKey key) ('"' :: rest) := by
  -- The key does not match at the opening quote, and nothing inside the text is a quote.
  rw [findFrom_cons_of_miss (by
    simp only [quotedKey, List.cons_append, List.isPrefixOf, beq_self_eq_true, Bool.true_and]
    exact Bool.eq_false_iff.mpr (mt (isPrefixOf_quoted plainKey plainText rest).mp (Ne.symm other)))]
  exact findFrom_append_of_not_mem _ plainText

/-- The search goes past a quote followed by a character the key does not start with. -/
theorem findFrom_quote_next {key : List Char} {c : Char} (notStart : ∀ x ∈ key.head?, x ≠ c)
    (notQuote : c ≠ '"') (rest : List Char) :
    findFrom (quotedKey key) ('"' :: c :: rest) = findFrom (quotedKey key) (c :: rest) := by
  -- The quoted key needs its first character right after the quote.
  apply findFrom_cons_of_miss
  cases key with
  | nil => simp [quotedKey, List.isPrefixOf, Ne.symm notQuote]
  | cons a key => simp [quotedKey, List.isPrefixOf, notStart a rfl]

/-- The search goes past a first character that is not a quote. -/
theorem findFrom_quotedKey_cons {key text : List Char} {c : Char} (notQuote : c ≠ '"') :
    findFrom (quotedKey key) (c :: text) = findFrom (quotedKey key) text :=
  -- The quoted key starts with a quote.
  findFrom_cons_of_miss (by simp [quotedKey, List.isPrefixOf, Ne.symm notQuote])

/-- Over one member and the separator after it, the search finds the member's key, or a string
value spelling the key, or goes on after the member. -/
theorem findFrom_member {key : List Char} (searched : SearchKey key) {member : List Char × JsonLiteral}
    (wf : MemberWellFormed member) {c : Char} (separator : c = ',' ∨ c = '}') (tail : List Char) :
    findFrom (quotedKey key) (renderMember member ++ c :: tail) =
      if member.1 = key then some (renderMember member ++ c :: tail)
      else if member.2 = .str key then some (member.2.render ++ c :: tail)
      else findFrom (quotedKey key) (c :: tail) := by
  -- The search finds the member's key, or passes it and looks in the value.
  obtain ⟨name, value⟩ := member
  obtain ⟨plainName, -, plainValue⟩ := wf
  have keyQuote : '"' ∉ key := fun mem => (searched.1 _ mem).1 rfl
  have nameQuote : '"' ∉ name := fun mem => (plainName _ mem).1 rfl
  have separatorQuote : c ≠ '"' := by rcases separator with rfl | rfl <;> decide
  have separatorStart : ∀ x ∈ key.head?, x ≠ c := fun x first => by
    rcases separator with rfl | rfl
    exacts [(searched.head_ne x first).2.1, (searched.head_ne x first).2.2]
  by_cases named : name = key
  · subst named
    simpa [renderMember, quotedKey] using findFrom_prefix (quotedKey name) (':' :: value.render ++ c :: tail)
  · rw [if_neg named]
    -- The key and its colon pass, and the search goes on in the value.
    have afterKey : findFrom (quotedKey key) (renderMember (name, value) ++ c :: tail) =
        findFrom (quotedKey key) (value.render ++ c :: tail) := by
      rw [show renderMember (name, value) ++ c :: tail =
          '"' :: (name ++ '"' :: ':' :: (value.render ++ c :: tail)) by simp [renderMember],
        findFrom_quoted_skip keyQuote nameQuote named,
        findFrom_quote_next (fun x first => (searched.head_ne x first).1) (by decide),
        findFrom_quotedKey_cons (by decide)]
    rw [afterKey]
    cases value with
    | str chars =>
      by_cases spelled : chars = key
      · subst spelled
        simpa [JsonLiteral.render, quotedKey] using findFrom_prefix (quotedKey chars) (c :: tail)
      · have charsQuote : '"' ∉ chars := fun mem => (plainValue _ mem).1 rfl
        rw [if_neg (by simpa using spelled),
          show (JsonLiteral.str chars).render ++ c :: tail = '"' :: (chars ++ '"' :: c :: tail) by
            simp [JsonLiteral.render],
          findFrom_quoted_skip keyQuote charsQuote spelled, findFrom_quote_next separatorStart separatorQuote]
    | num text =>
      rw [if_neg JsonLiteral.noConfusion]
      exact findFrom_append_of_not_mem _ fun mem => (numberChars_plain _ (plainValue.2 _ mem)).1 rfl

/-! ## Reading the value -/

/-- Blanks are skipped up to the first character that is not one. -/
theorem skipBlanks_cons {c : Char} (notBlank : (c == ' ' || c == '\t') = false) (rest : List Char) :
    skipBlanks (c :: rest) = c :: rest := by
  -- `dropWhile` stops at once.
  simp [skipBlanks, List.dropWhile, notBlank]

/-- A string value runs up to the next quote. -/
theorem readValue_string {chars : List Char} (plain : '"' ∉ chars) (rest : List Char) :
    readValue ('"' :: (chars ++ '"' :: rest)) = chars := by
  -- The value holds no quote, so the string ends at the quote after it.
  have upTo : (chars ++ '"' :: rest).takeWhile (· != '"') = chars := by
    rw [List.takeWhile_append_of_pos fun x mem => bne_iff_ne.mpr (ne_of_mem_of_not_mem mem plain)]
    simp
  simp [readValue, skipBlanks_cons, upTo]

/-- Trimming leaves a value with no blank in it as it is. -/
theorem trimTrailingBlanks_of_forall {value : List Char} (noBlank : ∀ x ∈ value, (x == ' ' || x == '\t') = false) :
    trimTrailingBlanks value = value := by
  -- The last character is no blank, so nothing is dropped.
  cases last : value.reverse with
  | nil => simp_all [trimTrailingBlanks]
  | cons x rest =>
    have mem : x ∈ value := List.mem_reverse.mp (last ▸ List.mem_cons_self x rest)
    rw [trimTrailingBlanks, last, List.dropWhile_cons_of_neg (by simp [noBlank x mem]), ← last, List.reverse_reverse]

/-- After the colon, a well-formed literal followed by a separator reads as its value. -/
theorem readValue_literal {value : JsonLiteral} (wf : value.WellFormed) {c : Char} (separator : c = ',' ∨ c = '}')
    (tail : List Char) : readValue (value.render ++ c :: tail) = value.value := by
  -- A string runs to its closing quote, a number to the separator.
  cases value with
  | str chars =>
    simpa [JsonLiteral.render] using readValue_string (fun mem => (wf _ mem).1 rfl) (c :: tail)
  | num text =>
    obtain ⟨nonempty, digits⟩ := wf
    obtain ⟨first, rest, rfl⟩ := List.exists_cons_of_ne_nil nonempty
    have plain := fun x mem => numberChars_plain x (digits x mem)
    -- A number ends at the separator, and holds no blank to trim.
    have upTo : ((first :: rest) ++ c :: tail).takeWhile (fun x => x != ',' && x != '}') = first :: rest := by
      rw [List.takeWhile_append_of_pos fun x mem => by simp [(plain x mem).2.2.1, (plain x mem).2.2.2.1]]
      rcases separator with rfl | rfl <;> simp
    obtain ⟨notQuote, notOpen, -, -, -, notBlank⟩ := plain first (List.mem_cons_self first rest)
    simp only [JsonLiteral.render, readValue, List.cons_append, skipBlanks_cons notBlank, List.head?_cons,
      Option.some.injEq, notQuote, notOpen, if_false]
    rw [← List.cons_append, upTo, trimTrailingBlanks_of_forall fun x mem => (plain x mem).2.2.2.2.2]
    rfl

/-- The colon search goes past text with no colon in it. -/
theorem valueAfterColon_append_of_not_mem {skipped : List Char} (noColon : ':' ∉ skipped) (rest : List Char) :
    valueAfterColon (skipped ++ rest) = valueAfterColon rest := by
  -- `find(':')` goes past text with no colon.
  rw [valueAfterColon, valueAfterColon, findFrom_append_of_not_mem _ noColon]

/-- Text with no colon in it has no value after a colon. -/
theorem valueAfterColon_of_not_mem {text : List Char} (noColon : ':' ∉ text) : valueAfterColon text = [] := by
  -- With no colon at all, `find` fails.
  simpa using valueAfterColon_append_of_not_mem noColon []

/-- The value after a member's colon is the member's value. -/
theorem valueAfterColon_member {member : List Char × JsonLiteral} (wf : MemberWellFormed member) {c : Char}
    (separator : c = ',' ∨ c = '}') (tail : List Char) :
    valueAfterColon (renderMember member ++ c :: tail) = member.2.value := by
  -- The key holds no colon, so the colon found is the member's own.
  have keyPart : ':' ∉ '"' :: member.1 ++ ['"'] := by simp [wf.2.1]
  rw [show renderMember member ++ c :: tail = ('"' :: member.1 ++ ['"']) ++ ':' :: (member.2.render ++ c :: tail) by
      simp [renderMember],
    valueAfterColon_append_of_not_mem keyPart]
  simpa [valueAfterColon, findFrom, List.isPrefixOf] using readValue_literal wf.2.2 separator tail

/-! ## The value `extractValue` reads from an object -/

/-- An object with a member starts with that member and the separator after it. -/
theorem renderObject_cons (next : List Char × JsonLiteral) (rest : List (List Char × JsonLiteral)) :
    ∃ c tail, (c = ',' ∨ c = '}') ∧ renderObject (next :: rest) = renderMember next ++ c :: tail := by
  -- A last member is followed by the closing brace, any other by a comma.
  cases rest with
  | nil => exact ⟨'}', [], .inr rfl, rfl⟩
  | cons other rest => exact ⟨',', renderObject (other :: rest), .inl rfl, rfl⟩

/-- `extractValue` goes past a first character that is not a quote. -/
theorem extractValue_cons {c : Char} (notQuote : c ≠ '"') (text : List Char) (key : String) :
    extractValue (c :: text) key = extractValue text key := by
  -- The quoted key starts with a quote.
  rw [extractValue, extractValue, findFrom_quotedKey_cons notQuote]

/-- On the object of well-formed members, after any opening character, `extractValue` reads what
`firstOccurrenceValue` says. -/
theorem extractValue_renderObject {key : String} (searched : SearchKey key.toList) {c : Char} (notQuote : c ≠ '"')
    {members : List (List Char × JsonLiteral)} (wf : ∀ member ∈ members, MemberWellFormed member) :
    extractValue (c :: renderObject members) key = firstOccurrenceValue key.toList members := by
  -- Induction over the members, following how `renderObject` writes them.
  rw [extractValue_cons notQuote]
  induction members using renderObject.induct with
  | case1 => rfl
  | case2 member =>
    -- One member, then the closing brace: the colon after a spelling value is missing.
    have wfMember := wf member (List.mem_singleton_self member)
    obtain ⟨name, value⟩ := member
    rw [renderObject, extractValue, findFrom_member searched wfMember (.inr rfl), firstOccurrenceValue]
    split_ifs with named spelled
    · exact valueAfterColon_member wfMember (.inr rfl) []
    · subst spelled
      exact valueAfterColon_of_not_mem (by simpa [JsonLiteral.render] using searched.2.1)
    · rfl
  | case3 member next rest ih =>
    -- A spelling value reads the next member's value; otherwise the search goes on.
    have wfMember := wf member (List.mem_cons_self member _)
    have wfRest := fun other mem => wf other (List.mem_cons_of_mem member mem)
    obtain ⟨name, value⟩ := member
    rw [renderObject, extractValue, findFrom_member searched wfMember (.inl rfl), firstOccurrenceValue]
    split_ifs with named spelled
    · exact valueAfterColon_member wfMember (.inl rfl) _
    · subst spelled
      obtain ⟨c, tail, separator, rendered⟩ := renderObject_cons next rest
      dsimp only
      rw [show (JsonLiteral.str key.toList).render ++ ',' :: renderObject (next :: rest) =
          ('"' :: key.toList ++ ['"', ',']) ++ renderObject (next :: rest) by simp [JsonLiteral.render],
        valueAfterColon_append_of_not_mem (by simpa using searched.2.1), rendered,
        valueAfterColon_member (wfRest next (List.mem_cons_self next rest)) separator]
      rfl
    · rw [← extractValue, extractValue_cons (by decide)]
      exact ih wfRest

/-- Where no string value spells the key, the first occurrence is the member's own key. -/
theorem firstOccurrenceValue_eq_memberValue {key : List Char} {members : List (List Char × JsonLiteral)}
    (unspelled : ∀ member ∈ members, member.2 ≠ .str key) :
    firstOccurrenceValue key members = memberValue key members := by
  -- Induction over the members: with no spelling value, only a key can match.
  induction members with
  | nil => rfl
  | cons member rest ih =>
    obtain ⟨name, value⟩ := member
    by_cases named : name = key
    · simp [firstOccurrenceValue, memberValue, named]
    · have other : value ≠ .str key := unspelled (name, value) (List.mem_cons_self _ _)
      rw [firstOccurrenceValue, if_neg named, if_neg other, ih fun m mem => unspelled m (List.mem_cons_of_mem _ mem)]
      simp [memberValue, named]

/-! ## The motion envelope -/

/-- The brace loop copies text with no brace in it. -/
theorem braceSpan_append_of_forall {plain : List Char} (noBrace : ∀ c ∈ plain, c ≠ '{' ∧ c ≠ '}')
    (depth : Nat) (rest : List Char) : braceSpan depth (plain ++ rest) = plain ++ braceSpan depth rest := by
  -- Induction on the text: no character changes the depth.
  induction plain with
  | nil => rfl
  | cons c plain ih =>
    obtain ⟨notOpen, notClose⟩ := noBrace c (List.mem_cons_self c plain)
    rw [List.cons_append, braceSpan, if_neg notOpen, if_neg notClose,
      ih fun x mem => noBrace x (List.mem_cons_of_mem c mem)]
    rfl

/-- A well-formed member holds no brace. -/
theorem renderMember_noBrace {member : List Char × JsonLiteral} (wf : MemberWellFormed member) :
    ∀ c ∈ renderMember member, c ≠ '{' ∧ c ≠ '}' := by
  -- Neither the key, the quotes, the colon nor the value is a brace.
  obtain ⟨name, value⟩ := member
  obtain ⟨plainName, -, plainValue⟩ := wf
  have valuePart : ∀ c ∈ value.render, c ≠ '{' ∧ c ≠ '}' := by
    cases value with
    | str chars =>
      simp only [JsonLiteral.render, List.forall_mem_append, List.forall_mem_cons]
      exact ⟨⟨by decide, fun c mem => (plainValue c mem).2⟩, by decide,
        fun _ absent => absurd absent (List.not_mem_nil _)⟩
    | num text => exact fun c mem => ⟨(numberChars_plain c (plainValue.2 c mem)).2.1,
        (numberChars_plain c (plainValue.2 c mem)).2.2.1⟩
  simp only [renderMember, List.forall_mem_append, List.forall_mem_cons]
  exact ⟨⟨by decide, fun c mem => (plainName c mem).2⟩, by decide, by decide, valuePart⟩

/-- The brace loop from the opening brace of an object of well-formed members stops at its
closing brace. -/
theorem braceSpan_renderObject {members : List (List Char × JsonLiteral)}
    (wf : ∀ member ∈ members, MemberWellFormed member) (tail : List Char) :
    braceSpan 1 (renderObject members ++ tail) = renderObject members := by
  -- Induction over the members: each is copied with its comma, and the last brace closes the object.
  induction members using renderObject.induct with
  | case1 => rfl
  | case2 member =>
    rw [renderObject, List.append_assoc,
      braceSpan_append_of_forall (renderMember_noBrace (wf member (List.mem_singleton_self member)))]
    rfl
  | case3 member next rest ih =>
    -- The member and its comma are copied, and the loop goes on in the rest of the object.
    have memberPart : ∀ c ∈ renderMember member ++ [','], c ≠ '{' ∧ c ≠ '}' :=
      List.forall_mem_append.mpr ⟨renderMember_noBrace (wf member (List.mem_cons_self member _)), by decide⟩
    rw [renderObject, show renderMember member ++ ',' :: renderObject (next :: rest) ++ tail =
        (renderMember member ++ [',']) ++ (renderObject (next :: rest) ++ tail) by simp,
      braceSpan_append_of_forall memberPart, ih fun other mem => wf other (List.mem_cons_of_mem member mem)]
    simp

/-- Every motion envelope passes the envelope check, and its motion message is parsed from what
`extractValue` reads for `msg`: the members up to the first closing brace. -/
theorem parseMessage_motionEnvelope (members : List (List Char × JsonLiteral)) :
    parseMessage (motionEnvelope members) =
      ({ valid := true, type := "motion".toList },
        { motionMsg := some (parseMotion ('{' :: braceSpan 1 (renderObject members ++ ['}']))) }) :=
  -- The version, the type and the message are all found in the envelope's fixed head.
  rfl

/-- `createAckResponse` writes the name as the string value of `cmd`. -/
theorem extractValue_createAckResponse {name : List Char} (plain : '"' ∉ name) :
    extractValue (createAckResponse name) "cmd" = name :=
  -- The name is the string value after the first `"cmd"` and its colon.
  readValue_string plain _

/--
`JsonProtocol::parseMessage` accepts every motion envelope `{"v":"3.1","type":"motion","msg":{...}}`,
whatever its members. With members whose keys hold no quote, brace or colon and whose values are
numbers or strings with no quote or brace, `toMotionCommand().name` is what the first textual
occurrence of `"cmd"` gives: the `cmd` member's value when no string value `"cmd"` comes first, but
the next member's value, or nothing, when one does. Without such a value it is the value of the
(first) `cmd` member, or empty. `createAckResponse` round-trips every name with no quote.
-/
theorem motion_cmd_first_textual_match :
    (∀ members, (parseMessage (motionEnvelope members)).1.valid = true) ∧
    (∀ members, (∀ member ∈ members, MemberWellFormed member) →
      (toMotionCommand (parseMessage (motionEnvelope members)).2).name = firstOccurrenceValue "cmd".toList members) ∧
    (∀ members, (∀ member ∈ members, MemberWellFormed member) →
      (∀ member ∈ members, member.2 ≠ .str "cmd".toList) →
      (toMotionCommand (parseMessage (motionEnvelope members)).2).name = memberValue "cmd".toList members) ∧
    (∀ name, '"' ∉ name → extractValue (createAckResponse name) "cmd" = name) := by
  -- The message is read up to its closing brace, and `extractValue` over it reads the first occurrence.
  have named : ∀ members, (∀ member ∈ members, MemberWellFormed member) →
      (toMotionCommand (parseMessage (motionEnvelope members)).2).name = firstOccurrenceValue "cmd".toList members :=
    fun members wf => by
      rw [parseMessage_motionEnvelope, braceSpan_renderObject wf]
      exact extractValue_renderObject (by decide) (by decide) wf
  refine ⟨fun members => by rw [parseMessage_motionEnvelope], named, fun members wf unspelled => ?_,
    fun _ plain => extractValue_createAckResponse plain⟩
  rw [named members wf, firstOccurrenceValue_eq_memberValue unspelled]

/-- The members of `{"mode":"cmd","x":"y","cmd":"walk"}`. -/
def spelledCmdMembers : List (List Char × JsonLiteral) :=
  [("mode".toList, .str "cmd".toList), ("x".toList, .str "y".toList), ("cmd".toList, .str "walk".toList)]

/-- On `{"v":"3.1","type":"motion","msg":{"mode":"cmd","x":"y","cmd":"walk"}}` the motion command is
named `y`, not `walk`, and `y` goes back in the ack. A brace inside a value cuts the message short:
with `{"mode":"}","cmd":"walk"}` the name is empty. -/
theorem spelled_cmd_names_next_member :
    (toMotionCommand (parseMessage (motionEnvelope spelledCmdMembers)).2).name = "y".toList ∧
    memberValue "cmd".toList spelledCmdMembers = "walk".toList ∧
    (toMotionCommand (parseMessage (motionEnvelope
      [("mode".toList, .str "\x7d".toList), ("cmd".toList, .str "walk".toList)])).2).name = [] :=
  -- The members are well formed; the theorem gives the name, and the rest is evaluated.
  ⟨(motion_cmd_first_textual_match.2.1 spelledCmdMembers (by decide)).trans (by decide), by decide, by decide⟩

end JsonProtocol

end Milkspider
