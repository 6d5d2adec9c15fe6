import Milkspider.System.JsonFields
import Milkspider.Brain.SerialControl

/-! The eye events between the daemon and the eye service (`common/eye_event_protocol.h`), from
`handleEyeCommand` (`src/main.cpp`) through the Unix socket to `parseAndHandleEvent`. -/

namespace Milkspider

/-! ## Searching fixed texts -/

/-- A pattern that disagrees with every suffix of `pre`, within the shorter of the two, is not
found in `pre`: the search goes on after it. -/
theorem findFrom_append_of_mismatch {pattern pre : List Char} (rest : List Char)
    (mismatch : ∀ i < pre.length, pattern.isPrefixOf (pre.drop i) = false ∧ (pre.drop i).isPrefixOf pattern = false) :
    findFrom pattern (pre ++ rest) = findFrom pattern rest := by
  -- Induction on `pre`: no occurrence starts inside it, nor runs from it into the rest.
  induction pre with
  | nil => rfl
  | cons c pre ih =>
    obtain ⟨notPattern, notPre⟩ := mismatch 0 (Nat.succ_pos _)
    have miss : pattern.isPrefixOf (c :: (pre ++ rest)) = false := by
      rw [Bool.eq_false_iff]
      intro found
      rw [List.isPrefixOf_iff_prefix, ← List.cons_append] at found
      rcases List.prefix_or_prefix_of_prefix found (List.prefix_append _ _) with inPre | longer
      · rw [← List.isPrefixOf_iff_prefix] at inPre
        simp_all
      · rw [← List.isPrefixOf_iff_prefix] at longer
        simp_all
    rw [List.cons_append, findFrom_cons_of_miss miss]
    exact ih fun i within => mismatch (i + 1) (by simpa using within)

/-- The first occurrence of a pattern that disagrees with every suffix of `pre` is the one right
after `pre`. -/
theorem findFrom_after_mismatch {pattern pre : List Char} (rest : List Char)
    (mismatch : ∀ i < pre.length, pattern.isPrefixOf (pre.drop i) = false ∧ (pre.drop i).isPrefixOf pattern = false) :
    findFrom pattern (pre ++ pattern ++ rest) = some (pattern ++ rest) := by
  -- The search passes `pre` and finds the pattern right after it.
  rw [List.append_assoc, findFrom_append_of_mismatch _ mismatch, findFrom_prefix]

/-- Text without the first character of a pattern holds no occurrence of it, nor the start of one. -/
theorem findFrom_append_of_head_not_mem {pattern skipped : List Char} (rest : List Char)
    (absent : ∀ c ∈ pattern.head?, c ∉ skipped) (nonempty : pattern ≠ []) :
    findFrom pattern (skipped ++ rest) = findFrom pattern rest := by
  -- No occurrence can start where the pattern's first character is missing.
  obtain ⟨first, pattern, rfl⟩ := List.exists_cons_of_ne_nil nonempty
  exact findFrom_append_of_not_mem rest (absent first rfl)

/-! ## The events the daemon sends -/

/-- `EyeRenderer::Mood`. -/
inductive Mood
  | normal
  | angry
  | happy
  | sleepy
  deriving DecidableEq, Repr

/-- The mood strings of `eye_event_protocol.h`, `EYE_MOOD_NORMAL` to `EYE_MOOD_SLEEPY`. -/
def Mood.name : Mood → List Char
  | .normal => "normal".toList
  | .angry => "angry".toList
  | .happy => "happy".toList
  | .sleepy => "sleepy".toList

/-- `GC9D01DualEyeSpi::Eye`. -/
inductive Eye
  | left
  | right
  deriving DecidableEq, Repr

/-- `EYE_LEFT` and `EYE_RIGHT`. -/
def Eye.name : Eye → List Char
  | .left => "left".toList
  | .right => "right".toList

/-- `EYE_EVENT_MAX_SIZE`, the size of the buffer each event is printed into. -/
def eyeEventMaxSize : Nat := 256

/-- The `EyeClient` calls the daemon makes, with what each prints into its event. -/
inductive EyeRequest
  /-- `setMood(mood)`. -/
  | setMood (mood : List Char)
  /-- `lookAt(x, y)`, with the coordinates as `%.3f` prints them. -/
  | lookAt (x y : List Char)
  /-- `blink()`. -/
  | blink
  /-- `wink(eye)`. -/
  | wink (eye : List Char)
  /-- `setIdleEnabled(enabled)`. -/
  | setIdleEnabled (enabled : Bool)
  /-- `requestStatus()`. -/
  | requestStatus
  deriving DecidableEq, Repr

/-- The JSON text each call hands to `sendEvent`: `snprintf` into `EYE_EVENT_MAX_SIZE` bytes,
which keeps at most 255 characters, or a fixed text. -/
def EyeRequest.event : EyeRequest → List Char
  | .setMood mood => ("\x7b\"type\":\"mood\",\"mood\":\"".toList ++ mood ++ "\"\x7d".toList).take (eyeEventMaxSize - 1)
  | .lookAt x y =>
    ("\x7b\"type\":\"look\",\"x\":".toList ++ x ++ ",\"y\":".toList ++ y ++ "\x7d".toList).take (eyeEventMaxSize - 1)
  | .blink => "\x7b\"type\":\"blink\"\x7d".toList
  | .wink eye => ("\x7b\"type\":\"wink\",\"eye\":\"".toList ++ eye ++ "\"\x7d".toList).take (eyeEventMaxSize - 1)
  | .setIdleEnabled enabled =>
    ("\x7b\"type\":\"idle\",\"enabled\":".toList ++ (if enabled then "true" else "false").toList ++
      "\x7d".toList).take (eyeEventMaxSize - 1)
  | .requestStatus => "\x7b\"type\":\"status\"\x7d".toList

/-- A coordinate as `%.3f` prints a `float`: a sign, digits and a point, or `inf` or `nan`; at
most 44 characters, the length of `-FLT_MAX`. -/
def FloatText (text : List Char) : Prop := (∀ c ∈ text, c ∈ "-.0123456789infa".toList) ∧ text.length ≤ 44

instance (text : List Char) : Decidable (FloatText text) := inferInstanceAs (Decidable (_ ∧ _))

/-- The requests the daemon's front ends make: one of the four moods, a wink of either eye, and
coordinates as `%.3f` prints them. -/
inductive EyeRequest.Sendable : EyeRequest → Prop
  | setMood (mood : Mood) : Sendable (.setMood mood.name)
  | lookAt {x y : List Char} : FloatText x → FloatText y → Sendable (.lookAt x y)
  | blink : Sendable .blink
  | wink (eye : Eye) : Sendable (.wink eye.name)
  | setIdleEnabled (enabled : Bool) : Sendable (.setIdleEnabled enabled)
  | requestStatus : Sendable .requestStatus

/-! ## What the eye service does with them -/

/-- A call of the eye service on its animator or renderer. -/
inductive EyeCall
  /-- `animator.setMood(mood)`. -/
  | setMood (mood : Mood)
  /-- `animator.lookAt(x, y)`, with the texts `strtof` reads the coordinates from; `none` where
  the key is missing and the coordinate stays `0.0f`. -/
  | lookAt (x y : Option (List Char))
  /-- `animator.blink()`. -/
  | blink
  /-- `animator.wink(eye)`. -/
  | wink (eye : Eye)
  /-- `renderer.setIrisColor((uint16_t)strtol(pc + 9, nullptr, 0))`, with the text `strtol` reads. -/
  | setIrisColor (text : List Char)
  /-- `animator.setIdleEnabled(enabled)`. -/
  | setIdleEnabled (enabled : Bool)
  deriving DecidableEq, Repr

/-- `strstr(json, needle)`: the text from the first occurrence of `needle` on. -/
def strstr (json : List Char) (needle : String) : Option (List Char) := findFrom needle.toList json

/-- The text after the first occurrence of `key`, where `strtof` or `strtol` starts reading. -/
def textAfter (json : List Char) (key : String) : Option (List Char) := (strstr json key).map (List.drop key.length)

/-- `parseAndHandleEvent`: the calls it makes for one line, the first `"type"` test that matches
deciding. A status request only logs. -/
def parseAndHandleEvent (json : List Char) : List EyeCall :=
  if (strstr json "\"type\":\"mood\"").isSome then
    [.setMood (if (strstr json "\"mood\":\"angry\"").isSome then .angry
      else if (strstr json "\"mood\":\"happy\"").isSome then .happy
      else if (strstr json "\"mood\":\"sleepy\"").isSome then .sleepy
      else .normal)]
  else if (strstr json "\"type\":\"look\"").isSome then [.lookAt (textAfter json "\"x\":") (textAfter json "\"y\":")]
  else if (strstr json "\"type\":\"blink\"").isSome then [.blink]
  else if (strstr json "\"type\":\"wink\"").isSome then
    [.wink (if (strstr json "\"eye\":\"right\"").isSome then .right else .left)]
  else if (strstr json "\"type\":\"color\"").isSome then (textAfter json "\"rgb565\":").toList.map .setIrisColor
  else if (strstr json "\"type\":\"idle\"").isSome then
    if (strstr json "\"enabled\":true").isSome then [.setIdleEnabled true]
    else if (strstr json "\"enabled\":false").isSome then [.setIdleEnabled false]
    else []
  else if (strstr json "\"type\":\"estop\"").isSome then [.setMood .sleepy, .setIdleEnabled false]
  else []

/-- What each request asks of the eye service (`eye_event_protocol.h`): the mood it names, the
look at the coordinates it prints, a blink, a wink of the eye it names, idle animation on or off;
a status request asks for nothing the service does. -/
def EyeRequest.intended : EyeRequest → List EyeCall
  | .setMood mood =>
    [.setMood (if mood = Mood.angry.name then .angry else if mood = Mood.happy.name then .happy
      else if mood = Mood.sleepy.name then .sleepy else .normal)]
  | .lookAt x y => [.lookAt (some (x ++ ",\"y\":".toList ++ y ++ "\x7d".toList)) (some (y ++ "\x7d".toList))]
  | .blink => [.blink]
  | .wink eye => [.wink (if eye = Eye.right.name then .right else .left)]
  | .setIdleEnabled enabled => [.setIdleEnabled enabled]
  | .requestStatus => []

/-- A `%.3f` text holds no quote. -/
theorem FloatText.quote_not_mem {x : List Char} (printed : FloatText x) : '"' ∉ x := fun inside => by
  -- A printed coordinate holds only digits, a sign, a point and the letters of `inf` and `nan`.
  have := printed.1 _ inside
  revert this
  decide

/-- A search for a quoted key passes over a printed coordinate. -/
theorem findFrom_floatText_append {x : List Char} (printed : FloatText x) (needle : String)
    (quoted : needle.toList.head? = some '"') (rest : List Char) :
    findFrom needle.toList (x ++ rest) = findFrom needle.toList rest :=
  -- The quoted key starts with a quote, which a coordinate does not hold.
  findFrom_append_of_head_not_mem rest (by rw [quoted]; rintro c ⟨⟩; exact printed.quote_not_mem)
    fun empty => by rw [empty] at quoted; cases quoted

/-- A look event is never cut short by `snprintf`: printed coordinates are short. -/
theorem EyeRequest.event_lookAt {x y : List Char} (px : FloatText x) (py : FloatText y) :
    (EyeRequest.lookAt x y).event =
      "\x7b\"type\":\"look\",\"x\":".toList ++ (x ++ (",\"y\":".toList ++ (y ++ "\x7d".toList))) := by
  -- Two coordinates of at most 44 characters and 25 fixed ones fit the 256 bytes of `snprintf`.
  have := px.2
  have := py.2
  rw [EyeRequest.event, List.take_of_length_le]
  · simp only [List.append_assoc]
  · simp only [List.length_append, eyeEventMaxSize, show "\x7b\"type\":\"look\",\"x\":".toList.length = 19 from rfl,
      show ",\"y\":".toList.length = 5 from rfl, show "\x7d".toList.length = 1 from rfl]
    omega

/-- The eye service reads a look event as a look, `strtof` starting at each printed coordinate. -/
theorem parseAndHandleEvent_lookAt {x y : List Char} (px : FloatText x) (py : FloatText y) :
    parseAndHandleEvent (EyeRequest.lookAt x y).event = (EyeRequest.lookAt x y).intended := by
  -- The look event's fixed text decides each `strstr` test, and the coordinates hold no quote.
  rw [EyeRequest.event_lookAt px py]
  have head : "\x7b\"type\":\"look\",\"x\":".toList =
      "\x7b".toList ++ "\"type\":\"look\"".toList ++ ",\"x\":".toList := by decide
  have headX : "\x7b\"type\":\"look\",\"x\":".toList = "\x7b\"type\":\"look\",".toList ++ "\"x\":".toList := by decide
  have middle : ",\"y\":".toList = ",".toList ++ "\"y\":".toList := by decide
  -- No mood test matches; the look test matches in the fixed head.
  have noMood : strstr ("\x7b\"type\":\"look\",\"x\":".toList ++ (x ++ (",\"y\":".toList ++ (y ++ "\x7d".toList))))
      "\"type\":\"mood\"" = none := by
    unfold strstr
    rw [findFrom_append_of_mismatch _ (by decide), findFrom_floatText_append px _ (by decide),
      findFrom_append_of_mismatch _ (by decide), findFrom_floatText_append py _ (by decide)]
    rfl
  have look : (strstr ("\x7b\"type\":\"look\",\"x\":".toList ++ (x ++ (",\"y\":".toList ++ (y ++ "\x7d".toList))))
      "\"type\":\"look\"").isSome := by
    unfold strstr
    rw [head, List.append_assoc, findFrom_after_mismatch _ (by decide)]
    rfl
  have textX : textAfter ("\x7b\"type\":\"look\",\"x\":".toList ++ (x ++ (",\"y\":".toList ++ (y ++ "\x7d".toList))))
      "\"x\":" = some (x ++ (",\"y\":".toList ++ (y ++ "\x7d".toList))) := by
    unfold textAfter strstr
    rw [headX, findFrom_after_mismatch _ (by decide), Option.map_some',
      List.drop_left' (show "\"x\":".toList.length = "\"x\":".length from rfl)]
  have textY : textAfter ("\x7b\"type\":\"look\",\"x\":".toList ++ (x ++ (",\"y\":".toList ++ (y ++ "\x7d".toList))))
      "\"y\":" = some (y ++ "\x7d".toList) := by
    unfold textAfter strstr
    rw [findFrom_append_of_mismatch _ (by decide), findFrom_floatText_append px _ (by decide), middle,
      findFrom_after_mismatch _ (by decide), Option.map_some',
      List.drop_left' (show "\"y\":".toList.length = "\"y\":".length from rfl)]
  unfold parseAndHandleEvent
  rw [noMood, Option.isSome_none, if_neg Bool.false_ne_true, if_pos look, textX, textY]
  simp [EyeRequest.intended]

/-- The eye service makes of every request the daemon's front ends send what the request asks. -/
theorem parseAndHandleEvent_event {r : EyeRequest} (sendable : r.Sendable) : parseAndHandleEvent r.event = r.intended := by
  -- Request by request: a look by the lemma above, every other event evaluated.
  cases sendable with
  | setMood mood => cases mood <;> decide
  | lookAt px py => exact parseAndHandleEvent_lookAt px py
  | blink => decide
  | wink eye => cases eye <;> decide
  | setIdleEnabled enabled => cases enabled <;> decide
  | requestStatus => decide

/-- Every event the daemon sends is one plain line, and fits the eye service's buffer with room
to spare. -/
theorem EyeRequest.Sendable.line {r : EyeRequest} (sendable : r.Sendable) :
    Plain r.event ∧ r.event ≠ [] ∧ r.event.length < 511 := by
  -- Request by request: every fixed event is evaluated, and a look's coordinates are short.
  cases sendable with
  | setMood mood => cases mood <;> decide
  | lookAt px py =>
    have plain : ∀ {t : List Char}, FloatText t → Plain t := fun printed =>
      ⟨fun inside => absurd (printed.1 _ inside) (by decide), fun inside => absurd (printed.1 _ inside) (by decide)⟩
    rw [EyeRequest.event_lookAt px py]
    have := px.2
    have := py.2
    refine ⟨(show Plain "\x7b\"type\":\"look\",\"x\":".toList by decide).append ((plain px).append
      ((show Plain ",\"y\":".toList by decide).append ((plain py).append (show Plain "\x7d".toList by decide)))),
      by simp, ?_⟩
    simp only [List.length_append, show "\x7b\"type\":\"look\",\"x\":".toList.length = 19 from rfl,
      show ",\"y\":".toList.length = 5 from rfl, show "\x7d".toList.length = 1 from rfl]
    omega
  | blink => decide
  | wink eye => cases eye <;> decide
  | setIdleEnabled enabled => cases enabled <;> decide
  | requestStatus => decide

/-! ## The eye service's receive loop -/

/-- `RX_BUFFER_SIZE` of the eye service. -/
def eyeRxBufferSize : Nat := 512

/-- `rx_buffer[0, rx_len)` of the eye service. `recv` is asked for `sizeof(rx_buffer) - rx_len - 1`
bytes, so at most 511 are held. -/
structure EyeRx where
  buffer : List Char
  fits : buffer.length < eyeRxBufferSize

/-- The brain just connected: `rx_len = 0`. -/
def EyeRx.empty : EyeRx := ⟨[], by decide⟩

/-- What `recv(client_fd, rx_buffer + rx_len, sizeof(rx_buffer) - rx_len - 1, 0)` returns when the
first `n` of the bytes `pending` have arrived: as many of them as it asks for. -/
def EyeRx.chunk (n : Nat) (pending : List Char) (rx : EyeRx) : List Char :=
  (pending.take n).take (eyeRxBufferSize - 1 - rx.buffer.length)

/-- What `recv` returns fits in the buffer after what it already holds, with a byte to spare for
the `'\0'`. -/
theorem EyeRx.length_buffer_append_chunk (rx : EyeRx) (n : Nat) (pending : List Char) :
    (rx.buffer ++ rx.chunk n pending).length < eyeRxBufferSize := by
  -- `recv` is asked for at most the room left, less a byte.
  have := rx.fits
  simp only [EyeRx.chunk, List.length_append, List.length_take, eyeRxBufferSize] at this ⊢
  omega

/-- The bytes `recv` returns come off the front of those waiting. -/
theorem EyeRx.chunk_append_drop (rx : EyeRx) (n : Nat) (pending : List Char) :
    rx.chunk n pending ++ pending.drop (rx.chunk n pending).length = pending := by
  -- What `recv` returns is a prefix of the bytes waiting.
  obtain ⟨rest, restEq⟩ : rx.chunk n pending <+: pending := (List.take_prefix _ _).trans (List.take_prefix n pending)
  generalize rx.chunk n pending = chunk at restEq ⊢
  subst restEq
  rw [List.drop_left]

/-- The loop keeps no more than the bytes it is given. -/
theorem length_lineLoop_snd (line text : List Char) : (lineLoop line text).2.length ≤ line.length + text.length := by
  -- Induction on the text: each byte ends a line or joins the partial one.
  induction text generalizing line with
  | nil => simp [lineLoop]
  | cons c rest ih =>
    unfold lineLoop
    split_ifs
    · simp
    · have := ih []
      simp only [List.length_nil, Nat.zero_add, List.length_cons] at this ⊢
      omega
    · have := ih (line ++ [c])
      simp only [List.length_append, List.length_singleton, List.length_cons, List.length_nil] at this ⊢
      omega

/-- What the loop keeps fits the buffer. -/
theorem EyeRx.length_lineLoop (rx : EyeRx) (n : Nat) (pending : List Char) :
    (lineLoop [] (rx.buffer ++ rx.chunk n pending)).2.length < eyeRxBufferSize := by
  -- The partial line is no longer than the buffer, which fits.
  have := length_lineLoop_snd [] (rx.buffer ++ rx.chunk n pending)
  have := rx.length_buffer_append_chunk n pending
  simp only [List.length_nil, Nat.zero_add] at *
  omega

/-- What a pass of the eye service's loop leaves of the brain's connection. -/
inductive EyeConnection
  /-- Still open, with the bytes of a partial line. -/
  | connected (rx : EyeRx)
  /-- `close(client_fd)` after `recv` returned 0: "Brain disconnected". -/
  | closed

/-- One pass of the eye service's loop over the brain's connection, when the first `n` of the
bytes `pending` have arrived: the calls `parseAndHandleEvent` makes on the non-empty lines
completed, in order, and the connection after. With none arrived `recv` fails with `EAGAIN` and
nothing changes. A buffer holding 511 bytes asks `recv` for none; it returns 0, and the service
closes the connection as if the brain had gone. -/
def EyeRx.receive (n : Nat) (pending : List Char) (rx : EyeRx) : List EyeCall × EyeConnection :=
  if pending.take n = [] then ([], .connected rx)
  else if rx.chunk n pending = [] then ([], .closed)
  else
    ((lineLoop [] (rx.buffer ++ rx.chunk n pending)).1.filter (fun line => !line.isEmpty) |>.flatMap parseAndHandleEvent,
      .connected ⟨(lineLoop [] (rx.buffer ++ rx.chunk n pending)).2, rx.length_lineLoop n pending⟩)

/-- Passes of the eye service's loop, the first `n` of the bytes still waiting arrived at each: the
calls made, the connection after the last pass, and the bytes still waiting. -/
def EyeRx.run : List Nat → List Char → EyeRx → List EyeCall × EyeConnection × List Char
  | [], pending, rx => ([], .connected rx, pending)
  | n :: reads, pending, rx =>
    let unread := pending.drop (rx.chunk n pending).length
    match rx.receive n pending with
    | (calls, .connected next) =>
      let rest := EyeRx.run reads unread next
      (calls ++ rest.1, rest.2)
    | (calls, .closed) => (calls, .closed, unread)

/-- After part of the stream `terminated lines` has been read: `k` lines handed on, and the
buffer, plain, and the bytes still waiting are the rest of the stream. -/
def EyeWaiting (lines : List (List Char)) (k : Nat) (buffer pending : List Char) : Prop :=
  k ≤ lines.length ∧ Plain buffer ∧ buffer ++ pending = terminated (lines.drop k)

/-- With nothing left waiting, every line has been handed on. -/
theorem EyeWaiting.all_lines {lines : List (List Char)} {k : Nat} {buffer : List Char}
    (waiting : EyeWaiting lines k buffer []) : k = lines.length := by
  -- A line left over would have put its newline in the plain buffer.
  obtain ⟨bound, plainBuffer, stream⟩ := waiting
  by_contra more
  obtain ⟨line, later, lineEq⟩ : ∃ line later, lines.drop k = line :: later :=
    List.exists_cons_of_ne_nil (by rw [Ne, List.drop_eq_nil_iff]; omega)
  -- the next line's newline would be in the buffer
  rw [List.append_nil, lineEq, terminated_cons] at stream
  exact plainBuffer.1 (stream ▸ List.mem_append_right _ (List.mem_cons_self _ _))

section Lines

variable {lines : List (List Char)} (short : ∀ line ∈ lines, Plain line ∧ line.length < eyeRxBufferSize - 1)
include short

/-- While lines that fit are waiting, the buffer keeps room for a byte. -/
theorem EyeWaiting.room {k : Nat} {buffer pending : List Char} (waiting : EyeWaiting lines k buffer pending) :
    buffer.length < eyeRxBufferSize - 1 := by
  -- The buffer is the front of the next line, which fits with a byte to spare.
  obtain ⟨-, plainBuffer, stream⟩ := waiting
  cases rest : lines.drop k with
  | nil =>
    rw [rest, terminated_nil, List.append_eq_nil] at stream
    rw [stream.1]
    decide
  | cons line later =>
    rw [rest, terminated_cons] at stream
    have within := length_le_of_plain_prefix plainBuffer stream
    exact within.trans_lt (short line (List.mem_of_mem_drop (rest ▸ List.mem_cons_self line later))).2

/-- One pass hands on the next `j` lines and keeps waiting on the rest. -/
theorem EyeWaiting.receive {k : Nat} {rx : EyeRx} {pending : List Char} (waiting : EyeWaiting lines k rx.buffer pending)
    (n : Nat) :
    ∃ j next, rx.receive n pending =
        ((((lines.drop k).take j).filter fun line => !line.isEmpty).flatMap parseAndHandleEvent, .connected next) ∧
      EyeWaiting lines (k + j) next.buffer (pending.drop (rx.chunk n pending).length) := by
  -- The bytes received split into whole lines and the front of the next, which the loop hands on and keeps.
  have room := waiting.room short
  obtain ⟨bound, plainBuffer, stream⟩ := waiting
  by_cases arrived : pending.take n = []
  · -- `recv` fails with `EAGAIN`: nothing changes
    have none : rx.chunk n pending = [] := by rw [EyeRx.chunk, arrived, List.take_nil]
    refine ⟨0, rx, by simp [EyeRx.receive, arrived], ?_⟩
    rw [none, List.length_nil, List.drop_zero, Nat.add_zero]
    exact ⟨bound, plainBuffer, stream⟩
  have nonempty : rx.chunk n pending ≠ [] := by
    simp only [EyeRx.chunk, Ne, List.take_eq_nil_iff, arrived, or_false]
    omega
  have whole : (rx.buffer ++ rx.chunk n pending) ++ pending.drop (rx.chunk n pending).length =
      terminated (lines.drop k) ++ [] := by
    rw [List.append_assoc, rx.chunk_append_drop, stream, List.append_nil]
  have plainLines : ∀ line ∈ lines.drop k, Plain line := fun line member => (short line (List.mem_of_mem_drop member)).1
  obtain ⟨j, jBound, fragment, plainFragment, readEq, unreadEq⟩ :=
    terminated_prefix plainLines ⟨List.not_mem_nil _, List.not_mem_nil _⟩ whole
  have found := @lineLoop_terminated ((lines.drop k).take j)
    (fun line member => plainLines line (List.mem_of_mem_take member)) _ plainFragment
  rw [← readEq] at found
  refine ⟨j, ⟨fragment, by simpa [found] using rx.length_lineLoop n pending⟩, ?_, ?_⟩
  · simp only [EyeRx.receive, if_neg arrived, if_neg nonempty, found]
  · rw [List.length_drop] at jBound
    rw [List.append_nil, List.drop_drop] at unreadEq
    exact ⟨by omega, plainFragment, unreadEq⟩

/-- A run of passes hands on the next lines in order, keeps the connection, and keeps waiting on
the rest. -/
theorem EyeWaiting.run {k : Nat} {rx : EyeRx} {pending : List Char} (waiting : EyeWaiting lines k rx.buffer pending)
    (reads : List Nat) :
    ∃ j next, (rx.run reads pending).1 =
        (((lines.drop k).take j).filter fun line => !line.isEmpty).flatMap parseAndHandleEvent ∧
      (rx.run reads pending).2.1 = .connected next ∧ EyeWaiting lines (k + j) next.buffer (rx.run reads pending).2.2 := by
  -- Each pass continues where the one before stopped.
  induction reads generalizing k rx pending with
  | nil => exact ⟨0, rx, by simp [EyeRx.run], rfl, by simpa [EyeRx.run] using waiting⟩
  | cons n reads ih =>
    obtain ⟨j, next, received, after⟩ := waiting.receive short n
    obtain ⟨j', last, out, connection, final⟩ := ih after
    refine ⟨j + j', last, ?_, ?_, ?_⟩ <;> simp only [EyeRx.run, received]
    · rw [out, List.take_add, List.drop_drop, List.filter_append, List.flatMap_append]
    · exact connection
    · rwa [Nat.add_assoc] at final

end Lines

/-! ## The daemon's eye commands -/

/-- `cmd.c_str()` as a C string: the text up to its first NUL. -/
def cString (cmd : String) : List Char := cmd.toList.takeWhile (· != nulChar)

/-- What `handleEyeCommand` does with a command text. -/
inductive EyeDispatch
  /-- It makes the eye client call, and broadcasts `reply` when the call succeeds; when it fails,
  `eyeCommandFailed` broadcasts `eyeServiceUnavailable` instead. -/
  | call (request : EyeRequest) (reply : String)
  /-- It broadcasts `reply` and makes no call. -/
  | answer (reply : String)
  deriving DecidableEq, Repr

/-- The broadcast of `eyeCommandFailed`. -/
def eyeServiceUnavailable : String := "\x7b\"error\":\"eye_service_unavailable\"\x7d"

/-- The eye client call a dispatch makes. -/
def EyeDispatch.request : EyeDispatch → Option EyeRequest
  | .call request _ => some request
  | .answer _ => none

/-- `BrainDaemon::handleEyeCommand`, the first of its `hasType` tests that matches deciding.
`printFloat` is `strtof` on the text after a coordinate's key, or `0.0f` without the key, as
`lookAt` prints it with `%.3f`. -/
def handleEyeCommand (printFloat : Option (List Char) → List Char) (cmd : String) : EyeDispatch :=
  if hasType cmd "look" then
    .call (.lookAt (printFloat (textAfter (cString cmd) "\"x\":")) (printFloat (textAfter (cString cmd) "\"y\":")))
      "\x7b\"status\":\"ok\",\"eye\":\"look\"\x7d"
  else if hasType cmd "blink" then .call .blink "\x7b\"status\":\"ok\",\"eye\":\"blink\"\x7d"
  else if hasType cmd "wink" then
    let eye := if textFind "\"eye\":\"right\"".toList cmd.toList then "right" else "left"
    .call (.wink eye.toList) ("\x7b\"status\":\"ok\",\"eye\":\"wink\",\"which\":\"" ++ eye ++ "\"\x7d")
  else if hasType cmd "mood" then
    let mood :=
      if textFind "\"mood\":\"angry\"".toList cmd.toList then "angry"
      else if textFind "\"mood\":\"happy\"".toList cmd.toList then "happy"
      else if textFind "\"mood\":\"sleepy\"".toList cmd.toList then "sleepy"
      else "normal"
    .call (.setMood mood.toList) ("\x7b\"status\":\"ok\",\"eye\":\"mood\",\"mood\":\"" ++ mood ++ "\"\x7d")
  else if hasType cmd "eye" then
    if textFind "\"action\":\"idle_on\"".toList cmd.toList then
      .call (.setIdleEnabled true) "\x7b\"status\":\"ok\",\"eye\":\"idle_on\"\x7d"
    else if textFind "\"action\":\"idle_off\"".toList cmd.toList then
      .call (.setIdleEnabled false) "\x7b\"status\":\"ok\",\"eye\":\"idle_off\"\x7d"
    else if textFind "\"action\":\"status\"".toList cmd.toList then
      .call .requestStatus "\x7b\"status\":\"ok\",\"eye\":\"status_requested\"\x7d"
    else .answer "\x7b\"error\":\"unknown_eye_action\"\x7d"
  else .answer "\x7b\"error\":\"unknown_eye_command\"\x7d"

/-- Every call `handleEyeCommand` makes is one the eye service knows: the mood and the eye are
normalised, and the coordinates are printed. -/
theorem handleEyeCommand_sendable {printFloat : Option (List Char) → List Char}
    (printed : ∀ text, FloatText (printFloat text)) (cmd : String) :
    ∀ r ∈ (handleEyeCommand printFloat cmd).request, r.Sendable := by
  -- Every branch builds a request the eye service knows.
  intro r made
  unfold handleEyeCommand at made
  -- One `hasType` test at a time, in the order of the source: splitting all the tests at once
  -- makes Lean compare every branch with every other.
  by_cases look : hasType cmd "look" = true
  · rw [if_pos look] at made; cases made; exact .lookAt (printed _) (printed _)
  rw [if_neg look] at made
  by_cases blink : hasType cmd "blink" = true
  · rw [if_pos blink] at made; cases made; exact .blink
  rw [if_neg blink] at made
  by_cases wink : hasType cmd "wink" = true
  · rw [if_pos wink] at made
    split_ifs at made <;> cases made
    · exact .wink .right
    · exact .wink .left
  rw [if_neg wink] at made
  by_cases mood : hasType cmd "mood" = true
  · rw [if_pos mood] at made
    split_ifs at made <;> cases made
    · exact .setMood .angry
    · exact .setMood .happy
    · exact .setMood .sleepy
    · exact .setMood .normal
  rw [if_neg mood] at made
  split_ifs at made <;> cases made
  · exact .setIdleEnabled true
  · exact .setIdleEnabled false
  · exact .requestStatus

/-! ## From the daemon to the animator -/

/-- On the lines of sendable requests, the eye service makes exactly the calls they ask for. -/
theorem flatMap_parseAndHandleEvent {requests : List EyeRequest} (sendable : ∀ r ∈ requests, r.Sendable) :
    ((requests.map EyeRequest.event).filter fun line => !line.isEmpty).flatMap parseAndHandleEvent =
      requests.flatMap EyeRequest.intended := by
  -- Induction over the requests: each line is non-empty and read as its request asks.
  induction requests with
  | nil => rfl
  | cons r requests ih =>
    have line := (sendable r (List.mem_cons_self r requests)).line
    rw [List.map_cons, List.filter_cons_of_pos (by simpa using line.2.1), List.flatMap_cons, List.flatMap_cons,
      parseAndHandleEvent_event (sendable r (List.mem_cons_self r requests)),
      ih fun other member => sendable other (List.mem_cons_of_mem r member)]

/-- The events of sendable requests, sent one line each, reach the animator as the calls the
requests ask for, in order, whatever sizes `recv` returns; the connection is never closed. -/
theorem eye_requests_any_chunking {requests : List EyeRequest} (sendable : ∀ r ∈ requests, r.Sendable)
    (reads : List Nat) :
    (∃ rx, (EyeRx.empty.run reads (terminated (requests.map EyeRequest.event))).2.1 = .connected rx) ∧
    (∃ j, (EyeRx.empty.run reads (terminated (requests.map EyeRequest.event))).1 =
      (requests.take j).flatMap EyeRequest.intended) ∧
    ((EyeRx.empty.run reads (terminated (requests.map EyeRequest.event))).2.2 = [] →
      (EyeRx.empty.run reads (terminated (requests.map EyeRequest.event))).1 = requests.flatMap EyeRequest.intended) := by
  -- From an empty buffer the service waits on the whole stream, and the run keeps waiting.
  have short : ∀ line ∈ requests.map EyeRequest.event, Plain line ∧ line.length < eyeRxBufferSize - 1 := by
    simp only [List.mem_map]
    rintro _ ⟨r, member, rfl⟩
    exact ⟨(sendable r member).line.1, (sendable r member).line.2.2⟩
  have start : EyeWaiting (requests.map EyeRequest.event) 0 EyeRx.empty.buffer
      (terminated (requests.map EyeRequest.event)) :=
    ⟨Nat.zero_le _, ⟨List.not_mem_nil _, List.not_mem_nil _⟩, rfl⟩
  obtain ⟨j, next, out, connection, last⟩ := start.run short reads
  rw [List.drop_zero, Nat.zero_add, ← List.map_take] at *
  have calls := @flatMap_parseAndHandleEvent (requests.take j) fun r member => sendable r (List.mem_of_mem_take member)
  refine ⟨⟨next, connection⟩, ⟨j, out.trans calls⟩, fun readAll => ?_⟩
  rw [readAll] at last
  rw [out, calls, last.all_lines, List.length_map, List.take_length]

/-- The eye client calls the daemon makes for command texts, in order. -/
def eyeRequests (printFloat : Option (List Char) → List Char) (cmds : List String) : List EyeRequest :=
  cmds.filterMap fun cmd => (handleEyeCommand printFloat cmd).request

/--
Eye commands reach the eye animator as they ask, however the socket splits the events. Take any
command texts handled by `handleEyeCommand`, with the coordinates of a look printed by `%.3f`, and
each event line sent whole by `EyeClient::sendEvent`. Whatever sizes the eye service's `recv`
returns, the connection is never closed, and the calls `parseAndHandleEvent` makes are always
those the first requests ask for, in order: the mood named, a look with `strtof` reading each
printed coordinate, a blink, a wink of the eye named, idle animation on or off, nothing for a
status request. Once everything sent has been read, they are those of all of them.
-/
theorem eye_commands_reach_animator (printFloat : Option (List Char) → List Char)
    (printed : ∀ text, FloatText (printFloat text)) (cmds : List String) (reads : List Nat) :
    (∃ rx, (EyeRx.empty.run reads (terminated ((eyeRequests printFloat cmds).map EyeRequest.event))).2.1 =
      .connected rx) ∧
    (∃ j, (EyeRx.empty.run reads (terminated ((eyeRequests printFloat cmds).map EyeRequest.event))).1 =
      ((eyeRequests printFloat cmds).take j).flatMap EyeRequest.intended) ∧
    ((EyeRx.empty.run reads (terminated ((eyeRequests printFloat cmds).map EyeRequest.event))).2.2 = [] →
      (EyeRx.empty.run reads (terminated ((eyeRequests printFloat cmds).map EyeRequest.event))).1 =
        (eyeRequests printFloat cmds).flatMap EyeRequest.intended) :=
  -- Every request `handleEyeCommand` makes is sendable.
  eye_requests_any_chunking (fun r member => by
    obtain ⟨cmd, -, made⟩ := List.mem_filterMap.mp member
    exact handleEyeCommand_sendable printed cmd r made) reads

/-- A happy mood, a look and a right wink, read five, then forty, then the rest of the bytes at a
time. -/
example : (EyeRx.empty.run [5, 40, 200] (terminated ((eyeRequests (fun _ => "0.000".toList)
    ["\x7b\"type\":\"mood\",\"mood\":\"happy\"\x7d", "\x7b\"type\":\"look\",\"x\":0.5\x7d",
      "\x7b\"type\":\"wink\",\"eye\":\"right\"\x7d"]).map EyeRequest.event))).1 =
      [.setMood .happy, .lookAt (some "0.000,\"y\":0.000\x7d".toList) (some "0.000\x7d".toList), .wink .right] := by
  decide

/-- A happy mood, a look and a right wink, read five, then forty, then the rest of the bytes at a
time, with every coordinate printed as `0.000`. -/
theorem eye_commands_in_small_reads :
    (∀ _ : Option (List Char), FloatText "0.000".toList) ∧
    (∃ rx, (EyeRx.empty.run [5, 40, 200] (terminated ((eyeRequests (fun _ => "0.000".toList)
      ["\x7b\"type\":\"mood\",\"mood\":\"happy\"\x7d", "\x7b\"type\":\"look\",\"x\":0.5\x7d",
      "\x7b\"type\":\"wink\",\"eye\":\"right\"\x7d"]).map EyeRequest.event))).2.1 = .connected rx) ∧
    (∃ j, (EyeRx.empty.run [5, 40, 200] (terminated ((eyeRequests (fun _ => "0.000".toList)
      ["\x7b\"type\":\"mood\",\"mood\":\"happy\"\x7d", "\x7b\"type\":\"look\",\"x\":0.5\x7d",
      "\x7b\"type\":\"wink\",\"eye\":\"right\"\x7d"]).map EyeRequest.event))).1 =
      ((eyeRequests (fun _ => "0.000".toList) ["\x7b\"type\":\"mood\",\"mood\":\"happy\"\x7d", "\x7b\"type\":\"look\",\"x\":0.5\x7d",
      "\x7b\"type\":\"wink\",\"eye\":\"right\"\x7d"]).take j).flatMap EyeRequest.intended) ∧
    ((EyeRx.empty.run [5, 40, 200] (terminated ((eyeRequests (fun _ => "0.000".toList)
      ["\x7b\"type\":\"mood\",\"mood\":\"happy\"\x7d", "\x7b\"type\":\"look\",\"x\":0.5\x7d",
      "\x7b\"type\":\"wink\",\"eye\":\"right\"\x7d"]).map EyeRequest.event))).2.2 = [] →
      (EyeRx.empty.run [5, 40, 200] (terminated ((eyeRequests (fun _ => "0.000".toList)
        ["\x7b\"type\":\"mood\",\"mood\":\"happy\"\x7d", "\x7b\"type\":\"look\",\"x\":0.5\x7d",
      "\x7b\"type\":\"wink\",\"eye\":\"right\"\x7d"]).map EyeRequest.event))).1 =
        (eyeRequests (fun _ => "0.000".toList) ["\x7b\"type\":\"mood\",\"mood\":\"happy\"\x7d", "\x7b\"type\":\"look\",\"x\":0.5\x7d",
      "\x7b\"type\":\"wink\",\"eye\":\"right\"\x7d"]).flatMap EyeRequest.intended) :=
  -- `0.000` is a printed coordinate; the theorem gives the run.
  ⟨fun _ => by decide, eye_commands_reach_animator _ (fun _ => by decide) _ _⟩

end Milkspider
