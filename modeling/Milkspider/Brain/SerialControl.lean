import Mathlib.Data.List.Infix

/-! `SerialControl::tick` of `src/serial_control.cpp`: the bytes `read` returns are split into
newline-terminated lines for `processLine`, whatever the chunks. -/

namespace Milkspider

/-! ## The receive loop -/

/-- `sizeof(m_rx_buffer)`. -/
def serialRxBufferSize : Nat := 1024

/-- `m_rx_buffer[0, m_rx_len)`. After every `tick` fewer than `sizeof(m_rx_buffer) - 1` bytes
wait, so `read` is always asked for at least one. -/
structure SerialRx where
  buffer : List Char
  fits : buffer.length < serialRxBufferSize - 1

/-- The port just opened: `m_rx_len = 0`. -/
def SerialRx.empty : SerialRx := ⟨[], by decide⟩

/-- The NUL byte that ends a C string. -/
def nulChar : Char := Char.ofNat 0

/-- The `while ((newline = strchr(line_start, '\n')) != nullptr)` loop, from `line_start`, with
`line` the part of the current line already passed over. `strchr` stops at the first NUL, which
`m_rx_buffer[m_rx_len] = '\0'` puts at the end at the latest; each newline before it ends a line.
Returns the lines found, in order, and the bytes from the last `line_start` on. -/
def lineLoop (line : List Char) : List Char → List (List Char) × List Char
  | [] => ([], line)
  | c :: rest =>
    if c = nulChar then ([], line ++ c :: rest)
    else if c = '\n' then
      let found := lineLoop [] rest
      (line :: found.1, found.2)
    else lineLoop (line ++ [c]) rest

/-- A found line once `line_start[len - 1] = '\0'` has overwritten one trailing `'\r'`. -/
def dropCr (line : List Char) : List Char :=
  if line.getLast? = some '\r' then line.dropLast else line

/-- What `processLine` is called with for a found line: nothing when `strlen(line_start)` is
zero. -/
def lineToProcess (line : List Char) : Option String :=
  if dropCr line = [] then none else some (String.mk (dropCr line))

/-- The buffer after the loop: the rest moved to the front (`memmove`), or cleared when it fills
`sizeof(m_rx_buffer) - 1` bytes. -/
def SerialRx.keep (remaining : List Char) : SerialRx :=
  if fits : remaining.length < serialRxBufferSize - 1 then ⟨remaining, fits⟩ else SerialRx.empty

/-- `SerialControl::tick` when `read` returns `chunk`: the strings handed to `processLine`, in
order, and the buffer after. A `read` that returns nothing (`n <= 0`) changes nothing. -/
def SerialRx.tick (chunk : List Char) (rx : SerialRx) : List String × SerialRx :=
  if chunk = [] then ([], rx)
  else
    let found := lineLoop [] (rx.buffer ++ chunk)
    (found.1.filterMap lineToProcess, SerialRx.keep found.2)

/-- `read(m_fd, m_rx_buffer + m_rx_len, sizeof(m_rx_buffer) - m_rx_len - 1)`: the first bytes
waiting on the port, as many as `read` returns and at most as many as asked for. -/
def SerialRx.read (n : Nat) (pending : List Char) (rx : SerialRx) : List Char :=
  pending.take (min n (serialRxBufferSize - 1 - rx.buffer.length))

/-- Ticks over the bytes waiting on the port, `read` returning up to `n` bytes at each: the
strings handed to `processLine`, the buffer, and the bytes still waiting. -/
def SerialRx.run : List Nat → List Char → SerialRx → List String × SerialRx × List Char
  | [], pending, rx => ([], rx, pending)
  | n :: reads, pending, rx =>
    let chunk := rx.read n pending
    let step := rx.tick chunk
    let rest := SerialRx.run reads (pending.drop chunk.length) step.2
    (step.1 ++ rest.1, rest.2)

/-! ## Streams of lines -/

/-- A stream made of lines, each followed by a newline: the text the lines are the
newline-terminated lines of. -/
def terminated (lines : List (List Char)) : List Char :=
  lines.flatMap fun line => line ++ ['\n']

/-- No line is no text. -/
@[simp] theorem terminated_nil : terminated [] = [] :=
  -- The empty flatMap.
  rfl

/-- A line, its newline, then the other lines. -/
@[simp] theorem terminated_cons (line : List Char) (lines : List (List Char)) :
    terminated (line :: lines) = line ++ '\n' :: terminated lines := by
  -- The flatMap's first line.
  simp [terminated]

/-- Text with neither a newline nor a NUL: a line, or the part of one after the last newline. -/
def Plain (text : List Char) : Prop := '\n' ∉ text ∧ nulChar ∉ text

instance (text : List Char) : Decidable (Plain text) := inferInstanceAs (Decidable (_ ∧ _))

/-- Plain texts stay plain when joined. -/
theorem Plain.append {a b : List Char} (ha : Plain a) (hb : Plain b) : Plain (a ++ b) :=
  -- A newline or NUL in the join is in one of the parts.
  ⟨by simp [ha.1, hb.1], by simp [ha.2, hb.2]⟩

/-- The front of a plain text is plain. -/
theorem Plain.of_append_left {a b : List Char} (h : Plain (a ++ b)) : Plain a :=
  -- A newline or NUL in the front is in the whole.
  ⟨fun m => h.1 (List.mem_append_left _ m), fun m => h.2 (List.mem_append_left _ m)⟩

/-- The back of a plain text is plain. -/
theorem Plain.of_append_right {a b : List Char} (h : Plain (a ++ b)) : Plain b :=
  -- A newline or NUL in the back is in the whole.
  ⟨fun m => h.1 (List.mem_append_right _ m), fun m => h.2 (List.mem_append_right _ m)⟩

/-- Plain text holds no line end: the loop passes over all of it. -/
theorem lineLoop_plain {line text : List Char} (plain : Plain text) :
    lineLoop line text = ([], line ++ text) := by
  -- Induction on the text: each byte joins the partial line.
  induction text generalizing line with
  | nil => simp [lineLoop]
  | cons c rest ih =>
    have notNul : c ≠ nulChar := fun h => plain.2 (h ▸ List.mem_cons_self _ _)
    have notNewline : c ≠ '\n' := fun h => plain.1 (h ▸ List.mem_cons_self _ _)
    rw [lineLoop, if_neg notNul, if_neg notNewline,
      ih (Plain.of_append_right (a := [c]) plain)]
    simp

/-- A plain line and its newline: the loop hands the line over and starts afresh after it. -/
theorem lineLoop_line {line text rest : List Char} (plain : Plain text) :
    lineLoop line (text ++ '\n' :: rest) = ((line ++ text) :: (lineLoop [] rest).1, (lineLoop [] rest).2) := by
  -- Induction on the line: its bytes join the partial line, and the newline ends it.
  induction text generalizing line with
  | nil =>
    have notNul : '\n' ≠ nulChar := by decide
    simp [lineLoop, notNul]
  | cons c text ih =>
    have notNul : c ≠ nulChar := fun h => plain.2 (h ▸ List.mem_cons_self _ _)
    have notNewline : c ≠ '\n' := fun h => plain.1 (h ▸ List.mem_cons_self _ _)
    rw [List.cons_append, lineLoop, if_neg notNul, if_neg notNewline,
      ih (Plain.of_append_right (a := [c]) plain)]
    simp

/-- On plain lines, each with its newline, then a plain rest, the loop finds exactly the lines. -/
theorem lineLoop_terminated {lines : List (List Char)} (plain : ∀ line ∈ lines, Plain line)
    {rest : List Char} (plainRest : Plain rest) : lineLoop [] (terminated lines ++ rest) = (lines, rest) := by
  -- Induction over the lines, one `lineLoop_line` each.
  induction lines with
  | nil => simpa using @lineLoop_plain [] _ plainRest
  | cons line lines ih =>
    rw [terminated_cons, List.append_assoc, List.cons_append, lineLoop_line (plain line (List.mem_cons_self _ _)),
      ih fun other member => plain other (List.mem_cons_of_mem _ member)]
    simp

/-- Whatever part of a stream of lines has arrived is some whole lines and a plain part of the
next one (or of the rest). -/
theorem terminated_prefix {lines : List (List Char)} (plain : ∀ line ∈ lines, Plain line) {tail : List Char}
    (plainTail : Plain tail) {read unread : List Char} (arrived : read ++ unread = terminated lines ++ tail) :
    ∃ j ≤ lines.length, ∃ fragment, Plain fragment ∧ read = terminated (lines.take j) ++ fragment ∧
      fragment ++ unread = terminated (lines.drop j) ++ tail := by
  -- Induction over the lines: what arrived ends inside the first line, at its newline, or past it.
  induction lines generalizing read with
  | nil =>
    refine ⟨0, le_rfl, read, ?_, by simp, by simpa using arrived⟩
    exact Plain.of_append_left (b := unread) (by rw [arrived]; simpa using plainTail)
  | cons line lines ih =>
    have plainLine := plain line (List.mem_cons_self _ _)
    rw [terminated_cons, List.append_assoc, List.cons_append] at arrived
    rcases List.append_eq_append_iff.mp arrived with ⟨rest, lineEq, _⟩ | ⟨more, readEq, restEq⟩
    · -- the arrived part ends inside the first line
      refine ⟨0, Nat.zero_le _, read, ?_, by simp, by simp [arrived]⟩
      exact Plain.of_append_left (b := rest) (lineEq ▸ plainLine)
    · cases more with
      | nil =>
        -- exactly the first line, without its newline
        simp only [List.nil_append] at restEq
        refine ⟨0, Nat.zero_le _, read, by simpa [readEq] using plainLine, by simp, ?_⟩
        simp [readEq, ← restEq]
      | cons c more =>
        -- past the newline: the first line is whole, and the rest arrived from the next lines
        simp only [List.cons_append, List.cons.injEq] at restEq
        obtain ⟨rfl, restEq⟩ := restEq
        obtain ⟨j, bound, fragment, plainFragment, readMore, unreadEq⟩ :=
          ih (fun other member => plain other (List.mem_cons_of_mem _ member)) restEq.symm
        refine ⟨j + 1, by simpa using bound, fragment, plainFragment, ?_, by simpa using unreadEq⟩
        rw [readEq, readMore]
        simp

/-- A plain part of a stream that still has a line to come is no longer than that line. -/
theorem length_le_of_plain_prefix {fragment line rest unread : List Char} (plain : Plain fragment)
    (arrived : fragment ++ unread = line ++ '\n' :: rest) : fragment.length ≤ line.length := by
  -- A plain front cannot reach past the line's newline.
  rcases List.append_eq_append_iff.mp arrived with ⟨more, lineEq, _⟩ | ⟨more, fragmentEq, restEq⟩
  · simp [lineEq]
  · cases more with
    | nil => simp [fragmentEq]
    | cons c more =>
      simp only [List.cons_append, List.cons.injEq] at restEq
      exact absurd (fragmentEq ▸ restEq.1 ▸ List.mem_append_right _ (List.mem_cons_self _ _)) plain.1

/-- The buffer kept after a tick is the rest of the loop, or empty after an overflow; plain
either way. -/
theorem SerialRx.keep_plain {remaining : List Char} (plain : Plain remaining) : Plain (SerialRx.keep remaining).buffer := by
  -- Either the plain rest is kept, or the buffer is cleared.
  unfold SerialRx.keep
  split
  · exact plain
  · exact ⟨List.not_mem_nil _, List.not_mem_nil _⟩

/-- The bytes taken, then those after them, are the whole text. -/
private theorem take_append_drop_length (l : List Char) (m : Nat) : l.take m ++ l.drop (l.take m).length = l := by
  -- Taking more than the text holds takes all of it.
  rw [List.length_take]
  rcases le_total m l.length with short | long
  · rw [min_eq_left short, List.take_append_drop]
  · rw [min_eq_right long, List.take_of_length_le long, List.drop_length, List.append_nil]

/-! ## Any chunking hands over the stream's lines -/

section Framing

variable {lines : List (List Char)} {tail : List Char}

/-- After part of the stream `terminated lines ++ tail` has been read: `k` lines handed over, the
buffer plain, and either the buffer and the unread bytes together are the rest of the stream, or
every line is handed over and only part of the tail is unread. -/
def Waiting (lines : List (List Char)) (tail : List Char) (k : Nat) (buffer pending : List Char) : Prop :=
  k ≤ lines.length ∧ Plain buffer ∧
    (buffer ++ pending = terminated (lines.drop k) ++ tail ∨ k = lines.length ∧ pending <:+ tail)

/-- With nothing left unread, every line has been handed over. -/
theorem Waiting.all_lines {k : Nat} {buffer : List Char} (waiting : Waiting lines tail k buffer []) :
    k = lines.length := by
  -- A line still to come would put its newline in the plain buffer.
  obtain ⟨bound, plainBuffer, whole | ⟨every, -⟩⟩ := waiting
  · -- a line still to come would put its newline in the buffer
    by_contra more
    obtain ⟨line, later, lineEq⟩ : ∃ line later, lines.drop k = line :: later :=
      List.exists_cons_of_ne_nil (by rw [Ne, List.drop_eq_nil_iff]; omega)
    rw [List.append_nil, lineEq, terminated_cons] at whole
    exact plainBuffer.1 (whole ▸ List.mem_append_left _ (List.mem_append_right _ (List.mem_cons_self _ _)))
  · exact every

variable (short : ∀ line ∈ lines, Plain line ∧ line.length < serialRxBufferSize - 1) (plainTail : Plain tail)
include short plainTail

/-- Unread bytes of the stream hold no NUL. -/
theorem Waiting.pending_noNul {k : Nat} {buffer pending : List Char} (waiting : Waiting lines tail k buffer pending) :
    nulChar ∉ pending := by
  -- The unread bytes are part of the stream, whose lines and tail hold no NUL.
  intro nul
  rcases waiting.2.2 with whole | ⟨-, suffix⟩
  · have inStream : nulChar ∈ terminated (lines.drop k) ++ tail := whole ▸ List.mem_append_right _ nul
    simp only [terminated, List.mem_append, List.mem_flatMap] at inStream
    rcases inStream with ⟨line, member, inLine | isNewline⟩ | inTail
    · exact (short line (List.mem_of_mem_drop member)).1.2 inLine
    · exact absurd (List.mem_singleton.mp isNewline) (by decide)
    · exact plainTail.2 inTail
  · exact plainTail.2 (suffix.subset nul)

/-- One `tick`: it hands over the next `j` lines and keeps waiting on the rest. -/
theorem Waiting.tick {k : Nat} {rx : SerialRx} {pending : List Char} (waiting : Waiting lines tail k rx.buffer pending)
    (n : Nat) :
    ∃ j, k + j ≤ lines.length ∧
      (rx.tick (rx.read n pending)).1 = ((lines.drop k).take j).filterMap lineToProcess ∧
      Waiting lines tail (k + j) (rx.tick (rx.read n pending)).2.buffer (pending.drop (rx.read n pending).length) := by
  -- The bytes read split into whole lines and a plain fragment, which the loop hands over and keeps.
  have noNul := waiting.pending_noNul short plainTail
  obtain ⟨bound, plainBuffer, rest⟩ := waiting
  have split : rx.read n pending ++ pending.drop (rx.read n pending).length = pending :=
    take_append_drop_length _ _
  by_cases nothing : rx.read n pending = []
  · -- `read` returned nothing: the tick changes nothing
    refine ⟨0, by simpa using bound, by simp [SerialRx.tick, nothing], ?_⟩
    simpa [SerialRx.tick, nothing] using (⟨bound, plainBuffer, rest⟩ : Waiting lines tail k rx.buffer pending)
  rcases rest with whole | ⟨every, suffix⟩
  · -- the buffer and the unread bytes are the rest of the stream
    have arrived : (rx.buffer ++ rx.read n pending) ++ pending.drop (rx.read n pending).length =
        terminated (lines.drop k) ++ tail := by rw [List.append_assoc, split, whole]
    obtain ⟨j, jBound, fragment, plainFragment, readEq, unreadEq⟩ :=
      terminated_prefix (fun line member => (short line (List.mem_of_mem_drop member)).1) plainTail arrived
    have found := @lineLoop_terminated ((lines.drop k).take j)
      (fun line member => (short line (List.mem_of_mem_drop (List.mem_of_mem_take member))).1) fragment plainFragment
    rw [← readEq] at found
    rw [List.length_drop] at jBound
    refine ⟨j, by omega, by simp [SerialRx.tick, nothing, found], ?_⟩
    simp only [SerialRx.tick, nothing, if_false, found, List.drop_drop, Nat.add_comm j k] at unreadEq ⊢
    refine ⟨by omega, SerialRx.keep_plain plainFragment, ?_⟩
    by_cases fits : fragment.length < serialRxBufferSize - 1
    · -- the rest of the loop stays in the buffer
      rw [SerialRx.keep, dif_pos fits]
      exact .inl unreadEq
    · -- only a tail without a newline can overflow the buffer
      have ended : k + j = lines.length := by
        by_contra more
        obtain ⟨line, later, lineEq⟩ : ∃ line later, lines.drop (k + j) = line :: later :=
          List.exists_cons_of_ne_nil (by rw [Ne, List.drop_eq_nil_iff]; omega)
        rw [lineEq, terminated_cons, List.append_assoc, List.cons_append] at unreadEq
        have long := length_le_of_plain_prefix plainFragment unreadEq
        exact fits (lt_of_le_of_lt long (short line (List.mem_of_mem_drop (lineEq ▸ List.mem_cons_self _ _))).2)
      rw [ended, List.drop_length, terminated_nil, List.nil_append] at unreadEq
      exact .inr ⟨ended, unreadEq ▸ List.suffix_append _ _⟩
  · -- every line is handed over: the rest is plain, and the loop finds no line
    have plainChunk : Plain (rx.read n pending) :=
      Plain.of_append_left (b := pending.drop (rx.read n pending).length)
        (by rw [split]; exact ⟨fun m => plainTail.1 (suffix.subset m), noNul⟩)
    have found := @lineLoop_plain [] _ (plainBuffer.append plainChunk)
    refine ⟨0, by omega, by simp [SerialRx.tick, nothing, found], ?_⟩
    simp only [SerialRx.tick, nothing, if_false, found, Nat.add_zero]
    refine ⟨bound, SerialRx.keep_plain (plainBuffer.append plainChunk), .inr ⟨every, ?_⟩⟩
    exact (List.drop_suffix _ _).trans suffix

/-- A run of ticks hands over the next lines in order and keeps waiting on the rest. -/
theorem Waiting.run {k : Nat} {rx : SerialRx} {pending : List Char} (waiting : Waiting lines tail k rx.buffer pending)
    (reads : List Nat) :
    ∃ j, k + j ≤ lines.length ∧
      (rx.run reads pending).1 = ((lines.drop k).take j).filterMap lineToProcess ∧
      Waiting lines tail (k + j) (rx.run reads pending).2.1.buffer (rx.run reads pending).2.2 := by
  -- Each tick continues where the one before stopped.
  induction reads generalizing k rx pending with
  | nil => exact ⟨0, by simpa using waiting.1, by simp [SerialRx.run], by simpa [SerialRx.run] using waiting⟩
  | cons n reads ih =>
    obtain ⟨j, jBound, out, next⟩ := waiting.tick short plainTail n
    obtain ⟨j', jBound', out', last⟩ := ih next
    refine ⟨j + j', by omega, ?_, by simpa [SerialRx.run, Nat.add_assoc] using last⟩
    simp only [SerialRx.run, out, out']
    rw [List.take_add, List.drop_drop, List.filterMap_append]

/-- From the opened port, ticks over a stream of short plain lines hand over its first lines in
order, and all of them once it has been read. -/
theorem SerialRx.run_terminated (reads : List Nat) :
    (∃ j, (SerialRx.empty.run reads (terminated lines ++ tail)).1 = (lines.take j).filterMap lineToProcess) ∧
    ((SerialRx.empty.run reads (terminated lines ++ tail)).2.2 = [] →
      (SerialRx.empty.run reads (terminated lines ++ tail)).1 = lines.filterMap lineToProcess) := by
  -- The port starts with an empty buffer, waiting on the whole stream; the run keeps waiting.
  have start : Waiting lines tail 0 SerialRx.empty.buffer (terminated lines ++ tail) :=
    ⟨Nat.zero_le _, ⟨List.not_mem_nil _, List.not_mem_nil _⟩, .inl (by simp [SerialRx.empty])⟩
  obtain ⟨j, -, out, last⟩ := start.run short plainTail reads
  rw [List.drop_zero, Nat.zero_add] at *
  refine ⟨⟨j, out⟩, fun readAll => ?_⟩
  rw [readAll] at last
  rw [out, last.all_lines, List.take_length]

end Framing

/-- Every text is lines, each with its newline, and a rest without one. -/
theorem exists_terminated (text : List Char) :
    ∃ lines rest, (∀ line ∈ lines, '\n' ∉ line) ∧ '\n' ∉ rest ∧ text = terminated lines ++ rest := by
  -- Induction on the text: a newline starts a new empty line, any other byte joins the first line or the rest.
  induction text with
  | nil => exact ⟨[], [], by simp, List.not_mem_nil _, rfl⟩
  | cons c text ih =>
    obtain ⟨lines, rest, noNewline, restNoNewline, textEq⟩ := ih
    by_cases newline : c = '\n'
    · exact ⟨[] :: lines, rest, by simpa using noNewline, restNoNewline, by simp [newline, textEq]⟩
    · cases lines with
      | nil =>
        exact ⟨[], c :: rest, by simp, List.not_mem_cons_of_ne_of_not_mem (Ne.symm newline) restNoNewline,
          by simp [textEq]⟩
      | cons line lines =>
        refine ⟨(c :: line) :: lines, rest, fun other member => ?_, restNoNewline, by simp [textEq]⟩
        rcases List.mem_cons.mp member with rfl | later
        · exact List.not_mem_cons_of_ne_of_not_mem (Ne.symm newline) (noNewline line (List.mem_cons_self _ _))
        · exact noNewline other (List.mem_cons_of_mem _ later)

/-- Without NUL bytes, the lines and the rest are determined by the text. -/
theorem terminated_injective {lines lines' : List (List Char)} {rest rest' : List Char}
    (plain : ∀ line ∈ lines, Plain line) (plainRest : Plain rest) (plain' : ∀ line ∈ lines', Plain line)
    (plainRest' : Plain rest') (same : terminated lines ++ rest = terminated lines' ++ rest') :
    lines = lines' ∧ rest = rest' := by
  -- The loop reads both back as the same lines and rest.
  have found := lineLoop_terminated plain plainRest
  rw [same, lineLoop_terminated plain' plainRest'] at found
  exact ⟨(Prod.mk.inj found).1.symm, (Prod.mk.inj found).2.symm⟩

/--
`SerialControl::tick` hands `processLine` the stream's lines, whatever the chunks. Take a stream
without NUL bytes, written (as every stream can be, in one way only) as its newline-terminated
lines, each of at most 1022 bytes, followed by a rest without a newline; and any sizes `read`
returns, each at most what `tick` asks for. From the opened port, the strings handed to
`processLine` are always the first lines, in order, each with one trailing `'\r'` removed and the
empty ones skipped; once the stream has been read to its end, they are all of them. So the result
does not depend on the chunking.
-/
theorem serial_lines_any_chunking (lines : List (List Char)) (tail : List Char)
    (short : ∀ line ∈ lines, Plain line ∧ line.length < serialRxBufferSize - 1) (plainTail : Plain tail)
    (reads : List Nat) :
    (∃ j, (SerialRx.empty.run reads (terminated lines ++ tail)).1 = (lines.take j).filterMap lineToProcess) ∧
    ((SerialRx.empty.run reads (terminated lines ++ tail)).2.2 = [] →
      (SerialRx.empty.run reads (terminated lines ++ tail)).1 = lines.filterMap lineToProcess) :=
  -- The port opens waiting on the whole stream.
  SerialRx.run_terminated short plainTail reads

/-- `OK\r\n\nGO\nX` read one and then three bytes at a time hands over `OK` and `GO`. -/
example : (SerialRx.empty.run [1, 3, 3, 3] (terminated [['O', 'K', '\r'], [], ['G', 'O']] ++ ['X'])).1 = ["OK", "GO"] := by
  decide

/-- Two lines, the first ending in `'\r'`, an empty one between them, and an unterminated rest,
read one and then three bytes at a time. -/
theorem serial_lines_in_small_reads :
    (∀ line ∈ [['O', 'K', '\r'], [], ['G', 'O']], Plain line ∧ line.length < serialRxBufferSize - 1) ∧
      Plain ['X'] ∧
      (∃ j, (SerialRx.empty.run [1, 3, 3, 3] (terminated [['O', 'K', '\r'], [], ['G', 'O']] ++ ['X'])).1 =
        ([['O', 'K', '\r'], [], ['G', 'O']].take j).filterMap lineToProcess) ∧
      ((SerialRx.empty.run [1, 3, 3, 3] (terminated [['O', 'K', '\r'], [], ['G', 'O']] ++ ['X'])).2.2 = [] →
        (SerialRx.empty.run [1, 3, 3, 3] (terminated [['O', 'K', '\r'], [], ['G', 'O']] ++ ['X'])).1 =
          [['O', 'K', '\r'], [], ['G', 'O']].filterMap lineToProcess) :=
  -- The lines are short and plain; the theorem gives the run.
  ⟨by decide, by decide, serial_lines_any_chunking _ _ (by decide) (by decide) [1, 3, 3, 3]⟩

/--
Every stream without NUL bytes is, in one way only, its newline-terminated lines and a rest
without a newline; when those lines are at most 1022 bytes each, `SerialControl::tick` hands
`processLine` the first of them in order under any chunking, and all of them once the stream has
been read to its end.
-/
theorem serial_stream_lines_any_chunking (text : List Char) (noNul : nulChar ∉ text) :
    ∃ lines rest, (∀ line ∈ lines, Plain line) ∧ Plain rest ∧ text = terminated lines ++ rest ∧
      (∀ lines' rest', (∀ line ∈ lines', Plain line) → Plain rest' → text = terminated lines' ++ rest' →
        lines' = lines ∧ rest' = rest) ∧
      ((∀ line ∈ lines, line.length < serialRxBufferSize - 1) → ∀ reads,
        (∃ j, (SerialRx.empty.run reads text).1 = (lines.take j).filterMap lineToProcess) ∧
        ((SerialRx.empty.run reads text).2.2 = [] → (SerialRx.empty.run reads text).1 = lines.filterMap lineToProcess)) := by
  -- Cut the text at its newlines; the parts inherit the absence of NUL from the text.
  obtain ⟨lines, rest, noNewline, restNoNewline, textEq⟩ := exists_terminated text
  have plain : ∀ line ∈ lines, Plain line := fun line member => ⟨noNewline line member, fun nul =>
    noNul (textEq ▸ List.mem_append_left _ (List.mem_flatMap.mpr ⟨line, member, List.mem_append_left _ nul⟩))⟩
  have plainRest : Plain rest := ⟨restNoNewline, fun nul => noNul (textEq ▸ List.mem_append_right _ nul)⟩
  refine ⟨lines, rest, plain, plainRest, textEq, fun lines' rest' plain' plainRest' textEq' =>
    terminated_injective plain' plainRest' plain plainRest (textEq'.symm.trans textEq), fun short reads => ?_⟩
  -- From the opened port, the ticks hand over the lines in order, as for any stream of lines.
  rw [textEq]
  exact SerialRx.run_terminated (fun line member => ⟨plain line member, short line member⟩) plainRest reads

/-- The stream `OK\r\n\nGO\nX`, without a NUL byte: its lines `OK\r`, an empty one and `GO`, then `X`. -/
theorem serial_stream_ok_go :
    nulChar ∉ "OK\r\n\nGO\nX".toList ∧
      ∃ lines rest, (∀ line ∈ lines, Plain line) ∧ Plain rest ∧ "OK\r\n\nGO\nX".toList = terminated lines ++ rest ∧
        (∀ lines' rest', (∀ line ∈ lines', Plain line) → Plain rest' →
          "OK\r\n\nGO\nX".toList = terminated lines' ++ rest' → lines' = lines ∧ rest' = rest) ∧
        ((∀ line ∈ lines, line.length < serialRxBufferSize - 1) → ∀ reads,
          (∃ j, (SerialRx.empty.run reads "OK\r\n\nGO\nX".toList).1 = (lines.take j).filterMap lineToProcess) ∧
          ((SerialRx.empty.run reads "OK\r\n\nGO\nX".toList).2.2 = [] →
            (SerialRx.empty.run reads "OK\r\n\nGO\nX".toList).1 = lines.filterMap lineToProcess)) :=
  -- The stream holds no NUL; the theorem gives its lines and the run.
  ⟨by decide, serial_stream_lines_any_chunking _ (by decide)⟩

end Milkspider
