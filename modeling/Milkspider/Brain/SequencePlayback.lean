import Mathlib.Data.List.Chain
import Milkspider.Brain.TaskManager
import Milkspider.Brain.JsonProtocol

/-! Sequence playback in the archived task manager (`brain_daemon_skeleton/task_manager.cpp`),
with the motion loader's `MotionSequenceIterator` and `convertLegacyToPose`. -/

namespace Milkspider

/-- `SERVO_COUNT_LEGS`, the servos of a legacy frame. -/
def servoCountLegs : Nat := 8

/-- `MotionFrame`: the eight legacy servos and the interpolation time. -/
structure MotionFrame where
  servoUs : Fin servoCountLegs → BitVec 16
  tMs : BitVec 32

/-- The frame `current()` returns past the end: `static MotionFrame empty = {}`. -/
def MotionFrame.empty : MotionFrame := ⟨fun _ => 0, 0⟩

/-- `MotionLoader::convertLegacyToPose`: the legs clamped onto channels 0-7; channels 8-11 are
unused and channel 12 is the scan servo, all neutral. -/
def convertLegacyToPose (frame : MotionFrame) : Pose := fun channel =>
  if legs : channel.val < servoCountLegs then clampServoUs (frame.servoUs ⟨channel.val, legs⟩)
  else servoPwmNeutralUs

/-- A converted frame is in the servo range. -/
theorem convertLegacyToPose_inRange (frame : MotionFrame) : (convertLegacyToPose frame).InRange := fun channel => by
  -- Each leg is clamped, and every other channel is neutral.
  unfold convertLegacyToPose
  split
  · exact clampServoUs_inRange _
  · exact servoPwmNeutralUs_inRange

/-- `MotionSequenceIterator`: the frames of its sequence (`none` for a null sequence) and
`m_index`. -/
structure MotionSequenceIterator where
  sequence : Option (List MotionFrame)
  index : Nat

namespace MotionSequenceIterator

/-- `hasNext`. -/
def hasNext (it : MotionSequenceIterator) : Bool :=
  match it.sequence with
  | none => false
  | some frames => it.index < frames.length

/-- `current`: the frame at the index, or the empty frame. -/
def current (it : MotionSequenceIterator) : MotionFrame :=
  match it.sequence with
  | none => .empty
  | some frames => frames.getD it.index .empty

/-- `next`, whose returned frame the task manager does not use. -/
def next (it : MotionSequenceIterator) : MotionSequenceIterator :=
  if it.hasNext then { it with index := it.index + 1 } else it

/-- `isComplete`. -/
def isComplete (it : MotionSequenceIterator) : Bool :=
  match it.sequence with
  | none => true
  | some frames => frames.length ≤ it.index

/-- `reset`. -/
def reset (it : MotionSequenceIterator) : MotionSequenceIterator := { it with index := 0 }

end MotionSequenceIterator

/-- `MotionLoader`: the loaded sequences' frames by name (`m_sequences`). -/
structure MotionLoader where
  sequences : List Char → Option (List MotionFrame)

/-- `hasSequence`. -/
def MotionLoader.hasSequence (loader : MotionLoader) (name : List Char) : Bool := (loader.sequences name).isSome

/-- `createIterator`: an iterator at the start of the named sequence, or of none. -/
def MotionLoader.createIterator (loader : MotionLoader) (name : List Char) : MotionSequenceIterator :=
  ⟨loader.sequences name, 0⟩

/-- `MotionMode`. -/
inductive MotionMode
  | idle
  | legacyPrg
  | phaseEngine
  | dynamicGen
  deriving DecidableEq, Repr

/-- `convertLegacyToPose(frame, m_current_pose_us)`. -/
def TaskManager.loadFrame (frame : MotionFrame) (tm : TaskManager) : TaskManager :=
  { tm with currentPoseUs := convertLegacyToPose frame, poseInRange := convertLegacyToPose_inRange frame }

/-- A whole `TaskManager`: the part that reaches the real-time side, with its mode, command queue,
motion loader and sequence playback. -/
structure SequencePlayback where
  base : TaskManager
  /-- `m_mode`. -/
  mode : MotionMode
  /-- `m_command_queue`, front first. -/
  commandQueue : List MotionCommand
  /-- `m_frame_start_ms`; 0 while the current frame is not sent. -/
  frameStartMs : BitVec 64
  /-- `m_motion_loader`. -/
  motionLoader : MotionLoader
  /-- `m_current_iterator`. -/
  currentIterator : MotionSequenceIterator
  /-- `m_current_sequence_name`. -/
  currentSequenceName : List Char
  /-- `m_sequence_continuous`. -/
  sequenceContinuous : Bool

/-- What `TaskManager::tick` sends: a heartbeat, or a frame's pose packet with the clock reading of
`runLegacyProgram` at which it went out. -/
inductive TaskPacket
  | heartbeat (pkt : PosePacket31)
  | pose (pkt : PosePacket31) (sentMs : BitVec 64)

namespace SequencePlayback

/-- `startSequence`. -/
def startSequence (name : List Char) (p : SequencePlayback) : SequencePlayback :=
  { p with currentIterator := p.motionLoader.createIterator name, currentSequenceName := name, frameStartMs := 0 }

/-- `processMotionQueue`: the front command sets `m_sequence_continuous`, and starts its sequence
if one of that name is loaded. -/
def processMotionQueue (p : SequencePlayback) : SequencePlayback :=
  match p.commandQueue with
  | [] => p
  | cmd :: rest =>
    let popped := { p with commandQueue := rest, sequenceContinuous := cmd.continuous }
    if popped.motionLoader.hasSequence cmd.name then { popped.startSequence cmd.name with mode := .legacyPrg }
    else popped

/-- `sendPosePacket`: the current pose with the current frame's `t_ms`, or 20 past the end. -/
def sendPosePacket (p : SequencePlayback) : PosePacket31 × SequencePlayback :=
  let tMs := if p.currentIterator.hasNext then p.currentIterator.current.tMs else 20
  let (pkt, base) := p.base.sendPosePacket tMs
  (pkt, { p with base := base })

/-- `runLegacyProgram` after its completion test: the current frame's pose is sent once, and the
iterator steps past the frame once its `t_ms` has elapsed. -/
def playFrame (now : BitVec 64) (p : SequencePlayback) : Option PosePacket31 × SequencePlayback :=
  if !p.currentIterator.hasNext then (none, p)
  else
    let frame := p.currentIterator.current
    if p.frameStartMs = 0 then
      let (pkt, sent) := { p with base := p.base.loadFrame frame }.sendPosePacket
      (some pkt, { sent with frameStartMs := now })
    else if frame.tMs.setWidth 64 ≤ now - p.frameStartMs then
      (none, { p with currentIterator := p.currentIterator.next, frameStartMs := 0 })
    else (none, p)

/-- `runLegacyProgram` at `now`: at the end of the sequence, a continuous playback with a named
sequence starts over; any other goes idle. -/
def runLegacyProgram (now : BitVec 64) (p : SequencePlayback) : Option PosePacket31 × SequencePlayback :=
  if p.currentIterator.isComplete then
    if p.sequenceContinuous && !p.currentSequenceName.isEmpty then
      playFrame now { p with currentIterator := p.currentIterator.reset, frameStartMs := 0 }
    else (none, { p with mode := .idle })
  else playFrame now p

/-- The `switch (m_mode)` of `TaskManager::tick`: `LEGACY_PRG` runs the legacy program, and the
other modes do nothing. -/
def runMode (now : BitVec 64) (p : SequencePlayback) : Option PosePacket31 × SequencePlayback :=
  match p.mode with
  | .legacyPrg => p.runLegacyProgram now
  | _ => (none, p)

/-- `TaskManager::tick`, reading the clock at `heartbeatNow` and, in `runLegacyProgram`, at
`programNow`: the packets it sends, in order. -/
def tick (heartbeatNow programNow : BitVec 64) (p : SequencePlayback) : List TaskPacket × SequencePlayback :=
  let (heartbeat, base) := p.base.tickHeartbeat heartbeatNow
  let (pose, after) := { p with base := base }.processMotionQueue.runMode programNow
  ((heartbeat.map TaskPacket.heartbeat).toList ++ (pose.map fun pkt => TaskPacket.pose pkt programNow).toList, after)

/-- Ticks in turn, each with its two clock readings: the packets sent, in order. -/
def run : List (BitVec 64 × BitVec 64) → SequencePlayback → List TaskPacket × SequencePlayback
  | [], p => ([], p)
  | (heartbeatNow, programNow) :: ticks, p =>
    let (sent, next) := p.tick heartbeatNow programNow
    let (more, final) := next.run ticks
    (sent ++ more, final)

end SequencePlayback

/-- The pose packets among the packets sent, with the clock reading at which each went out. -/
def posePackets : List TaskPacket → List (PosePacket31 × BitVec 64)
  | [] => []
  | .heartbeat _ :: rest => posePackets rest
  | .pose pkt sentMs :: rest => (pkt, sentMs) :: posePackets rest

/-- The frames a playback sends, the first `count` of them: each frame once, or, repeating, the
frames over and over. -/
def playlist (frames : List MotionFrame) (repeats : Bool) (count : Nat) : List MotionFrame :=
  if repeats then (List.range count).map fun j => frames.getD (j % frames.length) .empty
  else frames.take count

/-! ## One call of `runLegacyProgram` -/

namespace SequencePlayback

variable {p : SequencePlayback} {frames : List MotionFrame} {index : Nat} {now : BitVec 64}

/-- With the frame at the index not yet sent, its pose goes out with its `t_ms`, and the frame
starts at `now`. -/
theorem playFrame_send (iterator : p.currentIterator = ⟨some frames, index⟩) (within : index < frames.length)
    (fresh : p.frameStartMs = 0) :
    ∃ pkt base, p.playFrame now = (some pkt, { p with base := base, frameStartMs := now }) ∧
      pkt.servoUs = convertLegacyToPose (frames.getD index .empty) ∧ pkt.tMs = (frames.getD index .empty).tMs := by
  -- The frame has not started, so `playFrame` builds its packet and starts it now.
  refine ⟨((p.base.loadFrame (frames.getD index .empty)).sendPosePacket (frames.getD index .empty).tMs).1,
    ((p.base.loadFrame (frames.getD index .empty)).sendPosePacket (frames.getD index .empty).tMs).2, ?_, ?_, ?_⟩
  all_goals simp [playFrame, sendPosePacket, iterator, within, fresh, MotionSequenceIterator.hasNext,
    MotionSequenceIterator.current, TaskManager.sendPosePacket, TaskManager.buildPacket, TaskManager.loadFrame]

/-- A started frame whose `t_ms` has elapsed is stepped past. -/
theorem playFrame_advance (iterator : p.currentIterator = ⟨some frames, index⟩) (within : index < frames.length)
    (started : p.frameStartMs ≠ 0) (due : (frames.getD index .empty).tMs.setWidth 64 ≤ now - p.frameStartMs) :
    p.playFrame now = (none, { p with currentIterator := ⟨some frames, index + 1⟩, frameStartMs := 0 }) := by
  -- The frame has started and its `t_ms` has elapsed, so the iterator steps on.
  simp only [List.getD_eq_getElem?_getD, List.getElem?_eq_getElem within, Option.getD_some] at due
  simp [playFrame, iterator, within, show ¬p.frameStartMs = 0#64 from started, due, MotionSequenceIterator.hasNext,
    MotionSequenceIterator.current, MotionSequenceIterator.next]

/-- A started frame whose `t_ms` has not elapsed is left as it is. -/
theorem playFrame_wait (iterator : p.currentIterator = ⟨some frames, index⟩) (within : index < frames.length)
    (started : p.frameStartMs ≠ 0) (early : ¬(frames.getD index .empty).tMs.setWidth 64 ≤ now - p.frameStartMs) :
    p.playFrame now = (none, p) := by
  -- The frame has started and its `t_ms` has not elapsed, so nothing changes.
  simp only [List.getD_eq_getElem?_getD, List.getElem?_eq_getElem within, Option.getD_some] at early
  simp [playFrame, iterator, within, show ¬p.frameStartMs = 0#64 from started, early, MotionSequenceIterator.hasNext,
    MotionSequenceIterator.current]

/-- Past the last frame there is nothing to play. -/
theorem playFrame_complete (iterator : p.currentIterator = ⟨some frames, index⟩)
    (complete : frames.length ≤ index) : p.playFrame now = (none, p) := by
  -- `hasNext` fails past the last frame.
  simp [playFrame, iterator, MotionSequenceIterator.hasNext, Nat.not_lt.mpr complete]

/-- Before the end, `runLegacyProgram` plays the current frame. -/
theorem runLegacyProgram_of_lt (iterator : p.currentIterator = ⟨some frames, index⟩)
    (within : index < frames.length) : p.runLegacyProgram now = p.playFrame now := by
  -- `isComplete` fails before the last frame.
  simp [runLegacyProgram, iterator, MotionSequenceIterator.isComplete, Nat.not_le.mpr within]

/-- At the end, a playback that does not repeat goes idle. -/
theorem runLegacyProgram_finish (iterator : p.currentIterator = ⟨some frames, index⟩)
    (complete : frames.length ≤ index) (once : (p.sequenceContinuous && !p.currentSequenceName.isEmpty) = false) :
    p.runLegacyProgram now = (none, { p with mode := .idle }) := by
  -- `isComplete` holds and the repeat test fails.
  simp [runLegacyProgram, iterator, MotionSequenceIterator.isComplete, complete, once]

/-- At the end, a repeating playback starts over from the first frame. -/
theorem runLegacyProgram_restart (iterator : p.currentIterator = ⟨some frames, index⟩)
    (complete : frames.length ≤ index) (again : (p.sequenceContinuous && !p.currentSequenceName.isEmpty) = true) :
    p.runLegacyProgram now = playFrame now { p with currentIterator := ⟨some frames, 0⟩, frameStartMs := 0 } := by
  -- `isComplete` holds and the repeat test passes, so the iterator is reset.
  simp [runLegacyProgram, iterator, MotionSequenceIterator.isComplete, complete, again,
    MotionSequenceIterator.reset]

end SequencePlayback

/-! ## The packets of a playback -/

/-- The frame a playback sends as its packet number `k`, counted from 0. -/
def scheduled (frames : List MotionFrame) (repeats : Bool) (k : Nat) : MotionFrame :=
  frames.getD (if repeats then k % frames.length else k) .empty

/-- The playlist grows by the frame scheduled next. -/
theorem playlist_succ (frames : List MotionFrame) {repeats : Bool} {k : Nat}
    (room : repeats = true ∨ k < frames.length) :
    playlist frames repeats (k + 1) = playlist frames repeats k ++ [scheduled frames repeats k] := by
  -- A repeating playlist is read modulo the frames; a single pass takes the next frame while one is left.
  cases repeats with
  | true => simp [playlist, scheduled, List.range_succ]
  | false =>
    have within : k < frames.length := room.resolve_left Bool.false_ne_true
    simp only [playlist, scheduled, Bool.false_eq_true, if_false, List.take_succ, List.getElem?_eq_getElem within,
      Option.toList_some, List.getD_eq_getElem?_getD, Option.getD_some]

/-- The pose packets of a playback so far: the playlist's frames, each as its pose with its
`t_ms`, and each packet at least the previous one's `t_ms` after it. -/
def PlayedTrace (frames : List MotionFrame) (repeats : Bool) (sent : List (PosePacket31 × BitVec 64)) : Prop :=
  sent.map (fun s => (s.1.servoUs, s.1.tMs)) =
      (playlist frames repeats sent.length).map (fun frame => (convertLegacyToPose frame, frame.tMs)) ∧
    sent.Chain' fun a b => a.2.toNat + a.1.tMs.toNat ≤ b.2.toNat

/-- No packet is a trace. -/
theorem PlayedTrace.nil (frames : List MotionFrame) (repeats : Bool) : PlayedTrace frames repeats [] := by
  -- Both playlists of length zero are empty.
  cases repeats <;> simp [PlayedTrace, playlist]

/-- A trace grows by the frame scheduled next, sent once the last packet's `t_ms` has elapsed. -/
theorem PlayedTrace.snoc {frames : List MotionFrame} {repeats : Bool} {sent : List (PosePacket31 × BitVec 64)}
    {pkt : PosePacket31} {now : BitVec 64} (traced : PlayedTrace frames repeats sent)
    (room : repeats = true ∨ sent.length < frames.length)
    (pose : pkt.servoUs = convertLegacyToPose (scheduled frames repeats sent.length))
    (timed : pkt.tMs = (scheduled frames repeats sent.length).tMs)
    (waited : ∀ last ∈ sent.getLast?, last.2.toNat + last.1.tMs.toNat ≤ now.toNat) :
    PlayedTrace frames repeats (sent ++ [(pkt, now)]) :=
  -- The new packet is the next playlist frame, and the last packet's `t_ms` had elapsed.
  ⟨by rw [List.map_append, traced.1, List.length_append, List.length_singleton, playlist_succ frames room]
      simp only [List.map_append, List.map_cons, List.map_nil, pose, timed],
    traced.2.append (List.chain'_singleton _) fun last isLast next isNext => by
      obtain rfl : next = (pkt, now) := by simpa using isNext.symm
      exact waited last isLast⟩

/-! ## Playback after the command -/

/-- What holds while a sequence of `frames` plays after the command: `sent` are the pose packets
so far, `clock` the last reading, and `pass` the passes done. -/
structure Playing (frames : List MotionFrame) (repeats : Bool) (pass : Nat) (sent : List (PosePacket31 × BitVec 64))
    (clock : Nat) (p : SequencePlayback) : Prop where
  queue : p.commandQueue = []
  mode : p.mode = .legacyPrg
  sequence : p.currentIterator.sequence = some frames
  repeating : (p.sequenceContinuous && !p.currentSequenceName.isEmpty) = repeats
  onePass : repeats = false → pass = 0
  traced : PlayedTrace frames repeats sent
  /-- Every packet is a frame of the passes done or of this one, up to the current frame. -/
  position : sent.length = pass * frames.length + p.currentIterator.index + if p.frameStartMs = 0 then 0 else 1
  /-- Between frames, the last packet's `t_ms` has elapsed. -/
  between : p.frameStartMs = 0 → p.currentIterator.index ≤ frames.length ∧
    ∀ last ∈ sent.getLast?, last.2.toNat + last.1.tMs.toNat ≤ clock
  /-- During a frame, its packet was the last, sent at `frameStartMs`. -/
  during : p.frameStartMs ≠ 0 → p.currentIterator.index < frames.length ∧ p.frameStartMs.toNat ≤ clock ∧
    ∃ pkt, sent.getLast? = some (pkt, p.frameStartMs) ∧ pkt.tMs = (frames.getD p.currentIterator.index .empty).tMs

/-- What holds once a playback that does not repeat has gone idle. -/
structure Finished (frames : List MotionFrame) (sent : List (PosePacket31 × BitVec 64)) (p : SequencePlayback) :
    Prop where
  queue : p.commandQueue = []
  mode : p.mode = .idle
  traced : PlayedTrace frames false sent
  complete : sent.length = frames.length

/-- A playback plays or, not repeating, has finished. -/
def Good (frames : List MotionFrame) (repeats : Bool) (sent : List (PosePacket31 × BitVec 64)) (clock : Nat)
    (p : SequencePlayback) : Prop :=
  (∃ pass, Playing frames repeats pass sent clock p) ∨ (repeats = false ∧ Finished frames sent p)

/-- Packet number `pass * n + index` is the frame at `index`. -/
theorem scheduled_position {frames : List MotionFrame} {repeats : Bool} {pass index : Nat}
    (within : index < frames.length) (onePass : repeats = false → pass = 0) :
    scheduled frames repeats (pass * frames.length + index) = frames.getD index .empty := by
  -- A repeating schedule reduces the packet number modulo the frames; a single pass is in its first pass.
  cases repeats with
  | true => rw [scheduled, if_pos rfl, Nat.add_comm, Nat.add_mul_mod_self_right, Nat.mod_eq_of_lt within]
  | false => simp [scheduled, onePass rfl]

/-- Past a start no later than `now`, `now - start` does not wrap: a frame's `t_ms` has elapsed
exactly when the start and `t_ms` together are at most `now`. -/
theorem setWidth_le_sub_iff {tMs : BitVec 32} {start now : BitVec 64} (early : start.toNat ≤ now.toNat) :
    tMs.setWidth 64 ≤ now - start ↔ start.toNat + tMs.toNat ≤ now.toNat := by
  -- The subtraction does not wrap, and the widened `t_ms` keeps its value.
  rw [BitVec.le_def, BitVec.toNat_sub_of_le (BitVec.le_def.mpr early), BitVec.toNat_setWidth,
    Nat.mod_eq_of_lt (by have := tMs.isLt; omega)]
  omega

namespace Playing

variable {frames : List MotionFrame} {repeats : Bool} {pass : Nat} {sent : List (PosePacket31 × BitVec 64)}
  {clock : Nat} {p : SequencePlayback}

/-- The iterator plays the frames. -/
theorem iterator (play : Playing frames repeats pass sent clock p) :
    p.currentIterator = ⟨some frames, p.currentIterator.index⟩ := by
  -- The iterator's sequence is the frames.
  rw [← play.sequence]

/-- The base, which only the heartbeat and the packets change, is left to the rest. -/
theorem withBase (play : Playing frames repeats pass sent clock p) (base : TaskManager) :
    Playing frames repeats pass sent clock { p with base := base } :=
  -- No field of the invariant reads the base.
  ⟨play.queue, play.mode, play.sequence, play.repeating, play.onePass, play.traced, play.position, play.between,
    play.during⟩

/-- The frames of this pass sent so far are at most all of them. -/
theorem progress_le (play : Playing frames repeats pass sent clock p) :
    p.currentIterator.index + (if p.frameStartMs = 0 then 0 else 1) ≤ frames.length := by
  -- Between frames the index is at most the length; during a frame it is below it.
  by_cases fresh : p.frameStartMs = 0
  · rw [if_pos fresh]
    exact (play.between fresh).1
  · rw [if_neg fresh]
    exact (play.during fresh).1

/-- A later clock keeps a playback playing. -/
theorem later (play : Playing frames repeats pass sent clock p) {clock' : Nat} (advanced : clock ≤ clock') :
    Playing frames repeats pass sent clock' p :=
  -- Only the bounds by the clock change, and a later clock weakens them.
  { play with
    between := fun fresh =>
      ⟨(play.between fresh).1, fun last isLast => ((play.between fresh).2 last isLast).trans advanced⟩
    during := fun started =>
      ⟨(play.during started).1, (play.during started).2.1.trans advanced, (play.during started).2.2⟩ }

/-- Sending the frame at the index at a later positive reading extends the trace by that frame. -/
theorem send (play : Playing frames repeats pass sent clock p) (within : p.currentIterator.index < frames.length)
    (fresh : p.frameStartMs = 0) {now : BitVec 64} (positive : 0 < now.toNat) (later : clock ≤ now.toNat)
    {pkt : PosePacket31} {base : TaskManager}
    (pose : pkt.servoUs = convertLegacyToPose (frames.getD p.currentIterator.index .empty))
    (timed : pkt.tMs = (frames.getD p.currentIterator.index .empty).tMs) :
    Playing frames repeats pass (sent ++ [(pkt, now)]) now.toNat { p with base := base, frameStartMs := now } := by
  -- The packet is the scheduled frame, so the trace grows by it, and the frame starts now.
  have length : sent.length = pass * frames.length + p.currentIterator.index := by simpa [fresh] using play.position
  have nonzero : now ≠ 0 := fun zero => by simp [zero] at positive
  have next := scheduled_position within play.onePass
  rw [← length] at next
  refine ⟨play.queue, play.mode, play.sequence, play.repeating, play.onePass, ?_, ?_, fun zero => absurd zero nonzero,
    fun _ => ⟨within, le_rfl, pkt, by simp, timed⟩⟩
  · refine play.traced.snoc ?_ (next ▸ pose) (next ▸ timed) fun last isLast =>
      ((play.between fresh).2 last isLast).trans later
    cases repeats
    · exact .inr (by rw [length, play.onePass rfl]; simpa using within)
    · exact .inl rfl
  · simp [length, show ¬now = 0#64 from nonzero]

/-- Stepping past a frame whose `t_ms` has elapsed leaves the trace as it is. -/
theorem advance (play : Playing frames repeats pass sent clock p) (started : p.frameStartMs ≠ 0) {now : BitVec 64}
    (later : clock ≤ now.toNat)
    (due : (frames.getD p.currentIterator.index .empty).tMs.setWidth 64 ≤ now - p.frameStartMs) :
    Playing frames repeats pass sent now.toNat
      { p with currentIterator := ⟨some frames, p.currentIterator.index + 1⟩, frameStartMs := 0 } := by
  -- The index moves past a frame whose packet is already counted, so the count stays.
  obtain ⟨within, startedBefore, pkt, last, timed⟩ := play.during started
  have length : sent.length = pass * frames.length + p.currentIterator.index + 1 := by
    simpa [show ¬p.frameStartMs = 0#64 from started] using play.position
  -- The frame started no later than the clock, so `now - frameStartMs` does not wrap.
  have elapsed : p.frameStartMs.toNat + pkt.tMs.toNat ≤ now.toNat :=
    timed ▸ (setWidth_le_sub_iff (startedBefore.trans later)).mp due
  refine ⟨play.queue, play.mode, rfl, play.repeating, play.onePass, play.traced, by simpa using length,
    fun _ => ⟨within, ?_⟩, fun restarted => absurd rfl restarted⟩
  rw [last]
  simpa using elapsed

/-- At the end of a pass, a repeating playback starts the next pass. -/
theorem restart (play : Playing frames repeats pass sent clock p) (complete : frames.length ≤ p.currentIterator.index)
    (again : repeats = true) :
    Playing frames repeats (pass + 1) sent clock
      { p with currentIterator := ⟨some frames, 0⟩, frameStartMs := 0 } := by
  -- A pass ends between frames at the last index, so the count is a whole number of passes.
  have fresh : p.frameStartMs = 0 := Classical.byContradiction fun started => by
    have := (play.during started).1
    omega
  have atEnd : p.currentIterator.index = frames.length := by have := (play.between fresh).1; omega
  refine ⟨play.queue, play.mode, rfl, play.repeating, fun once => absurd again (by simp [once]), play.traced, ?_,
    fun _ => ⟨Nat.zero_le _, (play.between fresh).2⟩, fun restarted => absurd rfl restarted⟩
  have := play.position
  simp only [fresh, atEnd, if_true] at this
  simp only [this, if_true, Nat.add_mul, Nat.one_mul]

/-- At the end of its pass, a playback that does not repeat finishes. -/
theorem finish (play : Playing frames repeats pass sent clock p) (complete : frames.length ≤ p.currentIterator.index)
    (once : repeats = false) : Finished frames sent { p with mode := .idle } := by
  -- A single pass ends between frames with every frame sent.
  have fresh : p.frameStartMs = 0 := Classical.byContradiction fun started => by
    have := (play.during started).1
    omega
  have := play.position
  have atEnd := (play.between fresh).1
  simp only [fresh, if_true, play.onePass once] at this
  exact ⟨play.queue, rfl, once ▸ play.traced, by omega⟩

end Playing

/-! ## Ticks -/

namespace SequencePlayback

/-- An empty queue is left as it is. -/
theorem processMotionQueue_of_nil {p : SequencePlayback} (empty : p.commandQueue = []) : p.processMotionQueue = p := by
  -- With nothing queued, the queue is not touched.
  simp [processMotionQueue, empty]

/-- A command naming a loaded sequence starts it from its first frame in `LEGACY_PRG`. -/
theorem processMotionQueue_start {p : SequencePlayback} {cmd : MotionCommand} {rest : List MotionCommand}
    {frames : List MotionFrame} (queued : p.commandQueue = cmd :: rest)
    (found : p.motionLoader.sequences cmd.name = some frames) :
    p.processMotionQueue =
      { p with commandQueue := rest, sequenceContinuous := cmd.continuous, mode := .legacyPrg,
               currentIterator := ⟨some frames, 0⟩, currentSequenceName := cmd.name, frameStartMs := 0 } := by
  -- The command's sequence is loaded, so `startSequence` points the iterator at its first frame.
  simp [processMotionQueue, queued, MotionLoader.hasSequence, found, startSequence, MotionLoader.createIterator]

/-- The pose packets of packets sent one after the other. -/
theorem posePackets_append (first second : List TaskPacket) :
    posePackets (first ++ second) = posePackets first ++ posePackets second := by
  -- Each packet contributes its pose on its own.
  induction first with
  | nil => rfl
  | cons packet rest ih => cases packet <;> simp [posePackets, ih]

/-- The pose packets of a tick: the one `runMode` sends after the heartbeat and the queue, at the
program's reading. -/
theorem posePackets_tick (heartbeatNow programNow : BitVec 64) (p : SequencePlayback) :
    posePackets (p.tick heartbeatNow programNow).1 =
      (({ p with base := (p.base.tickHeartbeat heartbeatNow).2 }.processMotionQueue.runMode programNow).1.map
        fun pkt => (pkt, programNow)).toList := by
  -- The heartbeat packet carries no pose, and `runMode` sends at most one.
  have heartbeats : ∀ sent : Option PosePacket31, posePackets (sent.map TaskPacket.heartbeat).toList = [] := by
    intro sent; cases sent <;> rfl
  have poses : ∀ sent : Option PosePacket31,
      posePackets (sent.map fun pkt => TaskPacket.pose pkt programNow).toList =
        (sent.map fun pkt => (pkt, programNow)).toList := by
    intro sent; cases sent <;> rfl
  unfold tick
  rcases p.base.tickHeartbeat heartbeatNow with ⟨heartbeat, base⟩
  dsimp only
  rw [posePackets_append, heartbeats, poses, List.nil_append]

/-- A run is its first tick, then the run of the rest. -/
theorem run_cons (heartbeatNow programNow : BitVec 64) (ticks : List (BitVec 64 × BitVec 64)) (p : SequencePlayback) :
    p.run ((heartbeatNow, programNow) :: ticks) =
      ((p.tick heartbeatNow programNow).1 ++ ((p.tick heartbeatNow programNow).2.run ticks).1,
        ((p.tick heartbeatNow programNow).2.run ticks).2) :=
  -- This is the recursion of `run`.
  rfl

end SequencePlayback

/-- A playback leaves the base, which only the heartbeat and the packets change, to the rest. -/
theorem Good.withBase {frames : List MotionFrame} {repeats : Bool} {sent : List (PosePacket31 × BitVec 64)}
    {clock : Nat} {p : SequencePlayback} (good : Good frames repeats sent clock p) (base : TaskManager) :
    Good frames repeats sent clock { p with base := base } := by
  -- Neither invariant reads the base.
  rcases good with ⟨pass, play⟩ | ⟨once, done⟩
  · exact .inl ⟨pass, play.withBase base⟩
  · exact .inr ⟨once, done.queue, done.mode, done.traced, done.complete⟩

/-- One `runMode` at a later positive reading keeps a playback good, and the packet it sends
extends the trace. -/
theorem Good.runMode {frames : List MotionFrame} {repeats : Bool} {sent : List (PosePacket31 × BitVec 64)}
    {clock : Nat} {p : SequencePlayback} (good : Good frames repeats sent clock p) {now : BitVec 64}
    (positive : 0 < now.toNat) (later : clock ≤ now.toNat) :
    Good frames repeats (sent ++ ((p.runMode now).1.map fun pkt => (pkt, now)).toList) now.toNat
      (p.runMode now).2 := by
  -- Follow `runLegacyProgram`: inside a pass, or at its end.
  rcases good with ⟨pass, play⟩ | ⟨once, done⟩
  · have iterator := play.iterator
    simp only [SequencePlayback.runMode, play.mode]
    rcases Nat.lt_or_ge p.currentIterator.index frames.length with within | complete
    · -- Inside a pass: send the frame, step past it, or wait.
      rw [SequencePlayback.runLegacyProgram_of_lt iterator within]
      by_cases fresh : p.frameStartMs = 0
      · obtain ⟨pkt, base, played, pose, timed⟩ := SequencePlayback.playFrame_send iterator within fresh
        rw [played]
        exact .inl ⟨pass, play.send within fresh positive later pose timed⟩
      · by_cases due : (frames.getD p.currentIterator.index .empty).tMs.setWidth 64 ≤ now - p.frameStartMs
        · rw [SequencePlayback.playFrame_advance iterator within fresh due]
          exact .inl ⟨pass, by simpa using play.advance fresh later due⟩
        · rw [SequencePlayback.playFrame_wait iterator within fresh due]
          exact .inl ⟨pass, by simpa using play.later later⟩
    · -- At the end of a pass: finish, or start the next pass.
      cases repeats with
      | false =>
        rw [SequencePlayback.runLegacyProgram_finish iterator complete play.repeating]
        exact .inr ⟨rfl, by simpa using play.finish complete rfl⟩
      | true =>
        rw [SequencePlayback.runLegacyProgram_restart iterator complete play.repeating]
        have restarted := play.restart complete rfl
        rcases Nat.eq_zero_or_pos frames.length with empty | nonempty
        · rw [SequencePlayback.playFrame_complete rfl (by omega)]
          exact .inl ⟨pass + 1, by simpa using restarted.later later⟩
        · obtain ⟨pkt, base, played, pose, timed⟩ :=
            @SequencePlayback.playFrame_send { p with currentIterator := ⟨some frames, 0⟩, frameStartMs := 0 }
              frames 0
              now rfl nonempty rfl
          rw [played]
          exact .inl ⟨pass + 1, restarted.send nonempty rfl positive later pose timed⟩
  · simp only [SequencePlayback.runMode, done.mode]
    exact .inr ⟨once, by simpa using done⟩

/-- A tick at a later positive reading keeps good a playback that is good once its queue is
processed, whatever the heartbeat does, and its pose packet extends the trace. -/
theorem Good.tick {frames : List MotionFrame} {repeats : Bool} {sent : List (PosePacket31 × BitVec 64)}
    {clock : Nat} {p : SequencePlayback}
    (good : ∀ base, Good frames repeats sent clock ({ p with base := base }.processMotionQueue))
    {heartbeatNow programNow : BitVec 64} (positive : 0 < programNow.toNat) (later : clock ≤ programNow.toNat) :
    Good frames repeats (sent ++ posePackets (p.tick heartbeatNow programNow).1) programNow.toNat
      (p.tick heartbeatNow programNow).2 := by
  -- The tick's pose packets are those of its `runMode`.
  rw [SequencePlayback.posePackets_tick]
  exact (good _).runMode positive later

/-- Over ticks at positive non-decreasing readings, a good playback stays good, and the pose
packets extend its trace. -/
theorem Good.run {frames : List MotionFrame} {repeats : Bool} {sent : List (PosePacket31 × BitVec 64)}
    {clock : Nat} {p : SequencePlayback} (good : Good frames repeats sent clock p)
    (ticks : List (BitVec 64 × BitVec 64)) (positive : ∀ tick ∈ ticks, 0 < tick.2.toNat)
    (ordered : (clock :: ticks.map fun tick => tick.2.toNat).Chain' (· ≤ ·)) :
    ∃ clock', Good frames repeats (sent ++ posePackets (p.run ticks).1) clock' (p.run ticks).2 := by
  -- Induction over the ticks, each keeping the playback good.
  induction ticks generalizing p sent clock with
  | nil => exact ⟨clock, by simpa [SequencePlayback.run, posePackets] using good⟩
  | cons tick ticks ih =>
    obtain ⟨heartbeatNow, programNow⟩ := tick
    have queued : p.commandQueue = [] := by
      rcases good with ⟨_, play⟩ | ⟨_, done⟩
      exacts [play.queue, done.queue]
    have next := @Good.tick frames repeats sent clock p
      (fun base => by
        rw [SequencePlayback.processMotionQueue_of_nil (p := { p with base := base }) queued]
        exact good.withBase base)
      heartbeatNow programNow (positive _ (List.mem_cons_self _ _)) (List.chain'_cons.mp ordered).1
    obtain ⟨clock', final⟩ := ih next (fun tick mem => positive tick (List.mem_cons_of_mem _ mem))
      (List.chain'_cons.mp ordered).2
    rw [SequencePlayback.run_cons, SequencePlayback.posePackets_append, ← List.append_assoc]
    exact ⟨clock', final⟩

/-- After the tick's heartbeat, a command naming a loaded sequence starts playing it from its
first frame, with no packet sent yet. -/
theorem dequeued_playing {p : SequencePlayback} {cmd : MotionCommand} {frames : List MotionFrame}
    (queued : p.commandQueue = [cmd]) (found : p.motionLoader.sequences cmd.name = some frames) (base : TaskManager)
    (clock : Nat) :
    Playing frames (cmd.continuous && !cmd.name.isEmpty) 0 [] clock ({ p with base := base }.processMotionQueue) := by
  -- The command starts the sequence at its first frame, with nothing sent.
  rw [SequencePlayback.processMotionQueue_start
    (show ({ p with base := base } : SequencePlayback).commandQueue = [cmd] from queued) found]
  exact ⟨rfl, rfl, rfl, rfl, fun _ => rfl, PlayedTrace.nil _ _, by simp, fun _ => ⟨Nat.zero_le _, by simp⟩,
    fun started => absurd rfl started⟩

namespace Good

variable {frames : List MotionFrame} {sent : List (PosePacket31 × BitVec 64)} {clock : Nat} {p : SequencePlayback}

/-- The pose packets of a good playback are its trace. -/
theorem traced {repeats : Bool} (good : Good frames repeats sent clock p) : PlayedTrace frames repeats sent := by
  -- Both cases carry the trace.
  rcases good with ⟨_, play⟩ | ⟨rfl, done⟩
  exacts [play.traced, done.traced]

/-- A playback that does not repeat sends each frame at most once. -/
theorem length_le (good : Good frames false sent clock p) : sent.length ≤ frames.length := by
  -- A single pass counts at most every frame.
  rcases good with ⟨pass, play⟩ | ⟨-, done⟩
  · have position := play.position
    rw [play.onePass rfl] at position
    have := play.progress_le
    omega
  · exact done.complete.le

/-- A repeating playback never goes idle. -/
theorem mode_of_repeats (good : Good frames true sent clock p) : p.mode = .legacyPrg := by
  -- Only a playback that does not repeat finishes.
  rcases good with ⟨_, play⟩ | ⟨once, _⟩
  exacts [play.mode, absurd once (by decide)]

/-- A playback that does not repeat goes idle only after sending every frame. -/
theorem complete_of_idle (good : Good frames false sent clock p) (idle : p.mode = .idle) :
    sent.length = frames.length := by
  -- A playing one is in `LEGACY_PRG`, so an idle one has finished.
  rcases good with ⟨_, play⟩ | ⟨-, done⟩
  exacts [absurd (play.mode.symm.trans idle) (by decide), done.complete]

end Good

/-! ## Playback ends -/

/-- How far a pass has come: two stages per frame, sending it and stepping past it. -/
def SequencePlayback.stage (p : SequencePlayback) : Nat :=
  2 * p.currentIterator.index + if p.frameStartMs = 0 then 0 else 1

/-- A pass has at most two stages per frame. -/
theorem Playing.stage_le {frames : List MotionFrame} {repeats : Bool} {pass : Nat}
    {sent : List (PosePacket31 × BitVec 64)} {clock : Nat} {p : SequencePlayback}
    (play : Playing frames repeats pass sent clock p) : p.stage ≤ 2 * frames.length := by
  -- The stage counts the frames sent and stepped past in this pass.
  have := play.progress_le
  unfold SequencePlayback.stage
  omega

/-- The other part of `tick`: `runMode` after the heartbeat and the queue. -/
theorem SequencePlayback.tick_snd (heartbeatNow programNow : BitVec 64) (p : SequencePlayback) :
    (p.tick heartbeatNow programNow).2 =
      ({ p with base := (p.base.tickHeartbeat heartbeatNow).2 }.processMotionQueue.runMode programNow).2 := by
  -- The heartbeat only changes the base.
  unfold SequencePlayback.tick
  rcases p.base.tickHeartbeat heartbeatNow with ⟨heartbeat, base⟩
  rfl

/-- An idle task manager with an empty queue stays idle. -/
theorem SequencePlayback.run_idle {p : SequencePlayback} (empty : p.commandQueue = []) (idle : p.mode = .idle)
    (ticks : List (BitVec 64 × BitVec 64)) : (p.run ticks).2.mode = .idle := by
  -- Induction over the ticks: `runMode` does nothing while idle, and the queue stays empty.
  induction ticks generalizing p with
  | nil => exact idle
  | cons tick ticks ih =>
    obtain ⟨heartbeatNow, programNow⟩ := tick
    have queue : ({ p with base := (p.base.tickHeartbeat heartbeatNow).2 } : SequencePlayback).commandQueue = [] :=
      empty
    have stays : (p.tick heartbeatNow programNow).2 = { p with base := (p.base.tickHeartbeat heartbeatNow).2 } := by
      rw [tick_snd, processMotionQueue_of_nil queue]
      simp [runMode, idle]
    rw [run_cons, stays]
    exact ih empty idle

/-- A playback that does not repeat, at a reading at least its current frame's `t_ms` after that
frame was sent, goes one stage on or finishes. -/
theorem Playing.runMode_progress {frames : List MotionFrame} {sent : List (PosePacket31 × BitVec 64)} {clock : Nat}
    {p : SequencePlayback} (play : Playing frames false 0 sent clock p) {D : Nat}
    (short : ∀ frame ∈ frames, frame.tMs.toNat ≤ D) {now : BitVec 64} (positive : 0 < now.toNat)
    (later : clock ≤ now.toNat) (prompt : p.frameStartMs ≠ 0 → p.frameStartMs.toNat + D ≤ now.toNat) :
    ((p.runMode now).2.mode = .idle ∧ (p.runMode now).2.commandQueue = []) ∨
      ∃ sent', Playing frames false 0 sent' now.toNat (p.runMode now).2 ∧
        (p.runMode now).2.stage = p.stage + 1 ∧
        ((p.runMode now).2.frameStartMs ≠ 0 → (p.runMode now).2.frameStartMs = now) := by
  -- A frame is sent or stepped past, or the pass ends: after `D` no frame is still waiting.
  have iterator := play.iterator
  simp only [SequencePlayback.runMode, play.mode]
  rcases Nat.lt_or_ge p.currentIterator.index frames.length with within | complete
  · rw [SequencePlayback.runLegacyProgram_of_lt iterator within]
    by_cases fresh : p.frameStartMs = 0
    · -- The frame at the index goes out.
      obtain ⟨pkt, base, played, pose, timed⟩ := SequencePlayback.playFrame_send iterator within fresh
      rw [played]
      have nonzero : now ≠ 0 := fun zero => by simp [zero] at positive
      refine .inr ⟨_, play.send within fresh positive later pose timed, ?_, fun _ => rfl⟩
      simp [SequencePlayback.stage, fresh, show ¬now = 0#64 from nonzero]
    · -- The frame was sent at least `D` before, so its `t_ms` has elapsed.
      have startedBefore := (play.during fresh).2.1
      have due : (frames.getD p.currentIterator.index .empty).tMs.setWidth 64 ≤ now - p.frameStartMs :=
        (setWidth_le_sub_iff (startedBefore.trans later)).mpr
          ((Nat.add_le_add_left (short _ (by
            rw [List.getD_eq_getElem?_getD, List.getElem?_eq_getElem within, Option.getD_some]
            exact List.getElem_mem within)) _).trans (prompt fresh))
      rw [SequencePlayback.playFrame_advance iterator within fresh due]
      refine .inr ⟨_, play.advance fresh later due, ?_, fun restarted => absurd rfl restarted⟩
      simp [SequencePlayback.stage, show ¬p.frameStartMs = 0#64 from fresh]
      omega
  · rw [SequencePlayback.runLegacyProgram_finish iterator complete play.repeating]
    exact .inl ⟨rfl, play.queue⟩

/-- With ticks spaced by at least every frame's `t_ms`, a playback that does not repeat goes idle
once `runMode` at `now` and the ticks after it cover the stages left in its pass. -/
theorem Playing.idle_after {frames : List MotionFrame} {sent : List (PosePacket31 × BitVec 64)} {clock : Nat}
    {p : SequencePlayback} (play : Playing frames false 0 sent clock p) {D : Nat}
    (short : ∀ frame ∈ frames, frame.tMs.toNat ≤ D) {now : BitVec 64} (positive : 0 < now.toNat)
    (later : clock ≤ now.toNat) (prompt : p.frameStartMs ≠ 0 → p.frameStartMs.toNat + D ≤ now.toNat)
    (ticks : List (BitVec 64 × BitVec 64)) (positives : ∀ tick ∈ ticks, 0 < tick.2.toNat)
    (first : ∀ next ∈ ticks.head?, now.toNat + D ≤ next.2.toNat)
    (spaced : ticks.Chain' fun a b => a.2.toNat + D ≤ b.2.toNat)
    (enough : 2 * frames.length < ticks.length + 1 + p.stage) :
    ((p.runMode now).2.run ticks).2.mode = .idle := by
  -- Induction over the ticks: each goes one stage on, until the pass has no stage left.
  induction ticks generalizing sent clock p now with
  | nil =>
    rcases play.runMode_progress short positive later prompt with ⟨idle, -⟩ | ⟨sent', next, staged, -⟩
    · exact idle
    · -- A pass has at most two stages per frame.
      have := next.stage_le
      simp only [List.length_nil] at enough
      omega
  | cons tick ticks ih =>
    rcases play.runMode_progress short positive later prompt with ⟨idle, empty⟩ | ⟨sent', next, staged, started⟩
    · exact SequencePlayback.run_idle empty idle _
    obtain ⟨heartbeatNow, programNow⟩ := tick
    have queue : ({ (p.runMode now).2 with base := ((p.runMode now).2.base.tickHeartbeat heartbeatNow).2 } :
        SequencePlayback).commandQueue = [] := next.queue
    rw [SequencePlayback.run_cons, SequencePlayback.tick_snd, SequencePlayback.processMotionQueue_of_nil queue]
    -- One stage on; the next tick comes at least `D` after this one.
    have following : now.toNat + D ≤ programNow.toNat := first _ rfl
    refine ih (next.withBase _) (positives _ (List.mem_cons_self _ _)) (by omega)
      (fun restarted => by rw [started restarted]; exact following)
      (fun tick mem => positives tick (List.mem_cons_of_mem _ mem))
      (List.chain'_cons'.mp spaced).1 (List.chain'_cons'.mp spaced).2 ?_
    change _ < _ + (p.runMode now).2.stage
    simp only [List.length_cons] at enough
    rw [staged]
    omega

/--
The sequence playback of `TaskManager::tick` in the archived task manager. The queue holds one
command naming a loaded sequence of `frames`. The ticks read the clock in `runLegacyProgram` at
positive, non-decreasing times. The pose packets sent are then the frames' poses
`convertLegacyToPose` with their `t_ms`, in order, once per pass. Passes repeat exactly when the
command is continuous and the sequence's name is not empty. Each packet goes out at least the
previous packet's `t_ms` after it. A repeating playback stays in `LEGACY_PRG`. One that does not
repeat sends each frame at most once and is idle only once every frame is sent. With ticks spaced
by at least every frame's `t_ms`, it is idle after `2 n + 1` ticks.
-/
theorem sequence_played_once_per_pass (p : SequencePlayback) (cmd : MotionCommand) (frames : List MotionFrame)
    (ticks : List (BitVec 64 × BitVec 64)) (queued : p.commandQueue = [cmd])
    (found : p.motionLoader.sequences cmd.name = some frames) (positive : ∀ tick ∈ ticks, 0 < tick.2.toNat)
    (ordered : (ticks.map fun tick => tick.2.toNat).Chain' (· ≤ ·)) :
    PlayedTrace frames (cmd.continuous && !cmd.name.isEmpty) (posePackets (p.run ticks).1) ∧
    ((cmd.continuous && !cmd.name.isEmpty) = false → (posePackets (p.run ticks).1).length ≤ frames.length) ∧
    (ticks ≠ [] → (cmd.continuous && !cmd.name.isEmpty) = true → (p.run ticks).2.mode = .legacyPrg) ∧
    (ticks ≠ [] → (cmd.continuous && !cmd.name.isEmpty) = false → (p.run ticks).2.mode = .idle →
      (posePackets (p.run ticks).1).length = frames.length) ∧
    (∀ D, (∀ frame ∈ frames, frame.tMs.toNat ≤ D) → ticks.Chain' (fun a b => a.2.toNat + D ≤ b.2.toNat) →
      2 * frames.length < ticks.length → (cmd.continuous && !cmd.name.isEmpty) = false →
      (p.run ticks).2.mode = .idle) := by
  -- The first tick dequeues the command; from there every tick keeps the playback good.
  cases ticks with
  | nil => exact ⟨PlayedTrace.nil _ _, by simp [SequencePlayback.run, posePackets], fun none => absurd rfl none,
      fun none => absurd rfl none, fun _ _ _ impossible => absurd impossible (Nat.not_lt_zero _)⟩
  | cons first ticks =>
    obtain ⟨heartbeatNow, programNow⟩ := first
    have firstPositive := positive _ (List.mem_cons_self _ _)
    have started : ∀ base, Playing frames (cmd.continuous && !cmd.name.isEmpty) 0 [] 0
        ({ p with base := base }.processMotionQueue) := fun base => dequeued_playing queued found base 0
    -- The first tick takes the command; the rest keep the playback good.
    obtain ⟨clock, good⟩ := (@Good.tick frames _ [] 0 p (fun base => .inl ⟨0, started base⟩) heartbeatNow
      programNow firstPositive (Nat.zero_le _)).run ticks
        (fun tick mem => positive tick (List.mem_cons_of_mem _ mem)) ordered
    rw [List.nil_append] at good
    rw [SequencePlayback.run_cons, SequencePlayback.posePackets_append]
    refine ⟨good.traced, fun once => ?_, fun _ again => ?_, fun _ once => ?_, fun D short spaced enough once => ?_⟩
    · rw [once] at good
      exact good.length_le
    · rw [again] at good
      exact good.mode_of_repeats
    · rw [once] at good
      exact good.complete_of_idle
    · -- The first tick starts the pass; the rest finish it.
      have play := started (p.base.tickHeartbeat heartbeatNow).2
      rw [once] at play
      rw [SequencePlayback.tick_snd]
      refine play.idle_after short firstPositive (Nat.zero_le _)
        (fun restarted => by obtain ⟨_, last, _⟩ := (play.during restarted).2.2; simp at last) ticks
        (fun tick mem => positive tick (List.mem_cons_of_mem _ mem)) (List.chain'_cons'.mp spaced).1
        (List.chain'_cons'.mp spaced).2 ?_
      simp only [List.length_cons] at enough
      omega

/-- A task manager just started at 1 ms and idle, with `frames` loaded under `name` and a command
`cmd` queued. -/
def queuedStart (name : List Char) (frames : List MotionFrame) (cmd : MotionCommand) : SequencePlayback :=
  ⟨TaskManager.init 1, .idle, [cmd], 0, ⟨fun loaded => if loaded = name then some frames else none⟩,
    ⟨none, 0⟩, [], false⟩

/-- A one-frame sequence of 50 ms. -/
def stepFrames : List MotionFrame := [⟨fun _ => 1500, 50⟩]

/-- Ticks 100 ms apart. -/
def evenTicks : List (BitVec 64 × BitVec 64) := [(1, 1), (100, 100), (200, 200), (300, 300)]

/-- A single `walk` command, not continuous. -/
def walkOnce : MotionCommand := ⟨"walk".toList, false⟩

/-- A `walk` command over ticks 100 ms apart: the step is sent once, with its pose and `t_ms`, and
the playback goes idle. -/
theorem walk_once_goes_idle :
    (queuedStart "walk".toList stepFrames walkOnce).commandQueue = [walkOnce] ∧
    (queuedStart "walk".toList stepFrames walkOnce).motionLoader.sequences walkOnce.name = some stepFrames ∧
    (∀ tick ∈ evenTicks, 0 < tick.2.toNat) ∧ (evenTicks.map fun tick => tick.2.toNat).Chain' (· ≤ ·) ∧
    PlayedTrace stepFrames (walkOnce.continuous && !walkOnce.name.isEmpty)
      (posePackets ((queuedStart "walk".toList stepFrames walkOnce).run evenTicks).1) ∧
    ((walkOnce.continuous && !walkOnce.name.isEmpty) = false →
      (posePackets ((queuedStart "walk".toList stepFrames walkOnce).run evenTicks).1).length ≤ stepFrames.length) ∧
    (evenTicks ≠ [] → (walkOnce.continuous && !walkOnce.name.isEmpty) = true →
      ((queuedStart "walk".toList stepFrames walkOnce).run evenTicks).2.mode = .legacyPrg) ∧
    (evenTicks ≠ [] → (walkOnce.continuous && !walkOnce.name.isEmpty) = false →
      ((queuedStart "walk".toList stepFrames walkOnce).run evenTicks).2.mode = .idle →
      (posePackets ((queuedStart "walk".toList stepFrames walkOnce).run evenTicks).1).length = stepFrames.length) ∧
    (∀ D, (∀ frame ∈ stepFrames, frame.tMs.toNat ≤ D) →
      evenTicks.Chain' (fun a b => a.2.toNat + D ≤ b.2.toNat) →
      2 * stepFrames.length < evenTicks.length → (walkOnce.continuous && !walkOnce.name.isEmpty) = false →
      ((queuedStart "walk".toList stepFrames walkOnce).run evenTicks).2.mode = .idle) :=
  -- The ticks are positive and ordered; the theorem gives the rest.
  have ordered : (evenTicks.map fun tick => tick.2.toNat).Chain' (· ≤ ·) := by
    simp only [evenTicks, List.map_cons, List.map_nil, List.chain'_cons, List.chain'_singleton, and_true]
    decide
  ⟨rfl, rfl, by decide, ordered,
    sequence_played_once_per_pass (queuedStart "walk".toList stepFrames walkOnce) walkOnce stepFrames evenTicks rfl rfl
      (by decide) ordered⟩

/-- A continuous command for a sequence loaded under the empty name plays it once and goes idle:
`runLegacyProgram` restarts only a named sequence. -/
theorem unnamed_continuous_plays_once :
    (posePackets ((queuedStart [] stepFrames ⟨[], true⟩).run evenTicks).1).length = 1 ∧
      ((queuedStart [] stepFrames ⟨[], true⟩).run evenTicks).2.mode = .idle := by
  -- Each tick is evaluated.
  decide

end Milkspider
