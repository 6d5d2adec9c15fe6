import Milkspider.Brain.Daemon

/-! The deployed pair: the daemon of `src/main.cpp` and the runtime of `app_main_v1.c`, joined by
the shared ring and the mailbox. -/

namespace Milkspider

/-- Both sides and the doorbells on their way, oldest first. -/
structure Link where
  brain : BrainDaemon
  muscle : MuscleV1
  doorbells : List Cmdqu

/-- What can happen next, on either side. -/
inductive LinkEvent
  /-- `BrainDaemon::tickHeartbeat` at a time of the Linux clock. -/
  | heartbeatTick (nowMs : BitVec 64)
  /-- An ESTOP request: `handleCommand` on `estop`, or `onSerialEstop`. -/
  | estopRequest
  /-- A resume request: `stop`, `resume` or `clear_estop`, or `onSerialResume`. -/
  | resumeRequest
  /-- A command that builds and sends a packet. -/
  | pose (request : BrainDaemon.PoseRequest)
  /-- `mailbox_cmd_handler` runs on the oldest doorbell, at a real-time tick. -/
  | deliver (now : BitVec 32)
  /-- An iteration of the real-time motion task. -/
  | motionTask (now : BitVec 32)
  /-- An iteration of the real-time watchdog task. -/
  | watchdogTask (now : BitVec 32)

/-- Whether an event writes a packet into the ring. -/
def LinkEvent.writesPacket : LinkEvent → Bool
  | .pose _ => true
  | _ => false

namespace Link

/-- Both sides started: the daemon's run loop at `startMs`, the runtime at tick `boot`, over the
ring as the daemon mapped it. -/
def init (startMs : BitVec 64) (boot : BitVec 32) : Link :=
  ⟨BrainDaemon.init startMs, MuscleV1.init boot zeroedRing, []⟩

/-- The pair after one event. -/
def step (l : Link) : LinkEvent → Link
  | .heartbeatTick nowMs =>
    let (brain, sent) := l.brain.tickHeartbeat nowMs
    { l with brain := brain, doorbells := l.doorbells ++ sent }
  | .estopRequest =>
    let (brain, sent) := l.brain.handleEstop
    { l with brain := brain, doorbells := l.doorbells ++ sent }
  | .resumeRequest => { l with brain := l.brain.handleResume }
  | .pose request =>
    let (brain, buf, sent) := l.brain.handlePose request l.muscle.buf
    { l with brain := brain, muscle := { l.muscle with buf := buf }, doorbells := l.doorbells ++ sent }
  | .deliver now =>
    match l.doorbells with
    | [] => l
    | bell :: later =>
      { l with muscle := l.muscle.mailboxCmdHandler now (bell.cmdId.setWidth 8), doorbells := later }
  | .motionTask now => { l with muscle := l.muscle.motionTaskIteration now }
  | .watchdogTask now => { l with muscle := l.muscle.watchdogTask now }

/-- The pair after a sequence of events. -/
def run (l : Link) (events : List LinkEvent) : Link := events.foldl step l

/-- A run over two lists of events is the run over the first, then the second. -/
theorem run_append (l : Link) (first second : List LinkEvent) :
    l.run (first ++ second) = (l.run first).run second :=
  -- A run is a left fold.
  List.foldl_append _ _ _ _

/-- A property every event but a packet write keeps holds after every run without packet
writes. -/
theorem run_invariant {property : Link → Prop}
    (keeps : ∀ l event, event.writesPacket = false → property l → property (l.step event))
    {l : Link} (initial : property l) {events : List LinkEvent}
    (noPackets : ∀ event ∈ events, event.writesPacket = false) : property (l.run events) := by
  -- Induction on the events, each keeping the property.
  induction events generalizing l with
  | nil => exact initial
  | cons event events ih =>
    exact ih (keeps l event (noPackets event (by simp)) initial)
      fun later member => noPackets later (by simp [member])

/-- The pair while the daemon writes no packet: ESTOP is not latched, the watchdog has not been
fed since `boot`, the ring is empty, and every doorbell on its way is the daemon's heartbeat or
ESTOP. -/
structure Quiet (boot : BitVec 32) (l : Link) : Prop where
  notLatched : l.muscle.estopActive = false
  unfed : l.muscle.watchdog.lastFeedTick = boot
  empty : l.muscle.buf.writeIdx = l.muscle.buf.readIdx
  doorbells : ∀ bell ∈ l.doorbells,
    bell.cmdId = Mailbox.cmdHeartbeat.setWidth 7 ∨ bell.cmdId = Mailbox.cmdEstop.setWidth 7

/-- The pair at boot is quiet. -/
theorem Quiet.init (startMs : BitVec 64) (boot : BitVec 32) : Quiet boot (Link.init startMs boot) :=
  -- Nothing has happened yet: no latch, no feed, no packet, no doorbell.
  ⟨rfl, rfl, rfl, by simp [Link.init]⟩

/-- The daemon's own ids are none of the runtime's: its doorbells are only logged. -/
theorem mailboxCmdHandler_daemon_bell {bell : Cmdqu}
    (ids : bell.cmdId = Mailbox.cmdHeartbeat.setWidth 7 ∨ bell.cmdId = Mailbox.cmdEstop.setWidth 7)
    (now : BitVec 32) (m : MuscleV1) : m.mailboxCmdHandler now (bell.cmdId.setWidth 8) = m := by
  -- Both daemon ids fall outside the handler's table.
  apply MuscleV1.mailboxCmdHandler_unknown <;> rcases ids with ids | ids <;> rw [ids] <;> decide

/-- Every event but a packet write keeps the pair quiet. -/
theorem Quiet.next {boot : BitVec 32} {l : Link} (quiet : Quiet boot l) :
    ∀ event, event.writesPacket = false → Quiet boot (l.step event)
  -- One case per event: only doorbells change, and they are the daemon's own.
  | .heartbeatTick nowMs, _ => by
    refine { quiet with doorbells := ?_ }
    simp only [step, BrainDaemon.tickHeartbeat]
    split
    · intro bell member
      rcases List.mem_append.mp member with old | sent
      · exact quiet.doorbells bell old
      · exact .inl (Mailbox.sendCommand_ids bell sent)
    · simpa using quiet.doorbells
  | .estopRequest, _ => by
    refine { quiet with doorbells := ?_ }
    intro bell member
    rcases List.mem_append.mp member with old | sent
    · exact quiet.doorbells bell old
    · exact .inr (Mailbox.sendCommand_ids bell sent)
  | .resumeRequest, _ => ⟨quiet.notLatched, quiet.unfed, quiet.empty, quiet.doorbells⟩
  | .deliver now, _ => by
    simp only [step]
    split
    · exact quiet
    · rename_i bell later ringing
      rw [mailboxCmdHandler_daemon_bell (quiet.doorbells bell (by simp [ringing]))]
      exact ⟨quiet.notLatched, quiet.unfed, quiet.empty,
        fun other member => quiet.doorbells other (by simp [ringing, member])⟩
  | .motionTask now, _ => by
    have drained : l.muscle.motionTaskIteration now = l.muscle := by
      simp [MuscleV1.motionTaskIteration, MuscleV1.processSharedBufferPackets_empty now quiet.empty]
    simpa [step, drained] using quiet
  | .watchdogTask now, _ =>
    ⟨quiet.notLatched, by simp [step, MuscleV1.watchdogTask, quiet.unfed], quiet.empty, quiet.doorbells⟩

/-- Every run without packet writes stays quiet. -/
theorem quiet_of_run (startMs : BitVec 64) (boot : BitVec 32) {events : List LinkEvent}
    (noPackets : ∀ event ∈ events, event.writesPacket = false) :
    Quiet boot ((Link.init startMs boot).run events) :=
  -- The initial pair is quiet and every event keeps it so.
  run_invariant (fun _ event none quiet => quiet.next event none) (Quiet.init startMs boot) noPackets

end Link

/-- An ESTOP request of the daemon never latches ESTOP on the real-time side by itself: in every
run in which the daemon writes no packet, whatever ESTOP requests it handles and whichever of its
doorbells are delivered, `g_estop_active` stays `0`. The daemon rings `0x23`, which
`mailbox_cmd_handler` only logs; its ESTOP id is `0x30`. -/
theorem gp_estop_doorbell_ignored (startMs : BitVec 64) (boot : BitVec 32) (events : List LinkEvent)
    (noPackets : ∀ event ∈ events, event.writesPacket = false) :
    ((Link.init startMs boot).run events).muscle.estopActive = false :=
  -- The latch is one field of the quiet invariant.
  (Link.quiet_of_run startMs boot noPackets).notLatched

/-- The daemon handles an ESTOP request and its doorbell is delivered; the daemon has latched
`g_estop`, no doorbell is left, and the real-time side has not latched ESTOP. -/
theorem gp_estop_request_delivered :
    (∀ event ∈ [LinkEvent.estopRequest, .deliver 1], event.writesPacket = false) ∧
    ((Link.init 0 0).run [.estopRequest, .deliver 1]).brain.estop = true ∧
    ((Link.init 0 0).run [.estopRequest, .deliver 1]).doorbells = [] ∧
    ((Link.init 0 0).run [.estopRequest, .deliver 1]).muscle.estopActive = false :=
  -- The run is concrete; the latch follows from the general statement.
  ⟨by decide, rfl, rfl, gp_estop_doorbell_ignored 0 0 _ (by decide)⟩

/-- The daemon's heartbeats never feed the real-time watchdog: in every run in which the daemon
writes no packet, however often it ticks and whichever doorbells are delivered, the last feed
stays at the boot tick, and an iteration of the watchdog task more than 250 ticks after boot
leaves the watchdog out of `NORMAL`. The daemon rings `0x22`, which `mailbox_cmd_handler` only
logs; its heartbeat id is `0x10`. -/
theorem gp_heartbeats_never_feed (startMs : BitVec 64) (boot : BitVec 32) (events : List LinkEvent)
    (noPackets : ∀ event ∈ events, event.writesPacket = false) :
    ((Link.init startMs boot).run events).muscle.watchdog.lastFeedTick = boot ∧
    ∀ now, heartbeatTimeoutMs < now - boot →
      ((Link.init startMs boot).run (events ++ [.watchdogTask now])).muscle.watchdog.state ≠ .normal := by
  -- Quiet keeps the boot tick as the last feed, so the watchdog task finds it late.
  have quiet := Link.quiet_of_run startMs boot noPackets
  refine ⟨quiet.unfed, fun now late => ?_⟩
  rw [Link.run_append]
  exact (watchdogTaskIteration_late (by rw [quiet.unfed]; exact late)).1

/-- Heartbeats every 100 ms, each delivered at once, and no packet: the watchdog task at tick
300 finds the watchdog unfed since boot, moves it to `HOLD` and runs `on_watchdog_timeout`,
which drives all sixteen channels neutral. -/
theorem gp_heartbeats_time_out :
    let beats := [LinkEvent.heartbeatTick 100, .deliver 100, .heartbeatTick 200, .deliver 200,
      .heartbeatTick 300, .deliver 300]
    (∀ event ∈ beats, event.writesPacket = false) ∧
    ((Link.init 0 0).run beats).brain.mailbox.txCount = 3 ∧
    ((Link.init 0 0).run (beats ++ [.watchdogTask 300])).muscle.watchdog.state = .hold ∧
    ((Link.init 0 0).run (beats ++ [.watchdogTask 300])).muscle.pwm.length = 32 ∧
    ((Link.init 0 0).run (beats ++ [.watchdogTask 300])).muscle.watchdog.state ≠ .normal :=
  -- A concrete run; the state follows from the general statement at tick 300.
  ⟨by decide, rfl, rfl, rfl, (gp_heartbeats_never_feed 0 0 _ (by decide)).2 300 (by decide)⟩

end Milkspider
