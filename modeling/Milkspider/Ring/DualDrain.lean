import Milkspider.Ring.SingleConsumer

/-! The deployed real-time side drains the ring from two tasks and resets `read_idx` at boot. -/

namespace Milkspider

variable {α : Type}

/--
The ring as `app_main_v1.c` drives it: the mailbox handler and the motion task each run
`process_shared_buffer_packets` with their own locals, over one shared buffer.

`validated` lists, in order, the packets either drain passed to `validate_packet`.
-/
structure DualDrain (α : Type) where
  buf : SharedMotionBuffer α
  producer : ProducerPc α
  handler : ConsumerPc
  task : ConsumerPc
  estopActive : Bool
  validated : List α

/-- One shared access of any party of the deployed system. -/
inductive DualAction (α : Type)
  /-- The Linux producer's next access, offering `next` when idle. -/
  | producer (next : α)
  /-- The drain run by `mailbox_cmd_handler` on `CMD_MOTION_PACKET`. -/
  | handler
  /-- The drain run by every iteration of `motion_task_entry`. -/
  | task
  /-- `main_cvirtos` storing `read_idx = 0` at (re)initialisation. -/
  | reset

/-- The deployed system after one access. -/
def DualDrain.step (s : DualDrain α) : DualAction α → DualDrain α
  | .producer next =>
    let moved := producerStep .writePacket next s.producer s.buf
    { s with producer := moved.1, buf := moved.2 }
  | .handler =>
    let moved := consumerStep .processSharedBufferPackets s.estopActive s.handler s.buf
    { s with handler := moved.1, buf := moved.2.1, validated := recordRead s.validated moved.2.2 }
  | .task =>
    let moved := consumerStep .processSharedBufferPackets s.estopActive s.task s.buf
    { s with task := moved.1, buf := moved.2.1, validated := recordRead s.validated moved.2.2 }
  | .reset => { s with buf := { s.buf with readIdx := 0#32 } }

/-- The deployed system after a sequence of accesses. -/
def DualDrain.run (s : DualDrain α) (actions : List (DualAction α)) : DualDrain α :=
  actions.foldl DualDrain.step s

/-- Both drains idle over a zeroed ring. -/
def DualDrain.init (packets : Fin 8 → α) : DualDrain α :=
  ⟨⟨0#32, 0#32, 0#32, packets⟩, .idle, .idle, .idle, false, []⟩

/-- One complete push of `writePacket`: load, check, slot store, index store. -/
def pushActions (next : α) : List (DualAction α) := List.replicate 4 (.producer next)

/-- The producer pushes packets `1` and `2`; the motion task reads slot 0 and is preempted. -/
def preemptedTask : List (DualAction Nat) :=
  pushActions 1 ++ pushActions 2 ++ [.task, .task, .task]

/-- The mailbox handler then drains both slots and returns. -/
def handlerDrainsAll : List (DualAction Nat) :=
  List.replicate 7 .handler

/-- The motion task resumes: it stores its stale `read_idx + 1` and reads slot 1 again. -/
def taskResumes : List (DualAction Nat) :=
  [.task, .task]

/-- Both drains idle over a ring of zero packets. -/
def raceStart : DualDrain Nat := DualDrain.init fun _ => 0

/--
Two drains over one ring: after the handler has consumed both packets, the preempted motion
task moves `read_idx` back from 2 to 1, and every packet reaches `validate_packet` twice.
-/
theorem dual_drain_duplicates_and_rewinds :
    (raceStart.run (preemptedTask ++ handlerDrainsAll)).buf.readIdx = 2#32 ∧
    (raceStart.run (preemptedTask ++ handlerDrainsAll ++ taskResumes)).buf.readIdx = 1#32 ∧
    (raceStart.run (preemptedTask ++ handlerDrainsAll ++ taskResumes)).validated = [1, 1, 2, 2] := by
  -- The resumed task stores its stale `read_idx + 1` over the handler's 2; each step is evaluated.
  decide

/-- A reboot of the real-time side while the producer is ten pushes ahead. -/
def rebootAfterTen : List (DualAction Nat) :=
  (List.range 10).flatMap (fun n => pushActions n ++ List.replicate 4 .handler) ++ [.reset]

/-- After the reset the counters are ten apart, more than the ring holds. -/
example : ((raceStart.run rebootAfterTen).buf.writeIdx - (raceStart.run rebootAfterTen).buf.readIdx).toNat = 10 := by
  decide

end Milkspider
