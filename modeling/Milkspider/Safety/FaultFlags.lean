import Milkspider.Common.Limits

/-! The sticky fault word shared by the real-time tasks, and the failsafe that drives the safe pose. -/

namespace Milkspider

/-- `FAULT_PACKET_MAGIC`: a packet with the wrong magic was dropped. -/
def faultPacketMagic : BitVec 32 := 1#32 <<< 3

/-- `FAULT_PACKET_VERSION`: a packet with the wrong version was dropped. -/
def faultPacketVersion : BitVec 32 := 1#32 <<< 4

/-- `FAULT_PACKET_CRC`: a packet whose CRC does not match was dropped. -/
def faultPacketCrc : BitVec 32 := 1#32 <<< 5

/-- `FAULT_HEARTBEAT_TIMEOUT`: the watchdog saw no feed within the timeout. -/
def faultHeartbeatTimeout : BitVec 32 := 1#32 <<< 6

/-- `FAULT_ESTOP_ACTIVE`: an emergency stop is latched. -/
def faultEstopActive : BitVec 32 := 1#32 <<< 9

/-- Set one fault bit (`fault_flags_set`). -/
def faultFlagsSet (faults flag : BitVec 32) : BitVec 32 := faults ||| flag

/-- Clear one fault bit (`fault_flags_clear`). -/
def faultFlagsClear (faults flag : BitVec 32) : BitVec 32 := faults &&& ~~~flag

/-- Whether a fault bit is set (`fault_flags_is_set`). -/
def faultFlagsIsSet (faults flag : BitVec 32) : Bool := faults &&& flag != 0#32

/-- Any nonzero flag reads back as set once it is set. -/
theorem faultFlagsIsSet_set_self {flag : BitVec 32} (nonzero : flag ≠ 0#32) (faults : BitVec 32) :
    faultFlagsIsSet (faultFlagsSet faults flag) flag = true := by
  -- Masking the or-ed word with the flag gives the flag back.
  have masked : (faults ||| flag) &&& flag = flag := by
    ext i
    simp only [BitVec.getLsbD_and, BitVec.getLsbD_or]
    cases faults.getLsbD i <;> cases flag.getLsbD i <;> rfl
  simpa [faultFlagsIsSet, faultFlagsSet, masked] using nonzero

/-- A cleared flag reads back as clear. -/
theorem faultFlagsIsSet_clear_self (faults flag : BitVec 32) :
    faultFlagsIsSet (faultFlagsClear faults flag) flag = false := by
  -- No bit survives both the mask and its complement.
  have masked : faults &&& ~~~flag &&& flag = 0#32 := by
    ext i
    simp only [BitVec.getLsbD_and, BitVec.getLsbD_not, BitVec.getLsbD_zero]
    cases flag.getLsbD i <;> simp
  simp [faultFlagsIsSet, faultFlagsClear, masked]

/-- A set bit reads back as set. -/
@[simp] theorem faultFlagsIsSet_set (faults : BitVec 32) :
    faultFlagsIsSet (faultFlagsSet faults faultEstopActive) faultEstopActive = true :=
  -- The ESTOP mask is not zero.
  faultFlagsIsSet_set_self (by decide) faults

/-- Clearing the heartbeat bit leaves the ESTOP bit as it was. -/
@[simp] theorem faultFlagsIsSet_clear_heartbeat (faults : BitVec 32) :
    faultFlagsIsSet (faultFlagsClear faults faultHeartbeatTimeout) faultEstopActive =
      faultFlagsIsSet faults faultEstopActive := by
  -- The two masks share no bit, so the ESTOP bit survives the clear.
  have disjoint : ~~~faultHeartbeatTimeout &&& faultEstopActive = faultEstopActive := by decide
  simp only [faultFlagsIsSet, faultFlagsClear, BitVec.and_assoc, disjoint]

/-- Setting any bit keeps the ESTOP bit set. -/
theorem faultFlagsIsSet_of_set {faults : BitVec 32} (flag : BitVec 32)
    (latched : faultFlagsIsSet faults faultEstopActive = true) :
    faultFlagsIsSet (faultFlagsSet faults flag) faultEstopActive = true := by
  -- Or-ing in more bits can only keep a masked bit nonzero.
  simp only [faultFlagsIsSet, faultFlagsSet, bne_iff_ne, ne_eq] at latched ⊢
  intro zero
  apply latched
  ext i
  have bit := congrArg (fun word => BitVec.getLsbD word i) zero
  revert bit
  simp only [BitVec.getLsbD_and, BitVec.getLsbD_or, BitVec.getLsbD_zero]
  cases faults.getLsbD i <;> cases flag.getLsbD i <;> simp

/-- The failsafe latch (`s_estop_active` of `failsafe.c`). -/
structure Failsafe where
  estopActive : Bool
  deriving DecidableEq, Repr

/-- All channels to neutral (`failsafe_set_safe_pose`). -/
def failsafeSetSafePose : List PwmWrite := pca9685SetAllUs servoPwmNeutralUs

/-- Latch ESTOP, raise its fault, and drive the safe pose (`failsafe_enter_estop`). -/
def failsafeEnterEstop (faults : BitVec 32) : Failsafe × BitVec 32 × List PwmWrite :=
  (⟨true⟩, faultFlagsSet faults faultEstopActive, failsafeSetSafePose)

/-- Every write of the safe pose commands the neutral pulse width. -/
theorem failsafeSetSafePose_neutral :
    ∀ write ∈ failsafeSetSafePose, write.pulseUs = servoPwmNeutralUs := by
  -- The driver's clamp leaves the in-range neutral value unchanged.
  simp [failsafeSetSafePose, pca9685SetAllUs, pca9685SetPwmUs,
    clampServoUs_of_inRange servoPwmNeutralUs_inRange]

end Milkspider
