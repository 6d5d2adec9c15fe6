import Mathlib.Data.Fintype.Basic

/-! Servo pulse limits, the mandatory clamp, and the PWM writes of the PCA9685 driver. -/

namespace Milkspider

/-- Lowest pulse width the muscle ever drives (`SERVO_PWM_MIN_US`). -/
def servoPwmMinUs : BitVec 16 := 500#16

/-- Highest pulse width the muscle ever drives (`SERVO_PWM_MAX_US`). -/
def servoPwmMaxUs : BitVec 16 := 2500#16

/-- The safe pose of every channel (`SERVO_PWM_NEUTRAL_US`). -/
def servoPwmNeutralUs : BitVec 16 := 1500#16

/-- Heartbeat budget of the watchdog, in ticks of one millisecond (`HEARTBEAT_TIMEOUT_MS`). -/
def heartbeatTimeoutMs : BitVec 32 := 250#32

/-- Saturate a pulse width into the servo range (`clamp_servo_us`). -/
def clampServoUs (value : BitVec 16) : BitVec 16 :=
  if value < servoPwmMinUs then servoPwmMinUs
  else if value > servoPwmMaxUs then servoPwmMaxUs
  else value

/-- A pulse width inside `[SERVO_PWM_MIN_US, SERVO_PWM_MAX_US]`. -/
def InPwmRange (value : BitVec 16) : Prop :=
  500 ≤ value.toNat ∧ value.toNat ≤ 2500

instance (value : BitVec 16) : Decidable (InPwmRange value) :=
  inferInstanceAs (Decidable (_ ∧ _))

/-- The clamp always lands in the servo range. -/
theorem clampServoUs_inRange (value : BitVec 16) : InPwmRange (clampServoUs value) := by
  -- Each branch either returns a bound or a value that passed both comparisons.
  unfold clampServoUs InPwmRange servoPwmMinUs servoPwmMaxUs
  split
  · decide
  · split
    · decide
    · rename_i low high
      simp only [BitVec.lt_def, BitVec.toNat_ofNat] at low high
      omega

/-- A pulse width already in range passes the clamp unchanged. -/
theorem clampServoUs_of_inRange {value : BitVec 16} (inside : InPwmRange value) :
    clampServoUs value = value := by
  -- Neither comparison of the clamp fires on a value inside the range.
  obtain ⟨low, high⟩ := inside
  have notBelow : ¬ value < servoPwmMinUs := by
    simp only [servoPwmMinUs, BitVec.lt_def, BitVec.toNat_ofNat]; omega
  have notAbove : ¬ value > servoPwmMaxUs := by
    simp only [servoPwmMaxUs, GT.gt, BitVec.lt_def, BitVec.toNat_ofNat]; omega
  simp only [clampServoUs, notBelow, notAbove, if_false]

/-- Clamping twice is clamping once. -/
theorem clampServoUs_idem (value : BitVec 16) :
    clampServoUs (clampServoUs value) = clampServoUs value :=
  -- A clamped value is in range, where the clamp is the identity.
  clampServoUs_of_inRange (clampServoUs_inRange value)

/-- The neutral pulse width is in range. -/
theorem servoPwmNeutralUs_inRange : InPwmRange servoPwmNeutralUs := by
  -- 1500 lies between 500 and 2500.
  decide

/-- One pulse width per servo channel (`uint16_t servo_us[SERVO_COUNT_TOTAL]`). -/
abbrev Pose := Fin 13 → BitVec 16

/-- Every channel of a pose is in the servo range. -/
def Pose.InRange (pose : Pose) : Prop := ∀ channel, InPwmRange (pose channel)

/-- All thirteen channels at the safe pose. -/
def neutralPose : Pose := fun _ => servoPwmNeutralUs

/-- The clamp applied to every channel. -/
def clampPose (pose : Pose) : Pose := fun channel => clampServoUs (pose channel)

/-- The neutral pose is in range. -/
theorem neutralPose_inRange : neutralPose.InRange :=
  -- Every channel is the neutral width.
  fun _ => servoPwmNeutralUs_inRange

/-- A clamped pose is in range. -/
theorem clampPose_inRange (pose : Pose) : (clampPose pose).InRange :=
  -- The clamp applies channel by channel.
  fun channel => clampServoUs_inRange (pose channel)

/-- One register write of the PWM controller, as the pulse width it commands. -/
structure PwmWrite where
  channel : Fin 16
  pulseUs : BitVec 16
  deriving DecidableEq, Repr

/-- Command one channel; the driver clamps before converting to ticks (`pca9685_set_pwm_us`). -/
def pca9685SetPwmUs (channel : Fin 16) (pulseUs : BitVec 16) : PwmWrite :=
  ⟨channel, clampServoUs pulseUs⟩

/-- Command all sixteen channels to one pulse width (`pca9685_set_all_us`). -/
def pca9685SetAllUs (pulseUs : BitVec 16) : List PwmWrite :=
  (List.finRange 16).map fun channel => pca9685SetPwmUs channel pulseUs

/-- The first thirteen controller channels carry the pose. -/
def servoChannel (channel : Fin 13) : Fin 16 := Fin.castLE (by decide) channel

/-- Write every channel of a pose, in channel order. -/
def writePose (pose : Pose) : List PwmWrite :=
  (List.finRange 13).map fun channel => pca9685SetPwmUs (servoChannel channel) (pose channel)

/-- Every write of the driver is in the servo range. -/
theorem pca9685SetPwmUs_inRange (channel : Fin 16) (pulseUs : BitVec 16) :
    InPwmRange (pca9685SetPwmUs channel pulseUs).pulseUs :=
  -- The driver clamps before it writes.
  clampServoUs_inRange pulseUs

/-- Writing an in-range pose commands exactly its values. -/
theorem writePose_of_inRange {pose : Pose} (inside : pose.InRange) :
    writePose pose = (List.finRange 13).map fun channel => ⟨servoChannel channel, pose channel⟩ := by
  -- The driver's own clamp is the identity on in-range values.
  simp only [writePose, pca9685SetPwmUs, clampServoUs_of_inRange (inside _)]

end Milkspider
