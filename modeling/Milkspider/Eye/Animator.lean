import Milkspider.Motion.Interpolator
import Milkspider.Eye.EventLink

/-! The eye animator of the eye service (`eye_animator.cpp`) and the part of the renderer it drives
(`eye_renderer.cpp`), with its blink read as a machine of its own (`BlinkView`). -/

namespace Milkspider

/-! ## The renderer's state -/

/-- `std::clamp(v, lo, hi)`. -/
def clampQ (v lo hi : ℚ) : ℚ := if v < lo then lo else if hi < v then hi else v

/-- What `EyeRenderer` holds between frames: each eye's position and lid, the mood and the iris
colour. -/
structure EyeRenderer where
  posXLeft : ℚ
  posYLeft : ℚ
  posXRight : ℚ
  posYRight : ℚ
  blinkLeft : ℚ
  blinkRight : ℚ
  mood : Mood
  irisColor : BitVec 16

/-- `EyeRenderer::setBlink`: one eye's lid, clamped to `[0, 1]`; 0 is open, 1 closed. -/
def EyeRenderer.setBlink (eye : Eye) (amount : ℚ) (r : EyeRenderer) : EyeRenderer :=
  match eye with
  | .left => { r with blinkLeft := clampQ amount 0 1 }
  | .right => { r with blinkRight := clampQ amount 0 1 }

/-- `EyeRenderer::setEyePosition(x, y)`: both eyes, each coordinate clamped to `[-1, 1]`. -/
def EyeRenderer.setEyePosition (x y : ℚ) (r : EyeRenderer) : EyeRenderer :=
  { r with
    posXLeft := clampQ x (-1) 1
    posYLeft := clampQ y (-1) 1
    posXRight := clampQ x (-1) 1
    posYRight := clampQ y (-1) 1 }

/-- One eye's lid. -/
def EyeRenderer.lid (r : EyeRenderer) : Eye → ℚ
  | .left => r.blinkLeft
  | .right => r.blinkRight

/-! ## The animator -/

/-- `BLINK_CLOSE_TICKS`. -/
def blinkCloseTicks : Nat := 3
/-- `BLINK_HOLD_TICKS`. -/
def blinkHoldTicks : Nat := 2
/-- `BLINK_OPEN_TICKS`. -/
def blinkOpenTicks : Nat := 3
/-- `IDLE_BLINK_MIN`. -/
def idleBlinkMin : Nat := 90
/-- `IDLE_BLINK_MAX`. -/
def idleBlinkMax : Nat := 180
/-- `IDLE_LOOK_MIN`. -/
def idleLookMin : Nat := 60
/-- `IDLE_LOOK_MAX`. -/
def idleLookMax : Nat := 150
/-- `RAND_MAX` of the C library. -/
def randMax : Nat := 2147483647

/-- `EyeAnimator::BlinkState`. -/
inductive BlinkState
  /-- `OPEN`. -/
  | opened
  /-- `CLOSING`. -/
  | closing
  /-- `CLOSED`. -/
  | closed
  /-- `OPENING`. -/
  | opening
  deriving DecidableEq, Repr

/-- `EyeAnimator` with the renderer it drives. -/
structure EyeAnimator where
  renderer : EyeRenderer
  blinkState : BlinkState
  blinkTimer : BitVec 32
  winkEye : Eye
  isWink : Bool
  idleEnabled : Bool
  idleTimer : BitVec 32
  nextBlinkTime : BitVec 32
  nextLookTime : BitVec 32
  targetX : ℚ
  targetY : ℚ
  currentX : ℚ
  currentY : ℚ
  tickCount : BitVec 32
  /-- Not a member: how many values the C library's `rand()` has returned, which only the
  animator draws. -/
  draws : Nat

section Animator

variable (F : FloatRounding) (rand : Nat → Nat)

/-- The constructor: idle on, eyes open, the first idle blink and look drawn from `rand()`. The
wink eye is left uninitialised in the source; it is read only after a `wink` sets it. -/
def EyeAnimator.init (renderer : EyeRenderer) : EyeAnimator where
  renderer := renderer
  blinkState := .opened
  blinkTimer := 0
  winkEye := .left
  isWink := false
  idleEnabled := true
  idleTimer := 0
  nextBlinkTime := BitVec.ofNat 32 (idleBlinkMin + rand 0 % (idleBlinkMax - idleBlinkMin))
  nextLookTime := BitVec.ofNat 32 (idleLookMin + rand 1 % (idleLookMax - idleLookMin))
  targetX := 0
  targetY := 0
  currentX := 0
  currentY := 0
  tickCount := 0
  draws := 2

/-- `EyeAnimator::blink`. -/
def EyeAnimator.blink (a : EyeAnimator) : EyeAnimator := { a with blinkState := .closing, blinkTimer := 0, isWink := false }

/-- `EyeAnimator::wink`. -/
def EyeAnimator.wink (eye : Eye) (a : EyeAnimator) : EyeAnimator :=
  { a with blinkState := .closing, blinkTimer := 0, isWink := true, winkEye := eye }

/-- `EyeAnimator::lookAt`. -/
def EyeAnimator.lookAt (x y : ℚ) (a : EyeAnimator) : EyeAnimator := { a with targetX := x, targetY := y }

/-- `EyeAnimator::setMood`. -/
def EyeAnimator.setMood (mood : Mood) (a : EyeAnimator) : EyeAnimator := { a with renderer.mood := mood }

/-- `EyeAnimator::setIdleEnabled`. -/
def EyeAnimator.setIdleEnabled (enabled : Bool) (a : EyeAnimator) : EyeAnimator := { a with idleEnabled := enabled }

/-- The lids a blink moves: `setBlink` on the winking eye, or on both. -/
def EyeAnimator.setLids (amount : ℚ) (a : EyeAnimator) : EyeAnimator :=
  { a with renderer := if a.isWink then a.renderer.setBlink a.winkEye amount
      else (a.renderer.setBlink .left amount).setBlink .right amount }

/-- `EyeAnimator::updateBlink`, each `float` operation rounded by `F`. -/
def EyeAnimator.updateBlink (a : EyeAnimator) : EyeAnimator :=
  match a.blinkState with
  | .opened => a
  | .closing =>
    let a := { a with blinkTimer := a.blinkTimer + 1 }
    let openness := F.round (1 - F.round (F.round a.blinkTimer.toNat / blinkCloseTicks))
    let a := a.setLids (F.round (1 - openness))
    if blinkCloseTicks ≤ a.blinkTimer.toNat then { a with blinkState := .closed, blinkTimer := 0 } else a
  | .closed =>
    let a := { a with blinkTimer := a.blinkTimer + 1 }
    if blinkHoldTicks ≤ a.blinkTimer.toNat then { a with blinkState := .opening, blinkTimer := 0 } else a
  | .opening =>
    let a := { a with blinkTimer := a.blinkTimer + 1 }
    let openness := F.round (F.round a.blinkTimer.toNat / blinkOpenTicks)
    let a := a.setLids (F.round (1 - openness))
    if blinkOpenTicks ≤ a.blinkTimer.toNat then ({ a with blinkState := .opened }).setLids 0 else a

/-- `((float)rand() / RAND_MAX) * 2.0f - 1.0f`: a draw as a `float` in `[-1, 1]`. -/
def unitDraw (value : Nat) : ℚ := F.round (F.round (F.round (F.round value / F.round randMax) * 2) - 1)

/-- `EyeAnimator::updateIdle`: a blink once its time has come and the eyes are open, and a new
look target once its time has come, each followed by the next time drawn from `rand()`. -/
def EyeAnimator.updateIdle (a : EyeAnimator) : EyeAnimator :=
  let a : EyeAnimator := { a with idleTimer := a.idleTimer + 1 }
  let a : EyeAnimator :=
    if a.nextBlinkTime ≤ a.idleTimer ∧ a.blinkState = .opened then
      { a.blink with
        nextBlinkTime := a.idleTimer + BitVec.ofNat 32 (idleBlinkMin + rand a.draws % (idleBlinkMax - idleBlinkMin)),
        draws := a.draws + 1 }
    else a
  if a.nextLookTime ≤ a.idleTimer then
    { a with
      targetX := F.round (unitDraw F (rand a.draws) * (1 / 2)),
      targetY := F.round (unitDraw F (rand (a.draws + 1)) * F.round (3 / 10)),
      nextLookTime := a.idleTimer + BitVec.ofNat 32 (idleLookMin + rand (a.draws + 2) % (idleLookMax - idleLookMin)),
      draws := a.draws + 3 }
  else a

/-- `EyeAnimator::tick`: the blink, the idle animation when enabled, and a tenth of the way to the
look target. `render()` only draws the state. -/
def EyeAnimator.tick (a : EyeAnimator) : EyeAnimator :=
  let a := { a with tickCount := a.tickCount + 1 }
  let a := a.updateBlink F
  let a := if a.idleEnabled then a.updateIdle F rand else a
  let lerpSpeed := F.round (1 / 10)
  let a := { a with
    currentX := F.round (a.currentX + F.round (F.round (a.targetX - a.currentX) * lerpSpeed)),
    currentY := F.round (a.currentY + F.round (F.round (a.targetY - a.currentY) * lerpSpeed)) }
  { a with renderer := a.renderer.setEyePosition a.currentX a.currentY }

/-- `n` ticks. -/
def EyeAnimator.ticks : Nat → EyeAnimator → EyeAnimator
  | 0, a => a
  | n + 1, a => EyeAnimator.ticks n (a.tick F rand)

end Animator

/-! ## The blink as a machine of its own -/

/-- What a blink is about: its state and timer, whether it is a wink and of which eye, and the two
lids. -/
structure BlinkView where
  state : BlinkState
  timer : BitVec 32
  isWink : Bool
  winkEye : Eye
  left : ℚ
  right : ℚ

/-- The blink part of an animator. -/
def EyeAnimator.blinkView (a : EyeAnimator) : BlinkView :=
  ⟨a.blinkState, a.blinkTimer, a.isWink, a.winkEye, a.renderer.blinkLeft, a.renderer.blinkRight⟩

/-- `setLids` on the blink part. -/
def BlinkView.setLids (amount : ℚ) (v : BlinkView) : BlinkView :=
  if v.isWink then
    match v.winkEye with
    | .left => { v with left := clampQ amount 0 1 }
    | .right => { v with right := clampQ amount 0 1 }
  else { v with left := clampQ amount 0 1, right := clampQ amount 0 1 }

/-- `updateBlink` on the blink part. -/
def BlinkView.update (F : FloatRounding) (v : BlinkView) : BlinkView :=
  match v.state with
  | .opened => v
  | .closing =>
    let v := { v with timer := v.timer + 1 }
    let v := v.setLids (F.round (1 - F.round (1 - F.round (F.round v.timer.toNat / blinkCloseTicks))))
    if blinkCloseTicks ≤ v.timer.toNat then { v with state := .closed, timer := 0 } else v
  | .closed =>
    let v := { v with timer := v.timer + 1 }
    if blinkHoldTicks ≤ v.timer.toNat then { v with state := .opening, timer := 0 } else v
  | .opening =>
    let v := { v with timer := v.timer + 1 }
    let v := v.setLids (F.round (1 - F.round (F.round v.timer.toNat / blinkOpenTicks)))
    if blinkOpenTicks ≤ v.timer.toNat then ({ v with state := .opened }).setLids 0 else v

/-- `setLids` keeps the blink's state. -/
@[simp] theorem EyeAnimator.setLids_blinkState (amount : ℚ) (a : EyeAnimator) :
    (a.setLids amount).blinkState = a.blinkState :=
  -- `setLids` writes only the lids.
  rfl

/-- `setLids` keeps the blink's timer. -/
@[simp] theorem EyeAnimator.setLids_blinkTimer (amount : ℚ) (a : EyeAnimator) :
    (a.setLids amount).blinkTimer = a.blinkTimer :=
  -- `setLids` writes only the lids.
  rfl

/-- `setLids` keeps the state of the blink part. -/
@[simp] theorem BlinkView.setLids_state (amount : ℚ) (v : BlinkView) : (v.setLids amount).state = v.state := by
  -- `setLids` writes only the lids.
  unfold BlinkView.setLids; split <;> (try split) <;> rfl

/-- `setLids` keeps the timer of the blink part. -/
@[simp] theorem BlinkView.setLids_timer (amount : ℚ) (v : BlinkView) : (v.setLids amount).timer = v.timer := by
  -- `setLids` writes only the lids.
  unfold BlinkView.setLids; split <;> (try split) <;> rfl

/-- Setting the animator's lids sets those of its blink part. -/
theorem blinkView_setLids (amount : ℚ) (a : EyeAnimator) : (a.setLids amount).blinkView = a.blinkView.setLids amount := by
  -- Both sides test the same wink fields and write the same lids.
  unfold EyeAnimator.setLids BlinkView.setLids EyeAnimator.blinkView
  cases a.isWink <;> cases a.winkEye <;> rfl

/-- The blink part's state is the animator's. -/
@[simp] theorem EyeAnimator.blinkView_state (a : EyeAnimator) : a.blinkView.state = a.blinkState :=
  -- The blink part copies the field.
  rfl

/-- The blink part's timer is the animator's. -/
@[simp] theorem EyeAnimator.blinkView_timer (a : EyeAnimator) : a.blinkView.timer = a.blinkTimer :=
  -- The blink part copies the field.
  rfl

/-- The blink part's wink flag is the animator's. -/
@[simp] theorem EyeAnimator.blinkView_isWink (a : EyeAnimator) : a.blinkView.isWink = a.isWink :=
  -- The blink part copies the field.
  rfl

/-- The blink part's winking eye is the animator's. -/
@[simp] theorem EyeAnimator.blinkView_winkEye (a : EyeAnimator) : a.blinkView.winkEye = a.winkEye :=
  -- The blink part copies the field.
  rfl

/-- Writing the animator's blink timer writes the blink part's. -/
theorem blinkView_withTimer (t : BitVec 32) (a : EyeAnimator) :
    ({ a with blinkTimer := t } : EyeAnimator).blinkView = { a.blinkView with timer := t } :=
  -- The blink part copies the fields.
  rfl

/-- Writing the animator's blink state and timer writes the blink part's. -/
theorem blinkView_withStateTimer (s : BlinkState) (t : BitVec 32) (a : EyeAnimator) :
    ({ a with blinkState := s, blinkTimer := t } : EyeAnimator).blinkView = { a.blinkView with state := s, timer := t } :=
  -- The blink part copies the fields.
  rfl

/-- Writing the animator's blink state writes the blink part's. -/
theorem blinkView_withState (s : BlinkState) (a : EyeAnimator) :
    ({ a with blinkState := s } : EyeAnimator).blinkView = { a.blinkView with state := s } :=
  -- The blink part copies the fields.
  rfl

/-- `updateBlink` moves the blink part as `BlinkView.update` does. -/
theorem blinkView_updateBlink (F : FloatRounding) (a : EyeAnimator) :
    (a.updateBlink F).blinkView = a.blinkView.update F := by
  -- State by state, both sides make the same writes.
  unfold EyeAnimator.updateBlink BlinkView.update
  cases state : a.blinkState <;>
    simp only [state, apply_ite EyeAnimator.blinkView, blinkView_withStateTimer, blinkView_withState, blinkView_setLids,
      blinkView_withTimer, EyeAnimator.setLids_blinkTimer, BlinkView.setLids_timer, show a.blinkView.state = a.blinkState from rfl,
      show a.blinkView.timer = a.blinkTimer from rfl]

/-- One eye's lid in the blink part. -/
def BlinkView.lid (v : BlinkView) : Eye → ℚ
  | .left => v.left
  | .right => v.right

/-- How `updateBlink` moves a blink's state and timer, whatever the lids. -/
def BlinkState.next : BlinkState × BitVec 32 → BlinkState × BitVec 32
  | (.opened, t) => (.opened, t)
  | (.closing, t) => if blinkCloseTicks ≤ (t + 1).toNat then (.closed, 0) else (.closing, t + 1)
  | (.closed, t) => if blinkHoldTicks ≤ (t + 1).toNat then (.opening, 0) else (.closed, t + 1)
  | (.opening, t) => if blinkOpenTicks ≤ (t + 1).toNat then (.opened, t + 1) else (.opening, t + 1)

section Update

variable (F : FloatRounding) (v : BlinkView)

/-- `setLids` keeps the wink flag. -/
@[simp] theorem BlinkView.setLids_isWink (amount : ℚ) : (v.setLids amount).isWink = v.isWink := by
  -- `setLids` writes only the lids.
  unfold BlinkView.setLids; split <;> (try split) <;> rfl

/-- `setLids` keeps the winking eye. -/
@[simp] theorem BlinkView.setLids_winkEye (amount : ℚ) : (v.setLids amount).winkEye = v.winkEye := by
  -- `setLids` writes only the lids.
  unfold BlinkView.setLids; split <;> (try split) <;> rfl

/-- A blink's state and timer move the same way whatever its lids. -/
theorem BlinkView.phase_update : ((v.update F).state, (v.update F).timer) = BlinkState.next (v.state, v.timer) := by
  -- State by state, `setLids` leaves the state and timer to the transition.
  unfold BlinkView.update BlinkState.next
  cases state : v.state <;> simp only [state, BlinkView.setLids_state, BlinkView.setLids_timer] <;> split_ifs <;>
    simp only [BlinkView.setLids_state, BlinkView.setLids_timer]

/-- An update keeps the wink flag. -/
@[simp] theorem BlinkView.update_isWink : (v.update F).isWink = v.isWink := by
  -- No branch of the update writes the wink.
  unfold BlinkView.update
  split <;> dsimp only <;> split_ifs <;> simp

/-- An update keeps the winking eye. -/
@[simp] theorem BlinkView.update_winkEye : (v.update F).winkEye = v.winkEye := by
  -- No branch of the update writes the wink.
  unfold BlinkView.update
  split <;> dsimp only <;> split_ifs <;> simp

/-- `setLids` sets the lids a blink moves to the clamped amount, and keeps the other. -/
theorem BlinkView.lid_setLids (amount : ℚ) (eye : Eye) :
    (v.setLids amount).lid eye = if v.isWink ∧ eye ≠ v.winkEye then v.lid eye else clampQ amount 0 1 := by
  -- Case by case on the wink and the eye.
  obtain ⟨state, timer, isWink, winkEye, left, right⟩ := v
  cases isWink <;> cases winkEye <;> cases eye <;> rfl

/-- A record built from another's wink and lids has its lids. -/
@[simp] theorem BlinkView.lid_mk (state : BlinkState) (timer : BitVec 32) (w : BlinkView) (eye : Eye) :
    (BlinkView.mk state timer w.isWink w.winkEye w.left w.right).lid eye = w.lid eye := by
  -- Case by case on the eye.
  cases eye <;> rfl

/-- During a wink the other eye's lid does not move. -/
theorem BlinkView.lid_update_of_wink (wink : v.isWink = true) {eye : Eye} (other : eye ≠ v.winkEye) :
    (v.update F).lid eye = v.lid eye := by
  -- Every branch writes the lids through `setLids`, which skips the other eye during a wink.
  unfold BlinkView.update
  split <;> dsimp only <;> split_ifs <;> simp only [BlinkView.lid_mk, BlinkView.lid_setLids] <;>
    simp only [BlinkView.lid_mk, BlinkView.lid_setLids, BlinkView.setLids_isWink, BlinkView.setLids_winkEye, wink, ne_eq,
      other, not_false_eq_true, and_self, if_true]

/-- The last opening step opens the lids a blink moves, and only those. -/
theorem BlinkView.lid_update_of_opened (opening : v.state = .opening) (ends : blinkOpenTicks ≤ (v.timer + 1).toNat)
    (eye : Eye) : (v.update F).lid eye = if v.isWink ∧ eye ≠ v.winkEye then v.lid eye else 0 := by
  -- The timer reaches `BLINK_OPEN_TICKS`, so the final `setLids 0` opens the lids.
  unfold BlinkView.update
  rw [opening]
  dsimp only
  rw [if_pos (by simpa using ends)]
  simp only [BlinkView.lid_mk, BlinkView.lid_setLids]
  simp only [BlinkView.setLids_isWink, BlinkView.setLids_winkEye]
  split_ifs <;> simp [clampQ]

/-- The last closing step, on the third tick, closes the lids a blink moves, whatever the
rounding: the lid amount works out to exactly 1. -/
theorem BlinkView.lid_update_of_closed (closing : v.state = .closing) (third : (v.timer + 1).toNat = 3) (eye : Eye) :
    (v.update F).lid eye = if v.isWink ∧ eye ≠ v.winkEye then v.lid eye else 1 := by
  -- Small integers round exactly, so the amount is `1 - (1 - 3 / 3) = 1`.
  have one : F.round 1 = 1 := by simpa using F.round_nat (show 1 ≤ 2 ^ 24 by decide)
  have zero : F.round 0 = 0 := by simpa using F.round_nat (show 0 ≤ 2 ^ 24 by decide)
  have three : F.round 3 = 3 := by simpa using F.round_nat (show 3 ≤ 2 ^ 24 by decide)
  unfold BlinkView.update
  rw [closing]
  dsimp only
  simp only [BlinkView.setLids_timer, third]
  rw [if_pos (by decide)]
  simp only [BlinkView.lid_mk, BlinkView.lid_setLids, third, blinkCloseTicks, Nat.cast_ofNat, three]
  norm_num [one, zero, clampQ]

end Update

section Ticks

variable (F : FloatRounding) (rand : Nat → Nat) (a : EyeAnimator)

/-- The idle animation moves no lid. -/
theorem EyeAnimator.updateIdle_renderer : (a.updateIdle F rand).renderer = a.renderer := by
  -- No branch of the idle animation writes the renderer.
  unfold EyeAnimator.updateIdle
  dsimp only
  split_ifs <;> rfl

/-- The idle animation leaves itself enabled. -/
theorem EyeAnimator.updateIdle_idleEnabled : (a.updateIdle F rand).idleEnabled = a.idleEnabled := by
  -- No branch of the idle animation writes the flag.
  unfold EyeAnimator.updateIdle
  dsimp only
  split_ifs <;> rfl

/-- While a blink runs, the idle animation leaves it alone. -/
theorem blinkView_updateIdle_of_ne {a : EyeAnimator} (running : a.blinkState ≠ .opened) :
    (a.updateIdle F rand).blinkView = a.blinkView := by
  -- The idle animation starts a blink only from `BLINK_OPEN`.
  unfold EyeAnimator.updateIdle
  dsimp only
  simp only [running, and_false, if_false]
  split_ifs <;> rfl

/-- `updateBlink` leaves the idle animation as it was. -/
theorem EyeAnimator.updateBlink_idleEnabled : (a.updateBlink F).idleEnabled = a.idleEnabled := by
  -- `updateBlink` writes only the blink fields and the lids.
  unfold EyeAnimator.updateBlink EyeAnimator.setLids
  split <;> dsimp only <;> (try split_ifs) <;> rfl

/-- A tick's blink is `updateBlink`'s, then the idle animation's when it is on. -/
theorem blinkView_tick : (a.tick F rand).blinkView =
    (if ({ a with tickCount := a.tickCount + 1 }.updateBlink F).idleEnabled then
      ({ a with tickCount := a.tickCount + 1 }.updateBlink F).updateIdle F rand
    else { a with tickCount := a.tickCount + 1 }.updateBlink F).blinkView :=
  -- The look target does not reach the blink part.
  rfl

/-- A tick moves the lids as `updateBlink` does. -/
theorem lid_tick (eye : Eye) : (a.tick F rand).blinkView.lid eye = (a.blinkView.update F).lid eye := by
  -- The idle animation and the look target move no lid.
  have updated := blinkView_updateBlink F { a with tickCount := a.tickCount + 1 }
  unfold EyeAnimator.tick
  dsimp only
  split_ifs <;> cases eye <;>
    simp only [BlinkView.lid, EyeAnimator.blinkView, EyeRenderer.setEyePosition, EyeAnimator.updateIdle_renderer] <;>
    first | exact congrArg BlinkView.left updated | exact congrArg BlinkView.right updated

/-- While a blink keeps running, a tick moves it as `updateBlink` does. -/
theorem blinkView_tick_of_running (running : (a.blinkView.update F).state ≠ .opened) :
    (a.tick F rand).blinkView = a.blinkView.update F := by
  -- While the blink runs, the idle animation does not start another.
  have updated := blinkView_updateBlink F { a with tickCount := a.tickCount + 1 }
  rw [blinkView_tick]
  split_ifs
  · rw [blinkView_updateIdle_of_ne F rand fun h => running ((congrArg BlinkView.state updated).symm.trans h)]
    exact updated
  · exact updated

/-- Without the idle animation, a tick moves a blink as `updateBlink` does, and the idle animation
stays off. -/
theorem blinkView_tick_of_idle_off (off : a.idleEnabled = false) :
    (a.tick F rand).blinkView = a.blinkView.update F ∧ (a.tick F rand).idleEnabled = false := by
  -- With the flag off the idle animation is skipped, and `updateBlink` keeps the flag.
  have updated := blinkView_updateBlink F { a with tickCount := a.tickCount + 1 }
  have stays : ({ a with tickCount := a.tickCount + 1 }.updateBlink F).idleEnabled = false := by
    rw [EyeAnimator.updateBlink_idleEnabled]; exact off
  refine ⟨by rw [blinkView_tick, if_neg (by rw [stays]; decide)]; exact updated, ?_⟩
  unfold EyeAnimator.tick
  dsimp only
  rw [if_neg (by rw [stays]; decide)]
  exact stays

end Ticks

/-! ## Runs of ticks -/

section Runs

variable (F : FloatRounding) (rand : Nat → Nat)

/-- The last of `n + 1` ticks. -/
theorem EyeAnimator.ticks_succ' (n : Nat) (a : EyeAnimator) : a.ticks F rand (n + 1) = (a.ticks F rand n).tick F rand := by
  -- Induction: the first tick, then the last of the rest.
  induction n generalizing a with
  | zero => rfl
  | succ n ih => exact ih (a.tick F rand)

/-- Over any number of updates, a blink's state and timer move as `BlinkState.next` says. -/
theorem BlinkView.phase_iterate (n : Nat) (v : BlinkView) :
    (((BlinkView.update F)^[n] v).state, ((BlinkView.update F)^[n] v).timer) = BlinkState.next^[n] (v.state, v.timer) := by
  -- Induction, one `phase_update` per update.
  induction n generalizing v with
  | zero => rfl
  | succ n ih => rw [Function.iterate_succ_apply, Function.iterate_succ_apply, ← BlinkView.phase_update F v, ih]

/-- Updates keep the wink flag. -/
@[simp] theorem BlinkView.isWink_iterate (n : Nat) (v : BlinkView) : ((BlinkView.update F)^[n] v).isWink = v.isWink := by
  -- Induction, one `update_isWink` per update.
  induction n generalizing v with
  | zero => rfl
  | succ n ih => rw [Function.iterate_succ_apply, ih, BlinkView.update_isWink]

/-- Updates keep the winking eye. -/
@[simp] theorem BlinkView.winkEye_iterate (n : Nat) (v : BlinkView) :
    ((BlinkView.update F)^[n] v).winkEye = v.winkEye := by
  -- Induction, one `update_winkEye` per update.
  induction n generalizing v with
  | zero => rfl
  | succ n ih => rw [Function.iterate_succ_apply, ih, BlinkView.update_winkEye]

/-- Over any number of updates of a wink, the other eye's lid does not move. -/
theorem BlinkView.lid_iterate_of_wink {v : BlinkView} (wink : v.isWink = true) {eye : Eye} (other : eye ≠ v.winkEye)
    (n : Nat) : ((BlinkView.update F)^[n] v).lid eye = v.lid eye := by
  -- Induction, one `lid_update_of_wink` per update.
  induction n generalizing v with
  | zero => rfl
  | succ n ih =>
    rw [Function.iterate_succ_apply, ih (by rw [BlinkView.update_isWink]; exact wink)
      (by rw [BlinkView.update_winkEye]; exact other), BlinkView.lid_update_of_wink F v wink other]

/-- While a blink keeps running, ticks move it as `updateBlink` does. -/
theorem blinkView_ticks_of_running {n : Nat} {a : EyeAnimator}
    (running : ∀ k < n, (BlinkState.next^[k + 1] (a.blinkState, a.blinkTimer)).1 ≠ .opened) :
    (a.ticks F rand n).blinkView = (BlinkView.update F)^[n] a.blinkView := by
  -- Induction over the ticks: the first moves the blink as an update, and the rest still run.
  induction n generalizing a with
  | zero => rfl
  | succ n ih =>
    have first : (a.blinkView.update F).state ≠ .opened := by
      have := running 0 (Nat.succ_pos n)
      change (BlinkState.next^[1] (a.blinkView.state, a.blinkView.timer)).1 ≠ _ at this
      rwa [Function.iterate_one, ← BlinkView.phase_update F a.blinkView] at this
    have ticked := blinkView_tick_of_running F rand a first
    rw [EyeAnimator.ticks, ih fun k within => ?_, ticked, ← Function.iterate_succ_apply]
    change (BlinkState.next^[k + 1] ((a.tick F rand).blinkView.state, (a.tick F rand).blinkView.timer)).1 ≠ _
    rw [ticked, BlinkView.phase_update, ← Function.iterate_succ_apply]
    exact running (k + 1) (by omega)

/-- Without the idle animation, ticks move a blink as `updateBlink` does. -/
theorem blinkView_ticks_of_idle_off (n : Nat) {a : EyeAnimator} (off : a.idleEnabled = false) :
    (a.ticks F rand n).blinkView = (BlinkView.update F)^[n] a.blinkView := by
  -- Induction over the ticks, each keeping the flag off.
  induction n generalizing a with
  | zero => rfl
  | succ n ih =>
    obtain ⟨ticked, stays⟩ := blinkView_tick_of_idle_off F rand a off
    rw [EyeAnimator.ticks, ih stays, ticked, ← Function.iterate_succ_apply]

/-- An open blink stays as it is. -/
theorem BlinkView.iterate_of_opened {v : BlinkView} (opened : v.state = .opened) (n : Nat) :
    (BlinkView.update F)^[n] v = v := by
  -- An open blink's update is the identity.
  induction n with
  | zero => rfl
  | succ n ih => rw [Function.iterate_succ_apply, show v.update F = v by rw [BlinkView.update, opened], ih]

/-- Ticks leave the idle animation off. -/
theorem EyeAnimator.ticks_idleEnabled_of_off (n : Nat) {a : EyeAnimator} (off : a.idleEnabled = false) :
    (a.ticks F rand n).idleEnabled = false := by
  -- Induction over the ticks, each keeping the flag off.
  induction n generalizing a with
  | zero => exact off
  | succ n ih => exact ih (blinkView_tick_of_idle_off F rand a off).2

/-- The renderer's lids are the blink part's. -/
theorem EyeAnimator.renderer_lid (a : EyeAnimator) (eye : Eye) : a.renderer.lid eye = a.blinkView.lid eye := by
  -- Case by case on the eye.
  cases eye <;> rfl

end Runs

/-! ## What a blink and a wink leave -/

section Lids

variable (F : FloatRounding) (rand : Nat → Nat)

/-- A blink or a wink runs seven ticks before its last: three closing, two closed, two opening. -/
theorem blink_phases : (∀ k < 7, (BlinkState.next^[k + 1] (.closing, 0)).1 ≠ .opened) ∧
    BlinkState.next^[2] (.closing, 0) = (.closing, 2) ∧ BlinkState.next^[7] (.closing, 0) = (.opening, 2) ∧
    BlinkState.next^[8] (.closing, 0) = (.opened, 3) := by
  -- The phases are evaluated.
  decide

variable {a : EyeAnimator} (closing : a.blinkState = .closing) (zero : a.blinkTimer = 0)
include closing zero

/-- A blink or a wink that has just started. -/
theorem phase_of_start : (a.blinkView.state, a.blinkView.timer) = (.closing, 0) := by
  -- The fields are those of a start.
  rw [EyeAnimator.blinkView_state, EyeAnimator.blinkView_timer, closing, zero]

/-- Three ticks after a blink or a wink starts, the lids it moves are exactly closed, whatever the
rounding and the idle animation. -/
theorem lid_ticks_three_of_start (eye : Eye) :
    (a.ticks F rand 3).renderer.lid eye = if a.isWink ∧ eye ≠ a.winkEye then a.renderer.lid eye else 1 := by
  -- Two ticks of closing, then the third closes the lids exactly.
  have two := blinkView_ticks_of_running F rand (n := 2) (a := a)
    (by rw [closing, zero]; exact fun k within => blink_phases.1 k (by omega))
  have phase := BlinkView.phase_iterate F 2 a.blinkView
  rw [phase_of_start closing zero, blink_phases.2.1] at phase
  obtain ⟨closing', timer⟩ := Prod.mk.inj phase
  rw [EyeAnimator.ticks_succ', EyeAnimator.renderer_lid, lid_tick, two,
    BlinkView.lid_update_of_closed F _ closing' (by rw [timer]; decide), BlinkView.isWink_iterate,
    BlinkView.winkEye_iterate, EyeAnimator.blinkView_isWink, EyeAnimator.blinkView_winkEye]
  split_ifs with wink
  · exact (BlinkView.lid_iterate_of_wink F wink.1 wink.2 2).trans (a.renderer_lid eye).symm
  · rfl

/-- Eight ticks after a blink or a wink starts, it has ended: the lids it moves are open and the
others are as they were, whatever the rounding, the idle animation and `rand()`. -/
theorem lid_ticks_eight_of_start (eye : Eye) :
    (a.ticks F rand 8).renderer.lid eye = if a.isWink ∧ eye ≠ a.winkEye then a.renderer.lid eye else 0 := by
  -- Seven ticks of the blink run, then the eighth opens the lids.
  have seven := blinkView_ticks_of_running F rand (n := 7) (a := a)
    (by rw [closing, zero]; exact blink_phases.1)
  have phase := BlinkView.phase_iterate F 7 a.blinkView
  rw [phase_of_start closing zero, blink_phases.2.2.1] at phase
  obtain ⟨opening, two⟩ := Prod.mk.inj phase
  rw [EyeAnimator.ticks_succ', EyeAnimator.renderer_lid, lid_tick, seven,
    BlinkView.lid_update_of_opened F _ opening (by rw [two]; decide), BlinkView.isWink_iterate,
    BlinkView.winkEye_iterate, EyeAnimator.blinkView_isWink, EyeAnimator.blinkView_winkEye]
  split_ifs with wink
  · exact (BlinkView.lid_iterate_of_wink F wink.1 wink.2 7).trans (a.renderer_lid eye).symm
  · rfl

/-- Without the idle animation nothing moves the lids once a blink or a wink has ended. -/
theorem lid_ticks_of_ended (off : a.idleEnabled = false) (n : Nat) (eye : Eye) :
    (a.ticks F rand (n + 8)).renderer.lid eye = (a.ticks F rand 8).renderer.lid eye := by
  -- After the eighth tick the blink is open, and without the idle animation it stays so.
  have phase := BlinkView.phase_iterate F 8 a.blinkView
  rw [phase_of_start closing zero, blink_phases.2.2.2] at phase
  rw [EyeAnimator.renderer_lid, EyeAnimator.renderer_lid, blinkView_ticks_of_idle_off F rand _ off,
    blinkView_ticks_of_idle_off F rand _ off, Function.iterate_add_apply,
    BlinkView.iterate_of_opened F (Prod.mk.inj phase).1]

omit closing zero

/-- Eight ticks after `blink()`, from any state, both eyes are open, whatever the rounding, the
idle animation and `rand()`. -/
theorem blink_reopens_both_eyes (a : EyeAnimator) (eye : Eye) : ((a.blink).ticks F rand 8).renderer.lid eye = 0 := by
  -- A blink moves both lids, and eight ticks after it they are open.
  simpa [EyeAnimator.blink] using lid_ticks_eight_of_start F rand (a := a.blink) rfl rfl eye

/-- With the idle animation off, from the eighth tick after `wink(e)` on, eye `e` is open and the
other eye keeps the lid it had when the wink started. -/
theorem wink_settles_while_idle_off (a : EyeAnimator) (off : a.idleEnabled = false) (e eye : Eye) (n : Nat) :
    ((a.wink e).ticks F rand (n + 8)).renderer.lid eye = if eye = e then 0 else a.renderer.lid eye := by
  -- The wink ends on the eighth tick, and nothing moves the lids after it.
  rw [lid_ticks_of_ended F rand (a := a.wink e) rfl rfl off, lid_ticks_eight_of_start F rand (a := a.wink e) rfl rfl]
  by_cases same : eye = e <;> simp [EyeAnimator.wink, same]

/-- A wink of the right eye with the idle animation off, the left eye left as it was. -/
theorem right_wink_settles :
    ((EyeAnimator.init (fun _ => 0) ⟨0, 0, 0, 0, 0, 0, .normal, 0⟩).setIdleEnabled false).idleEnabled = false ∧
      ((((EyeAnimator.init (fun _ => 0) ⟨0, 0, 0, 0, 0, 0, .normal, 0⟩).setIdleEnabled false).wink .right).ticks
        FloatRounding.unrounded (fun _ => 0) (100 + 8)).renderer.lid .left = 0 :=
  -- The animator starts with the idle animation off; the theorem gives the lid.
  ⟨rfl, (wink_settles_while_idle_off FloatRounding.unrounded (fun _ => 0) _ rfl .right .left 100).trans rfl⟩

/-- A wink that starts while a blink has both eyes closed reopens only its own eye: with the idle
animation off, the other eye stays closed from then on. -/
theorem wink_during_blink_leaves_eye_closed (a : EyeAnimator) (off : a.idleEnabled = false) (e eye : Eye) (n : Nat) :
    ((((a.blink).ticks F rand 3).wink e).ticks F rand (n + 8)).renderer.lid eye = if eye = e then 0 else 1 := by
  -- The wink starts while the blink holds the lids closed, and opens only its own eye.
  have stays : (((a.blink).ticks F rand 3).wink e).idleEnabled = false :=
    EyeAnimator.ticks_idleEnabled_of_off F rand 3 off
  rw [lid_ticks_of_ended F rand rfl rfl stays, lid_ticks_eight_of_start F rand rfl rfl]
  by_cases same : eye = e
  · simp [EyeAnimator.wink, same]
  · have closed := lid_ticks_three_of_start F rand (a := a.blink) rfl rfl eye
    rw [if_neg (by simp [EyeAnimator.blink])] at closed
    simp [EyeAnimator.wink, same, closed]

/-- A blink, then a wink of the right eye on its third tick with the idle animation off: the left
eye is still closed a hundred ticks after the wink ended. -/
theorem left_eye_stays_closed :
    ((EyeAnimator.init (fun _ => 0) ⟨0, 0, 0, 0, 0, 0, .normal, 0⟩).setIdleEnabled false).idleEnabled = false ∧
      (((((EyeAnimator.init (fun _ => 0) ⟨0, 0, 0, 0, 0, 0, .normal, 0⟩).setIdleEnabled false).blink.ticks
        FloatRounding.unrounded (fun _ => 0) 3).wink .right).ticks FloatRounding.unrounded (fun _ => 0)
          (100 + 8)).renderer.lid .left = 1 :=
  -- The theorem at the right eye, a hundred ticks on.
  ⟨rfl, (wink_during_blink_leaves_eye_closed FloatRounding.unrounded (fun _ => 0) _ rfl .right .left 100).trans
    (if_neg (by decide))⟩

end Lids

end Milkspider
