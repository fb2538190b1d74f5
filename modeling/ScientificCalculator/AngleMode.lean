/-
**The unit of angles.**

* `AngleMode`: degrees or radians.
* `AngleMode.toRadians`, `AngleMode.ofRadians`: conversion of an angle from and to the mode's unit.
-/

namespace ScientificCalculator

/-- The unit in which the trigonometric functions take and give angles. -/
inductive AngleMode
  | degrees
  | radians
  deriving DecidableEq, Inhabited

namespace AngleMode

/-- The other unit. -/
def toggle : AngleMode → AngleMode
  | degrees => radians
  | radians => degrees

/-- The indicator shown for the mode. -/
def label : AngleMode → String
  | degrees => "DEG"
  | radians => "RAD"

/-- The double nearest to the ratio of a circle to its diameter. -/
def pi : Float := Float.ofBits 0x400921FB54442D18

/-- An angle of the mode, in radians. -/
def toRadians (mode : AngleMode) (angle : Float) : Float :=
  match mode with
  | degrees => angle * pi / 180
  | radians => angle

/-- An angle in radians, in the unit of the mode. -/
def ofRadians (mode : AngleMode) (angle : Float) : Float :=
  match mode with
  | degrees => angle * 180 / pi
  | radians => angle

end AngleMode

end ScientificCalculator
