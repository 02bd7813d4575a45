/-!
# Scalars

The formulas of the vehicle, of the accelerometer window and of the velocity increment are written
once, over any type with the operations of `Scalar`.  They run on `Float` and `Float32`, and they
can be read over exact numbers as well.

The rest of the module converts between floats and words.  All conversions go through the sign,
mantissa and exponent of a float, so each of them has a meaning that does not depend on the
machine: `narrow` and `widen` change the format, `truncate16`, `truncate32` and `truncate32Wide`
drop the fraction, `roundEven32` rounds a half to the even neighbour, and `roundAway` rounds it
away from zero.
-/

namespace Autopilot

/-- The arithmetic that the physical formulas need. -/
class Scalar (R : Type) extends Add R, Sub R, Mul R, Div R, LT R, LE R where
  decidableLT : DecidableLT R
  decidableLE : DecidableLE R
  /-- The number nearest to an integer. -/
  ofInt : Int → R
  /-- The sine of an angle in radians. -/
  sin : R → R
  /-- One degree in radians. -/
  degree : R

namespace Scalar

variable {R : Type} [Scalar R]

instance : DecidableLT R := decidableLT

instance : DecidableLE R := decidableLE

/-- `x` where it is not below zero, and zero elsewhere.  A number that compares with nothing gives
zero. -/
def nonneg (x : R) : R :=
  if ofInt 0 ≤ x then x else ofInt 0

/-- The number between zero and one nearest to `x`.  A number that compares with nothing stays. -/
def unit (x : R) : R :=
  if x < ofInt 0 then ofInt 0 else if ofInt 1 < x then ofInt 1 else x

/-- Standard gravity, `9.80665 m/s²`. -/
def gravity : R :=
  ofInt 980665 / ofInt 100000

end Scalar

/-! ### Floats as scalars -/

/-- The double nearest to an integer.  A 64-bit word is converted as one. -/
def doubleOfInt (n : Int) : Float :=
  if 0 ≤ n ∧ n < UInt64.size then n.toNat.toUInt64.toFloat else .ofModel (.ofInt n)

/-- The single-precision float nearest to an integer.  A 64-bit word is converted as one. -/
def singleOfInt (n : Int) : Float32 :=
  if 0 ≤ n ∧ n < UInt64.size then n.toNat.toUInt64.toFloat32 else .ofModel (.ofInt n)

/-- A natural number below the size of a 64-bit word is the value of its word. -/
theorem toNat_toUInt64_of_lt_size {n : Int} (h : 0 ≤ n ∧ n < UInt64.size) :
    (n.toNat.toUInt64.toNat : Int) = n := by
  have h' : n.toNat < UInt64.size := by omega
  rw [Nat.toUInt64_eq, UInt64.toNat_ofNat_of_lt' h']
  omega

/-- The conversion as a word does not change the double. -/
theorem doubleOfInt_eq (n : Int) : doubleOfInt n = .ofModel (.ofInt n) := by
  unfold doubleOfInt
  split
  · rename_i h
    show Float.ofModel (.ofInt (n.toNat.toUInt64.toNat : Int)) = _
    rw [toNat_toUInt64_of_lt_size h]
  · rfl

/-- The conversion as a word does not change the single-precision float. -/
theorem singleOfInt_eq (n : Int) : singleOfInt n = .ofModel (.ofInt n) := by
  unfold singleOfInt
  split
  · rename_i h
    show Float32.ofModel (.ofInt (n.toNat.toUInt64.toNat : Int)) = _
    rw [toNat_toUInt64_of_lt_size h]
  · rfl

/-- The double nearest to `π`. -/
def pi : Float :=
  Float.ofBits 0x400921FB54442D18

instance : Scalar Float where
  decidableLT := inferInstance
  decidableLE := inferInstance
  ofInt := doubleOfInt
  sin := Float.sin
  degree := pi / 180

instance : Scalar Float32 where
  decidableLT := inferInstance
  decidableLE := inferInstance
  ofInt := singleOfInt
  sin := Float32.sin
  degree := Float32.ofBits 0x3C8EFA35

/-! ### Between the formats -/

/-- The single-precision float nearest to a double. -/
def narrow (x : Float) : Float32 :=
  .ofModel <| .pack <| match x.toModel.unpack with
    | .finite sign mantissa exponent _ => .round .binary32 sign mantissa exponent
    | other => other

/-- The double with the value of a single-precision float. -/
def widen (x : Float32) : Float :=
  .ofModel <| .pack <| match x.toModel.unpack with
    | .finite sign mantissa exponent _ => .round .binary64 sign mantissa exponent
    | other => other

/-! ### Between floats and words -/

/-- The integer part of `x` as a 32-bit word: the nearest word if it does not fit, zero for a
`NaN`. -/
def truncate32 (x : Float32) : Int32 :=
  x.toModel.toInt32

/-- The integer part of `x` as a 16-bit word: the nearest word if it does not fit, zero for a
`NaN`. -/
def truncate16 (x : Float32) : Int16 :=
  x.toModel.toInt16

/-- The integer part of a double as a 32-bit word: the nearest word if it does not fit, zero for a
`NaN`. -/
def truncate32Wide (x : Float) : Int32 :=
  x.toModel.toInt32

/-- The integer nearest to `x` as a 32-bit word, the even one if two are equally near: the nearest
word if it does not fit, zero for a `NaN`. -/
def roundEven32 (x : Float32) : Int32 :=
  let whole := truncate32 x
  let fraction := x - singleOfInt whole.toInt
  let odd := whole.toInt % 2 ≠ 0
  if fraction > 0.5 ∨ (fraction == 0.5 ∧ odd) then
    .ofIntClamp (whole.toInt + 1)
  else if fraction < -0.5 ∨ (fraction == -0.5 ∧ odd) then
    .ofIntClamp (whole.toInt - 1)
  else
    whole

/-- The integer nearest to `x`, the one further from zero if two are equally near; zero for a `NaN`.
Anything of size `2^64` or more gives an integer of at least that size, which every use of this
function then takes into a smaller range. -/
def roundAway (x : Float) : Int :=
  let size := x.abs
  let whole := size.toUInt64
  let rounded : Int := if size - whole.toFloat ≥ 0.5 then whole.toNat + 1 else whole.toNat
  if x < 0 then -rounded else rounded

end Autopilot
