import Mathlib.Algebra.Order.Ring.Rat
import Mathlib.Data.Rat.Defs

namespace ZepGpu
namespace Foundation

/-!
# Arithmetic of floating amounts

Code that keeps amounts in variables of a floating type adds, subtracts and
compares them.  It is written over the operations alone, so that what holds of
it holds for every way to round.  Two types have the operations: the doubles on
which the programs run, which round every result, and the rationals, over which
the sums of an accounting are exact.
-/

/-- The operations of a floating type.  No law is assumed: a sum may depend on
the order of its terms, and a value that is no number is neither below another
value nor above it. -/
class Arithmetic (F : Type) extends Zero F, Add F, Sub F, LT F, LE F where
  /-- The value that stands for a rational number. -/
  ofRat : Rat -> F
  decidableLT : DecidableLT F
  decidableLE : DecidableLE F

attribute [reducible, instance] Arithmetic.decidableLT Arithmetic.decidableLE

instance : Arithmetic Rat where
  ofRat := id
  decidableLT := inferInstance
  decidableLE := inferInstance

namespace Double

open Float.Model

def exactly (value : Int) : UnpackedFloat :=
  if positive : 0 < value.natAbs then
    .finite (if value < 0 then .negative else .positive) value.natAbs 0 positive
  else .zero .positive

/-- The nearest double, the even one of two.  The quotient of numerator and
denominator is rounded once. -/
def ofRat (value : Rat) : Float :=
  .ofModel (.pack (UnpackedFloat.div Format.binary64 (exactly value.num) (exactly value.den)))

/-- The number that a double stands for, unless it is infinite or no number. -/
def toRat? (value : Float) : Option Rat :=
  match value.toModel.unpack with
  | .zero _ => some 0
  | .finite sign mantissa exponent _ => some (sign.apply mantissa * 2 ^ exponent)
  | .infinity _ | .notANumber => none

/-- `int(value)`: a finite double is cut towards zero. -/
def toInt? (value : Float) : Option Int :=
  (toRat? value).map (fun exact => exact.num.tdiv exact.den)

end Double

instance : Arithmetic Float where
  zero := 0
  ofRat := Double.ofRat
  decidableLT := inferInstance
  decidableLE := inferInstance

/-- Three tenths are not three times a tenth. -/
example : (0 : Float) + Arithmetic.ofRat (1 / 10) + Arithmetic.ofRat (1 / 10) +
    Arithmetic.ofRat (1 / 10) ≠ Arithmetic.ofRat (3 / 10) := by
  decide +kernel

end Foundation
end ZepGpu
