import HomeAutomation.Double.Exact
import HomeAutomation.Double.Decimal
import HomeAutomation.Double.Layout

/-!
# Numbers

A number is a whole number of any size or a double, and the two stay apart: `1` and `1.0` are
different values with different texts, though neither is less than the other. `clamp` puts a number
into a range and returns one of the three numbers it was given, unchanged; a value that is not a
number ends up at the low end.
-/

namespace HomeAutomation

inductive Number where
  | int (n : Int)
  | double (x : Float)
  deriving DecidableEq

namespace Number

instance : Inhabited Number := ⟨.int 0⟩

def exact : Number → Exact
  | .int n => .ofInt n
  | .double x => .ofDouble x

def lt (a b : Number) : Bool :=
  a.exact.compare? b.exact == some .lt

def le (a b : Number) : Bool :=
  match a.exact.compare? b.exact with
  | some .lt | some .eq => true
  | _ => false

def eqv (a b : Number) : Bool :=
  a.exact.compare? b.exact == some .eq

/-- The larger of two numbers: the first unless the second is greater. -/
def larger (a b : Number) : Number :=
  if a.lt b then b else a

/-- The smaller of two numbers: the first unless the second is less. -/
def smaller (a b : Number) : Number :=
  if b.lt a then b else a

/-- The number nearest to `value` in the range from `low` to `high`. -/
def clamp (value low high : Number) : Number :=
  smaller high (larger low value)

/-- A zero, of either kind and either sign. -/
def isZero (a : Number) : Bool :=
  a.eqv (.int 0)

/-- The double nearest to a whole number; infinite when the number is out of range. -/
def roundInt (n : Int) : Float :=
  Decimal.toDouble (.finite (n < 0) n.natAbs 0)

def toDouble : Number → Float
  | .int n => roundInt n
  | .double x => x

def hundredth : Number → Float
  | .int n => Decimal.toDouble (.finite (n < 0) n.natAbs (-2))
  | .double x => x / 100.0

def text : Number → String
  | .int n => toString n
  | .double x => DoubleLayout.plain.write x

end Number

end HomeAutomation
