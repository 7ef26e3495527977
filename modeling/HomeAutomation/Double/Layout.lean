import HomeAutomation.Double.Shortest

/-!
# Texts of doubles

A double is written with its shortest digits: positional while the leading digit is between the
fourth place after the point and the sixteenth place before it, otherwise with an exponent of at
least two digits. The formats that need such a text differ in the names of the three special values
and in whether a single digit before an exponent keeps its point; `DoubleLayout` is that choice.
-/

namespace HomeAutomation

/-- The choices that a format makes in writing doubles. -/
structure DoubleLayout where
  infinity : String
  minusInfinity : String
  undefined : String
  /-- Whether a single digit before an exponent is followed by a point and a zero. -/
  pointBeforeExponent : Bool

namespace DoubleLayout

open Text

/-- Running text: `inf`, `nan`, `1e+16`. -/
def plain : DoubleLayout := ⟨"inf", "-inf", "nan", false⟩

/-- Data interchange: `Infinity`, `NaN`, `1e+16`. -/
def interchange : DoubleLayout := ⟨"Infinity", "-Infinity", "NaN", false⟩

/-- Indented documents: `.inf`, `.nan`, `1.0e+16`. -/
def document : DoubleLayout := ⟨".inf", "-.inf", ".nan", true⟩

def positional (digits : List Char) (point : Int) : List Char :=
  if point ≤ 0 then '0' :: '.' :: List.replicate (-point).toNat '0' ++ digits
  else if digits.length ≤ point.toNat then
    digits ++ List.replicate (point.toNat - digits.length) '0' ++ ['.', '0']
  else digits.take point.toNat ++ '.' :: digits.drop point.toNat

def scientific (layout : DoubleLayout) (digits : List Char) (exponent : Int) : List Char :=
  let others := digits.drop 1
  let tail := if others.isEmpty && layout.pointBeforeExponent then ['0'] else others
  let mantissa := digits.take 1 ++ (if tail.isEmpty then [] else '.' :: tail)
  let sign := if exponent < 0 then '-' else '+'
  mantissa ++ 'e' :: sign :: twoDigits exponent.natAbs

def magnitude (layout : DoubleLayout) (d : ScaledDigits) : List Char :=
  let point := d.pointPosition
  if -4 < point ∧ point ≤ 16 then positional d.digitRow point
  else layout.scientific d.digitRow (point - 1)

def write (layout : DoubleLayout) (x : Float) : String :=
  match Exact.ofDouble x with
  | .undefined => layout.undefined
  | .infinite negative => if negative then layout.minusInfinity else layout.infinity
  | .finite negative mantissa exponent =>
    let text :=
      if mantissa = 0 then ['0', '.', '0']
      else layout.magnitude (ScaledDigits.shortest mantissa exponent)
    String.ofList (if negative then '-' :: text else text)

end DoubleLayout

end HomeAutomation
