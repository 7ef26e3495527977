import HomeAutomation.Double.Exact
import HomeAutomation.Text.Numeral

/-!
# Shortest decimal digits of a double

`shortest m e` gives the fewest decimal digits that read back as the double `m · 2^e`, and of
those the nearest. All decimals that read back lie in an interval around the value, whose ends
belong to it when `m` is even. For one digit, two digits and so on, the two neighbours of the value
on that decimal grid are tested in whole numbers; the first grid with a hit wins, of two hits the
nearer, and of two equally near the even one. Seventeen digits always suffice.
-/

namespace HomeAutomation

structure ScaledDigits where
  digits : Nat
  exponent : Int
  deriving DecidableEq, Repr

namespace ScaledDigits

open Text

/-- The power of ten of the leading digit of `num / den`. -/
def leadingExponent (num den : Nat) : Int :=
  let guess : Int := (natDigits num).length - (natDigits den).length
  let reached :=
    if 0 ≤ guess then den * Nat.pow 10 guess.toNat ≤ num
    else den ≤ num * Nat.pow 10 (-guess).toNat
  if reached then guess else guess - 1

/-- The better neighbour of a value on the grid `10^exponent`, if one of the two reads back. The
value and the ends of its interval are given as numerators over `den`. -/
def onGrid? (low value high den : Nat) (closed : Bool) (exponent : Int) : Option ScaledDigits :=
  let up := Nat.pow 10 (-exponent).toNat
  let unit := den * Nat.pow 10 exponent.toNat
  let below := value * up / unit
  let readsBack (c : Nat) : Bool :=
    if closed then low * up ≤ c * unit && c * unit ≤ high * up
    else low * up < c * unit && c * unit < high * up
  let twice := 2 * (value * up % unit)
  let belowFirst := twice < unit || (twice == unit && below % 2 == 0)
  match readsBack below, readsBack (below + 1) with
  | true, true => some ⟨if belowFirst then below else below + 1, exponent⟩
  | true, false => some ⟨below, exponent⟩
  | false, true => some ⟨below + 1, exponent⟩
  | false, false => none

/-- The shortest digits of `mantissa · 2^exponent`, for a mantissa that is not zero. -/
def shortest (mantissa : Nat) (exponent : Int) : ScaledDigits :=
  let scale := Nat.pow 2 (exponent - 2).toNat
  let den := Nat.pow 2 (2 - exponent).toNat
  let value := 4 * mantissa * scale
  let lowGap := if mantissa = Nat.pow 2 52 ∧ -1074 < exponent then 1 else 2
  let low := (4 * mantissa - lowGap) * scale
  let high := (4 * mantissa + 2) * scale
  let leading := leadingExponent value den
  let grid (places : Nat) : Int := leading - places
  ((List.range 17).findSome? fun places =>
    onGrid? low value high den (mantissa % 2 == 0) (grid places)).getD ⟨0, 0⟩

def digitRow (d : ScaledDigits) : List Char :=
  trimEnd (· == '0') (natDigits d.digits)

def pointPosition (d : ScaledDigits) : Int :=
  (natDigits d.digits).length + d.exponent

end ScaledDigits

end HomeAutomation
