/-!
# Exact values of doubles

`Exact` says which number a double stands for: a dyadic fraction `± m · 2^e`, an infinity, or no
number at all. Whole numbers have an exact value of the same kind, so doubles and whole numbers of
any size compare without rounding (`Exact.compare?`). Nothing compares with a value that is not a
number, and the two zeros are equal.

Powers are written with `Nat.pow`, which means the same whatever else is imported.
-/

namespace HomeAutomation

inductive Exact where
  | undefined
  | infinite (negative : Bool)
  /-- The number `± mantissa · 2^exponent`. -/
  | finite (negative : Bool) (mantissa : Nat) (exponent : Int)
  deriving DecidableEq, Repr

namespace Exact

def ofDouble (x : Float) : Exact :=
  let bits : Nat := x.toBits.toNat
  let negative := bits / Nat.pow 2 63 == 1
  let biased : Nat := bits / Nat.pow 2 52 % 2048
  let fraction : Nat := bits % Nat.pow 2 52
  if biased = 2047 then
    if fraction = 0 then .infinite negative else .undefined
  else if biased = 0 then .finite negative fraction (-1074)
  else .finite negative (fraction + Nat.pow 2 52) (biased - 1075)

def ofInt (n : Int) : Exact :=
  .finite (n < 0) n.natAbs 0

/-- The numerator of `± m · 2^e` over the denominator `2^(-low)`, for `low ≤ e`. -/
def numerator (low : Int) (negative : Bool) (mantissa : Nat) (exponent : Int) : Int :=
  let scaled : Nat := mantissa * Nat.pow 2 (exponent - low).toNat
  if negative then -(scaled : Int) else scaled

/-- The order of two values; `none` when one of them is not a number. -/
def compare? : Exact → Exact → Option Ordering
  | .undefined, _ => none
  | _, .undefined => none
  | .infinite a, .infinite b => some (if a = b then .eq else if a then .lt else .gt)
  | .infinite a, .finite .. => some (if a then .lt else .gt)
  | .finite .., .infinite b => some (if b then .gt else .lt)
  | .finite a m d, .finite b n e =>
    let low := min d e
    some (compare (numerator low a m d) (numerator low b n e))

/-- The whole number next to `± mantissa · 2^exponent` on the side of zero. -/
def truncate (negative : Bool) (mantissa : Nat) (exponent : Int) : Int :=
  let size : Nat :=
    if 0 ≤ exponent then mantissa * Nat.pow 2 exponent.toNat
    else mantissa / Nat.pow 2 (-exponent).toNat
  if negative then -(size : Int) else size

end Exact

end HomeAutomation
