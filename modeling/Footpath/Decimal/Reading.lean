/-! From decimal digits to the nearest double. -/
namespace Footpath.Decimal

/-- The double nearest to `± mantissa · 10 ^ exponent`: infinite beyond the range, zero below it.
The two early exits keep the powers of ten small and change no result. -/
def nearest (negative : Bool) (mantissa : Nat) (exponent : Int) : Float :=
  let magnitude := (Nat.toDigits 10 mantissa).length + exponent
  let x : Float :=
    if mantissa == 0 || magnitude < -400 then 0
    else if 400 < magnitude then 1 / 0
    else if 0 ≤ exponent then Float.ofScientific mantissa false exponent.toNat
    else Float.ofScientific mantissa true (-exponent).toNat
  if negative then -x else x

end Footpath.Decimal
