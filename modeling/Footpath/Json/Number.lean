import Footpath.Json.Basic
import Footpath.Decimal.Reading
import Footpath.Value

/-! The values that numbers of a document stand for. A whole number written without point and
exponent is exact while it fits 64 bits; every other number is a double, rounded once from its
leading digits and once more when the power of ten is applied. -/
namespace Footpath.JsonNumber

/-! ### Exact numbers -/

/-- Whether neither a point nor an exponent was written. -/
def isWhole (n : JsonNumber) : Bool := n.fraction.isEmpty && n.exponent.isEmpty

def magnitude (n : JsonNumber) : Nat := Nat.ofDigitChars 10 n.whole 0

/-- A whole number below `2 ^ 64`, written without a sign. -/
def unsigned? (n : JsonNumber) : Option UInt64 :=
  if n.isWhole && !n.negative && n.magnitude < UInt64.size then some (UInt64.ofNat n.magnitude) else none

/-- A whole number in the range of 64 signed bits; `-0` is a double. -/
def integer? (n : JsonNumber) : Option Int64 :=
  if !n.isWhole then none
  else if n.negative then
    if 0 < n.magnitude && n.magnitude ≤ UInt64.size / 2 then some (Int64.ofInt (-n.magnitude)) else none
  else if n.magnitude < UInt64.size / 2 then some (Int64.ofNat n.magnitude) else none

/-! ### Doubles -/

/-- Appends digits to `n` while the result stays below `2 ^ 64`; the digits left are given back. -/
def appendDigits (n : Nat) : List Char → Nat × List Char
  | [] => (n, [])
  | c :: cs =>
    let m := Nat.ofDigitChars 10 [c] n
    if m < UInt64.size then appendDigits m cs else (n, c :: cs)

def exponentValue (n : JsonNumber) : Int :=
  match n.exponent with
  | '-' :: ds => -(Nat.ofDigitChars 10 ds 0 : Int)
  | '+' :: ds => Nat.ofDigitChars 10 ds 0
  | ds => Nat.ofDigitChars 10 ds 0

/-- The leading digits as a number below `2 ^ 64`, and the power of ten that goes with it. Digits
of the whole part that are left out raise the power; those of the fraction do not count. -/
def scaled (n : JsonNumber) : Nat × Int :=
  let (whole, left) := appendDigits 0 n.whole
  let (significand, unused) := appendDigits whole n.fraction
  let places : Int := n.fraction.length - unused.length
  (significand, left.length - places + n.exponentValue)

def powerOfTen (k : Nat) : Float := Decimal.nearest false 1 k

/-- A significand times a power of ten, in doubles; nothing if that is out of range. The largest
power in a single factor is `10 ^ 308`. -/
def scale? (significand : Nat) (exponent : Int) : Option Float :=
  let x := Float.ofNat significand
  if 308 < exponent then if significand = 0 then some 0 else none
  else if 0 ≤ exponent then
    let y := x * powerOfTen exponent.toNat
    if y.isInf then none else some y
  else if -308 ≤ exponent then some (x / powerOfTen (-exponent).toNat)
  else if -616 ≤ exponent then some (x / powerOfTen 308 / powerOfTen (-exponent - 308).toNat)
  else some 0

def double? (n : JsonNumber) : Option Float :=
  (scale? n.scaled.1 n.scaled.2).map fun x => if n.negative then -x else x

def value? (n : JsonNumber) : Option Value :=
  match n.integer? with
  | some i => some (.integer i)
  | none => n.double?.map .float

end Footpath.JsonNumber
