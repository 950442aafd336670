/-! The shortest decimal that reads back as a given double.

A double is a sign and a dyadic rational `m · 2 ^ q`; the decimals that read back as it form an
interval around that value, ends included when `m` is even. On ever finer decimal grids
`shortest` tests the two grid points next to the value, and takes the first grid on which one
of them lies in the interval, the nearer if both do. -/
namespace Footpath.Decimal

/-! ### Taking a double apart -/

/-- A double: no number, an infinity, or `± mantissa · 2 ^ exponent`. -/
inductive Unpacked where
  | nan
  | infinite (negative : Bool)
  | finite (negative : Bool) (mantissa : Nat) (exponent : Int)
deriving DecidableEq

/-- The leading bit of a mantissa, which is stored only as an exponent above zero. -/
def leadingBit : Nat := 0x10000000000000

/-- Reads the sign, the eleven bits of exponent and the fifty-two of mantissa. -/
def unpack (x : Float) : Unpacked :=
  let bits : Nat := x.toBits.toNat
  let negative := bits >>> 63 == 1
  let biased : Nat := (bits >>> 52) % 2048
  let fraction : Nat := bits % leadingBit
  if biased == 2047 then
    if fraction == 0 then .infinite negative else .nan
  else if biased == 0 then .finite negative fraction (-1074)
  else .finite negative (leadingBit + fraction) ((biased : Int) - 1075)

/-! ### Decimals near a rational -/

/-- A nonnegative rational. -/
structure Ratio where
  num : Nat
  den : Nat

/-- `n · 2 ^ q`. -/
def Ratio.dyadic (n : Nat) (q : Int) : Ratio :=
  if 0 ≤ q then ⟨n <<< q.toNat, 1⟩ else ⟨n, 1 <<< (-q).toNat⟩

def powerOfTen (k : Nat) : Nat := Nat.pow 10 k

/-- `n · 10 ^ k`. -/
def Ratio.decimal (n : Nat) (k : Int) : Ratio :=
  if 0 ≤ k then ⟨n * powerOfTen k.toNat, 1⟩ else ⟨n, powerOfTen (-k).toNat⟩

def Ratio.le (a b : Ratio) : Bool := a.num * b.den ≤ b.num * a.den

def Ratio.lt (a b : Ratio) : Bool := a.num * b.den < b.num * a.den

/-- The interval of reals that round to a double, in quarters of the unit of its last place; the
lower half is narrower under a power of two. -/
structure Basin where
  low : Ratio
  value : Ratio
  high : Ratio
  closed : Bool

def Basin.ofDyadic (m : Nat) (q : Int) : Basin :=
  let below := if m == leadingBit && q != -1074 then 1 else 2
  ⟨.dyadic (4 * m - below) (q - 2), .dyadic (4 * m) (q - 2), .dyadic (4 * m + 2) (q - 2), m % 2 == 0⟩

def Basin.contains (b : Basin) (r : Ratio) : Bool :=
  if b.closed then b.low.le r && r.le b.high else b.low.lt r && r.lt b.high

/-- The greatest `e` with `10 ^ e ≤ r`, for `r` from `10 ^ -330` on. -/
def Ratio.magnitude (r : Ratio) : Int :=
  (Nat.toDigits 10 (r.num * powerOfTen 330 / r.den)).length - 331

/-- The greatest `n` with `n · 10 ^ k ≤ r`. -/
def Ratio.floorAt (r : Ratio) (k : Int) : Nat :=
  if 0 ≤ k then r.num / (r.den * powerOfTen k.toNat) else r.num * powerOfTen (-k).toNat / r.den

/-! ### The search -/

/-- Which way an exact tie between two shortest decimals goes. -/
inductive Tie where
  | up
  | toEven
deriving DecidableEq

/-- The neighbour of the value on the grid of step `10 ^ k` that reads back, if one does. -/
def Basin.onGrid (b : Basin) (tie : Tie) (k : Int) : Option Nat :=
  let f := b.value.floorAt k
  let lower := b.contains (.decimal f k)
  let upper := b.contains (.decimal (f + 1) k)
  if lower && upper then
    let middle := Ratio.decimal (10 * f + 5) (k - 1)
    if b.value.lt middle then some f
    else if middle.lt b.value then some (f + 1)
    else if tie == .toEven && f % 2 == 0 then some f else some (f + 1)
  else if lower then some f
  else if upper then some (f + 1)
  else none

/-- Digits and exponent of the shortest decimal for `m · 2 ^ q`; zero has the one digit `0`. -/
def shortest (tie : Tie) (m : Nat) (q : Int) : Nat × Int :=
  if m == 0 then (0, 0)
  else
    let b := Basin.ofDyadic m q
    let top := b.value.magnitude
    let attempt (n : Nat) : Option (Nat × Int) := (b.onGrid tie (top + 1 - n)).map (·, top + 1 - n)
    ((List.range 18).findSome? attempt).getD (b.value.floorAt (top - 16), top - 16)

end Footpath.Decimal
