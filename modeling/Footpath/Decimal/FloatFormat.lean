import Footpath.Decimal.Shortest

/-! How a double is written. The digits are the shortest that read back; a `FloatFormat` holds
the decisions that are left: which exponents are positional, whether a whole number shows a
fraction, and the side an exact tie takes. -/
namespace Footpath.Decimal

structure FloatFormat where
  /-- The decimal exponents written positionally, both ends included; every one when `none`. -/
  positional : Option (Int × Int)
  /-- Whether a whole number written positionally ends in `.0`. -/
  pointZero : Bool
  tie : Tie

def zeros (n : Nat) : List Char := List.replicate n '0'

/-- `ds · 10 ^ e` without an exponent. -/
def positionalText (pointZero : Bool) (ds : List Char) (e : Int) : List Char :=
  if 0 ≤ e then ds ++ zeros e.toNat ++ (if pointZero then ['.', '0'] else [])
  else
    let places := (-e).toNat
    if places < ds.length then ds.take (ds.length - places) ++ '.' :: ds.drop (ds.length - places)
    else '0' :: '.' :: zeros (places - ds.length) ++ ds

/-- One digit, the others behind a point, and the exponent with its sign. -/
def scientificText (ds : List Char) (e : Int) : List Char :=
  let exponent := e + ds.length - 1
  let fraction := match ds.drop 1 with
    | [] => []
    | rest => '.' :: rest
  ds.take 1 ++ fraction ++ ['e', if exponent < 0 then '-' else '+'] ++ Nat.toDigits 10 exponent.natAbs

def FloatFormat.finiteText (f : FloatFormat) (m : Nat) (q : Int) : List Char :=
  let (d, e) := shortest f.tie m q
  let ds := Nat.toDigits 10 d
  let exponent := e + ds.length - 1
  let isPositional := match f.positional with
    | none => true
    | some (low, high) => low ≤ exponent && exponent ≤ high
  if isPositional then positionalText f.pointZero ds e else scientificText ds e

def FloatFormat.text (f : FloatFormat) (x : Float) : List Char :=
  match unpack x with
  | .nan => ['N', 'a', 'N']
  | .infinite negative => (if negative then ['-'] else []) ++ ['i', 'n', 'f']
  | .finite negative m q => (if negative then ['-'] else []) ++ f.finiteText m q

/-- Every exponent positional, no fraction on a whole number. -/
def FloatFormat.plain : FloatFormat := ⟨none, false, .up⟩

/-- Positional from `1e-5` up to below `1e16`, and always with a fraction or an exponent. -/
def FloatFormat.marked : FloatFormat := ⟨some (-5, 15), true, .toEven⟩

end Footpath.Decimal
