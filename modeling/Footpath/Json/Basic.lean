/-! JSON values as trees. Numbers keep their digits and strings may fail to spell a text, so that
a tree says exactly which text was written, and each use decides what it accepts. -/
namespace Footpath

/-- A number as written; `fraction` and `exponent` are empty where the number has none, and the
exponent begins with its sign if it has one. -/
structure JsonNumber where
  negative : Bool
  whole : List Char
  fraction : List Char
  exponent : List Char
deriving DecidableEq

/-- A string or key is `none` if its escapes name half of a surrogate pair: it is well-formed and
spells no text. -/
inductive Json where
  | null
  | boolean (b : Bool)
  | number (n : JsonNumber)
  | string (s : Option String)
  | array (items : List Json)
  | object (members : List (Option String × Json))

namespace JsonNumber

def ofNat (n : Nat) : JsonNumber := ⟨false, Nat.toDigits 10 n, [], []⟩

def ofInt (n : Int) : JsonNumber := ⟨n < 0, Nat.toDigits 10 n.natAbs, [], []⟩

def text (n : JsonNumber) : List Char :=
  (if n.negative then ['-'] else []) ++ n.whole ++
    (if n.fraction.isEmpty then [] else '.' :: n.fraction) ++
    (if n.exponent.isEmpty then [] else 'e' :: n.exponent)

end JsonNumber

end Footpath
