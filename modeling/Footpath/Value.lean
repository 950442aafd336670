import Footpath.OrderedMap
import Footpath.Decimal.FloatFormat

/-! Property values and their order. Integers compare with integers exactly and with floats as
doubles; text compares by code points; values of different kinds have no order, and neither
has `NaN`. -/
namespace Footpath

inductive Value where
  | boolean (b : Bool)
  | integer (n : Int64)
  | float (x : Float)
  | text (s : String)
deriving DecidableEq

/-- The properties of an element, in first-assignment order. -/
abbrev Properties := OrderedMap String Value

namespace Value

def kind : Value → String
  | .boolean _ => "bool"
  | .integer _ => "int"
  | .float _ => "float"
  | .text _ => "string"

def isNumber : Value → Bool
  | .integer _ | .float _ => true
  | _ => false

/-- The double nearest to a number. -/
def toFloat? : Value → Option Float
  | .integer n => some (Float.ofInt n.toInt)
  | .float x => some x
  | _ => none

def showFloat (x : Float) : String := String.ofList (Decimal.FloatFormat.plain.text x)

/-- A value as messages and tables write it: text between single quotes, nothing escaped. -/
def render : Value → String
  | .boolean b => if b then "true" else "false"
  | .integer n => toString n.toInt
  | .float x => showFloat x
  | .text s => "'" ++ s ++ "'"

/-- The order of two doubles, which a `NaN` does not have. -/
def compareFloats (x y : Float) : Option Ordering :=
  if x < y then some .lt else if y < x then some .gt else if x == y then some .eq else none

/-- The order of two values of one kind, numbers being one kind. -/
def compare? : Value → Value → Option Ordering
  | .integer m, .integer n => some (compare m.toInt n.toInt)
  | .text s, .text t => some (compare s t)
  | .boolean a, .boolean b => some (compare a b)
  | a, b =>
    match a.toFloat?, b.toFloat? with
    | some x, some y => compareFloats x y
    | _, _ => none

end Value

end Footpath
