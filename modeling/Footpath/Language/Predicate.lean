import Footpath.Value

/-! Filter predicates: comparisons of properties, labels, identities and literals, joined by
`and` and `or`. -/
namespace Footpath

/-! ### Comparisons -/

inductive Comparison where
  | eq
  | ne
  | gt
  | lt
  | ge
  | le
deriving DecidableEq

namespace Comparison

def symbol : Comparison → String
  | .eq => "="
  | .ne => "!="
  | .gt => ">"
  | .lt => "<"
  | .ge => ">="
  | .le => "<="

/-- The two comparisons that are defined on booleans too. -/
def isEquality : Comparison → Bool
  | .eq | .ne => true
  | _ => false

/-- Whether a comparison holds of two values in a given order; without an order only `!=` does. -/
def holds (c : Comparison) : Option Ordering → Bool
  | none => c == .ne
  | some o =>
    match c with
    | .eq => o == .eq
    | .ne => o != .eq
    | .gt => o == .gt
    | .lt => o == .lt
    | .ge => o != .lt
    | .le => o != .gt

end Comparison

/-! ### Operands -/

/-- One side of a comparison. -/
inductive Operand where
  | property (name : String)
  | label
  | identity
  | literal (v : Value)
deriving DecidableEq

def Operand.render : Operand → String
  | .property name => "@" ++ name
  | .label => "@label"
  | .identity => "@id"
  | .literal v => v.render

/-! ### Predicates -/

inductive Predicate where
  | compare (left : Operand) (op : Comparison) (right : Operand)
  | and (left right : Predicate)
  | or (left right : Predicate)
deriving DecidableEq

/-- A predicate with every connective in parentheses. -/
def Predicate.render : Predicate → String
  | .compare l op r => l.render ++ " " ++ op.symbol ++ " " ++ r.render
  | .and p q => "(" ++ p.render ++ " and " ++ q.render ++ ")"
  | .or p q => "(" ++ p.render ++ " or " ++ q.render ++ ")"

end Footpath
