import Footpath.Language.Predicate

/-! What a script is made of: steps, expressions, statements and named paths. -/
namespace Footpath

/-! ### Steps -/

/-- The built-in navigations. `outE`, `inE` and `both` go from a vertex to edges, the others from
an edge to vertices. -/
inductive Hop where
  | outE
  | inE
  | outV
  | inV
  | bothV
  | both
deriving DecidableEq

namespace Hop

def all : List Hop := [outE, inE, outV, inV, bothV, both]

def name : Hop → String
  | outE => "outE"
  | inE => "inE"
  | outV => "outV"
  | inV => "inV"
  | bothV => "bothV"
  | both => "both"

def ofName? (s : String) : Option Hop := all.find? fun h => h.name == s

end Hop

/-- Names of built-in navigations are no names for paths. -/
def isReserved (name : String) : Bool := (Hop.ofName? name).isSome

/-- What a step goes by; a path is looked up when the step runs. -/
inductive Target where
  | hop (h : Hop)
  | path (name : String)
deriving DecidableEq

def Target.ofName (name : String) : Target :=
  match Hop.ofName? name with
  | some h => .hop h
  | none => .path name

/-- One navigation, the filter on its result, and the text it was written as. -/
structure Step where
  target : Target
  filter : Option Predicate
  token : String
deriving DecidableEq

/-! ### Statements -/

/-- Where an expression takes its first sequence from. -/
inductive Source where
  | context
  | var (name : String)
  | lookup (id : String)
deriving DecidableEq

/-- A source, a filter on it, and the steps that follow. -/
structure Expr where
  source : Source
  filter : Option Predicate
  steps : List Step
deriving DecidableEq

/-- The name of the variable that a bare expression reads and writes. -/
def contextName : String := "_"

structure Statement where
  line : Nat
  text : String
  target : Option String
  expr : Expr
deriving DecidableEq

/-- The variable that a statement writes. -/
def Statement.targetName (s : Statement) : String := s.target.getD contextName

/-! ### Scripts -/

/-- A `path … end` block; `line` is the line of its header. -/
structure NamedPath where
  name : String
  line : Nat
  body : List Statement
deriving DecidableEq

/-- The blocks of a script in the order of their ends, and its own statements. -/
structure Script where
  paths : List NamedPath
  body : List Statement
deriving DecidableEq

def Script.empty : Script := ⟨[], []⟩

end Footpath
