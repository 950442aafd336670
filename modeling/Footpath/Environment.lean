import Footpath.OrderedMap
import Footpath.Fault

/-! Variables. A name may be given with or without the `$` in front of it, and an empty sequence
is a value like any other. -/
namespace Footpath

/-- A name without the `$` in front of it, if it has one. -/
def bareName (name : String) : String :=
  match name.toList with
  | '$' :: rest => String.ofList rest
  | _ => name

theorem bareName_dollar (name : String) : bareName ("$" ++ name) = name := by
  rw [bareName, String.toList_append]
  exact String.ofList_toList

/-! ### Environments -/

/-- Variables by bare name, in first-assignment order. -/
structure Environment where
  bindings : OrderedMap String Sequence
deriving DecidableEq

namespace Environment

def empty : Environment := ⟨.empty⟩

def get? (env : Environment) (name : String) : Option Sequence := env.bindings.find? (bareName name)

def get (env : Environment) (name : String) : Except Fault Sequence :=
  match env.get? name with
  | some s => .ok s
  | none => .error (.unbound (bareName name))

/-- The value of `$_`. -/
def context (env : Environment) : Except Fault Sequence := env.get contextName

def set (env : Environment) (name : String) (s : Sequence) : Environment :=
  ⟨env.bindings.insert (bareName name) s⟩

/-- The value of a variable, and the environment without it. -/
def take (env : Environment) (name : String) : Option Sequence × Environment :=
  (env.get? name, ⟨env.bindings.erase (bareName name)⟩)

def contains (env : Environment) (name : String) : Bool := env.bindings.contains (bareName name)

def toList (env : Environment) : List (String × Sequence) := env.bindings.entries

def size (env : Environment) : Nat := env.bindings.size

def isEmpty (env : Environment) : Bool := env.bindings.isEmpty

/-- The variables of a list, one assignment after another. -/
def ofList (vars : List (String × Sequence)) : Environment :=
  vars.foldl (fun env v => env.set v.1 v.2) empty

/-- Whether two environments bind the same names to the same values. -/
def agrees (a b : Environment) : Bool := a.bindings.agrees b.bindings

theorem get?_set (env : Environment) (name other : String) (s : Sequence) :
    (env.set name s).get? other = if bareName other = bareName name then some s else env.get? other :=
  OrderedMap.find?_insert _ _ _ _

/-- The names of the variables are those that a lookup finds, -/
theorem mem_toList_iff {env : Environment} {name : String} {s : Sequence} :
    (name, s) ∈ env.toList ↔ env.get? ("$" ++ name) = some s := by
  rw [get?, bareName_dollar]
  exact OrderedMap.mem_entries_iff

/-- each of them once, -/
theorem nodup_toList (env : Environment) : (env.toList.map Prod.fst).Nodup := env.bindings.keys_nodup

/-- in the order in which they were first assigned. -/
theorem names_set (env : Environment) (name : String) (s : Sequence) :
    (env.set name s).toList.map Prod.fst =
      if bareName name ∈ env.toList.map Prod.fst then env.toList.map Prod.fst
      else env.toList.map Prod.fst ++ [bareName name] :=
  OrderedMap.keys_insert _ _ _

/-- Environments agree in which every lookup is the same. -/
theorem agrees_iff {a b : Environment} : a.agrees b = true ↔ ∀ name, a.get? name = b.get? name := by
  refine OrderedMap.agrees_iff.trans ⟨fun h name => h _, fun h name => ?_⟩
  have hname := h ("$" ++ name)
  rwa [get?, get?, bareName_dollar] at hname

end Environment

/-! ### Scopes -/

/-- What an expression sees: a frame of its own and, in the body of a path, the variables of the
script behind it. -/
structure Scope where
  frame : Environment
  script : Option Environment
deriving DecidableEq

namespace Scope

/-- The scope of the statements of a script. -/
def root (env : Environment) : Scope := ⟨env, none⟩

def lookup? (s : Scope) (name : String) : Option Sequence :=
  match s.frame.get? name with
  | some value => some value
  | none => s.script.bind (·.get? name)

def lookup (s : Scope) (name : String) : Except Fault Sequence :=
  match s.lookup? name with
  | some value => .ok value
  | none => .error (.unbound (bareName name))

/-- The variables that paths invoked from here see behind their own. -/
def scriptEnv (s : Scope) : Environment := s.script.getD s.frame

/-- Assigns in the frame. -/
def set (s : Scope) (name : String) (value : Sequence) : Scope := { s with frame := s.frame.set name value }

end Scope

end Footpath
