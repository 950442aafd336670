import Footpath.OrderedMap
import Footpath.Fault

/-! The named paths that are defined, in definition order. Defining a name again replaces its body
and keeps its place. -/
namespace Footpath

structure Registry where
  paths : OrderedMap String NamedPath
deriving DecidableEq

namespace Registry

def empty : Registry := ⟨.empty⟩

def find? (r : Registry) (name : String) : Option NamedPath := r.paths.find? name

def contains (r : Registry) (name : String) : Bool := r.paths.contains name

def names (r : Registry) : List String := r.paths.keys

def size (r : Registry) : Nat := r.paths.size

def isEmpty (r : Registry) : Bool := r.paths.isEmpty

/-- Defines a path, whatever its name. -/
def put (r : Registry) (p : NamedPath) : Registry := ⟨r.paths.insert p.name p⟩

/-- Defines a path whose name is not the name of a built-in navigation. -/
def define (r : Registry) (p : NamedPath) : Except Fault Registry :=
  if isReserved p.name then .error (.reservedName p.name) else .ok (r.put p)

/-- Defines paths in order, or none if one of them is refused. -/
def defineAll (r : Registry) (ps : List NamedPath) : Except Fault Registry := ps.foldlM define r

theorem find?_isSome_iff (r : Registry) (name : String) : (r.find? name).isSome ↔ name ∈ r.names :=
  OrderedMap.find?_isSome_iff r.paths name

theorem find?_put (r : Registry) (p : NamedPath) (name : String) :
    (r.put p).find? name = if name = p.name then some p else r.find? name :=
  OrderedMap.find?_insert r.paths p.name name p

theorem names_put (r : Registry) (p : NamedPath) :
    (r.put p).names = if p.name ∈ r.names then r.names else r.names ++ [p.name] :=
  OrderedMap.keys_insert r.paths p.name p

theorem nodup_names (r : Registry) : r.names.Nodup := r.paths.nodup_keys

/-! ### Several definitions -/

/-- Of several definitions of a name the last one counts. -/
theorem find?_foldl_put (ps : List NamedPath) (r : Registry) (name : String) :
    (ps.foldl put r).find? name = ((ps.filter fun p => p.name = name).getLast?).or (r.find? name) := by
  induction ps generalizing r with
  | nil => rfl
  | cons p ps ih =>
    rw [List.foldl_cons, ih, find?_put, List.filter_cons]
    by_cases hp : p.name = name
    · rw [if_pos hp.symm, if_pos (decide_eq_true hp), List.getLast?_cons]
      cases (ps.filter fun q => q.name = name).getLast? <;> rfl
    · rw [if_neg (Ne.symm hp), if_neg (by simpa using hp)]

/-- Names that are new follow the others, in the order of their first definitions. -/
theorem names_foldl_put (ps : List NamedPath) (r : Registry) :
    (ps.foldl put r).names =
      r.names ++ ((ps.map NamedPath.name).filter fun name => name ∉ r.names).eraseDups := by
  induction ps generalizing r with
  | nil => exact (List.append_nil _).symm
  | cons p ps ih =>
    rw [List.foldl_cons, ih, names_put]
    exact OrderedMap.keys_then p.name r.names (ps.map NamedPath.name)

end Registry

end Footpath
