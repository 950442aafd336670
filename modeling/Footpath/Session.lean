import Footpath.Invocation
import Footpath.Language.Script.Parser

/-! Sessions: named paths and variables that outlive the scripts that define them. -/
namespace Footpath

/-- `seed` holds the variables that the session began with. -/
structure Session where
  registry : Registry
  env : Environment
  seed : Environment
deriving DecidableEq

namespace Session

def start (seed : Environment) : Session := ⟨.empty, seed, seed⟩

/-- Forgets every path and every assignment since the start. -/
def reset (s : Session) : Session := start s.seed

def set (s : Session) (name : String) (xs : Sequence) : Session :=
  { s with env := s.env.set name xs }

/-- The sequence that the last of some statements assigned; none without statements. -/
def resultOf (env : Environment) (body : List Statement) : Except Fault Sequence :=
  match body.getLast? with
  | none => .ok []
  | some s => env.get s.targetName

/-- Runs statements in a session. What was assigned before one fails stays assigned. -/
def runBody (g : Graph) (s : Session) (body : List Statement) : Session × Except Error Sequence :=
  match Statement.runAll g (invoke g s.registry .empty) (.root s.env) body with
  | (scope, some e) => ({ s with env := scope.frame }, .error e)
  | (scope, none) => ({ s with env := scope.frame }, (resultOf scope.frame body).mapError .ofFault)

/-- Defines paths in order up to the first that is refused; what was defined before it stays. -/
def defineAll (s : Session) : List NamedPath → Session × Option Fault
  | [] => (s, none)
  | p :: ps =>
    match s.registry.define p with
    | .error f => (s, some f)
    | .ok registry => { s with registry := registry }.defineAll ps

/-- Defines the paths of a script, and then runs its statements. Names are judged before anything
is defined, so that a registry is never left half updated. -/
def run (g : Graph) (s : Session) (script : Script) : Session × Except Error Sequence :=
  match script.paths.find? fun p => isReserved p.name with
  | some p => (s, .error (.ofFault (.reservedName p.name)))
  | none =>
    match s.defineAll script.paths with
    | (s, some f) => (s, .error (.ofFault f))
    | (s, none) => s.runBody g script.body

/-- Runs the script that a text spells; a text that spells none changes nothing. -/
def eval (g : Graph) (s : Session) (text : String) : Session × Except Error Sequence :=
  match Script.parse text with
  | .error e => (s, .error e)
  | .ok script => s.run g script

end Session

/-- Runs a script by itself. -/
def Graph.eval (g : Graph) (env : Environment) (text : String) : Except Error Sequence :=
  ((Session.start env).eval g text).2

end Footpath
