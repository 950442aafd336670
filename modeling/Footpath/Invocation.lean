import Footpath.Filter
import Footpath.Navigation
import Footpath.Environment
import Footpath.Registry

/-! Running steps, statements and paths.

A step takes a whole sequence to a sequence. A step by a named path runs the body of that path on
its input, in a frame of its own in which `$_` is the input; the body sees the variables of the
script behind its own, and none of its caller's. Running a body is given as a function of how
paths are invoked, and `invoke` ties the knot: a path may not be entered while it is being run,
so the names on the call stack differ and invocations nest no deeper than there are paths. -/
namespace Footpath

/-- How a named path is run on an input, `env` being the variables of the script. -/
abbrev Invoker := (env : Environment) → (name : String) → Sequence → Except Error Sequence

/-! ### Steps -/

namespace Step

def filtered (g : Graph) (s : Step) (xs : Sequence) : Except Error Sequence :=
  match s.filter with
  | none => .ok xs
  | some p => (p.filter g xs).mapError .ofFault

def navigate (g : Graph) (call : String → Sequence → Except Error Sequence) (s : Step) (xs : Sequence) :
    Except Error Sequence :=
  match s.target with
  | .hop h => (h.run g s.token xs).mapError .ofFault
  | .path name => call name xs

def run (g : Graph) (call : String → Sequence → Except Error Sequence) (s : Step) (xs : Sequence) :
    Except Error Sequence :=
  match s.navigate g call xs with
  | .error e => .error e
  | .ok ys => s.filtered g ys

/-- Runs steps one after another. -/
def runAll (g : Graph) (call : String → Sequence → Except Error Sequence) : List Step → Sequence →
    Except Error Sequence
  | [], xs => .ok xs
  | s :: ss, xs =>
    match s.run g call xs with
    | .error e => .error e
    | .ok ys => runAll g call ss ys

/-- Steps in a row are run one part behind the other. -/
theorem runAll_append (g : Graph) (call : String → Sequence → Except Error Sequence) (a b : List Step)
    (xs : Sequence) : runAll g call (a ++ b) xs = runAll g call a xs >>= runAll g call b := by
  induction a generalizing xs with
  | nil => rfl
  | cons s a ih =>
    simp only [List.cons_append, runAll]
    cases s.run g call xs with
    | error e => rfl
    | ok ys => exact ih ys

end Step

/-! ### Statements -/

def Source.eval (g : Graph) (scope : Scope) : Source → Except Fault Sequence
  | .context => scope.lookup contextName
  | .var name => scope.lookup name
  | .lookup id =>
    match g.fetch? id with
    | some x => .ok [x]
    | none => .error (.missing (.named id))

/-- The source of an expression behind its filter. -/
def Expr.start (g : Graph) (scope : Scope) (e : Expr) : Except Fault Sequence :=
  match e.source.eval g scope with
  | .error f => .error f
  | .ok xs =>
    match e.filter with
    | none => .ok xs
    | some p => p.filter g xs

def Expr.eval (g : Graph) (call : Invoker) (scope : Scope) (e : Expr) : Except Error Sequence :=
  match e.start g scope with
  | .error f => .error (.ofFault f)
  | .ok xs => Step.runAll g (call scope.scriptEnv) e.steps xs

namespace Statement

/-- The scope behind a statement, in which its target has its value. -/
def run (g : Graph) (call : Invoker) (scope : Scope) (s : Statement) : Except Error Scope :=
  match s.expr.eval g call scope with
  | .error e => .error (e.within s)
  | .ok xs => .ok (scope.set s.targetName xs)

/-- Runs statements up to the first that fails; what the others assigned stays. -/
def runAll (g : Graph) (call : Invoker) (scope : Scope) : List Statement → Scope × Option Error
  | [] => (scope, none)
  | s :: ss =>
    match s.run g call scope with
    | .error e => (scope, some e)
    | .ok scope => runAll g call scope ss

theorem runAll_append (g : Graph) (call : Invoker) (scope : Scope) (a b : List Statement) :
    runAll g call scope (a ++ b) =
      match runAll g call scope a with
      | (scope, none) => runAll g call scope b
      | failed => failed := by
  induction a generalizing scope with
  | nil => rfl
  | cons s a ih =>
    simp only [List.cons_append, runAll]
    cases s.run g call scope with
    | error e => rfl
    | ok scope => exact ih scope

end Statement

/-! ### Paths -/

namespace NamedPath

/-- The variable whose value a body yields; without statements that is its input. -/
def resultName (p : NamedPath) : String := (p.body.getLast?.map Statement.targetName).getD contextName

/-- Runs a body in a frame of its own. -/
def run (g : Graph) (call : Invoker) (env : Environment) (p : NamedPath) (xs : Sequence) :
    Except Error Sequence :=
  match Statement.runAll g call ⟨Environment.empty.set contextName xs, some env⟩ p.body with
  | (_, some e) => .error e
  | (scope, none) => .ok ((scope.frame.get? p.resultName).getD [])

end NamedPath

/-- The paths that are being run, outermost first. -/
structure CallStack (reg : Registry) where
  names : List String
  nodup : names.Nodup
  defined : ∀ n ∈ names, n ∈ reg.names

namespace CallStack

variable {reg : Registry}

def empty : CallStack reg := ⟨[], List.nodup_nil, by simp⟩

/-- Enters a path. -/
def push (st : CallStack reg) (name : String) (hd : name ∈ reg.names) (hn : name ∉ st.names) :
    CallStack reg where
  names := st.names ++ [name]
  nodup := by
    rw [List.nodup_append]
    refine ⟨st.nodup, by simp, ?_⟩
    intro a ha b hb hab
    have hb : b = name := by simpa using hb
    exact hn (hb ▸ hab ▸ ha)
  defined := by
    intro n h
    rcases List.mem_append.1 h with h | h
    · exact st.defined n h
    · have h : n = name := by simpa using h
      exact h ▸ hd

/-- The paths from the running one of this name on, and its name again. -/
def cycle (st : CallStack reg) (name : String) : List String :=
  (st.names.dropWhile fun n => n ≠ name) ++ [name]

theorem length_le (st : CallStack reg) : st.names.length ≤ reg.size := by
  have := OrderedMap.length_le_of_nodup st.nodup st.defined
  simpa [Registry.names, Registry.size, OrderedMap.keys, OrderedMap.size] using this

end CallStack

/-- Runs the path of a name on an input. -/
def invoke (g : Graph) (reg : Registry) (st : CallStack reg) (env : Environment) (name : String)
    (xs : Sequence) : Except Error Sequence :=
  match hp : reg.find? name with
  | none => .error (.ofFault (.noPath name))
  | some p =>
    if hn : name ∈ st.names then .error (.ofFault (.recursion (st.cycle name)))
    else
      have hd : name ∈ reg.names := (reg.find?_isSome_iff name).1 (by rw [hp]; rfl)
      p.run g (fun env m ys => invoke g reg (st.push name hd hn) env m ys) env xs
termination_by reg.size - st.names.length
decreasing_by
  have := (st.push name hd hn).length_le
  simp only [CallStack.push, List.length_append, List.length_singleton] at this ⊢
  omega

/-- Runs steps by themselves; the paths that they invoke see no variables of a script. -/
def Registry.runSteps (reg : Registry) (g : Graph) (steps : List Step) (xs : Sequence) :
    Except Error Sequence :=
  Step.runAll g (invoke g reg .empty .empty) steps xs

end Footpath
