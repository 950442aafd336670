import Footpath.Proofs.Invocation.Bodies

/-! Evaluation always ends.

`invoke` ends by its type: a call stack says of itself that its names are defined and differ, and each
invocation adds one. Here evaluation is written down once more without that. All invocations share one
list of running paths, which each of them extends and cuts back again and nothing says what is on it;
and the functions call each other without a measure, so that a run need not return (`none`). What each
invocation finds and leaves on the list is noted (`Visit`).

`evaluation_returns`: every run returns, whatever the paths are, with the outcome of the evaluator and
with the list as it was, and so does every invocation in it; none of them sees a name on the list twice,
one that is not defined, or more names than there are paths. -/
namespace Footpath

/-! ### One list of running paths -/

/-- An invocation: the names that run when it begins, while the body of its path runs (the same names,
where it is refused), and when it is over. -/
structure Visit where
  name : String
  found : List String
  inside : List String
  left : List String
deriving DecidableEq

/-- The names of the running paths, outermost first, and the invocations that are over. -/
structure Activity where
  running : List String
  visits : List Visit
deriving DecidableEq

namespace Activity

def enter (a : Activity) (name : String) : Activity := { a with running := a.running ++ [name] }

/-- Ends the invocation that was entered last, and notes it. -/
def leave (a : Activity) (name : String) (found inside : List String) : Activity :=
  ⟨a.running.dropLast, a.visits ++ [⟨name, found, inside, a.running.dropLast⟩]⟩

/-- Notes an invocation that is over before it has begun. -/
def refuse (a : Activity) (name : String) : Activity :=
  { a with visits := a.visits ++ [⟨name, a.running, a.running, a.running⟩] }

end Activity

/-- Evaluations that work on the list of running paths; without a result one that never returns. -/
abbrev Tracked (α : Type) := StateT Activity Option α

/-- What every evaluation reads. -/
structure Engine where
  graph : Graph
  registry : Registry

namespace Engine

mutual

def expr (eng : Engine) (scope : Scope) (e : Expr) : Tracked (Except Error Sequence) :=
  match e.start eng.graph scope with
  | .error f => pure (.error (.ofFault f))
  | .ok xs => eng |>.steps scope.scriptEnv e.steps xs
partial_fixpoint

def steps (eng : Engine) (env : Environment) (ss : List Step) (xs : Sequence) :
    Tracked (Except Error Sequence) :=
  match ss with
  | [] => pure (.ok xs)
  | s :: ss => do
    match ← eng |>.step env s xs with
    | .error e => pure (.error e)
    | .ok ys => eng |>.steps env ss ys
partial_fixpoint

def step (eng : Engine) (env : Environment) (s : Step) (xs : Sequence) : Tracked (Except Error Sequence) :=
  match s.target with
  | .hop h => pure ((h.run eng.graph s.token xs).mapError .ofFault >>= s.filtered eng.graph)
  | .path name => do
    let r ← eng |>.invocation env name xs
    pure (r >>= s.filtered eng.graph)
partial_fixpoint

/-- The path is taken off the list again whatever its body comes to. -/
def invocation (eng : Engine) (env : Environment) (name : String) (xs : Sequence) :
    Tracked (Except Error Sequence) := do
  let found := (← get).running
  match eng.registry.find? name with
  | none =>
    modify (·.refuse name)
    pure (.error (.ofFault (.noPath name)))
  | some p =>
    if name ∈ found then
      modify (·.refuse name)
      pure (.error (.ofFault (.recursion (found.dropWhile (· ≠ name) ++ [name]))))
    else
      modify (·.enter name)
      let inside := (← get).running
      let r ← eng |>.body env (Environment.empty.set contextName xs) contextName p.body
      modify (·.leave name found inside)
      pure r
partial_fixpoint

/-- The rest of a body, `last` being the variable that was assigned last. -/
def body (eng : Engine) (env frame : Environment) (last : String) (ss : List Statement) :
    Tracked (Except Error Sequence) :=
  match ss with
  | [] => pure (.ok ((frame.get? last).getD []))
  | s :: ss => do
    match ← eng |>.expr ⟨frame, some env⟩ s.expr with
    | .error e => pure (.error (e.within s))
    | .ok xs => eng |>.body env (frame.set s.targetName xs) s.targetName ss
partial_fixpoint

end

end Engine

/-! ### What a run keeps to -/

/-- Running paths are defined, and none of them runs twice, so they are no more than there are. -/
structure Registry.Orderly (reg : Registry) (running : List String) : Prop where
  distinct : running.Nodup
  defined : ∀ n ∈ running, n ∈ reg.names
  bounded : running.length ≤ reg.size

/-- The invocation sees orderly lists, and leaves what it has found. -/
structure Visit.Orderly (reg : Registry) (v : Visit) : Prop where
  found : reg.Orderly v.found
  inside : reg.Orderly v.inside
  restored : v.left = v.found

theorem CallStack.orderly {reg : Registry} (st : CallStack reg) : reg.Orderly st.names :=
  ⟨st.nodup, st.defined, st.length_le⟩

namespace Tracked

/-- Among the running paths the evaluation returns this, leaves the same paths running, and makes orderly
invocations only. -/
def Returns {α : Type} (reg : Registry) (running : List String) (m : Tracked α) (r : α) : Prop :=
  ∀ visits, ∃ made, m ⟨running, visits⟩ = some (r, ⟨running, visits ++ made⟩) ∧ ∀ v ∈ made, v.Orderly reg

section
variable {α β : Type} {reg : Registry} {running : List String}

theorem returns_pure (r : α) : Returns reg running (pure r) r :=
  fun visits => ⟨[], by rw [List.append_nil]; rfl, by simp⟩

theorem Returns.bind {m : Tracked α} {k : α → Tracked β} {r : α} {t : β} (hm : Returns reg running m r)
    (hk : Returns reg running (k r) t) : Returns reg running (m >>= k) t := by
  intro visits
  obtain ⟨made, hrun, hmade⟩ := hm visits
  obtain ⟨more, hrest, hmore⟩ := hk (visits ++ made)
  refine ⟨made ++ more, ?_, fun v hv => (List.mem_append.1 hv).elim (hmade v) (hmore v)⟩
  rw [← List.append_assoc, ← hrest]
  show (m ⟨running, visits⟩).bind _ = _
  rw [hrun]
  rfl

theorem returns_get {k : Activity → Tracked α} {r : α} (h : ∀ visits, Returns reg running (k ⟨running, visits⟩) r) :
    Returns reg running (get >>= k) r :=
  fun visits => h visits visits

/-- A refused invocation is noted, and changes nothing else. -/
theorem returns_refuse (horder : reg.Orderly running) (name : String) (r : α) :
    Returns reg running (do modify (·.refuse name); pure r) r := by
  intro visits
  refine ⟨[⟨name, running, running, running⟩], rfl, ?_⟩
  intro v hv
  obtain rfl := List.mem_singleton.1 hv
  exact ⟨horder, horder, rfl⟩

/-- The body of an entered path runs among one path more, which is the one that is taken off behind it. -/
theorem returns_enter (horder : reg.Orderly running) {name : String} (hinside : reg.Orderly (running ++ [name]))
    {m : Tracked α} {r : α} (hm : Returns reg (running ++ [name]) m r) :
    Returns reg running (do
      modify (·.enter name)
      let inside := (← get).running
      let r ← m
      modify (·.leave name running inside)
      pure r) r := by
  intro visits
  obtain ⟨made, hrun, hmade⟩ := hm visits
  refine ⟨made ++ [⟨name, running, running ++ [name], running⟩], ?_, ?_⟩
  · show (m ⟨running ++ [name], visits⟩).bind _ = _
    rw [hrun]
    show some (r, Activity.leave ⟨running ++ [name], visits ++ made⟩ name running (running ++ [name])) = _
    rw [Activity.leave, List.dropLast_concat, List.append_assoc]
  · intro v hv
    rcases List.mem_append.1 hv with hv | hv
    · exact hmade v hv
    · obtain rfl := List.mem_singleton.1 hv
      exact ⟨horder, hinside, rfl⟩

end

end Tracked

namespace Engine

open Tracked

variable {eng : Engine}

/-! ### Where invocations return, so does everything else -/

section
variable {running : List String} {call : Invoker} (hcall : ∀ env name xs,
  Returns eng.registry running (eng.invocation env name xs) (call env name xs))
include hcall

theorem step_returns (env : Environment) (s : Step) (xs : Sequence) :
    Returns eng.registry running (eng.step env s xs) (s.run eng.graph (call env) xs) := by
  rw [step, Step.run_eq_bind, Step.navigate]
  cases s.target with
  | hop h => exact returns_pure _
  | path name => exact (hcall env name xs).bind (returns_pure _)

theorem steps_returns (env : Environment) (ss : List Step) (xs : Sequence) :
    Returns eng.registry running (eng.steps env ss xs) (Step.runAll eng.graph (call env) ss xs) := by
  induction ss generalizing xs with
  | nil =>
    rw [steps]
    exact returns_pure _
  | cons s ss ih =>
    rw [steps, Step.runAll]
    refine (step_returns hcall env s xs).bind ?_
    cases s.run eng.graph (call env) xs with
    | error e => exact returns_pure _
    | ok ys => exact ih ys

theorem expr_returns (scope : Scope) (e : Expr) :
    Returns eng.registry running (eng.expr scope e) (e.eval eng.graph call scope) := by
  rw [expr, Expr.eval]
  cases e.start eng.graph scope with
  | error f => exact returns_pure _
  | ok xs => exact steps_returns hcall scope.scriptEnv e.steps xs

theorem body_returns (env frame : Environment) (last : String) (ss : List Statement) :
    Returns eng.registry running (eng.body env frame last ss)
      (Statement.yield eng.graph call env frame last ss) := by
  induction ss generalizing frame last with
  | nil =>
    rw [body]
    exact returns_pure _
  | cons s ss ih =>
    rw [body, Statement.yield]
    refine (expr_returns hcall ⟨frame, some env⟩ s.expr).bind ?_
    cases s.expr.eval eng.graph call ⟨frame, some env⟩ with
    | error e => exact returns_pure _
    | ok xs => exact ih (frame.set s.targetName xs) s.targetName

end

/-! ### Invocations return -/

theorem invocation_returns (eng : Engine) (st : CallStack eng.registry) (env : Environment) (name : String)
    (xs : Sequence) : Returns eng.registry st.names (eng.invocation env name xs)
      (invoke eng.graph eng.registry st env name xs) := by
  -- each path enters the list once at most, so the lists with one path more come first
  induction st using CallStack.push_induction generalizing env name xs with
  | step st ih =>
    rw [invocation]
    refine returns_get fun visits => ?_
    dsimp only
    cases hp : eng.registry.find? name with
    | none =>
      rw [invoke_of_undefined hp]
      exact returns_refuse st.orderly name _
    | some p =>
      dsimp only
      by_cases hn : name ∈ st.names
      · rw [if_pos hn, invoke_of_running hp hn]
        exact returns_refuse st.orderly name _
      · have hd := Registry.mem_names_of_find? hp
        rw [if_neg hn, invoke_of_idle hp hd hn, NamedPath.run_eq_yield]
        have hbody := body_returns (ih name hd hn) env (Environment.empty.set contextName xs) contextName p.body
        exact returns_enter st.orderly (st.push name hd hn).orderly hbody

/-- **Every evaluation returns**, whatever paths the registry defines: with the outcome that the evaluator
has, with the paths running that ran before, and with orderly invocations only. This is so of expressions,
steps, invocations and bodies, at any point where the running paths are defined and differ. -/
theorem evaluation_returns (g : Graph) (reg : Registry) (st : CallStack reg) :
    (∀ scope e, Returns reg st.names (expr ⟨g, reg⟩ scope e) (e.eval g (invoke g reg st) scope)) ∧
    (∀ env ss xs, Returns reg st.names (steps ⟨g, reg⟩ env ss xs) (Step.runAll g (invoke g reg st env) ss xs)) ∧
    (∀ env s xs, Returns reg st.names (step ⟨g, reg⟩ env s xs) (s.run g (invoke g reg st env) xs)) ∧
    (∀ env name xs, Returns reg st.names (invocation ⟨g, reg⟩ env name xs) (invoke g reg st env name xs)) ∧
    (∀ env (p : NamedPath) xs, Returns reg st.names
      (body ⟨g, reg⟩ env (Environment.empty.set contextName xs) contextName p.body)
      (p.run g (invoke g reg st) env xs)) := by
  have hcall := invocation_returns ⟨g, reg⟩ st
  refine ⟨expr_returns hcall, steps_returns hcall, step_returns hcall, hcall, fun env p xs => ?_⟩
  rw [NamedPath.run_eq_yield]
  exact body_returns hcall env _ contextName p.body

end Engine

end Footpath
