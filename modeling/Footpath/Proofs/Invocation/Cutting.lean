import Footpath.Proofs.Invocation.Independence

/-! Cutting a chain of steps through a variable.

The steps of a statement may be run in two statements, the first of which assigns to a variable what the
second goes on with. The sequence at the cut is the same (`Expr.eval_append`, `Expr.eval_assigned`). What is
different behind it is the environment, in which the variable has a value of its own; so the paths that the
remaining steps lead to must not read it (`cutting_through_variable`). -/
namespace Footpath

/-- A statement that is cut: its steps are those before the cut and those behind it, and `name` is the
variable in between. -/
structure Cut where
  target : Option String
  source : Source
  filter : Option Predicate
  before : List Step
  behind : List Step
  name : String

namespace Cut

/-- The statement in one piece, on some line. -/
def whole (c : Cut) (o : Site) : Statement := ⟨o.line, o.text, c.target, ⟨c.source, c.filter, c.before ++ c.behind⟩⟩

def first (c : Cut) (o : Site) : Statement := ⟨o.line, o.text, some c.name, ⟨c.source, c.filter, c.before⟩⟩

def second (c : Cut) (o : Site) : Statement := ⟨o.line, o.text, c.target, ⟨.var c.name, none, c.behind⟩⟩

/-- The variable that both ways are about. -/
def targetName (c : Cut) : String := c.target.getD contextName

/-- Nothing that is run behind the cut reads the variable, the second statement itself apart. -/
def Unread (c : Cut) (reg : Registry) : Prop :=
  ∀ n x, Step.Invokes c.behind n → reg.Reads n x → bareName x ≠ bareName c.name

theorem eval_whole (c : Cut) (g : Graph) (call : Invoker) (scope : Scope) (o o' : Site) :
    (c.whole o).expr.eval g call scope =
      (c.first o').expr.eval g call scope >>= Step.runAll g (call scope.scriptEnv) c.behind :=
  Expr.eval_append g call scope c.source c.filter c.before c.behind

/-- The steps behind the cut do what they do without the variable. -/
theorem eval_second {c : Cut} {reg : Registry} (hc : c.Unread reg) (g : Graph) (env : Environment) (o : Site)
    (xs : Sequence) :
    (c.second o).expr.eval g (invoke g reg .empty) (.root (env.set c.name xs)) =
      Step.runAll g (invoke g reg .empty env) c.behind xs := by
  have hassigned : (c.second o).expr.eval g (invoke g reg .empty) (.root (env.set c.name xs)) =
      Step.runAll g (invoke g reg .empty (env.set c.name xs)) c.behind xs :=
    Expr.eval_assigned g (invoke g reg .empty) (.root env) c.name xs none c.behind
  rw [hassigned]
  apply Step.runAll_congr
  intro n hn ys
  apply invoke_of_agrees
  intro x hx _
  rw [Environment.get?_set, if_neg (hc n x hn hx)]

end Cut

/-- **A chain of steps can be cut at any point through a variable**, which no path that is reached behind
the cut may read. Either both ways run to their end, the target then has the same value in both, and of the
other variables that at the cut alone may have changed; or both fail with the same fault, and all variables
but that one are as they were. -/
theorem cutting_through_variable (g : Graph) (reg : Registry) (env : Environment) (c : Cut) (hc : c.Unread reg)
    (o o₁ o₂ : Site) :
    (∃ xs env', Statement.runAll g (invoke g reg .empty) (.root env) [c.whole o] =
          (.root (env.set c.targetName xs), none) ∧
        Statement.runAll g (invoke g reg .empty) (.root env) [c.first o₁, c.second o₂] = (.root env', none) ∧
        env'.get? c.targetName = some xs ∧
        ∀ x, bareName x ≠ bareName c.name → bareName x ≠ bareName c.targetName → env'.get? x = env.get? x) ∨
    (∃ e e' env', Statement.runAll g (invoke g reg .empty) (.root env) [c.whole o] = (.root env, some e) ∧
        Statement.runAll g (invoke g reg .empty) (.root env) [c.first o₁, c.second o₂] =
          (.root env', some e') ∧
        e'.fault = e.fault ∧ ∀ x, bareName x ≠ bareName c.name → env'.get? x = env.get? x) := by
  have hother : ∀ (ys : Sequence) (x : String), bareName x ≠ bareName c.name →
      (env.set c.name ys).get? x = env.get? x := fun ys x hx => by
    rw [Environment.get?_set, if_neg hx]
  have hwhole := c.eval_whole g (invoke g reg .empty) (.root env) o o₁
  cases hfirst : (c.first o₁).expr.eval g (invoke g reg .empty) (.root env) with
  | error e =>
    rw [hfirst] at hwhole
    exact .inr ⟨_, _, env, Statement.runAll_of_error hwhole [], Statement.runAll_of_error hfirst _, rfl,
      fun x _ => rfl⟩
  | ok ys =>
    rw [hfirst] at hwhole
    have hsecond := Cut.eval_second hc g env o₂ ys
    have hparts := Statement.runAll_of_ok hfirst [c.second o₂]
    cases hbehind : Step.runAll g (invoke g reg .empty env) c.behind ys with
    | error e =>
      have hfails : (c.whole o).expr.eval g (invoke g reg .empty) (.root env) = .error e := hwhole.trans hbehind
      rw [hbehind] at hsecond
      exact .inr ⟨_, _, env.set c.name ys, Statement.runAll_of_error hfails [],
        hparts.trans (Statement.runAll_of_error hsecond []), rfl, hother ys⟩
    | ok xs =>
      have hyields : (c.whole o).expr.eval g (invoke g reg .empty) (.root env) = .ok xs := hwhole.trans hbehind
      rw [hbehind] at hsecond
      refine .inl ⟨xs, (env.set c.name ys).set c.targetName xs, Statement.runAll_of_ok hyields [],
        hparts.trans (Statement.runAll_of_ok hsecond []), ?_, fun x hname htarget => ?_⟩
      · rw [Environment.get?_set, if_pos rfl]
      · rw [Environment.get?_set, if_neg htarget, hother ys x hname]

/-- `$found := $team/known/contacts` cut through `$rest`, which has a value before. -/
def cutContacts : Cut where
  target := some "found"
  source := .var "team"
  filter := none
  before := [⟨.path "known", none, "/known"⟩]
  behind := [⟨.path "contacts", none, "/contacts"⟩]
  name := "rest"

/-- The path behind the cut reads `$team`, but not `$rest`. -/
theorem cutting_through_variable_contacts :
    let reg := acquaintances.put contactsPath
    let env := Environment.ofList [("team", [.vertex ⟨1⟩]), ("rest", [.vertex ⟨2⟩])]
    cutContacts.Unread reg ∧
      ∃ env', Statement.runAll twoPeople (invoke twoPeople reg .empty) (.root env)
          [cutContacts.first ⟨1, "$rest := $team/known"⟩, cutContacts.second ⟨2, "$found := $rest/contacts"⟩] =
            (.root env', none) ∧
        env'.get? "found" = some [.vertex ⟨2⟩] := by
  intro reg env
  have hc : cutContacts.Unread reg := by
    rintro n x ⟨s, hs, htarget⟩ hx
    rw [List.mem_singleton.1 hs] at htarget
    cases htarget
    rw [eq_team_of_reads_contacts hx]
    decide
  have hwhole : Statement.runAll twoPeople (invoke twoPeople reg .empty) (.root env)
      [cutContacts.whole ⟨1, "$found := $team/known/contacts"⟩] =
        (.root (env.set "found" [.vertex ⟨2⟩]), none) := by
    decide +kernel
  refine ⟨hc, ?_⟩
  rcases cutting_through_variable twoPeople reg env cutContacts hc ⟨1, "$found := $team/known/contacts"⟩
    ⟨1, "$rest := $team/known"⟩ ⟨2, "$found := $rest/contacts"⟩ with
    ⟨xs, env', hxs, hparts, hfound, -⟩ | ⟨e, e', env', hfails, -⟩
  · rw [hwhole] at hxs
    have hvalue : (env.set "found" [.vertex ⟨2⟩]).get? "found" = (env.set "found" xs).get? "found" :=
      congrArg (fun r => r.1.frame.get? "found") hxs
    rw [Environment.get?_set, Environment.get?_set, if_pos rfl, if_pos rfl] at hvalue
    exact ⟨env', hparts, hfound.trans hvalue.symm⟩
  · rw [hwhole] at hfails
    exact absurd (congrArg Prod.snd hfails) nofun

end Footpath
