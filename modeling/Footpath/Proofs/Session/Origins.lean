import Footpath.Proofs.Script.Errors
import Footpath.Proofs.Invocation.Inlining
import Footpath.Proofs.Session.Bodies

/-! Where errors come from.

A statement at which something goes wrong meets it by itself, or goes by a path that is not there or
is being run already (`Statement.Raises`). From there an error passes through the statements that
have called one another, out to one of the script (`Registry.Passes`). What is told is these
statements, from the outside in, around the fault of the innermost (`Session.eval_failure`). -/
namespace Footpath

/-! ### Chains of statements -/

/-- The error that tells of statements from the outside in, around a fault. -/
def Error.through (ss : List Statement) (f : Fault) : Error := ss.foldr (fun s e => e.within s) (.ofFault f)

@[simp] theorem Error.fault_through (ss : List Statement) (f : Fault) : (through ss f).fault = f := by
  induction ss with
  | nil => rfl
  | cons s ss ih => exact ih

@[simp] theorem Error.trail_through (ss : List Statement) (f : Fault) :
    (through ss f).trail = ss.map Statement.site := by
  induction ss with
  | nil => rfl
  | cons s ss ih => exact congrArg (s.site :: ·) ih

/-- With some paths running, and in some scope, the statement fails with this error. -/
def Statement.FailsWith (g : Graph) (reg : Registry) (s : Statement) (e : Error) : Prop :=
  ∃ (st : CallStack reg) (scope : Scope), s.expr.eval g (invoke g reg st) scope = .error e

/-- What can go wrong at a statement other than in the body of a path. -/
inductive Statement.Raises (reg : Registry) (s : Statement) : Fault → Prop where
  | itself {f : Fault} (hf : f.Local) : Raises reg s f
  | noPath {name : String} (hn : Step.Invokes s.expr.steps name) (hp : reg.find? name = none) :
      Raises reg s (.noPath name)
  | recursion {name : String} {p : NamedPath} (chain : List String) (hn : Step.Invokes s.expr.steps name)
      (hp : reg.find? name = some p) : Raises reg s (.recursion (chain ++ [name]))

/-- A chain of statements, each in the body of a path that a step of the one before it goes by, and a
fault that the last of them raises. Each of them fails, and with what those behind it tell. -/
inductive Registry.Passes (g : Graph) (reg : Registry) : List Statement → Fault → Prop where
  | raised {s : Statement} {f : Fault} (hs : s.FailsWith g reg (.ofFault f)) (hf : s.Raises reg f) :
      Passes g reg [s] f
  | called {s t : Statement} {name : String} {p : NamedPath} {ss : List Statement} {f : Fault}
      (hs : s.FailsWith g reg (.through (t :: ss) f)) (hn : Step.Invokes s.expr.steps name)
      (hp : reg.find? name = some p) (ht : t ∈ p.body) (h : Passes g reg (t :: ss) f) :
      Passes g reg (s :: t :: ss) f

/-- A statement that fails begins a chain. The chain behind it and the paths that are running are no
more than there are paths. -/
theorem Statement.passes_of_error {g : Graph} {reg : Registry} {st : CallStack reg} {scope : Scope}
    {s : Statement} {e : Error} (he : s.expr.eval g (invoke g reg st) scope = .error e) :
    ∃ ss f, reg.Passes g (s :: ss) f ∧ e = .through ss f ∧ ss.length + st.names.length ≤ reg.size := by
  induction st using CallStack.push_induction generalizing scope s e with
  | step st ih =>
    have hnone : ([] : List Statement).length + st.names.length ≤ reg.size := by
      rw [List.length_nil, Nat.zero_add]
      exact st.length_le
    rcases Expr.eval_error he with ⟨f, hf, rfl⟩ | ⟨name, ys, hn, hcall⟩
    · exact ⟨[], f, .raised ⟨st, scope, he⟩ (.itself hf), rfl, hnone⟩
    · cases hp : reg.find? name with
      | none =>
        rw [invoke_of_undefined hp] at hcall
        cases hcall
        exact ⟨[], _, .raised ⟨st, scope, he⟩ (.noPath hn hp), rfl, hnone⟩
      | some p =>
        by_cases hrunning : name ∈ st.names
        · rw [invoke_of_running hp hrunning] at hcall
          cases hcall
          exact ⟨[], _, .raised ⟨st, scope, he⟩ (.recursion _ hn hp), rfl, hnone⟩
        · have hd := Registry.mem_names_of_find? hp
          rw [invoke_of_idle hp hd hrunning] at hcall
          obtain ⟨t, ht, inner, e', he', rfl⟩ := NamedPath.run_fails hcall
          obtain ⟨ss, f, hpasses, rfl, hlength⟩ := ih name hd hrunning he'
          refine ⟨t :: ss, f, .called ⟨st, scope, he⟩ hn hp ht hpasses, rfl, ?_⟩
          rw [CallStack.names_push, List.length_append, List.length_singleton] at hlength
          rw [List.length_cons]
          omega

/-! ### Sessions -/

namespace Session

/-- **Every error names its origin.** A text that is no script is refused for a fault of its blocks, a
reserved name, or one of its lines. Any other error has passed through a chain of statements from one
of the script on, each in the body of a path that the one before it goes by; it is told with these
statements around the fault that the last of them raises, and they are no more than there are paths,
and one more. -/
theorem eval_failure (g : Graph) (s : Session) (text : String) {e : Error} (h : (s.eval g text).2 = .error e) :
    (Script.parse text = .error e ∧ e.Refusal 1 (Text.lines text.toList)) ∨
      ∃ script t ss f, Script.parse text = .ok script ∧ t ∈ script.body ∧
        (s.eval g text).1.registry.Passes g (t :: ss) f ∧ e = .through (t :: ss) f ∧ e.fault = f ∧
        e.trail.length ≤ (s.eval g text).1.registry.size + 1 := by
  cases hparse : Script.parse text with
  | error e' =>
    simp only [eval, hparse] at h
    cases h
    exact .inl ⟨rfl, Script.parse_error hparse⟩
  | ok script =>
    rw [s.eval_of_accepted g hparse] at h ⊢
    rw [runBody_registry]
    rcases runBody_cases g _ script.body with ⟨env, xs, -, hok, -⟩ | ⟨env, t, e', ht, he', -, herror⟩
    · rw [hok] at h
      cases h
    · rw [herror] at h
      cases h
      obtain ⟨ss, f, hpasses, rfl, hlength⟩ := Statement.passes_of_error he'
      refine .inr ⟨script, t, ss, f, rfl, ht, hpasses, rfl, Error.fault_through (t :: ss) f, ?_⟩
      rw [show Error.within t (.through ss f) = .through (t :: ss) f from rfl, Error.trail_through,
        List.length_map, List.length_cons]
      exact Nat.succ_le_succ hlength

/-- A path in which one goes on from edges, as if they were people. -/
def strayed : Script :=
  ⟨[outwardPath, ⟨"friends", 4, [⟨5, "./known/outE", none, ⟨.context, none,
      [⟨.path "known", none, "./known"⟩, ⟨.hop .outE, none, "/outE"⟩]⟩⟩]⟩],
    [⟨7, "./friends", none, ⟨.context, none, [⟨.path "friends", none, "./friends"⟩]⟩⟩]⟩

/-- The last line of the script fails at the statement of the path it goes by, the path that is called
from there being done. -/
theorem eval_failure_strayed :
    let s := start (Environment.empty.set contextName [.vertex ⟨1⟩])
    let text := "path known\n./outE\nend\npath friends\n./known/outE\nend\n./friends"
    Script.parse text = .ok strayed ∧
      (s.eval twoPeople text).2 =
        .error ⟨[⟨7, "./friends"⟩, ⟨5, "./known/outE"⟩], .navigation "/outE" (.edge ⟨3⟩)⟩ ∧
      ∃ t ss, t ∈ strayed.body ∧
        (s.eval twoPeople text).1.registry.Passes twoPeople (t :: ss) (.navigation "/outE" (.edge ⟨3⟩)) ∧
        (t :: ss).map Statement.site = [⟨7, "./friends"⟩, ⟨5, "./known/outE"⟩] := by
  intro s text
  have hparse : Script.parse text = .ok strayed := by decide +kernel
  have herror : (s.eval twoPeople text).2 =
      .error ⟨[⟨7, "./friends"⟩, ⟨5, "./known/outE"⟩], .navigation "/outE" (.edge ⟨3⟩)⟩ := by
    rw [s.eval_of_accepted twoPeople hparse, runBody, invoke_empty_eq_within]
    decide +kernel
  refine ⟨hparse, herror, ?_⟩
  rcases eval_failure twoPeople s text herror with ⟨hrefused, -⟩ | ⟨script, t, ss, f, hscript, ht, hpasses, he, hf, -⟩
  · rw [hparse] at hrefused
    cases hrefused
  · rw [hparse] at hscript
    cases hscript
    subst hf
    refine ⟨t, ss, ht, hpasses, ?_⟩
    rw [← Error.trail_through, ← he]

end Session

end Footpath
