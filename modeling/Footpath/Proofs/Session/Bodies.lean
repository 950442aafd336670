import Footpath.Proofs.Invocation.Correspondence
import Footpath.Proofs.Session.Evaluation

/-! The statements of a script.

A body runs to its end, or up to a statement that fails (`runBody_cases`). A body in two parts runs
the second where the first leaves off (`runBody_append`). Corresponding bodies have corresponding
ends and assign the same, in registries that correspond in what the bodies reach
(`runBody_corresponds`). -/
namespace Footpath

/-! ### Redefinitions -/

namespace Registry

/-- The registry with the paths of a script defined. -/
def defining (r : Registry) (script : Script) : Registry := script.paths.foldl put r

end Registry

/-! ### Runs of a body -/

namespace Session

variable {g : Graph}

/-- Statements assign variables, and change nothing else of a session. -/
theorem runBody_fst (g : Graph) (s : Session) (body : List Statement) :
    (s.runBody g body).1 = { s with env := (s.runBody g body).1.env } := by
  unfold runBody
  split <;> rfl

theorem runBody_registry (g : Graph) (s : Session) (body : List Statement) :
    (s.runBody g body).1.registry = s.registry := by
  rw [runBody_fst]

/-- All statements run, or one of them fails and the error has passed through it. -/
theorem runBody_cases (g : Graph) (s : Session) (body : List Statement) :
    (∃ env xs, Statement.runAll g (invoke g s.registry .empty) (.root s.env) body = (.root env, none) ∧
      s.runBody g body = ({ s with env }, .ok xs) ∧ resultOf env body = .ok xs) ∨
    ∃ env t e, t ∈ body ∧ t.expr.eval g (invoke g s.registry .empty) (.root env) = .error e ∧
      Statement.runAll g (invoke g s.registry .empty) (.root s.env) body = (.root env, some (e.within t)) ∧
      s.runBody g body = ({ s with env }, .error (e.within t)) := by
  obtain ⟨done, rest, env, hbody, hdone, hrest⟩ := Statement.runAll_root g s.registry s.env body
  cases rest with
  | nil =>
    rw [List.append_nil] at hbody
    have hresult : ∃ xs, resultOf env body = .ok xs := by
      rw [hbody, resultOf]
      cases hlast : done.getLast? with
      | none => exact ⟨[], rfl⟩
      | some t => exact hdone.get_last hlast
    obtain ⟨xs, hxs⟩ := hresult
    refine .inl ⟨env, xs, hrest, ?_, hxs⟩
    rw [runBody, hrest]
    show ({ s with env }, (resultOf env body).mapError Error.ofFault) = _
    rw [hxs]
    rfl
  | cons t rest =>
    obtain ⟨e, he, hrun⟩ := hrest
    refine .inr ⟨env, t, e, ?_, he, hrun, by rw [runBody, hrun]; rfl⟩
    rw [hbody]
    exact List.mem_append_right _ List.mem_cons_self

theorem eval_of_accepted (g : Graph) (s : Session) {text : String} {script : Script}
    (h : Script.parse text = .ok script) :
    s.eval g text = { s with registry := s.registry.defining script }.runBody g script.body :=
  s.eval_of_parse g h

theorem runBody_append (g : Graph) (s : Session) (a b : List Statement) :
    s.runBody g (a ++ b) =
      match s.runBody g a with
      | (s, .error e) => (s, .error e)
      | (s, .ok xs) => if b.isEmpty then (s, .ok xs) else s.runBody g b := by
  rcases s.runBody_cases g a with ⟨env, xs, hrun, hbody, hxs⟩ | ⟨env, t, e, -, -, hrun, hbody⟩
  · rw [hbody]
    dsimp only
    split
    · rename_i hempty
      rw [List.isEmpty_iff.1 hempty, List.append_nil, hbody]
    · rename_i hb
      rw [runBody, runBody, Statement.runAll_append, hrun]
      dsimp only
      have hlast : ∀ env, resultOf env (a ++ b) = resultOf env b := by
        intro env
        rw [resultOf, resultOf, List.getLast?_append]
        cases hb' : b.getLast? with
        | none => exact absurd (List.getLast?_eq_none_iff.1 hb') (by simpa using hb)
        | some t => rfl
      simp only [hlast]
  · rw [hbody, runBody, Statement.runAll_append, hrun]
    rfl

end Session

/-! ### Corresponding bodies -/

section
variable {R : Site → Site → Prop} {g : Graph} {call call' : Invoker}

theorem Statement.runAll_corresponds {ss ss' : List Statement}
    (hss : List.Forall₂ (Statement.Corresponds R) ss ss')
    (hcall : ∀ env n, Step.Invokes (allSteps ss) n → ∀ ys, SameEnd R (call env n ys) (call' env n ys))
    (scope : Scope) :
    (runAll g call scope ss).1 = (runAll g call' scope ss').1 ∧
      Option.Rel (Error.Corresponds R) (runAll g call scope ss).2 (runAll g call' scope ss').2 := by
  induction hss generalizing scope with
  | nil => exact ⟨rfl, .none⟩
  | @cons s s' ss ss' hs hss ih =>
    have heval : SameEnd R (s.expr.eval g call scope) (s'.expr.eval g call' scope) := by
      rw [hs.expr]
      exact Expr.eval_corresponds fun n hn => hcall _ n (invokes_allSteps_cons.2 (.inl hn))
    simp only [runAll, run]
    cases hx : s.expr.eval g call scope with
    | error e =>
      cases hx' : s'.expr.eval g call' scope with
      | error e' =>
        rw [hx, hx'] at heval
        cases heval with
        | error h => exact ⟨rfl, .some ⟨h.fault, .cons hs.site h.trail⟩⟩
      | ok xs =>
        rw [hx, hx'] at heval
        cases heval
    | ok xs =>
      cases hx' : s'.expr.eval g call' scope with
      | error e' =>
        rw [hx, hx'] at heval
        cases heval
      | ok xs' =>
        rw [hx, hx'] at heval
        cases heval
        rw [hs.targetName]
        exact ih (fun env n hn => hcall env n (invokes_allSteps_cons.2 (.inr hn))) _

theorem Session.resultOf_corresponds {ss ss' : List Statement}
    (hss : List.Forall₂ (Statement.Corresponds R) ss ss') (env : Environment) :
    resultOf env ss = resultOf env ss' := by
  have hnames : ss.map Statement.targetName = ss'.map Statement.targetName := by
    rw [← List.forall₂_eq_eq_eq, List.forall₂_map_left_iff, List.forall₂_map_right_iff]
    exact hss.imp fun s s' hs => hs.targetName.symm
  have hlast := congrArg List.getLast? hnames
  rw [List.getLast?_map, List.getLast?_map] at hlast
  rw [resultOf, resultOf]
  cases hs : ss.getLast? with
  | none =>
    rw [hs, Option.map_none, eq_comm, Option.map_eq_none_iff] at hlast
    rw [hlast]
  | some s =>
    rw [hs, Option.map_some, eq_comm, Option.map_eq_some_iff] at hlast
    obtain ⟨s', hs', htarget⟩ := hlast
    rw [hs']
    exact congrArg env.get htarget.symm

/-- Corresponding bodies assign the same and have corresponding ends. -/
theorem Session.runBody_corresponds {s s' : Session} (henv : s'.env = s.env) {body body' : List Statement}
    (hbody : List.Forall₂ (Statement.Corresponds R) body body')
    (hreg : ∀ n, s.registry.Reaches (Statement.allSteps body) n → s.registry.CorrespondsAt R s'.registry n) :
    (s'.runBody g body').1.env = (s.runBody g body).1.env ∧
      SameEnd R (s.runBody g body).2 (s'.runBody g body').2 := by
  obtain ⟨hscope, hfailure⟩ := Statement.runAll_corresponds (g := g) hbody
    (fun env n hn ys => invoke_corresponds (fun m hm => hreg m ⟨n, hn, hm⟩)
      (show (CallStack.empty : CallStack s'.registry).names = (CallStack.empty : CallStack s.registry).names from rfl)
      env ys) (.root s.env)
  rw [runBody, runBody, henv]
  cases hrun : Statement.runAll g (invoke g s.registry .empty) (.root s.env) body with
  | mk scope failure =>
    cases hrun' : Statement.runAll g (invoke g s'.registry .empty) (.root s.env) body' with
    | mk scope' failure' =>
      rw [hrun, hrun'] at hscope hfailure
      obtain rfl : scope = scope' := hscope
      cases hfailure with
      | none =>
        refine ⟨rfl, ?_⟩
        show SameEnd R ((resultOf scope.frame body).mapError _) ((resultOf scope.frame body').mapError _)
        rw [resultOf_corresponds hbody]
        exact .of_fault _
      | some h => exact ⟨rfl, .error h⟩

end

end Footpath
