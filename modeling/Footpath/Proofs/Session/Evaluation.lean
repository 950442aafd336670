import Mathlib.Data.List.Basic
import Footpath.Session
import Footpath.Proofs.Invocation.Inlining
import Footpath.Proofs.Script.Names

/-! What evaluating a script does to a session.

A text that is no script changes nothing. Of a script, every path is defined, whatever becomes of
its statements (`Registry.Gains`): the parser lets no reserved name through, so neither check behind it
refuses one. The variables are then those behind the longest part of the body that runs
(`Statement.Runs`, `Statement.Assigns`), and the outcome is the value of its last target, or the error of
the statement that comes next. `eval_outcome` says this of every text and every session. -/
namespace Footpath

/-! ### Defining paths -/

/-- The second registry is the first with some paths defined in order: the last definition of a name
counts, and a name that is new comes behind the others, where it was first defined. -/
structure Registry.Gains (r : Registry) (ps : List NamedPath) (r' : Registry) : Prop where
  last : ∀ name, r'.find? name = ((ps.filter fun p => p.name = name).getLast?).or (r.find? name)
  order : r'.names = r.names ++ ((ps.map NamedPath.name).filter fun name => name ∉ r.names).eraseDups

theorem Registry.gains_foldl_put (r : Registry) (ps : List NamedPath) : r.Gains ps (ps.foldl put r) :=
  ⟨find?_foldl_put ps r, names_foldl_put ps r⟩

theorem Registry.define_of_free (r : Registry) {p : NamedPath} (h : isReserved p.name = false) :
    r.define p = .ok (r.put p) := by
  simp [define, h]

/-- Without a reserved name a session defines what its registry would. -/
theorem Session.defineAll_of_free (s : Session) {ps : List NamedPath}
    (h : ∀ p ∈ ps, isReserved p.name = false) :
    s.defineAll ps = ({ s with registry := ps.foldl Registry.put s.registry }, none) := by
  induction ps generalizing s with
  | nil => rfl
  | cons p ps ih =>
    rw [defineAll, s.registry.define_of_free (h p (List.mem_cons_self ..))]
    exact ih _ fun q hq => h q (List.mem_cons_of_mem _ hq)

/-! ### Running statements one after another -/

/-- `env'` is what becomes of the variables `env` of a script when all of some statements run, each
assigning its value to its own target. -/
inductive Statement.Runs (g : Graph) (reg : Registry) : Environment → List Statement → Environment → Prop where
  | nil (env : Environment) : Runs g reg env [] env
  | cons {env env' : Environment} {s : Statement} {rest : List Statement} {xs : Sequence} :
      s.expr.eval g (invoke g reg .empty) (.root env) = .ok xs →
      Runs g reg (env.set s.targetName xs) rest env' → Runs g reg env (s :: rest) env'

namespace Statement

variable {g : Graph} {reg : Registry}

/-- Only targets change. -/
theorem Runs.get?_eq {env env' : Environment} {ss : List Statement} (h : Runs g reg env ss env')
    {name : String} (hn : ∀ s ∈ ss, bareName name ≠ bareName s.targetName) :
    env'.get? name = env.get? name := by
  induction h with
  | nil => rfl
  | cons _ _ ih =>
    rw [ih fun s hs => hn s (List.mem_cons_of_mem _ hs), Environment.get?_set,
      if_neg (hn _ (List.mem_cons_self ..))]

theorem Runs.split {env env' : Environment} {ss ts : List Statement} (h : Runs g reg env (ss ++ ts) env') :
    ∃ env₁, Runs g reg env ss env₁ ∧ Runs g reg env₁ ts env' := by
  induction ss generalizing env with
  | nil => exact ⟨env, .nil env, h⟩
  | cons s ss ih =>
    cases h with
    | cons hx hrest =>
      obtain ⟨env₁, hss, hts⟩ := ih hrest
      exact ⟨env₁, .cons hx hss, hts⟩

/-- Targets that are new come behind the other variables. -/
theorem Runs.names_eq {env env' : Environment} {ss : List Statement} (h : Runs g reg env ss env') :
    env'.toList.map Prod.fst = env.toList.map Prod.fst ++
      ((ss.map fun s => bareName s.targetName).filter fun n => n ∉ env.toList.map Prod.fst).eraseDups := by
  induction h with
  | nil => exact (List.append_nil _).symm
  | cons _ _ ih =>
    rw [ih, Environment.names_set]
    exact OrderedMap.keys_then _ _ _

/-- The target of the last statement is bound. -/
theorem Runs.get_last {env env' : Environment} {ss : List Statement} (h : Runs g reg env ss env')
    {s : Statement} (hs : ss.getLast? = some s) : ∃ xs, env'.get s.targetName = .ok xs := by
  induction h with
  | nil => cases hs
  | @cons env env' s' rest xs _ hrest ih =>
    cases rest with
    | nil =>
      cases hrest
      cases hs
      exact ⟨xs, by simp [Environment.get, Environment.get?_set]⟩
    | cons r rest => exact ih (by simpa using hs)

/-- What statements that run one after another make of the variables `env`. A target has the value of the
last statement that assigns it, taken behind those before it; other variables stay as they are. -/
structure Assigns (g : Graph) (reg : Registry) (env : Environment) (ss : List Statement) (env' : Environment) :
    Prop where
  runs : Runs g reg env ss env'
  last : ∀ before s after, ss = before ++ s :: after →
    (∀ t ∈ after, bareName s.targetName ≠ bareName t.targetName) →
    ∃ env₁ xs, Runs g reg env before env₁ ∧ s.expr.eval g (invoke g reg .empty) (.root env₁) = .ok xs ∧
      env'.get? s.targetName = some xs
  others : ∀ name, (∀ s ∈ ss, bareName name ≠ bareName s.targetName) → env'.get? name = env.get? name
  order : env'.toList.map Prod.fst = env.toList.map Prod.fst ++
    ((ss.map fun s => bareName s.targetName).filter fun n => n ∉ env.toList.map Prod.fst).eraseDups

theorem Runs.assigns {env env' : Environment} {ss : List Statement} (h : Runs g reg env ss env') :
    Assigns g reg env ss env' := by
  refine ⟨h, fun before s after hss hafter => ?_, fun name => h.get?_eq, h.names_eq⟩
  rw [hss] at h
  obtain ⟨env₁, hbefore, hrest⟩ := h.split
  cases hrest with
  | @cons _ _ _ _ xs hs hrest =>
    refine ⟨env₁, xs, hbefore, hs, ?_⟩
    rw [hrest.get?_eq hafter, Environment.get?_set, if_pos rfl]

/-- Statements run up to the first that fails. -/
theorem runAll_root (g : Graph) (reg : Registry) (env : Environment) (body : List Statement) :
    ∃ done rest env', body = done ++ rest ∧ Runs g reg env done env' ∧
      match rest with
      | [] => runAll g (invoke g reg .empty) (.root env) body = (.root env', none)
      | s :: _ => ∃ e, s.expr.eval g (invoke g reg .empty) (.root env') = .error e ∧
          runAll g (invoke g reg .empty) (.root env) body = (.root env', some (e.within s)) := by
  induction body generalizing env with
  | nil => exact ⟨[], [], env, rfl, .nil env, rfl⟩
  | cons s body ih =>
    cases hs : s.expr.eval g (invoke g reg .empty) (.root env) with
    | error e =>
      refine ⟨[], s :: body, env, rfl, .nil env, e, hs, ?_⟩
      simp only [runAll, run, hs]
    | ok xs =>
      obtain ⟨done, rest, env', hbody, hdone, hrest⟩ := ih (env.set s.targetName xs)
      have hstep : runAll g (invoke g reg .empty) (.root env) (s :: body) =
          runAll g (invoke g reg .empty) (.root (env.set s.targetName xs)) body := by
        simp only [runAll, run, hs]
        rfl
      refine ⟨s :: done, rest, env', by rw [hbody]; rfl, .cons hs hdone, ?_⟩
      rw [hstep]
      exact hrest

end Statement

/-! ### Evaluating a script -/

namespace Session

/-- A script that has been read is run with all of its paths defined. -/
theorem eval_of_parse (g : Graph) (s : Session) {text : String} {script : Script}
    (h : Script.parse text = .ok script) :
    s.eval g text =
      { s with registry := script.paths.foldl Registry.put s.registry }.runBody g script.body := by
  have hfree : ∀ p ∈ script.paths, isReserved p.name = false := fun p hp =>
    (Script.wellNamed_of_parse h p hp).free
  have hnone : script.paths.find? (fun p => isReserved p.name) = none := by
    rw [List.find?_eq_none]
    intro p hp
    rw [hfree p hp]
    decide
  simp only [eval, h, run, hnone, s.defineAll_of_free hfree]

/-- **What evaluating a script does to a session.** Of the body the statements `done` run, and those that
are left begin with one that fails. The last lines are the outcome: of a body that runs to its end the
value of its last target, none without statements; otherwise the error of the first statement that fails,
inside one that tells its line and text. -/
theorem eval_outcome (g : Graph) (s : Session) (text : String) :
    match Script.parse text with
    | .error e => s.eval g text = (s, .error e)
    | .ok script => ∃ (registry : Registry) (done rest : List Statement) (env : Environment),
        (s.eval g text).1 = ⟨registry, env, s.seed⟩ ∧ s.registry.Gains script.paths registry ∧
        script.body = done ++ rest ∧ Statement.Assigns g registry s.env done env ∧
        match rest with
        | [] => ∃ xs, (s.eval g text).2 = .ok xs ∧ match done.getLast? with
            | none => xs = []
            | some t => env.get t.targetName = .ok xs
        | t :: _ => ∃ e e', t.expr.eval g (invoke g registry .empty) (.root env) = .error e ∧
            (s.eval g text).2 = .error e' ∧ e'.raised = .statement ⟨t.line, t.text⟩ e.raised := by
  cases hparse : Script.parse text with
  | error e => simp only [eval, hparse]
  | ok script =>
    obtain ⟨done, rest, env, hbody, hdone, hrest⟩ :=
      Statement.runAll_root g (script.paths.foldl Registry.put s.registry) s.env script.body
    have heval := s.eval_of_parse g hparse
    refine ⟨_, done, rest, env, ?_, s.registry.gains_foldl_put script.paths, hbody, hdone.assigns, ?_⟩
    · rw [heval, runBody]
      cases rest with
      | nil =>
        dsimp only at hrest ⊢
        rw [hrest]
        rfl
      | cons t rest =>
        obtain ⟨e, -, hrun⟩ := hrest
        dsimp only
        rw [hrun]
        rfl
    rw [heval, runBody]
    cases rest with
    | nil =>
      dsimp only at hrest ⊢
      rw [hrest, hbody, List.append_nil]
      cases hlast : done.getLast? with
      | none => exact ⟨[], by simp only [resultOf, hlast]; rfl, rfl⟩
      | some t =>
        obtain ⟨xs, hxs⟩ := hdone.get_last hlast
        refine ⟨xs, ?_, hxs⟩
        simp only [resultOf, hlast]
        exact congrArg (Except.mapError Error.ofFault) hxs
    | cons t rest =>
      obtain ⟨e, he, hrun⟩ := hrest
      dsimp only
      rw [hrun]
      exact ⟨e, e.within t, he, rfl, e.raised_within t⟩

/-- A path that is new, one that is defined again, and a last statement that fails behind two. -/
def renewal : Script :=
  ⟨[⟨"back", 1, [⟨2, "./inE", none, ⟨.context, none, [⟨.hop .inE, none, "./inE"⟩]⟩⟩]⟩,
      ⟨"known", 4, [⟨5, "./outE", none, ⟨.context, none, [⟨.hop .outE, none, "./outE"⟩]⟩⟩]⟩],
    [⟨7, "$k := ./known", some "k", ⟨.context, none, [⟨.path "known", none, "./known"⟩]⟩⟩,
      ⟨8, "./known", none, ⟨.context, none, [⟨.path "known", none, "./known"⟩]⟩⟩,
      ⟨9, "./outE", none, ⟨.context, none, [⟨.hop .outE, none, "./outE"⟩]⟩⟩]⟩

/-- The paths are defined although the script fails, and what was assigned before stays. -/
theorem eval_outcome_renewal :
    let s : Session := ⟨acquaintances, Environment.empty.set contextName [.vertex ⟨1⟩], .empty⟩
    let text := "path back\n./inE\nend\npath known\n./outE\nend\n$k := ./known\n./known\n./outE"
    Script.parse text = .ok renewal ∧
      (s.eval twoPeople text).1.registry.names = ["known", "friends", "back"] ∧
      (s.eval twoPeople text).1.registry.find? "known" = renewal.paths[1]? ∧
      (s.eval twoPeople text).1.registry.find? "friends" = some friendsPath ∧
      (s.eval twoPeople text).1.env = (s.env.set "k" [.edge ⟨3⟩]).set contextName [.edge ⟨3⟩] ∧
      (s.eval twoPeople text).2 = .error ⟨[⟨9, "./outE"⟩], .navigation "./outE" (.edge ⟨3⟩)⟩ := by
  intro s text
  have hparse : Script.parse text = .ok renewal := by decide +kernel
  have houtcome := eval_outcome twoPeople s text
  rw [hparse] at houtcome
  obtain ⟨registry, done, rest, env, hsession, hgains, -⟩ := houtcome
  have hregistry : (s.eval twoPeople text).1.registry = registry := congrArg Session.registry hsession
  rw [hregistry]
  refine ⟨hparse, hgains.order.trans (by decide), (hgains.last "known").trans (by decide),
    (hgains.last "friends").trans (by decide), ?_, ?_⟩
  all_goals
    rw [s.eval_of_parse twoPeople hparse, runBody, invoke_empty_eq_within]
    decide +kernel

end Session

end Footpath
