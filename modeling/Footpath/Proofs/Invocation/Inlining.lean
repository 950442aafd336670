import Footpath.Graph.Change
import Footpath.Proofs.Invocation.CallGraph

/-! Invoking a path is inlining it.

A bare relative statement takes `$_` through its steps and back to `$_`, so a body of such
statements is the row of their steps. What the invocation adds is a frame of its own, the name of
the path on the stack, and a statement around every error. The frame is not seen by the paths that
the steps call. The name is not seen either unless they call back: an invocation looks on the stack
for names that it reaches only (`invoke_of_unreached`). `run_path_step` puts the two together. -/
namespace Footpath
open Relation

/-! ### Bodies of bare statements -/

/-- A statement such as `./outE/inV`: no variable is named, and nothing is filtered before the steps. -/
structure Statement.IsBare (s : Statement) : Prop where
  target : s.target = none
  source : s.expr.source = .context
  filter : s.expr.filter = none

section
variable (g : Graph) (call : Invoker) {env : Environment}

theorem Statement.IsBare.targetName {s : Statement} (h : s.IsBare) : s.targetName = contextName := by
  rw [Statement.targetName, h.target, Option.getD_none]

/-- A bare statement runs its steps on `$_`. -/
theorem Statement.IsBare.eval {s : Statement} (h : s.IsBare) {scope : Scope} {xs : Sequence}
    (hs : scope.script = some env) (hx : scope.frame.get? contextName = some xs) :
    s.expr.eval g call scope = Step.runAll g (call env) s.expr.steps xs := by
  have hlookup : scope.lookup contextName = .ok xs := by
    rw [Scope.lookup, Scope.lookup?, hx]
  have hstart : s.expr.start g scope = .ok xs := by
    rw [Expr.start, h.source, Source.eval, hlookup, h.filter]
  rw [Expr.eval, hstart, Scope.scriptEnv_of_script hs]

theorem Statement.runAll_bare {ss : List Statement} (hbare : ∀ s ∈ ss, s.IsBare) {scope : Scope}
    {xs : Sequence} (hs : scope.script = some env) (hx : scope.frame.get? contextName = some xs) :
    match Step.runAll g (call env) (allSteps ss) xs with
    | .ok ys => ∃ scope', runAll g call scope ss = (scope', none) ∧ scope'.frame.get? contextName = some ys
    | .error e => ∃ scope', ∃ s ∈ ss, runAll g call scope ss = (scope', some (e.within s)) := by
  induction ss generalizing scope xs with
  | nil => exact ⟨scope, rfl, hx⟩
  | cons s ss ih =>
    have hb := hbare s (List.mem_cons_self ..)
    have heval := hb.eval g call hs hx
    have hsteps : Step.runAll g (call env) (allSteps (s :: ss)) xs =
        Step.runAll g (call env) s.expr.steps xs >>= Step.runAll g (call env) (allSteps ss) :=
      Step.runAll_append g (call env) s.expr.steps (allSteps ss) xs
    rw [hsteps]
    cases hrun : Step.runAll g (call env) s.expr.steps xs with
    | error e =>
      exact ⟨scope, s, List.mem_cons_self .., runAll_of_error (heval.trans hrun) ss⟩
    | ok ys =>
      have hnext := runAll_of_ok (heval.trans hrun) ss
      rw [hb.targetName] at hnext
      have hy : (scope.set contextName ys).frame.get? contextName = some ys := by
        rw [Scope.set, Environment.get?_set, if_pos rfl]
      have hrest := ih (fun t ht => hbare t (List.mem_cons_of_mem _ ht)) (by rwa [Scope.script_set]) hy
      rw [hnext]
      show match Step.runAll g (call env) (allSteps ss) ys with
        | .ok zs => _
        | .error e => _
      cases hys : Step.runAll g (call env) (allSteps ss) ys with
      | ok zs =>
        rw [hys] at hrest
        exact hrest
      | error e =>
        rw [hys] at hrest
        obtain ⟨scope', t, ht, hfail⟩ := hrest
        exact ⟨scope', t, List.mem_cons_of_mem _ ht, hfail⟩

/-- A body of bare statements does what its steps do, an error having passed through one of them. -/
theorem NamedPath.run_bare (env : Environment) {p : NamedPath} (hbare : ∀ s ∈ p.body, s.IsBare)
    (xs : Sequence) :
    match Step.runAll g (call env) p.steps xs with
    | .ok ys => p.run g call env xs = .ok ys
    | .error e => ∃ s ∈ p.body, p.run g call env xs = .error (e.within s) := by
  have hname : p.resultName = contextName := by
    unfold resultName
    cases hlast : p.body.getLast? with
    | none => rfl
    | some s =>
      rw [Option.map_some, Option.getD_some]
      exact (hbare s (List.mem_of_getLast? hlast)).targetName
  have hframe : (Environment.empty.set contextName xs).get? contextName = some xs := by
    rw [Environment.get?_set, if_pos rfl]
  have hbody := Statement.runAll_bare g call hbare
    (show (Scope.mk (Environment.empty.set contextName xs) (some env)).script = some env from rfl) hframe
  unfold steps
  cases hrun : Step.runAll g (call env) (Statement.allSteps p.body) xs with
  | ok ys =>
    rw [hrun] at hbody
    obtain ⟨scope, hscope, hy⟩ := hbody
    simp only [run, hscope, hname, hy, Option.getD_some]
  | error e =>
    rw [hrun] at hbody
    obtain ⟨scope, s, hs, hscope⟩ := hbody
    exact ⟨s, hs, by simp only [run, hscope]⟩

end

/-! ### Names on the stack that are out of reach -/

section
variable {g : Graph} {reg : Registry} {env : Environment} {name : String} {xs : Sequence}

/-- Two stacks that differ below only, in names that the invoked path does not reach, are the same to it. -/
theorem invoke_of_unreached {st st' : CallStack reg} {a b c : List String} (h : st.names = a ++ c)
    (h' : st'.names = b ++ c) (hfree : ∀ n, ReflTransGen reg.Calls name n → n ∉ a ∧ n ∉ b) :
    invoke g reg st env name xs = invoke g reg st' env name xs := by
  induction st, name using invoke_induction generalizing st' c env xs with
  | undefined st name hp => rw [invoke_of_undefined hp, invoke_of_undefined hp]
  | running st name p hp hn =>
    obtain ⟨ha, hb⟩ := hfree name .refl
    have hn' : name ∈ st'.names := by
      rw [h, List.mem_append] at hn
      rw [h', List.mem_append]
      exact .inr (hn.resolve_left ha)
    have hcycle : ∀ {l : List String}, name ∉ l →
        (l ++ c).dropWhile (fun n => decide (n ≠ name)) = c.dropWhile fun n => decide (n ≠ name) := by
      intro l hl
      refine List.dropWhile_append_of_pos fun n hn => ?_
      rw [decide_eq_true_eq]
      intro hne
      exact hl (hne ▸ hn)
    rw [invoke_of_running hp hn, invoke_of_running hp hn', CallStack.cycle, CallStack.cycle, h, h',
      hcycle ha, hcycle hb]
  | entered st name p hp hd hn ih =>
    have hn' : name ∉ st'.names := by
      rw [h, List.mem_append, not_or] at hn
      rw [h', List.mem_append, not_or]
      exact ⟨(hfree name .refl).2, hn.2⟩
    rw [invoke_of_idle hp hd hn, invoke_of_idle hp hd hn']
    apply NamedPath.run_congr
    intro n hcall ys
    apply ih n hcall (c := c ++ [name])
    · rw [CallStack.names_push, h, List.append_assoc]
    · rw [CallStack.names_push, h', List.append_assoc]
    · exact fun m hm => hfree m (.head ⟨p, hp, hcall⟩ hm)

/-! ### Invoking a path -/

/-- **Invoking is inlining.** A step by a path of bare statements that does not reach itself does to
every sequence what the steps of its body do in a row, the filter of the step coming last. It fails
when they do, with the same fault; all that its error may have more is one statement of the body. -/
theorem run_path_step (g : Graph) (env : Environment) {p : NamedPath} (hp : reg.find? name = some p) (hbare : ∀ s ∈ p.body, s.IsBare)
    (hself : ¬ reg.Reaches p.steps name) (filter : Option Predicate) (token : String) (xs : Sequence) :
    let step : Step := ⟨.path name, filter, token⟩
    let invoked := step.run g (invoke g reg .empty env) xs
    let inlined := Step.runAll g (invoke g reg .empty env) p.steps xs >>= step.filtered g
    (∀ ys, invoked = .ok ys ↔ inlined = .ok ys) ∧
      ∀ e, invoked = .error e → ∃ e', inlined = .error e' ∧ e.fault = e'.fault ∧
        (e = e' ∨ ∃ s ∈ p.body, e = e'.within s) := by
  intro step invoked inlined
  have hd := Registry.mem_names_of_find? hp
  have hempty : name ∉ (CallStack.empty : CallStack reg).names := List.not_mem_nil
  have hinvoke : invoke g reg .empty env name xs = p.run g (invoke g reg .empty) env xs := by
    rw [invoke_of_idle hp hd hempty]
    apply NamedPath.run_congr
    intro n hn ys
    apply invoke_of_unreached (a := [name]) (b := []) (c := []) rfl rfl
    intro m hm
    refine ⟨fun hmem => hself ?_, List.not_mem_nil⟩
    rw [← List.mem_singleton.1 hmem]
    exact ⟨n, hn, hm⟩
  have hrun : invoked = p.run g (invoke g reg .empty) env xs >>= step.filtered g := by
    rw [← hinvoke]
    exact Step.run_eq_bind g (invoke g reg .empty env) step xs
  have hbody := NamedPath.run_bare g (invoke g reg .empty) env hbare xs
  cases hsteps : Step.runAll g (invoke g reg .empty env) p.steps xs with
  | ok ys =>
    have hsame : invoked = inlined := by
      rw [hsteps] at hbody
      rw [hrun, hbody]
      show step.filtered g ys = Step.runAll g (invoke g reg .empty env) p.steps xs >>= step.filtered g
      rw [hsteps]
      rfl
    rw [hsame]
    exact ⟨fun _ => Iff.rfl, fun e he => ⟨e, he, rfl, .inl rfl⟩⟩
  | error e =>
    rw [hsteps] at hbody
    obtain ⟨s, hs, hfail⟩ := hbody
    have hinvoked : invoked = .error (e.within s) := by
      rw [hrun, hfail]
      rfl
    have hinlined : inlined = .error e := by
      show Step.runAll g (invoke g reg .empty env) p.steps xs >>= step.filtered g = .error e
      rw [hsteps]
      rfl
    rw [hinvoked, hinlined]
    refine ⟨fun ys => by simp, fun e' he' => ?_⟩
    cases he'
    exact ⟨e, rfl, rfl, .inr ⟨s, hs, rfl⟩⟩

end

/-- The edges that say `knows`. -/
def knownPath : NamedPath :=
  ⟨"known", 1, [⟨2, "./outE[@label = 'knows']", none, ⟨.context, none,
    [⟨.hop .outE, some (.compare .label .eq (.literal (.text "knows"))), "./outE[@label = 'knows']"⟩]⟩⟩]⟩

/-- The same under the same name, whatever the edges say. -/
def outwardPath : NamedPath :=
  ⟨"known", 1, [⟨2, "./outE", none, ⟨.context, none, [⟨.hop .outE, none, "./outE"⟩]⟩⟩]⟩

/-- Whom they lead to, in a body of one bare statement that goes by another path. -/
def friendsPath : NamedPath :=
  ⟨"friends", 4, [⟨5, "./known/inV", none, ⟨.context, none,
    [⟨.path "known", none, "./known"⟩, ⟨.hop .inV, none, "/inV"⟩]⟩⟩]⟩

def acquaintances : Registry := (Registry.empty.put knownPath).put friendsPath

def twoPeople : Graph :=
  Graph.empty.run [.addVertex "person", .addVertex "person", .addEdge "knows" ⟨1⟩ ⟨2⟩]

/-- From the first person the step leads to the second, as the steps of its body do in a row. -/
theorem run_path_step_friends :
    acquaintances.find? "friends" = some friendsPath ∧ (∀ s ∈ friendsPath.body, s.IsBare) ∧
      ¬ acquaintances.Reaches friendsPath.steps "friends" ∧
      (⟨.path "friends", none, "./friends"⟩ : Step).run twoPeople
        (invoke twoPeople acquaintances .empty .empty) [.vertex ⟨1⟩] = .ok [.vertex ⟨2⟩] := by
  have hp : acquaintances.find? "friends" = some friendsPath := by decide
  have hknown : acquaintances.find? "known" = some knownPath := by decide
  have hbare : ∀ s ∈ friendsPath.body, s.IsBare := by
    intro s hs
    rw [List.mem_singleton.1 hs]
    exact ⟨rfl, rfl, rfl⟩
  have hself : ¬ acquaintances.Reaches friendsPath.steps "friends" := by
    rintro ⟨m, ⟨s, hs, htarget⟩, hcalls⟩
    have hm : m = "known" := by
      rcases List.mem_cons.1 hs with rfl | hs
      · cases htarget
        rfl
      · rw [List.mem_singleton.1 hs] at htarget
        cases htarget
    rw [hm] at hcalls
    rcases hcalls.cases_head with heq | ⟨n, ⟨p, hfind, t, ht, htarget⟩, -⟩
    · exact absurd heq (by decide)
    · rw [hknown] at hfind
      cases hfind
      rw [List.mem_singleton.1 ht] at htarget
      cases htarget
  have hinlining := run_path_step twoPeople .empty hp hbare hself none "./friends" [.vertex ⟨1⟩]
  have hcall : invoke twoPeople acquaintances .empty .empty "known" [.vertex ⟨1⟩] = .ok [.edge ⟨3⟩] := by
    rw [invoke_of_idle hknown (Registry.mem_names_of_find? hknown) List.not_mem_nil]
    rfl
  have hok : Step.runAll twoPeople (invoke twoPeople acquaintances .empty .empty) friendsPath.steps
      [.vertex ⟨1⟩] >>= (⟨.path "friends", none, "./friends"⟩ : Step).filtered twoPeople =
        .ok [.vertex ⟨2⟩] := by
    have hsteps : friendsPath.steps =
        [⟨.path "known", none, "./known"⟩, ⟨.hop .inV, none, "/inV"⟩] := rfl
    simp only [hsteps, Step.runAll, Step.run, Step.navigate, hcall]
    rfl
  exact ⟨hp, hbare, hself, (hinlining.1 _).2 hok⟩

end Footpath
