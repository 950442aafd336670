import Footpath.Invocation

/-! How a run depends on the paths that it calls.

Steps, statements and bodies are run with a function that says how paths are invoked. Three things
are said of each of them here: with another function that agrees on the paths named the run is the
same, a run that succeeds has called every path that it names, and an error is either the run's own
(`Fault.Local`) or that of a call. Statements in a body call paths with the variables of the script,
whatever the body has assigned. -/
namespace Footpath

/-! ### Faults without a call -/

/-- What a step or an expression can meet by itself, no path being involved. -/
inductive Fault.Local : Fault → Prop where
  | unbound (name : String) : Local (.unbound name)
  | navigation (token : String) (x : Element) : Local (.navigation token x)
  | missing (m : Missing) : Local (.missing m)
  | incomparable (a : Value) (op : Comparison) (b : Value) : Local (.incomparable a op b)

theorem Predicate.holds_error {p : Predicate} {g : Graph} {x : Element} {f : Fault}
    (h : p.holds g x = .error f) : ∃ a op b, f = .incomparable a op b := by
  induction p with
  | compare l op r =>
    unfold Predicate.holds at h
    split at h
    · rename_i a b _ _
      unfold Comparison.compare at h
      split at h
      · cases h
      · cases h
        exact ⟨a, op, b, rfl⟩
    · cases h
  | and p q ihp ihq | or p q ihp ihq =>
    unfold Predicate.holds at h
    split at h
    · exact ihq h
    · exact ihp h

/-- A filter fails only on values without an order. -/
theorem Predicate.filter_error {p : Predicate} {g : Graph} {xs : Sequence} {f : Fault}
    (h : p.filter g xs = .error f) : ∃ a op b, f = .incomparable a op b := by
  induction xs with
  | nil => cases h
  | cons x xs ih =>
    unfold Predicate.filter at h
    split at h
    · rename_i hx
      cases h
      exact Predicate.holds_error hx
    · split at h
      · rename_i hxs
        cases h
        exact ih hxs
      · cases h

theorem Hop.sourceOf_error {g : Graph} {e : EdgeId} {f : Fault} (h : Hop.sourceOf g e = .error f) :
    f = .missing (.element (.edge e)) := by
  unfold Hop.sourceOf at h
  split at h
  · cases h
  · cases h
    rfl

theorem Hop.targetOf_error {g : Graph} {e : EdgeId} {f : Fault} (h : Hop.targetOf g e = .error f) :
    f = .missing (.element (.edge e)) := by
  unfold Hop.targetOf at h
  split at h
  · cases h
  · cases h
    rfl

theorem Hop.neighbours_error {k : Hop} {g : Graph} {token : String} {x : Element} {f : Fault}
    (h : k.neighbours g token x = .error f) :
    f = .navigation token x ∨ ∃ e, f = .missing (.element (.edge e)) := by
  unfold Hop.neighbours at h
  split at h
  · cases h
  · cases h
  · cases h
  · exact .inr ⟨_, Hop.sourceOf_error h⟩
  · exact .inr ⟨_, Hop.targetOf_error h⟩
  · rename_i e
    rcases bind_eq_error_iff.1 h with hs | ⟨ys, -, hrest⟩
    · exact .inr ⟨e, Hop.sourceOf_error hs⟩
    · rcases bind_eq_error_iff.1 hrest with ht | ⟨zs, -, hjoin⟩
      · exact .inr ⟨e, Hop.targetOf_error ht⟩
      · cases hjoin
  · cases h
    exact .inl rfl

theorem Hop.run_error {k : Hop} {g : Graph} {token : String} {xs : Sequence} {f : Fault}
    (h : k.run g token xs = .error f) :
    (∃ x ∈ xs, f = .navigation token x) ∨ ∃ e, f = .missing (.element (.edge e)) := by
  induction xs with
  | nil => cases h
  | cons x xs ih =>
    unfold Hop.run at h
    split at h
    · rename_i hx
      cases h
      exact (Hop.neighbours_error hx).imp_left fun hf => ⟨x, List.mem_cons_self .., hf⟩
    · split at h
      · rename_i hxs
        cases h
        exact (ih hxs).imp_left fun ⟨y, hy, hf⟩ => ⟨y, List.mem_cons_of_mem _ hy, hf⟩
      · cases h

theorem Scope.lookup_error {scope : Scope} {name : String} {f : Fault} (h : scope.lookup name = .error f) :
    f = .unbound (bareName name) := by
  unfold Scope.lookup at h
  split at h
  · cases h
  · cases h
    rfl

theorem Source.eval_error {g : Graph} {scope : Scope} {src : Source} {f : Fault}
    (h : src.eval g scope = .error f) : (∃ name, f = .unbound name) ∨ ∃ id, f = .missing (.named id) := by
  cases src with
  | context => exact .inl ⟨_, Scope.lookup_error h⟩
  | var name => exact .inl ⟨_, Scope.lookup_error h⟩
  | lookup id =>
    simp only [Source.eval] at h
    split at h
    · cases h
    · cases h
      exact .inr ⟨id, rfl⟩

theorem Expr.start_error {g : Graph} {scope : Scope} {e : Expr} {f : Fault}
    (h : e.start g scope = .error f) : f.Local := by
  unfold Expr.start at h
  split at h
  · rename_i hs
    cases h
    rcases Source.eval_error hs with ⟨name, rfl⟩ | ⟨id, rfl⟩
    · exact .unbound name
    · exact .missing _
  · split at h
    · cases h
    · obtain ⟨a, op, b, rfl⟩ := Predicate.filter_error h
      exact .incomparable a op b

/-! ### Steps -/

namespace Step

variable {g : Graph} {call call' : String → Sequence → Except Error Sequence}

/-- Some of the steps goes by the path of this name. -/
def Invokes (ss : List Step) (name : String) : Prop := ∃ s ∈ ss, s.target = .path name

instance (ss : List Step) (name : String) : Decidable (Invokes ss name) :=
  inferInstanceAs (Decidable (∃ s ∈ ss, s.target = .path name))

theorem Invokes.cons_iff {s : Step} {ss : List Step} {name : String} :
    Invokes (s :: ss) name ↔ s.target = .path name ∨ Invokes ss name := by
  simp [Invokes]

theorem Invokes.append_iff {a b : List Step} {name : String} :
    Invokes (a ++ b) name ↔ Invokes a name ∨ Invokes b name := by
  simp [Invokes, or_and_right, exists_or]

theorem run_eq_bind (g : Graph) (call : String → Sequence → Except Error Sequence) (s : Step) (xs : Sequence) :
    s.run g call xs = s.navigate g call xs >>= s.filtered g := by
  unfold run
  cases s.navigate g call xs <;> rfl

theorem runAll_cons (g : Graph) (call : String → Sequence → Except Error Sequence) (s : Step) (ss : List Step)
    (xs : Sequence) : runAll g call (s :: ss) xs = s.run g call xs >>= runAll g call ss := by
  rw [runAll]
  cases s.run g call xs <;> rfl

theorem run_congr {s : Step} (h : ∀ name, s.target = .path name → ∀ ys, call name ys = call' name ys)
    (xs : Sequence) : s.run g call xs = s.run g call' xs := by
  have hnav : s.navigate g call xs = s.navigate g call' xs := by
    unfold navigate
    split
    · rfl
    · rename_i name ht
      exact h name ht xs
  rw [run_eq_bind, run_eq_bind, hnav]

theorem runAll_congr {ss : List Step} (h : ∀ name, Invokes ss name → ∀ ys, call name ys = call' name ys)
    (xs : Sequence) : runAll g call ss xs = runAll g call' ss xs := by
  induction ss generalizing xs with
  | nil => rfl
  | cons s ss ih =>
    have hs : s.run g call xs = s.run g call' xs :=
      run_congr (fun name ht => h name (Invokes.cons_iff.2 (.inl ht))) xs
    rw [runAll, runAll, hs]
    cases s.run g call' xs with
    | error e => rfl
    | ok ys => exact ih (fun name hn => h name (Invokes.cons_iff.2 (.inr hn))) ys

theorem run_invokes {s : Step} {xs zs : Sequence} (h : s.run g call xs = .ok zs) {name : String}
    (hn : s.target = .path name) : ∃ ys, call name xs = .ok ys := by
  unfold run at h
  split at h
  · cases h
  · rename_i ys hys
    unfold navigate at hys
    rw [hn] at hys
    exact ⟨ys, hys⟩

theorem runAll_invokes {ss : List Step} {xs zs : Sequence} (h : runAll g call ss xs = .ok zs)
    {name : String} (hn : Invokes ss name) : ∃ ys ys', call name ys = .ok ys' := by
  induction ss generalizing xs with
  | nil => obtain ⟨s, hs, -⟩ := hn; cases hs
  | cons s ss ih =>
    unfold runAll at h
    split at h
    · cases h
    · rename_i ys hys
      rcases Invokes.cons_iff.1 hn with ht | hn
      · exact ⟨xs, run_invokes hys ht⟩
      · exact ih h hn

/-- Where an error of a step comes from. -/
theorem run_error {s : Step} {xs : Sequence} {e : Error} (h : s.run g call xs = .error e) :
    (∃ f : Fault, f.Local ∧ e = .ofFault f) ∨ ∃ name, s.target = .path name ∧ call name xs = .error e := by
  rw [run_eq_bind] at h
  rcases bind_eq_error_iff.1 h with hnav | ⟨ys, -, hfilter⟩
  · unfold navigate at hnav
    split at hnav
    · obtain ⟨f, hf, rfl⟩ := mapError_eq_error_iff.1 hnav
      rcases Hop.run_error hf with ⟨x, -, rfl⟩ | ⟨d, rfl⟩
      · exact .inl ⟨_, .navigation _ x, rfl⟩
      · exact .inl ⟨_, .missing _, rfl⟩
    · rename_i name ht
      exact .inr ⟨name, ht, hnav⟩
  · unfold filtered at hfilter
    split at hfilter
    · cases hfilter
    · obtain ⟨f, hf, rfl⟩ := mapError_eq_error_iff.1 hfilter
      obtain ⟨a, op, b, rfl⟩ := Predicate.filter_error hf
      exact .inl ⟨_, .incomparable a op b, rfl⟩

theorem runAll_error {ss : List Step} {xs : Sequence} {e : Error} (h : runAll g call ss xs = .error e) :
    (∃ f : Fault, f.Local ∧ e = .ofFault f) ∨ ∃ name ys, Invokes ss name ∧ call name ys = .error e := by
  induction ss generalizing xs with
  | nil => cases h
  | cons s ss ih =>
    unfold runAll at h
    split at h
    · rename_i hs
      cases h
      exact (run_error hs).imp_right fun ⟨name, ht, hc⟩ => ⟨name, xs, Invokes.cons_iff.2 (.inl ht), hc⟩
    · exact (ih h).imp_right fun ⟨name, ys, hn, hc⟩ => ⟨name, ys, Invokes.cons_iff.2 (.inr hn), hc⟩

end Step

/-! ### Expressions -/

section
variable {g : Graph} {call call' : Invoker}

theorem Expr.start_eq_bind (g : Graph) (scope : Scope) (e : Expr) :
    e.start g scope = e.source.eval g scope >>= fun xs => e.filter.elim (.ok xs) (·.filter g xs) := by
  rw [start]
  cases e.source.eval g scope with
  | error f => rfl
  | ok xs => cases e.filter <;> rfl

theorem Expr.eval_eq_bind (g : Graph) (call : Invoker) (scope : Scope) (e : Expr) :
    e.eval g call scope =
      (e.start g scope).mapError .ofFault >>= Step.runAll g (call scope.scriptEnv) e.steps := by
  rw [eval]
  cases e.start g scope <;> rfl

/-- The steps at the end of an expression are run on what it comes to without them. -/
theorem Expr.eval_append (g : Graph) (call : Invoker) (scope : Scope) (src : Source) (f : Option Predicate)
    (a b : List Step) : Expr.eval g call scope ⟨src, f, a ++ b⟩ =
      Expr.eval g call scope ⟨src, f, a⟩ >>= Step.runAll g (call scope.scriptEnv) b := by
  rw [eval_eq_bind, eval_eq_bind, bind_assoc]
  exact congrArg ((Expr.start g scope ⟨src, f, a⟩).mapError Error.ofFault >>= ·)
    (funext fun xs => Step.runAll_append g (call scope.scriptEnv) a b xs)

/-- An expression that begins at a variable just assigned begins with its value. -/
theorem Expr.eval_assigned (g : Graph) (call : Invoker) (scope : Scope) (x : String) (ys : Sequence)
    (f : Option Predicate) (ss : List Step) : Expr.eval g call (scope.set x ys) ⟨.var x, f, ss⟩ =
      (f.elim (.ok ys) (·.filter g ys)).mapError .ofFault >>=
        Step.runAll g (call (scope.set x ys).scriptEnv) ss := by
  have hlookup : (scope.set x ys).lookup x = .ok ys := by
    rw [Scope.lookup, Scope.lookup?, Scope.set, Environment.get?_set, if_pos rfl]
  rw [eval_eq_bind, start_eq_bind, Source.eval, hlookup]
  rfl

theorem Expr.eval_congr {scope : Scope} {e : Expr} (h : ∀ name, Step.Invokes e.steps name → ∀ ys,
      call scope.scriptEnv name ys = call' scope.scriptEnv name ys) :
    e.eval g call scope = e.eval g call' scope := by
  unfold Expr.eval
  split
  · rfl
  · exact Step.runAll_congr h _

theorem Expr.eval_invokes {scope : Scope} {e : Expr} {zs : Sequence} (h : e.eval g call scope = .ok zs)
    {name : String} (hn : Step.Invokes e.steps name) : ∃ ys ys', call scope.scriptEnv name ys = .ok ys' := by
  unfold Expr.eval at h
  split at h
  · cases h
  · exact Step.runAll_invokes h hn

theorem Expr.eval_error {scope : Scope} {e : Expr} {err : Error} (h : e.eval g call scope = .error err) :
    (∃ f : Fault, f.Local ∧ err = .ofFault f) ∨
      ∃ name ys, Step.Invokes e.steps name ∧ call scope.scriptEnv name ys = .error err := by
  unfold Expr.eval at h
  split at h
  · rename_i f hf
    cases h
    exact .inl ⟨f, Expr.start_error hf, rfl⟩
  · exact Step.runAll_error h

/-! ### Bodies -/

/-- The line and the text of a statement, as an error that passes through it tells them. -/
def Statement.site (s : Statement) : Site := ⟨s.line, s.text⟩

/-- The steps of a list of statements, in a row. -/
def Statement.allSteps (ss : List Statement) : List Step := ss.flatMap fun s => s.expr.steps

theorem Statement.invokes_allSteps_cons {s : Statement} {ss : List Statement} {name : String} :
    Step.Invokes (allSteps (s :: ss)) name ↔ Step.Invokes s.expr.steps name ∨ Step.Invokes (allSteps ss) name :=
  Step.Invokes.append_iff

theorem Scope.scriptEnv_of_script {scope : Scope} {env : Environment} (hs : scope.script = some env) :
    scope.scriptEnv = env := by
  rw [scriptEnv, hs, Option.getD_some]

/-- The variables of the script behind a frame do not change while a body runs. -/
@[simp] theorem Scope.script_set (scope : Scope) (name : String) (xs : Sequence) :
    (scope.set name xs).script = scope.script := rfl

namespace Statement

variable {env : Environment}

theorem runAll_of_error {scope : Scope} {s : Statement} {e : Error} (h : s.expr.eval g call scope = .error e)
    (ss : List Statement) : runAll g call scope (s :: ss) = (scope, some (e.within s)) := by
  simp only [runAll, run, h]

theorem runAll_of_ok {scope : Scope} {s : Statement} {xs : Sequence} (h : s.expr.eval g call scope = .ok xs)
    (ss : List Statement) : runAll g call scope (s :: ss) = runAll g call (scope.set s.targetName xs) ss := by
  simp only [runAll, run, h]

theorem runAll_congr {scope : Scope} (hs : scope.script = some env) {ss : List Statement}
    (h : ∀ name, Step.Invokes (allSteps ss) name → ∀ ys, call env name ys = call' env name ys) :
    runAll g call scope ss = runAll g call' scope ss := by
  induction ss generalizing scope with
  | nil => rfl
  | cons s ss ih =>
    have heval : s.expr.eval g call scope = s.expr.eval g call' scope := by
      apply Expr.eval_congr
      intro name hn ys
      rw [Scope.scriptEnv_of_script hs]
      exact h name (invokes_allSteps_cons.2 (.inl hn)) ys
    simp only [runAll, run, heval]
    cases s.expr.eval g call' scope with
    | error e => rfl
    | ok xs =>
      exact ih (by rwa [Scope.script_set]) fun name hn => h name (invokes_allSteps_cons.2 (.inr hn))

theorem runAll_invokes {scope scope' : Scope} (hs : scope.script = some env) {ss : List Statement}
    (h : runAll g call scope ss = (scope', none)) {name : String} (hn : Step.Invokes (allSteps ss) name) :
    ∃ ys ys', call env name ys = .ok ys' := by
  induction ss generalizing scope with
  | nil => obtain ⟨s, hs, -⟩ := hn; cases hs
  | cons s ss ih =>
    cases heval : s.expr.eval g call scope with
    | error e =>
      rw [runAll_of_error heval] at h
      cases h
    | ok xs =>
      rw [runAll_of_ok heval] at h
      rcases invokes_allSteps_cons.1 hn with hn | hn
      · rw [← Scope.scriptEnv_of_script hs]
        exact Expr.eval_invokes heval hn
      · exact ih (by rwa [Scope.script_set]) h hn

/-- An error has passed through the statement that it comes from, which fails with the rest of it. -/
theorem runAll_fails {scope scope' : Scope} {ss : List Statement} {e : Error}
    (h : runAll g call scope ss = (scope', some e)) :
    ∃ s ∈ ss, ∃ (inner : Scope) (e' : Error), inner.script = scope.script ∧
      s.expr.eval g call inner = .error e' ∧ e = e'.within s := by
  induction ss generalizing scope with
  | nil => cases h
  | cons s ss ih =>
    cases heval : s.expr.eval g call scope with
    | error e' =>
      rw [runAll_of_error heval, Prod.mk.injEq, Option.some.injEq] at h
      exact ⟨s, List.mem_cons_self .., scope, e', rfl, heval, h.2.symm⟩
    | ok xs =>
      rw [runAll_of_ok heval] at h
      obtain ⟨t, ht, inner, e', hscript, hfails⟩ := ih h
      exact ⟨t, List.mem_cons_of_mem _ ht, inner, e', hscript.trans (scope.script_set _ _), hfails⟩

theorem runAll_error {scope scope' : Scope} (hs : scope.script = some env) {ss : List Statement} {e : Error}
    (h : runAll g call scope ss = (scope', some e)) :
    ∃ s ∈ ss, ∃ e', e = e'.within s ∧ ((∃ f : Fault, f.Local ∧ e' = .ofFault f) ∨
      ∃ name ys, Step.Invokes s.expr.steps name ∧ call env name ys = .error e') := by
  obtain ⟨s, hmem, inner, e', hscript, heval, he⟩ := runAll_fails h
  have herr := Expr.eval_error heval
  rw [Scope.scriptEnv_of_script (hscript.trans hs)] at herr
  exact ⟨s, hmem, e', he, herr⟩

end Statement

namespace NamedPath

variable {env : Environment} {p : NamedPath} {xs : Sequence}

def steps (p : NamedPath) : List Step := Statement.allSteps p.body

theorem run_congr (h : ∀ name, Step.Invokes p.steps name → ∀ ys, call env name ys = call' env name ys) :
    p.run g call env xs = p.run g call' env xs := by
  unfold run
  rw [Statement.runAll_congr rfl h]

theorem run_invokes {zs : Sequence} (h : p.run g call env xs = .ok zs) {name : String}
    (hn : Step.Invokes p.steps name) : ∃ ys ys', call env name ys = .ok ys' := by
  unfold run at h
  split at h
  · cases h
  · rename_i hrun
    exact Statement.runAll_invokes rfl hrun hn

theorem run_fails {e : Error} (h : p.run g call env xs = .error e) :
    ∃ s ∈ p.body, ∃ (inner : Scope) (e' : Error), s.expr.eval g call inner = .error e' ∧ e = e'.within s := by
  unfold run at h
  split at h
  · rename_i hrun
    cases h
    obtain ⟨s, hs, inner, e', -, hfails⟩ := Statement.runAll_fails hrun
    exact ⟨s, hs, inner, e', hfails⟩
  · cases h

theorem run_error {e : Error} (h : p.run g call env xs = .error e) :
    ∃ s ∈ p.body, ∃ e', e = e'.within s ∧ ((∃ f : Fault, f.Local ∧ e' = .ofFault f) ∨
      ∃ name ys, Step.Invokes s.expr.steps name ∧ call env name ys = .error e') := by
  unfold run at h
  split at h
  · rename_i hrun
    cases h
    exact Statement.runAll_error rfl hrun
  · cases h

/-- What a statement of the body calls, the path calls. -/
theorem invokes_steps {s : Statement} (hs : s ∈ p.body) {name : String}
    (hn : Step.Invokes s.expr.steps name) : Step.Invokes p.steps name := by
  obtain ⟨t, ht, htarget⟩ := hn
  exact ⟨t, List.mem_flatMap.2 ⟨s, hs, ht⟩, htarget⟩

end NamedPath

end

end Footpath
