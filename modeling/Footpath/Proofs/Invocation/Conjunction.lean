import Footpath.Proofs.Invocation.Calls

/-! Filtering twice is filtering by both.

A filter leaves the elements that satisfy its predicate, provided that the predicate has a value on all of
them (`filter_eq_ok_iff`). A second filter looks at what the first has left, as `and` looks at its right side
where the left one holds, so the two fail on the same sequences, though not always with the same error. For
statements this says that a variable may be refined in place: what filters it afterwards might have been
written into the expression that it came from, behind the filter at its end. `successive_filters` says both. -/
namespace Footpath

/-! ### Filters -/

namespace Predicate

/-- Whether the predicate has a value on the element, and it is true. -/
def accepts (g : Graph) (p : Predicate) (x : Element) : Bool :=
  match p.holds g x with
  | .ok b => b
  | .error _ => false

variable {g : Graph} {p q : Predicate} {x : Element} {xs ys zs : Sequence}

theorem accepts_of_holds {b : Bool} (h : p.holds g x = .ok b) : p.accepts g x = b := by
  rw [accepts, h]

theorem filter_eq_ok_iff :
    p.filter g xs = .ok ys ↔ (∀ x ∈ xs, ∃ b, p.holds g x = .ok b) ∧ ys = xs.filter (p.accepts g) := by
  induction xs generalizing ys with
  | nil =>
    rw [filter, Except.ok.injEq, eq_comm]
    exact ⟨fun h => ⟨by simp, h⟩, fun h => h.2⟩
  | cons x xs ih =>
    rw [filter, List.forall_mem_cons]
    cases hx : p.holds g x with
    | error f =>
      constructor
      · intro h
        cases h
      · rintro ⟨⟨⟨b, ⟨⟩⟩, -⟩, -⟩
    | ok b =>
      have hhead : ∃ b', (.ok b : Except Fault Bool) = .ok b' := ⟨b, rfl⟩
      rw [List.filter_cons, accepts_of_holds hx]
      cases hxs : p.filter g xs with
      | error f =>
        constructor
        · intro h
          cases h
        · rintro ⟨⟨-, hall⟩, -⟩
          rw [ih.2 ⟨hall, rfl⟩] at hxs
          cases hxs
      | ok zs =>
        obtain ⟨hall, rfl⟩ := ih.1 hxs
        dsimp only
        rw [Except.ok.injEq]
        exact ⟨fun h => ⟨⟨hhead, hall⟩, h.symm⟩, fun h => h.2.symm⟩

/-- A conjunction has a value where its left side has one and, if that is true, its right side too. -/
theorem holds_and_isOk_iff :
    (∃ b, (p.and q).holds g x = .ok b) ↔
      (∃ b, p.holds g x = .ok b) ∧ (p.accepts g x = true → ∃ b, q.holds g x = .ok b) := by
  rw [holds, accepts]
  cases p.holds g x with
  | error f => simp
  | ok b => cases b <;> simp

theorem accepts_and : (p.and q).accepts g x = (p.accepts g x && q.accepts g x) := by
  rw [accepts, holds, accepts, accepts]
  cases p.holds g x with
  | error f => rfl
  | ok b => cases b <;> rfl

theorem filter_accepts_and (xs : Sequence) :
    xs.filter ((p.and q).accepts g) = (xs.filter (p.accepts g)).filter (q.accepts g) := by
  rw [List.filter_filter]
  congr
  funext x
  rw [accepts_and, Bool.and_comm]

theorem filter_and_eq_ok_iff :
    (p.and q).filter g xs = .ok zs ↔ ∃ ys, p.filter g xs = .ok ys ∧ q.filter g ys = .ok zs := by
  have hrows : ∀ ys, p.filter g xs = .ok ys ∧ q.filter g ys = .ok zs ↔
      ((∀ x ∈ xs, ∃ b, p.holds g x = .ok b) ∧ ys = xs.filter (p.accepts g)) ∧
        (∀ x ∈ ys, ∃ b, q.holds g x = .ok b) ∧ zs = ys.filter (q.accepts g) :=
    fun ys => and_congr filter_eq_ok_iff filter_eq_ok_iff
  rw [exists_congr hrows, filter_eq_ok_iff, filter_accepts_and]
  simp only [holds_and_isOk_iff]
  constructor
  · rintro ⟨hall, rfl⟩
    refine ⟨_, ⟨fun x hx => (hall x hx).1, rfl⟩, fun x hx => ?_, rfl⟩
    obtain ⟨hmem, haccepts⟩ := List.mem_filter.1 hx
    exact (hall x hmem).2 haccepts
  · rintro ⟨_, ⟨hp, rfl⟩, hq, rfl⟩
    exact ⟨fun x hx => ⟨hp x hx, fun haccepts => hq x (List.mem_filter.2 ⟨hx, haccepts⟩)⟩, rfl⟩

end Predicate

/-! ### Expressions up to the filter at their end -/

/-- An expression without the filter at its end: that of a bare source, or that of the last step. -/
inductive Stem where
  | source (src : Source)
  | step (src : Source) (filter : Option Predicate) (steps : List Step) (target : Target)

/-- The expression with a filter at its end; the token is the text of the last step. -/
def Stem.filtered (p : Predicate) (token : String) : Stem → Expr
  | .source src => ⟨src, some p, []⟩
  | .step src f ss target => ⟨src, f, ss ++ [⟨target, some p, token⟩]⟩

/-- What the expression comes to before it is filtered. -/
def Stem.Yields (g : Graph) (call : Invoker) (scope : Scope) (ys : Sequence) : Stem → Prop
  | .source src => src.eval g scope = .ok ys
  | .step src f ss target => ∃ xs, Expr.eval g call scope ⟨src, f, ss⟩ = .ok xs ∧
      Step.navigate g (call scope.scriptEnv) ⟨target, none, ""⟩ xs = .ok ys

section
variable {g : Graph}

theorem Hop.neighbours_of_token {k : Hop} {token : String} {x : Element} {ys : Sequence}
    (h : k.neighbours g token x = .ok ys) (token' : String) : k.neighbours g token' x = .ok ys := by
  cases k <;> cases x <;> first | exact h | cases h

/-- The text of a step shows in its errors only. -/
theorem Hop.run_of_token {k : Hop} {token : String} {xs ys : Sequence} (h : k.run g token xs = .ok ys)
    (token' : String) : k.run g token' xs = .ok ys := by
  induction xs generalizing ys with
  | nil => exact h
  | cons x xs ih =>
    rw [Hop.run] at h ⊢
    cases hx : k.neighbours g token x with
    | error f =>
      rw [hx] at h
      cases h
    | ok zs =>
      rw [hx] at h
      rw [Hop.neighbours_of_token hx token']
      cases hxs : k.run g token xs with
      | error f =>
        rw [hxs] at h
        cases h
      | ok ws =>
        rw [hxs] at h
        rw [ih hxs]
        exact h

theorem Step.runAll_singleton (g : Graph) (call : String → Sequence → Except Error Sequence) (s : Step)
    (xs : Sequence) : runAll g call [s] xs = s.run g call xs := by
  rw [runAll]
  cases s.run g call xs <;> rfl

theorem Step.navigate_of_target {call : String → Sequence → Except Error Sequence} {s s' : Step} {xs ys : Sequence}
    (htarget : s'.target = s.target) (h : s.navigate g call xs = .ok ys) : s'.navigate g call xs = .ok ys := by
  unfold navigate at h ⊢
  rw [htarget]
  cases ht : s.target with
  | path name =>
    rw [ht] at h
    exact h
  | hop k =>
    rw [ht] at h
    dsimp only at h ⊢
    cases hrun : k.run g s.token xs with
    | error f =>
      rw [hrun] at h
      cases h
    | ok zs =>
      rw [hrun] at h
      rw [Hop.run_of_token hrun s'.token]
      exact h

variable {call : Invoker} {scope : Scope}

/-- The filter at the end of an expression is what it does last. -/
theorem Stem.eval_filtered_eq_ok_iff {X : Stem} {p : Predicate} {token : String} {zs : Sequence} :
    (X.filtered p token).eval g call scope = .ok zs ↔ ∃ ys, X.Yields g call scope ys ∧ p.filter g ys = .ok zs := by
  cases X with
  | source src =>
    rw [filtered, Expr.eval_eq_bind, bind_eq_ok_iff]
    simp only [mapError_eq_ok_iff, Expr.start_eq_bind, bind_eq_ok_iff, Option.elim_some, Step.runAll,
      Except.ok.injEq, exists_eq_right]
    rfl
  | step src f ss target =>
    have hlast : ∀ xs, Step.runAll g (call scope.scriptEnv) [⟨target, some p, token⟩] xs = .ok zs ↔
        ∃ ys, Step.navigate g (call scope.scriptEnv) ⟨target, none, ""⟩ xs = .ok ys ∧ p.filter g ys = .ok zs := by
      intro xs
      have hnav : ∀ ys, Step.navigate g (call scope.scriptEnv) ⟨target, some p, token⟩ xs = .ok ys ↔
          Step.navigate g (call scope.scriptEnv) ⟨target, none, ""⟩ xs = .ok ys :=
        fun ys => ⟨Step.navigate_of_target rfl, Step.navigate_of_target rfl⟩
      rw [Step.runAll_singleton, Step.run_eq_bind, bind_eq_ok_iff]
      simp only [hnav, Step.filtered, mapError_eq_ok_iff]
    have hsteps : (Stem.filtered p token (.step src f ss target)).eval g call scope =
        Expr.eval g call scope ⟨src, f, ss⟩ >>= Step.runAll g (call scope.scriptEnv) [⟨target, some p, token⟩] :=
      Expr.eval_append g call scope src f ss _
    rw [hsteps, bind_eq_ok_iff, exists_congr fun xs => and_congr_right fun _ => hlast xs]
    constructor
    · rintro ⟨xs, hxs, ys, hys, hzs⟩
      exact ⟨ys, ⟨xs, hxs, hys⟩, hzs⟩
    · rintro ⟨ys, ⟨xs, hxs, hys⟩, hzs⟩
      exact ⟨xs, hxs, ys, hys, hzs⟩

theorem Scope.set_set (scope : Scope) (name : String) (xs ys : Sequence) :
    (scope.set name xs).set name ys = scope.set name ys :=
  congrArg (Scope.mk · scope.script) (congrArg Environment.mk (OrderedMap.insert_insert _ _ xs ys))

/-- An assignment and then a filter on the variable fail where the other assignment does, and otherwise
assign the same, if that is how the two expressions are related. -/
theorem Statement.runAll_refined {first second joint : Statement} {q : Predicate} {x : String}
    (hfirst : first.targetName = x) (htarget : second.targetName = x) (hsecond : second.expr = ⟨.var x, some q, []⟩)
    (hthird : joint.targetName = x) (hjoint : ∀ zs, joint.expr.eval g call scope = .ok zs ↔
      ∃ ys, first.expr.eval g call scope = .ok ys ∧ q.filter g ys = .ok zs) :
    ((runAll g call scope [first, second]).2 = none ↔ (runAll g call scope [joint]).2 = none) ∧
      ((runAll g call scope [joint]).2 = none →
        (runAll g call scope [first, second]).1 = (runAll g call scope [joint]).1) := by
  cases hj : joint.expr.eval g call scope with
  | ok zs =>
    obtain ⟨ys, hys, hzs⟩ := (hjoint zs).1 hj
    have hassigned : second.expr.eval g call (scope.set x ys) = .ok zs := by
      rw [hsecond, Expr.eval_assigned, Option.elim_some, hzs]
      rfl
    rw [runAll_of_ok hj, runAll_of_ok hys, hfirst, runAll_of_ok hassigned, htarget, hthird, Scope.set_set]
    exact ⟨Iff.rfl, fun _ => rfl⟩
  | error e =>
    have hfails : (runAll g call scope [first, second]).2 ≠ none := by
      cases hys : first.expr.eval g call scope with
      | error e₁ =>
        rw [runAll_of_error hys]
        exact nofun
      | ok ys =>
        cases hzs : q.filter g ys with
        | ok zs =>
          rw [(hjoint zs).2 ⟨ys, hys, hzs⟩] at hj
          cases hj
        | error f =>
          have hassigned : second.expr.eval g call (scope.set x ys) = .error (.ofFault f) := by
            rw [hsecond, Expr.eval_assigned, Option.elim_some, hzs]
            rfl
          rw [runAll_of_ok hys, hfirst, runAll_of_error hassigned]
          exact nofun
    rw [runAll_of_error hj]
    exact ⟨⟨fun h => absurd h hfails, nofun⟩, nofun⟩

end

/-- **Filtering twice is filtering by both.** A sequence passes both filters one after the other if and
only if it passes that by the conjunction, with the same outcome: the elements on which both hold, in
order. So an expression filtered at its end may be assigned and the variable be filtered in place: this
fails exactly if the expression fails that has the conjunction at its end, and otherwise leaves the same. -/
theorem successive_filters (g : Graph) (p q : Predicate) :
    (∀ xs zs, (p.and q).filter g xs = .ok zs ↔ ∃ ys, p.filter g xs = .ok ys ∧ q.filter g ys = .ok zs) ∧
    (∀ xs zs, (p.and q).filter g xs = .ok zs → zs = xs.filter fun x => p.accepts g x && q.accepts g x) ∧
    ∀ (reg : Registry) (st : CallStack reg) (scope : Scope) (X : Stem) (x : String) (line line' line'' : Nat)
        (text text' text'' token token' : String),
      ((Statement.runAll g (invoke g reg st) scope
          [⟨line, text, some x, X.filtered p token⟩, ⟨line', text', some x, ⟨.var x, some q, []⟩⟩]).2 = none ↔
        (Statement.runAll g (invoke g reg st) scope
          [⟨line'', text'', some x, X.filtered (p.and q) token'⟩]).2 = none) ∧
      ((Statement.runAll g (invoke g reg st) scope
          [⟨line'', text'', some x, X.filtered (p.and q) token'⟩]).2 = none →
        (Statement.runAll g (invoke g reg st) scope
          [⟨line, text, some x, X.filtered p token⟩, ⟨line', text', some x, ⟨.var x, some q, []⟩⟩]).1 =
        (Statement.runAll g (invoke g reg st) scope
          [⟨line'', text'', some x, X.filtered (p.and q) token'⟩]).1) := by
  refine ⟨fun xs zs => Predicate.filter_and_eq_ok_iff, fun xs zs h => ?_, ?_⟩
  · rw [(Predicate.filter_eq_ok_iff.1 h).2]
    exact List.filter_congr fun x _ => Predicate.accepts_and
  · intro reg st scope X x line line' line'' text text' text'' token token'
    have hjoint : ∀ zs, (X.filtered (p.and q) token').eval g (invoke g reg st) scope = .ok zs ↔
        ∃ ys, (X.filtered p token).eval g (invoke g reg st) scope = .ok ys ∧ q.filter g ys = .ok zs := by
      intro zs
      simp only [Stem.eval_filtered_eq_ok_iff, Predicate.filter_and_eq_ok_iff]
      constructor
      · rintro ⟨ws, hws, ys, hys, hzs⟩
        exact ⟨ys, ⟨ws, hws, hys⟩, hzs⟩
      · rintro ⟨ys, ⟨ws, hws, hys⟩, hzs⟩
        exact ⟨ws, hws, ys, hys, hzs⟩
    exact Statement.runAll_refined rfl rfl rfl rfl hjoint

end Footpath
