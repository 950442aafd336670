import Footpath.Proofs.Invocation.Bodies
import Footpath.Proofs.Invocation.Inlining

/-! Running on a sequence in two parts.

Navigations and filters take a sequence element by element, so what they make of two parts in a row
is what they make of each, in a row. A path does so too if its body is closed: every statement begins
at `$_` or at a variable that the body has assigned, and none looks an element up. Such a body keeps
three frames in step, the variables of the whole being those of the parts in a row
(`Environment.Joined`). `runAll_closed_append` says it of steps that reach closed paths only. -/
namespace Footpath
open Relation

/-! ### Outcomes in two parts -/

/-- The first outcome is the other two in a row, or it fails as one of them does. -/
inductive Splits {ε : Type} : (whole left right : Except ε Sequence) → Prop where
  | ok (xs ys : Sequence) : Splits (.ok (xs ++ ys)) (.ok xs) (.ok ys)
  | left (e e' : ε) (right : Except ε Sequence) : Splits (.error e) (.error e') right
  | right (e e' : ε) (left : Except ε Sequence) : Splits (.error e) left (.error e')

namespace Splits

variable {ε ε' : Type} {whole left right : Except ε Sequence}

theorem of_eq (h : whole = do return (← left) ++ (← right)) : Splits whole left right := by
  rw [h]
  cases left with
  | error e => exact .left e e right
  | ok xs =>
    cases right with
    | error e => exact .right e e (.ok xs)
    | ok ys => exact .ok xs ys

theorem mapError (f : ε → ε') (h : Splits whole left right) :
    Splits (whole.mapError f) (left.mapError f) (right.mapError f) := by
  cases h with
  | ok xs ys => exact .ok xs ys
  | left e e' right => exact .left (f e) (f e') (right.mapError f)
  | right e e' left => exact .right (f e) (f e') (left.mapError f)

theorem bind {f fl fr : Sequence → Except ε Sequence} (h : Splits whole left right)
    (hf : ∀ xs ys, Splits (f (xs ++ ys)) (fl xs) (fr ys)) :
    Splits (whole >>= f) (left >>= fl) (right >>= fr) := by
  cases h with
  | ok xs ys => exact hf xs ys
  | left e e' right => exact .left e e' (right >>= fr)
  | right e e' left => exact .right e e' (left >>= fl)

theorem eq_ok_iff (h : Splits whole left right) (zs : Sequence) :
    whole = .ok zs ↔ ∃ xs ys, left = .ok xs ∧ right = .ok ys ∧ zs = xs ++ ys := by
  cases h with
  | ok xs ys =>
    constructor
    · intro h
      exact ⟨xs, ys, rfl, rfl, (Except.ok.inj h).symm⟩
    · rintro ⟨_, _, ⟨⟩, ⟨⟩, rfl⟩
      rfl
  | left e e' right =>
    constructor
    · intro h
      cases h
    · rintro ⟨_, _, ⟨⟩, _⟩
  | right e e' left =>
    constructor
    · intro h
      cases h
    · rintro ⟨_, _, _, ⟨⟩, _⟩

end Splits

/-! ### Steps -/

namespace Step

variable {g : Graph} {call : String → Sequence → Except Error Sequence}

theorem run_splits {s : Step}
    (hcall : ∀ name, s.target = .path name → ∀ xs ys, Splits (call name (xs ++ ys)) (call name xs) (call name ys))
    (xs ys : Sequence) : Splits (s.run g call (xs ++ ys)) (s.run g call xs) (s.run g call ys) := by
  simp only [run_eq_bind]
  apply Splits.bind
  · unfold navigate
    cases ht : s.target with
    | hop k => exact (Splits.of_eq (k.run_append g s.token xs ys)).mapError _
    | path name => exact hcall name ht xs ys
  · intro xs ys
    unfold filtered
    cases s.filter with
    | none => exact .ok xs ys
    | some p => exact (Splits.of_eq (p.filter_append g xs ys)).mapError _

theorem runAll_splits {ss : List Step}
    (hcall : ∀ name, Invokes ss name → ∀ xs ys, Splits (call name (xs ++ ys)) (call name xs) (call name ys))
    (xs ys : Sequence) : Splits (runAll g call ss (xs ++ ys)) (runAll g call ss xs) (runAll g call ss ys) := by
  induction ss generalizing xs ys with
  | nil => exact .ok xs ys
  | cons s ss ih =>
    simp only [runAll_cons]
    apply Splits.bind
    · exact run_splits (fun name ht => hcall name (Invokes.cons_iff.2 (.inl ht))) xs ys
    · exact ih fun name hn => hcall name (Invokes.cons_iff.2 (.inr hn))

end Step

/-! ### Closed bodies -/

/-- The source is one of the given variables. -/
def Source.IsIn (names : List String) : Source → Prop
  | .context => contextName ∈ names
  | .var x => bareName x ∈ names
  | .lookup _ => False

instance (names : List String) : (src : Source) → Decidable (src.IsIn names)
  | .context => inferInstanceAs (Decidable (contextName ∈ names))
  | .var x => inferInstanceAs (Decidable (bareName x ∈ names))
  | .lookup _ => isFalse id

/-- Each statement begins at one of the variables, or at one that a statement before it has assigned. -/
def Statement.Closed (names : List String) : List Statement → Prop
  | [] => True
  | s :: ss => s.expr.source.IsIn names ∧ Closed (bareName s.targetName :: names) ss

def Statement.decidableClosed (names : List String) : (ss : List Statement) → Decidable (Closed names ss)
  | [] => isTrue trivial
  | s :: ss =>
    have : Decidable (Closed (bareName s.targetName :: names) ss) := decidableClosed _ ss
    inferInstanceAs (Decidable (_ ∧ _))

instance (names : List String) (ss : List Statement) : Decidable (Statement.Closed names ss) :=
  Statement.decidableClosed names ss

/-- The body takes nothing but its input from outside. -/
def NamedPath.Closed (p : NamedPath) : Prop := Statement.Closed [contextName] p.body

instance (p : NamedPath) : Decidable p.Closed := inferInstanceAs (Decidable (Statement.Closed _ _))

/-- The named variables are bound in all three, those of the first being those of the others in a row. -/
def Environment.Joined (names : List String) (whole left right : Environment) : Prop :=
  ∀ x, bareName x ∈ names →
    ∃ xs ys, left.get? x = some xs ∧ right.get? x = some ys ∧ whole.get? x = some (xs ++ ys)

theorem Environment.Joined.set {names : List String} {whole left right : Environment}
    (h : Joined names whole left right) (name : String) (xs ys : Sequence) :
    Joined (bareName name :: names) (whole.set name (xs ++ ys)) (left.set name xs) (right.set name ys) := by
  intro x hx
  simp only [get?_set]
  by_cases hname : bareName x = bareName name
  · exact ⟨xs, ys, if_pos hname, if_pos hname, if_pos hname⟩
  · simp only [if_neg hname]
    exact h x ((List.mem_cons.1 hx).resolve_left hname)

section
variable {g : Graph} {call : Invoker} {env : Environment} {names : List String}
  {whole left right : Environment}

theorem Source.eval_splits {src : Source} (hsrc : src.IsIn names)
    (h : Environment.Joined names whole left right) :
    Splits (src.eval g ⟨whole, some env⟩) (src.eval g ⟨left, some env⟩) (src.eval g ⟨right, some env⟩) := by
  have hlookup : ∀ x, bareName x ∈ names → Splits ((Scope.mk whole (some env)).lookup x)
      ((Scope.mk left (some env)).lookup x) ((Scope.mk right (some env)).lookup x) := by
    intro x hx
    obtain ⟨xs, ys, hl, hr, hw⟩ := h x hx
    simp only [Scope.lookup, Scope.lookup?, hl, hr, hw]
    exact .ok xs ys
  cases src with
  | context => exact hlookup contextName hsrc
  | var x => exact hlookup x hsrc
  | lookup id => exact hsrc.elim

theorem Expr.eval_splits {e : Expr} (hsrc : e.source.IsIn names) (h : Environment.Joined names whole left right)
    (hcall : ∀ name, Step.Invokes e.steps name →
      ∀ xs ys, Splits (call env name (xs ++ ys)) (call env name xs) (call env name ys)) :
    Splits (e.eval g call ⟨whole, some env⟩) (e.eval g call ⟨left, some env⟩)
      (e.eval g call ⟨right, some env⟩) := by
  have hstart : Splits (e.start g ⟨whole, some env⟩) (e.start g ⟨left, some env⟩)
      (e.start g ⟨right, some env⟩) := by
    simp only [start_eq_bind]
    apply (Source.eval_splits hsrc h).bind
    intro xs ys
    cases e.filter with
    | none => exact .ok xs ys
    | some p => exact .of_eq (p.filter_append g xs ys)
  simp only [eval_eq_bind]
  exact (hstart.mapError _).bind (Step.runAll_splits hcall)

/-- A closed body keeps the frames in step. -/
theorem Statement.yield_splits {ss : List Statement} (hclosed : Closed names ss) {last : String}
    (hlast : bareName last ∈ names) (h : Environment.Joined names whole left right)
    (hcall : ∀ name, Step.Invokes (allSteps ss) name →
      ∀ xs ys, Splits (call env name (xs ++ ys)) (call env name xs) (call env name ys)) :
    Splits (yield g call env whole last ss) (yield g call env left last ss)
      (yield g call env right last ss) := by
  induction ss generalizing names whole left right last with
  | nil =>
    obtain ⟨xs, ys, hl, hr, hw⟩ := h last hlast
    simp only [yield, hl, hr, hw, Option.getD_some]
    exact .ok xs ys
  | cons s ss ih =>
    simp only [yield_cons]
    have heval := Expr.eval_splits (g := g) hclosed.1 h fun name hn =>
      hcall name (invokes_allSteps_cons.2 (.inl hn))
    apply (heval.mapError _).bind
    intro xs ys
    apply ih hclosed.2 (List.mem_cons_self ..) (h.set s.targetName xs ys)
    exact fun name hn => hcall name (invokes_allSteps_cons.2 (.inr hn))

end

/-! ### Invocations -/

section
variable {g : Graph} {reg : Registry} {env : Environment}

theorem invoke_splits {name : String} (st : CallStack reg)
    (hclosed : ∀ n p, ReflTransGen reg.Calls name n → reg.find? n = some p → p.Closed) (xs ys : Sequence) :
    Splits (invoke g reg st env name (xs ++ ys)) (invoke g reg st env name xs)
      (invoke g reg st env name ys) := by
  induction st, name using invoke_induction generalizing xs ys with
  | undefined st name hp =>
    simp only [invoke_of_undefined hp]
    exact .left _ _ _
  | running st name p hp hn =>
    simp only [invoke_of_running hp hn]
    exact .left _ _ _
  | entered st name p hp hd hn ih =>
    simp only [invoke_of_idle hp hd hn, NamedPath.run_eq_yield]
    have hbody : Statement.Closed [contextName] p.body := hclosed name p .refl hp
    apply Statement.yield_splits hbody
    · exact List.mem_singleton_self contextName
    · intro x hx
      have hx : bareName x = bareName contextName := List.mem_singleton.1 hx
      simp only [Environment.get?_set, if_pos hx]
      exact ⟨xs, ys, rfl, rfl, rfl⟩
    · intro n hn
      exact ih n hn fun m q hm => hclosed m q (.head ⟨p, hp, hn⟩ hm)

/-- **Steps that reach closed paths only take a sequence part by part.** On two sequences in a row they
succeed when they do on each, and yield what they yield on the one and then what they yield on the
other. -/
theorem runAll_closed_append (g : Graph) (reg : Registry) (st : CallStack reg) (env : Environment)
    (ss : List Step) (hclosed : ∀ n p, reg.Reaches ss n → reg.find? n = some p → p.Closed)
    (xs ys zs : Sequence) :
    Step.runAll g (invoke g reg st env) ss (xs ++ ys) = .ok zs ↔
      ∃ us vs, Step.runAll g (invoke g reg st env) ss xs = .ok us ∧
        Step.runAll g (invoke g reg st env) ss ys = .ok vs ∧ zs = us ++ vs := by
  apply Splits.eq_ok_iff
  apply Step.runAll_splits
  intro name hname
  exact invoke_splits st fun n p hn => hclosed n p ⟨name, hname, hn⟩

end

/-- Whom somebody has met, by way of a variable of the body. -/
def metPath : NamedPath :=
  ⟨"met", 1, [⟨2, "$met := ./outE", some "met", ⟨.context, none, [⟨.hop .outE, none, "./outE"⟩]⟩⟩,
    ⟨3, "$met/inV", none, ⟨.var "met", none, [⟨.hop .inV, none, "/inV"⟩]⟩⟩]⟩

theorem runAll_closed_append_met :
    let reg := Registry.empty.put metPath
    let ss : List Step := [⟨.path "met", none, "./met"⟩]
    (∀ n p, reg.Reaches ss n → reg.find? n = some p → p.Closed) ∧
      Step.runAll twoPeople (invoke twoPeople reg .empty .empty) ss
        ([.vertex ⟨1⟩] ++ [.vertex ⟨2⟩, .vertex ⟨1⟩]) = .ok [.vertex ⟨2⟩, .vertex ⟨2⟩] := by
  intro reg ss
  have hclosed : ∀ n p, reg.Reaches ss n → reg.find? n = some p → p.Closed := by
    intro n p _ hp
    by_cases hn : n = "met"
    · rw [hn] at hp
      cases hp
      decide
    · change (OrderedMap.empty.insert "met" metPath).find? n = some p at hp
      rw [OrderedMap.find?_insert, if_neg hn] at hp
      cases hp
  have hmet : reg.find? "met" = some metPath := by decide
  have hcall : ∀ xs, Step.runAll twoPeople (invoke twoPeople reg .empty .empty) ss xs =
      (metPath.run twoPeople (invoke twoPeople reg (CallStack.empty.push "met"
        (Registry.mem_names_of_find? hmet) List.not_mem_nil)) .empty xs) := by
    intro xs
    rw [← invoke_of_idle hmet (Registry.mem_names_of_find? hmet) List.not_mem_nil]
    simp only [ss, Step.runAll, Step.run, Step.navigate, Step.filtered]
    cases invoke twoPeople reg .empty .empty "met" xs <;> rfl
  refine ⟨hclosed, (runAll_closed_append twoPeople reg .empty .empty ss hclosed _ _ _).2 ?_⟩
  exact ⟨[.vertex ⟨2⟩], [.vertex ⟨2⟩], (hcall _).trans rfl, (hcall _).trans rfl, rfl⟩

end Footpath
