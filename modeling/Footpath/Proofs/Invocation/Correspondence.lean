import Mathlib.Data.List.Forall2
import Footpath.Proofs.Invocation.Bodies

/-! Runs of corresponding bodies.

Two statements correspond if they do the same, their lines and texts being related in some way `R`;
two errors do if they have the same fault and have passed through related lines. Where the paths
that a call leads to have corresponding bodies in two registries, the call has corresponding ends in
both: the same sequence, or corresponding errors (`invoke_corresponds`). A registry may hold
anything else besides. With equality for `R` the ends are the same. -/
namespace Footpath
open Relation

/-! ### Ends -/

section
variable (R : Site → Site → Prop)

/-- Statements that do the same. -/
structure Statement.Corresponds (s s' : Statement) : Prop where
  site : R s.site s'.site
  target : s'.target = s.target
  expr : s'.expr = s.expr

/-- Errors with the same fault, which has come by the same way. -/
structure Error.Corresponds (e e' : Error) : Prop where
  fault : e'.fault = e.fault
  trail : List.Forall₂ R e.trail e'.trail

/-- Both are the same value, or corresponding errors. -/
inductive SameEnd {α : Type} : Except Error α → Except Error α → Prop where
  | ok (x : α) : SameEnd (.ok x) (.ok x)
  | error {e e' : Error} (h : e.Corresponds R e') : SameEnd (.error e) (.error e')

/-- The name stands for paths with corresponding bodies, or for none in either registry. -/
def Registry.CorrespondsAt (reg reg' : Registry) (name : String) : Prop :=
  Option.Rel (fun p p' => List.Forall₂ (Statement.Corresponds R) p.body p'.body) (reg.find? name)
    (reg'.find? name)

end

namespace Registry.CorrespondsAt

variable {R : Site → Site → Prop} {reg reg' : Registry} {name : String}

theorem undefined (h : reg.CorrespondsAt R reg' name) (hp : reg.find? name = none) :
    reg'.find? name = none := by
  rw [CorrespondsAt, hp] at h
  cases hp' : reg'.find? name with
  | none => rfl
  | some p' =>
    rw [hp'] at h
    cases h

theorem defined (h : reg.CorrespondsAt R reg' name) {p : NamedPath} (hp : reg.find? name = some p) :
    ∃ p', reg'.find? name = some p' ∧ List.Forall₂ (Statement.Corresponds R) p.body p'.body := by
  rw [CorrespondsAt, hp] at h
  cases hp' : reg'.find? name with
  | none =>
    rw [hp'] at h
    cases h
  | some p' =>
    rw [hp'] at h
    cases h with
    | some hbody => exact ⟨p', rfl, hbody⟩

end Registry.CorrespondsAt

namespace SameEnd

variable {R : Site → Site → Prop} {α β : Type}

theorem of_fault (f : Except Fault α) : SameEnd R (f.mapError .ofFault) (f.mapError .ofFault) := by
  cases f with
  | ok x => exact .ok x
  | error f => exact .error ⟨rfl, .nil⟩

theorem bind {o o' : Except Error α} {f f' : α → Except Error β} (h : SameEnd R o o')
    (hf : ∀ x, SameEnd R (f x) (f' x)) : SameEnd R (o >>= f) (o' >>= f') := by
  cases h with
  | ok x => exact hf x
  | error h => exact .error h

theorem within {s s' : Statement} (hs : s.Corresponds R s') {o o' : Except Error α}
    (h : SameEnd R o o') : SameEnd R (o.mapError (·.within s)) (o'.mapError (·.within s')) := by
  cases h with
  | ok x => exact .ok x
  | error h => exact .error ⟨h.fault, .cons hs.site h.trail⟩

theorem of_ok {x : α} {o : Except Error α} (h : SameEnd R (.ok x) o) : o = .ok x := by
  cases h
  rfl

theorem of_error {e : Error} {o : Except Error α} (h : SameEnd R (.error e) o) :
    ∃ e', o = .error e' ∧ e.Corresponds R e' := by
  cases h with
  | error h => exact ⟨_, rfl, h⟩

theorem eq {o o' : Except Error α} (h : SameEnd Eq o o') : o = o' := by
  cases h with
  | ok x => rfl
  | @error e e' h =>
    obtain ⟨trail, fault⟩ := e
    obtain ⟨trail', fault'⟩ := e'
    obtain rfl : fault' = fault := h.fault
    obtain rfl : trail = trail' := List.forall₂_eq_eq_eq ▸ h.trail
    rfl

end SameEnd

theorem Statement.forall₂_corresponds_self (ss : List Statement) : List.Forall₂ (Corresponds Eq) ss ss :=
  List.forall₂_same.2 fun _ _ => ⟨rfl, rfl, rfl⟩

/-- A name that stands for the same path corresponds, lines included. -/
theorem Registry.correspondsAt_of_eq {reg reg' : Registry} {name : String}
    (h : reg'.find? name = reg.find? name) : reg.CorrespondsAt Eq reg' name := by
  unfold CorrespondsAt
  rw [h]
  cases reg.find? name with
  | none => exact .none
  | some p => exact .some (Statement.forall₂_corresponds_self p.body)

theorem Statement.Corresponds.targetName {R : Site → Site → Prop} {s s' : Statement}
    (h : s.Corresponds R s') : s'.targetName = s.targetName := by
  rw [Statement.targetName, h.target, Statement.targetName]

/-! ### Steps and expressions -/

namespace Step

variable {R : Site → Site → Prop} {g : Graph} {call call' : String → Sequence → Except Error Sequence}

theorem run_corresponds {s : Step}
    (hcall : ∀ name, s.target = .path name → ∀ ys, SameEnd R (call name ys) (call' name ys))
    (xs : Sequence) : SameEnd R (s.run g call xs) (s.run g call' xs) := by
  rw [run_eq_bind, run_eq_bind]
  apply SameEnd.bind
  · unfold navigate
    cases ht : s.target with
    | hop k => exact .of_fault _
    | path name => exact hcall name ht xs
  · intro ys
    unfold filtered
    cases s.filter with
    | none => exact .ok ys
    | some p => exact .of_fault _

theorem runAll_corresponds {ss : List Step}
    (hcall : ∀ name, Invokes ss name → ∀ ys, SameEnd R (call name ys) (call' name ys)) (xs : Sequence) :
    SameEnd R (runAll g call ss xs) (runAll g call' ss xs) := by
  induction ss generalizing xs with
  | nil => exact .ok xs
  | cons s ss ih =>
    rw [runAll_cons, runAll_cons]
    apply SameEnd.bind
    · exact run_corresponds (fun name ht => hcall name (Invokes.cons_iff.2 (.inl ht))) xs
    · exact ih fun name hn => hcall name (Invokes.cons_iff.2 (.inr hn))

end Step

section
variable {R : Site → Site → Prop} {g : Graph} {call call' : Invoker}

theorem Expr.eval_corresponds {scope : Scope} {e : Expr}
    (hcall : ∀ name, Step.Invokes e.steps name →
      ∀ ys, SameEnd R (call scope.scriptEnv name ys) (call' scope.scriptEnv name ys)) :
    SameEnd R (e.eval g call scope) (e.eval g call' scope) := by
  rw [eval_eq_bind, eval_eq_bind]
  exact (SameEnd.of_fault _).bind (Step.runAll_corresponds hcall)

/-! ### Bodies -/

theorem Statement.yield_corresponds {env frame : Environment} {last : String} {ss ss' : List Statement}
    (hss : List.Forall₂ (Statement.Corresponds R) ss ss')
    (hcall : ∀ name, Step.Invokes (allSteps ss) name →
      ∀ ys, SameEnd R (call env name ys) (call' env name ys)) :
    SameEnd R (yield g call env frame last ss) (yield g call' env frame last ss') := by
  induction hss generalizing frame last with
  | nil => exact .ok _
  | @cons s s' ss ss' hs hss ih =>
    rw [yield_cons, yield_cons, hs.expr, hs.targetName]
    apply SameEnd.bind
    · apply SameEnd.within hs
      exact Expr.eval_corresponds fun name hn => hcall name (invokes_allSteps_cons.2 (.inl hn))
    · intro xs
      exact ih fun name hn => hcall name (invokes_allSteps_cons.2 (.inr hn))

/-! ### Invocations -/

/-- A call has corresponding ends in two registries that correspond in what it leads to. -/
theorem invoke_corresponds {reg reg' : Registry} {st : CallStack reg} {name : String}
    (hreg : ∀ n, ReflTransGen reg.Calls name n → reg.CorrespondsAt R reg' n) {st' : CallStack reg'}
    (hst : st'.names = st.names) (env : Environment) (xs : Sequence) :
    SameEnd R (invoke g reg st env name xs) (invoke g reg' st' env name xs) := by
  induction st, name using invoke_induction generalizing st' xs with
  | undefined st name hp =>
    rw [invoke_of_undefined hp, invoke_of_undefined ((hreg name .refl).undefined hp)]
    exact .error ⟨rfl, .nil⟩
  | running st name p hp hn =>
    obtain ⟨p', hp', -⟩ := (hreg name .refl).defined hp
    rw [invoke_of_running hp hn, invoke_of_running hp' (hst ▸ hn), CallStack.cycle, CallStack.cycle, hst]
    exact .error ⟨rfl, .nil⟩
  | entered st name p hp hd hn ih =>
    obtain ⟨p', hp', hbody⟩ := (hreg name .refl).defined hp
    have hn' : name ∉ st'.names := hst ▸ hn
    rw [invoke_of_idle hp hd hn, invoke_of_idle hp' (Registry.mem_names_of_find? hp') hn',
      NamedPath.run_eq_yield, NamedPath.run_eq_yield]
    apply Statement.yield_corresponds hbody
    intro n hinvokes ys
    apply ih n hinvokes (fun m hm => hreg m (.head ⟨p, hp, hinvokes⟩ hm))
    rw [CallStack.names_push, CallStack.names_push, hst]

end

end Footpath
