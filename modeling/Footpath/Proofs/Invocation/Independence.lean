import Footpath.Proofs.Invocation.Bodies
import Footpath.Proofs.Invocation.Inlining

/-! What the result of a path depends on.

A body looks a variable up in its own frame first and then among those of the script; what its caller
has assigned is in neither. In the frame `$_` is bound from the start, so that of the script is out of
sight. What remains are the other variables that are read by name, in the body or in one that calls
lead to (`Registry.Reads`): where two scripts have the same values for those, an invocation is the
same in both (`invoke_of_agrees`), and so is a statement of another body that goes by the path. -/
namespace Footpath
open Relation

/-! ### What is read -/

/-- Some of the statements begins at the variable `x`. -/
def Statement.Reads (ss : List Statement) (x : String) : Prop := ∃ s ∈ ss, s.expr.source = .var x

/-- The body of the path, or one that calls lead to, reads the variable `x`. -/
def Registry.Reads (reg : Registry) (name x : String) : Prop :=
  ∃ n p, ReflTransGen reg.Calls name n ∧ reg.find? n = some p ∧ Statement.Reads p.body x

/-- The names of a set, `_` aside, have the same values, or none, in both environments. -/
def Environment.Agrees (names : String → Prop) (env env' : Environment) : Prop :=
  ∀ x, names x → bareName x ≠ contextName → env.get? x = env'.get? x

theorem Environment.Agrees.mono {names names' : String → Prop} {env env' : Environment}
    (h : Agrees names env env') (hsub : ∀ x, names' x → names x) : Agrees names' env env' :=
  fun x hx => h x (hsub x hx)

theorem Registry.Reads.of_calls {reg : Registry} {m n x : String} (hcall : reg.Calls m n)
    (h : reg.Reads n x) : reg.Reads m x := by
  obtain ⟨k, p, hk, hp, hx⟩ := h
  exact ⟨k, p, .head hcall hk, hp, hx⟩

/-! ### Bodies -/

section
variable {g : Graph} {env env' frame : Environment} {call call' : Invoker}

/-- In a frame with its own `$_` that of the script is not looked up. -/
theorem Scope.lookup_of_agrees (hframe : (frame.get? contextName).isSome = true) {x : String}
    (h : bareName x ≠ contextName → env.get? x = env'.get? x) :
    (Scope.mk frame (some env)).lookup x = (Scope.mk frame (some env')).lookup x := by
  by_cases hx : bareName x = contextName
  · have hown : frame.get? x = frame.get? contextName := by
      rw [Environment.get?, hx]
      rfl
    obtain ⟨xs, hxs⟩ := Option.isSome_iff_exists.1 hframe
    simp only [lookup, lookup?, hown, hxs]
  · simp only [lookup, lookup?, Option.bind_some, h hx]

theorem Expr.start_of_agrees (hframe : (frame.get? contextName).isSome = true) {e : Expr}
    (h : Environment.Agrees (e.source = .var ·) env env') :
    e.start g ⟨frame, some env⟩ = e.start g ⟨frame, some env'⟩ := by
  have hsource : e.source.eval g ⟨frame, some env⟩ = e.source.eval g ⟨frame, some env'⟩ := by
    cases hs : e.source with
    | context => exact Scope.lookup_of_agrees hframe fun hne => absurd rfl hne
    | var x => exact Scope.lookup_of_agrees hframe (h x hs)
    | lookup id => rfl
  rw [start_eq_bind, start_eq_bind, hsource]

/-- An expression takes no more from its scope than its first sequence and the script behind it. -/
theorem Expr.eval_of_start {scope scope' : Scope} {e e' : Expr} (hsteps : e'.steps = e.steps)
    (hstart : e.start g scope = e'.start g scope')
    (hcall : ∀ n, Step.Invokes e.steps n → ∀ ys, call scope.scriptEnv n ys = call' scope'.scriptEnv n ys) :
    e.eval g call scope = e'.eval g call' scope' := by
  rw [eval_eq_bind, eval_eq_bind, hsteps, hstart]
  cases e'.start g scope' with
  | error f => rfl
  | ok xs => exact Step.runAll_congr hcall xs

theorem Statement.yield_of_agrees {last : String} {ss : List Statement}
    (hframe : (frame.get? contextName).isSome = true) (h : Environment.Agrees (Reads ss) env env')
    (hcall : ∀ n, Step.Invokes (allSteps ss) n → ∀ ys, call env n ys = call' env' n ys) :
    yield g call env frame last ss = yield g call' env' frame last ss := by
  induction ss generalizing frame last with
  | nil => rfl
  | cons s ss ih =>
    have hstart : s.expr.start g ⟨frame, some env⟩ = s.expr.start g ⟨frame, some env'⟩ :=
      Expr.start_of_agrees hframe (h.mono fun x hx => ⟨s, List.mem_cons_self .., hx⟩)
    have heval : s.expr.eval g call ⟨frame, some env⟩ = s.expr.eval g call' ⟨frame, some env'⟩ :=
      Expr.eval_of_start rfl hstart fun n hn => hcall n (invokes_allSteps_cons.2 (.inl hn))
    rw [yield, yield, heval]
    cases s.expr.eval g call' ⟨frame, some env'⟩ with
    | error e => rfl
    | ok xs =>
      apply ih
      · rw [Environment.get?_set]
        split
        · rfl
        · exact hframe
      · refine h.mono fun x hx => ?_
        obtain ⟨t, ht, hx⟩ := hx
        exact ⟨t, List.mem_cons_of_mem _ ht, hx⟩
      · exact fun n hn => hcall n (invokes_allSteps_cons.2 (.inr hn))

end

/-! ### Invocations -/

section
variable {g : Graph} {reg : Registry} {env env' : Environment} {name : String}

theorem invoke_of_agrees (h : Environment.Agrees (reg.Reads name) env env') (st : CallStack reg)
    (xs : Sequence) : invoke g reg st env name xs = invoke g reg st env' name xs := by
  induction st, name using invoke_induction generalizing xs with
  | undefined st name hp => rw [invoke_of_undefined hp, invoke_of_undefined hp]
  | running st name p hp hn => rw [invoke_of_running hp hn, invoke_of_running hp hn]
  | entered st name p hp hd hn ih =>
    rw [invoke_of_idle hp hd hn, invoke_of_idle hp hd hn, NamedPath.run_eq_yield, NamedPath.run_eq_yield]
    apply Statement.yield_of_agrees
    · rw [Environment.get?_set, if_pos rfl]
      rfl
    · exact h.mono fun x hx => ⟨name, p, .refl, hp, hx⟩
    · intro n hn ys
      exact ih n hn (h.mono fun x hx => hx.of_calls ⟨p, hp, hn⟩) ys

/-- **A path depends on its input and on the variables of the script that it reads, `$_` not being
one of them.** Where two scripts agree on those, an invocation has one outcome. It has none other from
a statement in the body of some path: two such statements that go by this path alone and begin with
the same sequence come to the same, whatever is assigned in the two frames. -/
theorem invoke_independence (g : Graph) (reg : Registry) (st : CallStack reg) (name : String)
    (env env' : Environment) (h : Environment.Agrees (reg.Reads name) env env') :
    (∀ xs, invoke g reg st env name xs = invoke g reg st env' name xs) ∧
    (∀ (frame frame' : Environment) (e e' : Expr), (∀ n, Step.Invokes e.steps n → n = name) →
      e'.steps = e.steps → e.start g ⟨frame, some env⟩ = e'.start g ⟨frame', some env'⟩ →
        e.eval g (invoke g reg st) ⟨frame, some env⟩ = e'.eval g (invoke g reg st) ⟨frame', some env'⟩) ∧
    (∀ xs ys, invoke g reg st (env.set contextName ys) name xs = invoke g reg st env name xs) := by
  have hinvoke := invoke_of_agrees (g := g) h st
  refine ⟨hinvoke, fun frame frame' e e' hname hsteps hstart => ?_, fun xs ys => ?_⟩
  · apply Expr.eval_of_start hsteps hstart
    intro n hn ys
    rw [hname n hn]
    exact hinvoke ys
  · apply invoke_of_agrees
    intro x _ hx
    rw [Environment.get?_set, bareName_contextName, if_neg hx]

end

/-- Whom the people of a variable know, whatever the input is. -/
def contactsPath : NamedPath :=
  ⟨"contacts", 1, [⟨2, "$team/known/inV", none, ⟨.var "team", none,
    [⟨.path "known", none, "/known"⟩, ⟨.hop .inV, none, "/inV"⟩]⟩⟩]⟩

/-- It reads that variable, and the path that it calls reads none. -/
theorem eq_team_of_reads_contacts {x : String} (h : (acquaintances.put contactsPath).Reads "contacts" x) :
    x = "team" := by
  have hcontacts : (acquaintances.put contactsPath).find? "contacts" = some contactsPath := by decide
  have hknown : (acquaintances.put contactsPath).find? "known" = some knownPath := by decide
  obtain ⟨n, p, hn, hp, s, hs, hx⟩ := h
  rcases hn.cases_head with rfl | ⟨m, ⟨q, hq, t, ht, htarget⟩, hn⟩
  · rw [hcontacts] at hp
    cases hp
    rw [List.mem_singleton.1 hs] at hx
    cases hx
    rfl
  · rw [hcontacts] at hq
    cases hq
    obtain rfl : m = "known" := by
      rcases List.mem_cons.1 ht with rfl | ht
      · cases htarget
        rfl
      · rw [List.mem_singleton.1 ht] at htarget
        cases htarget
    rcases hn.cases_head with rfl | ⟨m, ⟨q, hq, t, ht, htarget⟩, -⟩
    · rw [hknown] at hp
      cases hp
      rw [List.mem_singleton.1 hs] at hx
      cases hx
    · rw [hknown] at hq
      cases hq
      rw [List.mem_singleton.1 ht] at htarget
      cases htarget

/-- A `$_` and a variable that is not read make no difference to it. -/
theorem invoke_independence_contacts :
    let reg := acquaintances.put contactsPath
    let env := Environment.ofList [("_", [.vertex ⟨2⟩]), ("team", [.vertex ⟨1⟩])]
    let env' := Environment.ofList [("team", [.vertex ⟨1⟩]), ("rest", [])]
    Environment.Agrees (reg.Reads "contacts") env env' ∧
      invoke twoPeople reg .empty env "contacts" [] = invoke twoPeople reg .empty env' "contacts" [] := by
  intro reg env env'
  have hagree : Environment.Agrees (reg.Reads "contacts") env env' := by
    intro x hx _
    rw [eq_team_of_reads_contacts hx]
    decide
  exact ⟨hagree, (invoke_independence twoPeople reg .empty "contacts" env env' hagree).1 []⟩

end Footpath
