import Mathlib.Data.List.Chain
import Footpath.Proofs.Invocation.CallGraph

/-! Recursion is found exactly when it is there.

The interpreter looks at its stack only; the call graph is a matter of what is written. The two are
tied from both sides. A run that succeeds has entered every path that its steps reach, so each of
them is defined and none calls itself (`Grounded`). And the stack of a running path is a walk in the
call graph, so the chain that an error tells is a cycle in it, and one that the steps reach.
`runSteps_recursion` is the two together. -/
namespace Footpath
open Relation

/-! ### Runs that succeed -/

/-- A path that is defined and calls only such paths; no descent along calls is endless. -/
inductive Registry.Grounded (reg : Registry) : String → Prop where
  | intro {name : String} : name ∈ reg.names → (∀ n, reg.Calls name n → Grounded reg n) → Grounded reg name

namespace Registry.Grounded

variable {reg : Registry} {m n : String}

theorem defined (h : reg.Grounded m) : m ∈ reg.names := by
  cases h with
  | intro hd _ => exact hd

theorem of_calls (h : reg.Grounded m) (hn : ReflTransGen reg.Calls m n) : reg.Grounded n := by
  induction hn with
  | refl => exact h
  | tail _ hcall ih =>
    cases ih with
    | intro _ hcalls => exact hcalls _ hcall

/-- On a cycle the descent would be endless. -/
theorem acyclic (h : reg.Grounded m) : ¬ TransGen reg.Calls m m := by
  induction h with
  | @intro m _ _ ih =>
    intro hcycle
    obtain ⟨n, hcall, hback⟩ := TransGen.head'_iff.1 hcycle
    exact ih n hcall (.tail' hback hcall)

end Registry.Grounded

section
variable {g : Graph} {reg : Registry} {st : CallStack reg} {env : Environment} {name : String} {xs : Sequence}

/-- Only a grounded path yields a result. -/
theorem grounded_of_invoke {ys : Sequence} (h : invoke g reg st env name xs = .ok ys) :
    reg.Grounded name := by
  induction st, name using invoke_induction generalizing env xs ys with
  | undefined st name hp =>
    rw [invoke_of_undefined hp] at h
    cases h
  | running st name p hp hn =>
    rw [invoke_of_running hp hn] at h
    cases h
  | entered st name p hp hd hn ih =>
    rw [invoke_of_idle hp hd hn] at h
    refine .intro hd fun n hcall => ?_
    obtain ⟨q, hq, hinvokes⟩ := hcall
    rw [hp] at hq
    cases hq
    obtain ⟨_, _, hcalled⟩ := NamedPath.run_invokes h hinvokes
    exact ih n hinvokes hcalled

/-! ### The chain that is told -/

/-- With a walk in the call graph on the stack, the chain of a recursion error is a cycle that begins
on the stack or behind the invoked path. -/
theorem cycle_of_invoke (hst : (st.names ++ [name]).IsChain reg.Calls) {e : Error} {chain : List String}
    (h : invoke g reg st env name xs = .error e) (he : e.fault = .recursion chain) :
    ∃ n rest, chain = n :: rest ++ [n] ∧ (n :: rest).Nodup ∧ chain.IsChain reg.Calls ∧
      (n ∈ st.names ∨ ReflTransGen reg.Calls name n) := by
  induction st, name using invoke_induction generalizing env xs e with
  | undefined st name hp =>
    rw [invoke_of_undefined hp] at h
    cases h
    cases he
  | running st name p hp hn =>
    rw [invoke_of_running hp hn] at h
    cases h
    cases he
    obtain ⟨before, after, hnames, hcycle⟩ := CallStack.cycle_eq hn
    rw [hnames, List.append_assoc] at hst
    have hnodup := st.nodup
    rw [hnames, List.nodup_append] at hnodup
    rw [hcycle]
    exact ⟨name, after, rfl, hnodup.2.1, hst.right_of_append, .inl hn⟩
  | entered st name p hp hd hn ih =>
    rw [invoke_of_idle hp hd hn] at h
    obtain ⟨s, hs, e', rfl, hlocal | ⟨n, ys, hinvokes, hcalled⟩⟩ := NamedPath.run_error h
    · obtain ⟨f, hf, rfl⟩ := hlocal
      have : f = .recursion chain := he
      rw [this] at hf
      cases hf
    · have hsteps := NamedPath.invokes_steps hs hinvokes
      have hcall : reg.Calls name n := ⟨p, hp, hsteps⟩
      have hwalk : ((st.push name hd hn).names ++ [n]).IsChain reg.Calls := by
        rw [CallStack.names_push]
        refine hst.append (.singleton n) ?_
        intro x hx y hy
        simp only [List.getLast?_concat, Option.mem_some_iff, List.head?_cons] at hx hy
        rwa [← hx, ← hy]
      obtain ⟨m, rest, hchain, hnodup, hcycle, hm⟩ := ih n hsteps hwalk hcalled he
      refine ⟨m, rest, hchain, hnodup, hcycle, ?_⟩
      rcases hm with hm | hm
      · rcases List.mem_append.1 hm with hm | hm
        · exact .inl hm
        · exact .inr (List.mem_singleton.1 hm ▸ .refl)
      · exact .inr (.head hcall hm)

/-- A walk that ends where it began is a cycle. -/
theorem Registry.transGen_of_isChain {n : String} {rest : List String}
    (h : (n :: rest ++ [n]).IsChain reg.Calls) : TransGen reg.Calls n n := by
  have hwalk : (n :: (rest ++ [n])).Pairwise (TransGen reg.Calls) :=
    (h.imp fun _ _ hcall => TransGen.single hcall).pairwise
  exact (List.pairwise_cons.1 hwalk).1 n (List.mem_append_right _ (List.mem_singleton_self n))

/-! ### Steps by themselves -/

/-- **Recursion is found exactly when it is there.** Steps that yield a result reach only paths that
are defined and lie on no cycle of calls. The chain of a recursion error is such a cycle, told from a
path that the steps reach back to it, no path on the way twice. So without a cycle in reach there is
no recursion error, and with one there is no result. -/
theorem runSteps_recursion (g : Graph) (reg : Registry) (steps : List Step) (xs : Sequence) :
    (∀ ys, reg.runSteps g steps xs = .ok ys →
      ∀ n, reg.Reaches steps n → n ∈ reg.names ∧ ¬ TransGen reg.Calls n n) ∧
    (∀ e chain, reg.runSteps g steps xs = .error e → e.fault = .recursion chain →
      ∃ n rest, chain = n :: rest ++ [n] ∧ (n :: rest).Nodup ∧ reg.Reaches steps n ∧
        chain.IsChain reg.Calls) ∧
    ((∀ n, reg.Reaches steps n → ¬ TransGen reg.Calls n n) →
      ∀ e chain, reg.runSteps g steps xs = .error e → e.fault ≠ .recursion chain) ∧
    ((∃ n, reg.Reaches steps n ∧ TransGen reg.Calls n n) → ∀ ys, reg.runSteps g steps xs ≠ .ok ys) := by
  have hsound : ∀ ys, reg.runSteps g steps xs = .ok ys →
      ∀ n, reg.Reaches steps n → n ∈ reg.names ∧ ¬ TransGen reg.Calls n n := by
    intro ys h n hreach
    obtain ⟨m, hm, hn⟩ := hreach
    obtain ⟨_, _, hcalled⟩ := Step.runAll_invokes h hm
    have hground := (grounded_of_invoke hcalled).of_calls hn
    exact ⟨hground.defined, hground.acyclic⟩
  have hchain : ∀ e chain, reg.runSteps g steps xs = .error e → e.fault = .recursion chain →
      ∃ n rest, chain = n :: rest ++ [n] ∧ (n :: rest).Nodup ∧ reg.Reaches steps n ∧
        chain.IsChain reg.Calls := by
    intro e chain h he
    rcases Step.runAll_error h with ⟨f, hf, rfl⟩ | ⟨m, ys, hm, hcalled⟩
    · have : f = .recursion chain := he
      rw [this] at hf
      cases hf
    · obtain ⟨n, rest, hchain, hnodup, hcycle, hn | hn⟩ := cycle_of_invoke (.singleton m) hcalled he
      · cases hn
      · exact ⟨n, rest, hchain, hnodup, ⟨m, hm, hn⟩, hcycle⟩
  refine ⟨hsound, hchain, fun hacyclic e chain h he => ?_, fun ⟨n, hreach, hcycle⟩ ys h => ?_⟩
  · obtain ⟨n, rest, rfl, -, hreach, hcalls⟩ := hchain e chain h he
    exact hacyclic n hreach (Registry.transGen_of_isChain hcalls)
  · exact (hsound ys h n hreach).2 hcycle

end

end Footpath
