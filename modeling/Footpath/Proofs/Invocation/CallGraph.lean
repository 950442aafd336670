import Mathlib.Logic.Relation
import Footpath.Proofs.Invocation.Calls

/-! The call graph of a registry, and what invoking a path comes to.

A path calls those that the steps of its body go by, defined or not; what steps reach is what they
invoke and all that is called from there. An invocation has three ends: the path is not defined, it
is being run already, or its body runs with the path put on the stack. Each path enters the stack
once at most, so an argument about all stacks may assume the stacks with one path more
(`push_induction`), and one about all invocations the invocations from there (`invoke_induction`). -/
namespace Footpath
open Relation

/-! ### Calls -/

/-- The names of the paths that steps go by, in order. -/
def Step.called (ss : List Step) : List String :=
  ss.filterMap fun s => match s.target with
    | .path name => some name
    | .hop _ => none

theorem Step.mem_called_iff {ss : List Step} {name : String} : name ∈ called ss ↔ Invokes ss name := by
  rw [called, List.mem_filterMap]
  apply exists_congr
  intro s
  rw [and_congr_right_iff]
  intro _
  cases s.target <;> simp

namespace Registry

/-- The body that is registered under the name `m` has a step by the path `n`. -/
def Calls (reg : Registry) (m n : String) : Prop := ∃ p, reg.find? m = some p ∧ Step.Invokes p.steps n

/-- Some of the steps invokes `n`, or a path from which calls lead to `n`. -/
def Reaches (reg : Registry) (ss : List Step) (n : String) : Prop :=
  ∃ m, Step.Invokes ss m ∧ ReflTransGen reg.Calls m n

variable {reg : Registry}

/-- Names that the steps invoke, and with each name those that its path invokes, are all there is to
reach. -/
theorem Reaches.mem_of_closed {ss : List Step} {ns : List String} (hstart : ∀ n ∈ Step.called ss, n ∈ ns)
    (hstep : ∀ m ∈ ns, ∀ p ∈ reg.find? m, ∀ n ∈ Step.called p.steps, n ∈ ns) {n : String}
    (h : reg.Reaches ss n) : n ∈ ns := by
  obtain ⟨m, hm, hcalls⟩ := h
  induction hcalls with
  | refl => exact hstart m (Step.mem_called_iff.2 hm)
  | tail _ hcall ih =>
    obtain ⟨p, hp, hn⟩ := hcall
    exact hstep _ ih p hp _ (Step.mem_called_iff.2 hn)

theorem mem_names_of_find? {name : String} {p : NamedPath} (h : reg.find? name = some p) :
    name ∈ reg.names :=
  (reg.find?_isSome_iff name).1 (by rw [h]; rfl)

end Registry

/-! ### Stacks -/

namespace CallStack

variable {reg : Registry}

@[simp] theorem names_push (st : CallStack reg) (name : String) (hd : name ∈ reg.names)
    (hn : name ∉ st.names) : (st.push name hd hn).names = st.names ++ [name] := rfl

/-- What holds of a stack whenever it holds of all that have one path more holds of every stack. -/
@[elab_as_elim]
theorem push_induction {motive : CallStack reg → Prop}
    (step : ∀ st, (∀ name hd hn, motive (st.push name hd hn)) → motive st) (st : CallStack reg) :
    motive st := by
  induction st using WellFounded.induction
    (measure fun st : CallStack reg => reg.size - st.names.length).wf with
  | _ st ih =>
    refine step st fun name hd hn => ih _ ?_
    have hle := (st.push name hd hn).length_le
    show reg.size - (st.push name hd hn).names.length < reg.size - st.names.length
    simp only [names_push, List.length_append, List.length_singleton] at hle ⊢
    omega

/-- The cycle that a running path closes is the part of the stack from that path on. -/
theorem cycle_eq {st : CallStack reg} {name : String} (h : name ∈ st.names) :
    ∃ before after, st.names = before ++ name :: after ∧ st.cycle name = (name :: after) ++ [name] := by
  obtain ⟨before, after, hst⟩ := List.append_of_mem h
  have hbefore : ∀ n ∈ before, decide (n ≠ name) = true := by
    intro n hn
    have hnodup := st.nodup
    rw [hst, List.nodup_append] at hnodup
    simpa using hnodup.2.2 n hn name (List.mem_cons_self ..)
  refine ⟨before, after, hst, ?_⟩
  rw [cycle, hst, List.dropWhile_append_of_pos hbefore, List.dropWhile_cons_of_neg (by simp)]

end CallStack

/-! ### Invocations -/

section
variable {g : Graph} {reg : Registry} {st : CallStack reg} {env : Environment} {name : String} {xs : Sequence}

theorem invoke_of_undefined (h : reg.find? name = none) :
    invoke g reg st env name xs = .error (.ofFault (.noPath name)) := by
  rw [invoke]
  split
  · rfl
  · rename_i p hp
    rw [h] at hp
    cases hp

theorem invoke_of_running {p : NamedPath} (h : reg.find? name = some p) (hn : name ∈ st.names) :
    invoke g reg st env name xs = .error (.ofFault (.recursion (st.cycle name))) := by
  rw [invoke]
  split
  · rename_i hp
    rw [h] at hp
    cases hp
  · rw [dif_pos hn]

theorem invoke_of_idle {p : NamedPath} (h : reg.find? name = some p) (hd : name ∈ reg.names)
    (hn : name ∉ st.names) :
    invoke g reg st env name xs = p.run g (invoke g reg (st.push name hd hn)) env xs := by
  rw [invoke]
  split
  · rename_i hp
    rw [h] at hp
    cases hp
  · rename_i q hq
    rw [h] at hq
    cases hq
    rw [dif_neg hn]

/-- The recursion of invocations as an induction: a path is entered with its name put on the stack,
and what is invoked from there is what the steps of its body name. -/
@[elab_as_elim]
theorem invoke_induction {motive : CallStack reg → String → Prop}
    (undefined : ∀ st name, reg.find? name = none → motive st name)
    (running : ∀ st name p, reg.find? name = some p → name ∈ st.names → motive st name)
    (entered : ∀ st name p (_ : reg.find? name = some p) (hd : name ∈ reg.names) (hn : name ∉ st.names),
      (∀ n, Step.Invokes p.steps n → motive (st.push name hd hn) n) → motive st name)
    (st : CallStack reg) (name : String) : motive st name := by
  induction st using CallStack.push_induction generalizing name with
  | step st ih =>
    cases hp : reg.find? name with
    | none => exact undefined st name hp
    | some p =>
      by_cases hn : name ∈ st.names
      · exact running st name p hp hn
      · have hd := Registry.mem_names_of_find? hp
        exact entered st name p hp hd hn fun n _ => ih name hd hn n

end

/-! ### Depth -/

/-- Runs the path of a name with `depth` invocations at most inside each other, `running` being the
names of those that are running already. What goes deeper is given up. -/
def invokeWithin (g : Graph) (reg : Registry) : Nat → List String → Invoker
  | 0, _, _, name, _ => .error (.ofFault (.noPath name))
  | depth + 1, running, env, name, xs =>
    match reg.find? name with
    | none => .error (.ofFault (.noPath name))
    | some p =>
      if name ∈ running then .error (.ofFault (.recursion (running.dropWhile (· ≠ name) ++ [name])))
      else p.run g (invokeWithin g reg depth (running ++ [name])) env xs

/-- Nothing goes deeper than there are paths, and one more. -/
theorem invoke_eq_invokeWithin {g : Graph} {reg : Registry} {st : CallStack reg} {depth : Nat}
    (hdepth : reg.size < st.names.length + depth) :
    invoke g reg st = invokeWithin g reg depth st.names := by
  induction depth generalizing st with
  | zero => exact absurd st.length_le (by omega)
  | succ depth ih =>
    funext env name xs
    rw [invokeWithin]
    cases hp : reg.find? name with
    | none => rw [invoke_of_undefined hp]
    | some p =>
      dsimp only
      by_cases hn : name ∈ st.names
      · rw [invoke_of_running hp hn, if_pos hn]
        rfl
      · rw [invoke_of_idle hp (Registry.mem_names_of_find? hp) hn, if_neg hn, ih]
        · rfl
        · rw [CallStack.names_push, List.length_append, List.length_singleton]
          omega

theorem invoke_empty_eq_within (g : Graph) (reg : Registry) :
    invoke g reg .empty = invokeWithin g reg (reg.size + 1) [] :=
  invoke_eq_invokeWithin (by rw [CallStack.empty, List.length_nil]; omega)

end Footpath
