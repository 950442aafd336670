import Footpath.Proofs.Invocation.CallGraph

/-! Bodies, statement by statement.

The result of a path is the value of the variable that its body assigns last. `Statement.yield` runs
a body with that variable in hand, so that what is shown of a body by induction on its statements is
shown of its result (`NamedPath.run_eq_yield`). -/
namespace Footpath

@[simp] theorem bareName_contextName : bareName contextName = contextName := rfl

/-- What the rest of a body yields in a frame, `last` being the variable that was assigned last. -/
def Statement.yield (g : Graph) (call : Invoker) (env frame : Environment) (last : String) :
    List Statement → Except Error Sequence
  | [] => .ok ((frame.get? last).getD [])
  | s :: ss =>
    match s.expr.eval g call ⟨frame, some env⟩ with
    | .error e => .error (e.within s)
    | .ok xs => yield g call env (frame.set s.targetName xs) s.targetName ss

section
variable (g : Graph) (call : Invoker) (env : Environment)

theorem Statement.yield_cons (frame : Environment) (last : String) (s : Statement) (ss : List Statement) :
    yield g call env frame last (s :: ss) =
      (s.expr.eval g call ⟨frame, some env⟩).mapError (·.within s) >>= fun xs =>
        yield g call env (frame.set s.targetName xs) s.targetName ss := by
  rw [yield]
  cases s.expr.eval g call ⟨frame, some env⟩ <;> rfl

theorem Statement.yield_eq_runAll (frame : Environment) (last : String) (ss : List Statement) :
    yield g call env frame last ss =
      match runAll g call ⟨frame, some env⟩ ss with
      | (_, some e) => .error e
      | (scope, none) =>
        .ok ((scope.frame.get? ((ss.getLast?.map targetName).getD last)).getD []) := by
  induction ss generalizing frame last with
  | nil => rfl
  | cons s ss ih =>
    have hlast : (((s :: ss).getLast?.map targetName).getD last) =
        (ss.getLast?.map targetName).getD s.targetName := by
      rw [List.getLast?_cons]
      cases ss.getLast? <;> rfl
    rw [yield, hlast, runAll, run]
    cases s.expr.eval g call ⟨frame, some env⟩ with
    | error e => rfl
    | ok xs => exact ih (frame.set s.targetName xs) s.targetName

/-- A body begins with its input in `$_`, which is its result too as long as nothing is assigned. -/
theorem NamedPath.run_eq_yield (p : NamedPath) (xs : Sequence) :
    p.run g call env xs =
      Statement.yield g call env (Environment.empty.set contextName xs) contextName p.body := by
  have hyield := Statement.yield_eq_runAll g call env (Environment.empty.set contextName xs) contextName p.body
  cases hrun : Statement.runAll g call ⟨Environment.empty.set contextName xs, some env⟩ p.body with
  | mk scope failure =>
    rw [hrun] at hyield
    simp only [run, hrun]
    cases failure with
    | none => exact hyield.symm
    | some e => exact hyield.symm

end

end Footpath
