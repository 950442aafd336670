import Footpath.Graph.Basic

/-! The built-in navigations. Each maps an element to its neighbours, and a sequence to the
neighbours of its elements one after another. -/
namespace Footpath.Hop

/-- The source of an edge, as a sequence. -/
def sourceOf (g : Graph) (e : EdgeId) : Except Fault Sequence :=
  match g.source? e with
  | some v => .ok [.vertex v]
  | none => .error (.missing (.element (.edge e)))

/-- The target of an edge, as a sequence. -/
def targetOf (g : Graph) (e : EdgeId) : Except Fault Sequence :=
  match g.target? e with
  | some v => .ok [.vertex v]
  | none => .error (.missing (.element (.edge e)))

/-- The neighbours of one element; `token` is what an error names. -/
def neighbours (g : Graph) (token : String) : Hop → Element → Except Fault Sequence
  | .outE, .vertex v => .ok ((g.outgoing v).map .edge)
  | .inE, .vertex v => .ok ((g.incoming v).map .edge)
  | .both, .vertex v => .ok ((g.outgoing v ++ g.incoming v).map .edge)
  | .outV, .edge e => sourceOf g e
  | .inV, .edge e => targetOf g e
  | .bothV, .edge e => do return (← sourceOf g e) ++ (← targetOf g e)
  | _, x => .error (.navigation token x)

def run (g : Graph) (token : String) (h : Hop) : Sequence → Except Fault Sequence
  | [] => .ok []
  | x :: xs =>
    match h.neighbours g token x with
    | .error f => .error f
    | .ok ys =>
      match h.run g token xs with
      | .error f => .error f
      | .ok zs => .ok (ys ++ zs)

/-- The neighbours of two sequences in a row are those of one behind those of the other. -/
theorem run_append (g : Graph) (token : String) (h : Hop) (a b : Sequence) :
    h.run g token (a ++ b) = do return (← h.run g token a) ++ (← h.run g token b) := by
  induction a with
  | nil =>
    rw [List.nil_append, run]
    cases h.run g token b <;> rfl
  | cons x a ih =>
    simp only [List.cons_append, run, ih]
    cases h.neighbours g token x with
    | error f => rfl
    | ok ys =>
      cases h.run g token a with
      | error f => rfl
      | ok zs =>
        cases h.run g token b with
        | error f => rfl
        | ok ws =>
          show Except.ok (ys ++ (zs ++ ws)) = Except.ok (ys ++ zs ++ ws)
          rw [List.append_assoc]

end Footpath.Hop
