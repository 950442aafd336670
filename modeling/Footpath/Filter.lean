import Footpath.Graph.Basic

/-! Predicates on the elements of a graph. A comparison with an absent property is false, one of
values that are not of one kind is an error, and `and` and `or` look at their right side only
when the left does not settle them. -/
namespace Footpath

/-! ### Comparisons -/

/-- The value of an operand; an identity is the text of a number. -/
def Operand.value? (g : Graph) (x : Element) : Operand → Option Value
  | .property name => g.property? x name
  | .label => (g.label? x).map .text
  | .identity => some (.text (toString x.number))
  | .literal v => some v

/-- Whether a comparison is defined on two values. -/
def Comparison.applies (op : Comparison) : Value → Value → Bool
  | .text _, .text _ => true
  | .boolean _, .boolean _ => op.isEquality
  | a, b => a.isNumber && b.isNumber

def Comparison.compare (op : Comparison) (a b : Value) : Except Fault Bool :=
  if op.applies a b then .ok (op.holds (a.compare? b)) else .error (.incomparable a op b)

/-! ### Predicates -/

def Predicate.holds (g : Graph) (x : Element) : Predicate → Except Fault Bool
  | .compare l op r =>
    match l.value? g x, r.value? g x with
    | some a, some b => op.compare a b
    | _, _ => .ok false
  | .and p q =>
    match p.holds g x with
    | .ok true => q.holds g x
    | r => r
  | .or p q =>
    match p.holds g x with
    | .ok false => q.holds g x
    | r => r

/-- The elements that satisfy a predicate, in order. -/
def Predicate.filter (g : Graph) (p : Predicate) : Sequence → Except Fault Sequence
  | [] => .ok []
  | x :: xs =>
    match p.holds g x with
    | .error f => .error f
    | .ok b =>
      match p.filter g xs with
      | .error f => .error f
      | .ok ys => .ok (if b then x :: ys else ys)

theorem Predicate.filter_append (g : Graph) (p : Predicate) (a b : Sequence) :
    p.filter g (a ++ b) = do return (← p.filter g a) ++ (← p.filter g b) := by
  induction a with
  | nil =>
    rw [List.nil_append, Predicate.filter]
    cases p.filter g b <;> rfl
  | cons x a ih =>
    simp only [List.cons_append, Predicate.filter, ih]
    cases p.holds g x with
    | error f => rfl
    | ok keep =>
      cases p.filter g a with
      | error f => rfl
      | ok ys =>
        cases p.filter g b with
        | error f => rfl
        | ok zs => cases keep <;> rfl

/-- A filter leaves elements out, and changes neither the order nor the others. -/
theorem Predicate.filter_sublist {g : Graph} {p : Predicate} {xs ys : Sequence} (h : p.filter g xs = .ok ys) :
    ys.Sublist xs := by
  induction xs generalizing ys with
  | nil =>
    cases h
    exact .slnil
  | cons x xs ih =>
    rw [Predicate.filter] at h
    cases hb : p.holds g x with
    | error f =>
      rw [hb] at h
      cases h
    | ok keep =>
      cases hys : p.filter g xs with
      | error f =>
        rw [hb, hys] at h
        cases h
      | ok zs =>
        rw [hb, hys] at h
        cases h
        cases keep with
        | true => exact (ih hys).cons_cons x
        | false => exact (ih hys).cons x

end Footpath
