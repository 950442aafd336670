import Footpath.Graph.Change
import Footpath.Proofs.Invocation.Calls

/-! Kinds of elements along a chain of built-in navigations.

A navigation starts from elements of one kind and leads to elements of the other, and a filter does not
change what is left. So the kinds of a chain can be told from its steps: it composes if each step starts
from the kind that the steps before it lead to (`Composes`), and if it does not, there is a first step that
starts from the other kind (`Misfits`). A run keeps to the kinds (`runAll_composes`). At a misfit all that
is left is of the wrong kind: if that is nothing, nothing is what the chain yields, and else the step fails
on the first of it (`runAll_misfits`). -/
namespace Footpath

inductive Kind where
  | vertex
  | edge
deriving DecidableEq

def Kind.of : Element → Kind
  | .vertex _ => .vertex
  | .edge _ => .edge

/-- All elements of a sequence are of one kind; an empty sequence is of both. -/
def Kind.Holds (k : Kind) (xs : Sequence) : Prop := ∀ x ∈ xs, Kind.of x = k

instance (k : Kind) (xs : Sequence) : Decidable (k.Holds xs) :=
  inferInstanceAs (Decidable (∀ x ∈ xs, Kind.of x = k))

namespace Hop

/-- The kind that a navigation starts from. -/
def domain : Hop → Kind
  | outE | inE | both => .vertex
  | outV | inV | bothV => .edge

/-- The kind that a navigation leads to. -/
def codomain : Hop → Kind
  | outE | inE | both => .edge
  | outV | inV | bothV => .vertex

/-! ### Navigations -/

variable {g : Graph} {token : String} {h : Hop}

theorem holds_vertex (v : VertexId) : Kind.vertex.Holds [.vertex v] := by
  intro y hy
  rw [List.mem_singleton.1 hy]
  rfl

theorem holds_sourceOf {e : EdgeId} {ys : Sequence} (hys : sourceOf g e = .ok ys) : Kind.vertex.Holds ys := by
  unfold sourceOf at hys
  split at hys
  · cases hys
    exact holds_vertex _
  · cases hys

theorem holds_targetOf {e : EdgeId} {ys : Sequence} (hys : targetOf g e = .ok ys) : Kind.vertex.Holds ys := by
  unfold targetOf at hys
  split at hys
  · cases hys
    exact holds_vertex _
  · cases hys

theorem holds_edges (es : List EdgeId) : Kind.edge.Holds (es.map .edge) := by
  intro y hy
  obtain ⟨e, -, rfl⟩ := List.mem_map.1 hy
  rfl

theorem holds_neighbours {x : Element} {ys : Sequence} (hys : h.neighbours g token x = .ok ys) :
    h.codomain.Holds ys := by
  cases x with
  | vertex v =>
    cases h with
    | outE | inE | both =>
      cases hys
      exact holds_edges _
    | outV | inV | bothV => cases hys
  | edge e =>
    cases h with
    | outE | inE | both => cases hys
    | outV => exact holds_sourceOf hys
    | inV => exact holds_targetOf hys
    | bothV =>
      obtain ⟨as, has, hrest⟩ := bind_eq_ok_iff.1 hys
      obtain ⟨bs, hbs, hjoin⟩ := bind_eq_ok_iff.1 hrest
      cases hjoin
      intro y hy
      rcases List.mem_append.1 hy with hy | hy
      · exact holds_sourceOf has y hy
      · exact holds_targetOf hbs y hy

/-- Without one the navigation starts from, there are no neighbours. -/
theorem neighbours_of_ne {x : Element} (hx : Kind.of x ≠ h.domain) :
    h.neighbours g token x = .error (.navigation token x) := by
  cases x <;> cases h <;> first | rfl | exact absurd rfl hx

theorem neighbours_ne_navigation {x y : Element} {t : String} (hx : Kind.of x = h.domain) :
    h.neighbours g token x ≠ .error (.navigation t y) := by
  intro hf
  cases x with
  | vertex v =>
    cases h with
    | outE | inE | both => cases hf
    | outV | inV | bothV => cases hx
  | edge e =>
    cases h with
    | outE | inE | both => cases hx
    | outV => cases sourceOf_error hf
    | inV => cases targetOf_error hf
    | bothV =>
      rcases bind_eq_error_iff.1 hf with hs | ⟨as, -, hrest⟩
      · cases sourceOf_error hs
      · rcases bind_eq_error_iff.1 hrest with ht | ⟨bs, -, hjoin⟩
        · cases targetOf_error ht
        · cases hjoin

theorem holds_run {xs ys : Sequence} (hys : h.run g token xs = .ok ys) : h.codomain.Holds ys := by
  induction xs generalizing ys with
  | nil =>
    cases hys
    exact fun y hy => absurd hy List.not_mem_nil
  | cons x xs ih =>
    unfold run at hys
    split at hys
    · cases hys
    · rename_i as has
      split at hys
      · cases hys
      · rename_i bs hbs
        cases hys
        intro y hy
        rcases List.mem_append.1 hy with hy | hy
        · exact holds_neighbours has y hy
        · exact ih hbs y hy

theorem run_ne_navigation {xs : Sequence} {t : String} {y : Element} (hxs : h.domain.Holds xs) :
    h.run g token xs ≠ .error (.navigation t y) := by
  induction xs with
  | nil => exact nofun
  | cons x xs ih =>
    intro hf
    unfold run at hf
    split at hf
    · rename_i hx
      cases hf
      exact neighbours_ne_navigation (hxs x List.mem_cons_self) hx
    · split at hf
      · rename_i hrest
        cases hf
        exact ih (fun z hz => hxs z (List.mem_cons_of_mem x hz)) hrest
      · cases hf

/-- A sequence of the wrong kind is found out at its first element. -/
theorem run_cons_of_ne {x : Element} (hx : Kind.of x ≠ h.domain) (xs : Sequence) :
    h.run g token (x :: xs) = .error (.navigation token x) := by
  rw [run, neighbours_of_ne hx]

end Hop

/-! ### Steps -/

/-- The error is that of a navigation from an element of the wrong kind. -/
def Error.IsNavigation (e : Error) (token : String) : Prop := ∃ x, e.fault = .navigation token x

namespace Step

variable {g : Graph} {call : String → Sequence → Except Error Sequence} {s : Step} {h : Hop}

theorem holds_run (hs : s.target = .hop h) {xs ys : Sequence} (hys : s.run g call xs = .ok ys) :
    h.codomain.Holds ys := by
  rw [run_eq_bind, navigate, hs] at hys
  obtain ⟨zs, hnavigate, hfilter⟩ := bind_eq_ok_iff.1 hys
  have hzs : h.codomain.Holds zs := Hop.holds_run (mapError_eq_ok_iff.1 hnavigate)
  unfold filtered at hfilter
  split at hfilter
  · cases hfilter
    exact hzs
  · have hsub := Predicate.filter_sublist (mapError_eq_ok_iff.1 hfilter)
    exact fun y hy => hzs y (hsub.subset hy)

theorem not_isNavigation_of_filtered {xs : Sequence} {e : Error} {token : String}
    (he : s.filtered g xs = .error e) : ¬ e.IsNavigation token := by
  unfold filtered at he
  split at he
  · cases he
  · rename_i p _
    rintro ⟨x, hx⟩
    obtain ⟨f, hf, rfl⟩ := mapError_eq_error_iff.1 he
    obtain ⟨a, op, b, rfl⟩ := Predicate.filter_error hf
    cases hx

theorem not_isNavigation_of_run (hs : s.target = .hop h) {xs : Sequence} (hxs : h.domain.Holds xs) {e : Error}
    {token : String} (he : s.run g call xs = .error e) : ¬ e.IsNavigation token := by
  rw [run_eq_bind, navigate, hs] at he
  rcases bind_eq_error_iff.1 he with hnavigate | ⟨zs, -, hfilter⟩
  · rintro ⟨x, hx⟩
    obtain ⟨f, hf, rfl⟩ := mapError_eq_error_iff.1 hnavigate
    have hfault : f = .navigation token x := hx
    exact Hop.run_ne_navigation hxs (hfault ▸ hf)
  · exact not_isNavigation_of_filtered hfilter

theorem run_nil (hs : s.target = .hop h) : s.run g call [] = .ok [] := by
  rw [run_eq_bind, navigate, hs]
  show s.filtered g [] = .ok []
  unfold filtered
  split <;> rfl

theorem run_cons_of_ne (hs : s.target = .hop h) {x : Element} (hx : Kind.of x ≠ h.domain) (xs : Sequence) :
    s.run g call (x :: xs) = .error (.ofFault (.navigation s.token x)) := by
  rw [run_eq_bind, navigate, hs]
  dsimp only
  rw [Hop.run_cons_of_ne hx]
  rfl

/-! ### Chains -/

/-- All steps are built-in navigations. -/
def BuiltIn (ss : List Step) : Prop := ∀ s ∈ ss, ∃ h, s.target = .hop h

/-- From the kind `a` each step starts from what the steps before it lead to, and the last one leads to `b`. -/
inductive Composes : Kind → List Step → Kind → Prop where
  | nil (a : Kind) : Composes a [] a
  | cons {a b : Kind} {s : Step} {h : Hop} {ss : List Step} (hs : s.target = .hop h) (ha : h.domain = a)
      (hss : Composes h.codomain ss b) : Composes a (s :: ss) b

/-- The steps before `s` compose from the kind `a`, and `s` starts from the other kind than they lead to. -/
def Misfits (a : Kind) (ss : List Step) (s : Step) : Prop :=
  ∃ before after b h, ss = before ++ s :: after ∧ Composes a before b ∧ s.target = .hop h ∧ h.domain ≠ b

theorem composes_or_misfits {ss : List Step} (hss : BuiltIn ss) (a : Kind) :
    (∃ b, Composes a ss b) ∨ ∃ s, Misfits a ss s := by
  induction ss generalizing a with
  | nil => exact .inl ⟨a, .nil a⟩
  | cons s ss ih =>
    obtain ⟨h, hs⟩ := hss s List.mem_cons_self
    by_cases ha : h.domain = a
    · rcases ih (fun t ht => hss t (List.mem_cons_of_mem s ht)) h.codomain with
        ⟨b, hb⟩ | ⟨t, before, after, b, k, rfl, hbefore, ht, hk⟩
      · exact .inl ⟨b, .cons hs ha hb⟩
      · exact .inr ⟨t, s :: before, after, b, k, rfl, .cons hs ha hbefore, ht, hk⟩
    · exact .inr ⟨s, [], ss, a, h, rfl, .nil a, hs, ha⟩

variable (g call) in
/-- A chain that composes keeps to the kinds. -/
theorem runAll_composes {a b : Kind} {ss : List Step} (hss : Composes a ss b) {xs : Sequence} (hxs : a.Holds xs) :
    (∀ ys, runAll g call ss xs = .ok ys → b.Holds ys) ∧
      ∀ e token, runAll g call ss xs = .error e → ¬ e.IsNavigation token := by
  induction hss generalizing xs with
  | nil a =>
    refine ⟨fun ys hys => ?_, fun e token he => nomatch he⟩
    cases hys
    exact hxs
  | cons hs ha _ ih =>
    subst ha
    simp only [runAll_cons]
    constructor
    · intro ys hys
      obtain ⟨zs, hzs, hrest⟩ := bind_eq_ok_iff.1 hys
      exact (ih (holds_run hs hzs)).1 ys hrest
    · intro e token he
      rcases bind_eq_error_iff.1 he with hfirst | ⟨zs, hzs, hrest⟩
      · exact not_isNavigation_of_run hs hxs hfirst
      · exact (ih (holds_run hs hzs)).2 e token hrest

/-- Nothing navigates to nothing. -/
theorem runAll_nil {ss : List Step} (hss : BuiltIn ss) : runAll g call ss [] = .ok [] := by
  induction ss with
  | nil => rfl
  | cons s ss ih =>
    obtain ⟨h, hs⟩ := hss s List.mem_cons_self
    rw [runAll, run_nil hs]
    exact ih fun t ht => hss t (List.mem_cons_of_mem s ht)

/-- At the first step that does not fit, a run ends or has nothing left. -/
theorem runAll_misfits {a : Kind} {ss : List Step} {s : Step} (hbuilt : BuiltIn ss) (hss : Misfits a ss s)
    {xs : Sequence} (hxs : a.Holds xs) :
    (∃ e, runAll g call ss xs = .error e ∧ ∀ token, e.IsNavigation token → token = s.token) ∨
      runAll g call ss xs = .ok [] := by
  obtain ⟨before, after, b, h, rfl, hbefore, hs, hb⟩ := hss
  obtain ⟨hkind, hfault⟩ := runAll_composes g call hbefore hxs
  rw [runAll_append]
  cases hrun : runAll g call before xs with
  | error e => exact .inl ⟨e, rfl, fun token he => absurd he (hfault e token hrun)⟩
  | ok ys =>
    show (∃ e, runAll g call (s :: after) ys = .error e ∧ _) ∨ runAll g call (s :: after) ys = .ok []
    cases ys with
    | nil => exact .inr (runAll_nil fun t ht => hbuilt t (List.mem_append_right before ht))
    | cons y ys =>
      have hy : Kind.of y ≠ h.domain := fun heq => hb (heq.symm.trans (hkind _ hrun y List.mem_cons_self))
      refine .inl ⟨.ofFault (.navigation s.token y), ?_, ?_⟩
      · rw [runAll, run_cons_of_ne hs hy]
      · rintro token ⟨x, hx⟩
        cases hx
        rfl

end Step

/-- **Navigation keeps to kinds.** A chain of built-in navigations that composes from the kind of its input never
starts from an element of the wrong kind, and yields elements of the kind that it leads to. One that does not
compose has a first step that does not fit; such a chain yields nothing or fails, and if it fails on an element
of the wrong kind, then at that step. -/
theorem runSteps_kinds (reg : Registry) (g : Graph) (ss : List Step) (hss : Step.BuiltIn ss) (a : Kind)
    (xs : Sequence) (hxs : a.Holds xs) :
    (∀ b, Step.Composes a ss b →
      (∀ e token, reg.runSteps g ss xs = .error e → ¬ e.IsNavigation token) ∧
      ∀ ys, reg.runSteps g ss xs = .ok ys → b.Holds ys) ∧
    ((∀ b, ¬ Step.Composes a ss b) → ∃ s, Step.Misfits a ss s ∧
      (∀ ys, reg.runSteps g ss xs = .ok ys → ys = []) ∧
      ∀ e token, reg.runSteps g ss xs = .error e → e.IsNavigation token → token = s.token) := by
  constructor
  · intro b hb
    exact (Step.runAll_composes g _ hb hxs).symm
  · intro hno
    rcases Step.composes_or_misfits hss a with ⟨b, hb⟩ | ⟨s, hs⟩
    · exact absurd hb (hno b)
    · refine ⟨s, hs, ?_⟩
      unfold Registry.runSteps
      rcases Step.runAll_misfits hss hs hxs with ⟨e, he, hname⟩ | hnil
      · rw [he]
        refine ⟨nofun, fun e' token heq => ?_⟩
        cases heq
        exact hname token
      · rw [hnil]
        refine ⟨fun ys heq => ?_, nofun⟩
        cases heq
        rfl

/-- Out along a loop and back to the city, and out along it and on from the edge as if it were the city. -/
theorem runSteps_kinds_loop :
    let g := Graph.empty.run [.addVertexAt 7 "city", .addEdgeAt 9 "road" ⟨7⟩ ⟨7⟩]
    let out : Step := ⟨.hop .outE, some (.compare .label .eq (.literal (.text "road"))), "./outE[@label = 'road']"⟩
    let back := [out, ⟨.hop .inV, none, "/inV"⟩]
    let astray := [out, ⟨.hop .both, none, "/both"⟩, ⟨.hop .inV, none, "/inV"⟩]
    Registry.empty.runSteps g back [.vertex ⟨7⟩] = .ok [.vertex ⟨7⟩] ∧ Kind.vertex.Holds [.vertex ⟨7⟩] ∧
      Registry.empty.runSteps g astray [.vertex ⟨7⟩] = .error (.ofFault (.navigation "/both" (.edge ⟨9⟩))) ∧
      ∃ s, Step.Misfits .vertex astray s ∧ "/both" = s.token := by
  intro g out back astray
  have hxs : Kind.vertex.Holds [.vertex ⟨7⟩] := by decide
  have hback : Registry.empty.runSteps g back [.vertex ⟨7⟩] = .ok [.vertex ⟨7⟩] := rfl
  have hastray : Registry.empty.runSteps g astray [.vertex ⟨7⟩] =
      .error (.ofFault (.navigation "/both" (.edge ⟨9⟩))) := rfl
  refine ⟨hback, ?_, hastray, ?_⟩
  · have hbuilt : Step.BuiltIn back := by simp [Step.BuiltIn, back, out]
    have hcomposes : Step.Composes .vertex back .vertex := .cons rfl rfl (.cons rfl rfl (.nil _))
    exact ((runSteps_kinds .empty g back hbuilt .vertex _ hxs).1 _ hcomposes).2 _ hback
  · have hbuilt : Step.BuiltIn astray := by simp [Step.BuiltIn, astray, out]
    have hno : ∀ b, ¬ Step.Composes .vertex astray b := by
      intro b (hb : Step.Composes .vertex [out, ⟨.hop .both, none, "/both"⟩, _] b)
      obtain _ | ⟨hs, -, _ | ⟨hs', ha, -⟩⟩ := hb
      cases hs
      cases hs'
      cases ha
    obtain ⟨s, hs, -, hname⟩ := (runSteps_kinds .empty g astray hbuilt .vertex _ hxs).2 hno
    exact ⟨s, hs, hname _ _ hastray ⟨_, rfl⟩⟩

end Footpath
