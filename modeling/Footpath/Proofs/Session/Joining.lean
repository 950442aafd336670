import Footpath.Proofs.Script.Joining
import Footpath.Proofs.Invocation.Independence
import Footpath.Proofs.Session.Bodies

/-! Two scripts at once or one after the other.

The paths of joined scripts are all defined before anything runs, those of two scripts in a row only
as far as the first one goes. As long as the statements of the first script reach no path of the
second, none of them can tell (`eval_joined`). What is left of the difference is where the second
script stands: the lines of its statements, and no others, are further down (`Site.Moved`). -/
namespace Footpath

/-! ### The paths of a script -/

namespace Script

/-- Some path of the script has this name. -/
def Defines (t : Script) (name : String) : Prop := ∃ p ∈ t.paths, p.name = name

instance (t : Script) (name : String) : Decidable (t.Defines name) :=
  inferInstanceAs (Decidable (∃ p ∈ t.paths, p.name = name))

theorem defines_shift {t : Script} {k : Nat} {name : String} : (t.shift k).Defines name ↔ t.Defines name := by
  constructor
  · rintro ⟨p, hp, hname⟩
    obtain ⟨q, hq, rfl⟩ := List.mem_map.1 hp
    exact ⟨q, hq, hname⟩
  · rintro ⟨p, hp, hname⟩
    exact ⟨p.shift k, List.mem_map_of_mem hp, hname⟩

/-- A statement of the script, in one of its paths or in none. -/
def Has (t : Script) (s : Statement) : Prop := s ∈ t.body ∨ ∃ p ∈ t.paths, s ∈ p.body

end Script

namespace Registry

theorem find?_defining_of_not_defines (r : Registry) {t : Script} {name : String} (h : ¬ t.Defines name) :
    (r.defining t).find? name = r.find? name := by
  have hnone : (t.paths.filter fun p => p.name = name) = [] := by
    rw [List.filter_eq_nil_iff]
    intro p hp hname
    exact h ⟨p, hp, of_decide_eq_true hname⟩
  rw [defining, find?_foldl_put, hnone]
  rfl

/-- A name that a script defines stands for one of its paths, and further down for the same one. -/
theorem find?_defining_shift (r : Registry) {t : Script} {name : String} (h : t.Defines name) (k : Nat) :
    ∃ p ∈ t.paths, (r.defining t).find? name = some p ∧
      (r.defining (t.shift k)).find? name = some (p.shift k) := by
  have hshift : (t.shift k).paths.filter (fun p => p.name = name) =
      (t.paths.filter fun p => p.name = name).map (·.shift k) := by
    rw [Script.shift, List.filter_map]
    rfl
  obtain ⟨q, hq, hname⟩ := h
  have hmem : q ∈ t.paths.filter fun p => p.name = name := List.mem_filter.2 ⟨hq, decide_eq_true hname⟩
  have hlast : (t.paths.filter fun p => p.name = name).getLast? =
      some ((t.paths.filter fun p => p.name = name).getLast (List.ne_nil_of_mem hmem)) :=
    List.getLast?_eq_some_getLast _
  refine ⟨_, (List.mem_filter.1 (List.getLast_mem (List.ne_nil_of_mem hmem))).1, ?_, ?_⟩
  · rw [defining, find?_foldl_put, hlast]
    rfl
  · rw [defining, find?_foldl_put, hshift, List.getLast?_map, hlast]
    rfl

/-- A script that stands further down defines the same names, with their lines moved. -/
theorem find?_defining_shift_eq (r : Registry) (t : Script) (k : Nat) (name : String) :
    (r.defining (t.shift k)).find? name =
      if t.Defines name then ((r.defining t).find? name).map (·.shift k) else (r.defining t).find? name := by
  split
  · rename_i h
    obtain ⟨p, -, hfind, hbelow⟩ := r.find?_defining_shift h k
    rw [hfind, hbelow]
    rfl
  · rename_i h
    rw [r.find?_defining_of_not_defines h, r.find?_defining_of_not_defines (mt Script.defines_shift.1 h)]

theorem defining_append (r : Registry) (s t : Script) : r.defining (s ++ t) = (r.defining s).defining t :=
  List.foldl_append

theorem names_defining_shift (r : Registry) (t : Script) (k : Nat) :
    (r.defining (t.shift k)).names = (r.defining t).names := by
  rw [defining, defining, names_foldl_put, names_foldl_put, Script.shift, List.map_map]
  rfl

end Registry

/-! ### Moved lines -/

/-- A line of the script `t` with `k` lines before it, or one of a path in the registry that `t` does
not define, where it was. -/
inductive Site.Moved (reg : Registry) (t : Script) (k : Nat) : Site → Site → Prop where
  | below {s : Statement} (hs : t.Has s) : Moved reg t k s.site (s.shift k).site
  | kept {name : String} {p : NamedPath} {s : Statement} (hname : ¬ t.Defines name)
      (hp : reg.find? name = some p) (hs : s ∈ p.body) : Moved reg t k s.site s.site

section
variable {reg : Registry} {t : Script} {k : Nat}

theorem Script.Has.corresponds {s : Statement} (hs : t.Has s) : s.Corresponds (Site.Moved reg t k) (s.shift k) :=
  ⟨.below hs, rfl, rfl⟩

theorem forall₂_shift {ss : List Statement} (hss : ∀ s ∈ ss, t.Has s) :
    List.Forall₂ (Statement.Corresponds (Site.Moved reg t k)) ss (ss.map (·.shift k)) := by
  rw [List.forall₂_map_right_iff, List.forall₂_same]
  exact fun s hs => (hss s hs).corresponds

theorem Registry.defining_corresponds (reg : Registry) (t : Script) (k : Nat) (name : String) :
    (reg.defining t).CorrespondsAt (Site.Moved (reg.defining t) t k) (reg.defining (t.shift k)) name := by
  unfold CorrespondsAt
  by_cases h : t.Defines name
  · obtain ⟨p, hp, hfind, hbelow⟩ := reg.find?_defining_shift h k
    rw [hfind, hbelow]
    exact .some (forall₂_shift fun s hs => .inr ⟨p, hp, hs⟩)
  · have hfind := reg.find?_defining_of_not_defines h
    rw [reg.find?_defining_of_not_defines (mt Script.defines_shift.1 h), hfind]
    cases hp : reg.find? name with
    | none => exact .none
    | some p => exact .some (List.forall₂_same.2 fun s hs => ⟨.kept h (hfind.trans hp) hs, rfl, rfl⟩)

/-- The statements of a script run alike whether or not paths that they do not reach are defined. -/
theorem Session.runBody_defining (g : Graph) (session : Session) (t : Script) {body : List Statement}
    (hfree : ∀ name, t.Defines name → ¬ session.registry.Reaches (Statement.allSteps body) name) :
    let defined : Session := { session with registry := session.registry.defining t }
    defined.runBody g body =
      ({ defined with env := (session.runBody g body).1.env }, (session.runBody g body).2) := by
  intro defined
  have hreg : ∀ n, session.registry.Reaches (Statement.allSteps body) n →
      session.registry.CorrespondsAt Eq defined.registry n := fun n hn =>
    Registry.correspondsAt_of_eq (session.registry.find?_defining_of_not_defines fun h => hfree n h hn)
  obtain ⟨henv, hend⟩ := runBody_corresponds (g := g) (show defined.env = session.env from rfl)
    (Statement.forall₂_corresponds_self body) hreg
  rw [hend.eq, ← henv, ← runBody_fst]

/-- A script that stands further down, with its paths defined, runs as it does where it stood. -/
theorem Session.runBody_shift (g : Graph) (reg : Registry) (t : Script) (k : Nat) (above below : Session)
    (henv : below.env = above.env) (habove : above.registry = reg.defining t)
    (hbelow : below.registry = reg.defining (t.shift k)) :
    (below.runBody g (t.shift k).body).1.env = (above.runBody g t.body).1.env ∧
      SameEnd (Site.Moved above.registry t k) (above.runBody g t.body).2 (below.runBody g (t.shift k).body).2 := by
  apply runBody_corresponds henv (forall₂_shift fun s hs => .inl hs)
  intro n _
  rw [habove, hbelow]
  exact reg.defining_corresponds t k n

end

namespace Session

/-- The statements of the first script run among the joined ones as they do by themselves. Then, with the
paths of both scripts defined, those of the second run. -/
theorem eval_joined_eq (g : Graph) (session : Session) {a b : String} {s t : Script}
    (ha : Script.parse a = .ok s) (hb : Script.parse b = .ok t)
    (hfree : ∀ name, t.Defines name →
      ¬ (session.eval g a).1.registry.Reaches (Statement.allSteps s.body) name) :
    let k := a.toList.count '\n' + 1
    let first := session.eval g a
    let both : Session := { first.1 with registry := first.1.registry.defining (t.shift k) }
    session.eval g (a ++ "\n" ++ b) =
      match first.2 with
      | .error e => (both, .error e)
      | .ok xs => if t.body.isEmpty then (both, .ok xs) else both.runBody g (t.shift k).body := by
  intro k first both
  let behind : Session := { session with registry := session.registry.defining s }
  let behind' : Session := { behind with registry := behind.registry.defining (t.shift k) }
  have hfirst : first = behind.runBody g s.body := session.eval_of_accepted g ha
  have hboth : both = { behind' with env := (behind.runBody g s.body).1.env } := by
    show ({ first.1 with registry := first.1.registry.defining (t.shift k) } : Session) = _
    rw [hfirst, runBody_fst]
  have hpart : behind'.runBody g s.body = (both, first.2) := by
    rw [hboth, hfirst]
    refine behind.runBody_defining g (t.shift k) fun name hname => ?_
    have hunreached := hfree name (Script.defines_shift.1 hname)
    rwa [show session.eval g a = _ from hfirst, runBody_registry] at hunreached
  have hparse : Script.parse (a ++ "\n" ++ b) = .ok (s ++ t.shift k) := by
    rw [Script.parse_joined_of_ok ha, hb]
    rfl
  have hjoined : session.eval g (a ++ "\n" ++ b) = behind'.runBody g (s.body ++ (t.shift k).body) := by
    rw [session.eval_of_accepted g hparse, Registry.defining_append]
    rfl
  have hempty : (t.shift k).body.isEmpty = t.body.isEmpty := List.isEmpty_map
  rw [hjoined, runBody_append, hpart, hempty]
  cases first.2 <;> rfl

/-- **Two scripts at once or one after the other.** Let the statements of the first script reach no
path of the second one. If one of them fails, the error and the variables are those of the first
script by itself. Otherwise the variables are those behind both scripts, an error of the second is
told further down, and the result is that of the second if it has statements. The paths are the same
in the same order, those of the second script further down. -/
theorem eval_joined (g : Graph) (session : Session) {a b : String} {s t : Script}
    (ha : Script.parse a = .ok s) (hb : Script.parse b = .ok t)
    (hfree : ∀ name, t.Defines name →
      ¬ (session.eval g a).1.registry.Reaches (Statement.allSteps s.body) name) :
    let k := a.toList.count '\n' + 1
    let joined := session.eval g (a ++ "\n" ++ b)
    let first := session.eval g a
    let second := first.1.eval g b
    match first.2 with
    | .error e => joined.2 = .error e ∧ joined.1.env = first.1.env
    | .ok xs =>
      joined.1.env = second.1.env ∧ joined.1.registry.names = second.1.registry.names ∧
      (∀ name, joined.1.registry.find? name =
        if t.Defines name then (second.1.registry.find? name).map (·.shift k)
        else second.1.registry.find? name) ∧
      match second.2 with
      | .error e => ∃ e', joined.2 = .error e' ∧ e.Corresponds (Site.Moved second.1.registry t k) e'
      | .ok ys => joined.2 = .ok (if t.body.isEmpty then xs else ys) := by
  intro k joined first second
  let both : Session := { first.1 with registry := first.1.registry.defining (t.shift k) }
  have hjoined : joined = _ := session.eval_joined_eq g ha hb hfree
  have hsecond : second = { first.1 with registry := first.1.registry.defining t }.runBody g t.body :=
    first.1.eval_of_accepted g hb
  cases hend : first.2 with
  | error e =>
    rw [hend] at hjoined
    rw [hjoined]
    exact ⟨rfl, rfl⟩
  | ok xs =>
    rw [hend] at hjoined
    replace hjoined : joined = if t.body.isEmpty then (both, .ok xs) else both.runBody g (t.shift k).body := hjoined
    have hregistry : joined.1.registry = first.1.registry.defining (t.shift k) := by
      rw [hjoined]
      split
      · rfl
      · exact runBody_registry g both _
    have hregistry' : second.1.registry = first.1.registry.defining t := by rw [hsecond, runBody_registry]
    have hends : joined.1.env = second.1.env ∧ match second.2 with
        | .error e => ∃ e', joined.2 = .error e' ∧ e.Corresponds (Site.Moved (first.1.registry.defining t) t k) e'
        | .ok ys => joined.2 = .ok (if t.body.isEmpty then xs else ys) := by
      by_cases hbody : t.body.isEmpty
      · rw [if_pos hbody] at hjoined
        rw [List.isEmpty_iff.1 hbody] at hsecond
        rw [hjoined, hsecond]
        exact ⟨rfl, congrArg Except.ok (if_pos hbody).symm⟩
      · rw [if_neg hbody] at hjoined
        obtain ⟨henv, hsame⟩ := runBody_shift g first.1.registry t k
          { first.1 with registry := first.1.registry.defining t } both rfl rfl rfl
        rw [← hsecond, ← hjoined] at henv hsame
        refine ⟨henv, ?_⟩
        cases hys : second.2 with
        | error e =>
          rw [hys] at hsame
          exact hsame.of_error
        | ok ys =>
          rw [hys] at hsame
          rw [hsame.of_ok]
          exact congrArg Except.ok (if_neg hbody).symm
    rw [hregistry, hregistry']
    exact ⟨hends.1, Registry.names_defining_shift .., fun _ => Registry.find?_defining_shift_eq .., hends.2⟩

/-- Those that know somebody are a team. -/
def gathering : Script :=
  ⟨[outwardPath], [⟨4, "$team := ./known/outV", some "team", ⟨.context, none,
    [⟨.path "known", none, "./known"⟩, ⟨.hop .outV, none, "/outV"⟩]⟩⟩]⟩

/-- The contacts of a team are people, who are not where something leads from. -/
def calling : Script :=
  ⟨[contactsPath], [⟨4, "./contacts/outV", none, ⟨.context, none,
    [⟨.path "contacts", none, "./contacts"⟩, ⟨.hop .outV, none, "/outV"⟩]⟩⟩]⟩

/-- The statement that fails is on line 4 of the one text, and on line 8 of the two. -/
theorem eval_joined_contacts :
    let session := start (Environment.empty.set contextName [.vertex ⟨1⟩])
    let a := "path known\n./outE\nend\n$team := ./known/outV"
    let b := "path contacts\n$team/known/inV\nend\n./contacts/outV"
    let first := session.eval twoPeople a
    let second := first.1.eval twoPeople b
    let joined := session.eval twoPeople (a ++ "\n" ++ b)
    Script.parse a = .ok gathering ∧ Script.parse b = .ok calling ∧
      (∀ name, calling.Defines name → ¬ first.1.registry.Reaches (Statement.allSteps gathering.body) name) ∧
      joined.1.env = second.1.env ∧
      second.2 = .error ⟨[⟨4, "./contacts/outV"⟩], .navigation "/outV" (.vertex ⟨2⟩)⟩ ∧
      ∃ e, joined.2 = .error e ∧ Error.Corresponds (Site.Moved second.1.registry calling 4)
        ⟨[⟨4, "./contacts/outV"⟩], .navigation "/outV" (.vertex ⟨2⟩)⟩ e := by
  intro session a b first second joined
  have ha : Script.parse a = .ok gathering := by decide +kernel
  have hb : Script.parse b = .ok calling := by decide +kernel
  have hfirst : first = ({ session with
      registry := Registry.empty.defining gathering, env := session.env.set "team" [.vertex ⟨1⟩] },
      .ok [.vertex ⟨1⟩]) := by
    rw [show first = _ from session.eval_of_accepted twoPeople ha, runBody, invoke_empty_eq_within]
    decide +kernel
  have hsecond : second.2 = .error ⟨[⟨4, "./contacts/outV"⟩], .navigation "/outV" (.vertex ⟨2⟩)⟩ := by
    rw [show second = _ from first.1.eval_of_accepted twoPeople hb, runBody, invoke_empty_eq_within, hfirst]
    decide +kernel
  have hfree : ∀ name, calling.Defines name →
      ¬ first.1.registry.Reaches (Statement.allSteps gathering.body) name := by
    rintro name ⟨p, hp, rfl⟩ hreach
    rw [List.mem_singleton.1 hp, hfirst] at hreach
    have hmem : contactsPath.name ∈ ["known"] :=
      hreach.mem_of_closed (by decide +kernel) (by decide +kernel)
    exact absurd hmem (by decide)
  have hjoined := eval_joined twoPeople session ha hb hfree
  dsimp only at hjoined
  rw [show (session.eval twoPeople a).2 = _ from congrArg Prod.snd hfirst] at hjoined
  obtain ⟨henv, -, -, herror⟩ := hjoined
  rw [show ((session.eval twoPeople a).1.eval twoPeople b).2 = _ from hsecond,
    show a.toList.count '\n' + 1 = 4 by decide +kernel] at herror
  exact ⟨ha, hb, hfree, henv, hsecond, herror⟩

end Session

end Footpath
