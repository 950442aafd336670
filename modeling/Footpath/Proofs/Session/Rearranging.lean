import Footpath.Proofs.Script.Layout
import Footpath.Proofs.Invocation.Independence
import Footpath.Proofs.Session.Bodies

/-! Blocks in other places.

All paths of a script are defined before its statements run, and of several definitions of a name the
last one counts. So the blocks of a script may stand anywhere between its statements, and in any
order as long as those of one name keep theirs: sessions with the same variables in which each name
stands for the same path end in such sessions, with the same result or the same error
(`Session.eval_rearranged`). Only the numbers of lines differ. In which order the variables were first
assigned is of no account (`Session.runBody_agrees`). -/
namespace Footpath

/-! ### Apart from the lines -/

/-- Lines with the same text. -/
def Site.SameText (s s' : Site) : Prop := s'.text = s.text

/-- Each name stands for the same path, wherever that is defined. -/
def Registry.Alike (r r' : Registry) : Prop :=
  ∀ name, (r'.find? name).map NamedPath.unnumbered = (r.find? name).map NamedPath.unnumbered

theorem Statement.corresponds_of_unnumbered {s s' : Statement} (h : s'.unnumbered = s.unnumbered) :
    s.Corresponds Site.SameText s' where
  site := show s'.unnumbered.text = s.unnumbered.text by rw [h]
  target := show s'.unnumbered.target = s.unnumbered.target by rw [h]
  expr := show s'.unnumbered.expr = s.unnumbered.expr by rw [h]

theorem forall₂_of_unnumbered {ss ss' : List Statement}
    (h : ss'.map Statement.unnumbered = ss.map Statement.unnumbered) :
    List.Forall₂ (Statement.Corresponds Site.SameText) ss ss' := by
  rw [eq_comm, ← List.forall₂_eq_eq_eq, List.forall₂_map_left_iff, List.forall₂_map_right_iff] at h
  exact h.imp fun s s' hs => Statement.corresponds_of_unnumbered hs.symm

namespace Registry.Alike

variable {r r' : Registry}

theorem correspondsAt (h : r.Alike r') (name : String) : r.CorrespondsAt Site.SameText r' name := by
  have hname := h name
  unfold CorrespondsAt
  cases hp : r.find? name with
  | none =>
    rw [hp, Option.map_none, Option.map_eq_none_iff] at hname
    rw [hname]
    exact .none
  | some p =>
    rw [hp, Option.map_some, Option.map_eq_some_iff] at hname
    obtain ⟨p', hp', hsame⟩ := hname
    rw [hp']
    exact .some (forall₂_of_unnumbered (congrArg NamedPath.body hsame))

/-- Scripts with the same paths for each name define them alike. -/
theorem defining (h : r.Alike r') {s t : Script}
    (hpaths : ∀ name, t.unnumbered.paths.filter (fun p => p.name = name) =
      s.unnumbered.paths.filter (fun p => p.name = name)) : (r.defining s).Alike (r'.defining t) := by
  have hlast : ∀ (script : Script) (name : String),
      ((script.paths.filter fun p => p.name = name).getLast?).map NamedPath.unnumbered =
        (script.unnumbered.paths.filter fun p => p.name = name).getLast? := by
    intro script name
    rw [Script.unnumbered, List.filter_map, List.getLast?_map]
    rfl
  intro name
  rw [Registry.defining, Registry.defining, find?_foldl_put, find?_foldl_put, Option.map_or, Option.map_or,
    hlast, hlast, hpaths, h name]

end Registry.Alike

/-! ### Variables in another order -/

section
variable (g : Graph) (reg : Registry) {env env' : Environment}

theorem Expr.eval_of_same_lookups (h : ∀ x, env.get? x = env'.get? x) (e : Expr) :
    e.eval g (invoke g reg .empty) (.root env) = e.eval g (invoke g reg .empty) (.root env') := by
  have hlookup : ∀ x, (Scope.root env).lookup x = (Scope.root env').lookup x := by
    intro x
    simp only [Scope.lookup, Scope.lookup?, Scope.root, h x]
  have hsource : e.source.eval g (.root env) = e.source.eval g (.root env') := by
    cases e.source with
    | context => exact hlookup contextName
    | var x => exact hlookup x
    | lookup id => rfl
  refine eval_of_start rfl ?_ fun n _ => invoke_of_agrees (fun x _ _ => h x) .empty
  rw [start_eq_bind, start_eq_bind, hsource]

theorem Statement.runAll_of_same_lookups (h : ∀ x, env.get? x = env'.get? x) (body : List Statement) :
    (∀ x, (runAll g (invoke g reg .empty) (.root env) body).1.frame.get? x =
        (runAll g (invoke g reg .empty) (.root env') body).1.frame.get? x) ∧
      (runAll g (invoke g reg .empty) (.root env) body).2 = (runAll g (invoke g reg .empty) (.root env') body).2 := by
  induction body generalizing env env' with
  | nil => exact ⟨h, rfl⟩
  | cons s body ih =>
    simp only [runAll, run, Expr.eval_of_same_lookups g reg h s.expr]
    cases s.expr.eval g (invoke g reg .empty) (.root env') with
    | error e => exact ⟨h, rfl⟩
    | ok xs =>
      have hset : ∀ x, (env.set s.targetName xs).get? x = (env'.set s.targetName xs).get? x := by
        intro x
        rw [Environment.get?_set, Environment.get?_set, h x]
      exact ih hset

end

/-! ### Sessions -/

namespace Session

/-- Sessions whose variables agree have one outcome, and their variables agree behind it. -/
theorem runBody_agrees (g : Graph) {s s' : Session} (hregistry : s'.registry = s.registry)
    (henv : s'.env.agrees s.env = true) (body : List Statement) :
    (s'.runBody g body).1.env.agrees (s.runBody g body).1.env = true ∧
      (s'.runBody g body).2 = (s.runBody g body).2 := by
  obtain ⟨hscope, hfailure⟩ :=
    Statement.runAll_of_same_lookups g s.registry (Environment.agrees_iff.1 henv) body
  rw [runBody, runBody, hregistry]
  cases hrun' : Statement.runAll g (invoke g s.registry .empty) (.root s'.env) body with
  | mk scope' failure' =>
    cases hrun : Statement.runAll g (invoke g s.registry .empty) (.root s.env) body with
    | mk scope failure =>
      rw [hrun', hrun] at hscope hfailure
      obtain rfl : failure' = failure := hfailure
      cases failure' with
      | some e => exact ⟨Environment.agrees_iff.2 hscope, rfl⟩
      | none =>
        refine ⟨Environment.agrees_iff.2 hscope, ?_⟩
        show (resultOf scope'.frame body).mapError _ = (resultOf scope.frame body).mapError _
        rw [resultOf, resultOf]
        cases body.getLast? with
        | none => rfl
        | some t =>
          have hlast : scope'.frame.get? t.targetName = scope.frame.get? t.targetName := hscope _
          simp only [Environment.get, hlast]

/-- **The places of blocks do not matter.** The lines of a script make up parts. Let the parts be
rearranged, the statements and the blocks of each name keeping their order, and let two sessions have
the same variables and resolve names alike. The rearranged text is a script too. In the one session it
leaves the same variables as the script does in the other, and names resolved alike; and it has the
same result, or the same fault told with the same statements. -/
theorem eval_rearranged (g : Graph) {a : String} {script : Script} (ha : Script.parse a = .ok script) :
    (∃ ps, LaidOut a ps) ∧
    ∀ (b : String) (ps qs : List Part), LaidOut a ps → LaidOut b qs → Rearranged ps qs →
      ∀ s s' : Session, s'.env.agrees s.env = true → s.registry.Alike s'.registry →
        (∃ script', Script.parse b = .ok script') ∧
        (s'.eval g b).1.env.agrees (s.eval g a).1.env = true ∧
        (s'.env = s.env → (s'.eval g b).1.env = (s.eval g a).1.env) ∧
        (s.eval g a).1.registry.Alike (s'.eval g b).1.registry ∧
        SameEnd Site.SameText (s.eval g a).2 (s'.eval g b).2 := by
  refine ⟨exists_laidOut ha, fun b ps qs hps hqs h s s' henv hreg => ?_⟩
  obtain ⟨script', hb, hbody, hpaths⟩ := Script.parse_rearranged ha hps hqs h
  have halike := hreg.defining hpaths
  rw [s.eval_of_accepted g ha, s'.eval_of_accepted g hb]
  let before : Session := { s with registry := s.registry.defining script }
  let before' : Session := { s' with registry := s'.registry.defining script' }
  -- The second session as it would be with the bindings in the order of the first.
  let between : Session := { before' with env := s.env }
  obtain ⟨hsame, hend⟩ := runBody_corresponds (g := g) (show between.env = before.env from rfl)
    (forall₂_of_unnumbered hbody) fun name _ => halike.correspondsAt name
  obtain ⟨hagrees, houtcome⟩ := runBody_agrees g (show before'.registry = between.registry from rfl) henv script'.body
  rw [← houtcome] at hend
  rw [hsame] at hagrees
  refine ⟨⟨script', hb⟩, hagrees, fun heq => ?_, ?_, hend⟩
  · have hbetween : before' = between := by
      show ({ s' with registry := _, env := s'.env } : Session) = _
      rw [heq]
    exact (congrArg (fun s : Session => (s.runBody g script'.body).1.env) hbetween).trans hsame
  · rw [runBody_registry, runBody_registry]
    exact halike

/-- A path that is called before it is defined, and defined twice. -/
def scattered : List Part :=
  [.statement "./friends".toList, .block "known".toList ["./inE".toList],
    .block "friends".toList ["./known/inV".toList], .block "known".toList ["./outE".toList]]

/-- The same path, with all definitions before the call. -/
def gathered : List Part :=
  [.block "known".toList ["./inE".toList], .block "known".toList ["./outE".toList],
    .block "friends".toList ["./known/inV".toList], .statement "./friends".toList]

/-- Wherever the blocks stand, the second definition counts. -/
theorem eval_rearranged_scattered :
    let s := start (Environment.empty.set contextName [.vertex ⟨1⟩])
    let a := "./friends\npath known\n./inE\nend\npath friends\n./known/inV\nend\npath known\n./outE\nend"
    let b := "path known\n./inE\nend\npath known\n./outE\nend\n\npath friends\n  ./known/inV\nend\n./friends"
    (∃ script, Script.parse a = .ok script) ∧ LaidOut a scattered ∧ LaidOut b gathered ∧
      Rearranged scattered gathered ∧ (s.eval twoPeople a).2 = .ok [.vertex ⟨2⟩] ∧
      (s.eval twoPeople b).2 = .ok [.vertex ⟨2⟩] := by
  intro s a b
  have hparse : Script.parse a = .ok ((Script.parse a).toOption.getD .empty) := by decide +kernel
  have ha : LaidOut a scattered := by decide +kernel
  have hb : LaidOut b gathered := by decide +kernel
  have h : Rearranged scattered gathered := by decide +kernel
  have hresult : (s.eval twoPeople a).2 = .ok [.vertex ⟨2⟩] := by
    rw [s.eval_of_accepted twoPeople hparse, runBody, invoke_empty_eq_within]
    decide +kernel
  obtain ⟨-, hrearranged⟩ := eval_rearranged twoPeople hparse
  obtain ⟨-, -, -, -, hend⟩ := hrearranged b scattered gathered ha hb h s s (by decide) fun _ => rfl
  rw [hresult] at hend
  exact ⟨⟨_, hparse⟩, ha, hb, h, hresult, hend.of_ok⟩

end Session

end Footpath
