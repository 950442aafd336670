import Footpath.Proofs.Script.Statements
import Footpath.Proofs.Session.Rearranging

/-! Listings of the paths of a session.

Whatever a session goes through, its paths are defined by scripts that have been read, so their names are
good and the texts of their statements spell them (`Registry.Listable`, kept by every `Session.Move`). The
blocks that these texts make up, one below the other, are a script again, which defines the same paths in
the same order and does nothing else (`Session.replay_listing`). -/
namespace Footpath
open Text Token

/-! ### Texts made of lines -/

/-- Lines, each with a newline behind it. -/
def textOfLines (ls : List (List Char)) : String := String.ofList (ls.flatMap (· ++ ['\n']))

theorem lines_textOfLines {ls : List (List Char)} (h : ∀ l ∈ ls, '\n' ∉ l) :
    lines (textOfLines ls).toList = ls ++ [[]] := by
  rw [textOfLines, String.toList_ofList]
  induction ls with
  | nil => rfl
  | cons l ls ih =>
    have hl : stretches (· == '\n') l = [l] := by
      apply stretches_eq_singleton
      intro c hc
      rw [beq_eq_false_iff_ne]
      rintro rfl
      exact h l List.mem_cons_self hc
    rw [List.flatMap_cons, List.append_assoc, List.singleton_append, lines, stretches_append _ _ _ rfl, hl]
    exact congrArg (l :: ·) (ih fun k hk => h k (List.mem_cons_of_mem _ hk))

/-- The lines of a text made of lines none of which is blank. -/
theorem linesOf_textOfLines {ls : List (List Char)} {ks : List Line} (h : ∀ l ∈ ls, '\n' ∉ l)
    (hkinds : ls.map Line.ofText = ks) (hks : Line.blank ∉ ks) : linesOf (textOfLines ls) = ks := by
  have hblank : Line.ofText [] = .blank := rfl
  rw [linesOf, lines_textOfLines h, List.map_append, hkinds, List.map_singleton, hblank, List.filter_append,
    List.filter_eq_self.2, List.filter_cons_of_neg (by decide), List.filter_nil, List.append_nil]
  intro k hk
  rw [decide_eq_true_eq]
  rintro rfl
  exact hks hk

/-! ### Blocks -/

theorem NamedPath.WellNamed.ofText_header {p : NamedPath} (hp : p.WellNamed) :
    Line.ofText ("path " ++ p.name).toList = .header p.name.toList := by
  obtain ⟨c, n, hn⟩ : ∃ c n, p.name.toList = c :: n := by
    cases hn : p.name.toList with
    | nil =>
      have hname := hp.identifier
      rw [hn] at hname
      cases hname
    | cons c n => exact ⟨c, n, rfl⟩
  have hblank {d : Char} (hd : d ∈ p.name.toList) : isBlank d = false := isBlank_of_mem_name hp.identifier hd
  have hname : trim (' ' :: p.name.toList) = p.name.toList := by
    rw [trim, skipBlank, List.dropWhile_cons_of_pos rfl]
    exact trim_eq_self fun d hd => hblank hd
  have htrim : trim ("path " ++ p.name).toList = "path ".toList ++ p.name.toList := by
    rw [String.toList_append]
    apply trim_eq_self_of_ends
    · rintro d ⟨⟩
      rfl
    · intro d hd
      rw [hn, List.getLast?_append_cons] at hd
      exact hblank (hn ▸ List.mem_of_getLast? hd)
  have hheader : headerName? ("path ".toList ++ p.name.toList) = some p.name.toList := by
    show (if isBlank ' ' then some (trim (' ' :: p.name.toList)) else none) = _
    rw [hname]
    rfl
  unfold Line.ofText
  rw [htrim]
  dsimp only
  rw [hheader]
  rfl

namespace NamedPath

/-- The lines of the block that a path is defined by. -/
def lines (p : NamedPath) : List (List Char) :=
  ("path " ++ p.name).toList :: (p.body.map (·.text.toList) ++ ["end".toList])

/-- A path whose block can be read again. -/
structure Listable (p : NamedPath) : Prop extends p.WellNamed where
  body : ∀ s ∈ p.body, s.Spelled

def part (p : NamedPath) : Part := .block p.name.toList (p.body.map (·.text.toList))

variable {p : NamedPath}

theorem Listable.oneLine (hp : p.Listable) {l : List Char} (hl : l ∈ p.lines) : '\n' ∉ l := by
  simp only [lines, List.mem_cons, List.mem_append, List.mem_map, List.not_mem_nil, or_false] at hl
  rcases hl with rfl | ⟨s, hs, rfl⟩ | rfl
  · rw [String.toList_append, List.mem_append]
    rintro (h | h)
    · exact absurd h (by decide)
    · cases isBlank_of_mem_name hp.identifier h
  · exact (hp.body s hs).oneLine
  · decide

theorem Listable.map_ofText_lines (hp : p.Listable) : p.lines.map Line.ofText = p.part.lines := by
  have hbody : (p.body.map (·.text.toList)).map Line.ofText = (p.body.map (·.text.toList)).map Line.statement := by
    rw [List.map_map, List.map_map]
    exact List.map_congr_left fun s hs => (hp.body s hs).line
  rw [lines, List.map_cons, List.map_append, hp.ofText_header, hbody]
  rfl

theorem statementsOf_texts {ss : List Statement} (h : ∀ s ∈ ss, s.Spelled) :
    statementsOf (ss.map (·.text.toList)) = ss.map (·.unnumbered) := by
  rw [statementsOf, List.filterMap_map, ← List.filterMap_eq_map]
  apply List.filterMap_congr
  intro s hs
  rw [Function.comp_apply, ← Statement.unnumbered_of_ofText s.line, (h s hs).read]
  rfl

theorem Listable.script_part (hp : p.Listable) : p.part.script = ⟨[p.unnumbered], []⟩ := by
  rw [part, Part.script, statementsOf_texts hp.body, String.ofList_toList]
  rfl

theorem Listable.good_part (hp : p.Listable) : p.part.good = true := by
  rw [part, Part.good, Bool.and_eq_true]
  constructor
  · obtain ⟨hname, hfree⟩ := hp.toWellNamed
    have hne : p.name.toList.isEmpty = false := by
      cases hn : p.name.toList with
      | nil =>
        rw [hn] at hname
        cases hname
      | cons c n => rfl
    simp only [Draft.openBlock, Draft.empty, hne, hname, String.ofList_toList, hfree]
    rfl
  · rw [List.all_map, List.all_eq_true]
    intro s hs
    have hread := (hp.body s hs).read
    have hzero := Statement.unnumbered_of_ofText s.line s.text.toList
    rw [hread] at hzero
    rw [Function.comp_apply, isStatement]
    cases h : Statement.ofText 0 s.text.toList with
    | error f =>
      rw [h] at hzero
      cases hzero
    | ok t => rfl

end NamedPath

/-! ### Registries -/

namespace Registry

/-- The blocks of all paths in their order, as a text. -/
def listing (r : Registry) : String := textOfLines (r.paths.entries.flatMap fun e => e.2.lines)

/-- Every path goes by its own name and can be read again. -/
def Listable (r : Registry) : Prop := ∀ e ∈ r.paths.entries, e.1 = e.2.name ∧ e.2.Listable

theorem listable_empty : empty.Listable := fun _ he => by cases he

theorem Listable.put {r : Registry} (hr : r.Listable) {p : NamedPath} (hp : p.Listable) : (r.put p).Listable := by
  intro e he
  rcases OrderedMap.mem_entries_insert he with rfl | he
  · exact ⟨rfl, hp⟩
  · exact hr e he

theorem Listable.foldl_put {r : Registry} (hr : r.Listable) {ps : List NamedPath} (hps : ∀ p ∈ ps, p.Listable) :
    (ps.foldl Registry.put r).Listable := by
  induction ps generalizing r with
  | nil => exact hr
  | cons p ps ih =>
    exact ih (hr.put (hps p List.mem_cons_self)) fun q hq => hps q (List.mem_cons_of_mem _ hq)

/-- The paths of a script that has been read can be read again. -/
theorem Listable.defining {r : Registry} (hr : r.Listable) {text : String} {script : Script}
    (h : Script.parse text = .ok script) : (r.defining script).Listable := by
  apply hr.foldl_put
  intro p hp
  refine ⟨Script.wellNamed_of_parse h p hp, fun s hs => Script.spelled_of_parse h ?_⟩
  exact List.mem_append_left _ (List.mem_flatMap.2 ⟨p, hp, hs⟩)

/-- The listing is a script of the same paths, and of nothing else. -/
theorem Listable.parse_listing {r : Registry} (hr : r.Listable) :
    ∃ script, Script.parse r.listing = .ok script ∧ script.body = [] ∧
      script.paths.map (·.unnumbered) = r.paths.entries.map (·.2.unnumbered) := by
  have hlaid : LaidOut r.listing (r.paths.entries.map (·.2.part)) := by
    refine linesOf_textOfLines (fun l hl => ?_) ?_ (fun hblank => ?_)
    · obtain ⟨e, he, hl⟩ := List.mem_flatMap.1 hl
      exact (hr e he).2.oneLine hl
    · rw [List.map_flatMap, List.flatMap_map]
      exact List.flatMap_congr fun e he => (hr e he).2.map_ofText_lines
    · obtain ⟨p, hp, hblank⟩ := List.mem_flatMap.1 hblank
      obtain ⟨e, -, rfl⟩ := List.mem_map.1 hp
      simp [NamedPath.part, Part.lines] at hblank
  have hgood : (r.paths.entries.map (·.2.part)).all Part.good = true := by
    rw [List.all_map, List.all_eq_true]
    exact fun e he => (hr e he).2.good_part
  have hjoin : Part.join (r.paths.entries.map (·.2.part)) = ⟨r.paths.entries.map (·.2.unnumbered), []⟩ := by
    have hparts : ∀ e ∈ r.paths.entries, e.2.part.script = ⟨[e.2.unnumbered], []⟩ := fun e he => (hr e he).2.script_part
    rw [Part.join, List.flatMap_map, List.flatMap_map, List.flatMap_congr fun e he => congrArg Script.paths (hparts e he),
      List.flatMap_congr fun e he => congrArg Script.body (hparts e he), List.flatMap_eq_nil_iff.2 fun _ _ => rfl]
    exact congrArg (Script.mk · []) List.map_eq_flatMap.symm
  have hparse := Script.parse_laidOut hlaid
  rw [if_pos hgood, hjoin] at hparse
  cases hscript : Script.parse r.listing with
  | error e =>
    rw [hscript] at hparse
    cases hparse
  | ok script =>
    rw [hscript] at hparse
    have hparse : script.unnumbered = _ := Option.some.inj hparse
    refine ⟨script, rfl, ?_, congrArg Script.paths hparse⟩
    exact List.map_eq_nil_iff.1 (congrArg Script.body hparse)

/-- Paths of different names are defined one behind the other. -/
theorem entries_defining_empty {script : Script} (h : (script.paths.map NamedPath.name).Nodup) :
    (empty.defining script).paths.entries = script.paths.map fun p => (p.name, p) := by
  have hfold : ∀ (ps : List NamedPath) (r : Registry), (ps.foldl Registry.put r).paths =
      (ps.map fun p => (p.name, p)).foldl (fun m e => m.insert e.1 e.2) r.paths := by
    intro ps
    induction ps with
    | nil => exact fun _ => rfl
    | cons p ps ih => exact fun r => ih (r.put p)
  rw [defining, hfold]
  apply OrderedMap.entries_foldl_insert
  rw [empty, OrderedMap.empty, List.nil_append, List.map_map]
  exact h

theorem Listable.names_eq {r : Registry} (hr : r.Listable) {ps : List NamedPath}
    (h : ps.map (·.unnumbered) = r.paths.entries.map (·.2.unnumbered)) : ps.map NamedPath.name = r.names := by
  have hlisted := congrArg (List.map NamedPath.name) h
  rw [List.map_map, List.map_map] at hlisted
  exact hlisted.trans (List.map_congr_left fun e he => (hr e he).1.symm)

/-- A fresh registry gets the names of a registry in their order, and the same paths for them. -/
theorem Listable.defining_empty {r : Registry} (hr : r.Listable) {script : Script}
    (h : script.paths.map (·.unnumbered) = r.paths.entries.map (·.2.unnumbered)) :
    (empty.defining script).names = r.names ∧ r.Alike (empty.defining script) := by
  have hnames := hr.names_eq h
  have hentries := entries_defining_empty (hnames ▸ r.paths.keys_nodup : (script.paths.map NamedPath.name).Nodup)
  have hunnumbered : (empty.defining script).paths.entries.map (fun e => (e.1, e.2.unnumbered)) =
      r.paths.entries.map fun e => (e.1, e.2.unnumbered) := by
    have hlisted := congrArg (List.map fun p : NamedPath => (p.name, p)) h
    rw [List.map_map, List.map_map] at hlisted
    rw [hentries, List.map_map]
    refine Eq.trans hlisted (List.map_congr_left fun e he => ?_)
    rw [(hr e he).1]
    rfl
  refine ⟨?_, fun name => ?_⟩
  · rw [names, OrderedMap.keys, hentries, List.map_map]
    exact hnames
  · rw [find?, find?, OrderedMap.find?, OrderedMap.find?, ← OrderedMap.look_map, ← OrderedMap.look_map, hunnumbered]

end Registry

/-! ### Sessions -/

namespace Session

/-- What a session goes through. -/
inductive Move where
  | eval (g : Graph) (text : String)
  | set (name : String) (xs : Sequence)
  | reset

def make (s : Session) : Move → Session
  | .eval g text => (s.eval g text).1
  | .set name xs => s.set name xs
  | .reset => s.reset

def after (s : Session) (moves : List Move) : Session := moves.foldl make s

/-- An evaluation defines the paths of its script, if it has one, whether or not it fails then. -/
theorem listable_make {s : Session} (h : s.registry.Listable) (m : Move) : (s.make m).registry.Listable := by
  cases m with
  | eval g text =>
    rw [make]
    cases hparse : Script.parse text with
    | error e =>
      rw [eval, hparse]
      exact h
    | ok script =>
      rw [s.eval_of_accepted g hparse, runBody_registry]
      exact h.defining hparse
  | set name xs => exact h
  | reset => exact Registry.listable_empty

theorem listable_after {s : Session} (h : s.registry.Listable) (moves : List Move) :
    (s.after moves).registry.Listable := by
  induction moves generalizing s with
  | nil => exact h
  | cons m moves ih => exact ih (listable_make h m)

/-- **The paths of a session can be replayed.** Whatever a session goes through, a path goes by its own
name, which is an identifier and no built-in navigation. The listing of its paths is a script without
statements, of the same paths in the same order; run in a fresh session, it defines these, and nothing else
happens. -/
theorem replay_listing (seed : Environment) (moves : List Move) :
    let r := ((start seed).after moves).registry
    (∀ name ∈ r.names, ∃ p, r.find? name = some p ∧ isName name.toList = true ∧ isReserved name = false ∧
      p.name = name) ∧
    ∃ script, Script.parse r.listing = .ok script ∧ script.body = [] ∧
      script.paths.map NamedPath.name = r.names ∧
      script.paths.map (·.unnumbered) = r.paths.entries.map (·.2.unnumbered) ∧
      ∀ g env, ∃ r' : Registry, (start env).eval g r.listing = (⟨r', env, env⟩, .ok []) ∧
        r'.names = r.names ∧ r.Alike r' := by
  intro r
  have hr : r.Listable := listable_after Registry.listable_empty moves
  obtain ⟨script, hparse, hbody, hpaths⟩ := hr.parse_listing
  obtain ⟨hnames, halike⟩ := hr.defining_empty hpaths
  refine ⟨fun name hname => ?_, script, hparse, hbody, hr.names_eq hpaths, hpaths, fun g env => ?_⟩
  · obtain ⟨⟨_, p⟩, he, rfl⟩ := List.mem_map.1 hname
    obtain ⟨hp, hlistable⟩ := hr _ he
    dsimp only at hp hlistable ⊢
    exact ⟨p, OrderedMap.find?_of_mem_entries he, hp ▸ hlistable.identifier, hp ▸ hlistable.free, hp.symm⟩
  · refine ⟨Registry.empty.defining script, ?_, hnames, halike⟩
    rw [eval_of_accepted g _ hparse, hbody]
    rfl

end Session
end Footpath
