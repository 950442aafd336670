import Mathlib.Data.List.Basic
import Footpath.Language.Script.Parser

/-! Scripts as rows of parts.

Comments and blank lines aside, the lines of a script make up parts, each a statement of the script
or a whole block (`exists_laidOut`). A part is read in the same way wherever it stands, lines having
no numbers, so that a text is a script if all of its parts are good, and then has their paths and
their statements in order (`Script.parse_laidOut`). Parts may be rearranged as long as neither the
statements nor the blocks of one name change their order among themselves (`Rearranged`): what comes
of it is a script again, with the same statements and for each name the same paths
(`Script.parse_rearranged`). -/
namespace Footpath
open Text

/-! ### Without numbers -/

/-- A statement apart from where it stands. -/
def Statement.unnumbered (s : Statement) : Statement := { s with line := 0 }

def NamedPath.unnumbered (p : NamedPath) : NamedPath := { p with line := 0, body := p.body.map (·.unnumbered) }

def Script.unnumbered (s : Script) : Script := ⟨s.paths.map (·.unnumbered), s.body.map (·.unnumbered)⟩

theorem Statement.unnumbered_of_ofText (line : Nat) (t : List Char) :
    (ofText line t).toOption.map unnumbered = (ofText 0 t).toOption := by
  unfold ofText
  cases assignment (skipBlank t) with
  | error f => rfl
  | ok a =>
    obtain ⟨target, r⟩ := a
    dsimp only
    cases Expr.read t r with
    | error f => rfl
    | ok b =>
      obtain ⟨expr, r⟩ := b
      dsimp only
      cases skipBlank r <;> rfl

namespace Draft

def unnumbered (d : Draft) : Draft := ⟨d.script.unnumbered, d.block.map (·.unnumbered)⟩

/-- The draft behind a line, if the line may stand there. -/
def read (d : Draft) : Line → Option Draft
  | .blank => some d
  | .close => (d.closeBlock 0).toOption
  | .header name => (d.openBlock 0 name).toOption
  | .statement t => (Statement.ofText 0 t).toOption.map d.add

section
variable (d : Draft) (line : Nat)

theorem unnumbered_of_openBlock (name : List Char) :
    (d.openBlock line name).toOption.map unnumbered = (d.unnumbered.openBlock 0 name).toOption := by
  obtain ⟨script, block⟩ := d
  cases block with
  | some outer => rfl
  | none =>
    unfold openBlock
    dsimp only [unnumbered, Option.map_none]
    split
    · rfl
    · split
      · rfl
      · split <;> rfl

theorem unnumbered_of_closeBlock :
    (d.closeBlock line).toOption.map unnumbered = (d.unnumbered.closeBlock 0).toOption := by
  obtain ⟨script, block⟩ := d
  cases block with
  | none => rfl
  | some p =>
    show some (Draft.mk ⟨(script.paths ++ [p]).map _, _⟩ none) = some ⟨⟨script.paths.map _ ++ [_], _⟩, none⟩
    rw [List.map_append]
    rfl

theorem unnumbered_add (s : Statement) : (d.add s).unnumbered = d.unnumbered.add s.unnumbered := by
  obtain ⟨script, block⟩ := d
  cases block with
  | none =>
    show Draft.mk ⟨_, (script.body ++ [s]).map _⟩ none = ⟨⟨_, script.body.map _ ++ [_]⟩, none⟩
    rw [List.map_append]
    rfl
  | some p =>
    show Draft.mk _ (some ⟨p.name, 0, (p.body ++ [s]).map _⟩) = ⟨_, some ⟨p.name, 0, p.body.map _ ++ [_]⟩⟩
    rw [List.map_append]
    rfl

theorem unnumbered_of_next (l : List Char) :
    (d.next line l).toOption.map unnumbered = d.unnumbered.read (Line.ofText l) := by
  unfold next
  cases Line.ofText l with
  | blank => rfl
  | close => exact unnumbered_of_closeBlock d line
  | header name => exact unnumbered_of_openBlock d line name
  | statement t =>
    dsimp only [read]
    rw [← Statement.unnumbered_of_ofText line t]
    cases Statement.ofText line t with
    | error f => rfl
    | ok s => exact congrArg some (unnumbered_add d s)

/-- The numbers of the lines have no part in how lines are read. -/
theorem unnumbered_of_run (ls : List (List Char)) :
    (d.run line ls).toOption.map unnumbered = (ls.map Line.ofText).foldlM read d.unnumbered := by
  induction ls generalizing d line with
  | nil => rfl
  | cons l ls ih =>
    rw [run, List.map_cons, List.foldlM_cons, ← unnumbered_of_next d line]
    cases d.next line l with
    | error e => rfl
    | ok d => exact ih d (line + 1)

theorem unnumbered_of_finish : d.finish.toOption.map Script.unnumbered = d.unnumbered.finish.toOption := by
  obtain ⟨script, block⟩ := d
  cases block <;> rfl

end

/-- Nor have the blank lines any part in it. -/
theorem foldlM_read_filter (d : Draft) (ls : List Line) :
    (ls.filter (· ≠ .blank)).foldlM read d = ls.foldlM read d := by
  induction ls generalizing d with
  | nil => rfl
  | cons l ls ih =>
    by_cases hl : l = .blank
    · rw [hl, List.filter_cons_of_neg (by decide), List.foldlM_cons]
      exact ih d
    · rw [List.filter_cons_of_pos (by simpa using hl), List.foldlM_cons, List.foldlM_cons]
      exact congrArg _ (funext ih)

end Draft

/-- The lines of a text, comments and blank lines left out. -/
def linesOf (text : String) : List Line := ((lines text.toList).map Line.ofText).filter (· ≠ .blank)

theorem Script.parse_unnumbered (text : String) :
    (parse text).toOption.map unnumbered =
      (linesOf text).foldlM Draft.read Draft.empty >>= fun d => d.finish.toOption := by
  rw [linesOf, Draft.foldlM_read_filter, parse]
  have hrun := Draft.unnumbered_of_run Draft.empty 1 (lines text.toList)
  rw [show Draft.empty.unnumbered = Draft.empty from rfl] at hrun
  rw [← hrun]
  cases Draft.empty.run 1 (lines text.toList) with
  | error e => rfl
  | ok d => exact d.unnumbered_of_finish

/-! ### Parts -/

/-- A statement of a script, or a block with its name and the statements in it. -/
inductive Part where
  | statement (text : List Char)
  | block (name : List Char) (body : List (List Char))
deriving DecidableEq

/-- The statements that some texts spell. -/
def statementsOf (ts : List (List Char)) : List Statement := ts.filterMap fun t => (Statement.ofText 0 t).toOption

def isStatement (t : List Char) : Bool := (Statement.ofText 0 t).isOk

namespace Part

def lines : Part → List Line
  | .statement t => [.statement t]
  | .block name body => .header name :: (body.map .statement ++ [.close])

/-- Whether each line of a part may stand where it does. -/
def good : Part → Bool
  | .statement t => isStatement t
  | .block name body => (Draft.empty.openBlock 0 name).isOk && body.all isStatement

/-- What a good part is a script of. -/
def script : Part → Script
  | .statement t => ⟨[], statementsOf [t]⟩
  | .block name body => ⟨[⟨String.ofList name, 0, statementsOf body⟩], []⟩

/-- The paths and the statements of parts in a row. -/
def join (ps : List Part) : Script := ⟨ps.flatMap (·.script.paths), ps.flatMap (·.script.body)⟩

end Part

namespace Draft

theorem foldlM_read_statements (d : Draft) (ts : List (List Char)) :
    (ts.map Line.statement).foldlM read d =
      if ts.all isStatement then some ((statementsOf ts).foldl add d) else none := by
  induction ts generalizing d with
  | nil => rfl
  | cons t ts ih =>
    rw [List.map_cons, List.foldlM_cons, List.all_cons, isStatement, statementsOf, List.filterMap_cons, read]
    cases Statement.ofText 0 t with
    | error f => rfl
    | ok s => exact ih (d.add s)

theorem foldl_add_script (s : Script) (ss : List Statement) :
    ss.foldl add ⟨s, none⟩ = ⟨⟨s.paths, s.body ++ ss⟩, none⟩ := by
  induction ss generalizing s with
  | nil => rw [List.append_nil]; rfl
  | cons t ss ih =>
    rw [List.foldl_cons, ← List.singleton_append, ← List.append_assoc]
    exact ih ⟨s.paths, s.body ++ [t]⟩

theorem foldl_add_block (s : Script) (p : NamedPath) (ss : List Statement) :
    ss.foldl add ⟨s, some p⟩ = ⟨s, some { p with body := p.body ++ ss }⟩ := by
  induction ss generalizing p with
  | nil => rw [List.append_nil]; rfl
  | cons t ss ih =>
    rw [List.foldl_cons, ← List.singleton_append, ← List.append_assoc]
    exact ih { p with body := p.body ++ [t] }

theorem openBlock_toOption (s : Script) (name : List Char) :
    ((Draft.mk s none).openBlock 0 name).toOption =
      if (Draft.empty.openBlock 0 name).isOk then some ⟨s, some ⟨String.ofList name, 0, []⟩⟩ else none := by
  unfold openBlock
  dsimp only [Draft.empty]
  split
  · rfl
  · split
    · rfl
    · split <;> rfl

/-- A part is read in the same way whatever has been read before it. -/
theorem foldlM_read_part (s : Script) (p : Part) :
    p.lines.foldlM read ⟨s, none⟩ =
      if p.good then some ⟨⟨s.paths ++ p.script.paths, s.body ++ p.script.body⟩, none⟩ else none := by
  cases p with
  | statement t =>
    have hread := foldlM_read_statements ⟨s, none⟩ [t]
    rw [foldl_add_script, List.all_cons, List.all_nil, Bool.and_true] at hread
    rw [Part.script, List.append_nil]
    exact hread
  | block name body =>
    rw [Part.lines, List.foldlM_cons, read, openBlock_toOption, Part.good]
    by_cases hname : (Draft.empty.openBlock 0 name).isOk
    · rw [if_pos hname, hname, Bool.true_and]
      show (body.map Line.statement ++ [Line.close]).foldlM read ⟨s, some ⟨String.ofList name, 0, []⟩⟩ = _
      rw [List.foldlM_append, foldlM_read_statements, foldl_add_block, List.nil_append, Part.script, List.append_nil]
      split <;> rfl
    · rw [if_neg hname, Bool.eq_false_iff.2 hname]
      rfl

theorem foldlM_read_parts (s : Script) (ps : List Part) :
    (ps.flatMap Part.lines).foldlM read ⟨s, none⟩ =
      if ps.all Part.good then
        some ⟨⟨s.paths ++ (Part.join ps).paths, s.body ++ (Part.join ps).body⟩, none⟩
      else none := by
  induction ps generalizing s with
  | nil =>
    show some _ = some (Draft.mk ⟨s.paths ++ [], s.body ++ []⟩ none)
    rw [List.append_nil, List.append_nil]
  | cons p ps ih =>
    rw [List.flatMap_cons, List.foldlM_append, foldlM_read_part, List.all_cons]
    by_cases hp : p.good
    · rw [if_pos hp, hp, Bool.true_and, Option.bind_eq_bind, Option.bind_some, ih, Part.join, Part.join,
        List.flatMap_cons, List.flatMap_cons, List.append_assoc, List.append_assoc]
    · rw [if_neg hp, Bool.eq_false_iff.2 hp]
      rfl

end Draft

/-! ### Layouts -/

/-- The text consists of these parts in a row. -/
def LaidOut (text : String) (ps : List Part) : Prop := linesOf text = ps.flatMap Part.lines

instance (text : String) (ps : List Part) : Decidable (LaidOut text ps) :=
  inferInstanceAs (Decidable (linesOf text = ps.flatMap Part.lines))

/-- A row of parts is a script if each of them is good. -/
theorem Script.parse_laidOut {text : String} {ps : List Part} (h : LaidOut text ps) :
    (parse text).toOption.map unnumbered = if ps.all Part.good then some (Part.join ps) else none := by
  rw [parse_unnumbered, h, Draft.empty, Draft.foldlM_read_parts]
  split <;> rfl

/-- What can be read with no block open in the end is parts in a row, behind the rest of the block that
is open in the beginning. -/
theorem Draft.exists_parts {ls : List Line} (hblank : .blank ∉ ls) {d d' : Draft}
    (hread : ls.foldlM read d = some d') (hclosed : d'.block = none) :
    match d.block with
    | none => ∃ ps : List Part, ls = ps.flatMap Part.lines
    | some _ => ∃ (body : List (List Char)) (ps : List Part),
        ls = body.map .statement ++ .close :: ps.flatMap Part.lines := by
  induction ls generalizing d with
  | nil =>
    cases hread
    rw [hclosed]
    exact ⟨[], rfl⟩
  | cons l ls ih =>
    obtain ⟨e, he, hrest⟩ : ∃ e, d.read l = some e ∧ ls.foldlM read e = some d' := by
      rw [List.foldlM_cons] at hread
      exact Option.bind_eq_some_iff.1 hread
    have hparts := ih (fun hl => hblank (List.mem_cons_of_mem _ hl)) hrest
    obtain ⟨script, block⟩ := d
    cases l with
    | blank => exact absurd List.mem_cons_self hblank
    | close =>
      cases block with
      | none => cases he
      | some p =>
        cases he
        obtain ⟨ps, hps⟩ := hparts
        exact ⟨[], ps, congrArg (.close :: ·) hps⟩
    | header name =>
      cases block with
      | some p => cases he
      | none =>
        rw [read, openBlock_toOption] at he
        split at he
        · cases he
          obtain ⟨body, ps, hps⟩ := hparts
          refine ⟨.block name body :: ps, ?_⟩
          rw [hps, List.flatMap_cons, Part.lines, List.cons_append, List.append_assoc]
          rfl
        · cases he
    | statement t =>
      rw [read, Option.map_eq_some_iff] at he
      obtain ⟨s, -, rfl⟩ := he
      cases block with
      | none =>
        obtain ⟨ps, hps⟩ := hparts
        exact ⟨.statement t :: ps, congrArg (.statement t :: ·) hps⟩
      | some p =>
        obtain ⟨body, ps, hps⟩ := hparts
        exact ⟨t :: body, ps, congrArg (.statement t :: ·) hps⟩

/-- The lines of a script can be read one after another, with no block open in the end. -/
theorem Script.exists_read {text : String} {script : Script} (h : parse text = .ok script) :
    ∃ d, (linesOf text).foldlM Draft.read Draft.empty = some d ∧ d.block = none := by
  have hparse := parse_unnumbered text
  rw [h] at hparse
  obtain ⟨d, hread, hfinish⟩ := Option.bind_eq_some_iff.1 hparse.symm
  refine ⟨d, hread, ?_⟩
  obtain ⟨s, block⟩ := d
  cases block with
  | none => rfl
  | some p => cases hfinish

/-- Every script has a layout. -/
theorem exists_laidOut {text : String} {script : Script} (h : Script.parse text = .ok script) :
    ∃ ps, LaidOut text ps := by
  obtain ⟨d, hread, hclosed⟩ := Script.exists_read h
  exact Draft.exists_parts (fun hblank => by simp [linesOf] at hblank) hread hclosed

/-! ### Rearrangements -/

namespace Part

def statement? : Part → Option (List Char)
  | .statement t => some t
  | .block _ _ => none

def name? : Part → Option (List Char)
  | .statement _ => none
  | .block name _ => some name

/-- Whether a part is a block of this name. -/
def isBlock (name : List Char) : Part → Bool
  | .statement _ => false
  | .block n _ => n = name

end Part

/-- Parts in another order in which the statements, and the blocks of each name, follow one another as
before. -/
structure Rearranged (ps qs : List Part) : Prop where
  statements : qs.filterMap Part.statement? = ps.filterMap Part.statement?
  blocks : ∀ name, qs.filter (Part.isBlock name) = ps.filter (Part.isBlock name)

/-- Of the names of blocks only those that there are matter. -/
theorem rearranged_iff {ps qs : List Part} : Rearranged ps qs ↔
    qs.filterMap Part.statement? = ps.filterMap Part.statement? ∧
      ∀ name ∈ (ps ++ qs).filterMap Part.name?,
        qs.filter (Part.isBlock name) = ps.filter (Part.isBlock name) := by
  constructor
  · exact fun h => ⟨h.statements, fun name _ => h.blocks name⟩
  · rintro ⟨hstatements, hblocks⟩
    refine ⟨hstatements, fun name => ?_⟩
    by_cases hname : name ∈ (ps ++ qs).filterMap Part.name?
    · exact hblocks name hname
    · have hnone : ∀ p ∈ ps ++ qs, ¬ p.isBlock name = true := by
        intro p hp hblock
        cases p with
        | statement t => cases hblock
        | block n body =>
          exact hname (List.mem_filterMap.2 ⟨_, hp, congrArg some (of_decide_eq_true hblock)⟩)
      rw [List.filter_eq_nil_iff.2 fun p hp => hnone p (List.mem_append_right _ hp),
        List.filter_eq_nil_iff.2 fun p hp => hnone p (List.mem_append_left _ hp)]

instance (ps qs : List Part) : Decidable (Rearranged ps qs) := decidable_of_iff' _ rearranged_iff

namespace Part

theorem join_cons (p : Part) (ps : List Part) :
    join (p :: ps) = ⟨p.script.paths ++ (join ps).paths, p.script.body ++ (join ps).body⟩ := by
  rw [join, List.flatMap_cons, List.flatMap_cons]
  rfl

theorem join_body (ps : List Part) : (join ps).body = statementsOf (ps.filterMap statement?) := by
  induction ps with
  | nil => rfl
  | cons p ps ih =>
    rw [join_cons, List.filterMap_cons, ih]
    cases p with
    | statement t => exact List.filterMap_append.symm
    | block name body => rfl

theorem filter_join_paths (ps : List Part) (name : String) :
    (join ps).paths.filter (fun p => p.name = name) =
      (ps.filter (isBlock name.toList)).flatMap (·.script.paths) := by
  induction ps with
  | nil => rfl
  | cons p ps ih =>
    rw [join_cons, List.filter_append, ih]
    cases p with
    | statement t => rfl
    | block n body =>
      by_cases hn : n = name.toList
      · have hblock : isBlock name.toList (.block n body) = true := decide_eq_true hn
        rw [List.filter_cons_of_pos hblock, List.flatMap_cons]
        congr 1
        rw [hn, script, String.ofList_toList]
        exact List.filter_cons_of_pos (decide_eq_true rfl)
      · have hname : String.ofList n ≠ name := by
          rintro rfl
          exact hn String.toList_ofList.symm
        have hblock : ¬ isBlock name.toList (.block n body) = true := by simpa [isBlock] using hn
        rw [List.filter_cons_of_neg hblock, script, List.filter_cons_of_neg (by simpa using hname),
          List.filter_nil, List.nil_append]

end Part

namespace Rearranged

variable {ps qs : List Part}

theorem mem (h : Rearranged ps qs) {p : Part} (hp : p ∈ qs) : p ∈ ps := by
  cases p with
  | statement t =>
    have hmem : t ∈ qs.filterMap Part.statement? := List.mem_filterMap.2 ⟨_, hp, rfl⟩
    rw [h.statements] at hmem
    obtain ⟨p, hp, ht⟩ := List.mem_filterMap.1 hmem
    cases p with
    | statement t' =>
      cases ht
      exact hp
    | block name body => cases ht
  | block name body =>
    have hmem : Part.block name body ∈ qs.filter (Part.isBlock name) :=
      List.mem_filter.2 ⟨hp, decide_eq_true rfl⟩
    rw [h.blocks] at hmem
    exact (List.mem_filter.1 hmem).1

end Rearranged

/-- Rearranged parts of a script make up a script with the same statements and, for each name, the same
paths. -/
theorem Script.parse_rearranged {a b : String} {s : Script} (ha : parse a = .ok s) {ps qs : List Part}
    (hps : LaidOut a ps) (hqs : LaidOut b qs) (h : Rearranged ps qs) :
    ∃ t, parse b = .ok t ∧ t.unnumbered.body = s.unnumbered.body ∧
      ∀ name, t.unnumbered.paths.filter (fun p => p.name = name) =
        s.unnumbered.paths.filter (fun p => p.name = name) := by
  have hs := parse_laidOut hps
  rw [ha] at hs
  split at hs
  · rename_i hgood
    have hgood' : qs.all Part.good := List.all_eq_true.2 fun p hp => List.all_eq_true.1 hgood p (h.mem hp)
    have ht := parse_laidOut hqs
    rw [if_pos hgood'] at ht
    cases hb : parse b with
    | error e =>
      rw [hb] at ht
      cases ht
    | ok t =>
      rw [hb] at ht
      have hs : s.unnumbered = Part.join ps := Option.some.inj hs
      have ht : t.unnumbered = Part.join qs := Option.some.inj ht
      refine ⟨t, rfl, ?_, fun name => ?_⟩
      · rw [hs, ht, Part.join_body, Part.join_body, h.statements]
      · rw [hs, ht, Part.filter_join_paths, Part.filter_join_paths, h.blocks]
  · cases hs

end Footpath
