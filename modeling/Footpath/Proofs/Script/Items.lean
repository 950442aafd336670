import Mathlib.Data.List.Basic
import Footpath.Proofs.Script.Names
import Footpath.Proofs.Script.Statements

/-! The items that a script is read into.

A script is made of items, statements of its own and whole blocks, one behind another. An item has its places,
each of which marks a line. Reading one more line adds one mark to what has been read, or none if the line is
passed over (`Draft.Holds.next`), and an open block becomes an item at its end. So the lines that are neither
blank nor comments, each with its number, are the marks of the items in order, with nothing left over on either
side (`Script.exists_items`). -/
namespace Footpath
open Text Token

/-! ### Lines and their numbers -/

/-- A line that is passed over: a blank one or a comment. -/
def IsPassed (l : List Char) : Prop := trim l = [] ∨ (trim l).head? = some '#'

namespace Line

variable {l : List Char}

theorem ofText_eq_blank_iff : ofText l = .blank ↔ IsPassed l := by
  have hpassed : ((trim l).isEmpty || (trim l).head? == some '#') = true ↔ IsPassed l := by
    rw [Bool.or_eq_true, List.isEmpty_iff, beq_iff_eq]
    rfl
  rw [← hpassed]
  unfold ofText
  dsimp only
  split
  · rename_i h
    exact iff_of_true rfl h
  · rename_i h
    refine iff_of_false ?_ h
    repeat' split
    all_goals exact Line.noConfusion

theorem ofText_eq_close_iff : ofText l = .close ↔ trim l = ['e', 'n', 'd'] := by
  constructor
  · intro h
    unfold ofText at h
    dsimp only at h
    split at h
    · cases h
    · split at h
      · rename_i hend
        exact hend
      · split at h <;> cases h
  · intro h
    rw [ofText, h]
    rfl

theorem ofText_eq_header_iff {name : List Char} : ofText l = .header name ↔ headerName? (trim l) = some name := by
  constructor
  · intro h
    unfold ofText at h
    dsimp only at h
    split at h
    · cases h
    · split at h
      · cases h
      · split at h
        · rename_i hname
          cases h
          exact hname
        · cases h
  · intro h
    obtain ⟨r, hr⟩ : ∃ r, trim l = ['p', 'a', 't', 'h'] ++ r := by
      unfold headerName? at h
      split at h
      · cases h
      · rename_i hstrip
        exact ⟨[], strip?_eq_some_iff.1 hstrip⟩
      · rename_i c r hstrip
        exact ⟨c :: r, strip?_eq_some_iff.1 hstrip⟩
    rw [hr] at h
    rw [ofText, hr, if_neg (by simp), if_neg (by simp), h]

end Line

/-- What is left of a text in front of which blanks are cut ends as the text did. -/
theorem getLast?_skipBlank {s : List Char} (h : skipBlank s ≠ []) : (skipBlank s).getLast? = s.getLast? := by
  conv_rhs => rw [← List.takeWhile_append_dropWhile (p := isBlank) (l := s)]
  exact (List.getLast?_append_of_ne_nil _ h).symm

/-- A header is the word, a gap, and the name. -/
theorem headerName?_spelled {l name : List Char} (h : headerName? (trim l) = some name) (hname : name ≠ []) :
    ∃ gap, gap ≠ [] ∧ (∀ c ∈ gap, isBlank c = true) ∧ trim l = ['p', 'a', 't', 'h'] ++ gap ++ name := by
  unfold headerName? at h
  split at h
  · cases h
  · cases h
    contradiction
  · rename_i c r hstrip
    have htext := strip?_eq_some_iff.1 hstrip
    split at h
    · rename_i hc
      cases h
      have hskip : skipBlank (c :: r) ≠ [] := by
        intro hnil
        rw [trim, hnil] at hname
        exact hname rfl
      -- The end of the line is not blank, so nothing is cut behind the name.
      have hend : ∀ d, (skipBlank (c :: r)).getLast? = some d → isBlank d = false := by
        intro d hd
        rw [getLast?_skipBlank hskip, ← List.getLast?_append_of_ne_nil ['p', 'a', 't', 'h'] (List.cons_ne_nil c r),
          ← htext] at hd
        exact isBlank_of_getLast?_dropBlankEnd hd
      have htrim : trim (c :: r) = skipBlank (c :: r) := dropBlankEnd_eq_self hend
      refine ⟨(c :: r).takeWhile isBlank, ?_, fun d hd => List.all_eq_true.1 List.all_takeWhile d hd, ?_⟩
      · rw [List.takeWhile_cons_of_pos hc]
        exact List.cons_ne_nil _ _
      · rw [htext, htrim, List.append_assoc]
        exact congrArg _ List.takeWhile_append_dropWhile.symm
    · cases h

/-- The lines that are not passed over, with their numbers; the first of all has the number `line`. -/
def marked (line : Nat) : List (List Char) → List (Nat × Line)
  | [] => []
  | l :: ls =>
    if Line.ofText l = .blank then marked (line + 1) ls else (line, Line.ofText l) :: marked (line + 1) ls

theorem marked_cons (line : Nat) (l : List Char) (ls : List (List Char)) :
    marked line (l :: ls) = marked line [l] ++ marked (line + 1) ls := by
  simp only [marked]
  split <;> rfl

theorem marked_of_ne_blank {l : List Char} (h : Line.ofText l ≠ .blank) (line : Nat) :
    marked line [l] = [(line, Line.ofText l)] := if_neg h

theorem mem_marked_iff {line n : Nat} {k : Line} {ls : List (List Char)} :
    (n, k) ∈ marked line ls ↔ k ≠ .blank ∧ ∃ i l, ls[i]? = some l ∧ n = line + i ∧ Line.ofText l = k := by
  induction ls generalizing line with
  | nil => simp [marked]
  | cons l ls ih =>
    have hshift : (∃ i t, ls[i]? = some t ∧ n = line + 1 + i ∧ Line.ofText t = k) ↔
        ∃ i t, (l :: ls)[i + 1]? = some t ∧ n = line + (i + 1) ∧ Line.ofText t = k := by
      simp only [List.getElem?_cons_succ, Nat.add_assoc, Nat.add_comm 1]
    have hfirst : (n, k) ∈ marked line [l] ↔ k ≠ .blank ∧ n = line ∧ Line.ofText l = k := by
      by_cases hl : Line.ofText l = .blank
      · simp only [marked, if_pos hl, List.not_mem_nil, false_iff]
        rintro ⟨hk, -, hlk⟩
        exact hk (hlk.symm.trans hl)
      · rw [marked_of_ne_blank hl, List.mem_singleton, Prod.mk.injEq]
        constructor
        · rintro ⟨hn, hk⟩
          exact ⟨hk ▸ hl, hn, hk.symm⟩
        · rintro ⟨-, hn, hk⟩
          exact ⟨hn, hk.symm⟩
    rw [marked_cons, List.mem_append, ih, hshift, hfirst, ← and_or_left]
    refine and_congr_right fun _ => ⟨?_, ?_⟩
    · rintro (⟨hn, hk⟩ | ⟨i, t, ht⟩)
      · exact ⟨0, l, rfl, hn, hk⟩
      · exact ⟨i + 1, t, ht⟩
    · rintro ⟨i, t, ht, hn, hk⟩
      cases i with
      | zero =>
        cases ht
        exact .inl ⟨hn, hk⟩
      | succ i => exact .inr ⟨i, t, ht, hn, hk⟩

/-- Numbers grow from line to line. -/
theorem pairwise_marked (line : Nat) (ls : List (List Char)) : (marked line ls).Pairwise fun a b => a.1 < b.1 := by
  induction ls generalizing line with
  | nil => exact .nil
  | cons l ls ih =>
    rw [marked]
    split
    · exact ih (line + 1)
    · refine .cons ?_ (ih (line + 1))
      rintro ⟨n, k⟩ hmem
      obtain ⟨-, i, -, -, rfl, -⟩ := mem_marked_iff.1 hmem
      show line < line + 1 + i
      omega

/-! ### Items -/

/-- A path, and the number of the line that ends it. -/
structure Block where
  path : NamedPath
  last : Nat

/-- What a script is made of from top to bottom. -/
inductive Item where
  | statement (s : Statement)
  | block (b : Block)

/-- What a line can be in a script. -/
inductive Place where
  | header (b : Block)
  | close (b : Block)
  | inner (b : Block) (s : Statement)
  | outer (s : Statement)

def Statement.mark (s : Statement) : Nat × Line := (s.line, .statement s.text.toList)

/-- The marks of a block as long as it is open. -/
def NamedPath.marks (p : NamedPath) : List (Nat × Line) :=
  (p.line, .header p.name.toList) :: p.body.map Statement.mark

/-- The line of a place: its number and its kind. -/
def Place.mark : Place → Nat × Line
  | .header b => (b.path.line, .header b.path.name.toList)
  | .close b => (b.last, .close)
  | .inner _ s => s.mark
  | .outer s => s.mark

def Place.line (q : Place) : Nat := q.mark.1

namespace Item

def block? : Item → Option Block
  | .statement _ => none
  | .block b => some b

def statement? : Item → Option Statement
  | .statement s => some s
  | .block _ => none

/-- The places that an item has, from top to bottom. -/
def places : Item → List Place
  | .statement s => [.outer s]
  | .block b => .header b :: (b.path.body.map (.inner b) ++ [.close b])

theorem map_mark_block (b : Block) : (block b).places.map Place.mark = b.path.marks ++ [(b.last, .close)] := by
  rw [places, List.map_cons, List.map_append, List.map_map]
  rfl

end Item

namespace Draft

/-- A draft consists of these items and of its open block, and their lines are the marks. -/
structure Holds (d : Draft) (marks : List (Nat × Line)) (items : List Item) : Prop where
  marks : marks = (items.flatMap Item.places).map Place.mark ++ d.block.toList.flatMap NamedPath.marks
  paths : d.script.paths = (items.filterMap Item.block?).map Block.path
  body : d.script.body = items.filterMap Item.statement?

variable {d d' : Draft} {marks : List (Nat × Line)} {items : List Item} {line : Nat}

theorem holds_empty : empty.Holds [] [] := ⟨rfl, rfl, rfl⟩

/-- The items stay, and the open block comes to have one more line. -/
theorem Holds.openBlock {name : List Char} (hd : d.Holds marks items) (h : d.openBlock line name = .ok d') :
    d'.Holds (marks ++ [(line, .header name)]) items := by
  obtain ⟨script, block⟩ := d
  unfold Draft.openBlock at h
  cases block with
  | some outer => cases h
  | none =>
    dsimp only at h
    repeat' split at h
    all_goals cases h
    refine ⟨?_, hd.paths, hd.body⟩
    rw [hd.marks]
    show _ ++ [] ++ [(line, Line.header name)] = _ ++ [(line, Line.header (String.ofList name).toList)]
    rw [List.append_nil, String.toList_ofList]

/-- The open block becomes an item. -/
theorem Holds.closeBlock (hd : d.Holds marks items) (h : d.closeBlock line = .ok d') :
    ∃ b, d'.Holds (marks ++ [(line, .close)]) (items ++ [.block b]) := by
  obtain ⟨script, block⟩ := d
  cases block with
  | none => cases h
  | some p =>
    cases h
    refine ⟨⟨p, line⟩, ?_, ?_, ?_⟩
    · rw [hd.marks, List.flatMap_append, List.map_append, List.flatMap_singleton, Item.map_mark_block]
      show _ ++ (p.marks ++ []) ++ [(line, Line.close)] = _ ++ (p.marks ++ [(line, Line.close)]) ++ []
      simp only [List.append_nil, List.append_assoc]
    · rw [List.filterMap_append, List.map_append, ← hd.paths]
      rfl
    · rw [List.filterMap_append, ← hd.body]
      exact (List.append_nil _).symm

theorem Holds.add (hd : d.Holds marks items) (s : Statement) :
    ∃ items', (d.add s).Holds (marks ++ [s.mark]) items' := by
  obtain ⟨script, block⟩ := d
  cases block with
  | none =>
    refine ⟨items ++ [.statement s], ?_, ?_, ?_⟩
    · rw [hd.marks, List.flatMap_append, List.map_append]
      show _ ++ [] ++ [s.mark] = _ ++ [s.mark] ++ []
      rw [List.append_nil, List.append_nil]
    · rw [List.filterMap_append]
      exact hd.paths.trans (congrArg _ (List.append_nil _).symm)
    · rw [List.filterMap_append]
      exact congrArg (· ++ [s]) hd.body
  | some p =>
    refine ⟨items, ?_, hd.paths, hd.body⟩
    rw [hd.marks]
    show _ ++ (p.marks ++ []) ++ [s.mark] = _ ++ (NamedPath.marks { p with body := p.body ++ [s] } ++ [])
    rw [NamedPath.marks, NamedPath.marks, List.map_append]
    simp only [List.append_nil, List.append_assoc, List.cons_append, List.map_cons, List.map_nil]

/-- What a line is read as has the number and the kind of the line. -/
theorem Holds.next {l : List Char} (hd : d.Holds marks items) (h : d.next line l = .ok d') :
    ∃ items', d'.Holds (marks ++ marked line [l]) items' := by
  cases hl : Line.ofText l with
  | blank =>
    simp only [Draft.next, hl] at h
    cases h
    have hnone : marked line [l] = [] := if_pos hl
    rw [hnone, List.append_nil]
    exact ⟨items, hd⟩
  | close =>
    simp only [Draft.next, hl] at h
    rw [marked_of_ne_blank (by simp [hl]), hl]
    obtain ⟨b, hb⟩ := hd.closeBlock h
    exact ⟨_, hb⟩
  | header name =>
    simp only [Draft.next, hl] at h
    rw [marked_of_ne_blank (by simp [hl]), hl]
    exact ⟨items, hd.openBlock h⟩
  | statement t =>
    simp only [Draft.next, hl] at h
    split at h
    · cases h
    · rename_i s hread
      cases h
      have hmark : marked line [l] = [s.mark] := by
        obtain ⟨hline, htext⟩ := Statement.of_ofText hread
        obtain rfl := Line.ofText_eq_statement hl
        rw [marked_of_ne_blank (by simp [hl]), hl, Statement.mark, hline, htext, String.toList_ofList, trim_trim]
      rw [hmark]
      exact hd.add s

theorem Holds.run {ls : List (List Char)} (hd : d.Holds marks items) (h : d.run line ls = .ok d') :
    ∃ items', d'.Holds (marks ++ marked line ls) items' := by
  induction ls generalizing d line marks items with
  | nil =>
    cases h
    rw [marked, List.append_nil]
    exact ⟨items, hd⟩
  | cons l ls ih =>
    rw [Draft.run] at h
    split at h
    · cases h
    · rename_i hnext
      obtain ⟨items', hd'⟩ := hd.next hnext
      rw [marked_cons, ← List.append_assoc]
      exact ih hd' h

end Draft

/-- The lines of a script are those of its items. -/
theorem Script.exists_items {text : String} {script : Script} (h : parse text = .ok script) :
    ∃ items : List Item, marked 1 (lines text.toList) = (items.flatMap Item.places).map Place.mark ∧
      script.paths = (items.filterMap Item.block?).map Block.path ∧ script.body = items.filterMap Item.statement? := by
  unfold parse at h
  split at h
  · cases h
  · rename_i d hrun
    obtain ⟨items, hd⟩ := Draft.holds_empty.run hrun
    unfold Draft.finish at h
    split at h
    · cases h
    · rename_i hclosed
      cases h
      have hmarks := hd.marks
      rw [hclosed, Option.toList_none, List.flatMap_nil, List.append_nil, List.nil_append] at hmarks
      exact ⟨items, hmarks, hd.paths, hd.body⟩

end Footpath
