import Footpath.Proofs.Script.Items

/-! The places of a script in its text.

A script that was read has a place for each header, each end and each statement (`Place.In`). The places are
those of its items, so they stand on the lines that are neither blank nor comments; and as numbers grow from
line to line, no two of them share a line, and the places of one item are not between those of another
(`Ascending`). -/
namespace Footpath
open Text

/-! ### Places -/

/-- The places of a script: two for each block, and one for each statement. -/
inductive Place.In (blocks : List Block) (body : List Statement) : Place → Prop where
  | header {b : Block} (hb : b ∈ blocks) : In blocks body (.header b)
  | close {b : Block} (hb : b ∈ blocks) : In blocks body (.close b)
  | inner {b : Block} {s : Statement} (hb : b ∈ blocks) (hs : s ∈ b.path.body) : In blocks body (.inner b s)
  | outer {s : Statement} (hs : s ∈ body) : In blocks body (.outer s)

/-- What the line of a place reads. -/
def Place.Spelled (l : List Char) : Place → Prop
  | .header b => ∃ gap, gap ≠ [] ∧ (∀ c ∈ gap, isBlank c = true) ∧
      trim l = ['p', 'a', 't', 'h'] ++ gap ++ b.path.name.toList
  | .close _ => trim l = ['e', 'n', 'd']
  | .inner _ s => s.text = String.ofList (trim l) ∧ Statement.ofText s.line (trim l) = .ok s
  | .outer s => s.text = String.ofList (trim l) ∧ Statement.ofText s.line (trim l) = .ok s

theorem Item.mem_block?_iff {items : List Item} {b : Block} : b ∈ items.filterMap block? ↔ .block b ∈ items := by
  rw [List.mem_filterMap]
  constructor
  · rintro ⟨i, hi, hb⟩
    cases i with
    | statement s => cases hb
    | block b' =>
      cases hb
      exact hi
  · exact fun h => ⟨_, h, rfl⟩

theorem Item.mem_statement?_iff {items : List Item} {s : Statement} :
    s ∈ items.filterMap statement? ↔ .statement s ∈ items := by
  rw [List.mem_filterMap]
  constructor
  · rintro ⟨i, hi, hs⟩
    cases i with
    | statement s' =>
      cases hs
      exact hi
    | block b => cases hs
  · exact fun h => ⟨_, h, rfl⟩

/-- The places of items are those of their blocks and of their statements. -/
theorem Item.mem_places_iff {items : List Item} {q : Place} :
    q ∈ items.flatMap places ↔ q.In (items.filterMap block?) (items.filterMap statement?) := by
  rw [List.mem_flatMap]
  constructor
  · rintro ⟨i, hi, hq⟩
    cases i with
    | statement s =>
      rw [places, List.mem_singleton] at hq
      subst hq
      exact .outer (mem_statement?_iff.2 hi)
    | block b =>
      have hb := mem_block?_iff.2 hi
      rw [places, List.mem_cons, List.mem_append, List.mem_map, List.mem_singleton] at hq
      rcases hq with rfl | ⟨s, hs, rfl⟩ | rfl
      · exact .header hb
      · exact .inner hb hs
      · exact .close hb
  · intro hq
    cases hq with
    | header hb => exact ⟨_, mem_block?_iff.1 hb, List.mem_cons_self⟩
    | close hb => exact ⟨_, mem_block?_iff.1 hb, List.mem_cons_of_mem _ List.mem_concat_self⟩
    | inner hb hs =>
      exact ⟨_, mem_block?_iff.1 hb, List.mem_cons_of_mem _ (List.mem_append_left _ (List.mem_map_of_mem hs))⟩
    | outer hs => exact ⟨_, mem_statement?_iff.1 hs, List.mem_singleton_self _⟩

/-! ### Places in order -/

/-- The places of items follow one another line by line. -/
def Ascending (items : List Item) : Prop := (items.flatMap Item.places).Pairwise fun p q => p.line < q.line

namespace Ascending

variable {items : List Item}

theorem of_marked {ls : List (List Char)} (h : marked 1 ls = (items.flatMap Item.places).map Place.mark) :
    Ascending items := by
  have hmarks := pairwise_marked 1 ls
  rw [h, List.pairwise_map] at hmarks
  exact hmarks

/-- Two places are not on one line. -/
theorem eq_of_line_eq (h : Ascending items) {p q : Place} (hp : p ∈ items.flatMap Item.places)
    (hq : q ∈ items.flatMap Item.places) (hline : p.line = q.line) : p = q := by
  obtain ⟨above, below, hsplit⟩ := List.append_of_mem hp
  rw [Ascending, hsplit, List.pairwise_append, List.pairwise_cons] at h
  obtain ⟨-, ⟨hbelow, -⟩, habove⟩ := h
  rw [hsplit, List.mem_append, List.mem_cons] at hq
  rcases hq with hq | rfl | hq
  · exact absurd (habove q hq p List.mem_cons_self) (by omega)
  · rfl
  · exact absurd (hbelow q hq) (by omega)

/-- Each line that is not passed over has one place. -/
theorem existsUnique_place {ls : List (List Char)} (h : marked 1 ls = (items.flatMap Item.places).map Place.mark)
    {i : Nat} {l : List Char} (hl : ls[i]? = some l) (hread : ¬ IsPassed l) :
    ∃! q : Place, q ∈ items.flatMap Item.places ∧ q.line = i + 1 := by
  have hmark : (i + 1, Line.ofText l) ∈ marked 1 ls :=
    mem_marked_iff.2 ⟨fun hblank => hread (Line.ofText_eq_blank_iff.1 hblank), i, l, hl, Nat.add_comm _ _, rfl⟩
  rw [h, List.mem_map] at hmark
  obtain ⟨q, hq, hmark⟩ := hmark
  have hnumber : q.line = i + 1 := congrArg Prod.fst hmark
  exact ⟨q, ⟨hq, hnumber⟩, fun p hp => (of_marked h).eq_of_line_eq hp.1 hq (hp.2.trans hnumber.symm)⟩

/-- The lines of one block follow one another. -/
theorem block (h : Ascending items) {b : Block} (hb : .block b ∈ items) :
    b.path.line < b.last ∧ (∀ s ∈ b.path.body, b.path.line < s.line ∧ s.line < b.last) ∧
      b.path.body.Pairwise fun s t => s.line < t.line := by
  have hblock := (List.pairwise_flatMap.1 h).1 _ hb
  rw [Item.places, List.pairwise_cons, List.pairwise_append, List.pairwise_map] at hblock
  obtain ⟨hheader, hbody, -, hclose⟩ := hblock
  refine ⟨hheader _ List.mem_concat_self, fun s hs => ⟨?_, ?_⟩, hbody⟩
  · exact hheader _ (List.mem_append_left _ (List.mem_map_of_mem hs))
  · exact hclose _ (List.mem_map_of_mem hs) _ (List.mem_singleton_self _)

/-- No line of an item comes before the last one of an item above it. -/
theorem pairwise (h : Ascending items) :
    items.Pairwise fun i j => ∀ p ∈ i.places, ∀ q ∈ j.places, p.line < q.line := (List.pairwise_flatMap.1 h).2

theorem blocks (h : Ascending items) : (items.filterMap Item.block?).Pairwise fun a b => a.last < b.path.line := by
  refine h.pairwise.filterMap _ fun i j hij a ha b hb => ?_
  cases i with
  | statement s => cases ha
  | block a' =>
    cases j with
    | statement s => cases hb
    | block b' =>
      cases ha
      cases hb
      exact hij (.close a) (List.mem_cons_of_mem _ List.mem_concat_self) (.header b) List.mem_cons_self

theorem statements (h : Ascending items) :
    (items.filterMap Item.statement?).Pairwise fun s t => s.line < t.line := by
  refine h.pairwise.filterMap _ fun i j hij s hs t ht => ?_
  cases i with
  | block b => cases hs
  | statement s' =>
    cases j with
    | block b => cases ht
    | statement t' =>
      cases hs
      cases ht
      exact hij (.outer s) (List.mem_singleton_self _) (.outer t) (List.mem_singleton_self _)

/-- A statement that is no part of a block stands above it or below it. -/
theorem outside (h : Ascending items) {s : Statement} {b : Block} (hs : .statement s ∈ items)
    (hb : .block b ∈ items) : s.line < b.path.line ∨ b.last < s.line := by
  obtain ⟨above, below, hsplit⟩ := List.append_of_mem hb
  have hitems := h.pairwise
  rw [hsplit, List.pairwise_append, List.pairwise_cons] at hitems
  obtain ⟨-, ⟨hbelow, -⟩, habove⟩ := hitems
  rw [hsplit, List.mem_append, List.mem_cons] at hs
  rcases hs with hs | hs | hs
  · exact .inl (habove _ hs _ List.mem_cons_self (.outer s) (List.mem_singleton_self _) (.header b) List.mem_cons_self)
  · cases hs
  · exact .inr (hbelow _ hs (.close b) (List.mem_cons_of_mem _ List.mem_concat_self) (.outer s)
      (List.mem_singleton_self _))

end Ascending

/-! ### Scripts -/

/-- Where the parts of a script stand in the text that it was read from. -/
structure Script.Placed (text : String) (script : Script) (blocks : List Block) : Prop where
  paths : blocks.map Block.path = script.paths
  /-- A line that is not passed over has one place. -/
  place : ∀ i l, (lines text.toList)[i]? = some l → ¬ IsPassed l →
    ∃! q : Place, q.In blocks script.body ∧ q.line = i + 1
  /-- A place has a line, and the line spells what there is. -/
  line : ∀ q : Place, q.In blocks script.body →
    ∃ i l, (lines text.toList)[i]? = some l ∧ q.line = i + 1 ∧ q.Spelled l
  named : ∀ p ∈ script.paths, p.WellNamed
  within : ∀ b ∈ blocks, b.path.line < b.last ∧ ∀ s ∈ b.path.body, b.path.line < s.line ∧ s.line < b.last
  apart : blocks.Pairwise fun a b => a.last < b.path.line
  outside : ∀ s ∈ script.body, ∀ b ∈ blocks, s.line < b.path.line ∨ b.last < s.line
  pathsAscend : script.paths.Pairwise fun p q => p.line < q.line
  bodiesAscend : ∀ p ∈ script.paths, p.body.Pairwise fun s t => s.line < t.line
  bodyAscends : script.body.Pairwise fun s t => s.line < t.line

/-- Each place has a line that is of its kind. -/
theorem Place.exists_line {items : List Item} {ls : List (List Char)}
    (h : marked 1 ls = (items.flatMap Item.places).map mark) {q : Place} (hq : q ∈ items.flatMap Item.places) :
    ∃ i l, ls[i]? = some l ∧ q.line = i + 1 ∧ Line.ofText l = q.mark.2 := by
  have hmark : q.mark ∈ marked 1 ls := by
    rw [h]
    exact List.mem_map_of_mem hq
  obtain ⟨-, i, l, hl, hn, hkind⟩ := mem_marked_iff.1 hmark
  exact ⟨i, l, hl, hn.trans (Nat.add_comm _ _), hkind⟩

/-- The place of a statement is the line that it was read from. -/
theorem Statement.ReadFrom.exists_line {s : Statement} {ls : List (List Char)} (h : s.ReadFrom 1 ls) :
    ∃ i l, ls[i]? = some l ∧ s.line = i + 1 ∧ s.text = String.ofList (trim l) ∧
      Statement.ofText s.line (trim l) = .ok s := by
  obtain ⟨hl, ht, hread⟩ := h
  obtain ⟨hline, htext⟩ := of_ofText hread
  obtain rfl := Line.ofText_eq_statement ht
  rw [trim_trim] at htext
  rw [← hline] at hread
  exact ⟨_, _, hl, hline.trans (Nat.add_comm _ _), htext, hread⟩

/-- **Reading a script loses no line and invents none.** Each line that is neither blank nor a comment has
one place in the script, as the header of a path, as the end of one, or as a statement of one or of the
script; and each of these has a line, which spells it. Blocks share no lines, and everything comes in the
order of the text. -/
theorem Script.placed_of_parse {text : String} {script : Script} (h : parse text = .ok script) :
    ∃ blocks, script.Placed text blocks := by
  obtain ⟨items, hmarked, hpaths, hbody⟩ := exists_items h
  have hascending : Ascending items := .of_marked hmarked
  have hplaces {q : Place} : q ∈ items.flatMap Item.places ↔ q.In (items.filterMap Item.block?) script.body := by
    rw [hbody]
    exact Item.mem_places_iff
  have hitem {b : Block} (hb : b ∈ items.filterMap Item.block?) : .block b ∈ items := Item.mem_block?_iff.1 hb
  have hpath {b : Block} (hb : b ∈ items.filterMap Item.block?) : b.path ∈ script.paths :=
    hpaths ▸ List.mem_map_of_mem hb
  have hnamed := wellNamed_of_parse h
  refine ⟨items.filterMap Item.block?, hpaths.symm, fun i l hl hread => ?_, fun q hq => ?_, hnamed, fun b hb => ?_,
    hascending.blocks, fun s hs b hb => ?_, ?_, fun p hp => ?_, ?_⟩
  · simp only [← hplaces]
    exact Ascending.existsUnique_place hmarked hl hread
  · cases hq with
    | @header b hb =>
      obtain ⟨i, l, hl, hn, hkind⟩ := Place.exists_line hmarked (hplaces.2 (.header hb))
      have hname : b.path.name.toList ≠ [] := by
        intro hnil
        have hidentifier := (hnamed _ (hpath hb)).identifier
        rw [hnil] at hidentifier
        cases hidentifier
      exact ⟨i, l, hl, hn, headerName?_spelled (Line.ofText_eq_header_iff.1 hkind) hname⟩
    | close hb =>
      obtain ⟨i, l, hl, hn, hkind⟩ := Place.exists_line hmarked (hplaces.2 (.close hb))
      exact ⟨i, l, hl, hn, Line.ofText_eq_close_iff.1 hkind⟩
    | inner hb hs =>
      have hmem := List.mem_append_left script.body (List.mem_flatMap_of_mem (hpath hb) hs)
      exact (readFrom_of_parse h hmem).exists_line
    | outer hs => exact (readFrom_of_parse h (List.mem_append_right _ hs)).exists_line
  · obtain ⟨hlast, hwithin, -⟩ := hascending.block (hitem hb)
    exact ⟨hlast, hwithin⟩
  · exact hascending.outside (Item.mem_statement?_iff.1 (hbody ▸ hs)) (hitem hb)
  · rw [hpaths, List.pairwise_map]
    refine hascending.blocks.imp_of_mem fun {a b} ha _ hab => ?_
    exact Nat.lt_trans (hascending.block (hitem ha)).1 hab
  · rw [hpaths, List.mem_map] at hp
    obtain ⟨b, hb, rfl⟩ := hp
    exact (hascending.block (hitem hb)).2.2
  · rw [hbody]
    exact hascending.statements

/-- A comment, blank lines, indentation, a line end of two characters, and a block with nothing in it. -/
def outing : String := "# there\npath out\n  ./outE\n\t./inV\n\nend\r\n./out\npath\tback\nend\n\n$x := ./back"

/-- Blank lines and comments have numbers too. -/
theorem Script.placed_of_parse_outing :
    let out : NamedPath := ⟨"out", 2,
      [⟨3, "./outE", none, ⟨.context, none, [⟨.hop .outE, none, "./outE"⟩]⟩⟩,
        ⟨4, "./inV", none, ⟨.context, none, [⟨.hop .inV, none, "./inV"⟩]⟩⟩]⟩
    let script : Script := ⟨[out, ⟨"back", 8, []⟩],
      [⟨7, "./out", none, ⟨.context, none, [⟨.path "out", none, "./out"⟩]⟩⟩,
        ⟨11, "$x := ./back", some "x", ⟨.context, none, [⟨.path "back", none, "./back"⟩]⟩⟩]⟩
    parse outing = .ok script ∧ ∃ blocks, script.Placed outing blocks := by
  intro out script
  have hparse : parse outing = .ok script := by decide +kernel
  exact ⟨hparse, placed_of_parse hparse⟩

end Footpath
