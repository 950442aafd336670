import Footpath.Proofs.Script.Errors

/-! Where the statements of a script come from.

Reading a line adds at most the statement that the line spells (`Draft.mem_statements_of_next`), so every
statement of a script was read from one of its lines, whose number it has. What is kept of that line is the
text without the blanks around it, and this text spells the same statement wherever it is set on a line of its
own (`Script.spelled_of_parse`). -/
namespace Footpath
open Text

/-! ### Statements read so far -/

/-- The statements in the blocks of a script, and its own. -/
def Script.statements (s : Script) : List Statement := s.paths.flatMap NamedPath.body ++ s.body

namespace Draft

/-- The statements so far, those of the open block included. -/
def statements (d : Draft) : List Statement := d.script.statements ++ d.block.toList.flatMap NamedPath.body

variable {d d' : Draft} {line : Nat} {s : Statement}

theorem statements_openBlock {name : List Char} (h : d.openBlock line name = .ok d') :
    d'.statements = d.statements := by
  obtain ⟨script, block⟩ := d
  unfold openBlock at h
  cases block with
  | some outer => cases h
  | none =>
    dsimp only at h
    repeat' split at h
    all_goals cases h
    rfl

theorem mem_statements_closeBlock (h : d.closeBlock line = .ok d') (hs : s ∈ d'.statements) :
    s ∈ d.statements := by
  obtain ⟨script, block⟩ := d
  cases block with
  | none => cases h
  | some p =>
    cases h
    simp only [statements, Script.statements, List.flatMap_append, List.mem_append, List.flatMap_singleton,
      Option.toList_none, Option.toList_some, List.flatMap_nil, List.not_mem_nil, or_false] at hs ⊢
    exact or_right_comm.1 hs

theorem mem_statements_add {t : Statement} (hs : s ∈ (d.add t).statements) : s ∈ d.statements ∨ s = t := by
  obtain ⟨script, block⟩ := d
  cases block with
  | none =>
    simp only [add, statements, Script.statements, List.mem_append, List.mem_singleton, Option.toList_none,
      List.flatMap_nil, List.not_mem_nil, or_false] at hs ⊢
    exact or_assoc.2 hs
  | some p =>
    simp only [add, statements, Option.toList_some, List.flatMap_singleton, List.mem_append,
      List.mem_singleton] at hs ⊢
    exact or_assoc.2 hs

/-- A line adds the statement that it spells, if it spells one, and nothing else. -/
theorem mem_statements_of_next {l : List Char} (h : d.next line l = .ok d') (hs : s ∈ d'.statements) :
    s ∈ d.statements ∨ ∃ t, Line.ofText l = .statement t ∧ Statement.ofText line t = .ok s := by
  unfold next at h
  split at h
  · cases h
    exact .inl hs
  · exact .inl (mem_statements_closeBlock h hs)
  · rw [statements_openBlock h] at hs
    exact .inl hs
  · rename_i t ht
    split at h
    · cases h
    · rename_i statement hread
      cases h
      refine (mem_statements_add hs).imp_right ?_
      rintro rfl
      exact ⟨t, ht, hread⟩

end Draft

/-- The statement stands on one of some lines, the first of which has the number `line`. -/
inductive Statement.ReadFrom (line : Nat) (ls : List (List Char)) (s : Statement) : Prop where
  | intro {i : Nat} {l t : List Char} (hl : ls[i]? = some l) (ht : Line.ofText l = .statement t)
      (hread : Statement.ofText (line + i) t = .ok s)

theorem Statement.ReadFrom.cons {line : Nat} {ls : List (List Char)} {s : Statement}
    (h : s.ReadFrom (line + 1) ls) (l : List Char) : s.ReadFrom line (l :: ls) := by
  obtain ⟨hl, ht, hread⟩ := h
  rw [Nat.add_assoc, Nat.add_comm 1] at hread
  exact ⟨hl, ht, hread⟩

theorem Draft.mem_statements_of_run {d d' : Draft} {line : Nat} {ls : List (List Char)} {s : Statement}
    (h : d.run line ls = .ok d') (hs : s ∈ d'.statements) : s ∈ d.statements ∨ s.ReadFrom line ls := by
  induction ls generalizing d line with
  | nil =>
    cases h
    exact .inl hs
  | cons l ls ih =>
    rw [run] at h
    split at h
    · cases h
    · rename_i hnext
      rcases ih h with hmem | hread
      · refine (mem_statements_of_next hnext hmem).imp_right ?_
        rintro ⟨t, ht, hread⟩
        exact ⟨(rfl : (l :: ls)[0]? = some l), ht, hread⟩
      · exact .inr (hread.cons l)

/-- Every statement of a script stands on one of its lines. -/
theorem Script.readFrom_of_parse {text : String} {script : Script} (h : parse text = .ok script)
    {s : Statement} (hs : s ∈ script.statements) : s.ReadFrom 1 (lines text.toList) := by
  unfold parse at h
  split at h
  · cases h
  · rename_i d hrun
    unfold Draft.finish at h
    split at h
    · cases h
    · cases h
      exact (Draft.mem_statements_of_run hrun (List.mem_append_left _ hs)).resolve_left List.not_mem_nil

/-! ### Texts of statements -/

/-- The text of a statement is a line that spells it. -/
structure Statement.Spelled (s : Statement) : Prop where
  oneLine : '\n' ∉ s.text.toList
  line : Line.ofText s.text.toList = .statement s.text.toList
  read : Statement.ofText s.line s.text.toList = .ok s

theorem Statement.of_ofText {line : Nat} {t : List Char} {s : Statement} (h : ofText line t = .ok s) :
    s.line = line ∧ s.text = String.ofList (trim t) := by
  unfold ofText at h
  split at h
  · cases h
  · split at h
    · cases h
    · split at h
      · cases h
        exact ⟨rfl, rfl⟩
      · cases h

/-- The kind of a line is that of its text without the blanks around it. -/
theorem Line.ofText_trim (l : List Char) : ofText (trim l) = ofText l := by
  unfold ofText
  rw [trim_trim]

theorem Statement.ReadFrom.spelled {line : Nat} {text : List Char} {s : Statement}
    (h : s.ReadFrom line (lines text)) : s.Spelled := by
  obtain ⟨hl, ht, hread⟩ := h
  obtain rfl := Line.ofText_eq_statement ht
  obtain ⟨hline, htext⟩ := of_ofText hread
  rw [trim_trim] at htext
  have hlist := (congrArg String.toList htext).trans String.toList_ofList
  refine ⟨fun hnewline => ?_, ?_, ?_⟩
  · rw [hlist] at hnewline
    cases not_marked_of_mem_stretches (List.mem_of_getElem? hl) (mem_of_mem_trim hnewline)
  · rw [hlist, Line.ofText_trim]
    exact ht
  · rw [hline, hlist]
    exact hread

/-- A statement of a script can be read again from its text. -/
theorem Script.spelled_of_parse {text : String} {script : Script} (h : parse text = .ok script)
    {s : Statement} (hs : s ∈ script.statements) : s.Spelled :=
  (readFrom_of_parse h hs).spelled

end Footpath
