import Footpath.Proofs.Script.Joining

/-! Texts that end in an open block.

`hasOpenBlock` looks at headers and ends alone and takes the last of them for the whole answer, whatever
else the text may hold. Reading a script stops at whatever is wrong. The two agree on every line that
reading gets past (`Draft.isSome_block_of_run`), and an end that is missing is found behind the last line
only, so the check tells where one more `end` makes a script (`Script.parse_open_block`). -/
namespace Footpath
open Text

namespace Draft

variable {d d' : Draft} {line : Nat}

/-! ### What is read agrees with the check -/

theorem isSome_block_of_openBlock {name : List Char} (h : d.openBlock line name = .ok d') :
    d'.block.isSome = true := by
  unfold openBlock at h
  split at h
  · cases h
  · dsimp only at h
    repeat' split at h
    all_goals cases h
    rfl

theorem isSome_block_of_closeBlock (h : d.closeBlock line = .ok d') : d'.block.isSome = false := by
  unfold closeBlock at h
  split at h
  · cases h
  · cases h
    rfl

theorem isSome_block_add (d : Draft) (s : Statement) : (d.add s).block.isSome = d.block.isSome := by
  obtain ⟨script, block⟩ := d
  cases block <;> rfl

/-- Behind a line a block is open if the kind of the line leaves one open. -/
theorem isSome_block_of_next {l : List Char} (h : d.next line l = .ok d') :
    d'.block.isSome = (Line.ofText l).leavesOpen d.block.isSome := by
  unfold next at h
  cases hl : Line.ofText l with
  | blank =>
    rw [hl] at h
    cases h
    rfl
  | close =>
    rw [hl] at h
    exact isSome_block_of_closeBlock h
  | header name =>
    rw [hl] at h
    exact isSome_block_of_openBlock h
  | statement t =>
    rw [hl] at h
    dsimp only at h
    split at h
    · cases h
    · cases h
      exact isSome_block_add d _

theorem isSome_block_of_run {ls : List (List Char)} (h : d.run line ls = .ok d') :
    d'.block.isSome = ls.foldl (fun isOpen s => (Line.ofText s).leavesOpen isOpen) d.block.isSome := by
  induction ls generalizing d line with
  | nil =>
    cases h
    rfl
  | cons l ls ih =>
    rw [run] at h
    split at h
    · cases h
    · rename_i hnext
      rw [List.foldl_cons, ← isSome_block_of_next hnext]
      exact ih h

/-! ### Where an end is missed -/

theorem next_ne_missingEnd {l : List Char} (n : Nat) (name : String) :
    d.next line l ≠ .error (scriptError n (.missingEnd name)) := by
  intro h
  unfold next at h
  split at h
  · cases h
  · unfold closeBlock at h
    split at h <;> cases h
  · unfold openBlock at h
    split at h
    · cases h
    · dsimp only at h
      repeat' split at h
      all_goals cases h
  · split at h <;> cases h

/-- No line is refused for want of an end, so it is what finds the block open that tells of it. -/
theorem run_ne_missingEnd {ls : List (List Char)} (n : Nat) (name : String) :
    d.run line ls ≠ .error (scriptError n (.missingEnd name)) := by
  induction ls generalizing d line with
  | nil => exact fun h => by cases h
  | cons l ls ih =>
    rw [run]
    split
    · rename_i e hnext
      rintro ⟨⟩
      exact next_ne_missingEnd n name hnext
    · exact ih

end Draft

namespace Script

/-! ### The check -/

theorem hasOpenBlock_of_run {t : String} {d : Draft} (h : Draft.empty.run 1 (lines t.toList) = .ok d) :
    hasOpenBlock t = d.block.isSome :=
  (Draft.isSome_block_of_run h).symm

/-- An end closes whatever is open. -/
theorem hasOpenBlock_joined_end (t : String) : hasOpenBlock (t ++ "\n" ++ "end") = false := by
  rw [hasOpenBlock, lines_joined, List.foldl_append]
  rfl

/-- A block that stands open behind a text is closed by an end on a line of its own. -/
theorem parse_joined_end {t : String} {s : Script} {p : NamedPath}
    (h : Draft.empty.run 1 (lines t.toList) = .ok ⟨s, some p⟩) :
    parse (t ++ "\n" ++ "end") = .ok { s with paths := s.paths ++ [p] } := by
  rw [parse_joined_eq, h]
  rfl

/-- **The check for an open block agrees with the reading of scripts.** A script has no open block. A
text that lacks the end of a path has one, and an `end` below makes a script of it, the last path of
which is the one that lacked its end. A text with an open block is no script, and an `end` below closes
the block. -/
theorem parse_open_block (t : String) :
    (∀ s, parse t = .ok s → hasOpenBlock t = false) ∧
      (∀ line name, parse t = .error (Draft.scriptError line (.missingEnd name)) →
        hasOpenBlock t = true ∧ ∃ s p, parse (t ++ "\n" ++ "end") = .ok s ∧
          s.paths.getLast? = some p ∧ p.name = name ∧ p.line = line) ∧
      (hasOpenBlock t = true → (∃ e, parse t = .error e) ∧ hasOpenBlock (t ++ "\n" ++ "end") = false) := by
  rw [parse_eq]
  cases hrun : Draft.empty.run 1 (lines t.toList) with
  | error e =>
    refine ⟨fun s h => (by cases h), fun line name h => ?_, fun _ => ⟨⟨e, rfl⟩, hasOpenBlock_joined_end t⟩⟩
    cases h
    exact absurd hrun (Draft.run_ne_missingEnd line name)
  | ok d =>
    obtain ⟨s, block⟩ := d
    have hopen := hasOpenBlock_of_run hrun
    cases block with
    | none =>
      refine ⟨fun _ _ => hopen, fun line name h => (by cases h), fun h => ?_⟩
      exact absurd (hopen.symm.trans h) Bool.false_ne_true
    | some p =>
      refine ⟨fun s h => (by cases h), fun line name h => ?_, fun _ => ⟨⟨_, rfl⟩, hasOpenBlock_joined_end t⟩⟩
      cases h
      exact ⟨hopen, _, p, parse_joined_end hrun, List.getLast?_concat, rfl, rfl⟩

/-- A text that waits for its end, once a block has been opened and closed in it. -/
example : hasOpenBlock "path a\n./outE\nend\n# note\npath b" = true := by decide +kernel

end Script

end Footpath
