import Footpath.Listing
import Footpath.Proofs.Script.Items
import Footpath.Proofs.Script.Layout
import Footpath.Proofs.Script.OpenBlocks

/-! Inputs on which a console waits for more lines.

Whether a block is open is told from the input as it was typed. What is read as a script is the input without
the suffix that asks for the vertical mode, and without the blanks around it. Blanks around a text make no
difference to its lines (`linesOf_trim`), and the suffix makes none to whether a line opens a block, but with
the suffix on it a line does not end one (`Line.leavesOpen_suffixed`). So of the inputs that would be accepted
those are waited on whose suffix stands on the line of an end (`hasOpenBlock_iff_of_accepted`). -/
namespace Footpath
open Text Token

/-! ### Blanks around a text -/

theorem Line.ofText_eq_of_trim_eq {l l' : List Char} (h : trim l = trim l') : ofText l = ofText l' := by
  rw [ofText, h]
  rfl

theorem linesOf_cons {c : Char} (h : isBlank c = true) (s : List Char) :
    linesOf (String.ofList (c :: s)) = linesOf (String.ofList s) := by
  simp only [linesOf, String.toList_ofList, lines, stretches]
  split
  · rfl
  · cases hs : stretches (· == '\n') s with
    | nil => exact absurd hs (stretches_ne_nil _ s)
    | cons w ws =>
      show ((Line.ofText (c :: w) :: ws.map Line.ofText).filter _) = ((Line.ofText w :: ws.map Line.ofText).filter _)
      rw [Line.ofText_eq_of_trim_eq (trim_cons h w)]

theorem linesOf_concat {c : Char} (h : isBlank c = true) (s : List Char) :
    linesOf (String.ofList (s ++ [c])) = linesOf (String.ofList s) := by
  simp only [linesOf, String.toList_ofList, lines]
  by_cases hc : c = '\n'
  · rw [stretches_append _ s [] (by rw [hc]; rfl), List.map_append, List.filter_append]
    exact List.append_nil _
  · obtain ⟨ws, w, hs, hsc⟩ := stretches_append_unmarked (p := (· == '\n')) s (t := [c]) (by simp [hc])
    rw [hs, hsc, List.map_append, List.map_append, List.map_singleton, List.map_singleton,
      Line.ofText_eq_of_trim_eq (trim_concat h w)]

/-- Blanks around a text make no difference to its lines. -/
theorem linesOf_trim (s : List Char) : linesOf (String.ofList (trim s)) = linesOf (String.ofList s) := by
  have hfront : ∀ s, linesOf (String.ofList (skipBlank s)) = linesOf (String.ofList s) := by
    intro s
    induction s with
    | nil => rfl
    | cons c s ih =>
      by_cases hc : isBlank c = true
      · rw [linesOf_cons hc, ← ih, skipBlank, List.dropWhile_cons_of_pos hc]
        rfl
      · rw [skipBlank, List.dropWhile_cons_of_neg hc]
  have hback : ∀ r, linesOf (String.ofList (skipBlank r).reverse) = linesOf (String.ofList r.reverse) := by
    intro r
    induction r with
    | nil => rfl
    | cons c r ih =>
      by_cases hc : isBlank c = true
      · rw [List.reverse_cons, linesOf_concat hc, ← ih, skipBlank, List.dropWhile_cons_of_pos hc]
        rfl
      · rw [skipBlank, List.dropWhile_cons_of_neg hc]
  rw [trim, dropBlankEnd, hback, List.reverse_reverse, hfront]

/-! ### Open blocks -/

/-- Whether a block is open behind some lines, if one is before them when `isOpen`. -/
def openBehind (isOpen : Bool) (ls : List Line) : Bool := ls.foldl (fun isOpen l => l.leavesOpen isOpen) isOpen

theorem hasOpenBlock_eq (text : String) :
    hasOpenBlock text = openBehind false ((lines text.toList).map Line.ofText) := by
  rw [openBehind, List.foldl_map]
  rfl

/-- Blank lines open nothing and end nothing. -/
theorem openBehind_filter (isOpen : Bool) (ls : List Line) :
    openBehind isOpen (ls.filter (· ≠ .blank)) = openBehind isOpen ls := by
  induction ls generalizing isOpen with
  | nil => rfl
  | cons l ls ih =>
    by_cases hl : l = .blank
    · rw [hl, List.filter_cons_of_neg (by decide)]
      exact ih isOpen
    · rw [List.filter_cons_of_pos (by simpa using hl)]
      exact ih _

theorem hasOpenBlock_trim (s : List Char) :
    hasOpenBlock (String.ofList (trim s)) = hasOpenBlock (String.ofList s) := by
  have hlines : ∀ text, hasOpenBlock text = openBehind false (linesOf text) := by
    intro text
    rw [linesOf, openBehind_filter, hasOpenBlock_eq]
  rw [hlines, hlines, linesOf_trim]

namespace Draft

variable {d d' : Draft}

theorem isSome_block_of_read {l : Line} (h : d.read l = some d') :
    d'.block.isSome = l.leavesOpen d.block.isSome := by
  have of_toOption : ∀ {r : Except Error Draft}, r.toOption = some d' → r = .ok d' := by
    intro r hr
    cases r with
    | error e => cases hr
    | ok d => exact congrArg Except.ok (Option.some.inj hr)
  cases l with
  | blank =>
    cases h
    rfl
  | close => exact isSome_block_of_closeBlock (of_toOption h)
  | header name => exact isSome_block_of_openBlock (of_toOption h)
  | statement t =>
    obtain ⟨s, -, rfl⟩ := Option.map_eq_some_iff.1 h
    exact isSome_block_add d s

theorem isSome_block_of_reads {ls : List Line} (h : ls.foldlM read d = some d') :
    d'.block.isSome = openBehind d.block.isSome ls := by
  induction ls generalizing d with
  | nil =>
    cases h
    rfl
  | cons l ls ih =>
    rw [List.foldlM_cons] at h
    obtain ⟨e, he, hrest⟩ := Option.bind_eq_some_iff.1 h
    rw [ih hrest, isSome_block_of_read he]
    rfl

/-- An end stands where a block is open. -/
theorem isSome_block_of_read_close (h : d.read .close = some d') : d.block.isSome = true := by
  obtain ⟨script, block⟩ := d
  cases block with
  | none => cases h
  | some p => rfl

end Draft

/-- The last line of a script is no header, and a block is open in front of it exactly if it is an end. -/
theorem Script.last_line {s : List Char} {script : Script} (h : parse (String.ofList (trim s)) = .ok script)
    {ws : List (List Char)} {w : List Char} (hlines : lines s = ws ++ [w]) :
    (∀ name, Line.ofText w ≠ .header name) ∧
      (openBehind false (ws.map Line.ofText) = true ↔ Line.ofText w = .close) := by
  obtain ⟨d, hread, hclosed⟩ := exists_read h
  rw [linesOf_trim, linesOf, Draft.foldlM_read_filter, String.toList_ofList, hlines, List.map_append,
    List.foldlM_append] at hread
  obtain ⟨e, hbefore, hlast⟩ := Option.bind_eq_some_iff.1 hread
  have hread : e.read (Line.ofText w) = some d := by simpa using hlast
  have hopen : openBehind false (ws.map Line.ofText) = e.block.isSome := (Draft.isSome_block_of_reads hbefore).symm
  have hafter := Draft.isSome_block_of_read hread
  rw [hclosed, ← hopen] at hafter
  cases hw : Line.ofText w with
  | header name =>
    rw [hw] at hafter
    cases hafter
  | close =>
    rw [hw] at hread
    rw [hopen]
    exact ⟨fun _ => Line.noConfusion, iff_of_true (Draft.isSome_block_of_read_close hread) rfl⟩
  | blank | statement t =>
    -- Such a line leaves a block open if one was open in front of it.
    rw [hw] at hafter
    exact ⟨fun _ => Line.noConfusion, iff_of_false (fun he => Bool.false_ne_true (hafter.trans he)) Line.noConfusion⟩

/-! ### The suffix -/

/-- The characters in front of the first blank. -/
def leadingWord (s : List Char) : List Char := s.takeWhile fun c => !isBlank c

theorem leadingWord_of_blank {b : List Char} (hb : ∀ c ∈ b, isBlank c = true) : leadingWord b = [] := by
  cases b with
  | nil => rfl
  | cons c b => exact List.takeWhile_cons_of_neg (by simp [hb c List.mem_cons_self])

theorem leadingWord_dropBlankEnd (s : List Char) : leadingWord (dropBlankEnd s) = leadingWord s := by
  have hsplit : s = dropBlankEnd s ++ (s.reverse.takeWhile isBlank).reverse := by
    rw [dropBlankEnd, skipBlank, ← List.reverse_append, List.takeWhile_append_dropWhile, List.reverse_reverse]
  have hblank : leadingWord (s.reverse.takeWhile isBlank).reverse = [] := by
    refine leadingWord_of_blank fun c hc => ?_
    exact List.all_eq_true.1 List.all_takeWhile c (List.mem_reverse.1 hc)
  conv_rhs => rw [hsplit, leadingWord, List.takeWhile_append]
  split
  · rename_i hwhole
    rw [leadingWord] at hblank
    rw [hblank, List.append_nil, leadingWord]
    exact (List.takeWhile_prefix _).eq_of_length hwhole
  · rfl

/-- A header is a line whose first word is `path`. -/
theorem isSome_headerName?_iff (s : List Char) :
    (headerName? s).isSome = true ↔ leadingWord s = ['p', 'a', 't', 'h'] := by
  have hword : ∀ r, leadingWord (['p', 'a', 't', 'h'] ++ r) = ['p', 'a', 't', 'h'] ++ leadingWord r :=
    fun r => List.takeWhile_append_of_pos (List.all_eq_true.1 rfl)
  unfold headerName?
  split
  · rename_i hstrip
    refine iff_of_false Bool.false_ne_true fun hpath => ?_
    have hs : s = ['p', 'a', 't', 'h'] ++ s.dropWhile fun c => !isBlank c := by
      rw [← hpath]
      exact List.takeWhile_append_dropWhile.symm
    rw [strip?_eq_some_iff.2 hs] at hstrip
    cases hstrip
  · rename_i hstrip
    rw [strip?_eq_some_iff.1 hstrip]
    exact iff_of_true rfl rfl
  · rename_i c r hstrip
    rw [strip?_eq_some_iff.1 hstrip, hword]
    by_cases hc : isBlank c = true
    · rw [if_pos hc, leadingWord, List.takeWhile_cons_of_neg (by simp [hc])]
      exact iff_of_true rfl rfl
    · rw [if_neg hc, leadingWord, List.takeWhile_cons_of_pos (by simp [hc])]
      exact iff_of_false Bool.false_ne_true (by simp)

namespace Line

variable {l : List Char} {g : Char}

theorem trim_suffixed (hg : g = 'G' ∨ g = 'g') (l : List Char) :
    trim (l ++ ['\\', g]) = skipBlank l ++ ['\\', g] := by
  have hskip : skipBlank (l ++ ['\\', g]) = skipBlank l ++ ['\\', g] := by
    rw [skipBlank, List.dropWhile_append]
    split
    · rename_i hblank
      rw [skipBlank, List.isEmpty_iff.1 hblank]
      rfl
    · rfl
  have hend : ∀ c, (skipBlank l ++ ['\\', g]).getLast? = some c → isBlank c = false := by
    intro c hc
    rw [List.getLast?_append] at hc
    cases hc
    rcases hg with rfl | rfl <;> decide
  rw [trim, hskip, dropBlankEnd_eq_self hend]

/-- With the suffix on it a line is no end, and it is a header only if it is one without it. -/
theorem leavesOpen_suffixed (hg : g = 'G' ∨ g = 'g') (hl : ∀ name, ofText l ≠ .header name) (isOpen : Bool) :
    (ofText (l ++ ['\\', g])).leavesOpen isOpen = isOpen := by
  have hlast : ∀ s c, s ++ ['\\', g] = c → c.getLast? = some g := by
    rintro s c rfl
    exact List.getLast?_append
  cases hk : ofText (l ++ ['\\', g]) with
  | blank => rfl
  | statement t => rfl
  | close =>
    rw [ofText_eq_close_iff, trim_suffixed hg] at hk
    have hd := hlast _ _ hk
    cases hd
    rcases hg with h | h <;> exact absurd h (by decide)
  | header name =>
    have hword : leadingWord (skipBlank l ++ ['\\', g]) = ['p', 'a', 't', 'h'] := by
      rw [← isSome_headerName?_iff, ← trim_suffixed hg, ofText_eq_header_iff.1 hk]
      rfl
    rw [leadingWord, List.takeWhile_append] at hword
    split at hword
    · -- The suffix would be a part of the word.
      have hsuffix : leadingWord ['\\', g] = ['\\', g] := by rcases hg with rfl | rfl <;> rfl
      rw [leadingWord] at hsuffix
      rw [hsuffix] at hword
      have hh := hlast _ _ hword
      cases hh
      rcases hg with h | h <;> exact absurd h (by decide)
    · have hheader : (headerName? (trim l)).isSome = true := by
        rw [isSome_headerName?_iff, trim, leadingWord_dropBlankEnd]
        exact hword
      obtain ⟨name, hname⟩ := Option.isSome_iff_exists.1 hheader
      exact absurd (ofText_eq_header_iff.2 hname) (hl name)

end Line

/-! ### Inputs -/

/-- The input ends in the suffix, and without it the last line is the end of a block. -/
def EndsSuffixed (input : String) : Prop :=
  ∃ text g l, trim input.toList = text ++ ['\\', g] ∧ (g = 'G' ∨ g = 'g') ∧
    (lines text).getLast? = some l ∧ trim l = ['e', 'n', 'd']

/-- A script without a suffix is accepted as it is typed. -/
theorem hasOpenBlock_of_plain {s : List Char} {script : Script}
    (h : Script.parse (String.ofList (trim s)) = .ok script) : hasOpenBlock (String.ofList s) = false := by
  obtain ⟨d, hread, hclosed⟩ := Script.exists_read h
  have hopen := Draft.isSome_block_of_reads hread
  rw [hclosed, linesOf, openBehind_filter] at hopen
  rw [← hasOpenBlock_trim, hasOpenBlock_eq]
  exact hopen.symm

/-- With a suffix on it a script is waited on if its last line is an end. -/
theorem hasOpenBlock_suffixed {s l : List Char} {g : Char} (hg : g = 'G' ∨ g = 'g') {script : Script}
    (h : Script.parse (String.ofList (trim s)) = .ok script) (hl : (lines s).getLast? = some l) :
    hasOpenBlock (String.ofList (s ++ ['\\', g])) = true ↔ trim l = ['e', 'n', 'd'] := by
  obtain ⟨ws, w, hlines, hsuffixed⟩ := stretches_append_unmarked (p := (· == '\n')) s (t := ['\\', g])
    (by rcases hg with rfl | rfl <;> simp)
  rw [lines, hlines, List.getLast?_concat] at hl
  cases hl
  obtain ⟨hheader, hclose⟩ := Script.last_line h hlines
  have hopen : hasOpenBlock (String.ofList (s ++ ['\\', g])) = openBehind false (ws.map Line.ofText) := by
    rw [hasOpenBlock_eq, String.toList_ofList, lines, hsuffixed, List.map_append, openBehind, List.foldl_append]
    exact Line.leavesOpen_suffixed hg hheader _
  rw [hopen, hclose, Line.ofText_eq_close_iff]

/-- **An accepted input is waited on for the suffix on its last end alone.** Let the script of an input be
accepted. Then a block is open in the input as it was typed exactly if the suffix stands on the line of an
end. -/
theorem hasOpenBlock_iff_of_accepted {input : String} {script : Script}
    (h : Script.parse (splitVertical input).1 = .ok script) : hasOpenBlock input = true ↔ EndsSuffixed input := by
  have htyped : hasOpenBlock input = hasOpenBlock (String.ofList (trim input.toList)) := by
    rw [hasOpenBlock_trim, String.ofList_toList]
  rw [htyped]
  rcases splitVertical_cases input with ⟨text, g, htext, hg, hscript⟩ | ⟨hplain, hscript⟩
  · rw [hscript] at h
    rw [htext]
    constructor
    · intro hopen
      obtain ⟨l, hl⟩ := Option.isSome_iff_exists.1 (List.getLast?_isSome.2 (stretches_ne_nil (· == '\n') text))
      exact ⟨text, g, l, htext, hg, hl, (hasOpenBlock_suffixed hg h hl).1 hopen⟩
    · rintro ⟨text', g', l, htext', -, hl, hend⟩
      have hsame := List.append_inj_left' (htext.symm.trans htext') rfl
      rw [← hsame] at hl
      exact (hasOpenBlock_suffixed hg h hl).2 hend
  · rw [hscript, ← trim_trim] at h
    rw [hasOpenBlock_of_plain h]
    refine iff_of_false Bool.false_ne_true ?_
    rintro ⟨text, g, l, htext, hg, -⟩
    exact hplain text g htext hg

/-- The same script with the suffix on a statement below its block, and with the suffix on its last end. -/
theorem hasOpenBlock_iff_of_accepted_suffixed :
    let out : NamedPath := ⟨"out", 1, [⟨2, "./outE", none, ⟨.context, none, [⟨.hop .outE, none, "./outE"⟩]⟩⟩]⟩
    Script.parse (splitVertical "path out\n./outE\nend\n./outV \\G\n").1 =
        .ok ⟨[out], [⟨4, "./outV", none, ⟨.context, none, [⟨.hop .outV, none, "./outV"⟩]⟩⟩]⟩ ∧
      ¬ EndsSuffixed "path out\n./outE\nend\n./outV \\G\n" ∧
      Script.parse (splitVertical "path out\n./outE\nend \\g").1 = .ok ⟨[out], []⟩ ∧
      EndsSuffixed "path out\n./outE\nend \\g" := by
  intro out
  have hbelow : Script.parse (splitVertical "path out\n./outE\nend\n./outV \\G\n").1 =
      .ok ⟨[out], [⟨4, "./outV", none, ⟨.context, none, [⟨.hop .outV, none, "./outV"⟩]⟩⟩]⟩ := by decide +kernel
  have hend : Script.parse (splitVertical "path out\n./outE\nend \\g").1 = .ok ⟨[out], []⟩ := by decide +kernel
  refine ⟨hbelow, fun h => ?_, hend, ?_⟩
  · exact absurd ((hasOpenBlock_iff_of_accepted hbelow).2 h) (by decide +kernel)
  · exact (hasOpenBlock_iff_of_accepted hend).1 (by decide +kernel)

/-- A script that would be accepted, and is waited on. -/
theorem suffixed_end_waits :
    Script.parse (splitVertical "path out\nend\\G").1 = .ok ⟨[⟨"out", 1, []⟩], []⟩ ∧
      hasOpenBlock "path out\nend\\G" = true := by
  decide +kernel

end Footpath
