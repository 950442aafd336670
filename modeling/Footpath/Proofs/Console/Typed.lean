import Footpath.Proofs.Console.Inputs
import Mathlib.Data.List.Forall2

/-! Inputs as they are typed.

A command is a colon, a name in either case and, behind a space, an argument (`Command.Named`). Any other input
is a script, and the suffix `\G` or `\g` on it asks for the vertical mode and is no part of it. Each input is
typed as one kind of input only, the one that a console takes it for (`Input.typed_iff`). -/
namespace Footpath
open Text

/-! ### Commands -/

namespace Command

/-- The command of a name with an argument. -/
inductive Named : String → List Char → Command → Prop where
  | help {name : String} {a : List Char} (h : name ∈ ["help", "h"]) : Named name a .help
  | quit {name : String} {a : List Char} (h : name ∈ ["quit", "q", "exit"]) : Named name a .quit
  | vars {a : List Char} : Named "vars" a .vars
  | paths {a : List Char} : Named "paths" a .paths
  | stats {a : List Char} : Named "stats" a .stats
  | format {a : List Char} : Named "format" a (.format (String.ofList a))
  | reset {a : List Char} : Named "reset" a .reset
  | tee {a : List Char} (h : (Text.words a).head? ≠ some ['-', 'o']) :
      Named "tee" a (.tee false ((Text.words a).head?.map String.ofList))
  | teeAfresh {a : List Char} {ws : List (List Char)} (h : Text.words a = ['-', 'o'] :: ws) :
      Named "tee" a (.tee true (ws.head?.map String.ofList))
  | notee {a : List Char} : Named "notee" a .notee
  | clear {a : List Char} : Named "clear" a .clear
  | unknown {name : String} {a : List Char}
      (h : name ∉ ["help", "h", "quit", "q", "exit", "vars", "paths", "stats", "format", "reset", "tee", "notee",
        "clear"]) : Named name a (.unknown name)

theorem named_ofParts (name : String) (a : List Char) : Named name a (ofParts name a) := by
  unfold ofParts
  split
  case h_1 | h_2 => exact .help (by decide)
  case h_3 | h_4 | h_5 => exact .quit (by decide)
  case h_6 => exact .vars
  case h_7 => exact .paths
  case h_8 => exact .stats
  case h_9 => exact .format
  case h_10 => exact .reset
  case h_11 =>
    unfold ofTeeWords
    split
    · rename_i ws hws
      exact .teeAfresh hws
    · rename_i hflag
      refine .tee fun hhead => ?_
      obtain ⟨ws, hws⟩ := List.head?_eq_some_iff.1 hhead
      exact hflag ws hws
  case h_12 => exact .notee
  case h_13 => exact .clear
  case h_14 => exact .unknown (by simp_all)

theorem Named.eq_ofParts {name : String} {a : List Char} {k : Command} (h : Named name a k) : k = ofParts name a := by
  cases h with
  | help h =>
    simp only [List.mem_cons, List.not_mem_nil, or_false] at h
    rcases h with rfl | rfl <;> rfl
  | quit h =>
    simp only [List.mem_cons, List.not_mem_nil, or_false] at h
    rcases h with rfl | rfl | rfl <;> rfl
  | tee h =>
    show _ = ofTeeWords (Text.words a)
    unfold ofTeeWords
    split
    · rename_i ws hws
      rw [hws] at h
      exact absurd rfl h
    · rfl
  | teeAfresh h =>
    show _ = ofTeeWords (Text.words a)
    rw [h]
    rfl
  | unknown h =>
    simp only [List.mem_cons, List.not_mem_nil, or_false, not_or] at h
    unfold ofParts
    split <;> simp_all
  | _ => rfl

/-- The name and the argument of a command: what stands behind the colon up to the first space, in small letters,
and what stands behind that, without the blanks around it. -/
inductive Parts : List Char → String → List Char → Prop where
  | bare {word : List Char} (h : ' ' ∉ word) : Parts (':' :: word) (String.ofList (lowercase word)) []
  | spaced {word a : List Char} (h : ' ' ∉ word) :
      Parts (':' :: (word ++ ' ' :: a)) (String.ofList (lowercase word)) (trim a)

theorem parts_cons (r : List Char) :
    Parts (':' :: r) (String.ofList (lowercase (r.takeWhile fun c => c ≠ ' ')))
      (trim ((r.dropWhile fun c => c ≠ ' ').drop 1)) := by
  have hword : ' ' ∉ r.takeWhile fun c => c ≠ ' ' := by
    intro hmem
    have hne := List.all_eq_true.1 List.all_takeWhile ' ' hmem
    exact absurd hne (by decide)
  have hr : r = (r.takeWhile fun c => c ≠ ' ') ++ r.dropWhile fun c => c ≠ ' ' := List.takeWhile_append_dropWhile.symm
  have hhead := List.head?_dropWhile_not (fun c => decide (c ≠ ' ')) r
  cases hrest : r.dropWhile fun c => c ≠ ' ' with
  | nil =>
    rw [hrest, List.append_nil] at hr
    rw [← hr] at hword ⊢
    exact .bare hword
  | cons c a =>
    rw [hrest] at hhead
    obtain rfl : c = ' ' := by simpa using hhead
    rw [hrest] at hr
    conv => arg 1; rw [hr]
    exact .spaced hword

/-- A command is read from its parts. -/
theorem Parts.ofText_eq {s a : List Char} {name : String} (h : Parts s name a) (htrim : trim s = s) :
    ofText (String.ofList s) = ofParts name a := by
  have hstops {word : List Char} (hword : ' ' ∉ word) : ∀ c ∈ word, decide (c ≠ ' ') = true :=
    fun c hc => decide_eq_true fun hspace => hword (hspace ▸ hc)
  rw [ofText, String.toList_ofList, htrim]
  cases h with
  | @bare word h =>
    show ofParts (String.ofList (lowercase (word.takeWhile _))) (trim ((word.dropWhile _).drop 1)) = _
    rw [← List.append_nil word, List.takeWhile_append_of_pos (hstops h), List.dropWhile_append_of_pos (hstops h),
      List.takeWhile_nil]
    rfl
  | @spaced word a h =>
    show ofParts (String.ofList (lowercase ((word ++ ' ' :: a).takeWhile _)))
      (trim (((word ++ ' ' :: a).dropWhile _).drop 1)) = _
    rw [List.takeWhile_append_of_pos (hstops h), List.dropWhile_append_of_pos (hstops h),
      List.takeWhile_cons_of_neg (by decide), List.dropWhile_cons_of_neg (by decide), List.append_nil]
    rfl

theorem Parts.head? {s a : List Char} {name : String} (h : Parts s name a) : s.head? = some ':' := by
  cases h <;> rfl

end Command

/-! ### Inputs -/

namespace Input

/-- What an input is, blanks around it left out. -/
inductive Typed : List Char → Input → Prop where
  | blank {input : List Char} (h : trim input = []) : Typed input .blank
  | command {input a : List Char} {name : String} {k : Command} (h : Command.Parts (trim input) name a)
      (hk : Command.Named name a k) : Typed input (.command k)
  | plain {input : List Char} (hne : trim input ≠ []) (hcolon : (trim input).head? ≠ some ':')
      (h : ∀ text g, trim input = text ++ ['\\', g] → ¬ (g = 'G' ∨ g = 'g')) :
      Typed input (.script (String.ofList (trim input)) false)
  | suffixed {input text : List Char} {g : Char} (h : trim input = text ++ ['\\', g]) (hg : g = 'G' ∨ g = 'g')
      (hcolon : (trim input).head? ≠ some ':') : Typed input (.script (String.ofList (trim text)) true)

theorem isCommand_trim (input : List Char) :
    isCommand (String.ofList (trim input)) = true ↔ (trim input).head? = some ':' := by
  rw [isCommand, String.toList_ofList, trim_trim, beq_iff_eq]

theorem typed_ofText (input : List Char) : Typed input (ofText input) := by
  simp only [ofText]
  split
  · exact .blank (List.isEmpty_iff.1 ‹_›)
  · rename_i hne
    split
    · rename_i hcolon
      obtain ⟨r, hr⟩ := List.head?_eq_some_iff.1 ((isCommand_trim input).1 hcolon)
      have hparts := Command.parts_cons r
      rw [← hr] at hparts
      rw [hparts.ofText_eq (trim_trim input)]
      exact .command hparts (Command.named_ofParts _ _)
    · rename_i hcolon
      rw [isCommand_trim] at hcolon
      rcases splitVertical_cases (String.ofList (trim input)) with ⟨text, g, htext, hg, hscript⟩ | ⟨hplain, hscript⟩
      · rw [String.toList_ofList, trim_trim] at htext
        rw [hscript]
        exact .suffixed htext hg hcolon
      · rw [String.toList_ofList, trim_trim] at hplain hscript
        rw [hscript]
        exact .plain (fun hnil => hne (List.isEmpty_iff.2 hnil)) hcolon hplain

theorem Typed.eq_ofText {input : List Char} {i : Input} (h : Typed input i) : i = ofText input := by
  have hscript (hne : trim input ≠ []) (hcolon : (trim input).head? ≠ some ':') :
      ofText input = .script (splitVertical (String.ofList (trim input))).1
        (splitVertical (String.ofList (trim input))).2 := by
    rw [ne_eq, ← isCommand_trim] at hcolon
    simp only [ofText, List.isEmpty_iff, if_neg hne, if_neg hcolon]
  cases h with
  | blank h => simp only [ofText, h, List.isEmpty_nil, if_true]
  | @command a name k h hk =>
    have hne : trim input ≠ [] := by
      intro hnil
      have hhead := h.head?
      rw [hnil] at hhead
      cases hhead
    simp only [ofText, List.isEmpty_iff, if_neg hne, if_pos ((isCommand_trim input).2 h.head?),
      h.ofText_eq (trim_trim input), hk.eq_ofParts]
  | plain hne hcolon hplain =>
    rw [hscript hne hcolon]
    rcases splitVertical_cases (String.ofList (trim input)) with ⟨text, g, htext, hg, -⟩ | ⟨-, hsplit⟩
    · rw [String.toList_ofList, trim_trim] at htext
      exact absurd hg (hplain text g htext)
    · rw [hsplit, String.toList_ofList, trim_trim]
  | @suffixed text g htext hg hcolon =>
    have hne : trim input ≠ [] := by
      rw [htext]
      exact List.append_ne_nil_of_right_ne_nil _ (List.cons_ne_nil _ _)
    rw [hscript hne hcolon]
    rcases splitVertical_cases (String.ofList (trim input)) with ⟨text', g', htext', -, hsplit⟩ | ⟨hplain, -⟩
    · rw [String.toList_ofList, trim_trim, htext] at htext'
      rw [hsplit, List.append_inj_left' htext' rfl]
    · rw [String.toList_ofList, trim_trim] at hplain
      exact absurd hg (hplain text g htext)

/-- An input is typed as the kind that a console takes it for, and as no other. -/
theorem typed_iff {input : List Char} {i : Input} : Typed input i ↔ i = ofText input :=
  ⟨Typed.eq_ofText, fun h => h ▸ typed_ofText input⟩

theorem forall₂_typed_iff {inputs : List (List Char)} {is : List Input} :
    List.Forall₂ Typed inputs is ↔ is = inputs.map ofText := by
  rw [← List.forall₂_eq_eq_eq, List.forall₂_map_right_iff]
  constructor
  · exact fun h => (h.imp fun _ _ => typed_iff.1).flip
  · exact fun h => h.flip.imp fun _ _ => typed_iff.2

end Input

end Footpath
