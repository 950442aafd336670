import Footpath.Language.Script.Parser

/-! Two scripts one below the other.

A newline is a seam: the lines of the joined text are those of the first text and then those of the
second, each numbered further on by as many lines as the first has. A reader that is done with the
first text and has no block open goes on as if it started afresh, with what it has read in front
(`Draft.run_below`). `parse_joined` says what becomes of the joined text in each case; the one that
is left out is a block that the first text leaves open, which the second may close. -/
namespace Footpath
open Text

/-! ### Further down -/

def Statement.shift (k : Nat) (s : Statement) : Statement := { s with line := s.line + k }

def NamedPath.shift (k : Nat) (p : NamedPath) : NamedPath :=
  { p with line := p.line + k, body := p.body.map (·.shift k) }

def Fault.shift (k : Nat) : Fault → Fault
  | .script line flaw => .script (line + k) flaw
  | f => f

/-- The error of a text that stands `k` lines further down. Where an error has a line, that is the
line of the outermost statement that it passed through, or the line that its fault is about. -/
def Error.shift (k : Nat) (e : Error) : Error :=
  match e.trail with
  | [] => .ofFault (e.fault.shift k)
  | s :: rest => ⟨{ s with line := s.line + k } :: rest, e.fault⟩

namespace Script

def shift (k : Nat) (s : Script) : Script := ⟨s.paths.map (·.shift k), s.body.map (·.shift k)⟩

/-- The paths and the statements of one script, and behind them those of another. -/
def append (s t : Script) : Script := ⟨s.paths ++ t.paths, s.body ++ t.body⟩

instance : Append Script := ⟨append⟩

end Script

/-- The line of a statement has no part in how it is read. -/
theorem Statement.ofText_add (line k : Nat) (t : List Char) :
    ofText (line + k) t = (ofText line t).map (·.shift k) := by
  unfold ofText
  cases assignment (skipBlank t) with
  | error f => rfl
  | ok a =>
    obtain ⟨target, r⟩ := a
    dsimp only
    cases Expr.read t r with
    | error f => rfl
    | ok b =>
      obtain ⟨expr, r⟩ := b
      dsimp only
      cases skipBlank r <;> rfl

namespace Draft

/-- The draft of a text that stands `k` lines further down, the script `s` having been read before. -/
def below (s : Script) (k : Nat) (d : Draft) : Draft := ⟨s ++ d.script.shift k, d.block.map (·.shift k)⟩

section
variable (s : Script) (k : Nat) (d : Draft) (line : Nat)

/-! ### One line at a time -/

theorem openBlock_below (name : List Char) :
    (d.below s k).openBlock (line + k) name =
      ((d.openBlock line name).mapError (·.shift k)).map (below s k) := by
  obtain ⟨script, block⟩ := d
  cases block with
  | some outer => rfl
  | none =>
    unfold openBlock
    dsimp only [below, Option.map_none]
    split
    · rfl
    · split
      · rfl
      · split <;> rfl

theorem closeBlock_below :
    (d.below s k).closeBlock (line + k) =
      ((d.closeBlock line).mapError (·.shift k)).map (below s k) := by
  obtain ⟨script, block⟩ := d
  cases block with
  | none => rfl
  | some p =>
    show Except.ok (Draft.mk ⟨s.paths ++ script.paths.map _ ++ [p.shift k], s.body ++ _⟩ none) =
      Except.ok (Draft.mk ⟨s.paths ++ (script.paths ++ [p]).map _, s.body ++ _⟩ none)
    rw [List.map_append, List.append_assoc]
    rfl

theorem add_below (t : Statement) : (d.below s k).add (t.shift k) = (d.add t).below s k := by
  obtain ⟨script, block⟩ := d
  cases block with
  | none =>
    show Draft.mk ⟨s.paths ++ _, s.body ++ script.body.map _ ++ [t.shift k]⟩ none =
      Draft.mk ⟨s.paths ++ _, s.body ++ (script.body ++ [t]).map _⟩ none
    rw [List.map_append, List.append_assoc]
    rfl
  | some p =>
    show Draft.mk _ (some ⟨p.name, p.line + k, p.body.map _ ++ [t.shift k]⟩) =
      Draft.mk _ (some ⟨p.name, p.line + k, (p.body ++ [t]).map _⟩)
    rw [List.map_append]
    rfl

theorem next_below (l : List Char) :
    (d.below s k).next (line + k) l = ((d.next line l).mapError (·.shift k)).map (below s k) := by
  unfold next
  cases Line.ofText l with
  | blank => rfl
  | close => exact closeBlock_below s k d line
  | header name => exact openBlock_below s k d line name
  | statement t =>
    dsimp only
    rw [Statement.ofText_add]
    cases Statement.ofText line t with
    | error f => rfl
    | ok statement => exact congrArg Except.ok (add_below s k d statement)

/-! ### All lines -/

/-- Further down the same lines are read in the same way. -/
theorem run_below (ls : List (List Char)) :
    (d.below s k).run (line + k) ls = ((d.run line ls).mapError (·.shift k)).map (below s k) := by
  induction ls generalizing d line with
  | nil => rfl
  | cons l ls ih =>
    simp only [run, next_below]
    cases d.next line l with
    | error e => rfl
    | ok d =>
      show (d.below s k).run (line + k + 1) ls = _
      rw [Nat.add_right_comm]
      exact ih d (line + 1)

theorem finish_below :
    (d.below s k).finish = (d.finish.mapError (·.shift k)).map (s ++ ·.shift k) := by
  obtain ⟨script, block⟩ := d
  cases block <;> rfl

end

end Draft

/-! ### The joined text -/

namespace Script

theorem parse_eq (text : String) :
    parse text = Draft.empty.run 1 (lines text.toList) >>= Draft.finish := by
  unfold parse
  cases Draft.empty.run 1 (lines text.toList) <;> rfl

theorem length_lines (t : List Char) : (lines t).length = t.count '\n' + 1 := by
  unfold lines
  induction t with
  | nil => rfl
  | cons c t ih =>
    have hne := stretches_ne_nil (· == '\n') t
    rw [stretches, List.count_cons]
    split
    · rw [List.length_cons, ih]
    · split
      · contradiction
      · rename_i w ws hw
        rw [hw] at ih
        simpa using ih

theorem lines_joined (a b : String) : lines (a ++ "\n" ++ b).toList = lines a.toList ++ lines b.toList := by
  have hseam : (a ++ "\n" ++ b).toList = a.toList ++ '\n' :: b.toList := by
    simp [String.toList_append]
  rw [hseam]
  exact stretches_append _ _ _ rfl

/-- The joined text is read by reading the second one from where the first one leaves off. -/
theorem parse_joined_eq (a b : String) :
    parse (a ++ "\n" ++ b) = Draft.empty.run 1 (lines a.toList) >>= fun d =>
      d.run (1 + (a.toList.count '\n' + 1)) (lines b.toList) >>= Draft.finish := by
  rw [parse_eq, lines_joined, Draft.run_append, length_lines]
  cases Draft.empty.run 1 (lines a.toList) <;> rfl

/-- Behind an accepted text the other is read as if by itself. -/
theorem parse_joined_of_ok {a : String} {s : Script} (h : parse a = .ok s) (b : String) :
    parse (a ++ "\n" ++ b) = ((parse b).mapError (·.shift (a.toList.count '\n' + 1))).map
      (s ++ ·.shift (a.toList.count '\n' + 1)) := by
  rw [parse_joined_eq, parse_eq b]
  rw [parse_eq] at h
  cases hrun : Draft.empty.run 1 (lines a.toList) with
  | error e =>
    rw [hrun] at h
    cases h
  | ok d =>
    rw [hrun] at h
    obtain ⟨script, block⟩ := d
    cases block with
    | some p => cases h
    | none =>
      obtain rfl : script = s := Except.ok.inj h
      have hempty : Draft.mk script none = Draft.empty.below script (a.toList.count '\n' + 1) := by
        show Draft.mk script none = ⟨⟨script.paths ++ [], script.body ++ []⟩, none⟩
        rw [List.append_nil, List.append_nil]
      show (Draft.mk script none).run _ _ >>= Draft.finish = _
      rw [hempty, Draft.run_below]
      cases Draft.empty.run 1 (lines b.toList) with
      | error e => rfl
      | ok d => exact Draft.finish_below script _ d

/-- What is found wrong in a text, other than an end that is missing, is found before anything that
may follow it. -/
theorem parse_joined_of_error {a : String} {e : Error} (h : parse a = .error e)
    (hclosed : ∀ line name, e ≠ .ofFault (.script line (.missingEnd name))) (b : String) :
    parse (a ++ "\n" ++ b) = .error e := by
  rw [parse_joined_eq]
  rw [parse_eq] at h
  cases hrun : Draft.empty.run 1 (lines a.toList) with
  | error e' =>
    rw [hrun] at h
    cases h
    rfl
  | ok d =>
    rw [hrun] at h
    obtain ⟨script, block⟩ := d
    cases block with
    | none => cases h
    | some p =>
      cases h
      exact absurd rfl (hclosed p.line p.name)

/-- **A newline joins scripts.** Of two accepted texts the joined one has the paths and the
statements of both, those of the second further down. An error of the second is told further down
as well. An error of the first is told as it is, whatever follows, unless it is that the text ends
in an open block. -/
theorem parse_joined (a b : String) :
    match parse a, parse b with
    | .ok s, .ok t => parse (a ++ "\n" ++ b) = .ok (s ++ t.shift (a.toList.count '\n' + 1))
    | .ok _, .error e => parse (a ++ "\n" ++ b) = .error (e.shift (a.toList.count '\n' + 1))
    | .error e, _ => (∃ line name, e = .ofFault (.script line (.missingEnd name))) ∨
        parse (a ++ "\n" ++ b) = .error e := by
  cases ha : parse a with
  | ok s =>
    cases hb : parse b with
    | ok t =>
      show parse (a ++ "\n" ++ b) = _
      rw [parse_joined_of_ok ha, hb]
      rfl
    | error e =>
      show parse (a ++ "\n" ++ b) = _
      rw [parse_joined_of_ok ha, hb]
      rfl
  | error e =>
    by_cases hopen : ∃ line name, e = .ofFault (.script line (.missingEnd name))
    · exact .inl hopen
    · exact .inr (parse_joined_of_error ha (fun line name he => hopen ⟨line, name, he⟩) b)

end Script

end Footpath
