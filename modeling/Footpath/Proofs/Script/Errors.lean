import Footpath.Language.Script.Parser

/-! What can be wrong with a text that is to be a script.

The readers of steps and statements find faults of two kinds only (`Fault.Syntactic`), a step that is
not written as one and a predicate that is not. A script is refused for its blocks, for the name of
a path, or for a statement that has such a fault, and then with the line and the text of that
statement around it (`Script.parse_error`). -/
namespace Footpath
open Text Token

/-- A fault of a text that is to be a statement. -/
inductive Fault.Syntactic : Fault → Prop where
  | step (token : String) (flaw : StepFlaw) : Syntactic (.step token flaw)
  | predicate (text : String) (flaw : PredicateFlaw) : Syntactic (.predicate text flaw)

/-! ### Steps -/

theorem Predicate.parse_error {text : String} {f : Fault} (h : parse text = .error f) : f.Syntactic := by
  unfold parse at h
  split at h
  · cases h
  · cases h
    exact .predicate _ _

theorem syntactic_stepFault (s : List Char) (flaw : StepFlaw) : (stepFault s flaw).Syntactic := .step _ flaw

theorem filter?_error {s : List Char} {f : Fault} (h : filter? s = .error f) : f.Syntactic := by
  unfold filter? at h
  split at h
  · split at h
    · cases h
      exact .predicate _ _
    · split at h
      · rename_i hp
        cases h
        exact Predicate.parse_error hp
      · cases h
  · cases h

theorem Step.read_error {start s : List Char} {f : Fault} (h : read start s = .error f) : f.Syntactic := by
  unfold read at h
  split at h
  · cases h
    exact syntactic_stepFault _ _
  · split at h
    · rename_i hf
      cases h
      exact filter?_error hf
    · cases h

theorem Step.chain_error {s : List Char} {f : Fault} (h : chain s = .error f) : f.Syntactic := by
  induction s using chain.induct with
  | case1 t e hr =>
    rw [chain_slash, hr] at h
    cases h
    exact read_error hr
  | case2 t step r e hc hr hlt ih =>
    rw [chain_slash, hr] at h
    dsimp only at h
    rw [hc] at h
    cases h
    exact ih hc
  | case3 t step r steps rest hc hr hlt ih =>
    rw [chain_slash, hr] at h
    dsimp only at h
    rw [hc] at h
    cases h
  | case4 s hs =>
    rw [chain] at h
    · cases h
    · exact hs

/-! ### Expressions -/

theorem variableName_error {s : List Char} {f : Fault} (h : variableName s = .error f) : f.Syntactic := by
  unfold variableName at h
  split at h
  · cases h
    exact syntactic_stepFault _ _
  · cases h

theorem lookupId_error {s : List Char} {f : Fault} (h : lookupId s = .error f) : f.Syntactic := by
  have hfault : ∀ {t : List Char} {flaw : StepFlaw} {α : Type},
      (Except.error (stepFault t flaw) : Except Fault α) = .error f → f.Syntactic := by
    rintro t flaw α ⟨⟩
    exact syntactic_stepFault t flaw
  unfold lookupId at h
  split at h
  · exact hfault h
  · split at h
    · split at h
      · cases h
      · exact hfault h
    · split at h
      · split at h
        · cases h
        · exact hfault h
      · exact hfault h

theorem lookupCall_error {s : List Char} {f : Fault} (h : lookupCall s = .error f) : f.Syntactic := by
  unfold lookupCall at h
  split at h
  · rename_i hid
    cases h
    exact lookupId_error hid
  · split at h
    · cases h
    · cases h
      exact syntactic_stepFault _ _

theorem Source.read_error {whole s : List Char} {f : Fault} (h : read whole s = .error f) : f.Syntactic := by
  unfold read at h
  split at h
  · cases h
    exact .step _ _
  · split at h
    · rename_i hname
      cases h
      exact variableName_error hname
    · cases h
  · split at h
    · cases h
      exact syntactic_stepFault _ _
    · split at h
      · rename_i hcall
        cases h
        exact lookupCall_error hcall
      · cases h

theorem Expr.read_error {whole s : List Char} {f : Fault} (h : read whole s = .error f) : f.Syntactic := by
  unfold read at h
  split at h
  · split at h
    · rename_i hstep
      cases h
      exact Step.read_error hstep
    · split at h
      · rename_i hchain
        cases h
        exact Step.chain_error hchain
      · cases h
  · split at h
    · rename_i hsource
      cases h
      exact Source.read_error hsource
    · split at h
      · rename_i hfilter
        cases h
        exact filter?_error hfilter
      · split at h
        · rename_i hchain
          cases h
          exact Step.chain_error hchain
        · cases h

/-! ### Statements and scripts -/

theorem Statement.assignment_error {s : List Char} {f : Fault} (h : assignment s = .error f) :
    f.Syntactic := by
  unfold assignment at h
  split at h
  · split at h
    · rename_i hname
      cases h
      exact variableName_error hname
    · split at h <;> cases h
  · cases h

theorem Statement.ofText_error {line : Nat} {s : List Char} {f : Fault} (h : ofText line s = .error f) :
    f.Syntactic := by
  unfold ofText at h
  split at h
  · rename_i hassign
    cases h
    exact assignment_error hassign
  · split at h
    · rename_i hexpr
      cases h
      exact Expr.read_error hexpr
    · split at h
      · cases h
      · cases h
        exact syntactic_stepFault _ _

/-- Why lines, the first of which has the number `line`, are no script: a fault of their blocks, a
reserved name, or a statement at fault, which is told with its line. -/
inductive Error.Refusal (line : Nat) (ls : List (List Char)) : Error → Prop where
  | script (n : Nat) (flaw : ScriptFlaw) : Refusal line ls (.ofFault (.script n flaw))
  | reservedName (name : String) : Refusal line ls (.ofFault (.reservedName name))
  | statement {i : Nat} {l : List Char} {f : Fault} (hl : ls[i]? = some l) (hf : f.Syntactic) :
      Refusal line ls ⟨[⟨line + i, String.ofList (trim l)⟩], f⟩

namespace Error.Refusal

variable {e : Error} {line : Nat} {ls : List (List Char)}

theorem cons (h : e.Refusal (line + 1) ls) (l : List Char) : e.Refusal line (l :: ls) := by
  cases h with
  | script n flaw => exact .script n flaw
  | reservedName name => exact .reservedName name
  | @statement i l' f hl hf =>
    rw [Nat.add_assoc, Nat.add_comm 1 i]
    exact .statement (i := i + 1) hl hf

end Error.Refusal

/-- The text of a statement is its line, with no blanks around it. -/
theorem Line.ofText_eq_statement {l t : List Char} (h : ofText l = .statement t) : t = trim l := by
  unfold ofText at h
  dsimp only at h
  split at h
  · cases h
  · split at h
    · cases h
    · split at h
      · cases h
      · cases h
        rfl

namespace Draft

variable {d : Draft} {line : Nat} {ls : List (List Char)} {e : Error}

theorem openBlock_error {name : List Char} (h : d.openBlock line name = .error e) : e.Refusal line ls := by
  unfold openBlock at h
  split at h
  · cases h
    exact .script line _
  · dsimp only at h
    split at h
    · cases h
      exact .script line _
    · split at h
      · cases h
        exact .script line _
      · split at h
        · cases h
          exact .reservedName _
        · cases h

theorem closeBlock_error (h : d.closeBlock line = .error e) : e.Refusal line ls := by
  unfold closeBlock at h
  split at h
  · cases h
    exact .script line _
  · cases h

theorem next_error {l : List Char} (h : d.next line l = .error e) : e.Refusal line (l :: ls) := by
  unfold next at h
  split at h
  · cases h
  · exact closeBlock_error h
  · exact openBlock_error h
  · rename_i t ht
    split at h
    · rename_i hf
      cases h
      rw [Line.ofText_eq_statement ht]
      exact .statement (i := 0) rfl (Statement.ofText_error hf)
    · cases h

theorem run_error (h : d.run line ls = .error e) : e.Refusal line ls := by
  induction ls generalizing d line with
  | nil => cases h
  | cons l ls ih =>
    rw [run] at h
    split at h
    · rename_i hnext
      cases h
      exact next_error hnext
    · exact (ih h).cons l

end Draft

theorem Script.parse_error {text : String} {e : Error} (h : parse text = .error e) :
    e.Refusal 1 (lines text.toList) := by
  unfold parse at h
  split at h
  · rename_i hrun
    cases h
    exact Draft.run_error hrun
  · unfold Draft.finish at h
    split at h
    · cases h
      exact .script _ _
    · cases h

end Footpath
