import Footpath.Language.Predicate.Parser

/-! Reading steps and statements. A filter is cut out at its closing bracket first, by a scan
that knows quotes and nesting only, and what stands inside is then read as a predicate of its
own. -/
namespace Footpath
open Text Token

/-! ### Filters in brackets -/

/-- Where the scan for a closing bracket stands: outside of quotes, inside of quotes `q`, or
behind a backslash there. `depth` counts the brackets opened on the way. -/
inductive BracketScan where
  | plain (depth : Nat)
  | quoted (q : Char) (depth : Nat)
  | escaped (q : Char) (depth : Nat)
deriving DecidableEq

/-- The scan behind one more character; `none` when that is the bracket looked for. -/
def BracketScan.next : BracketScan → Char → Option BracketScan
  | .plain depth, c =>
    if c = '\'' || c = '"' then some (.quoted c depth)
    else if c = '[' then some (.plain (depth + 1))
    else if c = ']' then
      match depth with
      | 0 => none
      | d + 1 => some (.plain d)
    else some (.plain depth)
  | .quoted q depth, c =>
    if c = '\\' then some (.escaped q depth)
    else if c = q then some (.plain depth)
    else some (.quoted q depth)
  | .escaped q depth, _ => some (.quoted q depth)

/-- The text before the closing bracket and the text behind it. -/
def untilBracket (scan : BracketScan) : List Char → Option (List Char × List Char)
  | [] => none
  | c :: cs =>
    match scan.next c with
    | none => some ([], cs)
    | some scan => (untilBracket scan cs).map fun (t, r) => (c :: t, r)

theorem length_of_untilBracket {scan : BracketScan} {s t r : List Char}
    (h : untilBracket scan s = some (t, r)) : r.length < s.length := by
  induction s generalizing scan t with
  | nil => cases h
  | cons c cs ih =>
    simp only [untilBracket] at h
    split at h
    · simp only [Option.some.injEq, Prod.mk.injEq] at h
      simp [h.2]
    · obtain ⟨⟨t', r'⟩, hu, he⟩ := Option.map_eq_some_iff.1 h
      simp only [Prod.mk.injEq] at he
      exact Nat.lt_succ_of_lt (ih (he.2 ▸ hu))

/-- The filter at the start of a text, if a bracket opens there. -/
def filter? : List Char → Except Fault (Option Predicate × List Char)
  | '[' :: s =>
    match untilBracket (.plain 0) s with
    | none => .error (.predicate (String.ofList ('[' :: s)) .unclosedBracket)
    | some (inner, rest) =>
      match Predicate.parse (String.ofList inner) with
      | .error e => .error e
      | .ok p => .ok (some p, rest)
  | s => .ok (none, s)

theorem length_of_filter? {s r : List Char} {p : Option Predicate} (h : filter? s = .ok (p, r)) :
    r.length ≤ s.length := by
  unfold filter? at h
  split at h
  · split at h
    · cases h
    · rename_i hu
      split at h
      · cases h
      · simp only [Except.ok.injEq, Prod.mk.injEq] at h
        have := length_of_untilBracket hu
        rw [← h.2, List.length_cons]
        omega
  · simp only [Except.ok.injEq, Prod.mk.injEq] at h
    exact h.2 ▸ Nat.le_refl _

/-! ### Steps -/

/-- The fault of a step or statement, told at the first word of `s`. -/
def stepFault (s : List Char) (flaw : StepFlaw) : Fault := .step (String.ofList (firstWord s)) flaw

namespace Step

/-- The step whose separator starts at `start` and whose name starts at `s`. -/
def read (start s : List Char) : Except Fault (Step × List Char) :=
  match name? s with
  | none => .error (stepFault start .missingName)
  | some (name, r) =>
    match filter? r with
    | .error e => .error e
    | .ok (filter, rest) =>
      let token := start.take (start.length - rest.length)
      .ok (⟨Target.ofName (String.ofList name), filter, String.ofList token⟩, rest)

theorem length_of_read {start s r : List Char} {step : Step} (h : read start s = .ok (step, r)) :
    r.length < s.length := by
  unfold read at h
  split at h
  · cases h
  · rename_i hn
    split at h
    · cases h
    · rename_i hf
      simp only [Except.ok.injEq, Prod.mk.injEq] at h
      have hn := length_of_name? hn
      have hf := length_of_filter? hf
      rw [← h.2]
      omega

/-- The steps that follow one another, each behind its `/`. -/
def chain (s : List Char) : Except Fault (List Step × List Char) :=
  match s with
  | '/' :: t =>
    match hr : read s t with
    | .error e => .error e
    | .ok (step, r) =>
      have _hlt : r.length < t.length := length_of_read hr
      match chain r with
      | .error e => .error e
      | .ok (steps, rest) => .ok (step :: steps, rest)
  | _ => .ok ([], s)
termination_by s.length
decreasing_by
  simp only [List.length_cons]
  omega

theorem chain_slash (t : List Char) :
    chain ('/' :: t) =
      match read ('/' :: t) t with
      | .error e => .error e
      | .ok (step, r) =>
        match chain r with
        | .error e => .error e
        | .ok (steps, rest) => .ok (step :: steps, rest) := by
  rw [chain]
  split
  · rename_i h
    rw [h]
  · rename_i h
    dsimp only
    rw [h]

/-- A step by itself, such as `./outE[@label='knows']`, blanks around it left out. -/
def parse (text : String) : Except Fault Step :=
  let s := trim text.toList
  match strip? ['.', '/'] s with
  | none => .error (.step (String.ofList s) .notRelative)
  | some r =>
    match read s r with
    | .error e => .error e
    | .ok (step, []) => .ok step
    | .ok (_, rest) => .error (.step (String.ofList s) (.unexpected (String.ofList rest)))

end Step

/-! ### Expressions -/

/-- The name of the variable whose `$` starts `s`. -/
def variableName (s : List Char) : Except Fault (String × List Char) :=
  match name? (s.drop 1) with
  | none => .error (stepFault s .variableName)
  | some (name, r) => .ok (String.ofList name, r)

/-- The argument of a lookup, as the text of an id. -/
def lookupId (s : List Char) : Except Fault (String × List Char) :=
  match skipBlank s with
  | [] => .error (stepFault s .lookupArgument)
  | c :: cs =>
    if c = '\'' || c = '"' then
      match quoted? c cs with
      | some (t, r) => .ok (String.ofList t, r)
      | none => .error (stepFault s .unclosedString)
    else if c.isDigit || c = '-' then
      match numeral? (c :: cs) with
      | some (n, r) => .ok (n.value.render, r)
      | none => .error (stepFault s .number)
    else .error (stepFault s .lookupArgument)

/-- The argument and closing parenthesis of a lookup. -/
def lookupCall (s : List Char) : Except Fault (String × List Char) :=
  match lookupId s with
  | .error e => .error e
  | .ok (id, r) =>
    match skipBlank r with
    | ')' :: rest => .ok (id, rest)
    | _ => .error (stepFault s .closingParenthesis)

/-- A source other than the context; `whole` is the statement that it belongs to. -/
def Source.read (whole s : List Char) : Except Fault (Source × List Char) :=
  match s with
  | [] => .error (.step (String.ofList (trim whole)) .missingExpression)
  | '$' :: _ =>
    match variableName s with
    | .error e => .error e
    | .ok (name, r) => .ok (.var name, r)
  | _ =>
    match strip? ['g', ':', 'i', 'd', '('] s with
    | none => .error (stepFault s .missingSource)
    | some r =>
      match lookupCall r with
      | .error e => .error e
      | .ok (id, rest) => .ok (.lookup id, rest)

/-- Steps from the context, or a source with its filter and steps. -/
def Expr.read (whole s : List Char) : Except Fault (Expr × List Char) :=
  match strip? ['.', '/'] s with
  | some r =>
    match Step.read s r with
    | .error e => .error e
    | .ok (first, r) =>
      match Step.chain r with
      | .error e => .error e
      | .ok (steps, rest) => .ok (⟨.context, none, first :: steps⟩, rest)
  | none =>
    match Source.read whole s with
    | .error e => .error e
    | .ok (src, r) =>
      match filter? r with
      | .error e => .error e
      | .ok (filter, r) =>
        match Step.chain r with
        | .error e => .error e
        | .ok (steps, rest) => .ok (⟨src, filter, steps⟩, rest)

/-! ### Statements -/

namespace Statement

/-- The variable in front of a `:=`, and what follows; a variable without one is an expression. -/
def assignment (s : List Char) : Except Fault (Option String × List Char) :=
  match s with
  | '$' :: _ =>
    match variableName s with
    | .error e => .error e
    | .ok (name, r) =>
      match strip? [':', '='] (skipBlank r) with
      | some rest => .ok (some name, skipBlank rest)
      | none => .ok (none, s)
  | _ => .ok (none, s)

/-- A text that is a statement from end to end. -/
def ofText (line : Nat) (s : List Char) : Except Fault Statement :=
  match assignment (skipBlank s) with
  | .error e => .error e
  | .ok (target, r) =>
    match Expr.read s r with
    | .error e => .error e
    | .ok (expr, r) =>
      match skipBlank r with
      | [] => .ok ⟨line, String.ofList (trim s), target, expr⟩
      | rest => .error (stepFault rest (.unexpected (String.ofList rest)))

def parse (text : String) (line : Nat) : Except Fault Statement := ofText line text.toList

end Statement

end Footpath
