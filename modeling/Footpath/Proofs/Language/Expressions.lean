import Footpath.Proofs.Language.Brackets

/-! Steps, expressions and statements as they are written without blanks.

A `Link` is a name with a filter in brackets behind it, or without one. Links, each behind its slash, are
read one after the other (`chain_links`): a name ends where a bracket or a slash comes, and a filter where
the scan finds its bracket. Behind a dot they are an expression from the context, and behind a source and
its filter one from there (`IsExpr.read`). -/
namespace Footpath
open Text Token

/-! ### Links -/

structure Link where
  name : List Char
  filter : Option Predicate
  brackets : List Char
  isName : Token.isName name = true
  isFilter : IsFilter filter brackets

namespace Link

def text (l : Link) : List Char := l.name ++ l.brackets

/-- The step that a link is read as behind `lead`, its separator. -/
def step (lead : List Char) (l : Link) : Step :=
  ⟨Target.ofName (String.ofList l.name), l.filter, String.ofList (lead ++ l.text)⟩

/-- Links, each behind its slash. -/
def texts (ls : List Link) : List Char := ls.flatMap fun l => '/' :: l.text

end Link

/-- A slash comes next, if anything does. -/
def AtSlash (s : List Char) : Prop := ∀ c, s.head? = some c → c = '/'

theorem atSlash_texts (ls : List Link) : AtSlash (Link.texts ls) := by
  intro c hc
  cases ls with
  | nil => cases hc
  | cons l ls =>
    cases hc
    rfl

section Filter

variable {filter : Option Predicate} {f r : List Char}

/-- A bracket or a slash comes next behind a name. -/
theorem IsFilter.head (h : IsFilter filter f) (hr : AtSlash r) :
    ∀ c, (f ++ r).head? = some c → c = '[' ∨ c = '/' := by
  intro c hc
  cases h with
  | none => exact .inr (hr c hc)
  | bracketed => exact .inl (Option.some.inj hc).symm

theorem IsFilter.endsWord (h : IsFilter filter f) (hr : AtSlash r) : EndsWord (f ++ r) := by
  intro c hc
  rcases h.head hr c hc with rfl | rfl <;> decide

theorem IsFilter.read_atSlash (h : IsFilter filter f) (hr : AtSlash r) : filter? (f ++ r) = .ok (filter, r) := by
  apply h.read
  intro c hc
  rw [hr c hc]
  decide

end Filter

/-- Behind its name a step is what its filter is. -/
theorem Step.read_name {n r : List Char} (hn : Token.isName n = true) (hr : EndsWord r) (start : List Char) :
    Step.read start (n ++ r) = (filter? r).map fun (filter, rest) =>
      (⟨Target.ofName (String.ofList n), filter, String.ofList (start.take (start.length - rest.length))⟩,
        rest) := by
  rw [Step.read, name?_append hn hr]
  dsimp only
  cases filter? r <;> rfl

theorem Step.read_link (l : Link) (lead : List Char) {r : List Char} (hr : AtSlash r) :
    Step.read (lead ++ (l.text ++ r)) (l.text ++ r) = .ok (l.step lead, r) := by
  have htoken : (lead ++ (l.text ++ r)).take ((lead ++ (l.text ++ r)).length - r.length) = lead ++ l.text := by
    rw [← List.append_assoc, List.length_append, Nat.add_sub_cancel, List.take_left]
  have hsplit : l.text ++ r = l.name ++ (l.brackets ++ r) := List.append_assoc _ _ _
  rw [hsplit, Step.read_name l.isName (l.isFilter.endsWord hr), l.isFilter.read_atSlash hr, ← hsplit, Except.map]
  dsimp only
  rw [htoken]
  rfl

/-- **Links are read one after the other.** -/
theorem Step.chain_links (ls : List Link) :
    Step.chain (Link.texts ls) = .ok (ls.map (Link.step ['/']), []) := by
  induction ls with
  | nil =>
    rw [Step.chain.eq_def]
    rfl
  | cons l ls ih =>
    have hread : Step.read ('/' :: (l.text ++ Link.texts ls)) (l.text ++ Link.texts ls) =
        .ok (l.step ['/'], Link.texts ls) := Step.read_link l ['/'] (atSlash_texts ls)
    have htexts : Link.texts (l :: ls) = '/' :: (l.text ++ Link.texts ls) := rfl
    rw [htexts, Step.chain_slash, hread]
    dsimp only
    rw [ih]
    rfl

/-! ### Sources -/

/-- A source other than the context and how it is written. -/
inductive IsSource : Source → List Char → Prop where
  | var {n : List Char} (hn : isName n = true) : IsSource (.var (String.ofList n)) ('$' :: n)
  | lookup {t w : List Char} (hw : IsQuoted '\'' t w) :
      IsSource (.lookup (String.ofList t)) (['g', ':', 'i', 'd', '(', '\''] ++ (w ++ ['\'', ')']))
  | numeral {n : Numeral} {w : List Char} (hw : IsNumeral n w) :
      IsSource (.lookup n.value.render) (['g', ':', 'i', 'd', '('] ++ (w ++ [')']))

theorem variableName_append {n r : List Char} (hn : isName n = true) (hr : EndsWord r) :
    variableName ('$' :: (n ++ r)) = .ok (String.ofList n, r) := by
  rw [variableName, List.drop_one, List.tail_cons, name?_append hn hr]

theorem lookupCall_quoted {t w : List Char} (hw : IsQuoted '\'' t w) (r : List Char) :
    lookupCall ('\'' :: (w ++ '\'' :: ')' :: r)) = .ok (String.ofList t, r) := by
  have hquoted : quoted? '\'' (w ++ '\'' :: ')' :: r) = some (t, ')' :: r) :=
    (quoted?_eq_some_iff (by decide)).2 ⟨w, rfl, hw⟩
  have hskip : ∀ s, skipBlank ('\'' :: s) = '\'' :: s := fun s => rfl
  have hid : lookupId ('\'' :: (w ++ '\'' :: ')' :: r)) = .ok (String.ofList t, ')' :: r) := by
    rw [lookupId, hskip]
    dsimp only
    rw [hquoted]
    rfl
  rw [lookupCall, hid]
  rfl

/-- A numeral stands for the text of its value. -/
theorem lookupCall_numeral {n : Numeral} {w : List Char} (hw : IsNumeral n w) (r : List Char) :
    lookupCall (w ++ ')' :: r) = .ok (n.value.render, r) := by
  have hend : EndsNumeral (')' :: r) := by
    intro c hc
    cases hc
    decide
  have hread := numeral?_append hw hend
  obtain ⟨c, cs, rfl, hc⟩ := hw.head
  rw [List.cons_append] at hread ⊢
  have hblank : isBlank c = false := by
    rcases Bool.or_eq_true_iff.1 hc with h | h
    · exact isBlank_of_isDigit h
    · rw [of_decide_eq_true h]
      rfl
  have hskip : skipBlank (c :: (cs ++ ')' :: r)) = c :: (cs ++ ')' :: r) := by
    apply skipBlank_eq_self
    rintro d t ht
    cases ht
    exact hblank
  have hid : lookupId (c :: (cs ++ ')' :: r)) = .ok (n.value.render, ')' :: r) := by
    rw [lookupId, hskip]
    dsimp only
    rw [quote_eq_false hc, if_neg Bool.false_ne_true, if_pos hc, hread]
  rw [lookupCall, hid]
  rfl

/-- Behind its opening a lookup is what is read there. -/
theorem Source.read_lookup (whole s : List Char) :
    Source.read whole (['g', ':', 'i', 'd', '('] ++ s) =
      (lookupCall s).map fun (id, rest) => (.lookup id, rest) := by
  have hstrip : strip? ['g', ':', 'i', 'd', '('] (['g', ':', 'i', 'd', '('] ++ s) = some s := strip?_eq_some_iff.2 rfl
  unfold Source.read
  split
  · rename_i h
    cases h
  · rename_i h
    cases h
  · rw [hstrip]
    dsimp only
    cases lookupCall s <;> rfl

/-- A source is read as it is written. -/
theorem IsSource.read {src : Source} {w : List Char} (h : IsSource src w) (whole : List Char) {r : List Char}
    (hr : EndsWord r) : Source.read whole (w ++ r) = .ok (src, r) := by
  cases h with
  | var hn => rw [List.cons_append, Source.read, variableName_append hn hr]
  | @lookup t w hw =>
    have hshape : ['g', ':', 'i', 'd', '(', '\''] ++ (w ++ ['\'', ')']) ++ r =
        ['g', ':', 'i', 'd', '('] ++ '\'' :: (w ++ '\'' :: ')' :: r) := by simp
    rw [hshape, Source.read_lookup, lookupCall_quoted hw]
    rfl
  | @numeral n w hw =>
    have hshape : ['g', ':', 'i', 'd', '('] ++ (w ++ [')']) ++ r = ['g', ':', 'i', 'd', '('] ++ (w ++ ')' :: r) := by
      simp
    rw [hshape, Source.read_lookup, lookupCall_numeral hw]
    rfl

theorem IsSource.strip? {src : Source} {w : List Char} (h : IsSource src w) (s : List Char) :
    Token.strip? ['.', '/'] (w ++ s) = none := by
  cases h <;> rfl

/-! ### Expressions -/

/-- An expression and how it is written: links from the context behind a dot, or a source, its filter and
links. -/
inductive IsExpr : Expr → List Char → Prop where
  | context (l : Link) (ls : List Link) :
      IsExpr ⟨.context, none, l.step ['.', '/'] :: ls.map (Link.step ['/'])⟩ ('.' :: Link.texts (l :: ls))
  | source {src : Source} {filter : Option Predicate} {w f : List Char} (hw : IsSource src w)
      (hf : IsFilter filter f) (ls : List Link) :
      IsExpr ⟨src, filter, ls.map (Link.step ['/'])⟩ (w ++ (f ++ Link.texts ls))

theorem IsExpr.read {e : Expr} {w : List Char} (h : IsExpr e w) (whole : List Char) :
    Expr.read whole w = .ok (e, []) := by
  cases h with
  | context l ls =>
    have hread : Step.read ('.' :: Link.texts (l :: ls)) (l.text ++ Link.texts ls) =
        .ok (l.step ['.', '/'], Link.texts ls) := Step.read_link l ['.', '/'] (atSlash_texts ls)
    have hstrip : strip? ['.', '/'] ('.' :: Link.texts (l :: ls)) = some (l.text ++ Link.texts ls) :=
      strip?_eq_some_iff.2 rfl
    rw [Expr.read, hstrip]
    dsimp only
    rw [hread]
    dsimp only
    rw [Step.chain_links]
  | source hw hf ls =>
    rw [Expr.read, hw.strip?]
    dsimp only
    rw [hw.read whole (hf.endsWord (atSlash_texts ls))]
    dsimp only
    rw [hf.read_atSlash (atSlash_texts ls)]
    dsimp only
    rw [Step.chain_links]

/-! ### Statements -/

/-- The variable that a statement assigns and how it is written in front of the expression. -/
inductive IsTarget : Option String → List Char → Prop where
  | none : IsTarget none []
  | assigned {n : List Char} (hn : isName n = true) :
      IsTarget (some (String.ofList n)) ('$' :: (n ++ [' ', ':', '=', ' ']))

theorem IsTarget.skipBlank {target : Option String} {v w : List Char} (h : IsTarget target v)
    (hw : Text.skipBlank w = w) : Text.skipBlank (v ++ w) = v ++ w := by
  cases h with
  | none => exact hw
  | assigned => rfl

theorem IsExpr.skipBlank {e : Expr} {w : List Char} (h : IsExpr e w) : Text.skipBlank w = w := by
  cases h with
  | context => rfl
  | source hw => cases hw <;> rfl

/-- An expression alone assigns nothing, one that is a variable included. -/
theorem IsExpr.assignment {e : Expr} {w : List Char} (h : IsExpr e w) :
    Statement.assignment w = .ok (none, w) := by
  cases h with
  | context => rfl
  | @source src filter v f hw hf ls =>
    cases hw with
    | lookup => rfl
    | numeral => rfl
    | @var n hn =>
      have hhead := hf.head (atSlash_texts ls)
      have hstrip : Token.strip? [':', '='] (Text.skipBlank (f ++ Link.texts ls)) = none := by
        cases hrest : f ++ Link.texts ls with
        | nil => rfl
        | cons c rest =>
          rcases hhead c (by rw [hrest]; rfl) with rfl | rfl <;> rfl
      rw [List.cons_append, Statement.assignment, variableName_append hn (hf.endsWord (atSlash_texts ls))]
      dsimp only
      rw [hstrip]

theorem IsTarget.assignment {target : Option String} {e : Expr} {v w : List Char} (h : IsTarget target v)
    (hw : IsExpr e w) : Statement.assignment (v ++ w) = .ok (target, w) := by
  cases h with
  | none => exact hw.assignment
  | @assigned n hn =>
    have hend : EndsWord (' ' :: ':' :: '=' :: ' ' :: w) := by
      intro c hc
      cases hc
      rfl
    have hstrip : strip? [':', '='] (Text.skipBlank (' ' :: ':' :: '=' :: ' ' :: w)) = some (' ' :: w) := rfl
    have hshape : '$' :: (n ++ [' ', ':', '=', ' ']) ++ w = '$' :: (n ++ ' ' :: ':' :: '=' :: ' ' :: w) := by simp
    rw [hshape, Statement.assignment, variableName_append hn hend]
    dsimp only
    rw [hstrip]
    dsimp only
    rw [skipBlank_blank rfl, hw.skipBlank]

/-- **A statement is read as it is written.** -/
theorem Statement.ofText_append {target : Option String} {e : Expr} {v w : List Char} (hv : IsTarget target v)
    (hw : IsExpr e w) (line : Nat) :
    Statement.ofText line (v ++ w) = .ok ⟨line, String.ofList (trim (v ++ w)), target, e⟩ := by
  rw [Statement.ofText, hv.skipBlank hw.skipBlank, hv.assignment hw]
  dsimp only
  rw [hw.read]
  rfl

/-! ### Predicates in brackets -/

/-- A step from the context with a text in brackets. -/
def bracketedStep (n t : List Char) : List Char := ['.', '/'] ++ (n ++ '[' :: (t ++ [']']))

theorem trim_bracketedStep (n t : List Char) : trim (bracketedStep n t) = bracketedStep n t := by
  apply trim_eq_self_of_ends
  · intro c hc
    cases hc
    rfl
  · intro c hc
    have hlast : bracketedStep n t = ('.' :: '/' :: (n ++ '[' :: t)) ++ [']'] := by simp [bracketedStep]
    rw [hlast, List.getLast?_concat] at hc
    cases hc
    rfl

/-- A step with a text in brackets is read exactly when the text is a predicate, and then with it. -/
theorem Step.parse_bracketedStep_iff {n t : List Char} (hn : isName n = true) {step : Step} :
    Step.parse (String.ofList (bracketedStep n t)) = .ok step ↔
      ∃ p, Predicate.Sentence t p ∧
        step = ⟨Target.ofName (String.ofList n), some p, String.ofList (bracketedStep n t)⟩ := by
  have hstrip : strip? ['.', '/'] (bracketedStep n t) = some (n ++ '[' :: (t ++ [']'])) :=
    strip?_eq_some_iff.2 rfl
  have hend : EndsWord ('[' :: (t ++ [']'])) := by
    intro c hc
    cases hc
    decide
  rw [Step.parse, String.toList_ofList, trim_bracketedStep, hstrip]
  dsimp only
  rw [Step.read_name hn hend]
  constructor
  · intro h
    cases hfilter : filter? ('[' :: (t ++ [']'])) with
    | error e =>
      rw [hfilter] at h
      cases h
    | ok found =>
      obtain ⟨filter, rest⟩ := found
      rw [hfilter] at h
      cases rest with
      | cons => cases h
      | nil =>
        cases h
        obtain ⟨p, rfl, hp⟩ := filter?_brackets_iff.1 hfilter
        refine ⟨p, hp, ?_⟩
        rw [List.length_nil, Nat.sub_zero, List.take_length]
  · rintro ⟨p, hp, rfl⟩
    rw [filter?_brackets_iff.2 ⟨p, rfl, hp⟩, Except.map]
    dsimp only
    rw [List.length_nil, Nat.sub_zero, List.take_length]

theorem IsFilter.of_parse {t : String} {p : Predicate} (h : Predicate.parse t = .ok p) :
    IsFilter (some p) ('[' :: (t.toList ++ [']'])) :=
  .bracketed (Predicate.parse_eq_ok_iff.1 h)

/-- A name with a predicate in brackets behind it. -/
structure Bracketed where
  name : String
  text : String
  predicate : Predicate
  isName : Token.isName name.toList = true
  isPredicate : Predicate.parse text = .ok predicate

namespace Bracketed

/-- How it is written behind `lead`. -/
def written (lead : String) (b : Bracketed) : String := lead ++ b.name ++ "[" ++ b.text ++ "]"

def step (lead : String) (b : Bracketed) : Step := ⟨Target.ofName b.name, some b.predicate, b.written lead⟩

def chain (bs : List Bracketed) : String := String.join (bs.map (written "/"))

def link (b : Bracketed) : Link :=
  ⟨b.name.toList, some b.predicate, '[' :: (b.text.toList ++ [']']), b.isName, .of_parse b.isPredicate⟩

theorem toList_written (lead : String) (b : Bracketed) :
    (b.written lead).toList = lead.toList ++ b.link.text := by
  simp [written, link, Link.text]

theorem step_link (lead : String) (b : Bracketed) : b.link.step lead.toList = b.step lead := by
  rw [Link.step, ← toList_written, String.ofList_toList]
  simp only [link, String.ofList_toList]
  rfl

theorem toList_chain (bs : List Bracketed) : (chain bs).toList = Link.texts (bs.map link) := by
  rw [chain, String.toList_join, Link.texts, List.flatMap_map, List.flatMap_map]
  congr 1
  funext b
  rw [toList_written]
  rfl

theorem steps_link (bs : List Bracketed) :
    (bs.map link).map (Link.step ['/']) = bs.map (step "/") := by
  rw [List.map_map]
  congr 1
  funext b
  exact step_link "/" b

end Bracketed

namespace Statement

/-- The text is read as a statement that is the expression `e` alone. -/
def IsAlone (text : String) (line : Nat) (e : Expr) : Prop :=
  Statement.parse text line = .ok ⟨line, String.ofList (trim text.toList), none, e⟩

theorem isAlone_of_isExpr {e : Expr} {text : String} (h : IsExpr e text.toList) (line : Nat) :
    IsAlone text line e :=
  ofText_append .none h line

end Statement

/-- **A text in brackets is read as the predicate that it is by itself.** A step is read exactly when the
text is one; in a chain, texts that are predicates are cut out whole, whatever their strings hold. -/
theorem parse_brackets :
    (∀ n t : String, isName n.toList = true → ∀ step : Step,
      Step.parse ("./" ++ n ++ "[" ++ t ++ "]") = .ok step ↔
        ∃ p, Predicate.parse t = .ok p ∧ step = ⟨Target.ofName n, some p, "./" ++ n ++ "[" ++ t ++ "]"⟩) ∧
    ∀ (bs : List Bracketed) (line : Nat),
      (∀ b : Bracketed,
        Statement.IsAlone (b.written "./" ++ Bracketed.chain bs) line
          ⟨.context, none, b.step "./" :: bs.map (Bracketed.step "/")⟩) ∧
      ∀ (t : String) (p : Predicate), Predicate.parse t = .ok p →
        (∀ x : String, isName x.toList = true →
          Statement.IsAlone ("$" ++ x ++ "[" ++ t ++ "]" ++ Bracketed.chain bs) line
            ⟨.var x, some p, bs.map (Bracketed.step "/")⟩) ∧
        ∀ id w : String, IsQuoted '\'' id.toList w.toList →
          Statement.IsAlone ("g:id('" ++ w ++ "')[" ++ t ++ "]" ++ Bracketed.chain bs) line
            ⟨.lookup id, some p, bs.map (Bracketed.step "/")⟩ := by
  constructor
  · intro n t hn step
    have htext : "./" ++ n ++ "[" ++ t ++ "]" = String.ofList (bracketedStep n.toList t.toList) := by
      rw [← String.toList_inj, String.toList_ofList]
      simp [bracketedStep]
    rw [htext, Step.parse_bracketedStep_iff hn, String.ofList_toList]
    simp only [Predicate.parse_eq_ok_iff]
  · intro bs line
    refine ⟨fun b => ?_, fun t p hp => ⟨fun x hx => ?_, fun id w hw => ?_⟩⟩
    · apply Statement.isAlone_of_isExpr
      have hstep : b.link.step ['.', '/'] = b.step "./" := Bracketed.step_link "./" b
      have htext : (b.written "./" ++ Bracketed.chain bs).toList =
          '.' :: Link.texts (b.link :: bs.map Bracketed.link) := by
        rw [String.toList_append, Bracketed.toList_written, Bracketed.toList_chain]
        rfl
      rw [htext, ← hstep, ← Bracketed.steps_link]
      exact .context b.link (bs.map Bracketed.link)
    · apply Statement.isAlone_of_isExpr
      have h := IsExpr.source (.var hx) (.of_parse hp) (bs.map Bracketed.link)
      rw [Bracketed.steps_link, ← Bracketed.toList_chain, String.ofList_toList] at h
      simpa using h
    · apply Statement.isAlone_of_isExpr
      have h := IsExpr.source (.lookup hw) (.of_parse hp) (bs.map Bracketed.link)
      rw [Bracketed.steps_link, ← Bracketed.toList_chain, String.ofList_toList] at h
      simpa using h

/-- A closing bracket, a slash and a quote inside of the strings of two predicates. -/
theorem parse_brackets_in_strings :
    let outer : Predicate := .compare (.property "k") .eq (.literal (.text "a]'/b["))
    let inner : Predicate := .compare (.literal (.text "']")) .ne .label
    Step.parse "./outE[@k = 'a]\\'/b[']" = .ok ⟨.hop .outE, some outer, "./outE[@k = 'a]\\'/b[']"⟩ ∧
      Statement.IsAlone "$x[@k = 'a]\\'/b[']/outE[@k = 'a]\\'/b[']/inV[\"']\" != @label]" 1
        ⟨.var "x", some outer, [⟨.hop .outE, some outer, "/outE[@k = 'a]\\'/b[']"⟩,
          ⟨.hop .inV, some inner, "/inV[\"']\" != @label]"⟩]⟩ := by
  intro outer inner
  have houter : Predicate.parse "@k = 'a]\\'/b['" = .ok outer := by cbv
  have hinner : Predicate.parse "\"']\" != @label" = .ok inner := by cbv
  let bs : List Bracketed := [⟨"outE", _, outer, by decide, houter⟩, ⟨"inV", _, inner, by decide, hinner⟩]
  constructor
  · exact (parse_brackets.1 "outE" "@k = 'a]\\'/b['" (by decide) _).2 ⟨outer, houter, rfl⟩
  · exact ((parse_brackets.2 bs 1).2 _ outer houter).1 "x" (by decide)

end Footpath
