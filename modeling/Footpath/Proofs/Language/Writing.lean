import Footpath.Proofs.Language.Expressions

/-! A canonical text for every statement, and that it is read back.

Strings stand in single quotes with a backslash before quotes and backslashes, connectives in parentheses,
and everything else as messages write it. A blank or a parenthesis sets off each operand, so a predicate
reads as the lexemes that it was written from (`reads_written`), and these derive it. Steps are links. What
is read back (`parse_written`) may differ from the statement in its text and the tokens of its steps, which
say how it was written before. -/
namespace Footpath
open Text Token

/-! ### Texts -/

def escape (c : Char) : List Char := if c = '\\' || c = '\'' then ['\\', c] else [c]

/-- A text between single quotes. -/
def quote (s : String) : String := "'" ++ String.ofList (s.toList.flatMap escape) ++ "'"

def Operand.written : Operand → String
  | .literal (.text s) => quote s
  | o => o.render

def Predicate.written : Predicate → String
  | .compare l op r => l.written ++ " " ++ op.symbol ++ " " ++ r.written
  | .and p q => "(" ++ p.written ++ " and " ++ q.written ++ ")"
  | .or p q => "(" ++ p.written ++ " or " ++ q.written ++ ")"

def writtenFilter : Option Predicate → String
  | none => ""
  | some p => "[" ++ p.written ++ "]"

def Target.name : Target → String
  | .hop h => h.name
  | .path name => name

def Step.written (s : Step) : String := "/" ++ s.target.name ++ writtenFilter s.filter

def Source.written : Source → String
  | .context => "."
  | .var name => "$" ++ name
  | .lookup id => "g:id(" ++ quote id ++ ")"

def Expr.written (e : Expr) : String :=
  e.source.written ++ writtenFilter e.filter ++ String.join (e.steps.map Step.written)

def writtenTarget : Option String → String
  | none => ""
  | some name => "$" ++ name ++ " := "

def Statement.written (s : Statement) : String := writtenTarget s.target ++ s.expr.written

/-! ### What can be written -/

/-- A property under a name of its own, not that of the label or the identity, or a literal but no float. -/
def Operand.isWritable : Operand → Bool
  | .property name => isName name.toList && name != "label" && name != "id"
  | .literal (.float _) => false
  | _ => true

def Predicate.isWritable : Predicate → Bool
  | .compare l _ r => l.isWritable && r.isWritable
  | .and p q => p.isWritable && q.isWritable
  | .or p q => p.isWritable && q.isWritable

def Target.isWritable : Target → Bool
  | .hop _ => true
  | .path name => isName name.toList && !isReserved name

def Step.isWritable (s : Step) : Bool := s.target.isWritable && s.filter.all Predicate.isWritable

/-- From the context there is no filter and at least one step. -/
def Expr.isWritable (e : Expr) : Bool :=
  (match e.source with
    | .context => e.filter.isNone && !e.steps.isEmpty
    | .var name => isName name.toList
    | .lookup _ => true) &&
  e.filter.all Predicate.isWritable && e.steps.all Step.isWritable

def Statement.isWritable (s : Statement) : Bool :=
  s.target.all (fun name => isName name.toList) && s.expr.isWritable

/-! ### Operands -/

theorem isQuoted_escape (s : List Char) : IsQuoted '\'' s (s.flatMap escape) := by
  induction s with
  | nil => exact .nil
  | cons c s ih =>
    rw [List.flatMap_cons, escape]
    split
    · rename_i hc
      have hself : unescape c = c := by
        rcases Bool.or_eq_true _ _ ▸ hc with h | h
        · rw [of_decide_eq_true h]
          rfl
        · rw [of_decide_eq_true h]
          rfl
      have h := IsQuoted.escaped c ih
      rwa [hself] at h
    · rename_i hc
      simp only [Bool.or_eq_true, decide_eq_true_eq, not_or] at hc
      exact .plain hc.2 hc.1 ih

theorem toList_quote (s : String) : (quote s).toList = '\'' :: (s.toList.flatMap escape ++ ['\'']) := by
  simp [quote]

theorem isNumeral_digits (negative : Bool) {ds : List Char} (hds : IsDigits ds) :
    IsNumeral ⟨negative, ds, 0, true⟩ ((if negative then ['-'] else []) ++ ds) := by
  have h := IsNumeral.mk negative hds .none .none
  simpa using h

theorem isDigits_toDigits (m : Nat) : IsDigits (Nat.toDigits 10 m) :=
  ⟨Nat.toDigits_ne_nil, fun _ hc => Nat.isDigit_of_mem_toDigits (by decide) (by decide) hc⟩

/-- Every integer of 64 bits is within the bounds that a numeral is held to. -/
theorem value_of_toInt {negative : Bool} {ds : List Char} {i : Int64}
    (hi : i.toInt = if negative then -(Nat.ofDigitChars 10 ds 0 : Int) else Nat.ofDigitChars 10 ds 0) :
    (⟨negative, ds, 0, true⟩ : Numeral).value = .integer i := by
  have hmin : Int64.minValue.toInt ≤ i.toInt := by
    rw [Int64.toInt_minValue]
    exact Int64.le_toInt i
  have hmax : i.toInt ≤ Int64.maxValue.toInt := by
    rw [Int64.toInt_maxValue]
    have := Int64.toInt_lt i
    omega
  rw [Numeral.value]
  dsimp only
  rw [← hi, decide_eq_true hmin, decide_eq_true hmax, Int64.ofInt_toInt]
  rfl

theorem exists_numeral (i : Int64) : ∃ n, IsNumeral n (toString i.toInt).toList ∧ n.value = .integer i := by
  have hvalue (m : Nat) : Nat.ofDigitChars 10 (Nat.toDigits 10 m) 0 = m :=
    Nat.ofDigitChars_toDigits (by decide) (by decide)
  cases hi : i.toInt with
  | ofNat m =>
    have htext : (toString (Int.ofNat m)).toList = Nat.toDigits 10 m := Nat.toList_repr
    rw [htext]
    refine ⟨⟨false, Nat.toDigits 10 m, 0, true⟩, isNumeral_digits false (isDigits_toDigits m), value_of_toInt ?_⟩
    rw [hvalue]
    exact hi
  | negSucc m =>
    have htext : (toString (Int.negSucc m)).toList = '-' :: Nat.toDigits 10 (m + 1) := by
      show ("-" ++ Nat.repr (m + 1)).toList = _
      rw [String.toList_append, Nat.toList_repr]
      rfl
    rw [htext]
    refine ⟨⟨true, Nat.toDigits 10 (m + 1), 0, true⟩, isNumeral_digits true (isDigits_toDigits (m + 1)),
      value_of_toInt ?_⟩
    rw [hvalue]
    exact hi

theorem Operand.spells_written {o : Operand} (h : o.isWritable = true) :
    Spells (.operand o) o.written.toList := by
  cases o with
  | property name =>
    simp only [isWritable, Bool.and_eq_true, bne_iff_ne, ne_eq] at h
    obtain ⟨⟨hname, hlabel⟩, hid⟩ := h
    have htext : (Operand.property name).written.toList = '@' :: name.toList := by simp [written, render]
    have hspells := Spells.property hname (fun h => hlabel (String.toList_inj.1 h))
      (fun h => hid (String.toList_inj.1 h))
    rw [String.ofList_toList] at hspells
    rwa [htext]
  | label => exact .label
  | identity => exact .identity
  | literal v =>
    cases v with
    | boolean b =>
      cases b with
      | false => exact .word (k := ['f', 'a', 'l', 's', 'e']) (by simp [words]) rfl
      | true => exact .word (k := ['t', 'r', 'u', 'e']) (by simp [words]) rfl
    | integer i =>
      obtain ⟨n, hn, hvalue⟩ := exists_numeral i
      have hspells := Spells.number hn
      rwa [hvalue] at hspells
    | float x => cases h
    | text s =>
      have hspells := Spells.text (.inl rfl) (isQuoted_escape s.toList)
      rw [String.ofList_toList] at hspells
      rwa [written, toList_quote]

/-! ### Predicates -/

/-- The lexemes of a predicate with every connective in parentheses. -/
def Predicate.lexemes : Predicate → List Lexeme
  | .compare l op r => [.operand l, .comparison op, .operand r]
  | .and p q => .opening :: ((p.lexemes ++ .and :: q.lexemes) ++ [.closing])
  | .or p q => .opening :: ((p.lexemes ++ .or :: q.lexemes) ++ [.closing])

namespace Predicate

theorem derives_lexemes (p : Predicate) : Derives .primary p.lexemes p := by
  induction p with
  | compare l op r => exact .compare l op r
  | and p q ihp ihq => exact .group (.term (.and (.factor ihp) ihq))
  | or p q ihp ihq => exact .group (.or (.term (.factor ihp)) (.factor ihq))

/-- A spelling that is set off is the next lexeme. -/
theorem reads_spelled {x : Lexeme} {w s r : List Char} {xs : List Lexeme} (hx : Spells x w) (hs : SetOff s)
    (h : Reads s xs r) : Reads (w ++ s) (x :: xs) r :=
  .cons (munches_iff.2 ⟨lexeme?_append hx hs, fun _ => hs.endsWord⟩) h

theorem reads_blank {s r : List Char} {xs : List Lexeme} (h : Reads s xs r) : Reads (' ' :: s) xs r :=
  .blank rfl h

theorem setOff_blank (s : List Char) : SetOff (' ' :: s) := fun _ h => .inl (Option.some.inj h).symm

theorem setOff_closing (s : List Char) : SetOff (')' :: s) := fun _ h => .inr (Option.some.inj h).symm

/-- Two predicates in parentheses around a word, read if each of them is. -/
theorem reads_joined {p q k r : List Char} {x : Lexeme} {xs ys : List Lexeme} (hk : Spells x k)
    (hp : ∀ s, SetOff s → Reads (p ++ s) xs s) (hq : ∀ s, SetOff s → Reads (q ++ s) ys s) :
    Reads ('(' :: (p ++ ' ' :: (k ++ ' ' :: (q ++ ')' :: r)))) (.opening :: ((xs ++ x :: ys) ++ [.closing])) r := by
  have hclosing : Reads (')' :: r) [.closing] r :=
    (reads_parenthesis_iff (.inr ⟨rfl, rfl⟩)).2 ⟨r, rfl, .nil r⟩
  have hright : Reads (q ++ ')' :: r) (ys ++ [.closing]) r := (hq _ (setOff_closing r)).append hclosing
  have hword : Reads (' ' :: (k ++ ' ' :: (q ++ ')' :: r))) (x :: (ys ++ [.closing])) r :=
    reads_blank (reads_spelled hk (setOff_blank _) (reads_blank hright))
  have hall := (hp _ (setOff_blank _)).append hword
  refine (reads_parenthesis_iff (.inl ⟨rfl, rfl⟩)).2 ⟨_, rfl, ?_⟩
  rwa [List.append_assoc, List.cons_append]

theorem reads_written {p : Predicate} (h : p.isWritable = true) {r : List Char} (hr : SetOff r) :
    Reads (p.written.toList ++ r) p.lexemes r := by
  induction p generalizing r with
  | compare l op o =>
    obtain ⟨hl, ho⟩ := Bool.and_eq_true_iff.1 h
    have hright := reads_blank (reads_spelled (Operand.spells_written ho) hr (.nil r))
    have hop := reads_blank (reads_spelled (.comparison op) (setOff_blank _) hright)
    have hleft := reads_spelled (Operand.spells_written hl) (setOff_blank _) hop
    simpa [written, lexemes] using hleft
  | and p q ihp ihq =>
    obtain ⟨hp, hq⟩ := Bool.and_eq_true_iff.1 h
    have hk : Spells .and ['a', 'n', 'd'] := .word mem_words_and rfl
    have hread := reads_joined (r := r) hk (fun s hs => ihp hp hs) (fun s hs => ihq hq hs)
    simpa [written, lexemes] using hread
  | or p q ihp ihq =>
    obtain ⟨hp, hq⟩ := Bool.and_eq_true_iff.1 h
    have hk : Spells .or ['o', 'r'] := .word mem_words_or rfl
    have hread := reads_joined (r := r) hk (fun s hs => ihp hp hs) (fun s hs => ihq hq hs)
    simpa [written, lexemes] using hread

theorem sentence_written {p : Predicate} (h : p.isWritable = true) : Sentence p.written.toList p := by
  have hread := reads_written h setOff_nil
  rw [List.append_nil] at hread
  exact ⟨_, hread, .term (.factor p.derives_lexemes)⟩

end Predicate

theorem isFilter_written {filter : Option Predicate} (h : filter.all Predicate.isWritable = true) :
    IsFilter filter (writtenFilter filter).toList := by
  cases filter with
  | none => exact .none
  | some p =>
    have hfilter := IsFilter.bracketed (Predicate.sentence_written h)
    simpa [writtenFilter] using hfilter

/-! ### Steps -/

theorem Target.isName_name {t : Target} (h : t.isWritable = true) : isName t.name.toList = true := by
  cases t with
  | hop hop => cases hop <;> decide
  | path name => exact (Bool.and_eq_true_iff.1 h).1

theorem Target.ofName_name {t : Target} (h : t.isWritable = true) : Target.ofName t.name = t := by
  cases t with
  | hop hop => cases hop <;> decide
  | path name =>
    have hfree : isReserved name = false := by simpa using (Bool.and_eq_true_iff.1 h).2
    have hnone : Hop.ofName? name = none := by simpa [isReserved] using hfree
    rw [Target.name, Target.ofName, hnone]

/-- What a step does: where it goes and what it keeps. -/
def Step.effect (s : Step) : Target × Option Predicate := (s.target, s.filter)

theorem Step.exists_link {s : Step} (h : s.isWritable = true) :
    ∃ l : Link, '/' :: l.text = s.written.toList ∧ ∀ lead, (l.step lead).effect = s.effect := by
  obtain ⟨htarget, hfilter⟩ := Bool.and_eq_true_iff.1 h
  refine ⟨⟨s.target.name.toList, s.filter, _, Target.isName_name htarget, isFilter_written hfilter⟩, ?_, ?_⟩
  · simp [Step.written, Link.text]
  · intro lead
    rw [Step.effect, Link.step, String.ofList_toList, Target.ofName_name htarget]
    rfl

theorem exists_links {steps : List Step} (h : steps.all Step.isWritable = true) :
    ∃ ls : List Link, Link.texts ls = (String.join (steps.map Step.written)).toList ∧
      ls.map (fun l => (l.step ['/']).effect) = steps.map Step.effect := by
  induction steps with
  | nil => exact ⟨[], by simp [Link.texts], rfl⟩
  | cons s steps ih =>
    obtain ⟨hs, hsteps⟩ := Bool.and_eq_true_iff.1 (List.all_cons ▸ h)
    obtain ⟨l, hl, heffect⟩ := Step.exists_link hs
    obtain ⟨ls, htexts, heffects⟩ := ih hsteps
    refine ⟨l :: ls, ?_, ?_⟩
    · rw [List.map_cons, String.join_cons, String.toList_append, ← htexts, ← hl]
      rfl
    · rw [List.map_cons, List.map_cons, heffects, heffect]

/-! ### Expressions and statements -/

/-- Expressions that differ in the tokens of their steps at most. -/
structure Expr.Like (e e' : Expr) : Prop where
  source : e.source = e'.source
  filter : e.filter = e'.filter
  steps : e.steps.map Step.effect = e'.steps.map Step.effect

theorem isSource_var {name : String} (h : isName name.toList = true) :
    IsSource (.var name) (Source.var name).written.toList := by
  have hsource := IsSource.var h
  rw [String.ofList_toList] at hsource
  simpa [Source.written] using hsource

theorem isSource_lookup (id : String) : IsSource (.lookup id) (Source.lookup id).written.toList := by
  have hsource := IsSource.lookup (isQuoted_escape id.toList)
  rw [String.ofList_toList] at hsource
  simpa [Source.written, toList_quote] using hsource

theorem Expr.exists_isExpr {e : Expr} (h : e.isWritable = true) :
    ∃ e' : Expr, IsExpr e' e.written.toList ∧ e'.Like e := by
  obtain ⟨source, filter, steps⟩ := e
  obtain ⟨h, hsteps⟩ := Bool.and_eq_true_iff.1 h
  obtain ⟨hsource, hfilter⟩ := Bool.and_eq_true_iff.1 h
  obtain ⟨ls, htexts, heffects⟩ := exists_links hsteps
  have hwritten : (Expr.written ⟨source, filter, steps⟩).toList =
      source.written.toList ++ ((writtenFilter filter).toList ++ Link.texts ls) := by
    rw [Expr.written, String.toList_append, String.toList_append, htexts, List.append_assoc]
  have hlike : ∀ src, src = source → Expr.Like ⟨src, filter, ls.map (Link.step ['/'])⟩ ⟨source, filter, steps⟩ := by
    intro src hsrc
    exact ⟨hsrc, rfl, by rw [← heffects, List.map_map]; rfl⟩
  rw [hwritten]
  cases source with
  | var name => exact ⟨_, .source (isSource_var hsource) (isFilter_written hfilter) ls, hlike _ rfl⟩
  | lookup id => exact ⟨_, .source (isSource_lookup id) (isFilter_written hfilter) ls, hlike _ rfl⟩
  | context =>
    obtain ⟨hnone, hsome⟩ := Bool.and_eq_true_iff.1 hsource
    obtain rfl := Option.isNone_iff_eq_none.1 hnone
    cases ls with
    | nil => simp_all
    | cons l ls => exact ⟨_, .context l ls, rfl, rfl, by rw [← heffects, List.map_cons, List.map_map]; rfl⟩

theorem isTarget_written {target : Option String} (h : target.all (fun name => isName name.toList) = true) :
    IsTarget target (writtenTarget target).toList := by
  cases target with
  | none => exact .none
  | some name =>
    have htarget := IsTarget.assigned (n := name.toList) h
    rw [String.ofList_toList] at htarget
    simpa [writtenTarget] using htarget

/-- **What is written of a statement is read back**, on whatever line. -/
theorem parse_written {s : Statement} (h : s.isWritable = true) (line : Nat) :
    ∃ t, Statement.parse s.written line = .ok t ∧ t.line = line ∧ t.target = s.target ∧ t.expr.Like s.expr := by
  obtain ⟨htarget, hexpr⟩ := Bool.and_eq_true_iff.1 h
  obtain ⟨e, he, hlike⟩ := Expr.exists_isExpr hexpr
  have hread := Statement.ofText_append (isTarget_written htarget) he line
  rw [← String.toList_append] at hread
  exact ⟨_, hread, rfl, rfl, hlike⟩

/-- A filter on a lookup, a nested predicate, the least integer, and every character that is escaped. -/
theorem parse_written_lookup :
    let least : Predicate := .compare (.property "age") .ge (.literal (.integer Int64.minValue))
    let either : Predicate := .or (.compare .label .eq (.literal (.text "it's ]\\")))
      (.and least (.compare (.literal (.boolean false)) .ne .identity))
    let s : Statement := ⟨0, "", some "t", ⟨.lookup "a'b", some either, [⟨.hop .outE, none, ""⟩,
      ⟨.path "friends", some least, ""⟩]⟩⟩
    s.written = "$t := g:id('a\\'b')[(@label = 'it\\'s ]\\\\' or (@age >= -9223372036854775808 and " ++
        "false != @id))]/outE/friends[@age >= -9223372036854775808]" ∧
      s.isWritable = true ∧
      ∃ t, Statement.parse s.written 7 = .ok t ∧ t.line = 7 ∧ t.target = some "t" ∧ t.expr.Like s.expr := by
  intro least either s
  have hwritable : s.isWritable = true := by cbv
  exact ⟨rfl, hwritable, parse_written hwritable 7⟩

end Footpath
