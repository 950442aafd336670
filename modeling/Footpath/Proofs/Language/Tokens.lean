import Footpath.Proofs.Script.Names
import Footpath.Proofs.Language.Expressions

/-! The tokens of steps.

A step is cut out by two places in the text, where its separator starts and where its reading ends. What lies
between them is the separator and a link (`Step.read_sound`), so that the tokens of a chain stand one behind
the other, with nothing before the first but the source of the chain and nothing behind the last but blanks.
A link is read alike behind any separator, so a step of a chain is also a step by itself
(`Step.IsLink.parse_bare`). `parse_tiled` says both of the statements that are read. -/
namespace Footpath
open Text Token

/-! ### What the readers take -/

/-- What is read as a step is a link, and its token reaches from the separator to the end of the link. -/
theorem Step.read_sound (lead : List Char) {s r : List Char} {step : Step}
    (h : Step.read (lead ++ s) s = .ok (step, r)) :
    ∃ l : Link, s = l.text ++ r ∧ step = l.step lead := by
  unfold Step.read at h
  split at h
  · cases h
  · rename_i n m hname
    obtain ⟨rfl, hn⟩ := name?_sound hname
    split at h
    · cases h
    · rename_i filter rest hfilter
      obtain ⟨f, rfl, hf⟩ := filter?_sound hfilter
      cases h
      refine ⟨⟨n, filter, f, hn, hf⟩, (List.append_assoc n f r).symm, ?_⟩
      have hsplit : lead ++ (n ++ (f ++ r)) = (lead ++ (n ++ f)) ++ r := by simp
      rw [hsplit, List.length_append, Nat.add_sub_cancel, List.take_left]
      rfl

theorem Step.chain_sound {s r : List Char} {steps : List Step} (h : Step.chain s = .ok (steps, r)) :
    ∃ ls : List Link, s = Link.texts ls ++ r ∧ steps = ls.map (Link.step ['/']) := by
  induction hlen : s.length using Nat.strongRecOn generalizing s steps with
  | ind n ih =>
    by_cases hslash : ∃ t, s = '/' :: t
    · obtain ⟨t, rfl⟩ := hslash
      rw [Step.chain_slash] at h
      split at h
      · cases h
      · rename_i step m hread
        obtain ⟨l, rfl, rfl⟩ := Step.read_sound ['/'] hread
        split at h
        · cases h
        · rename_i steps' rest hchain
          cases h
          have hshort : m.length < n := by
            rw [← hlen, List.length_cons, List.length_append]
            omega
          obtain ⟨ls, rfl, rfl⟩ := ih m.length hshort hchain rfl
          refine ⟨l :: ls, ?_, rfl⟩
          simp [Link.texts]
    · rw [Step.chain.eq_def] at h
      split at h
      · rename_i t
        exact absurd ⟨t, rfl⟩ hslash
      · cases h
        exact ⟨[], rfl, rfl⟩

/-! ### Links by themselves -/

theorem Link.text_ne_nil (l : Link) : l.text ≠ [] := by
  intro h
  have hn := l.isName
  rw [(List.append_eq_nil_iff.1 h).1] at hn
  cases hn

/-- A link ends with a part of a name or with a bracket. -/
theorem Link.isBlank_of_getLast? (l : Link) {c : Char} (h : l.text.getLast? = some c) : isBlank c = false := by
  obtain ⟨n, filter, f, hn, hf⟩ := l
  cases hf with
  | none =>
    rw [Link.text, List.append_nil] at h
    exact isBlank_of_mem_name hn (List.mem_of_getLast? h)
  | @bracketed t p hp =>
    have hlast : n ++ '[' :: (t ++ [']']) = (n ++ '[' :: t) ++ [']'] := by simp
    rw [Link.text, hlast, List.getLast?_concat] at h
    cases h
    rfl

/-- A link behind a dot and a slash is read as a step. -/
theorem Step.parse_link (l : Link) :
    Step.parse (String.ofList (['.', '/'] ++ l.text)) = .ok (l.step ['.', '/']) := by
  have htrim : trim (['.', '/'] ++ l.text) = ['.', '/'] ++ l.text := by
    apply trim_eq_self_of_ends
    · intro c hc
      cases hc
      rfl
    · intro c hc
      rw [List.getLast?_append_of_ne_nil _ l.text_ne_nil] at hc
      exact l.isBlank_of_getLast? hc
  have hread := Step.read_link l ['.', '/'] (r := []) fun c hc => nomatch hc
  rw [List.append_nil] at hread
  rw [Step.parse, String.toList_ofList, htrim, strip?_eq_some_iff.2 rfl]
  dsimp only
  rw [hread]

/-- The token of a step without its separator. -/
def Step.bare (s : Step) : String :=
  match s.token.toList with
  | '.' :: '/' :: w => String.ofList w
  | '/' :: w => String.ofList w
  | w => String.ofList w

/-- The steps that chains are made of: the first from the context, and those behind a slash. -/
inductive Step.IsLink : Step → Prop where
  | first (l : Link) : IsLink (l.step ['.', '/'])
  | next (l : Link) : IsLink (l.step ['/'])

theorem isLink_links (ls : List Link) : ∀ s ∈ ls.map (Link.step ['/']), s.IsLink := by
  intro s hs
  obtain ⟨l, -, rfl⟩ := List.mem_map.1 hs
  exact .next l

/-- A step of a chain means the same by itself. -/
theorem Step.IsLink.parse_bare {s : Step} (h : s.IsLink) :
    (s.token = "./" ++ s.bare ∨ s.token = "/" ++ s.bare) ∧
      Step.parse ("./" ++ s.bare) = .ok { s with token := "./" ++ s.bare } := by
  have halone : ∀ l : Link, "./" ++ String.ofList l.text = String.ofList (['.', '/'] ++ l.text) := by
    intro l
    rw [String.ofList_append]
  cases h with
  | first l =>
    have hbare : (l.step ['.', '/']).bare = String.ofList l.text := by simp [Step.bare, Link.step]
    rw [hbare, halone]
    exact ⟨.inl rfl, Step.parse_link l⟩
  | next l =>
    have hbare : (l.step ['/']).bare = String.ofList l.text := by simp [Step.bare, Link.step]
    rw [hbare, halone]
    refine ⟨.inr ?_, Step.parse_link l⟩
    show String.ofList (['/'] ++ l.text) = _
    rw [String.ofList_append]

theorem Step.IsLink.exists_getLast? {s : Step} (h : s.IsLink) :
    ∃ c, s.token.toList.getLast? = some c ∧ isBlank c = false := by
  have hend : ∀ (l : Link) (lead : List Char),
      ∃ c, (l.step lead).token.toList.getLast? = some c ∧ isBlank c = false := by
    intro l lead
    obtain ⟨c, hc⟩ := Option.isSome_iff_exists.1 (List.getLast?_isSome.2 l.text_ne_nil)
    refine ⟨c, ?_, l.isBlank_of_getLast? hc⟩
    rw [Link.step, String.toList_ofList, List.getLast?_append_of_ne_nil _ l.text_ne_nil, hc]
  cases h with
  | first l => exact hend l _
  | next l => exact hend l _

/-! ### Sources -/

theorem lookupId_suffix {s r : List Char} {id : String} (h : lookupId s = .ok (id, r)) : r <:+ s := by
  unfold lookupId at h
  split at h
  · cases h
  · rename_i c cs hs
    have hsuffix : c :: cs <:+ s := hs ▸ skipBlank_suffix s
    split at h
    · rename_i hquote
      split at h
      · rename_i t m hread
        cases h
        have hb : c ≠ '\\' := by
          rintro rfl
          exact absurd hquote (by decide)
        obtain ⟨w, rfl, -⟩ := (quoted?_eq_some_iff hb).1 hread
        have hrest : r <:+ c :: (w ++ c :: r) := ⟨c :: (w ++ [c]), by simp⟩
        exact hrest.trans hsuffix
      · cases h
    · split at h
      · split at h
        · rename_i n m hread
          cases h
          obtain ⟨w, hw, -⟩ := numeral?_sound hread
          exact List.IsSuffix.trans ⟨w, hw.symm⟩ hsuffix
        · cases h
      · cases h

theorem lookupCall_suffix {s r : List Char} {id : String} (h : lookupCall s = .ok (id, r)) : r <:+ s := by
  unfold lookupCall at h
  split at h
  · cases h
  · rename_i id' m hid
    split at h
    · rename_i rest hm
      cases h
      have hrest : r <:+ skipBlank m := ⟨[')'], hm.symm⟩
      exact (hrest.trans (skipBlank_suffix m)).trans (lookupId_suffix hid)
    · cases h

theorem variableName_sound {s r : List Char} {name : String} (h : variableName ('$' :: s) = .ok (name, r)) :
    ∃ n, s = n ++ r ∧ name = String.ofList n ∧ isName n = true := by
  unfold variableName at h
  split at h
  · cases h
  · rename_i n m hread
    cases h
    obtain ⟨hs, hn⟩ := name?_sound hread
    exact ⟨n, hs, rfl, hn⟩

theorem Source.read_sound {whole s r : List Char} {src : Source} (h : Source.read whole s = .ok (src, r)) :
    src ≠ .context ∧ r <:+ s := by
  unfold Source.read at h
  split at h
  · cases h
  · split at h
    · cases h
    · rename_i t name m hname
      cases h
      obtain ⟨n, rfl, -, -⟩ := variableName_sound hname
      exact ⟨nofun, '$' :: n, rfl⟩
  · split at h
    · cases h
    · rename_i t hstrip
      split at h
      · cases h
      · rename_i id m hcall
        cases h
        rw [strip?_eq_some_iff.1 hstrip]
        exact ⟨nofun, (lookupCall_suffix hcall).trans (List.suffix_append _ _)⟩

/-! ### Expressions -/

/-- The tokens of steps, one behind the other. -/
def tokens (steps : List Step) : List Char := steps.flatMap fun s => s.token.toList

theorem tokens_links (ls : List Link) : tokens (ls.map (Link.step ['/'])) = Link.texts ls := by
  rw [tokens, Link.texts, List.flatMap_map]
  congr 1
  funext l
  exact String.toList_ofList

/-- The tokens of the steps stand at the end of what an expression takes; from the context they are all of it. -/
theorem Expr.read_sound {whole s r : List Char} {e : Expr} (h : Expr.read whole s = .ok (e, r)) :
    (∀ step ∈ e.steps, step.IsLink) ∧ ∃ w, s = w ++ (tokens e.steps ++ r) ∧ (e.source = .context → w = []) := by
  unfold Expr.read at h
  split at h
  · rename_i t hstrip
    obtain rfl := strip?_eq_some_iff.1 hstrip
    split at h
    · cases h
    · rename_i first m hread
      obtain ⟨l, rfl, rfl⟩ := Step.read_sound ['.', '/'] hread
      split at h
      · cases h
      · rename_i steps rest hchain
        cases h
        obtain ⟨ls, rfl, rfl⟩ := Step.chain_sound hchain
        refine ⟨List.forall_mem_cons.2 ⟨.first l, isLink_links ls⟩, [], ?_, fun _ => rfl⟩
        have hfirst : tokens (l.step ['.', '/'] :: ls.map (Link.step ['/'])) =
            ['.', '/'] ++ l.text ++ tokens (ls.map (Link.step ['/'])) := by
          rw [tokens, List.flatMap_cons, Link.step, String.toList_ofList]
          rfl
        rw [hfirst, tokens_links]
        simp
  · split at h
    · cases h
    · rename_i src m hsource
      obtain ⟨hsrc, v, rfl⟩ := Source.read_sound hsource
      split at h
      · cases h
      · rename_i filter m' hfilter
        obtain ⟨f, rfl, hf⟩ := filter?_sound hfilter
        split at h
        · cases h
        · rename_i steps rest hchain
          cases h
          obtain ⟨ls, rfl, rfl⟩ := Step.chain_sound hchain
          refine ⟨isLink_links ls, v ++ f, ?_, fun hcontext => absurd hcontext hsrc⟩
          rw [tokens_links]
          simp

/-! ### Statements -/

/-- What stands in front of an expression: nothing, or a variable and `:=` with blanks around it. -/
inductive IsLead : Option String → List Char → Prop where
  | none : IsLead none []
  | assigned {n b c : List Char} (hn : isName n = true) (hb : ∀ x ∈ b, isBlank x = true)
      (hc : ∀ x ∈ c, isBlank x = true) :
      IsLead (some (String.ofList n)) ('$' :: (n ++ (b ++ ':' :: '=' :: c)))

theorem exists_blank (s : List Char) : ∃ b, s = b ++ skipBlank s ∧ ∀ x ∈ b, isBlank x = true :=
  ⟨s.takeWhile isBlank, List.takeWhile_append_dropWhile.symm, fun _ hx => List.mem_takeWhile_imp hx⟩

theorem Statement.assignment_sound {s r : List Char} {target : Option String}
    (h : Statement.assignment s = .ok (target, r)) : ∃ v, s = v ++ r ∧ IsLead target v := by
  unfold Statement.assignment at h
  split at h
  · split at h
    · cases h
    · rename_i t name m hname
      obtain ⟨n, rfl, rfl, hn⟩ := variableName_sound hname
      split at h
      · rename_i rest hstrip
        cases h
        obtain ⟨b, hm, hb⟩ := exists_blank m
        obtain ⟨c, hrest, hc⟩ := exists_blank rest
        refine ⟨_, ?_, .assigned hn hb hc⟩
        rw [hm, strip?_eq_some_iff.1 hstrip]
        conv_lhs => rw [hrest]
        simp
      · cases h
        exact ⟨[], rfl, .none⟩
  · cases h
    exact ⟨[], rfl, .none⟩

/-- The last of the tokens does not end with a blank. -/
theorem exists_getLast?_tokens {steps : List Step} (h : ∀ s ∈ steps, s.IsLink) (hne : steps ≠ []) :
    ∃ c, (tokens steps).getLast? = some c ∧ isBlank c = false := by
  obtain ⟨c, hc, hblank⟩ := (h _ (List.getLast_mem hne)).exists_getLast?
  refine ⟨c, ?_, hblank⟩
  have hlast : tokens steps = tokens steps.dropLast ++ (steps.getLast hne).token.toList := by
    conv_lhs => rw [← List.dropLast_concat_getLast hne]
    simp [tokens]
  rw [hlast, List.getLast?_append, hc]
  rfl

/-- **The tokens of the steps tile a statement**, and each step means by itself what it means there. -/
theorem parse_tiled {text : String} {line : Nat} {s : Statement} (h : Statement.parse text line = .ok s)
    (hne : s.expr.steps ≠ []) :
    s.text = String.ofList (trim text.toList) ∧
    (∃ lead, s.text.toList = lead ++ tokens s.expr.steps ∧ (s.expr.source = .context → IsLead s.target lead)) ∧
    ∀ step ∈ s.expr.steps, (step.token = "./" ++ step.bare ∨ step.token = "/" ++ step.bare) ∧
      Step.parse ("./" ++ step.bare) = .ok { step with token := "./" ++ step.bare } := by
  unfold Statement.parse Statement.ofText at h
  split at h
  · cases h
  · rename_i target m hassign
    split at h
    · cases h
    · rename_i expr r hexpr
      split at h
      · rename_i hend
        cases h
        obtain ⟨v, hstart, hlead⟩ := Statement.assignment_sound hassign
        obtain ⟨hlinks, w, rfl, hwhole⟩ := Expr.read_sound hexpr
        obtain ⟨c, hc, hblank⟩ := exists_getLast?_tokens hlinks hne
        have htrim : trim text.toList = v ++ w ++ tokens expr.steps := by
          have hsplit : v ++ (w ++ (tokens expr.steps ++ r)) = (v ++ w ++ tokens expr.steps) ++ r := by simp
          rw [trim, hstart, hsplit]
          apply dropBlankEnd_append (List.dropWhile_eq_nil_iff.1 hend)
          intro d hd
          rw [List.getLast?_append, hc] at hd
          cases hd
          exact hblank
        refine ⟨rfl, ⟨v ++ w, ?_, fun hcontext => ?_⟩, fun step hstep => (hlinks step hstep).parse_bare⟩
        · rw [String.toList_ofList, htrim]
        · rw [hwhole hcontext, List.append_nil]
          exact hlead
      · cases h

/-- Blanks around an assignment, and a letter that is not ASCII, a slash and a bracket in a text. -/
theorem parse_tiled_assigned :
    let p : Predicate := .compare (.property "k") .eq (.literal (.text "à/b]"))
    let knows : Step := ⟨.path "knows", some p, "./knows[@k = 'à/b]' ]"⟩
    let out : Step := ⟨.hop .outE, none, "/outE"⟩
    let s : Statement := ⟨3, "$x := ./knows[@k = 'à/b]' ]/outE", some "x", ⟨.context, none, [knows, out]⟩⟩
    Statement.parse " $x := ./knows[@k = 'à/b]' ]/outE\t" 3 = .ok s ∧
      (∃ lead, s.text.toList = lead ++ tokens s.expr.steps ∧ IsLead (some "x") lead) ∧
      Step.parse "./knows[@k = 'à/b]' ]" = .ok knows ∧ Step.parse "./outE" = .ok { out with token := "./outE" } := by
  intro p knows out s
  have hread : Statement.parse " $x := ./knows[@k = 'à/b]' ]/outE\t" 3 = .ok s := by cbv
  have hknows : "./" ++ knows.bare = "./knows[@k = 'à/b]' ]" := by decide +kernel
  have hout : "./" ++ out.bare = "./outE" := by decide +kernel
  obtain ⟨-, ⟨lead, htext, hlead⟩, hsteps⟩ := parse_tiled hread (List.cons_ne_nil knows [out])
  refine ⟨hread, ⟨lead, htext, hlead rfl⟩, ?_, ?_⟩
  · have hstep := (hsteps knows List.mem_cons_self).2
    rwa [hknows] at hstep
  · have hstep := (hsteps out (List.mem_cons_of_mem knows List.mem_cons_self)).2
    rwa [hout] at hstep

end Footpath
