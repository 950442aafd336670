import Footpath.Completion

/-! What the word before the cursor is completed to.

The cursor is a place between two characters of a line, given by the bytes before it. The characters before it
are found again from that number (`takeBytes_append`), and the word that they end with holds no delimiter and
goes back to one, or to the beginning of the line (`exists_lastWord`). It starts at the bytes of what is before
it, so a completer answers with a place of the line, and with names that go on from the text between that
place and the cursor. Brought up to date with a session, it has the names that lookups in the session find
(`mem_variableNames_iff`, `mem_paths_iff`), whatever it had before, and offers all of them that go on from the
text (`Completer.candidates_exact`). -/
namespace Footpath.Completion

/-! ### Bytes -/

theorem byteLength_eq (s : List Char) : byteLength s = (String.ofList s).utf8ByteSize := by
  have hfrom : ∀ n, s.foldl (fun n c => n + c.utf8Size) n = n + (String.ofList s).utf8ByteSize := by
    induction s with
    | nil => exact fun n => rfl
    | cons c s ih =>
      intro n
      rw [List.foldl_cons, ih, String.ofList_cons, String.utf8ByteSize_append, String.utf8ByteSize_singleton,
        Nat.add_assoc]
  rw [byteLength, hfrom, Nat.zero_add]

theorem byteLength_toList (s : String) : byteLength s.toList = s.utf8ByteSize := by
  rw [byteLength_eq, String.ofList_toList]

theorem byteLength_cons (c : Char) (s : List Char) : byteLength (c :: s) = c.utf8Size + byteLength s := by
  rw [byteLength_eq, byteLength_eq, String.ofList_cons, String.utf8ByteSize_append, String.utf8ByteSize_singleton]

/-- No character is cut in two. -/
theorem takeBytes_append (a b : List Char) : takeBytes (byteLength a) (a ++ b) = a := by
  induction a with
  | nil =>
    cases b with
    | nil => rfl
    | cons c b =>
      have hsize : ¬ c.utf8Size ≤ byteLength [] := Nat.not_le.2 c.utf8Size_pos
      rw [List.nil_append, takeBytes, if_neg hsize]
  | cons c a ih =>
    rw [List.cons_append, takeBytes, byteLength_cons, if_pos (Nat.le_add_right _ _), Nat.add_sub_cancel_left, ih]

theorem takeBytes_of_splits {line before after : String} {cursor : line.Pos} (h : cursor.Splits before after) :
    takeBytes cursor.offset.byteIdx line.toList = before.toList := by
  have hline : line.toList = before.toList ++ after.toList :=
    (congrArg String.toList h.eq_append).trans String.toList_append
  have hcursor : cursor.offset.byteIdx = byteLength before.toList := by
    rw [h.offset_eq_rawEndPos, byteLength_toList]
    rfl
  rw [hline, hcursor, takeBytes_append]

/-! ### Words -/

/-- What ends a word: a blank, or what stands between the parts of an expression. -/
def Delimits (c : Char) : Prop := Text.isBlank c = true ∨ c ∈ ['/', '[', '(', '=', '<', '>', '!']

theorem isDelimiter_iff {c : Char} : isDelimiter c = true ↔ Delimits c := by
  simp [isDelimiter, Delimits, or_assoc]

/-- A word holds no delimiter, and goes back to one or to the beginning. -/
structure IsLastWord (front word : String) : Prop where
  whole : ∀ d ∈ word.toList, ¬ Delimits d
  first : front = "" ∨ ∃ d, front.toList.getLast? = some d ∧ Delimits d

theorem exists_lastWord (before : String) :
    ∃ front word, before = front ++ word ∧ lastWord before.toList = word.toList ∧ IsLastWord front word := by
  let p : Char → Bool := fun c => !isDelimiter c
  refine ⟨String.ofList (before.toList.reverse.dropWhile p).reverse, String.ofList (lastWord before.toList), ?_,
    String.toList_ofList.symm, ?_, ?_⟩
  · rw [← String.ofList_append, lastWord, ← List.reverse_append, List.takeWhile_append_dropWhile,
      List.reverse_reverse, String.ofList_toList]
  · intro d hd
    rw [String.toList_ofList, lastWord, List.mem_reverse] at hd
    have hword : p d = true := List.all_eq_true.1 List.all_takeWhile d hd
    rw [← isDelimiter_iff]
    simpa [p] using hword
  · rw [String.toList_ofList, List.getLast?_reverse]
    have hhead := List.head?_dropWhile_not p before.toList.reverse
    cases hrest : (before.toList.reverse.dropWhile p).head? with
    | none =>
      rw [List.head?_eq_none_iff] at hrest
      rw [hrest]
      exact .inl rfl
    | some d =>
      rw [hrest] at hhead
      exact .inr ⟨d, rfl, isDelimiter_iff.1 (by simpa [p] using hhead)⟩

/-! ### Candidates -/

/-- A text that is a console command up to its first blank. -/
def InCommand (text : String) : Prop := text.toList.head? = some ':' ∧ ' ' ∉ text.toList

theorem isCommand_iff {text : String} : isCommand text.toList = true ↔ InCommand text := by
  simp [isCommand, InCommand]

theorem extending_eq (word : String) (names : List String) :
    extending word.toList names = names.filter fun n => word.toList <+: n.toList := by
  refine List.filter_congr fun n _ => ?_
  rw [Bool.eq_iff_iff, List.isPrefixOf_iff_prefix, decide_eq_true_iff]

/-! ### Names at hand -/

section
variable {s : Session}

/-- Each variable of a session has a name that goes on behind a `$`. -/
theorem mem_variableNames_iff {c : Completer} {n : String} :
    n ∈ (c.update s).variableNames ↔ n.toList.head? = some '$' ∧ (s.env.get? n).isSome = true := by
  constructor
  · intro hn
    obtain ⟨⟨name, xs⟩, hv, rfl⟩ := List.mem_map.1 hn
    refine ⟨by rw [String.toList_append]; rfl, ?_⟩
    rw [Environment.mem_toList_iff.1 hv]
    rfl
  · rintro ⟨hfirst, hn⟩
    obtain ⟨r, hr⟩ := List.head?_eq_some_iff.1 hfirst
    obtain rfl : n = "$" ++ String.ofList r := by
      rw [← String.ofList_toList (s := n), hr, String.ofList_cons]
      rfl
    obtain ⟨xs, hxs⟩ := Option.isSome_iff_exists.1 hn
    exact List.mem_map.2 ⟨(String.ofList r, xs), Environment.mem_toList_iff.2 hxs, rfl⟩

theorem nodup_variableNames (c : Completer) (s : Session) : (c.update s).variableNames.Nodup := by
  have hnames : (c.update s).variableNames = (s.env.toList.map Prod.fst).map ("$" ++ ·) := by
    rw [List.map_map]
    rfl
  rw [hnames]
  refine List.Pairwise.map _ (fun a b hne hab => hne ?_) s.env.nodup_toList
  rw [← bareName_dollar a, ← bareName_dollar b]
  exact congrArg bareName hab

theorem mem_paths_iff {c : Completer} {n : String} :
    n ∈ (c.update s).paths ↔ (s.registry.find? n).isSome = true :=
  (s.registry.find?_isSome_iff n).symm

end

/-! ### What is offered -/

/-- What a session offers for a word behind some text. A console command without a blank is one word from
the beginning of the line on, whatever it holds. Variables are those that are bound, and paths those that are
defined, each once. -/
inductive Offers (s : Session) : String → String → List String → Prop where
  | command {word : String} (h : InCommand word) :
      Offers s "" word ([":help", ":h", ":quit", ":q", ":exit", ":vars", ":paths", ":stats", ":format", ":reset",
        ":tee", ":notee", ":clear"].filter fun n => word.toList <+: n.toList)
  | nothing {front : String} (h : ¬ InCommand front) (hword : IsLastWord front "") : Offers s front "" []
  | bound {front word : String} {names : List String} (h : ¬ InCommand (front ++ word))
      (hword : IsLastWord front word) (hfirst : word.toList.head? = some '$') (hnodup : names.Nodup)
      (hbound : ∀ n, n ∈ names ↔ (s.env.get? n).isSome = true ∧ word.toList <+: n.toList) :
      Offers s front word names
  | named {front word : String} {paths : List String} (h : ¬ InCommand (front ++ word))
      (hword : IsLastWord front word) (hne : word ≠ "") (hfirst : word.toList.head? ≠ some '$')
      (hnodup : paths.Nodup) (hpaths : ∀ n, n ∈ paths ↔ (s.registry.find? n).isSome = true) :
      Offers s front word
        ((["outE", "inE", "outV", "inV", "bothV", "both"] ++ paths ++
          ["path", "end", "and", "or", "true", "false", "g:id(", "@label", "@id"]).filter
            fun n => word.toList <+: n.toList)

/-- Nothing is offered that does not go on from the word. -/
theorem Offers.extend {s : Session} {front word : String} {names : List String} (h : Offers s front word names) :
    ∀ n ∈ names, word.toList <+: n.toList := by
  have hfilter : ∀ all : List String, ∀ n ∈ all.filter (fun n => word.toList <+: n.toList), word.toList <+: n.toList :=
    fun all n hn => of_decide_eq_true (List.mem_filter.1 hn).2
  cases h with
  | command => exact hfilter _
  | nothing => exact fun n hn => absurd hn List.not_mem_nil
  | bound _ _ _ _ hbound => exact fun n hn => ((hbound n).1 hn).2
  | named => exact hfilter _

theorem exists_pos_splits {line front rest : String} (h : line = front ++ rest) :
    ∃ p : line.Pos, p.Splits front rest :=
  ⟨⟨front.rawEndPos, String.Pos.Raw.isValid_iff_exists_append.2 ⟨front, rest, h, rfl⟩⟩, h, rfl⟩

namespace Completer

theorem candidates_of_splits (c : Completer) (s : Session) {line before after : String} {cursor : line.Pos}
    (h : cursor.Splits before after) : ∃ front word, before = front ++ word ∧
      ((c.update s).candidates line cursor.offset.byteIdx).start = front.utf8ByteSize ∧
      Offers s front word ((c.update s).candidates line cursor.offset.byteIdx).names := by
  rw [candidates, takeBytes_of_splits h]
  by_cases hcommand : InCommand before
  · refine ⟨"", before, String.empty_append.symm, ?_, ?_⟩
    · rw [if_pos (isCommand_iff.2 hcommand)]
      rfl
    · rw [if_pos (isCommand_iff.2 hcommand), extending_eq]
      exact .command hcommand
  · obtain ⟨front, word, rfl, hlast, hword⟩ := exists_lastWord before
    have hstart : byteLength (front ++ word).toList - byteLength word.toList = front.utf8ByteSize := by
      rw [byteLength_toList, byteLength_toList, String.utf8ByteSize_append, Nat.add_sub_cancel]
    rw [if_neg (fun h => hcommand (isCommand_iff.1 h)), hlast, hstart]
    refine ⟨front, word, rfl, ?_, ?_⟩
    · split <;> rfl
    · split
      · rename_i hnil
        obtain rfl := String.toList_eq_nil_iff.1 hnil
        rw [String.append_empty] at hcommand
        exact .nothing hcommand hword
      · rename_i r hdollar
        have hfirst : word.toList.head? = some '$' := by rw [hdollar]; rfl
        rw [extending_eq]
        refine .bound hcommand hword hfirst ((nodup_variableNames c s).filter _) fun n => ?_
        rw [List.mem_filter, mem_variableNames_iff, decide_eq_true_iff]
        refine ⟨fun hn => ⟨hn.1.2, hn.2⟩, fun hn => ⟨⟨?_, hn.1⟩, hn.2⟩⟩
        -- What goes on from a word with a `$` has one itself.
        obtain ⟨t, ht⟩ := hn.2
        rw [← ht, hdollar]
        rfl
      · rename_i hnil hdollar
        rw [extending_eq]
        refine .named hcommand hword (fun hempty => hnil (String.toList_eq_nil_iff.2 hempty)) (fun hfirst => ?_)
          s.registry.nodup_names fun n => mem_paths_iff (c := c)
        obtain ⟨r, hr⟩ := List.head?_eq_some_iff.1 hfirst
        exact hdollar r hr

/-- **Completion is sound and complete.** Let a completer be up to date with a session. Wherever the cursor stands
in a line, the candidates replace the text between it and a place of the line at or before it, and all of them
go on from this text. They are all that the session offers for it: a command from the beginning of the line
on, or the word in front of the cursor. -/
theorem candidates_exact (c : Completer) (s : Session) {line : String} (cursor : line.Pos) :
    let found := (c.update s).candidates line cursor.offset.byteIdx
    ∃ (start : line.Pos) (front word rest : String),
      found.start = start.offset.byteIdx ∧ start ≤ cursor ∧
      start.Splits front (word ++ rest) ∧ cursor.Splits (front ++ word) rest ∧
      Offers s front word found.names ∧ ∀ n ∈ found.names, word.toList <+: n.toList := by
  intro found
  have hcursor := cursor.splits
  obtain ⟨front, word, hbefore, hstart, hoffers⟩ := c.candidates_of_splits s hcursor
  rw [hbefore] at hcursor
  obtain ⟨start, hsplits⟩ := exists_pos_splits (hcursor.eq_append.trans String.append_assoc)
  refine ⟨start, front, word, _, ?_, ?_, hsplits, hcursor, hoffers, hoffers.extend⟩
  · rw [hstart, hsplits.offset_eq_rawEndPos]
    rfl
  · rw [String.Pos.le_iff, hsplits.offset_eq_rawEndPos, hcursor.offset_eq_rawEndPos, String.Pos.Raw.le_iff]
    show front.utf8ByteSize ≤ (front ++ word).utf8ByteSize
    rw [String.utf8ByteSize_append]
    exact Nat.le_add_right _ _

end Completer

/-- The letter takes two bytes. -/
example : complete (Session.start .empty) "$é/i" 5 = ⟨4, ["inE", "inV"]⟩ := by decide +kernel

end Footpath.Completion
