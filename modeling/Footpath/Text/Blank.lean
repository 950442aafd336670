/-! White space, after the Unicode property `White_Space`, and cutting a text at it or at its line
ends. -/
namespace Footpath.Text

def isBlank (c : Char) : Bool :=
  let n := c.toNat
  (9 ≤ n && n ≤ 13) || n == 0x20 || n == 0x85 || n == 0xa0 || n == 0x1680 ||
    (0x2000 ≤ n && n ≤ 0x200a) || n == 0x2028 || n == 0x2029 || n == 0x202f || n == 0x205f || n == 0x3000

theorem isBlank_of_isDigit {c : Char} (h : c.isDigit = true) : isBlank c = false := by
  simp only [Char.isDigit, Bool.and_eq_true, decide_eq_true_eq] at h
  have h1 : 48 ≤ c.toNat := h.1
  have h2 : c.toNat ≤ 57 := h.2
  simp only [isBlank]
  grind

theorem toNat_of_isAlpha {c : Char} (h : c.isAlpha = true) :
    (65 ≤ c.toNat ∧ c.toNat ≤ 90) ∨ (97 ≤ c.toNat ∧ c.toNat ≤ 122) := by
  have hcase : c.isUpper = true ∨ c.isLower = true := Bool.or_eq_true_iff.1 h
  rcases hcase with hupper | hlower
  · exact .inl (of_decide_eq_true hupper)
  · exact .inr ((Bool.and_eq_true_iff.1 hlower).imp of_decide_eq_true of_decide_eq_true)

theorem isBlank_of_isAlpha {c : Char} (h : c.isAlpha = true) : isBlank c = false := by
  have hrange := toNat_of_isAlpha h
  have h1 : 65 ≤ c.toNat := by omega
  have h2 : c.toNat ≤ 122 := by omega
  clear h hrange
  simp only [isBlank]
  grind

/-! ### Trimming -/

def skipBlank (s : List Char) : List Char := s.dropWhile isBlank

def dropBlankEnd (s : List Char) : List Char := (skipBlank s.reverse).reverse

def trim (s : List Char) : List Char := dropBlankEnd (skipBlank s)

theorem skipBlank_eq_self {s : List Char} (h : ∀ c r, s = c :: r → isBlank c = false) :
    skipBlank s = s := by
  cases s with
  | nil => rfl
  | cons c r => simp [skipBlank, List.dropWhile, h c r rfl]

theorem length_skipBlank_le (s : List Char) : (skipBlank s).length ≤ s.length :=
  (List.dropWhile_sublist _).length_le

theorem skipBlank_suffix (s : List Char) : skipBlank s <:+ s := List.dropWhile_suffix _

/-- Blanks are cut off up to the last character that is not one. -/
theorem dropBlankEnd_append {s r : List Char} (hr : ∀ c ∈ r, isBlank c = true)
    (hs : ∀ c, s.getLast? = some c → isBlank c = false) : dropBlankEnd (s ++ r) = s := by
  have hblank : ∀ c ∈ r.reverse, isBlank c = true := fun c hc => hr c (List.mem_reverse.1 hc)
  have hback : skipBlank s.reverse = s.reverse := by
    apply skipBlank_eq_self
    intro c t ht
    apply hs
    rw [← List.head?_reverse, ht]
    rfl
  rw [dropBlankEnd, List.reverse_append, skipBlank, List.dropWhile_append_of_pos hblank]
  show (skipBlank s.reverse).reverse = s
  rw [hback, List.reverse_reverse]

theorem dropBlankEnd_eq_self {s : List Char} (h : ∀ c, s.getLast? = some c → isBlank c = false) :
    dropBlankEnd s = s := by
  have hback := dropBlankEnd_append (r := []) (fun c hc => absurd hc List.not_mem_nil) h
  rwa [List.append_nil] at hback

/-- Between two characters that are not blank nothing is cut. -/
theorem trim_eq_self_of_ends {s : List Char} (hstart : ∀ c, s.head? = some c → isBlank c = false)
    (hend : ∀ c, s.getLast? = some c → isBlank c = false) : trim s = s := by
  have hfront : skipBlank s = s := by
    apply skipBlank_eq_self
    rintro c r rfl
    exact hstart c rfl
  rw [trim, hfront, dropBlankEnd_eq_self hend]

theorem trim_eq_self {s : List Char} (h : ∀ c ∈ s, isBlank c = false) : trim s = s :=
  trim_eq_self_of_ends (fun c hc => h c (List.mem_of_head? hc)) fun c hc => h c (List.mem_of_getLast? hc)

/-- What is left of a text does not begin with a blank. -/
theorem isBlank_of_head?_skipBlank {s : List Char} {c : Char} (h : (skipBlank s).head? = some c) :
    isBlank c = false := by
  have hhead := List.head?_dropWhile_not isBlank s
  change (s.dropWhile isBlank).head? = some c at h
  rw [h] at hhead
  exact hhead

theorem isBlank_of_getLast?_dropBlankEnd {s : List Char} {c : Char} (h : (dropBlankEnd s).getLast? = some c) :
    isBlank c = false := by
  rw [dropBlankEnd, List.getLast?_reverse] at h
  exact isBlank_of_head?_skipBlank h

theorem dropBlankEnd_isPrefix (s : List Char) : dropBlankEnd s <+: s := by
  rw [← List.reverse_suffix, dropBlankEnd, List.reverse_reverse]
  exact List.dropWhile_suffix _

/-- A text without blanks around it is trimmed to itself. -/
theorem trim_trim (s : List Char) : trim (trim s) = trim s := by
  apply trim_eq_self_of_ends
  · intro c hc
    obtain ⟨r, hr⟩ := dropBlankEnd_isPrefix (skipBlank s)
    apply isBlank_of_head?_skipBlank (s := s)
    rw [← hr, List.head?_append]
    exact congrArg (Option.or · _) hc
  · exact fun c hc => isBlank_of_getLast?_dropBlankEnd hc

theorem trim_cons {c : Char} (h : isBlank c = true) (s : List Char) : trim (c :: s) = trim s := by
  rw [trim, skipBlank, List.dropWhile_cons_of_pos h]
  rfl

theorem trim_concat {c : Char} (h : isBlank c = true) (s : List Char) : trim (s ++ [c]) = trim s := by
  rw [trim, skipBlank, List.dropWhile_append, trim, skipBlank]
  split
  · rename_i hblank
    rw [List.isEmpty_iff.1 hblank, List.dropWhile_cons_of_pos h]
    rfl
  · rw [dropBlankEnd, List.reverse_concat, skipBlank, List.dropWhile_cons_of_pos h]
    rfl

theorem mem_of_mem_trim {s : List Char} {c : Char} (h : c ∈ trim s) : c ∈ s :=
  (List.dropWhile_sublist _).subset ((dropBlankEnd_isPrefix _).subset h)

/-! ### Cutting -/

/-- The stretches between the characters that `p` marks: always one more than there are marks. -/
def stretches (p : Char → Bool) : List Char → List (List Char)
  | [] => [[]]
  | c :: cs =>
    if p c then [] :: stretches p cs
    else match stretches p cs with
      | [] => [[c]]
      | w :: ws => (c :: w) :: ws

theorem stretches_ne_nil (p : Char → Bool) (s : List Char) : stretches p s ≠ [] := by
  cases s with
  | nil => simp [stretches]
  | cons c cs =>
    unfold stretches
    split
    · simp
    · split <;> simp

/-- A mark is a seam: cutting distributes over it. -/
theorem stretches_append (p : Char → Bool) (a b : List Char) {c : Char} (h : p c = true) :
    stretches p (a ++ c :: b) = stretches p a ++ stretches p b := by
  induction a with
  | nil => simp [stretches, h]
  | cons d a ih =>
    by_cases hd : p d = true
    · simp [stretches, hd, ih]
    · have hne := stretches_ne_nil p a
      cases hs : stretches p a with
      | nil => exact absurd hs hne
      | cons w ws => simp [stretches, hd, ih, hs]

/-- No stretch holds a mark. -/
theorem not_marked_of_mem_stretches {p : Char → Bool} {s w : List Char} (hw : w ∈ stretches p s) {c : Char}
    (hc : c ∈ w) : p c = false := by
  induction s generalizing w with
  | nil =>
    rw [List.mem_singleton.1 hw] at hc
    cases hc
  | cons d s ih => grind [stretches]

/-- A text without marks is in one piece. -/
theorem stretches_eq_singleton {p : Char → Bool} {s : List Char} (h : ∀ c ∈ s, p c = false) :
    stretches p s = [s] := by
  induction s with
  | nil => rfl
  | cons c s ih => simp [stretches, h, ih fun c hc => h c (List.mem_cons_of_mem _ hc)]

/-- What holds no mark lengthens the last stretch. -/
theorem stretches_append_unmarked {p : Char → Bool} (s : List Char) {t : List Char} (ht : ∀ c ∈ t, p c = false) :
    ∃ ws w, stretches p s = ws ++ [w] ∧ stretches p (s ++ t) = ws ++ [w ++ t] := by
  induction s with
  | nil => exact ⟨[], [], rfl, stretches_eq_singleton ht⟩
  | cons c s ih =>
    obtain ⟨ws, w, hs, hst⟩ := ih
    by_cases hc : p c = true
    · exact ⟨[] :: ws, w, by simp [stretches, hc, hs], by simp [stretches, hc, hst]⟩
    · cases ws with
      | nil => exact ⟨[], c :: w, by simp [stretches, hc, hs], by simp [stretches, hc, hst]⟩
      | cons v vs => exact ⟨(c :: v) :: vs, w, by simp [stretches, hc, hs], by simp [stretches, hc, hst]⟩

/-- The stretches between newlines. -/
def lines (s : List Char) : List (List Char) := stretches (· == '\n') s

/-- The lines of a text, each with the newline that ends it. What follows the last newline, if
anything does, is a line too. -/
def wholeLines : List Char → List (List Char)
  | [] => []
  | c :: cs =>
    if c == '\n' then [c] :: wholeLines cs
    else match wholeLines cs with
      | [] => [[c]]
      | l :: ls => (c :: l) :: ls

/-- Nothing of a text is lost between its lines. -/
theorem flatten_wholeLines (s : List Char) : (wholeLines s).flatten = s := by
  induction s with
  | nil => rfl
  | cons c cs ih =>
    unfold wholeLines
    split
    · simp [ih]
    · split <;> simp_all

/-- A line and its end: a newline, with a carriage return before it or not, or nothing. -/
def splitLineEnd (s : List Char) : List Char × List Char :=
  match s.reverse with
  | '\n' :: '\r' :: r => (r.reverse, ['\r', '\n'])
  | '\n' :: r => (r.reverse, ['\n'])
  | _ => (s, [])

theorem splitLineEnd_append (s : List Char) : (splitLineEnd s).1 ++ (splitLineEnd s).2 = s := by
  unfold splitLineEnd
  split <;> simp_all [List.reverse_eq_iff]

/-- The lines of a text without their ends. -/
def endedLines (s : List Char) : List (List Char) := (wholeLines s).map fun l => (splitLineEnd l).1

/-- The nonempty stretches between white space. -/
def words (s : List Char) : List (List Char) := (stretches isBlank s).filter fun w => !w.isEmpty

/-- The first word of a text, or the whole of a text that has none. -/
def firstWord (s : List Char) : List Char := (words s).head?.getD s

end Footpath.Text
