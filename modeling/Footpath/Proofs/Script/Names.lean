import Footpath.Language.Script.Parser

/-! The names of the paths that a script defines. A block is opened only under an identifier that
is not the name of a built-in navigation, and nothing that is read later touches the name, so
every path of a script that is read to its end has such a name (`wellNamed_of_parse`). -/
namespace Footpath
open Text Token

/-! ### Characters of names -/

/-- The code points of blanks. -/
def blanks : List Nat :=
  [9, 10, 11, 12, 13, 0x20, 0x85, 0xa0, 0x1680, 0x2000, 0x2001, 0x2002, 0x2003, 0x2004, 0x2005, 0x2006, 0x2007,
    0x2008, 0x2009, 0x200a, 0x2028, 0x2029, 0x202f, 0x205f, 0x3000]

theorem toNat_mem_blanks {c : Char} (h : isBlank c = true) : c.toNat ∈ blanks := by
  simp only [isBlank, Bool.or_eq_true, Bool.and_eq_true, decide_eq_true_eq, beq_iff_eq] at h
  simp only [blanks, List.mem_cons, List.not_mem_nil, or_false]
  omega

theorem isNamePart_of_isBlank {c : Char} (h : isBlank c = true) : isNamePart c = false := by
  have hblanks : ∀ n ∈ blanks, isNamePart (Char.ofNat n) = false := by decide +kernel
  rw [← Char.ofNat_toNat c]
  exact hblanks _ (toNat_mem_blanks h)

theorem isNamePart_of_mem {n : List Char} (hn : isName n = true) {c : Char} (hc : c ∈ n) : isNamePart c = true := by
  cases n with
  | nil => cases hc
  | cons d n =>
    obtain ⟨hstart, hrest⟩ := Bool.and_eq_true_iff.1 hn
    rcases List.mem_cons.1 hc with rfl | hc
    · rcases Bool.or_eq_true_iff.1 hstart with h | h
      · exact Bool.or_eq_true_iff.2 (.inl (isAlphanumeric_of_isAlphabetic h))
      · exact Bool.or_eq_true_iff.2 (.inr h)
    · exact List.all_eq_true.1 hrest c hc

/-- A name is in one piece. -/
theorem isBlank_of_mem_name {n : List Char} (hn : isName n = true) {c : Char} (hc : c ∈ n) : isBlank c = false := by
  rw [Bool.eq_false_iff]
  intro hblank
  exact Bool.false_ne_true ((isNamePart_of_isBlank hblank).symm.trans (isNamePart_of_mem hn hc))

/-! ### Names of paths -/

/-- An identifier that is free to name a path. -/
structure NamedPath.WellNamed (p : NamedPath) : Prop where
  identifier : isName p.name.toList = true
  free : isReserved p.name = false

namespace Draft

/-- Every block so far, the open one included, has a good name. -/
structure WellNamed (d : Draft) : Prop where
  closed : ∀ p ∈ d.script.paths, p.WellNamed
  opened : ∀ p, d.block = some p → p.WellNamed

theorem wellNamed_empty : WellNamed empty :=
  ⟨fun p hp => absurd hp (List.not_mem_nil), fun p hp => by cases hp⟩

/-! ### One line at a time -/

theorem WellNamed.openBlock {d d' : Draft} {line : Nat} {name : List Char} (hd : d.WellNamed)
    (h : d.openBlock line name = .ok d') : d'.WellNamed := by
  unfold Draft.openBlock at h
  split at h
  · cases h
  · by_cases hempty : name.isEmpty = true
    · simp [hempty] at h
    · by_cases hname : isName name = true
      · by_cases hfree : isReserved (String.ofList name) = true
        · simp [hempty, hname, hfree] at h
        · simp only [hempty, hname, hfree, Bool.not_true, Bool.false_eq_true, if_false, Except.ok.injEq] at h
          subst h
          refine ⟨hd.closed, fun p hp => ?_⟩
          cases hp
          exact ⟨by rwa [String.toList_ofList], by simpa using hfree⟩
      · simp [hempty, hname] at h

theorem WellNamed.closeBlock {d d' : Draft} {line : Nat} (hd : d.WellNamed)
    (h : d.closeBlock line = .ok d') : d'.WellNamed := by
  unfold Draft.closeBlock at h
  split at h
  · cases h
  · rename_i p hp
    cases h
    refine ⟨fun q hq => ?_, fun q hq => by cases hq⟩
    rcases List.mem_append.1 hq with hq | hq
    · exact hd.closed q hq
    · rw [List.mem_singleton.1 hq]
      exact hd.opened p hp

theorem WellNamed.add {d : Draft} (hd : d.WellNamed) (s : Statement) : (d.add s).WellNamed := by
  unfold Draft.add
  split
  · rename_i p hp
    refine ⟨hd.closed, fun q hq => ?_⟩
    cases hq
    exact ⟨(hd.opened p hp).identifier, (hd.opened p hp).free⟩
  · exact ⟨hd.closed, hd.opened⟩

theorem WellNamed.next {d d' : Draft} {line : Nat} {s : List Char} (hd : d.WellNamed)
    (h : d.next line s = .ok d') : d'.WellNamed := by
  unfold Draft.next at h
  split at h
  · cases h
    exact hd
  · exact hd.closeBlock h
  · exact hd.openBlock h
  · split at h
    · cases h
    · cases h
      exact hd.add _

theorem WellNamed.run {d d' : Draft} {line : Nat} {ls : List (List Char)} (hd : d.WellNamed)
    (h : d.run line ls = .ok d') : d'.WellNamed := by
  induction ls generalizing d line with
  | nil =>
    cases h
    exact hd
  | cons s rest ih =>
    rw [Draft.run] at h
    split at h
    · cases h
    · rename_i hnext
      exact ih (hd.next hnext) h

end Draft

/-- Every path that a script defines has a good name. -/
theorem Script.wellNamed_of_parse {text : String} {script : Script} (h : Script.parse text = .ok script) :
    ∀ p ∈ script.paths, p.WellNamed := by
  unfold Script.parse at h
  split at h
  · cases h
  · rename_i d hrun
    unfold Draft.finish at h
    split at h
    · cases h
    · cases h
      exact (Draft.wellNamed_empty.run hrun).closed

end Footpath
