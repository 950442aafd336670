import Footpath.Text.Blank

/-! Handles of graph elements. Vertices and edges draw their numbers from one range, so a number
written by itself names at most one of them. -/
namespace Footpath

structure VertexId where
  number : UInt64
deriving DecidableEq

structure EdgeId where
  number : UInt64
deriving DecidableEq

inductive Element where
  | vertex (v : VertexId)
  | edge (e : EdgeId)
deriving DecidableEq

def VertexId.render (v : VertexId) : String := "v[" ++ toString v.number ++ "]"

def EdgeId.render (e : EdgeId) : String := "e[" ++ toString e.number ++ "]"

namespace Element

def number : Element → UInt64
  | .vertex v => v.number
  | .edge e => e.number

def kind : Element → String
  | .vertex _ => "vertex"
  | .edge _ => "edge"

def render : Element → String
  | .vertex v => v.render
  | .edge e => e.render

end Element

/-- What expressions yield: elements in order, with repetitions. -/
abbrev Sequence := List Element

/-! ### Numbers written as text -/

/-- The number that a text spells: blanks around it, a plus sign in front and leading zeros are
allowed, a value beyond 64 bits is not. -/
def numberOfText? (text : String) : Option UInt64 :=
  let s := Text.trim text.toList
  let ds := match s with
    | '+' :: r => r
    | _ => s
  if ds.isEmpty || !ds.all Char.isDigit then none
  else
    let n := Nat.ofDigitChars 10 ds 0
    if n < UInt64.size then some (UInt64.ofNat n) else none

/-- A text of digits only spells its value. -/
theorem numberOfText?_of_digits {text : String} (hne : text.toList ≠ [])
    (hdigit : ∀ c ∈ text.toList, c.isDigit = true) :
    numberOfText? text =
      let n := Nat.ofDigitChars 10 text.toList 0
      if n < UInt64.size then some (UInt64.ofNat n) else none := by
  have htrim : Text.trim text.toList = text.toList :=
    Text.trim_eq_self fun c hc => Text.isBlank_of_isDigit (hdigit c hc)
  have hall : text.toList.all Char.isDigit = true := List.all_eq_true.2 hdigit
  cases hs : text.toList with
  | nil => exact absurd hs hne
  | cons c r =>
    rw [hs] at htrim hall hdigit
    have hc : c ≠ '+' := by
      rintro rfl
      exact absurd (hdigit '+' List.mem_cons_self) (by decide)
    simp only [numberOfText?, hs, htrim]
    split
    · rename_i h
      cases h
      exact absurd rfl hc
    · simp only [List.isEmpty_cons, hall, Bool.not_true, Bool.or_false, Bool.false_eq_true, if_false]

/-- The decimal numeral of a number spells it. -/
theorem numberOfText?_toString (n : UInt64) : numberOfText? (toString n) = some n := by
  have htext : (toString n).toList = Nat.toDigits 10 n.toNat := Nat.toList_repr
  have hne : (toString n).toList ≠ [] := htext ▸ Nat.toDigits_ne_nil
  have hdigit : ∀ c ∈ (toString n).toList, c.isDigit = true := by
    intro c hc
    rw [htext] at hc
    exact Nat.isDigit_of_mem_toDigits (by decide) (by decide) hc
  have hvalue : Nat.ofDigitChars 10 (toString n).toList 0 = n.toNat := by
    rw [htext]
    exact Nat.ofDigitChars_toDigits (by decide) (by decide)
  rw [numberOfText?_of_digits hne hdigit, hvalue]
  show (if n.toNat < UInt64.size then some (UInt64.ofNat n.toNat) else none) = some n
  rw [if_pos n.toNat_lt, UInt64.ofNat_toNat]
end Footpath
