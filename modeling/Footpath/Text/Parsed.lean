/-! Results of readers. A reader that takes at least one character says so in its type, so a
recursion on what it leaves needs no further argument. -/
namespace Footpath

/-- What was read from `s`, and what is left of it. -/
structure Parsed (α : Type) (s : List Char) where
  value : α
  rest : List Char
  shorter : rest.length < s.length

/-- Blanks before a text may be counted in again. -/
def Parsed.widen {α : Type} {s t : List Char} (h : t.length ≤ s.length) (p : Parsed α t) : Parsed α s :=
  ⟨p.value, p.rest, Nat.lt_of_lt_of_le p.shorter h⟩

end Footpath
