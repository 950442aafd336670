import Footpath.Graph.Basic
import Footpath.Json.Writer
import Footpath.Table

/-! Sequences as they are shown: as a table, with a line for every field, or as JSON. -/
namespace Footpath

/-! ### Output formats -/

inductive Mode where
  | table
  | vertical
  | json
deriving DecidableEq

namespace Mode

def all : List Mode := [table, vertical, json]

def name : Mode → String
  | table => "table"
  | vertical => "vertical"
  | json => "json"

/-- The mode of a name, in either case. -/
def ofName? (s : String) : Option Mode := all.find? fun m => m.name == s.toLower

/-- What is said of a name that no mode has. -/
def unknownName (s : String) : String := "未知输出格式: " ++ s.toLower ++ " (可选 table, vertical, json)"

end Mode

/-- A script without the `\G` or `\g` that may end it, blanks around it left out, and whether
there was one: it asks for the vertical mode. -/
def splitVertical (input : String) : String × Bool :=
  let s := Text.trim input.toList
  match s.reverse with
  | g :: '\\' :: r =>
    if g = 'G' || g = 'g' then (String.ofList (Text.trim r.reverse), true) else (String.ofList s, false)
  | _ => (String.ofList s, false)

/-- The script of an input is the input itself or what comes before the suffix. -/
theorem splitVertical_cases (input : String) :
    (∃ text g, Text.trim input.toList = text ++ ['\\', g] ∧ (g = 'G' ∨ g = 'g') ∧
        splitVertical input = (String.ofList (Text.trim text), true)) ∨
      (∀ text g, Text.trim input.toList = text ++ ['\\', g] → ¬ (g = 'G' ∨ g = 'g')) ∧
        splitVertical input = (String.ofList (Text.trim input.toList), false) := by
  unfold splitVertical
  dsimp only
  split
  · rename_i g r hr
    have htext : Text.trim input.toList = r.reverse ++ ['\\', g] := by
      rw [List.reverse_eq_iff.1 hr]
      simp
    split
    · rename_i hg
      exact .inl ⟨r.reverse, g, htext, by simpa using hg, rfl⟩
    · rename_i hg
      refine .inr ⟨fun text g' htext' => ?_, rfl⟩
      have hsame := List.append_inj_right' (htext.symm.trans htext') rfl
      cases hsame
      simpa using hg
  · rename_i hr
    refine .inr ⟨fun text g htext => ?_, rfl⟩
    rw [htext] at hr
    exact absurd (by simp) (hr g text.reverse)

/-! ### Rows -/

namespace Description

def fieldNames : List String := ["id", "kind", "label", "src", "dst", "properties"]

def showProperties (ps : Properties) : String :=
  ", ".intercalate (ps.entries.map fun p => p.1 ++ ": " ++ p.2.render)

/-- The fields of an element; the ends of a vertex are empty. -/
def fields (d : Description) : List String :=
  [toString d.element.number, d.element.kind, d.label,
    (d.ends.map fun e => toString e.1.number).getD "",
    (d.ends.map fun e => toString e.2.number).getD "",
    showProperties d.properties]

def numberJson (n : UInt64) : Json := .number (.ofNat n.toNat)

def endsJson : Option (VertexId × VertexId) → List (Option String × Json)
  | none => []
  | some (s, t) => [(some "src", numberJson s.number), (some "dst", numberJson t.number)]

/-- An element as an object; a vertex has no members for ends. -/
def toJson (d : Description) : Json :=
  .object ([(some "id", numberJson d.element.number), (some "kind", .string (some d.element.kind)),
      (some "label", .string (some d.label))] ++ endsJson d.ends ++
    [(some "properties", .object (d.properties.entries.map fun p => (some p.1, Json.ofValue p.2)))])

/-! ### Vertical -/

def alignRight (width : Nat) (s : String) : String :=
  String.ofList (List.replicate (width - s.length) ' ') ++ s

def fieldLine (name field : String) : String :=
  alignRight (Table.maximum (fieldNames.map String.length)) name ++ ": " ++ field ++ "\n"

def stars : String := String.ofList (List.replicate 27 '*')

/-- One element, the `i`th, with a line for every field. -/
def vertical (i : Nat) (d : Description) : String :=
  stars ++ " " ++ toString i ++ ". element " ++ stars ++ "\n" ++
    String.join (List.zipWith fieldLine fieldNames d.fields)

end Description

/-! ### Listings -/

def tableListing (rows : List Description) : String :=
  (Table.mk Description.fieldNames (rows.map Description.fields)).text

def verticalListing (rows : List Description) : String :=
  String.join ((rows.zipIdx 1).map fun (d, i) => d.vertical i)

def jsonListing (rows : List Description) : String := Json.write (.array (rows.map Description.toJson)) ++ "\n"

def time (elapsed : Nat) : String := "(" ++ toString elapsed ++ " ms)"

/-- A listing with its count and the milliseconds that it took; JSON stands by itself. -/
def Mode.listing (mode : Mode) (rows : List Description) (elapsed : Nat) : String :=
  let counted (body : String) : String :=
    if rows.isEmpty then "Empty sequence " ++ time elapsed ++ "\n"
    else body ++ "\n" ++ toString rows.length ++ " element(s) " ++ time elapsed ++ "\n"
  match mode with
  | .json => jsonListing rows
  | .vertical => counted (verticalListing rows)
  | .table => counted (tableListing rows)

end Footpath
