import Footpath.Json.Reader
import Footpath.Json.Number

/-! Graphs as documents: lists of records, read from JSON. A record is an object of named fields,
or an array of them in their order. -/
namespace Footpath

/-! ### Records -/

/-- An id as a document gives it; a text is judged when it is used. -/
inductive GivenId where
  | number (n : UInt64)
  | text (s : String)
deriving DecidableEq

/-- A vertex; without an id it takes the next free number. -/
structure VertexRecord where
  id : Option GivenId
  label : String
  properties : Properties
deriving DecidableEq

/-- An edge; without an id it takes the next free number. -/
structure EdgeRecord where
  id : Option GivenId
  label : String
  source : GivenId
  target : GivenId
  properties : Properties
deriving DecidableEq

structure Document where
  vertices : List VertexRecord
  edges : List EdgeRecord
deriving DecidableEq

/-! ### Fields -/

/-- The values under one key, in order. -/
def valuesOf (name : String) (members : List (Option String × Json)) : List Json :=
  (members.filter fun m => m.1 = some name).map Prod.snd

/-- The value of each named field, absent ones `none`. An object may have other members, but none
of these twice and none whose key is no text; an array may stop early, but has no further items. -/
def fields? (names : List String) : Json → Option (List (Option Json))
  | .array items =>
    if items.length ≤ names.length then
      some (items.map some ++ List.replicate (names.length - items.length) none)
    else none
  | .object members =>
    if members.all (fun m => m.1.isSome) && names.all (fun n => (valuesOf n members).length ≤ 1) then
      some (names.map fun n => (valuesOf n members).head?)
    else none
  | _ => none

def GivenId.ofJson? : Json → Option GivenId
  | .number n => n.unsigned?.map .number
  | .string s => s.map .text
  | _ => none

/-- An id that may be left out, or be `null`. -/
def optionalId? : Option Json → Option (Option GivenId)
  | none | some .null => some none
  | some j => (GivenId.ofJson? j).map some

def Value.ofJson? : Json → Option Value
  | .boolean b => some (.boolean b)
  | .number n => n.value?
  | .string s => s.map .text
  | _ => none

def property? : Option String × Json → Option (String × Value)
  | (none, _) => none
  | (some k, j) => (Value.ofJson? j).map (k, ·)

/-- Properties, none if they are left out. -/
def properties? : Option Json → Option Properties
  | none => some .empty
  | some (.object members) => (members.mapM property?).map .ofList
  | _ => none

def label? : Option Json → Option String
  | some (.string s) => s
  | _ => none

/-- A list of records, empty if it is left out. -/
def records? {α : Type} (record? : Json → Option α) : Option Json → Option (List α)
  | none => some []
  | some (.array items) => items.mapM record?
  | _ => none

/-! ### Reading records -/

def VertexRecord.ofJson? (j : Json) : Option VertexRecord :=
  match fields? ["id", "label", "properties"] j with
  | some [id, label, properties] => do
    return ⟨← optionalId? id, ← label? label, ← properties? properties⟩
  | _ => none

def EdgeRecord.ofJson? (j : Json) : Option EdgeRecord :=
  match fields? ["id", "label", "src", "dst", "properties"] j with
  | some [id, label, some source, some target, properties] => do
    return ⟨← optionalId? id, ← label? label, ← GivenId.ofJson? source, ← GivenId.ofJson? target,
      ← properties? properties⟩
  | _ => none

namespace Document

def ofJson? (j : Json) : Option Document :=
  match fields? ["vertices", "edges"] j with
  | some [vertices, edges] => do
    return ⟨← records? VertexRecord.ofJson? vertices, ← records? EdgeRecord.ofJson? edges⟩
  | _ => none

def parse? (text : String) : Option Document := (Json.parse? text).bind ofJson?

end Document

end Footpath
