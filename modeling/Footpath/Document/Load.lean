import Footpath.Document
import Footpath.Graph.Basic
import Footpath.Text.Quoted

/-! Adding a document to a graph, record by record: the vertices first, so that every edge finds
its ends. A record is added in steps, first its element and then its properties one by one; what
has been written when a step fails stays in the graph. -/
namespace Footpath

/-- The number that an id stands for. -/
def GivenId.resolve : GivenId → Except Fault UInt64
  | .number n => .ok n
  | .text s =>
    match numberOfText? s with
    | some n => .ok n
    | none => .error (.badId (String.ofList (Text.quoted s.toList)))

/-! ### Single records -/

namespace Graph

/-- Adds the vertex of a record, without its properties. -/
def placeVertex (g : Graph) (r : VertexRecord) : Except Fault (VertexId × Graph) :=
  match r.id with
  | none => .ok (g.addVertex r.label)
  | some id => do g.addVertexAt (← id.resolve) r.label

/-- Adds the edge of a record, without its properties. The ends are resolved before its own id is. -/
def placeEdge (g : Graph) (r : EdgeRecord) : Except Fault (EdgeId × Graph) := do
  let source : VertexId := ⟨← r.source.resolve⟩
  let target : VertexId := ⟨← r.target.resolve⟩
  match r.id with
  | none => g.addEdge r.label source target
  | some id => g.addEdgeAt (← id.resolve) r.label source target

/-- Writes properties one after another up to the first that is refused; those before it stay. -/
def writeAll (write : Graph → String → Value → Except Fault Graph) (g : Graph) :
    List (String × Value) → Graph × Except Fault Unit
  | [] => (g, .ok ())
  | p :: ps =>
    match write g p.1 p.2 with
    | .error f => (g, .error f)
    | .ok h => h.writeAll write ps

def addVertexRecord (g : Graph) (r : VertexRecord) : Graph × Except Fault Unit :=
  match g.placeVertex r with
  | .error f => (g, .error f)
  | .ok (v, h) => h.writeAll (·.setVertexProperty v) r.properties.entries

def addEdgeRecord (g : Graph) (r : EdgeRecord) : Graph × Except Fault Unit :=
  match g.placeEdge r with
  | .error f => (g, .error f)
  | .ok (e, h) => h.writeAll (·.setEdgeProperty e) r.properties.entries

end Graph

inductive Record where
  | vertex (r : VertexRecord)
  | edge (r : EdgeRecord)
deriving DecidableEq

/-- The records in the order in which they are added. -/
def Document.records (d : Document) : List Record := d.vertices.map .vertex ++ d.edges.map .edge

/-- The graph behind a record, and whether the record was added. -/
def Graph.addRecord (g : Graph) : Record → Graph × Except Fault Unit
  | .vertex r => g.addVertexRecord r
  | .edge r => g.addEdgeRecord r

/-! ### Lists of records -/

/-- How many records were added, and how many were passed over. -/
structure Tally where
  vertices : Nat
  edges : Nat
  errors : Nat
deriving DecidableEq

namespace Tally

def zero : Tally := ⟨0, 0, 0⟩

def count (t : Tally) : Record → Tally
  | .vertex _ => { t with vertices := t.vertices + 1 }
  | .edge _ => { t with edges := t.edges + 1 }

def countError (t : Tally) : Tally := { t with errors := t.errors + 1 }

end Tally

namespace Graph

/-- Adds records up to the first that fails, or passes over those if `skip` holds. -/
def addRecords (skip : Bool) (g : Graph) (t : Tally) : List Record → Graph × Except Fault Tally
  | [] => (g, .ok t)
  | r :: rs =>
    match g.addRecord r with
    | (h, .ok ()) => h.addRecords skip (t.count r) rs
    | (h, .error f) => if skip then h.addRecords skip t.countError rs else (h, .error f)

def addDocument (skip : Bool) (g : Graph) (d : Document) : Graph × Except Fault Tally :=
  g.addRecords skip .zero d.records

/-- Adds the document that a text spells; a text that spells none changes nothing. -/
def load (skip : Bool) (g : Graph) (text : String) : Graph × Except Fault Tally :=
  match Document.parse? text with
  | some d => g.addDocument skip d
  | none => (g, .error .malformedDocument)

/-- Adds the document in a file, if the file could be read. -/
def loadFile (skip : Bool) (g : Graph) (content : Except FileFault String) : Graph × Except Fault Tally :=
  match content with
  | .ok text => g.load skip text
  | .error f => (g, .error (.file f))

end Graph

end Footpath
