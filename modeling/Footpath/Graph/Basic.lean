import Footpath.Fault
import Footpath.Graph.Index

/-! Property graphs. A graph holds its vertices and edges, the adjacency index, and the next number
to give out. The ends of an edge are stored twice, with the edge and in the index; navigation reads
the index only.

Numbers are given out from a 64-bit counter that wraps. A number that a caller chooses is checked
against both stores and moves the counter past it; one that the counter gives is not checked. -/
namespace Footpath

structure Vertex where
  label : String
  properties : Properties
deriving DecidableEq

structure Edge where
  label : String
  source : VertexId
  target : VertexId
  properties : Properties
deriving DecidableEq

structure Graph where
  vertices : OrderedMap VertexId Vertex
  edges : OrderedMap EdgeId Edge
  index : EdgeIndex
  /-- The number that the next automatic addition takes. -/
  next : UInt64
deriving DecidableEq

namespace Graph

def empty : Graph := ⟨.empty, .empty, .empty, 1⟩

/-! ### Numbers -/

def hasNumber (g : Graph) (n : UInt64) : Bool := g.vertices.contains ⟨n⟩ || g.edges.contains ⟨n⟩

/-- The counter behind a number that was chosen; the largest number has none behind it. -/
def nextAfter (g : Graph) (n : UInt64) : UInt64 := max g.next (if n = 0xffffffffffffffff then n else n + 1)

/-! ### Adding -/

def putVertex (g : Graph) (v : VertexId) (label : String) : Graph :=
  { g with vertices := g.vertices.insert v ⟨label, .empty⟩ }

def putEdge (g : Graph) (e : EdgeId) (label : String) (source target : VertexId) : Graph :=
  { g with
    index := g.index.add e source target
    edges := g.edges.insert e ⟨label, source, target, .empty⟩ }

def addVertex (g : Graph) (label : String) : VertexId × Graph :=
  (⟨g.next⟩, { g.putVertex ⟨g.next⟩ label with next := g.next + 1 })

def addVertexAt (g : Graph) (n : UInt64) (label : String) : Except Fault (VertexId × Graph) :=
  if g.hasNumber n then .error (.taken n)
  else .ok (⟨n⟩, { g.putVertex ⟨n⟩ label with next := g.nextAfter n })

/-- Both ends have to be there, the source being looked for first. -/
def checkEnds (g : Graph) (source target : VertexId) : Except Fault Unit :=
  if !g.vertices.contains source then .error (.missing (.source source))
  else if !g.vertices.contains target then .error (.missing (.target target))
  else .ok ()

def addEdge (g : Graph) (label : String) (source target : VertexId) : Except Fault (EdgeId × Graph) :=
  match g.checkEnds source target with
  | .error f => .error f
  | .ok () => .ok (⟨g.next⟩, { g.putEdge ⟨g.next⟩ label source target with next := g.next + 1 })

def addEdgeAt (g : Graph) (n : UInt64) (label : String) (source target : VertexId) :
    Except Fault (EdgeId × Graph) :=
  match g.checkEnds source target with
  | .error f => .error f
  | .ok () =>
    if g.hasNumber n then .error (.taken n)
    else .ok (⟨n⟩, { g.putEdge ⟨n⟩ label source target with next := g.nextAfter n })

/-! ### Properties -/

def setVertexProperty (g : Graph) (v : VertexId) (key : String) (value : Value) : Except Fault Graph :=
  match g.vertices.find? v with
  | none => .error (.missing (.element (.vertex v)))
  | some x =>
    .ok { g with vertices := g.vertices.insert v { x with properties := x.properties.insert key value } }

def setEdgeProperty (g : Graph) (e : EdgeId) (key : String) (value : Value) : Except Fault Graph :=
  match g.edges.find? e with
  | none => .error (.missing (.element (.edge e)))
  | some x =>
    .ok { g with edges := g.edges.insert e { x with properties := x.properties.insert key value } }

/-! ### Reading -/

/-- The element whose number a text spells. -/
def fetch? (g : Graph) (text : String) : Option Element :=
  match numberOfText? text with
  | none => none
  | some n =>
    if g.vertices.contains ⟨n⟩ then some (.vertex ⟨n⟩)
    else if g.edges.contains ⟨n⟩ then some (.edge ⟨n⟩)
    else none

def outgoing (g : Graph) (v : VertexId) : List EdgeId := g.index.outgoingOf v

def incoming (g : Graph) (v : VertexId) : List EdgeId := g.index.incomingOf v

def source? (g : Graph) (e : EdgeId) : Option VertexId := (g.index.ends? e).map Prod.fst

def target? (g : Graph) (e : EdgeId) : Option VertexId := (g.index.ends? e).map Prod.snd

def label? (g : Graph) : Element → Option String
  | .vertex v => (g.vertices.find? v).map Vertex.label
  | .edge e => (g.edges.find? e).map Edge.label

def properties? (g : Graph) : Element → Option Properties
  | .vertex v => (g.vertices.find? v).map Vertex.properties
  | .edge e => (g.edges.find? e).map Edge.properties

def property? (g : Graph) (x : Element) (key : String) : Option Value :=
  (g.properties? x).bind (·.find? key)

end Graph

/-! ### Descriptions -/

/-- All that is known of an element; an edge has `ends`, its source and target. -/
structure Description where
  element : Element
  label : String
  ends : Option (VertexId × VertexId)
  properties : Properties
deriving DecidableEq

def Graph.describe? (g : Graph) (x : Element) : Option Description :=
  match x with
  | .vertex v => (g.vertices.find? v).map fun r => ⟨x, r.label, none, r.properties⟩
  | .edge e => (g.edges.find? e).map fun r => ⟨x, r.label, some (r.source, r.target), r.properties⟩

end Footpath
