import Footpath.Graph.Basic

/-! The changes that a graph goes through, as data, and histories of them. -/
namespace Footpath

inductive Change where
  | addVertex (label : String)
  | addVertexAt (number : UInt64) (label : String)
  | addEdge (label : String) (source target : VertexId)
  | addEdgeAt (number : UInt64) (label : String) (source target : VertexId)
  | setVertexProperty (v : VertexId) (key : String) (value : Value)
  | setEdgeProperty (e : EdgeId) (key : String) (value : Value)
deriving DecidableEq

namespace Graph

/-- The element that a change added, if it adds one, and the graph behind it. -/
def change (g : Graph) : Change → Except Fault (Option Element × Graph)
  | .addVertex label =>
    let (v, h) := g.addVertex label
    .ok (some (.vertex v), h)
  | .addVertexAt n label => (g.addVertexAt n label).map fun (v, h) => (some (.vertex v), h)
  | .addEdge label s t => (g.addEdge label s t).map fun (e, h) => (some (.edge e), h)
  | .addEdgeAt n label s t => (g.addEdgeAt n label s t).map fun (e, h) => (some (.edge e), h)
  | .setVertexProperty v key value => (g.setVertexProperty v key value).map (none, ·)
  | .setEdgeProperty e key value => (g.setEdgeProperty e key value).map (none, ·)

/-- A change that fails leaves the graph as it was. -/
def apply (g : Graph) (c : Change) : Graph :=
  match g.change c with
  | .ok (_, h) => h
  | .error _ => g

def run (g : Graph) : List Change → Graph
  | [] => g
  | c :: cs => (g.apply c).run cs

theorem run_append (g : Graph) (a b : List Change) : g.run (a ++ b) = (g.run a).run b := by
  induction a generalizing g with
  | nil => rfl
  | cons c a ih => exact ih _

end Graph

end Footpath
