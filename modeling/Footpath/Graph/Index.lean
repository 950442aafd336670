import Footpath.OrderedMap
import Footpath.Element

/-! The adjacency index of a graph: for each vertex the edges that leave it and those that enter
it, in the order in which they came in, and for each edge its two ends. Its lists only ever grow. -/
namespace Footpath

structure EdgeIndex where
  outgoing : OrderedMap VertexId (List EdgeId)
  incoming : OrderedMap VertexId (List EdgeId)
  ends : OrderedMap EdgeId (VertexId × VertexId)
deriving DecidableEq

namespace EdgeIndex

def empty : EdgeIndex := ⟨.empty, .empty, .empty⟩

/-- A vertex without a list has no edges. -/
def outgoingOf (ix : EdgeIndex) (v : VertexId) : List EdgeId := (ix.outgoing.find? v).getD []

def incomingOf (ix : EdgeIndex) (v : VertexId) : List EdgeId := (ix.incoming.find? v).getD []

def ends? (ix : EdgeIndex) (e : EdgeId) : Option (VertexId × VertexId) := ix.ends.find? e

def add (ix : EdgeIndex) (e : EdgeId) (source target : VertexId) : EdgeIndex where
  outgoing := ix.outgoing.insert source (ix.outgoingOf source ++ [e])
  incoming := ix.incoming.insert target (ix.incomingOf target ++ [e])
  ends := ix.ends.insert e (source, target)

theorem outgoingOf_add (ix : EdgeIndex) (e : EdgeId) (s t v : VertexId) :
    (ix.add e s t).outgoingOf v = if v = s then ix.outgoingOf v ++ [e] else ix.outgoingOf v := by
  simp only [outgoingOf, add, OrderedMap.find?_insert]
  split
  · rename_i h
    rw [h, Option.getD_some]
  · rfl

theorem incomingOf_add (ix : EdgeIndex) (e : EdgeId) (s t v : VertexId) :
    (ix.add e s t).incomingOf v = if v = t then ix.incomingOf v ++ [e] else ix.incomingOf v := by
  simp only [incomingOf, add, OrderedMap.find?_insert]
  split
  · rename_i h
    rw [h, Option.getD_some]
  · rfl

theorem ends?_add (ix : EdgeIndex) (e f : EdgeId) (s t : VertexId) :
    (ix.add e s t).ends? f = if f = e then some (s, t) else ix.ends? f :=
  OrderedMap.find?_insert _ _ _ _

end EdgeIndex

end Footpath
