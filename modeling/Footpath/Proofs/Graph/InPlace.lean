import Footpath.Graph.Change

/-! Changes made in place.

A change is written here as the writes that it makes on one graph, one after another: numbers are drawn or
chosen, ends are looked up, the index and the stores are written. A write that was made stays, whatever
comes behind it, so that an early write before a late check would be seen in the graph. `on_make` says that
there is none: a change made in place comes to what `Graph.change` gives, and one that fails leaves the
graph as it found it, the counter included. So changes that fail can be struck from a history
(`makeAll_succeeded`). -/
namespace Footpath

/-- Writes on a graph that may end with a fault; what was written before it stays. -/
abbrev Update := ExceptT Fault (StateM Graph)

namespace Update

/-- What an update comes to on a graph, and the graph behind it. -/
def on {α : Type} (u : Update α) (g : Graph) : Except Fault α × Graph := u.run.run g

/-! ### Single writes -/

def drawNumber : Update UInt64 := modifyGet fun g => (g.next, { g with next := g.next + 1 })

/-- Moves the counter past a number that no element has. -/
def chooseNumber (n : UInt64) : Update Unit := do
  if (← get).hasNumber n then throw (.taken n)
  modify fun g => { g with next := g.nextAfter n }

def requireEnds (source target : VertexId) : Update Unit := do
  ofExcept ((← get).checkEnds source target)

def storeVertex (v : VertexId) (label : String) : Update Unit :=
  modify fun g => { g with vertices := g.vertices.insert v ⟨label, .empty⟩ }

/-- The index is written first. -/
def storeEdge (e : EdgeId) (label : String) (source target : VertexId) : Update Unit := do
  modify fun g => { g with index := g.index.add e source target }
  modify fun g => { g with edges := g.edges.insert e ⟨label, source, target, .empty⟩ }

def writeVertexProperty (v : VertexId) (key : String) (value : Value) : Update Unit := do
  match (← get).vertices.find? v with
  | none => throw (.missing (.element (.vertex v)))
  | some x => modify fun g =>
    { g with vertices := g.vertices.insert v { x with properties := x.properties.insert key value } }

def writeEdgeProperty (e : EdgeId) (key : String) (value : Value) : Update Unit := do
  match (← get).edges.find? e with
  | none => throw (.missing (.element (.edge e)))
  | some x => modify fun g =>
    { g with edges := g.edges.insert e { x with properties := x.properties.insert key value } }

/-! ### Changes -/

/-- The writes of a change; what comes back is the element that it adds, if it adds one. -/
def make : Change → Update (Option Element)
  | .addVertex label => do
    let n ← drawNumber
    storeVertex ⟨n⟩ label
    return some (.vertex ⟨n⟩)
  | .addVertexAt n label => do
    chooseNumber n
    storeVertex ⟨n⟩ label
    return some (.vertex ⟨n⟩)
  | .addEdge label source target => do
    requireEnds source target
    let n ← drawNumber
    storeEdge ⟨n⟩ label source target
    return some (.edge ⟨n⟩)
  | .addEdgeAt n label source target => do
    requireEnds source target
    chooseNumber n
    storeEdge ⟨n⟩ label source target
    return some (.edge ⟨n⟩)
  | .setVertexProperty v key value => do
    writeVertexProperty v key value
    return none
  | .setEdgeProperty e key value => do
    writeEdgeProperty e key value
    return none

/-! ### What they come to -/

section
variable (g : Graph)

theorem on_bind {α β : Type} (u : Update α) (k : α → Update β) :
    (u >>= k).on g =
      match u.on g with
      | (.ok a, h) => (k a).on h
      | (.error f, h) => (.error f, h) := by
  unfold on
  rw [ExceptT.run_bind, StateT.run_bind]
  cases u.run.run g with
  | mk r h => cases r <;> rfl

theorem on_get : (get : Update Graph).on g = (.ok g, g) := rfl

theorem on_chooseNumber (n : UInt64) :
    (chooseNumber n).on g =
      if g.hasNumber n then (.error (.taken n), g) else (.ok (), { g with next := g.nextAfter n }) := by
  show (ite _ _ _ : Update Unit).on g = _
  cases g.hasNumber n <;> rfl

theorem on_requireEnds (s t : VertexId) : (requireEnds s t).on g = (g.checkEnds s t, g) := by
  show (ofExcept (g.checkEnds s t) : Update Unit).on g = _
  cases g.checkEnds s t <;> rfl

theorem on_writeVertexProperty (v : VertexId) (key : String) (value : Value) :
    (writeVertexProperty v key value).on g =
      match g.setVertexProperty v key value with
      | .ok h => (.ok (), h)
      | .error f => (.error f, g) := by
  unfold writeVertexProperty Graph.setVertexProperty
  rw [on_bind, on_get]
  dsimp only
  cases g.vertices.find? v <;> rfl

theorem on_writeEdgeProperty (e : EdgeId) (key : String) (value : Value) :
    (writeEdgeProperty e key value).on g =
      match g.setEdgeProperty e key value with
      | .ok h => (.ok (), h)
      | .error f => (.error f, g) := by
  unfold writeEdgeProperty Graph.setEdgeProperty
  rw [on_bind, on_get]
  dsimp only
  cases g.edges.find? e <;> rfl

/-- A change made in place comes to the same, and one that fails leaves the graph as it was. -/
theorem on_make (c : Change) :
    (make c).on g =
      match g.change c with
      | .ok (x, h) => (.ok x, h)
      | .error f => (.error f, g) := by
  cases c with
  | addVertex label => rfl
  | addVertexAt n label =>
    rw [make, on_bind, on_chooseNumber, Graph.change, Graph.addVertexAt]
    cases g.hasNumber n <;> rfl
  | addEdge label s t =>
    rw [make, on_bind, on_requireEnds, Graph.change, Graph.addEdge]
    cases g.checkEnds s t <;> rfl
  | addEdgeAt n label s t =>
    rw [make, on_bind, on_requireEnds, Graph.change, Graph.addEdgeAt]
    cases g.checkEnds s t with
    | error f => rfl
    | ok _ =>
      dsimp only
      rw [on_bind, on_chooseNumber]
      cases g.hasNumber n <;> rfl
  | setVertexProperty v key value =>
    rw [make, on_bind, on_writeVertexProperty, Graph.change]
    cases g.setVertexProperty v key value <;> rfl
  | setEdgeProperty e key value =>
    rw [make, on_bind, on_writeEdgeProperty, Graph.change]
    cases g.setEdgeProperty e key value <;> rfl

end

/-! ### Histories -/

/-- A change and what it came to. -/
abbrev Entry := Change × Except Fault (Option Element)

/-- Changes made one after another on one graph, those behind a change that fails too. -/
def makeAll (g : Graph) : List Change → List Entry × Graph
  | [] => ([], g)
  | c :: cs =>
    let (r, h) := (make c).on g
    let (log, last) := makeAll h cs
    ((c, r) :: log, last)

/-- The entries of changes that did not fail. -/
def succeeded (log : List Entry) : List Entry := log.filter fun entry => entry.2.isOk

theorem makeAll_cons_of_ok {g h : Graph} {c : Change} {x : Option Element} (hc : g.change c = .ok (x, h))
    (cs : List Change) : makeAll g (c :: cs) = ((c, .ok x) :: (makeAll h cs).1, (makeAll h cs).2) := by
  rw [makeAll, on_make, hc]

theorem makeAll_cons_of_error {g : Graph} {c : Change} {f : Fault} (hc : g.change c = .error f)
    (cs : List Change) : makeAll g (c :: cs) = ((c, .error f) :: (makeAll g cs).1, (makeAll g cs).2) := by
  rw [makeAll, on_make, hc]

/-- **Changes that fail leave no trace.** Of a history made in place, every change has its entry, in order.
Without the changes that fail, every other one comes to what it came to, the number that it draws included,
and the graph behind them is the same, which is that of `Graph.run`. -/
theorem makeAll_succeeded (g : Graph) (cs : List Change) :
    let log := (makeAll g cs).1
    log.map Prod.fst = cs ∧
      makeAll g ((succeeded log).map Prod.fst) = (succeeded log, (makeAll g cs).2) ∧
      (makeAll g cs).2 = g.run cs := by
  induction cs generalizing g with
  | nil => exact ⟨rfl, rfl, rfl⟩
  | cons c cs ih =>
    cases hc : g.change c with
    | ok r =>
      obtain ⟨x, h⟩ := r
      obtain ⟨hentries, hkept, hlast⟩ := ih h
      have happly : g.apply c = h := by rw [Graph.apply, hc]
      rw [makeAll_cons_of_ok hc]
      refine ⟨congrArg (c :: ·) hentries, ?_, ?_⟩
      · show makeAll g (c :: (succeeded (makeAll h cs).1).map Prod.fst) = _
        rw [makeAll_cons_of_ok hc, hkept]
        rfl
      · rw [Graph.run, happly]
        exact hlast
    | error f =>
      obtain ⟨hentries, hkept, hlast⟩ := ih g
      have happly : g.apply c = g := by rw [Graph.apply, hc]
      rw [makeAll_cons_of_error hc]
      refine ⟨congrArg (c :: ·) hentries, hkept, ?_⟩
      rw [Graph.run, happly]
      exact hlast

/-- The number chosen for an edge without its ends is not used up. -/
example :
    (makeAll .empty [.addVertex "city", .addEdgeAt 9 "road" ⟨1⟩ ⟨5⟩, .addVertex "city"]).1.map Prod.snd =
      [.ok (some (.vertex ⟨1⟩)), .error (.missing (.target ⟨5⟩)), .ok (some (.vertex ⟨2⟩))] := rfl

end Update

end Footpath
