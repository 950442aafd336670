import Footpath.Session
import Footpath.Table

/-! What a session holds, as tables. -/
namespace Footpath.Session

/-- The first eight elements of a sequence. -/
def preview (xs : Sequence) : String :=
  ", ".intercalate ((xs.take 8).map Element.render) ++ (if 8 < xs.length then ", ..." else "")

def variablesText (s : Session) : String :=
  if s.env.isEmpty then "No variables bound\n"
  else
    (Table.mk ["Variable", "Size", "Elements"]
      (s.env.toList.map fun v => ["$" ++ v.1, toString v.2.length, preview v.2])).text

/-- A row for each path, with its statements one below the other. -/
def pathsText (s : Session) : String :=
  if s.registry.isEmpty then "No paths defined\n"
  else
    (Table.mk ["Path", "Line", "Body"]
      (s.registry.paths.entries.map fun p =>
        [p.1, toString p.2.line, "\n".intercalate (p.2.body.map Statement.text)])).text

def statsText (g : Graph) (s : Session) : String :=
  (Table.mk ["Property", "Value"]
    [["Vertex Count", toString g.vertices.size],
      ["Edge Count", toString g.edges.size],
      ["Paths", toString s.registry.size],
      ["Variables", toString s.env.size]]).text

end Footpath.Session
