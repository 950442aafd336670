import Footpath.Console
import Footpath.Text.Backspace

/-! A console that is fed line by line. A line that leaves a path block open waits for the lines
that close it; together they are one input. Blank inputs are passed over. -/
namespace Footpath

/-- What goes to the two channels of output. -/
structure Shown where
  out : String
  err : String
deriving DecidableEq

namespace Shown

def nothing : Shown := ⟨"", ""⟩

def append (a b : Shown) : Shown := ⟨a.out ++ b.out, a.err ++ b.err⟩

instance : Append Shown := ⟨append⟩

end Shown

structure Terminal where
  console : Console
  /-- The lines of an input that is not complete, each with its end. -/
  pending : List Char
  /-- Whether the console was told to quit. -/
  isOver : Bool

namespace Terminal

def versionText : String := "0.1.0"

def prompt : String := "graphpath> "

def farewell : String := "再见！\n"

def greeting (g : Graph) : String :=
  "GraphPath CLI v" ++ versionText ++ "\n==============================\n  顶点数: " ++
    toString g.vertices.size ++ "\n  边数: " ++ toString g.edges.size ++
    "\n\n输入 :help 查看帮助，:quit 退出\n\n"

/-- A new terminal, and what it shows before the first line. -/
def start (c : Console) : Terminal × Shown := (⟨c, [], false⟩, ⟨greeting c.graph ++ prompt, ""⟩)

/-- The input that a line belongs to, as far as it was read. Backspaces reach back over the ends
of the lines before, but the end of the line itself is not there yet. -/
def extended (t : Terminal) (line : List Char) : List Char :=
  Text.applyBackspaces (t.pending ++ (Text.splitLineEnd line).1)

def complaint (r : Reply) : String :=
  match r.complaint? with
  | some text => "错误: " ++ text ++ "\n"
  | none => ""

/-- Handles a complete input, blanks around it left out. -/
def accept (t : Terminal) (input : List Char) : Terminal × Shown :=
  let s := Text.trim input
  if s.isEmpty then ({ t with pending := [] }, ⟨prompt, ""⟩)
  else
    match t.console.handle (String.ofList s) with
    | (c, .exit) => (⟨c, [], true⟩, ⟨farewell, ""⟩)
    | (c, r) => (⟨c, [], false⟩, ⟨r.screen ++ prompt, complaint r⟩)

/-- Takes one more line, which comes with its end. -/
def feed (t : Terminal) (line : List Char) : Terminal × Shown :=
  let input := t.extended line
  if hasOpenBlock (String.ofList input) then
    ({ t with pending := input ++ (Text.splitLineEnd line).2 }, .nothing)
  else t.accept input

/-- Feeds lines until they end or the console quits. An input that is not complete then is dropped. -/
def run (t : Terminal) : List (List Char) → Terminal × Shown
  | [] => (t, ⟨farewell, ""⟩)
  | line :: lines =>
    let (t, s) := t.feed line
    if t.isOver then (t, s)
    else
      let (t, rest) := t.run lines
      (t, s ++ rest)

end Terminal

end Footpath
