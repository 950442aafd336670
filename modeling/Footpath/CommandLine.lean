import Footpath.CommandLine.Options
import Footpath.Document.Load
import Footpath.Terminal

/-! The program behind its arguments: loads a graph, seeds `$_`, and then runs one script or reads
inputs from a terminal. -/
namespace Footpath

/-! ### Reports -/

/-- A failure and what caused it, from the outside in. -/
structure Report where
  message : String
  causes : List String
deriving DecidableEq

namespace Report

def ofError (e : Error) : Report := ⟨e.message, e.causes⟩

/-- The same failure, as the cause of another. -/
def within (context : String) (r : Report) : Report := ⟨context, r.message :: r.causes⟩

/-- A text behind a label, its further lines set in as far as the label is wide. -/
def labelled (label text : String) : String :=
  label ++ String.ofList (text.toList.flatMap fun c =>
    if c = '\n' then '\n' :: List.replicate label.length ' ' else [c])

/-- The label of the `i`th of several causes. -/
def numberLabel (i : Nat) : String :=
  let digits := toString i
  String.ofList (List.replicate (5 - digits.length) ' ') ++ digits ++ ": "

def causesText : List String → String
  | [] => ""
  | [c] => "\n\nCaused by:\n" ++ labelled "    " c
  | cs => "\n\nCaused by:\n" ++ "\n".intercalate (cs.zipIdx.map fun (c, i) => labelled (numberLabel i) c)

def text (r : Report) : String := "Error: " ++ r.message ++ causesText r.causes ++ "\n"

end Report

/-! ### A run -/

/-- What a run leaves behind. -/
structure Outcome where
  code : UInt8
  shown : Shown
  directory : Directory

/-- A run that is over, or one that goes on with the lines of its input. -/
inductive Progress where
  | finished (o : Outcome)
  | interactive (t : Terminal) (shown : Shown)

namespace CommandLine

def loadGraph (d : Directory) : Option String → Except Report Graph
  | none => .ok .empty
  | some path =>
    match Graph.empty.loadFile false (d.readText path) with
    | (g, .ok _) => .ok g
    | (_, .error f) => .error ((Report.ofError (.ofFault f)).within ("加载图文件失败: " ++ path))

/-- The elements of some ids; every one has to be in the graph. -/
def startElements (g : Graph) : List String → Except Report Sequence
  | [] => .ok []
  | id :: ids =>
    match g.fetch? id with
    | none => .error ⟨"起始元素不存在: " ++ id, []⟩
    | some x => (startElements g ids).map (x :: ·)

/-- The variables to start with: `$_` if any element was named. -/
def seed (g : Graph) (ids : List String) : Except Report Environment :=
  if ids.isEmpty then .ok .empty else (startElements g ids).map fun xs => Environment.empty.set contextName xs

def scriptText (d : Directory) (o : Options) : Except Report (Option String) :=
  match o.script with
  | none => .ok o.execute
  | some path =>
    match d.readText path with
    | .ok text => .ok (some text)
    | .error f => .error ⟨"读取脚本失败: " ++ path, [f.reason]⟩

/-- Runs one script, and lists its result. -/
def runScript (g : Graph) (env : Environment) (mode : Mode) (script : String) (elapsed : Nat) :
    Except Report String :=
  match g.eval env script with
  | .ok xs => .ok (mode.listing (Console.describeAll g xs) elapsed)
  | .error e => .error (.ofError e)

def begin (d : Directory) (o : Options) (durations : Nat → Nat) : Except Report Progress := do
  let g ← loadGraph d o.graph
  let env ← seed g o.start
  match ← scriptText d o with
  | some script => return .finished ⟨0, ⟨← runScript g env o.format script (durations 0), ""⟩, d⟩
  | none =>
    let (t, shown) := Terminal.start (.start g env o.format d durations)
    return .interactive t shown

/-- Does what the arguments ask for, as far as no input is needed. -/
def start (d : Directory) (args : List String) (durations : Nat → Nat := fun _ => 0) : Progress :=
  match Options.parse args with
  | .error u => .finished (if u.isFlaw then ⟨2, ⟨"", u.message⟩, d⟩ else ⟨0, ⟨u.message, ""⟩, d⟩)
  | .ok o =>
    match begin d o durations with
    | .ok p => p
    | .error r => .finished ⟨1, ⟨"", r.text⟩, d⟩

/-- A whole run on the text of an input. -/
def run (d : Directory) (args : List String) (input : String) (durations : Nat → Nat := fun _ => 0) :
    Outcome :=
  match start d args durations with
  | .finished o => o
  | .interactive t shown =>
    let (t, rest) := t.run (Text.wholeLines input.toList)
    ⟨0, shown ++ rest, t.console.directory⟩

end CommandLine

end Footpath
