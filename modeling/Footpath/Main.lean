import Footpath.CommandLine

/-! The program: files, standard input and output around `CommandLine`. -/
namespace Footpath.Main

/-- Why the system refused a file. -/
def faultOf : IO.Error → FileFault
  | .permissionDenied .. => .denied
  | .inappropriateType .. => .directory
  | _ => .absent

/-- The directory with a file of the system in it, or with the reason why it cannot be read. -/
def withFile (d : Directory) (path : String) : IO Directory := do
  try
    let bytes ← IO.FS.readBinFile path
    let l := Directory.segments (← IO.FS.realPath path).toString
    return { d with files := d.files.insert l bytes, known := (path, .ok l) :: d.known }
  catch e => return { d with known := (path, .error (faultOf e)) :: d.known }

/-- The directory with the files that options name. -/
def directoryFor (args : List String) : IO Directory :=
  match Options.parse args with
  | .error _ => return .empty
  | .ok o => (o.graph.toList ++ o.script.toList).foldlM withFile .empty

/-- Before a transcript begins, its file is made or the directory says why it cannot be. -/
def prepare (t : Terminal) (line : List Char) : IO Terminal := do
  let input := String.ofList (t.extended line)
  let path? := match isCommand input, Command.ofText input with
    | true, .tee _ (some path) => some path
    | _, _ => none
  match path? with
  | none => return t
  | some path =>
    let d ← try
      let _ ← IO.FS.Handle.mk path .append
      withFile t.console.directory path
    catch e => pure { t.console.directory with known := (path, .error (faultOf e)) :: t.console.directory.known }
    return { t with console := { t.console with directory := d } }

/-- Writes the transcript to its file. -/
def save (t : Terminal) : IO Unit :=
  match t.console.transcript with
  | none => return
  | some l =>
    match t.console.directory.files.find? l with
    | none => return
    | some bytes => try IO.FS.writeBinFile ("/" ++ "/".intercalate l) bytes catch _ => return

def print (s : Shown) : IO Unit := do
  IO.print s.out
  IO.eprint s.err
  (← IO.getStdout).flush

partial def loop (t : Terminal) (input : IO.FS.Stream) : IO Unit := do
  let line ← input.getLine
  if line.isEmpty then
    print ⟨Terminal.farewell, ""⟩
  else
    let line := line.toList
    let (t, s) := (← prepare t line).feed line
    print s
    save t
    if !t.isOver then loop t input

end Footpath.Main

open Footpath in
def main (args : List String) : IO UInt32 := do
  match CommandLine.start (← Main.directoryFor args) args with
  | .finished o =>
    Main.print o.shown
    return o.code.toUInt32
  | .interactive t shown =>
    Main.print shown
    Main.loop t (← IO.getStdin)
    return 0
