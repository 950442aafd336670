import Footpath.Text.Blank
import Footpath.Text.Lowercase

/-! The commands of the console. A command begins with a colon; its name, in either case, ends at
the first space, and the rest is its argument. -/
namespace Footpath

inductive Command where
  | help
  | quit
  | vars
  | paths
  | stats
  | format (name : String)
  | reset
  /-- Copy what is shown to a file, emptied before if `afresh` holds. -/
  | tee (afresh : Bool) (path : Option String)
  | notee
  | clear
  | unknown (name : String)
deriving DecidableEq

/-- Whether an input is a command. -/
def isCommand (input : String) : Bool := (Text.trim input.toList).head? == some ':'

namespace Command

/-- The flag of `:tee`, and the first word that follows. -/
def ofTeeWords : List (List Char) → Command
  | ['-', 'o'] :: ws => .tee true (ws.head?.map String.ofList)
  | ws => .tee false (ws.head?.map String.ofList)

def ofParts (name : String) (argument : List Char) : Command :=
  match name with
  | "help" | "h" => .help
  | "quit" | "q" | "exit" => .quit
  | "vars" => .vars
  | "paths" => .paths
  | "stats" => .stats
  | "format" => .format (String.ofList argument)
  | "reset" => .reset
  | "tee" => ofTeeWords (Text.words argument)
  | "notee" => .notee
  | "clear" => .clear
  | _ => .unknown name

/-- The text behind the colon. -/
def dropColon : List Char → List Char
  | ':' :: r => r
  | s => s

def ofText (input : String) : Command :=
  let s := dropColon (Text.trim input.toList)
  let name := s.takeWhile fun c => c ≠ ' '
  let argument := Text.trim ((s.dropWhile fun c => c ≠ ' ').drop 1)
  ofParts (String.ofList (Text.lowercase name)) argument

end Command

end Footpath
