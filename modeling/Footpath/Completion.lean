import Footpath.Session

/-! Completion of the word before the cursor, from the names that a completer has at hand. It has
those of the session that it was last brought up to date with. -/
namespace Footpath.Completion

/-! ### What can be completed -/

def keywords : List String := ["path", "end", "and", "or", "true", "false", "g:id(", "@label", "@id"]

def commands : List String :=
  [":help", ":h", ":quit", ":q", ":exit", ":vars", ":paths", ":stats", ":format", ":reset", ":tee", ":notee",
    ":clear"]

structure Completer where
  paths : List String
  /-- The names of variables, each with its `$`. -/
  variableNames : List String
deriving DecidableEq

namespace Completer

def empty : Completer := ⟨[], []⟩

/-- The names of a session take the place of those from before. -/
def update (c : Completer) (s : Session) : Completer :=
  { c with paths := s.registry.names, variableNames := s.env.toList.map fun v => "$" ++ v.1 }

/-- The names of steps. -/
def stepNames (c : Completer) : List String := Hop.all.map Hop.name ++ c.paths

end Completer

/-- The candidates that begin with a word. -/
def extending (word : List Char) (candidates : List String) : List String :=
  candidates.filter fun c => word.isPrefixOf c.toList

/-! ### The word at the cursor -/

/-- Characters that end a word. -/
def isDelimiter (c : Char) : Bool :=
  Text.isBlank c || c == '/' || c == '[' || c == '(' || c == '=' || c == '<' || c == '>' || c == '!'

/-- The length of a text in bytes. -/
def byteLength (s : List Char) : Nat := s.foldl (fun n c => n + c.utf8Size) 0

/-- The characters before a byte offset. -/
def takeBytes : Nat → List Char → List Char
  | _, [] => []
  | n, c :: cs => if c.utf8Size ≤ n then c :: takeBytes (n - c.utf8Size) cs else []

/-- The end of a text without delimiters. -/
def lastWord (s : List Char) : List Char := (s.reverse.takeWhile fun c => !isDelimiter c).reverse

/-! ### Candidates -/

structure Candidates where
  /-- The byte offset of the text that a candidate replaces; it ends at the cursor. -/
  start : Nat
  names : List String
deriving DecidableEq

/-- Whether a text before the cursor is a console command without an argument. -/
def isCommand (before : List Char) : Bool := before.head? == some ':' && !before.contains ' '

def Completer.candidates (c : Completer) (line : String) (cursor : Nat) : Candidates :=
  let before := takeBytes cursor line.toList
  let word := lastWord before
  let start := byteLength before - byteLength word
  if isCommand before then ⟨0, extending before commands⟩
  else
    match word with
    | [] => ⟨start, []⟩
    | '$' :: _ => ⟨start, extending word c.variableNames⟩
    | _ => ⟨start, extending word (c.stepNames ++ keywords)⟩

/-- Completion by the names of a session. -/
def complete (s : Session) (line : String) (cursor : Nat) : Candidates :=
  (Completer.empty.update s).candidates line cursor

end Footpath.Completion
