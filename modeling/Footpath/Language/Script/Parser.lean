import Footpath.Language.Statement.Parser

/-! Reading scripts, line by line. A line is a comment or blank, opens or closes a path block, or
is a statement of the open block or of the script. -/
namespace Footpath
open Text Token

/-! ### The kinds of lines -/

inductive Line where
  | blank
  | close
  | header (name : List Char)
  | statement (text : List Char)
deriving DecidableEq

/-- The name behind `path`, if a trimmed line opens a block; the name may be missing. -/
def headerName? (s : List Char) : Option (List Char) :=
  match strip? ['p', 'a', 't', 'h'] s with
  | none => none
  | some [] => some []
  | some (c :: r) => if isBlank c then some (trim (c :: r)) else none

/-- The kind of a line, blanks around it left out. -/
def Line.ofText (s : List Char) : Line :=
  let t := trim s
  if t.isEmpty || t.head? == some '#' then .blank
  else if t = ['e', 'n', 'd'] then .close
  else match headerName? t with
    | some name => .header name
    | none => .statement t

/-! ### Blocks -/

/-- A script read so far, and the block that is open. -/
structure Draft where
  script : Script
  block : Option NamedPath
deriving DecidableEq

namespace Draft

def empty : Draft := ⟨Script.empty, none⟩

def scriptError (line : Nat) (flaw : ScriptFlaw) : Error := .ofFault (.script line flaw)

/-- Opens a block. Its name is judged before anything of its body is read. -/
def openBlock (d : Draft) (line : Nat) (name : List Char) : Except Error Draft :=
  match d.block with
  | some outer => .error (scriptError line (.nestedPath outer.name))
  | none =>
    let text := String.ofList name
    if name.isEmpty then .error (scriptError line .missingName)
    else if !isName name then .error (scriptError line (.invalidName text))
    else if isReserved text then .error (.ofFault (.reservedName text))
    else .ok { d with block := some ⟨text, line, []⟩ }

def closeBlock (d : Draft) (line : Nat) : Except Error Draft :=
  match d.block with
  | none => .error (scriptError line .strayEnd)
  | some p => .ok ⟨{ d.script with paths := d.script.paths ++ [p] }, none⟩

/-- Adds a statement to the open block, or to the script. -/
def add (d : Draft) (s : Statement) : Draft :=
  match d.block with
  | some p => { d with block := some { p with body := p.body ++ [s] } }
  | none => { d with script := { d.script with body := d.script.body ++ [s] } }

/-- The draft behind one more line, which has the number `line`. -/
def next (d : Draft) (line : Nat) (s : List Char) : Except Error Draft :=
  match Line.ofText s with
  | .blank => .ok d
  | .close => d.closeBlock line
  | .header name => d.openBlock line name
  | .statement t =>
    match Statement.ofText line t with
    | .error f => .error ⟨[⟨line, String.ofList t⟩], f⟩
    | .ok statement => .ok (d.add statement)

/-- The draft behind a list of lines, the first of which has the number `line`. -/
def run (d : Draft) (line : Nat) : List (List Char) → Except Error Draft
  | [] => .ok d
  | s :: rest =>
    match d.next line s with
    | .error e => .error e
    | .ok d => d.run (line + 1) rest

/-- The script, once no block is open. -/
def finish (d : Draft) : Except Error Script :=
  match d.block with
  | some p => .error (scriptError p.line (.missingEnd p.name))
  | none => .ok d.script

theorem run_append (d : Draft) (line : Nat) (a b : List (List Char)) :
    d.run line (a ++ b) = d.run line a >>= fun d => d.run (line + a.length) b := by
  induction a generalizing d line with
  | nil => rfl
  | cons s a ih =>
    simp only [List.cons_append, run, List.length_cons]
    cases d.next line s with
    | error e => rfl
    | ok d =>
      simp only [ih]
      rw [Nat.add_right_comm, Nat.add_assoc]

end Draft

def Script.parse (text : String) : Except Error Script :=
  match Draft.empty.run 1 (lines text.toList) with
  | .error e => .error e
  | .ok d => d.finish

/-! ### Lines by themselves -/

/-- The name that a text opens a block with, if it is a block header. -/
def blockName? (text : String) : Option String :=
  (headerName? (trim text.toList)).map String.ofList

/-- Whether a block stands open behind a line, if one does before it when `isOpen`. -/
def Line.leavesOpen (isOpen : Bool) : Line → Bool
  | .close => false
  | .header _ => true
  | _ => isOpen

/-- Whether the last block header of a text has no `end` behind it. -/
def hasOpenBlock (text : String) : Bool :=
  (lines text.toList).foldl (fun isOpen s => (Line.ofText s).leavesOpen isOpen) false

end Footpath
