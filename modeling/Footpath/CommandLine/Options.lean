import Footpath.Listing

/-! The options of the command line. A value follows its option as the next argument or after an
`=`, or stands directly behind a single letter; an argument that begins with a dash is no value. -/
namespace Footpath

/-! ### Flags -/

inductive Flag where
  | graph
  | script
  | execute
  | start
  | format
  | logLevel
deriving DecidableEq

namespace Flag

def all : List Flag := [graph, script, execute, start, format, logLevel]

def name : Flag → String
  | graph => "graph"
  | script => "script"
  | execute => "execute"
  | start => "start"
  | format => "format"
  | logLevel => "log-level"

def letter? : Flag → Option Char
  | graph => some 'g'
  | script => some 's'
  | execute => some 'e'
  | format => some 'f'
  | start | logLevel => none

/-- The flag and its value, as messages name them. -/
def usage : Flag → String
  | graph => "--graph <GRAPH>"
  | script => "--script <SCRIPT>"
  | execute => "--execute <EXECUTE>"
  | start => "--start <START>"
  | format => "--format <FORMAT>"
  | logLevel => "--log-level <LOG_LEVEL>"

/-- Whether the value is the path of a file, which is never empty. -/
def isPath : Flag → Bool
  | graph | script => true
  | _ => false

end Flag

/-! ### Options -/

structure Options where
  graph : Option String
  /-- The file of a script to run; it wins over `execute`. -/
  script : Option String
  /-- The text of a script to run. -/
  execute : Option String
  /-- The ids of the elements that `$_` starts with. -/
  start : List String
  format : Mode
deriving DecidableEq

/-- Why arguments are no options, or what they ask for instead of a run. -/
inductive Usage where
  | help
  | version
  | unexpected (argument : String)
  | missingValue (flag : Flag)
  | repeated (flag : Flag)
  | invalid (flag : Flag) (value : String) (reason : String)
deriving DecidableEq

namespace Usage

def isFlaw : Usage → Bool
  | .help | .version => false
  | _ => true

def hint : String := "\n\nFor more information, try '--help'.\n"

def summary : String := "Usage: graphpath-cli [OPTIONS]"

def message : Usage → String
  | .help => "属性图动态路径语言命令行工具\n\n" ++ summary ++ "\n"
  | .version => "graphpath-cli 0.1.0\n"
  | .unexpected a => "error: unexpected argument '" ++ a ++ "' found\n\n" ++ summary ++ hint
  | .missingValue f =>
    "error: a value is required for '" ++ f.usage ++ "' but none was supplied" ++ hint
  | .repeated f =>
    "error: the argument '" ++ f.usage ++ "' cannot be used multiple times\n\n" ++ summary ++ hint
  | .invalid f v reason => "error: invalid value '" ++ v ++ "' for '" ++ f.usage ++ "': " ++ reason ++ hint

end Usage

/-! ### Arguments -/

/-- What an argument says by itself: a flag with or without a value. -/
inductive Argument where
  | flag (f : Flag) (value : Option String)
  | ask (u : Usage)

/-- What stands behind an `=`, if one is there, and what stands before it. -/
def splitEquals (s : List Char) : List Char × Option (List Char) :=
  match s.dropWhile fun c => c ≠ '=' with
  | [] => (s, none)
  | _ :: value => (s.takeWhile fun c => c ≠ '=', some value)

def Argument.ofLong (written : String) (s : List Char) : Argument :=
  let (name, value) := splitEquals s
  let name := String.ofList name
  match Flag.all.find? fun f => f.name == name with
  | some f => .flag f (value.map String.ofList)
  | none =>
    if name = "help" && value.isNone then .ask .help
    else if name = "version" && value.isNone then .ask .version
    else .ask (.unexpected written)

def Argument.ofShort (letter : Char) (rest : List Char) : Argument :=
  match Flag.all.find? fun f => f.letter? == some letter with
  | some f =>
    match rest with
    | [] => .flag f none
    | '=' :: value => .flag f (some (String.ofList value))
    | value => .flag f (some (String.ofList value))
  | none =>
    if letter = 'h' then .ask .help
    else if letter = 'V' then .ask .version
    else .ask (.unexpected (String.ofList ['-', letter]))

/-- An argument that is no value: one that begins with a dash and is not the dash alone. -/
def Argument.ofText? (written : String) : Option Argument :=
  match written.toList with
  | '-' :: '-' :: [] => some (.ask (.unexpected written))
  | '-' :: '-' :: s => some (.ofLong written s)
  | '-' :: letter :: rest => some (.ofShort letter rest)
  | _ => none

/-! ### Reading -/

namespace Options

def default : Options := ⟨none, none, none, [], .table⟩

/-- Options so far, with the flags that were given. -/
structure Draft where
  options : Options
  given : List Flag

def Draft.assign (d : Draft) (f : Flag) (value : String) : Except Usage Draft :=
  if f ≠ .start && d.given.contains f then .error (.repeated f)
  else if f.isPath && value = "" then .error (.missingValue f)
  else
    let given := f :: d.given
    match f with
    | .graph => .ok ⟨{ d.options with graph := some value }, given⟩
    | .script => .ok ⟨{ d.options with script := some value }, given⟩
    | .execute => .ok ⟨{ d.options with execute := some value }, given⟩
    | .start => .ok ⟨{ d.options with start := d.options.start ++ [value] }, given⟩
    | .logLevel => .ok ⟨d.options, given⟩
    | .format =>
      match Mode.ofName? value with
      | some m => .ok ⟨{ d.options with format := m }, given⟩
      | none => .error (.invalid f value (Mode.unknownName value))

/-- Reads arguments; `waiting` is a flag whose value comes next. -/
def Draft.read (d : Draft) (waiting : Option Flag) : List String → Except Usage Options
  | [] =>
    match waiting with
    | some f => .error (.missingValue f)
    | none => .ok d.options
  | a :: rest =>
    match Argument.ofText? a, waiting with
    | some (.ask u), _ => .error u
    | some (.flag _ _), some f => .error (.missingValue f)
    | some (.flag f none), none => d.read (some f) rest
    | some (.flag f (some value)), none =>
      match d.assign f value with
      | .error u => .error u
      | .ok d => d.read none rest
    | none, some f =>
      match d.assign f a with
      | .error u => .error u
      | .ok d => d.read none rest
    | none, none => .error (.unexpected a)

def parse (args : List String) : Except Usage Options := Draft.read ⟨default, []⟩ none args

end Options

end Footpath
