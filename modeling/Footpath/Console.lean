import Footpath.Console.Command
import Footpath.Console.Help
import Footpath.Directory
import Footpath.Listing
import Footpath.Overview

/-! The console: a session on a graph with an output format and a transcript. Each input is a
command or a script. What an input shows goes to the screen and, while a transcript is kept, to
the end of its file; only a cleared screen and errors are not part of the transcript. How long
scripts take, which listings tell, is given from outside. -/
namespace Footpath

structure Console where
  graph : Graph
  session : Session
  mode : Mode
  directory : Directory
  /-- The file that the transcript goes to, while one is kept. -/
  transcript : Option Location
  /-- How long each of the scripts to come takes, in milliseconds. -/
  durations : Nat → Nat

/-- What an input leads to. -/
inductive Reply where
  | cleared
  | exit
  | message (text : String)
  | refused (reason : String)
  | result (listing : String)
  | failed (e : Error)
deriving DecidableEq

namespace Reply

/-- What a reply adds to the transcript. -/
def transcript : Reply → String
  | .message text => text ++ "\n"
  | .result listing => listing
  | _ => ""

/-- What a reply shows on the screen. -/
def screen : Reply → String
  | .cleared => "\x1b[2J\x1b[1;1H"
  | r => r.transcript

/-- What is wrong, if something is. -/
def complaint? : Reply → Option String
  | .refused reason => some reason
  | .failed e => some e.message
  | _ => none

end Reply

namespace Console

def start (g : Graph) (seed : Environment) (mode : Mode) (d : Directory)
    (durations : Nat → Nat := fun _ => 0) : Console :=
  ⟨g, .start seed, mode, d, none, durations⟩

/-! ### Commands -/

def format (c : Console) (name : String) : Console × Reply :=
  if name = "" then (c, .message ("Output format: " ++ c.mode.name))
  else
    match Mode.ofName? name with
    | some m => ({ c with mode := m }, .message ("Output format set to " ++ m.name))
    | none => (c, .refused (Mode.unknownName name))

/-- Keeps a transcript from now on; one that cannot be kept leaves the one before it. -/
def tee (c : Console) (afresh : Bool) : Option String → Console × Reply
  | none => (c, .refused "Usage: :tee [-o] <filename>")
  | some path =>
    match c.directory.openFile afresh path with
    | .error f => (c, .refused ("Cannot open file: " ++ f.reason))
    | .ok (l, d) =>
      ({ c with directory := d, transcript := some l }, .message ("Logging to " ++ path))

def notee (c : Console) : Console × Reply :=
  match c.transcript with
  | some _ => ({ c with transcript := none }, .message "Stopped logging")
  | none => (c, .message "No active logging")

def obey (c : Console) : Command → Console × Reply
  | .help => (c, .message helpText)
  | .quit => (c, .exit)
  | .vars => (c, .message c.session.variablesText)
  | .paths => (c, .message c.session.pathsText)
  | .stats => (c, .message (c.session.statsText c.graph))
  | .format name => c.format name
  | .reset =>
    ({ c with session := c.session.reset }, .message "Paths and variables cleared, start context restored")
  | .tee afresh path => c.tee afresh path
  | .notee => c.notee
  | .clear => (c, .cleared)
  | .unknown name => (c, .refused ("Unknown command: " ++ name ++ ". Type :help for help."))

/-! ### Scripts -/

/-- The elements of a sequence that are in the graph, described. -/
def describeAll (g : Graph) (xs : Sequence) : List Description := xs.filterMap g.describe?

/-- Runs a script and lists its result; the vertical mode holds for this input only. -/
def evaluate (c : Console) (input : String) : Console × Reply :=
  let (script, vertical) := splitVertical input
  let mode := if vertical then .vertical else c.mode
  let later : Nat → Nat := fun n => c.durations (n + 1)
  match c.session.eval c.graph script with
  | (s, .error e) => ({ c with session := s, durations := later }, .failed e)
  | (s, .ok xs) =>
    ({ c with session := s, durations := later },
      .result (mode.listing (describeAll c.graph xs) (c.durations 0)))

/-! ### Inputs -/

/-- Adds a text to the transcript. -/
def log (c : Console) (text : String) : Console :=
  match c.transcript with
  | some l => { c with directory := c.directory.append l text }
  | none => c

def respond (c : Console) (input : String) : Console × Reply :=
  if isCommand input then c.obey (.ofText input) else c.evaluate input

/-- Handles an input; what it shows goes to the transcript that is kept behind it. -/
def handle (c : Console) (input : String) : Console × Reply :=
  let (c, r) := c.respond input
  (c.log r.transcript, r)

end Console

end Footpath
