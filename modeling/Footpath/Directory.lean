import Footpath.OrderedMap
import Footpath.Fault

/-! The files and the folders that a program works among. Which folders there are, which of them is
the working folder and where links lead is data; any folder can take new files. -/
namespace Footpath

/-- Where a file or a folder is: the names that lead to it from the root, outermost first. -/
abbrev Location := List String

structure Directory where
  /-- The files in the order in which they were made. -/
  files : OrderedMap Location ByteArray
  /-- The folders but for the root, which is always there. -/
  folders : List Location
  /-- The folder that a path starts from unless it starts at the root. -/
  workingFolder : Location
  /-- What some paths are known to lead to, whatever the folders are: the file behind a link, or
  the reason why there is none to be had. -/
  known : List (String × Except FileFault Location)

namespace Directory

/-! ### Folders -/

def isFolder (d : Directory) (l : Location) : Bool := l.isEmpty || d.folders.contains l

/-- A working folder with nothing in it, the usual folders at the root, and the file there in which
a reader never finds anything. -/
def empty : Directory where
  files := .ofList [(["dev", "null"], .empty)]
  folders := [["tmp", "work"], ["bin"], ["boot"], ["dev"], ["etc"], ["home"], ["lib"], ["media"], ["mnt"], ["opt"],
    ["proc"], ["root"], ["run"], ["sbin"], ["srv"], ["sys"], ["tmp"], ["usr"], ["var"]]
  workingFolder := ["tmp", "work"]
  known := []

/-- Files in a working folder that has nothing else in it. -/
def ofList (files : List (String × ByteArray)) : Directory :=
  { empty with
    files := files.foldl (fun m f => m.insert (empty.workingFolder ++ [f.1]) f.2) empty.files }

/-- The files of the working folder by their names. -/
def home (d : Directory) : List (String × ByteArray) :=
  d.files.entries.filterMap fun f =>
    match f.1.getLast? with
    | some name => if f.1.dropLast = d.workingFolder then some (name, f.2) else none
    | none => none

/-- The text that the bytes of a file spell. -/
def decode (bytes : ByteArray) : Except FileFault String :=
  match String.fromUTF8? bytes with
  | some text => .ok text
  | none => .error .notText

/-! ### Paths -/

/-- What a path leads to, whether or not a file is there. -/
inductive Target where
  | folder
  | file (l : Location)
  | overlong
deriving DecidableEq

/-- The names in a path, outermost first. -/
def segments (path : String) : List String :=
  ((Text.stretches (· == '/') path.toList).map String.ofList).filter fun n => n ≠ ""

def endsInSlash (path : String) : Bool := path.toList.getLast? == some '/'

/-- The longest name that a file may have, and the longest path, in bytes. -/
def longestName : Nat := 255

def longestPath : Nat := 4095

/-- Where a path starts. -/
def start (d : Directory) (path : String) : Location :=
  if path.toList.head? == some '/' then [] else d.workingFolder

/-- Goes from a folder into the one of a name. There is nothing above the root. -/
def enter (d : Directory) (f : Location) (name : String) : Except FileFault Location :=
  if name = "." then .ok f
  else if name = ".." then .ok f.dropLast
  else if longestName < name.utf8ByteSize then .error .nameTooLong
  else if d.files.contains (f ++ [name]) then .error .notDirectory
  else if d.isFolder (f ++ [name]) then .ok (f ++ [name])
  else .error .absent

/-- What the last name of a path stands for in a folder. -/
def target (d : Directory) (f : Location) (name : String) : Target :=
  if name = "." || name = ".." || d.isFolder (f ++ [name]) then .folder
  else if longestName < name.utf8ByteSize then .overlong
  else .file (f ++ [name])

/-- Follows a path. -/
def follow (d : Directory) (path : String) : Except FileFault Target :=
  match d.known.lookup path with
  | some (.error f) => .error f
  | some (.ok l) => .ok (.file l)
  | none =>
    if path.toList.contains '\x00' then .error .nulInName
    else if path = "" then .error .absent
    else if longestPath < path.utf8ByteSize then .error .nameTooLong
    else
      match (segments path).getLast? with
      | none => .ok .folder
      | some name => do
        let f ← (segments path).dropLast.foldlM d.enter (d.start path)
        return d.target f name

/-! ### Reading -/

def read (d : Directory) (path : String) : Except FileFault ByteArray := do
  match ← d.follow path with
  | .folder => .error .directory
  | .overlong => .error .nameTooLong
  | .file l =>
    if !d.files.contains l then .error .absent
    else if endsInSlash path then .error .notDirectory
    else .ok ((d.files.find? l).getD .empty)

def readText (d : Directory) (path : String) : Except FileFault String := d.read path >>= decode

/-! ### Writing -/

/-- Makes a file, or empties it if it is there and `afresh` holds; where it is is given back. -/
def openFile (d : Directory) (afresh : Bool) (path : String) : Except FileFault (Location × Directory) := do
  match ← d.follow path with
  | .folder => .error .directory
  | .overlong => .error (if endsInSlash path then .directory else .nameTooLong)
  | .file l =>
    if endsInSlash path then .error .directory
    else if d.files.contains l && !afresh then .ok (l, d)
    else .ok (l, { d with files := d.files.insert l .empty })

/-- Adds a text to the end of a file. -/
def append (d : Directory) (l : Location) (text : String) : Directory :=
  { d with files := d.files.insert l ((d.files.find? l).getD .empty ++ text.toUTF8) }

end Directory

end Footpath
