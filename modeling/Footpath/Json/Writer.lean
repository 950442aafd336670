import Footpath.Json.Reader
import Footpath.Value

/-! Writing JSON over several lines: every item and member stands on a line of its own, two
blanks deeper than its brackets, and empty brackets stay together. -/
namespace Footpath.Json

/-! ### Strings -/

def hexDigit (n : Nat) : Char := (Nat.toDigits 16 n).headD '0'

/-- A character inside quotes. The five controls that have letters use them, the others a number. -/
def escape (c : Char) : List Char :=
  if c = '"' then ['\\', '"']
  else if c = '\\' then ['\\', '\\']
  else if c = '\x08' then ['\\', 'b']
  else if c = '\x0c' then ['\\', 'f']
  else if c = '\n' then ['\\', 'n']
  else if c = '\r' then ['\\', 'r']
  else if c = '\t' then ['\\', 't']
  else if c.toNat < 0x20 then ['\\', 'u', '0', '0', hexDigit (c.toNat / 16), hexDigit (c.toNat % 16)]
  else [c]

def quote (s : String) : List Char := '"' :: s.toList.flatMap escape ++ ['"']

/-! ### Values -/

/-- A double as a tree; one that is no finite number is `null`. -/
def ofFloat (x : Float) : Json :=
  match number? (Decimal.FloatFormat.marked.text x) with
  | some (n, []) => .number n
  | _ => .null

def ofValue : Value → Json
  | .boolean b => .boolean b
  | .integer n => .number (.ofInt n.toInt)
  | .float x => ofFloat x
  | .text s => .string (some s)

/-- The start of a line at some depth. -/
def indent (depth : Nat) : List Char := '\n' :: List.replicate (2 * depth) ' '

mutual

/-- The text of a tree that starts at some depth; a string without a text is written empty. -/
def pretty (depth : Nat) : Json → List Char
  | .null => ['n', 'u', 'l', 'l']
  | .boolean true => ['t', 'r', 'u', 'e']
  | .boolean false => ['f', 'a', 'l', 's', 'e']
  | .number n => n.text
  | .string s => quote (s.getD "")
  | .array [] => ['[', ']']
  | .array (j :: js) =>
    '[' :: indent (depth + 1) ++ pretty (depth + 1) j ++ moreItems (depth + 1) js ++ indent depth ++ [']']
  | .object [] => ['\x7b', '\x7d']
  | .object ((k, j) :: ms) =>
    '\x7b' :: indent (depth + 1) ++ quote (k.getD "") ++ [':', ' '] ++ pretty (depth + 1) j ++
      moreMembers (depth + 1) ms ++ indent depth ++ ['\x7d']

/-- The items behind the first, each with a comma before it. -/
def moreItems (depth : Nat) : List Json → List Char
  | [] => []
  | j :: js => ',' :: indent depth ++ pretty depth j ++ moreItems depth js

/-- The members behind the first, each with a comma before it. -/
def moreMembers (depth : Nat) : List (Option String × Json) → List Char
  | [] => []
  | (k, j) :: ms =>
    ',' :: indent depth ++ quote (k.getD "") ++ [':', ' '] ++ pretty depth j ++ moreMembers depth ms

end

def write (j : Json) : String := String.ofList (pretty 0 j)

end Footpath.Json
