import Footpath.Element
import Footpath.Language.Script

/-! What can go wrong, and how it is reported. A `Fault` is a cause; an `Error` is a fault
together with the statements it passed through on its way out, outermost first. All wording is
in this module. -/
namespace Footpath

/-! ### Flaws of a text -/

/-- Why a text is no predicate. -/
inductive PredicateFlaw where
  | empty
  | unclosedBracket
  | closingParenthesis
  | comparison (left : Operand)
  | propertyName
  | unclosedString
  | number
  | unexpected (rest : String)
  | unexpectedEnd
deriving DecidableEq

def PredicateFlaw.reason : PredicateFlaw → String
  | .empty => "empty predicate"
  | .unclosedBracket => "unclosed `[`"
  | .closingParenthesis => "expected `)`"
  | .comparison left => "expected comparison operator after `" ++ left.render ++ "`"
  | .propertyName => "expected property name after `@`"
  | .unclosedString => "unclosed string"
  | .number => "expected number"
  | .unexpected rest => "unexpected `" ++ rest ++ "`"
  | .unexpectedEnd => "unexpected end of predicate"

/-- Why a text is no step or statement. -/
inductive StepFlaw where
  | missingExpression
  | missingSource
  | missingName
  | variableName
  | lookupArgument
  | closingParenthesis
  | unclosedString
  | number
  | notRelative
  | unexpected (rest : String)
deriving DecidableEq

def StepFlaw.reason : StepFlaw → String
  | .missingExpression => "missing expression"
  | .missingSource => "expected `./`, a variable or `g:id(...)`"
  | .missingName => "missing navigation identifier"
  | .variableName => "expected variable name after `$`"
  | .lookupArgument => "g:id expects a quoted string or a number"
  | .closingParenthesis => "expected `)`"
  | .unclosedString => "unclosed string"
  | .number => "expected number"
  | .notRelative => "a step must start with `./`"
  | .unexpected rest => "unexpected `" ++ rest ++ "`"

/-- Why the lines of a text do not form blocks. -/
inductive ScriptFlaw where
  | strayEnd
  | nestedPath (outer : String)
  | missingName
  | invalidName (name : String)
  | missingEnd (name : String)
deriving DecidableEq

def ScriptFlaw.reason : ScriptFlaw → String
  | .strayEnd => "`end` without a matching `path`"
  | .nestedPath outer => "`path` inside the body of path `" ++ outer ++ "`"
  | .missingName => "missing path name"
  | .invalidName name => "invalid path name `" ++ name ++ "`"
  | .missingEnd name => "path `" ++ name ++ "` is missing `end`"

/-! ### Causes -/

/-- Why a file could not be read or opened. -/
inductive FileFault where
  | absent
  | denied
  | notDirectory
  | directory
  | nameTooLong
  | nulInName
  | notText
deriving DecidableEq

def FileFault.reason : FileFault → String
  | .absent => "No such file or directory (os error 2)"
  | .denied => "Permission denied (os error 13)"
  | .notDirectory => "Not a directory (os error 20)"
  | .directory => "Is a directory (os error 21)"
  | .nameTooLong => "File name too long (os error 36)"
  | .nulInName => "file name contained an unexpected NUL byte"
  | .notText => "stream did not contain valid UTF-8"

/-- What was looked for and is not in the graph. -/
inductive Missing where
  | named (id : String)
  | element (e : Element)
  | source (v : VertexId)
  | target (v : VertexId)
deriving DecidableEq

def Missing.render : Missing → String
  | .named id => id
  | .element e => e.render
  | .source v => "源顶点 " ++ v.render
  | .target v => "目标顶点 " ++ v.render

inductive Fault where
  | reservedName (name : String)
  | step (token : String) (flaw : StepFlaw)
  | predicate (text : String) (flaw : PredicateFlaw)
  | script (line : Nat) (flaw : ScriptFlaw)
  | unbound (name : String)
  | navigation (token : String) (e : Element)
  | missing (m : Missing)
  | incomparable (left : Value) (op : Comparison) (right : Value)
  | recursion (chain : List String)
  | noPath (name : String)
  | taken (number : UInt64)
  | malformedDocument
  | badId (shown : String)
  | file (f : FileFault)
deriving DecidableEq

/-- A value with its kind behind it. -/
def Value.describe (v : Value) : String := v.render ++ " (" ++ v.kind ++ ")"

def Fault.message : Fault → String
  | .reservedName name => "保留名称不能用作路径名: " ++ name
  | .step token flaw => "步骤语法错误 `" ++ token ++ "`: " ++ flaw.reason
  | .predicate text flaw => "谓词语法错误 `" ++ text ++ "`: " ++ flaw.reason
  | .script line flaw => "脚本结构错误 (第 " ++ toString line ++ " 行): " ++ flaw.reason
  | .unbound name => "变量未绑定: $" ++ name
  | .navigation token e => "步骤 `" ++ token ++ "` 不能作用于 " ++ e.kind ++ " " ++ e.render
  | .missing m => "元素不存在: " ++ m.render
  | .incomparable l op r => "谓词类型不匹配: " ++ l.describe ++ " " ++ op.symbol ++ " " ++ r.describe
  | .recursion chain => "路径递归定义: " ++ " -> ".intercalate chain
  | .noPath name => "路径不存在: " ++ name
  | .taken number => "元素已存在: " ++ toString number
  | .malformedDocument => "导入错误: JSON 解析失败"
  | .badId shown => "导入错误: 无效的 ID: " ++ shown
  | .file f => "IO 错误: " ++ f.reason

/-! ### Located errors -/

/-- A statement that an error passed through. -/
structure Site where
  line : Nat
  text : String
deriving DecidableEq

structure Error where
  trail : List Site
  fault : Fault
deriving DecidableEq

namespace Error

def ofFault (f : Fault) : Error := ⟨[], f⟩

/-- The same error, having passed through one more statement. -/
def within (s : Statement) (e : Error) : Error := ⟨⟨s.line, s.text⟩ :: e.trail, e.fault⟩

def messageFrom (f : Fault) : List Site → String
  | [] => f.message
  | s :: rest =>
    "第 " ++ toString s.line ++ " 行语句 `" ++ s.text ++ "` 执行失败: " ++ messageFrom f rest

def message (e : Error) : String := messageFrom e.fault e.trail

/-- What stands behind a fault in the system. -/
def origin : Fault → List String
  | .file f => [f.reason]
  | _ => []

def causesFrom (f : Fault) : List Site → List String
  | [] => origin f
  | _ :: rest => messageFrom f rest :: causesFrom f rest

/-- The messages below the outermost one, from the outside in. -/
def causes (e : Error) : List String := causesFrom e.fault e.trail

end Error

/-- An error from the outside in: a fault, or a statement and what it failed with. -/
inductive Raised where
  | fault (f : Fault)
  | statement (s : Site) (source : Raised)
deriving DecidableEq

/-- What is inside all statements. -/
def Raised.root : Raised → Fault
  | fault f => f
  | statement _ source => source.root

namespace Error

def raised (e : Error) : Raised := e.trail.foldr .statement (.fault e.fault)

theorem raised_within (s : Statement) (e : Error) : (e.within s).raised = .statement ⟨s.line, s.text⟩ e.raised := rfl

/-- An error keeps its fault through all statements. -/
theorem root_raised (e : Error) : e.raised.root = e.fault := by
  obtain ⟨trail, fault⟩ := e
  induction trail with
  | nil => rfl
  | cons s trail ih => exact ih

/-- No two errors are raised alike. -/
theorem raised_inj {e e' : Error} : e.raised = e'.raised ↔ e = e' := by
  refine ⟨fun h => ?_, congrArg raised⟩
  have hfault : e.fault = e'.fault := by rw [← e.root_raised, h, e'.root_raised]
  have htrail : ∀ t t' : List Site, t.foldr Raised.statement (.fault e.fault) = t'.foldr .statement (.fault e.fault) →
      t = t' := by
    intro t
    induction t with
    | nil =>
      intro t' h
      cases t' with
      | nil => rfl
      | cons s' t' => cases h
    | cons s t ih =>
      intro t' h
      cases t' with
      | nil => cases h
      | cons s' t' =>
        obtain ⟨hsite, hrest⟩ := Raised.statement.inj h
        rw [hsite, ih t' hrest]
  rw [raised, raised, ← hfault] at h
  exact (Error.mk.injEq ..).mpr ⟨htrail _ _ h, hfault⟩

end Error

/-! ### Outcomes -/

section
variable {ε ε' α β : Type} {x : Except ε α}

theorem bind_eq_ok_iff {f : α → Except ε β} {b : β} : x >>= f = .ok b ↔ ∃ a, x = .ok a ∧ f a = .ok b := by
  constructor
  · intro h
    cases x with
    | error e => cases h
    | ok a => exact ⟨a, rfl, h⟩
  · rintro ⟨a, rfl, h⟩
    exact h

theorem bind_eq_error_iff {f : α → Except ε β} {e : ε} :
    x >>= f = .error e ↔ x = .error e ∨ ∃ a, x = .ok a ∧ f a = .error e := by
  cases x with
  | error e' =>
    show (.error e' : Except ε β) = .error e ↔ _
    rw [Except.error.injEq, Except.error.injEq]
    exact ⟨.inl, fun h => h.resolve_right nofun⟩
  | ok a =>
    constructor
    · exact fun h => .inr ⟨a, rfl, h⟩
    · rintro (h | ⟨b, hb, h⟩)
      · cases h
      · cases hb
        exact h

theorem mapError_eq_ok_iff {f : ε → ε'} {a : α} : x.mapError f = .ok a ↔ x = .ok a := by
  cases x with
  | error e => exact ⟨nofun, nofun⟩
  | ok b =>
    show (.ok b : Except ε' α) = .ok a ↔ _
    rw [Except.ok.injEq, Except.ok.injEq]

theorem mapError_eq_error_iff {f : ε → ε'} {e : ε'} : x.mapError f = .error e ↔ ∃ e', x = .error e' ∧ f e' = e := by
  cases x with
  | error e' =>
    show (.error (f e') : Except ε' α) = .error e ↔ _
    rw [Except.error.injEq]
    exact ⟨fun h => ⟨e', rfl, h⟩, fun ⟨_, h, he⟩ => Except.error.inj h ▸ he⟩
  | ok a => exact ⟨nofun, nofun⟩

end

end Footpath
