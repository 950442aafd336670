import Footpath.Terminal

/-! The inputs of a console.

An input is blank, a command or a script (`Input`). Its kind decides what a console does with it and what it
answers (`Console.meet`); a terminal notes the answer in the transcript, shows it, and is over when the
answer is to quit (`Terminal.accept_eq`). Inputs are accepted one after another until then
(`Terminal.acceptAll`). -/
namespace Footpath

/-! ### Kinds of inputs -/

/-- What a complete input stands for. The suffix that asks for the vertical mode is no part of a script. -/
inductive Input where
  | blank
  | command (k : Command)
  | script (text : String) (vertical : Bool)
deriving DecidableEq

/-- Blanks around an input do not count. -/
def Input.ofText (input : List Char) : Input :=
  let s := String.ofList (Text.trim input)
  if (Text.trim input).isEmpty then .blank
  else if isCommand s then .command (.ofText s)
  else .script (splitVertical s).1 (splitVertical s).2

namespace Console

/-- What an evaluated script is answered with. -/
def replyTo (g : Graph) (mode : Mode) (elapsed : Nat) : Except Error Sequence → Reply
  | .ok xs => .result (mode.listing (describeAll g xs) elapsed)
  | .error e => .failed e

/-- The mode that a script is listed in. -/
def modeFor (mode : Mode) (vertical : Bool) : Mode := if vertical then .vertical else mode

/-- What a console does with an input, and what it answers; a blank input has no answer. -/
def meet (c : Console) : Input → Console × Option Reply
  | .blank => (c, none)
  | .command k => ((c.obey k).1, some (c.obey k).2)
  | .script text vertical =>
    ({ c with session := (c.session.eval c.graph text).1, durations := fun n => c.durations (n + 1) },
      some (replyTo c.graph (modeFor c.mode vertical) (c.durations 0) (c.session.eval c.graph text).2))

/-- Adds an answer to the transcript. -/
def note (c : Console) : Option Reply → Console
  | none => c
  | some r => c.log r.transcript

/-- A script changes the session, and takes its time. -/
theorem evaluate_eq (c : Console) (input : String) :
    c.evaluate input =
      ({ c with
          session := (c.session.eval c.graph (splitVertical input).1).1
          durations := fun n => c.durations (n + 1) },
        replyTo c.graph (modeFor c.mode (splitVertical input).2) (c.durations 0)
          (c.session.eval c.graph (splitVertical input).1).2) := by
  rw [evaluate]
  dsimp only
  cases c.session.eval c.graph (splitVertical input).1 with
  | mk s outcome => cases outcome <;> rfl

/-- An input that is not blank is handled as its kind says. -/
theorem handle_eq (c : Console) {input : List Char} (h : (Text.trim input).isEmpty = false) :
    ∃ r, (c.meet (.ofText input)).2 = some r ∧
      c.handle (String.ofList (Text.trim input)) = ((c.meet (.ofText input)).1.note (some r), r) := by
  rw [handle, respond]
  cases hcommand : isCommand (String.ofList (Text.trim input)) with
  | true =>
    have hkind : Input.ofText input = .command (.ofText (String.ofList (Text.trim input))) := by
      simp only [Input.ofText, h, hcommand, Bool.false_eq_true, if_true, if_false]
    rw [hkind, meet, if_pos rfl]
    generalize c.obey (.ofText (String.ofList (Text.trim input))) = answered
    exact ⟨answered.2, rfl, rfl⟩
  | false =>
    have hkind : Input.ofText input = .script (splitVertical (String.ofList (Text.trim input))).1
        (splitVertical (String.ofList (Text.trim input))).2 := by
      simp only [Input.ofText, h, hcommand, Bool.false_eq_true, if_false]
    rw [hkind, if_neg Bool.false_ne_true, evaluate_eq]
    exact ⟨_, rfl, rfl⟩

end Console

/-! ### What an input changes -/

/-- The mode that an input sets: the one that `:format` names, in either case. -/
def Input.mode? : Input → Option Mode
  | .command (.format name) =>
    if name.toLower = "table" then some .table
    else if name.toLower = "vertical" then some .vertical
    else if name.toLower = "json" then some .json
    else none
  | _ => none

theorem Input.mode?_format (name : String) : (Input.command (.format name)).mode? = Mode.ofName? name := by
  rw [mode?, Mode.ofName?, Mode.all]
  simp only [List.find?_cons, Mode.name, List.find?_nil]
  grind

namespace Console

variable (c : Console)

/-- The mode changes when there is one of the name. -/
theorem format_fst (name : String) :
    (c.format name).1 = { c with mode := (Input.command (.format name)).mode?.getD c.mode } := by
  rw [Input.mode?_format]
  unfold format
  split
  · rename_i hname
    have hnone : Mode.ofName? "" = none := by decide +kernel
    rw [hname, hnone]
    rfl
  · cases Mode.ofName? name <;> rfl

theorem tee_fst (afresh : Bool) (path : Option String) :
    (c.tee afresh path).1 =
      { c with directory := (c.tee afresh path).1.directory, transcript := (c.tee afresh path).1.transcript } := by
  cases path with
  | none => rfl
  | some path =>
    simp only [tee]
    cases c.directory.openFile afresh path <;> rfl

theorem notee_fst : c.notee.1 = { c with transcript := none } := by
  obtain ⟨g, s, mode, d, transcript, durations⟩ := c
  cases transcript <;> rfl

/-- A command changes the session if it resets it, and the mode if it sets one. -/
theorem obey_fst (k : Command) :
    (c.obey k).1 = ⟨c.graph, if k = .reset then c.session.reset else c.session, (Input.command k).mode?.getD c.mode,
      (c.obey k).1.directory, (c.obey k).1.transcript, c.durations⟩ := by
  cases k with
  | format name =>
    rw [obey, format_fst]
    rfl
  | tee afresh path => exact c.tee_fst afresh path
  | notee =>
    rw [obey, notee_fst]
    rfl
  | _ => rfl

/-- The transcript is a matter of the directory. -/
theorem note_eq (a : Option Reply) : c.note a = { c with directory := (c.note a).directory } := by
  cases a with
  | none => rfl
  | some r =>
    obtain ⟨g, s, mode, d, transcript, durations⟩ := c
    cases transcript <;> rfl

theorem replyTo_ne_exit (g : Graph) (mode : Mode) (elapsed : Nat) (outcome : Except Error Sequence) :
    replyTo g mode elapsed outcome ≠ .exit := by
  cases outcome <;> exact Reply.noConfusion

/-- Only one command quits. -/
theorem meet_snd_eq_exit (i : Input) : (c.meet i).2 = some .exit ↔ i = .command .quit := by
  cases i with
  | blank => simp [meet]
  | script text vertical => simp [meet, replyTo_ne_exit]
  | command k =>
    cases k with
    | format name =>
      simp only [meet, obey, format]
      repeat' split
      all_goals simp
    | tee afresh path =>
      cases path with
      | none => simp [meet, obey, tee]
      | some path =>
        simp only [meet, obey, tee]
        split <;> simp
    | notee =>
      simp only [meet, obey, notee]
      split <;> simp
    | _ => simp [meet, obey]

end Console

/-! ### Terminals -/

namespace Terminal

/-- What is shown of an answer. -/
def shown : Option Reply → Shown
  | none => ⟨prompt, ""⟩
  | some .exit => ⟨farewell, ""⟩
  | some r => ⟨r.screen ++ prompt, complaint r⟩

variable {t : Terminal}

/-- **One input.** The console does what the kind of the input says and notes its answer. -/
theorem accept_eq (ht : t.isOver = false) (i : List Char) :
    t.accept i =
      (⟨(t.console.meet (.ofText i)).1.note (t.console.meet (.ofText i)).2, [],
          decide ((t.console.meet (.ofText i)).2 = some .exit)⟩,
        shown (t.console.meet (.ofText i)).2) := by
  simp only [accept]
  cases hblank : (Text.trim i).isEmpty with
  | true =>
    have hkind : Input.ofText i = .blank := by simp only [Input.ofText, hblank, if_true]
    rw [hkind, if_pos rfl, ht]
    rfl
  | false =>
    obtain ⟨r, hr, hhandle⟩ := t.console.handle_eq hblank
    rw [if_neg Bool.false_ne_true, hhandle, hr]
    cases r <;> rfl

theorem accept_snd (ht : t.isOver = false) (i : List Char) :
    (t.accept i).2 = shown (t.console.meet (.ofText i)).2 := by
  rw [accept_eq ht]

/-- Accepts inputs one after another until the console quits. -/
def acceptAll (t : Terminal) : List (List Char) → Terminal × List Shown
  | [] => (t, [])
  | i :: is =>
    let (t, s) := t.accept i
    if t.isOver then (t, [s])
    else
      let (t, ss) := t.acceptAll is
      (t, s :: ss)

/-- What inputs are answered one after another until the console quits. -/
def answers (t : Terminal) : List (List Char) → List (Option Reply)
  | [] => []
  | i :: is =>
    (t.console.meet (.ofText i)).2 :: if (t.accept i).1.isOver then [] else (t.accept i).1.answers is

theorem acceptAll_snd (ht : t.isOver = false) (is : List (List Char)) :
    (t.acceptAll is).2 = (t.answers is).map shown := by
  induction is generalizing t with
  | nil => rfl
  | cons i is ih =>
    rw [acceptAll, answers, List.map_cons, ← accept_snd ht]
    dsimp only
    cases hover : (t.accept i).1.isOver with
    | true => rfl
    | false => exact congrArg _ (ih hover)

theorem head_acceptAll (t : Terminal) (i : List Char) (is : List (List Char)) :
    (t.acceptAll (i :: is)).2[0]? = some (t.accept i).2 := by
  rw [acceptAll]
  dsimp only
  cases (t.accept i).1.isOver <;> rfl

theorem acceptAll_append (is js : List (List Char)) (h : (t.acceptAll is).1.isOver = false) :
    t.acceptAll (is ++ js) =
      (((t.acceptAll is).1.acceptAll js).1, (t.acceptAll is).2 ++ ((t.acceptAll is).1.acceptAll js).2) := by
  induction is generalizing t with
  | nil => rfl
  | cons i is ih =>
    rw [List.cons_append, acceptAll, acceptAll]
    rw [acceptAll] at h
    dsimp only at h ⊢
    cases hover : (t.accept i).1.isOver with
    | true =>
      rw [hover] at h
      exact absurd (hover.symm.trans h) (by decide)
    | false =>
      rw [hover] at h
      rw [if_neg Bool.false_ne_true, if_neg Bool.false_ne_true, ih h]
      rfl

end Terminal

end Footpath
