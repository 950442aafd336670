import Footpath.Proofs.Console.Typed
import Footpath.Proofs.Session.Bodies
import Footpath.Proofs.Invocation.Inlining
import Mathlib.Data.List.DropRight

/-! A console as a session.

Of what a console was given, its session is a matter of the scripts since the last reset, and its mode of
the commands that set one (`Console.Follows`). Every input keeps this, whatever it is answered. So a script is
answered as a fresh session would answer it that has evaluated those scripts, and listed in the vertical mode if
the suffix was typed behind it, else in the mode that was set last (`Terminal.acceptAll_refines`). -/
namespace Footpath

/-! ### What a fresh session evaluates -/

/-- Evaluates texts one after another, whether or not they fail. -/
def Session.evalAll (g : Graph) (s : Session) (texts : List String) : Session :=
  texts.foldl (fun s text => (s.eval g text).1) s

theorem Session.evalAll_append (g : Graph) (s : Session) (as bs : List String) :
    s.evalAll g (as ++ bs) = (s.evalAll g as).evalAll g bs :=
  List.foldl_append

/-- What a session began with stays. -/
theorem Session.seed_eval (g : Graph) (s : Session) (text : String) : (s.eval g text).1.seed = s.seed := by
  cases hparse : Script.parse text with
  | error e => rw [eval, hparse]
  | ok script => rw [s.eval_of_accepted g hparse, runBody_fst]

theorem Session.seed_evalAll (g : Graph) (s : Session) (texts : List String) : (s.evalAll g texts).seed = s.seed := by
  induction texts generalizing s with
  | nil => rfl
  | cons text texts ih => exact (ih _).trans (s.seed_eval g text)

namespace Input

/-- The texts of the scripts among some inputs. -/
def scripts (is : List Input) : List String :=
  is.filterMap fun
    | .script text _ => some text
    | _ => none

theorem scripts_append (is js : List Input) : scripts (is ++ js) = scripts is ++ scripts js :=
  List.filterMap_append

/-- The inputs behind the last reset; all of them if there is none. -/
def sinceReset (is : List Input) : List Input := is.rtakeWhile fun i => i ≠ .command .reset

/-- The mode behind some inputs: the one that was set last. -/
def modeAfter (mode : Mode) (is : List Input) : Mode := (is.filterMap mode?).getLast?.getD mode

theorem modeAfter_concat (mode : Mode) (is : List Input) (i : Input) :
    modeAfter mode (is ++ [i]) = (mode? i).getD (modeAfter mode is) := by
  rw [modeAfter, modeAfter, List.filterMap_append, List.getLast?_append]
  cases hi : mode? i with
  | none => rw [List.filterMap_cons_none hi]; rfl
  | some m => rw [List.filterMap_cons_some hi]; rfl

theorem sinceReset_concat {i : Input} (h : i ≠ .command .reset) (is : List Input) :
    sinceReset (is ++ [i]) = sinceReset is ++ [i] :=
  List.rtakeWhile_concat_pos _ _ _ (decide_eq_true h)

theorem sinceReset_concat_reset (is : List Input) : sinceReset (is ++ [.command .reset]) = [] :=
  List.rtakeWhile_concat_neg _ _ _ (by decide)

end Input

/-! ### Consoles -/

namespace Console

/-- The session of a console is the fresh one that has evaluated the scripts since the last reset. Each script
has taken its time. -/
structure Follows (g : Graph) (seed : Environment) (mode : Mode) (durations : Nat → Nat) (is : List Input)
    (c : Console) : Prop where
  graph : c.graph = g
  session : c.session = (Session.start seed).evalAll g (Input.scripts (Input.sinceReset is))
  mode : c.mode = Input.modeAfter mode is
  durations : ∀ n, c.durations n = durations ((Input.scripts is).length + n)

variable {g : Graph} {seed : Environment} {mode : Mode} {durations : Nat → Nat} {is : List Input} {c : Console}

theorem follows_start (d : Directory) :
    (Console.start g seed mode d durations).Follows g seed mode durations [] :=
  ⟨rfl, rfl, rfl, fun n => congrArg durations (Nat.zero_add n).symm⟩

theorem Follows.meet (h : c.Follows g seed mode durations is) (i : Input) :
    ((c.meet i).1.note (c.meet i).2).Follows g seed mode durations (is ++ [i]) := by
  rw [note_eq]
  refine ⟨?_, ?_, ?_, fun n => ?_⟩
  · refine Eq.trans ?_ h.graph
    cases i with
    | command k =>
      show (c.obey k).1.graph = c.graph
      rw [obey_fst]
    | _ => rfl
  · cases i with
    | blank =>
      rw [Input.sinceReset_concat (by decide), Input.scripts_append]
      exact h.session.trans (congrArg _ (List.append_nil _).symm)
    | command k =>
      refine (congrArg Console.session (c.obey_fst k)).trans ?_
      by_cases hk : k = .reset
      · rw [hk, if_pos rfl, Input.sinceReset_concat_reset, Session.reset, h.session, Session.seed_evalAll]
        rfl
      · rw [if_neg hk, Input.sinceReset_concat (by simpa using hk), Input.scripts_append]
        exact h.session.trans (congrArg _ (List.append_nil _).symm)
    | script text vertical =>
      rw [Input.sinceReset_concat (by simp), Input.scripts_append, Session.evalAll_append, ← h.session, ← h.graph]
      rfl
  · rw [Input.modeAfter_concat, ← h.mode]
    cases i with
    | command k =>
      show (c.obey k).1.mode = _
      rw [obey_fst]
    | _ => rfl
  · rw [Input.scripts_append, List.length_append]
    cases i with
    | blank => exact h.durations n
    | command k =>
      show (c.obey k).1.durations n = _
      rw [obey_fst]
      exact h.durations n
    | script text vertical =>
      refine (h.durations (n + 1)).trans (congrArg durations ?_)
      show _ = (Input.scripts is).length + 1 + n
      omega

end Console

/-! ### Runs -/

namespace Terminal

variable {g : Graph} {seed : Environment} {mode : Mode} {durations : Nat → Nat}

theorem acceptAll_follows {t : Terminal} (ht : t.isOver = false) {before : List Input}
    (h : t.console.Follows g seed mode durations before) {inputs : List (List Char)} {is : List Input}
    (hinputs : List.Forall₂ Input.Typed inputs is) (hquit : .command .quit ∉ is) :
    (t.acceptAll inputs).1.isOver = false ∧ (t.acceptAll inputs).2.length = is.length ∧
      (t.acceptAll inputs).1.console.Follows g seed mode durations (before ++ is) := by
  induction hinputs generalizing t before with
  | nil => exact ⟨ht, rfl, by rwa [List.append_nil]⟩
  | @cons input i inputs is hi _ ih =>
    rw [List.mem_cons, not_or] at hquit
    have hover : (t.accept input).1.isOver = false := by
      rw [accept_eq ht, decide_eq_false_iff_not, Console.meet_snd_eq_exit, ← hi.eq_ofText]
      exact Ne.symm hquit.1
    have hfollows : (t.accept input).1.console.Follows g seed mode durations (before ++ [i]) := by
      rw [accept_eq ht, ← hi.eq_ofText]
      exact h.meet i
    obtain ⟨hend, hlength, hrun⟩ := ih hover hfollows hquit.2
    rw [List.append_assoc, List.singleton_append] at hrun
    rw [acceptAll]
    dsimp only
    rw [hover, if_neg Bool.false_ne_true]
    exact ⟨hend, congrArg (· + 1) hlength, hrun⟩

/-- **A console refines a session.** Let a terminal accept inputs none of which quits. Its session is the
fresh one that has evaluated the scripts since the last reset, behind all inputs as before each of them. So
what is shown of a script is what the fresh session makes of it: the error, or the elements, listed in the
vertical mode if it was typed with the suffix, and in the mode that was set last if not. -/
theorem acceptAll_refines (g : Graph) (seed : Environment) (mode : Mode) (d : Directory) (durations : Nat → Nat)
    {inputs : List (List Char)} {is : List Input} (hinputs : List.Forall₂ Input.Typed inputs is)
    (hquit : .command .quit ∉ is) :
    let t := (start (.start g seed mode d durations)).1
    let fresh := fun is : List Input => (Session.start seed).evalAll g (Input.scripts (Input.sinceReset is))
    (t.acceptAll inputs).1.console.session = fresh is ∧
    (t.acceptAll inputs).2.length = inputs.length ∧
    ∀ before text vertical after, is = before ++ .script text vertical :: after →
      let listedIn := if vertical then .vertical else Input.modeAfter mode before
      let elapsed := durations (Input.scripts before).length
      (t.acceptAll (inputs.take before.length)).1.console.session = fresh before ∧
      (∀ xs, ((fresh before).eval g text).2 = .ok xs →
        (t.acceptAll inputs).2[before.length]? =
          some ⟨listedIn.listing (xs.filterMap g.describe?) elapsed ++ prompt, ""⟩) ∧
      ∀ e, ((fresh before).eval g text).2 = .error e →
        (t.acceptAll inputs).2[before.length]? = some ⟨prompt, "错误: " ++ e.message ++ "\n"⟩ := by
  intro t fresh
  have hstart : t.console.Follows g seed mode durations [] := Console.follows_start d
  obtain ⟨-, hlength, hend⟩ := acceptAll_follows rfl hstart hinputs hquit
  refine ⟨hend.session, hlength.trans hinputs.length_eq.symm, ?_⟩
  intro before text vertical after his listedIn elapsed
  subst his
  have hbefore := List.forall₂_take_append _ _ _ hinputs
  obtain ⟨input, rest, hi, -, hrest⟩ := List.forall₂_cons_right_iff.1 (List.forall₂_drop_append _ _ _ hinputs)
  obtain ⟨hover, hcount, hfollows⟩ := acceptAll_follows rfl hstart hbefore fun hmem =>
    hquit (List.mem_append_left _ hmem)
  have hshown : (t.acceptAll inputs).2[before.length]? =
      some (shown (some (Console.replyTo g listedIn elapsed ((fresh before).eval g text).2))) := by
    rw [← List.take_append_drop before.length inputs, hrest, acceptAll_append _ _ hover,
      List.getElem?_append_right hcount.le, hcount, Nat.sub_self, head_acceptAll, accept_snd hover, ← hi.eq_ofText,
      Console.meet, hfollows.graph, hfollows.session, hfollows.mode, hfollows.durations 0, Nat.add_zero]
    rfl
  refine ⟨hfollows.session, fun xs hxs => ?_, fun e he => ?_⟩
  · rw [hshown, hxs]
    rfl
  · rw [hshown, he]
    rfl

/-- Scripts that succeed and that fail, with and without the suffix, a mode that is set and one that there is
not, and a reset. -/
def visit : List (List Char) :=
  ["path out\n./outE\nend".toList, " ./out\\g ".toList, ":FORMAT Json".toList, "./nowhere \\G".toList,
    ":format pretty".toList, ":reset".toList, "./outE".toList]

/-- What was typed. -/
def visited : List Input :=
  [.script "path out\n./outE\nend" false, .script "./out" true, .command (.format "Json"),
    .script "./nowhere" true, .command (.format "pretty"), .command .reset, .script "./outE" false]

/-- One script is listed in the vertical mode, and one fails. The last one starts where the session did, and is
listed in the mode that was set. -/
theorem acceptAll_refines_visit :
    let first := Environment.empty.set contextName [.vertex ⟨1⟩]
    let t := (start (.start twoPeople first .table .empty fun n => 10 * n)).1
    List.Forall₂ Input.Typed visit visited ∧ .command .quit ∉ visited ∧
      (t.acceptAll visit).1.console.session = ⟨.empty, first.set contextName [.edge ⟨3⟩], first⟩ ∧
      (t.acceptAll visit).2[1]? = some ⟨"*************************** 1. element ***************************\n" ++
        "        id: 3\n      kind: edge\n     label: knows\n       src: 1\n       dst: 2\nproperties: \n\n" ++
        "1 element(s) (10 ms)\n" ++ prompt, ""⟩ ∧
      (t.acceptAll visit).2[3]? = some ⟨prompt, "错误: 第 1 行语句 `./nowhere` 执行失败: 路径不存在: nowhere\n"⟩ ∧
      (t.acceptAll visit).2[6]? = some ⟨"[\n  \x7b\n    \"id\": 3,\n    \"kind\": \"edge\",\n    \"label\": \"knows\",\n" ++
        "    \"src\": 1,\n    \"dst\": 2,\n    \"properties\": \x7b\x7d\n  \x7d\n]\n" ++ prompt, ""⟩ := by
  intro first t
  have htyped : List.Forall₂ Input.Typed visit visited := Input.forall₂_typed_iff.2 (by decide +kernel)
  have hquit : .command .quit ∉ visited := by decide +kernel
  obtain ⟨hsession, -, hscript⟩ := acceptAll_refines twoPeople first .table .empty (fun n => 10 * n) htyped hquit
  obtain ⟨-, hvertical, -⟩ := hscript (visited.take 1) "./out" true (visited.drop 2) rfl
  obtain ⟨-, -, hfailed⟩ := hscript (visited.take 3) "./nowhere" true (visited.drop 4) rfl
  obtain ⟨-, hlast, -⟩ := hscript (visited.take 6) "./outE" false [] rfl
  refine ⟨htyped, hquit, hsession.trans (by decide +kernel), (hvertical [.edge ⟨3⟩] ?_).trans (by decide +kernel),
    (hfailed ⟨[⟨1, "./nowhere"⟩], .noPath "nowhere"⟩ ?_).trans (by decide +kernel),
    (hlast [.edge ⟨3⟩] (by decide +kernel)).trans (by decide +kernel)⟩
  · have hparse : Script.parse "./out" =
        .ok ⟨[], [⟨1, "./out", none, ⟨.context, none, [⟨.path "out", none, "./out"⟩]⟩⟩]⟩ := by decide +kernel
    rw [Session.eval_of_accepted twoPeople _ hparse, Session.runBody, invoke_empty_eq_within]
    decide +kernel
  · have hparse : Script.parse "./nowhere" =
        .ok ⟨[], [⟨1, "./nowhere", none, ⟨.context, none, [⟨.path "nowhere", none, "./nowhere"⟩]⟩⟩]⟩ := by
      decide +kernel
    rw [Session.eval_of_accepted twoPeople _ hparse, Session.runBody, invoke_empty_eq_within]
    decide +kernel

end Terminal

end Footpath
