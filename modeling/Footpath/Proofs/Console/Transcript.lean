import Footpath.Proofs.Console.Files
import Footpath.Proofs.Console.Typed

/-! The transcript of a console.

From a `:tee` that opens a file to the next input that switches the transcript, the file grows by what is
written for each answer, and by nothing else: what is shown of it without the prompt, an escape that clears
the screen and errors (`Console.Logs`, `Terminal.logs_acceptAll`). A `:tee` that opens no file changes nothing,
and while there is no transcript no file changes (`Terminal.transcript_of_tee`). -/
namespace Footpath

/-! ### What is written -/

/-- What is written for an answer. -/
def written : Option Reply → String
  | none => ""
  | some r => r.transcript

/-- What is shown of an answer goes to the transcript, but for the prompt, an escape that clears the screen,
the last words and errors. -/
theorem Terminal.shown_eq (a : Option Reply) :
    (a = some .exit ∧ written a = "" ∧ shown a = ⟨farewell, ""⟩) ∨
    (a = some .cleared ∧ written a = "" ∧ shown a = ⟨"\x1b[2J\x1b[1;1H" ++ prompt, ""⟩) ∨
    (∃ e, written a = "" ∧ shown a = ⟨prompt, "错误: " ++ e ++ "\n"⟩) ∨
    shown a = ⟨written a ++ prompt, ""⟩ := by
  match a with
  | none => exact .inr (.inr (.inr rfl))
  | some .exit => exact .inl ⟨rfl, rfl, rfl⟩
  | some .cleared => exact .inr (.inl ⟨rfl, rfl, rfl⟩)
  | some (.message text) => exact .inr (.inr (.inr rfl))
  | some (.result listing) => exact .inr (.inr (.inr rfl))
  | some (.refused reason) => exact .inr (.inr (.inl ⟨reason, rfl, rfl⟩))
  | some (.failed e) => exact .inr (.inr (.inl ⟨e.message, rfl, rfl⟩))

/-! ### Inputs that switch the transcript -/

namespace Console

/-- Whether an input begins a transcript or ends the one that is kept. -/
def switches (c : Console) : Input → Bool
  | .command (.tee afresh (some path)) => (c.directory.openFile afresh path).isOk
  | .command .notee => c.transcript.isSome
  | _ => false

variable {c : Console}

/-- Any other input leaves the files as they are. -/
theorem meet_of_not_switches {i : Input} (h : c.switches i = false) :
    (c.meet i).1.directory = c.directory ∧ (c.meet i).1.transcript = c.transcript := by
  cases i with
  | command k =>
    cases k with
    | format name =>
      rw [meet, obey, format_fst]
      exact ⟨rfl, rfl⟩
    | tee afresh path =>
      cases path with
      | none => exact ⟨rfl, rfl⟩
      | some path =>
        rw [switches] at h
        simp only [meet, obey, tee]
        cases hopen : c.directory.openFile afresh path with
        | error f => exact ⟨rfl, rfl⟩
        | ok opened =>
          rw [hopen] at h
          cases h
    | notee =>
      have hnone : c.transcript = none := Option.not_isSome_iff_eq_none.1 (Bool.eq_false_iff.1 h)
      rw [meet, obey, notee_fst]
      exact ⟨rfl, hnone.symm⟩
    | _ => exact ⟨rfl, rfl⟩
  | _ => exact ⟨rfl, rfl⟩

/-- The transcript is kept in a file of some bytes; all other files are as in a directory. -/
structure Logs (l : Location) (bytes : ByteArray) (d : Directory) (c : Console) : Prop where
  transcript : c.transcript = some l
  bytes : c.directory.files.find? l = some bytes
  others : ∀ other, other ≠ l → c.directory.files.find? other = d.files.find? other

variable {l : Location} {bytes : ByteArray} {d : Directory}

theorem Logs.note (h : c.Logs l bytes d) (a : Option Reply) :
    (c.note a).Logs l (bytes ++ (written a).toUTF8) d := by
  cases a with
  | none =>
    rw [written, String.toUTF8, String.toByteArray_empty, ByteArray.append_empty]
    exact h
  | some r =>
    have hnote : c.note (some r) = { c with directory := c.directory.append l r.transcript } := by
      rw [Console.note, log, h.transcript]
    rw [hnote]
    refine ⟨h.transcript, ?_, fun other hother => ?_⟩
    · have hcontent : c.directory.content l = bytes := by rw [Directory.content, h.bytes, Option.getD_some]
      rw [Directory.find?_append_self, hcontent]
      rfl
    · rw [Directory.find?_append_of_ne _ hother, h.others other hother]

/-- One input that does not switch the transcript adds what is written for its answer. -/
theorem Logs.meet (h : c.Logs l bytes d) {i : Input} (hi : c.switches i = false) :
    ((c.meet i).1.note (c.meet i).2).Logs l (bytes ++ (written (c.meet i).2).toUTF8) d := by
  obtain ⟨hdirectory, htranscript⟩ := meet_of_not_switches hi
  apply Logs.note
  exact ⟨htranscript.trans h.transcript, hdirectory ▸ h.bytes, hdirectory ▸ h.others⟩

/-- A `:tee` whose file opens begins with a line of its own. -/
theorem logs_tee {afresh : Bool} {path : String} {d : Directory}
    (h : c.directory.openFile afresh path = .ok (l, d)) :
    (c.meet (.command (.tee afresh (some path)))).2 = some (.message ("Logging to " ++ path)) ∧
      (c.meet (.command (.tee afresh (some path)))).1.Logs l
        (if afresh then .empty else c.directory.content l) c.directory := by
  obtain ⟨hbytes, hothers⟩ := Directory.openFile_ok h
  refine ⟨by simp only [meet, obey, tee, h], ?_⟩
  simp only [meet, obey, tee, h]
  exact ⟨rfl, hbytes, hothers⟩

/-! ### Files that transcripts are kept in -/

/-- The file of the transcript is there. -/
def Kept (c : Console) : Prop := ∀ l, c.transcript = some l → c.directory.files.contains l = true

theorem Kept.note (h : c.Kept) (a : Option Reply) : (c.note a).Kept := by
  cases a with
  | none => exact h
  | some r =>
    cases htranscript : c.transcript with
    | none =>
      rw [Console.note, log, htranscript]
      exact h
    | some l =>
      rw [Console.note, log, htranscript]
      intro other hother
      exact OrderedMap.contains_insert_of_contains (h other (htranscript.trans hother)) _ _

theorem Kept.meet (h : c.Kept) (i : Input) : (c.meet i).1.Kept := by
  cases hi : c.switches i with
  | false =>
    obtain ⟨hdirectory, htranscript⟩ := meet_of_not_switches hi
    rw [Kept, hdirectory, htranscript]
    exact h
  | true =>
    unfold switches at hi
    split at hi
    · rename_i afresh path
      cases hopen : c.directory.openFile afresh path with
      | error f =>
        rw [hopen] at hi
        cases hi
      | ok opened =>
        obtain ⟨-, hlogs⟩ := logs_tee hopen
        intro l hname
        cases hlogs.transcript.symm.trans hname
        exact OrderedMap.contains_of_find? hlogs.bytes
    · rw [Console.meet, obey, notee_fst]
      exact fun l hname => by cases hname
    · cases hi

/-- What is not written leaves a kept transcript as it is. -/
theorem Kept.note_eq_self (h : c.Kept) {a : Option Reply} (ha : written a = "") : c.note a = c := by
  cases a with
  | none => rfl
  | some r =>
    obtain ⟨g, s, mode, d, transcript, durations⟩ := c
    cases transcript with
    | none => rfl
    | some l =>
      have hsame : d.append l r.transcript = d := by
        rw [show r.transcript = "" from ha]
        exact Directory.append_empty (h l rfl)
      show (⟨g, s, mode, d.append l r.transcript, some l, durations⟩ : Console) = _
      rw [hsame]

theorem note_of_idle (h : c.transcript = none) (a : Option Reply) : c.note a = c := by
  cases a with
  | none => rfl
  | some r => rw [Console.note, log, h]

end Console

/-! ### Runs -/

namespace Terminal

/-- No input switches the transcript. -/
def steady (t : Terminal) : List (List Char) → Bool
  | [] => true
  | i :: is => !t.console.switches (.ofText i) && ((t.accept i).1.isOver || (t.accept i).1.steady is)

variable {t : Terminal}

theorem kept_acceptAll (ht : t.isOver = false) (h : t.console.Kept) (is : List (List Char)) :
    (t.acceptAll is).1.console.Kept := by
  induction is generalizing t with
  | nil => exact h
  | cons i is ih =>
    have hi : (t.accept i).1.console.Kept := by
      rw [accept_eq ht]
      exact (h.meet _).note _
    rw [acceptAll]
    dsimp only
    cases hover : (t.accept i).1.isOver with
    | true => exact hi
    | false => exact ih hover hi

/-- Inputs that do not switch the transcript add what is written for their answers. -/
theorem logs_acceptAll (ht : t.isOver = false) {l : Location} {bytes : ByteArray} {d : Directory}
    (h : t.console.Logs l bytes d) {is : List (List Char)} (hsteady : t.steady is = true) :
    (t.acceptAll is).1.console.Logs l (bytes ++ (String.join ((t.answers is).map written)).toUTF8) d := by
  induction is generalizing t bytes with
  | nil =>
    rw [answers, List.map_nil, String.join_nil, String.toUTF8, String.toByteArray_empty, ByteArray.append_empty]
    exact h
  | cons i is ih =>
    rw [steady, Bool.and_eq_true, Bool.not_eq_true', Bool.or_eq_true] at hsteady
    have hi : (t.accept i).1.console.Logs l
        (bytes ++ (written (t.console.meet (.ofText i)).2).toUTF8) d := by
      rw [accept_eq ht]
      exact h.meet hsteady.1
    rw [acceptAll, answers, List.map_cons, String.join_cons, String.toUTF8, String.toByteArray_append,
      ← ByteArray.append_assoc]
    dsimp only
    cases hover : (t.accept i).1.isOver with
    | true =>
      rw [if_pos rfl, if_pos rfl, List.map_nil, String.join_nil, String.toByteArray_empty, ByteArray.append_empty]
      exact hi
    | false => exact ih hover hi (hsteady.2.resolve_left (by rw [hover]; decide))

/-- From a `:tee` whose file opens on. -/
theorem logs_acceptAll_tee (ht : t.isOver = false) {i : List Char} {afresh : Bool} {path : String}
    {l : Location} {d : Directory} {is : List (List Char)} (hi : Input.ofText i = .command (.tee afresh (some path)))
    (hopen : t.console.directory.openFile afresh path = .ok (l, d))
    (hsteady : (t.accept i).1.steady is = true) :
    (t.answers (i :: is)).head? = some (some (.message ("Logging to " ++ path))) ∧
      (t.acceptAll (i :: is)).1.console.Logs l ((if afresh then .empty else t.console.directory.content l) ++
        (String.join ((t.answers (i :: is)).map written)).toUTF8) t.console.directory := by
  obtain ⟨hanswer, hlogs⟩ := Console.logs_tee hopen
  have hover : (t.accept i).1.isOver = false := by
    rw [accept_eq ht, hi, hanswer]
    rfl
  have hfirst := hlogs.note (some (.message ("Logging to " ++ path)))
  have hconsole : (t.accept i).1.console = (t.console.meet (.command (.tee afresh (some path)))).1.note
      (some (.message ("Logging to " ++ path))) := by rw [accept_eq ht, hi, hanswer]
  rw [← hconsole] at hfirst
  have hrun := logs_acceptAll hover hfirst hsteady
  rw [ByteArray.append_assoc, String.toUTF8, String.toUTF8, ← String.toByteArray_append] at hrun
  rw [answers, hi, hanswer, hover, acceptAll]
  dsimp only
  rw [hover, if_neg Bool.false_ne_true, if_neg Bool.false_ne_true, List.map_cons, String.join_cons]
  exact ⟨rfl, hrun⟩

/-- Without a transcript no file changes. -/
theorem idle_acceptAll (ht : t.isOver = false) (h : t.console.transcript = none) {is : List (List Char)}
    (hsteady : t.steady is = true) :
    (t.acceptAll is).1.console.directory = t.console.directory ∧ (t.acceptAll is).1.console.transcript = none := by
  induction is generalizing t with
  | nil => exact ⟨rfl, h⟩
  | cons i is ih =>
    rw [steady, Bool.and_eq_true, Bool.not_eq_true', Bool.or_eq_true] at hsteady
    obtain ⟨hdirectory, htranscript⟩ := Console.meet_of_not_switches hsteady.1
    have hi : (t.accept i).1.console = (t.console.meet (.ofText i)).1 := by
      rw [accept_eq ht]
      exact Console.note_of_idle (htranscript.trans h) _
    rw [acceptAll]
    dsimp only
    cases hover : (t.accept i).1.isOver with
    | true =>
      rw [if_pos rfl, hi]
      exact ⟨hdirectory, htranscript.trans h⟩
    | false =>
      obtain ⟨hrest, hend⟩ := ih hover (hi ▸ htranscript.trans h) (hsteady.2.resolve_left (by rw [hover]; decide))
      exact ⟨hrest.trans (hi ▸ hdirectory), hend⟩

/-- A `:tee` that names no file, or one that does not open, changes nothing. -/
theorem accept_refused_tee (ht : t.isOver = false) (h : t.console.Kept) {i : List Char} {afresh : Bool}
    {path : Option String} (hi : Input.ofText i = .command (.tee afresh path))
    (hpath : ∀ p, path = some p → ∃ f, t.console.directory.openFile afresh p = .error f) :
    (t.accept i).1.console = t.console ∧ ∃ e, (t.accept i).2 = ⟨prompt, "错误: " ++ e ++ "\n"⟩ := by
  rw [accept_eq ht, hi]
  cases path with
  | none => exact ⟨h.note_eq_self (a := some (.refused _)) rfl, _, rfl⟩
  | some p =>
    obtain ⟨f, hf⟩ := hpath p rfl
    simp only [Console.meet, Console.obey, Console.tee, hf]
    exact ⟨h.note_eq_self rfl, _, rfl⟩

/-- A `:notee` that ends a transcript adds nothing to it. -/
theorem accept_notee (ht : t.isOver = false) {l : Location} (h : t.console.transcript = some l) {i : List Char}
    (hi : Input.ofText i = .command .notee) :
    t.accept i = (⟨{ t.console with transcript := none }, [], false⟩, ⟨"Stopped logging\n" ++ prompt, ""⟩) := by
  rw [accept_eq ht, hi]
  simp only [Console.meet, Console.obey, Console.notee, h]
  rfl

/-- **The transcript.** Let a terminal have accepted some inputs, and not be over. A `:tee` opens the file that
its path leads to, in whatever folder that is. It then writes to it, behind what was there or afresh, what is
written for its own answer and for those that follow, until an input switches the transcript; this is what they
show but for prompts, cleared screens and errors. A `:notee` then ends it and adds nothing, and until the next
`:tee` no file changes. A `:tee` that opens no file changes nothing. -/
theorem transcript_of_tee (g : Graph) (seed : Environment) (mode : Mode) (d : Directory) (durations : Nat → Nat)
    (before : List (List Char))
    (ht : ((start (.start g seed mode d durations)).1.acceptAll before).1.isOver = false) :
    let t := ((start (.start g seed mode d durations)).1.acceptAll before).1
    (∀ afresh path l, t.console.directory.Leads path l →
      ∃ d', t.console.directory.openFile afresh path = .ok (l, d')) ∧
    (∀ i afresh path l d' during, Input.Typed i (.command (.tee afresh (some path))) →
      t.console.directory.openFile afresh path = .ok (l, d') → (t.accept i).1.steady during = true →
      let run := t.acceptAll (i :: during)
      let answers := t.answers (i :: during)
      run.1.console.transcript = some l ∧
      run.1.console.directory.files.find? l = some ((if afresh then .empty else t.console.directory.content l) ++
        (String.join (answers.map written)).toUTF8) ∧
      (∀ other, other ≠ l →
        run.1.console.directory.files.find? other = t.console.directory.files.find? other) ∧
      answers.head? = some (some (.message ("Logging to " ++ path))) ∧
      run.2 = answers.map shown ∧
      ∀ a ∈ answers, (a = some .exit ∧ written a = "" ∧ shown a = ⟨farewell, ""⟩) ∨
        (a = some .cleared ∧ written a = "" ∧ shown a = ⟨"\x1b[2J\x1b[1;1H" ++ prompt, ""⟩) ∨
        (∃ e, written a = "" ∧ shown a = ⟨prompt, "错误: " ++ e ++ "\n"⟩) ∨ shown a = ⟨written a ++ prompt, ""⟩) ∧
    (∀ i l, Input.Typed i (.command .notee) → t.console.transcript = some l →
      t.accept i = (⟨{ t.console with transcript := none }, [], false⟩, ⟨"Stopped logging\n" ++ prompt, ""⟩)) ∧
    (∀ during, t.console.transcript = none → t.steady during = true →
      (t.acceptAll during).1.console.directory = t.console.directory) ∧
    ∀ i afresh path, Input.Typed i (.command (.tee afresh path)) →
      (∀ p, path = some p → ∃ f, t.console.directory.openFile afresh p = .error f) →
      (t.accept i).1.console = t.console ∧ ∃ e, (t.accept i).2 = ⟨prompt, "错误: " ++ e ++ "\n"⟩ := by
  intro t
  have hkept : t.console.Kept := kept_acceptAll rfl (fun l hname => by cases hname) before
  refine ⟨fun afresh path l hleads => hleads.openFile afresh, ?_,
    fun i l hi h => accept_notee ht h hi.eq_ofText.symm,
    fun during h hsteady => (idle_acceptAll ht h hsteady).1,
    fun i afresh path hi hpath => accept_refused_tee ht hkept hi.eq_ofText.symm hpath⟩
  intro i afresh path l d' during hi hopen hsteady run answers
  obtain ⟨hhead, hlogs⟩ := logs_acceptAll_tee ht hi.eq_ofText.symm hopen hsteady
  exact ⟨hlogs.transcript, hlogs.bytes, hlogs.others, hhead, acceptAll_snd ht _, fun a _ => shown_eq a⟩

/-- A home with a file in it, and a folder elsewhere. -/
def twoFolders : Directory :=
  ⟨.ofList [(["home", "ann", "notes"], "old\n".toUTF8)], [["home"], ["home", "ann"], ["srv"], ["srv", "logs"]],
    ["home", "ann"], []⟩

/-- Up from the home, into the other folder. -/
theorem twoFolders_leads_out :
    (((start (.start .empty .empty .table twoFolders)).1.acceptAll [":tee notes".toList]).1).console.directory.Leads
      "../../srv/logs/out.txt" ["srv", "logs", "out.txt"] where
  unknown := rfl
  plain := by decide
  size := by decide +kernel
  last := by decide
  place := by
    refine ⟨["..", "..", "srv", "logs"], ["srv", "logs"], "out.txt", by decide +kernel, ?_,
      ⟨by decide, by decide, by decide⟩, rfl⟩
    refine .parent (.parent (.into ⟨by decide, by decide, by decide⟩ ?_ ?_
      (.into ⟨by decide, by decide, by decide⟩ ?_ ?_ (.nil _))))
    all_goals decide +kernel
  free := by decide +kernel

/-- A second `:tee` leads to a new file elsewhere, and the first file keeps what it has. The answers of two
commands go to the new file; what is refused, cleared or left blank adds nothing. -/
theorem transcript_of_tee_notes :
    let t := ((start (.start .empty .empty .table twoFolders)).1.acceptAll [":tee notes".toList]).1
    let i := ":TEE -o  ../../srv/logs/out.txt ".toList
    let during := [":format json", ":tee", ":nonsense", ":clear", " "].map String.toList
    t.isOver = false ∧ Input.Typed i (.command (.tee true (some "../../srv/logs/out.txt"))) ∧
      (t.accept i).1.steady during = true ∧
      (t.acceptAll (i :: during)).1.console.directory.files.find? ["srv", "logs", "out.txt"] =
        some "Logging to ../../srv/logs/out.txt\nOutput format set to json\n".toUTF8 ∧
      (t.acceptAll (i :: during)).1.console.directory.files.find? ["home", "ann", "notes"] =
        some "old\nLogging to notes\n".toUTF8 := by
  dsimp only
  have ht : ((start (.start .empty .empty .table twoFolders)).1.acceptAll [":tee notes".toList]).1.isOver = false := by
    decide +kernel
  have hi : Input.Typed ":TEE -o  ../../srv/logs/out.txt ".toList
      (.command (.tee true (some "../../srv/logs/out.txt"))) := Input.typed_iff.2 (by decide +kernel)
  obtain ⟨hopens, htee, -⟩ :=
    transcript_of_tee .empty .empty .table twoFolders (fun _ => 0) [":tee notes".toList] ht
  obtain ⟨d', hopen⟩ := hopens true "../../srv/logs/out.txt" ["srv", "logs", "out.txt"] twoFolders_leads_out
  obtain ⟨-, hbytes, hothers, -⟩ := htee _ true "../../srv/logs/out.txt" ["srv", "logs", "out.txt"] d'
    ([":format json", ":tee", ":nonsense", ":clear", " "].map String.toList) hi hopen
    (by decide +kernel)
  refine ⟨ht, hi, by decide +kernel, hbytes.trans ?_, (hothers ["home", "ann", "notes"] ?_).trans ?_⟩
  · decide +kernel
  · decide
  · decide +kernel

end Terminal

end Footpath
