import Footpath.Directory

/-! Opening files.

A path that goes through folders up to its last name leads to a file, whatever folders there are
(`Directory.Walks`, `Directory.Leads`), and this file can be opened, whether or not it is there
(`Directory.Leads.openFile`). An opened file has kept its bytes or lost all of them, and no other file has
changed (`Directory.openFile_ok`). -/
namespace Footpath.Directory

/-! ### Paths -/

/-- A name that a folder or a file can have. -/
structure IsName (n : String) : Prop where
  self : n ≠ "."
  parent : n ≠ ".."
  size : n.utf8ByteSize ≤ longestName

/-- From a folder, names lead through folders that are there to another one. -/
inductive Walks (d : Directory) : Location → List String → Location → Prop where
  | nil (f : Location) : d.Walks f [] f
  | self {f g : Location} {ns : List String} (h : d.Walks f ns g) : d.Walks f ("." :: ns) g
  | parent {f g : Location} {ns : List String} (h : d.Walks f.dropLast ns g) : d.Walks f (".." :: ns) g
  | into {f g : Location} {n : String} {ns : List String} (hn : IsName n) (hfolder : d.isFolder (f ++ [n]) = true)
      (hfile : d.files.contains (f ++ [n]) = false) (h : d.Walks (f ++ [n]) ns g) : d.Walks f (n :: ns) g

theorem Walks.foldlM_enter {d : Directory} {f g : Location} {ns : List String} (h : d.Walks f ns g) :
    ns.foldlM d.enter f = .ok g := by
  induction h with
  | nil f => rfl
  | self _ ih => exact ih
  | parent _ ih => exact ih
  | @into f g n ns hn hfolder hfile _ ih =>
    have henter : d.enter f n = .ok (f ++ [n]) := by
      simp only [enter, hn.self, hn.parent, Nat.not_lt.2 hn.size, hfile, hfolder, if_true, if_false,
        Bool.false_eq_true]
    rw [List.foldlM_cons, henter]
    exact ih

/-- The path leads to a file that a folder holds or can take. -/
structure Leads (d : Directory) (path : String) (l : Location) : Prop where
  unknown : d.known.lookup path = none
  plain : path.toList.contains '\x00' = false
  size : path.utf8ByteSize ≤ longestPath
  last : endsInSlash path = false
  place : ∃ ns f n, segments path = ns ++ [n] ∧ d.Walks (d.start path) ns f ∧ IsName n ∧ l = f ++ [n]
  free : d.isFolder l = false

theorem Leads.follow {d : Directory} {path : String} {l : Location} (h : d.Leads path l) :
    d.follow path = .ok (.file l) := by
  obtain ⟨ns, f, n, hsegments, hwalks, hn, rfl⟩ := h.place
  have hne : path ≠ "" := by
    rintro rfl
    have hnone : segments "" = [] := by decide
    rw [hnone] at hsegments
    exact List.append_ne_nil_of_right_ne_nil ns (List.cons_ne_nil n []) hsegments.symm
  have htarget : d.target f n = .file (f ++ [n]) := by
    simp only [target, hn.self, hn.parent, h.free, Nat.not_lt.2 hn.size, decide_false, Bool.or_self, if_false,
      Bool.false_eq_true]
  simp only [Directory.follow, h.unknown, h.plain, hne, Nat.not_lt.2 h.size, if_false, Bool.false_eq_true, hsegments,
    List.getLast?_concat, List.dropLast_concat, hwalks.foldlM_enter]
  exact congrArg Except.ok htarget

/-! ### Opened files -/

/-- The bytes of a file; none if it is not there. -/
def content (d : Directory) (l : Location) : ByteArray := (d.files.find? l).getD .empty

/-- A file in a folder that is there can be opened. -/
theorem Leads.openFile {d : Directory} {path : String} {l : Location} (h : d.Leads path l) (afresh : Bool) :
    ∃ d', d.openFile afresh path = .ok (l, d') := by
  rw [Directory.openFile, h.follow]
  show ∃ d', (if endsInSlash path then _ else _) = _
  rw [h.last, if_neg Bool.false_ne_true]
  split <;> exact ⟨_, rfl⟩

/-- An opened file is there. It has kept its bytes or lost all of them, and the others are as they were. -/
theorem openFile_ok {d d' : Directory} {afresh : Bool} {path : String} {l : Location}
    (h : d.openFile afresh path = .ok (l, d')) :
    d'.files.find? l = some (if afresh then .empty else d.content l) ∧
      ∀ other, other ≠ l → d'.files.find? other = d.files.find? other := by
  unfold Directory.openFile at h
  cases hfollow : d.follow path with
  | error f =>
    rw [hfollow] at h
    cases h
  | ok target =>
    rw [hfollow] at h
    cases target with
    | folder => cases h
    | overlong => cases h
    | file key =>
      simp only [bind, Except.bind] at h
      split at h
      · cases h
      · split at h
        · rename_i hkept
          cases h
          rw [Bool.and_eq_true, Bool.not_eq_true', OrderedMap.contains] at hkept
          obtain ⟨bytes, hbytes⟩ := Option.isSome_iff_exists.1 hkept.1
          refine ⟨?_, fun _ _ => rfl⟩
          rw [content, hkept.2, hbytes]
          rfl
        · rename_i hnew
          cases h
          refine ⟨?_, fun other hother => by rw [OrderedMap.find?_insert, if_neg hother]⟩
          rw [OrderedMap.find?_insert_self]
          cases afresh with
          | true => rfl
          | false =>
            have habsent : d.files.find? l = none := by
              rw [Bool.not_false, Bool.and_true, OrderedMap.contains,
                Option.not_isSome_iff_eq_none] at hnew
              exact hnew
            rw [content, habsent]
            rfl

theorem find?_append_self (d : Directory) (l : Location) (text : String) :
    (d.append l text).files.find? l = some (d.content l ++ text.toUTF8) :=
  OrderedMap.find?_insert_self _ _ _

theorem find?_append_of_ne (d : Directory) {l other : Location} (h : other ≠ l) (text : String) :
    (d.append l text).files.find? other = d.files.find? other := by
  rw [append, OrderedMap.find?_insert, if_neg h]

/-- Nothing is added to a file that is there. -/
theorem append_empty {d : Directory} {l : Location} (h : d.files.contains l = true) : d.append l "" = d := by
  obtain ⟨bytes, hbytes⟩ := Option.isSome_iff_exists.1 h
  obtain ⟨files, folders, workingFolder, known⟩ := d
  rw [append, hbytes, Option.getD_some, String.toUTF8, String.toByteArray_empty, ByteArray.append_empty,
    OrderedMap.insert_of_find? hbytes]

end Footpath.Directory
