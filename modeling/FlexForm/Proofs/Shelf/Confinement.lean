import FlexForm.Proofs.Shelf.Lookup

/-! # What looking up reads

Whatever an id is made of, looking it up in a folder reads at most one file, which stands right in
that folder. That a file is not read shows in what is looked up when it holds something else: the
outcome is the same in all folders that have the same files, as long as the file that is read holds
the same.

* `Folder.SameNames`: folders that differ at most in what their files hold.
* `Shelf.ReadsAtMost`, `Shelf.Reads`: the files that are read for an id.
* `Shelf.isTooLong_of_not_mem`: ids that make names which are too long.
* `Shelf.get?_confined`: looking up reads nothing outside of the folder.
-/

namespace FlexForm
set_option autoImplicit false

/-! ## Folders with the same files -/

namespace Folder

open Location

/-- The same files and folders, whatever the files hold. -/
structure SameNames (f g : Folder) : Prop where
  contents : f.contents.map Prod.fst = g.contents.map Prod.fst
  made : f.made = g.made
  home : f.home = g.home

variable {f g : Folder} {l : Location}

theorem isSome_file?_iff {place : List String} :
    (f.file? place).isSome = true ↔ place ∈ f.contents.map Prod.fst := by
  rw [file?, List.lookup_isSome_iff, List.mem_map]
  refine exists_congr fun file => and_congr_right fun _ => ?_
  rw [beq_iff_eq, eq_comm]

namespace SameNames

theorem hasFolder (h : f.SameNames g) (place : List String) :
    g.hasFolder place = f.hasFolder place := by
  have hany (contents : List (List String × String)) :
      (contents.any fun file => isProperPrefix place file.1) =
        (contents.map Prod.fst).any (isProperPrefix place) := by
    rw [List.any_map]
    rfl
  rw [Folder.hasFolder, Folder.hasFolder, hany, hany, h.contents, h.made, h.home]

theorem follow (h : f.SameNames g) (place names : List String) :
    g.follow place names = f.follow place names := by
  induction names generalizing place with
  | nil => rfl
  | cons name rest ih => rw [Folder.follow, Folder.follow, h.hasFolder, ih]

theorem meetsLong (h : f.SameNames g) (place names : List String) :
    g.meetsLong place names = f.meetsLong place names := by
  induction names generalizing place with
  | nil => rfl
  | cons name rest ih => rw [Folder.meetsLong, Folder.meetsLong, h.hasFolder, ih]

theorem start (h : f.SameNames g) (l : Location) : g.start l = f.start l := by
  rw [Folder.start, Folder.start, h.home]

theorem find? (h : f.SameNames g) (l : Location) : g.find? l = f.find? l := by
  rw [Folder.find?, Folder.find?, h.start, h.follow]

theorem resolve (h : f.SameNames g) (l : Location) : g.resolve l = f.resolve l := by
  rw [Folder.resolve, Folder.resolve, h.start]

theorem tooLong (h : f.SameNames g) (l : Location) : g.tooLong l = f.tooLong l := by
  rw [Folder.tooLong, Folder.tooLong, h.start, h.meetsLong]

theorem isSome_file? (h : f.SameNames g) (place : List String) :
    (g.file? place).isSome = (f.file? place).isSome := by
  rw [Bool.eq_iff_iff, isSome_file?_iff, isSome_file?_iff, h.contents]

theorem isSome_textAt? (h : f.SameNames g) (l : Location) :
    (g.textAt? l).isSome = (f.textAt? l).isSome := by
  unfold textAt?
  rw [h.find?]
  cases f.find? l with
  | none => rfl
  | some place => exact h.isSome_file? place

end SameNames

end Folder

/-! ## Reading for an id -/

namespace Shelf

open Location

variable {f g : Folder} {place : Location} {id name content : String}

/-- Of all that files hold, what is looked up hangs at most on the contents of these. -/
def ReadsAtMost (f : Folder) (place : Location) (id : String) (files : List (List String)) : Prop :=
  ∀ g, f.SameNames g → (∀ file ∈ files, g.file? file = f.file? file) →
    get? g id (.folder place) = get? f id (.folder place)

/-- For the id, the file of that name right in the folder is read, and no other one: where the
location of the folder leads to a folder at all, the file is in it. -/
structure Reads (f : Folder) (place : Location) (id name content : String) : Prop where
  isName : IsName name
  extension : name.endsWith extension = true
  folder : f.hasFolder (f.resolve place) = true ∧ ∀ found ∈ f.find? place, found = f.resolve place
  file : f.file? (f.resolve place ++ [name]) = some content
  outcome : get? f id (.folder place) =
    (ofContent (place.child (id ++ Shelf.extension)) content).map some
  alone : ReadsAtMost f place id [f.resolve place ++ [name]]

/-- Of two folders with the same files, both find nothing for an id, or cannot be asked for it, or
find a file. -/
theorem get?_sameNames (hnames : f.SameNames g)
    (h : ¬ MeetsNul place id → ∀ content, ¬ LeadsToFile f place id content) :
    get? g id (.folder place) = get? f id (.folder place) := by
  rw [get?, get?]
  simp only [hnames.resolve, hnames.tooLong, hnames.isSome_textAt?]
  split
  next => rfl
  next hnul =>
    have hnone := h (by simpa [MeetsNul] using hnul)
    split
    next => rfl
    next hin =>
      split
      next => rfl
      next hshort =>
        cases htext : f.textAt? (place.child (id ++ extension)) with
        | none => rfl
        | some content =>
          exact absurd ⟨not_not.1 hin, Bool.eq_false_iff.2 hshort, htext⟩ (hnone content)

/-- What a folder answers without a file is the same in all folders with the same files. -/
theorem readsAtMost_nil (h : ¬ MeetsNul place id → ∀ content, ¬ LeadsToFile f place id content) :
    ReadsAtMost f place id [] := fun _ hnames _ => get?_sameNames hnames h

theorem reads_of_leadsToFile (hnul : ¬ MeetsNul place id) (h : LeadsToFile f place id content) :
    Reads f place id (baseName id ++ extension) content where
  isName := h.isName
  extension := endsWith_extension.2 ⟨baseName id, rfl⟩
  folder := by
    refine ⟨h.find?.1, fun found hfound => ?_⟩
    exact (Folder.resolve_of_find? hfound).symm
  file := h.find?.2.2
  outcome := get?_of_leadsToFile hnul h
  alone := by
    intro g hnames hfiles
    obtain ⟨-, hfound, hfile⟩ := h.find?
    have hcontent := (hfiles _ (List.mem_singleton_self _)).trans hfile
    have hother : LeadsToFile g place id content := {
      resolve := by rw [hnames.resolve, hnames.resolve, h.resolve]
      short := (hnames.tooLong _).trans h.short
      text := Folder.textAt?_eq_some.2 ⟨_, (hnames.find? _).trans hfound, hcontent⟩ }
    rw [get?_of_leadsToFile hnul hother, get?_of_leadsToFile hnul h]

/-- In a folder that is there, every id is too long that makes a name which is. -/
theorem isTooLong_of_not_mem (hplace : f.find? place = some (f.resolve place))
    (hfolder : f.hasFolder (f.resolve place) = true) (hslash : '/' ∉ id.toList)
    (hnul : nul ∉ id.toList) (hlong : nameLimit < (id ++ extension).utf8ByteSize) :
    IsTooLong f place id := by
  rw [IsTooLong, child_extension_of_not_mem place hslash]
  have hnoNul : hasNul ⟨place.root, place.names ++ [id ++ extension]⟩ = false := by
    refine hasNul_concat.2 ⟨(Folder.find?_eq_some.1 hplace).1, ?_⟩
    rw [String.toList_append, List.mem_append, not_or]
    exact ⟨hnul, by decide⟩
  refine ⟨by simp [parent], Folder.tooLong_iff.2 ⟨hnoNul, .inr ?_⟩⟩
  exact ⟨place.names, _, [], _, rfl, hplace, hfolder, hlong⟩

/-- An id is out of reach, or finds nothing, or finds one file. No file is read in the first two
cases; and that file is right in the folder, has the extension, and is all that is read in the
third one. Nothing is found exactly if the id leads elsewhere or to no file. -/
theorem get?_confined (f : Folder) (place : Location) (id : String) :
    let l := place.child (id ++ extension)
    (MeetsNul place id ∧ get? f id (.folder place) = .error (.outOfReach .nul) ∧
      ReadsAtMost f place id []) ∨
    (¬ MeetsNul place id ∧ IsTooLong f place id ∧
      get? f id (.folder place) = .error (.outOfReach (.tooLong l.text)) ∧
      ReadsAtMost f place id []) ∨
    (¬ IsOutOfReach f place id ∧ get? f id (.folder place) = .ok none ∧
      (f.resolve l.parent = f.resolve place → f.textAt? l = none) ∧ ReadsAtMost f place id []) ∨
    ¬ IsOutOfReach f place id ∧ ∃ name content, Reads f place id name content := by
  intro l
  cases lookup f place id with
  | nul h hget => exact .inl ⟨h, hget, readsAtMost_nil fun hnul => absurd h hnul⟩
  | tooLong hnul h hget =>
    have hnone (content : String) : ¬ LeadsToFile f place id content :=
      fun hfile => hfile.not_isTooLong h
    exact .inr (.inl ⟨hnul, h, hget, readsAtMost_nil fun _ => hnone⟩)
  | nothing hnul hlong h hget =>
    have hnone (content : String) : ¬ LeadsToFile f place id content := by
      intro hfile
      have htext := hfile.text
      rw [h hfile.resolve] at htext
      cases htext
    exact .inr (.inr (.inl ⟨not_or.2 ⟨hnul, hlong⟩, hget, h, readsAtMost_nil fun _ => hnone⟩))
  | file content hnul h =>
    exact .inr (.inr (.inr ⟨not_or.2 ⟨hnul, h.not_isTooLong⟩, _, content,
      reads_of_leadsToFile hnul h⟩))

/-- A folder with one file. -/
def single : Folder := .ofFiles [("t/a.json", "\x7b\"name\": \"A\"\x7d")]

/-- An id that a file could be called by, if it were not for the extension. -/
def longId : String := String.ofList (List.replicate 251 'a')

/-- There is no such file, but that is not what the folder answers. -/
theorem get?_long : get? single longId (.folder (ofText "t")) =
    .error (.outOfReach (.tooLong ((ofText "t").child (longId ++ extension)).text)) := by
  have hchars (c : Char) (hc : c ≠ 'a') : c ∉ longId.toList := by
    unfold longId
    rw [String.toList_ofList]
    exact fun h => hc (List.eq_of_mem_replicate h)
  have hslash : '/' ∉ longId.toList := hchars '/' (by decide)
  have hnoNul : nul ∉ longId.toList := hchars nul (by decide)
  have hlong : IsTooLong single (ofText "t") longId :=
    isTooLong_of_not_mem (by decide +kernel) (by decide +kernel) hslash hnoNul (by decide +kernel)
  have hnul : ¬ MeetsNul (ofText "t") longId := by
    rw [meetsNul_of_not_mem hslash]
    decide
  rcases get?_confined single (ofText "t") longId with
    ⟨h, -⟩ | ⟨-, -, hget, -⟩ | ⟨hnot, -⟩ | ⟨hnot, -⟩
  · exact absurd h hnul
  · exact hget
  · exact absurd (.inr hlong) hnot
  · exact absurd (.inr hlong) hnot

end Shelf

end FlexForm
