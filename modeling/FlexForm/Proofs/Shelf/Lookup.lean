import FlexForm.Proofs.Folder.Walk
import FlexForm.Shelf

/-! # Looking up in a folder

An id with the extension is read on from the location of a folder. What it leads to counts when the
front of it comes to where the folder does, and is read when it is a file. Nothing comes of an id
for which the folder cannot be asked, for a NUL on the way or for the length of a path.

* `Shelf.child_extension`: an id leads to a name with the extension.
* `Shelf.read_eq_ok`, `Shelf.ofContent_eq_ok`: files that hold a template.
* `Shelf.Lookup`, `Shelf.lookup`: what looking up in a folder can come to.
* `Shelf.LeadsToFile.find?`, `Shelf.LeadsToFile.isName`: the files that are found.
* `Shelf.IsOutOfReach`, `Shelf.get?_outOfReach`: ids for which a folder cannot be asked.
-/

namespace FlexForm
set_option autoImplicit false

theorem Template.ofRecord_ne_outOfReach (v : Json) (why : Folder.AskFault) :
    ofRecord v ≠ .error (.outOfReach why) := by
  unfold ofRecord
  split <;> simp

namespace Shelf

open Location

variable {f : Folder} {place l other : Location} {id content : String} {t : Template} {shelf : Shelf}

/-! ## Names with the extension -/

theorem name_of_extension (before : String) : before ++ extension ≠ "" ∧
    before ++ extension ≠ "." ∧ before ++ extension ≠ up := by
  have hlength (other : String) (h : other.length < 5) : before ++ extension ≠ other := by
    rintro rfl
    rw [String.length_append] at h
    have hextension : extension.length = 5 := rfl
    omega
  exact ⟨hlength "" (by decide), hlength "." (by decide), hlength up (by decide)⟩

theorem endsWith_extension {name : String} :
    name.endsWith extension = true ↔ ∃ id, name = id ++ extension := by
  rw [String.endsWith_eq_endsWith_toSlice, String.Slice.endsWith_string_iff, String.copy_toSlice]
  constructor
  · rintro ⟨id, hid⟩
    exact ⟨String.ofList id, String.toList_inj.1 (by simp [← hid])⟩
  · rintro ⟨id, rfl⟩
    exact ⟨id.toList, by simp⟩

/-- An id leads to a file called by its last name. -/
theorem child_extension (place : Location) (id : String) : ∃ root before,
    place.child (id ++ extension) = ⟨root, before ++ [baseName id ++ extension]⟩ := by
  have hname := name_of_extension (baseName id)
  obtain ⟨before, hbefore⟩ := namesOf_append id extension (by decide) ⟨hname.1, hname.2.1⟩
  rw [child, ofText, hbefore]
  split
  next => exact ⟨_, before, rfl⟩
  next => exact ⟨place.root, place.names ++ before, by rw [List.append_assoc]⟩

theorem child_extension_of_not_mem (place : Location) (h : '/' ∉ id.toList) :
    place.child (id ++ extension) = ⟨place.root, place.names ++ [id ++ extension]⟩ := by
  have hname := name_of_extension id
  refine child_of_not_mem place ?_ ⟨hname.1, hname.2.1⟩
  rw [String.toList_append, List.mem_append, not_or]
  exact ⟨h, by decide⟩

/-! ## Reading -/

theorem ofContent_eq_ok : ofContent l content = .ok t ↔
    ∃ record, readJson content = .ok record ∧ Template.ofRecord (withId l.stem record) = .ok t := by
  unfold ofContent
  split
  next hread => simp [hread]
  next record hread => simp [hread]

/-- Of the location only the name matters, unless the content is no JSON text. -/
theorem ofContent_eq_ok_of_stem (h : l.stem = other.stem) :
    ofContent l content = .ok t ↔ ofContent other content = .ok t := by
  rw [ofContent_eq_ok, ofContent_eq_ok, h]

theorem askFault?_eq_none : f.askFault? l = none ↔ l.hasNul = false ∧ f.tooLong l = false := by
  unfold Folder.askFault?
  cases l.hasNul with
  | true => simp
  | false => simp

theorem hasNul_of_textAt? (h : f.textAt? l = some content) : l.hasNul = false := by
  obtain ⟨_, hfound, -⟩ := Folder.textAt?_eq_some.1 h
  exact (Folder.find?_eq_some.1 hfound).1

theorem read_of_textAt? (hshort : f.tooLong l = false) (h : f.textAt? l = some content) :
    read f l = ofContent l content := by
  rw [read, askFault?_eq_none.2 ⟨hasNul_of_textAt? h, hshort⟩, h]

theorem read_eq_ok : read f l = .ok t ↔ f.tooLong l = false ∧
    ∃ content, f.textAt? l = some content ∧ ofContent l content = .ok t := by
  constructor
  · intro h
    unfold read at h
    split at h
    next => cases h
    next hnone =>
      split at h
      next => cases h
      next content hcontent => exact ⟨(askFault?_eq_none.1 hnone).2, content, hcontent, h⟩
  · rintro ⟨hshort, content, hcontent, h⟩
    rw [read_of_textAt? hshort hcontent, h]

/-! ## Looking up -/

/-- A name of the folder's location, or one on the way to what the id leads to, has a NUL. -/
def MeetsNul (place : Location) (id : String) : Prop :=
  (place.child (id ++ extension)).parent.hasNul = true ∨ place.hasNul = true

/-- The id leads right into the folder, to where asking fails for the length of a path. -/
def IsTooLong (f : Folder) (place : Location) (id : String) : Prop :=
  let l := place.child (id ++ extension)
  f.resolve l.parent = f.resolve place ∧ f.tooLong l = true

/-- The id leads right into the folder, to a file with the content. -/
structure LeadsToFile (f : Folder) (place : Location) (id content : String) : Prop where
  resolve : f.resolve (place.child (id ++ extension)).parent = f.resolve place
  short : f.tooLong (place.child (id ++ extension)) = false
  text : f.textAt? (place.child (id ++ extension)) = some content

/-- What can come of looking up an id in a folder. -/
inductive Lookup (f : Folder) (place : Location) (id : String) : Prop
  | nul (h : MeetsNul place id) (hget : get? f id (.folder place) = .error (.outOfReach .nul))
  | tooLong (hnul : ¬ MeetsNul place id) (h : IsTooLong f place id)
      (hget : get? f id (.folder place) =
        .error (.outOfReach (.tooLong (place.child (id ++ extension)).text)))
  | nothing (hnul : ¬ MeetsNul place id) (hlong : ¬ IsTooLong f place id)
      (h : f.resolve (place.child (id ++ extension)).parent = f.resolve place →
        f.textAt? (place.child (id ++ extension)) = none)
      (hget : get? f id (.folder place) = .ok none)
  | file (content : String) (hnul : ¬ MeetsNul place id) (h : LeadsToFile f place id content)
      (hget : get? f id (.folder place) =
        (ofContent (place.child (id ++ extension)) content).map some)

theorem get?_of_meetsNul (f : Folder) (h : MeetsNul place id) :
    get? f id (.folder place) = .error (.outOfReach .nul) :=
  if_pos (by simpa [MeetsNul] using h)

theorem lookup (f : Folder) (place : Location) (id : String) : Lookup f place id := by
  by_cases hnul : MeetsNul place id
  · exact .nul hnul (get?_of_meetsNul f hnul)
  -- Without a NUL, the locations are compared before anything is asked for.
  have hget : get? f id (.folder place) = if _ then _ else _ :=
    if_neg (by simpa [MeetsNul] using hnul)
  by_cases hin : f.resolve (place.child (id ++ extension)).parent = f.resolve place
  · rw [if_neg (not_not.2 hin)] at hget
    cases hlong : f.tooLong (place.child (id ++ extension)) with
    | true =>
      rw [if_pos hlong] at hget
      exact .tooLong hnul ⟨hin, hlong⟩ hget
    | false =>
      have hshort : ¬ IsTooLong f place id := fun h => by simp [h.2] at hlong
      cases htext : f.textAt? (place.child (id ++ extension)) with
      | none =>
        rw [hlong, htext] at hget
        exact .nothing hnul hshort (fun _ => htext) hget
      | some content =>
        rw [hlong, htext, read_of_textAt? hlong htext] at hget
        exact .file content hnul ⟨hin, hlong, htext⟩ hget
  · rw [if_pos hin] at hget
    exact .nothing hnul (fun h => hin h.1) (fun h => absurd h hin) hget

theorem meetsNul_of_not_mem (h : '/' ∉ id.toList) :
    MeetsNul place id ↔ place.hasNul = true := by
  rw [MeetsNul, child_extension_of_not_mem place h, parent, List.dropLast_concat]
  exact or_self_iff

theorem LeadsToFile.not_isTooLong (h : LeadsToFile f place id content) :
    ¬ IsTooLong f place id := fun hlong => Bool.eq_false_iff.1 h.short hlong.2

theorem get?_of_leadsToFile (hnul : ¬ MeetsNul place id) (h : LeadsToFile f place id content) :
    get? f id (.folder place) = (ofContent (place.child (id ++ extension)) content).map some := by
  cases lookup f place id with
  | nul hmeets => exact absurd hmeets hnul
  | tooLong _ hlong => exact absurd hlong h.not_isTooLong
  | nothing _ _ hnone =>
    have htext := h.text
    rw [hnone h.resolve] at htext
    cases htext
  | file content' _ hfile hget =>
    cases h.text.symm.trans hfile.text
    exact hget

/-- Only a file gives more to say than that there is nothing, or that the folder cannot be asked. -/
theorem exists_leadsToFile (hfound : get? f id (.folder place) ≠ .ok none)
    (hreach : ∀ why, get? f id (.folder place) ≠ .error (.outOfReach why)) :
    ∃ content, ¬ MeetsNul place id ∧ LeadsToFile f place id content := by
  cases lookup f place id with
  | nul _ hget => exact absurd hget (hreach _)
  | tooLong _ _ hget => exact absurd hget (hreach _)
  | nothing _ _ _ hget => exact absurd hget hfound
  | file content hnul h => exact ⟨content, hnul, h⟩

/-- What an id finds right in the folder stands under its last name in the folder that is there. -/
theorem LeadsToFile.find? (h : LeadsToFile f place id content) :
    f.hasFolder (f.resolve place) = true ∧
      f.find? (place.child (id ++ extension)) = some (f.resolve place ++ [baseName id ++ extension]) ∧
      f.file? (f.resolve place ++ [baseName id ++ extension]) = some content := by
  obtain ⟨root, before, hchild⟩ := child_extension place id
  have hup := (name_of_extension (baseName id)).2.2
  have hparent : (⟨root, before ++ [baseName id ++ extension]⟩ : Location).parent =
      ⟨root, before⟩ := by
    rw [parent, List.dropLast_concat]
  obtain ⟨hin, -, htext⟩ := h
  rw [hchild] at hin htext ⊢
  rw [hparent] at hin
  obtain ⟨hplace, hfolder⟩ := Folder.find?_of_textAt? hup htext
  obtain ⟨found, hfound, hfile⟩ := Folder.textAt?_eq_some.1 htext
  obtain ⟨-, place', hplace', -, rfl⟩ := (Folder.find?_concat hup).1 hfound
  cases hplace.symm.trans hplace'
  rw [hin] at hfolder hfound hfile
  exact ⟨hfolder, hfound, hfile⟩

/-- A name that a folder was asked for is one that it can hold. -/
theorem LeadsToFile.isName (h : LeadsToFile f place id content) :
    IsName (baseName id ++ extension) := by
  obtain ⟨-, hshort, htext⟩ := h
  obtain ⟨root, before, hchild⟩ := child_extension place id
  obtain ⟨hempty, hdot, hup⟩ := name_of_extension (baseName id)
  rw [hchild] at hshort htext
  have hnul := hasNul_of_textAt? htext
  obtain ⟨hplace, hfolder⟩ := Folder.find?_of_textAt? hup htext
  refine ⟨hempty, hdot, hup, ?_, (hasNul_concat.1 hnul).2, ?_⟩
  · rw [String.toList_append, List.mem_append, not_or]
    exact ⟨not_mem_baseName id, by decide⟩
  · by_contra hlong
    refine Bool.eq_false_iff.1 hshort (Folder.tooLong_iff.2 ⟨hnul, .inr ?_⟩)
    exact ⟨before, _, [], _, rfl, hplace, hfolder, Nat.lt_of_not_le hlong⟩

/-! ## Ids out of reach -/

/-- The folder cannot be asked for the id. -/
def IsOutOfReach (f : Folder) (place : Location) (id : String) : Prop :=
  MeetsNul place id ∨ IsTooLong f place id

theorem ofContent_ne_outOfReach (l : Location) (content : String) (why : Folder.AskFault) :
    ofContent l content ≠ .error (.outOfReach why) := by
  unfold ofContent
  split
  next => simp
  next v _ => exact Template.ofRecord_ne_outOfReach _ why

theorem map_some_eq_error {x : Except TemplateFault Template} {fault : TemplateFault} :
    x.map some = .error fault ↔ x = .error fault := by
  cases x <;> simp [Except.map]

/-- Only a folder is asked for files. -/
theorem get?_outOfReach : (∃ why, shelf.get? f id = .error (.outOfReach why)) ↔
    ∃ place, shelf = .folder place ∧ IsOutOfReach f place id := by
  cases shelf with
  | catalog => simp [get?]
  | folder place =>
    have hreach : (∃ why, get? f id (.folder place) = .error (.outOfReach why)) ↔
        IsOutOfReach f place id := by
      unfold IsOutOfReach
      cases lookup f place id with
      | nul h hget => simp [hget, h]
      | tooLong hnul h hget => simp [hget, h]
      | nothing hnul hlong h hget => simp [hget, hnul, hlong]
      | file content hnul h hget =>
        simp [hget, map_some_eq_error, ofContent_ne_outOfReach, hnul, h.not_isTooLong]
    simp [hreach]

end Shelf

end FlexForm
