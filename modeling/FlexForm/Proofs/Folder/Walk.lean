import FlexForm.Folder.Basic
import Mathlib.Data.List.Basic

/-! # Ways through the working folder

A location is meant in two ways: its steps up are dropped as they stand, or its names are followed
through the folders that are there. Where following leads anywhere, both come to the same place.

* `Location.baseName`: what stands behind the last slash of a text.
* `Folder.resolve_of_find?`: dropping and following agree.
* `Folder.tooLong_iff`: the locations at which nothing can be asked for.
* `Folder.IsPlain`: the names of all files are names that a folder can hold.
* `Folder.find?_of_textAt?`, `Folder.textAt?_child`: the files right inside of a folder.
-/

namespace FlexForm
set_option autoImplicit false

/-! ## Names in a text -/

namespace Location

/-- A name that stands for a file or a folder right where it is read. -/
structure IsName (name : String) : Prop where
  ne_empty : name ≠ ""
  ne_dot : name ≠ "."
  ne_up : name ≠ up
  no_slash : '/' ∉ name.toList
  no_nul : nul ∉ name.toList
  short : name.utf8ByteSize ≤ nameLimit

theorem isName_iff {name : String} : IsName name ↔ (name ≠ "" ∧ name ≠ "." ∧ name ≠ up) ∧
    ('/' ∉ name.toList ∧ nul ∉ name.toList) ∧ name.utf8ByteSize ≤ nameLimit :=
  ⟨fun h => ⟨⟨h.ne_empty, h.ne_dot, h.ne_up⟩, ⟨h.no_slash, h.no_nul⟩, h.short⟩,
    fun ⟨⟨hempty, hdot, hup⟩, ⟨hslash, hnul⟩, hshort⟩ => ⟨hempty, hdot, hup, hslash, hnul, hshort⟩⟩

instance (name : String) : Decidable (IsName name) := decidable_of_iff _ isName_iff.symm

/-- What stands behind the last slash of the text. -/
def baseName (text : String) : String :=
  String.ofList ((splitNames text.toList).getLast?.getD [])

theorem splitNames_slash (cs : List Char) : splitNames ('/' :: cs) = [] :: splitNames cs := by
  rw [splitNames]

theorem splitNames_cons {c : Char} {cs part : List Char} {parts : List (List Char)} (hc : c ≠ '/')
    (h : splitNames cs = part :: parts) : splitNames (c :: cs) = (c :: part) :: parts := by
  rw [splitNames, h]
  simpa using hc

theorem exists_splitNames (cs : List Char) : ∃ part parts, splitNames cs = part :: parts := by
  induction cs with
  | nil => exact ⟨[], [], rfl⟩
  | cons c rest ih =>
    obtain ⟨part, parts, hrest⟩ := ih
    by_cases hc : c = '/'
    · exact ⟨[], splitNames rest, hc ▸ splitNames_slash rest⟩
    · exact ⟨c :: part, parts, splitNames_cons hc hrest⟩

theorem splitNames_of_not_mem {cs : List Char} (h : '/' ∉ cs) : splitNames cs = [cs] := by
  induction cs with
  | nil => rfl
  | cons c rest ih =>
    rw [List.mem_cons, not_or] at h
    exact splitNames_cons (Ne.symm h.1) (ih h.2)

theorem splitNames_append (before : List Char) {after : List Char} (h : '/' ∉ after) :
    ∃ names last, splitNames before = names ++ [last] ∧
      splitNames (before ++ after) = names ++ [last ++ after] := by
  induction before with
  | nil => exact ⟨[], [], rfl, splitNames_of_not_mem h⟩
  | cons c rest ih =>
    obtain ⟨names, last, hrest, happend⟩ := ih
    by_cases hc : c = '/'
    · subst hc
      refine ⟨[] :: names, last, ?_, ?_⟩
      · rw [splitNames_slash, hrest, List.cons_append]
      · rw [List.cons_append, splitNames_slash, happend, List.cons_append]
    · cases names with
      | nil => exact ⟨[], c :: last, splitNames_cons hc hrest, splitNames_cons hc happend⟩
      | cons name names =>
        exact ⟨(c :: name) :: names, last, splitNames_cons hc hrest, splitNames_cons hc happend⟩

theorem baseName_of_not_mem {text : String} (h : '/' ∉ text.toList) : baseName text = text := by
  rw [baseName, splitNames_of_not_mem h]
  simp

theorem not_mem_of_mem_splitNames {cs part : List Char} (h : part ∈ splitNames cs) :
    '/' ∉ part := by
  induction cs generalizing part with
  | nil =>
    cases List.mem_singleton.1 h
    exact List.not_mem_nil
  | cons c rest ih =>
    by_cases hc : c = '/'
    · subst hc
      rw [splitNames_slash] at h
      rcases List.mem_cons.1 h with rfl | h
      · exact List.not_mem_nil
      · exact ih h
    · obtain ⟨first, others, hrest⟩ := exists_splitNames rest
      rw [splitNames_cons hc hrest] at h
      rw [hrest] at ih
      rcases List.mem_cons.1 h with rfl | h
      · rw [List.mem_cons, not_or]
        exact ⟨Ne.symm hc, ih List.mem_cons_self⟩
      · exact ih (List.mem_cons_of_mem first h)

theorem not_mem_baseName (text : String) : '/' ∉ (baseName text).toList := by
  rw [baseName, String.toList_ofList]
  cases hlast : (splitNames text.toList).getLast? with
  | none => exact List.not_mem_nil
  | some last => exact not_mem_of_mem_splitNames (List.mem_of_getLast? hlast)

theorem isName_of_mem_namesOf {text name : String} (h : name ∈ namesOf text) (hup : name ≠ up)
    (hlength : name.utf8ByteSize ≤ nameLimit) (hnul : nul ∉ name.toList) : IsName name := by
  obtain ⟨part, hpart, rfl⟩ := List.mem_map.1 h
  obtain ⟨hsplit, hkept⟩ := List.mem_filter.1 hpart
  obtain ⟨hempty, hdot⟩ := of_decide_eq_true hkept
  refine ⟨?_, ?_, hup, ?_, hnul, hlength⟩
  · intro hnil
    exact hempty (String.ofList_injective hnil)
  · intro hnil
    exact hdot (String.ofList_injective hnil)
  · rw [String.toList_ofList]
    exact not_mem_of_mem_splitNames hsplit

theorem filter_of_name {name : String} (h : name ≠ "" ∧ name ≠ ".") :
    ([name.toList].filter fun part => part ≠ [] ∧ part ≠ ['.']).map String.ofList = [name] := by
  have hkept : name.toList ≠ [] ∧ name.toList ≠ ['.'] :=
    h.imp (fun hempty hnil => hempty (String.toList_inj.1 hnil))
      fun hdot hnil => hdot (String.toList_inj.1 hnil)
  simp [hkept]

theorem namesOf_append (text after : String) (hslash : '/' ∉ after.toList)
    (hname : baseName text ++ after ≠ "" ∧ baseName text ++ after ≠ ".") :
    ∃ names, namesOf (text ++ after) = names ++ [baseName text ++ after] := by
  obtain ⟨names, last, htext, happend⟩ := splitNames_append text.toList hslash
  have hlast : last ++ after.toList = (baseName text ++ after).toList := by
    simp [baseName, htext]
  rw [namesOf, String.toList_append, happend, List.filter_append, List.map_append, hlast,
    filter_of_name hname]
  exact ⟨_, rfl⟩

theorem ofText_of_not_mem {name : String} (hslash : '/' ∉ name.toList)
    (hname : name ≠ "" ∧ name ≠ ".") : ofText name = ⟨"", [name]⟩ := by
  have hroot : rootOf name = "" := by
    have htake : name.toList.takeWhile (· == '/') = [] := by
      cases hchars : name.toList with
      | nil => rfl
      | cons c rest =>
        rw [hchars, List.mem_cons, not_or] at hslash
        exact List.takeWhile_cons_of_neg (by simpa using Ne.symm hslash.1)
    rw [rootOf, htake]
    rfl
  rw [ofText, hroot, namesOf, splitNames_of_not_mem hslash, filter_of_name hname]

theorem child_of_not_mem {name : String} (l : Location) (hslash : '/' ∉ name.toList)
    (hname : name ≠ "" ∧ name ≠ ".") : l.child name = ⟨l.root, l.names ++ [name]⟩ := by
  rw [child, ofText_of_not_mem hslash hname]
  rfl

theorem child_of_isName {name : String} (l : Location) (h : IsName name) :
    l.child name = ⟨l.root, l.names ++ [name]⟩ :=
  child_of_not_mem l h.no_slash ⟨h.ne_empty, h.ne_dot⟩

/-! ## Names with a NUL -/

theorem hasNul_eq_false_iff {l : Location} :
    l.hasNul = false ↔ ∀ name ∈ l.names, nul ∉ name.toList := by
  rw [hasNul, List.any_eq_false]
  exact forall₂_congr fun name _ => by rw [List.contains_iff_mem]

theorem hasNul_append {root : String} {before after : List String} :
    hasNul ⟨root, before ++ after⟩ = false ↔
      hasNul ⟨root, before⟩ = false ∧ hasNul ⟨root, after⟩ = false := by
  simp only [hasNul_eq_false_iff, List.forall_mem_append]

theorem hasNul_concat {root name : String} {before : List String} :
    hasNul ⟨root, before ++ [name]⟩ = false ↔ hasNul ⟨root, before⟩ = false ∧ nul ∉ name.toList := by
  rw [hasNul_append, and_congr_right_iff]
  intro _
  rw [hasNul_eq_false_iff, List.forall_mem_singleton]

end Location

/-! ## Following -/

namespace Folder

open Location

variable {f : Folder} {place names before after : List String} {name : String} {l : Location}

theorem next_of_ne_up (place : List String) (h : name ≠ up) : next place name = place ++ [name] :=
  if_neg h

theorem follow_append (f : Folder) (place before after : List String) :
    f.follow place (before ++ after) = (f.follow place before).bind (f.follow · after) := by
  induction before generalizing place with
  | nil => rfl
  | cons name rest ih =>
    rw [List.cons_append, follow, follow]
    split
    next => exact ih (next place name)
    next => rfl

theorem follow_name {found : List String} (hup : name ≠ up) : f.follow place [name] = some found ↔
    f.hasFolder place = true ∧ place ++ [name] = found := by
  simp [follow, next_of_ne_up place hup]

/-- Where following leads, dropping the steps up leads as well. -/
theorem settle_of_follow {found : List String} (h : f.follow place names = some found)
    (hplace : up ∉ place) : settle true place.reverse names = found := by
  -- No step up stands in the place so far, so each further one takes away a name of it.
  induction names generalizing place with
  | nil =>
    rw [follow] at h
    cases h
    rw [settle, List.reverse_reverse]
  | cons name rest ih =>
    rw [follow] at h
    split at h
    next =>
      by_cases hup : name = up
      · rcases List.eq_nil_or_concat' place with rfl | ⟨earlier, last, rfl⟩
        · have hroot := ih (by simpa [next, hup] using h) hplace
          simpa [settle, hup] using hroot
        · rw [List.mem_append, not_or, List.mem_singleton] at hplace
          have hearlier := ih (by simpa [next, hup] using h) hplace.1
          simpa [settle, hup, Ne.symm hplace.2] using hearlier
      · rw [next_of_ne_up place hup] at h
        have hnext := ih h (by simp [hplace, Ne.symm hup])
        rw [List.reverse_append, List.reverse_singleton, List.singleton_append] at hnext
        rwa [settle_cons_of_ne hup]
    next => cases h

theorem up_not_mem_start (f : Folder) (l : Location) : up ∉ f.start l := by
  unfold start
  split
  · exact List.not_mem_nil
  · exact f.home_proper

theorem find?_eq_some : f.find? l = some place ↔
    l.hasNul = false ∧ f.follow (f.start l) l.names = some place := by
  rw [find?]
  split
  next hnul => simp [hnul]
  next hnul => simp [hnul]

/-- Where a location leads, it comes to as well. -/
theorem resolve_of_find? (h : f.find? l = some place) : f.resolve l = place := by
  rw [resolve, settle_append (up_not_mem_start f l), List.append_nil]
  exact settle_of_follow (find?_eq_some.1 h).2 (up_not_mem_start f l)

theorem find?_concat {root : String} {found : List String} (hup : name ≠ up) :
    f.find? ⟨root, before ++ [name]⟩ = some found ↔ nul ∉ name.toList ∧
      ∃ place, f.find? ⟨root, before⟩ = some place ∧ f.hasFolder place = true ∧
        place ++ [name] = found := by
  have hstart : f.start ⟨root, before ++ [name]⟩ = f.start ⟨root, before⟩ := rfl
  have hfollow : f.follow (f.start ⟨root, before⟩) (before ++ [name]) = some found ↔
      ∃ place, f.follow (f.start ⟨root, before⟩) before = some place ∧
        f.hasFolder place = true ∧ place ++ [name] = found := by
    rw [follow_append, Option.bind_eq_some_iff]
    exact exists_congr fun place => and_congr_right fun _ => follow_name hup
  simp only [find?_eq_some, hasNul_concat, hstart, hfollow]
  constructor
  · rintro ⟨⟨hbefore, hname⟩, place, hplace, h⟩
    exact ⟨hname, place, ⟨hbefore, hplace⟩, h⟩
  · rintro ⟨hname, place, ⟨hbefore, hplace⟩, h⟩
    exact ⟨⟨hbefore, hname⟩, place, hplace, h⟩

/-! ## Names that are too long -/

theorem meetsLong_iff : f.meetsLong place names = true ↔ ∃ before name after found,
    names = before ++ name :: after ∧ f.follow place before = some found ∧
      f.hasFolder found = true ∧ nameLimit < name.utf8ByteSize := by
  induction names generalizing place with
  | nil => simp [meetsLong]
  | cons first rest ih =>
    rw [meetsLong, Bool.and_eq_true, Bool.or_eq_true, decide_eq_true_eq, ih]
    constructor
    · rintro ⟨hfolder, hlong | ⟨before, name, after, found, rfl, hfollow, h⟩⟩
      · exact ⟨[], first, rest, place, rfl, rfl, hfolder, hlong⟩
      · exact ⟨first :: before, name, after, found, rfl, by rwa [follow, if_pos hfolder], h⟩
    · rintro ⟨before, name, after, found, hnames, hfollow, hfound, hlong⟩
      cases before with
      | nil =>
        cases hnames
        cases hfollow
        exact ⟨hfound, .inl hlong⟩
      | cons other before =>
        cases hnames
        rw [follow] at hfollow
        split at hfollow
        next hfolder => exact ⟨hfolder, .inr ⟨before, name, after, found, rfl, hfollow, hfound, hlong⟩⟩
        next => cases hfollow

/-- Nothing can be asked for where the text is too long, or a folder on the way is asked for a name
that is. -/
theorem tooLong_iff : f.tooLong l = true ↔ l.hasNul = false ∧ (textLimit < l.text.utf8ByteSize ∨
    ∃ before name after found, l.names = before ++ name :: after ∧
      f.find? ⟨l.root, before⟩ = some found ∧ f.hasFolder found = true ∧
      nameLimit < name.utf8ByteSize) := by
  rw [tooLong, Bool.and_eq_true, Bool.not_eq_true', and_congr_right_iff]
  intro hnul
  rw [Bool.or_eq_true, decide_eq_true_eq, meetsLong_iff]
  refine or_congr_right (exists₄_congr fun before name after found => ?_)
  refine and_congr_right fun hnames => and_congr_left fun _ => ?_
  -- What stands before a name in the location has no NUL either.
  have hbefore : hasNul ⟨l.root, before⟩ = false :=
    (hasNul_append.1 (show hasNul ⟨l.root, before ++ name :: after⟩ = false from hnames ▸ hnul)).1
  rw [find?_eq_some, and_iff_right hbefore]
  rfl

/-! ## The files right inside of a folder -/

/-- The names of all files and folders are names that a folder can hold. -/
def IsPlain (f : Folder) : Prop :=
  ∀ place ∈ f.contents.map Prod.fst ++ f.made, ∀ n ∈ place, IsName n

instance (f : Folder) : Decidable f.IsPlain := inferInstanceAs (Decidable (∀ _ ∈ _, _))

/-- Files whose locations have no steps up, no long names and no NUL have names that a folder can
hold. -/
theorem isPlain_ofFiles {files : List (String × String)}
    (h : ∀ file ∈ files, up ∉ namesOf file.1 ∧ ∀ name ∈ namesOf file.1,
      name.utf8ByteSize ≤ nameLimit ∧ nul ∉ name.toList) : (ofFiles files).IsPlain := by
  intro place hplace n hn
  obtain ⟨file, hfile, rfl⟩ : ∃ file ∈ files,
      ({} : Folder).start (ofText file.1) ++ namesOf file.1 = place := by
    simpa [ofFiles] using hplace
  rcases List.mem_append.1 hn with hn | hn
  · have hhome : ∀ n ∈ ({} : Folder).start (ofText file.1), IsName n := by
      unfold start
      split <;> decide
    exact hhome n hn
  · obtain ⟨hlength, hnul⟩ := (h file hfile).2 n hn
    exact isName_of_mem_namesOf hn (fun hup => (h file hfile).1 (hup ▸ hn)) hlength hnul

theorem textAt?_eq_some {content : String} : f.textAt? l = some content ↔
    ∃ place, f.find? l = some place ∧ f.file? place = some content :=
  Option.bind_eq_some_iff

theorem mem_childNames : name ∈ f.childNames l ↔ ∃ place, f.find? l = some place ∧
    ∃ names ∈ f.contents.map Prod.fst ++ f.made,
      isProperPrefix place names = true ∧ names[place.length]? = some name := by
  cases hplace : f.find? l with
  | none => simp [childNames, hplace]
  | some place =>
    simp only [childNames, hplace, List.mem_eraseDups, List.mem_filterMap]
    simp [Option.ite_none_right_eq_some]

theorem isName_of_mem_childNames (hplain : f.IsPlain) (h : name ∈ f.childNames l) : IsName name := by
  obtain ⟨place, -, names, hnames, -, hname⟩ := mem_childNames.1 h
  exact hplain names hnames name (List.mem_of_getElem? hname)

theorem hasFolder_of_mem_childNames (h : name ∈ f.childNames l) (hplace : f.find? l = some place) :
    f.hasFolder place = true := by
  obtain ⟨place', hplace', names, hnames, hprefix, -⟩ := mem_childNames.1 h
  cases hplace.symm.trans hplace'
  rw [hasFolder, Bool.or_eq_true, Bool.or_eq_true, List.any_eq_true, List.any_eq_true]
  rcases List.mem_append.1 hnames with hfile | hmade
  · obtain ⟨file, hmem, rfl⟩ := List.mem_map.1 hfile
    exact .inl (.inr ⟨file, hmem, hprefix⟩)
  · exact .inr ⟨names, hmade, (Bool.and_eq_true_iff.1 hprefix).1⟩

theorem mem_of_file? {content : String} (h : f.file? place = some content) :
    place ∈ f.contents.map Prod.fst := by
  obtain ⟨before, after, hfiles, -⟩ := List.lookup_eq_some_iff.1 h
  rw [hfiles]
  simp

theorem mem_childNames_of_file? {content : String} (hplace : f.find? l = some place)
    (h : f.file? (place ++ [name]) = some content) : name ∈ f.childNames l := by
  refine mem_childNames.2 ⟨place, hplace, place ++ [name], ?_, ?_, ?_⟩
  · exact List.mem_append_left _ (mem_of_file? h)
  · simp [isProperPrefix]
  · simp

theorem textAt?_child (hplain : f.IsPlain) (hname : name ∈ f.childNames l)
    (hplace : f.find? l = some place) : f.textAt? (l.child name) = f.file? (place ++ [name]) := by
  have hisName := isName_of_mem_childNames hplain hname
  have hfolder := hasFolder_of_mem_childNames hname hplace
  have hfound := (find?_concat hisName.ne_up).2 ⟨hisName.no_nul, place, hplace, hfolder, rfl⟩
  rw [child_of_isName l hisName, textAt?, hfound]
  rfl

/-- Where a file is found, its folder is where the front of its location comes to. -/
theorem find?_of_textAt? {root content : String} (hup : name ≠ up)
    (h : f.textAt? ⟨root, before ++ [name]⟩ = some content) :
    f.find? ⟨root, before⟩ = some (f.resolve ⟨root, before⟩) ∧
      f.hasFolder (f.resolve ⟨root, before⟩) = true := by
  obtain ⟨found, hfound, -⟩ := textAt?_eq_some.1 h
  obtain ⟨-, place, hplace, hfolder, -⟩ := (find?_concat hup).1 hfound
  rw [resolve_of_find? hplace]
  exact ⟨hplace, hfolder⟩

end Folder

end FlexForm
