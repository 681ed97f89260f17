import FlexForm.Proofs.Json.Reading
import FlexForm.Proofs.Shelf.Lookup
import FlexForm.Proofs.Shelf.Stores

/-! # Listing and looking up

A folder is listed by what its records hold and searched by how its files are called. Both come to
the same templates exactly if every file is called by the id of its template.

* `Shelf.Holds`: a file right in the folder, with its template.
* `Shelf.get?_folder`, `Shelf.mem_list_folder`: what is found and what is listed in a folder.
* `Shelf.Agrees.or`, `Shelf.agrees_iff`: lookup and listing, for a folder before the catalog.
-/

namespace FlexForm
set_option autoImplicit false

namespace Shelf

open Location

variable {f : Folder} {place l : Location} {id : String} {t u : Template} {ts us : List Template}

/-! ## Files and their templates -/

/-- The folder has a file with the name, and it holds the template. -/
def Holds (f : Folder) (place : Location) (name : String) (t : Template) : Prop :=
  name ∈ f.childNames place ∧ read f (place.child name) = .ok t

theorem mem_locations : l ∈ locations f place ↔
    ∃ id, id ++ extension ∈ f.childNames place ∧ place.child (id ++ extension) = l := by
  simp only [locations, List.mem_map, List.mem_mergeSort, List.mem_filter, endsWith_extension]
  constructor
  · rintro ⟨_, ⟨hname, id, rfl⟩, rfl⟩
    exact ⟨id, hname, rfl⟩
  · rintro ⟨id, hname, rfl⟩
    exact ⟨id ++ extension, ⟨hname, id, rfl⟩, rfl⟩

theorem mapM_read_of_list (h : list f (.folder place) = .ok ts) :
    f.tooLong place = false ∧ (locations f place).mapM (read f) = .ok ts := by
  rw [list] at h
  split at h
  next => cases h
  next hshort => exact ⟨Bool.eq_false_iff.2 hshort, h⟩

theorem mem_list_folder (h : list f (.folder place) = .ok ts) :
    t ∈ ts ↔ ∃ id, Holds f place (id ++ extension) t := by
  rw [mem_of_mapM_ok (mapM_read_of_list h).2]
  constructor
  · rintro ⟨l, hl, hread⟩
    obtain ⟨id, hname, rfl⟩ := mem_locations.1 hl
    exact ⟨id, hname, hread⟩
  · rintro ⟨id, hname, hread⟩
    exact ⟨_, mem_locations.2 ⟨id, hname, rfl⟩, hread⟩

/-- Where a folder can be listed, all of its files with the extension hold templates. -/
theorem exists_holds (h : list f (.folder place) = .ok ts)
    (hname : id ++ extension ∈ f.childNames place) : ∃ t, Holds f place (id ++ extension) t := by
  obtain ⟨t, ht⟩ := exists_of_mapM_ok (mapM_read_of_list h).2 (mem_locations.2 ⟨id, hname, rfl⟩)
  exact ⟨t, hname, ht⟩

/-! ## Looking up -/

/-- The folder is where its location comes to, if there is one, and any name can be asked for in
it. -/
def IsOpen (f : Folder) : Shelf → Prop
  | .catalog => True
  | .folder place => (f.hasFolder (f.resolve place) = true → f.find? place = some (f.resolve place)) ∧
      place.text.utf8ByteSize + nameLimit < textLimit

theorem holds_of_leadsToFile {content : String} (hplain : f.IsPlain)
    (hopen : IsOpen f (.folder place)) (h : LeadsToFile f place id content) :
    baseName id ++ extension ∈ f.childNames place ∧ ∀ t,
      read f (place.child (baseName id ++ extension)) = .ok t →
        ofContent (place.child (id ++ extension)) content = .ok t := by
  obtain ⟨hfolder, -, hfile⟩ := h.find?
  have hplace := hopen.1 hfolder
  have hname := Folder.mem_childNames_of_file? hplace hfile
  have hisName := Folder.isName_of_mem_childNames hplain hname
  obtain ⟨root, before, hchild⟩ := child_extension place id
  refine ⟨hname, fun t hread => ?_⟩
  obtain ⟨-, content', htext', hcontent⟩ := read_eq_ok.1 hread
  rw [Folder.textAt?_child hplain hname hplace, hfile, Option.some.injEq] at htext'
  subst htext'
  refine (ofContent_eq_ok_of_stem ?_).1 hcontent
  rw [hchild, child_of_isName place hisName]
  simp [stem]

/-- What is looked up in a folder that can be listed is there or is not, and what is found stands in
the file called by the last name of the id, unless the folder cannot be asked for the id. -/
theorem get?_folder (hplain : f.IsPlain) (hopen : IsOpen f (.folder place))
    (h : list f (.folder place) = .ok ts) (id : String) : ∃ found,
      (get? f id (.folder place) = .ok found ∨ found = none ∧
        IsOutOfReach f place id ∧ ∃ why, get? f id (.folder place) = .error (.outOfReach why)) ∧
      ∀ t ∈ found, Holds f place (baseName id ++ extension) t := by
  cases lookup f place id with
  | nul hnul hget => exact ⟨none, .inr ⟨rfl, .inl hnul, _, hget⟩, by simp⟩
  | tooLong _ hlong hget => exact ⟨none, .inr ⟨rfl, .inr hlong, _, hget⟩, by simp⟩
  | nothing _ _ _ hget => exact ⟨none, .inl hget, by simp⟩
  | file content _ hfile hget =>
    obtain ⟨hname, hread⟩ := holds_of_leadsToFile hplain hopen hfile
    obtain ⟨t, ht⟩ := exists_holds h hname
    refine ⟨some t, .inl ?_, ?_⟩
    · rw [hget, hread t ht.2]
      rfl
    · rintro _ ⟨⟩
      exact ht

theorem get?_of_holds (hplain : f.IsPlain) (h : Holds f place (id ++ extension) t) :
    get? f id (.folder place) = .ok (some t) := by
  obtain ⟨hname, hread⟩ := h
  have hisName := Folder.isName_of_mem_childNames hplain hname
  have hchild := child_of_isName place hisName
  obtain ⟨hshort, content, htext, hcontent⟩ := read_eq_ok.1 hread
  have hparent : (place.child (id ++ extension)).parent = place := by
    rw [hchild, parent, List.dropLast_concat]
  have hplace : place.hasNul = false := by
    have hnul := hasNul_of_textAt? htext
    rw [hchild] at hnul
    exact (hasNul_concat.1 hnul).1
  have hnul : ¬ MeetsNul place id := by
    rw [MeetsNul, hparent, or_self_iff, hplace]
    exact Bool.false_ne_true
  have hfile : LeadsToFile f place id content := ⟨by rw [hparent], hshort, htext⟩
  rw [get?_of_leadsToFile hnul hfile, hcontent]
  rfl

theorem utf8ByteSize_text_concat (l : Location) (name : String) :
    (⟨l.root, l.names ++ [name]⟩ : Location).text.utf8ByteSize ≤
      l.text.utf8ByteSize + name.utf8ByteSize + 1 := by
  have hslash : "/".utf8ByteSize = 1 := rfl
  have hchild : (⟨l.root, l.names ++ [name]⟩ : Location).text =
      l.root ++ "/".intercalate (l.names ++ [name]) := by
    simp [text]
  rw [hchild, String.utf8ByteSize_append]
  by_cases hnames : l.names = []
  · rw [hnames, List.nil_append, String.intercalate_singleton]
    by_cases hroot : l.root = ""
    · rw [hroot, String.utf8ByteSize_empty]
      omega
    · have htext : l.text = l.root := by simp [text, hnames, hroot]
      rw [htext]
      omega
  · have htext : l.text = l.root ++ "/".intercalate l.names := by simp [text, hnames]
    rw [htext, String.intercalate_append_of_ne_nil hnames (by simp), String.intercalate_singleton]
    simp only [String.utf8ByteSize_append]
    omega

theorem tooLong_child {name : String} (hopen : IsOpen f (.folder place))
    (hshort : f.tooLong place = false) (hname : IsName name) :
    f.tooLong (place.child name) = false := by
  have hnot : ¬ f.tooLong place = true := Bool.eq_false_iff.1 hshort
  rw [child_of_isName place hname, Bool.eq_false_iff, ne_eq, Folder.tooLong_iff, not_and, not_or]
  intro hnul
  rw [Folder.tooLong_iff, and_iff_right (hasNul_concat.1 hnul).1, not_or] at hnot
  have hlength := hname.short
  refine ⟨?_, ?_⟩
  · have htext := utf8ByteSize_text_concat place name
    have hroom := hopen.2
    omega
  -- A long name would be one of the folder's own, as this one is not.
  · rintro ⟨before, long, after, found, hnames, hfound⟩
    rcases List.eq_nil_or_concat' after with rfl | ⟨after, last, rfl⟩
    · obtain ⟨-, hlong⟩ := List.append_inj' hnames rfl
      cases hlong
      omega
    · rw [← List.cons_append, ← List.append_assoc] at hnames
      obtain ⟨hnames, -⟩ := List.append_inj' hnames rfl
      exact hnot.2 ⟨before, long, after, found, hnames, hfound⟩

/-! ## Agreement -/

/-- Every listed template is found by its id. What is found by an id, perhaps with a path before its
last name, is listed and has that last name for its id. -/
structure Agrees (look : String → Option Template) (ts : List Template) : Prop where
  listed : ∀ t ∈ ts, ∃ id, t.id = some id ∧ look id = some t
  found : ∀ id t, look id = some t → t.id = some (baseName id) ∧ t ∈ ts

section
variable {look other : String → Option Template}

theorem Agrees.look_of_mem (h : Agrees look ts) (ht : t ∈ ts) (hid : t.id = some id) :
    look id = some t := by
  obtain ⟨id', hid', hlook⟩ := h.listed t ht
  cases hid.symm.trans hid'
  exact hlook

theorem Agrees.eq_of_id_eq (h : Agrees look ts) (ht : t ∈ ts) (hu : u ∈ ts) (hid : u.id = t.id) :
    u = t := by
  obtain ⟨id, hid', hlook⟩ := h.listed t ht
  exact Option.some.inj ((h.look_of_mem hu (hid.trans hid')).symm.trans hlook)

/-- Two shelves that agree do so together, the first one before the second. What is found on the
second is found without a path: the first might have a template under the last name alone. -/
theorem Agrees.or (hown : Agrees look ts) (hother : Agrees other us)
    (hplain : ∀ id t, other id = some t → baseName id = id) :
    Agrees (fun id => (look id).or (other id)) (distinct (ts ++ us)) where
  listed t ht := by
    rcases mem_of_mem_distinct_append ht with ht | ⟨ht, hfirst⟩
    · obtain ⟨id, hid, hlook⟩ := hown.listed t ht
      exact ⟨id, hid, by rw [hlook, Option.some_or]⟩
    · obtain ⟨id, hid, hlook⟩ := hother.listed t ht
      refine ⟨id, hid, ?_⟩
      cases hnone : look id with
      | none => rw [Option.none_or, hlook]
      | some u =>
        obtain ⟨huid, hu⟩ := hown.found id u hnone
        rw [hplain id t hlook] at huid
        exact absurd (huid.trans hid.symm) (hfirst u hu)
  found id t h := by
    rcases Option.or_eq_some_iff.1 h with hlook | ⟨hnone, hlook⟩
    · obtain ⟨hid, ht⟩ := hown.found id t hlook
      obtain ⟨u, hu, huid⟩ := exists_mem_distinct (List.mem_append_left us ht)
      rcases mem_of_mem_distinct_append hu with hmem | ⟨-, hfirst⟩
      · exact ⟨hid, hown.eq_of_id_eq ht hmem huid ▸ hu⟩
      · exact absurd huid.symm (hfirst t ht)
    · obtain ⟨hid, ht⟩ := hother.found id t hlook
      obtain ⟨u, hu, huid⟩ := exists_mem_distinct (List.mem_append_right ts ht)
      rcases mem_of_mem_distinct_append hu with hmem | ⟨hmem, -⟩
      · rw [hplain id t hlook] at hid
        rw [hown.look_of_mem hmem (huid.trans hid)] at hnone
        cases hnone
      · exact ⟨hid, hother.eq_of_id_eq ht hmem huid ▸ hu⟩

end

/-- The shelf is the catalog, or a folder that can be asked for some id. -/
def IsAskable : Shelf → Prop
  | .catalog => True
  | .folder place => place.hasNul = false

/-- Every file of the shelf is called by the id of its template. -/
def IsNamedById (f : Folder) : Shelf → Prop
  | .catalog => True
  | .folder place => ∀ id t, Holds f place (id ++ extension) t → t.id = some id

/-- What the catalog has under an id. -/
def inCatalog? (id : String) : Option Template := Catalog.templates.find? fun t => t.id == some id

theorem id_of_inCatalog? (h : inCatalog? id = some t) : t.id = some id := by
  rw [inCatalog?] at h
  have hfound := List.find?_some h
  exact eq_of_beq hfound

theorem inCatalog?_cases (h : inCatalog? id = some t) :
    id = "builtin-carousel" ∨ id = "builtin-single-poster" := by
  have hid := id_of_inCatalog? h
  have hmem : t ∈ [Catalog.carousel, Catalog.poster] := List.mem_of_find?_eq_some h
  rcases List.mem_pair.1 hmem with rfl | rfl
  · exact .inl (Option.some.inj hid).symm
  · exact .inr (Option.some.inj hid).symm

theorem baseName_of_inCatalog? (h : inCatalog? id = some t) : t.id = some id ∧ baseName id = id := by
  refine ⟨id_of_inCatalog? h, baseName_of_not_mem ?_⟩
  rcases inCatalog?_cases h with rfl | rfl <;> decide

theorem agrees_catalog : Agrees inCatalog? Catalog.templates where
  listed t ht := by
    rcases List.mem_pair.1 ht with rfl | rfl
    · exact ⟨"builtin-carousel", rfl, rfl⟩
    · exact ⟨"builtin-single-poster", rfl, rfl⟩
  found id t h := by
    obtain ⟨hid, hname⟩ := baseName_of_inCatalog? h
    exact ⟨hname.symm ▸ hid, List.mem_of_find?_eq_some h⟩

theorem agrees_folder (hplain : f.IsPlain) (h : list f (.folder place) = .ok ts)
    (hnamed : IsNamedById f (.folder place)) {look : String → Option Template}
    (hlook : ∀ id t, get? f id (.folder place) = .ok (some t) → look id = some t)
    (hholds : ∀ id, ∀ t ∈ look id, Holds f place (baseName id ++ extension) t) : Agrees look ts where
  listed t ht := by
    obtain ⟨id, hid⟩ := (mem_list_folder h).1 ht
    exact ⟨id, hnamed id t hid, hlook id t (get?_of_holds hplain hid)⟩
  found id t hfound := by
    have hholds := hholds id t hfound
    exact ⟨hnamed _ t hholds, (mem_list_folder h).2 ⟨_, hholds⟩⟩

theorem baseName_of_holds (hplain : f.IsPlain) (h : Holds f place (id ++ extension) t) :
    baseName id = id := by
  have hslash := (Folder.isName_of_mem_childNames hplain h.1).no_slash
  rw [String.toList_append, List.mem_append, not_or] at hslash
  exact baseName_of_not_mem hslash.1

/-- The ids of the catalog can be asked for in any folder that can be asked and listed. -/
theorem not_isOutOfReach_of_inCatalog? (hopen : IsOpen f (.folder place))
    (hnul : place.hasNul = false) (hshort : f.tooLong place = false)
    (h : inCatalog? id = some t) : ¬ IsOutOfReach f place id := by
  have hname : IsName (id ++ extension) ∧ '/' ∉ id.toList := by
    rcases inCatalog?_cases h with rfl | rfl <;> decide
  rw [IsOutOfReach, meetsNul_of_not_mem hname.2, hnul, not_or]
  refine ⟨Bool.false_ne_true, fun hlong => ?_⟩
  exact Bool.eq_false_iff.1 (tooLong_child hopen hshort hname.1) hlong.2

theorem ofFolder?_cases (dir : Option String) :
    ofFolder? dir = [.catalog] ∨ ∃ place, ofFolder? dir = [.folder place, .catalog] := by
  unfold ofFolder?
  split
  next => exact .inl rfl
  next => exact .inl rfl
  next dir _ => exact .inr ⟨.ofText dir, rfl⟩

theorem listFrom_eq_ok {shelves : List Shelf} (h : listFrom f shelves = .ok ts) :
    ∃ rows, List.Forall₂ (fun shelf us => list f shelf = .ok us) shelves rows ∧
      ts = distinct rows.flatten := by
  obtain ⟨rows, hrows, hts⟩ := exists_of_bind_ok h
  exact ⟨rows, List.forall₂_map_left_iff.1 (forall₂_of_mapM_ok hrows), (Except.ok.inj hts).symm⟩

theorem listFrom_catalog (h : listFrom f [.catalog] = .ok ts) :
    ts = distinct Catalog.templates := by
  obtain ⟨rows, hrows, rfl⟩ := listFrom_eq_ok h
  obtain ⟨_, _, hcatalog, hnil, rfl⟩ := List.forall₂_cons_left_iff.1 hrows
  cases hcatalog
  cases List.forall₂_nil_left_iff.1 hnil
  rw [List.flatten_singleton]

theorem listFrom_folder (h : listFrom f [.folder place, .catalog] = .ok ts) :
    ∃ own, list f (.folder place) = .ok own ∧ ts = distinct (own ++ Catalog.templates) := by
  obtain ⟨rows, hrows, rfl⟩ := listFrom_eq_ok h
  obtain ⟨own, _, hown, hrest, rfl⟩ := List.forall₂_cons_left_iff.1 hrows
  obtain ⟨_, _, hcatalog, hnil, rfl⟩ := List.forall₂_cons_left_iff.1 hrest
  cases hcatalog
  cases List.forall₂_nil_left_iff.1 hnil
  refine ⟨own, hown, ?_⟩
  rw [List.flatten_cons, List.flatten_singleton]

theorem getFrom?_catalog (f : Folder) (id : String) :
    getFrom? f id [.catalog] = .ok (inCatalog? id) := by
  by_cases hnone : get? f id .catalog = .ok none
  · exact (getFrom?_cons_of_none hnone []).trans hnone.symm
  · exact getFrom?_cons_of_ne hnone []

theorem getFrom?_folder {found : Option Template} (h : get? f id (.folder place) = .ok found) :
    getFrom? f id [.folder place, .catalog] = .ok (found.or (inCatalog? id)) := by
  cases found with
  | none => rw [getFrom?_cons_of_none h, getFrom?_catalog, Option.none_or]
  | some t => rw [getFrom?_cons_of_ne (by simp [h]), h, Option.some_or]

/-- A fault of the folder hides the catalog, as the folder is asked first. -/
theorem getFrom?_folder_error {fault : TemplateFault}
    (h : get? f id (.folder place) = .error fault) :
    getFrom? f id [.folder place, .catalog] = .error fault := by
  rw [getFrom?_cons_of_ne (by simp [h]), h]

theorem agrees_without_folder : Agrees inCatalog? (distinct Catalog.templates) := by
  have hempty : Agrees (fun _ => none) [] := ⟨by simp, by simp⟩
  exact hempty.or agrees_catalog fun id t h => (baseName_of_inCatalog? h).2

theorem not_agrees_none (own : List Template) :
    ¬ Agrees (fun _ => none) (distinct (own ++ Catalog.templates)) := by
  intro hagrees
  have hmem : Catalog.poster ∈ own ++ Catalog.templates :=
    List.mem_append_right own (by simp [Catalog.templates])
  obtain ⟨t, ht, -⟩ := exists_mem_distinct hmem
  obtain ⟨_, -, hlook⟩ := hagrees.listed t ht
  cases hlook

/-- Before the catalog, a folder that can be asked agrees with its list exactly if every file is
called by the id of its template. -/
theorem exists_look (hplain : f.IsPlain) (hopen : IsOpen f (.folder place))
    (hnul : place.hasNul = false) (h : list f (.folder place) = .ok ts) : ∃ look,
    (∀ id, getFrom? f id [.folder place, .catalog] = .ok (look id) ∨ look id = none ∧
      ∃ why, getFrom? f id [.folder place, .catalog] = .error (.outOfReach why)) ∧
    (Agrees look (distinct (ts ++ Catalog.templates)) ↔ IsNamedById f (.folder place)) := by
  choose look hlook hholds using get?_folder hplain hopen h
  have hfound (id t) (hget : get? f id (.folder place) = .ok (some t)) : look id = some t := by
    rcases hlook id with hget' | ⟨-, -, why, hget'⟩
    · exact Except.ok.inj (hget'.symm.trans hget)
    · cases hget'.symm.trans hget
  refine ⟨fun id => (look id).or (inCatalog? id), fun id => ?_, ?_, ?_⟩
  · rcases hlook id with hget | ⟨hnone, hreach, why, hget⟩
    · exact .inl (getFrom?_folder hget)
    -- The ids of the catalog are within reach, so a fault hides none of it.
    · refine .inr ⟨?_, why, getFrom?_folder_error hget⟩
      cases hid : inCatalog? id with
      | none => simp only [hnone, hid, Option.none_or]
      | some t =>
        have hshort := (mapM_read_of_list h).1
        exact absurd hreach (not_isOutOfReach_of_inCatalog? hopen hnul hshort hid)
  -- A file is found under its own name, so agreement leaves no other id for its template.
  · intro hagrees id t ht
    have hlook : look id = some t := hfound id t (get?_of_holds hplain ht)
    have hid := (hagrees.found id t (by rw [hlook, Option.some_or])).1
    rwa [baseName_of_holds hplain ht] at hid
  · intro hnamed
    exact (agrees_folder hplain h hnamed hfound hholds).or agrees_catalog
      fun id t hid => (baseName_of_inCatalog? hid).2

/-- Where the shelves can be listed, lookup fails at most for ids that a folder cannot be asked for,
no id is listed twice, and lookup and listing agree exactly if every file is called by the id of its
template and the folder can be asked at all. -/
theorem agrees_iff (hplain : f.IsPlain) {dir : Option String}
    (hopen : ∀ shelf ∈ ofFolder? dir, shelf.IsOpen f) (h : listFrom f (ofFolder? dir) = .ok ts) :
    (ts.map Template.id).Nodup ∧ ∃ look,
      (∀ id, getFrom? f id (ofFolder? dir) = .ok (look id) ∨ look id = none ∧
        ∃ why, getFrom? f id (ofFolder? dir) = .error (.outOfReach why)) ∧
      (Agrees look ts ↔ ∀ shelf ∈ ofFolder? dir, shelf.IsAskable ∧ shelf.IsNamedById f) := by
  rcases ofFolder?_cases dir with hdir | ⟨place, hdir⟩
  · rw [hdir] at h ⊢
    obtain rfl := listFrom_catalog h
    have hall : ∀ shelf ∈ [Shelf.catalog], shelf.IsAskable ∧ shelf.IsNamedById f := by
      simp [IsAskable, IsNamedById]
    exact ⟨nodup_distinct _, inCatalog?, fun id => .inl (getFrom?_catalog f id),
      iff_of_true agrees_without_folder hall⟩
  · rw [hdir] at h hopen ⊢
    obtain ⟨own, hown, rfl⟩ := listFrom_folder h
    refine ⟨nodup_distinct _, ?_⟩
    have hall : (∀ shelf ∈ [Shelf.folder place, .catalog],
        shelf.IsAskable ∧ shelf.IsNamedById f) ↔
        place.hasNul = false ∧ IsNamedById f (.folder place) := by
      simp [IsAskable, IsNamedById]
    rw [hall]
    cases hnul : place.hasNul with
    | true =>
      refine ⟨fun _ => none, fun id => .inr ⟨rfl, .nul, ?_⟩, iff_of_false (not_agrees_none own) ?_⟩
      · exact getFrom?_folder_error (get?_of_meetsNul f (.inr hnul))
      · exact fun hfalse => Bool.noConfusion hfalse.1
    | false =>
      obtain ⟨look, hlook, hagrees⟩ := exists_look hplain (hopen _ List.mem_cons_self) hnul hown
      exact ⟨look, hlook, hagrees.trans (and_iff_right rfl).symm⟩

/-- A folder with one file, whose template has another id than the file's name. -/
def misnamed : Folder := .ofFiles [("t/a.json", "\x7b\"id\": \"b\", \"name\": \"B\"\x7d")]

theorem not_agrees_misnamed : misnamed.IsPlain ∧
    (∀ shelf ∈ ofFolder? (some "t"), shelf.IsOpen misnamed) ∧ ∃ ts,
    listFrom misnamed (ofFolder? (some "t")) = .ok ts ∧ (ts.map Template.id).Nodup ∧
      ∃ look, (∀ id, getFrom? misnamed id (ofFolder? (some "t")) = .ok (look id) ∨ look id = none ∧
        ∃ why, getFrom? misnamed id (ofFolder? (some "t")) = .error (.outOfReach why)) ∧
        ¬ Agrees look ts := by
  have hplain : misnamed.IsPlain := Folder.isPlain_ofFiles (by decide)
  have hopen : ∀ shelf ∈ ofFolder? (some "t"), shelf.IsOpen misnamed := by
    intro shelf hshelf
    rcases List.mem_pair.1 hshelf with rfl | rfl
    · exact ⟨fun _ => by decide +kernel, by decide +kernel⟩
    · trivial
  have hlisted : (listFrom misnamed (ofFolder? (some "t"))).isOk = true := by decide +kernel
  have hread : ((read misnamed ((ofText "t").child ("a" ++ extension))).toOption.bind Template.id) =
      some "b" := by decide +kernel
  have hname : "a" ++ extension ∈ misnamed.childNames (ofText "t") := by decide +kernel
  cases h : listFrom misnamed (ofFolder? (some "t")) with
  | error fault =>
    rw [h] at hlisted
    cases hlisted
  | ok ts =>
    obtain ⟨hnodup, look, hlook, hiff⟩ := agrees_iff hplain hopen h
    refine ⟨hplain, hopen, ts, rfl, hnodup, look, hlook, fun hagrees => ?_⟩
    have hnamed := (hiff.1 hagrees (.folder (ofText "t")) (by simp [ofFolder?])).2
    cases ht : read misnamed ((ofText "t").child ("a" ++ extension)) with
    | error fault =>
      rw [ht] at hread
      cases hread
    | ok t =>
      rw [ht] at hread
      have hid : t.id = some "b" := hread
      have hother : t.id = some "a" := hnamed "a" t ⟨hname, ht⟩
      rw [hid] at hother
      exact absurd hother (by decide)

end Shelf

end FlexForm
