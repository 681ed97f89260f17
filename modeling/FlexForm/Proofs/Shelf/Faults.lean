import FlexForm.Proofs.Schema.Patterns
import FlexForm.Proofs.Shelf.Lookup
import FlexForm.Proofs.Shelf.Stores

/-! # Where looking up a template stops

Looking up goes from shelf to shelf until a template is found. It stops at the record of a file that
has a huge pattern, or at a folder that cannot be asked for the id, when no shelf before has a
template with the id.

* `Template.ofRecord_stops`: where the reading of a record stops.
* `Shelf.Keeps`: the record in the file that is called by an id.
* `Shelf.require_stops`, `Shelf.require_outOfReach`: where looking up stops.
-/

namespace FlexForm
set_option autoImplicit false

theorem Template.ofRecord_stops {v : Json} :
    (∃ why, ofRecord v = .error (.stopped why)) ↔
      ∃ source, HasPattern source v ∧ Pattern.IsHuge source := by
  rw [← stops_load, Checked.Stops, ofRecord]
  cases load v <;> simp

namespace Shelf

variable {f : Folder} {place l : Location} {id : String} {shelf : Shelf} {shelves : List Shelf}

/-- The record in the file that is called by the id right in the folder, with its id. -/
def Keeps (f : Folder) (place : Location) (id : String) (record : Json) : Prop :=
  ¬ MeetsNul place id ∧ ∃ content v, LeadsToFile f place id content ∧ readJson content = .ok v ∧
    record = withId (place.child (id ++ extension)).stem v

theorem ofContent_stops {content : String} : (∃ why, ofContent l content = .error (.stopped why)) ↔
    ∃ v, readJson content = .ok v ∧
      ∃ why, Template.ofRecord (withId l.stem v) = .error (.stopped why) := by
  unfold ofContent
  split
  next hread => simp [hread]
  next v hread => simp [hread]

theorem get?_stops : (∃ why, shelf.get? f id = .error (.stopped why)) ↔
    ∃ place record source, shelf = .folder place ∧ Keeps f place id record ∧
      Template.HasPattern source record ∧ Pattern.IsHuge source := by
  cases shelf with
  | catalog => simp [get?]
  | folder place =>
    have hkeeps : (∃ why, get? f id (.folder place) = .error (.stopped why)) ↔
        ∃ record, Keeps f place id record ∧
          ∃ why, Template.ofRecord record = .error (.stopped why) := by
      constructor
      · rintro ⟨why, hstops⟩
        obtain ⟨content, hnul, hfile⟩ : ∃ content, ¬ MeetsNul place id ∧
            LeadsToFile f place id content :=
          exists_leadsToFile (by simp [hstops]) (by simp [hstops])
        rw [get?_of_leadsToFile hnul hfile, map_some_eq_error] at hstops
        obtain ⟨v, hv, hstops⟩ := ofContent_stops.1 ⟨why, hstops⟩
        exact ⟨_, ⟨hnul, content, v, hfile, hv, rfl⟩, hstops⟩
      · rintro ⟨_, ⟨hnul, content, v, hfile, hv, rfl⟩, hstops⟩
        simp only [get?_of_leadsToFile hnul hfile, map_some_eq_error]
        exact ofContent_stops.2 ⟨v, hv, hstops⟩
    rw [hkeeps]
    simp only [Template.ofRecord_stops]
    constructor
    · rintro ⟨record, hkeeps, source, h⟩
      exact ⟨place, record, source, rfl, hkeeps, h⟩
    · rintro ⟨_, record, source, ⟨⟩, hkeeps, h⟩
      exact ⟨record, hkeeps, source, h⟩

/-- A fault is one of the first shelf that has more to say than that there is nothing. -/
theorem getFrom?_eq_error {fault : TemplateFault} : getFrom? f id shelves = .error fault ↔
    ∃ before shelf after, shelves = before ++ shelf :: after ∧
      (∀ other ∈ before, other.get? f id = .ok none) ∧ shelf.get? f id = .error fault := by
  have hfirst : getFrom? f id shelves = .error fault ↔ _ := Store.first?_eq_iff (by simp)
  rw [hfirst]
  constructor
  · rintro ⟨_, _, _, hstores, hbefore, hget⟩
    obtain ⟨before, rest, rfl, rfl, hrest⟩ := List.map_eq_append_iff.1 hstores
    obtain ⟨shelf, after, rfl, rfl, rfl⟩ := List.map_eq_cons_iff.1 hrest
    exact ⟨before, shelf, after, rfl, List.forall_mem_map.1 hbefore, hget⟩
  · rintro ⟨before, shelf, after, rfl, hbefore, hget⟩
    refine ⟨before.map (store f), store f shelf, after.map (store f), ?_, ?_, hget⟩
    · rw [List.map_append, List.map_cons]
    · exact List.forall_mem_map.2 hbefore

theorem require_eq_error {fault : TemplateFault} (hfault : fault ≠ .notFound id) :
    require f shelves id = .error fault ↔ getFrom? f id shelves = .error fault := by
  rw [require, bind_eq_error_iff, or_iff_left]
  rintro ⟨_ | t, -, h⟩
  · exact hfault (Except.error.inj h).symm
  · cases h

/-- A kind of fault comes from a shelf behind ones that have nothing for the id. -/
theorem require_faults {α : Type} {kind : α → TemplateFault} (hkind : ∀ why, kind why ≠ .notFound id) :
    (∃ why, require f shelves id = .error (kind why)) ↔
      ∃ before shelf after, shelves = before ++ shelf :: after ∧
        (∀ other ∈ before, other.get? f id = .ok none) ∧
        ∃ why, shelf.get? f id = .error (kind why) := by
  constructor
  · rintro ⟨why, h⟩
    rw [require_eq_error (hkind why), getFrom?_eq_error] at h
    obtain ⟨before, shelf, after, rfl, hbefore, hget⟩ := h
    exact ⟨before, shelf, after, rfl, hbefore, why, hget⟩
  · rintro ⟨before, shelf, after, rfl, hbefore, why, hget⟩
    refine ⟨why, ?_⟩
    rw [require_eq_error (hkind why), getFrom?_eq_error]
    exact ⟨before, shelf, after, rfl, hbefore, hget⟩

/-- Looking up stops at a folder whose file for the id has a huge pattern, when no shelf before it
has a file or a template for the id. -/
theorem require_stops : (∃ why, require f shelves id = .error (.stopped why)) ↔
    ∃ before place after record source, shelves = before ++ .folder place :: after ∧
      (∀ other ∈ before, other.get? f id = .ok none) ∧ Keeps f place id record ∧
      Template.HasPattern source record ∧ Pattern.IsHuge source := by
  rw [require_faults (by simp)]
  constructor
  · rintro ⟨before, shelf, after, rfl, hbefore, hget⟩
    obtain ⟨place, record, source, rfl, h⟩ := get?_stops.1 hget
    exact ⟨before, place, after, record, source, rfl, hbefore, h⟩
  · rintro ⟨before, place, after, record, source, rfl, hbefore, h⟩
    exact ⟨before, _, after, rfl, hbefore, get?_stops.2 ⟨place, record, source, rfl, h⟩⟩

/-- Looking up stops at a folder that cannot be asked for the id, when no shelf before it has a file
or a template for the id. -/
theorem require_outOfReach : (∃ why, require f shelves id = .error (.outOfReach why)) ↔
    ∃ before place after, shelves = before ++ .folder place :: after ∧
      (∀ other ∈ before, other.get? f id = .ok none) ∧ IsOutOfReach f place id := by
  rw [require_faults (by simp)]
  constructor
  · rintro ⟨before, shelf, after, rfl, hbefore, hget⟩
    obtain ⟨place, rfl, h⟩ := get?_outOfReach.1 hget
    exact ⟨before, place, after, rfl, hbefore, h⟩
  · rintro ⟨before, place, after, rfl, hbefore, h⟩
    exact ⟨before, _, after, rfl, hbefore, get?_outOfReach.2 ⟨place, rfl, h⟩⟩

end Shelf

end FlexForm
