import FlexForm.Proofs.Overlay.Merge
import FlexForm.Proofs.Record.Stop
import FlexForm.Proofs.Steps
import FlexForm.Settings.Source

/-! # Faults of settings

Settings that are refused come with a report: the place that is missing or cannot be read, or all
complaints about the values. Three kinds of faults pass by the report. A path may be too long to ask
for a file there; a list or a table where the name of a zone belongs stops the look-up of the name,
before anything is complained about; and where there is no file, the text of a variable is read
outside of the report.

* `Settings.SourceFault.isReported`: the faults that are reports.
* `Settings.get?_ofVariables`: what the environment has for a setting.
* `Settings.load_error_cases`: the faults of values.
* `Settings.unreported_iff`: the sources with a fault that is no report.
-/

namespace FlexForm
set_option autoImplicit false

namespace Settings

open Load Checked

/-- The fault says what is wrong with the file or with the values. -/
def SourceFault.isReported : SourceFault → Bool
  | .absent _ | .refusedFile _ | .unreadable _ _ => true
  | .values _ | .noJson _ | .outOfReach _ => false

/-! ## Loading -/

variable {values : List (String × Json)} {fault : Fault}

theorem not_stops_integerIn (least : ℤ) (most : Option ℤ) (v : Json) :
    ¬ (integerIn least most v).Stops := by
  unfold integerIn
  rw [stops_andThen_of_yields]
  · exact not_stops_integer v
  · intro n _
    split
    next => exact not_stops_fail _ _
    next =>
      split
      next => split <;> simp
      next => exact not_stops_ok n

theorem not_stops_loadZone (v : Json) : ¬ (loadZone v).Stops := by
  unfold loadZone
  split
  next s =>
    dsimp only
    split
    next => exact not_stops_ok s
    next => exact not_stops_fail _ _
  next => exact not_stops_fail _ _

theorem not_stops_loadRender (v : Json) : ¬ (loadRender v).Stops := by
  simp [loadRender, stops_record, not_stops_integerIn]

theorem not_stops_loadWeb (v : Json) : ¬ (loadWeb v).Stops := by
  simp [loadWeb, stops_record, not_stops_integerIn]

theorem not_stops_noOthers (values : List (String × Json)) : ¬ (noOthers values).Stops := by
  simp [noOthers]

/-- No setting holds a pattern, so the reading of settings never stops. -/
theorem not_stops_loadFields (values : List (String × Json)) : ¬ (loadFields values).Stops := by
  simp [loadFields, not_stops_loadZone, not_stops_loadRender, not_stops_loadWeb,
    not_stops_noOthers, stops_nullable]

/-- Either all complaints are reported, or the look-up of a zone stops. -/
theorem load_error_cases (h : load values = .error fault) :
    (∃ complaints, fault = .refused complaints) ∨
      ∃ v, Fields.get? values "timezone" = some v ∧ v.isContainer = true ∧
        fault = .noName v.typeName := by
  unfold load at h
  split at h
  next items hzone =>
    cases h
    exact .inr ⟨_, hzone, rfl, rfl⟩
  next fields hzone =>
    cases h
    exact .inr ⟨_, hzone, rfl, rfl⟩
  next =>
    split at h
    next => cases h
    next complaints _ =>
      cases h
      exact .inl ⟨complaints, rfl⟩
    next why hstopped => exact absurd ⟨why, hstopped⟩ (not_stops_loadFields values)

theorem load_of_isContainer {v : Json} (hzone : Fields.get? values "timezone" = some v)
    (hv : v.isContainer = true) : load values = .error (.noName v.typeName) := by
  unfold load
  rw [hzone]
  cases v with
  | arr items => rfl
  | obj fields => rfl
  | null | bool | int | float | str => cases hv

theorem load_of_not_isContainer (hzone : ∀ v, Fields.get? values "timezone" = some v →
    v.isContainer = false) (h : load values = .error fault) :
    ∃ complaints, fault = .refused complaints := by
  rcases load_error_cases h with h | ⟨v, hv, hcontainer, -⟩
  · exact h
  · rw [hzone v hv] at hcontainer
    cases hcontainer

/-! ## The environment -/

section
variable {value : String → Except SourceFault (Option Json)} {settings : List String}
  {rows : List (Option (String × Json))}

/-- The setting with its value, if it has one. -/
def IsRow (value : String → Except SourceFault (Option Json)) (setting : String)
    (row : Option (String × Json)) : Prop :=
  ∃ v?, value setting = .ok v? ∧ row = v?.map fun v => (setting, v)

theorem sublist_keys_rows (h : List.Forall₂ (IsRow value) settings rows) :
    (Fields.keys (rows.filterMap id)).Sublist settings := by
  induction h with
  | nil => exact .refl []
  | cons hrow _ ih =>
    obtain ⟨v?, -, rfl⟩ := hrow
    cases v? with
    | none => exact ih.cons _
    | some v => exact ih.cons_cons _

theorem get?_rows (h : List.Forall₂ (IsRow value) settings rows) (hnodup : settings.Nodup)
    {setting : String} (hmem : setting ∈ settings) :
    value setting = .ok (Fields.get? (rows.filterMap id) setting) := by
  induction h with
  | nil => cases hmem
  | @cons first row rest others hrow hrest ih =>
    obtain ⟨v?, hvalue, rfl⟩ := hrow
    rw [List.nodup_cons] at hnodup
    rcases List.mem_cons.1 hmem with rfl | hmem
    · rw [hvalue]
      cases v? with
      | none =>
        rw [Option.map_none, List.filterMap_cons_none rfl, Fields.get?_eq_none_of_not_mem
          fun hkey => hnodup.1 ((sublist_keys_rows hrest).subset hkey)]
      | some v =>
        rw [Option.map_some, List.filterMap_cons_some (f := id) rfl, Fields.get?_cons, if_pos rfl]
    · have hne : first ≠ setting := fun heq => hnodup.1 (heq ▸ hmem)
      rw [ih hnodup.2 hmem]
      cases v? with
      | none => rw [Option.map_none, List.filterMap_cons_none rfl]
      | some v =>
        rw [Option.map_some, List.filterMap_cons_some (f := id) rfl, Fields.get?_cons, if_neg hne]

end

variable {environment : Environment} {found : List (String × Json)}

theorem exists_rows (h : ofVariables environment = .ok found) : ∃ rows,
    List.Forall₂ (IsRow (variableValue (lowered environment))) names rows ∧
      found = rows.filterMap id := by
  unfold ofVariables at h
  obtain ⟨rows, hrows, h⟩ := exists_of_bind_ok h
  refine ⟨rows, (forall₂_of_mapM_ok hrows).imp fun setting row hrow => ?_, (Except.ok.inj h).symm⟩
  obtain ⟨v?, hvalue, hrow⟩ := exists_of_bind_ok hrow
  exact ⟨v?, hvalue, (Except.ok.inj hrow).symm⟩

theorem nodup_keys_ofVariables (h : ofVariables environment = .ok found) :
    (Fields.keys found).Nodup := by
  obtain ⟨rows, hrows, rfl⟩ := exists_rows h
  exact (sublist_keys_rows hrows).nodup (by decide)

/-- What is found in the environment for a setting is the value of its variables. -/
theorem get?_ofVariables (h : ofVariables environment = .ok found) {setting : String}
    (hmem : setting ∈ names) :
    variableValue (lowered environment) setting = .ok (Fields.get? found setting) := by
  obtain ⟨rows, hrows, rfl⟩ := exists_rows h
  exact get?_rows hrows (by decide) hmem

/-- The variable of a group of settings holds no JSON text. -/
def IsGarbled (environment : Environment) (setting : String) : Prop :=
  (groups.lookup setting).isSome = true ∧ ∃ text why,
    Fields.get? (lowered environment) (variableStart ++ setting) = some text ∧
      Json.read true text = .error why

theorem variableValue_error_iff {setting : String} {fault : SourceFault} :
    variableValue (lowered environment) setting = .error fault ↔
      IsGarbled environment setting ∧ fault = .noJson setting := by
  unfold variableValue IsGarbled
  cases groups.lookup setting with
  | none => simp
  | some names =>
    unfold groupValue
    dsimp only
    cases Fields.get? (lowered environment) (variableStart ++ setting) with
    | none => simp
    | some text =>
      cases hread : Json.read true text with
      | error why => simp [hread, eq_comm]
      | ok v => cases v <;> simp [hread]

/-- Reading the environment fails only where the variable of a group is garbled. -/
theorem ofVariables_error_cases {fault : SourceFault} (h : ofVariables environment = .error fault) :
    ∃ setting, IsGarbled environment setting ∧ fault = .noJson setting := by
  unfold ofVariables at h
  rcases bind_eq_error_iff.1 h with h | ⟨rows, -, h⟩
  · obtain ⟨setting, -, h⟩ := exists_of_mapM_error h
    rcases bind_eq_error_iff.1 h with h | ⟨v?, -, h⟩
    · exact ⟨setting, variableValue_error_iff.1 h⟩
    · cases h
  · cases h

theorem not_isGarbled_of_ofVariables (h : ofVariables environment = .ok found) (setting : String) :
    ¬ IsGarbled environment setting := by
  intro hgarbled
  have hmem : setting ∈ names := by
    have hgroup := hgarbled.1
    simp only [groups, List.lookup_cons] at hgroup
    split at hgroup
    next heq => rw [beq_iff_eq.1 heq]; decide
    next =>
      split at hgroup
      next heq => rw [beq_iff_eq.1 heq]; decide
      next => cases hgroup
  have hfault := variableValue_error_iff.2 ⟨hgarbled, rfl⟩
  rw [get?_ofVariables h hmem] at hfault
  cases hfault

theorem exists_found_iff : (∃ found, ofVariables environment = .ok found) ↔
    ∀ setting, ¬ IsGarbled environment setting := by
  constructor
  · rintro ⟨found, h⟩
    exact not_isGarbled_of_ofVariables h
  · intro hnone
    cases h : ofVariables environment with
    | ok found => exact ⟨found, rfl⟩
    | error fault =>
      obtain ⟨setting, hgarbled, -⟩ := ofVariables_error_cases h
      exact absurd hgarbled (hnone setting)

/-! ## The zone -/

theorem get?_zone (h : ofVariables environment = .ok found) : Fields.get? found "timezone" =
    (Fields.get? (lowered environment) (variableStart ++ "timezone")).map Json.str := by
  have hmem : "timezone" ∈ names := by decide
  exact (Except.ok.inj (get?_ofVariables h hmem)).symm

/-- A list or a table for the zone stays one exactly if no variable has a text for it. -/
theorem zone_merged_iff (h : ofVariables environment = .ok found) :
    (∃ v, Fields.get? (Json.mergeFields values found) "timezone" = some v ∧
      v.isContainer = true) ↔
    (∃ v, Fields.get? values "timezone" = some v ∧ v.isContainer = true) ∧
      Fields.get? (lowered environment) (variableStart ++ "timezone") = none := by
  rw [Json.get?_mergeFields (nodup_keys_ofVariables h), get?_zone h]
  cases Fields.get? (lowered environment) (variableStart ++ "timezone") with
  | none => simp
  | some text =>
    cases Fields.get? values "timezone" with
    | none => simp [Json.isContainer]
    | some old => simp [Json.isContainer, Json.merge]

/-! ## Files -/

variable {folder : Folder} {place : String}

/-- The file has a list or a table for the zone, and no variable has a text for it. -/
def LacksZoneName (folder : Folder) (environment : Environment) (place : String) : Prop :=
  ∃ values, readFile folder place = .ok values ∧
    (∃ v, Fields.get? values "timezone" = some v ∧ v.isContainer = true) ∧
    Fields.get? (lowered environment) (variableStart ++ "timezone") = none

theorem isReported_of_readFile {fault : SourceFault} (h : readFile folder place = .error fault) :
    fault.isReported = true := by
  unfold readFile at h
  split at h
  next => cases h
  next =>
    split at h <;> cases h
    rfl

/-- The settings from the values of a file, and the environment. -/
def ofValues (environment : Environment) (place : String) (values : List (String × Json)) :
    Except SourceFault Settings :=
  match ofVariables environment with
  | .error fault => .error (.unreadable place fault.message)
  | .ok found =>
    match load (Json.mergeFields values found) with
    | .ok s => .ok s
    | .error (.refused complaints) => .error (.refusedFile complaints)
    | .error fault => .error (.values fault)

theorem ofFile_of_tooLong (h : folder.tooLong (.ofText place) = true) :
    ofFile folder environment place =
      .error (.outOfReach (.tooLong (Location.ofText place).text)) := by
  unfold ofFile
  rw [if_pos h]
  rfl

theorem ofFile_of_absent (hshort : folder.tooLong (.ofText place) = false)
    (h : folder.existsAt (.ofText place) = false) :
    ofFile folder environment place = .error (.absent place) := by
  unfold ofFile
  rw [hshort, h]
  rfl

theorem ofFile_of_exists (hshort : folder.tooLong (.ofText place) = false)
    (h : folder.existsAt (.ofText place) = true) :
    ofFile folder environment place = readFile folder place >>= ofValues environment place := by
  unfold ofFile
  rw [hshort, h]
  rfl

/-- The only fault of values that is not reported is that of a zone without a name. -/
theorem ofValues_error_cases {fault : SourceFault}
    (h : ofValues environment place values = .error fault) (hreported : fault.isReported = false) :
    (∃ found, ofVariables environment = .ok found) ∧
      (∃ v, Fields.get? values "timezone" = some v ∧ v.isContainer = true) ∧
      Fields.get? (lowered environment) (variableStart ++ "timezone") = none := by
  unfold ofValues at h
  split at h
  next =>
    cases h
    cases hreported
  next found hfound =>
    refine ⟨⟨found, hfound⟩, (zone_merged_iff hfound).1 ?_⟩
    split at h
    next => cases h
    next =>
      cases h
      cases hreported
    next why hne hload =>
      rcases load_error_cases hload with ⟨complaints, rfl⟩ | ⟨v, hv, hcontainer, -⟩
      · exact absurd rfl (hne complaints)
      · exact ⟨v, hv, hcontainer⟩

theorem ofFile_unreported_iff :
    (∃ fault, ofFile folder environment place = .error fault ∧ fault.isReported = false) ↔
      folder.tooLong (.ofText place) = true ∨
        folder.existsAt (.ofText place) = true ∧ LacksZoneName folder environment place ∧
          ∀ setting, ¬ IsGarbled environment setting := by
  rw [← exists_found_iff]
  constructor
  · rintro ⟨fault, h, hreported⟩
    cases hlong : folder.tooLong (.ofText place) with
    | true => exact .inl rfl
    | false =>
      refine .inr ?_
      cases hplace : folder.existsAt (.ofText place) with
      | false =>
        rw [ofFile_of_absent hlong hplace] at h
        cases h
        cases hreported
      | true =>
        rw [ofFile_of_exists hlong hplace] at h
        rcases bind_eq_error_iff.1 h with h | ⟨values, hread, h⟩
        · rw [isReported_of_readFile h] at hreported
          cases hreported
        · obtain ⟨hfound, hzone⟩ := ofValues_error_cases h hreported
          exact ⟨rfl, ⟨values, hread, hzone⟩, hfound⟩
  · intro h
    cases hlong : folder.tooLong (.ofText place) with
    | true => exact ⟨_, ofFile_of_tooLong hlong, rfl⟩
    | false =>
      rw [hlong] at h
      obtain hfalse | ⟨hplace, ⟨values, hread, hzone⟩, found, hfound⟩ := h
      · cases hfalse
      · obtain ⟨v, hv, hcontainer⟩ := (zone_merged_iff hfound).2 hzone
        refine ⟨.values (.noName v.typeName), ?_, rfl⟩
        rw [ofFile_of_exists hlong hplace, hread]
        show ofValues environment place values = _
        unfold ofValues
        rw [hfound]
        dsimp only
        rw [load_of_isContainer hv hcontainer]

/-! ## Defaults -/

/-- Without a file, the zone has a text or no value at all, and only the groups can fail. -/
theorem ofGiven_error_cases {fault : SourceFault} (h : ofGiven environment [] = .error fault) :
    (∃ complaints, fault = .values (.refused complaints)) ∨
      ∃ setting, IsGarbled environment setting ∧ fault = .noJson setting := by
  unfold ofGiven at h
  rcases bind_eq_error_iff.1 h with h | ⟨found, hfound, h⟩
  · exact .inr (ofVariables_error_cases h)
  · refine .inl ?_
    have hzone : ∀ v, Fields.get? found "timezone" = some v → v.isContainer = false := by
      intro v hv
      rw [get?_zone hfound] at hv
      obtain ⟨text, -, rfl⟩ := Option.map_eq_some_iff.1 hv
      rfl
    split at h
    next => cases h
    next why hload =>
      cases h
      obtain ⟨complaints, rfl⟩ := load_of_not_isContainer hzone hload
      exact ⟨complaints, rfl⟩

theorem ofGiven_of_isGarbled {setting : String} (h : IsGarbled environment setting) :
    ∃ other, ofGiven environment [] = .error (.noJson other) := by
  cases hfound : ofVariables environment with
  | ok found => exact absurd h (not_isGarbled_of_ofVariables hfound setting)
  | error fault =>
    obtain ⟨other, -, rfl⟩ := ofVariables_error_cases hfound
    refine ⟨other, ?_⟩
    unfold ofGiven
    rw [hfound]
    rfl

theorem tooLong_empty (folder : Folder) : folder.tooLong (.ofText "") = false := by
  have htext : ¬ Location.textLimit < (Location.ofText "").text.utf8ByteSize := by decide
  have hnames : (Location.ofText "").names = [] := by decide
  simp [Folder.tooLong, htext, hnames, Folder.meetsLong]

theorem ofFileOrDefaults_of_file (hplace : place ≠ "")
    (h : folder.tooLong (.ofText place) = true ∨ folder.existsAt (.ofText place) = true) :
    ofFileOrDefaults folder environment place = ofFile folder environment place := by
  unfold ofFileOrDefaults
  rw [if_pos (by simpa using ⟨hplace, h⟩)]

theorem ofDefaults_unreported_iff (hshort : folder.tooLong (.ofText place) = false)
    (h : ¬ (place ≠ "" ∧ folder.existsAt (.ofText place) = true)) :
    (∃ fault, ofFileOrDefaults folder environment place = .error fault ∧
      fault.isReported = false) ↔ ∃ setting, IsGarbled environment setting := by
  unfold ofFileOrDefaults
  rw [if_neg (by simpa [hshort] using h)]
  constructor
  · rintro ⟨fault, hfault, hreported⟩
    split at hfault
    next =>
      cases hfault
      cases hreported
    next hne =>
      rcases ofGiven_error_cases hfault with ⟨complaints, rfl⟩ | ⟨setting, hgarbled, -⟩
      · exact absurd hfault (hne complaints)
      · exact ⟨setting, hgarbled⟩
  · rintro ⟨setting, hgarbled⟩
    obtain ⟨other, hother⟩ := ofGiven_of_isGarbled hgarbled
    rw [hother]
    exact ⟨_, rfl, rfl⟩

/-- Loading the settings ends in settings, or in a report of what is wrong, but for three cases: a
path that is too long, a file with a list or a table for the zone, and no file but a group of
settings with a garbled variable. -/
theorem unreported_iff (folder : Folder) (environment : Environment) (place : String) :
    ((∃ fault, ofFile folder environment place = .error fault ∧ fault.isReported = false) ↔
      folder.tooLong (.ofText place) = true ∨
        folder.existsAt (.ofText place) = true ∧ LacksZoneName folder environment place ∧
          ∀ setting, ¬ IsGarbled environment setting) ∧
    ((∃ fault, ofFileOrDefaults folder environment place = .error fault ∧
        fault.isReported = false) ↔
      folder.tooLong (.ofText place) = true ∨
        if place ≠ "" ∧ folder.existsAt (.ofText place) = true then
          LacksZoneName folder environment place ∧ ∀ setting, ¬ IsGarbled environment setting
        else ∃ setting, IsGarbled environment setting) := by
  refine ⟨ofFile_unreported_iff, ?_⟩
  cases hlong : folder.tooLong (.ofText place) with
  | true =>
    have hplace : place ≠ "" := by
      rintro rfl
      rw [tooLong_empty] at hlong
      cases hlong
    rw [ofFileOrDefaults_of_file hplace (.inl hlong), ofFile_unreported_iff]
    simp only [hlong, true_or]
  | false =>
    rw [Bool.false_eq_true, false_or]
    split
    next h =>
      rw [ofFileOrDefaults_of_file h.1 (.inr h.2), ofFile_unreported_iff]
      simp only [hlong, Bool.false_eq_true, false_or, h.2, true_and]
    next h => exact ofDefaults_unreported_iff hlong h

/-- The list is no name, and nothing says so but the fault itself. -/
example : (match ofFile (.ofFiles [("settings.toml", "timezone = []")]) [] "settings.toml" with
    | .ok _ => true
    | .error fault => fault.isReported) = false := by
  decide +kernel

/-- Where there is no file, so it is with a variable that holds no JSON text. -/
example : (match ofFileOrDefaults {} [("FLEXSHARE_RENDER", "deep")] "settings.toml" with
    | .ok _ => true
    | .error fault => fault.isReported) = false := by
  decide +kernel

end Settings

end FlexForm
