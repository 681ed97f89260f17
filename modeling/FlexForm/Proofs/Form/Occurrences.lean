import FlexForm.Proofs.Form.Steady
import FlexForm.Proofs.Path.Location
import Mathlib.Data.List.Forall2

/-! # Where the problems of form data are

A schema occurs in form data as often as its lists have items. The occurrences are listed as the
form is laid out, each with the value that is found for it from the object around it. Checking
reports on one after the other, and the path of a report leads to that value from the top.

* `Occurrence`, `FormSchema.occurrences`: what is checked, in order.
* `Occurrence.Reports`: what is said about an occurrence, and where.
* `FormSchema.check_reports`: checking comes to the reports on all occurrences.
-/

namespace FlexForm
set_option autoImplicit false

/-! ## Occurrences -/

/-- What stands at a path, when reading comes to an end there. -/
def Json.found? (v : Json) (path : String) : Option Json := (v.at? path).toOption.join

theorem Json.found?_of_at? {v : Json} {path : String} {found : Option Json}
    (h : v.at? path = .ok found) : v.found? path = found := by
  rw [found?, h]
  cases found <;> rfl

/-- The items of a list; anything else has none. -/
def Json.itemsOf : Option Json → List Json
  | some (.arr items) => items
  | _ => []

theorem Json.at?_of_mem_itemsOf {data : Json} {path : String} {value : Option Json}
    {item : Json × ℕ} (hdata : data.isIndexable = true) (h : data.at? path = .ok value)
    (hmem : item ∈ (itemsOf value).zipIdx) : data.at? s!"{path}[{item.2}]" = .ok (some item.1) := by
  have hitem := List.mem_zipIdx_iff_getElem?.1 hmem
  unfold itemsOf at hitem
  split at hitem
  next => exact at?_item h hdata hitem
  next => cases hitem

theorem Json.itemsOf_of_ne {value : Option Json} (h : ∀ items, value ≠ some (.arr items)) :
    itemsOf value = [] := by
  unfold itemsOf
  split
  next items => exact absurd rfl (h items)
  next => rfl

/-- A field of the object around it, or the list of a section, with the value that is found. -/
inductive Occurrence where
  | field (f : Field) (value : Option Json) (path : String) (scope : Json)
  | list (s : Section) (value : Option Json) (path : String)

mutual

/-- A field, followed by the fields of its items. -/
def Field.occurrences : Field → Option Json → String → Json → List Occurrence
  | .plain info type, value, path, scope => [.field (.plain info type) value path scope]
  | .select info options, value, path, scope => [.field (.select info options) value path scope]
  | .repeatable info title fields, value, path, scope =>
    .field (.repeatable info title fields) value path scope ::
      (Json.itemsOf value).zipIdx.flatMap fun (item, n) =>
        Field.occurrencesAll fields item s!"{path}[{n}]"

/-- The fields of an item at a path. -/
def Field.occurrencesAll : List Field → Json → String → List Occurrence
  | [], _, _ => []
  | f :: rest, item, path =>
    Field.occurrences f (item.found? f.key) s!"{path}.{f.key}" item ++
      Field.occurrencesAll rest item path

end

def Section.occurrences (s : Section) (data : Json) : List Occurrence :=
  match s.body with
  | .plain _ fields => fields.flatMap fun f => f.occurrences (data.found? f.key) f.key data
  | .repeatable key item =>
    .list s (data.found? key) key ::
      (Json.itemsOf (data.found? key)).zipIdx.flatMap fun (v, n) =>
        Field.occurrencesAll item.fields v s!"{key}[{n}]"

def FormSchema.occurrences (schema : FormSchema) (data : Json) : List Occurrence :=
  schema.sections.flatMap fun s => s.occurrences data

/-! ## Reports -/

/-- What is wrong with the number of items of a section. -/
def Section.listFlaws (s : Section) : Option Json → List Flaw
  | some (.arr items) => s.constraints.countFlaws s.label items.length
  | _ =>
    match s.constraints.minItems with
    | some n => if n > 0 then [.tooFew s.label n] else []
    | none => []

namespace Occurrence

def value : Occurrence → Option Json
  | .field _ value _ _ | .list _ value _ => value

def path : Occurrence → String
  | .field _ _ path _ | .list _ _ path => path

/-- The problems of the occurrence itself, without those of the items of a list. -/
def check : Occurrence → Except PathFault (List Problem)
  | .field f value path scope => f.checkWith value path scope fun _ => .ok []
  | .list s value path => .ok ((s.listFlaws value).map fun flaw => ⟨path, flaw, some path⟩)

/-- These are the problems of the occurrence. They lead to its path, at which the data has the
value that was checked. -/
structure Reports (data : Json) (o : Occurrence) (problems : List Problem) : Prop where
  check : o.check = .ok problems
  located : ∀ p ∈ problems, p.path = o.path
  found : data.isIndexable = true → data.at? o.path = .ok o.value

end Occurrence

/-- The problems are those of the occurrences, one after the other. -/
def Reported (data : Json) (os : List Occurrence) (problems : List Problem) : Prop :=
  ∃ own, List.Forall₂ (Occurrence.Reports data) os own ∧ problems = own.flatten

section
variable {α : Type} {data : Json} {os os' : List Occurrence} {problems problems' : List Problem}

theorem Reported.nil : Reported data [] [] := ⟨[], .nil, rfl⟩

theorem Reported.append (h : Reported data os problems) (h' : Reported data os' problems') :
    Reported data (os ++ os') (problems ++ problems') := by
  obtain ⟨own, hown, rfl⟩ := h
  obtain ⟨own', hown', rfl⟩ := h'
  exact ⟨own ++ own', List.rel_append hown hown', List.flatten_append.symm⟩

theorem Reported.cons {o : Occurrence} {own : List Problem} (h : o.Reports data own)
    (hrest : Reported data os problems) : Reported data (o :: os) (own ++ problems) := by
  obtain ⟨others, hothers, rfl⟩ := hrest
  exact ⟨own :: others, .cons h hothers, rfl⟩

theorem Reported.mapM {check : α → Except PathFault (List Problem)}
    {occurrences : α → List Occurrence} {as : List α} {perMember : List (List Problem)}
    (hmember : ∀ a ∈ as, ∀ own, check a = .ok own → Reported data (occurrences a) own)
    (h : as.mapM check = .ok perMember) :
    Reported data (as.flatMap occurrences) perMember.flatten := by
  induction as generalizing perMember with
  | nil =>
    cases h
    exact .nil
  | cons a as ih =>
    rw [List.mapM_cons] at h
    obtain ⟨own, hown, h⟩ := exists_of_bind_ok h
    obtain ⟨others, hothers, h⟩ := exists_of_bind_ok h
    cases h
    obtain ⟨ha, has⟩ := List.forall_mem_cons.1 hmember
    exact (ha own hown).append (ih has hothers)

theorem Reported.items {checkItem : Json → String → Except PathFault (List Problem)}
    {occurrences : Json → String → List Occurrence} {path : String} {start : ℕ} {items : List Json}
    (hitem : ∀ item ∈ items.zipIdx start, ∀ own,
      checkItem item.1 s!"{path}[{item.2}]" = .ok own →
        Reported data (occurrences item.1 s!"{path}[{item.2}]") own)
    (h : Field.checkItems checkItem path start items = .ok problems) :
    Reported data ((items.zipIdx start).flatMap fun (item, n) => occurrences item s!"{path}[{n}]")
      problems := by
  induction items generalizing start problems with
  | nil =>
    cases h
    exact .nil
  | cons item items ih =>
    rw [Field.checkItems] at h
    obtain ⟨own, hown, h⟩ := exists_of_bind_ok h
    obtain ⟨others, hothers, h⟩ := exists_of_bind_ok h
    cases h
    obtain ⟨hfirst, hrest⟩ := List.forall_mem_cons.1 hitem
    exact (hfirst own hown).append (ih hrest hothers)

end

/-! ## Single reports -/

section
variable {f : Field} {value : Option Json} {path : String} {scope : Json}
  {inside : List Json → Except PathFault (List Problem)} {problems : List Problem}

theorem Field.checkWith_congr (h : ∀ items, value ≠ some (.arr items))
    (other : List Json → Except PathFault (List Problem)) :
    f.checkWith value path scope inside = f.checkWith value path scope other := by
  unfold checkWith
  cases value with
  | none => rfl
  | some v =>
    cases v with
    | arr items => exact absurd rfl (h items)
    | null | bool | int | float | str | obj => rfl

/-- A field is required of no list, and its own problems come before those of the items. -/
theorem Field.checkWith_arr {items : List Json}
    (h : f.isRequired (some (.arr items)) scope = .ok false) :
    f.checkWith (some (.arr items)) path scope inside = (do
      let others ← inside items
      pure ((f.flaws (.arr items)).map (fun flaw => ⟨path, flaw, some f.key⟩) ++ others)) := by
  unfold checkWith
  rw [h]
  rfl

theorem Field.checkWith_items (hnil : inside [] = .ok [])
    (h : f.checkWith value path scope inside = .ok problems) :
    ∃ own others, f.checkWith value path scope (fun _ => .ok []) = .ok own ∧
      inside (Json.itemsOf value) = .ok others ∧ problems = own ++ others := by
  by_cases hlist : ∃ items, value = some (.arr items)
  · obtain ⟨items, rfl⟩ := hlist
    obtain ⟨required, hrequired, -⟩ := exists_of_bind_ok h
    obtain rfl := isRequired_filled rfl hrequired
    rw [checkWith_arr hrequired] at h
    obtain ⟨others, hothers, h⟩ := exists_of_bind_ok h
    cases h
    refine ⟨_, others, ?_, hothers, rfl⟩
    rw [checkWith_arr hrequired]
    exact congrArg Except.ok (List.append_nil _)
  · have hne : ∀ items, value ≠ some (.arr items) := not_exists.1 hlist
    refine ⟨problems, [], ?_, Json.itemsOf_of_ne hne ▸ hnil, (List.append_nil _).symm⟩
    rw [← h]
    exact checkWith_congr hne _

theorem Field.exists_flaws_of_checkWith {own : List Problem}
    (h : f.checkWith value path scope (fun _ => .ok []) = .ok own) :
    ∃ flaws : List Flaw, own = flaws.map fun flaw => ⟨path, flaw, some f.key⟩ := by
  obtain ⟨required, -, h⟩ := exists_of_bind_ok h
  split at h
  next =>
    cases h
    exact ⟨[.required f.label], rfl⟩
  next =>
    split at h
    next =>
      cases h
      exact ⟨[], rfl⟩
    next =>
      split at h
      next =>
        cases h
        exact ⟨[], rfl⟩
      next =>
        split at h
        next =>
          cases h
          exact ⟨f.flaws _, List.append_nil _⟩
        next =>
          cases h
          exact ⟨f.flaws _, rfl⟩

theorem Occurrence.reports_field {data : Json} {own : List Problem}
    (hfound : data.isIndexable = true → data.at? path = .ok value)
    (h : f.checkWith value path scope (fun _ => .ok []) = .ok own) :
    (Occurrence.field f value path scope).Reports data own := by
  refine ⟨h, ?_, hfound⟩
  intro p hp
  obtain ⟨flaws, rfl⟩ := Field.exists_flaws_of_checkWith h
  obtain ⟨flaw, -, rfl⟩ := List.mem_map.1 hp
  rfl

theorem Occurrence.reports_list {data : Json} {s : Section}
    (hfound : data.isIndexable = true → data.at? path = .ok value) :
    (Occurrence.list s value path).Reports data
      ((s.listFlaws value).map fun flaw => ⟨path, flaw, some path⟩) := by
  refine ⟨rfl, ?_, hfound⟩
  intro p hp
  obtain ⟨flaw, -, rfl⟩ := List.mem_map.1 hp
  rfl

end

/-! ## Fields -/

section
variable {data : Json}

mutual

theorem Field.check_reported {f : Field} {value : Option Json} {path : String} {scope : Json}
    {problems : List Problem} (hfound : data.isIndexable = true → data.at? path = .ok value)
    (h : f.check value path scope = .ok problems) :
    Reported data (f.occurrences value path scope) problems := by
  match f with
  | .plain info type | .select info options =>
    rw [check] at h
    rw [occurrences]
    have hown := Reported.cons (Occurrence.reports_field hfound h) .nil
    rwa [List.append_nil] at hown
  | .repeatable info title fields =>
    rw [check] at h
    rw [occurrences]
    obtain ⟨own, others, hown, hothers, rfl⟩ := checkWith_items rfl h
    -- the value of the list is at its path from the top, so its items are at theirs
    refine .cons (Occurrence.reports_field hfound hown) (.items ?_ hothers)
    intro item hmem ps hps
    have hitem (hdata : data.isIndexable = true) :
        data.at? s!"{path}[{item.2}]" = .ok (some item.1) :=
      Json.at?_of_mem_itemsOf hdata (hfound hdata) hmem
    exact checkAll_reported hitem hps

theorem Field.checkAll_reported {fields : List Field} {item : Json} {path : String}
    {problems : List Problem}
    (hfound : data.isIndexable = true → data.at? path = .ok (some item))
    (h : checkAll fields item path = .ok problems) :
    Reported data (occurrencesAll fields item path) problems := by
  match fields with
  | [] =>
    cases h
    exact .nil
  | f :: rest =>
    rw [checkAll] at h
    obtain ⟨value, hvalue, h⟩ := exists_of_bind_ok h
    obtain ⟨own, hown, h⟩ := exists_of_bind_ok h
    obtain ⟨others, hothers, h⟩ := exists_of_bind_ok h
    cases h
    rw [occurrencesAll, Json.found?_of_at? hvalue]
    have hplace (hdata : data.isIndexable = true) : data.at? s!"{path}.{f.key}" = .ok value :=
      (Json.at?_dot (hfound hdata)).trans hvalue
    exact (check_reported hplace hown).append (checkAll_reported hfound hothers)

end

/-! ## Sections and forms -/

theorem Section.listFlaws_of_ne {s : Section} {value : Option Json}
    (h : ∀ items, value ≠ some (.arr items)) :
    s.listFlaws value = match s.constraints.minItems with
      | some n => if n > 0 then [.tooFew s.label n] else []
      | none => [] := by
  unfold listFlaws
  split
  next items => exact absurd rfl (h items)
  next => rfl

/-- The number of items is judged first, and a value that is no list has none. -/
theorem Section.check_repeatable {s : Section} {key : String} {item : ItemSchema}
    {problems : List Problem} (hbody : s.body = .repeatable key item)
    (h : s.check data = .ok problems) :
    ∃ value others, data.at? key = .ok value ∧
      Field.checkItems (Field.checkAll item.fields) key 0 (Json.itemsOf value) = .ok others ∧
      problems = (s.listFlaws value).map (fun flaw => ⟨key, flaw, some key⟩) ++ others := by
  simp only [check, hbody] at h
  obtain ⟨value, hvalue, h⟩ := exists_of_bind_ok h
  split at h
  next items =>
    obtain ⟨others, hothers, h⟩ := exists_of_bind_ok h
    cases h
    exact ⟨some (.arr items), others, hvalue, hothers, rfl⟩
  next hne =>
    have hitems : Json.itemsOf value = [] := Json.itemsOf_of_ne hne
    refine ⟨value, [], hvalue, by rw [hitems]; rfl, ?_⟩
    rw [List.append_nil, listFlaws_of_ne hne]
    cases hmin : s.constraints.minItems with
    | none =>
      simp only [hmin] at h
      cases h
      rfl
    | some n =>
      simp only [hmin] at h
      cases h
      simp only
      split <;> rfl

theorem Section.check_reported {s : Section} {problems : List Problem}
    (h : s.check data = .ok problems) : Reported data (s.occurrences data) problems := by
  cases hbody : s.body with
  | plain key fields =>
    simp only [check, hbody] at h
    simp only [occurrences, hbody]
    obtain ⟨perField, hperField, h⟩ := exists_of_bind_ok h
    cases h
    refine .mapM (fun f hf own hown => ?_) hperField
    obtain ⟨value, hvalue, hown⟩ := exists_of_bind_ok hown
    rw [Json.found?_of_at? hvalue]
    exact Field.check_reported (fun _ => hvalue) hown
  | repeatable key item =>
    obtain ⟨value, others, hvalue, hothers, rfl⟩ := check_repeatable hbody h
    simp only [occurrences, hbody, Json.found?_of_at? hvalue]
    refine .cons (Occurrence.reports_list fun _ => hvalue) (.items ?_ hothers)
    intro v hmem own hown
    exact Field.checkAll_reported (fun hdata => Json.at?_of_mem_itemsOf hdata hvalue hmem) hown

/-- Checking a form reports on all its occurrences in the data, in the order in which they stand
there. Each report has the path at which the checked value is found, however deep that is. -/
theorem FormSchema.check_reports {schema : FormSchema} {problems : List Problem}
    (h : schema.check data = .ok problems) :
    ∃ own, List.Forall₂ (Occurrence.Reports data) (schema.occurrences data) own ∧
      problems = own.flatten := by
  obtain ⟨perSection, hperSection, h⟩ := exists_of_bind_ok h
  cases h
  exact Reported.mapM (fun s _ own hown => Section.check_reported hown) hperSection

end

/-- A form with lists inside of lists. -/
def nestedForm : FormSchema where
  sections := [
    { id := "main"
      body := .repeatable "pages"
        { fields := [.repeatable { key := "cta" } "" [
            .plain { key := "style.label", required := true } .text]] } }]

def nestedData : Json := .obj [("pages", .arr [.obj [("cta", .arr [.obj []])]])]

/-- The missing label is reported under its path from the top. -/
theorem FormSchema.check_reports_nested :
    ∃ own, List.Forall₂ (Occurrence.Reports nestedData) (nestedForm.occurrences nestedData) own ∧
      [⟨"pages[0].cta[0].style.label", .required "style.label", some "style.label"⟩] =
        own.flatten := by
  have h : nestedForm.check nestedData =
      .ok [⟨"pages[0].cta[0].style.label", .required "style.label", some "style.label"⟩] := by rfl
  exact FormSchema.check_reports h

end FlexForm
