import FlexForm.Message.Check
import FlexForm.Proofs.Json.Position
import Mathlib.Data.List.Nodup
import Mathlib.Logic.Function.Iterate

/-! # The order of a walk

A walk keeps the spots that it has still to visit on a stack. It visits an object before what is
inside of it, and all of that before what stands behind the object: the same order as by recursion
over the value. So each action that can be reached without going through another one is checked
once.

* `Step`, `Reaches`, `ReachesAction`: the way from a value to one inside of it.
* `checkActions`: the problems of a value by recursion.
* `Walk.visited`: the spots that a walk visits.
* `walk_order`: both ways come to the same, and check each action once.
-/

namespace FlexForm.Message
set_option autoImplicit false

open Json (hasDistinctKeys haveDistinctKeys fieldsDistinct)

/-! ## Ways into a value -/

/-- A step into a value, to the value of a key or to an item. -/
inductive Step where
  | key (name : String)
  | index (n : ℕ)
  deriving DecidableEq

/-- The steps lead from the first value to the second. -/
inductive Reaches : Json → List Step → Json → Prop
  | here {v : Json} : Reaches v [] v
  | item {items : List Json} {n : ℕ} {v w : Json} {steps : List Step} (hitem : items[n]? = some v)
      (hrest : Reaches v steps w) : Reaches (.arr items) (.index n :: steps) w
  | field {fields : List (String × Json)} {name : String} {v w : Json} {steps : List Step}
      (hfield : (name, v) ∈ fields) (hrest : Reaches v steps w) :
      Reaches (.obj fields) (.key name :: steps) w

/-- The steps lead to an object with this action, and not through another action. -/
def ReachesAction (v : Json) (steps : List Step) (action : List (String × Json)) : Prop :=
  ∃ fields, Reaches v steps (.obj fields) ∧ .key "action" ∉ steps ∧
    Fields.get? fields "action" = some (.obj action)

/-- The path at which the steps end. -/
def Step.pathFrom (path : String) : List Step → String
  | [] => path
  | .key name :: rest => pathFrom s!"{path}.{name}" rest
  | .index n :: rest => pathFrom s!"{path}[{n}]" rest

/-! ## The walk by recursion -/

mutual

/-- The problems of the actions at a value and below it, in the order in which they stand. -/
def checkActions : Json → String → List Problem
  | .arr items, path => checkItems 0 items path
  | .obj fields, path => checkAction fields path ++ checkFields fields path
  | .null, _ | .bool _, _ | .int _, _ | .float _, _ | .str _, _ => []

/-- The problems below the items of a list, from an index on. -/
def checkItems (index : ℕ) : List Json → String → List Problem
  | [], _ => []
  | v :: rest, path => checkActions v s!"{path}[{index}]" ++ checkItems (index + 1) rest path

/-- The problems below the fields of an object other than its action. -/
def checkFields : List (String × Json) → String → List Problem
  | [], _ => []
  | (key, v) :: rest, path =>
    if key = "action" then checkFields rest path
    else checkActions v s!"{path}.{key}" ++ checkFields rest path

end

/-- The action of an object, if it is one. -/
def actionOf (fields : List (String × Json)) : List (List (String × Json)) :=
  match Fields.get? fields "action" with
  | some (.obj action) => [action]
  | _ => []

mutual

/-- The actions at a value and below it with the ways to their objects, in the same order. -/
def actionsIn : Json → List (List Step × List (String × Json))
  | .arr items => actionsInItems 0 items
  | .obj fields => (actionOf fields).map (fun action => ([], action)) ++ actionsInFields fields
  | .null | .bool _ | .int _ | .float _ | .str _ => []

def actionsInItems (index : ℕ) : List Json → List (List Step × List (String × Json))
  | [] => []
  | v :: rest =>
    (actionsIn v).map (fun found => (.index index :: found.1, found.2)) ++
      actionsInItems (index + 1) rest

def actionsInFields : List (String × Json) → List (List Step × List (String × Json))
  | [] => []
  | (key, v) :: rest =>
    if key = "action" then actionsInFields rest
    else (actionsIn v).map (fun found => (.key key :: found.1, found.2)) ++ actionsInFields rest

end

/-! ## Visits -/

/-- The action of the spot with the path of its object, if there is one. -/
def Spot.actions (spot : Spot) : List (String × List (String × Json)) :=
  match spot.value with
  | .obj fields => (actionOf fields).map fun action => (spot.path, action)
  | _ => []

/-- The spots that a walk visits, in their order. -/
def Walk.visited : Walk → List Spot
  | ⟨[], _⟩ => []
  | ⟨spot :: pending, problems⟩ => spot :: visited (turn ⟨spot :: pending, problems⟩)
termination_by w => Spot.weights w.pending
decreasing_by exact weights_turn_lt spot pending problems

theorem Walk.finish_eq_visited (w : Walk) :
    w.finish = w.problems ++ w.visited.flatMap Spot.problems := by
  induction w using Walk.finish.induct with
  | case1 problems => simp [finish, visited]
  | case2 spot pending problems ih =>
    rw [finish, ih, visited, List.flatMap_cons, turn, List.append_assoc]

theorem Walk.exists_turns (w : Walk) : ∃ n, turn^[n] w = ⟨[], w.finish⟩ := by
  induction w using Walk.finish.induct with
  | case1 problems => exact ⟨0, by rw [finish]; rfl⟩
  | case2 spot pending problems ih =>
    obtain ⟨n, hn⟩ := ih
    exact ⟨n + 1, by rw [Function.iterate_succ_apply, hn, finish]⟩

/-- What is found at a spot and inside of it is what is found at the spot itself, followed by what
is found at the spots right inside. -/
structure Spreads {β : Type} (here whole : Spot → List β) : Prop where
  spread : ∀ spot, whole spot = here spot ++ spot.inside.flatMap whole
  leaf : ∀ spot, spot.value.isContainer = false → whole spot = []

section
variable {β : Type} {here whole : Spot → List β}

theorem Spreads.flatMap_stacked (h : Spreads here whole) (spots pending : List Spot) :
    (Spot.stacked spots pending).flatMap whole = spots.flatMap whole ++ pending.flatMap whole := by
  induction spots with
  | nil => rfl
  | cons spot spots ih =>
    rw [Spot.stacked_cons, List.flatMap_cons]
    cases hcontainer : spot.value.isContainer with
    | true => rw [if_pos rfl, List.flatMap_cons, ih, List.append_assoc]
    | false => rw [if_neg Bool.false_ne_true, ih, h.leaf spot hcontainer, List.nil_append]

/-- One spot after the other, a walk finds what is at the pending spots and inside of them. -/
theorem Spreads.flatMap_visited (h : Spreads here whole) (w : Walk) :
    w.visited.flatMap here = w.pending.flatMap whole := by
  induction w using Walk.finish.induct with
  | case1 problems => simp [Walk.visited]
  | case2 spot pending problems ih =>
    rw [Walk.visited, List.flatMap_cons, List.flatMap_cons, ih, Walk.turn, h.flatMap_stacked,
      h.spread spot, List.append_assoc]

end

/-! ## The same order -/

theorem checkItems_eq (items : List Json) (index : ℕ) (path : String) :
    checkItems index items path =
      (items.mapIdx fun n v => (⟨v, s!"{path}[{index + n}]"⟩ : Spot)).flatMap fun spot =>
        checkActions spot.value spot.path := by
  induction items generalizing index with
  | nil => rfl
  | cons v items ih =>
    rw [checkItems, ih, List.mapIdx_cons, List.flatMap_cons]
    simp only [Nat.add_zero, Nat.add_assoc, Nat.add_comm 1]

theorem checkFields_eq (fields : List (String × Json)) (path : String) :
    checkFields fields path =
      ((fields.filter fun f => f.1 ≠ "action").map fun f =>
        (⟨f.2, s!"{path}.{f.1}"⟩ : Spot)).flatMap fun spot =>
          checkActions spot.value spot.path := by
  induction fields with
  | nil => rfl
  | cons f fields ih =>
    obtain ⟨key, v⟩ := f
    rw [checkFields, List.filter_cons]
    by_cases hkey : key = "action" <;> simp [hkey, ih]

theorem spreads_checkActions :
    Spreads Spot.problems fun spot => checkActions spot.value spot.path := by
  constructor
  · rintro ⟨v, path⟩
    cases v with
    | arr items =>
      simp only [checkActions, checkItems_eq, Spot.inside, Spot.problems, List.nil_append,
        Nat.zero_add]
    | obj fields => simp only [checkActions, checkFields_eq, Spot.inside, Spot.problems]
    | null | bool | int | float | str => rfl
  · rintro ⟨v, path⟩ h
    cases v with
    | arr | obj => cases h
    | null | bool | int | float | str => rfl

/-- A walk finds what the recursion finds. -/
theorem checkBelow_eq (v : Json) (path : String) : checkBelow v path = checkActions v path := by
  rw [checkBelow, Walk.finish_eq_visited, spreads_checkActions.flatMap_visited]
  simp

theorem actionsInItems_eq (items : List Json) (index : ℕ) (path : String) :
    (actionsInItems index items).map (fun found => (Step.pathFrom path found.1, found.2)) =
      (items.mapIdx fun n v => (⟨v, s!"{path}[{index + n}]"⟩ : Spot)).flatMap fun spot =>
        (actionsIn spot.value).map fun found => (Step.pathFrom spot.path found.1, found.2) := by
  induction items generalizing index with
  | nil => rfl
  | cons v items ih =>
    rw [actionsInItems, List.map_append, ih, List.mapIdx_cons, List.flatMap_cons, List.map_map]
    simp only [Nat.add_zero, Nat.add_assoc, Nat.add_comm 1]
    rfl

theorem actionsInFields_eq (fields : List (String × Json)) (path : String) :
    (actionsInFields fields).map (fun found => (Step.pathFrom path found.1, found.2)) =
      ((fields.filter fun f => f.1 ≠ "action").map fun f =>
        (⟨f.2, s!"{path}.{f.1}"⟩ : Spot)).flatMap fun spot =>
          (actionsIn spot.value).map fun found => (Step.pathFrom spot.path found.1, found.2) := by
  induction fields with
  | nil => rfl
  | cons f fields ih =>
    obtain ⟨key, v⟩ := f
    rw [actionsInFields, List.filter_cons]
    by_cases hkey : key = "action"
    · simp [hkey, ih]
    · simp [hkey, ih, Function.comp_def, Step.pathFrom]

theorem spreads_actionsIn : Spreads Spot.actions fun spot =>
    (actionsIn spot.value).map fun found => (Step.pathFrom spot.path found.1, found.2) := by
  constructor
  · rintro ⟨v, path⟩
    cases v with
    | arr items =>
      simp only [actionsIn, actionsInItems_eq, Spot.inside, Spot.actions, List.nil_append,
        Nat.zero_add]
    | obj fields =>
      simp only [actionsIn, List.map_append, actionsInFields_eq, Spot.inside, Spot.actions,
        List.map_map]
      rfl
    | null | bool | int | float | str => rfl
  · rintro ⟨v, path⟩ h
    cases v with
    | arr | obj => cases h
    | null | bool | int | float | str => rfl

/-! ## Each action once -/

section
variable {steps : List Step} {action : List (String × Json)}

theorem mem_actionOf {fields : List (String × Json)} :
    action ∈ actionOf fields ↔ Fields.get? fields "action" = some (.obj action) := by
  unfold actionOf
  split
  next inner hinner => simp [hinner, eq_comm]
  next hne => exact iff_of_false List.not_mem_nil (hne action)

theorem reachesAction_arr_iff {items : List Json} :
    ReachesAction (.arr items) steps action ↔ ∃ n v rest, items[n]? = some v ∧
      steps = .index n :: rest ∧ ReachesAction v rest action := by
  constructor
  · rintro ⟨fields, hreach, hno, haction⟩
    cases hreach with
    | @item _ n v _ rest hitem hrest =>
      exact ⟨n, v, rest, hitem, rfl, fields, hrest,
        fun hmem => hno (List.mem_cons_of_mem _ hmem), haction⟩
  · rintro ⟨n, v, rest, hitem, rfl, fields, hrest, hno, haction⟩
    exact ⟨fields, .item hitem hrest, by simpa using hno, haction⟩

theorem reachesAction_obj_iff {fields : List (String × Json)} :
    ReachesAction (.obj fields) steps action ↔
      steps = [] ∧ Fields.get? fields "action" = some (.obj action) ∨
      ∃ key v rest, (key, v) ∈ fields ∧ key ≠ "action" ∧ steps = .key key :: rest ∧
        ReachesAction v rest action := by
  constructor
  · rintro ⟨inner, hreach, hno, haction⟩
    cases hreach with
    | here => exact .inl ⟨rfl, haction⟩
    | @field _ key v _ rest hfield hrest =>
      rw [List.mem_cons, not_or] at hno
      exact .inr ⟨key, v, rest, hfield, fun hkey => hno.1 (congrArg Step.key hkey.symm), rfl,
        inner, hrest, hno.2, haction⟩
  · rintro (⟨rfl, haction⟩ | ⟨key, v, rest, hfield, hkey, rfl, inner, hrest, hno, haction⟩)
    · exact ⟨fields, .here, List.not_mem_nil, haction⟩
    · exact ⟨inner, .field hfield hrest, by simpa [Ne.symm hkey] using hno, haction⟩

theorem not_reachesAction {v : Json} (h : v.isContainer = false) :
    ¬ ReachesAction v steps action := by
  rintro ⟨fields, hreach, -⟩
  cases hreach <;> cases h

end

mutual

/-- The recursion comes to the actions that can be reached, and to no others. -/
theorem mem_actionsIn {v : Json} {steps : List Step} {action : List (String × Json)} :
    (steps, action) ∈ actionsIn v ↔ ReachesAction v steps action := by
  match v with
  | .arr items =>
    rw [actionsIn, mem_actionsInItems, reachesAction_arr_iff]
    simp only [Nat.zero_add]
  | .obj fields =>
    rw [actionsIn, List.mem_append, mem_actionsInFields, reachesAction_obj_iff, List.mem_map]
    simp [mem_actionOf, and_comm, eq_comm]
  | .null | .bool _ | .int _ | .float _ | .str _ =>
    exact iff_of_false List.not_mem_nil (not_reachesAction rfl)

theorem mem_actionsInItems {items : List Json} {index : ℕ} {steps : List Step}
    {action : List (String × Json)} :
    (steps, action) ∈ actionsInItems index items ↔ ∃ n v rest, items[n]? = some v ∧
      steps = .index (index + n) :: rest ∧ ReachesAction v rest action := by
  match items with
  | [] => simp [actionsInItems]
  | v :: items =>
    rw [actionsInItems, List.mem_append, mem_actionsInItems]
    constructor
    · rintro (hfirst | ⟨n, w, rest, hitem, rfl, hrest⟩)
      · obtain ⟨⟨rest, inner⟩, hfound, heq⟩ := List.mem_map.1 hfirst
        cases heq
        exact ⟨0, v, rest, rfl, rfl, mem_actionsIn.1 hfound⟩
      · exact ⟨n + 1, w, rest, hitem, by rw [Nat.add_right_comm, Nat.add_assoc], hrest⟩
    · rintro ⟨n, w, rest, hitem, rfl, hrest⟩
      cases n with
      | zero =>
        cases hitem
        exact .inl (List.mem_map.2 ⟨(rest, action), mem_actionsIn.2 hrest, rfl⟩)
      | succ n =>
        exact .inr ⟨n, w, rest, hitem, by rw [Nat.add_right_comm, Nat.add_assoc], hrest⟩

theorem mem_actionsInFields {fields : List (String × Json)} {steps : List Step}
    {action : List (String × Json)} :
    (steps, action) ∈ actionsInFields fields ↔ ∃ key v rest, (key, v) ∈ fields ∧
      key ≠ "action" ∧ steps = .key key :: rest ∧ ReachesAction v rest action := by
  match fields with
  | [] => simp [actionsInFields]
  | (key, v) :: fields =>
    rw [actionsInFields]
    split
    next hkey =>
      rw [mem_actionsInFields]
      constructor
      · rintro ⟨other, w, rest, hmem, hother⟩
        exact ⟨other, w, rest, List.mem_cons_of_mem _ hmem, hother⟩
      · rintro ⟨other, w, rest, hmem, hne, hother⟩
        rcases List.mem_cons.1 hmem with heq | hmem
        · cases heq
          exact absurd hkey hne
        · exact ⟨other, w, rest, hmem, hne, hother⟩
    next hkey =>
      rw [List.mem_append, mem_actionsInFields]
      constructor
      · rintro (hfirst | ⟨other, w, rest, hmem, hother⟩)
        · obtain ⟨⟨rest, inner⟩, hfound, heq⟩ := List.mem_map.1 hfirst
          cases heq
          exact ⟨key, v, rest, List.mem_cons_self, hkey, rfl, mem_actionsIn.1 hfound⟩
        · exact ⟨other, w, rest, List.mem_cons_of_mem _ hmem, hother⟩
      · rintro ⟨other, w, rest, hmem, hne, rfl, hrest⟩
        rcases List.mem_cons.1 hmem with heq | hmem
        · cases heq
          exact .inl (List.mem_map.2 ⟨(rest, action), mem_actionsIn.2 hrest, rfl⟩)
        · exact .inr ⟨other, w, rest, hmem, hne, rfl, hrest⟩

end

theorem nodup_behind {found : List (List Step × List (String × Json))} (step : Step)
    (h : (found.map Prod.fst).Nodup) :
    ((found.map fun f => (step :: f.1, f.2)).map Prod.fst).Nodup := by
  have hmap : (found.map fun f => (step :: f.1, f.2)).map Prod.fst =
      (found.map Prod.fst).map (step :: ·) := by
    rw [List.map_map, List.map_map]
    rfl
  rw [hmap]
  exact h.map (List.cons_injective)

theorem exists_of_mem_behind {found : List (List Step × List (String × Json))} {step : Step}
    {way : List Step} (h : way ∈ (found.map fun f => (step :: f.1, f.2)).map Prod.fst) :
    ∃ rest, way = step :: rest := by
  rw [List.map_map] at h
  obtain ⟨f, -, rfl⟩ := List.mem_map.1 h
  exact ⟨f.1, rfl⟩

theorem actionOf_cases (fields : List (String × Json)) :
    actionOf fields = [] ∨ ∃ action, actionOf fields = [action] := by
  unfold actionOf
  split
  next action _ => exact .inr ⟨action, rfl⟩
  next => exact .inl rfl

mutual

/-- No way is taken twice. -/
theorem nodup_actionsIn {v : Json} (h : hasDistinctKeys v = true) :
    ((actionsIn v).map Prod.fst).Nodup := by
  match v with
  | .arr items =>
    rw [hasDistinctKeys] at h
    exact nodup_actionsInItems h
  | .obj fields =>
    rw [hasDistinctKeys] at h
    rw [actionsIn, List.map_append, List.nodup_append]
    refine ⟨?_, nodup_actionsInFields h, ?_⟩
    · rcases actionOf_cases fields with hnone | ⟨action, hone⟩
      · simp [hnone]
      · simp [hone]
    · -- the object itself is reached by no step, everything inside of it by one at least
      rintro way hway other hother rfl
      obtain ⟨⟨rest, action⟩, hfound, rfl⟩ := List.mem_map.1 hother
      obtain ⟨key, v, tail, -, -, hsteps, -⟩ := mem_actionsInFields.1 hfound
      simp [hsteps] at hway
  | .null | .bool _ | .int _ | .float _ | .str _ => exact List.nodup_nil

theorem nodup_actionsInItems {items : List Json} {index : ℕ} (h : haveDistinctKeys items = true) :
    ((actionsInItems index items).map Prod.fst).Nodup := by
  match items with
  | [] => exact List.nodup_nil
  | v :: items =>
    rw [haveDistinctKeys, Bool.and_eq_true] at h
    rw [actionsInItems, List.map_append, List.nodup_append]
    refine ⟨nodup_behind _ (nodup_actionsIn h.1), nodup_actionsInItems h.2, ?_⟩
    rintro way hway other hother rfl
    obtain ⟨⟨rest, action⟩, hfound, rfl⟩ := List.mem_map.1 hother
    obtain ⟨n, w, tail, -, rfl, -⟩ := mem_actionsInItems.1 hfound
    obtain ⟨front, hfront⟩ := exists_of_mem_behind hway
    simp only [List.cons.injEq, Step.index.injEq] at hfront
    omega

theorem nodup_actionsInFields {fields : List (String × Json)} (h : fieldsDistinct fields = true) :
    ((actionsInFields fields).map Prod.fst).Nodup := by
  match fields with
  | [] => exact List.nodup_nil
  | (key, v) :: fields =>
    simp only [fieldsDistinct, Bool.and_eq_true, Bool.not_eq_true'] at h
    obtain ⟨⟨hkey, hv⟩, hfields⟩ := h
    rw [actionsInFields]
    split
    next => exact nodup_actionsInFields hfields
    next =>
      rw [List.map_append, List.nodup_append]
      refine ⟨nodup_behind _ (nodup_actionsIn hv), nodup_actionsInFields hfields, ?_⟩
      rintro way hway other hother rfl
      obtain ⟨⟨rest, action⟩, hfound, rfl⟩ := List.mem_map.1 hother
      obtain ⟨name, w, tail, hmem, -, rfl, -⟩ := mem_actionsInFields.1 hfound
      obtain ⟨front, hfront⟩ := exists_of_mem_behind hway
      obtain rfl : name = key := by
        simp only [List.cons.injEq, Step.key.injEq] at hfront
        exact hfront.1
      rw [Json.has_eq_contains, List.contains_eq_mem, decide_eq_false_iff_not] at hkey
      exact hkey (List.mem_map_of_mem hmem)

end

/-! ## The whole walk -/

/-- What is wrong with the action of the object at a path. -/
def actionProblems (action : List (String × Json)) (path : String) : List Problem :=
  (actionFlaws action).map fun (key, flaw) => ⟨s!"{path}.action.{key}", flaw, none⟩

theorem checkAction_eq (fields : List (String × Json)) (path : String) :
    checkAction fields path = (actionOf fields).flatMap fun action => actionProblems action path := by
  unfold checkAction actionOf
  cases Fields.get? fields "action" with
  | none => rfl
  | some v =>
    cases v with
    | obj action => exact (List.flatMap_singleton _ _).symm
    | null | bool | int | float | str | arr => rfl

theorem Spot.problems_eq (spot : Spot) :
    spot.problems = spot.actions.flatMap fun found => actionProblems found.2 found.1 := by
  obtain ⟨v, path⟩ := spot
  cases v with
  | obj fields => simp only [problems, actions, checkAction_eq, List.flatMap_map]
  | null | bool | int | float | str | arr => rfl

theorem visited_actions (v : Json) (path : String) :
    (Walk.visited ⟨[⟨v, path⟩], []⟩).flatMap Spot.actions =
      (actionsIn v).map fun way => (Step.pathFrom path way.1, way.2) := by
  rw [spreads_actionsIn.flatMap_visited]
  exact List.flatMap_singleton _ _

/-- The problems below a value are those of the actions in it, one after the other. -/
theorem checkBelow_eq_flatMap (v : Json) (path : String) :
    checkBelow v path =
      (actionsIn v).flatMap fun way => actionProblems way.2 (Step.pathFrom path way.1) :=
  calc
    checkBelow v path
      = (Walk.visited ⟨[⟨v, path⟩], []⟩).flatMap Spot.problems := Walk.finish_eq_visited _
    _ = ((Walk.visited ⟨[⟨v, path⟩], []⟩).flatMap Spot.actions).flatMap fun found =>
          actionProblems found.2 found.1 := by
      rw [List.flatMap_assoc]
      exact List.flatMap_congr fun spot _ => spot.problems_eq
    _ = _ := by rw [visited_actions, List.flatMap_map]

/-- A walk comes to an end, with the problems that the recursion finds, in the same order. It checks
the actions to which some way leads, one after the other, and takes no way twice. -/
theorem walk_order (v : Json) (path : String) :
    (∃ n, Walk.turn^[n] ⟨[⟨v, path⟩], []⟩ = ⟨[], checkActions v path⟩) ∧
      checkBelow v path = checkActions v path ∧
      ∃ ways : List (List Step × List (String × Json)),
        (Walk.visited ⟨[⟨v, path⟩], []⟩).flatMap Spot.actions =
          ways.map (fun way => (Step.pathFrom path way.1, way.2)) ∧
        checkBelow v path =
          ways.flatMap (fun way => actionProblems way.2 (Step.pathFrom path way.1)) ∧
        (∀ steps action, (steps, action) ∈ ways ↔ ReachesAction v steps action) ∧
        (hasDistinctKeys v = true → (ways.map Prod.fst).Nodup) := by
  have hsame := checkBelow_eq v path
  refine ⟨?_, hsame, actionsIn v, visited_actions v path, checkBelow_eq_flatMap v path,
    fun steps action => mem_actionsIn, nodup_actionsIn⟩
  rw [← hsame]
  exact Walk.exists_turns _

/-- The action of a button in a box, and the one of the box itself before it. The action inside of an
action is not on the way. -/
theorem walk_order_box :
    let box : Json := .obj [("contents", .arr [.str "x", .obj [("action", .obj
      [("label", .str "Go"), ("next", .obj [("action", .obj [])])])]]), ("action", .obj [])]
    ∃ ways : List (List Step × List (String × Json)),
      checkBelow box "body" =
        ways.flatMap (fun way => actionProblems way.2 (Step.pathFrom "body" way.1)) ∧
      ([.key "contents", .index 1], [("label", .str "Go"), ("next", .obj [("action", .obj [])])]) ∈
        ways ∧
      (ways.map Prod.fst).Nodup := by
  intro box
  obtain ⟨-, -, ways, -, hproblems, hmem, hnodup⟩ := walk_order box "body"
  refine ⟨ways, hproblems, (hmem _ _).2 ?_, hnodup (by decide +kernel)⟩
  exact ⟨_, .field List.mem_cons_self (.item rfl .here), by decide, rfl⟩

end FlexForm.Message
