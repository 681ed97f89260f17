import FlexForm.Proofs.Json.Sound
import FlexForm.Proofs.Message.Walk
import FlexForm.Proofs.Path.Location

/-! # Where the problems of a message are

A walk writes the path of each spot as it goes, and the path of a problem is read back by splitting
it again. As long as no key of the contents would be split, every step is one segment of the path.
So what is in front of the last segment leads to the action that is at fault, and the path of a
problem tells its action.

* `Step.segment`, `segments_pathFrom`: the segments of a way.
* `at?_pathFrom`: the path of a way leads to its end.
* `Reaches.unique`: different ways have different segments.
* `check_locates`: the action at fault stands where its problems say.
-/

namespace FlexForm

namespace Json
set_option autoImplicit false

open FlexForm.Path

/-! ## Keys -/

mutual

/-- Whether every key inside passes the test. -/
def everyKey (test : String → Bool) : Json → Bool
  | .arr items => itemsEveryKey test items
  | .obj fields => fieldsEveryKey test fields
  | .null | .bool _ | .int _ | .float _ | .str _ => true

def itemsEveryKey (test : String → Bool) : List Json → Bool
  | [] => true
  | v :: rest => everyKey test v && itemsEveryKey test rest

def fieldsEveryKey (test : String → Bool) : List (String × Json) → Bool
  | [] => true
  | (k, v) :: rest => test k && everyKey test v && fieldsEveryKey test rest

end

theorem itemsEveryKey_eq_all (test : String → Bool) (items : List Json) :
    itemsEveryKey test items = items.all (everyKey test) := by
  induction items with
  | nil => rfl
  | cons v rest ih => rw [itemsEveryKey, ih, List.all_cons]

theorem fieldsEveryKey_eq_all (test : String → Bool) (fields : List (String × Json)) :
    fieldsEveryKey test fields =
      ((fields.map Prod.fst).all test && fields.all fun f => everyKey test f.2) := by
  induction fields with
  | nil => rfl
  | cons f rest ih =>
    obtain ⟨k, v⟩ := f
    rw [fieldsEveryKey, ih, List.map_cons, List.all_cons, List.all_cons]
    cases test k <;> cases everyKey test v <;> simp

theorem hereditary_everyKey (test : String → Bool) : Hereditary (everyKey test) (·.all test) :=
  ⟨itemsEveryKey_eq_all test, fieldsEveryKey_eq_all test⟩

theorem of_everyKey {test : String → Bool} {fields : List (String × Json)} {f : String × Json}
    (h : everyKey test (.obj fields) = true) (hf : f ∈ fields) : test f.1 = true := by
  rw [(hereditary_everyKey test).obj, Bool.and_eq_true, List.all_eq_true] at h
  exact h.1 f.1 (List.mem_map_of_mem hf)

theorem at?_key {fields : List (String × Json)} {key : String} {v : Json}
    (hkey : isSimple key = true) (h : Fields.get? fields key = some v) :
    (obj fields).at? key = .ok (some v) := by
  rw [at?, segments_of_isSimple hkey]
  exact follow?_of_step (congrArg Except.ok h)

end Json

namespace Message

open Json FlexForm.Path

/-! ## Ways and their paths -/

/-- The segment of a path that stands for the step. -/
def Step.segment : Step → String
  | .key name => name
  | .index n => toString n

variable {data v w u : Json} {steps others : List Step} {path : String}
  {action : List (String × Json)}

theorem Reaches.isSimple (h : Reaches v steps w) (hkeys : everyKey isSimple v = true) :
    ∀ name, .key name ∈ steps → isSimple name = true := by
  induction h with
  | here => simp
  | item hitem _ ih =>
    intro name hname
    have hinside := (hereditary_everyKey _).item hkeys (List.mem_of_getElem? hitem)
    exact ih hinside name (by simpa using hname)
  | field hfield _ ih =>
    intro name hname
    rcases List.mem_cons.1 hname with heq | hname
    · cases heq
      exact of_everyKey hkeys hfield
    · exact ih ((hereditary_everyKey _).field hkeys hfield) name hname

theorem segments_pathFrom (h : ∀ name, .key name ∈ steps → isSimple name = true) :
    segments (Step.pathFrom path steps) = segments path ++ steps.map Step.segment := by
  induction steps generalizing path with
  | nil => simp [Step.pathFrom]
  | cons step steps ih =>
    have hrest := fun name hname => h name (List.mem_cons_of_mem step hname)
    cases step with
    | key name =>
      rw [Step.pathFrom, ih hrest, segments_dot, segments_of_isSimple (h name List.mem_cons_self)]
      simp [Step.segment]
    | index n =>
      rw [Step.pathFrom, ih hrest, segments_item]
      simp [Step.segment]

/-- The path of a way leads to the end of the way. -/
theorem at?_pathFrom (hdata : data.isIndexable = true) (hreach : Reaches v steps w)
    (hkeys : everyKey isSimple v = true) (hdistinct : hasDistinctKeys v = true)
    (h : data.at? path = .ok (some v)) :
    data.at? (Step.pathFrom path steps) = .ok (some w) := by
  induction hreach generalizing path with
  | here => exact h
  | item hitem _ ih =>
    have hmem := List.mem_of_getElem? hitem
    exact ih ((hereditary_everyKey _).item hkeys hmem)
      (hereditary_hasDistinctKeys.item hdistinct hmem) (at?_item h hdata hitem)
  | field hfield _ ih =>
    have hget := Fields.get?_of_mem (nodup_keys_of_fieldsDistinct hdistinct) hfield
    refine ih ((hereditary_everyKey _).field hkeys hfield)
      (hereditary_hasDistinctKeys.field hdistinct hfield) ?_
    rw [at?_dot h]
    exact at?_key (of_everyKey hkeys hfield) hget

/-- Ways with the same segments are the same, and end at the same value. -/
theorem Reaches.unique (hdistinct : hasDistinctKeys v = true) (hw : Reaches v steps w)
    (hu : Reaches v others u) (hsame : steps.map Step.segment = others.map Step.segment) :
    steps = others ∧ w = u := by
  induction hw generalizing others with
  | here =>
    obtain rfl : others = [] := List.map_eq_nil_iff.1 hsame.symm
    cases hu
    exact ⟨rfl, rfl⟩
  | item hitem _ ih =>
    cases hu with
    | here => cases hsame
    | item hother hrest =>
      obtain ⟨hindex, hbehind⟩ := List.cons.inj hsame
      obtain rfl := toString_inj hindex
      cases hitem.symm.trans hother
      have hinside := hereditary_hasDistinctKeys.item hdistinct (List.mem_of_getElem? hitem)
      obtain ⟨rfl, rfl⟩ := ih hinside hrest hbehind
      exact ⟨rfl, rfl⟩
  | field hfield _ ih =>
    cases hu with
    | here => cases hsame
    | field hother hrest =>
      obtain ⟨hname, hbehind⟩ := List.cons.inj hsame
      obtain rfl := hname
      have hnodup := nodup_keys_of_fieldsDistinct hdistinct
      cases (Fields.get?_of_mem hnodup hfield).symm.trans (Fields.get?_of_mem hnodup hother)
      have hinside := hereditary_hasDistinctKeys.field hdistinct hfield
      obtain ⟨rfl, rfl⟩ := ih hinside hrest hbehind
      exact ⟨rfl, rfl⟩

/-! ## Problems of actions -/

theorem mem_checkBelow_iff {p : Problem} :
    p ∈ checkBelow v path ↔ ∃ steps action, ReachesAction v steps action ∧
      p ∈ actionProblems action (Step.pathFrom path steps) := by
  simp [checkBelow_eq_flatMap, mem_actionsIn]

theorem isSimple_of_mem_actionFlaws {f : String × Flaw} (h : f ∈ actionFlaws action) :
    isSimple f.1 = true := by
  have hkey : f.1 ∈ ["label", "uri", "text", "data"] := by
    rw [actionFlaws, List.mem_append] at h
    rcases h with h | h
    · split at h <;> simp_all
    · split at h
      next =>
        obtain ⟨flaw, -, rfl⟩ := List.mem_map.1 h
        simp
      next => split at h <;> simp_all
      next => split at h <;> simp_all
      next => cases h
  have hsimple : ∀ key ∈ ["label", "uri", "text", "data"], isSimple key = true := by decide
  exact hsimple f.1 hkey

theorem pathFrom_append (steps others : List Step) :
    Step.pathFrom path (steps ++ others) = Step.pathFrom (Step.pathFrom path steps) others := by
  induction steps generalizing path with
  | nil => rfl
  | cons step steps ih => cases step <;> exact ih

theorem Reaches.append (hv : Reaches v steps w) (hw : Reaches w others u) :
    Reaches v (steps ++ others) u := by
  induction hv with
  | here => exact hw
  | item hitem _ ih => exact .item hitem (ih hw)
  | field hfield _ ih => exact .field hfield (ih hw)

theorem ReachesAction.reaches (h : ReachesAction v steps action) :
    Reaches v (steps ++ [.key "action"]) (.obj action) := by
  obtain ⟨fields, hobject, -, haction⟩ := h
  exact hobject.append (.field (Fields.mem_of_get? haction) .here)

/-- The path of the action of the object to which the steps lead. -/
def actionPath (path : String) (steps : List Step) : String :=
  Step.pathFrom path (steps ++ [.key "action"])

theorem exists_key_of_mem_actionProblems {p : Problem}
    (h : p ∈ actionProblems action (Step.pathFrom path steps)) :
    ∃ key, isSimple key = true ∧ p.path = s!"{actionPath path steps}.{key}" := by
  obtain ⟨f, hflaw, rfl⟩ := List.mem_map.1 h
  refine ⟨f.1, isSimple_of_mem_actionFlaws hflaw, ?_⟩
  rw [actionPath, pathFrom_append, ← String.toList_inj]
  simp [Step.pathFrom, toString]

/-! ## Messages -/

/-- The problem is one of the action to whose object the steps lead. -/
def IsAbout (contents : Json) (p : Problem) (steps : List Step) (action : List (String × Json)) :
    Prop :=
  ReachesAction contents steps action ∧ p ∈ actionProblems action (Step.pathFrom "contents" steps)

/-- The contents of a message, or null if it has none. -/
def contentsOf (m : Json) : Json := (m.get? "contents").getD .null

variable {m : Json} {p : Problem}

theorem get?_contents (h : ReachesAction (contentsOf m) steps action) :
    m.get? "contents" = some (contentsOf m) := by
  cases hget : m.get? "contents" with
  | none =>
    rw [contentsOf, hget] at h
    exact absurd h (not_reachesAction rfl)
  | some contents => rw [contentsOf, hget, Option.getD_some]

theorem at?_contents {contents : Json} (h : m.get? "contents" = some contents) :
    m.at? "contents" = .ok (some contents) := by
  cases m with
  | obj fields => exact at?_key (by decide) h
  | null | bool | int | float | str | arr => cases h

theorem path_of_mem_checkAltText {altText : Option Json} (h : p ∈ checkAltText altText) :
    p.path = "altText" := by
  unfold checkAltText at h
  split at h
  next =>
    split at h
    next =>
      cases List.mem_singleton.1 h
      rfl
    next =>
      split at h
      next =>
        cases List.mem_singleton.1 h
        rfl
      next => cases h
  next =>
    cases List.mem_singleton.1 h
    rfl

theorem exists_isAbout (hp : p ∈ check m) (hpath : p.path ≠ "altText") :
    ∃ steps action, IsAbout (contentsOf m) p steps action := by
  cases m with
  | obj fields =>
    rcases List.mem_append.1 hp with hp | hp
    · exact absurd (path_of_mem_checkAltText hp) hpath
    · exact mem_checkBelow_iff.1 hp
  | null | bool | int | float | str | arr =>
    cases List.mem_singleton.1 hp
    exact absurd rfl hpath

/-- In front of its last segment, the path of a problem is the one of the action. -/
theorem exists_key_of_isAbout {contents : Json} (h : IsAbout contents p steps action) :
    ∃ place key : String, p.path = s!"{place}.{key}" ∧
      segments p.path = segments place ++ [key] ∧ place = actionPath "contents" steps := by
  obtain ⟨key, hkey, hpath⟩ := exists_key_of_mem_actionProblems h.2
  exact ⟨_, key, hpath, by rw [hpath, segments_dot, segments_of_isSimple hkey], rfl⟩

/-- In a message whose contents have simple keys only, each problem of an action has a path whose
front, without the last segment, leads to that action. Problems of different actions have different
paths. -/
theorem check_locates (hm : m.isIndexable = true) (hdistinct : hasDistinctKeys m = true)
    (hkeys : everyKey isSimple (contentsOf m) = true) :
    (∀ p ∈ check m, p.path ≠ "altText" →
      ∃ steps action, IsAbout (contentsOf m) p steps action ∧
        ∃ place key : String, p.path = s!"{place}.{key}" ∧
          segments place = (segments p.path).dropLast ∧
          m.at? place = .ok (some (.obj action))) ∧
    (∀ p q steps others action other, IsAbout (contentsOf m) p steps action →
      IsAbout (contentsOf m) q others other → p.path = q.path →
        steps = others ∧ action = other) := by
  constructor
  · intro p hp hpath
    obtain ⟨steps, action, habout⟩ := exists_isAbout hp hpath
    obtain ⟨place, key, hplace, hsegments, rfl⟩ := exists_key_of_isAbout habout
    refine ⟨steps, action, habout, _, key, hplace, by rw [hsegments, List.dropLast_concat], ?_⟩
    have hcontents := get?_contents habout.1
    exact at?_pathFrom hm habout.1.reaches hkeys
      (hereditary_hasDistinctKeys.get? hdistinct hcontents) (at?_contents hcontents)
  · intro p q steps others action other hp hq hsame
    have hreach := hp.1.reaches
    have hother := hq.1.reaches
    obtain ⟨_, key, -, hsegments, rfl⟩ := exists_key_of_isAbout hp
    obtain ⟨_, key', -, hsegments', rfl⟩ := exists_key_of_isAbout hq
    -- the two paths are the same in front of the last segment, so the two ways are
    have hfront : (steps ++ [Step.key "action"]).map Step.segment =
        (others ++ [Step.key "action"]).map Step.segment := by
      rw [actionPath, segments_pathFrom (hreach.isSimple hkeys)] at hsegments
      rw [← hsame, hsegments, actionPath, segments_pathFrom (hother.isSimple hkeys)] at hsegments'
      exact List.append_cancel_left (List.append_inj_left' hsegments' rfl)
    have hinside := hereditary_hasDistinctKeys.get? hdistinct (get?_contents hp.1)
    obtain ⟨hsteps, hactions⟩ := hreach.unique hinside hother hfront
    exact ⟨List.append_cancel_right hsteps, Json.obj.inj hactions⟩

/-- Keys that are single brackets or numbers, and lists beside them. -/
def bracketed : Json :=
  .obj [("altText", .str "x"), ("contents", .obj [
    ("[", .arr [.arr [.obj [("action", .obj [("type", .str "uri")])]]]),
    ("0", .obj [("action", .obj [])])])]

theorem check_locates_bracketed :
    bracketed.isIndexable = true ∧ hasDistinctKeys bracketed = true ∧
      everyKey isSimple (contentsOf bracketed) = true ∧
      (⟨"contents.[[0][0].action.label", .noActionLabel, none⟩ : Problem) ∈ check bracketed ∧
      ∃ place key : String, "contents.[[0][0].action.label" = s!"{place}.{key}" ∧
        ∃ action, bracketed.at? place = .ok (some (.obj action)) := by
  have hm : bracketed.isIndexable = true := by decide +kernel
  have hdistinct : hasDistinctKeys bracketed = true := by decide +kernel
  have hkeys : everyKey isSimple (contentsOf bracketed) = true := by decide +kernel
  have hp : (⟨"contents.[[0][0].action.label", .noActionLabel, none⟩ : Problem) ∈
      check bracketed := by decide +kernel
  obtain ⟨_, action, -, place, key, hpath, -, hplace⟩ :=
    (check_locates hm hdistinct hkeys).1 _ hp (by decide)
  exact ⟨hm, hdistinct, hkeys, hp, place, key, hpath, action, hplace⟩

end Message

end FlexForm
