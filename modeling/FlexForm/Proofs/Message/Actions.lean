import FlexForm.Proofs.Message.Walk

/-! # The actions that a message check sees

The check of a message walks through its contents and judges the action of each object that it
meets. It meets everything but what lies inside the value of an `action` key: the rules for an
action speak of its own fields only, and the walk does not go on into them. So an action further
inside, below another action or in a list of actions, is never judged.

* `IsComplete`, `HasCompleteAction`: the rules for actions.
* `check_eq_nil_iff`: the messages without problems.
-/

namespace FlexForm.Message
set_option autoImplicit false

/-! ## The rules for actions -/

/-- A text with more than white space in it. -/
def IsFilled (v : Option Json) : Prop := ∃ s, v = some (.str s) ∧ Text.isAllBlank s = false

/-- The text of a link whose scheme is the secure one. -/
def IsSecureLink (v : Option Json) : Prop :=
  ∃ s, v = some (.str s) ∧ Link.scheme? s = some Link.secureScheme

/-- An action has a label, and what its type asks for. -/
structure IsComplete (action : List (String × Json)) : Prop where
  label : IsFilled (Fields.get? action "label")
  link : Fields.get? action "type" = some (.str "uri") → IsSecureLink (Fields.get? action "uri")
  text : Fields.get? action "type" = some (.str "message") → IsFilled (Fields.get? action "text")
  data : Fields.get? action "type" = some (.str "postback") → IsFilled (Fields.get? action "data")

/-- The action of an object is complete, if it has one. -/
def HasCompleteAction (fields : List (String × Json)) : Prop :=
  ∀ action, Fields.get? fields "action" = some (.obj action) → IsComplete action

theorem linkFlaw?_str (s : String) :
    linkFlaw? (some (.str s)) = none ↔ Link.scheme? s = some Link.secureScheme := by
  by_cases hempty : s = ""
  · subst hempty
    exact iff_of_false (by decide) (by decide)
  · have hfilled : Json.isEmpty (some (.str s)) = false := beq_eq_false_iff_ne.2 hempty
    rw [linkFlaw?, if_neg (by rw [hfilled]; exact Bool.false_ne_true)]
    cases hscheme : Link.scheme? s with
    | none => simp
    | some scheme =>
      by_cases hsecure : scheme = Link.secureScheme <;> simp [hsecure]

theorem linkFlaw?_eq_none_iff {v : Option Json} : linkFlaw? v = none ↔ IsSecureLink v := by
  unfold IsSecureLink
  cases v with
  | none => exact iff_of_false (by decide) (by simp)
  | some v =>
    cases v with
    | str s =>
      rw [linkFlaw?_str]
      simp
    | null | bool | int | float | arr | obj =>
      exact iff_of_false (by simp [linkFlaw?, Json.isEmpty]) (by simp)

theorem companion_link {v : Option Json} :
    ((linkFlaw? v).toList.map fun flaw => ("uri", flaw)) = [] ↔ IsSecureLink v := by
  rw [List.map_eq_nil_iff, Option.toList_eq_nil_iff, linkFlaw?_eq_none_iff]

theorem flaws_eq_nil_iff {v : Option Json} {flaws : List (String × Flaw)} (hne : flaws ≠ []) :
    (if isBlank v then flaws else []) = [] ↔ IsFilled v := by
  unfold IsFilled
  rw [← isBlank_eq_false_iff]
  cases isBlank v <;> simp [hne]

theorem actionFlaws_eq_nil_iff {action : List (String × Json)} :
    actionFlaws action = [] ↔ IsComplete action := by
  rw [actionFlaws, List.append_eq_nil_iff, flaws_eq_nil_iff (List.cons_ne_nil _ _)]
  constructor
  · rintro ⟨hlabel, hcompanion⟩
    refine ⟨hlabel, ?_, ?_, ?_⟩
    · intro htype
      simp only [htype] at hcompanion
      rwa [companion_link] at hcompanion
    · intro htype
      simp only [htype] at hcompanion
      exact (flaws_eq_nil_iff (List.cons_ne_nil _ _)).1 hcompanion
    · intro htype
      simp only [htype] at hcompanion
      exact (flaws_eq_nil_iff (List.cons_ne_nil _ _)).1 hcompanion
  · intro h
    refine ⟨h.label, ?_⟩
    split
    next htype => exact companion_link.2 (h.link htype)
    next htype => exact (flaws_eq_nil_iff (List.cons_ne_nil _ _)).2 (h.text htype)
    next htype => exact (flaws_eq_nil_iff (List.cons_ne_nil _ _)).2 (h.data htype)
    next => rfl

theorem checkAction_eq_nil_iff {fields : List (String × Json)} {path : String} :
    checkAction fields path = [] ↔ HasCompleteAction fields := by
  unfold checkAction HasCompleteAction
  split
  next action haction =>
    rw [List.map_eq_nil_iff, actionFlaws_eq_nil_iff]
    constructor
    · rintro hcomplete other hother
      cases haction.symm.trans hother
      exact hcomplete
    · exact fun h => h action haction
  next hne => exact iff_of_true rfl fun action haction => absurd haction (hne action)

/-! ## The walk -/

/-- All actions are complete to which steps lead that do not go through an action. -/
def IsSettled (v : Json) : Prop :=
  ∀ steps fields, Reaches v steps (.obj fields) → Step.key "action" ∉ steps →
    HasCompleteAction fields

theorem isSettled_arr_iff {items : List Json} :
    IsSettled (.arr items) ↔ ∀ v ∈ items, IsSettled v := by
  constructor
  · intro h v hv steps fields hreach hno
    obtain ⟨n, hn⟩ := List.getElem?_of_mem hv
    refine h (.index n :: steps) fields (.item hn hreach) ?_
    simpa using hno
  · rintro h steps fields hreach hno
    cases hreach with
    | item hitem hrest =>
      exact h _ (List.mem_of_getElem? hitem) _ _ hrest fun hmem => hno (List.mem_cons_of_mem _ hmem)

theorem isSettled_obj_iff {fields : List (String × Json)} :
    IsSettled (.obj fields) ↔
      HasCompleteAction fields ∧ ∀ f ∈ fields, f.1 ≠ "action" → IsSettled f.2 := by
  constructor
  · intro h
    refine ⟨h [] fields .here List.not_mem_nil, ?_⟩
    rintro ⟨name, v⟩ hf hname steps inner hreach hno
    refine h (.key name :: steps) inner (.field hf hreach) ?_
    simpa [Ne.symm hname] using hno
  · rintro ⟨haction, hfields⟩ steps inner hreach hno
    cases hreach with
    | here => exact haction
    | @field _ name v _ steps hfield hrest =>
      rw [List.mem_cons, not_or] at hno
      exact hfields (name, v) hfield (fun hname => hno.1 (congrArg Step.key hname.symm)) _ _ hrest
        hno.2

theorem isSettled_of_not_container {v : Json} (h : v.isContainer = false) : IsSettled v := by
  rintro steps fields hreach -
  cases hreach <;> cases h

mutual

theorem checkActions_eq_nil_iff {v : Json} {path : String} :
    checkActions v path = [] ↔ IsSettled v := by
  match v with
  | .arr items =>
    rw [checkActions, isSettled_arr_iff]
    exact checkItems_eq_nil_iff
  | .obj fields =>
    rw [checkActions, List.append_eq_nil_iff, isSettled_obj_iff, checkAction_eq_nil_iff,
      checkFields_eq_nil_iff]
  | .null | .bool _ | .int _ | .float _ | .str _ =>
    exact iff_of_true (by rw [checkActions]) (isSettled_of_not_container rfl)

theorem checkItems_eq_nil_iff {items : List Json} {index : ℕ} {path : String} :
    checkItems index items path = [] ↔ ∀ v ∈ items, IsSettled v := by
  match items with
  | [] => simp [checkItems]
  | v :: rest =>
    rw [checkItems, List.append_eq_nil_iff, List.forall_mem_cons, checkActions_eq_nil_iff,
      checkItems_eq_nil_iff]

theorem checkFields_eq_nil_iff {fields : List (String × Json)} {path : String} :
    checkFields fields path = [] ↔ ∀ f ∈ fields, f.1 ≠ "action" → IsSettled f.2 := by
  match fields with
  | [] => simp [checkFields]
  | (key, v) :: rest =>
    rw [checkFields, List.forall_mem_cons]
    split
    next hkey =>
      -- nothing is found below an `action` key, whatever there is
      rw [checkFields_eq_nil_iff]
      exact ⟨fun h => ⟨fun hne => absurd hkey hne, h⟩, fun h => h.2⟩
    next hkey =>
      rw [List.append_eq_nil_iff, checkActions_eq_nil_iff, checkFields_eq_nil_iff]
      exact ⟨fun h => ⟨fun _ => h.1, h.2⟩, fun h => ⟨h.1 hkey, h.2⟩⟩

end

/-! ## Messages -/

/-- A text that is not blank and not longer than the limit. -/
def IsAltText (v : Option Json) : Prop :=
  ∃ s, v = some (.str s) ∧ Text.isAllBlank s = false ∧ s.length ≤ altTextLimit

theorem checkAltText_eq_nil_iff {v : Option Json} : checkAltText v = [] ↔ IsAltText v := by
  unfold checkAltText IsAltText
  split
  next s =>
    by_cases hblank : Text.isAllBlank s = true
    · simp [isBlank, hblank]
    · by_cases hlong : s.length > altTextLimit
      · simp [isBlank, hblank, hlong]
      · have hshort : s.length ≤ altTextLimit := Nat.not_lt.1 hlong
        simp [isBlank, hblank, hlong, hshort]
  next hne =>
    refine iff_of_false (List.cons_ne_nil _ _) ?_
    rintro ⟨s, h, -⟩
    exact hne s h

/-- A message has no problems exactly if it is an object with an alternative text, in whose
contents each action is complete to which no other action leads. Nothing is asked of what lies
inside the value of an `action` key. -/
theorem check_eq_nil_iff {m : Json} :
    check m = [] ↔ ∃ fields, m = .obj fields ∧ IsAltText (Fields.get? fields "altText") ∧
      ∀ contents, Fields.get? fields "contents" = some contents →
        ∀ steps inner, Reaches contents steps (.obj inner) → Step.key "action" ∉ steps →
          HasCompleteAction inner := by
  cases m with
  | obj fields =>
    have hcontents : IsSettled ((Fields.get? fields "contents").getD .null) ↔
        ∀ contents, Fields.get? fields "contents" = some contents → IsSettled contents := by
      cases Fields.get? fields "contents" with
      | none => exact iff_of_true (isSettled_of_not_container rfl) (by simp)
      | some contents => simp
    rw [check, List.append_eq_nil_iff, checkAltText_eq_nil_iff, checkBelow_eq,
      checkActions_eq_nil_iff, hcontents]
    simp [IsSettled]
  | null | bool | int | float | str | arr =>
    refine iff_of_false ?_ ?_
    · rw [check_of_not_object rfl]
      exact List.cons_ne_nil _ _
    · rintro ⟨fields, h, -⟩
      cases h

/-- An action that is no use, inside of a complete one, is not noticed. -/
example : check (.obj [("altText", .str "Hi"), ("contents", .obj [("action", .obj
    [("type", .str "message"), ("label", .str "Go"), ("text", .str "go"),
      ("next", .obj [("action", .obj [("type", .str "uri"), ("uri", .str "http://e.com")])])])])]) =
      [] := by decide

end FlexForm.Message
