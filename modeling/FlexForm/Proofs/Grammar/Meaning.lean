import FlexForm.Grammar.Run
import Mathlib.Tactic

/-! # What expressions mean

An expression over form data means a JSON value or nothing at all. A missing value remembers its
owner, but no message shows that, so a meaning forgets it.

* `Holds`: the JSON value behind a value of an expression.
* `Means`: what an expression means, given the values of names.
* `Means.attribute`, `Means.fallback` and the others: one lemma for each kind of expression.
* `Decides`: whether a condition holds.
-/

namespace FlexForm.Grammar
set_option autoImplicit false

/-! ## Values that stand for JSON -/

/-- The value stands for a JSON value, or is a missing one that may be read further. -/
inductive Holds : Value → Option Json → Prop where
  | value (j : Json) : Holds (.ofJson j) (some j)
  | missing (why : Absence) : Holds (.missing false why) none

section
variable {v w : Value} {o p : Option Json}

mutual

theorem toJson_ofJson (j : Json) (h : j.isWritable = true) : (Value.ofJson j).toJson = .ok j := by
  cases j with
  | null | bool | float | str => rfl
  | int n =>
    rw [Json.isWritable] at h
    rw [Value.ofJson, Value.toJson, if_pos h]
  | arr items =>
    rw [Json.isWritable] at h
    rw [Value.ofJson, Value.toJson, toItems_ofItems items h]
    rfl
  | obj fields =>
    rw [Json.isWritable] at h
    rw [Value.ofJson, Value.toJson, toFields_ofFields fields h]
    rfl

theorem toItems_ofItems (items : List Json) (h : Json.areWritable items = true) :
    Value.toItems (Value.ofItems items) = .ok items := by
  cases items with
  | nil => rfl
  | cons v rest =>
    simp only [Json.areWritable, Bool.and_eq_true] at h
    rw [Value.ofItems, Value.toItems, toJson_ofJson v h.1, toItems_ofItems rest h.2]
    rfl

theorem toFields_ofFields (fields : List (String × Json))
    (h : Json.areWritableFields fields = true) :
    Value.toFields (Value.ofFields fields) = .ok fields := by
  cases fields with
  | nil => rfl
  | cons field rest =>
    obtain ⟨k, v⟩ := field
    simp only [Json.areWritableFields, Bool.and_eq_true] at h
    rw [Value.ofFields, Value.toFields, toJson_ofJson v h.1, toFields_ofFields rest h.2]
    rfl

end

theorem Holds.jsonToken (h : Holds v o) (hw : (o.getD .null).isWritable = true) :
    jsonToken v = .ok (o.getD .null).text := by
  cases h with
  | missing why => rfl
  | value j =>
    have htoken : Grammar.jsonToken (Value.ofJson j) =
        (Value.ofJson j).toJson >>= fun w => Except.ok w.text := by
      cases j <;> rfl
    rw [htoken, toJson_ofJson j hw]
    rfl

theorem Holds.isTruthy (h : Holds v o) : v.isTruthy = (o.map Json.isTruthy).getD false := by
  cases h with
  | missing why => rfl
  | value j =>
    cases j with
    | null | bool | int | float | str => rfl
    | arr items => cases items <;> rfl
    | obj fields => cases fields <;> rfl

/-! ## Names of fields -/

/-- A name that no value has by its kind, so that only an object can have it. -/
def isFieldName (name : String) : Bool :=
  !(["real", "imag", "numerator", "denominator"].contains name) && !isReserved name &&
    !name.startsWith "_" &&
    [Value.str "", .list [], .table [], .bool true, .int 0, .float (.zero false)].all fun v =>
      !v.methods.contains name

theorem valueAt?_ofFields (fields : List (String × Json)) (name : String) :
    Value.valueAt? (Value.ofFields fields) (.str name) =
      (Fields.get? fields name).map Value.ofJson := by
  induction fields with
  | nil => rfl
  | cons field rest ih =>
    obtain ⟨k, v⟩ := field
    have hkey : (Value.str k).equiv (.str name) = (k == name) := rfl
    rw [Fields.get?_cons]
    unfold Value.valueAt? at ih ⊢
    rw [Value.ofFields, List.find?_cons, hkey]
    by_cases hk : k = name
    · simp [hk]
    · simp only [hk, beq_eq_false_iff_ne.2 hk, if_false]
      exact ih

theorem part?_of_isFieldName {name : String} (h : isFieldName name = true) (n : Number) :
    n.part? name = none := by
  have hnames : name ∉ ["real", "imag", "numerator", "denominator"] := by
    intro hmem
    simp [isFieldName, hmem] at h
  simp only [List.mem_cons, not_or] at hnames
  unfold Number.part?
  split <;> simp_all

/-- Apart from the place inside a loop, a value has only numbers' parts and methods of its own. -/
theorem ownAttribute?_eq_none {v : Value} {name : String} (hn : isFieldName name = true)
    (hloop : v.typeName ≠ "LoopContext") (hmethods : v.methods.contains name = false) :
    v.ownAttribute? name = none := by
  have hbind : v.number?.bind (Number.part? · name) = none := by
    cases v.number? with
    | none => rfl
    | some n => exact part?_of_isFieldName hn n
  have hreserved : isReserved name = false := by
    simp only [isFieldName, Bool.and_eq_true, Bool.not_eq_true'] at hn
    exact hn.1.1.2
  unfold Value.ownAttribute?
  split
  · exact absurd rfl hloop
  · rw [hbind]
    simp only [Value.ownAttribute?.common, hmethods, hreserved, Bool.false_eq_true, if_false]

/-- Only an object has a field of its own. -/
theorem Holds.attribute (h : Holds v o) {name : String} (hn : isFieldName name = true) :
    ∃ w, v.attribute name = .ok w ∧ Holds w (o.bind (·.get? name)) := by
  have hown {v : Value} := ownAttribute?_eq_none (v := v) hn
  simp only [isFieldName, Bool.and_eq_true, Bool.not_eq_true', List.all_cons, List.all_nil,
    and_true] at hn
  obtain ⟨⟨⟨-, -⟩, hunder⟩, hstr, hlist, -, hbool, hint, hfloat⟩ := hn
  have habsent (v : Value) (hattribute : v.attribute name = (v.ownAttribute? name).getD
      (.ok (.missing false (.attribute v.ownerName name)))) (hnone : v.ownAttribute? name = none) :
      ∃ w, v.attribute name = .ok w ∧ Holds w none :=
    ⟨_, by rw [hattribute, hnone]; rfl, .missing _⟩
  cases h with
  | missing why =>
    refine ⟨.missing false why, ?_, .missing why⟩
    simp only [Value.attribute, Bool.false_eq_true, if_false, hunder]
  | value j =>
    cases j with
    | null => exact habsent .null rfl (hown (by simp [Value.typeName]) rfl)
    | bool b => exact habsent (.bool b) rfl (hown (by simp [Value.typeName]) hbool)
    | int n => exact habsent (.int n) rfl (hown (by simp [Value.typeName]) hint)
    | float x => exact habsent (.float x) rfl (hown (by simp [Value.typeName]) hfloat)
    | str s => exact habsent (.str s) rfl (hown (by simp [Value.typeName]) hstr)
    | arr items => exact habsent (.list _) rfl (hown (by simp [Value.typeName]) hlist)
    | obj fields =>
      have hfield := valueAt?_ofFields fields name
      cases hget : Fields.get? fields name with
      | none =>
        rw [hget] at hfield
        refine ⟨_, by rw [Value.ofJson, Value.attribute, hfield]; rfl, ?_⟩
        simpa [Json.get?, hget] using Holds.missing _
      | some w =>
        rw [hget] at hfield
        refine ⟨.ofJson w, by rw [Value.ofJson, Value.attribute, hfield]; rfl, ?_⟩
        simpa [Json.get?, hget] using Holds.value w

end

/-! ## Meanings -/

/-- Undefined, null or a blank text. -/
def isUnfilled : Option Json → Bool
  | none | some .null => true
  | some (.str s) => Text.isAllBlank s
  | _ => false

/-- The first of two that is filled in, or else the second. -/
def pick (o p : Option Json) : Option Json := if isUnfilled o then p else o

/-- Whether it is the given text. -/
def isText (o : Option Json) (s : String) : Bool :=
  match o with
  | some (.str t) => t == s
  | _ => false

/-- Whether it is a list with items. -/
def isFilledArray : Option Json → Bool
  | some (.arr items) => !items.isEmpty
  | _ => false

/-- Whether a condition on it holds. -/
def isTrue (o : Option Json) : Bool := (o.map Json.isTruthy).getD false

theorem Holds.orFallback {v w : Value} {o p : Option Json} (hv : Holds v o) (hw : Holds w p) :
    Holds (Grammar.orFallback v w) (pick o p) := by
  cases hv with
  | missing why => exact hw
  | value j =>
    cases j with
    | null => exact hw
    | str s =>
      by_cases hs : Text.isAllBlank s = true
      · simpa [Value.ofJson, Grammar.orFallback, pick, isUnfilled, hs] using hw
      · simpa [Value.ofJson, Grammar.orFallback, pick, isUnfilled, hs] using Holds.value (.str s)
    | bool b => exact .value (.bool b)
    | int n => exact .value (.int n)
    | float x => exact .value (.float x)
    | arr items => exact .value (.arr items)
    | obj fields => exact .value (.obj fields)

theorem Holds.sameValue {v : Value} {o : Option Json} (h : Holds v o) (s : String) :
    Grammar.sameValue v (.str s) = isText o s := by
  cases h with
  | missing why => rfl
  | value j => cases j <;> rfl

theorem Holds.isFilledList {v : Value} {o : Option Json} (h : Holds v o) :
    Grammar.isFilledList v = isFilledArray o := by
  cases h with
  | missing why => rfl
  | value j =>
    cases j with
    | arr items => cases items <;> rfl
    | null | bool | int | float | str | obj => rfl

/-- The values of names. -/
abbrev Names := String → Except Fault Value

/-- The call of a helper. -/
def ask (h : Helper) (arguments : List Expr) : Expr :=
  .call (.name h.name) (arguments.map (Passing.plain, ·))

/-- The expression has a value that stands for this. -/
def Means (names : Names) (e : Expr) (o : Option Json) : Prop :=
  ∃ v, e.eval names = .ok v ∧ Holds v o

/-- The expression has a value, and whether a condition on it holds. -/
def Decides (names : Names) (e : Expr) (b : Bool) : Prop :=
  ∃ v, e.eval names = .ok v ∧ v.isTruthy = b

section
variable {names : Names} {e a b : Expr} {o p : Option Json} {x y : Bool}

theorem Means.text (s : String) : Means names (.const (.str s)) (some (.str s)) :=
  ⟨_, rfl, .value (.str s)⟩

theorem Means.null : Means names (.const .null) (some .null) := ⟨_, rfl, .value .null⟩

theorem Means.name {s : String} {v : Value} (hv : names s = .ok v) (h : Holds v o) :
    Means names (.name s) o := ⟨v, hv, h⟩

theorem Means.attribute (h : Means names e o) {name : String} (hn : isFieldName name = true) :
    Means names (.attribute e name) (o.bind (·.get? name)) := by
  obtain ⟨v, hv, hholds⟩ := h
  obtain ⟨w, hw, hfield⟩ := hholds.attribute hn
  refine ⟨w, ?_, hfield⟩
  rw [Expr.eval, hv]
  exact hw

theorem eval_ask_one {h : Helper} (hh : names h.name = .ok (.helper h)) {v : Value}
    (ha : a.eval names = .ok v) : (ask h [a]).eval names = h.call ⟨[v], []⟩ := by
  simp only [ask, List.map_cons, List.map_nil, Expr.eval, hh, evalArguments, ha, Arguments.add,
    bind, Except.bind, List.nil_append]
  rfl

theorem eval_ask_two {h : Helper} (hh : names h.name = .ok (.helper h)) {v w : Value}
    (ha : a.eval names = .ok v) (hb : b.eval names = .ok w) :
    (ask h [a, b]).eval names = h.call ⟨[v, w], []⟩ := by
  simp only [ask, List.map_cons, List.map_nil, Expr.eval, hh, evalArguments, ha, hb, Arguments.add,
    bind, Except.bind, List.nil_append]
  rfl

theorem Means.fallback (hh : names "default" = .ok (.helper .default)) (ha : Means names a o)
    (hb : Means names b p) : Means names (ask .default [a, b]) (pick o p) := by
  obtain ⟨v, hv, hholds⟩ := ha
  obtain ⟨w, hw, hother⟩ := hb
  exact ⟨orFallback v w, (eval_ask_two (h := .default) hh hv hw).trans rfl,
    hholds.orFallback hother⟩

theorem Means.eval_json (hh : names "json" = .ok (.helper .json)) (h : Means names e o)
    (hw : (o.getD .null).isWritable = true) :
    (ask .json [e]).eval names = .ok (.str (o.getD .null).text) := by
  obtain ⟨v, hv, hholds⟩ := h
  have htoken := hholds.jsonToken hw
  rw [eval_ask_one (h := .json) hh hv]
  have hcall : Helper.json.call ⟨[v], []⟩ = jsonToken v >>= fun s => Except.ok (.str s) := rfl
  rw [hcall, htoken]
  rfl

theorem Means.decides (h : Means names e o) : Decides names e (isTrue o) := by
  obtain ⟨v, hv, hholds⟩ := h
  exact ⟨v, hv, hholds.isTruthy⟩

theorem Decides.not (h : Decides names e x) : Decides names (.not e) (!x) := by
  obtain ⟨v, hv, rfl⟩ := h
  refine ⟨.bool (!v.isTruthy), ?_, rfl⟩
  rw [Expr.eval, hv]
  rfl

theorem Decides.eq (hh : names "eq" = .ok (.helper .eq)) (h : Means names e o) (s : String) :
    Decides names (ask .eq [e, .const (.str s)]) (isText o s) := by
  obtain ⟨v, hv, hholds⟩ := h
  exact ⟨.bool (sameValue v (.str s)),
    (eval_ask_two (h := .eq) hh hv (w := .str s) rfl).trans rfl, hholds.sameValue s⟩

theorem Decides.ne (hh : names "ne" = .ok (.helper .ne)) (h : Means names e o) (s : String) :
    Decides names (ask .ne [e, .const (.str s)]) (!isText o s) := by
  obtain ⟨v, hv, hholds⟩ := h
  exact ⟨.bool (!sameValue v (.str s)),
    (eval_ask_two (h := .ne) hh hv (w := .str s) rfl).trans rfl,
    congrArg Bool.not (hholds.sameValue s)⟩

theorem Decides.both (hh : names "and_" = .ok (.helper .all)) (ha : Decides names a x)
    (hb : Decides names b y) : Decides names (ask .all [a, b]) (x && y) := by
  obtain ⟨v, hv, rfl⟩ := ha
  obtain ⟨w, hw, rfl⟩ := hb
  refine ⟨.bool (v.isTruthy && w.isTruthy), ?_, rfl⟩
  rw [eval_ask_two (h := .all) hh hv hw]
  simp [Helper.call]

theorem Decides.hasItems (hh : names "hasItems" = .ok (.helper .hasItems)) (h : Means names e o) :
    Decides names (ask .hasItems [e]) (isFilledArray o) := by
  obtain ⟨v, hv, hholds⟩ := h
  exact ⟨.bool (isFilledList v), (eval_ask_one (h := .hasItems) hh hv).trans rfl,
    hholds.isFilledList⟩

end

end FlexForm.Grammar
