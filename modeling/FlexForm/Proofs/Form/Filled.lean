import FlexForm.Proofs.Form.Occurrences
import FlexForm.Proofs.Path.Resolution

/-! # What is checked of a filled field

A field that has a value is not asked whether it needs one, unless by a condition whose path cannot
be read. All rules for its type and its constraints are then applied, each for itself.

* `Field.check_text`, `Field.check_plain`: the check of a value as its flaws.
* `Field.check_lengths`: the reports on the length of a text. A greatest length of zero limits
  nothing.
* `Field.check_color`: the colours that are accepted. One line end may follow.
-/

namespace FlexForm
set_option autoImplicit false

/-! ## Filled fields -/

/-- The condition of the field is looked up in an object, and its path leads to a list and on to a
segment that is no index. -/
def Field.IsStuck (f : Field) (scope : Json) : Prop :=
  f.info.required = false ∧ scope.isObject = true ∧
    ∃ condition, f.constraints.requiredIf = some condition ∧
      scope.Stalls (Path.segments condition.path)

/-- The flaws of a value as problems of the field. -/
def Field.reports (f : Field) (v : Json) (path : String) : List Problem :=
  (f.flaws v).map fun flaw => ⟨path, flaw, some f.key⟩

section
variable {f : Field} {v scope : Json} {path : String}

theorem Field.isRequired_error_iff (value : Option Json) :
    (∃ fault, f.isRequired value scope = .error fault) ↔ f.IsStuck scope := by
  unfold isRequired IsStuck
  cases hrequired : f.info.required with
  | true => simp
  | false =>
    cases hcondition : f.constraints.requiredIf with
    | none => simp
    | some condition =>
      cases scope with
      | obj fields =>
        have hstalls : (∃ fault, (Json.obj fields).at? condition.path = .error fault) ↔
            (Json.obj fields).Stalls (Path.segments condition.path) := Json.follow?_error_iff
        simp only [Bool.false_eq_true, if_false, Option.some.injEq, exists_eq_left', Json.isObject,
          true_and, ← hstalls]
        cases (Json.obj fields).at? condition.path with
        | error fault => exact iff_of_true ⟨fault, rfl⟩ ⟨fault, rfl⟩
        | ok found =>
          refine iff_of_false ?_ (by simp)
          rintro ⟨fault, h⟩
          cases found <;> cases h
      | null | bool | int | float | str | arr => simp [Json.isObject]

theorem Field.checkWith_filled (hv : Json.isEmpty (some v) = false) :
    f.checkWith (some v) path scope (fun _ => .ok []) =
      (f.isRequired (some v) scope).map fun _ => f.reports v path := by
  unfold checkWith
  cases hrequired : f.isRequired (some v) scope with
  | error fault => rfl
  | ok required =>
    obtain rfl := isRequired_filled hv hrequired
    cases v with
    | arr items => exact congrArg Except.ok (List.append_nil _)
    | null | str s => simp [bind, Except.bind, Except.map, hv, reports, pure, Except.pure]
    | bool | int | float | obj => rfl

/-- A text is no list, so nothing inside of it is looked at. -/
theorem Field.check_text {s : String} (hs : s ≠ "") :
    f.check (some (.str s)) path scope =
      (f.isRequired (some (.str s)) scope).map fun _ => f.reports (.str s) path := by
  have hfilled : Json.isEmpty (some (.str s)) = false := beq_eq_false_iff_ne.2 hs
  rw [← checkWith_filled hfilled]
  cases f with
  | plain info type | select info options => rw [check]
  | repeatable info title fields => rw [check, checkWith_congr (by simp)]

theorem Field.check_plain {info : FieldInfo} {type : PlainType}
    (hv : Json.isEmpty (some v) = false) :
    (Field.plain info type).check (some v) path scope =
      ((Field.plain info type).isRequired (some v) scope).map fun _ =>
        (Field.plain info type).reports v path := by
  rw [check, checkWith_filled hv]

end

/-! ## Lengths -/

def Flaw.isTooLong : Flaw → Bool
  | .tooLong .. => true
  | _ => false

def Flaw.isTooShort : Flaw → Bool
  | .tooShort .. => true
  | _ => false

def Flaw.isOfLength (flaw : Flaw) : Bool := flaw.isTooLong || flaw.isTooShort

def FieldInfo.unlimited (info : FieldInfo) : FieldInfo :=
  { info with constraints := { info.constraints with maxLength := none, minLength := none } }

/-- The field without limits of length. -/
def Field.unlimited : Field → Field
  | .plain info type => .plain info.unlimited type
  | .select info options => .select info.unlimited options
  | .repeatable info title fields => .repeatable info.unlimited title fields

section
variable {label s : String} {v : Json}

theorem activeLimit?_of_ne {n : Int} (h : n ≠ 0) : activeLimit? (some n) = some n := by
  simp [activeLimit?, h]

theorem Constraints.mem_textFlaws {c : Constraints} {flaw : Flaw} :
    flaw ∈ c.textFlaws label s ↔
      (∃ n, c.maxLength = some n ∧ n ≠ 0 ∧ n < s.length ∧ flaw = .tooLong label n s.length) ∨
        ∃ n, c.minLength = some n ∧ s.length < n ∧ flaw = .tooShort label n := by
  have hnonneg : ¬ (s.length : Int) < 0 := by omega
  rw [textFlaws, List.mem_append]
  refine or_congr ?_ ?_
  · cases c.maxLength with
    | none => simp [activeLimit?]
    | some n =>
      by_cases hzero : n = 0
      · simp [hzero, show activeLimit? (some 0) = none from rfl]
      · simp [activeLimit?_of_ne, hzero]
  · cases c.minLength with
    | none => simp [activeLimit?]
    | some n =>
      by_cases hzero : n = 0
      · simp [hzero, show activeLimit? (some 0) = none from rfl, hnonneg]
      · simp [activeLimit?_of_ne, hzero]

/-- None of the flaws is of the kind. -/
def Lacks (kind : Flaw → Bool) (flaws : List Flaw) : Prop := ∀ flaw ∈ flaws, kind flaw = false

section
variable {kind : Flaw → Bool}

theorem Lacks.nil : Lacks kind [] := fun _ h => absurd h List.not_mem_nil

theorem Lacks.singleton {flaw : Flaw} (h : kind flaw = false) : Lacks kind [flaw] := by
  intro other hmem
  rwa [List.mem_singleton.1 hmem]

theorem lacks_append {front back : List Flaw} :
    Lacks kind (front ++ back) ↔ Lacks kind front ∧ Lacks kind back := List.forall_mem_append

theorem lacks_colorFlaws (h : kind (.notColor label) = false) :
    Lacks kind (colorFlaws label v) := by
  unfold colorFlaws
  split
  · split
    · exact .nil
    · exact .singleton h
  · exact .singleton h

theorem lacks_jsonFlaws (htext : kind (.notJson label) = false)
    (hvalue : kind (.notJsonObject label) = false) : Lacks kind (jsonFlaws label v) := by
  unfold jsonFlaws
  split
  · split
    · exact .nil
    · exact .singleton htext
  · split
    · exact .nil
    · exact .singleton hvalue

theorem lacks_linkFlaws {secure : Bool} (hlink : kind (.notLink label) = false)
    (hsecure : kind (.notSecure label) = false) : Lacks kind (linkFlaws label secure v) := by
  simp only [linkFlaws]
  split
  · exact .singleton hlink
  · split
    · exact .singleton hsecure
    · exact .nil

theorem lacks_patternFlaws {pattern : Option Regex} (h : kind (.noMatch label) = false) :
    Lacks kind (patternFlaws label pattern v) := by
  unfold patternFlaws
  split
  · split
    · split
      · exact .nil
      · exact .singleton h
    · exact .nil
  · exact .nil

end

theorem Field.label_unlimited (f : Field) : f.unlimited.label = f.label := by cases f <;> rfl

theorem Field.constraints_unlimited (f : Field) :
    f.unlimited.constraints = { f.constraints with maxLength := none, minLength := none } := by
  cases f <;> rfl

theorem Field.flaws_text (f : Field) (s : String) :
    ∃ front back, Lacks Flaw.isOfLength front ∧ Lacks Flaw.isOfLength back ∧
      f.flaws (.str s) = front ++ (f.constraints.textFlaws f.label s ++ back) ∧
      f.unlimited.flaws (.str s) = front ++ back := by
  have hnone (c : Constraints) (label : String) :
      Constraints.textFlaws { c with maxLength := none, minLength := none } label s = [] := rfl
  have hcolor : Lacks Flaw.isOfLength (colorFlaws f.label (.str s)) := lacks_colorFlaws rfl
  have hjson : Lacks Flaw.isOfLength (jsonFlaws f.label (.str s)) := lacks_jsonFlaws rfl rfl
  have hlink : Lacks Flaw.isOfLength (linkFlaws f.label f.constraints.httpsOnly (.str s)) :=
    lacks_linkFlaws rfl rfl
  have hpattern : Lacks Flaw.isOfLength (patternFlaws f.label f.constraints.pattern (.str s)) :=
    lacks_patternFlaws rfl
  have hlist : Lacks Flaw.isOfLength [.notList f.label] := .singleton rfl
  simp only [flaws, label_unlimited, constraints_unlimited, hnone]
  cases f with
  | plain info type =>
    simp only [unlimited]
    cases type with
    | text | textarea | number => exact ⟨[], _, .nil, hpattern, by simp, by simp⟩
    | color => exact ⟨_, _, hcolor, hpattern, by simp, by simp⟩
    | json => exact ⟨_, _, hjson, hpattern, by simp, by simp⟩
    | url | imageUrl => exact ⟨[], _, .nil, lacks_append.2 ⟨hlink, hpattern⟩, by simp, by simp⟩
  | select info options =>
    simp only [unlimited]
    exact ⟨[], _, .nil, hpattern, by simp, by simp⟩
  | repeatable info title fields =>
    simp only [unlimited]
    exact ⟨[], _, .nil, lacks_append.2 ⟨hpattern, hlist⟩, by simp, by simp⟩

theorem Constraints.isOfLength_of_mem_textFlaws {c : Constraints} {flaw : Flaw}
    (h : flaw ∈ c.textFlaws label s) : flaw.isOfLength = true := by
  rcases mem_textFlaws.1 h with ⟨n, -, -, -, rfl⟩ | ⟨n, -, -, rfl⟩ <;> rfl

theorem Field.mem_flaws_text {f : Field} {flaw : Flaw} (h : flaw.isOfLength = true) :
    flaw ∈ f.flaws (.str s) ↔ flaw ∈ f.constraints.textFlaws f.label s := by
  obtain ⟨front, back, hfront, hback, hflaws, -⟩ := f.flaws_text s
  have hne : flaw.isOfLength ≠ false := by rw [h]; exact Bool.noConfusion
  rw [hflaws, List.mem_append, List.mem_append]
  simp [mt (hfront flaw) hne, mt (hback flaw) hne]

theorem Field.flaws_unlimited (f : Field) (s : String) :
    f.unlimited.flaws (.str s) = (f.flaws (.str s)).filter fun flaw => !flaw.isOfLength := by
  obtain ⟨front, back, hfront, hback, hflaws, hunlimited⟩ := f.flaws_text s
  have hlengths :
      (f.constraints.textFlaws f.label s).filter (fun flaw => !flaw.isOfLength) = [] := by
    rw [List.filter_eq_nil_iff]
    intro flaw h
    simp [Constraints.isOfLength_of_mem_textFlaws h]
  have hothers {flaws : List Flaw} (h : Lacks Flaw.isOfLength flaws) :
      flaws.filter (fun flaw => !flaw.isOfLength) = flaws :=
    List.filter_eq_self.2 fun flaw hmem => by rw [h flaw hmem]; rfl
  rw [hunlimited, hflaws, List.filter_append, List.filter_append, hlengths, hothers hfront,
    hothers hback, List.nil_append]

theorem Field.isRequired_unlimited (f : Field) (value : Option Json) (scope : Json) :
    f.unlimited.isRequired value scope = f.isRequired value scope := by
  cases f <;> rfl

theorem Field.reports_unlimited (f : Field) (s path : String) :
    f.unlimited.reports (.str s) path =
      (f.reports (.str s) path).filter fun p => !p.flaw.isOfLength := by
  have hkey : f.unlimited.key = f.key := by cases f <;> rfl
  rw [reports, reports, flaws_unlimited, hkey, List.filter_map]
  rfl

theorem Field.mem_reports_kind {f : Field} {path : String} {p : Problem} {kind : Flaw → Bool}
    (hkind : ∀ flaw, kind flaw = true → flaw.isOfLength = true) :
    p ∈ f.reports (.str s) path ∧ kind p.flaw = true ↔
      ∃ flaw ∈ f.constraints.textFlaws f.label s,
        kind flaw = true ∧ p = ⟨path, flaw, some f.key⟩ := by
  rw [reports, List.mem_map]
  constructor
  · rintro ⟨⟨flaw, hflaw, rfl⟩, h⟩
    exact ⟨flaw, (mem_flaws_text (hkind flaw h)).1 hflaw, h, rfl⟩
  · rintro ⟨flaw, hflaw, h, rfl⟩
    exact ⟨⟨flaw, (mem_flaws_text (hkind flaw h)).2 hflaw, rfl⟩, h⟩

theorem Constraints.exists_tooLong {c : Constraints} {q : Flaw → Prop} :
    (∃ flaw ∈ c.textFlaws label s, flaw.isTooLong = true ∧ q flaw) ↔
      ∃ n, c.maxLength = some n ∧ n ≠ 0 ∧ n < s.length ∧ q (.tooLong label n s.length) := by
  constructor
  · rintro ⟨flaw, hflaw, hkind, hq⟩
    rcases mem_textFlaws.1 hflaw with ⟨n, hmax, hn, hlong, rfl⟩ | ⟨n, -, -, rfl⟩
    · exact ⟨n, hmax, hn, hlong, hq⟩
    · cases hkind
  · rintro ⟨n, hmax, hn, hlong, hq⟩
    exact ⟨_, mem_textFlaws.2 (.inl ⟨n, hmax, hn, hlong, rfl⟩), rfl, hq⟩

theorem Constraints.exists_tooShort {c : Constraints} {q : Flaw → Prop} :
    (∃ flaw ∈ c.textFlaws label s, flaw.isTooShort = true ∧ q flaw) ↔
      ∃ n, c.minLength = some n ∧ s.length < n ∧ q (.tooShort label n) := by
  constructor
  · rintro ⟨flaw, hflaw, hkind, hq⟩
    rcases mem_textFlaws.1 hflaw with ⟨n, -, -, -, rfl⟩ | ⟨n, hmin, hshort, rfl⟩
    · cases hkind
    · exact ⟨n, hmin, hshort, hq⟩
  · rintro ⟨n, hmin, hshort, hq⟩
    exact ⟨_, mem_textFlaws.2 (.inr ⟨n, hmin, hshort, rfl⟩), rfl, hq⟩

end

/-- The length of a text is reported on exactly as its limits say, whatever else is wrong with it,
but for a greatest length of zero, which allows texts of any length. The other reports are those
that there would be without limits. No report comes at all only where the field is stuck with its
condition. -/
theorem Field.check_lengths (f : Field) {s : String} (hs : s ≠ "") (path : String) (scope : Json) :
    ((∃ fault, f.check (some (.str s)) path scope = .error fault) ↔ f.IsStuck scope) ∧
    ∀ problems, f.check (some (.str s)) path scope = .ok problems →
      (∀ p, p ∈ problems ∧ p.flaw.isTooLong = true ↔
        ∃ n, f.constraints.maxLength = some n ∧ n ≠ 0 ∧ n < s.length ∧
          p = ⟨path, .tooLong f.label n s.length, some f.key⟩) ∧
      (∀ p, p ∈ problems ∧ p.flaw.isTooShort = true ↔
        ∃ n, f.constraints.minLength = some n ∧ s.length < n ∧
          p = ⟨path, .tooShort f.label n, some f.key⟩) ∧
      f.unlimited.check (some (.str s)) path scope =
        .ok (problems.filter fun p => !p.flaw.isOfLength) := by
  rw [check_text hs, check_text hs, isRequired_unlimited,
    ← isRequired_error_iff (some (.str s))]
  cases f.isRequired (some (.str s)) scope with
  | error fault =>
    refine ⟨iff_of_true ⟨fault, rfl⟩ ⟨fault, rfl⟩, fun problems h => ?_⟩
    cases h
  | ok required =>
    refine ⟨iff_of_false (by simp [Except.map]) (by simp), fun problems h => ?_⟩
    cases h
    refine ⟨fun p => ?_, fun p => ?_, congrArg Except.ok (f.reports_unlimited s path)⟩
    · rw [mem_reports_kind fun flaw h => Bool.or_eq_true_iff.2 (.inl h)]
      exact Constraints.exists_tooLong
    · rw [mem_reports_kind fun flaw h => Bool.or_eq_true_iff.2 (.inr h)]
      exact Constraints.exists_tooShort

/-- A field for a colour with a greatest length of zero and a least one of three. -/
def strictField : Field :=
  .plain { key := "k", constraints := { maxLength := some 0, minLength := some 3 } } .color

/-- The least length is asked for beside the colour. The greatest one is not. -/
theorem Field.check_lengths_of_zero :
    "ab" ≠ "" ∧
    strictField.check (some (.str "ab")) "k" .null =
      .ok [⟨"k", .notColor "k", some "k"⟩, ⟨"k", .tooShort "k" 3, some "k"⟩] ∧
    (∃ n, strictField.constraints.minLength = some n ∧ "ab".length < n ∧
      (⟨"k", .tooShort "k" 3, some "k"⟩ : Problem) = ⟨"k", .tooShort "k" n, some "k"⟩) ∧
    strictField.unlimited.check (some (.str "ab")) "k" .null =
      .ok [⟨"k", .notColor "k", some "k"⟩] := by
  have hcheck : strictField.check (some (.str "ab")) "k" .null =
      .ok [⟨"k", .notColor "k", some "k"⟩, ⟨"k", .tooShort "k" 3, some "k"⟩] := by rfl
  have hne : "ab" ≠ "" := by decide
  obtain ⟨-, hshort, hothers⟩ := (Field.check_lengths strictField hne "k" .null).2 _ hcheck
  exact ⟨hne, hcheck, (hshort _).1 ⟨by decide, rfl⟩, hothers⟩

/-! ## Colours -/

/-- The digits of base sixteen, in both cases. -/
def hexDigits : List Char := "0123456789abcdefABCDEF".toList

/-- A number sign and six or eight digits. -/
def IsColorCode (cs : List Char) : Prop :=
  ∃ digits, cs = '#' :: digits ∧ (digits.length = 6 ∨ digits.length = 8) ∧
    ∀ c ∈ digits, c ∈ hexDigits

/-- The code of a colour, or such a code and a line end. -/
def IsColorText (cs : List Char) : Prop :=
  IsColorCode cs ∨ ∃ code, cs = code ++ ['\n'] ∧ IsColorCode code

section
variable {cs : List Char}

theorem isHexDigit_iff {c : Char} : isHexDigit c = true ↔ c ∈ hexDigits := by
  constructor
  · intro h
    have hlow : c.toNat < 128 := by
      simp only [isHexDigit, Char.isDigit, Bool.or_eq_true, Bool.and_eq_true, decide_eq_true_eq,
        Char.le_def, UInt32.le_iff_toNat_le] at h
      rcases h with (⟨-, h⟩ | ⟨-, h⟩) | ⟨-, h⟩ <;> exact Nat.lt_of_le_of_lt h (by decide)
    have htable : ∀ n < 128, isHexDigit (Char.ofNat n) = true → Char.ofNat n ∈ hexDigits := by
      decide +kernel
    rw [← Char.ofNat_toNat c] at h ⊢
    exact htable _ hlow h
  · have htable : hexDigits.all isHexDigit = true := by decide
    exact List.all_eq_true.1 htable c

theorem IsColorCode.getLast?_ne (h : IsColorCode cs) : cs.getLast? ≠ some '\n' := by
  obtain ⟨digits, rfl, -, hdigits⟩ := h
  rw [List.getLast?_cons]
  intro hlast
  have hline : '\n' ∉ hexDigits := by decide
  cases hend : digits.getLast? with
  | none => simp [hend] at hlast
  | some c =>
    rw [hend, Option.getD_some, Option.some.injEq] at hlast
    exact hline (hlast ▸ hdigits c (List.mem_of_getLast? hend))

theorem isColorText_iff :
    IsColorText cs ↔ IsColorCode (if cs.getLast? == some '\n' then cs.dropLast else cs) := by
  by_cases hline : cs.getLast? = some '\n'
  · obtain ⟨code, rfl⟩ := List.getLast?_eq_some_iff.1 hline
    have hno : ¬ IsColorCode (code ++ ['\n']) := fun h => h.getLast?_ne hline
    simp [IsColorText, hno]
  · have hno : ¬ ∃ code, cs = code ++ ['\n'] ∧ IsColorCode code := by
      rintro ⟨code, rfl, -⟩
      exact hline List.getLast?_concat
    rw [if_neg (mt beq_iff_eq.1 hline), IsColorText, or_iff_left hno]

theorem isColor_iff {s : String} : isColor s = true ↔ IsColorText s.toList := by
  simp only [isColor, isColorText_iff]
  split
  next digits hcode =>
    rw [hcode]
    simp [IsColorCode, isHexDigit_iff]
  next hne =>
    refine iff_of_false Bool.false_ne_true ?_
    rintro ⟨digits, hcode, -⟩
    exact hne digits hcode

theorem colorFlaws_eq_nil_iff (label : String) (v : Json) :
    colorFlaws label v = [] ↔ ∃ s, v = .str s ∧ IsColorText s.toList := by
  cases v with
  | str s => simp [colorFlaws, isColor_iff]
  | null | bool | int | float | arr | obj => simp [colorFlaws]

theorem colorFlaws_eq_singleton_iff (label : String) (v : Json) :
    colorFlaws label v = [.notColor label] ↔ ¬ ∃ s, v = .str s ∧ IsColorText s.toList := by
  cases v with
  | str s => simp [colorFlaws, isColor_iff]
  | null | bool | int | float | arr | obj => simp [colorFlaws]

theorem Field.flaws_color {info : FieldInfo} (hfree : info.constraints = {}) (v : Json) :
    (Field.plain info .color).flaws v = colorFlaws (Field.plain info .color).label v := by
  have hc : (Field.plain info .color).constraints = {} := hfree
  cases v <;> simp [flaws, hc, Constraints.textFlaws, activeLimit?, patternFlaws]

end

/-- Without constraints, a field for a colour accepts the codes of colours and nothing else, but for
a line end that may follow. -/
theorem Field.check_color {info : FieldInfo} (hfree : info.constraints = {}) {v : Json}
    (hv : Json.isEmpty (some v) = false) (path : String) (scope : Json) :
    ((Field.plain info .color).check (some v) path scope = .ok [] ↔
      ∃ s, v = .str s ∧ IsColorText s.toList) ∧
    ((Field.plain info .color).check (some v) path scope =
        .ok [⟨path, .notColor (Field.plain info .color).label, some info.key⟩] ↔
      ¬ ∃ s, v = .str s ∧ IsColorText s.toList) := by
  have hreports : (Field.plain info .color).reports v path =
      (colorFlaws (Field.plain info .color).label v).map fun flaw =>
        ⟨path, flaw, some info.key⟩ := by
    rw [Field.reports, Field.flaws_color hfree, Field.key, Field.info]
  rw [Field.check_plain hv, hreports,
    ← colorFlaws_eq_singleton_iff (Field.plain info .color).label,
    ← colorFlaws_eq_nil_iff (Field.plain info .color).label]
  cases hrequired : (Field.plain info .color).isRequired (some v) scope with
  | error fault =>
    -- there is no condition to be stuck with
    obtain ⟨-, -, condition, hcondition, -⟩ := (Field.isRequired_error_iff _).1 ⟨fault, hrequired⟩
    have hc : (Field.plain info .color).constraints = {} := hfree
    rw [hc] at hcondition
    cases hcondition
  | ok required => simp [Except.map, List.map_eq_cons_iff]

/-- A field for a colour without constraints. -/
def colorInfo : FieldInfo := { key := "c" }

/-- A line end behind a code is overlooked. -/
theorem Field.check_color_line :
    colorInfo.constraints = {} ∧ Json.isEmpty (some (.str "#06C755\n")) = false ∧
    (Field.plain colorInfo .color).check (some (.str "#06C755\n")) "c" .null = .ok [] := by
  have hfilled : Json.isEmpty (some (.str "#06C755\n")) = false := by decide
  have hdigits : "06C755".toList ⊆ hexDigits := by decide
  have hcode : IsColorText "#06C755\n".toList :=
    .inr ⟨"#06C755".toList, by decide, "06C755".toList, by decide, .inl rfl, fun _ h => hdigits h⟩
  exact ⟨rfl, hfilled, (Field.check_color rfl hfilled "c" .null).1.2 ⟨_, rfl, hcode⟩⟩

end FlexForm
