import FlexForm.Proofs.Json.Steps

/-! # Texts that spell a value

A text spells a row of pieces when it consists of them in this order, with white space where it may
stand. What a value is made of is such a row, and every text that spells it is read as that value.
Rows are built in front of what follows, so a text can be put together from parts.

* `Piece`, `pieces`: the row of a value.
* `Spells`: what a text consists of.
* `hasDistinctKeys`: no object inside has a key twice.
* `readChars_of_spells`: a text that spells a value is read as that value.
-/

namespace FlexForm.Json
set_option autoImplicit false

/-! ## Pieces -/

/-- A sign of punctuation, a string, or a value that is neither a string nor a container. -/
inductive Piece where
  | mark (c : Char)
  | text (s : String)
  | scalar (v : Json)

mutual

/-- The pieces of a value in front of others. -/
def pieces : Json → List Piece → List Piece
  | .arr [], qs => .mark '[' :: .mark ']' :: qs
  | .arr (v :: rest), qs => .mark '[' :: pieces v (moreItems rest (.mark ']' :: qs))
  | .obj [], qs => .mark '{' :: .mark '}' :: qs
  | .obj ((k, v) :: rest), qs =>
    .mark '{' :: .text k :: .mark ':' :: pieces v (moreFields rest (.mark '}' :: qs))
  | .str s, qs => .text s :: qs
  | .null, qs => .scalar .null :: qs
  | .bool b, qs => .scalar (.bool b) :: qs
  | .int n, qs => .scalar (.int n) :: qs
  | .float x, qs => .scalar (.float x) :: qs

/-- The pieces of the items after the first one. -/
def moreItems : List Json → List Piece → List Piece
  | [], qs => qs
  | v :: rest, qs => .mark ',' :: pieces v (moreItems rest qs)

/-- The pieces of the fields after the first one. -/
def moreFields : List (String × Json) → List Piece → List Piece
  | [], qs => qs
  | (k, v) :: rest, qs => .mark ',' :: .text k :: .mark ':' :: pieces v (moreFields rest qs)

end

theorem moreItems_append (items more : List Json) (qs : List Piece) :
    moreItems (items ++ more) qs = moreItems items (moreItems more qs) := by
  induction items with
  | nil => rfl
  | cons v rest ih => rw [List.cons_append, moreItems, moreItems, ih]

theorem moreFields_append (fields more : List (String × Json)) (qs : List Piece) :
    moreFields (fields ++ more) qs = moreFields fields (moreFields more qs) := by
  induction fields with
  | nil => rfl
  | cons f rest ih => rw [List.cons_append, moreFields, moreFields, ih]

/-! ## Spelling -/

def isMark (c : Char) : Bool :=
  c == '[' || c == ']' || c == '{' || c == '}' || c == ',' || c == ':'

/-- A character with which a number or a name may begin, as far as other pieces do not. -/
def startsScalar (c : Char) : Bool :=
  !isSpace c && !isMark c && c != '"' && c != '\uFEFF'

/-- The text consists of the pieces, with white space between them. -/
inductive Spells (special : Bool) : List Char → List Piece → Prop where
  | done : Spells special [] []
  | space {c : Char} {s : List Char} {qs : List Piece} (hc : isSpace c = true)
      (h : Spells special s qs) : Spells special (c :: s) qs
  | mark {c : Char} {s : List Char} {qs : List Piece} (hc : isMark c = true)
      (h : Spells special s qs) : Spells special (c :: s) (.mark c :: qs)
  | text {s rest : List Char} {t : String} {qs : List Piece} (hs : readQuoted s = .ok (t, rest))
      (hlen : rest.length ≤ s.length) (h : Spells special rest qs) :
      Spells special ('"' :: s) (.text t :: qs)
  | scalar {c : Char} {s rest : List Char} {v : Json} {qs : List Piece}
      (hc : startsScalar c = true) (hs : readScalar special (c :: s) = .ok (v, rest))
      (hlen : rest.length ≤ s.length) (h : Spells special rest qs) :
      Spells special (c :: s) (.scalar v :: qs)

/-- The text does not begin with white space. -/
def NoSpace (s : List Char) : Prop := ∀ c, s.head? = some c → isSpace c = false

theorem noSpace_skipSpace (s : List Char) : NoSpace (skipSpace s) := by
  intro c hc
  induction s with
  | nil => cases hc
  | cons a rest ih =>
    unfold skipSpace at hc ih
    rw [List.dropWhile_cons] at hc
    split at hc
    · exact ih hc
    · rename_i ha
      simp only [List.head?_cons, Option.some.injEq] at hc
      rw [← hc]
      simpa using ha

theorem length_skipSpace_le (s : List Char) : (skipSpace s).length ≤ s.length :=
  (List.dropWhile_suffix isSpace).length_le

theorem isSpace_of_isMark {c : Char} (h : isMark c = true) : isSpace c = false := by
  simp only [isMark, Bool.or_eq_true, beq_iff_eq] at h
  rcases h with ((((rfl | rfl) | rfl) | rfl) | rfl) | rfl <;> rfl

theorem isSpace_of_startsScalar {c : Char} (h : startsScalar c = true) : isSpace c = false := by
  simp only [startsScalar, Bool.and_eq_true, Bool.not_eq_true'] at h
  exact h.1.1.1

theorem Spells.trimmed {special : Bool} {s : List Char} {qs : List Piece}
    (h : Spells special s qs) : Spells special (skipSpace s) qs := by
  unfold skipSpace
  induction h with
  | done => exact .done
  | space hc h ih => rwa [List.dropWhile_cons_of_pos hc]
  | mark hc h ih =>
    rw [List.dropWhile_cons_of_neg (by simp [isSpace_of_isMark hc])]
    exact .mark hc h
  | text hs hlen h ih => exact .text hs hlen h
  | scalar hc hs hlen h ih =>
    rw [List.dropWhile_cons_of_neg (by simp [isSpace_of_startsScalar hc])]
    exact .scalar hc hs hlen h

/-! ## What a text begins with -/

section
variable {special : Bool} {s : List Char} {qs : List Piece}

theorem Spells.of_mark {c : Char} (h : Spells special s (.mark c :: qs)) (hs : NoSpace s) :
    ∃ rest, s = c :: rest ∧ Spells special rest qs := by
  cases h with
  | space hc h => exact absurd (hs _ rfl) (by simp [hc])
  | mark hc h => exact ⟨_, rfl, h⟩

theorem Spells.of_text {t : String} (h : Spells special s (.text t :: qs)) (hs : NoSpace s) :
    ∃ inside rest, s = '"' :: inside ∧ readQuoted inside = .ok (t, rest) ∧
      rest.length ≤ inside.length ∧ Spells special rest qs := by
  cases h with
  | space hc h => exact absurd (hs _ rfl) (by simp [hc])
  | text hs hlen h => exact ⟨_, _, rfl, hs, hlen, h⟩

theorem Spells.of_scalar {v : Json} (h : Spells special s (.scalar v :: qs)) (hs : NoSpace s) :
    ∃ c more rest, s = c :: more ∧ startsScalar c = true ∧
      readScalar special s = .ok (v, rest) ∧ rest.length ≤ more.length ∧
      Spells special rest qs := by
  cases h with
  | space hc h => exact absurd (hs _ rfl) (by simp [hc])
  | scalar hc hs hlen h => exact ⟨_, _, _, rfl, hc, hs, hlen, h⟩

theorem Spells.of_nil (h : Spells special s []) : skipSpace s = [] := by
  generalize hps : ([] : List Piece) = ps at h
  unfold skipSpace
  induction h with
  | done => rfl
  | space hc h ih => rw [List.dropWhile_cons_of_pos hc, ih hps]
  | mark | text | scalar => cases hps

theorem Spells.of_mark_mark {c d : Char} (h : Spells special s (.mark c :: .mark d :: qs))
    (hs : NoSpace s) : ∃ inside rest, s = c :: inside ∧ skipSpace inside = d :: rest ∧
      rest.length < s.length ∧ Spells special rest qs := by
  obtain ⟨inside, rfl, hinside⟩ := h.of_mark hs
  obtain ⟨rest, hclose, hrest⟩ := hinside.trimmed.of_mark (noSpace_skipSpace inside)
  have hlen := length_skipSpace_le inside
  rw [hclose, List.length_cons] at hlen
  exact ⟨inside, rest, rfl, hclose, by rw [List.length_cons]; omega, hrest⟩

theorem Spells.ne_closer {v : Json} (h : Spells special s (pieces v qs)) (hs : NoSpace s) :
    ∀ more, s ≠ ']' :: more := by
  have hscalar {w : Json} (h : Spells special s (.scalar w :: qs)) : ∀ more, s ≠ ']' :: more := by
    obtain ⟨c, more, rest, rfl, hc, -⟩ := h.of_scalar hs
    rintro _ ⟨⟩
    exact absurd hc (by decide)
  cases v with
  | null | bool | int | float => exact hscalar h
  | str t =>
    obtain ⟨inside, rest, rfl, -⟩ := h.of_text hs
    simp
  | arr items =>
    cases items <;> (obtain ⟨rest, rfl, -⟩ := h.of_mark hs; simp)
  | obj fields =>
    cases fields <;> (obtain ⟨rest, rfl, -⟩ := h.of_mark hs; simp)

theorem Spells.text_ne_closer {t : String} (h : Spells special s (.text t :: qs))
    (hs : NoSpace s) : ∀ more, s ≠ '}' :: more := by
  obtain ⟨inside, rest, rfl, -⟩ := h.of_text hs
  simp

end

/-! ## Keys -/

mutual

/-- Whether no object inside has a key twice. -/
def hasDistinctKeys : Json → Bool
  | .arr items => haveDistinctKeys items
  | .obj fields => fieldsDistinct fields
  | .null | .bool _ | .int _ | .float _ | .str _ => true

def haveDistinctKeys : List Json → Bool
  | [] => true
  | v :: rest => hasDistinctKeys v && haveDistinctKeys rest

def fieldsDistinct : List (String × Json) → Bool
  | [] => true
  | (k, v) :: rest => !Fields.has rest k && hasDistinctKeys v && fieldsDistinct rest

end

theorem insert_of_not_has {fields : List (String × Json)} {k : String} (v : Json)
    (h : Fields.has fields k = false) : Fields.insert fields k v = fields ++ [(k, v)] := by
  induction fields with
  | nil => rfl
  | cons f rest ih =>
    obtain ⟨l, w⟩ := f
    have hl : l ≠ k := by
      rintro rfl
      simp [Fields.has, Fields.get?_cons] at h
    have hrest : Fields.has rest k = false := by
      simpa [Fields.has, Fields.get?_cons, hl] using h
    rw [Fields.insert, if_neg hl, ih hrest, List.cons_append]

theorem has_append (fields more : List (String × Json)) (k : String) :
    Fields.has (fields ++ more) k = (Fields.has fields k || Fields.has more k) := by
  induction fields with
  | nil => rfl
  | cons f rest ih =>
    obtain ⟨l, w⟩ := f
    unfold Fields.has at ih ⊢
    rw [List.cons_append, Fields.get?_cons, Fields.get?_cons]
    split
    · rfl
    · exact ih

/-- No key of the second fields is one of the first. -/
def NewKeys (before fields : List (String × Json)) : Prop :=
  ∀ f ∈ fields, Fields.has before f.1 = false

theorem newKeys_append {before rest : List (String × Json)} {k : String} {v : Json}
    (h : NewKeys before ((k, v) :: rest)) (hk : Fields.has rest k = false) :
    NewKeys (before ++ [(k, v)]) rest := by
  intro f hf
  have hne : k ≠ f.1 := by
    rintro rfl
    have hmem : (Fields.get? rest f.1).isSome = true := by
      unfold Fields.get?
      rw [Option.isSome_iff_ne_none, ne_eq, List.lookup_eq_none_iff]
      intro h
      simpa using h f hf
    unfold Fields.has at hk
    rw [hmem] at hk
    cases hk
  rw [has_append, h f (List.mem_cons_of_mem _ hf)]
  simp [Fields.has, Fields.get?_cons, hne]

/-! ## Reading what a text spells -/

section
variable {special : Bool}

/-- So much fuel is enough to read any value that a shorter text begins with. -/
def ReadsValues (special : Bool) (fuel : ℕ) : Prop :=
  ∀ (v : Json) (s : List Char) (qs : List Piece), hasDistinctKeys v = true →
    Spells special s (pieces v qs) → NoSpace s → 2 * s.length < fuel →
    ∃ rest, readValue special fuel s = .ok (v, rest) ∧ Spells special rest qs ∧
      rest.length < s.length

/-- The same for the items of a list up to its bracket. -/
def ReadsItems (special : Bool) (fuel : ℕ) : Prop :=
  ∀ (v : Json) (items : List Json) (s : List Char) (qs : List Piece),
    haveDistinctKeys (v :: items) = true →
    Spells special s (pieces v (moreItems items (.mark ']' :: qs))) → NoSpace s →
    2 * s.length + 1 < fuel →
    ∃ rest, readItems special fuel s = .ok (v :: items, rest) ∧ Spells special rest qs ∧
      rest.length < s.length

/-- The same for the fields of an object up to its brace, with other fields before them. -/
def ReadsFields (special : Bool) (fuel : ℕ) : Prop :=
  ∀ (before : List (String × Json)) (k : String) (v : Json) (fields : List (String × Json))
    (s : List Char) (qs : List Piece), fieldsDistinct ((k, v) :: fields) = true →
    NewKeys before ((k, v) :: fields) →
    Spells special s (.text k :: .mark ':' :: pieces v (moreFields fields (.mark '}' :: qs))) →
    NoSpace s → 2 * s.length + 1 < fuel →
    ∃ rest, readFields special fuel before s = .ok (before ++ (k, v) :: fields, rest) ∧
      Spells special rest qs ∧ rest.length < s.length

variable {fuel : ℕ}

theorem readsItems_succ (hvalues : ReadsValues special fuel) (hitems : ReadsItems special fuel) :
    ReadsItems special (fuel + 1) := by
  intro v items s qs hkeys h hs hf
  simp only [haveDistinctKeys, Bool.and_eq_true] at hkeys
  obtain ⟨after, hread, hafter, hless⟩ := hvalues v s _ hkeys.1 h hs (by omega)
  have hlen := length_skipSpace_le after
  cases items with
  | nil =>
    obtain ⟨rest, hclose, hrest⟩ := hafter.trimmed.of_mark (noSpace_skipSpace after)
    rw [hclose, List.length_cons] at hlen
    exact ⟨rest, readItems_eq_ok_iff.2 (.last hread hclose), hrest, by omega⟩
  | cons w items =>
    obtain ⟨inside, hcomma, hinside⟩ := hafter.trimmed.of_mark (noSpace_skipSpace after)
    rw [hcomma, List.length_cons] at hlen
    have hlen' := length_skipSpace_le inside
    obtain ⟨rest, hmore, hrest, hless'⟩ := hitems w items _ qs
      (by simpa [haveDistinctKeys] using hkeys.2) hinside.trimmed (noSpace_skipSpace inside)
      (by omega)
    exact ⟨rest, readItems_eq_ok_iff.2 (.more hread hcomma hmore), hrest, by omega⟩

theorem readsFields_succ (hvalues : ReadsValues special fuel)
    (hfields : ReadsFields special fuel) : ReadsFields special (fuel + 1) := by
  intro before k v fields s qs hkeys hnew h hs hf
  simp only [fieldsDistinct, Bool.and_eq_true, Bool.not_eq_true'] at hkeys
  obtain ⟨⟨hk, hv⟩, hrestKeys⟩ := hkeys
  obtain ⟨inside, afterKey, rfl, hkey, hlenKey, hafterKey⟩ := h.of_text hs
  rw [List.length_cons] at hf
  have hlenKey' := length_skipSpace_le afterKey
  obtain ⟨afterColon, hcolon, hafterColon⟩ := hafterKey.trimmed.of_mark (noSpace_skipSpace afterKey)
  rw [hcolon, List.length_cons] at hlenKey'
  have hlenColon := length_skipSpace_le afterColon
  obtain ⟨after, hread, hafter, hless⟩ := hvalues v _ _ hv hafterColon.trimmed
    (noSpace_skipSpace afterColon) (by omega)
  have hlen := length_skipSpace_le after
  have hinsert : Fields.insert before k v = before ++ [(k, v)] :=
    insert_of_not_has v (hnew (k, v) (by simp))
  cases fields with
  | nil =>
    obtain ⟨rest, hclose, hrest⟩ := hafter.trimmed.of_mark (noSpace_skipSpace after)
    rw [hclose, List.length_cons] at hlen
    refine ⟨rest, ?_, hrest, by rw [List.length_cons]; omega⟩
    rw [← hinsert]
    exact readFields_eq_ok_iff.2 (.last hkey hcolon hread hclose)
  | cons field fields =>
    obtain ⟨l, w⟩ := field
    obtain ⟨next, hcomma, hnext⟩ := hafter.trimmed.of_mark (noSpace_skipSpace after)
    rw [hcomma, List.length_cons] at hlen
    have hlenNext := length_skipSpace_le next
    obtain ⟨rest, hmore, hrest, hless'⟩ := hfields (before ++ [(k, v)]) l w fields _ qs
      hrestKeys (newKeys_append hnew hk) hnext.trimmed (noSpace_skipSpace next) (by omega)
    rw [List.append_assoc, ← hinsert] at hmore
    exact ⟨rest, readFields_eq_ok_iff.2 (.more hkey hcolon hread hcomma hmore), hrest,
      by rw [List.length_cons]; omega⟩

theorem readsValues_succ (hitems : ReadsItems special fuel) (hfields : ReadsFields special fuel) :
    ReadsValues special (fuel + 1) := by
  intro v s qs hkeys h hs hf
  have hscalar {w : Json} (h : Spells special s (.scalar w :: qs)) :
      ∃ rest, readValue special (fuel + 1) s = .ok (w, rest) ∧ Spells special rest qs ∧
        rest.length < s.length := by
    obtain ⟨c, more, rest, rfl, -, hread, hlen, hrest⟩ := h.of_scalar hs
    exact ⟨rest, readValue_of_readScalar hread, hrest, by rw [List.length_cons]; omega⟩
  cases v with
  | null | bool | int | float => exact hscalar h
  | str t =>
    obtain ⟨inside, rest, rfl, hread, hlen, hrest⟩ := h.of_text hs
    exact ⟨rest, readValue_eq_ok_iff.2 (.text hread), hrest, by rw [List.length_cons]; omega⟩
  | arr items =>
    cases items with
    | nil =>
      obtain ⟨inside, rest, rfl, hclose, hlen, hrest⟩ := h.of_mark_mark hs
      exact ⟨rest, readValue_eq_ok_iff.2 (.noItems hclose), hrest, hlen⟩
    | cons v rest =>
      obtain ⟨inside, rfl, hinside⟩ := h.of_mark hs
      have hlen := length_skipSpace_le inside
      have hopen := hinside.trimmed.ne_closer (noSpace_skipSpace inside)
      rw [List.length_cons] at hf
      obtain ⟨after, hread, hafter, hless⟩ := hitems v rest _ qs
        (by simpa [hasDistinctKeys] using hkeys) hinside.trimmed (noSpace_skipSpace inside)
        (by omega)
      exact ⟨after, readValue_eq_ok_iff.2 (.items hopen hread), hafter,
        by rw [List.length_cons]; omega⟩
  | obj fields =>
    cases fields with
    | nil =>
      obtain ⟨inside, rest, rfl, hclose, hlen, hrest⟩ := h.of_mark_mark hs
      exact ⟨rest, readValue_eq_ok_iff.2 (.noFields hclose), hrest, hlen⟩
    | cons field rest =>
      obtain ⟨k, v⟩ := field
      obtain ⟨inside, rfl, hinside⟩ := h.of_mark hs
      have hlen := length_skipSpace_le inside
      have hopen := hinside.trimmed.text_ne_closer (noSpace_skipSpace inside)
      rw [List.length_cons] at hf
      obtain ⟨after, hread, hafter, hless⟩ := hfields [] k v rest _ qs
        (by simpa [hasDistinctKeys] using hkeys) (fun _ _ => rfl) hinside.trimmed
        (noSpace_skipSpace inside) (by omega)
      exact ⟨after, readValue_eq_ok_iff.2 (.fields hopen hread), hafter,
        by rw [List.length_cons]; omega⟩

theorem reads_all (fuel : ℕ) :
    ReadsValues special fuel ∧ ReadsItems special fuel ∧ ReadsFields special fuel := by
  induction fuel with
  | zero =>
    refine ⟨?_, ?_, ?_⟩
    · intro v s qs _ _ _ hf
      omega
    · intro v items s qs _ _ _ hf
      omega
    · intro before k v fields s qs _ _ _ _ hf
      omega
  | succ fuel ih =>
    obtain ⟨hvalues, hitems, hfields⟩ := ih
    exact ⟨readsValues_succ hitems hfields, readsItems_succ hvalues hitems,
      readsFields_succ hvalues hfields⟩

end

theorem Spells.head_ne_mark {special : Bool} {s : List Char} {qs : List Piece}
    (h : Spells special s qs) : s.head? ≠ some '\uFEFF' := by
  cases h with
  | done => simp
  | text => simp
  | space hc h =>
    rintro ⟨⟩
    exact absurd hc (by decide)
  | mark hc h =>
    rintro ⟨⟩
    exact absurd hc (by decide)
  | scalar hc hs hlen h =>
    rintro ⟨⟩
    exact absurd hc (by decide)

/-- A text that spells a value is read as that value. -/
theorem readChars_of_spells {special : Bool} {v : Json} {s : List Char}
    (hv : hasDistinctKeys v = true) (h : Spells special s (pieces v [])) :
    readChars special s = .ok v := by
  have hlen := length_skipSpace_le s
  obtain ⟨rest, hread, hrest, -⟩ := (reads_all (2 * s.length + 2)).1 v (skipSpace s) [] hv h.trimmed
    (noSpace_skipSpace s) (by omega)
  refine readChars_eq_ok_iff.2 ⟨?_, rest, hread, hrest.of_nil⟩
  rintro more rfl
  exact h.head_ne_mark rfl

end FlexForm.Json
