import FlexForm.Proofs.Json.Numerals
import FlexForm.Proofs.Json.Spelling
import FlexForm.Json.Finite

/-! # Written values spell themselves

How the characters of a string are escaped does not matter as long as each is read back as itself.
The statements are about any such way; two of them are in use.

* `Stands`: a word between double quotes that is read as one character.
* `charsWith`: the one-line text of a value with a given way to escape characters.
* `asciiChar`: the way that leaves no character beyond the printable ASCII ones.
* `spells_charsWith`: the text of a value spells the pieces of that value.
* `readChars_charsWith`: it is read back as the value.
-/

namespace FlexForm.Json
set_option autoImplicit false

/-! ## Reading one character -/

section
variable {c : Char} {rest after : List Char} {units : List ℕ}

theorem readUnits_self (hquote : c ≠ '"') (hslash : c ≠ '\\') (hcontrol : 32 ≤ c.toNat)
    (h : readUnits rest = .ok (units, after)) :
    readUnits (c :: rest) = .ok (c.toNat :: units, after) := by
  unfold readUnits
  split
  · rename_i heq
    cases heq
  · rename_i heq
    exact absurd (List.cons.inj heq).1 hquote
  · rename_i heq
    exact absurd (List.cons.inj heq).1 hslash
  · rename_i heq
    exact absurd (List.cons.inj heq).1 hslash
  · rename_i heq
    exact absurd (List.cons.inj heq).1 hslash
  · rename_i heq
    obtain ⟨rfl, rfl⟩ := List.cons.inj heq
    rw [if_neg (by omega), h]
    rfl

theorem readUnits_short {letter : Char} (hu : letter ≠ 'u') (hshort : shortEscape? letter = some c)
    (h : readUnits rest = .ok (units, after)) :
    readUnits ('\\' :: letter :: rest) = .ok (c.toNat :: units, after) := by
  unfold readUnits
  split
  · rename_i heq
    cases heq
  · rename_i heq
    exact absurd (List.cons.inj heq).1 (by decide)
  · rename_i heq
    exact absurd (List.cons.inj (List.cons.inj heq).2).1 hu
  · rename_i heq
    cases heq
  · rename_i heq
    obtain ⟨rfl, rfl⟩ := List.cons.inj (List.cons.inj heq).2
    rw [if_neg (by simpa using hu), hshort]
    simp only [h]
    rfl
  · rename_i hnot heq
    obtain ⟨rfl, rfl⟩ := List.cons.inj heq
    exact absurd rfl (hnot _ _ rfl)

theorem readUnits_hex {a b d : Char} {n : ℕ} (hhex : hex4? a b c d = some n)
    (h : readUnits rest = .ok (units, after)) :
    readUnits ('\\' :: 'u' :: a :: b :: c :: d :: rest) = .ok (n :: units, after) := by
  have hne : rest.isEmpty = false := by
    cases rest with
    | nil => cases h
    | cons c tail => rfl
  simp only [readUnits, hhex, hne, Bool.false_eq_true, if_false, h]
  rfl

end

/-! ## Words for one character -/

/-- The word is read as the one character, whatever characters follow. -/
def Stands (word : List Char) (c : Char) : Prop :=
  ∃ us : List ℕ,
    (∀ rest units after, readUnits rest = .ok (units, after) →
      readUnits (word ++ rest) = .ok (us ++ units, after)) ∧
    ∀ more, joinPairs (us ++ more) = c :: joinPairs more

/-- A way to escape characters of which each is read back. -/
def Escapes (esc : Char → List Char) : Prop := ∀ c, Stands (esc c) c

theorem charOf_toNat (c : Char) : charOf c.toNat = c := by
  have hvalid : c.toNat.isValidChar := c.valid
  unfold charOf
  rw [if_pos hvalid, Char.ofNat_toNat]

theorem not_surrogate (c : Char) : ¬ (0xD800 ≤ c.toNat ∧ c.toNat ≤ 0xDFFF) := by
  have hvalid : c.toNat.isValidChar := c.valid
  unfold Nat.isValidChar at hvalid
  omega

theorem joinPairs_cons_toNat (c : Char) (more : List ℕ) :
    joinPairs (c.toNat :: more) = c :: joinPairs more := by
  have h := not_surrogate c
  cases more with
  | nil => simp [joinPairs, charOf_toNat]
  | cons low rest =>
    have hhigh : ¬ (0xD800 ≤ c.toNat ∧ c.toNat ≤ 0xDBFF) := by omega
    rw [joinPairs, charOf_toNat]
    simp [hhigh]

theorem stands_of_unit {word : List Char} {c : Char}
    (h : ∀ rest units after, readUnits rest = .ok (units, after) →
      readUnits (word ++ rest) = .ok (c.toNat :: units, after)) : Stands word c :=
  ⟨[c.toNat], h, joinPairs_cons_toNat c⟩

theorem stands_self {c : Char} (hquote : c ≠ '"') (hslash : c ≠ '\\') (hcontrol : 32 ≤ c.toNat) :
    Stands [c] c :=
  stands_of_unit fun _ _ _ h => readUnits_self hquote hslash hcontrol h

theorem stands_short {letter c : Char} (hu : letter ≠ 'u')
    (h : shortEscape? letter = some c) : Stands ['\\', letter] c :=
  stands_of_unit fun _ _ _ hrest => readUnits_short hu h hrest

/-! ## Escapes with four digits -/

theorem hexValue?_digitChar : ∀ d < 16, hexValue? (Nat.digitChar d) = some d := by decide

theorem hexDigits_four {n : ℕ} (h : n < 0x10000) :
    Text.hexDigits 4 n = [Nat.digitChar (n / 0x1000), Nat.digitChar (n / 0x100 % 16),
      Nat.digitChar (n / 16 % 16), Nat.digitChar (n % 16)] := by
  have hbase {m : ℕ} (hm : 16 ≤ m) : Nat.toDigits 16 m = Nat.toDigits 16 (m / 16) ++
      [Nat.digitChar (m % 16)] := Nat.toDigits_of_base_le (by norm_num) hm
  have hdigit {m : ℕ} (hm : m < 16) : Nat.toDigits 16 m = [Nat.digitChar m] :=
    Nat.toDigits_of_lt_base hm
  have hsecond : n / 16 / 16 = n / 0x100 := by omega
  have hthird : n / 0x100 / 16 = n / 0x1000 := by omega
  unfold Text.hexDigits
  by_cases h1 : n < 16
  · have h2 : n / 16 = 0 := by omega
    have h3 : n / 0x100 = 0 := by omega
    have h4 : n / 0x1000 = 0 := by omega
    rw [hdigit h1, h2, h3, h4, Nat.mod_eq_of_lt h1]
    rfl
  · rw [hbase (by omega)]
    by_cases h2 : n / 16 < 16
    · have h3 : n / 0x100 = 0 := by omega
      have h4 : n / 0x1000 = 0 := by omega
      rw [hdigit h2, h3, h4, Nat.mod_eq_of_lt h2]
      rfl
    · rw [hbase (by omega), hsecond]
      by_cases h3 : n / 0x100 < 16
      · have h4 : n / 0x1000 = 0 := by omega
        rw [hdigit h3, h4, Nat.mod_eq_of_lt h3]
        rfl
      · rw [hbase (by omega), hthird, hdigit (by omega)]
        rfl

theorem readUnits_unicode {n : ℕ} (hn : n < 0x10000) {rest : List Char} {units : List ℕ}
    {after : List Char} (h : readUnits rest = .ok (units, after)) :
    readUnits ('\\' :: 'u' :: Text.hexDigits 4 n ++ rest) = .ok (n :: units, after) := by
  have hhex : hex4? (Nat.digitChar (n / 0x1000)) (Nat.digitChar (n / 0x100 % 16))
      (Nat.digitChar (n / 16 % 16)) (Nat.digitChar (n % 16)) = some n := by
    unfold hex4?
    rw [hexValue?_digitChar _ (by omega), hexValue?_digitChar _ (by omega),
      hexValue?_digitChar _ (by omega), hexValue?_digitChar _ (by omega)]
    refine congrArg some ?_
    omega
  rw [hexDigits_four hn]
  exact readUnits_hex hhex h

/-! ## Two ways to escape -/

/-- All but the printable ASCII characters is escaped; a character beyond the first 65536 becomes a
pair of surrogates. -/
def asciiChar (c : Char) : List Char :=
  if c.toNat < 127 then quoteChar c
  else if c.toNat < 0x10000 then '\\' :: 'u' :: Text.hexDigits 4 c.toNat
  else
    let n := c.toNat - 0x10000
    '\\' :: 'u' :: Text.hexDigits 4 (0xD800 + n / 0x400) ++
      '\\' :: 'u' :: Text.hexDigits 4 (0xDC00 + n % 0x400)

theorem escapes_quoteChar : Escapes quoteChar := by
  intro c
  unfold quoteChar
  simp only [beq_iff_eq]
  split_ifs with hquote hslash hfeed hreturn htab hback hform hcontrol
  · rw [hquote]
    exact stands_short (by decide) rfl
  · rw [hslash]
    exact stands_short (by decide) rfl
  · exact hfeed ▸ stands_short (by decide) rfl
  · exact hreturn ▸ stands_short (by decide) rfl
  · exact htab ▸ stands_short (by decide) rfl
  · exact hback ▸ stands_short (by decide) rfl
  · exact hform ▸ stands_short (by decide) rfl
  · exact stands_of_unit fun _ _ _ h => readUnits_unicode (by omega) h
  · exact stands_self hquote hslash (by omega)

theorem escapes_asciiChar : Escapes asciiChar := by
  intro c
  unfold asciiChar
  split_ifs with hascii hshort
  · exact escapes_quoteChar c
  · exact stands_of_unit fun _ _ _ h => readUnits_unicode hshort h
  · have hlt : c.toNat < 0x110000 := by
      have hvalid : c.toNat.isValidChar := c.valid
      unfold Nat.isValidChar at hvalid
      omega
    simp only
    set n := c.toNat - 0x10000 with hn
    refine ⟨[0xD800 + n / 0x400, 0xDC00 + n % 0x400], fun rest units after h => ?_, fun more => ?_⟩
    · rw [List.append_assoc]
      exact readUnits_unicode (by omega) (readUnits_unicode (by omega) h)
    · have hpair : (decide (0xD800 ≤ 0xD800 + n / 0x400) && decide (0xD800 + n / 0x400 ≤ 0xDBFF) &&
          (decide (0xDC00 ≤ 0xDC00 + n % 0x400) && decide (0xDC00 + n % 0x400 ≤ 0xDFFF))) = true := by
        simp only [Bool.and_eq_true, decide_eq_true_eq]
        omega
      have hvalue : 0x10000 + (0xD800 + n / 0x400 - 0xD800) * 0x400 +
          (0xDC00 + n % 0x400 - 0xDC00) = c.toNat := by omega
      simp only [List.cons_append, List.nil_append, joinPairs]
      rw [if_pos (by simpa [Bool.and_assoc] using hpair), hvalue, charOf_toNat]

/-! ## The text of a string -/

/-- The text between double quotes. -/
def quoteWith (esc : Char → List Char) (s : String) : List Char :=
  '"' :: s.toList.flatMap esc ++ ['"']

theorem readUnits_flatMap {esc : Char → List Char} (he : Escapes esc) (cs rest : List Char) :
    ∃ units, readUnits (cs.flatMap esc ++ '"' :: rest) = .ok (units, rest) ∧
      joinPairs units = cs := by
  induction cs with
  | nil => exact ⟨[], rfl, rfl⟩
  | cons c more ih =>
    obtain ⟨units, hread, hjoin⟩ := ih
    obtain ⟨us, hword, hunits⟩ := he c
    refine ⟨us ++ units, ?_, by rw [hunits, hjoin]⟩
    rw [List.flatMap_cons, List.append_assoc]
    exact hword _ _ _ hread

theorem readQuoted_flatMap {esc : Char → List Char} (he : Escapes esc) (s : String)
    (rest : List Char) : readQuoted (s.toList.flatMap esc ++ '"' :: rest) = .ok (s, rest) := by
  obtain ⟨units, hread, hjoin⟩ := readUnits_flatMap he s.toList rest
  unfold readQuoted
  rw [hread]
  simp only [hjoin, String.ofList_toList]

theorem spells_quoteWith {special : Bool} {esc : Char → List Char} (he : Escapes esc) (s : String)
    {rest : List Char} {qs : List Piece} (h : Spells special rest qs) :
    Spells special (quoteWith esc s ++ rest) (.text s :: qs) := by
  unfold quoteWith
  have hread := readQuoted_flatMap he s rest
  simp only [List.cons_append, List.append_assoc, List.nil_append]
  exact .text hread (by simp; omega) h

/-! ## The text of a value -/

mutual

/-- The text of a value on one line, with the given way to escape characters. -/
def charsWith (esc : Char → List Char) : Json → List Char
  | .null => ['n', 'u', 'l', 'l']
  | .bool true => ['t', 'r', 'u', 'e']
  | .bool false => ['f', 'a', 'l', 's', 'e']
  | .int n => intChars n
  | .float x => Layout.token.write x
  | .str s => quoteWith esc s
  | .arr [] => ['[', ']']
  | .arr (v :: rest) => '[' :: charsWith esc v ++ (moreItemChars esc rest ++ [']'])
  | .obj [] => ['{', '}']
  | .obj ((k, v) :: rest) =>
    '{' :: quoteWith esc k ++ ':' :: ' ' :: charsWith esc v ++ (moreFieldChars esc rest ++ ['}'])

/-- The items after the first one. -/
def moreItemChars (esc : Char → List Char) : List Json → List Char
  | [] => []
  | v :: rest => ',' :: ' ' :: charsWith esc v ++ moreItemChars esc rest

/-- The fields after the first one. -/
def moreFieldChars (esc : Char → List Char) : List (String × Json) → List Char
  | [] => []
  | (k, v) :: rest =>
    ',' :: ' ' :: quoteWith esc k ++ ':' :: ' ' :: charsWith esc v ++ moreFieldChars esc rest

end

mutual

theorem charsWith_quoteChar (v : Json) : charsWith quoteChar v = chars v := by
  match v with
  | .null | .bool true | .bool false | .int _ | .float _ | .str _ => simp [charsWith, chars]; try rfl
  | .arr [] => simp [charsWith, chars, itemChars]
  | .arr (v :: rest) =>
    rw [charsWith, chars, itemChars_eq v rest, charsWith_quoteChar v]
    simp
  | .obj [] => simp [charsWith, chars, fieldChars]
  | .obj ((k, v) :: rest) =>
    rw [charsWith, chars, fieldChars_eq k v rest, charsWith_quoteChar v]
    simp [quoteWith, quote]

theorem itemChars_eq (v : Json) (rest : List Json) :
    itemChars (v :: rest) = chars v ++ moreItemChars quoteChar rest := by
  match rest with
  | [] => simp [itemChars, moreItemChars]
  | w :: rest =>
    rw [itemChars_cons_cons, itemChars_eq w rest, moreItemChars, charsWith_quoteChar w]
    simp

theorem fieldChars_eq (k : String) (v : Json) (rest : List (String × Json)) :
    fieldChars ((k, v) :: rest) =
      quote k ++ ':' :: ' ' :: chars v ++ moreFieldChars quoteChar rest := by
  match rest with
  | [] => simp [fieldChars, moreFieldChars]
  | (l, w) :: rest =>
    rw [fieldChars, fieldChars_eq l w rest, moreFieldChars, charsWith_quoteChar w]
    · simp [quoteWith, quote]
    · simp

end

/-! ## What the text of a value spells -/

theorem endsNumber_cons {c : Char} {s : List Char}
    (h : c.isDigit = false ∧ c ≠ '.' ∧ c ≠ 'e' ∧ c ≠ 'E') : EndsNumber (c :: s) := by
  rintro d ⟨⟩
  exact h

theorem startsScalar_of_isDigit {c : Char} (h : c.isDigit = true) : startsScalar c = true :=
  List.all_eq_true.1 (by decide : digits.all startsScalar = true) c (mem_digits h)

theorem spells_of_readNumber {special : Bool} {s rest : List Char} {v : Json} {qs : List Piece}
    (hread : readNumber s = .ok (v, rest)) (hlen : rest.length < s.length)
    (h : Spells special rest qs) : Spells special s (.scalar v :: qs) := by
  obtain ⟨d, more, hdigit, rfl | rfl⟩ := readNumber_shape hread
  · rw [List.length_cons] at hlen
    exact .scalar (startsScalar_of_isDigit hdigit)
      ((readScalar_of_isDigit special more hdigit).1.trans hread) (by omega) h
  · rw [List.length_cons] at hlen
    exact .scalar (by decide) ((readScalar_of_isDigit special more hdigit).2.trans hread)
      (by omega) h

theorem endsNumber_nil : EndsNumber [] := by
  rintro c ⟨⟩

theorem spells_number {special : Bool} {word rest : List Char} {v : Json} {qs : List Piece}
    (hread : ∀ rest, EndsNumber rest → readNumber (word ++ rest) = .ok (v, rest))
    (hr : EndsNumber rest) (h : Spells special rest qs) :
    Spells special (word ++ rest) (.scalar v :: qs) := by
  refine spells_of_readNumber (hread rest hr) ?_ h
  cases word with
  | nil => cases hread [] endsNumber_nil
  | cons c more => simp

section
variable {special : Bool} {esc : Char → List Char}

mutual

theorem spells_charsWith (he : Escapes esc) (v : Json) (hf : isFinite v = true)
    (hw : isWritable v = true) {rest : List Char} {qs : List Piece} (hr : EndsNumber rest)
    (h : Spells special rest qs) : Spells special (charsWith esc v ++ rest) (pieces v qs) := by
  cases v with
  | null =>
    exact .scalar (c := 'n') (s := ['u', 'l', 'l'] ++ rest) (by decide) rfl (by simp; omega) h
  | bool b =>
    cases b
    · exact .scalar (c := 'f') (s := ['a', 'l', 's', 'e'] ++ rest) (by decide) rfl (by simp; omega) h
    · exact .scalar (c := 't') (s := ['r', 'u', 'e'] ++ rest) (by decide) rfl (by simp; omega) h
  | int n =>
    rw [isWritable] at hw
    exact spells_number (fun _ => readNumber_intChars hw) hr h
  | float x =>
    rw [isFinite] at hf
    exact spells_number (fun _ => readNumber_write _ hf) hr h
  | str s => exact spells_quoteWith he s h
  | arr items =>
    cases items with
    | nil => exact .mark (by decide) (.mark (by decide) h)
    | cons v items =>
      simp only [isFinite, areFinite, isWritable, areWritable, Bool.and_eq_true] at hf hw
      have hmore := spells_moreItemChars he items hf.2 hw.2
        (show EndsNumber (']' :: rest) from endsNumber_cons (by decide)) (.mark (by decide) h)
      have hitem := spells_charsWith he v hf.1 hw.1 hmore.1 hmore.2
      simpa [charsWith, pieces] using Spells.mark (c := '[') (by decide) hitem
  | obj fields =>
    cases fields with
    | nil => exact .mark (by decide) (.mark (by decide) h)
    | cons field fields =>
      obtain ⟨k, v⟩ := field
      simp only [isFinite, haveFinite, isWritable, areWritableFields, Bool.and_eq_true] at hf hw
      have hmore := spells_moreFieldChars he fields hf.2 hw.2
        (show EndsNumber ('}' :: rest) from endsNumber_cons (by decide)) (.mark (by decide) h)
      have hvalue := spells_charsWith he v hf.1 hw.1 hmore.1 hmore.2
      have hkey := spells_quoteWith he k
        (Spells.mark (c := ':') (by decide) (.space (c := ' ') (by decide) hvalue))
      simpa [charsWith, pieces] using Spells.mark (c := '{') (by decide) hkey

theorem spells_moreItemChars (he : Escapes esc) (items : List Json) (hf : areFinite items = true)
    (hw : areWritable items = true) {rest : List Char} {qs : List Piece} (hr : EndsNumber rest)
    (h : Spells special rest qs) : EndsNumber (moreItemChars esc items ++ rest) ∧
      Spells special (moreItemChars esc items ++ rest) (moreItems items qs) := by
  match items with
  | [] => exact ⟨hr, h⟩
  | v :: items =>
    simp only [areFinite, areWritable, Bool.and_eq_true] at hf hw
    have hmore := spells_moreItemChars he items hf.2 hw.2 hr h
    have hitem := spells_charsWith he v hf.1 hw.1 hmore.1 hmore.2
    refine ⟨endsNumber_cons (by decide), ?_⟩
    simpa [moreItemChars, moreItems] using
      Spells.mark (c := ',') (by decide) (.space (c := ' ') (by decide) hitem)

theorem spells_moreFieldChars (he : Escapes esc) (fields : List (String × Json))
    (hf : haveFinite fields = true) (hw : areWritableFields fields = true) {rest : List Char} {qs : List Piece}
    (hr : EndsNumber rest) (h : Spells special rest qs) :
    EndsNumber (moreFieldChars esc fields ++ rest) ∧
      Spells special (moreFieldChars esc fields ++ rest) (moreFields fields qs) := by
  match fields with
  | [] => exact ⟨hr, h⟩
  | (k, v) :: fields =>
    simp only [haveFinite, areWritableFields, Bool.and_eq_true] at hf hw
    have hmore := spells_moreFieldChars he fields hf.2 hw.2 hr h
    have hvalue := spells_charsWith he v hf.1 hw.1 hmore.1 hmore.2
    have hkey := spells_quoteWith he k
      (Spells.mark (c := ':') (by decide) (.space (c := ' ') (by decide) hvalue))
    refine ⟨endsNumber_cons (by decide), ?_⟩
    simpa [moreFieldChars, moreFields] using
      Spells.mark (c := ',') (by decide) (.space (c := ' ') (by decide) hkey)

end

/-- A finite value whose integers are short enough is read back from its text. -/
theorem readChars_charsWith (he : Escapes esc) {v : Json} (hk : hasDistinctKeys v = true)
    (hf : isFinite v = true) (hw : isWritable v = true) : readChars special (charsWith esc v) = .ok v := by
  have h := spells_charsWith he v hf hw endsNumber_nil (show Spells special [] [] from .done)
  rw [List.append_nil] at h
  exact readChars_of_spells hk h

end

theorem spells_chars {special : Bool} {v : Json} (hf : isFinite v = true)
    (hw : isWritable v = true) {rest : List Char} {qs : List Piece} (hr : EndsNumber rest)
    (h : Spells special rest qs) : Spells special (chars v ++ rest) (pieces v qs) := by
  rw [← charsWith_quoteChar]
  exact spells_charsWith escapes_quoteChar v hf hw hr h

end FlexForm.Json
