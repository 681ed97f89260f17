import FlexForm.Path.Access
import FlexForm.Proofs.Json.Numerals
import Mathlib.Data.List.TakeWhile

/-! # Segments of composed paths

A bracketed index is recognised from its opening bracket on, and ends before anything that is put
behind it. So a path falls apart where it was put together, and both spellings of an index are the
same segment.

* `segments_dot`, `segments_bracket`: segments of paths that go on.
* `isSimple`, `segments_of_isSimple`: keys that are one segment.
* `segments_index`, `segments_item`: segments of paths that end with an index.
* `index_of_allDigits`, `index_toString`: values of segments of plain digits.
* `IsPlain`, `toString_of_index`: the segments that are the only spelling of their number.
-/

namespace FlexForm.Path
set_option autoImplicit false

open Json (AllDigits Canonical decimalOf)

/-! ## Plain digits -/

theorem bounds_of_isDigit {c : Char} (h : c.isDigit = true) : 48 ≤ c.toNat ∧ c.toNat ≤ 57 := by
  simp only [Char.isDigit, ge_iff_le, Bool.and_eq_true, decide_eq_true_eq,
    UInt32.le_iff_toNat_le] at h
  exact h

theorem decimalValue?_of_isDigit {c : Char} (h : c.isDigit = true) :
    Text.decimalValue? c = some (c.toNat - 48) := by
  obtain ⟨hlow, hhigh⟩ := bounds_of_isDigit h
  have hascii : c.toNat < 128 := by omega
  simp only [Text.decimalValue?, hascii, if_true, hlow, hhigh, decide_true, Bool.and_self]

theorem isDecimalDigit_of_isDigit {c : Char} (h : c.isDigit = true) :
    Text.isDecimalDigit c = true := by
  rw [Text.isDecimalDigit, decimalValue?_of_isDigit h]
  rfl

theorem isDigit_of_isDigit {c : Char} (h : c.isDigit = true) : Text.isDigit c = true := by
  unfold Text.isDigit
  split
  · exact h
  · rw [isDecimalDigit_of_isDigit h, Bool.true_or]

/-! ## Brackets -/

/-- The text goes on with a closing bracket, after decimal digits if any. -/
def closes (s : List Char) : Bool := (s.dropWhile Text.isDecimalDigit).head? == some ']'

theorem closes_cons_of_digit {d : Char} (h : Text.isDecimalDigit d = true) (s : List Char) :
    closes (d :: s) = closes s := by
  rw [closes, List.dropWhile_cons_of_pos h, closes]

theorem closes_cons_of_not_digit {d : Char} (h : Text.isDecimalDigit d = false) (s : List Char) :
    closes (d :: s) = (d == ']') := by
  rw [closes, List.dropWhile_cons_of_neg (by simp [h]), List.head?_cons, Option.some_beq_some]

theorem closesIndex_cons (d : Char) (s : List Char) :
    closesIndex (d :: s) = (Text.isDecimalDigit d && closes s) := by
  cases hd : Text.isDecimalDigit d with
  | true => simp [closesIndex, closes, hd]
  | false => simp [closesIndex, hd]

theorem closes_of_closesIndex {s : List Char} (h : closesIndex s = true) : closes s = true := by
  rw [closesIndex, Bool.and_eq_true] at h
  exact h.2

theorem digit_of_closes {d : Char} {s : List Char} (h : closes (d :: s) = true) (hd : d ≠ ']') :
    Text.isDecimalDigit d = true ∧ closes s = true := by
  cases hdigit : Text.isDecimalDigit d with
  | true => exact ⟨rfl, by rwa [closes_cons_of_digit hdigit] at h⟩
  | false =>
    rw [closes_cons_of_not_digit hdigit] at h
    exact absurd (eq_of_beq h) hd

section
variable {c : Char} (hdigit : Text.isDecimalDigit c = false) (hc : c ≠ ']')
include hdigit hc

theorem closes_append (s t : List Char) : closes (s ++ c :: t) = closes s := by
  induction s with
  | nil =>
    rw [List.nil_append, closes_cons_of_not_digit hdigit]
    simp [closes, hc]
  | cons d s ih =>
    rw [List.cons_append]
    cases hd : Text.isDecimalDigit d with
    | true => rw [closes_cons_of_digit hd, closes_cons_of_digit hd, ih]
    | false => rw [closes_cons_of_not_digit hd, closes_cons_of_not_digit hd]

theorem closesIndex_append (s t : List Char) : closesIndex (s ++ c :: t) = closesIndex s := by
  have hcloses := closes_append hdigit hc s t
  have hempty : ((s ++ c :: t).takeWhile Text.isDecimalDigit).isEmpty =
      (s.takeWhile Text.isDecimalDigit).isEmpty := by
    cases s with
    | nil => simp [hdigit]
    | cons d s => cases hd : Text.isDecimalDigit d <;> simp [hd]
  unfold closes at hcloses
  rw [closesIndex, closesIndex, hcloses, hempty]

/-- Between brackets, the part that closes them is unbracketed by itself too. -/
theorem unbracket_append (inside : Bool) (s t : List Char) (h : inside = true → closes s = true) :
    unbracket inside (s ++ c :: t) = unbracket inside s ++ unbracket false (c :: t) := by
  obtain ⟨tail, htail⟩ : ∃ tail, unbracket false (c :: t) = tail := ⟨_, rfl⟩
  -- what stands behind is the same text all along: only a bracket that opens before it reads on
  rw [htail]
  induction s generalizing inside with
  | nil =>
    cases inside with
    | true => simp [closes] at h
    | false => exact htail
  | cons d s ih =>
    have hout := ih false (by simp)
    rw [List.cons_append]
    cases inside with
    | true =>
      by_cases hd : d = ']'
      · simp [unbracket, hd, hout]
      · have hin := ih true fun _ => (digit_of_closes (h rfl) hd).2
        simp [unbracket, hd, hin]
    | false =>
      simp only [unbracket, closesIndex_append hdigit hc, Bool.false_eq_true, if_false]
      split
      next hopen =>
        have hin := ih true fun _ => closes_of_closesIndex (Bool.and_eq_true_iff.1 hopen).2
        rw [hin, List.cons_append]
      next => rw [hout, List.cons_append]

end

theorem unbracket_of_no_bracket {s : List Char} (h : '[' ∉ s) (t : List Char) :
    unbracket false (s ++ t) = s ++ unbracket false t := by
  induction s with
  | nil => rfl
  | cons c s ih =>
    obtain ⟨hc, hs⟩ := not_or.1 (List.mem_cons.not.1 h)
    have hc' : (c == '[') = false := beq_eq_false_iff_ne.2 (Ne.symm hc)
    rw [List.cons_append, unbracket, if_neg Bool.false_ne_true, hc', Bool.false_and,
      if_neg Bool.false_ne_true, ih hs, List.cons_append]

theorem unbracket_digits {ds : List Char} (h : ∀ d ∈ ds, Text.isDecimalDigit d = true)
    (t : List Char) : unbracket true (ds ++ ']' :: t) = ds ++ unbracket false t := by
  induction ds with
  | nil => rfl
  | cons d ds ih =>
    obtain ⟨hd, hds⟩ := List.forall_mem_cons.1 h
    have hne : d ≠ ']' := by
      rintro rfl
      exact absurd hd (by decide)
    simp [unbracket, hne, ih hds]

/-- A bracketed index is unbracketed to the same text as an index behind a dot. -/
theorem unbracket_bracket {ds : List Char} (hne : ds ≠ [])
    (h : ∀ d ∈ ds, Text.isDecimalDigit d = true) (t : List Char) :
    unbracket false ('[' :: ds ++ ']' :: t) = unbracket false ('.' :: ds ++ t) := by
  have hopen : closesIndex (ds ++ ']' :: t) = true := by
    have hdigit : Text.isDecimalDigit ']' = false := by decide
    simp [closesIndex, List.takeWhile_append_of_pos h, List.dropWhile_append_of_pos h, hdigit, hne]
  have hno : '[' ∉ '.' :: ds := by
    rintro (_ | ⟨_, hmem⟩)
    exact absurd (h _ hmem) (by decide)
  rw [unbracket_of_no_bracket hno, List.cons_append, unbracket, if_neg Bool.false_ne_true, hopen,
    if_pos (by decide), unbracket_digits h, List.cons_append]

/-! ## Dots -/

theorem splitDots_append_dot (s t : List Char) :
    splitDots (s ++ '.' :: t) = splitDots s ++ splitDots t := by
  induction s with
  | nil => rfl
  | cons c s ih =>
    rw [List.cons_append, splitDots, splitDots, ih]
    split
    · rfl
    · obtain ⟨piece, pieces, hpieces⟩ := List.exists_cons_of_ne_nil (splitDots_ne_nil s)
      rw [hpieces]
      rfl

theorem splitDots_of_no_dot {s : List Char} (h : '.' ∉ s) : splitDots s = [s] := by
  induction s with
  | nil => rfl
  | cons c s ih =>
    obtain ⟨hc, hs⟩ := not_or.1 (List.mem_cons.not.1 h)
    rw [splitDots, if_neg (by simpa using Ne.symm hc), ih hs]

/-! ## Segments -/

/-- The segments of a path that goes on behind a dot. -/
theorem segments_dot (a b : String) : segments s!"{a}.{b}" = segments a ++ segments b := by
  have hdot : Text.isDecimalDigit '.' = false := by decide
  have hlist : s!"{a}.{b}".toList = a.toList ++ '.' :: b.toList := by simp [toString]
  have hb : unbracket false ('.' :: b.toList) = '.' :: unbracket false b.toList := by
    simpa using unbracket_of_no_bracket (s := ['.']) (by decide) b.toList
  rw [segments, hlist, unbracket_append hdot (by decide) false _ _ (by simp), hb,
    splitDots_append_dot, List.map_append, segments, segments]

/-- An index in brackets is the same as one behind a dot, whatever stands around it. -/
theorem segments_bracket (a rest : String) {n : String} (hne : n ≠ "")
    (h : ∀ d ∈ n.toList, Text.isDecimalDigit d = true) :
    segments (a ++ "[" ++ n ++ "]" ++ rest) = segments (a ++ "." ++ n ++ rest) := by
  have hopen : Text.isDecimalDigit '[' = false := by decide
  have hdot : Text.isDecimalDigit '.' = false := by decide
  have hleft : (a ++ "[" ++ n ++ "]" ++ rest).toList =
      a.toList ++ '[' :: (n.toList ++ ']' :: rest.toList) := by simp
  have hright : (a ++ "." ++ n ++ rest).toList = a.toList ++ '.' :: (n.toList ++ rest.toList) := by
    simp
  have hmiddle := unbracket_bracket (by simpa using hne) h rest.toList
  simp only [List.cons_append] at hmiddle
  rw [segments, segments, hleft, hright, unbracket_append hopen (by decide) false _ _ (by simp),
    unbracket_append hdot (by decide) false _ _ (by simp), hmiddle]

/-! ## Keys as segments -/

/-- Somewhere in the text stands a bracketed index. -/
def hasIndex : List Char → Bool
  | [] => false
  | c :: rest => (c == '[' && closesIndex rest) || hasIndex rest

/-- Neither dots nor bracketed indices are in the key. -/
def isSimple (key : String) : Bool := !key.toList.contains '.' && !hasIndex key.toList

theorem hasIndex_of_not_mem {s : List Char} (h : '[' ∉ s) : hasIndex s = false := by
  induction s with
  | nil => rfl
  | cons c s ih =>
    rw [List.mem_cons, not_or] at h
    simp [hasIndex, Ne.symm h.1, ih h.2]

theorem unbracket_of_not_hasIndex {s : List Char} (h : hasIndex s = false) :
    unbracket false s = s := by
  induction s with
  | nil => rfl
  | cons c s ih =>
    rw [hasIndex, Bool.or_eq_false_iff] at h
    rw [unbracket, if_neg Bool.false_ne_true, h.1, if_neg Bool.false_ne_true, ih h.2]

/-- Such a key is one segment, also if it is empty, a number or has single brackets. -/
theorem segments_of_isSimple {key : String} (h : isSimple key = true) : segments key = [key] := by
  rw [isSimple, Bool.and_eq_true, Bool.not_eq_true', Bool.not_eq_true', List.contains_eq_mem,
    decide_eq_false_iff_not] at h
  rw [segments, unbracket_of_not_hasIndex h.2, splitDots_of_no_dot h.1, List.map_singleton,
    String.ofList_toList]

theorem isSimple_of_digits {n : String} (h : ∀ d ∈ n.toList, Text.isDecimalDigit d = true) :
    isSimple n = true := by
  have hdot : '.' ∉ n.toList := fun hmem => absurd (h _ hmem) (by decide)
  have hopen : '[' ∉ n.toList := fun hmem => absurd (h _ hmem) (by decide)
  simp [isSimple, hdot, hasIndex_of_not_mem hopen]

theorem segments_of_digits {n : String} (h : ∀ d ∈ n.toList, Text.isDecimalDigit d = true) :
    segments n = [n] :=
  segments_of_isSimple (isSimple_of_digits h)

/-- The segments of a path that ends with an index. -/
theorem segments_index (a : String) {n : String} (hne : n ≠ "")
    (h : ∀ d ∈ n.toList, Text.isDecimalDigit d = true) :
    segments (a ++ "[" ++ n ++ "]") = segments a ++ [n] := by
  have hbracket := segments_bracket a "" hne h
  rw [String.append_empty, String.append_empty] at hbracket
  rw [hbracket, ← segments_of_digits h]
  exact segments_dot a n

/-! ## Numbers as segments -/

theorem allDigits_toString (n : ℕ) : AllDigits (toString n).toList := by
  rw [Nat.toString_eq_ofList_toDigits, String.toList_ofList]
  exact Json.allDigits_toDigits n

theorem toString_ne_empty (n : ℕ) : toString n ≠ "" := by
  rw [Nat.toString_eq_ofList_toDigits]
  simp [Nat.toDigits_ne_nil]

theorem isIndex_toString (n : ℕ) : isIndex (toString n) = true := by
  rw [isIndex, Bool.and_eq_true, List.all_eq_true]
  refine ⟨bne_iff_ne.2 (toString_ne_empty n), ?_⟩
  intro c hc
  exact isDigit_of_isDigit (allDigits_toString n c hc)

theorem toString_inj {n m : ℕ} (h : toString n = toString m) : n = m := by
  have hdigits := congrArg String.toList h
  simp only [Nat.toString_eq_ofList_toDigits, String.toList_ofList] at hdigits
  rw [← Json.decimalOf_toDigits n, hdigits, Json.decimalOf_toDigits]

theorem isDecimalDigit_toString (n : ℕ) : ∀ d ∈ (toString n).toList, Text.isDecimalDigit d = true :=
  fun d hd => isDecimalDigit_of_isDigit (allDigits_toString n d hd)

/-- The segments of the path of an item of a list. -/
theorem segments_item (a : String) (n : ℕ) :
    segments s!"{a}[{n}]" = segments a ++ [toString n] := by
  have hindex := segments_index a (toString_ne_empty n) (isDecimalDigit_toString n)
  simpa [toString] using hindex

/-! ## Values of indices -/

theorem foldl_decimalValue? {ds : List Char} (h : AllDigits ds) (n : ℕ) :
    (ds.map Text.decimalValue?).foldl (fun n v => n * 10 + v.getD 0) n =
      ds.foldl (fun n c => n * 10 + (c.toNat - 48)) n := by
  induction ds generalizing n with
  | nil => rfl
  | cons d ds ih =>
    obtain ⟨hd, hds⟩ := List.forall_mem_cons.1 h
    rw [List.map_cons, List.foldl_cons, List.foldl_cons, decimalValue?_of_isDigit hd, ih hds,
      Option.getD_some]

/-- A segment of plain digits has their value, unless there are too many of them. -/
theorem index_of_allDigits {s : String} (h : AllDigits s.toList) :
    index s = if s.toList.length > 4300 then .error (.tooLong s.toList.length)
      else .ok (decimalOf s.toList) := by
  have hall : ∀ v ∈ s.toList.map Text.decimalValue?, v.isSome = true := by
    rintro v hv
    obtain ⟨d, hd, rfl⟩ := List.mem_map.1 hv
    rw [decimalValue?_of_isDigit (h d hd)]
    rfl
  have htake := List.takeWhile_eq_self_iff.2 hall
  simp only [index, htake, List.all_eq_true.2 hall, if_true, List.length_map,
    foldl_decimalValue? h, decimalOf]

/-- The indices of a list are not too long to be read. -/
theorem index_toString {n : ℕ} (h : n < growthLimit) : index (toString n) = .ok n := by
  have hlist : (toString n).toList = Nat.toDigits 10 n := by
    rw [Nat.toString_eq_ofList_toDigits, String.toList_ofList]
  have hlength : (Nat.toDigits 10 n).length ≤ 20 :=
    (Nat.length_toDigits_le_iff (by decide) (by decide)).2 (Nat.lt_trans h (by decide))
  rw [index_of_allDigits (allDigits_toString n), hlist, if_neg (by omega),
    Json.decimalOf_toDigits]

/-! ## Plain indices -/

/-- The usual digits, and no zero in front of others: the number has no other such spelling. -/
def isPlain (segment : String) : Bool :=
  segment.toList.all Char.isDigit && (segment == "0" || segment.toList.head? != some '0')

/-- The segment is no index, or a plain one. -/
def IsUnambiguous (segment : String) : Prop := isIndex segment = true → isPlain segment = true

instance (segment : String) : Decidable (IsUnambiguous segment) :=
  inferInstanceAs (Decidable (_ → _))

theorem digitChar_of_isDigit {c : Char} (h : c.isDigit = true) :
    c.toNat - 48 < 10 ∧ (c.toNat - 48).digitChar = c := by
  have hdigits : ∀ m < 10, m.digitChar = Char.ofNat (m + 48) := by decide
  obtain ⟨hlow, hhigh⟩ := bounds_of_isDigit h
  refine ⟨by omega, ?_⟩
  rw [hdigits _ (by omega), Nat.sub_add_cancel hlow, Char.ofNat_toNat]

theorem toDigits_decimalOf {ds : List Char} (hd : AllDigits ds) (hl : Json.Leading ds) :
    Nat.toDigits 10 (decimalOf ds) = ds := by
  -- from the last digit on, which is the one that `Nat.toDigits` takes off
  induction ds using List.reverseRecOn with
  | nil => exact absurd rfl hl.ne_nil
  | append_singleton es c ih =>
    obtain ⟨hlt, hchar⟩ := digitChar_of_isDigit (hd c (by simp))
    have hvalue : decimalOf (es ++ [c]) = 10 * decimalOf es + (c.toNat - 48) := by
      rw [decimalOf, List.foldl_concat, decimalOf, Nat.mul_comm]
    have hlast : Nat.toDigits 10 (c.toNat - 48) = [c] := by
      rw [Nat.toDigits_of_lt_base hlt, hchar]
    rw [hvalue]
    rcases es with _ | ⟨e, es⟩
    · rw [show decimalOf [] = 0 from rfl, Nat.mul_zero, Nat.zero_add, hlast, List.nil_append]
    · have hleading : Json.Leading (e :: es) := by
        obtain ⟨a, tail, heq, ha⟩ := hl
        rw [List.cons_append, List.cons.injEq] at heq
        exact ⟨e, es, rfl, heq.1 ▸ ha⟩
      have hfront := ih (fun d hmem => hd d (List.mem_append_left _ hmem)) hleading
      have hpos : 0 < decimalOf (e :: es) := by
        refine Nat.pos_of_ne_zero fun hzero => ?_
        obtain ⟨a, tail, heq, ha⟩ := hleading
        rw [hzero, heq, Nat.toDigits_zero, List.cons.injEq] at hfront
        exact ha hfront.1.symm
      rw [← Nat.toDigits_append_toDigits (by norm_num) hpos hlt, hfront, hlast]

theorem allDigits_of_isPlain {segment : String} (h : isPlain segment = true) :
    AllDigits segment.toList := by
  rw [isPlain, Bool.and_eq_true] at h
  exact List.all_eq_true.1 h.1

/-- A plain index is what its value is written as. -/
theorem toString_of_index {segment : String} {n : ℕ} (hindex : isIndex segment = true)
    (hplain : isPlain segment = true) (h : index segment = .ok n) : toString n = segment := by
  have hdigits := allDigits_of_isPlain hplain
  obtain ⟨hne, -⟩ := Bool.and_eq_true_iff.1 hindex
  obtain ⟨-, hzero⟩ := Bool.and_eq_true_iff.1 hplain
  rw [index_of_allDigits hdigits] at h
  split at h
  · cases h
  cases h
  rw [← String.toList_inj, Nat.toString_eq_ofList_toDigits, String.toList_ofList]
  rcases Bool.or_eq_true_iff.1 hzero with hzero | hhead
  · rw [eq_of_beq hzero]
    decide
  · obtain ⟨c, tail, hcons⟩ := List.exists_cons_of_ne_nil
      (show segment.toList ≠ [] by simpa using hne)
    refine toDigits_decimalOf hdigits ⟨c, tail, hcons, ?_⟩
    rintro rfl
    simp [hcons] at hhead

end FlexForm.Path
