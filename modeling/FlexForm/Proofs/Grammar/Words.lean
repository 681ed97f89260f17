import FlexForm.Proofs.Grammar.Meaning
import FlexForm.Proofs.Json.Written

/-! # Names and words of a template text

A name keeps its value when a body is entered, unless the body binds it first. Words whose output is
part of a JSON text spell pieces, so what a text puts out can be read piece by piece.

* `nameValue_entering`: what a name stands for when a body is entered.
* `Word`: words of a template text, and the pieces that they spell.
* `wordPieces?`: the pieces of words, as far as they are punctuation, strings and small numbers.
-/

namespace FlexForm.Grammar
set_option autoImplicit false

open Json

/-! ## Names -/

section
variable {data : List (Value × Value)} {bound : Bound} {name : String}

theorem nameValue_cons_self (v : Value) : nameValue data ((name, some v) :: bound) name = .ok v := by
  simp [nameValue]

theorem nameValue_cons_of_ne {other : String} (v : Option Value) (h : (other == name) = false) :
    nameValue data ((other, v) :: bound) name = nameValue data bound name := by
  simp [nameValue, h]

/-- Whether the first mention of a name binds it. -/
def bindsFirst (mentions : List Mention) (name : String) : Bool :=
  ((mentions.find? fun m => m.name == name).map Mention.binds).getD false

theorem bindsFirst_reading (names : List String) : bindsFirst (reading names) name = false := by
  unfold bindsFirst
  cases h : (reading names).find? fun m => m.name == name with
  | none => rfl
  | some m =>
    obtain ⟨s, -, rfl⟩ := List.mem_map.1 (List.mem_of_find?_eq_some h)
    rfl

theorem nameValue_of_not_has (h : bound.has name = false) :
    nameValue data bound name =
      .ok ((outsideValue? data name).getD (.missing false (.name name))) := by
  have hfind : bound.find? (fun b => b.1 == name) = none := by
    rw [List.find?_eq_none]
    intro b hb hname
    unfold Bound.has at h
    rw [List.any_eq_false] at h
    exact h b hb hname
  unfold nameValue
  rw [hfind]

/-- What is bound when a mention is met. -/
def bindMention (data : List (Value × Value)) (bound : Bound) (m : Mention) : Bound :=
  if bound.has m.name then bound
  else (m.name, if m.binds then none else outsideValue? data m.name) :: bound

/-- Once a name is bound, mentions change nothing about it. -/
theorem nameValue_foldl_bindMention_of_has (mentions : List Mention) (h : bound.has name = true) :
    nameValue data (mentions.foldl (bindMention data) bound) name = nameValue data bound name := by
  induction mentions generalizing bound with
  | nil => rfl
  | cons m rest ih =>
    rw [List.foldl_cons, bindMention]
    split
    · exact ih h
    · rename_i hnew
      have hne : (m.name == name) = false := by
        by_contra heq
        have heq : m.name = name := by simpa using heq
        rw [heq] at hnew
        exact hnew h
      rw [ih (by simpa [Bound.has, hne] using h), nameValue_cons_of_ne _ hne]

theorem nameValue_foldl_bindMention {mentions : List Mention} (h : bindsFirst mentions name = false) :
    nameValue data (mentions.foldl (bindMention data) bound) name = nameValue data bound name := by
  induction mentions generalizing bound with
  | nil => rfl
  | cons m rest ih =>
    by_cases hhas : bound.has name = true
    · exact nameValue_foldl_bindMention_of_has _ hhas
    · have hhas : bound.has name = false := by simpa using hhas
      rw [List.foldl_cons, bindMention]
      by_cases hname : m.name = name
      · have hbinds : m.binds = false := by simpa [bindsFirst, hname] using h
        rw [hname, hhas, hbinds]
        simp only [Bool.false_eq_true, if_false]
        rw [nameValue_foldl_bindMention_of_has _ (by simp [Bound.has]), nameValue_of_not_has hhas]
        simp [nameValue]
      · have hne : (m.name == name) = false := by simpa using hname
        have hrest : bindsFirst rest name = false := by
          simpa [bindsFirst, List.find?_cons, hne] using h
        split
        · exact ih hrest
        · rw [ih hrest, nameValue_cons_of_ne _ hne]

/-- Entering a body changes no name but those that the body binds first. -/
theorem nameValue_entering {body : List Statement}
    (h : bindsFirst (Statement.mentionsAll body) name = false) :
    nameValue data (entering data body bound) name = nameValue data bound name :=
  nameValue_foldl_bindMention h

theorem nameValue_helper (h : Helper) (hh : bound.has h.name = false) :
    nameValue data bound h.name = .ok (.helper h) := by
  have houtside : outsideValue? data h.name = some (.helper h) := by cases h <;> rfl
  rw [nameValue_of_not_has hh, houtside]
  rfl

theorem holds_nameValue (fields : List (String × Json)) (hname : Helper.ofName? name = none)
    (hbound : bound.has name = false) :
    ∃ v, nameValue (Value.ofFields fields) bound name = .ok v ∧
      Holds v (Fields.get? fields name) := by
  have houtside : outsideValue? (Value.ofFields fields) name =
      (Fields.get? fields name).map Value.ofJson := by
    unfold outsideValue?
    rw [hname]
    exact valueAt?_ofFields fields name
  rw [nameValue_of_not_has hbound, houtside]
  cases Fields.get? fields name with
  | none => exact ⟨_, rfl, .missing _⟩
  | some j => exact ⟨_, rfl, .value j⟩

end

/-! ## Words -/

/-- The text spells the pieces, and a number that stands before it is at its end. -/
structure Follows (s : List Char) (qs : List Piece) : Prop where
  ends : EndsNumber s
  spells : Spells false s qs

/-- What the words put in front of a text puts these pieces in front of its pieces. -/
def Word (w : List Char) (ps : List Piece) : Prop :=
  ∀ rest qs, Spells false rest qs → Follows (w ++ rest) (ps ++ qs)

/-- A character that stands for itself between quotes. -/
def isInner (c : Char) : Bool := c != '"' && c != '\\' && decide (32 ≤ c.toNat)

/-- Whether a number ends before the text, which is not empty. -/
def endsDigit : List Char → Bool
  | [] => false
  | c :: _ => !c.isDigit && c != '.' && c != 'e' && c != 'E'

/-- The pieces of words that hold no scalars but `true` and numbers of one digit, and no escapes in
their strings; `inner` holds the characters since the last quote, the latest first. -/
def wordPieces? : Option (List Char) → List Char → Option (List Piece)
  | none, [] => some []
  | some _, [] => none
  | some inner, c :: s =>
    if c == '"' then (wordPieces? none s).map (.text (String.ofList inner.reverse) :: ·)
    else if isInner c then wordPieces? (some (c :: inner)) s else none
  | none, 't' :: 'r' :: 'u' :: 'e' :: s => (wordPieces? none s).map (.scalar (.bool true) :: ·)
  | none, c :: s =>
    if isMark c then (wordPieces? none s).map (.mark c :: ·)
    else if c == '"' then wordPieces? (some []) s
    else if c.isDigit && endsDigit s then
      (wordPieces? none s).map (.scalar (.int (c.toNat - 48 : ℕ)) :: ·)
    else if isSpace c then wordPieces? none s else none

/-- The start of the string that is being read. -/
def opened : Option (List Char) → List Char
  | none => []
  | some inner => '"' :: inner.reverse

theorem readQuoted_inner (cs : List Char) (h : ∀ c ∈ cs, isInner c = true) (rest : List Char) :
    readQuoted (cs ++ '"' :: rest) = .ok (String.ofList cs, rest) := by
  have hunits : ∃ units, readUnits (cs ++ '"' :: rest) = .ok (units, rest) ∧
      joinPairs units = cs := by
    induction cs with
    | nil => exact ⟨[], rfl, rfl⟩
    | cons c more ih =>
      obtain ⟨units, hread, hjoin⟩ := ih fun d hd => h d (List.mem_cons_of_mem c hd)
      have hc := h c (by simp)
      simp only [isInner, Bool.and_eq_true, bne_iff_ne, ne_eq, decide_eq_true_eq] at hc
      obtain ⟨us, hword, hus⟩ := stands_self hc.1.1 hc.1.2 hc.2
      exact ⟨us ++ units, hword _ _ _ hread, by rw [hus, hjoin]⟩
  obtain ⟨units, hread, hjoin⟩ := hunits
  unfold readQuoted
  rw [hread]
  simp only [hjoin]

theorem spells_digit {c : Char} (hc : c.isDigit = true) {s : List Char} {qs : List Piece}
    (hs : EndsNumber s) (h : Spells false s qs) :
    Spells false (c :: s) (.scalar (.int (c.toNat - 48 : ℕ)) :: qs) := by
  have hread := readNumber_canonical false [c]
    (by simp [AllDigits, hc]) ⟨c, [], rfl, fun _ => rfl⟩ hs.noDigit
  have hfraction : readFraction s = ([], s) := readFraction_of_head fun h => (hs _ h).2.1 rfl
  have hexponent : readExponent s = (none, s) :=
    readExponent_of_head (fun h => (hs _ h).2.2.1 rfl) fun h => (hs _ h).2.2.2 rfl
  rw [hfraction, hexponent] at hread
  have hone : readNumber (c :: s) = .ok (.int (c.toNat - 48 : ℕ), s) := by
    refine Eq.trans hread ?_
    simp [maxDigits, decimalOf]
  exact spells_of_readNumber hone (by simp) h

theorem wordPieces?_spells (inner : Option (List Char)) (s : List Char)
    (hinner : ∀ cs, inner = some cs → ∀ c ∈ cs, isInner c = true) {ps : List Piece}
    (h : wordPieces? inner s = some ps) {rest : List Char} {qs : List Piece}
    (hrest : Spells false rest qs) :
    Spells false (opened inner ++ (s ++ rest)) (ps ++ qs) := by
  induction inner, s using wordPieces?.induct generalizing ps with
  | case1 =>
    cases h
    exact hrest
  | case2 => cases h
  | case3 cs c s hquote ih =>
    obtain rfl : c = '"' := by simpa using hquote
    simp only [wordPieces?, beq_self_eq_true, if_true, Option.map_eq_some_iff] at h
    obtain ⟨more, hmore, rfl⟩ := h
    have hread := readQuoted_inner cs.reverse (fun c hc => hinner cs rfl c (List.mem_reverse.1 hc))
      (s ++ rest)
    have hs := ih (by simp) hmore
    simpa [opened] using Spells.text hread (by simp; omega) hs
  | case4 cs c s hquote hc ih =>
    simp only [wordPieces?, hquote, hc, if_true] at h
    have hs := ih (by
      intro cs' hcs d hd
      cases hcs
      rcases List.mem_cons.1 hd with rfl | hd
      · exact hc
      · exact hinner cs rfl d hd) h
    simpa [opened] using hs
  | case5 cs c s hquote hc =>
    simp [wordPieces?, hquote, hc] at h
  | case6 s ih =>
    simp only [wordPieces?, Option.map_eq_some_iff] at h
    obtain ⟨more, hmore, rfl⟩ := h
    have hs := ih (by simp) hmore
    exact .scalar (c := 't') (s := 'r' :: 'u' :: 'e' :: (s ++ rest)) (by decide) rfl
      (by simp; omega) hs
  | case7 c s hnot hmark ih =>
    simp only [wordPieces?, hmark, if_true, Option.map_eq_some_iff] at h
    obtain ⟨more, hmore, rfl⟩ := h
    exact .mark hmark (ih (by simp) hmore)
  | case8 c s hnot hmark hquote ih =>
    obtain rfl : c = '"' := by simpa using hquote
    simp only [wordPieces?, hmark, beq_self_eq_true, if_true] at h
    simpa [opened] using ih (by simp) h
  | case9 c s hnot hmark hquote hdigit ih =>
    rw [wordPieces?, if_neg hmark, if_neg hquote, if_pos hdigit] at h
    swap
    · exact hnot
    obtain ⟨more, hmore, rfl⟩ := Option.map_eq_some_iff.1 h
    simp only [Bool.and_eq_true] at hdigit
    refine spells_digit hdigit.1 ?_ (ih (by simp) hmore)
    cases s with
    | nil => simp [endsDigit] at hdigit
    | cons d s =>
      refine endsNumber_cons ?_
      simpa [endsDigit, and_assoc] using hdigit.2
  | case10 c s hnot hmark hquote hdigit hspace ih =>
    simp only [wordPieces?, hmark, hquote, hdigit, hspace, if_true] at h
    exact .space hspace (ih (by simp) h)
  | case11 c s hnot hmark hquote hdigit hspace =>
    simp [wordPieces?, hmark, hquote, hdigit, hspace] at h

/-! ## Deciding what words spell -/

/-- Equality of pieces that words may have. -/
def samePieces : List Piece → List Piece → Bool
  | [], [] => true
  | .mark c :: ps, .mark d :: qs => c == d && samePieces ps qs
  | .text s :: ps, .text t :: qs => s == t && samePieces ps qs
  | .scalar (.bool b) :: ps, .scalar (.bool c) :: qs => b == c && samePieces ps qs
  | .scalar (.int n) :: ps, .scalar (.int m) :: qs => n == m && samePieces ps qs
  | _, _ => false

theorem eq_of_samePieces {ps qs : List Piece} (h : samePieces ps qs = true) : ps = qs := by
  fun_induction samePieces ps qs with
  | case1 => rfl
  | case2 c ps d qs ih =>
    rw [Bool.and_eq_true, beq_iff_eq] at h
    rw [h.1, ih h.2]
  | case3 s ps t qs ih =>
    rw [Bool.and_eq_true, beq_iff_eq] at h
    rw [h.1, ih h.2]
  | case4 b ps c qs ih =>
    rw [Bool.and_eq_true, beq_iff_eq] at h
    rw [h.1, ih h.2]
  | case5 n ps m qs ih =>
    rw [Bool.and_eq_true, beq_iff_eq] at h
    rw [h.1, ih h.2]
  | case6 => cases h

/-- Whether the words begin with white space or a mark and spell the pieces. -/
def isWord (w : List Char) (ps : List Piece) : Bool :=
  endsDigit w && (wordPieces? none w).any (samePieces ps)

theorem word_of_isWord {w : List Char} {ps : List Piece} (h : isWord w ps = true) : Word w ps := by
  unfold isWord at h
  rw [Bool.and_eq_true, Option.any_eq_true] at h
  obtain ⟨hends, qs, hpieces, hsame⟩ := h
  obtain rfl := eq_of_samePieces hsame
  intro rest qs h
  refine ⟨?_, by simpa [opened] using wordPieces?_spells none w (by simp) hpieces h⟩
  cases w with
  | nil => cases hends
  | cons c s =>
    refine endsNumber_cons ?_
    simpa [endsDigit, and_assoc] using hends

end FlexForm.Grammar
