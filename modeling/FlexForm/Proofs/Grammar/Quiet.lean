import FlexForm.Grammar.Scan
import FlexForm.Text.Search
import FlexForm.Proofs.Json.Position

/-! # Texts in which no print or tag begins

The text of a JSON value has no opening sign outside of its strings, so a template text stands as it
is where it is made of such texts, unless a string inside brings an opening sign in.

* `Quiet`: the scanner passes over the text, whatever follows it.
* `isTame`: a string without opening signs.
* `quiet_charsWith`: the text of a value is quiet when its strings and keys are tame.
-/

namespace FlexForm.Grammar
set_option autoImplicit false

open Json

/-! ## Passing over a text -/

/-- The scanner passes over the text, whatever follows it, and it has no line ends to unify. -/
structure Quiet (s : List Char) : Prop where
  noReturn : '\r' ∉ s
  passes : ∀ rest, untilOpener (s ++ rest) = (s ++ (untilOpener rest).1, (untilOpener rest).2)

theorem quiet_nil : Quiet [] := ⟨by simp, fun _ => rfl⟩

theorem Quiet.append {s t : List Char} (hs : Quiet s) (ht : Quiet t) : Quiet (s ++ t) := by
  refine ⟨by simp [hs.noReturn, ht.noReturn], fun rest => ?_⟩
  rw [List.append_assoc, hs.passes, ht.passes, List.append_assoc]

theorem opener?_of_ne {c : Char} (hc : c ≠ '{') (s : List Char) : opener? (c :: s) = none := by
  unfold opener?
  split
  · rename_i heq
    exact absurd (List.cons.inj heq).1 hc
  · rename_i heq
    exact absurd (List.cons.inj heq).1 hc
  · rename_i heq
    exact absurd (List.cons.inj heq).1 hc
  · rfl

theorem untilOpener_cons {c : Char} {s : List Char} (h : opener? (c :: s) = none) :
    untilOpener (c :: s) = (c :: (untilOpener s).1, (untilOpener s).2) := by
  rw [untilOpener, h]
  rfl

theorem quiet_cons {c : Char} {s : List Char} (hc : c ≠ '{') (hreturn : c ≠ '\r') (hs : Quiet s) :
    Quiet (c :: s) := by
  refine ⟨by simp [hs.noReturn, Ne.symm hreturn], fun rest => ?_⟩
  rw [List.cons_append, untilOpener_cons (opener?_of_ne hc _), hs.passes, List.cons_append]

/-- The characters that make an opening sign together with a brace. -/
def completes (c : Char) : Bool := c == '{' || c == '%' || c == '#'

theorem opener?_brace {c : Char} (hc : completes c = false) (s : List Char) :
    opener? ('{' :: c :: s) = none := by
  simp only [completes, Bool.or_eq_false_iff, beq_eq_false_iff_ne] at hc
  unfold opener?
  split
  · rename_i heq
    exact absurd (List.cons.inj (List.cons.inj heq).2).1 hc.1.1
  · rename_i heq
    exact absurd (List.cons.inj (List.cons.inj heq).2).1 hc.1.2
  · rename_i heq
    exact absurd (List.cons.inj (List.cons.inj heq).2).1 hc.2
  · rfl

theorem quiet_brace {c : Char} {s : List Char} (hc : completes c = false) (hs : Quiet (c :: s)) :
    Quiet ('{' :: c :: s) := by
  have hreturn := hs.noReturn
  refine ⟨by simpa using hreturn, fun rest => ?_⟩
  have hpasses := hs.passes rest
  rw [List.cons_append] at hpasses
  rw [List.cons_append, List.cons_append, untilOpener_cons (opener?_brace hc _), hpasses]
  rfl

/-- A character with which no opening sign begins and which ends no line. -/
def isCalm (c : Char) : Bool := c != '{' && c != '\r'

theorem isCalm_iff {c : Char} : isCalm c = true ↔ c ≠ '{' ∧ c ≠ '\r' := by
  rw [isCalm, Bool.and_eq_true, bne_iff_ne, bne_iff_ne]

theorem quiet_of_calm {s : List Char} (h : s.all isCalm = true) : Quiet s := by
  induction s with
  | nil => exact quiet_nil
  | cons c rest ih =>
    rw [List.all_cons, Bool.and_eq_true, isCalm_iff] at h
    exact quiet_cons h.1.1 h.1.2 (ih h.2)

theorem Quiet.untilOpener_eq {s : List Char} (h : Quiet s) : untilOpener s = (s, []) := by
  have hpasses := h.passes []
  rwa [List.append_nil, show untilOpener [] = ([], []) from rfl, List.append_nil] at hpasses

theorem unifyLines_cons {c : Char} (h : c ≠ '\r') (s : List Char) :
    unifyLines (c :: s) = c :: unifyLines s := by
  rw [unifyLines]
  · rintro _ rfl
    exact absurd rfl h
  · rintro rfl
    exact absurd rfl h

theorem unifyLines_of_noReturn {s : List Char} (h : '\r' ∉ s) : unifyLines s = s := by
  induction s with
  | nil => rfl
  | cons c rest ih =>
    simp only [List.mem_cons, not_or] at h
    rw [unifyLines_cons (Ne.symm h.1), ih h.2]

/-! ## Strings -/

/-- Whether no opening sign stands in the string. -/
def isTame (s : String) : Bool :=
  !Text.contains s "\x7b\x7b" && !Text.contains s "\x7b%" && !Text.contains s "\x7b#"

/-- No opening sign stands in the characters. -/
def Tame (cs : List Char) : Prop :=
  ∀ c, completes c = true → Text.occursIn ['{', c] cs = false

theorem tame_of_isTame {s : String} (h : isTame s = true) : Tame s.toList := by
  simp only [isTame, Bool.and_eq_true, Bool.not_eq_true'] at h
  obtain ⟨⟨hbrace, hpercent⟩, hhash⟩ := h
  intro c hc
  simp only [completes, Bool.or_eq_true, beq_iff_eq] at hc
  rcases hc with (rfl | rfl) | rfl
  · exact hbrace
  · exact hpercent
  · exact hhash

theorem Tame.tail {c : Char} {cs : List Char} (h : Tame (c :: cs)) : Tame cs := by
  intro d hd
  have hcons := h d hd
  rw [Text.occursIn, Bool.or_eq_false_iff] at hcons
  exact hcons.2

theorem Tame.second {c : Char} {cs : List Char} (h : Tame ('{' :: c :: cs)) :
    completes c = false := by
  by_contra hc
  have hcons := h c (by simpa using hc)
  simp [Text.occursIn] at hcons

/-- A way to escape characters that shows a brace only for a brace. -/
def Plain (esc : Char → List Char) : Prop :=
  ∀ c, esc c = [c] ∧ c ≠ '\r' ∨
    c ≠ '{' ∧ ∃ tail, esc c = '\\' :: tail ∧ tail.all isCalm = true

section
variable {esc : Char → List Char}

/-- The escaped characters with the closing quote; also when a brace comes first. -/
theorem quiet_flatMap (he : Plain esc) (cs : List Char) (h : Tame cs) :
    Quiet (cs.flatMap esc ++ ['"']) := by
  induction cs with
  | nil => exact quiet_cons (by decide) (by decide) quiet_nil
  | cons c rest ih =>
    have hrest := ih h.tail
    rw [List.flatMap_cons, List.append_assoc]
    rcases he c with ⟨hself, hreturn⟩ | ⟨hbrace, tail, hslash, htail⟩
    · rw [hself, List.singleton_append]
      by_cases hc : c = '{'
      · subst hc
        cases rest with
        | nil => exact quiet_brace (by decide) hrest
        | cons d more =>
          -- what is shown for the next character begins with that character or a backslash
          rw [List.flatMap_cons, List.append_assoc] at hrest ⊢
          rcases he d with ⟨hself', -⟩ | ⟨-, tail, hslash, -⟩
          · rw [hself', List.singleton_append] at hrest ⊢
            exact quiet_brace h.second hrest
          · rw [hslash, List.cons_append] at hrest ⊢
            exact quiet_brace (by decide) hrest
      · exact quiet_cons hc hreturn hrest
    · rw [hslash]
      refine Quiet.append (quiet_cons (by decide) (by decide) ?_) hrest
      exact quiet_of_calm htail

theorem quiet_quoteWith (he : Plain esc) {s : String} (h : isTame s = true) :
    Quiet (quoteWith esc s) := by
  unfold quoteWith
  rw [List.cons_append]
  exact quiet_cons (by decide) (by decide) (quiet_flatMap he _ (tame_of_isTame h))

theorem plain_hexDigits {n : ℕ} (hn : n < 0x10000) :
    (Text.hexDigits 4 n).all isCalm = true := by
  have hdigit : ∀ m < 16, isCalm (Nat.digitChar m) = true := by decide
  rw [hexDigits_four hn]
  simp only [List.all_cons, List.all_nil, Bool.and_true, Bool.and_eq_true]
  refine ⟨hdigit _ ?_, hdigit _ ?_, hdigit _ ?_, hdigit _ ?_⟩ <;> omega

theorem plain_quoteChar : Plain quoteChar := by
  intro c
  unfold quoteChar
  simp only [beq_iff_eq]
  split_ifs with hquote hslash hfeed hreturn htab hback hform hcontrol
  · exact .inr ⟨by rw [hquote]; decide, _, rfl, by decide⟩
  · exact .inr ⟨by rw [hslash]; decide, _, rfl, by decide⟩
  · exact .inr ⟨by rw [hfeed]; decide, _, rfl, by decide⟩
  · exact .inr ⟨by rw [hreturn]; decide, _, rfl, by decide⟩
  · exact .inr ⟨by rw [htab]; decide, _, rfl, by decide⟩
  · exact .inr ⟨by rw [hback]; decide, _, rfl, by decide⟩
  · exact .inr ⟨by rw [hform]; decide, _, rfl, by decide⟩
  · refine .inr ⟨?_, _, rfl, ?_⟩
    · rintro rfl
      exact absurd hcontrol (by decide)
    · rw [List.all_cons, plain_hexDigits (by omega)]
      decide
  · exact .inl ⟨rfl, hreturn⟩

theorem plain_asciiChar : Plain asciiChar := by
  intro c
  unfold asciiChar
  have hletter {n : ℕ} (hn : n < 0x10000) : ('u' :: Text.hexDigits 4 n).all isCalm = true := by
    rw [List.all_cons, plain_hexDigits hn]
    decide
  split_ifs with hascii hshort
  · exact plain_quoteChar c
  · refine .inr ⟨?_, _, rfl, hletter hshort⟩
    rintro rfl
    exact absurd (by decide) hascii
  · have hlt : c.toNat < 0x110000 := by
      have hvalid : c.toNat.isValidChar := c.valid
      unfold Nat.isValidChar at hvalid
      omega
    refine .inr ⟨?_, _, rfl, ?_⟩
    · rintro rfl
      exact absurd (by decide) hascii
    · rw [List.append_eq, List.all_append, hletter (by omega), List.all_cons, hletter (by omega)]
      decide

end

/-! ## Numbers -/

theorem isCalm_of_isDigit {c : Char} (h : c.isDigit = true) : isCalm c = true := by
  rw [isCalm_iff]
  refine ⟨?_, ?_⟩ <;> rintro rfl <;> exact absurd h (by decide)

theorem quiet_of_allDigits {ds : List Char} (h : AllDigits ds) : Quiet ds :=
  quiet_of_calm (List.all_eq_true.2 fun c hc => isCalm_of_isDigit (h c hc))

theorem quiet_intChars (n : ℤ) : Quiet (intChars n) := by
  unfold intChars
  split
  · exact quiet_cons (by decide) (by decide) (quiet_of_allDigits (allDigits_toDigits _))
  · exact quiet_of_allDigits (allDigits_toDigits _)

theorem allDigits_shortest (x : Binary64) : AllDigits x.shortest.digits := by
  intro c hc
  unfold Binary64.shortest at hc
  split at hc
  · obtain rfl := List.mem_singleton.1 hc
    decide
  · have hmem := (List.dropWhile_suffix _).subset (List.mem_reverse.1 hc)
    exact allDigits_toDigits _ c (List.mem_reverse.1 hmem)

theorem quiet_exponent (l : Layout) (e : ℤ) : Quiet (l.exponent e) := by
  have hpadded : Quiet (List.replicate (l.width - (Nat.toDigits 10 e.natAbs).length) '0' ++
      Nat.toDigits 10 e.natAbs) :=
    quiet_of_allDigits ((allDigits_replicate _).append (allDigits_toDigits _))
  unfold Layout.exponent
  simp only
  split_ifs
  · exact quiet_cons (by decide) (by decide) (quiet_cons (by decide) (by decide) hpadded)
  · exact quiet_cons (by decide) (by decide) (quiet_cons (by decide) (by decide) hpadded)
  · exact quiet_cons (by decide) (by decide) hpadded

theorem quiet_positional {d : Decimal} (hd : AllDigits d.digits) :
    Quiet (Layout.positional d) := by
  unfold Layout.positional
  simp only
  split_ifs
  · exact quiet_cons (by decide) (by decide) (quiet_cons (by decide) (by decide)
      (quiet_of_allDigits ((allDigits_replicate _).append hd)))
  · refine Quiet.append (quiet_of_allDigits fun c hc => hd c (List.mem_of_mem_take hc)) ?_
    exact quiet_cons (by decide) (by decide)
      (quiet_of_allDigits fun c hc => hd c (List.mem_of_mem_drop hc))
  · exact (quiet_of_allDigits (hd.append (allDigits_replicate _))).append
      (quiet_of_calm (by decide))

theorem quiet_scientific (l : Layout) {d : Decimal} (hd : AllDigits d.digits) :
    Quiet (l.scientific d) := by
  unfold Layout.scientific
  split
  · exact quiet_nil
  · rename_i c heq
    have hc := isCalm_iff.1 (isCalm_of_isDigit (hd c (by simp [heq])))
    exact quiet_cons hc.1 hc.2 (quiet_exponent l _)
  · rename_i c rest _ heq
    have hc := isCalm_iff.1 (isCalm_of_isDigit (hd c (by simp [heq])))
    refine quiet_cons hc.1 hc.2 (Quiet.append (quiet_cons (by decide) (by decide) ?_)
      (quiet_exponent l _))
    exact quiet_of_allDigits fun a ha => hd a (by simp [heq, ha])

theorem quiet_write (x : Binary64) : Quiet (Layout.token.write x) := by
  have hsign : Quiet (if x.isNegative then ['-'] else []) := by
    split
    · exact quiet_of_calm (by decide)
    · exact quiet_nil
  unfold Layout.write
  generalize (if x.isNegative then ['-'] else []) = sign at hsign ⊢
  simp only
  split_ifs
  · exact quiet_of_calm (by decide)
  · exact quiet_of_calm (by decide)
  · exact hsign.append (quiet_of_calm (by decide))
  · exact hsign.append (quiet_positional (allDigits_shortest x))
  · exact hsign.append (quiet_scientific _ (allDigits_shortest x))

/-! ## Values -/

mutual

/-- Whether all strings and keys inside have the property. -/
def everyText (p : String → Bool) : Json → Bool
  | .str s => p s
  | .arr items => everyTextOfItems p items
  | .obj fields => everyTextOfFields p fields
  | .null | .bool _ | .int _ | .float _ => true

def everyTextOfItems (p : String → Bool) : List Json → Bool
  | [] => true
  | v :: rest => everyText p v && everyTextOfItems p rest

def everyTextOfFields (p : String → Bool) : List (String × Json) → Bool
  | [] => true
  | (k, v) :: rest => p k && everyText p v && everyTextOfFields p rest

end

section
variable {esc : Char → List Char}

theorem quiet_object {s : List Char} (hs : Quiet ('"' :: s)) : Quiet ('{' :: '"' :: s) :=
  quiet_brace (by decide) hs

theorem quiet_pair {k s : List Char} (hk : Quiet k) (hs : Quiet s) :
    Quiet (k ++ ':' :: ' ' :: s) :=
  hk.append (quiet_cons (by decide) (by decide) (quiet_cons (by decide) (by decide) hs))

mutual

/-- The text of a value is quiet when its strings and keys are tame. -/
theorem quiet_charsWith (he : Plain esc) (v : Json) (h : everyText isTame v = true) :
    Quiet (charsWith esc v) := by
  cases v with
  | null => exact quiet_of_calm (s := ['n', 'u', 'l', 'l']) (by decide)
  | bool b =>
    cases b
    · exact quiet_of_calm (s := ['f', 'a', 'l', 's', 'e']) (by decide)
    · exact quiet_of_calm (s := ['t', 'r', 'u', 'e']) (by decide)
  | int n => exact quiet_intChars n
  | float x => exact quiet_write x
  | str s => exact quiet_quoteWith he h
  | arr items =>
    cases items with
    | nil => exact quiet_of_calm (s := ['[', ']']) (by decide)
    | cons v rest =>
      simp only [everyText, everyTextOfItems, Bool.and_eq_true] at h
      refine Quiet.append (quiet_cons (by decide) (by decide) (quiet_charsWith he v h.1)) ?_
      exact (quiet_moreItemChars he rest h.2).append (quiet_of_calm (by decide))
  | obj fields =>
    cases fields with
    | nil => exact quiet_brace (by decide) (quiet_of_calm (by decide))
    | cons f rest =>
      obtain ⟨k, v⟩ := f
      simp only [everyText, everyTextOfFields, Bool.and_eq_true] at h
      have hfield := quiet_pair (quiet_quoteWith he h.1.1) (quiet_charsWith he v h.1.2)
      have hmore := (quiet_moreFieldChars he rest h.2).append
        (quiet_of_calm (s := ['}']) (by decide))
      have hall := hfield.append hmore
      simp only [quoteWith, List.cons_append] at hall
      simpa [charsWith, quoteWith] using quiet_object hall

theorem quiet_moreItemChars (he : Plain esc) (items : List Json)
    (h : everyTextOfItems isTame items = true) : Quiet (moreItemChars esc items) := by
  cases items with
  | nil => exact quiet_nil
  | cons v rest =>
    simp only [everyTextOfItems, Bool.and_eq_true] at h
    have hall := (quiet_charsWith he v h.1).append (quiet_moreItemChars he rest h.2)
    exact quiet_cons (by decide) (by decide) (quiet_cons (by decide) (by decide) hall)

theorem quiet_moreFieldChars (he : Plain esc) (fields : List (String × Json))
    (h : everyTextOfFields isTame fields = true) : Quiet (moreFieldChars esc fields) := by
  cases fields with
  | nil => exact quiet_nil
  | cons f rest =>
    obtain ⟨k, v⟩ := f
    simp only [everyTextOfFields, Bool.and_eq_true] at h
    have hfield := quiet_pair (quiet_quoteWith he h.1.1) (quiet_charsWith he v h.1.2)
    have hall := hfield.append (quiet_moreFieldChars he rest h.2)
    simpa [moreFieldChars] using
      quiet_cons (c := ',') (by decide) (by decide) (quiet_cons (c := ' ') (by decide) (by decide) hall)

end

end

/-! ## Positions -/

theorem everyTextOfItems_append (p : String → Bool) (items more : List Json) :
    everyTextOfItems p (items ++ more) = (everyTextOfItems p items && everyTextOfItems p more) := by
  induction items with
  | nil => rfl
  | cons v rest ih => rw [List.cons_append, everyTextOfItems, everyTextOfItems, ih, Bool.and_assoc]

theorem everyTextOfFields_append (p : String → Bool) (fields more : List (String × Json)) :
    everyTextOfFields p (fields ++ more) =
      (everyTextOfFields p fields && everyTextOfFields p more) := by
  induction fields with
  | nil => rfl
  | cons f rest ih =>
    rw [List.cons_append, everyTextOfFields, everyTextOfFields, ih]
    simp only [Bool.and_assoc]

section
variable {esc : Char → List Char}

theorem quiet_leadItems (he : Plain esc) (items : List Json)
    (h : everyTextOfItems isTame items = true) : Quiet (leadItems esc items) := by
  induction items with
  | nil => exact quiet_nil
  | cons v rest ih =>
    simp only [everyTextOfItems, Bool.and_eq_true] at h
    exact (quiet_charsWith he v h.1).append
      (quiet_cons (by decide) (by decide) (quiet_cons (by decide) (by decide) (ih h.2)))

theorem quiet_leadFields (he : Plain esc) (fields : List (String × Json)) {key : String}
    (hkey : isTame key = true) (h : everyTextOfFields isTame fields = true) {s : List Char}
    (hs : Quiet s) : Quiet ('{' :: leadFields esc fields ++ (quoteWith esc key ++ ':' :: ' ' :: s)) := by
  have hlead : Quiet (leadFields esc fields) := by
    induction fields with
    | nil => exact quiet_nil
    | cons f rest ih =>
      obtain ⟨k, v⟩ := f
      simp only [everyTextOfFields, Bool.and_eq_true] at h
      have hfield := quiet_pair (quiet_quoteWith he h.1.1) (quiet_charsWith he v h.1.2)
      have hall := hfield.append (quiet_cons (c := ',') (by decide) (by decide)
        (quiet_cons (c := ' ') (by decide) (by decide) (ih h.2)))
      simpa [leadFields] using hall
  have hall := hlead.append (quiet_pair (quiet_quoteWith he hkey) hs)
  have hquote : ∃ t, leadFields esc fields ++ (quoteWith esc key ++ ':' :: ' ' :: s) = '"' :: t := by
    cases fields with
    | nil => exact ⟨_, rfl⟩
    | cons f rest => exact ⟨_, rfl⟩
  obtain ⟨t, ht⟩ := hquote
  rw [ht] at hall
  rw [List.cons_append, ht]
  exact quiet_object hall

/-- The text around a position is quiet on both sides. -/
theorem quiet_around (he : Plain esc) (position : Position) {v : Json}
    (h : everyText isTame (position.fill v) = true) :
    Quiet (position.before esc) ∧ Quiet (position.after esc) := by
  induction position with
  | here => exact ⟨quiet_nil, quiet_nil⟩
  | item first inside last ih =>
    simp only [Position.fill, everyText, everyTextOfItems_append, everyTextOfItems,
      Bool.and_eq_true] at h
    obtain ⟨hbefore, hafter⟩ := ih h.2.1
    have hlast := (quiet_moreItemChars he last h.2.2).append
      (quiet_of_calm (s := [']']) (by decide))
    exact ⟨(quiet_cons (by decide) (by decide) (quiet_leadItems he first h.1)).append hbefore,
      hafter.append hlast⟩
  | field first key inside last ih =>
    simp only [Position.fill, everyText, everyTextOfFields_append, everyTextOfFields,
      Bool.and_eq_true] at h
    obtain ⟨hfirst, ⟨hkey, hinside⟩, hrest⟩ := h
    obtain ⟨hbefore, hafter⟩ := ih hinside
    have hlast := (quiet_moreFieldChars he last hrest).append
      (quiet_of_calm (s := ['}']) (by decide))
    exact ⟨quiet_leadFields he first hkey hfirst hbefore, hafter.append hlast⟩

end

end FlexForm.Grammar
