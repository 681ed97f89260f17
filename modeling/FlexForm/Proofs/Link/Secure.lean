import FlexForm.Proofs.Form.Filled
import FlexForm.Proofs.Message.Actions
import Mathlib

/-! # Secure links as they are written

Whether a link is secure is judged by its scheme, after controls and blanks at its ends have been
left out, and tabs and line ends everywhere. Behind the colon there may be any number of slashes of
either kind. So a secure link need not begin with the eight characters that secure links usually
begin with.

* `Spelling`, `Spelling.IsSecure`: a text with the parts of a secure link in it.
* `scheme?_eq_secure_iff`: the texts of secure links.
* `Spelling.startsSecurely_iff`: those that begin as usual.
* `accepts_secure`: both in the check of a form and in that of a message.
-/

namespace FlexForm.Link
set_option autoImplicit false

/-! ## Texts of secure links -/

/-- Controls and the blank. -/
def isLow (c : Char) : Bool := c.toNat ≤ 32

/-- Tabs and line ends. -/
def isBreak (c : Char) : Bool := c == '\t' || c == '\n' || c == '\r'

/-- A text with a link between what is left out at its ends, and the parts of that link. -/
structure Spelling where
  lead : List Char
  link : List Char
  tail : List Char
  scheme : List Char
  slashes : List Char
  place : List Char

def Spelling.text (w : Spelling) : List Char := w.lead ++ w.link ++ w.tail

/-- The link, apart from tabs and line ends, is the secure scheme in any case of letters, a colon,
slashes of either kind, and a place with a host. -/
structure Spelling.IsSecure (w : Spelling) : Prop where
  lead : ∀ c ∈ w.lead, isLow c = true
  tail : ∀ c ∈ w.tail, isLow c = true
  head : ∀ c, w.link.head? = some c → isLow c = false
  last : ∀ c, w.link.getLast? = some c → isLow c = false
  parts : w.link.filter (fun c => !isBreak c) = w.scheme ++ ':' :: (w.slashes ++ w.place)
  scheme : w.scheme.map Char.toLower = "https".toList
  slashes : ∀ c ∈ w.slashes, isSlash c = true
  place : ∀ c, w.place.head? = some c → isSlash c = false
  authority : isAuthority .web w.place = true

/-- The text begins with the secure scheme, a colon and two slashes, in any case of letters. -/
def StartsSecurely (s : List Char) : Prop := (s.take 8).map Char.toLower = "https://".toList

/-! ## What is left out -/

section
variable {p : Char → Bool} {s lead link tail rest : List Char} {c : Char}

theorem dropWhile_of_head (h : ∀ c, s.head? = some c → p c = false) : s.dropWhile p = s := by
  cases s with
  | nil => rfl
  | cons c s => exact List.dropWhile_cons_of_neg (by rw [h c rfl]; exact Bool.false_ne_true)

theorem head_of_dropWhile (h : (s.dropWhile p).head? = some c) : p c = false := by
  have hnot := List.head?_dropWhile_not p s
  rw [h] at hnot
  exact hnot

theorem rdropWhile_append (hlast : ∀ c, link.getLast? = some c → p c = false)
    (htail : ∀ c ∈ tail, p c = true) : (link ++ tail).rdropWhile p = link := by
  have hhead : ∀ c, link.reverse.head? = some c → p c = false := by
    rwa [List.head?_reverse]
  rw [List.rdropWhile, List.reverse_append,
    List.dropWhile_append_of_pos fun c hc => htail c (List.mem_reverse.1 hc),
    dropWhile_of_head hhead, List.reverse_reverse]

theorem clean_eq (s : List Char) :
    clean s = ((s.dropWhile isLow).rdropWhile isLow).filter fun c => !isBreak c := by
  have hkept : (fun c => !isBreak c) = fun c => c != '\t' && c != '\n' && c != '\r' := by
    funext c
    simp only [isBreak, Bool.not_or, bne]
  rw [hkept]
  rfl

theorem clean_append (hlead : ∀ c ∈ lead, isLow c = true)
    (hhead : ∀ c, link.head? = some c → isLow c = false)
    (hlast : ∀ c, link.getLast? = some c → isLow c = false) (htail : ∀ c ∈ tail, isLow c = true) :
    clean (lead ++ link ++ tail) = link.filter fun c => !isBreak c := by
  rw [clean_eq, List.append_assoc, List.dropWhile_append_of_pos hlead]
  cases link with
  | nil =>
    rw [List.nil_append, List.dropWhile_eq_nil_iff.2 htail]
    rfl
  | cons c link =>
    rw [dropWhile_of_head (s := c :: link ++ tail) hhead, rdropWhile_append hlast htail]

theorem exists_trimmed (s : List Char) :
    ∃ lead link tail, lead ++ link ++ tail = s ∧ (∀ c ∈ lead, isLow c = true) ∧
      (∀ c, link.head? = some c → isLow c = false) ∧
      (∀ c, link.getLast? = some c → isLow c = false) ∧ ∀ c ∈ tail, isLow c = true := by
  refine ⟨s.takeWhile isLow, (s.dropWhile isLow).rdropWhile isLow,
    (s.dropWhile isLow).rtakeWhile isLow, ?_, fun c => List.mem_takeWhile_imp, fun c hc => ?_,
    fun c hc => ?_, fun c => List.mem_rtakeWhile_imp⟩
  · rw [List.append_assoc, List.rdropWhile_append_rtakeWhile, List.takeWhile_append_dropWhile]
  · obtain ⟨tail, htail⟩ := List.rdropWhile_prefix isLow (l := s.dropWhile isLow)
    refine head_of_dropWhile (s := s) ?_
    rw [← htail, List.head?_append, hc, Option.some_or]
  · rw [List.rdropWhile, List.getLast?_reverse] at hc
    exact head_of_dropWhile hc

/-! ## The scheme -/

theorem not_isLow_of_toLower (h : isLow c.toLower = false) : isLow c = false := by
  unfold Char.toLower at h
  split at h
  next hupper =>
    have hcode : 65 ≤ c.toNat := UInt32.le_iff_toNat_le.1 hupper.1
    rw [isLow, decide_eq_false_iff_not]
    omega
  next => exact h

theorem isSchemeChar_of_isAlpha (h : c.isAlpha = true) : isSchemeChar c = true := by
  simp [isSchemeChar, Char.isAlphanum, h]

/-- The text in front of the first colon, if it is the secure scheme. -/
theorem splitScheme?_eq_secure_iff :
    splitScheme? s = some (secureScheme, rest) ↔
      ∃ scheme, s = scheme ++ ':' :: rest ∧ scheme.map Char.toLower = "https".toList := by
  constructor
  · intro h
    unfold splitScheme? at h
    split at h
    next => cases h
    next c more =>
      split at h
      next => cases h
      next =>
        split at h
        next more' hcolon =>
          rw [Option.some.injEq, Prod.mk.injEq] at h
          obtain ⟨hscheme, rfl⟩ := h
          refine ⟨(c :: more).takeWhile isSchemeChar, ?_, ?_⟩
          · rw [← hcolon, List.takeWhile_append_dropWhile]
          · rw [← String.toList_ofList (l := List.map _ _), hscheme]
            rfl
        next => cases h
  · rintro ⟨scheme, rfl, hscheme⟩
    have halpha : ∀ c ∈ scheme, c.isAlpha = true := by
      intro c hc
      have htable : "https".toList.all Char.isAlpha = true := by decide
      rw [← Char.isAlpha_toLower_eq_isAlpha]
      exact List.all_eq_true.1 htable _ (hscheme ▸ List.mem_map_of_mem hc)
    have hinside : ∀ c ∈ scheme, isSchemeChar c = true := fun c hc =>
      isSchemeChar_of_isAlpha (halpha c hc)
    have hcolon : isSchemeChar ':' = false := by decide
    have hdrop : (scheme ++ ':' :: rest).dropWhile isSchemeChar = ':' :: rest := by
      rw [List.dropWhile_append_of_pos hinside, List.dropWhile_cons_of_neg (by simp [hcolon])]
    have htake : (scheme ++ ':' :: rest).takeWhile isSchemeChar = scheme := by
      rw [List.takeWhile_append_of_pos hinside, List.takeWhile_cons_of_neg (by simp [hcolon]),
        List.append_nil]
    cases scheme with
    | nil => cases hscheme
    | cons c scheme =>
      have hc : c.isAlpha = true := halpha c List.mem_cons_self
      rw [List.cons_append] at hdrop htake ⊢
      simp only [splitScheme?, hc, hdrop, htake, hscheme]
      rfl

theorem scheme?_eq_secure {s : String} :
    scheme? s = some secureScheme ↔
      ∃ rest, splitScheme? (clean s.toList) = some (secureScheme, rest) ∧
        isAuthority .web (rest.dropWhile isSlash) = true := by
  rw [scheme?, Option.bind_eq_bind, Option.bind_eq_some_iff]
  constructor
  · rintro ⟨⟨scheme, rest⟩, hsplit, h⟩
    dsimp only at h
    split at h
    next hrest =>
      obtain rfl : scheme = secureScheme := Option.some.inj h
      exact ⟨rest, hsplit, hrest⟩
    next => cases h
  · rintro ⟨rest, hsplit, hrest⟩
    exact ⟨(secureScheme, rest), hsplit, if_pos hrest⟩

theorem scheme?_eq_secure_iff {s : String} :
    scheme? s = some secureScheme ↔ ∃ w : Spelling, w.text = s.toList ∧ w.IsSecure := by
  rw [scheme?_eq_secure]
  constructor
  · rintro ⟨rest, hsplit, hauthority⟩
    obtain ⟨scheme, hclean, hscheme⟩ := splitScheme?_eq_secure_iff.1 hsplit
    obtain ⟨lead, link, tail, htext, hlead, hhead, hlast, htail⟩ := exists_trimmed s.toList
    refine ⟨⟨lead, link, tail, scheme, rest.takeWhile isSlash, rest.dropWhile isSlash⟩, htext,
      hlead, htail, hhead, hlast, ?_, hscheme, fun c => List.mem_takeWhile_imp,
      fun c => head_of_dropWhile, hauthority⟩
    rw [List.takeWhile_append_dropWhile, ← hclean, ← htext, clean_append hlead hhead hlast htail]
  · rintro ⟨w, htext, hw⟩
    refine ⟨w.slashes ++ w.place, splitScheme?_eq_secure_iff.2 ⟨w.scheme, ?_, hw.scheme⟩, ?_⟩
    · rw [← htext, Spelling.text, clean_append hw.lead hw.head hw.last hw.tail, hw.parts]
    · rw [List.dropWhile_append_of_pos hw.slashes, dropWhile_of_head hw.place]
      exact hw.authority

/-! ## The usual beginning -/

theorem not_isLow_of_startsSecurely (h : StartsSecurely s) : ∀ c ∈ s.take 8, isLow c = false := by
  intro c hc
  have htable : "https://".toList.any isLow = false := by decide
  exact not_isLow_of_toLower
    (Bool.eq_false_iff.2 (List.any_eq_false.1 htable _ (h ▸ List.mem_map_of_mem hc)))

theorem eq_slash_of_toLower (h : c.toLower = '/') : c = '/' := by
  have htable : ∀ n < 128, (Char.ofNat n).toLower = '/' → Char.ofNat n = '/' := by decide +kernel
  by_cases hlow : c.toNat < 128
  · rw [← Char.ofNat_toNat c] at h ⊢
    exact htable _ hlow h
  · unfold Char.toLower at h
    split at h
    next hupper =>
      have hcode : c.toNat ≤ 90 := UInt32.le_iff_toNat_le.1 hupper.2
      omega
    next => exact h

theorem not_isBreak_of_not_isLow (h : isLow c = false) : isBreak c = false := by
  have htable : ['\t', '\n', '\r'].all isLow = true := by decide
  rw [Bool.eq_false_iff]
  intro hbreak
  have hmem : c ∈ ['\t', '\n', '\r'] := by simpa [isBreak, or_assoc] using hbreak
  rw [List.all_eq_true.1 htable c hmem] at h
  cases h

theorem length_of_startsSecurely (h : StartsSecurely s) : 8 ≤ s.length := by
  have hlength : min 8 s.length = 8 := by
    rw [← List.length_take, ← List.length_map Char.toLower, h]
    rfl
  exact min_eq_left_iff.1 hlength

theorem length_of_startsSecurely_append (front : List Char) (h : StartsSecurely (front ++ rest))
    (hrest : ∀ c, rest.head? = some c → isLow c = true) : 8 ≤ front.length := by
  cases rest with
  | nil =>
    rw [List.append_nil] at h
    exact length_of_startsSecurely h
  | cons c rest =>
    by_contra hshort
    obtain ⟨n, hn⟩ : ∃ n, 8 - front.length = n + 1 := ⟨7 - front.length, by omega⟩
    have hmem : c ∈ (front ++ c :: rest).take 8 := by
      rw [List.take_append, hn, List.take_succ_cons]
      exact List.mem_append_right _ List.mem_cons_self
    have hc := not_isLow_of_startsSecurely h c hmem
    rw [hrest c rfl] at hc
    cases hc

theorem StartsSecurely.append (h : StartsSecurely s) (rest : List Char) :
    StartsSecurely (s ++ rest) := by
  unfold StartsSecurely
  rwa [List.take_append_of_le_length (length_of_startsSecurely h)]

theorem take_filter {n : ℕ} (h : ∀ c ∈ s.take n, p c = true) : (s.filter p).take n = s.take n := by
  induction n generalizing s with
  | zero => rfl
  | succ n ih =>
    cases s with
    | nil => rfl
    | cons c s =>
      rw [List.take_succ_cons, List.forall_mem_cons] at h
      rw [List.filter_cons_of_pos h.1, List.take_succ_cons, List.take_succ_cons, ih h.2]

section
variable {w : Spelling} (hw : w.IsSecure)
include hw

theorem Spelling.startsSecurely_link :
    StartsSecurely w.text ↔ w.lead = [] ∧ StartsSecurely w.link := by
  constructor
  · intro h
    have hlead : w.lead = [] := by
      cases hfirst : w.lead with
      | nil => rfl
      | cons c lead =>
        have hc : isLow c = true := hw.lead c (hfirst ▸ List.mem_cons_self)
        rw [text, hfirst] at h
        exact absurd (length_of_startsSecurely_append [] h (by simp [hc])) (by decide)
    rw [text, hlead, List.nil_append] at h
    have hlength : 8 ≤ w.link.length := length_of_startsSecurely_append _ h fun c hc =>
      hw.tail c (List.mem_of_head? hc)
    rw [StartsSecurely, List.take_append_of_le_length hlength] at h
    exact ⟨hlead, h⟩
  · rintro ⟨hlead, h⟩
    rw [text, hlead, List.nil_append]
    exact h.append _

theorem Spelling.slashes_iff :
    ((w.slashes ++ w.place).take 2).map Char.toLower = ['/', '/'] ↔ ['/', '/'] <+: w.slashes := by
  have hplace (rest : List Char) (n : ℕ) :
      ¬ (w.place.take (n + 1)).map Char.toLower = '/' :: rest := by
    intro h
    cases hfirst : w.place with
    | nil => simp [hfirst] at h
    | cons c place =>
      rw [hfirst, List.take_succ_cons, List.map_cons, List.cons.injEq] at h
      have hc := hw.place c (by rw [hfirst]; rfl)
      rw [eq_slash_of_toLower h.1] at hc
      cases hc
  match hslashes : w.slashes with
  | [] => simpa using hplace ['/'] 1
  | [x] => simpa using fun _ => hplace [] 0
  | x :: y :: more =>
    have hslash (c : Char) : c.toLower = '/' ↔ '/' = c :=
      ⟨fun h => (eq_slash_of_toLower h).symm, fun h => by rw [← h]; rfl⟩
    simp [List.cons_prefix_cons, hslash]

theorem Spelling.startsSecurely_parts :
    StartsSecurely (w.scheme ++ ':' :: (w.slashes ++ w.place)) ↔ ['/', '/'] <+: w.slashes := by
  have hlength : w.scheme.length = 5 := by
    simpa using congrArg List.length hw.scheme
  have htake : (w.scheme ++ ':' :: (w.slashes ++ w.place)).take 8 =
      w.scheme ++ ':' :: (w.slashes ++ w.place).take 2 := by
    rw [List.take_append, List.take_of_length_le (by omega), hlength]
    rfl
  have husual : "https://".toList = "https".toList ++ ':' :: ['/', '/'] := rfl
  rw [← slashes_iff hw, StartsSecurely, htake, List.map_append, hw.scheme, husual,
    List.append_right_inj, List.map_cons, List.cons.injEq]
  exact and_iff_right (by decide)

theorem Spelling.startsSecurely_iff :
    StartsSecurely w.text ↔
      w.lead = [] ∧ (∀ c ∈ w.link.take 8, isBreak c = false) ∧ ['/', '/'] <+: w.slashes := by
  have hlink (h : ∀ c ∈ w.link.take 8, isBreak c = false) :
      StartsSecurely w.link ↔ ['/', '/'] <+: w.slashes := by
    rw [← startsSecurely_parts hw, ← hw.parts, StartsSecurely, StartsSecurely,
      take_filter fun c hc => by rw [h c hc]; rfl]
  rw [startsSecurely_link hw]
  refine and_congr_right fun _ => ⟨fun h => ?_, fun h => (hlink h.1).2 h.2⟩
  have hbreak : ∀ c ∈ w.link.take 8, isBreak c = false := fun c hc =>
    not_isBreak_of_not_isLow (not_isLow_of_startsSecurely h c hc)
  exact ⟨hbreak, (hlink hbreak).1 h⟩

end

end

/-! ## Checks of links -/

/-- The flaws of a field that are about links. -/
def isOfLink : Flaw → Bool
  | .notLink _ | .notSecure _ => true
  | _ => false

theorem lacks_linkFlaws_secure (label s : String) :
    Lacks isOfLink (linkFlaws label true (.str s)) ↔ scheme? s = some secureScheme := by
  simp only [linkFlaws]
  cases scheme? s with
  | none => simp [Lacks, isOfLink]
  | some scheme =>
    by_cases hsecure : scheme = secureScheme <;> simp [hsecure, Lacks, isOfLink]

theorem lacks_textFlaws {c : Constraints} {label s : String} :
    Lacks isOfLink (c.textFlaws label s) := by
  intro flaw h
  rcases Constraints.mem_textFlaws.1 h with ⟨n, -, -, -, rfl⟩ | ⟨n, -, -, rfl⟩ <;> rfl

section
variable {info : FieldInfo} {type : PlainType} {path s : String} {scope : Json}
  {problems : List Problem}

theorem lacks_flaws (htype : type = .url ∨ type = .imageUrl)
    (hsecure : info.constraints.httpsOnly = true) :
    Lacks isOfLink ((Field.plain info type).flaws (.str s)) ↔ scheme? s = some secureScheme := by
  have hc : (Field.plain info type).constraints.httpsOnly = true := hsecure
  have hpattern : Lacks isOfLink (patternFlaws (Field.plain info type).label
      (Field.plain info type).constraints.pattern (.str s)) := lacks_patternFlaws rfl
  rw [← lacks_linkFlaws_secure (Field.plain info type).label]
  rcases htype with rfl | rfl <;>
    simp [Field.flaws, hc, lacks_append, lacks_textFlaws, hpattern]

theorem not_isOfLink_of_empty
    (h : (Field.plain info type).check (some (.str "")) path scope = .ok problems) :
    ∀ p ∈ problems, isOfLink p.flaw = false := by
  rw [Field.check] at h
  obtain ⟨required, -, h⟩ := exists_of_bind_ok h
  cases required <;> cases h <;> simp [isOfLink]

theorem accepts_field (htype : type = .url ∨ type = .imageUrl)
    (hsecure : info.constraints.httpsOnly = true)
    (h : (Field.plain info type).check (some (.str s)) path scope = .ok problems) :
    (∀ p ∈ problems, isOfLink p.flaw = false) ↔ s = "" ∨ scheme? s = some secureScheme := by
  by_cases hs : s = ""
  · subst hs
    exact iff_of_true (not_isOfLink_of_empty h) (.inl rfl)
  · rw [Field.check_text hs] at h
    cases hrequired : (Field.plain info type).isRequired (some (.str s)) scope with
    | error fault =>
      rw [hrequired] at h
      cases h
    | ok required =>
      rw [hrequired] at h
      cases h
      rw [or_iff_right hs, ← lacks_flaws htype hsecure, Field.reports, List.forall_mem_map]
      rfl

theorem accepts_action {action : List (String × Json)}
    (htype : Fields.get? action "type" = some (.str "uri"))
    (huri : Fields.get? action "uri" = some (.str s)) :
    (∀ flaw, ("uri", flaw) ∉ Message.actionFlaws action) ↔ scheme? s = some secureScheme := by
  rw [← Message.linkFlaw?_str]
  simp only [Message.actionFlaws, htype, huri, List.mem_append, not_or]
  cases hflaw : Message.linkFlaw? (some (.str s)) with
  | none => simp
  | some flaw => simp

end

/-- The texts that a check takes for a secure link, in a field that asks for one and as the link of
an action, are the secure links as they may be spelled; a field takes the empty text as well. Such
a text begins as secure links usually do exactly if nothing in front of the link is left out, nor
within its first eight characters, and the colon is followed by two slashes. -/
theorem accepts_secure (s : String) :
    (∀ (info : FieldInfo) (type : PlainType) (path : String) (scope : Json)
        (problems : List Problem), type = .url ∨ type = .imageUrl →
      info.constraints.httpsOnly = true →
      (Field.plain info type).check (some (.str s)) path scope = .ok problems →
      ((∀ p ∈ problems, isOfLink p.flaw = false) ↔
        s = "" ∨ ∃ w : Spelling, w.text = s.toList ∧ w.IsSecure)) ∧
    (∀ action : List (String × Json), Fields.get? action "type" = some (.str "uri") →
      Fields.get? action "uri" = some (.str s) →
      ((∀ flaw, ("uri", flaw) ∉ Message.actionFlaws action) ↔
        ∃ w : Spelling, w.text = s.toList ∧ w.IsSecure)) ∧
    ∀ w : Spelling, w.text = s.toList → w.IsSecure →
      (StartsSecurely s.toList ↔
        w.lead = [] ∧ (∀ c ∈ w.link.take 8, isBreak c = false) ∧ ['/', '/'] <+: w.slashes) := by
  refine ⟨fun info type path scope problems htype hsecure h => ?_, fun action htype huri => ?_,
    fun w htext hw => ?_⟩
  · rw [← scheme?_eq_secure_iff]
    exact accepts_field htype hsecure h
  · rw [← scheme?_eq_secure_iff]
    exact accepts_action htype huri
  · rw [← htext]
    exact Spelling.startsSecurely_iff hw

/-- A field for a secure link. -/
def linkInfo : FieldInfo := { key := "u", constraints := { httpsOnly := true } }

/-- An action with the link. -/
def linkAction (link : String) : List (String × Json) :=
  [("type", .str "uri"), ("label", .str "L"), ("uri", .str link)]

/-- A link with a blank in front of it and without slashes is accepted by both. -/
theorem accepts_secure_padded :
    linkInfo.constraints.httpsOnly = true ∧
    (Field.plain linkInfo .url).check (some (.str " https:e.com")) "u" .null = .ok [] ∧
    (∀ flaw, ("uri", flaw) ∉ Message.actionFlaws (linkAction " https:e.com")) ∧
    ∃ w : Spelling, w.text = " https:e.com".toList ∧ w.IsSecure ∧
      ¬ (w.lead = [] ∧ (∀ c ∈ w.link.take 8, isBreak c = false) ∧ ['/', '/'] <+: w.slashes) := by
  have hcheck : (Field.plain linkInfo .url).check (some (.str " https:e.com")) "u" .null = .ok [] :=
    rfl
  have hstart : ¬ StartsSecurely " https:e.com".toList := by
    unfold StartsSecurely
    decide
  obtain ⟨hfield, haction, husual⟩ := accepts_secure " https:e.com"
  obtain hempty | ⟨w, htext, hw⟩ :=
    (hfield linkInfo .url "u" .null [] (.inl rfl) rfl hcheck).1 (by simp)
  · exact absurd hempty (by decide)
  · exact ⟨rfl, hcheck, (haction _ rfl rfl).2 ⟨w, htext, hw⟩, w, htext, hw,
      mt (husual w htext hw).2 hstart⟩

end FlexForm.Link
