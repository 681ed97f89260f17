import FlexForm.Proofs.Grammar.Quiet
import FlexForm.Proofs.Json.Size

/-! # JSON texts with other line ends

Between the pieces of a JSON text all line ends are white space, and inside of them none can stand.
So a text holds the same value however its lines end.

* `SameLines`: texts that differ in their line ends at most.
* `SameLines.readChars_eq_ok`: they hold the same value, or none.
-/

namespace FlexForm.Json
set_option autoImplicit false

open Grammar

/-! ## Line ends -/

/-- The texts differ in how their lines end at most. -/
def SameLines (s t : List Char) : Prop := unifyLines s = unifyLines t

def endsLine (c : Char) : Bool := c == '\n' || c == '\r'

theorem endsLine_eq_false_iff {c : Char} : endsLine c = false ↔ c ≠ '\n' ∧ c ≠ '\r' := by
  rw [endsLine, Bool.or_eq_false_iff, beq_eq_false_iff_ne, beq_eq_false_iff_ne]

section
variable {s t rest : List Char} {c : Char}

theorem exists_unifyLines_of_endsLine (h : endsLine c = true) (s : List Char) :
    ∃ more, unifyLines (c :: s) = '\n' :: more := by
  rw [endsLine, Bool.or_eq_true, beq_iff_eq, beq_iff_eq] at h
  obtain rfl | rfl := h
  · exact ⟨_, unifyLines_cons (by decide) s⟩
  · unfold unifyLines
    split
    next => exact ⟨_, rfl⟩
    next => exact ⟨_, rfl⟩
    next hne heq => exact absurd (List.cons.inj heq).1.symm hne
    next heq => cases heq

theorem not_mem_unifyLines (s : List Char) : '\r' ∉ unifyLines s := by
  fun_induction unifyLines s with
  | case1 rest ih => simpa using ih
  | case2 rest _ ih => simpa using ih
  | case3 c rest _ hc ih =>
    rw [List.mem_cons, not_or]
    exact ⟨fun h => hc h.symm, ih⟩
  | case4 => simp

theorem sameLines_unifyLines (s : List Char) : SameLines (unifyLines s) s :=
  unifyLines_of_noReturn (not_mem_unifyLines s)

theorem SameLines.symm (h : SameLines s t) : SameLines t s := Eq.symm h

theorem SameLines.eq_nil (h : SameLines [] t) : t = [] := by
  cases t with
  | nil => rfl
  | cons c t =>
    cases hc : endsLine c with
    | true =>
      obtain ⟨more, hmore⟩ := exists_unifyLines_of_endsLine hc t
      rw [SameLines, hmore] at h
      cases h
    | false =>
      rw [SameLines, unifyLines_cons (endsLine_eq_false_iff.1 hc).2] at h
      cases h

theorem SameLines.cons (h : SameLines (c :: s) t) (hc : endsLine c = false) :
    ∃ more, t = c :: more ∧ SameLines s more := by
  obtain ⟨hfeed, hreturn⟩ := endsLine_eq_false_iff.1 hc
  rw [SameLines, unifyLines_cons hreturn] at h
  cases t with
  | nil => cases h
  | cons d t =>
    cases hd : endsLine d with
    | true =>
      obtain ⟨more, hmore⟩ := exists_unifyLines_of_endsLine hd t
      rw [hmore] at h
      exact absurd (List.cons.inj h).1 hfeed
    | false =>
      rw [unifyLines_cons (endsLine_eq_false_iff.1 hd).2] at h
      obtain ⟨rfl, hrest⟩ := List.cons.inj h
      exact ⟨t, rfl, hrest⟩

theorem SameLines.ne_cons (h : SameLines s t) (hc : endsLine c = false)
    (hne : ∀ more, s ≠ c :: more) (more : List Char) : t ≠ c :: more := by
  rintro rfl
  obtain ⟨_, hs, -⟩ := h.symm.cons hc
  exact hne _ hs

theorem SameLines.cases_head (h : SameLines s t) :
    (∃ c s' t', endsLine c = false ∧ s = c :: s' ∧ t = c :: t' ∧ SameLines s' t') ∨
      ∀ c, endsLine c = false → s.head? ≠ some c ∧ t.head? ≠ some c := by
  by_cases hhead : ∃ c, endsLine c = false ∧ s.head? = some c
  · obtain ⟨c, hc, hs⟩ := hhead
    obtain ⟨s', rfl⟩ := List.head?_eq_some_iff.1 hs
    obtain ⟨t', ht, hrest⟩ := h.cons hc
    exact .inl ⟨c, s', t', hc, rfl, ht, hrest⟩
  · refine .inr fun c hc => ⟨fun hs => hhead ⟨c, hc, hs⟩, fun ht => ?_⟩
    obtain ⟨t', rfl⟩ := List.head?_eq_some_iff.1 ht
    obtain ⟨s', rfl, -⟩ := h.symm.cons hc
    exact hhead ⟨c, hc, rfl⟩

theorem SameLines.append_left (word : List Char) (h : SameLines (word ++ s) t)
    (hword : word.all (!endsLine ·) = true) : ∃ more, t = word ++ more ∧ SameLines s more := by
  induction word generalizing t with
  | nil => exact ⟨t, rfl, h⟩
  | cons c word ih =>
    rw [List.all_cons, Bool.and_eq_true, Bool.not_eq_true'] at hword
    obtain ⟨middle, rfl, hmiddle⟩ := h.cons hword.1
    obtain ⟨more, rfl, hmore⟩ := ih hmiddle hword.2
    exact ⟨more, rfl, hmore⟩

theorem skipSpace_unifyLines (s : List Char) :
    skipSpace (unifyLines s) = unifyLines (skipSpace s) := by
  fun_induction unifyLines s with
  | case1 rest ih => exact ih
  | case2 rest _ ih => exact ih
  | case3 c rest _ hc ih =>
    rw [skipSpace] at ih ⊢
    rw [skipSpace] at ih ⊢
    cases hspace : isSpace c with
    | true => rw [List.dropWhile_cons_of_pos hspace, List.dropWhile_cons_of_pos hspace, ih]
    | false =>
      have hstop : ¬ isSpace c = true := by rw [hspace]; exact Bool.false_ne_true
      rw [List.dropWhile_cons_of_neg hstop, List.dropWhile_cons_of_neg hstop, unifyLines_cons hc]
  | case4 => rfl

theorem SameLines.skipSpace (h : SameLines s t) : SameLines (skipSpace s) (skipSpace t) := by
  rw [SameLines, ← skipSpace_unifyLines, h, skipSpace_unifyLines]

theorem SameLines.skipSpace_cons (h : SameLines s t) {more : List Char}
    (hs : Json.skipSpace s = c :: more) (hc : endsLine c = false) :
    ∃ other, Json.skipSpace t = c :: other ∧ SameLines more other :=
  (hs ▸ h.skipSpace).cons hc

theorem SameLines.span {p : Char → Bool} (hp : ∀ c, p c = true → endsLine c = false)
    (h : SameLines s t) :
    s.takeWhile p = t.takeWhile p ∧ SameLines (s.dropWhile p) (t.dropWhile p) := by
  induction s generalizing t with
  | nil =>
    rw [h.eq_nil]
    exact ⟨rfl, rfl⟩
  | cons c s ih =>
    cases hc : p c with
    | true =>
      obtain ⟨more, rfl, hmore⟩ := h.cons (hp c hc)
      obtain ⟨htake, hdrop⟩ := ih hmore
      rw [List.takeWhile_cons_of_pos hc, List.takeWhile_cons_of_pos hc, htake,
        List.dropWhile_cons_of_pos hc, List.dropWhile_cons_of_pos hc]
      exact ⟨rfl, hdrop⟩
    | false =>
      have hstop (d : Char) (more : List Char) (ht : t = d :: more) : p d = false := by
        by_contra hd
        rw [ht] at h
        obtain ⟨_, heq, -⟩ := h.symm.cons (hp d (by simpa using hd))
        rw [(List.cons.inj heq).1] at hc
        exact hd hc
      rw [List.takeWhile_cons_of_neg (by simp [hc]), List.dropWhile_cons_of_neg (by simp [hc])]
      cases t with
      | nil => exact ⟨rfl, h⟩
      | cons d more =>
        have hd := hstop d more rfl
        rw [List.takeWhile_cons_of_neg (by simp [hd]), List.dropWhile_cons_of_neg (by simp [hd])]
        exact ⟨rfl, h⟩

end

/-! ## Strings -/

/-- What is read of the one text is read of the other one, with the same lines behind it. -/
def Alike {α : Type} (found other : Except Fault (α × List Char)) : Prop :=
  ∀ a rest, found = .ok (a, rest) → ∃ more, other = .ok (a, more) ∧ SameLines rest more

section
variable {s t rest : List Char}

theorem endsLine_of_hexValue? {c : Char} {n : ℕ} (h : hexValue? c = some n) :
    endsLine c = false := by
  rw [endsLine_eq_false_iff]
  constructor <;> rintro rfl <;> cases h

theorem endsLine_of_shortEscape? {c e : Char} (h : shortEscape? c = some e) :
    endsLine c = false := by
  rw [endsLine_eq_false_iff]
  constructor <;> rintro rfl <;> cases h

theorem endsLine_of_hex4? {a b c d : Char} {n : ℕ} (h : hex4? a b c d = some n) :
    [a, b, c, d].all (!endsLine ·) = true := by
  unfold hex4? at h
  simp only [Option.bind_eq_bind, Option.bind_eq_some_iff, Option.pure_def] at h
  obtain ⟨_, ha, _, hb, _, hc, _, hd, -⟩ := h
  simp only [List.all_cons, List.all_nil, endsLine_of_hexValue? ha, endsLine_of_hexValue? hb,
    endsLine_of_hexValue? hc, endsLine_of_hexValue? hd]
  rfl

/-- No line ends inside a string. -/
theorem SameLines.alike_readUnits (h : SameLines s t) : Alike (readUnits s) (readUnits t) := by
  intro units rest hread
  fun_induction readUnits s generalizing t units with
  | case2 more =>
    cases hread
    obtain ⟨more, rfl, hmore⟩ := h.cons rfl
    exact ⟨more, rfl, hmore⟩
  | case4 _ _ _ _ more _ hhex _ ih =>
    obtain ⟨others, hothers, rfl⟩ := exists_of_consTo hread
    obtain ⟨_, rfl, hescape⟩ := h.append_left ['\\', 'u'] rfl
    obtain ⟨_, rfl, hbehind⟩ := hescape.append_left [_, _, _, _] (endsLine_of_hex4? hhex)
    obtain ⟨last, hlast, hsame⟩ := ih hbehind _ hothers
    exact ⟨last, readUnits_hex hhex hlast, hsame⟩
  | case8 c more _ hu _ hshort ih =>
    obtain ⟨others, hothers, rfl⟩ := exists_of_consTo hread
    obtain ⟨_, rfl, hescape⟩ := h.cons rfl
    obtain ⟨_, rfl, hbehind⟩ := hescape.cons (endsLine_of_shortEscape? hshort)
    obtain ⟨last, hlast, hsame⟩ := ih hbehind _ hothers
    exact ⟨last, readUnits_short (by simpa using hu) hshort hlast, hsame⟩
  | case11 c more hquote _ hlone hslash hcontrol ih =>
    obtain ⟨others, hothers, rfl⟩ := exists_of_consTo hread
    have hc : endsLine c = false := by
      rw [endsLine_eq_false_iff]
      constructor <;> rintro rfl <;> exact hcontrol (by decide)
    have hne : c ≠ '\\' := by
      rintro rfl
      cases more with
      | nil => exact hlone rfl rfl
      | cons d more => exact hslash d more rfl rfl
    obtain ⟨_, rfl, hbehind⟩ := h.cons hc
    obtain ⟨last, hlast, hsame⟩ := ih hbehind _ hothers
    exact ⟨last, readUnits_self hquote hne (not_lt.1 hcontrol) hlast, hsame⟩
  | _ => cases hread

theorem SameLines.alike_readQuoted (h : SameLines s t) : Alike (readQuoted s) (readQuoted t) := by
  intro text rest hread
  unfold readQuoted at hread
  split at hread
  next units more hunits =>
    cases hread
    obtain ⟨behind, hbehind, hsame⟩ := h.alike_readUnits _ _ hunits
    exact ⟨behind, by rw [readQuoted, hbehind], hsame⟩
  next => cases hread
  next => cases hread

end

/-! ## Numbers -/

section
variable {s t rest : List Char}

theorem endsLine_of_isDigit (c : Char) (h : c.isDigit = true) : endsLine c = false := by
  rw [endsLine_eq_false_iff]
  constructor <;> rintro rfl <;> cases h

/-- A reader of a part of a number, which may be missing: it is told by the first character, and the
rest of the text is read alike. -/
theorem SameLines.part {α : Type} {read : List Char → α × List Char} {missing : α}
    (begins : Char → Bool) (hbegins : ∀ c, begins c = true → endsLine c = false)
    (hmissing : ∀ s, (∀ c, begins c = true → s.head? ≠ some c) → read s = (missing, s))
    (hpart : ∀ c s t, begins c = true → SameLines s t → SameLines (c :: s) (c :: t) →
      (read (c :: s)).1 = (read (c :: t)).1 ∧ SameLines (read (c :: s)).2 (read (c :: t)).2)
    (h : SameLines s t) : (read s).1 = (read t).1 ∧ SameLines (read s).2 (read t).2 := by
  have hother (hs : ∀ c, begins c = true → s.head? ≠ some c)
      (ht : ∀ c, begins c = true → t.head? ≠ some c) :
      (read s).1 = (read t).1 ∧ SameLines (read s).2 (read t).2 := by
    rw [hmissing s hs, hmissing t ht]
    exact ⟨rfl, h⟩
  obtain ⟨c, s', t', hc, rfl, rfl, hrest⟩ | hhead := h.cases_head
  · cases hfirst : begins c with
    | true => exact hpart c s' t' hfirst hrest h
    | false =>
      have hne (d : Char) (hd : begins d = true) : d ≠ c := by
        rintro rfl
        rw [hfirst] at hd
        cases hd
      exact hother (fun d hd heq => hne d hd (Option.some.inj heq).symm)
        fun d hd heq => hne d hd (Option.some.inj heq).symm
  · exact hother (fun c hc => (hhead c (hbegins c hc)).1) fun c hc => (hhead c (hbegins c hc)).2

theorem readFraction_dot (s : List Char) :
    readFraction ('.' :: s) =
      if (s.takeWhile Char.isDigit).isEmpty then ([], '.' :: s)
      else (s.takeWhile Char.isDigit, s.dropWhile Char.isDigit) := by
  cases s with
  | nil => rfl
  | cons c s =>
    rw [readFraction]
    cases hc : c.isDigit with
    | true =>
      rw [List.takeWhile_cons_of_pos hc]
      rfl
    | false =>
      rw [List.takeWhile_cons_of_neg (by simp [hc])]
      rfl

theorem SameLines.readFraction (h : SameLines s t) :
    (readFraction s).1 = (readFraction t).1 ∧
      SameLines (readFraction s).2 (readFraction t).2 := by
  refine h.part (· == '.') ?_ (fun s hs => readFraction_of_head (hs '.' rfl)) ?_
  · intro c hc
    rw [beq_iff_eq.1 hc]
    rfl
  · intro c s t hc hrest hwhole
    obtain ⟨htake, hdrop⟩ := hrest.span endsLine_of_isDigit
    obtain rfl : c = '.' := beq_iff_eq.1 hc
    rw [readFraction_dot, readFraction_dot, htake]
    split
    · exact ⟨rfl, hwhole⟩
    · exact ⟨rfl, hdrop⟩

/-- The sign of an exponent, and what follows it. -/
def exponentSign : List Char → Bool × List Char
  | '-' :: rest => (true, rest)
  | '+' :: rest => (false, rest)
  | rest => (false, rest)

theorem exponentSign_of_head (hminus : s.head? ≠ some '-') (hplus : s.head? ≠ some '+') :
    exponentSign s = (false, s) := by
  unfold exponentSign
  split
  · exact absurd rfl hminus
  · exact absurd rfl hplus
  · rfl

theorem SameLines.exponentSign (h : SameLines s t) :
    (exponentSign s).1 = (exponentSign t).1 ∧
      SameLines (exponentSign s).2 (exponentSign t).2 := by
  refine h.part (fun c => c == '-' || c == '+') ?_
    (fun s hs => exponentSign_of_head (hs '-' rfl) (hs '+' rfl)) ?_
  · intro c hc
    rw [Bool.or_eq_true, beq_iff_eq, beq_iff_eq] at hc
    obtain rfl | rfl := hc <;> rfl
  · intro c s t hc hrest _
    rw [Bool.or_eq_true, beq_iff_eq, beq_iff_eq] at hc
    obtain rfl | rfl := hc
    · exact ⟨rfl, hrest⟩
    · exact ⟨rfl, hrest⟩

theorem readExponent_cons {e : Char} (he : (e == 'e' || e == 'E') = true) (s : List Char) :
    readExponent (e :: s) =
      if ((exponentSign s).2.takeWhile Char.isDigit).isEmpty then (none, e :: s)
      else
        let n : ℤ := decimalOf ((exponentSign s).2.takeWhile Char.isDigit)
        (some (if (exponentSign s).1 then -n else n), (exponentSign s).2.dropWhile Char.isDigit) := by
  unfold readExponent
  dsimp only
  rw [if_pos he]
  split
  · rfl
  · rfl
  next hminus hplus =>
    have hhead (c : Char) (hne : ∀ r, s ≠ c :: r) : s.head? ≠ some c := fun h =>
      (List.head?_eq_some_iff.1 h).elim hne
    rw [exponentSign_of_head (hhead '-' hminus) (hhead '+' hplus)]

theorem SameLines.readExponent (h : SameLines s t) :
    (readExponent s).1 = (readExponent t).1 ∧
      SameLines (readExponent s).2 (readExponent t).2 := by
  refine h.part (fun c => c == 'e' || c == 'E') ?_
    (fun s hs => readExponent_of_head (hs 'e' rfl) (hs 'E' rfl)) ?_
  · intro c hc
    rw [Bool.or_eq_true, beq_iff_eq, beq_iff_eq] at hc
    obtain rfl | rfl := hc <;> rfl
  · intro c s t hc hrest hwhole
    obtain ⟨hsign, hdigits⟩ := hrest.exponentSign
    obtain ⟨htake, hdrop⟩ := hdigits.span endsLine_of_isDigit
    rw [readExponent_cons hc, readExponent_cons hc, htake, hsign]
    split
    · exact ⟨rfl, hwhole⟩
    · exact ⟨rfl, hdrop⟩

theorem SameLines.numberSign {negative : Bool} {d : Char} {more : List Char} (h : SameLines s t)
    (hdigit : d.isDigit = true) (hsign : numberSign s = (negative, d :: more)) :
    ∃ other, numberSign t = (negative, d :: other) ∧ SameLines more other := by
  by_cases hminus : s.head? = some '-'
  · obtain ⟨_, rfl⟩ := List.head?_eq_some_iff.1 hminus
    cases hsign
    obtain ⟨_, rfl, hunsigned⟩ := h.cons rfl
    obtain ⟨other, rfl, hother⟩ := hunsigned.cons (endsLine_of_isDigit d hdigit)
    exact ⟨other, rfl, hother⟩
  · rw [numberSign_of_head hminus] at hsign
    cases hsign
    obtain ⟨other, rfl, hother⟩ := h.cons (endsLine_of_isDigit d hdigit)
    exact ⟨other, numberSign_of_head (by simpa using hminus), hother⟩

theorem SameLines.wholeDigits {d : Char} {more other : List Char} (h : SameLines more other)
    (hdigit : d.isDigit = true) :
    (wholeDigits d more).1 = (wholeDigits d other).1 ∧
      SameLines (wholeDigits d more).2 (wholeDigits d other).2 := by
  obtain ⟨htake, hdrop⟩ := h.span endsLine_of_isDigit
  unfold Json.wholeDigits
  dsimp only
  split
  · exact ⟨rfl, h⟩
  · rw [List.takeWhile_cons_of_pos hdigit, List.takeWhile_cons_of_pos hdigit, htake,
      List.dropWhile_cons_of_pos hdigit, List.dropWhile_cons_of_pos hdigit]
    exact ⟨rfl, hdrop⟩

theorem SameLines.numberParts {negative : Bool} {d : Char}
    {more digits behind fraction last : List Char} {exponent : Option ℤ} (h : SameLines s t)
    (hsign : Json.numberSign s = (negative, d :: more)) (hdigit : d.isDigit = true)
    (hdigits : Json.wholeDigits d more = (digits, behind))
    (hfraction : Json.readFraction behind = (fraction, last))
    (hexponent : Json.readExponent last = (exponent, rest)) :
    ∃ other behind' last' rest', Json.numberSign t = (negative, d :: other) ∧
      Json.wholeDigits d other = (digits, behind') ∧
      Json.readFraction behind' = (fraction, last') ∧
      Json.readExponent last' = (exponent, rest') ∧ SameLines rest rest' := by
  obtain ⟨other, hother, hmore⟩ := h.numberSign hdigit hsign
  obtain ⟨hdigits', hbehind⟩ := hmore.wholeDigits hdigit
  rw [hdigits] at hdigits' hbehind
  obtain ⟨hfraction', hlast⟩ := hbehind.readFraction
  rw [hfraction] at hfraction' hlast
  obtain ⟨hexponent', hrest⟩ := hlast.readExponent
  rw [hexponent] at hexponent' hrest
  refine ⟨other, (Json.wholeDigits d other).2, (Json.readFraction (Json.wholeDigits d other).2).2,
    _, hother, ?_, ?_, ?_, hrest⟩
  · exact Prod.ext hdigits'.symm rfl
  · exact Prod.ext hfraction'.symm rfl
  · exact Prod.ext hexponent'.symm rfl

theorem SameLines.alike_readNumber (h : SameLines s t) : Alike (readNumber s) (readNumber t) := by
  intro v rest hread
  cases readNumber_eq_ok_iff.1 hread with
  | int hsign hdigit hdigits hfraction hexponent hfew =>
    obtain ⟨_, _, _, rest', hsign', hdigits', hfraction', hexponent', hsame⟩ :=
      h.numberParts hsign hdigit hdigits hfraction hexponent
    exact ⟨rest', readNumber_eq_ok_iff.2
      (.int hsign' hdigit hdigits' hfraction' hexponent' hfew), hsame⟩
  | float hsign hdigit hdigits hfraction hexponent hbroken =>
    obtain ⟨_, _, _, rest', hsign', hdigits', hfraction', hexponent', hsame⟩ :=
      h.numberParts hsign hdigit hdigits hfraction hexponent
    exact ⟨rest', readNumber_eq_ok_iff.2
      (.float hsign' hdigit hdigits' hfraction' hexponent' hbroken), hsame⟩

end

/-! ## Values -/

section
variable {special : Bool} {s t rest : List Char}

theorem endsLine_of_mem_names {v : Json} {word : List Char} (h : (word, v) ∈ scalarNames special) :
    word.all (!endsLine ·) = true := by
  have hnames : ∀ p ∈ scalarNames special, p.1.all (!endsLine ·) = true := by
    cases special <;> decide
  exact hnames _ h

theorem SameLines.alike_readScalar (h : SameLines s t) :
    Alike (readScalar special s) (readScalar special t) := by
  intro v rest hread
  rcases readScalar_eq_ok_iff.1 hread with ⟨word, hname, rfl⟩ | hnumber
  · obtain ⟨more, rfl, hmore⟩ := h.append_left word (endsLine_of_mem_names hname)
    exact ⟨more, readScalar_of_mem_names hname more, hmore⟩
  · obtain ⟨more, hmore, hsame⟩ := h.alike_readNumber _ _ hnumber
    exact ⟨more, readScalar_of_readNumber hmore, hsame⟩

/-- With any fuel that suffices for the other text, the readers find the same in it. The texts may
differ in length and so in their fuel, which is why the induction is over the fuel of one of them
only. -/
structure ReadsAlike (special : Bool) (fuel : ℕ) : Prop where
  value {s t : List Char} {enough : ℕ} : SameLines s t → 2 * t.length ≤ enough →
    Alike (readValue special fuel s) (readValue special enough t)
  items {s t : List Char} {enough : ℕ} : SameLines s t → 2 * t.length + 1 ≤ enough →
    Alike (readItems special fuel s) (readItems special enough t)
  fields {s t : List Char} {enough : ℕ} {before : List (String × Json)} : SameLines s t →
    2 * t.length + 1 ≤ enough →
    Alike (readFields special fuel before s) (readFields special enough before t)

namespace ReadsAlike

variable {fuel enough : ℕ}

theorem exists_succ {c : Char} {more : List Char} (h : 2 * (c :: more).length ≤ enough) :
    ∃ less, enough = less + 1 ∧ 2 * (skipSpace more).length + 1 ≤ less := by
  have hspace := length_skipSpace_le more
  rw [List.length_cons] at h
  exact ⟨enough - 1, by omega, by omega⟩

theorem value_succ (hfuel : ReadsAlike special fuel) (h : SameLines s t)
    (henough : 2 * t.length ≤ enough) :
    Alike (readValue special (fuel + 1) s) (readValue special enough t) := by
  intro v rest hread
  cases readValue_eq_ok_iff.1 hread with
  | text hquoted =>
    obtain ⟨_, rfl, hinside⟩ := h.cons rfl
    obtain ⟨less, rfl, -⟩ := exists_succ henough
    obtain ⟨more, hmore, hsame⟩ := hinside.alike_readQuoted _ _ hquoted
    exact ⟨more, readValue_eq_ok_iff.2 (.text hmore), hsame⟩
  | noItems hclose =>
    obtain ⟨_, rfl, hinside⟩ := h.cons rfl
    obtain ⟨less, rfl, -⟩ := exists_succ henough
    obtain ⟨more, hmore, hsame⟩ := hinside.skipSpace_cons hclose rfl
    exact ⟨more, readValue_eq_ok_iff.2 (.noItems hmore), hsame⟩
  | items hopen hitems =>
    obtain ⟨_, rfl, hinside⟩ := h.cons rfl
    obtain ⟨less, rfl, hless⟩ := exists_succ henough
    obtain ⟨more, hmore, hsame⟩ := hfuel.items hinside.skipSpace hless _ _ hitems
    -- the other text closes no list here either
    have hopen' := hinside.skipSpace.ne_cons rfl hopen
    exact ⟨more, readValue_eq_ok_iff.2 (.items hopen' hmore), hsame⟩
  | noFields hclose =>
    obtain ⟨_, rfl, hinside⟩ := h.cons rfl
    obtain ⟨less, rfl, -⟩ := exists_succ henough
    obtain ⟨more, hmore, hsame⟩ := hinside.skipSpace_cons hclose rfl
    exact ⟨more, readValue_eq_ok_iff.2 (.noFields hmore), hsame⟩
  | fields hopen hfields =>
    obtain ⟨_, rfl, hinside⟩ := h.cons rfl
    obtain ⟨less, rfl, hless⟩ := exists_succ henough
    obtain ⟨more, hmore, hsame⟩ := hfuel.fields hinside.skipSpace hless _ _ hfields
    have hopen' := hinside.skipSpace.ne_cons rfl hopen
    exact ⟨more, readValue_eq_ok_iff.2 (.fields hopen' hmore), hsame⟩
  | scalar hscalar =>
    obtain ⟨more, hmore, hsame⟩ := h.alike_readScalar _ _ hscalar
    cases t with
    | nil => cases hmore
    | cons =>
      obtain ⟨less, rfl, -⟩ := exists_succ henough
      exact ⟨more, readValue_of_readScalar hmore, hsame⟩

theorem items_succ (hfuel : ReadsAlike special fuel) (h : SameLines s t)
    (henough : 2 * t.length + 1 ≤ enough) :
    Alike (readItems special (fuel + 1) s) (readItems special enough t) := by
  intro items rest hread
  obtain ⟨less, rfl⟩ : ∃ less, enough = less + 1 := ⟨enough - 1, by omega⟩
  have hless : 2 * t.length ≤ less := by omega
  cases readItems_eq_ok_iff.1 hread with
  | last hitem hclose =>
    obtain ⟨behind, hitem', hbehind⟩ := hfuel.value h hless _ _ hitem
    obtain ⟨more, hmore, hsame⟩ := hbehind.skipSpace_cons hclose rfl
    exact ⟨more, readItems_eq_ok_iff.2 (.last hitem' hmore), hsame⟩
  | more hitem hcomma hothers =>
    obtain ⟨behind, hitem', hbehind⟩ := hfuel.value h hless _ _ hitem
    obtain ⟨next, hnext, hsame⟩ := hbehind.skipSpace_cons hcomma rfl
    have hvalue := (readsWithin special less).value hitem'
    have hlength := ReadsWithin.length_skipSpace_of_skipSpace hnext
    obtain ⟨more, hmore, hsame⟩ :=
      hfuel.items hsame.skipSpace (by omega : _ ≤ less) _ _ hothers
    exact ⟨more, readItems_eq_ok_iff.2 (.more hitem' hnext hmore), hsame⟩

theorem field_succ (hfuel : ReadsAlike special fuel) {inside behind after last : List Char}
    {key : String} {v : Json} (h : SameLines ('"' :: inside) t) (henough : 2 * t.length ≤ enough)
    (hkey : readQuoted inside = .ok (key, behind)) (hcolon : skipSpace behind = ':' :: after)
    (hvalue : readValue special fuel (skipSpace after) = .ok (v, last)) :
    ∃ inside' behind' after' last', t = '"' :: inside' ∧
      readQuoted inside' = .ok (key, behind') ∧ skipSpace behind' = ':' :: after' ∧
      readValue special enough (skipSpace after') = .ok (v, last') ∧
      last'.length < t.length ∧ SameLines last last' := by
  obtain ⟨inside', rfl, hinside⟩ := h.cons rfl
  obtain ⟨behind', hkey', hbehind⟩ := hinside.alike_readQuoted _ _ hkey
  obtain ⟨after', hcolon', hafter⟩ := hbehind.skipSpace_cons hcolon rfl
  have hquoted := length_readQuoted hkey'
  have hlength := ReadsWithin.length_skipSpace_of_skipSpace hcolon'
  rw [List.length_cons] at henough ⊢
  obtain ⟨last', hvalue', hlast⟩ :=
    hfuel.value hafter.skipSpace (by omega : _ ≤ enough) _ _ hvalue
  have hwithin := (readsWithin special enough).value hvalue'
  exact ⟨inside', behind', after', last', rfl, hkey', hcolon', hvalue', by omega, hlast⟩

theorem fields_succ {before : List (String × Json)} (hfuel : ReadsAlike special fuel)
    (h : SameLines s t) (henough : 2 * t.length + 1 ≤ enough) :
    Alike (readFields special (fuel + 1) before s) (readFields special enough before t) := by
  intro fields rest hread
  obtain ⟨less, rfl⟩ : ∃ less, enough = less + 1 := ⟨enough - 1, by omega⟩
  have hless : 2 * t.length ≤ less := by omega
  cases readFields_eq_ok_iff.1 hread with
  | last hkey hcolon hvalue hclose =>
    obtain ⟨_, _, _, _, rfl, hkey', hcolon', hvalue', -, hlast⟩ :=
      hfuel.field_succ h hless hkey hcolon hvalue
    obtain ⟨more, hmore, hsame⟩ := hlast.skipSpace_cons hclose rfl
    exact ⟨more, readFields_eq_ok_iff.2 (.last hkey' hcolon' hvalue' hmore), hsame⟩
  | more hkey hcolon hvalue hcomma hothers =>
    obtain ⟨_, _, _, _, rfl, hkey', hcolon', hvalue', hshorter, hlast⟩ :=
      hfuel.field_succ h hless hkey hcolon hvalue
    obtain ⟨next, hnext, hsame⟩ := hlast.skipSpace_cons hcomma rfl
    have hlength := ReadsWithin.length_skipSpace_of_skipSpace hnext
    obtain ⟨more, hmore, hsame⟩ :=
      hfuel.fields hsame.skipSpace (by omega : _ ≤ less) _ _ hothers
    exact ⟨more, readFields_eq_ok_iff.2 (.more hkey' hcolon' hvalue' hnext hmore), hsame⟩

end ReadsAlike

theorem readsAlike (special : Bool) (fuel : ℕ) : ReadsAlike special fuel := by
  induction fuel with
  | zero =>
    refine ⟨fun _ _ _ _ h => ?_, fun _ _ _ _ h => ?_, fun _ _ _ _ h => ?_⟩
    · simp [readValue] at h
    · simp [readItems] at h
    · simp [readFields] at h
  | succ fuel ih => exact ⟨ih.value_succ, ih.items_succ, ih.fields_succ⟩

theorem SameLines.readChars_of_eq_ok (h : SameLines s t) {v : Json}
    (hread : readChars special s = .ok v) : readChars special t = .ok v := by
  obtain ⟨hmark, rest, hvalue, hend⟩ := readChars_eq_ok_iff.1 hread
  have hspace := length_skipSpace_le t
  obtain ⟨rest', hvalue', hrest⟩ := (readsAlike special _).value h.skipSpace
    (by omega : _ ≤ 2 * t.length + 2) _ _ hvalue
  have hend' : Json.skipSpace rest' = [] := (hend ▸ hrest.skipSpace).eq_nil
  exact readChars_eq_ok_iff.2 ⟨h.ne_cons rfl hmark, rest', hvalue', hend'⟩

/-- A text holds the same value however its lines end. -/
theorem SameLines.readChars_eq_ok (h : SameLines s t) {v : Json} :
    readChars special s = .ok v ↔ readChars special t = .ok v :=
  ⟨h.readChars_of_eq_ok, h.symm.readChars_of_eq_ok⟩

end

end FlexForm.Json
