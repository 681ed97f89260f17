import FlexForm.Proofs.Grammar.Print
import FlexForm.Proofs.Json.LineEnds
import FlexForm.Proofs.Placeholder
import FlexForm.Proofs.Render.Outcome

/-! # The modes agree on plain texts

A text without opening signs and placeholders is put out as it is, but for the line ends, which the
grammar unifies. These do not matter to what the text is read as, so the modes come to the same.

* `Grammar.output_of_tame`: what the grammar makes of a text without opening signs.
* `produce_plain`: what each mode makes of a plain text.
* `render_plain`: the modes agree.
-/

namespace FlexForm
set_option autoImplicit false

/-! ## Texts without opening signs -/

namespace Grammar

open Json

theorem Tame.opener?_eq_none {c : Char} {rest : List Char} (h : Tame (c :: rest)) :
    opener? (c :: unifyLines rest) = none := by
  by_cases hbrace : c = '{'
  · subst hbrace
    cases rest with
    | nil => rfl
    | cons d more =>
      cases hd : endsLine d with
      | true =>
        obtain ⟨behind, hbehind⟩ := exists_unifyLines_of_endsLine hd more
        rw [hbehind]
        rfl
      | false =>
        rw [unifyLines_cons (endsLine_eq_false_iff.1 hd).2]
        exact opener?_brace h.second _
  · exact opener?_of_ne hbrace _

/-- Unified line ends bring no opening sign about. -/
theorem Tame.untilOpener_unifyLines {s : List Char} (h : Tame s) :
    untilOpener (unifyLines s) = (unifyLines s, []) := by
  fun_induction unifyLines s with
  | case1 rest ih =>
    rw [untilOpener_cons (opener?_of_ne (by decide) _), ih h.tail.tail]
  | case2 rest _ ih =>
    rw [untilOpener_cons (opener?_of_ne (by decide) _), ih h.tail]
  | case3 c rest _ _ ih =>
    rw [untilOpener_cons h.opener?_eq_none, ih h.tail]
  | case4 => rfl

theorem compile_of_tame {text : String} (h : Tame text.toList) :
    compile text = .ok (wordsOf (unifyLines text.toList)) := by
  have hscan : scan text = wordsToken 1 (unifyLines text.toList) ++
      [⟨.finish, lastLine (wordsToken 1 (unifyLines text.toList))⟩] := by
    unfold scan
    simp only [scanFrom_words _ _ _ _ h.untilOpener_unifyLines]
  unfold compile read
  rw [hscan]
  cases unifyLines text.toList with
  | nil => rfl
  | cons c rest => rfl

theorem output_of_tame (s : List Char) (fields : List (String × Json)) :
    output (wordsOf s) fields = .ok (String.ofList s) := by
  have hwords (data : List (Value × Value)) (bound : Bound) :=
    runAll_wordsOf data bound s [] rfl
  unfold output
  simp only [List.append_nil] at hwords
  simp [hwords, bind, Except.bind, pure, Except.pure]

end Grammar

/-! ## Plain texts -/

namespace Render

open Json Grammar

/-- The signs with which a print, a tag, a comment or a placeholder begins. -/
def openings : List String := ["\x7b\x7b", "\x7b%", "\x7b#", Placeholder.opening]

/-- The text has none of the signs. -/
def IsPlain (text : String) : Prop := ∀ sign ∈ openings, Text.contains text sign = false

section
variable {limit : ℤ} {data : Json} {text out : String}

theorem IsPlain.tame (h : IsPlain text) : Tame text.toList := by
  refine tame_of_isTame ?_
  rw [isTame, h "\x7b\x7b" (by decide), h "\x7b%" (by decide), h "\x7b#" (by decide)]
  rfl

/-- Each mode puts out the text itself, but for its line ends. -/
theorem produce_plain (h : IsPlain text) (mode : Mode) (fields : List (String × Json)) :
    ∃ out, produce mode text (.obj fields) = .ok out ∧ SameLines out.toList text.toList := by
  cases mode with
  | grammar =>
    refine ⟨String.ofList (unifyLines text.toList), ?_, ?_⟩
    · simp only [produce, byGrammar, compile_of_tame h.tame, output_of_tame]
      rfl
    · rw [String.toList_ofList]
      exact sameLines_unifyLines _
  | legacy =>
    refine ⟨text, ?_, rfl⟩
    simp only [produce, byPlaceholders,
      Placeholder.fill_of_not_contains (h Placeholder.opening (by decide))]
  | raw => exact ⟨text, rfl, rfl⟩

/-! ## Readings -/

theorem complete_of_sameLines {v : Json} (h : SameLines out.toList text.toList)
    (hread : readChars false text.toList = .ok v) :
    complete limit data out = complete limit data text := by
  unfold complete Json.read
  rw [h.readChars_eq_ok.2 hread, hread]

theorem complete_of_unreadable (h : ∀ v, readChars false text.toList ≠ .ok v) :
    ∃ flaw, complete limit data text = failed textPlace flaw := by
  unfold complete Json.read
  cases hread : readChars false text.toList with
  | ok v => exact absurd hread (h v)
  | error fault => exact ⟨_, rfl⟩

/-- What is read is a message, or it has too many overlays inside one another. -/
theorem complete_of_readable {v : Json} (h : readChars false text.toList = .ok v) :
    (∃ message, complete limit data text = ⟨message, []⟩) ∨
      ∃ flaw, complete limit data text = failed wholePlace flaw := by
  unfold complete Json.read
  rw [h]
  cases hexpand : Overlay.expand limit v with
  | error fault =>
    simp only [hexpand]
    exact .inr ⟨_, rfl⟩
  | ok w =>
    simp only [hexpand, at?_overlayPath]
    exact .inl ⟨_, rfl⟩

end

theorem dataUsed_obj (fields : List (String × Json)) :
    ∃ more, dataUsed (.obj fields) = .obj more := by
  unfold dataUsed
  split
  · exact ⟨_, rfl⟩
  · exact ⟨_, rfl⟩

/-- The modes agree on plain texts, whatever the data and the limit: either all come to the same
message, and to none only for a text of null, or all to one problem at the same place. -/
theorem render_plain {text : String} (h : IsPlain text) (limit : ℤ)
    (fields : List (String × Json)) :
    (∃ message, (message = none → IsNullText text.toList) ∧
        ∀ mode, render limit mode text (.obj fields) = ⟨message, []⟩) ∨
      ∃ path, ∀ mode, ∃ flaw, render limit mode text (.obj fields) =
        ⟨none, [⟨path, flaw, none⟩]⟩ := by
  cases hblank : Text.isAllBlank text with
  | true =>
    refine .inr ⟨textPlace, fun mode => ⟨.emptyTemplate, ?_⟩⟩
    unfold render
    rw [hblank]
    rfl
  | false =>
    obtain ⟨more, hdata⟩ := dataUsed_obj fields
    have hrender (mode : Option Mode) : ∃ out, SameLines out.toList text.toList ∧
        render limit mode text (.obj fields) = complete limit (.obj more) out := by
      obtain ⟨out, hproduce, hlines⟩ := produce_plain h (mode.getD (.detect text)) more
      exact ⟨out, hlines, by rw [render_of_not_blank hblank, hdata, hproduce]⟩
    by_cases hread : ∃ v, readChars false text.toList = .ok v
    · obtain ⟨v, hread⟩ := hread
      have hsame (mode : Option Mode) : render limit mode text (.obj fields) =
          complete limit (.obj more) text := by
        obtain ⟨out, hlines, hout⟩ := hrender mode
        rw [hout, complete_of_sameLines hlines hread]
      obtain ⟨message, hmessage⟩ | ⟨flaw, hflaw⟩ :=
        @complete_of_readable limit (.obj more) text v hread
      · refine .inl ⟨message, fun hnone => ?_, fun mode => (hsame mode).trans hmessage⟩
        refine (@isSilent_complete_iff limit (.obj more) text).1 ?_
        rw [hmessage]
        exact ⟨hnone, rfl⟩
      · exact .inr ⟨wholePlace, fun mode => ⟨flaw, (hsame mode).trans hflaw⟩⟩
    · refine .inr ⟨textPlace, fun mode => ?_⟩
      obtain ⟨out, hlines, hout⟩ := hrender mode
      rw [hout]
      exact complete_of_unreadable fun v hv => hread ⟨v, hlines.readChars_eq_ok.1 hv⟩

/-- A list with three kinds of line ends, and closing signs that nothing opens. -/
def linesText : String := "\x7b\r\n\"%\x7d\": [1,\r2,\n3]\x7d"

theorem isPlain_linesText : IsPlain linesText := by
  unfold IsPlain
  decide +kernel

theorem render_plain_lines :
    ∃ message, ∀ mode, render 5 mode linesText (.obj [("x", .null)]) = ⟨message, []⟩ := by
  have hraw : (render 5 (some .raw) linesText (.obj [("x", .null)])).problems.isEmpty = true := by
    decide +kernel
  obtain ⟨message, -, hmessage⟩ | ⟨path, hproblem⟩ :=
    render_plain isPlain_linesText 5 [("x", .null)]
  · exact ⟨message, hmessage⟩
  · obtain ⟨flaw, hflaw⟩ := hproblem (some .raw)
    rw [hflaw] at hraw
    cases hraw

end Render

end FlexForm
