import FlexForm.Grammar.Run
import FlexForm.Proofs.Grammar.Quiet
import FlexForm.Proofs.Grammar.Words

/-! # A print in a quiet text

A text that consists of one print between two quiet texts is read as just these three parts, and
it puts out the token of the value between the two texts.

* `printX`: the print `{{ json(x) }}`.
* `compile_print`: the statements of the text.
* `output_print`: what they put out.
-/

namespace FlexForm.Grammar
set_option autoImplicit false

open Json

/-! ## Tokens -/

theorem lexeme_name {name : String} {c : Char} {rest after : List Char} (line : ℕ)
    (hdecimal : decimal? (c :: rest) = none) (hinteger : integer? (c :: rest) = none)
    (hc : isNameChar c = true) (htake : (c :: rest).takeWhile isNameChar = name.toList)
    (hdrop : (c :: rest).dropWhile isNameChar = after) (hname : Text.isName name = true) :
    lexeme false line (c :: rest) = some (.name name, ⟨0, after⟩) := by
  unfold lexeme
  rw [hdecimal, hinteger]
  simp only [Bool.false_eq_true, if_false, hc, if_true, htake, String.ofList_toList, hname, hdrop]

/-- The print of the value of `x` as JSON. -/
def printX : List Char := ['{', '{', ' ', 'j', 's', 'o', 'n', '(', 'x', ')', ' ', '}', '}']

section
variable (total fuel line : ℕ) (after : List Char)

theorem lexeme_json : lexeme false line ('j' :: 's' :: 'o' :: 'n' :: '(' :: after) =
    some (.name "json", ⟨0, '(' :: after⟩) :=
  lexeme_name line rfl rfl rfl (String.toList_ofList (l := ['j', 's', 'o', 'n'])).symm rfl
    (by decide +kernel)

theorem lexeme_x : lexeme false line ('x' :: ')' :: after) =
    some (.name "x", ⟨0, ')' :: after⟩) :=
  lexeme_name line rfl rfl rfl (String.toList_ofList (l := ['x'])).symm rfl (by decide +kernel)

theorem scanFrom_name {c : Char} {rest : List Char} {awaited : List Sign} {name : String}
    (hclosed : (if awaited.isEmpty then closing? false (c :: rest) else none) = none)
    (hblank : Text.isBlank c = false)
    (h : lexeme false line (c :: rest) = some (.name name, ⟨0, after⟩)) :
    scanFrom total (fuel + 1) (.inside false awaited false) line (c :: rest) =
      ⟨.name name, line⟩ :: scanFrom total fuel (.inside false awaited false) line after := by
  conv_lhs => unfold scanFrom
  simp only [hclosed, hblank, h, Bool.false_eq_true, if_false, Nat.add_zero]

theorem scanFrom_inside : scanFrom total (fuel + 8) (.inside false [] false) line
      (' ' :: 'j' :: 's' :: 'o' :: 'n' :: '(' :: 'x' :: ')' :: ' ' :: '}' :: '}' :: after) =
    ⟨.name "json", line⟩ :: ⟨.sign .openParen, line⟩ :: ⟨.name "x", line⟩ ::
      ⟨.sign .closeParen, line⟩ :: ⟨.closePrint, line⟩ ::
        scanFrom total (fuel + 1) .outside line after := by
  have hblank (awaited : List Sign) (n : ℕ) (s : List Char)
      (hs : (if awaited.isEmpty then closing? false (' ' :: s) else none) = none) :
      scanFrom total (n + 1) (.inside false awaited false) line (' ' :: s) =
        scanFrom total n (.inside false awaited false) line s := by
    conv_lhs => unfold scanFrom
    simp only [hs]
    rfl
  have hopen (n : ℕ) (s : List Char) :
      scanFrom total (n + 1) (.inside false [] false) line ('(' :: 'x' :: s) =
        ⟨.sign .openParen, line⟩ ::
          scanFrom total n (.inside false [.closeParen] false) line ('x' :: s) := rfl
  have hclose (n : ℕ) (s : List Char) :
      scanFrom total (n + 1) (.inside false [.closeParen] false) line (')' :: ' ' :: s) =
        ⟨.sign .closeParen, line⟩ :: scanFrom total n (.inside false [] false) line (' ' :: s) := rfl
  have hend (n : ℕ) (s : List Char) :
      scanFrom total (n + 1) (.inside false [] false) line ('}' :: '}' :: s) =
        ⟨.closePrint, line⟩ :: scanFrom total n .outside line s := rfl
  rw [hblank [] _ _ rfl, scanFrom_name total _ line _ rfl rfl (lexeme_json line _), hopen,
    scanFrom_name total _ line _ rfl rfl (lexeme_x line _), hclose, hblank [] _ _ rfl, hend]

theorem scanFrom_before {before : List Char} (hb : Quiet before) (s : List Char) :
    scanFrom total (fuel + 1) .outside line (before ++ '{' :: '{' :: ' ' :: s) =
      wordsToken line before ++ ⟨.openPrint, line + lineCount before⟩ ::
        scanFrom total fuel (.inside false [] false) (line + lineCount before) (' ' :: s) := by
  have huntil : untilOpener (before ++ '{' :: '{' :: ' ' :: s) =
      (before, '{' :: '{' :: ' ' :: s) := by
    rw [hb.passes, show untilOpener ('{' :: '{' :: ' ' :: s) = ([], '{' :: '{' :: ' ' :: s) from rfl,
      List.append_nil]
  conv_lhs => unfold scanFrom
  rw [huntil]
  rfl

theorem scanFrom_words (ha : untilOpener after = (after, [])) :
    scanFrom total (fuel + 1) .outside line after = wordsToken line after := by
  conv_lhs => unfold scanFrom
  rw [ha]
  rfl

end

/-! ## Statements -/

/-- The statement for words, unless there are none. -/
def wordsOf (s : List Char) : List Statement :=
  if s.isEmpty then [] else [.words s]

section
variable {before after : List Char}

theorem scan_print (hb : Quiet before) (ha : Quiet after) :
    ∃ line last, scan (String.ofList (before ++ printX ++ after)) =
      wordsToken 1 before ++ ⟨.openPrint, line⟩ :: ⟨.name "json", line⟩ :: ⟨.sign .openParen, line⟩ ::
        ⟨.name "x", line⟩ :: ⟨.sign .closeParen, line⟩ :: ⟨.closePrint, line⟩ ::
          (wordsToken line after ++ [⟨.finish, last⟩]) := by
  have hsource : unifyLines (before ++ printX ++ after) = before ++ printX ++ after := by
    refine unifyLines_of_noReturn ?_
    simp [hb.noReturn, ha.noReturn, printX]
  have hlength : (before ++ printX ++ after).length + 1 =
      before.length + after.length + 5 + 8 + 1 := by
    simp only [List.length_append, printX, List.length_cons, List.length_nil]
    omega
  have htokens (total : ℕ) := scanFrom_before total (before.length + after.length + 5 + 8) 1 hb
    ('j' :: 's' :: 'o' :: 'n' :: '(' :: 'x' :: ')' :: ' ' :: '}' :: '}' :: after)
  simp only [scanFrom_inside, scanFrom_words _ _ _ _ ha.untilOpener_eq] at htokens
  unfold scan
  simp only [String.toList_ofList, hsource, hlength]
  rw [List.append_assoc, show printX ++ after = '{' :: '{' :: ' ' :: 'j' :: 's' :: 'o' :: 'n' ::
    '(' :: 'x' :: ')' :: ' ' :: '}' :: '}' :: after from rfl, htokens]
  exact ⟨1 + lineCount before, _, by simp only [List.append_assoc, List.cons_append]; rfl⟩

theorem statements_print (b a : List Char) (line last : ℕ) :
    (statements.run (wordsToken 1 b ++ ⟨.openPrint, line⟩ :: ⟨.name "json", line⟩ ::
      ⟨.sign .openParen, line⟩ :: ⟨.name "x", line⟩ :: ⟨.sign .closeParen, line⟩ ::
        ⟨.closePrint, line⟩ :: (wordsToken line a ++ [⟨.finish, last⟩]))).map Prod.fst =
      .ok (wordsOf b ++ .print (ask .json [.name "x"]) :: wordsOf a) := by
  cases b with
  | nil =>
    cases a with
    | nil => rfl
    | cons d rest => rfl
  | cons c first =>
    cases a with
    | nil => rfl
    | cons d rest => rfl

theorem prepareBody_print (b a : List Char) :
    Statement.prepareBody false (wordsOf b ++ .print (ask .json [.name "x"]) :: wordsOf a) =
      .ok (wordsOf b ++ .print (ask .json [.name "x"]) :: wordsOf a) := by
  cases b with
  | nil =>
    cases a with
    | nil => rfl
    | cons d rest => rfl
  | cons c first =>
    cases a with
    | nil => rfl
    | cons d rest => rfl

/-- The text says: words, the print, words. -/
theorem compile_print (hb : Quiet before) (ha : Quiet after) :
    compile (String.ofList (before ++ printX ++ after)) =
      .ok (wordsOf before ++ .print (ask .json [.name "x"]) :: wordsOf after) := by
  obtain ⟨line, last, hscan⟩ := scan_print hb ha
  unfold compile read
  rw [hscan, statements_print]
  exact prepareBody_print before after

theorem runAll_wordsOf (data : List (Value × Value)) (bound : Bound) (s : List Char)
    (rest : List Statement) {out : String} {bound' : Bound}
    (h : Statement.runAll data bound rest = .ok (out, bound')) :
    Statement.runAll data bound (wordsOf s ++ rest) = .ok (String.ofList s ++ out, bound') := by
  cases s with
  | nil => simpa [wordsOf] using h
  | cons c s =>
    rw [wordsOf, List.isEmpty_cons, if_neg Bool.false_ne_true, List.singleton_append]
    simp only [Statement.runAll, Statement.run, bind, Except.bind, h]
    rfl

/-- The text puts out the token of the value between its words. -/
theorem output_print (b a : List Char) {v : Json} (hv : v.isWritable = true) :
    output (wordsOf b ++ .print (ask .json [.name "x"]) :: wordsOf a) [("x", v)] =
      .ok (String.ofList (b ++ chars v ++ a)) := by
  unfold output
  dsimp only
  generalize hbody : wordsOf b ++ .print (ask .json [.name "x"]) :: wordsOf a = body
  generalize hdata : Value.ofFields [("x", v)] = data
  have hfirst (name : String) : bindsFirst (Statement.mentionsAll body) name = false := by
    have hmentions : Statement.mentionsAll body = reading ["json", "x"] := by
      rw [← hbody]
      cases b <;> cases a <;> rfl
    rw [hmentions]
    exact bindsFirst_reading _
  have hjson : nameValue data (entering data body []) "json" = .ok (.helper .json) := by
    rw [nameValue_entering (hfirst _)]
    exact nameValue_helper .json rfl
  obtain ⟨x, hx, hholds⟩ : ∃ x, nameValue data (entering data body []) "x" = .ok x ∧
      Holds x (some v) := by
    rw [nameValue_entering (hfirst _), ← hdata]
    exact holds_nameValue [("x", v)] rfl rfl
  have heval := Means.eval_json hjson (Means.name (s := "x") hx hholds) hv
  have hlast := runAll_wordsOf data (entering data body []) a [] rfl
  rw [List.append_nil] at hlast
  have hprint : Statement.runAll data (entering data body [])
      (.print (ask .json [.name "x"]) :: wordsOf a) =
        .ok (String.ofList (chars v ++ a), entering data body []) := by
    simp only [Statement.runAll, Statement.run, bind, Except.bind, heval]
    simp [Value.shown, Json.text, pure, Except.pure, hlast]
  have hall := runAll_wordsOf data (entering data body []) b _ hprint
  rw [hbody] at hall
  rw [hall]
  simp [bind, Except.bind, pure, Except.pure]

end

end FlexForm.Grammar
