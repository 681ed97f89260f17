import FlexForm.Placeholder
import FlexForm.Proofs.Steps
import FlexForm.Text.Search
import Mathlib.Data.List.TakeWhile

/-! # Placeholders and their values

A text is cut from left to right, and there is one way to do so. All values are put in at once, each
as its own text, or else every placeholder without a value is reported.

* `Placeholder.Cuts`: the pieces of a text.
* `Placeholder.cut_eq_iff`: the pieces that are found are these.
* `Placeholder.fill_all_or_nothing`: what comes of a text.
-/

namespace FlexForm.Placeholder
set_option autoImplicit false

variable {s path rest : List Char} {pieces : List Piece} {data : Json}

/-! ## Pieces -/

/-- A placeholder with this path stands at the start of a text, before the rest. -/
def Starts (s path rest : List Char) : Prop :=
  s = opening.toList ++ (path ++ '\x7d' :: rest) ∧ path ≠ [] ∧ '\x7d' ∉ path

/-- The pieces of a text: a placeholder wherever the last piece ends at the start of one, and single
characters otherwise. -/
inductive Cuts : List Char → List Piece → Prop
  | nil : Cuts [] []
  | char {c : Char} {rest : List Char} {pieces : List Piece}
      (hnone : ∀ path after, ¬ Starts (c :: rest) path after) (hrest : Cuts rest pieces) :
      Cuts (c :: rest) (.char c :: pieces)
  | field {s path rest : List Char} {pieces : List Piece} (hstarts : Starts s path rest)
      (hrest : Cuts rest pieces) : Cuts s (.field (String.ofList path) :: pieces)

theorem length_of_starts (h : Starts s path rest) : s.length = path.length + rest.length + 8 := by
  obtain ⟨rfl, -, -⟩ := h
  rw [List.length_append, List.length_append, List.length_cons,
    show opening.toList.length = 7 from rfl]
  omega

theorem takeWhile_of_not_mem (h : '\x7d' ∉ path) (rest : List Char) :
    (path ++ '\x7d' :: rest).takeWhile (· != '\x7d') = path := by
  have hall : ∀ c ∈ path, (c != '\x7d') = true := fun c hc =>
    bne_iff_ne.2 (ne_of_mem_of_not_mem hc h)
  rw [List.takeWhile_append_of_pos hall, List.takeWhile_cons_of_neg (by simp), List.append_nil]

theorem pathAt?_opening (after : List Char) :
    pathAt? (opening.toList ++ after) =
      let path := after.takeWhile (· != '\x7d')
      if path.isEmpty || path.length == after.length then none else some path := rfl

theorem pathAt?_of_starts (h : Starts s path rest) : pathAt? s = some path := by
  obtain ⟨rfl, hne, hclosed⟩ := h
  have hlength : path.length ≠ (path ++ '\x7d' :: rest).length := by
    rw [List.length_append, List.length_cons]
    omega
  rw [pathAt?_opening, takeWhile_of_not_mem hclosed]
  exact if_neg (by simp [hne])

theorem starts_of_pathAt? (h : pathAt? s = some path) : ∃ rest, Starts s path rest := by
  unfold pathAt? at h
  split at h
  next after =>
    by_cases hbrace : '\x7d' ∈ after
    · obtain ⟨inside, rest, rfl, hclosed⟩ := List.eq_append_cons_of_mem hbrace
      rw [takeWhile_of_not_mem hclosed] at h
      simp only [Option.ite_none_left_eq_some, Option.some.injEq] at h
      obtain ⟨hends, rfl⟩ := h
      exact ⟨rest, rfl, fun hnil => hends (by simp [hnil]), hclosed⟩
    · -- without a closing brace the path would be all that is left
      have hall : after.takeWhile (· != '\x7d') = after :=
        List.takeWhile_eq_self_iff.2 fun c hc => bne_iff_ne.2 (ne_of_mem_of_not_mem hc hbrace)
      simp [hall] at h
  next => cases h

theorem cut_eq_drop (skip : ℕ) (s : List Char) : cut skip s = cut 0 (s.drop skip) := by
  induction s generalizing skip with
  | nil =>
    rw [List.drop_nil]
    rfl
  | cons c rest ih =>
    cases skip with
    | zero => rfl
    | succ n => exact ih n

theorem cut_cons_of_pathAt? {c : Char} (h : pathAt? (c :: rest) = some path) :
    cut 0 (c :: rest) = .field (String.ofList path) :: cut (path.length + 7) rest := by
  simp [cut, h]

theorem cut_of_starts (h : Starts s path rest) :
    cut 0 s = .field (String.ofList path) :: cut 0 rest := by
  have hpath := pathAt?_of_starts h
  obtain ⟨rfl, -, -⟩ := h
  calc cut 0 (opening.toList ++ (path ++ '\x7d' :: rest))
      = .field (String.ofList path) ::
          cut (path.length + 7) (opening.toList.tail ++ (path ++ '\x7d' :: rest)) :=
        cut_cons_of_pathAt? hpath
    _ = .field (String.ofList path) ::
          cut 0 ((opening.toList.tail ++ (path ++ '\x7d' :: rest)).drop (path.length + 7)) := by
        rw [cut_eq_drop]
    _ = .field (String.ofList path) :: cut 0 rest := by
        -- the opening is gone
        change _ :: cut 0 ((path ++ '\x7d' :: rest).drop (path.length + 1)) = _
        rw [List.drop_length_add_append]
        rfl

theorem cuts_cut (s : List Char) : Cuts s (cut 0 s) := by
  induction hlength : s.length using Nat.strongRecOn generalizing s with
  | ind n ih =>
    subst hlength
    cases s with
    | nil => exact .nil
    | cons c rest =>
      cases hpath : pathAt? (c :: rest) with
      | none =>
        rw [cut_zero_of_no_placeholder hpath]
        refine .char (fun path after hstarts => ?_) (ih _ (Nat.lt_succ_self _) rest rfl)
        rw [pathAt?_of_starts hstarts] at hpath
        cases hpath
      | some path =>
        obtain ⟨after, hstarts⟩ := starts_of_pathAt? hpath
        rw [cut_of_starts hstarts]
        refine .field hstarts (ih _ ?_ after rfl)
        rw [length_of_starts hstarts]
        omega

/-- There is one way to cut a text. -/
theorem cut_eq_iff : cut 0 s = pieces ↔ Cuts s pieces := by
  refine ⟨fun h => h ▸ cuts_cut s, fun h => ?_⟩
  induction h with
  | nil => rfl
  | @char c rest pieces hnone _ ih =>
    have hpath : pathAt? (c :: rest) = none := by
      rw [Option.eq_none_iff_forall_not_mem]
      intro path hpath
      obtain ⟨after, hstarts⟩ := starts_of_pathAt? hpath
      exact hnone path after hstarts
    rw [cut_zero_of_no_placeholder hpath, ih]
  | field hstarts _ ih => rw [cut_of_starts hstarts, ih]

/-! ## Values -/

/-- What is written for a piece: a character itself, and the text of a placeholder's value. -/
def Piece.text (data : Json) : Piece → List Char
  | .char c => [c]
  | .field path =>
    match data.at? path with
    | .ok (some value) => valueText value
    | _ => []

/-- The paths of the placeholders without a value. -/
def unresolved (data : Json) (pieces : List Piece) : List String :=
  pieces.filterMap fun
    | .char _ => none
    | .field path =>
      match data.at? path with
      | .ok none => some path
      | _ => none

/-- The report on a placeholder without a value. -/
def missing (path : String) : Problem := ⟨s!"data.{path}", .unresolved path, none⟩

theorem mem_unresolved {path : String} :
    path ∈ unresolved data pieces ↔ .field path ∈ pieces ∧ data.at? path = .ok none := by
  rw [unresolved, List.mem_filterMap]
  constructor
  · rintro ⟨piece, hmem, hpiece⟩
    split at hpiece
    next => cases hpiece
    next =>
      split at hpiece
      next hnone =>
        cases hpiece
        exact ⟨hmem, hnone⟩
      next => cases hpiece
  · rintro ⟨hmem, hnone⟩
    exact ⟨.field path, hmem, by simp only [hnone]⟩

theorem fillPieces_eq (h : ∀ path, .field path ∈ pieces → ∃ value, data.at? path = .ok value) :
    fillPieces data pieces =
      .ok (pieces.flatMap (Piece.text data), (unresolved data pieces).map missing) := by
  induction pieces with
  | nil => rfl
  | cons piece rest ih =>
    have hrest := ih fun path hmem => h path (List.mem_cons_of_mem _ hmem)
    cases piece with
    | char c =>
      rw [fillPieces, hrest]
      rfl
    | field path =>
      obtain ⟨value, hvalue⟩ := h path List.mem_cons_self
      rw [fillPieces, hvalue, hrest]
      cases value with
      | none => simp [Piece.text, unresolved, missing, hvalue, bind, Except.bind, pure, Except.pure]
      | some v => simp [Piece.text, unresolved, hvalue, bind, Except.bind, pure, Except.pure]

/-- A text without the beginning of a placeholder consists of its characters. -/
theorem cuts_of_not_occursIn (h : Text.occursIn opening.toList s = false) :
    Cuts s (s.map .char) := by
  induction s with
  | nil => exact .nil
  | cons c rest ih =>
    rw [Text.occursIn, Bool.or_eq_false_iff] at h
    refine .char (fun path after hstarts => ?_) (ih h.2)
    rw [hstarts.1, List.isPrefixOf_iff_prefix.2 (List.prefix_append _ _)] at h
    cases h.1

theorem fill_of_not_contains {source : String} (h : Text.contains source opening = false)
    (data : Json) : fill source data = .ok (.ok source) := by
  have hcut : cut 0 source.toList = source.toList.map .char :=
    cut_eq_iff.2 (cuts_of_not_occursIn h)
  have htext : (source.toList.map Piece.char).flatMap (Piece.text data) = source.toList := by
    rw [List.flatMap_map]
    exact List.flatMap_singleton' _
  have hnone : unresolved data (source.toList.map Piece.char) = [] := by
    rw [List.eq_nil_iff_forall_not_mem]
    intro path hpath
    obtain ⟨c, -, hc⟩ := List.mem_map.1 (mem_unresolved.1 hpath).1
    cases hc
  rw [fill, hcut, fillPieces_eq, htext, hnone]
  · simp [bind, Except.bind, pure, Except.pure]
  · intro path hpath
    obtain ⟨c, -, hc⟩ := List.mem_map.1 hpath
    cases hc

/-- A text is filled in at once or not at all. There is one way to cut it into placeholders and
literal characters; when all their paths can be followed, either some have no value, and there is
one report on each of these in their order, or each is replaced by the text of its value, in which
nothing is replaced any more. -/
theorem fill_all_or_nothing (source : String) (data : Json) :
    ∃ pieces, (∀ other, Cuts source.toList other ↔ other = pieces) ∧
      ((∀ path, .field path ∈ pieces → ∃ value, data.at? path = .ok value) →
        ((∃ path, .field path ∈ pieces ∧ data.at? path = .ok none) ∧
            fill source data = .ok (.error ((unresolved data pieces).map missing))) ∨
          ((∀ path, .field path ∈ pieces → ∃ v, data.at? path = .ok (some v)) ∧
            fill source data = .ok (.ok (String.ofList (pieces.flatMap (Piece.text data)))))) := by
  refine ⟨cut 0 source.toList, fun other => cut_eq_iff.symm.trans eq_comm, fun hreads => ?_⟩
  rw [fill, fillPieces_eq hreads]
  cases hmissing : unresolved data (cut 0 source.toList) with
  | nil =>
    refine .inr ⟨fun path hmem => ?_, rfl⟩
    obtain ⟨value, hvalue⟩ := hreads path hmem
    cases value with
    | none =>
      have hmem : path ∈ unresolved data (cut 0 source.toList) := mem_unresolved.2 ⟨hmem, hvalue⟩
      rw [hmissing] at hmem
      cases hmem
    | some v => exact ⟨v, hvalue⟩
  | cons path others =>
    refine .inl ⟨⟨path, mem_unresolved.1 ?_⟩, rfl⟩
    rw [hmissing]
    exact List.mem_cons_self

/-- A placeholder, and the beginning of another one. -/
def echoText : String := "$\x7bdata.a\x7d $\x7bdata.b"

/-- The value of the placeholder looks like one itself. -/
def echoData : Json := .obj [("a", .str "$\x7bdata.b\x7d"), ("b", .int 1)]

theorem fill_all_or_nothing_echo :
    fill echoText echoData = .ok (.ok "$\x7bdata.b\x7d $\x7bdata.b") := by
  obtain ⟨pieces, hcuts, hfill⟩ := fill_all_or_nothing echoText echoData
  have hpieces : pieces = .field "a" :: " $\x7bdata.b".toList.map .char := by
    rw [← (hcuts _).1 (cuts_cut _)]
    decide +kernel
  subst hpieces
  have hvalue {path : String}
      (hmem : .field path ∈ Piece.field "a" :: " $\x7bdata.b".toList.map .char) :
      echoData.at? path = .ok (some (.str "$\x7bdata.b\x7d")) := by
    obtain rfl : path = "a" := by simpa using hmem
    rfl
  obtain ⟨⟨path, hmem, hnone⟩, -⟩ | ⟨-, htext⟩ := hfill fun path hmem => ⟨_, hvalue hmem⟩
  · rw [hvalue hmem] at hnone
    cases hnone
  · rw [htext]
    rfl

end FlexForm.Placeholder
