import FlexForm.Proofs.Grammar.Shape

/-! # What a text with a shape puts out

Statements that have a shape put out a text that spells what the shape spells, whatever sound values
the names stand for.

* `Agrees`: what names stand for in the scope is what they stand for in a run.
* `Term.means`, `Guard.decides`: terms and conditions have the value that the scope gives them.
* `Renders`, `renders_of_fits`: the run of statements with a shape.
* `output_of_fits`: the same for a whole text.
-/

namespace FlexForm.Grammar
set_option autoImplicit false

open Json

/-! ## Scopes and names -/

/-- Names that are not hidden stand for what the scope says. -/
structure Agrees (scope : Scope) (looped last : Bool) (data : List (Value × Value))
    (bound : Bound) : Prop where
  helper : ∀ h : Helper, nameValue data bound h.name = .ok (.helper h)
  free : ∀ name, isFree name = true → scope.hidden.contains name = false →
    ∃ v, nameValue data bound name = .ok v ∧ Holds v (scope.sense name)
  loop : looped = true → ∃ index previous v following,
    nameValue data bound "loop" = .ok (.loop index previous v following none) ∧
      following.isEmpty = last

theorem name_ne_of_isFree {name : String} (h : isFree name = true) (helper : Helper) :
    (name == helper.name) = false := by
  by_contra hne
  have heq : name = helper.name := by simpa using hne
  rw [heq] at h
  cases helper <;> exact absurd h (by decide)

theorem loop_ne_of_isFree {name : String} (h : isFree name = true) : (name == "loop") = false := by
  simp only [isFree, Bool.and_eq_true, bne_iff_ne] at h
  simpa using h.2

section
variable {scope : Scope} {looped last : Bool} {data : List (Value × Value)} {bound : Bound}

theorem Agrees.bind (h : Agrees scope looped last data bound) {name : String}
    (hname : isFree name = true) {v : Value} {o : Option Json} (hv : Holds v o) :
    Agrees (scope.bind name o) looped last data ((name, some v) :: bound) where
  helper helper := by
    rw [nameValue_cons_of_ne _ (name_ne_of_isFree hname helper)]
    exact h.helper helper
  free other hfree hhidden := by
    by_cases heq : other = name
    · subst heq
      exact ⟨v, nameValue_cons_self v, by simpa [Scope.bind] using hv⟩
    · rw [nameValue_cons_of_ne _ (beq_eq_false_iff_ne.2 (Ne.symm heq))]
      simp only [Scope.bind, if_neg heq]
      refine h.free other hfree ?_
      simpa [Scope.bind, heq] using hhidden
  loop hlooped := by
    rw [nameValue_cons_of_ne _ (loop_ne_of_isFree hname)]
    exact h.loop hlooped

theorem Agrees.inLoop (h : Agrees scope looped last data bound) (index : ℕ)
    (previous : Option Value) (v : Value) (following : List Value) :
    Agrees scope true following.isEmpty data
      (("loop", some (.loop index previous v following none)) :: bound) where
  helper helper := by
    rw [nameValue_cons_of_ne _ (by cases helper <;> decide)]
    exact h.helper helper
  free other hfree hhidden := by
    have hne := loop_ne_of_isFree hfree
    rw [nameValue_cons_of_ne _ (beq_eq_false_iff_ne.2 (Ne.symm (beq_eq_false_iff_ne.1 hne)))]
    exact h.free other hfree hhidden
  loop _ := ⟨index, previous, v, following, nameValue_cons_self _, rfl⟩

theorem Agrees.enter (h : Agrees scope looped last data bound) {body : List Statement}
    {names : List String} (hbinds : ∀ m ∈ Statement.mentionsAll body, m.binds = true →
      isFree m.name = true ∧ m.name ∈ names) :
    Agrees (scope.hide names) looped last data (entering data body bound) := by
  have hfirst {name : String} (hname : bindsFirst (Statement.mentionsAll body) name = true) :
      isFree name = true ∧ name ∈ names := by
    unfold bindsFirst at hname
    cases hfind : (Statement.mentionsAll body).find? fun m => m.name == name with
    | none => simp [hfind] at hname
    | some m =>
      have hm := hbinds m (List.mem_of_find?_eq_some hfind) (by simpa [hfind] using hname)
      have heq : m.name = name := by simpa using List.find?_some hfind
      rwa [heq] at hm
  refine ⟨fun helper => ?_, fun other hfree hhidden => ?_, fun hlooped => ?_⟩
  · rw [nameValue_entering]
    · exact h.helper helper
    · by_contra hne
      have hfree := (hfirst (by simpa using hne)).1
      exact absurd (name_ne_of_isFree hfree helper) (by simp)
  · simp only [Scope.hide, List.contains_append, Bool.or_eq_false_iff] at hhidden
    rw [nameValue_entering]
    · exact h.free other hfree hhidden.2
    · by_contra hne
      have hmem := (hfirst (by simpa using hne)).2
      simp [hmem] at hhidden
  · rw [nameValue_entering]
    · exact h.loop hlooped
    · by_contra hne
      have hfree := (hfirst (by simpa using hne)).1
      exact absurd (loop_ne_of_isFree hfree) (by simp)

/-! ## Terms and conditions -/

theorem Term.means (h : Agrees scope looped last data bound) (t : Term) (e : Expr)
    (hfits : t.fits scope.hidden e = true) : Means (nameValue data bound) e (t.sense scope) := by
  fun_induction Term.fits scope.hidden t e with
  | case1 s t =>
    obtain rfl : s = t := by simpa using hfits
    exact .text s
  | case2 => exact .null
  | case3 s t =>
    simp only [Bool.and_eq_true, beq_iff_eq, Bool.not_eq_true'] at hfits
    obtain ⟨⟨rfl, hfree⟩, hhidden⟩ := hfits
    obtain ⟨v, hv, hholds⟩ := h.free s hfree hhidden
    exact .name hv hholds
  | case4 owner key e s ih =>
    simp only [Bool.and_eq_true, beq_iff_eq] at hfits
    obtain ⟨⟨rfl, hkey⟩, howner⟩ := hfits
    exact (ih howner).attribute hkey
  | case5 first second helper a b ihfirst ihsecond =>
    simp only [Bool.and_eq_true, beq_iff_eq] at hfits
    obtain ⟨⟨rfl, hfirst⟩, hsecond⟩ := hfits
    exact .fallback (h.helper .default) (ihfirst hfirst) (ihsecond hsecond)
  | case6 => cases hfits

theorem Guard.decides (h : Agrees scope looped last data bound) (g : Guard) (e : Expr)
    (hfits : g.fits scope.hidden e = true) : Decides (nameValue data bound) e (g.decide scope) := by
  fun_induction Guard.fits scope.hidden g e with
  | case1 t e => exact (t.means h e hfits).decides
  | case2 t helper e =>
    simp only [Bool.and_eq_true, beq_iff_eq] at hfits
    obtain ⟨rfl, ht⟩ := hfits
    exact .hasItems (h.helper .hasItems) (t.means h e ht)
  | case3 t s helper e r =>
    simp only [Bool.and_eq_true, beq_iff_eq] at hfits
    obtain ⟨⟨rfl, rfl⟩, ht⟩ := hfits
    exact .eq (h.helper .eq) (t.means h e ht) s
  | case4 t s helper e r =>
    simp only [Bool.and_eq_true, beq_iff_eq] at hfits
    obtain ⟨⟨rfl, rfl⟩, ht⟩ := hfits
    exact .ne (h.helper .ne) (t.means h e ht) s
  | case5 first second helper a b ihfirst ihsecond =>
    simp only [Bool.and_eq_true, beq_iff_eq] at hfits
    obtain ⟨⟨rfl, hfirst⟩, hsecond⟩ := hfits
    exact .both (h.helper .all) (ihfirst hfirst) (ihsecond hsecond)
  | case6 => cases hfits

end

/-! ## Sound scopes -/

theorem soundOr_pick {o p : Option Json} (ho : SoundOr o) (hp : SoundOr p) :
    SoundOr (pick o p) := by
  unfold pick
  split
  · exact hp
  · exact ho

theorem sound_items {o : Option Json} {items : List Json} (ho : SoundOr o)
    (h : itemsOf? o = some items) : ∀ v ∈ items, v.Sound := by
  intro v hv
  cases o with
  | none =>
    cases h
    cases hv
  | some w =>
    cases w with
    | arr found =>
      cases h
      exact (ho _ rfl).item hv
    | null | bool | int | float | str | obj => cases h

/-- All that names stand for is sound. -/
def Scope.IsSound (scope : Scope) : Prop := ∀ name, SoundOr (scope.sense name)

theorem Scope.IsSound.bind {scope : Scope} (h : scope.IsSound) {name : String} {o : Option Json}
    (ho : SoundOr o) : (scope.bind name o).IsSound := by
  intro other
  simp only [Scope.bind]
  split
  · exact ho
  · exact h other

theorem Scope.IsSound.term {scope : Scope} (h : scope.IsSound) (t : Term) :
    SoundOr (t.sense scope) := by
  induction t with
  | text s => exact soundOr_some (sound_str s)
  | null => exact soundOr_some sound_null
  | name s => exact h s
  | field owner key ih => exact ih.field key
  | fallback first second ihfirst ihsecond => exact soundOr_pick ihfirst ihsecond

/-! ## Texts that are put out -/

/-- The text, put in front of another one, puts pieces in front of those of the other one. -/
def Puts (out : String) (spelled : List Piece → List Piece) : Prop :=
  ∀ rest qs, Follows rest qs → Follows (out.toList ++ rest) (spelled qs)

theorem Puts.nothing : Puts "" fun qs => qs := fun _ _ h => h

theorem Puts.append {out more : String} {f g : List Piece → List Piece} (hf : Puts out f)
    (hg : Puts more g) : Puts (out ++ more) fun qs => f (g qs) := by
  intro rest qs h
  rw [String.toList_append, List.append_assoc]
  exact hf _ _ (hg rest qs h)

theorem puts_words {w : List Char} {ps : List Piece} (h : isWord w ps = true) :
    Puts (String.ofList w) fun qs => ps ++ qs := by
  intro rest qs hrest
  rw [String.toList_ofList]
  exact word_of_isWord h rest qs hrest.spells

/-- Words end the number before them, so a value that follows words may follow anything. -/
theorem puts_value {w : List Char} {ps : List Piece} (h : isWord w ps = true) {v : Json}
    (hv : v.Sound) : Puts (String.ofList w ++ v.text) fun qs => ps ++ pieces v qs := by
  intro rest qs hrest
  rw [String.toList_append, List.append_assoc, Json.text, String.toList_ofList,
    String.toList_ofList]
  exact word_of_isWord h _ _ (spells_chars hv.finite hv.writable hrest.ends hrest.spells)

/-! ## Statements -/

section
variable {data : List (Value × Value)} {bound : Bound}

theorem runAll_cons {s : Statement} {rest : List Statement} {out more : String}
    {between after : Bound} (h : s.run data bound = .ok (out, between))
    (hrest : Statement.runAll data between rest = .ok (more, after)) :
    Statement.runAll data bound (s :: rest) = .ok (out ++ more, after) := by
  rw [Statement.runAll, h]
  simp only [bind, Except.bind, hrest]
  rfl

theorem run_print {e : Expr} {s : String} (h : e.eval (nameValue data bound) = .ok (.str s)) :
    (Statement.print e).run data bound = .ok (s, bound) := by
  rw [Statement.run, h]
  rfl

theorem run_set {name : String} {line : ℕ} {e : Expr} {v : Value}
    (h : e.eval (nameValue data bound) = .ok v) :
    (Statement.set (.name name line) e).run data bound = .ok ("", (name, some v) :: bound) := by
  rw [Statement.run, h]
  rfl

theorem run_choose_cons {e : Expr} {b : Bool} (h : Decides (nameValue data bound) e b)
    (body : List Statement) (cases : List (Expr × List Statement)) :
    (Statement.choose ((e, body) :: cases) []).run data bound =
      if b then Statement.runAll data bound body else (Statement.choose cases []).run data bound := by
  obtain ⟨v, hv, rfl⟩ := h
  simp only [Statement.run, Statement.runBranches, hv, bind, Except.bind]
  cases v.isTruthy with
  | false => rfl
  | true => cases Statement.runAll data bound body <;> rfl

theorem meeting_all (items : List Value) : meeting (fun _ => .ok true) items = (items, none) := by
  induction items with
  | nil => rfl
  | cons v rest ih => simp [meeting, ih]

theorem rounds_puts {round : ℕ → Option Value → Value → List Value → Except Fault String}
    {spelled : Json → Bool → List Piece → List Piece} (items : List Json)
    (h : ∀ index previous v following, v ∈ items →
      ∃ out, round index previous (.ofJson v) (Value.ofItems following) = .ok out ∧
        Puts out (spelled v following.isEmpty)) (index : ℕ) (previous : Option Value) :
    ∃ out, rounds round index previous (Value.ofItems items) = .ok out ∧
      Puts out (spelledRounds spelled items) := by
  induction items generalizing index previous with
  | nil => exact ⟨"", rfl, .nothing⟩
  | cons v rest ih =>
    obtain ⟨first, hfirst, hputs⟩ := h index previous v rest (List.mem_cons_self ..)
    obtain ⟨more, hmore, hrest⟩ := ih
      (fun i p w following hw => h i p w following (List.mem_cons_of_mem v hw))
      (index + 1) (some (.ofJson v))
    refine ⟨first ++ more, ?_, hputs.append hrest⟩
    rw [Value.ofItems, rounds, hfirst]
    simp only [bind, Except.bind, hmore]
    rfl

/-- What a round of a loop puts out; its names are gone behind it. -/
def roundOf (data : List (Value × Value)) (name : String) (line : ℕ) (statements : List Statement)
    (bound : Bound) (index : ℕ) (previous : Option Value) (v : Value) (following : List Value) :
    Except Fault String := do
  let here := ("loop", some (.loop index previous v following none)) :: bound
  let inside ← (Target.name name line).bind here v
  let (s, _) ← Statement.runAll data (entering data statements inside) statements
  return s

theorem run_each (spelled : Json → Bool → List Piece → List Piece) {name : String} {line : ℕ}
    {e : Expr} {statements : List Statement} {o : Option Json} {items : List Json}
    (hsource : Means (nameValue data bound) e o) (hitems : itemsOf? o = some items)
    (hround : ∀ index previous v following, v ∈ items → ∃ out after,
      Statement.runAll data (entering data statements ((name, some (.ofJson v)) ::
        ("loop", some (.loop index previous (.ofJson v) (Value.ofItems following) none)) :: bound))
          statements = .ok (out, after) ∧ Puts out (spelled v following.isEmpty)) :
    ∃ out, (Statement.each (.name name line) e none statements []).run data bound =
      .ok (out, bound) ∧ Puts out (spelledRounds spelled items) := by
  obtain ⟨v, hv, hholds⟩ := hsource
  have hvalues : v.items = .ok (Value.ofItems items) := by
    cases hholds with
    | missing why =>
      cases hitems
      rfl
    | value j =>
      cases j with
      | arr found =>
        cases hitems
        rfl
      | null | bool | int | float | str | obj => cases hitems
  have hrounds (index : ℕ) (previous : Option Value) (v : Json) (following : List Json)
      (hv : v ∈ items) :
      ∃ out, roundOf data name line statements bound index previous (.ofJson v)
        (Value.ofItems following) = .ok out ∧ Puts out (spelled v following.isEmpty) := by
    obtain ⟨out, after, hrun, hputs⟩ := hround index previous v following hv
    refine ⟨out, ?_, hputs⟩
    simp only [roundOf, Target.bind, bind, Except.bind, hrun]
    rfl
  obtain ⟨out, hout, hputs⟩ := rounds_puts items hrounds 0 none
  refine ⟨out, ?_, hputs⟩
  unfold roundOf at hout
  simp only [bind, Except.bind] at hout
  rw [Statement.run, hv]
  simp only [bind, Except.bind, hvalues, meeting_all, hout]
  cases items with
  | nil =>
    cases hout
    rfl
  | cons v rest => rfl

end

/-! ## Single parts -/

/-- The run comes to its end with names that agree with the scope, and puts out the pieces. -/
def Renders (data : List (Value × Value)) (scope : Scope) (looped last : Bool)
    (spelled : List Piece → List Piece) (run : Except Fault (String × Bound)) : Prop :=
  ∃ out after, run = .ok (out, after) ∧ Agrees scope looped last data after ∧ Puts out spelled

section
variable {data : List (Value × Value)} {bound : Bound} {scope : Scope} {looped last : Bool}
  {rest : List Statement}

theorem Renders.nil (h : Agrees scope looped last data bound) :
    Renders data scope looped last (Part.spelledAll scope last []) (Statement.runAll data bound []) :=
  ⟨"", bound, rfl, h, .nothing⟩

/-- A part in front of others, and its statement in front of theirs. -/
theorem Renders.cons {part : Part} {parts : List Part} {s : Statement}
    (h : Renders data (part.after scope) looped last (part.spelled scope last) (s.run data bound))
    (hrest : ∀ bound, Agrees (part.after scope) looped last data bound →
      Renders data (Part.afterAll (part.after scope) parts) looped last
        (Part.spelledAll (part.after scope) last parts) (Statement.runAll data bound rest)) :
    Renders data (Part.afterAll scope (part :: parts)) looped last
      (Part.spelledAll scope last (part :: parts)) (Statement.runAll data bound (s :: rest)) := by
  obtain ⟨first, between, hfirst, hbetween, hputs⟩ := h
  obtain ⟨more, behind, hmore, hbehind, hputs'⟩ := hrest between hbetween
  exact ⟨first ++ more, behind, runAll_cons hfirst hmore, hbehind, hputs.append hputs'⟩

theorem renders_words (h : Agrees scope looped last data bound) {w : List Char} {ps : List Piece}
    (hw : isWord w ps = true) :
    Renders data scope looped last (Part.spelled scope last (.words ps))
      ((Statement.words w).run data bound) :=
  ⟨String.ofList w, bound, rfl, h, puts_words hw⟩

theorem renders_value (h : Agrees scope looped last data bound) (hsound : scope.IsSound)
    {w : List Char} {ps : List Piece} (hw : isWord w ps = true) {t : Term} {e : Expr}
    (ht : t.fits scope.hidden e = true) {parts : List Part}
    (hrest : Renders data (Part.afterAll scope parts) looped last (Part.spelledAll scope last parts)
      (Statement.runAll data bound rest)) :
    Renders data (Part.afterAll scope (.value ps t :: parts)) looped last
      (Part.spelledAll scope last (.value ps t :: parts))
      (Statement.runAll data bound (.words w :: .print (ask .json [e]) :: rest)) := by
  obtain ⟨out, behind, hrun, hbehind, hputs⟩ := hrest
  have hv := (hsound.term t).getD
  have hprint := (t.means h e ht).eval_json (h.helper .json) hv.writable
  refine ⟨String.ofList w ++ (_ ++ out), behind,
    runAll_cons rfl (runAll_cons (run_print hprint) hrun), hbehind, ?_⟩
  rw [← String.append_assoc]
  exact (puts_value hw hv).append hputs

theorem renders_set (h : Agrees scope looped last data bound) {name : String} {line : ℕ} {t : Term}
    {e : Expr} (hfree : isFree name = true) (ht : t.fits scope.hidden e = true) :
    Renders data (Part.after scope (.set name t)) looped last (Part.spelled scope last (.set name t))
      ((Statement.set (.name name line) e).run data bound) := by
  obtain ⟨v, hv, hholds⟩ := t.means h e ht
  exact ⟨"", _, run_set hv, h.bind hfree hholds, .nothing⟩

theorem decides_not_last (h : Agrees scope looped last data bound) (hlooped : looped = true) :
    Decides (nameValue data bound) (.not (.attribute (.name "loop") "last")) (!last) := by
  obtain ⟨index, previous, v, following, hv, rfl⟩ := h.loop hlooped
  refine Decides.not ⟨.bool following.isEmpty, ?_, rfl⟩
  simp only [Expr.eval, hv, bind, Except.bind]
  cases following <;> rfl

theorem renders_comma (h : Agrees scope looped last data bound) (hlooped : looped = true)
    {w : List Char} (hw : isWord w [.mark ','] = true) :
    Renders data scope looped last (Part.spelled scope last .comma)
      ((Statement.choose [(.not (.attribute (.name "loop") "last"), [.words w])] []).run data
        bound) := by
  rw [run_choose_cons (decides_not_last h hlooped)]
  cases last with
  | true => exact ⟨"", bound, rfl, h, .nothing⟩
  | false => exact ⟨String.ofList w ++ "", bound, rfl, h, (puts_words hw).append .nothing⟩

theorem renders_each (h : Agrees scope looped last data bound) (hsound : scope.IsSound)
    {name : String} {line : ℕ} {t : Term} {e : Expr} {inside : List Part}
    {statements : List Statement} {items : List Json} (hfree : isFree name = true)
    (ht : t.fits scope.hidden e = true)
    (hinside : Part.fitsAll (scope.round name .null inside).hidden true inside statements = true)
    (hitems : itemsOf? (t.sense scope) = some items)
    (hround : ∀ v ∈ items, (scope.round name v inside).IsSound → ∀ last bound,
      Agrees (scope.round name v inside) true last data bound → ∃ behind,
        Renders data behind true last (Part.spelledAll (scope.round name v inside) last inside)
          (Statement.runAll data bound statements)) :
    Renders data scope looped last (Part.spelled scope last (.each name t inside))
      ((Statement.each (.name name line) e none statements []).run data bound) := by
  have hspelled : Part.spelled scope last (.each name t inside) = spelledRounds
      (fun v last => Part.spelledAll (scope.round name v inside) last inside) items := by
    funext qs
    rw [Part.spelled, hitems]
    rfl
  rw [hspelled]
  obtain ⟨out, hout, hputs⟩ := run_each
    (fun v last => Part.spelledAll (scope.round name v inside) last inside) (t.means h e ht) hitems
    fun index previous v following hv => by
      have hagrees := ((h.inLoop index previous (.ofJson v) (Value.ofItems following)).bind
        hfree (Holds.value v)).enter (Part.binds_of_fits hinside)
      have hempty : (Value.ofItems following).isEmpty = following.isEmpty := by
        cases following <;> rfl
      rw [hempty] at hagrees
      have hv' : (scope.round name v inside).IsSound :=
        hsound.bind (soundOr_some (sound_items (hsound.term t) hitems v hv))
      obtain ⟨behind, out, after, hrun, -, hputs⟩ := hround v hv hv' _ _ hagrees
      exact ⟨out, after, hrun, hputs⟩
  exact ⟨out, bound, hout, h, hputs⟩

end

/-! ## Whole shapes -/

section
variable {data : List (Value × Value)}

mutual

/-- Statements with a shape put out what the shape spells. -/
theorem renders_of_fits (parts : List Part) {scope : Scope} {looped last : Bool} {bound : Bound}
    {body : List Statement} (hfits : Part.fitsAll scope.hidden looped parts body = true)
    (h : Agrees scope looped last data bound) (hsound : scope.IsSound)
    (hiterates : Part.iteratesAll scope parts = true) :
    Renders data (Part.afterAll scope parts) looped last (Part.spelledAll scope last parts)
      (Statement.runAll data bound body) := by
  match parts with
  | [] =>
    rw [Part.fits_nil hfits]
    exact .nil h
  | .words ps :: parts =>
    obtain ⟨w, rest, rfl, hw, hrest⟩ := Part.fits_words hfits
    exact .cons (renders_words h hw) fun _ h => renders_of_fits parts hrest h hsound hiterates
  | .value ps t :: parts =>
    obtain ⟨w, e, rest, rfl, hw, ht, hrest⟩ := Part.fits_value hfits
    exact renders_value h hsound hw ht (renders_of_fits parts hrest h hsound hiterates)
  | .set name t :: parts =>
    obtain ⟨line, e, rest, rfl, hfree, ht, hrest⟩ := Part.fits_set hfits
    exact .cons (renders_set h hfree ht) fun _ h =>
      renders_of_fits parts hrest h (hsound.bind (hsound.term t)) hiterates
  | .choose branches :: parts =>
    obtain ⟨cases, rest, rfl, hbranches, hrest⟩ := Part.fits_choose hfits
    rw [Part.iteratesAll, Bool.and_eq_true] at hiterates
    exact .cons (renders_of_fitsBranches branches hbranches h hsound hiterates.1) fun _ h =>
      renders_of_fits parts hrest h hsound hiterates.2
  | .each name t inside :: parts =>
    obtain ⟨line, e, statements, rest, rfl, hfree, ht, hinside, hrest⟩ := Part.fits_each hfits
    rw [Part.iteratesAll, Part.iterates, Bool.and_eq_true] at hiterates
    obtain ⟨hloop, hmore⟩ := hiterates
    cases hitems : itemsOf? (t.sense scope) with
    | none =>
      rw [hitems] at hloop
      cases hloop
    | some items =>
      rw [hitems] at hloop
      refine .cons (renders_each h hsound hfree ht hinside hitems fun v hv hv' _ _ h => ?_)
        fun _ h => renders_of_fits parts hrest h hsound hmore
      exact ⟨_, renders_of_fits inside hinside h hv' (List.all_eq_true.1 hloop v hv)⟩
  | .comma :: parts =>
    obtain ⟨w, rest, rfl, hlooped, hw, hrest⟩ := Part.fits_comma hfits
    exact .cons (renders_comma h hlooped hw) fun _ h =>
      renders_of_fits parts hrest h hsound hiterates

theorem renders_of_fitsBranches (branches : List (Guard × List Part)) {scope : Scope}
    {looped last : Bool} {bound : Bound} {cases : List (Expr × List Statement)}
    (hfits : Part.fitsBranches scope.hidden looped branches cases = true)
    (h : Agrees scope looped last data bound) (hsound : scope.IsSound)
    (hiterates : Part.iteratesBranches scope branches = true) :
    Renders data scope looped last (Part.spelledBranches scope last branches)
      ((Statement.choose cases []).run data bound) := by
  match branches, cases with
  | [], [] => exact ⟨"", bound, rfl, h, .nothing⟩
  | [], _ :: _ => simp [Part.fitsBranches] at hfits
  | (_, _) :: _, [] => simp [Part.fitsBranches] at hfits
  | (guard, parts) :: more, (e, body) :: rest =>
    simp only [Part.fitsBranches, Bool.and_eq_true, List.isEmpty_iff] at hfits
    obtain ⟨⟨⟨hguard, hsets⟩, hbody⟩, hrest⟩ := hfits
    have hspelled : Part.spelledBranches scope last ((guard, parts) :: more) = fun qs =>
        bif guard.decide scope then Part.spelledAll scope last parts qs
        else Part.spelledBranches scope last more qs := by
      funext qs
      rw [Part.spelledBranches]
    rw [run_choose_cons (guard.decides h e hguard), hspelled]
    rw [Part.iteratesBranches] at hiterates
    cases hdecide : guard.decide scope with
    | true =>
      rw [hdecide, cond_true] at hiterates
      have hbranch := renders_of_fits parts hbody h hsound hiterates
      rwa [Part.afterAll_of_no_sets hsets] at hbranch
    | false =>
      rw [hdecide, cond_false] at hiterates
      exact renders_of_fitsBranches more hrest h hsound hiterates

end

end

/-- The scope of a whole text: the fields of the form data. -/
def Scope.ofFields (parts : List Part) (fields : List (String × Json)) : Scope :=
  ⟨Part.setsAll parts, Fields.get? fields⟩

@[simp] theorem Scope.sense_ofFields (parts : List Part) (fields : List (String × Json))
    (name : String) : (Scope.ofFields parts fields).sense name = Fields.get? fields name := rfl

/-- A text with a shape puts out what the shape spells. -/
theorem output_of_fits {parts : List Part} {body : List Statement} {fields : List (String × Json)}
    (hfits : Part.fitsAll (Part.setsAll parts) false parts body = true)
    (hfields : (Json.obj fields).Sound)
    (hiterates : Part.iteratesAll (.ofFields parts fields) parts = true) :
    ∃ out, output body fields = .ok out ∧
      Spells false out.toList (Part.spelledAll (.ofFields parts fields) false parts []) := by
  have hempty : Agrees ⟨[], Fields.get? fields⟩ false false (Value.ofFields fields) [] := by
    refine ⟨fun helper => nameValue_helper helper rfl, fun name hfree _ => ?_, by simp⟩
    refine holds_nameValue fields ?_ rfl
    simp only [isFree, Bool.and_eq_true, Option.isNone_iff_eq_none] at hfree
    exact hfree.1
  have hagrees := hempty.enter (Part.binds_of_fits hfits)
  have hhide : Scope.hide ⟨[], Fields.get? fields⟩ (Part.setsAll parts) = .ofFields parts fields := by
    simp [Scope.hide, Scope.ofFields]
  rw [hhide] at hagrees
  obtain ⟨out, after, hrun, -, hputs⟩ := renders_of_fits parts hfits hagrees
    (fun name => hfields.field name) hiterates
  refine ⟨out, ?_, ?_⟩
  · unfold output
    simp only [hrun, bind, Except.bind]
    rfl
  · have h := (hputs [] [] ⟨endsNumber_nil, .done⟩).spells
    rwa [List.append_nil] at h

end FlexForm.Grammar
