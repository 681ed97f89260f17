import FlexForm.Proofs.Grammar.Words
import FlexForm.Proofs.Json.Sound

/-! # The shape of a template text

A template text that puts out JSON has a shape: the pieces of its words, the terms that it prints
between them, its conditions and its loops. What the text puts out follows from its shape and from
what names stand for, with missing values as nothing at all.

* `Term`, `Guard`, `Part`: terms, conditions and the parts of a shape.
* `Scope`: what names stand for.
* `Part.spelledAll`: the pieces that a shape spells.
* `Part.fitsAll`: whether statements have a shape.
-/

namespace FlexForm.Grammar
set_option autoImplicit false

open Json

/-! ## Shapes -/

/-- An expression for a JSON value or nothing. -/
inductive Term where
  | text (s : String)
  | null
  | name (s : String)
  | field (owner : Term) (key : String)
  | fallback (first second : Term)

/-- A condition on terms. -/
inductive Guard where
  | holds (t : Term)
  | hasItems (t : Term)
  | is (t : Term) (s : String)
  | isNot (t : Term) (s : String)
  | both (first second : Guard)

/-- A part of a shape. A value comes with the pieces of the words before it, and `comma` stands
after all rounds of a loop but the last. -/
inductive Part where
  | words (ps : List Piece)
  | value (ps : List Piece) (t : Term)
  | set (name : String) (t : Term)
  | choose (branches : List (Guard × List Part))
  | each (name : String) (source : Term) (body : List Part)
  | comma

/-! ## What a shape spells -/

/-- What names stand for; of the hidden ones that is not known, as they have no value yet. -/
structure Scope where
  hidden : List String
  sense : String → Option Json

def Scope.bind (scope : Scope) (name : String) (o : Option Json) : Scope :=
  ⟨scope.hidden.filter (· != name), fun other => if other = name then o else scope.sense other⟩

def Scope.hide (scope : Scope) (names : List String) : Scope :=
  { scope with hidden := names ++ scope.hidden }

/-- What a term stands for. -/
def Term.sense (scope : Scope) : Term → Option Json
  | .text s => some (.str s)
  | .null => some .null
  | .name s => scope.sense s
  | .field owner key => (owner.sense scope).bind (·.get? key)
  | .fallback first second => pick (first.sense scope) (second.sense scope)

/-- Whether a condition holds. -/
def Guard.decide (scope : Scope) : Guard → Bool
  | .holds t => isTrue (t.sense scope)
  | .hasItems t => isFilledArray (t.sense scope)
  | .is t s => isText (t.sense scope) s
  | .isNot t s => !isText (t.sense scope) s
  | .both first second => first.decide scope && second.decide scope

/-- The items over which a loop goes, if it can. -/
def itemsOf? : Option Json → Option (List Json)
  | none => some []
  | some (.arr items) => some items
  | some _ => none

/-- The pieces that the rounds of a loop put in front of others; a round is told whether it is the
last. -/
def spelledRounds (round : Json → Bool → List Piece → List Piece) :
    List Json → List Piece → List Piece
  | [], qs => qs
  | v :: rest, qs => round v rest.isEmpty (spelledRounds round rest qs)

/-- The names that the parts bind outside of loops and branches. -/
def Part.setsAll : List Part → List String
  | [] => []
  | .set name _ :: rest => name :: setsAll rest
  | _ :: rest => setsAll rest

/-- The scope behind a part. -/
def Part.after (scope : Scope) : Part → Scope
  | .set name t => scope.bind name (t.sense scope)
  | _ => scope

def Part.afterAll (scope : Scope) : List Part → Scope
  | [] => scope
  | part :: rest => afterAll (part.after scope) rest

/-- The scope in a round of a loop. -/
def Scope.round (scope : Scope) (name : String) (v : Json) (body : List Part) : Scope :=
  (scope.bind name (some v)).hide (Part.setsAll body)

mutual

/-- The pieces that a part puts in front of others. -/
def Part.spelled (scope : Scope) (last : Bool) : Part → List Piece → List Piece
  | .words ps, qs => ps ++ qs
  | .value ps t, qs => ps ++ pieces ((t.sense scope).getD .null) qs
  | .set _ _, qs => qs
  | .choose branches, qs => spelledBranches scope last branches qs
  | .each name source body, qs =>
    spelledRounds (fun v last => spelledAll (scope.round name v body) last body)
      ((itemsOf? (source.sense scope)).getD []) qs
  | .comma, qs => bif last then qs else .mark ',' :: qs

def Part.spelledAll (scope : Scope) (last : Bool) : List Part → List Piece → List Piece
  | [], qs => qs
  | part :: rest, qs => part.spelled scope last (spelledAll (part.after scope) last rest qs)

def Part.spelledBranches (scope : Scope) (last : Bool) :
    List (Guard × List Part) → List Piece → List Piece
  | [], qs => qs
  | (guard, body) :: rest, qs =>
    bif guard.decide scope then spelledAll scope last body qs
    else spelledBranches scope last rest qs

end

mutual

/-- Whether every loop that is run goes over a list or over nothing. -/
def Part.iterates (scope : Scope) : Part → Bool
  | .words _ | .value _ _ | .set _ _ | .comma => true
  | .choose branches => iteratesBranches scope branches
  | .each name source body =>
    match itemsOf? (source.sense scope) with
    | some items => items.all fun v => iteratesAll (scope.round name v body) body
    | none => false

def Part.iteratesAll (scope : Scope) : List Part → Bool
  | [] => true
  | part :: rest => part.iterates scope && iteratesAll (part.after scope) rest

def Part.iteratesBranches (scope : Scope) : List (Guard × List Part) → Bool
  | [] => true
  | (guard, body) :: rest =>
    bif guard.decide scope then iteratesAll scope body else iteratesBranches scope rest

end

/-! ## Statements of a shape -/

/-- A name that stands neither for a helper nor for the place inside a loop. -/
def isFree (name : String) : Bool := (Helper.ofName? name).isNone && name != "loop"

/-- Whether the expression is the term, with no hidden name inside. -/
def Term.fits (hidden : List String) : Term → Expr → Bool
  | .text s, .const (.str t) => s == t
  | .null, .const .null => true
  | .name s, .name t => s == t && isFree s && !hidden.contains s
  | .field owner key, .attribute e s => key == s && isFieldName key && owner.fits hidden e
  | .fallback first second, .call (.name h) [(.plain, a), (.plain, b)] =>
    h == "default" && first.fits hidden a && second.fits hidden b
  | _, _ => false

/-- Whether the expression is the condition. -/
def Guard.fits (hidden : List String) : Guard → Expr → Bool
  | .holds t, e => t.fits hidden e
  | .hasItems t, .call (.name h) [(.plain, e)] => h == "hasItems" && t.fits hidden e
  | .is t s, .call (.name h) [(.plain, e), (.plain, .const (.str r))] =>
    h == "eq" && s == r && t.fits hidden e
  | .isNot t s, .call (.name h) [(.plain, e), (.plain, .const (.str r))] =>
    h == "ne" && s == r && t.fits hidden e
  | .both first second, .call (.name h) [(.plain, a), (.plain, b)] =>
    h == "and_" && first.fits hidden a && second.fits hidden b
  | _, _ => false

mutual

/-- Whether the statements have the shape. Only inside of loops a comma may stand, and branches bind
no names. -/
def Part.fitsAll (hidden : List String) (looped : Bool) : List Part → List Statement → Bool
  | [], body => body.isEmpty
  | .words ps :: parts, .words w :: rest => isWord w ps && fitsAll hidden looped parts rest
  | .value ps t :: parts, .words w :: .print (.call (.name h) [(.plain, e)]) :: rest =>
    isWord w ps && h == "json" && t.fits hidden e && fitsAll hidden looped parts rest
  | .set name t :: parts, .set (.name s _) e :: rest =>
    name == s && isFree name && t.fits hidden e &&
      fitsAll (hidden.filter (· != name)) looped parts rest
  | .choose branches :: parts, .choose cases [] :: rest =>
    fitsBranches hidden looped branches cases && fitsAll hidden looped parts rest
  | .each name t body :: parts, .each (.name s _) e none inside [] :: rest =>
    name == s && isFree name && t.fits hidden e &&
      fitsAll (setsAll body ++ hidden.filter (· != name)) true body inside &&
      fitsAll hidden looped parts rest
  | .comma :: parts, .choose [(.not (.attribute (.name l) s), [.words w])] [] :: rest =>
    looped && l == "loop" && s == "last" && isWord w [.mark ','] && fitsAll hidden looped parts rest
  | _, _ => false

def Part.fitsBranches (hidden : List String) (looped : Bool) :
    List (Guard × List Part) → List (Expr × List Statement) → Bool
  | [], cases => cases.isEmpty
  | (guard, parts) :: more, (e, body) :: rest =>
    guard.fits hidden e && (setsAll parts).isEmpty && fitsAll hidden looped parts body &&
      fitsBranches hidden looped more rest
  | _, _ => false

end

/-! ## Statements that have a shape, part by part -/

section
variable {hidden : List String} {looped : Bool} {parts : List Part} {body : List Statement}

theorem Part.fits_nil (h : fitsAll hidden looped [] body = true) : body = [] := by
  rw [fitsAll] at h
  exact List.isEmpty_iff.1 h

theorem Part.fits_words {ps : List Piece}
    (h : fitsAll hidden looped (.words ps :: parts) body = true) :
    ∃ w rest, body = .words w :: rest ∧ isWord w ps = true ∧
      fitsAll hidden looped parts rest = true := by
  unfold fitsAll at h
  split at h
  case h_8 => cases h
  all_goals
    rename_i heq
    cases heq
  rw [Bool.and_eq_true] at h
  exact ⟨_, _, rfl, h⟩

theorem Part.fits_value {ps : List Piece} {t : Term}
    (h : fitsAll hidden looped (.value ps t :: parts) body = true) :
    ∃ w e rest, body = .words w :: .print (ask .json [e]) :: rest ∧ isWord w ps = true ∧
      t.fits hidden e = true ∧ fitsAll hidden looped parts rest = true := by
  unfold fitsAll at h
  split at h
  case h_8 => cases h
  all_goals
    rename_i heq
    cases heq
  simp only [Bool.and_eq_true, beq_iff_eq] at h
  obtain ⟨⟨⟨hw, rfl⟩, ht⟩, hrest⟩ := h
  exact ⟨_, _, _, rfl, hw, ht, hrest⟩

theorem Part.fits_set {name : String} {t : Term}
    (h : fitsAll hidden looped (.set name t :: parts) body = true) :
    ∃ line e rest, body = .set (.name name line) e :: rest ∧ isFree name = true ∧
      t.fits hidden e = true ∧ fitsAll (hidden.filter (· != name)) looped parts rest = true := by
  unfold fitsAll at h
  split at h
  case h_8 => cases h
  all_goals
    rename_i heq
    cases heq
  simp only [Bool.and_eq_true, beq_iff_eq] at h
  obtain ⟨⟨⟨rfl, hfree⟩, ht⟩, hrest⟩ := h
  exact ⟨_, _, _, rfl, hfree, ht, hrest⟩

theorem Part.fits_choose {branches : List (Guard × List Part)}
    (h : fitsAll hidden looped (.choose branches :: parts) body = true) :
    ∃ cases rest, body = .choose cases [] :: rest ∧
      fitsBranches hidden looped branches cases = true ∧
        fitsAll hidden looped parts rest = true := by
  unfold fitsAll at h
  split at h
  case h_8 => cases h
  all_goals
    rename_i heq
    cases heq
  rw [Bool.and_eq_true] at h
  exact ⟨_, _, rfl, h⟩

theorem Part.fits_each {name : String} {t : Term} {inside : List Part}
    (h : fitsAll hidden looped (.each name t inside :: parts) body = true) :
    ∃ line e statements rest, body = .each (.name name line) e none statements [] :: rest ∧
      isFree name = true ∧ t.fits hidden e = true ∧
        fitsAll (setsAll inside ++ hidden.filter (· != name)) true inside statements = true ∧
          fitsAll hidden looped parts rest = true := by
  unfold fitsAll at h
  split at h
  case h_8 => cases h
  all_goals
    rename_i heq
    cases heq
  simp only [Bool.and_eq_true, beq_iff_eq] at h
  obtain ⟨⟨⟨⟨rfl, hfree⟩, ht⟩, hinside⟩, hrest⟩ := h
  exact ⟨_, _, _, _, rfl, hfree, ht, hinside, hrest⟩

theorem Part.fits_comma (h : fitsAll hidden looped (.comma :: parts) body = true) :
    ∃ w rest, body = .choose [(.not (.attribute (.name "loop") "last"), [.words w])] [] :: rest ∧
      looped = true ∧ isWord w [.mark ','] = true ∧ fitsAll hidden looped parts rest = true := by
  unfold fitsAll at h
  split at h
  case h_8 => cases h
  all_goals
    rename_i heq
    cases heq
  simp only [Bool.and_eq_true, beq_iff_eq] at h
  obtain ⟨⟨⟨⟨hlooped, rfl⟩, rfl⟩, hw⟩, hrest⟩ := h
  exact ⟨_, _, rfl, hlooped, hw, hrest⟩

/-- Whether a statement binds names outside of loops and branches. -/
def Statement.assigns : Statement → Bool
  | .set .. | .capture .. => true
  | .words _ | .print _ | .choose .. | .each .. => false

theorem Statement.mem_rest_of_binds {s : Statement} {rest : List Statement} {m : Mention}
    (hs : s.assigns = false) (hm : m ∈ Statement.mentionsAll (s :: rest))
    (hbinds : m.binds = true) : m ∈ Statement.mentionsAll rest := by
  rw [Statement.mentionsAll, List.mem_append] at hm
  refine hm.resolve_left fun hm => ?_
  cases s with
  | words => cases hm
  | set | capture => cases hs
  | print | each | choose =>
    obtain ⟨_, -, rfl⟩ := List.mem_map.1 hm
    cases hbinds

/-- Only names that the shape sets are bound by its statements. -/
theorem Part.binds_of_fits (h : fitsAll hidden looped parts body = true) :
    ∀ m ∈ Statement.mentionsAll body, m.binds = true →
      isFree m.name = true ∧ m.name ∈ setsAll parts := by
  induction parts generalizing hidden body with
  | nil =>
    rw [fits_nil h]
    intro m hm
    cases hm
  | cons part parts ih =>
    intro m hm hbinds
    cases part with
    | words ps =>
      obtain ⟨w, rest, rfl, -, hrest⟩ := fits_words h
      exact ih hrest m (Statement.mem_rest_of_binds rfl hm hbinds) hbinds
    | value ps t =>
      obtain ⟨w, e, rest, rfl, -, -, hrest⟩ := fits_value h
      have hm := Statement.mem_rest_of_binds rfl hm hbinds
      exact ih hrest m (Statement.mem_rest_of_binds rfl hm hbinds) hbinds
    | set name t =>
      obtain ⟨line, e, rest, rfl, hfree, -, hrest⟩ := fits_set h
      rw [Statement.mentionsAll, Statement.mentions, List.append_assoc, List.mem_append,
        List.mem_append] at hm
      rcases hm with hm | hm | hm
      · obtain ⟨_, -, rfl⟩ := List.mem_map.1 hm
        cases hbinds
      · obtain rfl : m = ⟨name, true⟩ := by simpa [Target.names] using hm
        exact ⟨hfree, List.mem_cons_self⟩
      · obtain ⟨hm, hmem⟩ := ih hrest m hm hbinds
        exact ⟨hm, List.mem_cons_of_mem _ hmem⟩
    | choose branches =>
      obtain ⟨cases, rest, rfl, -, hrest⟩ := fits_choose h
      exact ih hrest m (Statement.mem_rest_of_binds rfl hm hbinds) hbinds
    | each name t inside =>
      obtain ⟨line, e, statements, rest, rfl, -, -, -, hrest⟩ := fits_each h
      exact ih hrest m (Statement.mem_rest_of_binds rfl hm hbinds) hbinds
    | comma =>
      obtain ⟨w, rest, rfl, -, -, hrest⟩ := fits_comma h
      exact ih hrest m (Statement.mem_rest_of_binds rfl hm hbinds) hbinds

end

theorem Part.spelledAll_append {scope : Scope} {last : Bool} (parts more : List Part)
    (qs : List Piece) : spelledAll scope last (parts ++ more) qs =
      spelledAll scope last parts (spelledAll (afterAll scope parts) last more qs) := by
  induction parts generalizing scope with
  | nil => rfl
  | cons part rest ih => rw [List.cons_append, spelledAll, spelledAll, ih, afterAll]

theorem Part.iteratesAll_append {scope : Scope} (parts more : List Part) :
    iteratesAll scope (parts ++ more) =
      (iteratesAll scope parts && iteratesAll (afterAll scope parts) more) := by
  induction parts generalizing scope with
  | nil => rfl
  | cons part rest ih => rw [List.cons_append, iteratesAll, iteratesAll, ih, afterAll, Bool.and_assoc]

theorem Part.afterAll_of_no_sets {scope : Scope} {parts : List Part} (h : setsAll parts = []) :
    afterAll scope parts = scope := by
  induction parts with
  | nil => rfl
  | cons part rest ih =>
    cases part with
    | set name t => cases h
    | words | value | choose | each | comma => exact ih h

/-- Rounds that write values with commas between them write the items of a list. -/
theorem pieces_arr_of_rounds {round : Json → Bool → List Piece → List Piece} {f : Json → Json}
    {items : List Json} (h : ∀ v ∈ items, ∀ last qs,
      round v last qs = pieces (f v) (bif last then qs else .mark ',' :: qs)) (qs : List Piece) :
    pieces (.arr (items.map f)) qs = .mark '[' :: spelledRounds round items (.mark ']' :: qs) := by
  have hmore (v : Json) (rest : List Json) (qs : List Piece)
      (h : ∀ w ∈ v :: rest, ∀ last qs,
        round w last qs = pieces (f w) (bif last then qs else .mark ',' :: qs)) :
      spelledRounds round (v :: rest) qs = pieces (f v) (moreItems (rest.map f) qs) := by
    induction rest generalizing v with
    | nil => exact h v (List.mem_cons_self ..) true qs
    | cons w rest ih =>
      rw [spelledRounds, h v (List.mem_cons_self ..) _ _,
        ih w fun u hu => h u (List.mem_cons_of_mem v hu)]
      rfl
  cases items with
  | nil => rfl
  | cons v rest => rw [hmore v rest _ h, List.map_cons, pieces]

end FlexForm.Grammar
