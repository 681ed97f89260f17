import FlexForm.Pattern.Basic

/-! # Searching for a pattern

A search by backtracking: each part of a pattern hands every place that it can reach on to what
follows, in the order of preference, until the whole succeeds.

* `Pattern.Place`: a place in a text, with what the groups have taken.
* `Pattern.run`: a part of a pattern, from a place on and with what follows it.
* `Pattern.search`: whether the pattern occurs in a text.
-/

namespace FlexForm.Pattern
set_option autoImplicit false

/-- A place in a text: what lies before it, last character first, and what lies behind it. -/
structure Place where
  before : List Char
  rest : List Char
  groups : List (Nat × List Char)

def Place.start (s : List Char) : Place := ⟨[], s, []⟩

/-- The text that a group took last. -/
def Place.taken? (p : Place) (index : Nat) : Option (List Char) := p.groups.lookup index

def Place.skip (p : Place) (n : Nat) : Place :=
  { p with before := (p.rest.take n).reverse ++ p.before, rest := p.rest.drop n }

/-- The place so many characters back, if there is one. -/
def Place.back? (p : Place) (n : Nat) : Option Place :=
  if n ≤ p.before.length then
    some { p with before := p.before.drop n, rest := (p.before.take n).reverse ++ p.rest }
  else none

def Anchor.holds (a : Anchor) (p : Place) : Bool :=
  match a with
  | .textStart => p.before.isEmpty
  | .lineStart => p.before.isEmpty || p.before.head? == some '\n'
  | .lastLineEnd => p.rest.isEmpty || p.rest == ['\n']
  | .lineEnd => p.rest.isEmpty || p.rest.head? == some '\n'
  | .textEnd => p.rest.isEmpty
  | .wordEdge here ascii =>
    let isWord (c : Option Char) : Bool := c.any (Category.word.has ascii)
    !(p.before.isEmpty && p.rest.isEmpty) &&
      (isWord p.before.head? != isWord p.rest.head?) == here

abbrev Next := Place → Option Place

/-- Repeats `body`, which ran `count` times; `last` is what was left at the start of the last run.
A run that takes nothing is not followed by another one, so the rest of the text bounds the runs
beyond the least number. -/
def repeatWith (greed : Greed) (body : Place → Next → Option Place) (least : Nat)
    (most : Option Nat) : Nat → Nat → Option Nat → Place → Next → Option Place
  | 0, _, _, p, k => k p
  | fuel + 1, count, last, p, k =>
    let again (p : Place) : Option Place :=
      body p fun q => repeatWith greed body least most fuel (count + 1) (some p.rest.length) q k
    let mayGoOn := most.all (count < ·) && last != some p.rest.length
    if count < least then again p
    else match greed with
      | .lazy => (k p).or (if mayGoOn then again p else none)
      | .greedy | .possessive => if mayGoOn then (again p).or (k p) else k p

/-- The place that a part of a pattern and what follows it reach first, if any. -/
def run : Node → Place → Next → Option Place
  | .empty, p, k => k p
  | .one set, p, k =>
    match p.rest with
    | c :: rest => if set.has c then k { p with before := c :: p.before, rest } else none
    | [] => none
  | .anchor a, p, k => if a.holds p then k p else none
  | .seq first second, p, k => run first p fun q => run second q k
  | .alt first second, p, k => (run first p k).or (run second p k)
  | .group index body, p, k =>
    run body p fun q =>
      k { q with groups := (index, p.rest.take (p.rest.length - q.rest.length)) :: q.groups }
  | .backref index mode, p, k =>
    match p.taken? index with
    | none => none
    | some taken =>
      let here := p.rest.take taken.length
      if here.length == taken.length && (taken.zip here).all fun (a, b) => mode.same a b
      then k (p.skip taken.length) else none
  | .look behind positive body, p, k =>
    let found := match behind with
      | none => run body p some
      | some n => (p.back? n).bind fun q => run body q some
    match found, positive with
    | some q, true => k { p with groups := q.groups }
    | none, false => k p
    | _, _ => none
  | .atomic body, p, k => (run body p some).bind k
  | .loop greed least most body, p, k =>
    let fuel := p.rest.length + least + 2
    match greed with
    | .possessive =>
      (repeatWith greed (run body) least most fuel 0 none p some).bind k
    | _ => repeatWith greed (run body) least most fuel 0 none p k
  | .choose index yes no, p, k => if (p.taken? index).isSome then run yes p k else run no p k

/-- Whether the pattern occurs from one of the places on, which are those in the rest of a text. -/
def occursFrom (node : Node) (before : List Char) : List Char → Bool
  | [] => (run node ⟨before, [], []⟩ some).isSome
  | c :: rest =>
    (run node ⟨before, c :: rest, []⟩ some).isSome || occursFrom node (c :: before) rest

def search (node : Node) (s : String) : Bool := occursFrom node [] s.toList

end FlexForm.Pattern
