import FlexForm.Text.Case
import FlexForm.Text.CharClass

/-! # Patterns

The trees of regular expressions, as far as a text is searched for them.

* `Pattern.Mode`: how case, line ends and the classes of characters are taken.
* `Pattern.Atom`, `Pattern.CharSet`: sets of characters and membership in them.
* `Pattern.Anchor`, `Pattern.Node`: places in a text, and patterns.
-/

namespace FlexForm.Pattern
set_option autoImplicit false

structure Mode where
  ignoreCase : Bool := false
  multiLine : Bool := false
  dotAll : Bool := false
  /-- Blanks and comments in the pattern stand for nothing. -/
  verbose : Bool := false
  /-- The classes of characters hold ASCII characters only. -/
  ascii : Bool := false
  deriving DecidableEq, Inhabited

/-- A class of characters with a short name. -/
inductive Category where
  | digit
  | space
  | word
  deriving DecidableEq

/-- A part of a set of characters. -/
inductive Atom where
  | range (low high : Nat)
  | category (c : Category) (negated : Bool)
  deriving DecidableEq

structure CharSet where
  atoms : List Atom
  negated : Bool
  mode : Mode
  deriving DecidableEq

inductive Anchor where
  | textStart
  | lineStart
  /-- The end of the text, or the place before a line end that ends it. -/
  | lastLineEnd
  | lineEnd
  | textEnd
  /-- A place where words start or end, or one where they do not. -/
  | wordEdge (here : Bool) (ascii : Bool)
  deriving DecidableEq

/-- Which of several numbers of repetitions is tried first. -/
inductive Greed where
  | greedy
  | lazy
  /-- As many as can be, without trying fewer. -/
  | possessive
  deriving DecidableEq

inductive Node where
  | empty
  | one (set : CharSet)
  | anchor (a : Anchor)
  | seq (first second : Node)
  | alt (first second : Node)
  | group (index : Nat) (body : Node)
  | backref (index : Nat) (mode : Mode)
  /-- A condition on what follows, or on the given number of characters before. -/
  | look (behind : Option Nat) (holds : Bool) (body : Node)
  | atomic (body : Node)
  | loop (greed : Greed) (least : Nat) (most : Option Nat) (body : Node)
  /-- One of two patterns, as the group has taken part or not. -/
  | choose (index : Nat) (yes no : Node)

/-! ## Membership -/

def Category.has (ascii : Bool) (c : Char) : Category → Bool
  | .digit => if ascii then c.isDigit else Text.isDecimalDigit c
  | .space =>
    if ascii then c == ' ' || (9 ≤ c.toNat && c.toNat ≤ 13) else Text.isBlank c
  | .word => if ascii then c.isAlphanum || c == '_' else Text.isWord c

/-- The characters that count as equal to `c` when case is ignored, `c` itself among them. -/
def variants (mode : Mode) (c : Char) : List Char :=
  if !mode.ignoreCase then [c]
  else if mode.ascii then [c, c.toLower, c.toUpper]
  else c :: Text.foldCase c :: (Text.upperChar c).take 1

def Atom.has (mode : Mode) (c : Char) : Atom → Bool
  | .range low high => (variants mode c).any fun v => low ≤ v.toNat && v.toNat ≤ high
  | .category k negated => k.has mode.ascii c != negated

def CharSet.has (s : CharSet) (c : Char) : Bool := (s.atoms.any (·.has s.mode c)) != s.negated

def Mode.same (mode : Mode) (a b : Char) : Bool :=
  a == b || (mode.ignoreCase &&
    if mode.ascii then a.toLower == b.toLower else Text.foldCase a == Text.foldCase b)

end FlexForm.Pattern
