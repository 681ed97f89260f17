import FlexForm.Number.Binary64
import FlexForm.Text.Quoted

/-! # Tokens of template texts

A template text consists of words that stand as they are, of prints `{{ … }}`, of tags `{% … %}` and
of comments. Inside prints and tags stand names, literals and signs.

* `Sign`, `Sign.text`: the signs of expressions.
* `Token`, `Token.description`: one token, and how complaints call it.
* `Cause`, `Cause.message`: what can be wrong with a template text.
* `Refusal`: why a template text cannot be used, with the line where that shows.
-/

namespace FlexForm.Grammar
set_option autoImplicit false

/-! ## Signs -/

inductive Sign where
  | plus | minus | slash | twoSlashes | star | percent | twoStars | tilde
  | openBracket | closeBracket | openParen | closeParen | openBrace | closeBrace
  | equal | differ | greater | atLeast | less | atMost | assign
  | dot | colon | bar | comma | semicolon
  deriving DecidableEq, Inhabited

def Sign.text : Sign → String
  | .plus => "+" | .minus => "-" | .slash => "/" | .twoSlashes => "//" | .star => "*"
  | .percent => "%" | .twoStars => "**" | .tilde => "~"
  | .openBracket => "[" | .closeBracket => "]" | .openParen => "(" | .closeParen => ")"
  | .openBrace => "\x7b" | .closeBrace => "\x7d"
  | .equal => "==" | .differ => "!=" | .greater => ">" | .atLeast => ">=" | .less => "<"
  | .atMost => "<=" | .assign => "="
  | .dot => "." | .colon => ":" | .bar => "|" | .comma => "," | .semicolon => ";"

/-- The longest sign with which the text begins, and the text behind it. -/
def Sign.read? : List Char → Option (Sign × List Char)
  | '/' :: '/' :: rest => some (.twoSlashes, rest)
  | '*' :: '*' :: rest => some (.twoStars, rest)
  | '=' :: '=' :: rest => some (.equal, rest)
  | '!' :: '=' :: rest => some (.differ, rest)
  | '>' :: '=' :: rest => some (.atLeast, rest)
  | '<' :: '=' :: rest => some (.atMost, rest)
  | '+' :: rest => some (.plus, rest)
  | '-' :: rest => some (.minus, rest)
  | '/' :: rest => some (.slash, rest)
  | '*' :: rest => some (.star, rest)
  | '%' :: rest => some (.percent, rest)
  | '~' :: rest => some (.tilde, rest)
  | '[' :: rest => some (.openBracket, rest)
  | ']' :: rest => some (.closeBracket, rest)
  | '(' :: rest => some (.openParen, rest)
  | ')' :: rest => some (.closeParen, rest)
  | '{' :: rest => some (.openBrace, rest)
  | '}' :: rest => some (.closeBrace, rest)
  | '>' :: rest => some (.greater, rest)
  | '<' :: rest => some (.less, rest)
  | '=' :: rest => some (.assign, rest)
  | '.' :: rest => some (.dot, rest)
  | ':' :: rest => some (.colon, rest)
  | '|' :: rest => some (.bar, rest)
  | ',' :: rest => some (.comma, rest)
  | ';' :: rest => some (.semicolon, rest)
  | _ => none

/-- The sign that closes what this one opens. -/
def Sign.closer? : Sign → Option Sign
  | .openBracket => some .closeBracket
  | .openParen => some .closeParen
  | .openBrace => some .closeBrace
  | _ => none

def Sign.isCloser : Sign → Bool
  | .closeBracket | .closeParen | .closeBrace => true
  | _ => false

/-! ## What can be wrong -/

/-- A block that is open, with the tags that may end its present part. -/
structure OpenBlock where
  tag : String
  closers : List String
  deriving DecidableEq

inductive Cause where
  | strangeChar (c : Char) (place : Nat)
  | strayCloser (sign : Sign)
  | wrongCloser (sign awaited : Sign)
  | openComment
  | openRaw
  | badName
  | truncatedEscape (shape : String)
  | illegalCharacter
  | malformedNamed
  | unknownNamed
  | unexpected (got : String)
  | expected (wanted got : String)
  | endedBefore (wanted : String)
  | noExpression (got : String)
  | noTagName
  | unknownTag (name : String) (blocks : List OpenBlock)
  | endedInside (blocks : List OpenBlock)
  | noNameOrNumber
  | chainedTests
  | badCall
  | notAssignable (kind : String)
  | loopAssigned
  | unknownFilter (name : String)
  | unknownTest (name : String)
  deriving DecidableEq

/-- The tags that may come next inside the given blocks, the innermost first, and whether the
unexpected tag `name` closes one further out. -/
def Cause.blockHint (name : Option String) (blocks : List OpenBlock) : String :=
  match blocks with
  | [] => ""
  | inner :: _ =>
    let looking := " or ".intercalate (inner.closers.map Text.quoted)
    let nested := match name with
      | some name => blocks.any (·.closers.contains name)
      | none => false
    (if nested then
      " You probably made a nesting mistake. Jinja is expecting this tag, but currently "
        ++ s!"looking for {looking}."
    else s!" Jinja was looking for the following tags: {looking}.")
      ++ s!" The innermost block that needs to be closed is {Text.quoted inner.tag}."

def Cause.message : Cause → String
  | .strangeChar c place => s!"unexpected char {Text.quoted (String.singleton c)} at {place}"
  | .strayCloser sign => s!"unexpected '{sign.text}'"
  | .wrongCloser sign awaited => s!"unexpected '{sign.text}', expected '{awaited.text}'"
  | .openComment => "Missing end of comment tag"
  | .openRaw => "Missing end of raw directive"
  | .badName => "Invalid character in identifier"
  | .truncatedEscape shape => s!"truncated {shape} escape"
  | .illegalCharacter => "illegal Unicode character"
  | .malformedNamed => "malformed \\N character escape"
  | .unknownNamed => "unknown Unicode character name"
  | .unexpected got => s!"unexpected {Text.quoted got}"
  | .expected wanted got =>
    s!"expected token {Text.quoted wanted}, got {Text.quoted got}"
  | .endedBefore wanted => s!"unexpected end of template, expected {Text.quoted wanted}."
  | .noExpression got => s!"Expected an expression, got {Text.quoted got}"
  | .noTagName => "tag name expected"
  | .unknownTag name blocks =>
    s!"Encountered unknown tag {Text.quoted name}." ++ blockHint (some name) blocks
  | .endedInside blocks => "Unexpected end of template." ++ blockHint none blocks
  | .noNameOrNumber => "expected name or number"
  | .chainedTests => "You cannot chain multiple tests with is"
  | .badCall => "invalid syntax for function call expression"
  | .notAssignable kind => s!"can't assign to {Text.quoted kind}"
  | .loopAssigned => "Can't assign to special loop variable in for-loop target"
  | .unknownFilter name => s!"No filter named {Text.quoted name}."
  | .unknownTest name => s!"No test named {Text.quoted name}."

/-- Why a template text cannot be used: a fault of its grammar on some line, or an integer that is
too long to be read, or too long to be written again. -/
inductive Refusal where
  | grammar (line : Nat) (cause : Cause)
  | longLiteral (digits : Nat)
  | longConstant
  deriving DecidableEq

/-! ## Tokens -/

inductive Token where
  | words (cs : List Char)
  | openPrint
  | closePrint
  | openTag
  | closeTag
  | name (s : String)
  | text (s : String)
  | integer (n : Nat)
  | decimal (x : Binary64)
  | sign (s : Sign)
  | fault (why : Refusal)
  | finish
  deriving DecidableEq, Inhabited

def Token.description : Token → String
  | .words _ => "template data / text"
  | .openPrint => "begin of print statement"
  | .closePrint => "end of print statement"
  | .openTag => "begin of statement block"
  | .closeTag => "end of statement block"
  | .name s => s
  | .text _ => "string"
  | .integer _ => "integer"
  | .decimal _ => "float"
  | .sign s => s.text
  | .fault _ => ""
  | .finish => "end of template"

structure Placed where
  token : Token
  line : Nat
  deriving DecidableEq, Inhabited

end FlexForm.Grammar
