import FlexForm.Link.Domain

/-! # Links

Absolute links, as far as their validity and their scheme go. White space around a link is ignored,
and so are tabs and line ends inside it; a back slash counts as a slash where a host comes.

* `Link.splitScheme?`: the scheme, in lower case, and the text behind its colon.
* `Link.scheme?`: the scheme of a valid link.
* `Link.isSecure`: whether a value is a valid link with the scheme `https`.
-/

namespace FlexForm.Link
set_option autoImplicit false

/-- The families of schemes, which differ in what comes behind the colon. -/
inductive Family where
  | file
  /-- A host is needed, however many slashes stand before it. -/
  | web
  /-- A host comes after two slashes only, and may be empty. -/
  | other
  deriving DecidableEq

def Family.of (scheme : String) : Family :=
  if scheme == "file" then .file
  else if ["http", "https", "ws", "wss", "ftp"].contains scheme then .web
  else .other

/-- The text without what is ignored: controls and blanks at its ends, tabs and line ends. -/
def clean (s : List Char) : List Char :=
  let low (c : Char) : Bool := c.toNat ≤ 32
  let s := ((s.dropWhile low).reverse.dropWhile low).reverse
  s.filter fun c => c != '\t' && c != '\n' && c != '\r'

def isSchemeChar (c : Char) : Bool := c.isAlphanum || c == '+' || c == '-' || c == '.'

/-- The scheme, in lower case, and what follows its colon. -/
def splitScheme? (s : List Char) : Option (String × List Char) :=
  match s with
  | [] => none
  | c :: _ =>
    if !c.isAlpha then none
    else match s.dropWhile isSchemeChar with
      | ':' :: rest => some (String.ofList ((s.takeWhile isSchemeChar).map Char.toLower), rest)
      | _ => none

/-- Whether a character ends the part of a link that holds the host. -/
def endsHost (family : Family) (c : Char) : Bool :=
  c == '/' || c == '?' || c == '#' || (family != .other && c == '\\')

/-- What comes after the last at sign, if there is one. -/
def afterUser? (authority : List Char) : Option (List Char) :=
  if authority.contains '@' then some ((authority.reverse.takeWhile (· != '@')).reverse) else none

/-- The host and what follows it; a colon inside brackets belongs to the host. -/
def splitHost (inside : Bool) : List Char → List Char × List Char
  | [] => ([], [])
  | c :: rest =>
    if c == ':' && !inside then ([], c :: rest)
    else
      let (host, after) := splitHost (if c == '[' then true else if c == ']' then false else inside)
        rest
      (c :: host, after)

def isServiceNumber (s : List Char) : Bool :=
  match s with
  | [] => true
  | ':' :: digits =>
    let digits := digits.takeWhile (· != '\\')
    let number := digits.foldl (fun n c => min (n * 10 + (c.toNat - 48)) 65536) 0
    digits.all Char.isDigit && number ≤ 65535
  | _ => false

/-- Signs that the host of a link outside the families with known hosts must not hold. -/
def isOpaqueHost (host : List Char) : Bool :=
  match host with
  | '[' :: rest => rest.getLast? == some ']' && isAddress6 rest.dropLast
  | _ => host.all fun c =>
    !([' ', '#', '/', ':', '<', '>', '?', '@', '[', '\\', ']', '^', '|'].contains c) &&
      c.toNat != 0

/-- Whether user, host and service number are valid. The text goes up to the end of the link. -/
def isAuthority (family : Family) (s : List Char) : Bool :=
  let authority := s.takeWhile fun c => !endsHost family c
  let more := !(s.dropWhile fun c => !endsHost family c).isEmpty
  let place := (afterUser? authority).getD authority
  let (host, service) := splitHost false place
  let emptyUser := authority == ['@'] && more
  !emptyUser && isServiceNumber service &&
    match family with
    | .other => isOpaqueHost host && (!host.isEmpty || service.isEmpty)
    | _ => !host.isEmpty && isHost host

def isSlash (c : Char) : Bool := c == '/' || c == '\\'

/-- A drive letter and its colon. -/
def isDrive (host : List Char) : Bool :=
  match host with
  | [c, d] => c.isAlpha && (d == ':' || d == '|')
  | _ => false

def isRest (family : Family) (s : List Char) : Bool :=
  match family with
  | .web => isAuthority .web (s.dropWhile isSlash)
  | .other =>
    match s with
    | '/' :: '/' :: rest => isAuthority .other rest
    | _ => true
  | .file =>
    match s with
    | a :: b :: rest =>
      if isSlash a && isSlash b then
        let host := rest.takeWhile fun c => !endsHost .file c
        host.isEmpty || isDrive host || isHost host
      else true
    | _ => true

/-- The scheme of a text that is a valid link, in lower case. -/
def scheme? (source : String) : Option String := do
  let (scheme, rest) ← splitScheme? (clean source.toList)
  if isRest (Family.of scheme) rest then some scheme else none

/-- The scheme that links need when they have to be secure. -/
def secureScheme : String := "https"

/-- Whether the value is a text and a valid secure link. -/
def isSecure : Json → Bool
  | .str s => scheme? s == some secureScheme
  | _ => false

end FlexForm.Link
