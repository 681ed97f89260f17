import FlexForm.Json.Reader
import FlexForm.Link.Basic
import FlexForm.Path.Access
import FlexForm.Problem
import FlexForm.Schema.Basic

/-! # Checking form data

Form data is checked against a schema, field by field. The problems come in the order of the
sections and fields; those of the items of a list follow those of the list itself.

* `isColor`: the texts that name a colour.
* `Constraints.textFlaws`, `Constraints.countFlaws`: the limits of lengths and counts.
* `Field.flaws`: what is wrong with one value, its items apart.
* `Field.check`, `Section.check`, `FormSchema.check`: all problems.
-/

namespace FlexForm
set_option autoImplicit false

/-! ## Single values -/

def isHexDigit (c : Char) : Bool :=
  c.isDigit || ('a' ≤ c && c ≤ 'f') || ('A' ≤ c && c ≤ 'F')

/-- A number sign and six or eight hexadecimal digits; one line end may follow. -/
def isColor (s : String) : Bool :=
  let cs := s.toList
  let line := if cs.getLast? == some '\n' then cs.dropLast else cs
  match line with
  | '#' :: digits => (digits.length == 6 || digits.length == 8) && digits.all isHexDigit
  | _ => false

/-- A limit that is set; zero counts as none. -/
def activeLimit? (limit : Option Int) : Option Int := limit.filter (· != 0)

def Constraints.textFlaws (c : Constraints) (label s : String) : List Flaw :=
  let count := s.length
  let long := match activeLimit? c.maxLength with
    | some n => if n < count then [.tooLong label n count] else []
    | none => []
  let short := match activeLimit? c.minLength with
    | some n => if (count : Int) < n then [.tooShort label n] else []
    | none => []
  long ++ short

def Constraints.countFlaws (c : Constraints) (label : String) (count : Nat) : List Flaw :=
  let few := match c.minItems with
    | some n => if (count : Int) < n then [.tooFew label n] else []
    | none => []
  let many := match c.maxItems with
    | some n => if n < count then [.tooMany label n count] else []
    | none => []
  few ++ many

def colorFlaws (label : String) : Json → List Flaw
  | .str s => if isColor s then [] else [.notColor label]
  | _ => [.notColor label]

def jsonFlaws (label : String) : Json → List Flaw
  | .str s =>
    match Json.readChars true s.toList with
    | .ok _ => []
    | .error _ => [.notJson label]
  | v => if v.isContainer then [] else [.notJsonObject label]

def linkFlaws (label : String) (secure : Bool) (v : Json) : List Flaw :=
  let scheme := match v with
    | .str s => Link.scheme? s
    | _ => none
  match scheme with
  | none => [.notLink label]
  | some scheme => if secure && scheme != Link.secureScheme then [.notSecure label] else []

def patternFlaws (label : String) (pattern : Option Regex) : Json → List Flaw
  | .str s =>
    match pattern with
    | some r => if r.source == "" || r.occursIn s then [] else [.noMatch label]
    | none => []
  | _ => []

/-- What is wrong with a value that is there, apart from the items of a list. -/
def Field.flaws (f : Field) (v : Json) : List Flaw :=
  let label := f.label
  let c := f.constraints
  let colors := match f with
    | .plain _ .color => colorFlaws label v
    | _ => []
  let jsons := match f with
    | .plain _ .json => jsonFlaws label v
    | _ => []
  let lengths := match v with
    | .str s => c.textFlaws label s
    | _ => []
  let links := match f with
    | .plain _ .url | .plain _ .imageUrl => linkFlaws label c.httpsOnly v
    | _ => []
  let patterns := patternFlaws label c.pattern v
  let counts := match f, v with
    | .repeatable .., .arr items => c.countFlaws label items.length
    | .repeatable .., _ => [.notList label]
    | _, _ => []
  colors ++ jsons ++ lengths ++ links ++ patterns ++ counts

/-! ## Fields -/

/-- Whether a field must have a value; its condition looks at the object around it. -/
def Field.isRequired (f : Field) (value : Option Json) (scope : Json) : Except PathFault Bool :=
  if f.info.required then .ok (Json.isEmpty value)
  else
    match f.constraints.requiredIf, scope with
    | some condition, .obj fields => do
      match ← (Json.obj fields).at? condition.path with
      | some sibling => pure (sibling.strictEquals condition.value && Json.isEmpty value)
      | none => pure false
    | _, _ => .ok false

/-- The problems of a field, those of its items as `inside` gives them. -/
def Field.checkWith (f : Field) (value : Option Json) (path : String) (scope : Json)
    (inside : List Json → Except PathFault (List Problem)) : Except PathFault (List Problem) := do
  let problem (flaw : Flaw) : Problem := ⟨path, flaw, some f.key⟩
  if ← f.isRequired value scope then return [problem (.required f.label)]
  match value with
  | none => pure []
  | some v =>
    if Json.isEmpty (some v) then return []
    let own := (f.flaws v).map problem
    match v with
    | .arr items => do
      let others ← inside items
      pure (own ++ others)
    | _ => pure own

def Field.checkItems (checkItem : Json → String → Except PathFault (List Problem)) (path : String)
    (index : Nat) : List Json → Except PathFault (List Problem)
  | [] => .ok []
  | item :: rest => do
    let first ← checkItem item s!"{path}[{index}]"
    let others ← Field.checkItems checkItem path (index + 1) rest
    pure (first ++ others)

mutual

/-- The problems of a field. The value is missing, or was found at the path. -/
def Field.check : Field → Option Json → String → Json → Except PathFault (List Problem)
  | .plain info type, value, path, scope =>
    checkWith (.plain info type) value path scope fun _ => .ok []
  | .select info options, value, path, scope =>
    checkWith (.select info options) value path scope fun _ => .ok []
  | .repeatable info title fields, value, path, scope =>
    checkWith (.repeatable info title fields) value path scope fun items =>
      Field.checkItems (Field.checkAll fields) path 0 items

def Field.checkAll : List Field → Json → String → Except PathFault (List Problem)
  | [], _, _ => .ok []
  | f :: rest, item, path => do
    let value ← item.at? f.key
    let first ← Field.check f value s!"{path}.{f.key}" item
    let others ← Field.checkAll rest item path
    pure (first ++ others)

end

/-! ## Sections -/

def Section.check (s : Section) (data : Json) : Except PathFault (List Problem) :=
  match s.body with
  | .plain _ fields => do
    let perField ← fields.mapM fun f => do
      let value ← data.at? f.key
      f.check value f.key data
    pure perField.flatten
  | .repeatable key item => do
    let problem (flaw : Flaw) : Problem := ⟨key, flaw, some key⟩
    match ← data.at? key with
    | some (.arr items) => do
      let own := (s.constraints.countFlaws s.label items.length).map problem
      let others ← Field.checkItems (Field.checkAll item.fields) key 0 items
      pure (own ++ others)
    | _ =>
      match s.constraints.minItems with
      | some n => pure (if n > 0 then [problem (.tooFew s.label n)] else [])
      | none => pure []

def FormSchema.check (schema : FormSchema) (data : Json) : Except PathFault (List Problem) := do
  let perSection ← schema.sections.mapM (·.check data)
  pure perSection.flatten

end FlexForm
