import FlexForm.Json.Basic

/-! # Complaints about a record

A record that is read from a JSON value may be wrong in several places. Each complaint says what is
wrong, where, and with which value.

* `Issue`, `Issue.message`: what can be wrong, and the words for it.
* `Complaint`: an issue with its place.
* `Checked`: a value, or all complaints that stand in its way; several parts of a record are checked
  together, and their complaints are joined in the order of the parts. A part may also stop the
  reading of the whole record.
-/

namespace FlexForm
set_option autoImplicit false

/-- What is wrong with a part of a record. -/
inductive Issue where
  | missing
  | notText
  | notInteger
  | fractional
  | unreadableInteger
  | oversizedInteger
  | infinite
  | notNumber
  | notBoolean
  | unclearBoolean
  | notList
  | notObject
  /-- Neither an object nor a record of the named kind. -/
  | notRecord (kind : String)
  | notFieldObject
  | notOneOf (choices : List String)
  | noTag (key : String)
  | unknownTag (shown key : String) (known : List String)
  | notTimestamp
  | unreadableTimestamp (why : String)
  | unreadableDate (why : String)
  | tooSmall (least : Int)
  | tooLarge (most : Int)
  | unexpected
  /-- A rule about the value, or about several parts together, is broken. -/
  | rule (why : String)
  deriving DecidableEq, Inhabited

/-- Choices in quotes, the last two joined by `or`. -/
def listChoices : List String → String
  | [] => ""
  | [a] => s!"'{a}'"
  | [a, b] => s!"'{a}' or '{b}'"
  | a :: rest => s!"'{a}', " ++ listChoices rest

def Issue.message : Issue → String
  | .missing => "Field required"
  | .notText => "Input should be a valid string"
  | .notInteger => "Input should be a valid integer"
  | .fractional => "Input should be a valid integer, got a number with a fractional part"
  | .unreadableInteger => "Input should be a valid integer, unable to parse string as an integer"
  | .oversizedInteger => "Unable to parse input string as an integer, exceeded maximum size"
  | .infinite => "Input should be a finite number"
  | .notNumber => "Input should be a valid number"
  | .notBoolean => "Input should be a valid boolean"
  | .unclearBoolean => "Input should be a valid boolean, unable to interpret input"
  | .notList => "Input should be a valid list"
  | .notObject => "Input should be a valid dictionary"
  | .notRecord kind => s!"Input should be a valid dictionary or instance of {kind}"
  | .notFieldObject => "Input should be a valid dictionary or object to extract fields from"
  | .notOneOf choices => "Input should be " ++ listChoices choices
  | .noTag key => s!"Unable to extract tag using discriminator '{key}'"
  | .unknownTag shown key known =>
    s!"Input tag '{shown}' found using '{key}' does not match any of the expected tags: " ++
      ", ".intercalate (known.map fun t => s!"'{t}'")
  | .notTimestamp => "Input should be a valid datetime"
  | .unreadableTimestamp why => s!"Input should be a valid datetime, {why}"
  | .unreadableDate why => s!"Input should be a valid datetime or date, {why}"
  | .tooSmall least => s!"Input should be greater than or equal to {least}"
  | .tooLarge most => s!"Input should be less than or equal to {most}"
  | .unexpected => "Extra inputs are not permitted"
  | .rule why => s!"Value error, {why}"

/-- An issue, the keys that lead to its place, and the value found there. -/
structure Complaint where
  loc : List String
  issue : Issue
  input : Json
  deriving Inhabited

def Complaint.message (c : Complaint) : String := c.issue.message

/-- The complaint seen from one level further out. -/
def Complaint.under (key : String) (c : Complaint) : Complaint := { c with loc := key :: c.loc }

/-- A value, or the complaints that stand in its way. -/
inductive Checked (α : Type) where
  | ok (value : α)
  | refused (complaints : List Complaint)
  /-- The reading stopped, whatever else there is to complain about. -/
  | stopped (why : String)

namespace Checked

variable {α β : Type}

def fail (issue : Issue) (input : Json) : Checked α := .refused [⟨[], issue, input⟩]

/-- Both values, or the complaints about either, the first ones first. -/
def zip : Checked α → Checked β → Checked (α × β)
  | .stopped why, _ => .stopped why
  | .ok _, .stopped why => .stopped why
  | .refused _, .stopped why => .stopped why
  | .ok a, .ok b => .ok (a, b)
  | .ok _, .refused f => .refused f
  | .refused e, .ok _ => .refused e
  | .refused e, .refused f => .refused (e ++ f)

def map (f : α → β) : Checked α → Checked β
  | .ok a => .ok (f a)
  | .refused e => .refused e
  | .stopped why => .stopped why

/-- Goes on with a value about which nothing is complained. -/
def andThen (x : Checked α) (f : α → Checked β) : Checked β :=
  match x with
  | .ok a => f a
  | .refused e => .refused e
  | .stopped why => .stopped why

instance : Applicative Checked where
  pure a := .ok a
  map f x := map f x
  seq f x := map (fun p => p.1 p.2) (zip f (x ()))

/-- The complaints seen from one level further out. -/
def under (key : String) : Checked α → Checked α
  | .ok a => .ok a
  | .refused e => .refused (e.map (Complaint.under key))
  | .stopped why => .stopped why

/-- The values of all parts. -/
def all : List (Checked α) → Checked (List α)
  | [] => .ok []
  | x :: rest => map (fun p => p.1 :: p.2) (zip x (all rest))

@[simp] theorem under_ok (key : String) (a : α) : under key (.ok a) = .ok a := rfl

@[simp] theorem zip_ok (a : α) (b : β) : zip (.ok a) (.ok b) = .ok (a, b) := rfl

@[simp] theorem map_ok (f : α → β) (a : α) : map f (.ok a) = .ok (f a) := rfl

end Checked

end FlexForm
