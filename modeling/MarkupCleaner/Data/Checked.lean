import MarkupCleaner.Data.Value

/-!
# Checking values

A value from outside is checked against what it should describe. A check that fails tells all its
issues, in the order of the parts that were checked, each with its place inside the value.
-/

namespace MarkupCleaner

/-- One step on the way to a part of a value. -/
inductive PlaceStep where
  | field (name : String)
  | index (number : Nat)
deriving DecidableEq, Repr

namespace PlaceStep

/-- The text of a step. -/
def text : PlaceStep → String
  | field name => name
  | index number => toString number

end PlaceStep

/-- What is wrong with a part of a value. -/
inductive Complaint where
  /-- A field that has to be there is not. -/
  | missing
  /-- A truth value that is written in no known way. -/
  | unreadableBool
  | notBool
  | notString
  | notList
  /-- No record; the name of the kind of record that was expected. -/
  | notRecord (name : String)
  /-- A choice that is none of the known ones. -/
  | unknownChoice (choices : List String)
  /-- A text that is none of the known ones. -/
  | unknownWord (words : List String)
  | empty
  | blank
  /-- A text that is no number. -/
  | unreadableNumber
  | notNumber
deriving DecidableEq, Repr

namespace Complaint

/-- An enumeration of words in quotes, the last two with an "or" between them. -/
def oneOf (words : List String) : String :=
  let quotes := words.map fun word => "'" ++ word ++ "'"
  match quotes.reverse with
  | [] => ""
  | [word] => word
  | last :: before => ", ".intercalate before.reverse ++ " or " ++ last

/-- The short name of a complaint. -/
def kind : Complaint → String
  | missing => "missing"
  | unreadableBool => "bool_parsing"
  | notBool => "bool_type"
  | notString => "string_type"
  | notList => "list_type"
  | notRecord _ => "model_type"
  | unknownChoice _ => "enum"
  | unknownWord _ => "literal_error"
  | empty => "string_too_short"
  | blank => "value_error"
  | unreadableNumber => "float_parsing"
  | notNumber => "float_type"

/-- The wording of a complaint. -/
def message : Complaint → String
  | missing => "Field required"
  | unreadableBool => "Input should be a valid boolean, unable to interpret input"
  | notBool => "Input should be a valid boolean"
  | notString => "Input should be a valid string"
  | notList => "Input should be a valid list"
  | notRecord name => "Input should be a valid dictionary or instance of " ++ name
  | unknownChoice choices => "Input should be " ++ oneOf choices
  | unknownWord words => "Input should be " ++ oneOf words
  | empty => "String should have at least 1 character"
  | blank => "Value error, must not be blank"
  | unreadableNumber => "Input should be a valid number, unable to parse string as a number"
  | notNumber => "Input should be a valid number"

end Complaint

/-- A complaint and its place, from the outside to the inside. -/
structure Issue where
  place : List PlaceStep
  complaint : Complaint
deriving DecidableEq, Repr

namespace Issue

/-- The text of the place. -/
def placeText (issue : Issue) : String := ".".intercalate (issue.place.map PlaceStep.text)

/-- The same issue seen from one level further out. -/
def below (step : PlaceStep) (issue : Issue) : Issue := { issue with place := step :: issue.place }

end Issue

/-- The outcome of a check: what the value describes, or all issues. -/
inductive Checked (α : Type) where
  | valid (value : α)
  | invalid (issues : List Issue)
deriving Repr

namespace Checked

variable {α β : Type}

/-- Applies a checked function to a checked value; the issues of the function come first. -/
def apply (f : Checked (α → β)) (x : Checked α) : Checked β :=
  match f, x with
  | valid f, valid x => valid (f x)
  | valid _, invalid issues => invalid issues
  | invalid issues, valid _ => invalid issues
  | invalid issues, invalid more => invalid (issues ++ more)

instance : Applicative Checked where
  pure := valid
  seq f x := apply f (x ())

/-- A single complaint about the value itself. -/
def complain (complaint : Complaint) : Checked α := invalid [⟨[], complaint⟩]

/-- The same outcome seen from one level further out. -/
def below (step : PlaceStep) : Checked α → Checked α
  | valid value => valid value
  | invalid issues => invalid (issues.map (Issue.below step))

/-- Goes on with a second check of the same part if the first one succeeds. -/
def andThen (x : Checked α) (f : α → Checked β) : Checked β :=
  match x with
  | valid value => f value
  | invalid issues => invalid issues

end Checked

namespace Value

variable {α : Type}

/-- The ways to write a truth value, in any case. -/
def boolWords : List (String × Bool) :=
  [("0", false), ("off", false), ("f", false), ("false", false), ("n", false), ("no", false),
   ("1", true), ("on", true), ("t", true), ("true", true), ("y", true), ("yes", true)]

/-- The bound of the whole numbers that are considered as truth values at all. -/
def boolBound : Int := Nat.pow 2 63

/-- The truth value of a whole number: zero or one. -/
def boolOfInt (n : Int) : Checked Bool :=
  if n = 0 then .valid false else if n = 1 then .valid true else .complain .unreadableBool

/-- The truth value that a value describes: itself, zero or one, or one of the words. Other whole
    numbers are unreadable within the bound and no truth values beyond it. -/
def checkBool : Value → Checked Bool
  | .bool b => .valid b
  | .string s =>
    match boolWords.lookup (s.map Char.toLower) with
    | some b => .valid b
    | none => .complain .unreadableBool
  | .int n => if -boolBound ≤ n ∧ n < boolBound then boolOfInt n else .complain .notBool
  | .real d =>
    match d.toInt? with
    | some n => if -boolBound < n ∧ n < boolBound then boolOfInt n else .complain .notBool
    | none => .complain .notBool
  | _ => .complain .notBool

/-- The text that a value is. -/
def checkString : Value → Checked String
  | .string s => .valid s
  | _ => .complain .notString

/-- The text that a value is, or none. -/
def checkText? : Value → Checked (Option String)
  | .null => .valid none
  | v => some <$> v.checkString

/-- The number of seconds, pixels or the like that a value describes. A whole number beyond double
    precision is none. -/
def checkNumber : Value → Checked Number.Double
  | .int n =>
    match Number.Binary64.ofDecimal n.natAbs 0 with
    | .infinite => .complain .notNumber
    | magnitude => .valid (.signed (n < 0) magnitude)
  | .real d => .valid d
  | .bool b => .valid (.signed false (.ofNat b.toNat))
  | .string s =>
    match Number.Double.ofText? s.toList with
    | some d => .valid d
    | none => .complain .unreadableNumber
  | _ => .complain .notNumber

/-- One of the known words. -/
def checkWord (words : List (String × α)) : Value → Checked α
  | .string s =>
    match words.lookup s with
    | some a => .valid a
    | none => .complain (.unknownWord (words.map Prod.fst))
  | _ => .complain (.unknownWord (words.map Prod.fst))

/-- One of the known choices. -/
def checkChoice (choices : List (String × α)) : Value → Checked α
  | .string s =>
    match choices.lookup s with
    | some a => .valid a
    | none => .complain (.unknownChoice (choices.map Prod.fst))
  | _ => .complain (.unknownChoice (choices.map Prod.fst))

/-- Checks items, numbered from `number` on. -/
def checkItems (check : Value → Checked α) (number : Nat) : List Value → Checked (List α)
  | [] => .valid []
  | item :: rest =>
    (List.cons <$> (check item).below (.index number)) <*> checkItems check (number + 1) rest

/-- A list whose items pass a check. -/
def checkList (check : Value → Checked α) : Value → Checked (List α)
  | .array items => checkItems check 0 items
  | _ => .complain .notList

/-- A record whose fields pass a check; `name` is the kind of record that is expected. -/
def checkRecord (name : String) (check : List (String × Value) → Checked α) : Value → Checked α
  | .object fields => check fields
  | _ => .complain (.notRecord name)

/-- A field that has to be there. -/
def required (fields : List (String × Value)) (name : String) (check : Value → Checked α) :
    Checked α :=
  match lookup fields name with
  | none => (Checked.complain .missing).below (.field name)
  | some v => (check v).below (.field name)

/-- A field that may be left out. -/
def optional (fields : List (String × Value)) (name : String) (check : Value → Checked α)
    (default : α) : Checked α :=
  match lookup fields name with
  | none => .valid default
  | some v => (check v).below (.field name)

end Value
end MarkupCleaner
