import MarkupCleaner.Number.Double

/-!
# Values

Data as it comes from outside, before it is known to describe anything: the values of the JSON
notation. A number that is written without a fraction and a power of ten is a whole number, however
large; any other has double precision. Infinities and what is no number are values, too.
-/

namespace MarkupCleaner

/-- A value of the JSON notation. -/
inductive Value where
  | null
  | bool (value : Bool)
  | int (value : Int)
  | real (value : Number.Double)
  | string (value : String)
  | array (items : List Value)
  | object (fields : List (String × Value))
deriving Inhabited, Repr

namespace Value

/-- A record without fields. -/
def emptyObject : Value := .object []

/-- The value of a field, the last one of its name. -/
def lookup (fields : List (String × Value)) (name : String) : Option Value :=
  (fields.reverse.find? fun field => field.1 = name).map Prod.snd

end Value
end MarkupCleaner
