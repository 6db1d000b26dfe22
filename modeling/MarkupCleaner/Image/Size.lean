import MarkupCleaner.Number.Shortest
import MarkupCleaner.Number.Whole
import MarkupCleaner.Text.Split

/-!
# Icon sizes

The size of an icon from its class tokens. Per axis the first token that tells a size decides: a
number of pixels in brackets, or a step of the spacing scale. Reading the number of a step can fail,
because whole numbers have a limit.
-/

namespace MarkupCleaner.Image

/-- An axis of an image. -/
inductive Axis where
  | width
  | height
deriving DecidableEq, Repr

/-- How the size tokens of an axis start. -/
def Axis.lead : Axis → List Char
  | width => ['w', '-']
  | height => ['h', '-']

/-- A length in pixels. -/
abbrev Length := Number.Binary64

/-- The length of an axis for which no token tells one. -/
def defaultLength : Length := .ofNat 16

/-- The length of a step of the spacing scale; only the steps that icons use have one. -/
def scaleLength? (step : Nat) : Option Length :=
  match step with
  | 2 => some (.ofNat 8)
  | 3 => some (.ofNat 12)
  | 4 => some (.ofNat 16)
  | 5 => some (.ofNat 20)
  | 6 => some (.ofNat 24)
  | 8 => some (.ofNat 32)
  | 10 => some (.ofNat 40)
  | 12 => some (.ofNat 48)
  | _ => none

/-- The length between brackets: decimal digits, perhaps with a fraction, and the unit. -/
def bracketLength? (cs : List Char) : Option Length :=
  match cs with
  | '[' :: rest =>
    let whole := rest.takeWhile Unicode.isDecimal
    let afterWhole := rest.dropWhile Unicode.isDecimal
    let unit := ['p', 'x', ']']
    if whole.isEmpty then none
    else if afterWhole = unit then some (.ofDecimal (Number.digitsValue whole) 0)
    else
      match afterWhole with
      | '.' :: tail =>
        let fraction := tail.takeWhile Unicode.isDecimal
        if fraction.isEmpty || tail.dropWhile Unicode.isDecimal ≠ unit then none
        else some (.ofDecimal (Number.digitsValue (whole ++ fraction)) (-(fraction.length : Int)))
      | _ => none
  | _ => none

/-- Whether a text is the number of a step. -/
def isStep (cs : List Char) : Bool := !cs.isEmpty && cs.all Unicode.isDecimal

/-- What a token tells about an axis: nothing, or a length. -/
def tokenLength (axis : Axis) (token : String) : Except Number.DigitLimit (Option Length) :=
  match Text.after? axis.lead token.toList with
  | none => .ok none
  | some rest =>
    match bracketLength? rest with
    | some length => .ok (some length)
    | none => if isStep rest then scaleLength? <$> Number.whole rest else .ok none

/-- The lengths known so far, width before height. -/
structure Extent where
  width : Option Length := none
  height : Option Length := none

/-- The lengths known after one more token: each axis that has none yet looks at it. -/
def Extent.look (e : Extent) (token : String) : Except Number.DigitLimit Extent := do
  let width ← if e.width.isSome then pure e.width else tokenLength .width token
  let height ← if e.height.isSome then pure e.height else tokenLength .height token
  return ⟨width, height⟩

/-- Looks at tokens until both lengths are known. -/
def Extent.lookAll (e : Extent) : List String → Except Number.DigitLimit Extent
  | [] => .ok e
  | token :: rest => do
    let e ← e.look token
    if e.width.isSome && e.height.isSome then return e else e.lookAll rest

/-- The width and the height that class tokens tell. -/
def iconSize (tokens : List String) : Except Number.DigitLimit (Length × Length) := do
  let e ← Extent.lookAll {} tokens
  return (e.width.getD defaultLength, e.height.getD defaultLength)

end MarkupCleaner.Image
