import MarkupCleaner.Image.Size
import MarkupCleaner.Tree.Node
import MarkupCleaner.Unicode.Caseless

/-!
# Detecting images

The three ways in which design tools write an image without an image element: an icon put together
from coloured boxes, an empty box with a background image, and an empty box with a role or a label.
-/

namespace MarkupCleaner.Image

/-- The attribute that marks an icon. -/
def iconMarker : String := "data-crypto"

/-- Whether some token starts this way. -/
def someStarts (tokens : List String) (lead : List Char) : Bool :=
  tokens.any fun token => lead.isPrefixOf token.toList

/-- Whether an attribute has a value that is not empty. -/
def hasValue (attrs : Attributes) (name : String) : Bool :=
  match attrs.get? name with
  | some value => value ≠ ""
  | none => false

/-- Whether a node is a box of an icon; only a `div` can be one. -/
def isBox : Node → Bool
  | .element tag _ _ _ => tag = "div"
  | _ => false

/-- Whether a box is placed absolutely, coloured, sized and positioned. -/
def isPlacedBox : Node → Bool
  | .element _ attrs _ _ =>
    let tokens := attrs.classTokens
    tokens.contains "absolute" && someStarts tokens "bg-".toList && someStarts tokens "w-".toList
      && someStarts tokens "h-".toList && someStarts tokens "left-".toList
      && someStarts tokens "top-".toList
  | _ => false

/-- Whether an element is an icon: a marked, sized, relatively positioned `div` that holds at least
    two boxes, all of them placed. -/
def isIcon (tag : String) (attrs : Attributes) (children : List Node) : Bool :=
  let tokens := attrs.classTokens
  let boxes := children.filter isBox
  tag = "div" && hasValue attrs iconMarker && someStarts tokens "w-".toList
    && someStarts tokens "h-".toList && tokens.contains "relative" && 2 ≤ boxes.length
    && boxes.all isPlacedBox

/-- A character of an address in a style. -/
def isAddressChar (c : Char) : Bool := !(c = '\'' || c = '"' || c = ')')

/-- The address in `url(…)` right here, with or without quotes around it. -/
def addressHere? (cs : List Char) : Option (List Char) := do
  let rest ← Unicode.afterCaseless? "url(".toList cs
  let (quote, rest) :=
    match rest with
    | '\'' :: rest => (['\''], rest)
    | '"' :: rest => (['"'], rest)
    | rest => ([], rest)
  let address := rest.takeWhile isAddressChar
  if address.isEmpty then none
  else
    let ending ← Text.after? quote (rest.dropWhile isAddressChar)
    if ending.head? = some ')' then some address else none

/-- The first address in a style. -/
def addressIn? : List Char → Option (List Char)
  | [] => none
  | c :: cs =>
    match addressHere? (c :: cs) with
    | some address => some address
    | none => addressIn? cs

/-- The address of the background image of a style. -/
def backgroundUrl? (style : String) : Option String := (addressIn? style.toList).map String.ofList

/-- Whether the attributes of an element declare it an image: by its role, or by a label. -/
def hasImageRole (attrs : Attributes) : Bool :=
  attrs.get? "role" = some "img" || hasValue attrs "aria-label" || hasValue attrs "aria-labelledby"

/-- Whether there is content: an element, or text that is not blank. Comments are none. -/
def hasContent (children : List Node) : Bool := children.any fun n => n.isElement || n.isWritten

end MarkupCleaner.Image
