import MarkupCleaner.Image.Detect

/-!
# Replacing images

Image elements in place of what was detected. An icon is looked for before its content is, because a
match replaces the whole subtree; the other two are looked for afterwards and apply to empty boxes
only.
-/

namespace MarkupCleaner

/-- Which detectors are used. -/
structure ImageOptions where
  icons : Bool := true
  backgrounds : Bool := true
  roles : Bool := true
deriving DecidableEq, Repr

namespace Image

/-- Whether a token tells a size. -/
def isSizeToken (token : String) : Bool :=
  "w-".toList.isPrefixOf token.toList || "h-".toList.isPrefixOf token.toList

/-- The attributes of the image in place of an icon: the marker, the size tokens, the size, and an
    empty description. -/
def iconAttributes (attrs : Attributes) : Except Number.DigitLimit Attributes := do
  let tokens := attrs.classTokens
  let (width, height) ← iconSize tokens
  let marker := (attrs.get? iconMarker).toList.map fun value => ⟨iconMarker, value⟩
  let sizes := tokens.filter isSizeToken
  let classes := if sizes.isEmpty then [] else [⟨"class", " ".intercalate sizes⟩]
  return marker ++ classes ++
    [⟨"width", .ofList width.lengthText⟩, ⟨"height", .ofList height.lengthText⟩, ⟨"alt", ""⟩]

/-- The image in place of an icon. -/
def iconImage (attrs : Attributes) (ns : Option String) : Except Number.DigitLimit Node := do
  return .element "img" (← iconAttributes attrs) [] ns

/-- The attributes of the image in place of an empty box: its class tokens, its data attributes, the
    address, the label as the description, and its style. -/
def boxAttributes (attrs : Attributes) (source : Option String) : Attributes :=
  let tokens := attrs.classTokens
  let classes := if tokens.isEmpty then [] else [⟨"class", " ".intercalate tokens⟩]
  let data := attrs.filter fun a => "data-".toList.isPrefixOf a.name.toList
  let address := (source.filter (· ≠ "")).toList.map fun value => ⟨"src", value⟩
  let style := ((attrs.get? "style").filter (· ≠ "")).toList.map fun value => ⟨"style", value⟩
  classes ++ data ++ address ++ [⟨"alt", (attrs.get? "aria-label").getD ""⟩] ++ style

/-- The image in place of an empty box. -/
def boxImage (attrs : Attributes) (ns : Option String) (source : Option String) : Node :=
  .element "img" (boxAttributes attrs source) [] ns

/-- The background address that an element's style has. -/
def backgroundOf? (attrs : Attributes) : Option String :=
  backgroundUrl? ((attrs.get? "style").getD "")

/-- Whether an empty box with these attributes counts as an image. -/
def allowsImage (options : ImageOptions) (attrs : Attributes) : Bool :=
  (options.backgrounds && (backgroundOf? attrs).isSome) || (options.roles && hasImageRole attrs)

mutual

/-- Replaces the images of a subtree. -/
def replaceNode (options : ImageOptions) : Node → Except Number.DigitLimit Node
  | .element tag attrs children ns =>
    if options.icons && isIcon tag attrs children then iconImage attrs ns
    else do
      let replaced ← replaceBelow options children
      if tag = "div" && allowsImage options attrs && !hasContent children then
        return boxImage attrs ns (backgroundOf? attrs)
      else return .element tag attrs replaced ns
  | .text value => .ok (.text value)
  | .comment data => .ok (.comment data)

/-- Replaces the images of several subtrees, from the first to the last. -/
def replaceBelow (options : ImageOptions) : List Node → Except Number.DigitLimit (List Node)
  | [] => .ok []
  | n :: ns => do
    let first ← replaceNode options n
    let rest ← replaceBelow options ns
    return first :: rest

end
end Image

/-- Replaces all images of a tree. -/
def replaceImages (options : ImageOptions) (ns : Fragment) : Except Number.DigitLimit Fragment :=
  Image.replaceBelow options ns

end MarkupCleaner
