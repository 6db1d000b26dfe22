import MarkupCleaner.Image.Replace
import MarkupCleaner.Live.Slots

/-!
# Replacing images in place

Images are put into the slots of what they replace, as new nodes. When the size of an icon cannot be
read the walk stops there, and what has been replaced before stays replaced.
-/

namespace MarkupCleaner.Live

/-- Slots that have been gone through, the first free identity, and why the walk has stopped if it
    has. -/
structure ImageWalk where
  slots : List LiveNode
  next : NodeId
  stopped : Option Number.DigitLimit := none

/-- One node that has been gone through. -/
structure ImageStep where
  node : LiveNode
  next : NodeId
  stopped : Option Number.DigitLimit := none

/-- A new image in the slot of what it replaces. -/
def imageIn (holder next : NodeId) (image : Node) : ImageStep :=
  let (node, next) := LiveNode.ofPlain (some holder) next image
  { node, next }

mutual

/-- Goes through a node in a slot of `holder`. An icon is replaced before its slots are gone through,
    an empty box afterwards. -/
def imageStep (options : ImageOptions) (holder next : NodeId) : LiveNode → ImageStep
  | .element link tag attrs children ns =>
    if options.icons && Image.isIcon tag attrs (LiveNode.plainAll children) then
      match Image.iconImage attrs ns with
      | .ok image => imageIn holder next image
      | .error limit =>
        { node := .element link tag attrs children ns, next, stopped := some limit }
    else
      let walk := imageWalk options link.id next children
      let node := LiveNode.element link tag attrs walk.slots ns
      if walk.stopped.isSome then { node, next := walk.next, stopped := walk.stopped }
      else if tag = "div" && Image.allowsImage options attrs
          && !Image.hasContent (LiveNode.plainAll walk.slots) then
        imageIn holder walk.next (Image.boxImage attrs ns (Image.backgroundOf? attrs))
      else { node, next := walk.next }
  | .text link value => { node := .text link value, next }
  | .comment link data => { node := .comment link data, next }

/-- Goes through the slots of `holder`, from the first to the last. -/
def imageWalk (options : ImageOptions) (holder next : NodeId) : List LiveNode → ImageWalk
  | [] => { slots := [], next }
  | n :: ns =>
    let step := imageStep options holder next n
    if step.stopped.isSome then { slots := step.node :: ns, next := step.next, stopped := step.stopped }
    else
      let walk := imageWalk options holder step.next ns
      { walk with slots := step.node :: walk.slots }

end

end MarkupCleaner.Live
