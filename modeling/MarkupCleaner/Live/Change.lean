import MarkupCleaner.Live.Classes
import MarkupCleaner.Live.Images
import MarkupCleaner.Live.Links
import MarkupCleaner.Live.Passes
import MarkupCleaner.Log

/-!
# Changes to a live document

What can be done to a part of a document, and what becomes of the document. A change that fails leaves
what it had done before it failed.
-/

namespace MarkupCleaner.Live

/-- A change to a part of a document. -/
inductive Change where
  | pass (pass : Cleanup.Pass)
  | cleanup (options : CleanupOptions)
  | images (options : ImageOptions)
  | classRules (rules : ClassRules)
  | setAttribute (name value : String)
  | removeAttribute (name : String)
  | setClassTokens (tokens : List String)
  | append (child : Node)
  | replace (index : Int) (child : Node)
  /-- Puts the child of a slot into that slot. -/
  | replaceSame (index : Int)
  | remove (index : Int)
deriving DecidableEq, Repr

/-- Why a change fails. -/
inductive ChangeFault where
  /-- There is no slot of this index, or no part at the path. -/
  | noSuchSlot
  | tooManyDigits (limit : Number.DigitLimit)
  | refusedPattern (refusal : ClassRules.Refusal)
  | brokenGroup (fault : Pattern.BrokenGroup)
deriving DecidableEq, Repr

/-- What a change comes to below a holder: its children, the first free identity, the node that has
    left its slot, what was logged, and why it failed if it did. -/
structure Effect where
  children : List LiveNode
  next : NodeId
  left : Option LiveNode := none
  log : Log := []
  fault : Option ChangeFault := none

/-- What acting on the child at an index comes to. Without such a slot nothing is done, and that is the
    fault. -/
def atSlot (children : List LiveNode) (next : NodeId) (index : Int)
    (act : Nat → LiveNode → Effect) : Effect :=
  match slot? children.length index with
  | none => { children, next, fault := some .noSuchSlot }
  | some place =>
    match children[place]? with
    | none => { children, next, fault := some .noSuchSlot }
    | some child => act place child

namespace Change

/-- What a change does to the attributes of the part it is made to. -/
def onAttributes : Change → Attributes → Attributes
  | setAttribute name value => fun attrs => attrs.set name value
  | removeAttribute name => fun attrs => attrs.erase name
  | setClassTokens tokens => fun attrs => attrs.setClassTokens tokens
  | _ => fun attrs => attrs

/-- What a change does to the children of the part it is made to. -/
def onChildren (holder next : NodeId) (children : List LiveNode) : Change → Effect
  | pass p => { children := applyPass holder p children, next }
  | cleanup options =>
    { children := Live.cleanup options holder children, next
      log := (Cleanup.enabledPasses options).map Cleanup.Pass.entry }
  | images options =>
    let walk := imageWalk options holder next children
    { children := walk.slots, next := walk.next, fault := walk.stopped.map .tooManyDigits }
  | classRules rules =>
    let (engine, log) := ClassRules.engine rules
    match engine with
    | .ok engine =>
      let (children, stopped) := classWalk engine children
      { children, next, log, fault := stopped.map .brokenGroup }
    | .error refusal => { children, next, log, fault := some (.refusedPattern refusal) }
  | append child =>
    let (child, next) := LiveNode.ofPlain none next child
    { children := Live.append holder children child, next }
  | replace index child =>
    atSlot children next index fun place _ =>
      let (child, next) := LiveNode.ofPlain none next child
      let (children, left) := Live.replace holder children place child
      { children, next, left }
  | replaceSame index =>
    atSlot children next index fun place child =>
      let (children, left) := Live.replace holder children place child
      { children, next, left }
  | remove index =>
    atSlot children next index fun place _ =>
      let (children, left) := Live.remove children place
      { children, next, left }
  | _ => { children, next }

end Change

/-- What becomes of a document: the document afterwards, the node that has left its slot, what was
    logged, and why the change failed if it did. -/
structure Changed where
  document : LiveDocument
  left : Option LiveNode := none
  log : Log := []
  fault : Option ChangeFault := none

/-- A document with other children, after a change below it. -/
def Effect.close (effect : Effect) (document : LiveDocument) : Changed :=
  { document := { document with next := effect.next }
    left := effect.left
    log := effect.log
    fault := effect.fault }

/-- Makes a change to the part at a path. -/
def change (d : LiveDocument) (path : Path) (c : Change) : Changed :=
  match d.find? path with
  | none => { document := d, fault := some .noSuchSlot }
  | some (.document _) =>
    let effect := c.onChildren d.id d.next d.children
    effect.close { d with children := effect.children }
  | some (.node n) =>
    let effect := c.onChildren n.id d.next n.children
    let edit := fun (n : LiveNode) =>
      (n.mapAttributes c.onAttributes).withChildren effect.children
    effect.close { d with children := LiveNode.modifyAt edit d.children path }

/-- Makes changes one after the other and gives the document at the end. A change that fails does not
    stop the ones after it. -/
def changeAll (d : LiveDocument) (changes : List (Path × Change)) : LiveDocument :=
  changes.foldl (fun d (path, c) => (change d path c).document) d

end MarkupCleaner.Live
