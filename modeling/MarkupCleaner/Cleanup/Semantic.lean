import MarkupCleaner.Tree.Node

/-!
# Semantic tags

A `div` that says what it is, by its role or by one of its class tokens, becomes the element for it.
-/

namespace MarkupCleaner.Cleanup

/-- The element for a role. -/
def roleTag? (role : String) : Option String :=
  match role with
  | "banner" => some "header"
  | "navigation" => some "nav"
  | "main" => some "main"
  | "contentinfo" => some "footer"
  | "complementary" => some "aside"
  | "button" => some "button"
  | _ => none

/-- The element for a class token. -/
def classTag? (token : String) : Option String :=
  match token with
  | "header" => some "header"
  | "footer" => some "footer"
  | "nav" => some "nav"
  | "navigation" => some "nav"
  | "main" => some "main"
  | "section" => some "section"
  | "article" => some "article"
  | "aside" => some "aside"
  | _ => none

/-- The tag and the attributes of an element after the change. A role that decides is dropped; a
    class token that decides, the first one that can, is kept. -/
def semanticForm (tag : String) (attrs : Attributes) : String × Attributes :=
  if tag = "div" then
    match (attrs.get? "role").bind roleTag? with
    | some roleTag => (roleTag, attrs.erase "role")
    | none =>
      match attrs.classTokens.findSome? classTag? with
      | some classTag => (classTag, attrs)
      | none => (tag, attrs)
  else (tag, attrs)

mutual

/-- Gives every element of a subtree its semantic tag. -/
def semanticNode : Node → Node
  | .element tag attrs children ns =>
    .element (semanticForm tag attrs).1 (semanticForm tag attrs).2 (semanticBelow children) ns
  | .text value => .text value
  | .comment data => .comment data

/-- Gives every element of several subtrees its semantic tag. -/
def semanticBelow : List Node → List Node
  | [] => []
  | n :: ns => semanticNode n :: semanticBelow ns

end

/-- Gives every element its semantic tag. -/
def convertSemanticTags (ns : Fragment) : Fragment := semanticBelow ns

theorem semanticBelow_eq_map (ns : List Node) : semanticBelow ns = ns.map semanticNode := by
  induction ns with
  | nil => rfl
  | cons n ns ih => simp [semanticBelow, ih]

end MarkupCleaner.Cleanup
