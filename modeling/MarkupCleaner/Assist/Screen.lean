import MarkupCleaner.Assist.Request
import MarkupCleaner.Text.Split
import MarkupCleaner.Unicode.Caseless

/-!
# Screening replies

Code that a model returns is accepted only if it is there at all, stands alone, and carries nothing
that a browser would run: no script, no event handler, no address that is a script.
-/

namespace MarkupCleaner.Assist

/-- Why a reply is rejected. -/
inductive Unsafe where
  | empty
  | fenced
  | script
  | eventHandler
  | scriptAddress
deriving DecidableEq, Repr

/-- The wording of a rejection. -/
def Unsafe.message : Unsafe → String
  | empty => "AI returned empty output."
  | fenced => "AI output must not include markdown fences."
  | script => "AI output contains scripts."
  | eventHandler => "AI output contains event handlers."
  | scriptAddress => "AI output contains javascript: URLs."

/-- Whether `holds` is true of the text from some place on. -/
def somewhere (holds : List Char → Bool) : List Char → Bool
  | [] => holds []
  | c :: cs => holds (c :: cs) || somewhere holds cs

/-- Whether a text starts with an event handler: `on`, at least one lower-case letter, perhaps white
    space, and an equals sign. -/
def isEventHandler (cs : List Char) : Bool :=
  match cs with
  | 'o' :: 'n' :: rest =>
    let isLower := fun (c : Char) => 'a' ≤ c && c ≤ 'z'
    let name := rest.takeWhile isLower
    !name.isEmpty && ((rest.dropWhile isLower).dropWhile Text.isBlankChar).head? = some '='
  | _ => false

/-- The first reason to reject code, if there is one. -/
def unsafe? (code : List Char) : Option Unsafe :=
  if code.isEmpty then some .empty
  else if somewhere (fun cs => ['`', '`', '`'].isPrefixOf cs) code then some .fenced
  else if somewhere (fun cs => (Unicode.afterCaseless? "<script".toList cs).isSome) code then
    some .script
  else if somewhere isEventHandler code then some .eventHandler
  else if somewhere (fun cs => (Unicode.afterCaseless? "javascript:".toList cs).isSome) code then
    some .scriptAddress
  else none

/-- Accepts code or tells why it is rejected. -/
def screen (code : String) : Except Unsafe Unit :=
  match unsafe? code.toList with
  | some reason => .error reason
  | none => .ok ()

/-- The code of a reply: the reply without the white space around it, if it is accepted. -/
def accept (reply : String) : Except Unsafe String := do
  let code := Text.stripped reply
  screen code
  return code

end MarkupCleaner.Assist
