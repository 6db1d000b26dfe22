import MarkupCleaner.ClassRules.Rules
import MarkupCleaner.ClassRules.Template
import MarkupCleaner.Log
import MarkupCleaner.Tree.Node

/-!
# Applying class rules

An engine is a set of rules with its patterns compiled. A malformed pattern is logged and left out; a
pattern that breaks a limit of the language stops the construction. The engine removes, renames,
prefixes and finally drops repetitions.
-/

namespace MarkupCleaner

namespace ClassRules

/-- The name at the front, if it is a word that does not start with a digit and a bracket closes it,
    and what follows the bracket. -/
def groupNameEnd? (cs : List Char) : Option (List Char × List Char) :=
  match cs with
  | [] => none
  | c :: rest =>
    if Pattern.isLetter c || c = '_' then
      match rest.dropWhile Unicode.isWord with
      | '>' :: after => some (c :: rest.takeWhile Unicode.isWord, after)
      | _ => none
    else none

/-- Spells named groups the way the pattern language does: `(?<name>` becomes `(?P<name>`. -/
def spellGroups : List Char → List Char
  | [] => []
  | '(' :: '?' :: '<' :: cs =>
    if (groupNameEnd? cs).isSome then '(' :: '?' :: 'P' :: '<' :: spellGroups cs
    else '(' :: '?' :: '<' :: spellGroups cs
  | c :: cs => c :: spellGroups cs

/-- A user's pattern in the form that is compiled: without slashes around it and with named groups
    spelled the way of the pattern language. -/
def normalizePattern (pattern : List Char) : List Char := spellGroups (withoutSlashes pattern)

/-- The warning about a malformed pattern. It quotes the pattern as the user wrote it. -/
def invalidPattern (pattern : String) (reason : String) : Entry :=
  ⟨.warning, "Ignoring invalid class pattern " ++ Text.quoted pattern ++ ": " ++ reason⟩

/-- What compiling a user's pattern comes to. -/
inductive Compiled where
  | valid (p : CompiledPattern)
  | invalid (warning : Entry)
  | refused (fault : Pattern.Fault) (message : String)

/-- Compiles a user's pattern. -/
def compileUser (pattern : String) : Compiled :=
  let normal := normalizePattern pattern.toList
  match Pattern.compile normal with
  | .ok p => .valid p
  | .error (.malformed cause place) =>
    .invalid (invalidPattern pattern ((Pattern.Fault.malformed cause place).message normal))
  | .error fault => .refused fault (fault.message normal)

/-- A rename that is ready to be applied. -/
inductive Rename where
  | literal (source target : String)
  | pattern (p : CompiledPattern) (target : String)
deriving DecidableEq, Repr

/-- Rules that are ready to be applied. -/
structure Engine where
  remove : List String
  removePatterns : List CompiledPattern
  renames : List Rename
  lead : Option String
deriving DecidableEq, Repr

/-- A refusal that stops the construction of an engine. -/
structure Refusal where
  fault : Pattern.Fault
  message : String
deriving DecidableEq, Repr

/-- A computation that logs and can be stopped by a refusal. -/
abbrev Building := ExceptT Refusal (StateM Log)

/-- Compiles a user's pattern, or logs why it is left out. -/
def buildPattern (pattern : String) : Building (Option CompiledPattern) := do
  match compileUser pattern with
  | .valid p => return some p
  | .invalid warning =>
    modify fun log => log ++ [warning]
    return none
  | .refused fault message => throw ⟨fault, message⟩

/-- Compiles patterns in order and leaves out those that are malformed. -/
def buildPatterns : List String → Building (List CompiledPattern)
  | [] => return []
  | pattern :: rest => do
    let first ← buildPattern pattern
    return first.toList ++ (← buildPatterns rest)

/-- Makes a rename ready; one without a source or with a malformed pattern is left out. -/
def buildRename (rule : RenameRule) : Building (Option Rename) := do
  if rule.source = "" then return none
  if !rule.isRegex then return some (.literal rule.source rule.target)
  return (← buildPattern rule.source).map fun p => .pattern p rule.target

/-- Makes renames ready in order. -/
def buildRenames : List RenameRule → Building (List Rename)
  | [] => return []
  | rule :: rest => do
    let first ← buildRename rule
    return first.toList ++ (← buildRenames rest)

/-- Makes rules ready: the patterns for removal first, then the renames. -/
def buildEngine (rules : ClassRules) : Building Engine := do
  let removePatterns ← buildPatterns rules.removeRegex
  let renames ← buildRenames rules.rename
  return { remove := rules.remove, removePatterns, renames, lead := rules.lead }

/-- The engine for some rules, or the refusal, and what was logged. -/
def engine (rules : ClassRules) : Except Refusal Engine × Log := (buildEngine rules).run []

/-- What rules come to. A search that finds a broken group stops everything. -/
abbrev Applied := Except Pattern.BrokenGroup

namespace Engine

/-- Whether a token is removed: it is listed, or a pattern is found in it. -/
def removes (e : Engine) (token : String) : Applied Bool :=
  if e.remove.contains token then return true
  else e.removePatterns.anyM fun p => return (← p.search? token.toList).isSome

end Engine

/-- A token after one rename. A pattern replaces its leftmost match only. -/
def Rename.apply : Rename → String → Applied String
  | literal source target, token => return if token = source then target else token
  | pattern p target, token => do
    match ← p.search? token.toList with
    | none => return token
    | some m => return .ofList (m.before ++ expand p m target.toList ++ m.after)

namespace Engine

/-- A token after all renames, each applied to what the ones before have left. -/
def rename (e : Engine) (token : String) : Applied String :=
  e.renames.foldlM (fun current r => r.apply current) token

/-- The tokens that are not removed. -/
def keep (e : Engine) : List String → Applied (List String)
  | [] => return []
  | token :: rest => do
    let isRemoved ← e.removes token
    let kept ← e.keep rest
    return if isRemoved then kept else token :: kept

/-- A token with the lead in front of it. -/
def withLead (e : Engine) (token : String) : String := e.lead.getD "" ++ token

/-- Tokens after all rules. -/
def apply (e : Engine) (tokens : List String) : Applied (List String) := do
  let kept ← e.keep tokens
  let renamed ← kept.mapM e.rename
  return Attributes.distinctTokens (renamed.map e.withLead)

/-- The attributes of an element after all rules; one without class tokens keeps what it has. -/
def applyToAttributes (e : Engine) (attrs : Attributes) : Applied Attributes :=
  let tokens := attrs.classTokens
  if tokens.isEmpty then return attrs else return attrs.setClassTokens (← e.apply tokens)

mutual

/-- A subtree after all rules. -/
def applyToNode (e : Engine) : Node → Applied Node
  | .element tag attrs children ns => do
    let attrs ← e.applyToAttributes attrs
    return .element tag attrs (← applyBelow e children) ns
  | .text value => return .text value
  | .comment data => return .comment data

/-- Several subtrees after all rules. -/
def applyBelow (e : Engine) : List Node → Applied (List Node)
  | [] => return []
  | n :: ns => return (← applyToNode e n) :: (← applyBelow e ns)

end

end Engine
end ClassRules
end MarkupCleaner
