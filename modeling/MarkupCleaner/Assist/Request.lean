import MarkupCleaner.Data.Checked
import MarkupCleaner.Number.Shortest
import MarkupCleaner.Text.Blank

/-!
# Requests to an assistant

A request to have code transformed by a chat model: what it consists of, how it is checked, and the
messages that are sent.
-/

namespace MarkupCleaner.Assist

/-- Who runs the model. -/
inductive Provider where
  | ollama
  | groq
  | xai
  | openai
  | anthropic
deriving DecidableEq, Repr

/-- The providers by name. -/
def Provider.byName : List (String × Provider) :=
  [("ollama", .ollama), ("groq", .groq), ("xai", .xai), ("openai", .openai),
   ("anthropic", .anthropic)]

/-- What the code is transformed into. -/
inductive Goal where
  | cleanHtml
  | reactComponent
deriving DecidableEq, Repr

/-- The name of a goal. -/
def Goal.name : Goal → String
  | cleanHtml => "clean-html"
  | reactComponent => "react-tsx"

/-- The goals by name. -/
def Goal.byName : List (String × Goal) :=
  [Goal.cleanHtml, .reactComponent].map fun goal => (goal.name, goal)

/-- How freely the model may change the code. -/
inductive Aggressiveness where
  | conservative
  | balanced
  | aggressive
deriving DecidableEq, Repr

/-- The name of a degree of freedom. -/
def Aggressiveness.name : Aggressiveness → String
  | conservative => "conservative"
  | balanced => "balanced"
  | aggressive => "aggressive"

/-- The degrees of freedom by name. -/
def Aggressiveness.byName : List (String × Aggressiveness) :=
  [Aggressiveness.conservative, .balanced, .aggressive].map fun a => (a.name, a)

/-- The temperature of the model, in tenths. -/
def Aggressiveness.temperature : Aggressiveness → Number.Decimal
  | conservative => ⟨1, -1⟩
  | balanced => ⟨3, -1⟩
  | aggressive => ⟨6, -1⟩

/-- A request. -/
structure Request where
  provider : Provider
  model : String
  goal : Goal
  aggressiveness : Aggressiveness
  code : String
  extraRules : Option String := none
deriving DecidableEq, Repr

/-- A text that is not blank. -/
def checkWritten (v : Value) : Checked String :=
  v.checkString.andThen fun s => if Text.isBlank s then .complain .blank else .valid s

/-- The name of a model: not empty, and not blank either. -/
def checkModel (v : Value) : Checked String :=
  v.checkString.andThen fun s =>
    if s = "" then .complain .empty
    else if Text.isBlank s then .complain .blank
    else .valid s

/-- A request as it comes from outside. -/
def Request.check : Value → Checked Request :=
  Value.checkRecord "AssistRequest" fun fields =>
    Request.mk
      <$> Value.required fields "provider" (Value.checkWord Provider.byName)
      <*> Value.required fields "model" checkModel
      <*> Value.required fields "goal" (Value.checkWord Goal.byName)
      <*> Value.required fields "aggressiveness" (Value.checkWord Aggressiveness.byName)
      <*> Value.required fields "input_code" checkWritten
      <*> Value.optional fields "extra_rules" Value.checkText? none

/-- Who speaks in a chat. -/
inductive Role where
  | system
  | user
  | assistant
deriving DecidableEq, Repr

/-- The name of a role. -/
def Role.name : Role → String
  | system => "system"
  | user => "user"
  | assistant => "assistant"

/-- A message of a chat. -/
structure Message where
  role : Role
  content : String
deriving DecidableEq, Repr

/-- What a model is called with. -/
structure Call where
  model : String
  messages : List Message
  temperature : Number.Decimal
  maxTokens : Nat := 4096
deriving DecidableEq, Repr

/-- What the model is told before the request. -/
def systemPrompt : String :=
  "Return only the transformed code (HTML or TSX). No commentary, no markdown. No scripts. "
    ++ "No event handlers."

/-- The rules that every request has. -/
def baseRules : List String :=
  ["Keep layout intent.",
   "Preserve classes unless asked to rename/remove.",
   "Replace detected figma icon blocks with <img width height alt=\"\"> without src."]

namespace Request

/-- The rules of a request: those that every request has, and its own ones unless they are blank. -/
def rules (r : Request) : List String :=
  baseRules ++ ((r.extraRules.map Text.stripped).filter (· ≠ "")).toList

/-- What the user says in a request. -/
def userContent (r : Request) : String :=
  "Goal: " ++ r.goal.name ++ ". Aggressiveness: " ++ r.aggressiveness.name
    ++ ". Transform rules: " ++ " ".intercalate r.rules ++ "\nHere is the code:\n" ++ r.code

/-- The call that a request comes to. -/
def call (r : Request) : Call where
  model := r.model
  messages := [⟨.system, systemPrompt⟩, ⟨.user, r.userContent⟩]
  temperature := r.aggressiveness.temperature

end Request
end MarkupCleaner.Assist
