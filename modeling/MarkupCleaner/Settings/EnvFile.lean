import MarkupCleaner.Text.Split

/-!
# Files of variables

A file of variables has a line for each of them: its name, an equals sign and its value. The word
`export` in front of the name and comments are passed over. A value in quotes may hold anything, with
escapes; one without quotes ends before a comment and has no white space around it. A name without an
equals sign takes a value away. A line that has another form is passed over.

Values may refer to other variables, those from earlier lines of the file and those of the
environment.
-/

namespace MarkupCleaner.EnvFile

/-- An end of line. -/
def isLineBreak (c : Char) : Bool := c = '\n' || c = '\r'

/-- White space within a line. -/
def isInnerBlank (c : Char) : Bool := Text.isBlankChar c && !isLineBreak c

/-- Without the white space of the line at the front. -/
def skipBlanks (cs : List Char) : List Char := cs.dropWhile isInnerBlank

/-- What follows the line. -/
def afterLine (cs : List Char) : List Char :=
  match cs.dropWhile fun c => !isLineBreak c with
  | '\r' :: '\n' :: rest => rest
  | rest => rest.drop 1

/-- What follows the word `export` and white space, or everything if they are not there. -/
def skipExport (cs : List Char) : List Char :=
  match Text.after? "export".toList cs with
  | some rest => if rest.head?.any isInnerBlank then skipBlanks rest else cs
  | none => cs

/-- The characters up to a closing quote, with their escapes still in place, and what follows the
    quote. If no other quote closes the value, the last one that is escaped does. -/
def takeQuoted? (quote : Char) : List Char → Option (List Char × List Char)
  | [] => none
  | '\\' :: c :: rest =>
    if c = quote then
      ((takeQuoted? quote rest).map fun (value, rest) => ('\\' :: c :: value, rest)).orElse fun _ =>
        some (['\\'], rest)
    else (takeQuoted? quote (c :: rest)).map fun (value, rest) => ('\\' :: value, rest)
  | c :: rest =>
    if c = quote then some ([], rest)
    else (takeQuoted? quote rest).map fun (value, rest) => (c :: value, rest)

/-- The character that an escape within quotes stands for. Within single quotes only the backslash
    and the quote are escaped. -/
def escapeOf? (quote c : Char) : Option Char :=
  if c = '\\' || c = '\'' then some c
  else if quote = '\'' then none
  else
    match c with
    | '"' => some '"'
    | 'a' => some '\x07'
    | 'b' => some '\x08'
    | 'f' => some '\x0c'
    | 'n' => some '\n'
    | 'r' => some '\r'
    | 't' => some '\t'
    | 'v' => some '\x0b'
    | _ => none

/-- A value with its escapes replaced. -/
def unescape (quote : Char) : List Char → List Char
  | [] => []
  | '\\' :: c :: rest =>
    match escapeOf? quote c with
    | some e => e :: unescape quote rest
    | none => '\\' :: unescape quote (c :: rest)
  | c :: rest => c :: unescape quote rest

/-- The part of a line before white space and a comment. -/
def beforeComment : List Char → List Char
  | [] => []
  | c :: cs =>
    if Text.isBlankChar c && (cs.dropWhile Text.isBlankChar).head? = some '#' then []
    else c :: beforeComment cs

/-- The value in quotes at the front, and what follows it. -/
def takeQuotedValue? (quote : Char) (cs : List Char) : Option (List Char × List Char) :=
  (takeQuoted? quote cs).map fun (value, rest) => (unescape quote value, rest)

/-- The value at the front, and what follows it. -/
def takeValue? (cs : List Char) : Option (List Char × List Char) :=
  match skipBlanks cs with
  | '\'' :: rest => takeQuotedValue? '\'' rest
  | '"' :: rest => takeQuotedValue? '"' rest
  | _ =>
    some (Text.trim (beforeComment (cs.takeWhile fun c => !isLineBreak c)),
      cs.dropWhile fun c => !isLineBreak c)

/-- The name at the front, and what follows it. It may stand in single quotes. -/
def takeName? (cs : List Char) : Option (List Char × List Char) :=
  match cs with
  | '\'' :: rest =>
    let name := rest.takeWhile (· ≠ '\'')
    match rest.dropWhile (· ≠ '\'') with
    | _ :: after => if name.isEmpty then none else some (name, after)
    | [] => none
  | cs =>
    let isNameChar := fun (c : Char) => !(c = '=' || c = '#' || Text.isBlankChar c)
    if (cs.takeWhile isNameChar).isEmpty then none
    else some (cs.takeWhile isNameChar, cs.dropWhile isNameChar)

/-- What follows a line that may hold nothing more than a comment. -/
def endOfLine? (cs : List Char) : Option (List Char) :=
  let cs := skipBlanks cs
  if cs.isEmpty || cs.head? = some '#' || cs.head?.any isLineBreak then some (afterLine cs) else none

/-- A variable as a line gives it: its name, and its value if it has one. -/
abbrev Binding := List Char × Option (List Char)

/-- The binding at the front and what follows it, without regard to the rest of its line; or else the
    place up to which there is nothing wrong. -/
def takeBinding (cs : List Char) : Except (List Char) (Binding × List Char) :=
  let start := skipExport cs
  match takeName? start with
  | none => .error start
  | some (name, rest) =>
    match skipBlanks rest with
    | '=' :: rest =>
      match takeValue? rest with
      | none => .error rest
      | some (value, rest) => .ok ((name, some value), rest)
    | rest => .ok ((name, none), rest)

/-- The binding at the front, if its line has the right form, and what follows the line. A line that
    goes wrong is passed over from where it goes wrong. -/
def takeLine (cs : List Char) : Option Binding × List Char :=
  match takeBinding cs with
  | .error place => (none, afterLine place)
  | .ok (binding, rest) =>
    match endOfLine? rest with
    | none => (none, afterLine rest)
    | some after => (some binding, after)

/-- The bindings of a text. `fuel` has to exceed the number of characters left. -/
def takeBindings : (fuel : Nat) → List Char → List Binding
  | 0, _ => []
  | fuel + 1, cs =>
    match cs.dropWhile Text.isBlankChar with
    | [] => []
    | cs =>
      let (binding, rest) := takeLine cs
      binding.toList ++ takeBindings fuel rest

/-- The bindings of a text, in order. A mark of the byte order at the start is passed over. -/
def bindings (cs : List Char) : List Binding :=
  let cs := if cs.head? = some '\uFEFF' then cs.drop 1 else cs
  takeBindings (cs.length + 1) cs

/-- Variables by name, each with the value that it has been given last; without one if that has been
    taken away. -/
abbrev Variables := List (String × Option String)

/-- Sets a variable. One that is there already keeps its position. -/
def Variables.set (vars : Variables) (name : String) (value : Option String) : Variables :=
  if (vars.lookup name).isSome then
    vars.map fun v => if v.1 = name then (name, value) else v
  else vars ++ [(name, value)]

/-- The reference to a variable at the front: its name, what stands for it if there is no such
    variable, and what follows the reference. -/
def takeReference? : List Char → Option (List Char × List Char × List Char)
  | '$' :: '{' :: cs =>
    let isNameChar := fun (c : Char) => c ≠ '}' && c ≠ ':'
    let name := cs.takeWhile isNameChar
    match cs.dropWhile isNameChar with
    | '}' :: rest => some (name, [], rest)
    | ':' :: '-' :: rest =>
      match rest.dropWhile (· ≠ '}') with
      | '}' :: after => some (name, rest.takeWhile (· ≠ '}'), after)
      | _ => none
    | _ => none
  | _ => none

/-- The text that a reference stands for. A variable of the file goes before one of the
    environment. -/
def referenceText (environment : List (String × String)) (vars : Variables) (name default : List Char) :
    List Char :=
  let name := String.ofList name
  match vars.lookup name, environment.reverse.lookup name with
  | some value, _ => (value.getD "").toList
  | none, some value => value.toList
  | none, none => default

/-- A value with its references replaced. `fuel` has to exceed the number of characters. -/
def expand (environment : List (String × String)) (vars : Variables) :
    (fuel : Nat) → List Char → List Char
  | 0, cs => cs
  | fuel + 1, cs =>
    match takeReference? cs with
    | some (name, default, rest) =>
      referenceText environment vars name default ++ expand environment vars fuel rest
    | none =>
      match cs with
      | [] => []
      | c :: rest => c :: expand environment vars fuel rest

/-- Carries bindings out, one after the other. -/
def bindAll (environment : List (String × String)) (vars : Variables) : List Binding → Variables
  | [] => vars
  | (name, value) :: rest =>
    let value := value.map fun cs => String.ofList (expand environment vars (cs.length + 1) cs)
    bindAll environment (vars.set (.ofList name) value) rest

/-- The variables of a file, in the order of their first lines. -/
def read (environment : List (String × String)) (text : String) : Variables :=
  bindAll environment [] (bindings text.toList)

end MarkupCleaner.EnvFile
