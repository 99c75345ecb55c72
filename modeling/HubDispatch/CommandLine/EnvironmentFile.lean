import HubDispatch.Text.Blank
import HubDispatch.Text.CharacterClass

/-!
# Environment files

A file of variables has an assignment on each line, `NAME=value`, with `export` in front if one
likes, empty lines and comments. A value may be quoted; weak quotes and unquoted text know escapes
and stand-ins for variables, `$NAME` or between braces, and quotes may run over several lines.

Only variables that are not set are set. The first line that cannot be read ends the reading; what
came before it stays.
-/

namespace HubDispatch
namespace EnvironmentFile

open Text (isBlank)

/-- Variables with their values. -/
abbrev Environment := List (String × String)

/-- Whether a line is complete where the reading of it stands. -/
inductive LineState where
  | complete
  | blank
  | escaped
  | strong
  | strongEscaped
  | weak
  | weakEscaped
  deriving DecidableEq, Repr

/-- The state after a character outside quotes. -/
def LineState.outside (c : Char) : LineState :=
  if c = '\\' then .escaped
  else if c = '"' then .weak
  else if c = '\'' then .strong
  else .complete

/-- The state after one character more; none where a comment begins. -/
def LineState.next (s : LineState) (c : Char) : Option LineState :=
  match s with
  | .blank => if c = '#' then none else some (.outside c)
  | .escaped => some .complete
  | .complete =>
    if isBlank c && c != '\n' && c != '\r' then some .blank else some (.outside c)
  | .weak => some (if c = '\\' then .weakEscaped else if c = '"' then .complete else .weak)
  | .weakEscaped => some .weak
  | .strong => some (if c = '\\' then .strongEscaped else if c = '\'' then .complete else .strong)
  | .strongEscaped => some .strong

/-- The state at the end of some characters, or the characters before the comment in them. -/
def endState : LineState → List Char → LineState ⊕ List Char
  | s, [] => .inl s
  | s, c :: cs =>
    match s.next c with
    | none => .inr []
    | some s =>
      match endState s cs with
      | .inl s => .inl s
      | .inr before => .inr (c :: before)

/-- Lines with their line feeds. -/
def rawLines : List Char → List (List Char)
  | [] => []
  | c :: cs =>
    if c = '\n' then [c] :: rawLines cs
    else
      match rawLines cs with
      | [] => [[c]]
      | l :: ls => (c :: l) :: ls

/-- Without the line feed at the end, and a carriage return before it. -/
def withoutLineFeed (cs : List Char) : List Char :=
  match cs.reverse with
  | '\n' :: '\r' :: rest => rest.reverse
  | '\n' :: rest => rest.reverse
  | _ => cs

/-- Lines put together where a quote runs on; none for one that never ends. -/
def logicalLines (soFar : List Char) (s : LineState) : List (List Char) → List (Option (List Char))
  | [] => if s = .complete then [] else [none]
  | l :: ls =>
    if ((soFar ++ l).dropWhile isBlank).head? = some '#' then
      some [] :: logicalLines [] .complete ls
    else
      match endState s l with
      | .inr before => some (soFar ++ before) :: logicalLines [] .complete ls
      | .inl .complete => some (withoutLineFeed (soFar ++ l)) :: logicalLines [] .complete ls
      | .inl s => logicalLines (soFar ++ l) s ls

/-- Reading a name that stands in for its value. -/
inductive StandIn where
  | none
  /-- After the dollar sign. -/
  | open (name : List Char)
  /-- After dollar sign and brace. -/
  | braced (name : List Char)
  deriving DecidableEq, Repr

/-- A value read up to some character; what is read is in reverse. -/
structure ValueState where
  text : List Char
  strong : Bool
  weak : Bool
  escaped : Bool
  /-- Only blanks and a comment may follow. -/
  ended : Bool
  standIn : StandIn

/-- The value of the name just read, appended. -/
def ValueState.substitute (env : Environment) (s : ValueState) (name : List Char) : ValueState :=
  let value := ((env.lookup (String.ofList name.reverse)).getD "").toList
  { s with text := value.reverse ++ s.text, standIn := .none }

/-- What a backslash makes of a character. -/
def escape? (c : Char) : Option Char :=
  if c = '\\' ∨ c = '\'' ∨ c = '"' ∨ c = '$' ∨ c = ' ' then some c
  else if c = 'n' then some '\n'
  else none

/-- One character more; none for one that cannot stand here. A comment ends the value, and then the
state stays as it is. -/
def ValueState.step (env : Environment) (s : ValueState) (c : Char) : Option ValueState :=
  if s.ended then (if c = ' ' ∨ c = '\t' then some s else none)
  else if s.escaped then (escape? c).map fun e => { s with text := e :: s.text, escaped := false }
  else if s.strong then
    some (if c = '\'' then { s with strong := false } else { s with text := c :: s.text })
  else
    match s.standIn with
    | .open name =>
      if Text.isLetterOrNumber c then some { s with standIn := .open (c :: name) }
      else if c = '\x7b' ∧ name = [] then some { s with standIn := .braced [] }
      else
        let s := s.substitute env name
        some (if c = '$' then { s with standIn := .open [] } else { s with text := c :: s.text })
    | .braced name =>
      some (if c = '\x7d' then s.substitute env name else { s with standIn := .braced (c :: name) })
    | .none =>
      some (
        if c = '$' then { s with standIn := .open [] }
        else if s.weak && c = '"' then { s with weak := false }
        else if c = '\\' then { s with escaped := true }
        else if s.weak then { s with text := c :: s.text }
        else if c = '\'' then { s with strong := true }
        else if c = '"' then { s with weak := true }
        else if c = ' ' ∨ c = '\t' then { s with ended := true }
        else { s with text := c :: s.text })

/-- The value at the end of a line; none with an open quote or brace. -/
def ValueState.finish (env : Environment) (s : ValueState) : Option String :=
  if s.strong || s.weak then none
  else
    match s.standIn with
    | .braced _ => none
    | .open name => some (String.ofList (s.substitute env name).text.reverse)
    | .none => some (String.ofList s.text.reverse)

/-- The value that some characters spell. -/
def readValue (env : Environment) : ValueState → List Char → Option String
  | s, [] => s.finish env
  | s, c :: cs =>
    if s.ended && c = '#' then s.finish env else (s.step env c).bind (readValue env · cs)

/-- A name, and what follows it and blanks. -/
def readName? (cs : List Char) : Option (String × List Char) :=
  let isNamePart (c : Char) : Bool := c.isAlphanum || c = '_' || c = '.'
  match cs with
  | c :: _ =>
    if c.isAlpha || c = '_' then
      some (String.ofList (cs.takeWhile isNamePart), (cs.dropWhile isNamePart).dropWhile isBlank)
    else none
  | [] => none

/-- What follows an equals sign and blanks. -/
def afterEquals? : List Char → Option (List Char)
  | '=' :: cs => some (cs.dropWhile isBlank)
  | _ => none

/-- The name and the text of the value of an assignment. `export` may be a name itself. -/
def readAssignment? (cs : List Char) : Option (String × List Char) := do
  let (name, rest) ← readName? cs
  match afterEquals? rest with
  | some value => some (name, value)
  | none =>
    if name = "export" then do
      let (name, rest) ← readName? rest
      let value ← afterEquals? rest
      some (name, value)
    else none

/-- The variable that a line sets; the outer option is none for a line that cannot be read. -/
def readLine (env : Environment) (line : List Char) : Option (Option (String × String)) :=
  let cs := Text.trimChars line
  if cs.isEmpty || cs.head? = some '#' then some none
  else do
    let (name, value) ← readAssignment? cs
    if value.isEmpty || value.head? = some '#' then some (some (name, ""))
    else
      let text ← readValue env ⟨[], false, false, false, false, .none⟩ value
      some (some (name, text))

/-- A variable set unless it is set already. -/
def setNew (env : Environment) (name value : String) : Environment :=
  if (env.lookup name).isSome then env else env ++ [(name, value)]

/-- The environment after some lines. -/
def loadLines : Environment → List (Option (List Char)) → Environment
  | env, [] => env
  | env, none :: _ => env
  | env, some line :: lines =>
    match readLine env line with
    | none => env
    | some none => loadLines env lines
    | some (some (name, value)) => loadLines (setNew env name value) lines

/-- The environment after a file. A byte order mark in front of it is dropped. -/
def load (env : Environment) (text : String) : Environment :=
  let cs :=
    match text.toList with
    | '\uFEFF' :: cs => cs
    | cs => cs
  loadLines env (logicalLines [] .complete (rawLines cs))

end EnvironmentFile
end HubDispatch
