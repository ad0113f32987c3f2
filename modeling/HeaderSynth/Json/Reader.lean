import HeaderSynth.Json.Token

/-!
# Reading JSON

Tokens drive a machine with a stack of open arrays and objects, so any nesting can
be read.  A key may turn out to denote no text; it is the object around it that is
then unusable, and not the whole text.
-/

namespace HeaderSynth.Json

/-- An array or object that is still open; its finished parts are in reverse. -/
inductive Frame where
  | array (items : List Json)
  | object (members : List (Option String × Json))
  /-- An object whose member `key` still lacks its value. -/
  | member (members : List (Option String × Json)) (key : Option String)
deriving Repr

/-- What the reader expects next. -/
inductive Expect where
  | value
  | valueOrClose
  | keyOrClose
  | key
  | colon (key : Option String)
  | commaOrClose
  | nothing (result : Json)
deriving Repr

structure Reader where
  stack : List Frame
  expect : Expect
deriving Repr

def Reader.start : Reader where
  stack := []
  expect := .value

/-- Puts a finished value where it belongs. -/
def Reader.accept (stack : List Frame) (value : Json) : Option Reader :=
  match stack with
  | [] => some ⟨[], .nothing value⟩
  | .array items :: rest => some ⟨.array (value :: items) :: rest, .commaOrClose⟩
  | .member members key :: rest => some ⟨.object ((key, value) :: members) :: rest, .commaOrClose⟩
  | .object _ :: _ => none

/-- A token that begins a value. -/
def Reader.beginValue (stack : List Frame) : Token → Option Reader
  | .openArray => some ⟨.array [] :: stack, .valueOrClose⟩
  | .openObject => some ⟨.object [] :: stack, .keyOrClose⟩
  | .text (some value) => Reader.accept stack (.string value)
  | .text none => Reader.accept stack .unpaired
  | .scalar value => Reader.accept stack value
  | _ => none

/-- The object with these members, if every key denotes a text. -/
def ofMembers (members : List (Option String × Json)) : Json :=
  match members.mapM fun (key, value) => key.map (·, value) with
  | some members => .object members
  | none => .unpaired

/-- Closes the innermost array or object. -/
def Reader.close (stack : List Frame) : Token → Option Reader
  | .closeArray =>
    match stack with
    | .array items :: rest => Reader.accept rest (.array items.reverse)
    | _ => none
  | .closeObject =>
    match stack with
    | .object members :: rest => Reader.accept rest (ofMembers members.reverse)
    | _ => none
  | _ => none

/-- One token. -/
def Reader.step (reader : Reader) (token : Token) : Option Reader :=
  let stack := reader.stack
  match reader.expect, token with
  | .value, token => Reader.beginValue stack token
  | .valueOrClose, .closeArray => Reader.close stack .closeArray
  | .valueOrClose, token => Reader.beginValue stack token
  | .keyOrClose, .closeObject => Reader.close stack .closeObject
  | .keyOrClose, .text key => some ⟨stack, .colon key⟩
  | .key, .text key => some ⟨stack, .colon key⟩
  | .colon key, .colon =>
    match stack with
    | .object members :: rest => some ⟨.member members key :: rest, .value⟩
    | _ => none
  | .commaOrClose, .comma =>
    match stack with
    | .array _ :: _ => some ⟨stack, .value⟩
    | .object _ :: _ => some ⟨stack, .key⟩
    | _ => none
  | .commaOrClose, token => Reader.close stack token
  | _, _ => none

/-- The value that a list of tokens spells out. -/
def ofTokens? (tokens : List Token) : Option Json := do
  let reader ← tokens.foldlM Reader.step Reader.start
  match reader.expect with
  | .nothing result => some result
  | _ => none

/-- The value of a whole JSON text. -/
def parse? (text : String) : Option Json := do
  ofTokens? (← tokens? text.toList)

end HeaderSynth.Json
