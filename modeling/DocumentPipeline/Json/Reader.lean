import DocumentPipeline.Json.Literal
import DocumentPipeline.Json.Token

/-!
Reading a JSON text. The tokens are taken one after the other, with the containers that are open
held in a list, so that no text is nested too deep to be read; containers beyond a given depth are
read and refused.
-/
namespace DocumentPipeline.Json

/-- A container part way through, its contents in reverse. -/
inductive Frame where
  | array (items : List Literal)
  | object (members : List (Option String × Literal)) (name : Option String)

/-- What the next token has to be. -/
inductive Slot where
  | value
  | itemOrClose
  | name
  | nameOrClose
  | colon
  | commaOrClose
  | nothing (result : Literal)

/-- The open containers, innermost first, and what has to come next. -/
structure Assembly where
  frames : List Frame
  depth : Nat
  slot : Slot

namespace Assembly

/-- Puts a finished value in its place. -/
def deliver (a : Assembly) (l : Literal) : Assembly :=
  match a.frames with
  | [] => { a with slot := .nothing l }
  | .array items :: outer =>
    { a with frames := .array (l :: items) :: outer, slot := .commaOrClose }
  | .object members name :: outer =>
    { a with frames := .object ((name, l) :: members) none :: outer, slot := .commaOrClose }

def enter (a : Assembly) (f : Frame) (slot : Slot) : Assembly :=
  ⟨f :: a.frames, a.depth + 1, slot⟩

/-- Leaves the innermost container with its value, which is refused beyond the depth limit. -/
def leave (limit : Nat) (a : Assembly) (outer : List Frame) (l : Literal) : Assembly :=
  deliver ⟨outer, a.depth - 1, .value⟩ (if limit < a.depth then .refused else l)

/-- A token where a value has to begin. -/
def begin (a : Assembly) : Token → Option Assembly
  | .null => some (a.deliver .null)
  | .bool b => some (a.deliver (.bool b))
  | .number n => some (a.deliver (n.elim .refused .number))
  | .string s => some (a.deliver (s.elim .refused .string))
  | .openArray => some (a.enter (.array []) .itemOrClose)
  | .openObject => some (a.enter (.object [] none) .nameOrClose)
  | _ => none

def close (limit : Nat) (a : Assembly) : Token → Option Assembly
  | .closeArray =>
    match a.frames with
    | .array items :: outer => some (a.leave limit outer (.array items.reverse))
    | _ => none
  | .closeObject =>
    match a.frames with
    | .object members _ :: outer => some (a.leave limit outer (.object members.reverse))
    | _ => none
  | _ => none

def nameMember (a : Assembly) : Token → Option Assembly
  | .string s =>
    match a.frames with
    | .object members _ :: outer =>
      some { a with frames := .object members s :: outer, slot := .colon }
    | _ => none
  | _ => none

/-- After a comma an array goes on with a value and an object with a name. -/
def goOn (a : Assembly) : Option Assembly :=
  match a.frames with
  | .array _ :: _ => some { a with slot := .value }
  | .object _ _ :: _ => some { a with slot := .name }
  | [] => none

def step (limit : Nat) (a : Assembly) (t : Token) : Option Assembly :=
  match a.slot with
  | .value => a.begin t
  | .itemOrClose =>
    match t with
    | .closeArray => a.close limit t
    | _ => a.begin t
  | .name => a.nameMember t
  | .nameOrClose =>
    match t with
    | .closeObject => a.close limit t
    | _ => a.nameMember t
  | .colon =>
    match t with
    | .colon => some { a with slot := .value }
    | _ => none
  | .commaOrClose =>
    match t with
    | .comma => a.goOn
    | _ => a.close limit t
  | .nothing _ => none

end Assembly

/-- Reads a text as one literal; containers nested deeper than `limit` are refused. -/
def Literal.read? (limit : Nat) (text : String) : Option Literal := do
  let tokens ← Token.all? text.toList
  let done ← tokens.foldlM (Assembly.step limit) ⟨[], 0, .value⟩
  match done.slot with
  | .nothing l => some l
  | _ => none

/-- The deepest nesting of containers in a text that is taken from outside. -/
def nestingLimit : Nat := 127

/-- The value of a text. -/
def read? (text : String) : Option Json := do
  ofLiteral? (← Literal.read? nestingLimit text)

end DocumentPipeline.Json
