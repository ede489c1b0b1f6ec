import DocumentPipeline.Filter
import DocumentPipeline.Json.Printer
import DocumentPipeline.Options
import DocumentPipeline.Reference

/-!
Why a pipeline cannot be built, checked or encoded. Each class of errors has its causes; the wording
is in the functions named `message`. A stated cause is a text of the caller's own.
-/
namespace DocumentPipeline

/-- A value without the shape that its place asks for. -/
inductive OperandFault where
  | notSelectable (value : Json)
  | stated (text : String)

def OperandFault.message : OperandFault → String
  | .notSelectable j => j.print ++ " cannot be used as a field name or aliased expression"
  | .stated text => text

/-- An argument that a builder refuses. -/
inductive ArgumentFault where
  | path (fault : PathFault)
  | filter (fault : FilterFault)
  | collectionId (id : String)
  | noDocuments
  | noSortKeys
  | samplePercentage (rate : Double)
  | sampleTwice
  | sampleNothing
  | lastWithoutOrder
  | emptyOptionSegment (key : String)
  | notOptions (value : Json)
  | consistencyTwice
  | tooManyStages (count limit : Nat)
  | stated (text : String)

def ArgumentFault.message : ArgumentFault → String
  | .path fault => fault.message
  | .filter fault => fault.message
  | .collectionId id =>
    "invalid collection id '" ++ id ++ "': must be non-empty and must not contain '/'"
  | .noDocuments => "documents requires at least one document"
  | .noSortKeys => "sort requires at least one ordering"
  | .samplePercentage rate =>
    "sample percentage must be a non-negative number, got " ++ Layout.plain.write rate
  | .sampleTwice => "sample accepts either documents or percentage, not both"
  | .sampleNothing => "sample requires either documents or percentage"
  | .lastWithoutOrder => "limit_to_last requires at least one order_by clause"
  | .emptyOptionSegment key => "option path '" ++ key ++ "' contains an empty segment"
  | .notOptions j => "raw options must be an object, got " ++ j.print
  | .consistencyTwice => "a transaction and a read time cannot both be set"
  | .tooManyStages count limit =>
    s!"pipeline has {count} stages, more than the configured maximum of {limit}"
  | .stated text => text

/-- A part of a pipeline that must not be sent. A literal is located by its path of map keys. -/
inductive Violation where
  | emptyFieldPath
  | emptyFieldSegment (path : String)
  | undefined (location : Option String)
  | transform (value : Transform) (location : Option String)
  | stated (text : String)

def Violation.locationText : Option String → String
  | none => ""
  | some path => " (found in field " ++ path ++ ")"

def Violation.message : Violation → String
  | .emptyFieldPath => "Field paths must not be empty."
  | .emptyFieldSegment path => "Field path '" ++ path ++ "' contains an empty segment."
  | .undefined location =>
    "Unsupported field value: undefined" ++ locationText location ++
      ". Enable ignore_undefined_properties to skip undefined values."
  | .transform t location =>
    t.name ++ " cannot be used inside a pipeline expression" ++ locationText location ++ "."
  | .stated text => text

/-- A literal without a wire form. -/
inductive EncodingFault where
  | undefined
  | transform (value : Transform)

def EncodingFault.message : EncodingFault → String
  | .undefined => "undefined value reached the serializer"
  | .transform t => t.name ++ " reached the serializer"

/-- Something that the checks before should have kept away. -/
inductive InternalFault where
  | encoding (fault : EncodingFault)
  | unknownOption (stage name : String)
  | optionKind (stage name : String) (expected actual : OptionKind)
  | stated (text : String)

def InternalFault.message : InternalFault → String
  | .encoding fault => fault.message
  | .unknownOption stage name =>
    "stage '" ++ stage ++ "' has no known option named '" ++ name ++ "'"
  | .optionKind stage name expected actual =>
    "option '" ++ name ++ "' of stage '" ++ stage ++ "' expects " ++ expected.name ++ ", got " ++
      actual.name
  | .stated text => text

/-- A raw option without a wire form. -/
inductive SerializationFault where
  | option (stage key : String) (fault : EncodingFault)
  | stated (text : String)

inductive PipelineError where
  | unsupportedOperand (fault : OperandFault)
  | invalidArgument (fault : ArgumentFault)
  | databaseMismatch (expected actual : String)
  | validation (method : String) (violation : Violation)
  | serialization (fault : SerializationFault)
  | internal (fault : InternalFault)

def InternalFault.text (fault : InternalFault) : String := "Internal error: " ++ fault.message

def SerializationFault.message : SerializationFault → String
  | .option stage key fault =>
    "option '" ++ key ++ "' of stage '" ++ stage ++ "' has no wire representation: " ++
      (InternalFault.encoding fault).text
  | .stated text => text

namespace PipelineError

def message : PipelineError → String
  | .unsupportedOperand fault => "Unsupported operand: " ++ fault.message
  | .invalidArgument fault => "Invalid argument: " ++ fault.message
  | .databaseMismatch expected actual =>
    "Database mismatch: expected a reference in '" ++ expected ++ "' but got one in '" ++ actual ++
      "'"
  | .validation method violation =>
    "Function " ++ method ++ "() called with invalid data. " ++ violation.message
  | .serialization fault => "Serialization error: " ++ fault.message
  | .internal fault => fault.text

def ofPath (fault : PathFault) : PipelineError := .invalidArgument (.path fault)

def ofFilter (fault : FilterFault) : PipelineError := .invalidArgument (.filter fault)

def ofEncoding (fault : EncodingFault) : PipelineError := .internal (.encoding fault)

end PipelineError

/-- Fails when two databases differ. -/
def DatabaseId.require (expected actual : DatabaseId) : Except PipelineError Unit :=
  if expected = actual then .ok ()
  else .error (.databaseMismatch expected.resourceName actual.resourceName)

/-- The item that a JSON value stands for. -/
def Selectable.ofJson (j : Json) : Except PipelineError Selectable :=
  match ofJson? j with
  | some s => .ok s
  | none => .error (.unsupportedOperand (.notSelectable j))

/-- The raw options that a JSON value stands for. -/
def RawOptions.ofJson (j : Json) : Except PipelineError RawOptions :=
  match ofJson? j with
  | some raw => .ok raw
  | none => .error (.invalidArgument (.notOptions j))

end DocumentPipeline
