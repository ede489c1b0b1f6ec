import DocumentPipeline.Expression

/-!
The operators of expressions, each a call of the function of its name. Those that give a boolean are
conditions; those over all rows are aggregates.
-/
namespace DocumentPipeline

/-- Units in which a time is moved. -/
inductive TimeUnit where
  | microsecond
  | millisecond
  | second
  | minute
  | hour
  | day
  deriving DecidableEq

def TimeUnit.name : TimeUnit → String
  | .microsecond => "microsecond"
  | .millisecond => "millisecond"
  | .second => "second"
  | .minute => "minute"
  | .hour => "hour"
  | .day => "day"

def TimeUnit.ofName? (name : String) : Option TimeUnit :=
  [microsecond, millisecond, second, minute, hour, day].find? (·.name == name)

/-- A condition that calls a function. -/
def Condition.call (name : String) (arguments : List Expression) : Condition :=
  ⟨.call name arguments⟩

namespace Expression
variable (e : Expression)

/-! Arithmetic -/

def add (other : Expression) : Expression := .call "add" [e, other]
def subtract (other : Expression) : Expression := .call "subtract" [e, other]
def multiply (other : Expression) : Expression := .call "multiply" [e, other]
def divide (other : Expression) : Expression := .call "divide" [e, other]
def modulo (other : Expression) : Expression := .call "mod" [e, other]
def pow (power : Expression) : Expression := .call "pow" [e, power]
def abs : Expression := .call "abs" [e]
def ceil : Expression := .call "ceil" [e]
def floor : Expression := .call "floor" [e]
def round : Expression := .call "round" [e]
def sqrt : Expression := .call "sqrt" [e]
def exp : Expression := .call "exp" [e]
def ln : Expression := .call "ln" [e]
def log10 : Expression := .call "log10" [e]

/-! Comparison -/

def equal (other : Expression) : Condition := .call "equal" [e, other]
def notEqual (other : Expression) : Condition := .call "not_equal" [e, other]
def lessThan (other : Expression) : Condition := .call "less_than" [e, other]
def lessThanOrEqual (other : Expression) : Condition := .call "less_than_or_equal" [e, other]
def greaterThan (other : Expression) : Condition := .call "greater_than" [e, other]
def greaterThanOrEqual (other : Expression) : Condition := .call "greater_than_or_equal" [e, other]
def equalAny (values : Expression) : Condition := .call "equal_any" [e, values]
def notEqualAny (values : Expression) : Condition := .call "not_equal_any" [e, values]

/-! Presence, type and error -/

def isPresent : Condition := .call "exists" [e]
def isAbsent : Condition := .call "is_absent" [e]
def isNull : Condition := .call "is_null" [e]
def isNotNull : Condition := .call "is_not_null" [e]
def isNaN : Condition := .call "is_nan" [e]
def isNotNaN : Condition := .call "is_not_nan" [e]
def isError : Condition := .call "is_error" [e]
def ifError (other : Expression) : Expression := .call "if_error" [e, other]
def ifAbsent (other : Expression) : Expression := .call "if_absent" [e, other]
/-- Takes an expression for a condition, such as a field that holds a flag. -/
def asCondition : Condition := ⟨e⟩

/-! Strings -/

def charLength : Expression := .call "char_length" [e]
def byteLength : Expression := .call "byte_length" [e]
def toLower : Expression := .call "to_lower" [e]
def toUpper : Expression := .call "to_upper" [e]
def trim : Expression := .call "trim" [e]
def stringReverse : Expression := .call "string_reverse" [e]
def like (pattern : Expression) : Condition := .call "like" [e, pattern]
def regexContains (pattern : Expression) : Condition := .call "regex_contains" [e, pattern]
def regexMatch (pattern : Expression) : Condition := .call "regex_match" [e, pattern]
def stringContains (part : Expression) : Condition := .call "string_contains" [e, part]
def startsWith (part : Expression) : Condition := .call "starts_with" [e, part]
def endsWith (part : Expression) : Condition := .call "ends_with" [e, part]
def stringConcat (others : List Expression) : Expression := .call "string_concat" (e :: others)
def substring (position length : Expression) : Expression := .call "substring" [e, position, length]

/-! Arrays -/

def arrayContains (element : Expression) : Condition := .call "array_contains" [e, element]
def arrayContainsAny (values : Expression) : Condition := .call "array_contains_any" [e, values]
def arrayContainsAll (values : Expression) : Condition := .call "array_contains_all" [e, values]
def arrayLength : Expression := .call "array_length" [e]
def arrayConcat (others : List Expression) : Expression := .call "array_concat" (e :: others)
def arrayReverse : Expression := .call "array_reverse" [e]
def arrayGet (offset : Expression) : Expression := .call "array_get" [e, offset]

/-! Maps -/

def mapGet (key : String) : Expression := .call "map_get" [e, .text key]
def mapMerge (others : List Expression) : Expression := .call "map_merge" (e :: others)
def mapRemove (key : String) : Expression := .call "map_remove" [e, .text key]

/-! Vectors -/

def cosineDistance (other : Expression) : Expression := .call "cosine_distance" [e, other]
def dotProduct (other : Expression) : Expression := .call "dot_product" [e, other]
def euclideanDistance (other : Expression) : Expression := .call "euclidean_distance" [e, other]
def vectorLength : Expression := .call "vector_length" [e]

/-! Times -/

def timestampAdd (unit : TimeUnit) (amount : Expression) : Expression :=
  .call "timestamp_add" [e, .text unit.name, amount]

def timestampSubtract (unit : TimeUnit) (amount : Expression) : Expression :=
  .call "timestamp_subtract" [e, .text unit.name, amount]

def timestampToUnixMicros : Expression := .call "timestamp_to_unix_micros" [e]
def timestampToUnixMillis : Expression := .call "timestamp_to_unix_millis" [e]
def timestampToUnixSeconds : Expression := .call "timestamp_to_unix_seconds" [e]
def unixMicrosToTimestamp : Expression := .call "unix_micros_to_timestamp" [e]
def unixMillisToTimestamp : Expression := .call "unix_millis_to_timestamp" [e]
def unixSecondsToTimestamp : Expression := .call "unix_seconds_to_timestamp" [e]

/-! The greatest and the least of several values of one row -/

def logicalMaximum (others : List Expression) : Expression := .call "logical_maximum" (e :: others)
def logicalMinimum (others : List Expression) : Expression := .call "logical_minimum" (e :: others)

/-! Documents -/

def documentId : Expression := .call "document_id" [e]
def collectionId : Expression := .call "collection_id" [e]

/-! Sorting -/

def ascending : SortKey := ⟨e, .ascending⟩
def descending : SortKey := ⟨e, .descending⟩

/-! Aggregates -/

def count : Aggregate := ⟨"count", [e]⟩
def sum : Aggregate := ⟨"sum", [e]⟩
def average : Aggregate := ⟨"average", [e]⟩
def minimum : Aggregate := ⟨"minimum", [e]⟩
def maximum : Aggregate := ⟨"maximum", [e]⟩
def countDistinct : Aggregate := ⟨"count_distinct", [e]⟩

/-! Constructors -/

def array (elements : List Expression) : Expression := .call "array" elements

/-- The function that builds a map; its arguments are keys and values in turn. -/
def mapOf (entries : List (String × Expression)) : Expression :=
  .call "map" (entries.flatMap fun (key, value) => [.text key, value])

def currentTimestamp : Expression := .call "current_timestamp" []

end Expression

namespace Condition

def all (conditions : List Condition) : Condition := .call "and" (conditions.map (·.expression))

def any (conditions : List Condition) : Condition := .call "or" (conditions.map (·.expression))

/-- Holds where an odd number of the conditions does. -/
def odd (conditions : List Condition) : Condition := .call "xor" (conditions.map (·.expression))

variable (c : Condition)

def not : Condition := .call "not" [c.expression]

def and (other : Condition) : Condition := all [c, other]

def or (other : Condition) : Condition := any [c, other]

def xor (other : Condition) : Condition := odd [c, other]

/-- The number of rows for which the condition holds. -/
def countIf : Aggregate := ⟨"count_if", [c.expression]⟩

/-- The other condition where this one is an error. -/
def ifError (other : Condition) : Condition := .call "if_error" [c.expression, other.expression]

def conditional (yes no : Expression) : Expression := .call "conditional" [c.expression, yes, no]

end Condition

/-- The number of all rows. -/
def Aggregate.countAll : Aggregate := ⟨"count", []⟩

end DocumentPipeline
