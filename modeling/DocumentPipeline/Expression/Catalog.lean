import DocumentPipeline.Expression.Operators

/-!
The operators by name, for callers that get names from a text. An operator says what it takes after
the expression that it is applied to. Names are those of the functions on the wire, except for
`modulo`, for `bool_if_error` as another name of `if_error`, and for `as_boolean`, which is no
function at all.
-/
namespace DocumentPipeline

/-- An operator, by what it takes besides the expression it is applied to. -/
inductive Operator where
  | plain (apply : Expression → Expression)
  | one (apply : Expression → Expression → Expression)
  | two (apply : Expression → Expression → Expression → Expression)
  | many (apply : Expression → List Expression → Expression)
  | key (apply : Expression → String → Expression)
  | time (apply : Expression → TimeUnit → Expression → Expression)
  | vector (apply : Expression → Expression → Expression)

namespace Operator

/-- An operator that gives a condition. -/
def test (apply : Expression → Condition) : Operator := .plain fun e => (apply e).expression

/-- An operator on two expressions that gives a condition. -/
def compare (apply : Expression → Expression → Condition) : Operator :=
  .one fun e other => (apply e other).expression

/-- An operator on two conditions. -/
def junction (apply : Condition → Condition → Condition) : Operator :=
  .one fun e other => (apply ⟨e⟩ ⟨other⟩).expression

/-- All operators with their names. -/
def catalog : List (String × Operator) :=
  [("add", .one .add),
    ("subtract", .one .subtract),
    ("multiply", .one .multiply),
    ("divide", .one .divide),
    ("modulo", .one .modulo),
    ("pow", .one .pow),
    ("abs", .plain .abs),
    ("ceil", .plain .ceil),
    ("floor", .plain .floor),
    ("round", .plain .round),
    ("sqrt", .plain .sqrt),
    ("exp", .plain .exp),
    ("ln", .plain .ln),
    ("log10", .plain .log10),
    ("equal", compare Expression.equal),
    ("not_equal", compare Expression.notEqual),
    ("less_than", compare Expression.lessThan),
    ("less_than_or_equal", compare Expression.lessThanOrEqual),
    ("greater_than", compare Expression.greaterThan),
    ("greater_than_or_equal", compare Expression.greaterThanOrEqual),
    ("equal_any", compare Expression.equalAny),
    ("not_equal_any", compare Expression.notEqualAny),
    ("exists", test Expression.isPresent),
    ("is_absent", test Expression.isAbsent),
    ("is_null", test Expression.isNull),
    ("is_not_null", test Expression.isNotNull),
    ("is_nan", test Expression.isNaN),
    ("is_not_nan", test Expression.isNotNaN),
    ("is_error", test Expression.isError),
    ("if_error", .one .ifError),
    ("if_absent", .one .ifAbsent),
    ("as_boolean", test Expression.asCondition),
    ("not", test fun e => Condition.not ⟨e⟩),
    ("and", junction Condition.and),
    ("or", junction Condition.or),
    ("xor", junction Condition.xor),
    ("bool_if_error", junction Condition.ifError),
    ("conditional", .two fun e yes no => Condition.conditional ⟨e⟩ yes no),
    ("char_length", .plain .charLength),
    ("byte_length", .plain .byteLength),
    ("to_lower", .plain .toLower),
    ("to_upper", .plain .toUpper),
    ("trim", .plain .trim),
    ("string_reverse", .plain .stringReverse),
    ("like", compare Expression.like),
    ("regex_contains", compare Expression.regexContains),
    ("regex_match", compare Expression.regexMatch),
    ("string_contains", compare Expression.stringContains),
    ("starts_with", compare Expression.startsWith),
    ("ends_with", compare Expression.endsWith),
    ("string_concat", .many .stringConcat),
    ("substring", .two .substring),
    ("array_contains", compare Expression.arrayContains),
    ("array_contains_any", compare Expression.arrayContainsAny),
    ("array_contains_all", compare Expression.arrayContainsAll),
    ("array_length", .plain .arrayLength),
    ("array_concat", .many .arrayConcat),
    ("array_reverse", .plain .arrayReverse),
    ("array_get", .one .arrayGet),
    ("map_get", .key .mapGet),
    ("map_merge", .many .mapMerge),
    ("map_remove", .key .mapRemove),
    ("cosine_distance", .vector .cosineDistance),
    ("dot_product", .vector .dotProduct),
    ("euclidean_distance", .vector .euclideanDistance),
    ("vector_length", .plain .vectorLength),
    ("timestamp_add", .time .timestampAdd),
    ("timestamp_subtract", .time .timestampSubtract),
    ("timestamp_to_unix_micros", .plain .timestampToUnixMicros),
    ("timestamp_to_unix_millis", .plain .timestampToUnixMillis),
    ("timestamp_to_unix_seconds", .plain .timestampToUnixSeconds),
    ("unix_micros_to_timestamp", .plain .unixMicrosToTimestamp),
    ("unix_millis_to_timestamp", .plain .unixMillisToTimestamp),
    ("unix_seconds_to_timestamp", .plain .unixSecondsToTimestamp),
    ("logical_maximum", .many .logicalMaximum),
    ("logical_minimum", .many .logicalMinimum),
    ("document_id", .plain .documentId),
    ("collection_id", .plain .collectionId)]

def ofName? (name : String) : Option Operator := catalog.lookup name

end Operator

namespace Aggregate

/-- The aggregates of one expression. -/
def catalog : List (String × (Expression → Aggregate)) :=
  [("count", Expression.count),
    ("count_distinct", Expression.countDistinct),
    ("count_if", fun e => Condition.countIf ⟨e⟩),
    ("sum", Expression.sum),
    ("average", Expression.average),
    ("minimum", Expression.minimum),
    ("maximum", Expression.maximum)]

def ofName? (name : String) : Option (Expression → Aggregate) := catalog.lookup name

end Aggregate
end DocumentPipeline
