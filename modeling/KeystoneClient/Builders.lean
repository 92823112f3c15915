import KeystoneClient.Messages

/-!
# Request builders

`PutRequestBuilder`, `GetRequestBuilder`, `QueryRequestBuilder` and
`ScanRequestBuilder` of `builders.py`. A builder is the record of its Python
fields. A mutator returns the record with one field, or one attribute, replaced,
as the chained Python call returns the mutated builder itself. `build` copies the
fields into the request. No builder checks anything.

A chain of mutator calls is a list of calls made left to right (`run`). The calls
are data, so a theorem can quantify over every chain. Fields that no mutator
writes (a Put's expression values, a Query's filter) keep their initial values and
are still copied by `build`, as in the source.
-/

namespace KeystoneClient

/-! ## `PutRequestBuilder` -/

/-- The fields of a `PutRequestBuilder`. -/
structure PutRequestBuilder where
  partitionKey : Bytes
  sortKey : Option Bytes
  /-- `attributes`: each name with the keyword arguments of its `Value`. -/
  attributes : Dict String ValueArgument
  condition : Option String
  /-- `expression_values`: no mutator writes it. -/
  expressionValues : Dict String ValueArgument

namespace PutRequestBuilder

/-- `PutRequestBuilder(partition_key)`. The key is stored as given. -/
def init (partitionKey : Bytes) : PutRequestBuilder :=
  ⟨partitionKey, none, Dict.empty, none, Dict.empty⟩

/-- `with_sort_key(sort_key)`. -/
def withSortKey (builder : PutRequestBuilder) (sortKey : Bytes) : PutRequestBuilder :=
  { builder with sortKey := some sortKey }

/-- `self.attributes[name] = val`, the body of the four attribute mutators. The
keyword dictionary stored before under `name` is replaced whole. -/
def withAttribute (builder : PutRequestBuilder) (name : String) (val : ValueArgument) :
    PutRequestBuilder :=
  { builder with attributes := builder.attributes.set name val }

/-- `with_string(name, value)`. -/
def withString (builder : PutRequestBuilder) (name value : String) : PutRequestBuilder :=
  builder.withAttribute name (.stringValue value)

/-- `with_number(name, value)`: the number is kept as the text given. -/
def withNumber (builder : PutRequestBuilder) (name value : String) : PutRequestBuilder :=
  builder.withAttribute name (.numberValue value)

/-- `with_bool(name, value)`. -/
def withBool (builder : PutRequestBuilder) (name : String) (value : Bool) : PutRequestBuilder :=
  builder.withAttribute name (.boolValue value)

/-- `with_binary(name, value)`. -/
def withBinary (builder : PutRequestBuilder) (name : String) (value : Bytes) : PutRequestBuilder :=
  builder.withAttribute name (.binaryValue value)

/-- `with_condition(condition)`. -/
def withCondition (builder : PutRequestBuilder) (condition : String) : PutRequestBuilder :=
  { builder with condition := some condition }

/-- `build()`. The item maps each stored name to `pb.Value(**val)`, and its map keeps
the entries of the comprehension but not their order. A sort key or condition that
is `None` leaves its field unset. The expression values are copied one by one into
the empty map of the request, which gives the same map. -/
def build (builder : PutRequestBuilder) : PutRequest where
  partitionKey := builder.partitionKey
  item := ⟨.ofDict (builder.attributes.mapValues ValueArgument.toValue)⟩
  sortKey := builder.sortKey
  conditionExpression := builder.condition
  expressionValues := .ofDict (builder.expressionValues.mapValues ValueArgument.toValue)

end PutRequestBuilder

/-- One mutator call on a `PutRequestBuilder`, with its arguments. -/
inductive PutCall where
  | withSortKey (sortKey : Bytes)
  | withString (name value : String)
  | withNumber (name value : String)
  | withBool (name : String) (value : Bool)
  | withBinary (name : String) (value : Bytes)
  | withCondition (condition : String)
  deriving DecidableEq, Repr

namespace PutRequestBuilder

/-- Make one mutator call. -/
def apply (builder : PutRequestBuilder) : PutCall → PutRequestBuilder
  | .withSortKey sortKey => builder.withSortKey sortKey
  | .withString name value => builder.withString name value
  | .withNumber name value => builder.withNumber name value
  | .withBool name value => builder.withBool name value
  | .withBinary name value => builder.withBinary name value
  | .withCondition condition => builder.withCondition condition

/-- A chain of mutator calls, made left to right. -/
def run (builder : PutRequestBuilder) (calls : List PutCall) : PutRequestBuilder :=
  calls.foldl apply builder

end PutRequestBuilder

/-! ## `GetRequestBuilder` -/

/-- The fields of a `GetRequestBuilder`. -/
structure GetRequestBuilder where
  partitionKey : Bytes
  sortKey : Option Bytes

namespace GetRequestBuilder

/-- `GetRequestBuilder(partition_key)`. -/
def init (partitionKey : Bytes) : GetRequestBuilder := ⟨partitionKey, none⟩

/-- `with_sort_key(sort_key)`. -/
def withSortKey (builder : GetRequestBuilder) (sortKey : Bytes) : GetRequestBuilder :=
  { builder with sortKey := some sortKey }

/-- `build()`: an unset sort key leaves the request's field unset. -/
def build (builder : GetRequestBuilder) : GetRequest :=
  ⟨builder.partitionKey, builder.sortKey⟩

/-- A chain of `with_sort_key` calls, given by their arguments. -/
def run (builder : GetRequestBuilder) (calls : List Bytes) : GetRequestBuilder :=
  calls.foldl withSortKey builder

end GetRequestBuilder

/-! ## `QueryRequestBuilder` -/

/-- The fields of a `QueryRequestBuilder`. -/
structure QueryRequestBuilder where
  partitionKey : Bytes
  sortKeyCondition : Option SortKeyCondition
  /-- `filter_expression`: no mutator writes it. -/
  filterExpression : Option String
  /-- `expression_values`: no mutator writes it. -/
  expressionValues : Dict String ValueArgument
  indexName : Option String
  limit : Option Int
  /-- `exclusive_start_key`: no mutator writes it. -/
  exclusiveStartKey : Option (Dict String Value)
  scanForward : Option Bool

namespace QueryRequestBuilder

/-- `QueryRequestBuilder(partition_key)`. -/
def init (partitionKey : Bytes) : QueryRequestBuilder :=
  ⟨partitionKey, none, none, Dict.empty, none, none, none, none⟩

/-- `self.sort_key_condition = {...}`, the body of the three sort-key mutators. The
condition set before is replaced whole. -/
def withSortKeyCondition (builder : QueryRequestBuilder) (condition : SortKeyCondition) :
    QueryRequestBuilder :=
  { builder with sortKeyCondition := some condition }

/-- `with_sort_key_equal(value)`. -/
def withSortKeyEqual (builder : QueryRequestBuilder) (value : Bytes) : QueryRequestBuilder :=
  builder.withSortKeyCondition (.equalTo value)

/-- `with_sort_key_begins_with(value)`. -/
def withSortKeyBeginsWith (builder : QueryRequestBuilder) (value : Bytes) : QueryRequestBuilder :=
  builder.withSortKeyCondition (.beginsWith value)

/-- `with_sort_key_between(lower, upper)`: the bounds are stored unchecked. -/
def withSortKeyBetween (builder : QueryRequestBuilder) (lower upper : Bytes) :
    QueryRequestBuilder :=
  builder.withSortKeyCondition (.between lower upper)

/-- `with_limit(limit)`. -/
def withLimit (builder : QueryRequestBuilder) (limit : Int) : QueryRequestBuilder :=
  { builder with limit := some limit }

/-- `with_index(index_name)`. -/
def withIndex (builder : QueryRequestBuilder) (indexName : String) : QueryRequestBuilder :=
  { builder with indexName := some indexName }

/-- `with_scan_forward(forward)`. -/
def withScanForward (builder : QueryRequestBuilder) (forward : Bool) : QueryRequestBuilder :=
  { builder with scanForward := some forward }

/-- `build()`: the dictionary of all eight fields, as they stand. -/
def build (builder : QueryRequestBuilder) : QueryRequest where
  partitionKey := builder.partitionKey
  sortKeyCondition := builder.sortKeyCondition
  filterExpression := builder.filterExpression
  expressionValues := builder.expressionValues
  indexName := builder.indexName
  limit := builder.limit
  exclusiveStartKey := builder.exclusiveStartKey
  scanForward := builder.scanForward

end QueryRequestBuilder

/-- One mutator call on a `QueryRequestBuilder`, with its arguments. -/
inductive QueryCall where
  | withSortKeyEqual (value : Bytes)
  | withSortKeyBeginsWith (value : Bytes)
  | withSortKeyBetween (lower upper : Bytes)
  | withLimit (limit : Int)
  | withIndex (indexName : String)
  | withScanForward (forward : Bool)
  deriving DecidableEq, Repr

namespace QueryRequestBuilder

/-- Make one mutator call. -/
def apply (builder : QueryRequestBuilder) : QueryCall → QueryRequestBuilder
  | .withSortKeyEqual value => builder.withSortKeyEqual value
  | .withSortKeyBeginsWith value => builder.withSortKeyBeginsWith value
  | .withSortKeyBetween lower upper => builder.withSortKeyBetween lower upper
  | .withLimit limit => builder.withLimit limit
  | .withIndex indexName => builder.withIndex indexName
  | .withScanForward forward => builder.withScanForward forward

/-- A chain of mutator calls, made left to right. -/
def run (builder : QueryRequestBuilder) (calls : List QueryCall) : QueryRequestBuilder :=
  calls.foldl apply builder

end QueryRequestBuilder

/-! ## `ScanRequestBuilder` -/

/-- The fields of a `ScanRequestBuilder`. -/
structure ScanRequestBuilder where
  /-- `filter_expression`: no mutator writes it. -/
  filterExpression : Option String
  /-- `expression_values`: no mutator writes it. -/
  expressionValues : Dict String ValueArgument
  limit : Option Int
  /-- `exclusive_start_key`: no mutator writes it. -/
  exclusiveStartKey : Option (Dict String Value)
  /-- `index_name`: no mutator writes it. -/
  indexName : Option String
  segment : Option Int
  totalSegments : Option Int

namespace ScanRequestBuilder

/-- `ScanRequestBuilder()`: every field empty. -/
def init : ScanRequestBuilder := ⟨none, Dict.empty, none, none, none, none, none⟩

/-- `with_limit(limit)`. -/
def withLimit (builder : ScanRequestBuilder) (limit : Int) : ScanRequestBuilder :=
  { builder with limit := some limit }

/-- `with_segment(segment, total_segments)`: both numbers are stored unchecked. -/
def withSegment (builder : ScanRequestBuilder) (segment totalSegments : Int) : ScanRequestBuilder :=
  { builder with segment := some segment, totalSegments := some totalSegments }

/-- `build()`: the dictionary of all seven fields, as they stand. -/
def build (builder : ScanRequestBuilder) : ScanRequest where
  filterExpression := builder.filterExpression
  expressionValues := builder.expressionValues
  limit := builder.limit
  exclusiveStartKey := builder.exclusiveStartKey
  indexName := builder.indexName
  segment := builder.segment
  totalSegments := builder.totalSegments

end ScanRequestBuilder

/-- One mutator call on a `ScanRequestBuilder`, with its arguments. -/
inductive ScanCall where
  | withLimit (limit : Int)
  | withSegment (segment totalSegments : Int)
  deriving DecidableEq, Repr

namespace ScanRequestBuilder

/-- Make one mutator call. -/
def apply (builder : ScanRequestBuilder) : ScanCall → ScanRequestBuilder
  | .withLimit limit => builder.withLimit limit
  | .withSegment segment totalSegments => builder.withSegment segment totalSegments

/-- A chain of mutator calls, made left to right. -/
def run (builder : ScanRequestBuilder) (calls : List ScanCall) : ScanRequestBuilder :=
  calls.foldl apply builder

end ScanRequestBuilder

end KeystoneClient
