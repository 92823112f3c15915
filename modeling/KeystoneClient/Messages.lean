import KeystoneClient.Dict

/-!
# Messages of the KeystoneDB service

The generated protobuf module `keystone_pb2` is not among the sources. Its messages
are modelled from the fields the client sets and reads, and the document value from
the data model of the specification. The Query and Scan builders return plain
dictionaries; their records have one field for each key of those dictionaries.

Beside each request stands its data-model invariant as a decidable predicate: a
non-empty partition key, a scan segment below a positive segment count, and
`Between` bounds in byte order. No builder checks them; `Validation` says exactly
when a built request satisfies them.
-/

namespace KeystoneClient

/-- Python `bytes`. The list order is Python's byte-by-byte comparison, in which a
proper prefix comes first. -/
abbrev Bytes := List UInt8

/-- Modelled from the spec: the `Value` message of `keystone_pb2`, absent from the
sources. A document value is text, decimal text, a flag, bytes, null, or a list or
map of further values. -/
inductive Value where
  | stringValue (value : String)
  | numberValue (value : String)
  | boolValue (value : Bool)
  | binaryValue (value : Bytes)
  | nullValue
  | listValue (values : List Value)
  | mapValue (fields : List (String × Value))

/-- The keyword arguments an attribute mutator stores, such as
`{"number_value": value}`: one field of `Value` with its payload. -/
inductive ValueArgument where
  | stringValue (value : String)
  | numberValue (value : String)
  | boolValue (value : Bool)
  | binaryValue (value : Bytes)
  deriving DecidableEq, Repr

/-- `pb.Value(**val)`: the message with the named field set to the payload. A
number keeps the text it was given. -/
def ValueArgument.toValue : ValueArgument → Value
  | .stringValue value => .stringValue value
  | .numberValue value => .numberValue value
  | .boolValue value => .boolValue value
  | .binaryValue value => .binaryValue value

/-- Modelled from the spec: the `Item` message, from attribute names to values. -/
structure Item where
  /-- `attributes`, a protobuf map: no order among its names. -/
  attributes : MapField String Value

/-- Modelled from the spec: the `PutRequest` message, with the fields
`PutRequestBuilder.build` sets. An unset field is `none`. -/
structure PutRequest where
  partitionKey : Bytes
  item : Item
  sortKey : Option Bytes
  conditionExpression : Option String
  /-- `expression_values`, a protobuf map. -/
  expressionValues : MapField String Value

/-- Modelled from the spec: the `GetRequest` message. -/
structure GetRequest where
  partitionKey : Bytes
  sortKey : Option Bytes

/-- The `sort_key_condition` dictionary of a query: `{"equal_to": value}`,
`{"begins_with": value}` or `{"between": {"lower": lower, "upper": upper}}`. -/
inductive SortKeyCondition where
  | equalTo (value : Bytes)
  | beginsWith (value : Bytes)
  | between (lower upper : Bytes)
  deriving DecidableEq, Repr

/-- The dictionary `QueryRequestBuilder.build` returns. -/
structure QueryRequest where
  partitionKey : Bytes
  sortKeyCondition : Option SortKeyCondition
  filterExpression : Option String
  expressionValues : Dict String ValueArgument
  indexName : Option String
  limit : Option Int
  exclusiveStartKey : Option (Dict String Value)
  scanForward : Option Bool

/-- The dictionary `ScanRequestBuilder.build` returns. -/
structure ScanRequest where
  filterExpression : Option String
  expressionValues : Dict String ValueArgument
  limit : Option Int
  exclusiveStartKey : Option (Dict String Value)
  indexName : Option String
  segment : Option Int
  totalSegments : Option Int

/-- Modelled from the spec: one chunk of the Scan response stream, a page of items
and an error text that is empty when the chunk reports no error. -/
structure ScanResponse where
  items : List Item
  error : String

/-! ## Data-model invariants -/

/-- A stored item is addressed by a non-empty partition key. -/
def PutRequest.WellFormed (request : PutRequest) : Prop := request.partitionKey ≠ []

/-- A read is addressed by a non-empty partition key. -/
def GetRequest.WellFormed (request : GetRequest) : Prop := request.partitionKey ≠ []

/-- The bounds of a `Between` condition are in byte order; the other two
conditions constrain nothing. -/
def SortKeyCondition.WellFormed : SortKeyCondition → Prop
  | .between lower upper => lower ≤ upper
  | .equalTo _ | .beginsWith _ => True

/-- A query names a non-empty partition and a well-formed sort-key condition. -/
def QueryRequest.WellFormed (request : QueryRequest) : Prop :=
  request.partitionKey ≠ [] ∧ ∀ condition ∈ request.sortKeyCondition, condition.WellFormed

/-- A segment descriptor, when set, names a segment below the segment count, which
is therefore positive. -/
def ScanRequest.WellFormed (request : ScanRequest) : Prop :=
  ∀ segment ∈ request.segment, ∀ totalSegments ∈ request.totalSegments,
    0 ≤ segment ∧ segment < totalSegments

instance : DecidablePred PutRequest.WellFormed := fun request =>
  inferInstanceAs (Decidable (request.partitionKey ≠ []))

instance : DecidablePred GetRequest.WellFormed := fun request =>
  inferInstanceAs (Decidable (request.partitionKey ≠ []))

instance : DecidablePred SortKeyCondition.WellFormed
  | .between lower upper => inferInstanceAs (Decidable (lower ≤ upper))
  | .equalTo _ => isTrue trivial
  | .beginsWith _ => isTrue trivial

instance : DecidablePred QueryRequest.WellFormed := fun request =>
  inferInstanceAs (Decidable (request.partitionKey ≠ [] ∧
    ∀ condition ∈ request.sortKeyCondition, condition.WellFormed))

instance : DecidablePred ScanRequest.WellFormed := fun request =>
  inferInstanceAs (Decidable (∀ segment ∈ request.segment,
    ∀ totalSegments ∈ request.totalSegments, 0 ≤ segment ∧ segment < totalSegments))

end KeystoneClient
