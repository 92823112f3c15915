import KeystoneClient.BuilderRuns
import Mathlib.Data.List.Nodup

/-!
# The requests the builders can build

Each builder is a state machine: its constructor starts it and its mutator calls
are its steps. A request is buildable when some constructor argument and some chain
of calls produce it, and each theorem here gives that set exactly.

Soundness says what no chain can do. A field that no mutator writes keeps its
constructor value, so a built Query or Scan never carries a filter, expression
values or a pagination start key, a built Scan never names an index, and a built Put
never carries expression values, whatever condition `with_condition` has set. An
attribute only ever holds one of the four values the attribute mutators store, never
null, a list or a map. Completeness builds a chain for every other request, one call
for each field that is set, and one attribute call for each attribute, each name
once.
-/

namespace KeystoneClient

/-! ## Put -/

/-- A value an attribute mutator can store: text, a number, a flag or bytes. -/
def Value.IsScalar : Value → Prop
  | .stringValue _ | .numberValue _ | .boolValue _ | .binaryValue _ => True
  | .nullValue | .listValue _ | .mapValue _ => False

instance : DecidablePred Value.IsScalar
  | .stringValue _ | .numberValue _ | .boolValue _ | .binaryValue _ => isTrue trivial
  | .nullValue | .listValue _ | .mapValue _ => isFalse id

/-- The scalar values are exactly the values `pb.Value(**val)` gives for the keyword
arguments the attribute mutators store. -/
theorem Value.isScalar_iff (value : Value) :
    value.IsScalar ↔ ∃ argument : ValueArgument, argument.toValue = value := by
  constructor
  · intro scalar
    cases value with
    | stringValue value => exact ⟨.stringValue value, rfl⟩
    | numberValue value => exact ⟨.numberValue value, rfl⟩
    | boolValue value => exact ⟨.boolValue value, rfl⟩
    | binaryValue value => exact ⟨.binaryValue value, rfl⟩
    | nullValue | listValue _ | mapValue _ => exact scalar.elim
  · rintro ⟨argument, rfl⟩
    cases argument <;> trivial

/-- Entries whose values are all scalars are the encoding of keyword arguments. -/
theorem exists_arguments (entries : List (String × Value))
    (scalar : ∀ entry ∈ entries, entry.2.IsScalar) :
    ∃ arguments : List (String × ValueArgument),
      arguments.map (fun argument => (argument.1, argument.2.toValue)) = entries := by
  induction entries with
  | nil => exact ⟨[], rfl⟩
  | cons entry rest inductionHypothesis =>
    obtain ⟨argument, encoded⟩ := (Value.isScalar_iff entry.2).mp (scalar entry (List.mem_cons_self _ _))
    obtain ⟨arguments, encodedRest⟩ :=
      inductionHypothesis fun later member => scalar later (List.mem_cons_of_mem _ member)
    exact ⟨(entry.1, argument) :: arguments, by simp [encoded, encodedRest]⟩

/-- The attribute mutator call that stores `argument` under `name`. -/
def PutCall.ofArgument (name : String) : ValueArgument → PutCall
  | .stringValue value => .withString name value
  | .numberValue value => .withNumber name value
  | .boolValue value => .withBool name value
  | .binaryValue value => .withBinary name value

/-- The calls that set the optional fields of a Put, its sort key and condition,
followed by one attribute call for each of `arguments`, in order. -/
def PutRequest.calls (request : PutRequest) (arguments : List (String × ValueArgument)) :
    List PutCall :=
  request.sortKey.toList.map .withSortKey ++
    request.conditionExpression.toList.map .withCondition ++
    arguments.map fun argument => .ofArgument argument.1 argument.2

namespace PutRequestBuilder

/-- No call writes the expression values. -/
theorem expressionValues_apply (builder : PutRequestBuilder) (call : PutCall) :
    (builder.apply call).expressionValues = builder.expressionValues := by
  cases call <;> rfl

/-- An attribute call is the assignment in the body of its mutator. -/
theorem apply_ofArgument (builder : PutRequestBuilder) (name : String) (value : ValueArgument) :
    builder.apply (.ofArgument name value) = builder.withAttribute name value := by
  cases value <;> rfl

/-- Builders that differ only in their attributes are equal when those hold the same
items in the same order. -/
theorem attributes_congr (builder : PutRequestBuilder) {d e : Dict String ValueArgument}
    (same : d.items = e.items) :
    { builder with attributes := d } = { builder with attributes := e } := by
  rw [Dict.ext_items same]

/-- Attribute calls under names not yet stored append their arguments, in order, and
change nothing else. -/
theorem run_arguments (builder : PutRequestBuilder) (arguments : List (String × ValueArgument))
    (fresh : ((builder.attributes.items ++ arguments).map Prod.fst).Nodup) :
    builder.run (arguments.map fun argument => .ofArgument argument.1 argument.2) =
      { builder with attributes := ⟨builder.attributes.items ++ arguments, fresh⟩ } := by
  induction arguments generalizing builder with
  | nil => exact attributes_congr builder (List.append_nil _).symm
  | cons argument rest inductionHypothesis =>
    obtain ⟨name, value⟩ := argument
    have absent : name ∉ builder.attributes.items.map Prod.fst := fun stored =>
      List.disjoint_of_nodup_append (by simpa only [List.map_append, List.map_cons] using fresh)
        stored (List.mem_cons_self _ _)
    have appended : (builder.withAttribute name value).attributes.items =
        builder.attributes.items ++ [(name, value)] :=
      Dict.setItem_of_not_mem _ _ _ absent
    show (builder.apply _).run _ = _
    rw [apply_ofArgument,
      inductionHypothesis _ (by simpa only [appended, List.append_assoc] using fresh)]
    exact attributes_congr builder
      (by simp only [appended, List.append_assoc, List.singleton_append])

/-- From the constructor, `request.calls arguments` builds the builder that holds the
request's key, sort key and condition, with `arguments` as its attributes. -/
theorem run_calls (request : PutRequest) (arguments : List (String × ValueArgument))
    (fresh : (arguments.map Prod.fst).Nodup) :
    (init request.partitionKey).run (request.calls arguments) =
      { init request.partitionKey with
        sortKey := request.sortKey, attributes := ⟨arguments, fresh⟩,
        condition := request.conditionExpression } := by
  rcases request with ⟨_, _, _ | _, _ | _, _⟩ <;>
    exact run_arguments _ arguments (by exact fresh)

/-- Every built Put request carries no expression values, and each of its
attributes holds a value an attribute mutator stores. -/
theorem build_run_valid (partitionKey : Bytes) (calls : List PutCall) :
    let request := ((init partitionKey).run calls).build
    request.expressionValues = MapField.empty ∧
      ∀ name, ∀ value ∈ request.item.attributes.get name, value.IsScalar := by
  refine ⟨congrArg (fun values : Dict String ValueArgument =>
      MapField.ofDict (values.mapValues ValueArgument.toValue))
    (field_frame_foldl apply expressionValues expressionValues_apply (init partitionKey) calls),
    fun name value stored => ?_⟩
  simp only [build, MapField.get_ofDict, Dict.get_mapValues, Option.mem_def,
    Option.map_eq_some'] at stored
  obtain ⟨argument, -, rfl⟩ := stored
  exact (Value.isScalar_iff _).mpr ⟨argument, rfl⟩

/-- A Put request with no expression values and only scalar attributes is built by
its own chain, with one attribute call for each of its attributes. -/
theorem run_calls_build (request : PutRequest) (noValues : request.expressionValues = MapField.empty)
    (scalar : ∀ name, ∀ value ∈ request.item.attributes.get name, value.IsScalar) :
    ∃ arguments : List (String × ValueArgument), (arguments.map Prod.fst).Nodup ∧
      ((init request.partitionKey).run (request.calls arguments)).build = request := by
  obtain ⟨stored, holds⟩ := MapField.exists_ofDict request.item.attributes
  obtain ⟨arguments, encoded⟩ := exists_arguments stored.items fun entry member =>
    scalar entry.1 entry.2 (by rw [← holds, MapField.get_ofDict, Dict.get_of_mem stored member]; rfl)
  have fresh : (arguments.map Prod.fst).Nodup := by
    have unique := stored.keys_nodup
    rwa [← encoded, List.map_map] at unique
  have same : Dict.mapValues ValueArgument.toValue ⟨arguments, fresh⟩ = stored := Dict.ext_items encoded
  refine ⟨arguments, fresh, ?_⟩
  rw [run_calls request arguments fresh]
  rcases request with ⟨_, ⟨attributes⟩, _, _, _⟩
  subst noValues holds
  simp only [build, same]
  rfl

end PutRequestBuilder

/-- A Put request is built by some partition key and some chain of calls exactly
when its own chain builds it: its sort key and condition when set, then one
attribute call for each of its attributes, each name once. That is exactly when it
carries no expression values and each attribute is a string, a number, a flag or
bytes. -/
theorem put_buildable_iff (request : PutRequest) :
    let buildable :=
      ∃ partitionKey calls, ((PutRequestBuilder.init partitionKey).run calls).build = request
    (buildable ↔ ∃ arguments : List (String × ValueArgument), (arguments.map Prod.fst).Nodup ∧
        ((PutRequestBuilder.init request.partitionKey).run (request.calls arguments)).build = request) ∧
      (buildable ↔ request.expressionValues = MapField.empty ∧
        ∀ name, ∀ value ∈ request.item.attributes.get name, value.IsScalar) := by
  intro buildable
  have valid : buildable → request.expressionValues = MapField.empty ∧
      ∀ name, ∀ value ∈ request.item.attributes.get name, value.IsScalar := by
    rintro ⟨partitionKey, calls, rfl⟩
    exact PutRequestBuilder.build_run_valid partitionKey calls
  refine ⟨⟨fun built => ?_, fun ⟨_, _, built⟩ => ⟨_, _, built⟩⟩,
    ⟨valid, fun ⟨noValues, scalar⟩ => ?_⟩⟩
  · exact PutRequestBuilder.run_calls_build request (valid built).1 (valid built).2
  · obtain ⟨_, _, built⟩ := PutRequestBuilder.run_calls_build request noValues scalar
    exact ⟨_, _, built⟩

/-! ## Query -/

/-- The sort-key mutator call that sets `condition`. -/
def QueryCall.ofCondition : SortKeyCondition → QueryCall
  | .equalTo value => .withSortKeyEqual value
  | .beginsWith value => .withSortKeyBeginsWith value
  | .between lower upper => .withSortKeyBetween lower upper

/-- The calls that set the optional fields of a query: its sort-key condition, limit,
index and direction, each when it is set. -/
def QueryRequest.calls (request : QueryRequest) : List QueryCall :=
  request.sortKeyCondition.toList.map QueryCall.ofCondition ++
    request.limit.toList.map .withLimit ++ request.indexName.toList.map .withIndex ++
    request.scanForward.toList.map .withScanForward

namespace QueryRequestBuilder

/-- Setting each field that `request` sets, from the constructor, gives the builder
that holds exactly those fields. -/
theorem run_calls (request : QueryRequest) :
    (init request.partitionKey).run request.calls =
      { init request.partitionKey with
        sortKeyCondition := request.sortKeyCondition, limit := request.limit,
        indexName := request.indexName, scanForward := request.scanForward } := by
  rcases request with ⟨_, _ | (_ | _ | _), _, _, _ | _, _ | _, _, _ | _⟩ <;> rfl

end QueryRequestBuilder

/-- A query request is built by some partition key and some chain of calls exactly
when it has no filter, no expression values and no pagination start key. -/
theorem query_buildable_iff (request : QueryRequest) :
    (∃ partitionKey calls, ((QueryRequestBuilder.init partitionKey).run calls).build = request) ↔
      request.filterExpression = none ∧ request.expressionValues = Dict.empty ∧
        request.exclusiveStartKey = none := by
  constructor
  · rintro ⟨partitionKey, calls, rfl⟩
    rw [QueryRequestBuilder.build_run]
    exact ⟨rfl, rfl, rfl⟩
  · rintro ⟨noFilter, noValues, noStart⟩
    refine ⟨request.partitionKey, request.calls, ?_⟩
    rw [QueryRequestBuilder.run_calls]
    cases request
    subst noFilter noValues noStart
    rfl

/-! ## Scan -/

/-- The segment and the segment count of a scan request, when both are set. -/
def ScanRequest.descriptor (request : ScanRequest) : Option (Int × Int) :=
  request.segment.bind fun segment => request.totalSegments.map (segment, ·)

/-- The calls that set the optional fields of a scan: its limit and its segment
descriptor, each when it is set. -/
def ScanRequest.calls (request : ScanRequest) : List ScanCall :=
  request.limit.toList.map .withLimit ++
    request.descriptor.toList.map fun descriptor => .withSegment descriptor.1 descriptor.2

namespace ScanRequestBuilder

/-- When the segment and the segment count are set together, setting the limit and
the descriptor that `request` sets gives the builder that holds exactly those
fields. -/
theorem run_calls (request : ScanRequest)
    (paired : request.segment.isSome = request.totalSegments.isSome) :
    init.run request.calls =
      { init with
        limit := request.limit, segment := request.segment,
        totalSegments := request.totalSegments } := by
  rcases request with ⟨_, _, _ | _, _, _, _ | _, _ | _⟩ <;> first | rfl | simp at paired

end ScanRequestBuilder

/-- A scan request is built by some chain of calls exactly when it has no filter,
no expression values, no pagination start key and no index name, and its segment
and segment count are set together. -/
theorem scan_buildable_iff (request : ScanRequest) :
    (∃ calls, (ScanRequestBuilder.init.run calls).build = request) ↔
      request.filterExpression = none ∧ request.expressionValues = Dict.empty ∧
        request.exclusiveStartKey = none ∧ request.indexName = none ∧
        request.segment.isSome = request.totalSegments.isSome := by
  constructor
  · rintro ⟨calls, rfl⟩
    rw [ScanRequestBuilder.build_run]
    exact ⟨rfl, rfl, rfl, rfl, by rw [Option.isSome_map', Option.isSome_map']⟩
  · rintro ⟨noFilter, noValues, noStart, noIndex, paired⟩
    refine ⟨request.calls, ?_⟩
    rw [ScanRequestBuilder.run_calls request paired]
    cases request
    subst noFilter noValues noStart noIndex
    rfl

end KeystoneClient
