import KeystoneClient.Builders

/-!
# What a chain of mutator calls leaves in a request

Every mutator writes its field whole: an attribute assignment replaces the keyword
dictionary stored under its name, and a sort-key mutator replaces the condition.
So after any chain of calls each field holds the argument of the last call that
writes it, and its initial content when no call does (`field_overwrite_foldl`).
Fields that no call writes keep their initial content (`field_frame_foldl`).

Beside the builders stands what each call writes, read off the call alone
(`PutCall.writes`, `QueryCall.sortKeyCondition`). The step lemmas relate one call
of the builder to it; the run lemmas follow from the two chain lemmas, with no
induction of their own; `build` then copies the fields into the request.
-/

namespace KeystoneClient

/-! ## Chains of calls -/

section Chains

variable {State Call Field : Type}

/-- A field that each call either overwrites with its own argument or leaves alone
ends a chain of calls with the argument of the last call that writes it, and with
its initial content when no call does. -/
theorem field_overwrite_foldl (apply : State → Call → State) (field : State → Option Field)
    (write : Call → Option Field)
    (overwrite : ∀ state call, field (apply state call) = (write call).or (field state))
    (state : State) (calls : List Call) :
    field (calls.foldl apply state) = (calls.filterMap write).getLast?.or (field state) := by
  induction calls using List.reverseRecOn with
  | nil => simp
  | append_singleton calls call inductionHypothesis =>
    cases written : write call <;> simp [overwrite, inductionHypothesis, written]

/-- A field that no call changes keeps its initial content along every chain. -/
theorem field_frame_foldl (apply : State → Call → State) (field : State → Field)
    (unchanged : ∀ state call, field (apply state call) = field state)
    (state : State) (calls : List Call) : field (calls.foldl apply state) = field state := by
  induction calls generalizing state with
  | nil => rfl
  | cons call later inductionHypothesis => exact (inductionHypothesis _).trans (unchanged state call)

/-- The last value of a chain is present exactly when some call writes one. -/
theorem getLast_filterMap_isSome (write : Call → Option Field) (calls : List Call) :
    ((calls.filterMap write).getLast?).isSome ↔ ∃ call ∈ calls, (write call).isSome := by
  simp [Option.isSome_iff_ne_none]

end Chains

/-! ## Put -/

namespace PutCall

/-- The value a call stores under attribute `name`: the typed value of an attribute
mutator called with that name, and nothing for any other call. -/
def writes (name : String) : PutCall → Option Value
  | .withString key value => if key = name then some (.stringValue value) else none
  | .withNumber key value => if key = name then some (.numberValue value) else none
  | .withBool key value => if key = name then some (.boolValue value) else none
  | .withBinary key value => if key = name then some (.binaryValue value) else none
  | .withSortKey _ | .withCondition _ => none

/-- The argument of a `with_sort_key` call. -/
def sortKey : PutCall → Option Bytes
  | .withSortKey sortKey => some sortKey
  | _ => none

/-- The argument of a `with_condition` call. -/
def condition : PutCall → Option String
  | .withCondition condition => some condition
  | _ => none

end PutCall

namespace PutRequestBuilder

/-- The value an attribute would have in the built item. -/
def storedValue (builder : PutRequestBuilder) (name : String) : Option Value :=
  (builder.attributes.get name).map ValueArgument.toValue

/-- No call changes the partition key. -/
theorem partitionKey_apply (builder : PutRequestBuilder) (call : PutCall) :
    (builder.apply call).partitionKey = builder.partitionKey := by
  cases call <;> rfl

/-- Only `with_sort_key` writes the sort key. -/
theorem sortKey_apply (builder : PutRequestBuilder) (call : PutCall) :
    (builder.apply call).sortKey = call.sortKey.or builder.sortKey := by
  cases call <;> rfl

/-- Only `with_condition` writes the condition. -/
theorem condition_apply (builder : PutRequestBuilder) (call : PutCall) :
    (builder.apply call).condition = call.condition.or builder.condition := by
  cases call <;> rfl

/-- One call stores the value it writes under its own name and leaves every other
attribute as it was. -/
theorem storedValue_apply (builder : PutRequestBuilder) (call : PutCall) (name : String) :
    (builder.apply call).storedValue name = (call.writes name).or (builder.storedValue name) := by
  cases call <;>
    simp only [apply, withString, withNumber, withBool, withBinary, withAttribute, withSortKey,
      withCondition, storedValue, PutCall.writes, Dict.get_set, Option.none_or] <;>
    split <;> rfl

/-- The partition key is the constructor's along every chain. -/
theorem partitionKey_run (builder : PutRequestBuilder) (calls : List PutCall) :
    (builder.run calls).partitionKey = builder.partitionKey :=
  field_frame_foldl apply partitionKey partitionKey_apply builder calls

/-- The sort key is the argument of the last `with_sort_key` call. -/
theorem sortKey_run (builder : PutRequestBuilder) (calls : List PutCall) :
    (builder.run calls).sortKey = (calls.filterMap PutCall.sortKey).getLast?.or builder.sortKey :=
  field_overwrite_foldl apply sortKey PutCall.sortKey sortKey_apply builder calls

/-- The condition is the argument of the last `with_condition` call. -/
theorem condition_run (builder : PutRequestBuilder) (calls : List PutCall) :
    (builder.run calls).condition =
      (calls.filterMap PutCall.condition).getLast?.or builder.condition :=
  field_overwrite_foldl apply condition PutCall.condition condition_apply builder calls

/-- Each attribute holds the value of the last call that writes it. -/
theorem storedValue_run (builder : PutRequestBuilder) (calls : List PutCall) (name : String) :
    (builder.run calls).storedValue name =
      (calls.filterMap (PutCall.writes name)).getLast?.or (builder.storedValue name) :=
  field_overwrite_foldl apply (storedValue · name) (PutCall.writes name)
    (fun state call => storedValue_apply state call name) builder calls

/-- The built item holds, under each name, exactly the stored value. -/
theorem build_attribute (builder : PutRequestBuilder) (name : String) :
    builder.build.item.attributes.get name = builder.storedValue name :=
  Dict.get_mapValues _ _ _

end PutRequestBuilder

/-! ## Get -/

namespace GetRequestBuilder

/-- A built read carries the constructor's partition key and the argument of the
last `with_sort_key` call, unset when there is none. -/
theorem build_run (partitionKey : Bytes) (calls : List Bytes) :
    ((init partitionKey).run calls).build = ⟨partitionKey, calls.getLast?⟩ := by
  have lastSortKey := field_overwrite_foldl withSortKey (·.sortKey) some (fun _ _ => rfl)
    (init partitionKey) calls
  simp only [List.filterMap_some] at lastSortKey
  exact congrArg₂ GetRequest.mk (field_frame_foldl withSortKey (·.partitionKey) (fun _ _ => rfl) _ calls)
    (lastSortKey.trans Option.or_none)

end GetRequestBuilder

/-! ## Query -/

namespace QueryCall

/-- The condition a sort-key mutator sets; the other calls set none. -/
def sortKeyCondition : QueryCall → Option SortKeyCondition
  | .withSortKeyEqual value => some (.equalTo value)
  | .withSortKeyBeginsWith value => some (.beginsWith value)
  | .withSortKeyBetween lower upper => some (.between lower upper)
  | .withLimit _ | .withIndex _ | .withScanForward _ => none

/-- The argument of a `with_limit` call. -/
def limit : QueryCall → Option Int
  | .withLimit limit => some limit
  | _ => none

/-- The argument of a `with_index` call. -/
def indexName : QueryCall → Option String
  | .withIndex indexName => some indexName
  | _ => none

/-- The argument of a `with_scan_forward` call. -/
def scanForward : QueryCall → Option Bool
  | .withScanForward forward => some forward
  | _ => none

end QueryCall

namespace QueryRequestBuilder

/-- No call changes the partition key or the fields no mutator writes. -/
theorem unwritten_apply (builder : QueryRequestBuilder) (call : QueryCall) :
    ((builder.apply call).partitionKey, (builder.apply call).filterExpression,
        (builder.apply call).expressionValues, (builder.apply call).exclusiveStartKey) =
      (builder.partitionKey, builder.filterExpression, builder.expressionValues,
        builder.exclusiveStartKey) := by
  cases call <;> rfl

/-- No call changes the partition key. -/
theorem partitionKey_apply (builder : QueryRequestBuilder) (call : QueryCall) :
    (builder.apply call).partitionKey = builder.partitionKey :=
  congrArg Prod.fst (unwritten_apply builder call)

/-- Only the sort-key mutators write the condition, each replacing it whole. -/
theorem sortKeyCondition_apply (builder : QueryRequestBuilder) (call : QueryCall) :
    (builder.apply call).sortKeyCondition = call.sortKeyCondition.or builder.sortKeyCondition := by
  cases call <;> rfl

/-- Only `with_limit` writes the limit. -/
theorem limit_apply (builder : QueryRequestBuilder) (call : QueryCall) :
    (builder.apply call).limit = call.limit.or builder.limit := by
  cases call <;> rfl

/-- Only `with_index` writes the index name. -/
theorem indexName_apply (builder : QueryRequestBuilder) (call : QueryCall) :
    (builder.apply call).indexName = call.indexName.or builder.indexName := by
  cases call <;> rfl

/-- Only `with_scan_forward` writes the direction. -/
theorem scanForward_apply (builder : QueryRequestBuilder) (call : QueryCall) :
    (builder.apply call).scanForward = call.scanForward.or builder.scanForward := by
  cases call <;> rfl

/-- The partition key is the constructor's along every chain. -/
theorem partitionKey_run (builder : QueryRequestBuilder) (calls : List QueryCall) :
    (builder.run calls).partitionKey = builder.partitionKey :=
  field_frame_foldl apply partitionKey partitionKey_apply builder calls

/-- The condition is the one the last sort-key mutator set. -/
theorem sortKeyCondition_run (builder : QueryRequestBuilder) (calls : List QueryCall) :
    (builder.run calls).sortKeyCondition =
      (calls.filterMap QueryCall.sortKeyCondition).getLast?.or builder.sortKeyCondition :=
  field_overwrite_foldl apply sortKeyCondition QueryCall.sortKeyCondition
    sortKeyCondition_apply builder calls

/-- The limit is the argument of the last `with_limit` call. -/
theorem limit_run (builder : QueryRequestBuilder) (calls : List QueryCall) :
    (builder.run calls).limit = (calls.filterMap QueryCall.limit).getLast?.or builder.limit :=
  field_overwrite_foldl apply limit QueryCall.limit limit_apply builder calls

/-- The index name is the argument of the last `with_index` call. -/
theorem indexName_run (builder : QueryRequestBuilder) (calls : List QueryCall) :
    (builder.run calls).indexName =
      (calls.filterMap QueryCall.indexName).getLast?.or builder.indexName :=
  field_overwrite_foldl apply indexName QueryCall.indexName indexName_apply builder calls

/-- The direction is the argument of the last `with_scan_forward` call. -/
theorem scanForward_run (builder : QueryRequestBuilder) (calls : List QueryCall) :
    (builder.run calls).scanForward =
      (calls.filterMap QueryCall.scanForward).getLast?.or builder.scanForward :=
  field_overwrite_foldl apply scanForward QueryCall.scanForward scanForward_apply builder calls

/-- A built query carries the constructor's partition key and, in each field a
mutator writes, the argument of the last call that writes it; the filter, the
expression values and the start key stay unset. -/
theorem build_run (partitionKey : Bytes) (calls : List QueryCall) :
    ((init partitionKey).run calls).build =
      { partitionKey
        sortKeyCondition := (calls.filterMap QueryCall.sortKeyCondition).getLast?
        filterExpression := none
        expressionValues := Dict.empty
        indexName := (calls.filterMap QueryCall.indexName).getLast?
        limit := (calls.filterMap QueryCall.limit).getLast?
        exclusiveStartKey := none
        scanForward := (calls.filterMap QueryCall.scanForward).getLast? } := by
  have unwritten : (((init partitionKey).run calls).partitionKey,
      ((init partitionKey).run calls).filterExpression,
      ((init partitionKey).run calls).expressionValues,
      ((init partitionKey).run calls).exclusiveStartKey) = (partitionKey, none, Dict.empty, none) :=
    field_frame_foldl apply (fun builder => (builder.partitionKey, builder.filterExpression,
      builder.expressionValues, builder.exclusiveStartKey)) unwritten_apply (init partitionKey) calls
  simp only [Prod.mk.injEq] at unwritten
  simp only [build, unwritten, sortKeyCondition_run, limit_run, indexName_run, scanForward_run]
  simp [init]

end QueryRequestBuilder

/-! ## Scan -/

namespace ScanCall

/-- The argument of a `with_limit` call. -/
def limit : ScanCall → Option Int
  | .withLimit limit => some limit
  | .withSegment _ _ => none

/-- The pair a `with_segment` call passes. -/
def segment : ScanCall → Option (Int × Int)
  | .withSegment segment totalSegments => some (segment, totalSegments)
  | .withLimit _ => none

end ScanCall

namespace ScanRequestBuilder

/-- No call changes the fields no mutator writes. -/
theorem unwritten_apply (builder : ScanRequestBuilder) (call : ScanCall) :
    ((builder.apply call).filterExpression, (builder.apply call).expressionValues,
        (builder.apply call).exclusiveStartKey, (builder.apply call).indexName) =
      (builder.filterExpression, builder.expressionValues, builder.exclusiveStartKey,
        builder.indexName) := by
  cases call <;> rfl

/-- Only `with_limit` writes the limit. -/
theorem limit_apply (builder : ScanRequestBuilder) (call : ScanCall) :
    (builder.apply call).limit = call.limit.or builder.limit := by
  cases call <;> rfl

/-- Only `with_segment` writes the segment. -/
theorem segment_apply (builder : ScanRequestBuilder) (call : ScanCall) :
    (builder.apply call).segment = (call.segment.map Prod.fst).or builder.segment := by
  cases call <;> rfl

/-- Only `with_segment` writes the segment count. -/
theorem totalSegments_apply (builder : ScanRequestBuilder) (call : ScanCall) :
    (builder.apply call).totalSegments = (call.segment.map Prod.snd).or builder.totalSegments := by
  cases call <;> rfl

/-- The limit is the argument of the last `with_limit` call. -/
theorem limit_run (builder : ScanRequestBuilder) (calls : List ScanCall) :
    (builder.run calls).limit = (calls.filterMap ScanCall.limit).getLast?.or builder.limit :=
  field_overwrite_foldl apply limit ScanCall.limit limit_apply builder calls

/-- A field that holds one component of the last `with_segment` pair. -/
theorem segment_component_run (field : ScanRequestBuilder → Option Int)
    (component : Int × Int → Int)
    (overwrite : ∀ builder call, field (apply builder call) = (call.segment.map component).or (field builder))
    (builder : ScanRequestBuilder) (calls : List ScanCall) :
    field (builder.run calls) =
      ((calls.filterMap ScanCall.segment).getLast?.map component).or (field builder) := by
  rw [← List.getLast?_map, List.map_filterMap]
  exact field_overwrite_foldl apply field _ overwrite builder calls

/-- A built scan carries the arguments of the last `with_limit` call and of the
last `with_segment` call, each unset when there is none; the other fields stay
unset. -/
theorem build_run (calls : List ScanCall) :
    (init.run calls).build =
      { filterExpression := none
        expressionValues := Dict.empty
        limit := (calls.filterMap ScanCall.limit).getLast?
        exclusiveStartKey := none
        indexName := none
        segment := (calls.filterMap ScanCall.segment).getLast?.map Prod.fst
        totalSegments := (calls.filterMap ScanCall.segment).getLast?.map Prod.snd } := by
  have unwritten : ((init.run calls).filterExpression, (init.run calls).expressionValues,
      (init.run calls).exclusiveStartKey, (init.run calls).indexName) =
      (none, Dict.empty, none, none) :=
    field_frame_foldl apply (fun builder => (builder.filterExpression, builder.expressionValues,
      builder.exclusiveStartKey, builder.indexName)) unwritten_apply init calls
  simp only [Prod.mk.injEq] at unwritten
  simp only [build, unwritten, limit_run,
    segment_component_run segment Prod.fst segment_apply,
    segment_component_run totalSegments Prod.snd totalSegments_apply]
  simp [init]

end ScanRequestBuilder

/-! ## The built requests -/

/-- A Put request carries the constructor's partition key; its item has as keys
exactly the names some attribute mutator was called with, each holding the typed
value of the last such call; its sort key and condition are the arguments of the
last `with_sort_key` and `with_condition` calls, unset when there is none. A Query
request carries the condition of the last sort-key mutator. -/
theorem builds_carry_last_calls (partitionKey : Bytes) (putCalls : List PutCall)
    (queryCalls : List QueryCall) :
    let put := ((PutRequestBuilder.init partitionKey).run putCalls).build
    put.partitionKey = partitionKey ∧
      (∀ name, name ∈ put.item.attributes.keys ↔ ∃ call ∈ putCalls, (call.writes name).isSome) ∧
      (∀ name, put.item.attributes.get name = (putCalls.filterMap (PutCall.writes name)).getLast?) ∧
      put.sortKey = (putCalls.filterMap PutCall.sortKey).getLast? ∧
      put.conditionExpression = (putCalls.filterMap PutCall.condition).getLast? ∧
      ((QueryRequestBuilder.init partitionKey).run queryCalls).build.sortKeyCondition =
        (queryCalls.filterMap QueryCall.sortKeyCondition).getLast? := by
  intro put
  have stored (name : String) :
      put.item.attributes.get name = (putCalls.filterMap (PutCall.writes name)).getLast? := by
    rw [PutRequestBuilder.build_attribute, PutRequestBuilder.storedValue_run]
    exact Option.or_none
  refine ⟨PutRequestBuilder.partitionKey_run _ putCalls, fun name => ?_, stored,
    (PutRequestBuilder.sortKey_run _ putCalls).trans Option.or_none,
    (PutRequestBuilder.condition_run _ putCalls).trans Option.or_none,
    (QueryRequestBuilder.sortKeyCondition_run _ queryCalls).trans Option.or_none⟩
  rw [MapField.mem_keys_iff_get, stored, getLast_filterMap_isSome]

/-- A later call of another type replaces the value, and the name keeps its place. -/
example : ((PutRequestBuilder.init [117]).run [.withNumber "age" "30", .withString "name" "Alice",
    .withString "age" "thirty"]).build.item.attributes.get "age" = some (.stringValue "thirty") := rfl

/-- The builder's dictionary keeps its names in the order of their first assignment;
the built map keeps none. -/
example : ((PutRequestBuilder.init [117]).run [.withNumber "age" "30", .withString "name" "Alice",
    .withString "age" "thirty"]).attributes.keys = ["age", "name"] := by decide

end KeystoneClient
