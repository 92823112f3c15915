import KeystoneClient.BuilderRuns

/-!
# What `build()` lets through

No builder validates: `build()` returns its fields as they stand and raises nothing,
so the model's `build` is a total function. A built request therefore satisfies the
data-model invariants exactly when the arguments that reach its fields do: the
constructor's partition key, the bounds of the last sort-key mutator, and the pair
of the last `with_segment` call. A malformed argument is passed through, as the
concrete requests at the end show.

The proof reads each built request off the run lemmas of `BuilderRuns`; only the
invariants remain to be unfolded.
-/

namespace KeystoneClient

/-- Every builder returns a request, for every constructor argument and every chain
of mutator calls. The request is well formed exactly when its arguments are: the
partition key is not empty, the last sort-key mutator, if it is `Between`, has its
bounds in byte order, and the last `with_segment` call, if any, names a segment
below a positive count. -/
theorem builds_well_formed_iff_arguments (partitionKey : Bytes) (putCalls : List PutCall)
    (getCalls : List Bytes) (queryCalls : List QueryCall) (scanCalls : List ScanCall) :
    (((PutRequestBuilder.init partitionKey).run putCalls).build.WellFormed ↔
        partitionKey ≠ []) ∧
      (((GetRequestBuilder.init partitionKey).run getCalls).build.WellFormed ↔
        partitionKey ≠ []) ∧
      (((QueryRequestBuilder.init partitionKey).run queryCalls).build.WellFormed ↔
        partitionKey ≠ [] ∧ ∀ condition ∈ (queryCalls.filterMap QueryCall.sortKeyCondition).getLast?,
          condition.WellFormed) ∧
      ((ScanRequestBuilder.init.run scanCalls).build.WellFormed ↔
        ∀ descriptor ∈ (scanCalls.filterMap ScanCall.segment).getLast?,
          0 ≤ descriptor.1 ∧ descriptor.1 < descriptor.2) := by
  refine ⟨?_, ?_, ?_, ?_⟩
  · simp only [PutRequest.WellFormed, PutRequestBuilder.build, PutRequestBuilder.partitionKey_run]
    rfl
  · rw [GetRequestBuilder.build_run]
    rfl
  · rw [QueryRequestBuilder.build_run]
    rfl
  · rw [ScanRequestBuilder.build_run]
    rcases (scanCalls.filterMap ScanCall.segment).getLast? with _ | ⟨segment, totalSegments⟩ <;>
      simp [ScanRequest.WellFormed]

/-- The segment 0 of 4 segments is well formed. -/
example : (ScanRequestBuilder.init.withSegment 0 4).build.WellFormed := by decide

/-- An empty partition key, the segment 4 of 4 segments, and `Between` bounds out of
order each come back from `build()` in a malformed request. -/
theorem malformed_requests_build :
    ¬ (PutRequestBuilder.init []).build.WellFormed ∧
      ¬ (ScanRequestBuilder.init.withSegment 4 4).build.WellFormed ∧
      ¬ ((QueryRequestBuilder.init [1]).withSortKeyBetween [2] [1]).build.WellFormed := by
  decide

end KeystoneClient
