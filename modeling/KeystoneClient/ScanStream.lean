import KeystoneClient.Client

/-!
# Draining the Scan stream

`Client.scan` makes one stub call and pulls the streamed chunks one at a time. Over
a stream of any length there are two runs. When no chunk reports an error, the loop
returns every chunk's items in arrival order and leaves nothing pending. Otherwise
it raises with the error of the first chunk that reports one; the chunks after that
one are still pending, and the items gathered before it are dropped with the loop.

The specification describes the same aggregation as a state machine: `Idle`, then
`Receiving` while chunks arrive, and at the end `Completed` or `Failed`, both
terminal. `Aggregation` is that machine over the transport's deliveries, and
`scan_refines_aggregation` shows the client's loop ends with the outcome the machine
ends in, for every stream.
-/

namespace KeystoneClient

namespace Client

variable {Message : Type}

/-- A stream in which no chunk reports an error is drained: its items follow the
ones gathered, in arrival order, and nothing is left pending.

Proof: induction over the stream. Each clean chunk is one `scanLoop_received` step,
and the pending stream shrinks with the loop's own list. -/
theorem scanLoop_completed (items : List Item) (chunks : List ScanResponse) (channel : Channel)
    (clean : ∀ chunk ∈ chunks, chunk.error = "") :
    scanLoop items chunks { channel with pending := chunks } =
      (.ok (items ++ chunks.flatMap ScanResponse.items), { channel with pending := [] }) := by
  induction chunks generalizing items with
  | nil => simp
  | cons chunk rest inductionHypothesis =>
    rw [scanLoop_received _ _ _ _ (clean chunk (List.mem_cons_self _ _))]
    simpa only [List.flatMap_cons, List.append_assoc] using
      inductionHypothesis (items ++ chunk.items) (fun later member => clean later (List.mem_cons_of_mem _ member))

/-- At the first chunk that reports an error the loop raises with that error, and
the chunks after it are still pending, whatever items were gathered before. -/
theorem scanLoop_first_error (items : List Item) (before : List ScanResponse)
    (failed : ScanResponse) (rest : List ScanResponse) (channel : Channel)
    (clean : ∀ chunk ∈ before, chunk.error = "") (reported : failed.error ≠ "") :
    scanLoop items (before ++ failed :: rest) { channel with pending := before ++ failed :: rest } =
      (.error ("Scan error: " ++ failed.error), { channel with pending := rest }) := by
  induction before generalizing items with
  | nil => exact scanLoop_failed _ _ _ _ reported
  | cons chunk earlier inductionHypothesis =>
    rw [List.cons_append, scanLoop_received _ _ _ _ (clean chunk (List.mem_cons_self _ _))]
    exact inductionHypothesis _ (fun later member => clean later (List.mem_cons_of_mem _ member))

/-- `scan` makes exactly one stub call, to Scan, and then either returns the items of
every chunk in arrival order, when no chunk reports an error, or raises with the
error of the first chunk that reports one, with no items, leaving every later chunk
unpulled. -/
theorem scan_fail_fast (client : Client Message) (request : ScanRequest) (channel : Channel) :
    let chunks := client.stub.scan request
    let opened : Channel := { channel with calls := channel.calls ++ [Rpc.scan] }
    ((∀ chunk ∈ chunks, chunk.error = "") →
        client.scan request channel =
          (.ok (chunks.flatMap ScanResponse.items), { opened with pending := [] })) ∧
      (∀ before failed rest, chunks = before ++ failed :: rest →
        (∀ chunk ∈ before, chunk.error = "") → failed.error ≠ "" →
          client.scan request channel =
            (.error ("Scan error: " ++ failed.error), { opened with pending := rest })) := by
  intro chunks opened
  refine ⟨fun clean => ?_, fun before failed rest split clean reported => ?_⟩
  · simpa only [List.nil_append] using scanLoop_completed [] chunks opened clean
  · have failing := scanLoop_first_error [] before failed rest opened clean reported
    rw [← split] at failing
    exact failing

/-- Two clean chunks and the end of the stream give both items, in order. Two clean
chunks, the error `E` and one more chunk raise `E` with no item, and the last chunk
is never pulled. -/
theorem scan_stops_at_first_error :
    let first : ScanResponse := ⟨[⟨.ofDict (Dict.empty.set "id" (.numberValue "1"))⟩], ""⟩
    let second : ScanResponse := ⟨[⟨.ofDict (Dict.empty.set "id" (.numberValue "2"))⟩], ""⟩
    let failing : ScanResponse := ⟨[], "E"⟩
    let request : ScanRequest := ⟨none, Dict.empty, none, none, none, none, none⟩
    (⟨⟨fun _ _ => .ok (), fun _ => [first, second]⟩⟩ : Client Unit).scan request ⟨[], [], false⟩ =
        (.ok (first.items ++ second.items), ⟨[.scan], [], false⟩) ∧
      (⟨⟨fun _ _ => .ok (), fun _ => [first, second, failing, first]⟩⟩ : Client Unit).scan request
          ⟨[], [], false⟩ =
        (.error "Scan error: E", ⟨[.scan], [first], false⟩) := by
  intro first second failing request
  exact ⟨(scan_fail_fast _ request _).1 (by decide),
    (scan_fail_fast _ request _).2 [first, second] failing [first] rfl (by decide) (by decide)⟩

end Client

/-! ## The aggregation state machine -/

/-- Modelled from the spec: the states of one Scan aggregation. -/
inductive Aggregation where
  /-- The request is sent and no chunk has arrived. -/
  | idle
  /-- Chunks are arriving; `items` are those gathered so far. -/
  | receiving (items : List Item)
  /-- The stream ended with no error. -/
  | completed (items : List Item)
  /-- A chunk reported `error`. -/
  | failed (error : String)

/-- What the transport delivers next: a chunk, or the end of the stream. -/
inductive Delivery where
  | chunk (response : ScanResponse)
  | endOfStream

namespace Aggregation

/-- Modelled from the spec: one delivery while receiving with `items` gathered. A
chunk with an error fails, any other chunk adds its items, and the end of the
stream completes. -/
def receive (items : List Item) : Delivery → Aggregation
  | .chunk response =>
    if response.error ≠ "" then .failed response.error else .receiving (items ++ response.items)
  | .endOfStream => .completed items

/-- Modelled from the spec: one transition. `Idle` receives as `Receiving` with
nothing gathered; the two final states ignore whatever is delivered. -/
def step : Aggregation → Delivery → Aggregation
  | .idle, delivery => receive [] delivery
  | .receiving items, delivery => receive items delivery
  | .completed items, _ => .completed items
  | .failed error, _ => .failed error

/-- What a caller sees of a final state: the items, or the exception that
`Client.scan` raises for the error. The other states have no outcome yet. -/
def outcome : Aggregation → Option (Except String (List Item))
  | .completed items => some (.ok items)
  | .failed error => some (.error ("Scan error: " ++ error))
  | .idle | .receiving _ => none

/-- The deliveries of a stream: each chunk in arrival order, then its end. -/
def deliveries (chunks : List ScanResponse) : List Delivery :=
  chunks.map .chunk ++ [.endOfStream]

/-- `Failed` is terminal: no delivery leaves it. -/
theorem failed_foldl (error : String) (later : List Delivery) :
    later.foldl step (.failed error) = .failed error := by
  induction later <;> simp [step, *]

/-- `Idle` and `Receiving` with nothing gathered go through the same transitions. -/
theorem idle_foldl (chunks : List ScanResponse) :
    (deliveries chunks).foldl step .idle = (deliveries chunks).foldl step (.receiving []) := by
  cases chunks <;> rfl

/-- Each pass of the client's loop is one transition from `Receiving`: from the
same items, over every stream, the loop ends with the outcome the machine ends in.

Proof: induction over the stream. A chunk with an error is the last pass and moves
the machine to `Failed`, which keeps it; a clean chunk moves both to the same
gathered items. -/
theorem scanLoop_simulates (items : List Item) (chunks : List ScanResponse) (channel : Channel) :
    some (Client.scanLoop items chunks channel).1 =
      ((deliveries chunks).foldl step (.receiving items)).outcome := by
  induction chunks generalizing items channel with
  | nil => rfl
  | cons chunk rest inductionHypothesis =>
    by_cases reported : chunk.error ≠ ""
    · rw [Client.scanLoop_failed _ _ _ _ reported]
      simp [deliveries, step, receive, reported, failed_foldl, outcome]
    · have clean : chunk.error = "" := not_not.mp reported
      rw [Client.scanLoop_received _ _ _ _ clean, inductionHypothesis]
      simp [deliveries, step, receive, clean]

end Aggregation

/-- The client's Scan refines the specification's aggregation: for every stream the
service sends, `scan` returns or raises what the machine's final state says, and
the machine always reaches a final state. -/
theorem scan_refines_aggregation {Message : Type} (client : Client Message)
    (request : ScanRequest) (channel : Channel) :
    some (client.scan request channel).1 =
      ((Aggregation.deliveries (client.stub.scan request)).foldl Aggregation.step .idle).outcome := by
  rw [Aggregation.idle_foldl]
  exact Aggregation.scanLoop_simulates _ _ _

end KeystoneClient
