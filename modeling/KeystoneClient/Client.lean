import KeystoneClient.Messages

/-!
# The gRPC client

`Client` of `client.py`. A client owns a channel and a stub and holds no other
state. What it does to the channel is explicit: the stub calls made, in order, the
part of the open Scan stream not yet pulled, and whether the channel is closed. A
method is a function from the channel before the call to its outcome, a value or
the text of the exception it raises, and the channel after.

Ten methods pass their request to the stub and return its reply. They share one
body, `unary`, and each is that body at its own remote procedure. `scan` opens the
streamed response and drains it, raising at the first chunk that reports an error.
`withStatement` is the `with` statement, whose exit closes the channel on every path.
-/

namespace KeystoneClient

/-- The remote procedures of the KeystoneDB service, as the stub names them. -/
inductive Rpc where
  | put | get | delete | query | scan | batchGet | batchWrite
  | transactGet | transactWrite | update | executeStatement
  deriving DecidableEq, Repr

/-- Modelled from the spec: the generated `KeystoneDBStub`, absent from the sources,
as the remote service answers through it. Unary requests and replies are messages
the client passes through without reading. -/
structure Stub (Message : Type) where
  /-- The reply to a unary call: a message, or the text of the error raised. -/
  unary : Rpc → Message → Except String Message
  /-- The chunks the Scan stream yields for a request, in arrival order. -/
  scan : ScanRequest → List ScanResponse

/-- What the client has done to its channel. -/
structure Channel where
  /-- Every stub call, oldest first. -/
  calls : List Rpc
  /-- The chunks of the open Scan stream that have not been pulled. -/
  pending : List ScanResponse
  /-- Whether `close()` has closed the channel. -/
  closed : Bool

/-- A client method's effect: from the channel before the call, the outcome (an
`error` is an exception raised to the caller) and the channel after. -/
abbrev Effect (α : Type) := Channel → Except String α × Channel

/-- A `Client`. Its channel is the state that its methods pass along. -/
structure Client (Message : Type) where
  stub : Stub Message

namespace Client

variable {Message α : Type}

/-- `Client.connect(address)`: a client over a fresh channel to the service at
`address`, which the stub stands for. -/
def connect (stub : Stub Message) : Client Message × Channel := (⟨stub⟩, ⟨[], [], false⟩)

/-- One stub call, recorded on the channel. -/
def invoke (rpc : Rpc) (channel : Channel) : Channel :=
  { channel with calls := channel.calls ++ [rpc] }

/-- `return self._stub.<rpc>(request)`, the body of the ten unary methods. The reply
is returned, or its error raised, as it comes: there is no retry. -/
def unary (client : Client Message) (rpc : Rpc) (request : Message) : Effect Message :=
  fun channel => (client.stub.unary rpc request, invoke rpc channel)

/-- `put(request)`. -/
def put (client : Client Message) : Message → Effect Message := client.unary .put
/-- `get(request)`. -/
def get (client : Client Message) : Message → Effect Message := client.unary .get
/-- `delete(request)`. -/
def delete (client : Client Message) : Message → Effect Message := client.unary .delete
/-- `query(request)`. -/
def query (client : Client Message) : Message → Effect Message := client.unary .query
/-- `batch_get(request)`. -/
def batchGet (client : Client Message) : Message → Effect Message := client.unary .batchGet
/-- `batch_write(request)`. -/
def batchWrite (client : Client Message) : Message → Effect Message := client.unary .batchWrite
/-- `transact_get(request)`. -/
def transactGet (client : Client Message) : Message → Effect Message := client.unary .transactGet
/-- `transact_write(request)`. -/
def transactWrite (client : Client Message) : Message → Effect Message :=
  client.unary .transactWrite
/-- `update(request)`. -/
def update (client : Client Message) : Message → Effect Message := client.unary .update
/-- `execute_statement(request)`. -/
def executeStatement (client : Client Message) : Message → Effect Message :=
  client.unary .executeStatement

/-- `for response in stream:` with the body of `scan`. `stream` is what the iterator
has left to yield; each pull leaves the rest of it on the channel. A chunk with an
error raises before its items are added, and the loop pulls nothing more. -/
def scanLoop (items : List Item) : List ScanResponse → Effect (List Item)
  | [], channel => (.ok items, channel)
  | response :: rest, channel =>
    let pulled := { channel with pending := rest }
    if response.error ≠ "" then (.error ("Scan error: " ++ response.error), pulled)
    else scanLoop (items ++ response.items) rest pulled

/-- `scan(request)`: one stub call opens the stream, and the loop drains it from an
empty list of items. -/
def scan (client : Client Message) (request : ScanRequest) : Effect (List Item) :=
  fun channel =>
    let stream := client.stub.scan request
    scanLoop [] stream { invoke .scan channel with pending := stream }

/-- An exhausted stream returns the items gathered. -/
@[simp] theorem scanLoop_nil (items : List Item) (channel : Channel) :
    scanLoop items [] channel = (.ok items, channel) := rfl

/-- A chunk reporting an error ends the loop with that error. The chunk has been
pulled; the rest of the stream has not. -/
theorem scanLoop_failed (items : List Item) (response : ScanResponse)
    (rest : List ScanResponse) (channel : Channel) (reported : response.error ≠ "") :
    scanLoop items (response :: rest) channel =
      (.error ("Scan error: " ++ response.error), { channel with pending := rest }) := by
  simp [scanLoop, reported]

/-- A chunk with no error adds its items after the ones gathered, and the loop
goes on with the rest of the stream. -/
theorem scanLoop_received (items : List Item) (response : ScanResponse)
    (rest : List ScanResponse) (channel : Channel) (clean : response.error = "") :
    scanLoop items (response :: rest) channel =
      scanLoop (items ++ response.items) rest { channel with pending := rest } := by
  simp [scanLoop, clean]

end Client

end KeystoneClient
