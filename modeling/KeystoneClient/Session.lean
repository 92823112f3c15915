import KeystoneClient.Client

/-!
# Calls on one client inside a `with` statement

A caller makes a sequence of calls on one client, each one of the ten unary methods
or a Scan. Each call is exactly one stub call: a unary method passes its request
once and a Scan opens one stream, and no method retries. The first exception ends
the sequence and reaches the caller, so the calls that ran are a prefix of the
sequence whose calls all returned except the last, which raised. Inside a `with`
statement the channel is closed afterwards on every path, the raising ones included.

A call's outcome never depends on the channel: the client keeps no state that its
methods read. Only the stub calls and the closed flag are followed here; what a Scan
leaves pending is the subject of `ScanStream`.
-/

namespace KeystoneClient

/-- The ten methods of `Client` that pass their request to the stub and return its
reply. -/
inductive UnaryMethod where
  | put | get | delete | query | batchGet | batchWrite
  | transactGet | transactWrite | update | executeStatement
  deriving DecidableEq, Repr

/-- The stub procedure each method calls; none of them is Scan. -/
def UnaryMethod.rpc : UnaryMethod → Rpc
  | .put => .put
  | .get => .get
  | .delete => .delete
  | .query => .query
  | .batchGet => .batchGet
  | .batchWrite => .batchWrite
  | .transactGet => .transactGet
  | .transactWrite => .transactWrite
  | .update => .update
  | .executeStatement => .executeStatement

/-- One call a caller makes on a client: a unary method with its request, or a Scan. -/
inductive Operation (Message : Type) where
  | unary (method : UnaryMethod) (request : Message)
  | scan (request : ScanRequest)

/-- The remote procedure a call reaches. -/
def Operation.rpc {Message : Type} : Operation Message → Rpc
  | .unary method _ => method.rpc
  | .scan _ => .scan

namespace Client

variable {Message : Type}

/-- The client method a unary call makes. -/
def call (client : Client Message) : UnaryMethod → Message → Effect Message
  | .put => client.put
  | .get => client.get
  | .delete => client.delete
  | .query => client.query
  | .batchGet => client.batchGet
  | .batchWrite => client.batchWrite
  | .transactGet => client.transactGet
  | .transactWrite => client.transactWrite
  | .update => client.update
  | .executeStatement => client.executeStatement

end Client

end KeystoneClient
