/-! Why a message store could not do what was asked. -/
namespace ChatRelay.Store

inductive DatabaseFault where
  | rowNotFound
  | poolTimedOut
  | poolClosed
  | workerCrashed
  | protocol (detail : String)
  | columnNotFound (name : String)
  deriving DecidableEq, Repr

def DatabaseFault.message : DatabaseFault → String
  | .rowNotFound => "no rows returned by a query that expected to return at least one row"
  | .poolTimedOut => "pool timed out while waiting for an open connection"
  | .poolClosed => "attempted to acquire a connection on a closed pool"
  | .workerCrashed => "attempted to communicate with a crashed background worker"
  | .protocol detail => "encountered unexpected or invalid data: " ++ detail
  | .columnNotFound name => "no column found for name: " ++ name

inductive StoreError where
  | database (fault : DatabaseFault)
  | unavailable (reason : String)
  | invalidData (reason : String)
  deriving DecidableEq, Repr

def StoreError.message : StoreError → String
  | .database fault => "PostgreSQL error: " ++ fault.message
  | .unavailable reason => "Store unavailable: " ++ reason
  | .invalidData reason => "Invalid stored data: " ++ reason

end ChatRelay.Store
