import ChatRelay.Store.Error
import ChatRelay.Store.Memory

/-! The store behind the chat service: the memory store, which can be taken down,
and the choice of a store by name. -/
namespace ChatRelay.Store

open Chat Time

/-- Which calls currently fail, and the reason they give. -/
structure Outage where
  saves : Bool := false
  queries : Bool := false
  reason : String := "injected failure"
  deriving DecidableEq, Repr

/-- A memory store that may be unavailable. -/
structure Backend where
  memory : MemoryStore := {}
  outage : Outage := {}
  deriving DecidableEq, Repr

namespace Backend

def name (_ : Backend) : String := "memory"

def save (b : Backend) (id : Uuid) (d : Draft) : Except StoreError (Uuid × Backend) :=
  if b.outage.saves then .error (.unavailable b.outage.reason)
  else
    let (id, m) := b.memory.save id d
    .ok (id, { b with memory := m })

def findRecent (b : Backend) (limit : Nat) (now : Instant) : Except StoreError (List Message) :=
  if b.outage.queries then .error (.unavailable b.outage.reason)
  else .ok (b.memory.findRecent limit now)

def deleteExpired (b : Backend) (now : Instant) : Except StoreError (Nat × Backend) :=
  if b.outage.queries then .error (.unavailable b.outage.reason)
  else
    let (n, m) := b.memory.deleteExpired now
    .ok (n, { b with memory := m })

end Backend

inductive StoreKind where
  | memory
  | postgres
  deriving DecidableEq, Repr

def StoreKind.ofName (name : String) : Except StoreError StoreKind :=
  if name = "postgres" then .ok .postgres
  else if name = "memory" then .ok .memory
  else .error (.unavailable ("unknown store backend: " ++ name))

/-- A character that may start a table name: a lowercase ASCII letter or `_`. -/
def isTableHead (c : Char) : Bool := ('a' ≤ c && c ≤ 'z') || c = '_'

/-- A character that may follow in a table name: also an ASCII digit. -/
def isTableChar (c : Char) : Bool := isTableHead c || ('0' ≤ c && c ≤ '9')

/-- A table name is 1 to 48 characters: a lowercase letter or `_`, then
lowercase letters, digits or `_`. -/
def isValidTableName (s : String) : Bool :=
  match s.toList with
  | [] => false
  | c :: rest => isTableHead c && rest.all isTableChar && rest.length ≤ 47

def checkTableName (s : String) : Except StoreError Unit :=
  if isValidTableName s then .ok () else .error (.unavailable ("invalid table name: " ++ s))

/-- The name of the index a PostgreSQL store makes on its table's expiry
times. -/
def expiryIndexName (table : String) : String := table ++ "_expires_at_idx"

end ChatRelay.Store
