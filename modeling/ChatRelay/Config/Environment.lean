import ChatRelay.Config.Settings
import ChatRelay.Config.Error
import ChatRelay.Config.Path
import ChatRelay.Decimal.Read
import ChatRelay.Decimal.Shortest
import ChatRelay.Json.Error
import ChatRelay.Text.Case

/-! Loading settings from defaults and the environment variables named `app__…`:
the layers are merged into a tree of tables, lists and scalars, the tree is read
into the settings, and the settings' rules are checked. -/
namespace ChatRelay.Config

open Decimal

inductive Scalar where
  | bool (b : Bool)
  | int (i : Int)
  | float (x : Float)
  | str (s : String)

/-- A node of the settings tree: empty, a scalar marked when it came from the
environment, a table of named nodes, or a list of a length whose elements not
listed are empty. -/
inductive Node where
  | nil
  | leaf (v : Scalar) (fromEnv : Bool)
  | table (entries : List (String × Node))
  | array (length : Nat) (items : List (Nat × Node))

def Scalar.ofText (s : String) : Scalar :=
  let lower := Text.toLower s
  if lower = "true" then .bool true
  else if lower = "false" then .bool false
  else match readInt? s with
    | some i => .int i
    | none =>
      match readFloat? s with
      | some x => .float x
      | none => .str s

/-- Set an entry of a list of entries, in place when the key is there. -/
def upsert {κ : Type} [BEq κ] (k : κ) (v : Node) : List (κ × Node) → List (κ × Node)
  | [] => [(k, v)]
  | (k', v') :: rest => if k == k' then (k, v) :: rest else (k', v') :: upsert k v rest

def lookupNode {κ : Type} [BEq κ] (k : κ) (entries : List (κ × Node)) : Node :=
  ((entries.find? (·.1 == k)).map (·.2)).getD .nil

/-- Why setting a path stops the program instead of loading: a list asked to
grow past the memory that can be addressed, or a position past the end of a
list that making room for it emptied. -/
inductive SetFault where
  | capacityOverflow
  | outOfBounds (len index : Nat)
  deriving DecidableEq, Repr

def SetFault.message : SetFault → String
  | .capacityOverflow => "capacity overflow"
  | .outOfBounds len i => s!"index out of bounds: the len is {len} but the index is {i}"

/-- Positions are 64-bit words and wrap around at this modulus. -/
def wordModulus : Nat := Nat.pow 2 64

/-- The most elements a list can hold: 96 bytes each, within 2^63 - 16 bytes. -/
def maxListLength : Nat := (Nat.pow 2 63 - 16) / 96

/-- The position a signed index names in a list of `len` elements, as a
64-bit word: counted from the end when negative, wrapping around below zero. -/
def position (i : Int) (len : Nat) : Nat :=
  if 0 ≤ i then i.toNat else (len + wordModulus - i.natAbs) % wordModulus

/-- The length of a list of `len` elements after making room for position `p`:
a list that is too short gets `p + 1` elements, counted in a 64-bit word, so
that the last word asks for none. -/
def roomFor (p len : Nat) : Except SetFault Nat :=
  if p < len then .ok len
  else if maxListLength < (p + 1) % wordModulus then .error .capacityOverflow
  else .ok ((p + 1) % wordModulus)

/-- Set the node at the end of some steps. A node on the way that a named step
meets and is not a table becomes an empty table, one that a position meets and
is not a list becomes an empty list, and a list grows to hold the position. -/
def Node.setAt (n : Node) : List Step → Node → Except SetFault Node
  | [], v => .ok v
  | .child k :: rest, v => do
    let entries := match n with
      | .table es => es
      | _ => []
    let child ← (lookupNode k entries).setAt rest v
    pure (.table (upsert k child entries))
  | .index i :: rest, v => do
    let (len, items) := match n with
      | .array len items => (len, items)
      | _ => (0, [])
    let p := position i len
    let len ← roomFor p len
    if len ≤ p then throw (.outOfBounds len p)
    let child ← (lookupNode p items).setAt rest v
    pure (.array len (upsert p child items))

def defaultTree : Node :=
  .table [
    ("server", .table [("host", .leaf (.str "0.0.0.0") false), ("port", .leaf (.int 8090) false)]),
    ("chat", .table [("message_lifetime_seconds", .leaf (.int 60) false),
      ("sweep_interval_seconds", .leaf (.int 10) false),
      ("history_page_size", .leaf (.int 50) false)]),
    ("store", .table [("backend", .leaf (.str "memory") false)])]

/-- The key an environment variable sets: its name in lower case must start
with `app__`, and in the rest each `__` becomes a dot. -/
def envKey? (name : String) : Option String :=
  let key := Text.toLower name
  if key.startsWith "app__" then some ((String.ofList (key.toList.drop 5)).replace "__" ".")
  else none

def Node.ofEnvironment (env : List (String × String)) : Except SetFault Node :=
  env.foldlM (fun t p =>
    match envKey? p.1 with
    | some key => t.setAt (Path.ofKey key).toSteps (.leaf (Scalar.ofText p.2) true)
    | none => pure t) defaultTree

/-- How the loader names a scalar it cannot use. -/
def Scalar.found : Scalar → String
  | .bool b => "boolean `" ++ toString b ++ "`"
  | .int i => "64-bit integer `" ++ toString i ++ "`"
  | .float x => "floating point `" ++ plainText x ++ "`"
  | .str s => "string " ++ Text.quote s

/-- How a record names a scalar that stands where the record should. -/
def Scalar.foundByRecord : Scalar → String
  | .bool b => "boolean `" ++ toString b ++ "`"
  | .int i => "integer `" ++ toString i ++ "`"
  | .float x =>
    let t := plainText x
    "floating point `" ++ (if x.isFinite && !t.contains '.' then t ++ ".0" else t) ++ "`"
  | .str s => "string " ++ Text.quote s

def truthOf? (s : String) : Option Bool :=
  let l := Text.toLower s
  if l = "true" ∨ l = "on" ∨ l = "yes" then some true
  else if l = "false" ∨ l = "off" ∨ l = "no" then some false
  else none

/-- An unsigned integer written in decimal, below 2^64. -/
def readUnsigned? (s : String) : Option Nat :=
  let ds := match s.toList with
    | '+' :: rest => rest
    | cs => cs
  if ds.isEmpty || !ds.all Char.isDigit then none
  else
    let n := digitsValue ds
    if n < Nat.pow 2 64 then some n else none

def u64Max : Nat := 18446744073709551615

/-- A double rounded half away from zero and brought into `0 … 2^64 − 1`. -/
def roundToUnsigned (x : Float) : Nat :=
  let r := x.round
  if r.isNaN || r ≤ 0 then 0
  else if r ≥ 18446744073709551616.0 then u64Max
  else r.toUInt64.toNat

namespace Node

def toUnsigned : Node → Except ConfigError Nat
  | .leaf (.int i) env =>
    if 0 ≤ i then .ok i.toNat
    else .error (.mismatch (Scalar.int i).found "an unsigned 64 bit or less integer" none env)
  | .leaf (.bool b) _ => .ok (if b then 1 else 0)
  | .leaf (.float x) _ => .ok (roundToUnsigned x)
  | .leaf (.str s) env =>
    match truthOf? s with
    | some b => .ok (if b then 1 else 0)
    | none =>
      match readUnsigned? s with
      | some n => .ok n
      | none => .error (.mismatch (Scalar.str s).found "an integer" none env)
  | .table _ => .error (.mismatch "map" "an integer" none false)
  | .array .. => .error (.mismatch "sequence" "an integer" none false)
  | .nil => .error (.mismatch "unit value" "an integer" none false)

def toUnsignedBits (bits : Nat) (n : Node) : Except ConfigError Nat := do
  let v ← n.toUnsigned
  if v < Nat.pow 2 bits then pure v
  else throw (.mismatch ("64-bit unsigned integer `" ++ toString v ++ "`")
    ("an unsigned " ++ toString bits ++ " bit integer") none false)

def toFloat : Node → Except ConfigError Float
  | .leaf (.float x) _ => .ok x
  | .leaf (.int i) _ => .ok (Float.ofInt i)
  | .leaf (.bool b) _ => .ok (if b then 1.0 else 0.0)
  | .leaf (.str s) env =>
    match truthOf? s with
    | some b => .ok (if b then 1.0 else 0.0)
    | none =>
      match readFloat? s with
      | some x => .ok x
      | none => .error (.mismatch (Scalar.str s).found "a floating point" none env)
  | .table _ => .error (.mismatch "map" "a floating point" none false)
  | .array .. => .error (.mismatch "sequence" "a floating point" none false)
  | .nil => .error (.mismatch "unit value" "a floating point" none false)

def toFlag : Node → Except ConfigError Bool
  | .leaf (.bool b) _ => .ok b
  | .leaf (.int i) _ => .ok (i != 0)
  | .leaf (.float x) _ => .ok (x != 0.0)
  | .leaf (.str s) env =>
    let l := Text.toLower s
    if l = "1" ∨ l = "true" ∨ l = "on" ∨ l = "yes" then .ok true
    else if l = "0" ∨ l = "false" ∨ l = "off" ∨ l = "no" then .ok false
    else .error (.mismatch (Scalar.str l).found "a boolean" none env)
  | .table _ => .error (.mismatch "map" "a boolean" none false)
  | .array .. => .error (.mismatch "sequence" "a boolean" none false)
  | .nil => .error (.mismatch "unit value" "a boolean" none false)

def toText : Node → Except ConfigError String
  | .leaf (.str s) _ => .ok s
  | .leaf (.bool b) _ => .ok (toString b)
  | .leaf (.int i) _ => .ok (toString i)
  | .leaf (.float x) _ => .ok (plainText x)
  | .table _ => .error (.mismatch "map" "a string" none false)
  | .array .. => .error (.mismatch "sequence" "a string" none false)
  | .nil => .error (.mismatch "unit value" "a string" none false)

end Node

/-- A field of a record of type `R` read from the tree. -/
structure TreeField (R : Type) where
  key : String
  set : Node → R → Except ConfigError R

def insertSorted (e : String × Node) : List (String × Node) → List (String × Node)
  | [] => [e]
  | x :: xs => if e.1 ≤ x.1 then e :: x :: xs else x :: insertSorted e xs

/-- Read the record named `name` from a node, starting from the defaults: from
a table, its entries in key order; from a list, its fields in order, as far
as the list reaches. -/
def treeRecord {R : Type} (name : String) (fields : List (TreeField R)) (init : R) :
    Node → Except ConfigError R
  | .table entries =>
    (entries.foldr insertSorted []).foldlM (fun r e =>
      match fields.find? (·.key == e.1) with
      | some f => (f.set e.2 r).mapError (·.underKey e.1)
      | none => pure r) init
  | .array len items =>
    ((fields.zip (List.range fields.length)).filter (·.2 < len)).foldlM (fun r (f, i) =>
      (f.set (lookupNode i items) r).mapError (·.underIndex i)) init
  | .leaf v _ => .error (.message ("invalid type: " ++ v.foundByRecord ++ ", expected struct " ++ name))
  | .nil => .error (.message ("invalid type: unit value, expected struct " ++ name))

def Settings.ofTree : Node → Except ConfigError Settings :=
  treeRecord "Settings" [
    ⟨"server", fun n r => return { r with server := ← treeRecord "ServerConfig" [
      ⟨"host", fun n r => return { r with host := ← n.toText }⟩,
      ⟨"port", fun n r => return { r with port := ← n.toUnsignedBits 16 }⟩] {} n }⟩,
    ⟨"chat", fun n r => return { r with chat := ← treeRecord "ChatConfig" [
      ⟨"message_lifetime_seconds", fun n r => return { r with messageLifetimeSeconds := ← n.toUnsigned }⟩,
      ⟨"sweep_interval_seconds", fun n r => return { r with sweepIntervalSeconds := ← n.toUnsigned }⟩,
      ⟨"history_page_size", fun n r => return { r with historyPageSize := ← n.toUnsigned }⟩] {} n }⟩,
    ⟨"websocket", fun n r => return { r with websocket := ← treeRecord "WebSocketConfig" [
      ⟨"outbound_queue_size", fun n r => return { r with outboundQueueSize := ← n.toUnsigned }⟩,
      ⟨"hub_queue_size", fun n r => return { r with hubQueueSize := ← n.toUnsigned }⟩,
      ⟨"write_drain_timeout_ms", fun n r => return { r with writeDrainTimeoutMs := ← n.toUnsigned }⟩] {} n }⟩,
    ⟨"store", fun n r => return { r with store := ← treeRecord "StoreConfig" [
      ⟨"backend", fun n r => return { r with backend := ← n.toText }⟩] {} n }⟩,
    ⟨"database", fun n r => return { r with database := ← treeRecord "DatabaseConfig" [
      ⟨"url", fun n r => return { r with url := ← n.toText }⟩,
      ⟨"pool_size", fun n r => return { r with poolSize := ← n.toUnsignedBits 32 }⟩,
      ⟨"connect_timeout_seconds", fun n r => return { r with connectTimeoutSeconds := ← n.toUnsignedBits 32 }⟩,
      ⟨"idle_timeout_seconds", fun n r => return { r with idleTimeoutSeconds := ← n.toUnsignedBits 32 }⟩,
      ⟨"table", fun n r => return { r with table := ← n.toText }⟩] {} n }⟩,
    ⟨"otel", fun n r => return { r with otel := ← treeRecord "OtelConfig" [
      ⟨"enabled", fun n r => return { r with enabled := ← n.toFlag }⟩,
      ⟨"endpoint", fun n r => return { r with endpoint := ← n.toText }⟩,
      ⟨"service_name", fun n r => return { r with serviceName := ← n.toText }⟩,
      ⟨"sampling_ratio", fun n r => return { r with samplingRatio := ← n.toFloat }⟩] {} n }⟩] {}

/-- Load the settings for an environment, given as names and values in the
order they were set, and check their rules; the outer result is a fault that
stops the program before any settings are read. -/
def Settings.ofEnvironment (env : List (String × String)) :
    Except SetFault (Except ConfigError Settings) := do
  let tree ← Node.ofEnvironment env
  pure do
    let s ← Settings.ofTree tree
    match s.validate with
    | some m => throw (.message m)
    | none => pure s

end ChatRelay.Config
