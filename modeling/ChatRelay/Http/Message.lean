import ChatRelay.Http.Target

/-! Requests and responses: methods, lower-case header names in the order given,
and the first value of a header for a reader that wants one. -/
namespace ChatRelay.Http

inductive Method where
  | get
  | head
  | post
  | put
  | delete
  | connect
  | options
  | trace
  | patch
  | other (name : String)
  deriving DecidableEq, Repr

/-- Whether a character may stand in a token: a letter, a digit or one of
``!#$%&'*+-.^_`|~``. -/
def isTokenChar (c : Char) : Bool :=
  c.isAlphanum || [33, 35, 36, 37, 38, 39, 42, 43, 45, 46, 94, 95, 96, 124, 126].contains c.toNat

namespace Method

def parse? (s : String) : Option Method :=
  match s with
  | "GET" => some .get
  | "HEAD" => some .head
  | "POST" => some .post
  | "PUT" => some .put
  | "DELETE" => some .delete
  | "CONNECT" => some .connect
  | "OPTIONS" => some .options
  | "TRACE" => some .trace
  | "PATCH" => some .patch
  | _ => if !s.isEmpty && s.all isTokenChar then some (.other s) else none

end Method

/-- A header name in lower case, if the name is a token. -/
def headerName? (s : String) : Option String :=
  if s.isEmpty || 65535 < s.utf8ByteSize || !s.all isTokenChar then none
  else some (String.map Char.toLower s)

/-- Whether a text may be a header value. -/
def isHeaderValue (s : String) : Bool :=
  s.all fun c => c = '\t' || (32 ≤ c.toNat && c.toNat ≠ 127)

/-- Headers in the order they were given. -/
abbrev Headers := List (String × String)

/-- The first value of a header. -/
def Headers.get? (hs : Headers) (name : String) : Option String :=
  (hs.find? (·.1 == name)).map (·.2)

structure Request where
  method : Method
  target : Target
  headers : Headers
  /-- The connection can be taken over by another protocol. -/
  upgradable : Bool
  deriving DecidableEq, Repr

/-- A request from its parts as written, if they are well formed. -/
def Request.build? (method target : String) (headers : List (String × String)) (upgradable : Bool) :
    Option Request := do
  let m ← Method.parse? method
  let t ← Target.parse? target
  let hs ← headers.mapM fun (n, v) => do
    let n ← headerName? n
    if isHeaderValue v then some (n, v) else none
  pure ⟨m, t, hs, upgradable⟩

structure Response where
  status : Nat
  headers : Headers
  body : String
  deriving DecidableEq, Repr

namespace Response

def withHeader (r : Response) (name value : String) : Response :=
  { r with headers := r.headers ++ [(name, value)] }

/-- Set a header unless it is present. -/
def withDefault (r : Response) (name value : String) : Response :=
  if (r.headers.get? name).isSome then r else r.withHeader name value

/-- The body's length in bytes as the content length, unless one is set. -/
def sized (r : Response) : Response := r.withDefault "content-length" (toString r.body.utf8ByteSize)

/-- The body dropped, the headers kept, as for a HEAD request. -/
def headOnly (r : Response) : Response := { r with body := "" }

def plain (status : Nat) (body : String) : Response :=
  ⟨status, [("content-type", "text/plain; charset=utf-8")], body⟩

def json (status : Nat) (body : String) : Response :=
  ⟨status, [("content-type", "application/json")], body⟩

def empty (status : Nat) : Response := ⟨status, [], ""⟩

end Response

end ChatRelay.Http
