import ChatRelay.Http.Message
import ChatRelay.Digest.Sha1
import ChatRelay.Text.Base64

/-! The opening handshake of a WebSocket connection (RFC 6455, section 4.2): the
conditions are checked in order, the first that fails is the answer, and the
accept value is the Base64 SHA-1 digest of the key and a fixed GUID. -/
namespace ChatRelay.Http

inductive UpgradeRejection where
  | methodNotGet
  | connectionHeader
  | upgradeHeader
  | keyMissing
  | versionHeader
  | notUpgradable
  deriving DecidableEq, Repr

namespace UpgradeRejection

def message : UpgradeRejection → String
  | .methodNotGet => "Request method must be `GET`"
  | .connectionHeader => "Connection header did not include 'upgrade'"
  | .upgradeHeader => "`Upgrade` header did not include 'websocket'"
  | .keyMissing => "`Sec-WebSocket-Key` header missing"
  | .versionHeader => "`Sec-WebSocket-Version` header did not include '13'"
  | .notUpgradable => "WebSocket request couldn't be upgraded since no upgrade state was present"

def status : UpgradeRejection → Nat
  | .methodNotGet => 405
  | .notUpgradable => 426
  | _ => 400

def response (r : UpgradeRejection) : Response := Response.plain r.status r.message

end UpgradeRejection

def asciiLower (s : String) : String := String.map (fun c => if c.isUpper then c.toLower else c) s

/-- Whether a header's first value contains `word`, ASCII letters in any case. -/
def headerContains (hs : Headers) (name word : String) : Bool :=
  match hs.get? name with
  | some v => ((asciiLower v).splitOn word).length > 1
  | none => false

/-- Whether a header's first value is `word`, ASCII letters in any case. -/
def headerIs (hs : Headers) (name word : String) : Bool :=
  match hs.get? name with
  | some v => asciiLower v == asciiLower word
  | none => false

/-- The key of a request that may become a WebSocket connection. -/
def upgradeKey (r : Request) : Except UpgradeRejection String := do
  if r.method ≠ .get then throw .methodNotGet
  if !headerContains r.headers "connection" "upgrade" then throw .connectionHeader
  if !headerIs r.headers "upgrade" "websocket" then throw .upgradeHeader
  let some key := r.headers.get? "sec-websocket-key" | throw .keyMissing
  if !headerIs r.headers "sec-websocket-version" "13" then throw .versionHeader
  if !r.upgradable then throw .notUpgradable
  pure key

def handshakeGuid : String := "258EAFA5-E914-47DA-95CA-C5AB0DC85B11"

def acceptValue (key : String) : String :=
  Text.Base64.encode (Digest.Sha1.digest (key ++ handshakeGuid).toUTF8.toList)

/-- The response that switches a connection to the WebSocket protocol. -/
def switchingProtocols (key : String) : Response :=
  ⟨101, [("connection", "upgrade"), ("upgrade", "websocket"), ("sec-websocket-accept", acceptValue key)], ""⟩

end ChatRelay.Http
