import ChatRelay.Time.Civil
import ChatRelay.Time.Instant
import ChatRelay.Time.Delta
import ChatRelay.Time.Duration
import ChatRelay.Time.Rfc3339
import ChatRelay.Text.Blank
import ChatRelay.Text.CodeSet
import ChatRelay.Text.Printable
import ChatRelay.Text.Extend
import ChatRelay.Text.Cased
import ChatRelay.Text.Quoted
import ChatRelay.Time.Rfc3339.Parse
import ChatRelay.Uuid
import ChatRelay.Decimal.Shortest
import ChatRelay.Decimal.Read
import ChatRelay.Metrics.Text
import ChatRelay.Json.Value
import ChatRelay.Chat.Message
import ChatRelay.Json.Error
import ChatRelay.Json.Reader
import ChatRelay.Json.Parse
import ChatRelay.Json.Decode
import ChatRelay.Chat.Wire
import ChatRelay.Store.Error
import ChatRelay.Store.Memory
import ChatRelay.Store.Backend
import ChatRelay.Time.Clock
import ChatRelay.Time.Timer
import ChatRelay.Chat.Service
import ChatRelay.Chat.Sweeper
import ChatRelay.Hub.Queue
import ChatRelay.Hub.Basic
import ChatRelay.Hub.Switchboard
import ChatRelay.Config.Settings
import ChatRelay.Config.Decode
import ChatRelay.Text.Case
import ChatRelay.Config.Error
import ChatRelay.Config.Path
import ChatRelay.Config.Environment
import ChatRelay.Api.Error
import ChatRelay.Digest.Sha1
import ChatRelay.Text.Base64
import ChatRelay.Text.Utf8
import ChatRelay.Http.Form
import ChatRelay.Http.Target
import ChatRelay.Http.Message
import ChatRelay.Http.Upgrade
import ChatRelay.Api.Query
import ChatRelay.Api.Metrics
import ChatRelay.Api.Router
import ChatRelay.Socket.Pump
import ChatRelay.Hub.Loop
import ChatRelay.Proofs.Time.Order
import ChatRelay.Proofs.Hub.Registry
import ChatRelay.Proofs.Hub.World
import ChatRelay.Proofs.Hub.Delivery
import ChatRelay.Proofs.Store.History
import ChatRelay.Proofs.Socket.ReadPump
import ChatRelay.Proofs.Metrics
import ChatRelay.Proofs.Hub.Counters
import ChatRelay.Proofs.Chat.Lifetime
import ChatRelay.Proofs.Hub.Shutdown
import ChatRelay.Proofs.Hub.Exit
import ChatRelay.Proofs.Time.Calendar
import ChatRelay.Proofs.Time.Rfc3339
import ChatRelay.Proofs.Json.Read
import ChatRelay.Proofs.Uuid
import ChatRelay.Proofs.Chat.Wire
import ChatRelay.Proofs.Hub.Connection
import ChatRelay.Proofs.Store.Expiry
import ChatRelay.Proofs.Chat.Service
import ChatRelay.Proofs.Store.TableName
import ChatRelay.Proofs.Api.Error
import ChatRelay.Proofs.Socket.WritePump
import ChatRelay.Proofs.Chat.Sweeper
