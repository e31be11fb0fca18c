import GamespyEmulator.Lib.Wire
import GamespyEmulator.Lib.Run
import GamespyEmulator.Lib.Numeral
import GamespyEmulator.Utils
import GamespyEmulator.Address
import GamespyEmulator.Lib.OrdMap
import GamespyEmulator.QR.Packet
import GamespyEmulator.QR.Format
import GamespyEmulator.QR.RoundTrip
import GamespyEmulator.QR.Soundness
import GamespyEmulator.Browser.Request
import GamespyEmulator.Browser.RequestRoundTrip
import GamespyEmulator.Browser.ServerBytes
import GamespyEmulator.Game.Servers
import GamespyEmulator.Game.Acceptance
import GamespyEmulator.Browser.ListSafety
import GamespyEmulator.Browser.PopularValues
import GamespyEmulator.Master.Machine
import GamespyEmulator.Master.Steps
import GamespyEmulator.Master.Handshake
import GamespyEmulator.Master.Authorisation
import GamespyEmulator.Master.Rows
import GamespyEmulator.Master.Liveness
import GamespyEmulator.Master.Atomicity
import GamespyEmulator.Master.Interleaving
import GamespyEmulator.Game.Calls
import GamespyEmulator.Game.Schema
import GamespyEmulator.Game.ReadBack
import GamespyEmulator.Browser.Push
import GamespyEmulator.Md5
import GamespyEmulator.Player.DB
import GamespyEmulator.Player.Password
import GamespyEmulator.Player.Session
import GamespyEmulator.Player.Login
import GamespyEmulator.Player.Registration
import GamespyEmulator.Player.Search
import GamespyEmulator.Browser.Delivery
import GamespyEmulator.Browser.Subscription
import GamespyEmulator.Browser.Ranked
import GamespyEmulator.Lib.Coroutine
import GamespyEmulator.Sessions.Operations
import GamespyEmulator.Sessions.Clients
import GamespyEmulator.Sessions.Pool
import GamespyEmulator.Sessions.Alone
import GamespyEmulator.Lib.Framing
import GamespyEmulator.Stats.Link
import GamespyEmulator.Player.TextPacket
import GamespyEmulator.Stats.Snapshot
import GamespyEmulator.Browser.Framing
import GamespyEmulator.Lib.Reading
import GamespyEmulator.Master.Leftover
import GamespyEmulator.Master.LostReplies
import GamespyEmulator.Browser.RequestSoundness
import GamespyEmulator.Browser.ResponseHeader
import GamespyEmulator.Game.Columns
import GamespyEmulator.Browser.ListPush
import GamespyEmulator.Browser.FieldList
import GamespyEmulator.Lib.SqlText
import GamespyEmulator.Browser.ListLimit
import GamespyEmulator.Master.HonestAnswer
import GamespyEmulator.Player.Fields
import GamespyEmulator.Player.OwnerLogin
import GamespyEmulator.Game.FilterRepair
import GamespyEmulator.Master.PendingExpiry
import GamespyEmulator.Game.KeyLimit
import GamespyEmulator.Player.Statements
import GamespyEmulator.Lib.Storage
import GamespyEmulator.Game.KeyStorage
import GamespyEmulator.Game.Registry
import GamespyEmulator.Game.StoredRuns
import GamespyEmulator.Browser.KeyList
import GamespyEmulator.Master.StoredGames
import GamespyEmulator.Lib.Ternary
import GamespyEmulator.Game.RankedFilter
import GamespyEmulator.Web.Response
import GamespyEmulator.Lib.Checked
import GamespyEmulator.Stats.Handshake
import GamespyEmulator.Browser.Sapphire
import GamespyEmulator.Dlls.VideoFallback
import GamespyEmulator.Sessions.Prepared
import GamespyEmulator.Lib.Exec
import GamespyEmulator.Admin.Api
import GamespyEmulator.Admin.Port
import GamespyEmulator.Admin.Answers
import GamespyEmulator.Sessions.Accounts
import GamespyEmulator.Browser.Conversation
import GamespyEmulator.Md5.Padding
import GamespyEmulator.Web.Handler
import GamespyEmulator.Admin.Guard
import GamespyEmulator.Dlls.Attach
import GamespyEmulator.Dlls.VideoOptions
import GamespyEmulator.Game.Config
import GamespyEmulator.Key.Server
import GamespyEmulator.Redirect.Detection
import GamespyEmulator.Redirect.Lookup
