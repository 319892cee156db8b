import PyConduit.GuardedRun
import PyConduit.Dict
import PyConduit.Json
import PyConduit.Text
import PyConduit.Protocol
import PyConduit.Replay
import PyConduit.Lifecycle
import PyConduit.Reconnection
import PyConduit.OneAttempt
import PyConduit.Attendance
import PyConduit.Footprint
import PyConduit.Manager
import PyConduit.Reaping
import PyConduit.ClientSession
import PyConduit.Presence
import PyConduit.History
import PyConduit.Commands
import PyConduit.Pump
import PyConduit.Activity
import PyConduit.LateTab
import PyConduit.RoomAllowlist
import PyConduit.Payloads
import PyConduit.Conversations
import PyConduit.PresenceReports
import PyConduit.SnapshotFrames
import PyConduit.ContactMap
import PyConduit.Rooms
import PyConduit.FailedRoomCommands
import PyConduit.RoomSpellings
import PyConduit.RoomMembership
import PyConduit.Fanout
import PyConduit.FanoutOrder
import PyConduit.Relabel
import PyConduit.Numbered
import PyConduit.NumberedMoves
import PyConduit.Tracking
import PyConduit.Observed
import PyConduit.Broadcasts
import PyConduit.Echoes
import PyConduit.Auth
import PyConduit.Site
import PyConduit.SiteViews
import PyConduit.Isolation
import PyConduit.Backoff
import PyConduit.DeviceStatus
import PyConduit.RoomNotices
import PyConduit.Pattern
import PyConduit.Mentions
import PyConduit.Gather
import PyConduit.StableSort
import PyConduit.Discovery
import PyConduit.Labelled
import PyConduit.Audit
import PyConduit.Delivery
import PyConduit.Browser
import PyConduit.RoomTalk
import PyConduit.Scrollback
import PyConduit.JsonText
import PyConduit.AuditLog
import PyConduit.AuditTrail
import PyConduit.Endless
import PyConduit.ConnectLock
import PyConduit.Screen
import PyConduit.Unread
import PyConduit.Requests
import PyConduit.Persistence
import PyConduit.Shutdown
import PyConduit.InFlight
import PyConduit.Ledgers
import PyConduit.Origins
import PyConduit.Answers
import PyConduit.Provenance
import PyConduit.Naming
import PyConduit.World
import PyConduit.Arrivals
import PyConduit.Badges
import PyConduit.Panes
import PyConduit.Sidebar
