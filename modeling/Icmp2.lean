import Icmp2.Library.Table
import Icmp2.Library.Trace
import Icmp2.Library.Dict
import Icmp2.Library.TaggedText
import Icmp2.Library.Streak
import Icmp2.Library.Cooldown
import Icmp2.Library.Replay
import Icmp2.Library.Deque
import Icmp2.Library.OrderBy
import Icmp2.Library.Watermark
import Icmp2.Library.Program
import Icmp2.Library.Rows
import Icmp2.Library.Action
import Icmp2.Library.CheckThenSet
import Icmp2.Library.Cursor
import Icmp2.Library.Peak
import Icmp2.Library.Columns
import Icmp2.Library.ClosedWalk
import Icmp2.Library.ConvexRing
import Icmp2.Library.Cells
import Icmp2.Library.Rounding
import Icmp2.Library.Batch
import Icmp2.Library.NumberedCode
import Icmp2.Library.Upserts
import Icmp2.Library.OneRow
import Icmp2.Library.Middles
import Icmp2.Library.Transaction
import Icmp2.Library.Retries
import Icmp2.Library.Edges
import Icmp2.Library.Feeds
import Icmp2.Library.Deviation
import Icmp2.Library.Majority
import Icmp2.Library.Calendar
import Icmp2.Library.Recent
import Icmp2.Library.Backlog
import Icmp2.Library.Leverage
import Icmp2.Library.Loop
import Icmp2.Text
import Icmp2.Monitoring.Reading
import Icmp2.Monitoring.Thresholds
import Icmp2.Monitoring.Locality
import Icmp2.Monitoring.Graders
import Icmp2.Monitoring.Window
import Icmp2.Monitoring.Detectors
import Icmp2.Monitoring.DetectorRuns
import Icmp2.Monitoring.ForecastFeed
import Icmp2.Monitoring.Vectors
import Icmp2.Monitoring.PartialUpdates
import Icmp2.Manager.ThresholdForm
import Icmp2.Manager.Retention
import Icmp2.Manager.ThresholdPage
import Icmp2.Manager.DeviceCodes
import Icmp2.Manager.MacNotes
import Icmp2.AiEngine.ForecastPolicy
import Icmp2.AiEngine.KConfirmation
import Icmp2.AiEngine.AxisDominance
import Icmp2.AiEngine.Signal
import Icmp2.AiEngine.GasArima
import Icmp2.AiEngine.SteepRise
import Icmp2.AiEngine.ChangePoint
import Icmp2.AiEngine.Prediction
import Icmp2.AiEngine.ThresholdTables
import Icmp2.AiEngine.AnchorCalls
import Icmp2.AiEngine.ZScore
import Icmp2.AiEngine.RobustDrift
import Icmp2.AiEngine.IsolationForest
import Icmp2.Alerts.Event
import Icmp2.Alerts.Services
import Icmp2.Alerts.Selections
import Icmp2.Alerts.Titles
import Icmp2.Alerts.Isolation
import Icmp2.Alerts.GasLocal
import Icmp2.Alerts.ForecastAlarms
import Icmp2.Alerts.ForecastEta
import Icmp2.Alerts.Notifications
import Icmp2.Alerts.PowerLoad
import Icmp2.Alerts.PowerLevels
import Icmp2.Alerts.Lifecycle
import Icmp2.Alerts.MissingSweep
import Icmp2.Alerts.EventLog
import Icmp2.Alerts.Writes
import Icmp2.Alerts.Dispatch
import Icmp2.Alerts.TaskLog
import Icmp2.Alerts.DedupRace
import Icmp2.Alerts.Deliveries
import Icmp2.Alerts.AlertPopup
import Icmp2.Alerts.PopupRuns
import Icmp2.Alerts.PopupSessions
import Icmp2.Monitoring.PowerFeed
import Icmp2.Facilities.Geofence
import Icmp2.Facilities.GeofenceRuns
import Icmp2.Facilities.GeofenceMap
import Icmp2.Facilities.Polygon
import Icmp2.Facilities.Workers
import Icmp2.Facilities.WorkerStatus
import Icmp2.Facilities.IndexGrid
import Icmp2.Facilities.GridSignals
import Icmp2.Facilities.GridCache
import Icmp2.Facilities.GridLookup
import Icmp2.Facilities.NodeSync
import Icmp2.Facilities.NodeGuard
import Icmp2.Facilities.NodeMirror
import Icmp2.Facilities.NodeEffects
import Icmp2.Facilities.LocSync
import Icmp2.Facilities.LocRepair
import Icmp2.Facilities.MapObjects
import Icmp2.Facilities.MapApi
import Icmp2.Facilities.MapViews
import Icmp2.Facilities.Placement
import Icmp2.Facilities.BulkSave
import Icmp2.Facilities.NodeIsolation
import Icmp2.Facilities.BulkIsolation
import Icmp2.Facilities.ChangeLog
import Icmp2.Ingest.Pipeline
import Icmp2.Ingest.OneAlarm
import Icmp2.Ingest.Announced
import Icmp2.Ingest.OutOfOrder
import Icmp2.Ingest.Retry
import Icmp2.Accounts.Users
import Icmp2.Accounts.WorkerMirror
import Icmp2.Accounts.UserTable
import Icmp2.Accounts.StaffRights
import Icmp2.Accounts.Passwords
import Icmp2.FastapiApp.Broadcast
import Icmp2.FastapiApp.Story
import Icmp2.Safety.Checklist
import Icmp2.Safety.History
import Icmp2.Manager.ChecklistSave
import Icmp2.Manager.RiskCriteria
import Icmp2.Manager.CommonCodes
import Icmp2.Manager.CodeNames
