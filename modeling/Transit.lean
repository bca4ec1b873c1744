import Transit.Civil.Date
import Transit.Civil.Instant
import Transit.Civil.Zone
import Transit.Civil.ZoneTable
import Transit.Cursor
import Transit.Error
import Transit.Field.Agency
import Transit.Field.Census
import Transit.Field.Command
import Transit.Field.Feed
import Transit.Field.Root
import Transit.Field.Route
import Transit.Field.Stop
import Transit.Field.StopTime
import Transit.Field.Trip
import Transit.Gateway.Basic
import Transit.Gateway.Directory
import Transit.Gateway.Lookup
import Transit.Gateway.Realtime
import Transit.Gateway.Resolve
import Transit.Gateway.Settings
import Transit.Gateway.Task
import Transit.Geo.Hull
import Transit.Geo.Orientation
import Transit.Geo.Point
import Transit.Http.Query
import Transit.Http.Service
import Transit.Http.View
import Transit.Json.Basic
import Transit.Json.Fields
import Transit.Json.Parser
import Transit.Json.Writer
import Transit.Loader.Basic
import Transit.Loader.Param
import Transit.Loader.Clocked
import Transit.Loader.Timeline
import Transit.Number.Binary
import Transit.Number.Integer
import Transit.Number.Text
import Transit.Proofs.Loader.Answers
import Transit.Proofs.Loader.Cache
import Transit.Proofs.Loader.Consistent
import Transit.Proofs.Loader.Stages
import Transit.Proofs.Loader.Turn
import Transit.Realtime.Alert
import Transit.Realtime.Feed
import Transit.Realtime.Json
import Transit.Realtime.Merge
import Transit.Realtime.Message
import Transit.Realtime.Snapshot
import Transit.Realtime.Source
import Transit.Realtime.StopTimeEvent
import Transit.Realtime.Topic
import Transit.Realtime.VehiclePosition
import Transit.Realtime.Wire
import Transit.Record.Agency
import Transit.Record.BikeShare
import Transit.Record.Census
import Transit.Record.Display
import Transit.Record.Edit
import Transit.Record.Feed
import Transit.Record.Filter
import Transit.Record.Route
import Transit.Record.Scalar
import Transit.Record.Stop
import Transit.Record.Trip
import Transit.Request.Input
import Transit.Request.Meter
import Transit.Request.User
import Transit.Selection.Basic
import Transit.Selection.Command
import Transit.Selection.Display
import Transit.Selection.Entity
import Transit.Selection.Realtime
import Transit.Selection.Root
import Transit.Service.Days
import Transit.Service.RelativeDate
import Transit.Service.Window
import Transit.Session
import Transit.SocketAddress
import Transit.Text.Base64
import Transit.Text.Blank
import Transit.Text.Cased
import Transit.Text.Hex
import Transit.Text.LowerCase
import Transit.Text.Quoted
import Transit.Text.Search
import Transit.Text.Utf8
import Transit.Warehouse.Basic
import Transit.Warehouse.ByKey
import Transit.Warehouse.Editing
import Transit.Warehouse.Json
import Transit.Warehouse.Listing
import Transit.Warehouse.Matching
import Transit.WideTime
import Transit.Proofs.Loader.Delivery
import Transit.Proofs.Loader.Progress
import Transit.Proofs.Loader.Rounds
import Transit.Proofs.Loader.Transparency
import Transit.Proofs.Loader.Grouping
import Transit.Proofs.Warehouse.Rows
import Transit.Proofs.Gateway.Loading
import Transit.Proofs.Gateway.Running
import Transit.Proofs.Service.Days
import Transit.Proofs.Field.Scheduled
import Transit.Proofs.Field.Display
import Transit.Proofs.Field.DateWindow
import Transit.Proofs.Loader.Capacity
import Transit.Proofs.Loader.Retention
import Transit.Proofs.Loader.Cancellation
import Transit.Proofs.Loader.Memoization
import Transit.Proofs.Realtime.Merge
import Transit.Proofs.Text.Base64
import Transit.Proofs.Text.Utf8
import Transit.Proofs.Number.Integer
import Transit.Proofs.Cursor
import Transit.Proofs.Warehouse.Select
import Transit.Proofs.Warehouse.Paging
import Transit.Proofs.Warehouse.Tables
import Transit.Proofs.Warehouse.Edits
import Transit.Proofs.Warehouse.RowEdits
import Transit.Proofs.Warehouse.Pathways
import Transit.Proofs.Warehouse.Versions
import Transit.Proofs.Warehouse.StopEdits
import Transit.Proofs.Field.Listing
import Transit.Proofs.Field.StopCommands
import Transit.Proofs.Field.Mutations
import Transit.Proofs.Field.Paging
import Transit.Proofs.Number.Decimal
import Transit.Proofs.Number.Shortest
import Transit.Proofs.Number.FloatText
import Transit.Proofs.Json.Writer
import Transit.Proofs.Civil.Text
import Transit.Proofs.Record.Filter
import Transit.Proofs.Loader.GroupedQuery
import Transit.Proofs.Gateway.Remembered
import Transit.Proofs.Gateway.Outcome
import Transit.Proofs.Field.Shown
import Transit.Proofs.Field.AddedRows
import Transit.Proofs.Realtime.Ordering
import Transit.Proofs.Field.RowLimit
import Transit.Proofs.Http.Views
import Transit.Proofs.Http.StopRows
import Transit.Proofs.Http.ScheduleSurvival
import Transit.Proofs.Field.Roles
import Transit.Proofs.Realtime.ScheduleOrder
import Transit.Proofs.Realtime.Visits
import Transit.Proofs.Gateway.Steps
import Transit.Proofs.Gateway.Consulting
import Transit.Proofs.Selection.Consulting
import Transit.Proofs.Selection.Commands
import Transit.Proofs.Http.Requests
import Transit.Proofs.Session.Moves
import Transit.Proofs.Field.OneZone
import Transit.Proofs.Civil.ServiceMidnight
import Transit.Proofs.Field.NextWindow
import Transit.Proofs.Warehouse.MergedPages
import Transit.Proofs.Field.MergedOperators
import Transit.Proofs.Loader.Chunks
import Transit.Proofs.Loader.Queue
import Transit.Proofs.Loader.Relabelling
import Transit.Proofs.Loader.Coalescing
import Transit.Proofs.Realtime.Tearing
import Transit.Proofs.Service.BestWeek
import Transit.Proofs.Field.RowCap
import Transit.Proofs.Session.Unedited
import Transit.Proofs.Realtime.Lookups
import Transit.Proofs.Field.Estimates
import Transit.Proofs.Service.Growth
import Transit.Proofs.Service.Weekdays
import Transit.Proofs.Service.PlainTerms
import Transit.Proofs.Service.Bounds
import Transit.Proofs.Field.EveningWindow
import Transit.Proofs.Realtime.LastDelay
import Transit.Proofs.Realtime.AddedOrder
import Transit.Proofs.Realtime.AddedTrips
import Transit.Proofs.Realtime.AlertPeriods
import Transit.Proofs.Gateway.ZoneNames
import Transit.Proofs.Field.EventTimes
import Transit.Proofs.Text.Separator
import Transit.Proofs.WideTime
import Transit.Proofs.Realtime.Topics
import Transit.Proofs.Field.ServedDate
import Transit.Proofs.Field.DayBeginnings
import Transit.Proofs.Field.WindowBounds
import Transit.Proofs.Text.Blank
import Transit.Proofs.Gateway.FieldRows
import Transit.Proofs.Field.ExternalTargets
import Transit.Proofs.Field.OperatorAgencies
import Transit.Proofs.Field.TableNames
import Transit.Proofs.Realtime.FeedOrder
