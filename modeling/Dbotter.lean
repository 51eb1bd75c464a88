import Dbotter.Text.Utf8
import Dbotter.Execution.MysqlScan
import Dbotter.Execution.MysqlLexer
import Dbotter.Execution.ScanTokens
import Dbotter.Execution.MysqlTarget
import Dbotter.Execution.StatementCut
import Dbotter.Text.ShellWords
import Dbotter.Execution.Target
import Dbotter.Execution.RedisSelection
import Dbotter.Execution.WholeSelection
import Dbotter.Program.Fallible
import Dbotter.Config.Profile
import Dbotter.Config.Writer
import Dbotter.Config.CrashSafety
import Dbotter.Config.Rejections
import Dbotter.Program.Task
import Dbotter.Program.Interleaving
import Dbotter.Program.Solo
import Dbotter.Program.Sections
import Dbotter.Config.Races
import Dbotter.Config.Updates
import Dbotter.Config.LostUpdates
import Dbotter.Program.Allocation
import Dbotter.Service.Request
import Dbotter.Service.PublicError
import Dbotter.Service.State
import Dbotter.Service.Sessions
import Dbotter.Service.Mutations
import Dbotter.Service.Calls
import Dbotter.Service.SessionCustody
import Dbotter.Service.SessionSafety
import Dbotter.Service.Generations
import Dbotter.Service.GenerationRuns
import Dbotter.Service.Reconciliation
import Dbotter.Drivers.Retention
import Dbotter.Ui.Model
import Dbotter.Ui.Fencing
import Dbotter.Ui.Explorers
import Dbotter.Ui.Port
import Dbotter.Ui.App
import Dbotter.Ui.Polling
import Dbotter.Ui.Board
import Dbotter.Ui.Settling
import Dbotter.Ui.Desktop
import Dbotter.Ui.Runs
import Dbotter.Ui.ActiveOperations
import Dbotter.Ui.Awaiting
import Dbotter.Ui.Editing
import Dbotter.Ui.Snapshots
import Dbotter.Ui.SavedProfiles
import Dbotter.Ui.Autoconnect
import Dbotter.Ui.Connections
import Dbotter.Text.Base64
import Dbotter.Program.Keyset
import Dbotter.Drivers.PageTokens
import Dbotter.Drivers.Catalog
import Dbotter.Drivers.Pagination
import Dbotter.Drivers.SelectTemplate
import Dbotter.Program.Ledger
import Dbotter.Ui.TaskRegistry
import Dbotter.Ui.Controller
import Dbotter.Ui.Terminals
import Dbotter.Ui.Evictions
import Dbotter.Text.Json
import Dbotter.Text.JsonKeys
import Dbotter.Text.Numerals
import Dbotter.Text.Tables
import Dbotter.Results.Cells
import Dbotter.Results.Encoding
import Dbotter.Results.Tabular
import Dbotter.Results.JsonDocument
import Dbotter.Results.JsonReading
import Dbotter.Results.ExportFile
import Dbotter.Results.ExportCommit
import Dbotter.Results.Retain
import Dbotter.Text.JsonSize
import Dbotter.Drivers.RedisValues
import Dbotter.Drivers.RedisMeasure
import Dbotter.Drivers.RedisMeter
import Dbotter.Drivers.RedisPrefix
import Dbotter.Results.RetainedCells
import Dbotter.Drivers.RedisCompleteness
import Dbotter.Program.Permits
import Dbotter.Program.Waiting
import Dbotter.Ui.Admission
import Dbotter.Ui.TaskAges
import Dbotter.Ui.AdmissionControl
import Dbotter.Ui.Waiting
import Dbotter.Ui.Deadlock
import Dbotter.Ui.CatalogPages
import Dbotter.Ui.ScanContinuation
import Dbotter.Drivers.TokenKeyFile
import Dbotter.Drivers.TokenKeyAgreement
import Dbotter.Ui.KeyRelease
import Dbotter.Ui.ControlKeys
import Dbotter.Service.ErrorParts
import Dbotter.Ui.FailureEvents
import Dbotter.Service.Secrets
import Dbotter.Service.SecretTurns
import Dbotter.Service.SecretRuns
import Dbotter.Program.Lane
import Dbotter.Service.Walks
import Dbotter.Service.SecretSteps
import Dbotter.Service.SecretCalls
import Dbotter.Service.KeptSecrets
import Dbotter.Service.OldSecrets
import Dbotter.Service.Tenure
import Dbotter.Service.Installs
import Dbotter.Service.LeftSessions
import Dbotter.Execution.StreamReads
import Dbotter.Drivers.ScanAccumulation
import Dbotter.Results.RetainedRows
import Dbotter.Results.RetainedResult
import Dbotter.Drivers.RedisPreview
import Dbotter.Drivers.RedisPreviewWalk
import Dbotter.Drivers.RedisPreviewFlags
import Dbotter.Drivers.MysqlStream
import Dbotter.Drivers.CatalogAccounts
import Dbotter.Ui.CatalogBranches
import Dbotter.Ui.Editor
import Dbotter.Results.DepthCut
import Dbotter.Text.PrefixCode
import Dbotter.Drivers.TokenContext
import Dbotter.Service.ProfileIds
import Dbotter.Text.Glob
import Dbotter.Service.KeyFilter
import Dbotter.Results.StreamingWriter
import Dbotter.Ui.ProfileForm
import Dbotter.Execution.ScanLayout
import Dbotter.Ui.SideEffects
import Dbotter.Program.Commands
import Dbotter.Ui.SessionStays
import Dbotter.Service.BookSteps
import Dbotter.Service.BookCalls
import Dbotter.Program.Paths
import Dbotter.Service.BookRuns
import Dbotter.Service.FenceRuns
import Dbotter.Ui.SessionRuns
import Dbotter.Service.DraftTests
import Dbotter.Program.Selected
import Dbotter.Ui.DraftRuns
import Dbotter.Ui.DraftConnections
import Dbotter.Program.Dialogue
import Dbotter.Drivers.RedisDialogue
import Dbotter.Drivers.RedisKeyspace
import Dbotter.Drivers.RedisInspection
import Dbotter.Drivers.RedisScanning
import Dbotter.Ui.ListedKeys
import Dbotter.Program.OneShot
import Dbotter.Ui.RetryRecipes
import Dbotter.Ui.RetryShelf
import Dbotter.Ui.Retries
import Dbotter.Ui.FormSession
import Dbotter.Ui.FormRequests
import Dbotter.Ui.FormFilling
import Dbotter.Ui.ResultExports
