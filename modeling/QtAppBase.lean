import QtAppBase.Core.ReconnectLoop
import QtAppBase.Core.SyncSteps
import QtAppBase.Core.LoopPersistence
import QtAppBase.Core.HeartbeatTimer
import QtAppBase.Core.LateReports
import QtAppBase.Core.SyncAsync
import QtAppBase.Infra.VerifiedInstall
import QtAppBase.Library.Provenance
import QtAppBase.Mq.Connection
import QtAppBase.Mq.FrameOwnership
import QtAppBase.C3.Codec
import QtAppBase.C3.FrameCheck
import QtAppBase.Library.Buffering
import QtAppBase.C3.Verdicts
import QtAppBase.C3.RequestTimers
import QtAppBase.C3.Outcomes
import QtAppBase.Library.Ledger
import QtAppBase.C3.TableRecords
import QtAppBase.C3.Connection
import QtAppBase.C3.ReadyRead
import QtAppBase.C3.Answers
import QtAppBase.C3.Events
import QtAppBase.Library.Stamps
import QtAppBase.C3.RequestNumbers
import QtAppBase.C3.StaleBytes
import QtAppBase.C3.Readiness
import QtAppBase.Library.NumberedFrames
import QtAppBase.C3.ReplyOrder
import QtAppBase.C3.TableQuery
import QtAppBase.C3.RealtimeLog
import QtAppBase.C3.KeyValues
import QtAppBase.C3.Parameters
import QtAppBase.C3.TableSchemas
import QtAppBase.C3.TableRequests
import QtAppBase.C3.BigData
import QtAppBase.C3.TransferBounds
import QtAppBase.Modbus.Codec
import QtAppBase.Modbus.Layout
import QtAppBase.Modbus.Registers
import QtAppBase.Modbus.Exceptions
import QtAppBase.Modbus.Echoes
import QtAppBase.Modbus.BitFields
import QtAppBase.Modbus.WriteMultiple
import QtAppBase.Modbus.Connection
import QtAppBase.Modbus.Chunking
import QtAppBase.Core.Worker
import QtAppBase.Modbus.TransactionIds
import QtAppBase.Modbus.Outcomes
import QtAppBase.Mq.Service
import QtAppBase.Mq.Tab
import QtAppBase.Mq.Acknowledgement
import QtAppBase.Mq.Deliveries
import QtAppBase.Mq.Consumer
import QtAppBase.Library.Bits
import QtAppBase.Library.Separated
import QtAppBase.Library.Redaction
import QtAppBase.Library.CutSegments
import QtAppBase.Qt.Text
import QtAppBase.Qt.CodeUnits
import QtAppBase.Qt.Latin1
import QtAppBase.Qt.Pairs
import QtAppBase.Mq.Search
import QtAppBase.Mq.StoredTexts
import QtAppBase.Mq.ReceivedRows
import QtAppBase.Infra.Settings
import QtAppBase.Infra.SecretPairs
import QtAppBase.Infra.UpdateInstaller
import QtAppBase.Infra.VerifiedInstall
import QtAppBase.Mq.Settings
import QtAppBase.Library.Draining
import QtAppBase.Library.Padded
import QtAppBase.Library.FixedWidth
import QtAppBase.Library.Synchronizing
import QtAppBase.Qt.Decimals
import QtAppBase.Qt.DateTime
import QtAppBase.Qt.Containment
import QtAppBase.C3.DateTime
import QtAppBase.C3.SignedIntegers
import QtAppBase.Core.RetryLadder
import QtAppBase.Infra.UpdateChecker
import QtAppBase.Infra.Versions
import QtAppBase.Mq.Feeding
import QtAppBase.Mq.Counters
import QtAppBase.Mq.LikePatterns
import QtAppBase.Mq.SearchExactness
import QtAppBase.Library.Announcing
import QtAppBase.Library.Levels
import QtAppBase.Library.Capped
import QtAppBase.Library.Grid
import QtAppBase.Library.Entries
import QtAppBase.Library.Interrupted
import QtAppBase.Library.Files
import QtAppBase.Core.Signals
import QtAppBase.C3.Routine
import QtAppBase.C3.LogMode
import QtAppBase.Drivers.StateSignals
import QtAppBase.Qt.Widgets
import QtAppBase.Demo.Sidebar
import QtAppBase.Demo.C3Page
import QtAppBase.Demo.C3Window
import QtAppBase.Demo.ModbusPage
import QtAppBase.Demo.ModbusTable
import QtAppBase.Demo.ModbusWrites
import QtAppBase.Mq.RowNumbers
import QtAppBase.Infra.SingleInstance
import QtAppBase.Infra.SelfInstall
import QtAppBase.Infra.AppLog
import QtAppBase.Qt.Json
import QtAppBase.Infra.ReleaseCheck
import QtAppBase.Infra.UpdateFlow
import QtAppBase.Infra.AdvertisedInstall
import QtAppBase.Library.Conveying
import QtAppBase.Library.Labelled
import QtAppBase.Core.WorkerThreads
import QtAppBase.Core.WorkerQueues
import QtAppBase.Mq.ConnectionTests
import QtAppBase.Mq.SettingsForm
import QtAppBase.C3.Columns
import QtAppBase.Demo.C3Tables
import QtAppBase.Mq.Reconnection
