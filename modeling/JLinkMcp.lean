import JLinkMcp.CodecBytes
import JLinkMcp.CodecCobs
import JLinkMcp.CodecCrc
import JLinkMcp.HostBase
import JLinkMcp.HostCobs
import JLinkMcp.CodecDelimited
import JLinkMcp.CodecSegments
import JLinkMcp.HostFrame
import JLinkMcp.HostMessage
import JLinkMcp.HostReassembly
import JLinkMcp.FirmwareWire
import JLinkMcp.FirmwareSender
import JLinkMcp.FirmwareReceiver
import JLinkMcp.FirmwareDelivery
import JLinkMcp.FirmwareAssembly
import JLinkMcp.FirmwareResync
import JLinkMcp.CodecRing
import JLinkMcp.FirmwareResources
import JLinkMcp.CodecRun
import JLinkMcp.FirmwareQueue
import JLinkMcp.FirmwareQueueRefines
import JLinkMcp.FirmwareRecords
import JLinkMcp.CodecTlv
import JLinkMcp.FirmwareTlv
import JLinkMcp.FirmwareAnswers
import JLinkMcp.FirmwareBle
import JLinkMcp.FirmwareBoard
import JLinkMcp.FirmwareBridge
import JLinkMcp.FirmwareBuses
import JLinkMcp.FirmwareDispatch
import JLinkMcp.FirmwareDispatchAnswers
import JLinkMcp.FirmwareFields
import JLinkMcp.FirmwareGpio
import JLinkMcp.FirmwareReads
import JLinkMcp.FirmwareResponse
import JLinkMcp.FirmwareText
import JLinkMcp.FirmwareUsb
import JLinkMcp.FirmwareWifi
import JLinkMcp.HostBase64
import JLinkMcp.HostEncoding
import JLinkMcp.HostJson
import JLinkMcp.HostModels
import JLinkMcp.HostRequestBody
import JLinkMcp.HostResponse
import JLinkMcp.HostService
import JLinkMcp.HostText
import JLinkMcp.RequestBody
import JLinkMcp.RequestEncoding
import JLinkMcp.RequestFields
import JLinkMcp.RequestForm
import JLinkMcp.RequestPath
import JLinkMcp.RequestReads
import JLinkMcp.ResponsePath
import JLinkMcp.ResponseWindows
import JLinkMcp.HostResources
import JLinkMcp.ResourceMirror
import JLinkMcp.JsonLimits
import JLinkMcp.WireErrors
import JLinkMcp.SelectorResolution
import JLinkMcp.SerialPorts
import JLinkMcp.FirmwareUsbSerial
import JLinkMcp.SourceDigests
import JLinkMcp.StateProgram
import JLinkMcp.FirmwareCalls
import JLinkMcp.FirmwareEffects
import JLinkMcp.FirmwareFeeds
import JLinkMcp.FirmwareErrors
import JLinkMcp.FirmwarePins
import JLinkMcp.FirmwareTimestamps
import JLinkMcp.FirmwareRadio
import JLinkMcp.FirmwareRuns
import JLinkMcp.FirmwareRequestFeeds
import JLinkMcp.FirmwareSteps
import JLinkMcp.FirmwareSettings
import JLinkMcp.FirmwareSockets
import JLinkMcp.FirmwareSocketData
import JLinkMcp.AuditAppend
import JLinkMcp.AuditEvidence
import JLinkMcp.AuditListing
import JLinkMcp.AuditResult
import JLinkMcp.AuditStore
import JLinkMcp.HashChain
import JLinkMcp.HostDumps
import JLinkMcp.StepRuns
import JLinkMcp.FairRuns
import JLinkMcp.TaskProgram
import JLinkMcp.TaskPaths
import JLinkMcp.Obligations
import JLinkMcp.ServiceCalls
import JLinkMcp.ServiceOperations
import JLinkMcp.ServiceSessions
import JLinkMcp.ServiceCommands
import JLinkMcp.TidyOperations
import JLinkMcp.GigaWorkflows
import JLinkMcp.ServiceBench
import JLinkMcp.ServiceRules
import JLinkMcp.AuditCoverage
import JLinkMcp.Custody
import JLinkMcp.SessionCustody
import JLinkMcp.SessionLifetimes
import JLinkMcp.TaskLogs
import JLinkMcp.ServiceRuns
import JLinkMcp.IdentityGate
import JLinkMcp.GatedOperations
import JLinkMcp.GateRuns
import JLinkMcp.VerifiedHistory
import JLinkMcp.JsonTexts
import JLinkMcp.JsonPrefixes
import JLinkMcp.FirmwareMetadata
import JLinkMcp.FirmwareTold
import JLinkMcp.FirmwareToldRadio
import JLinkMcp.FirmwareListings
import JLinkMcp.FirmwareToldListings
import JLinkMcp.FirmwareReadBack
import JLinkMcp.FirmwareExchanges
import JLinkMcp.GigaDebugging
import JLinkMcp.FlashTransactions
import JLinkMcp.TidyWorkflows
import JLinkMcp.FlashRestoration
import JLinkMcp.WorkflowLeases
import JLinkMcp.FirmwareCobs
import JLinkMcp.FirmwareTlvScan
import JLinkMcp.ServiceIdentity
import JLinkMcp.AsyncLock
import JLinkMcp.LeaseManager
import JLinkMcp.UndoLog
import JLinkMcp.ExtensionContext
import JLinkMcp.ExtensionManager
import JLinkMcp.DependencyOrder
import JLinkMcp.ExtensionOrder
import JLinkMcp.ExtensionEnvironment
import JLinkMcp.BridgeBackend
import JLinkMcp.SecurityText
import JLinkMcp.SecurityGdb
import JLinkMcp.LexicalPaths
import JLinkMcp.SecurityPaths
import JLinkMcp.ServiceTyped
import JLinkMcp.FrameCorruption
import JLinkMcp.FrameLimits
import JLinkMcp.ConfigPaths
import JLinkMcp.OverrideOrder
import JLinkMcp.PortExchanges
import JLinkMcp.PortTurns
import JLinkMcp.BytePatch
import JLinkMcp.ArtifactManifest
import JLinkMcp.RingFifo
import JLinkMcp.FixtureRtt
import JLinkMcp.RequestSizes
import JLinkMcp.WireChecks
import JLinkMcp.SecretResults
