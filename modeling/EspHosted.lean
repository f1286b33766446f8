import EspHosted.Lib.Framing
import EspHosted.UsbDevice
import EspHosted.BootEvents
import EspHosted.ResetBudget
import EspHosted.SpiReady
import EspHosted.UsbHost
import EspHosted.UsbStream
import EspHosted.Lib.Ledger
import EspHosted.Mlme
import EspHosted.MlmeReports
import EspHosted.RcpEndpoint
import EspHosted.RcpStream
import EspHosted.RcpOpen
import EspHosted.RcpBridgeOrder
import EspHosted.SdioCounters
import EspHosted.SpiHdAssembler
import EspHosted.SpiHdLink
import EspHosted.MlmeTimer
import EspHosted.SpiHdTx
import EspHosted.SpiHdReceive
import EspHosted.SdioH2e
import EspHosted.CmdOwnership
import EspHosted.CmdMatch
import EspHosted.RcpIsolation
import EspHosted.RadioService
import EspHosted.TxPause
import EspHosted.SdioReserve
import EspHosted.SdioResets
import EspHosted.SpiReboot
import EspHosted.SpiRebootAck
import EspHosted.SpiSlotsSafe
import EspHosted.UsbFlushBoundary
import EspHosted.UsbTruncated
import EspHosted.Ota
import EspHosted.ApIes
import EspHosted.ScanFence
import EspHosted.MgmtTx
import EspHosted.HostMgmt
import EspHosted.ScanRequest
import EspHosted.ControlledPort
import EspHosted.SdioProgress
import EspHosted.SdioRxClosed
import EspHosted.SpiWrite
import EspHosted.RcpWrite
import EspHosted.BootChecksum
import EspHosted.BootEncoders
import EspHosted.UsbChunks
import EspHosted.SdioPsReset
import EspHosted.SdioQueues
import EspHosted.MlmeBss
import EspHosted.Checksum
import EspHosted.RawTpStats
import EspHosted.UsbDeadline
import EspHosted.SpiHdFastPaths
import EspHosted.SpiHdMirror
import EspHosted.WifiTransitions
import EspHosted.CmdRuns
import EspHosted.MonitorCapture
import EspHosted.SkbRxSafe
import EspHosted.MgmtEvents
import EspHosted.OtaUpdate
import EspHosted.H2eFrames
import EspHosted.RadioBackends
import EspHosted.RxModels
