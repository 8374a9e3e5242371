import Bootmux.Lib.Machine
import Bootmux.Lib.PyDict
import Bootmux.Lib.PyJson
import Bootmux.Lib.Reassembly
import Bootmux.Lib.ReassemblyRuns
import Bootmux.Lib.RecentRing
import Bootmux.Lib.RingQueue
import Bootmux.Lib.Search
import Bootmux.Lib.Tagged
import Bootmux.Lib.PyText
import Bootmux.Lib.Regex
import Bootmux.Lib.Utf8
import Bootmux.Lib.Utf8Suffix
import Bootmux.Lib.Json
import Bootmux.Lib.JsonValue
import Bootmux.Lib.Base64
import Bootmux.Lib.Process
import Bootmux.Bmx1.Framing
import Bootmux.Iphone.Protocol
import Bootmux.Iphone.ProtocolTheorems
import Bootmux.Bmx1.FramingTheorems
import Bootmux.Iphone.Wifi
import Bootmux.Iphone.WifiTheorems
import Bootmux.Iphone.ChunkerTheorems
import Bootmux.Iphone.WifiChunkTheorems
import Bootmux.Iphone.BridgeSession
import Bootmux.Iphone.Notifications
import Bootmux.Iphone.PendingTheorems
import Bootmux.Iphone.CompletionTheorems
import Bootmux.Iphone.CredentialTheorems
import Bootmux.Iphone.PublicationTheorems
import Bootmux.Iphone.TerminalProtocol
import Bootmux.Iphone.TerminalBuffer
import Bootmux.Iphone.BufferTheorems
import Bootmux.Iphone.SanitizerTheorems
import Bootmux.Iphone.TerminalSession
import Bootmux.Iphone.GenerationTheorems
import Bootmux.Bridge.Receiver
import Bootmux.Bridge.ReceiverTheorems
import Bootmux.Bridge.CompletedTheorems
import Bootmux.Bridge.StopTheorems
import Bootmux.Bridge.QueueTheorems
import Bootmux.Bridge.Device
import Bootmux.Bridge.AckTheorems
import Bootmux.Bridge.DeliveryTheorems
import Bootmux.Router.GateTheorems
import Bootmux.Router.Probe
import Bootmux.Router.Runtime
import Bootmux.Router.Dispatcher
import Bootmux.Router.WifiTask
import Bootmux.Router.RuntimeTheorems
import Bootmux.Router.AllowlistTheorems
import Bootmux.Router.DispatcherTheorems
import Bootmux.Router.System
import Bootmux.Router.RevocationTheorems
import Bootmux.Router.MarkerTheorems
import Bootmux.Router.Evidence
import Bootmux.Router.EvidenceTheorems
import Bootmux.Router.LatchTheorems
import Bootmux.Router.UsbRouter
import Bootmux.Router.ConnectProxy
import Bootmux.Router.ConnectTheorems
import Bootmux.Router.NotificationTheorems
import Bootmux.Router.WifiAttempts
import Bootmux.Router.WifiJson
import Bootmux.Router.ProvisioningTheorems
import Bootmux.Firmware.Core
import Bootmux.Firmware.EquivalenceTheorems
import Bootmux.Firmware.TypingTheorems
import Bootmux.Firmware.ReassemblyTheorems
import Bootmux.Firmware.SessionTheorems
import Bootmux.Companion.Output
import Bootmux.Companion.OutputTheorems
import Bootmux.Companion.Protocol
import Bootmux.Companion.Mirror
import Bootmux.Companion.Codex
import Bootmux.Companion.StreamTheorems
import Bootmux.Companion.Session
import Bootmux.Companion.SessionTheorems
import Bootmux.Companion.IntegrityTheorems
import Bootmux.Companion.TerminationTheorems
import Bootmux.Companion.CodexSteps
import Bootmux.Companion.SizeTheorems
import Bootmux.Companion.CodexTheorems
import Bootmux.Companion.TeardownTheorems
import Bootmux.Companion.CleanupTheorems
import Bootmux.Companion.CodexStreamTheorems
import Bootmux.Companion.ConclusionTheorems
import Bootmux.Companion.ExclusionTheorems
import Bootmux.Companion.Observer
import Bootmux.Companion.ObserverTheorems
import Bootmux.Companion.Unmarshal
import Bootmux.Companion.RequestTheorems
import Bootmux.Companion.InputTheorems
import Bootmux.Companion.FlushTimer
import Bootmux.Companion.FlushTimerTheorems
import Bootmux.Terminal.CodecTheorems
import Bootmux.Terminal.SendTheorems
import Bootmux.Terminal.CancelTheorems
import Bootmux.NetworkGuardian.Host
import Bootmux.NetworkGuardian.Plan
import Bootmux.NetworkGuardian.Repair
import Bootmux.NetworkGuardian.RepairTheorems
import Bootmux.NetworkGuardian.Daemon
import Bootmux.NetworkGuardian.DaemonTheorems
import Bootmux.NetworkGuardian.FakeHost
import Bootmux.NetworkGuardian.RouteTheorems
import Bootmux.NetworkGuardian.SystemHost
import Bootmux.NetworkGuardian.NetstatTheorems
import Bootmux.NetworkGuardian.ServiceTheorems
import Bootmux.NetworkGuardian.BaselineTheorems
import Bootmux.NetworkGuardian.FrameTheorems
import Bootmux.NetworkGuardian.ConvergenceTheorems
import Bootmux.NetworkGuardian.StateJson
import Bootmux.NetworkGuardian.JsonRepair
import Bootmux.NetworkGuardian.JsonRepairTheorems
import Bootmux.NetworkGuardian.NoopTheorems
import Bootmux.NetworkGuardian.StoreTheorems
import Bootmux.NetworkGuardian.CaptureTheorems
import Bootmux.AttachShield.Host
import Bootmux.AttachShield.Journal
import Bootmux.AttachShield.Session
import Bootmux.AttachShield.Mac
import Bootmux.AttachShield.RestoreTheorems
import Bootmux.AttachShield.SessionTheorems
import Bootmux.AttachShield.CloseTheorems
import Bootmux.AttachShield.RunTheorems
import Bootmux.AttachShield.JournalFile
import Bootmux.AttachShield.FaultyMac
import Bootmux.AttachShield.JournalFileTheorems
import Bootmux.AttachShield.CommandTheorems
import Bootmux.AttachShield.VerdictTheorems
import Bootmux.AttachShield.ArtefactTheorems
import Bootmux.AttachShield.Programs
import Bootmux.AttachShield.ProgramTheorems
import Bootmux.AttachShield.RenewalTheorems
import Bootmux.AttachShield.FinalityTheorems
import Bootmux.AttachShield.RefusalTheorems
import Bootmux.AttachShield.InnocentTheorems
import Bootmux.SafeFlash.Runner
import Bootmux.SafeFlash.RunnerTheorems
import Bootmux.SafeFlash.Joint
import Bootmux.SafeFlash.ForceTheorems
import Bootmux.SafeFlash.HonestyTheorems
import Bootmux.SafeFlash.FlashJournal
import Bootmux.SafeFlash.FlashJournalTheorems
import Bootmux.SafeFlash.Manifest
import Bootmux.SafeFlash.ManifestTheorems
import Bootmux.Bmx1.Decimal
import Bootmux.PhysicalOracle.Oracle
import Bootmux.AttachShield.Detection
import Bootmux.SafeFlash.InspectTheorems
import Bootmux.AttachShield.RedactionTheorems
import Bootmux.AttachShield.MutationJournalTheorems
import Bootmux.AttachShield.RollbackTheorems
import Bootmux.UsbIdentity.ProfilerTheorems
import Bootmux.UsbIdentity.OracleTheorems
import Bootmux.Iphone.StreamTheorems
import Bootmux.Iphone.RecoveryTheorems
import Bootmux.Terminal.ConnectionTheorems
import Bootmux.Terminal.OutputTheorems
import Bootmux.Keyboard.Connection
import Bootmux.Keyboard.SendTheorems
import Bootmux.Keyboard.ConnectionTheorems
import Bootmux.Bridge.ExecutionTheorems
