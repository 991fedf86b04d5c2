import NitroSense.Lib.Clamp
import NitroSense.Lib.Loop
import NitroSense.Lib.Run
import NitroSense.Lib.Streak
import NitroSense.Lib.Settle
import NitroSense.Config
import NitroSense.Models
import NitroSense.Ec
import NitroSense.Ec.Handshake
import NitroSense.Ec.PortRuns
import NitroSense.Fd
import NitroSense.File
import NitroSense.Sensors
import NitroSense.Sensors.Hottest
import NitroSense.Platform.PowerOrder
import NitroSense.Fan.State
import NitroSense.Fan.Observation
import NitroSense.Fan.ControlSource
import NitroSense.Fan.SafetyPolicy
import NitroSense.Fan.Safety
import NitroSense.Fan.Control
import NitroSense.Fan.FirmwareAuto
import NitroSense.Fan.HandsOff
import NitroSense.Fan.OverrideSpeed
import NitroSense.Fan.ForcedReason
import NitroSense.Fan.WriteReport
import NitroSense.Fan.DaemonPoll
import NitroSense.Fan.SpikeMemory
import NitroSense.Config.Accepts
import NitroSense.Config.OwnSections
import NitroSense.Config.OwnLists
import NitroSense.Hardware.Dmi
import NitroSense.Commands.FanControl
import NitroSense.Commands.Rejection
import NitroSense.Commands.FanRequests
import NitroSense.Daemon.Loop
import NitroSense.Daemon.CriticalLatch
import NitroSense.Daemon.FanInvariant
import NitroSense.Daemon.KeyboardTimeout
import NitroSense.Daemon.ModeRegisters
import NitroSense.Daemon.Polls
import NitroSense.Daemon.Resume
import NitroSense.Daemon.RoundTrip
import NitroSense.Daemon.Shutdown
import NitroSense.Daemon.SpeedRegisters
import NitroSense.Daemon.WriteRetry
import NitroSense.Daemon.Spikes
import NitroSense.Daemon.ConsecutiveSamples
import NitroSense.Fan.CriticalSamples
import NitroSense.Fan.Settling
import NitroSense.Fan.SteadyPoll
import NitroSense.Fan.Curve
import NitroSense.Commands.Grammar
import NitroSense.Json.Scalars
import NitroSense.Format
import NitroSense.Json.Escape
import NitroSense.Daemon.PowerSource
import NitroSense.Daemon.TimeoutEnd
import NitroSense.Daemon.PresetStart
import NitroSense.Daemon.RestoredState
import NitroSense.Daemon.CacheRoundTrip
import NitroSense.Daemon.EcRegisters
import NitroSense.Control.Socket
import NitroSense.Client.Conversation
import NitroSense.Client.Coolboost
import NitroSense.Client.HumanStatus
import NitroSense.Control.Listener
import NitroSense.Daemon.Args
import NitroSense.Daemon.Diagnostics
import NitroSense.Daemon.LastOrder
import NitroSense.Daemon.Process
import NitroSense.Daemon.RuntimeFiles
import NitroSense.Daemon.Updates
import NitroSense.Lib.Paths
import NitroSense.Sensors.PowerPaths
