import PolicyRuntime.Machine
import PolicyRuntime.FloatingPoint
import PolicyRuntime.Messages
import PolicyRuntime.Cia402Axis
import PolicyRuntime.SafetySupervisor
import PolicyRuntime.GroupPropagation
import PolicyRuntime.StopMachine
import PolicyRuntime.SupervisorRuns
import PolicyRuntime.EnableSoundness
import PolicyRuntime.StopPath
import PolicyRuntime.Standstill
import PolicyRuntime.SafetyGroups
import PolicyRuntime.DeviceCycle
import PolicyRuntime.FaultResetBudget
import PolicyRuntime.Daemon
import PolicyRuntime.CommandHandoff
import PolicyRuntime.SafeStop
import PolicyRuntime.CommandReplay
import PolicyRuntime.Shutdown
import PolicyRuntime.AxisAgreement
import PolicyRuntime.TopicRegistry
import PolicyRuntime.TopicNamespace
import PolicyRuntime.DaemonEndpoint
import PolicyRuntime.EpochDelivery
import PolicyRuntime.AxisProfiles
import PolicyRuntime.St3215Servo
import PolicyRuntime.CommandDelivery
import PolicyRuntime.St3215Protocol
import PolicyRuntime.St3215Bus
import PolicyRuntime.ServoCommands
import PolicyRuntime.GoalDiscipline
import PolicyRuntime.RegistryStaging
import PolicyRuntime.StagingAtomicity
import PolicyRuntime.DeviceRegistry
import PolicyRuntime.LatchedBus
import PolicyRuntime.FaultMask
import PolicyRuntime.SerialTransport
import PolicyRuntime.SerialLine
import PolicyRuntime.BusExchange
import PolicyRuntime.HealthyBus
import PolicyRuntime.EthercatMaster
import PolicyRuntime.EthercatLifecycle
import PolicyRuntime.AdmissionBalance
import PolicyRuntime.LinkTable
import PolicyRuntime.LinkedDevices
import PolicyRuntime.RobotProfiles
import PolicyRuntime.CanTopology
import PolicyRuntime.CanRouting
import PolicyRuntime.DamiaoActuator
import PolicyRuntime.SeqLock
import PolicyRuntime.CanRuntime
import PolicyRuntime.CanDelivery
import PolicyRuntime.DamiaoHandshake
import PolicyRuntime.SensorPublication
import PolicyRuntime.RuntimeHost
import PolicyRuntime.HostCommands
import PolicyRuntime.DeviceNumbering
import PolicyRuntime.SensorNetwork
import PolicyRuntime.SensorIdentity
import PolicyRuntime.CommandIdentity
import PolicyRuntime.DaemonConfigure
import PolicyRuntime.CommandGate
import PolicyRuntime.DaemonStart
import PolicyRuntime.StartRollback
import PolicyRuntime.SessionSteps
import PolicyRuntime.ProfileLoader
import PolicyRuntime.LoaderPairing
import PolicyRuntime.AxisLinks
import PolicyRuntime.TopologyBindings
import PolicyRuntime.TopologyPairing
import PolicyRuntime.AcceptedLimits
import PolicyRuntime.LocalSnapshot
import PolicyRuntime.SnapshotReads
import PolicyRuntime.SensorQueue
import PolicyRuntime.SensorAccounting
import PolicyRuntime.SensorDrain
import PolicyRuntime.EthercatMailbox
import PolicyRuntime.MailboxLifecycle
import PolicyRuntime.MailboxSteps
import PolicyRuntime.MailboxOrder
import PolicyRuntime.MailboxResults
import PolicyRuntime.MailboxExclusive
import PolicyRuntime.IghSdo
import PolicyRuntime.MailboxConflicts
import PolicyRuntime.St3215Codec
import PolicyRuntime.Framing
import PolicyRuntime.St3215Stream
import PolicyRuntime.SerialFraming
import PolicyRuntime.SerialDelivery
import PolicyRuntime.VirtualCan
import PolicyRuntime.CommandLatch
import PolicyRuntime.ExtendedArithmetic
import PolicyRuntime.Limiter
import PolicyRuntime.TargetLimits
import PolicyRuntime.ProcessImage
import PolicyRuntime.EthercatCycle
import PolicyRuntime.JsonValues
import PolicyRuntime.RpcCodec
import PolicyRuntime.RpcRoundTrip
import PolicyRuntime.HostValues
import PolicyRuntime.HandleText
import PolicyRuntime.PdoAccess
import PolicyRuntime.IntegerText
import PolicyRuntime.Quantization
import PolicyRuntime.DamiaoFrames
import PolicyRuntime.DamiaoFeedback
import PolicyRuntime.RoundRobin
import PolicyRuntime.MailboxRounds
import PolicyRuntime.RealtimeLoop
import PolicyRuntime.ReleaseSchedule
import PolicyRuntime.Ownership
import PolicyRuntime.RealtimeSetup
import PolicyRuntime.SerialPorts
import PolicyRuntime.WireEnable
import PolicyRuntime.SimulatedServos
import PolicyRuntime.ServedRequests
import PolicyRuntime.LineNoise
import PolicyRuntime.SimulatedMotors
import PolicyRuntime.SerialWire
import PolicyRuntime.IghBackend
import PolicyRuntime.IghSession
