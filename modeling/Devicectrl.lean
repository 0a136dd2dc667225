import Devicectrl.Spec.DispatchAgreement
import Devicectrl.Spec.Interference
import Devicectrl.Spec.RequestDelivery
import Devicectrl.Spec.SimpleCommands
import Devicectrl.Spec.SimpleDelivery
import Devicectrl.Spec.SimpleLifetime
import Devicectrl.Spec.DependencyAutomation
import Devicectrl.ForStd.Chain
import Devicectrl.Spec.ServerProcess
import Devicectrl.Spec.DependencyCascade
import Devicectrl.ForStd.SortUnstable
import Devicectrl.Native.Requests
import Devicectrl.Native.ServerBackends
import Devicectrl.Native.Sockets
import Devicectrl.Spec.RequestCalls
import Devicectrl.Spec.ClientNotifications
import Devicectrl.Spec.SceneClients
import Devicectrl.Native.Http
import Devicectrl.Spec.Acknowledgements
import Devicectrl.ForStd.Json
import Devicectrl.Native.Govee
import Devicectrl.Native.Tplink
import Devicectrl.Native.Ingestion
import Devicectrl.Spec.DeviceTable
import Devicectrl.Spec.StateTypes
import Devicectrl.Spec.DependencyOn
import Devicectrl.Native.DependencyPlant
import Devicectrl.Spec.DependencyOff
import Devicectrl.Spec.DependencyAmplification
import Devicectrl.ForStd.SequenceNumbers
import Devicectrl.Spec.SimpleReplay
import Devicectrl.ForStd.RwLock
import Devicectrl.ForStd.LockedFutures
import Devicectrl.Native.DevicesLock
import Devicectrl.Spec.DevicesLock
import Devicectrl.Spec.SendUpdate
import Devicectrl.ForStd.IncrementalParser
import Devicectrl.Native.KryptonHello
import Devicectrl.Spec.KryptonHello
import Devicectrl.ForStd.RangeInclusive
import Devicectrl.Native.SunsetLightTemp
import Devicectrl.Spec.SunsetRamp
import Devicectrl.Spec.SunsetWakes
import Devicectrl.Native.Emissions
import Devicectrl.Spec.UpdateEffects
import Devicectrl.ForStd.TaggedLog
import Devicectrl.Spec.SceneEffects
import Devicectrl.Spec.RelativeUpdates
import Devicectrl.ForStd.Translation
import Devicectrl.Spec.SocketEquivalence
import Devicectrl.ForStd.ChainedCipher
import Devicectrl.Spec.TplinkCipher
import Devicectrl.ForStd.FrameStream
import Devicectrl.Spec.SimpleRoundTrip
import Devicectrl.Native.UdpListeners
import Devicectrl.Spec.UdpIngestion
import Devicectrl.Spec.GoveeBrightness
import Devicectrl.ForStd.Noninterference
import Devicectrl.Spec.TplinkConfirmation
import Devicectrl.ForStd.SystemPart
import Devicectrl.ForStd.RunHistory
import Devicectrl.Native.ServerTasks
import Devicectrl.Spec.TaskChanges
import Devicectrl.Spec.ServerTasks
import Devicectrl.Spec.ServerRuns
import Devicectrl.Spec.NotificationLedger
import Devicectrl.Spec.ServerReports
import Devicectrl.Spec.RequestLedger
import Devicectrl.Spec.ServerRequests
import Devicectrl.ForStd.Forwarding
import Devicectrl.Spec.KryptonCommands
import Devicectrl.Spec.ServerDeliveries
import Devicectrl.Spec.ServerCalls
import Devicectrl.ForStd.JoinAll
import Devicectrl.Spec.StartupQueries
import Devicectrl.Spec.ServerResponses
import Devicectrl.Spec.ClientAnswers
import Devicectrl.Spec.DependencyFollows
import Devicectrl.Spec.ServerSunsets
import Devicectrl.ForStd.GuardedReads
import Devicectrl.Spec.GuardedDevices
import Devicectrl.ForStd.BoundedWaiting
import Devicectrl.Spec.DevicesWaiting
