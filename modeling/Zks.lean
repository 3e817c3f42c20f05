import Zks.Format.Json
import Zks.Format.Serde
import Zks.Format.Text
import Zks.Format.Base64
import Zks.Wasm.Transport
import Zks.Wasm.TransportTheorems
import Zks.Wasm.OnionMessage
import Zks.Wasm.OnionTransport
import Zks.Wasm.OnionTransportTheorems
import Zks.Wire.P2p
import Zks.Wire.P2pTheorems
import Zks.Wire.SignalingMessage
import Zks.Wire.Signaling
import Zks.Wire.SignalingTheorems
import Zks.Wire.SwarmController
import Zks.Wire.SwarmControllerTheorems
import Zks.Wire.SwarmTasks
import Zks.Wire.SwarmTasksTheorems
import Zks.Wire.SwarmSerialization
import Zks.Format.JsonTheorems
import Zks.Format.SerdeTheorems
import Zks.Wire.FrameCodecs
import Zks.Format.TextTheorems
import Zks.Format.Base64Theorems
import Zks.Wasm.TransportInputs
import Zks.Wire.CircuitPlanning
import Zks.Wire.SwarmEntropy
import Zks.Wasm.TransportRuns
import Zks.Uniffi.MeetClient
import Zks.Uniffi.MeetClientTheorems
import Zks.Uniffi.MeetTasks
import Zks.Uniffi.MeetTasksTheorems
