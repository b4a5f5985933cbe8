import ReactorC.Util.Bytes
import ReactorC.Util.Socket
import ReactorC.Util.Semaphore
import ReactorC.Federate.Coordination
import ReactorC.Federate.Wire
import ReactorC.Federate.Inbound
import ReactorC.Federate.Peer
import ReactorC.Network.ReadWrite
import ReactorC.Network.Ports
import ReactorC.Federate.Schedule
import ReactorC.Federate.Connect
import ReactorC.Federate.Session
import ReactorC.Platform.Zephyr
import ReactorC.Platform.ZephyrSleep
import ReactorC.Platform.ZephyrThreads
import ReactorC.Api.Schedule
