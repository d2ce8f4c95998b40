import KefLsx.Protocol.FrameParser
import KefLsx.Runtime.Accounting
import KefLsx.Runtime.Speaker
import KefLsx.Runtime.Verification
import KefLsx.Runtime.Availability
import KefLsx.Runtime.Shutdown
import KefLsx.Runtime.Wakeup
import KefLsx.Runtime.Closing
import KefLsx.Runtime.Publication
import KefLsx.Runtime.Pacing
import KefLsx.Core.Shield
import KefLsx.Core.Table
import KefLsx.Runtime.Polling
import KefLsx.Runtime.Queue
import KefLsx.Runtime.Coalescing
import KefLsx.Runtime.Volume
import KefLsx.Client.Chunking
import KefLsx.Runtime.Encodable
import KefLsx.Runtime.Finality
import KefLsx.Runtime.Draining
import KefLsx.Config.Title
import KefLsx.Config.Host
import KefLsx.Client.Connection
import KefLsx.Client.OneAtATime
import KefLsx.Config.Flow
import KefLsx.Integration.Lifecycle
import KefLsx.Client.Bounds
import KefLsx.FakeLsx.Server
import KefLsx.FakeLsx.Exchange
import KefLsx.Core.Replica
import KefLsx.Deployment.Flight
import KefLsx.Deployment.Coherence
import KefLsx.Deployment.Delivery
import KefLsx.Deployment.Verification
import KefLsx.Config.Options
import KefLsx.Runtime.Cost
import KefLsx.Runtime.Termination
import KefLsx.Integration.MediaPlayer
import KefLsx.Client.Calls
import KefLsx.Integration.Sensor
