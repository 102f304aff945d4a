import GveAdminq.Wire
import GveAdminq.State
import GveAdminq.Transport
import GveAdminq.Ring
import GveAdminq.TransportSpec
import GveAdminq.Commands
import GveAdminq.Descriptor
import GveAdminq.Session
import GveAdminq.Scan
import GveAdminq.DeviceConfig
import GveAdminq.Execute
import GveAdminq.Queues
import GveAdminq.Counters
import GveAdminq.QueueStats
import GveAdminq.Negotiation
import GveAdminq.Bounds
import GveAdminq.Wraparound
