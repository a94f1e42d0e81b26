import Ipv6Mesh.NetwinOwnership
import Ipv6Mesh.DbAgreement
import Ipv6Mesh.PostgresScan
import Ipv6Mesh.ReconcileTeardown
import Ipv6Mesh.DbInvites
import Ipv6Mesh.AuthHistory
import Ipv6Mesh.EnrollmentRecovery
import Ipv6Mesh.HandlerDepartures
import Ipv6Mesh.HandlerRoomJoins
import Ipv6Mesh.SnapshotPlans
import Ipv6Mesh.PathSelector
import Ipv6Mesh.IpcResponses
import Ipv6Mesh.ServicePlane
import Ipv6Mesh.ServiceJoins
import Ipv6Mesh.RoomLimits
import Ipv6Mesh.EnrollmentService
import Ipv6Mesh.WireRoundTrip
import Ipv6Mesh.PostgresLocks
import Ipv6Mesh.DbInviteRecords
import Ipv6Mesh.DbRelayOwners
import Ipv6Mesh.RelayRecords
import Ipv6Mesh.ServiceAnswers
import Ipv6Mesh.HandlerHeartbeats
import Ipv6Mesh.EndpointReports
import Ipv6Mesh.PlanExactness
import Ipv6Mesh.AddressTraversal
import Ipv6Mesh.WatchBackoff
import Ipv6Mesh.IpcStrictness
import Ipv6Mesh.ServiceGenerations
import Ipv6Mesh.RoomMembers
import Ipv6Mesh.RelayValidation
import Ipv6Mesh.RelayReconfiguration
import Ipv6Mesh.ControlAddressing
import Ipv6Mesh.WgntRoundTrip
import Ipv6Mesh.VpnctlOptions
