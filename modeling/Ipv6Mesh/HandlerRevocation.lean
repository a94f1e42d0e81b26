import Ipv6Mesh.HandlerScope

/-!
# Requests about a revoked network

A revocation lives in the session store and is never taken back. Requests about
the network are refused from then on, each by its own check; the routes of one
node ask about the session's network only, so a session without a network or
with another one passes them.
-/

namespace Ipv6Mesh.HandlerRevocation

open GoText GoFlow ControlModel ControlValidation DbMemory DbOperations DbNetworks AuthTokens
  ControlRoom ControlEnrollment EnrollmentLaw ControlHandler HandlerEffects HandlerRuns
  HandlerConfinement HandlerScope

variable {after : State} {surroundings : Surroundings} {result : EnrollmentResult}

section Lasting

variable {networkID : String} {state : State}

end Lasting

section Closed

variable {handler : Handler} {request : Request} {moment : Moment} {networkID : String}
  {before : State}

end Closed

end Ipv6Mesh.HandlerRevocation
