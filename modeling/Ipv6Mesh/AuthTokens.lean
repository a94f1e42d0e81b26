import Ipv6Mesh.DbMemory
import Ipv6Mesh.GoBase64
import Ipv6Mesh.GoSha256

/-!
# Control-plane credentials

A transcription of `internal/auth/tokens.go`. A call takes the value its clock
returns and what the random source answers to each read; `io.ReadFull` either
fails or fills the whole buffer.
-/

namespace Ipv6Mesh.AuthTokens

open GoText GoNet GoBase64 GoSha256 ControlModel
open DbMemory (GoMap refuseWhen)

def hashToken (token : String) : String := String.ofList (hexString (sum256 (bytesOf token)))

def validateBootstrapToken (configured presented : String) : Except Error Unit :=
  let same := sum256 (bytesOf configured) = sum256 (bytesOf presented)
  refuseWhen (configured = "" || presented = "" || !same) .invalidBootstrapToken

def parseBearerHeader (header : String) : Except Error String :=
  if header = "" then .error (.sentinel .missingCredential)
  else
    match splitAt ' ' header with
    | [scheme, token] =>
      if scheme ≠ "Bearer" ∨ token = "" ∨ containsAny token " \t\r\n" then
        .error (.sentinel .malformedCredential)
      else .ok token
    | _ => .error (.sentinel .malformedCredential)

inductive Role where
  | admin
  | node
  | unsupported (text : String)
deriving DecidableEq

structure Session where
  subject : String
  role : Role
  networkID : String
  expiresAt : Time
deriving DecidableEq

structure SessionStore where
  ttl : Duration
  sessions : GoMap Session
  revokedNetworks : GoMap Unit

def newSessionStore (ttl : Duration) : SessionStore :=
  { ttl := ttl, sessions := ∅, revokedNetworks := ∅ }

abbrev Secret := { bytes : List UInt8 // bytes.length = 32 }

abbrev SecretReads := Fin 4 → Except Error Secret

def isNetworkRevoked (networkID : String) (store : SessionStore) : Bool :=
  store.revokedNetworks.contains networkID

def issueToken (session : Session) : List (Except Error Secret) → SessionStore →
    Except Error (String × Session) × SessionStore
  | [], store => (.error (.external "unable to generate unique session token"), store)
  | .error err :: _, store => (.error err, store)
  | .ok secret :: reads, store =>
    let token := encodeRawURL secret.val
    if store.sessions.contains token then issueToken session reads store
    else (.ok (token, session), { store with sessions := store.sessions.insert token session })

def issueSession (now : Time) (random : SecretReads) (subject : String) (role : Role)
    (networkID : String) (store : SessionStore) :
    Except Error (String × Session) × SessionStore :=
  if store.ttl ≤ 0 ∨ blank subject then (.error (.sentinel .invalidSessionTTL), store)
  else if role ≠ .admin ∧ role ≠ .node then (.error (.sentinel .insufficientPermission), store)
  else if role = .node ∧ blank networkID then (.error (.sentinel .wrongNetwork), store)
  else if networkID ≠ "" ∧ isNetworkRevoked networkID store then
    (.error (.sentinel .revokedNetwork), store)
  else
    issueToken ⟨subject, role, networkID, now + store.ttl⟩ (List.ofFn random) store

def issueAdminSession (now : Time) (random : SecretReads) (subject : String)
    (store : SessionStore) : Except Error (String × Session) × SessionStore :=
  issueSession now random subject .admin "" store

def issueAdminNetworkSession (now : Time) (random : SecretReads) (subject networkID : String)
    (store : SessionStore) : Except Error (String × Session) × SessionStore :=
  issueSession now random subject .admin networkID store

def issueNodeSession (now : Time) (random : SecretReads) (subject networkID : String)
    (store : SessionStore) : Except Error (String × Session) × SessionStore :=
  issueSession now random subject .node networkID store

def authenticate (now : Time) (token : String) (store : SessionStore) :
    Except Error Session × SessionStore :=
  if token = "" then (.error (.sentinel .invalidCredential), store)
  else
    match store.sessions[token]? with
    | none => (.error (.sentinel .invalidCredential), store)
    | some session =>
      if session.expiresAt ≤ now then
        (.error (.sentinel .sessionExpired), { store with sessions := store.sessions.erase token })
      else if session.networkID ≠ "" ∧ isNetworkRevoked session.networkID store then
        (.error (.sentinel .revokedNetwork), store)
      else (.ok session, store)

def roleScope (session : Session) (networkID : String) : Except Error Unit :=
  match session.role with
  | .admin => refuseWhen (session.networkID ≠ "" && session.networkID ≠ networkID) .wrongNetwork
  | .node => refuseWhen (session.networkID ≠ networkID) .wrongNetwork
  | .unsupported _ => .error (.sentinel .insufficientPermission)

def authorizeNetwork (now : Time) (session : Session) (networkID : String)
    (store : SessionStore) : Except Error Unit := do
  refuseWhen (blank networkID) .wrongNetwork
  refuseWhen (!Time.isZero session.expiresAt && session.expiresAt ≤ now) .sessionExpired
  refuseWhen (isNetworkRevoked networkID store) .revokedNetwork
  roleScope session networkID

def revokeSession (token : String) (store : SessionStore) : SessionStore :=
  if token = "" then store else { store with sessions := store.sessions.erase token }

def revokeNetwork (networkID : String) (store : SessionStore) : SessionStore :=
  if networkID = "" then store
  else { store with revokedNetworks := store.revokedNetworks.insert networkID () }

end Ipv6Mesh.AuthTokens
