import Ipv6Mesh.DbMemory

/-!
# Room admission

The join limiter and the room coordinator of `internal/control/room.go`. The
coordinator's state is the identifier of the room's network, empty until a room
exists.
-/

namespace Ipv6Mesh.ControlRoom

open GoText ControlModel
open DbMemory (GoMap Outcome MemoryRepository)

def defaultRoomJoinPerIP : Int := 10

def defaultRoomJoinGlobal : Int := 100

def roomJoinWindow : Duration := minute

def roomLimiterEntryTTL : Duration := 2 * minute

def splitHost (hostport : List Char) : Option String :=
  let port := (hostport.reverse.takeWhile (· ≠ ':')).reverse
  let beforePort := hostport.take (hostport.length - port.length - 1)
  if ':' ∉ hostport then none
  else
    match hostport with
    | '[' :: rest =>
      let host := rest.takeWhile (· ≠ ']')
      -- the bracket must close right before the last colon
      if ']' ∉ rest ∨ beforePort ≠ '[' :: (host ++ [']']) then none
      else if '[' ∈ rest ∨ ']' ∈ port then none
      else some (String.ofList host)
    | _ =>
      if ':' ∈ beforePort ∨ '[' ∈ hostport ∨ ']' ∈ hostport then none
      else some (String.ofList beforePort)

structure RoomLimitEntry where
  window : Time
  count : Int
  lastSeen : Time
deriving DecidableEq

structure RoomJoinLimiter where
  perIP : Int
  globalLimit : Int
  globalWindow : Time
  globalCount : Int
  sources : GoMap RoomLimitEntry

def newRoomJoinLimiter (perIP globalLimit : Int) : RoomJoinLimiter :=
  { perIP := if perIP ≤ 0 then defaultRoomJoinPerIP else perIP
    globalLimit := if globalLimit ≤ 0 then defaultRoomJoinGlobal else globalLimit
    globalWindow := 0
    globalCount := 0
    sources := ∅ }

def truncate (now : Time) (window : Duration) : Time := now - now % window

/-- The limiter after the entries last seen too long ago are dropped and the
global count starts over in a new window. -/
def RoomJoinLimiter.refresh (limiter : RoomJoinLimiter) (now : Time) : RoomJoinLimiter :=
  let window := truncate now roomJoinWindow
  let kept := limiter.sources.filter fun _ entry => now - entry.lastSeen ≤ roomLimiterEntryTTL
  if limiter.globalWindow ≠ window then
    { limiter with sources := kept, globalWindow := window, globalCount := 0 }
  else { limiter with sources := kept }

def RoomJoinLimiter.allow (limiter : RoomJoinLimiter) (remoteAddr : String) (now : Time) :
    Bool × RoomJoinLimiter :=
  match splitHost (trimSpace remoteAddr).toList with
  | none => (false, limiter)
  | some source =>
    if blank source then (false, limiter)
    else
      let window := truncate now roomJoinWindow
      let refreshed := limiter.refresh now
      let entry : RoomLimitEntry :=
        match refreshed.sources[source]? with
        | some entry => if entry.window ≠ window then ⟨window, 0, 0⟩ else entry
        | none => ⟨window, 0, 0⟩
      if refreshed.globalLimit ≤ refreshed.globalCount ∨ refreshed.perIP ≤ entry.count then
        (false, refreshed)
      else
        (true, { refreshed with
          globalCount := refreshed.globalCount + 1
          sources := refreshed.sources.insert source
            { entry with count := entry.count + 1, lastSeen := now } })

/-- `roomCoordinator.create`: the network's error or success, the room's network
and the repository. -/
def create (ctx : Context) (network : Network) (roomNetworkID : String)
    (repository : MemoryRepository) : Except Error Unit × String × MemoryRepository :=
  if roomNetworkID ≠ "" then (.error (.sentinel .roomAlreadyExists), roomNetworkID, repository)
  else
    match DbMemory.createNetwork ctx network repository with
    | (.error err, after) => (.error err, roomNetworkID, after)
    | (.ok (), after) => (.ok (), network.id, after)

end Ipv6Mesh.ControlRoom
