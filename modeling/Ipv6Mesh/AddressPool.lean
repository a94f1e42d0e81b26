import Ipv6Mesh.ControlModel
import Ipv6Mesh.GoCidr

/-!
# Virtual IPv4 pools

`Pool` and the traversal of `internal/address/pool.go`, on the pools that
`NewPool` returns. `rand.Int` draws a start offset below the number of usable
hosts; every number stands for a draw, taken modulo that limit. The set of
occupied values is the list of its members, and the entries of a map come in
some order.
-/

namespace Ipv6Mesh.AddressPool

open GoText GoNet GoCidr ControlModel

structure Pool where
  cidr : String
  network : Nat
  prefixLength : Nat
  first : Nat
  last : Nat
  usableCount : Nat
deriving DecidableEq

def newPool (cidr : String) : Except Error Pool :=
  match parseCIDR cidr with
  | none => .error (.wrapped .invalidPool ("invalid CIDR address: " ++ cidr))
  | some parsed =>
    match to4 parsed.ip, to4 parsed.network.ip with
    | some ip4, some networkIP =>
      if parsed.network.bits ≠ 32 ∨ equal ip4 networkIP = false then
        .error (.wrapped .invalidPool "pool must be a canonical IPv4 network")
      else
        let networkValue := bigEndian networkIP
        let size := 2 ^ (32 - parsed.ones)
        let normalized := text networkIP ++ "/" ++ Nat.repr parsed.ones
        if 2 < size then
          .ok ⟨normalized, networkValue, parsed.ones, (networkValue + 1) % 2 ^ 32,
            (networkValue + (size - 2)) % 2 ^ 32, size - 2⟩
        else .ok ⟨normalized, networkValue, parsed.ones, 0, 0, 0⟩
    | _, _ => .error (.wrapped .invalidPool "pool must be IPv4")

def Pool.size (pool : Pool) : Nat := pool.usableCount

def Pool.usable (pool : Pool) (ip : IP) : Bool :=
  match to4 ip with
  | none => false
  | some bytes =>
    pool.usableCount ≠ 0 && pool.first ≤ bigEndian bytes && bigEndian bytes ≤ pool.last

def occupiedValues (occupied : List IP) : List Nat :=
  occupied.filterMap fun ip => (to4 ip).map bigEndian

/-- The wrapping search of `RandomNext`; the first argument counts the offsets left. -/
def Pool.scan (pool : Pool) (used : List Nat) (start : Nat) : Nat → Nat → Option Nat
  | 0, _ => none
  | remaining + 1, offset =>
    let value := (pool.first + (start + offset) % pool.usableCount) % 2 ^ 32
    if value ∈ used then pool.scan used start remaining (offset + 1) else some value

def Pool.randomNext (pool : Pool) (draw : Except Error Nat) (occupied : List IP) :
    Except Error IP :=
  if pool.usableCount = 0 then .error (.poolExhausted pool.cidr)
  else do
    let start ← draw
    match pool.scan (occupiedValues occupied) (start % pool.usableCount) pool.usableCount 0 with
    | some value => .ok (putUint32 value)
    | none => .error (.poolExhausted pool.cidr)

def Pool.contains (pool : Pool) (ip : IP) : Bool :=
  match to4 ip with
  | none => false
  | some bytes =>
    let mask : BitVec 32 :=
      if 0 < pool.prefixLength then BitVec.allOnes 32 <<< (32 - pool.prefixLength) else 0
    (BitVec.ofNat 32 (bigEndian bytes) &&& mask) = (BitVec.ofNat 32 pool.network &&& mask)

/-- The loop of `ForEachCandidate`, for the given number of turns at most; `none`
is a loop that has not ended by then. A visitor returns its error and what it
leaves behind. -/
def Pool.visitFrom {State Failure : Type} (pool : Pool)
    (visit : IP → State → Option Failure × State) :
    Nat → Nat → State → Option (Option Failure × State)
  | 0, _, _ => none
  | turns + 1, value, state =>
    match visit (putUint32 value) state with
    | (some failure, state) => some (some failure, state)
    | (none, state) =>
      if value = pool.last then some (none, state)
      else pool.visitFrom visit turns ((value + 1) % 2 ^ 32) state

def Pool.forEachCandidate {State Failure : Type} (pool : Pool)
    (visit : IP → State → Option Failure × State) (state : State) :
    Option (Option Failure × State) :=
  if pool.usableCount = 0 then some (none, state)
  else pool.visitFrom visit (2 ^ 32) pool.first state

inductive Occupied where
  | ip (address : IP)
  | text (value : String)
  | ips (addresses : List IP)
  | texts (values : List String)
  | keys (values : List String)
  | flags (entries : List (String × Bool))
  | other

def addAddress (used : List Nat) (address : IP) : List Nat :=
  match to4 address with
  | some bytes => bigEndian bytes :: used
  | none => used

def addText (used : List Nat) (value : String) : List Nat :=
  match parseIP (trimSpace value) with
  | some address => addAddress used address
  | none => used

def addOccupied (used : List Nat) : Occupied → List Nat
  | .ip address => addAddress used address
  | .text value => addText used value
  | .ips addresses => addresses.foldl addAddress used
  | .texts values => values.foldl addText used
  | .keys values => values.foldl addText used
  | .flags entries =>
    entries.foldl (fun used entry => if entry.2 then addText used entry.1 else used) used
  | .other => used

def usedValues (occupied : List Occupied) : List Nat := occupied.foldl addOccupied []

def stopAtFree (used : List Nat) (candidate : IP) (result : Option IP) :
    Option Unit × Option IP :=
  if bigEndian candidate ∈ used then (none, result) else (some (), some candidate)

def Pool.next (pool : Pool) (occupied : List Occupied) : Option (Except Error IP) :=
  (pool.forEachCandidate (stopAtFree (usedValues occupied)) none).map fun
    | (_, some candidate) => .ok candidate
    | (_, none) => .error (.poolExhausted pool.cidr)

def Pool.scanUint64 (pool : Pool) (used : List Nat) (start : Nat) : Nat → Nat → Option Nat
  | 0, _ => none
  | remaining + 1, offset =>
    let candidateOffset := (start + offset) % 2 ^ 64 % pool.usableCount
    let value := (pool.first + candidateOffset % 2 ^ 32) % 2 ^ 32
    if value ∈ used then pool.scanUint64 used start remaining ((offset + 1) % 2 ^ 64)
    else some value

def Pool.randomNextAmong (pool : Pool) (draw : Except Error Nat) (occupied : List Occupied) :
    Except Error IP :=
  if pool.usableCount = 0 then .error (.poolExhausted pool.cidr)
  else do
    let start ← draw
    match pool.scanUint64 (usedValues occupied) (start % pool.usableCount) pool.usableCount 0 with
    | some value => .ok (putUint32 value)
    | none => .error (.poolExhausted pool.cidr)

end Ipv6Mesh.AddressPool
