/-
The trail mission's configurations, `trail.pb.cfg.py`.

The script is run once for each application, with a role and a few environment
variables, and prints that application's configuration.  Here it prints a record
with the fields of the text.  What it computes at the top, before it knows which
application is asked for, is `Setup`; the functions after that take one.  Names are the script's.

Python's integers are Lean's.  The four ways in which the script can end without
printing anything are `Failure`.
-/
import Mathlib.Data.List.Basic
import Mathlib.Data.Rat.Defs

namespace Trail

/-- The first argument of the script. -/
inductive Role
  | topside
  | usv
  | auv
  deriving DecidableEq, Repr

/-- Why the script printed nothing. -/
inductive Failure
  | exit (message : String)
  | zeroDivisionError
  | typeError
  | valueError
  deriving DecidableEq, Repr

/-- What the environment holds under a name: nothing, what `int` reads, or what it does not. -/
inductive Variable
  | unset
  | integer (value : Int)
  | text
  deriving DecidableEq, Repr

/-- The environment, with what `zlib.crc32` makes of the host name. -/
structure Environ where
  trailNAuvs : Variable := .unset
  trailAuvIndex : Variable := .unset
  trailMulticastPort : Variable := .unset
  hostnameCrc32 : Nat := 0
  deriving DecidableEq, Repr

/-- `sys.exit`, with the script's own prefix. -/
def fail {α : Type} (message : String) : Except Failure α :=
  .error (.exit ("trail configuration: " ++ message))

/-- `env_int`: a variable that is not set and one that is no integer end alike. -/
def envInt (name : String) (value : Variable) : Except Failure Int :=
  match value with
  | .integer n => .ok n
  | .unset | .text => fail ("set the " ++ name ++ " environment variable (see all.launch)")

/-- The port that the host name gives when the environment does not. -/
def defaultPort (crc32 : Nat) : Int := 54500 + 2 * ((crc32 % 500 : Nat) : Int)

/-- `multicast_port`; nothing catches what `int` raises here. -/
def Environ.multicastPort (env : Environ) : Except Failure Int :=
  match env.trailMulticastPort with
  | .unset => .ok (defaultPort env.hostnameCrc32)
  | .integer port => .ok port
  | .text => .error .valueError

/-- What the script knows before it looks at the application. -/
structure Setup where
  role : Role
  nAuvs : Int
  auvIndex : Option Int
  multicastPort : Int
  deriving DecidableEq, Repr

/-- The top of the script: `n_auvs`, `auv_index` and `multicast_port`, in that order. -/
def setup (role : Role) (env : Environ) : Except Failure Setup := do
  let nAuvs ← if role ≠ .topside then envInt "trail_n_auvs" env.trailNAuvs else .ok 0
  let auvIndex ←
    if role = .auv then (envInt "trail_auv_index" env.trailAuvIndex).map some else .ok none
  let multicastPort ← env.multicastPort
  return { role, nAuvs, auvIndex, multicastPort }

/-- A machine on which `trail_multicast_port`, where it is set, is an integer. -/
structure Host where
  hostnameCrc32 : Nat := 0
  trailMulticastPort : Option Int := none
  deriving DecidableEq, Repr

namespace Host

variable (host : Host)

/-- The port that everything on this machine settles on. -/
def port : Int := host.trailMulticastPort.getD (defaultPort host.hostnameCrc32)

/-- What the environment holds before the launch files add to it. -/
def environ : Environ where
  trailMulticastPort := host.trailMulticastPort.elim .unset .integer
  hostnameCrc32 := host.hostnameCrc32

theorem multicastPort_environ : host.environ.multicastPort = .ok host.port := by
  obtain ⟨crc32, setting⟩ := host
  cases setting <;> rfl

end Host

/-! ### Identities -/

/-- The vehicle id of the USV. -/
def usvId : Int := 1

/-- A vehicle's modem id on the satellite link; zero would be broadcast. -/
def satelliteModemId (vid : Int) : Int := vid + 1

/-- A vehicle's modem id on the acoustic link, which is subnet `0x0100`. -/
def acommsModemId (vid : Int) : Int := 0x100 + vid + 1

/-- How much faster than real time the simulation runs. -/
def warp : Int := 5

/-- The latitude of the local origin, in Buzzard's Bay. -/
def latOrigin : ℚ := 41592344 / 1000000

/-- Its longitude. -/
def lonOrigin : ℚ := -70711260 / 1000000

/-! ### What is printed -/

/-- `slot { .. }`, a turn in the cycle. -/
structure Slot where
  src : Int
  slotSeconds : Nat
  maxFrameBytes : Nat := 128
  deriving DecidableEq, Repr

/-- `link { .. }`, its MAC being `MAC_FIXED_DECENTRALIZED`. -/
structure Link where
  modemId : Int
  subnetMask : BitVec 32 := 0xFF00
  multicastAddress : String := "239.142.0.2"
  multicastPort : Int
  maxFrameSize : Int := 1400
  slots : List Slot
  deriving DecidableEq, Repr

/-- `app_block`, which every Goby application is given. -/
structure AppBlock where
  app : String
  warpFactor : Int
  latOrigin : ℚ
  lonOrigin : ℚ
  platform : String
  deriving DecidableEq, Repr

/-- What `gobyd` is given: the application block and a link for each medium. -/
structure Gobyd where
  appBlock : AppBlock
  links : List Link
  deriving DecidableEq, Repr

/-- The topside manager listens to the USV. -/
structure TopsideManagerConfig where
  appBlock : AppBlock
  usvModemId : Int
  deriving DecidableEq, Repr

/-- The USV manager relays the AUVs it is told of. -/
structure USVManagerConfig where
  appBlock : AppBlock
  vehicleId : Int
  auvModemId : List Int
  deriving DecidableEq, Repr

/-- An AUV manager listens to the USV. -/
structure AUVManagerConfig where
  appBlock : AppBlock
  vehicleId : Int
  usvModemId : Int
  deriving DecidableEq, Repr

/-- What `manager` prints: the three roles have a configuration type each. -/
inductive ManagerConfig
  | topside (cfg : TopsideManagerConfig)
  | usv (cfg : USVManagerConfig)
  | auv (cfg : AUVManagerConfig)
  deriving DecidableEq, Repr

/-- What `bhv` prints: a fixed file, or a template filled in. -/
inductive Behaviors
  | usv
  | auv (trailAngle deployDepth : Int)
  deriving DecidableEq, Repr

/-- `a // b` -/
def floorDiv (a b : Int) : Except Failure Int :=
  if b = 0 then .error .zeroDivisionError else .ok (a.fdiv b)

namespace Setup

variable (s : Setup)

/-- `vehicle_id`; `auv_index or 0` is zero when there is no index. -/
def vehicleId : Int :=
  match s.role with
  | .topside => 0
  | .usv => usvId
  | .auv => 2 + s.auvIndex.getD 0

/-- `platform`, which is also what the topside will show. -/
def platform : String :=
  match s.role with
  | .topside => "topside"
  | .usv => "usv"
  | .auv => "auv" ++ (s.auvIndex.map toString).getD "None"

/-- `auv_modem_ids` -/
def auvModemIds : List Int :=
  (List.range s.nAuvs.toNat).map fun (i : Nat) => acommsModemId (2 + (i : Int))

/-- `app_block`, filled in for this member. -/
def appBlock (app : String) : AppBlock where
  app := app
  warpFactor := warp
  latOrigin := Trail.latOrigin
  lonOrigin := Trail.lonOrigin
  platform := s.platform

/-- `satellite_link`: the topside and the USV take turns. -/
def satelliteLink : Link where
  modemId := satelliteModemId s.vehicleId
  multicastPort := s.multicastPort
  slots := [0, usvId].map fun v => { src := satelliteModemId v, slotSeconds := 1 }

/-- `acomms_link`: the USV has a slot before each AUV's. -/
def acommsLink : Link where
  modemId := acommsModemId s.vehicleId
  multicastPort := s.multicastPort + 1
  slots := s.auvModemIds.flatMap fun auv =>
    [{ src := acommsModemId usvId, slotSeconds := 10 }, { src := auv, slotSeconds := 10 }]

/-- `gobyd`; only the USV is on both links. -/
def gobyd : Gobyd where
  appBlock := s.appBlock "gobyd"
  links :=
    match s.role with
    | .topside => [s.satelliteLink]
    | .usv => [s.satelliteLink, s.acommsLink]
    | .auv => [s.acommsLink]

/-- `manager`, for whichever of the three applications is the role's. -/
def manager : ManagerConfig :=
  match s.role with
  | .topside =>
    .topside
      { appBlock := s.appBlock "goby3_example_trail_topside_manager"
        usvModemId := satelliteModemId usvId }
  | .usv =>
    .usv
      { appBlock := s.appBlock "goby3_example_trail_usv_manager"
        vehicleId := s.vehicleId
        auvModemId := s.auvModemIds }
  | .auv =>
    .auv
      { appBlock := s.appBlock "goby3_example_trail_auv_manager"
        vehicleId := s.vehicleId
        usvModemId := acommsModemId usvId }

/-- `bhv`; arithmetic on a missing index is a type error. -/
def bhv : Except Failure Behaviors :=
  match s.role, s.auvIndex with
  | .usv, _ => .ok .usv
  | _, none => .error .typeError
  | _, some i => do
    let trailAngle ←
      if s.nAuvs = 1 then .ok 180 else (floorDiv (180 * i) (s.nAuvs - 1)).map (90 + ·)
    return .auv trailAngle (10 + 10 * i)

theorem mem_auvModemIds {s : Setup} {m : Int} :
    m ∈ s.auvModemIds ↔ ∃ i, 0 ≤ i ∧ i < s.nAuvs ∧ m = acommsModemId (2 + i) := by
  simp only [Setup.auvModemIds, List.mem_map, List.mem_range]
  constructor
  · rintro ⟨j, hj, rfl⟩
    exact ⟨j, by omega, by omega, rfl⟩
  · rintro ⟨i, hlo, hhi, rfl⟩
    refine ⟨i.toNat, by omega, ?_⟩
    rw [Int.toNat_of_nonneg hlo]

end Setup

end Trail
