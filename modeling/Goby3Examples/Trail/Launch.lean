/-
What is launched for a fleet, and whether its processes find each other:
`topside.launch`, `usv.launch`, `auv.launch`, `moos_gen.sh`, and the part of
`trail.pb.cfg.py` that `Trail/Config.lean` leaves out.

A launch file names the applications whose configurations the script is asked for.
Each is asked for on its own, so a simulator and the interface that connects to it,
or a MOOS database and its clients, are told their common port in separate runs of
the script.  All vehicles run on one machine, where a port has one owner.

The parts that have no other use are left as the script prints them.
-/
import Goby3Examples.Trail.Environment
import Goby3Examples.Trail.Identity

namespace Trail

/-! ### The rest of what is printed -/

/-- What the frontseat interface is given: the simulator's port and the MOOS database's. -/
structure FrontseatConfig where
  appBlock : AppBlock
  requireHelm : Bool := true
  helmRunningTimeout : Nat := 10
  frontseatConnectedTimeout : Nat := 10
  statusPeriod : Nat := 5
  exitOnError : Bool := false
  type : String
  tcpAddress : String := "127.0.0.1"
  tcpPort : Int
  startLat : ℚ
  startLon : ℚ
  server : String := "127.0.0.1"
  port : Int
  useBinaryProtobuf : Bool := false
  deriving DecidableEq, Repr

/-- What Liaison is given. -/
structure LiaisonConfig where
  appBlock : AppBlock
  httpAddress : String := "0.0.0.0"
  httpPort : Int := 50000
  loadSharedLibrary : String
  staleTimeoutSeconds : Nat := 30
  blankBackground : Bool
  deriving DecidableEq, Repr

/-- What the gateway to the MOOS database is given. -/
structure MoosGatewayConfig where
  appBlock : AppBlock
  server : String := "localhost"
  port : Int
  pollFrequency : Nat := 10
  deriving DecidableEq, Repr

/-- `vehicle.moos.in`, filled in. -/
structure MoosFile where
  serverHost : String := "localhost"
  serverPort : Int
  community : String
  moosTimeWarp : Int
  latOrigin : ℚ
  longOrigin : ℚ
  behaviors : String
  speedMax : Nat
  deriving DecidableEq, Repr

/-- Whatever the script prints. -/
inductive Printed
  | gobyd (cfg : Gobyd)
  | frontseat (cfg : FrontseatConfig)
  | liaison (cfg : LiaisonConfig)
  | manager (cfg : ManagerConfig)
  | moosGateway (cfg : MoosGatewayConfig)
  | moos (file : MoosFile)
  | bhv (behaviors : Behaviors)
  | simulatorPort (port : Int)
  deriving DecidableEq, Repr

/-- Where the examples are installed, and `trail_map_tiles`. -/
structure Site where
  examplesLibDir : String
  trailMapTiles : Option String := none

/-! ### The script -/

/-- The keys of `generators`. -/
inductive App
  | gobyd
  | frontseatInterface
  | liaison
  | topsideManager
  | usvManager
  | auvManager
  | moosGateway
  | moos
  | bhv
  | simulatorPort
  deriving DecidableEq, Repr

namespace App

/-- The second argument of the script. -/
def name : App → String
  | .gobyd => "gobyd"
  | .frontseatInterface => "goby_frontseat_interface"
  | .liaison => "goby_liaison"
  | .topsideManager => "goby3_example_trail_topside_manager"
  | .usvManager => "goby3_example_trail_usv_manager"
  | .auvManager => "goby3_example_trail_auv_manager"
  | .moosGateway => "goby_moos_gateway"
  | .moos => "moos"
  | .bhv => "bhv"
  | .simulatorPort => "simulator_port"

/-- `generators`, in its order. -/
def all : List App :=
  [.gobyd, .frontseatInterface, .liaison, .topsideManager, .usvManager, .auvManager, .moosGateway,
    .moos, .bhv, .simulatorPort]

end App

/-- The name in the application block is the one that was asked for. -/
def ManagerConfig.withApp (app : String) : ManagerConfig → ManagerConfig
  | .topside cfg => .topside { cfg with appBlock := { cfg.appBlock with app } }
  | .usv cfg => .usv { cfg with appBlock := { cfg.appBlock with app } }
  | .auv cfg => .auv { cfg with appBlock := { cfg.appBlock with app } }

/-- `role.upper()` -/
def Role.upper : Role → String
  | .topside => "TOPSIDE"
  | .usv => "USV"
  | .auv => "AUV"

namespace Setup

variable (s : Setup)

/-- `simulator_port` -/
def simulatorPort : Int := 55000 + s.vehicleId

/-- `moos_port` -/
def moosPort : Int := 9000 + s.vehicleId

/-- `frontseat` -/
def frontseat (app : String) : FrontseatConfig where
  appBlock := s.appBlock app
  type := s.role.upper
  tcpPort := s.simulatorPort
  startLat := Trail.latOrigin
  startLon := Trail.lonOrigin
  port := s.moosPort

/-- `liaison`; the only generator that reads the environment. -/
def liaison (site : Site) (app : String) : Except Failure LiaisonConfig :=
  let printed (blankBackground : Bool) : LiaisonConfig :=
    { appBlock := s.appBlock app
      loadSharedLibrary := site.examplesLibDir ++ "/libgoby3_example_trail_messages.so"
      blankBackground }
  let tiles := site.trailMapTiles.getD ""
  if tiles = "" then .ok (printed false)
  else if tiles = "none" then .ok (printed true)
  else fail "trail_map_tiles, when set, must be none"

/-- `moos_gateway` -/
def moosGateway (app : String) : MoosGatewayConfig where
  appBlock := s.appBlock app
  port := s.moosPort

/-- `moos` -/
def moos : MoosFile where
  serverPort := s.moosPort
  community := s.platform
  moosTimeWarp := warp
  latOrigin := Trail.latOrigin
  longOrigin := Trail.lonOrigin
  behaviors := "/tmp/goby3_example_trail/" ++ s.platform ++ ".bhv"
  speedMax := if s.role = .auv then 4 else 2

/-- The entry of `generators`; the configurations carry the name that was asked for. -/
def generator (site : Site) (app : App) : Except Failure Printed :=
  match app with
  | .gobyd => .ok (.gobyd s.gobyd)
  | .frontseatInterface => .ok (.frontseat (s.frontseat app.name))
  | .liaison => (s.liaison site app.name).map .liaison
  | .topsideManager | .usvManager | .auvManager => .ok (.manager (s.manager.withApp app.name))
  | .moosGateway => .ok (.moosGateway (s.moosGateway app.name))
  | .moos => .ok (.moos s.moos)
  | .bhv => s.bhv.map .bhv
  | .simulatorPort => .ok (.simulatorPort s.simulatorPort)

end Setup

/-- The script, for a role and the name of an application. -/
def generate (site : Site) (role : Role) (app : String) (env : Environ) :
    Except Failure Printed := do
  let s ← setup role env
  match App.all.find? (·.name = app) with
  | some a => s.generator site a
  | none => fail ("no configuration for " ++ app)

/-! ### The launch files -/

/-- What the script is asked for, in the order of the lines; `moos_gen.sh` asks twice. -/
def launchFile : Role → List App
  | .topside => [.gobyd, .topsideManager, .liaison]
  | .usv => [.simulatorPort, .gobyd, .frontseatInterface, .usvManager, .moos, .bhv]
  | .auv =>
    [.simulatorPort, .gobyd, .frontseatInterface, .auvManager, .moosGateway, .moos, .bhv]

/-- The ports a process listens on: the simulator, the MOOS database and Liaison do. -/
def Printed.ports : Printed → List Int
  | .simulatorPort port => [port]
  | .moos file => [file.serverPort]
  | .liaison cfg => [cfg.httpPort]
  | _ => []

/-- The application block of what a Goby application is given. -/
def Printed.appBlock? : Printed → Option AppBlock
  | .gobyd cfg => some cfg.appBlock
  | .frontseat cfg => some cfg.appBlock
  | .liaison cfg => some cfg.appBlock
  | .manager (.topside cfg) => some cfg.appBlock
  | .manager (.usv cfg) => some cfg.appBlock
  | .manager (.auv cfg) => some cfg.appBlock
  | .moosGateway cfg => some cfg.appBlock
  | .moos _ | .bhv _ | .simulatorPort _ => none

/-- What is printed agrees with the block: a MOOS file by its clock, origin and community, and
what has a block of its own by having this one. -/
def Printed.Tells (block : AppBlock) : Printed → Prop
  | .moos file => file.moosTimeWarp = block.warpFactor ∧ file.latOrigin = block.latOrigin ∧
      file.longOrigin = block.lonOrigin ∧ file.community = block.platform
  | printed => ∀ b, printed.appBlock? = some b → b = block

namespace Member

variable {n : Nat} (site : Site) (env : Environ) (m : Member n)

/-- The script run for one application of the member. -/
def print (a : App) : Except Failure Printed := generate site m.role a.name (m.environ env)

/-- The ports that the member's processes listen on. -/
def listens : List Int :=
  (launchFile m.role).flatMap fun a => (m.print site env a).toOption.elim [] Printed.ports

/-- `$platform` in `moos_gen.sh`, by which it names the files it writes. -/
def shellPlatform : Member n → String
  | .topside => "topside"
  | .usv => "usv"
  | .auv i => "auv" ++ toString i.val

end Member

/-- What can be listened on, or sent to. -/
def IsPort (port : Int) : Prop := 0 < port ∧ port < 65536

/-- The processes of a vehicle meet on the same ports, and the helm finds its behaviors. -/
structure Wired {n : Nat} (site : Site) (env : Environ) (m : Member n) : Prop where
  simulator : ∃ p cfg, m.print site env .simulatorPort = .ok (.simulatorPort p) ∧
    m.print site env .frontseatInterface = .ok (.frontseat cfg) ∧ cfg.tcpPort = p
  database : ∃ file frontseat gateway, m.print site env .moos = .ok (.moos file) ∧
    m.print site env .frontseatInterface = .ok (.frontseat frontseat) ∧
    m.print site env .moosGateway = .ok (.moosGateway gateway) ∧
    frontseat.port = file.serverPort ∧ gateway.port = file.serverPort
  behaviors : ∃ file, m.print site env .moos = .ok (.moos file) ∧
    file.behaviors = "/tmp/goby3_example_trail/" ++ m.shellPlatform ++ ".bhv"

/-- Everything that is started for a fleet on one machine has its configuration, and the
configurations fit together. -/
structure Launched (site : Site) (n : Nat) (env : Environ) : Prop where
  /-- One clock and one origin for the whole fleet, and its own name for each member. -/
  printed : ∃ block : AppBlock, ∀ m : Member n, ∀ a ∈ launchFile m.role, ∃ p,
    m.print site env a = .ok p ∧ p.Tells { block with app := a.name, platform := m.shellPlatform }
  wired : ∀ m : Member n, Wired site env m
  named : Function.Injective (Member.shellPlatform (n := n))
  /-- The members meet on two multicast ports, one for each medium. -/
  linked : ∃ satellite acoustic, IsPort satellite ∧ IsPort acoustic ∧ satellite ≠ acoustic ∧
    ∀ (m : Member n) cfg, m.print site env .gobyd = .ok (.gobyd cfg) → ∀ l ∈ cfg.links,
      l.multicastPort = if l.modemId < 0x100 then satellite else acoustic
  /-- No port is asked for twice. -/
  once : ∀ m : Member n, (m.listens site env).Nodup
  apart : ∀ m m' : Member n, m ≠ m' → (m.listens site env).Disjoint (m'.listens site env)
  valid : ∀ m : Member n, ∀ p ∈ m.listens site env, IsPort p

/-- `trail_map_tiles` is one of the keys of `map_tiles`. -/
def Site.TilesKnown (site : Site) : Prop :=
  site.trailMapTiles.getD "" = "" ∨ site.trailMapTiles.getD "" = "none"

/-- `trail_multicast_port`, if it is set, has a port after it. -/
def Environ.PortUsable (env : Environ) : Prop :=
  match env.trailMulticastPort with
  | .unset => True
  | .integer port => 0 < port ∧ port < 65535
  | .text => False

/-! ### What a member is given -/

theorem find?_name (a : App) : App.all.find? (·.name = a.name) = some a := by
  cases a <;> decide

/-- The port is all that a member takes from the environment. -/
theorem print_bind {n : Nat} {site : Site} {env : Environ} (m : Member n) (a : App) :
    m.print site env a =
      env.multicastPort.bind fun port => (m.setup port).generator site a := by
  unfold Member.print generate
  rw [Member.setup_environ]
  cases env.multicastPort with
  | error e => rfl
  | ok port =>
      show (match App.all.find? (·.name = a.name) with
        | some a => (m.setup port).generator site a
        | none => fail ("no configuration for " ++ a.name)) = _
      rw [find?_name]
      rfl

/-- The shell and the script make the same name of an index. -/
theorem platform_eq {n : Nat} (port : Int) (m : Member n) :
    (m.setup port).platform = m.shellPlatform := by
  cases m <;> rfl

theorem named {n : Nat} : Function.Injective (Member.shellPlatform (n := n)) := by
  intro m m' heq
  rw [← platform_eq 0, ← platform_eq 0] at heq
  exact platform_injective 0 heq

section Given

variable {n : Nat} {site : Site} {env : Environ} {port : Int} (m : Member n)
  (hport : env.multicastPort = .ok port)

include hport

theorem print_eq (a : App) : m.print site env a = (m.setup port).generator site a := by
  rw [print_bind, hport]
  rfl

theorem wired : Wired site env m where
  simulator := ⟨_, _, print_eq m hport _, print_eq m hport _, rfl⟩
  database := ⟨_, _, _, print_eq m hport _, print_eq m hport _, print_eq m hport _, rfl, rfl⟩
  behaviors := by
    refine ⟨_, print_eq m hport _, ?_⟩
    rw [← platform_eq port]
    rfl

theorem print_gobyd : m.print site env .gobyd = .ok (.gobyd (m.setup port).gobyd) :=
  print_eq m hport .gobyd

omit hport

variable (htiles : site.TilesKnown)

include htiles

theorem liaison_ok (s : Setup) (app : String) : ∃ cfg, s.liaison site app = .ok cfg ∧
    cfg.httpPort = 50000 ∧ cfg.appBlock = s.appBlock app := by
  unfold Setup.liaison
  rcases htiles with htiles | htiles
  · exact ⟨_, if_pos htiles, rfl, rfl⟩
  · refine ⟨_, (if_neg ?_).trans (if_pos htiles), rfl, rfl⟩
    rw [htiles]
    decide

/-- Only the behaviors depend on the role. -/
theorem generator_ok (s : Setup) {a : App} (hbhv : a = .bhv → ∃ b, s.bhv = .ok b) :
    ∃ p, s.generator site a = .ok p ∧ p.Tells (s.appBlock a.name) := by
  cases a with
  | liaison =>
      obtain ⟨cfg, hcfg, -, hblock⟩ := liaison_ok htiles s App.liaison.name
      refine ⟨.liaison cfg, ?_, fun b hb => ?_⟩
      · rw [Setup.generator, hcfg]
        rfl
      · obtain rfl := Option.some.inj hb
        exact hblock
  | bhv =>
      obtain ⟨b, hb⟩ := hbhv rfl
      refine ⟨.bhv b, ?_, fun _ hnone => by cases hnone⟩
      rw [Setup.generator, hb]
      rfl
  | topsideManager | usvManager | auvManager =>
      refine ⟨_, rfl, fun b hb => ?_⟩
      unfold Setup.manager at hb
      cases hrole : s.role <;> simp only [hrole] at hb <;> obtain rfl := Option.some.inj hb <;> rfl
  | gobyd | frontseatInterface | moosGateway =>
      refine ⟨_, rfl, fun b hb => ?_⟩
      obtain rfl := Option.some.inj hb
      rfl
  | moos => exact ⟨_, rfl, rfl, rfl, rfl, rfl⟩
  | simulatorPort => exact ⟨_, rfl, fun _ hnone => by cases hnone⟩

include hport

theorem printed (a : App) (ha : a ∈ launchFile m.role) : ∃ p, m.print site env a = .ok p ∧
    p.Tells ⟨a.name, warp, latOrigin, lonOrigin, m.shellPlatform⟩ := by
  rw [print_eq m hport, ← platform_eq port]
  apply generator_ok htiles (m.setup port)
  intro hbhv
  subst hbhv
  cases m with
  | topside => simp [Member.role, launchFile] at ha
  | usv => exact ⟨_, rfl⟩
  | auv i => exact ⟨_, bhv_auvSetup n i port⟩

theorem listens_topside : (Member.topside (n := n)).listens site env = [50000] := by
  obtain ⟨cfg, hcfg, hhttp, -⟩ := liaison_ok htiles ((Member.topside (n := n)).setup port)
    App.liaison.name
  simp [Member.listens, Member.role, launchFile, print_eq _ hport, Setup.generator, hcfg,
    Except.map, Except.toOption, Printed.ports, hhttp]

omit htiles

theorem listens_usv : (Member.usv (n := n)).listens site env = [55001, 9001] := by
  have hbhv : ((Member.usv (n := n)).setup port).bhv = .ok .usv := rfl
  simp [Member.listens, Member.role, launchFile, print_eq _ hport, Setup.generator, hbhv,
    Except.map, Except.toOption, Printed.ports]
  exact ⟨rfl, rfl⟩

theorem listens_auv (i : Fin n) :
    (Member.auv i).listens site env = [55002 + (i : Int), 9002 + (i : Int)] := by
  have hbhv : ((Member.auv i).setup port).bhv = _ := bhv_auvSetup n i port
  have hid : ((Member.auv i).setup port).vehicleId = 2 + (i : Int) := rfl
  have hsim : (55000 : Int) + (2 + i) = 55002 + i := by omega
  have hmoos : (9000 : Int) + (2 + i) = 9002 + i := by omega
  simp [Member.listens, Member.role, launchFile, print_eq _ hport, Setup.generator, hbhv,
    Except.map, Except.toOption, Printed.ports, Setup.simulatorPort, Setup.moos, Setup.moosPort,
    hid, hsim, hmoos]

end Given

/-! ### The ports -/

section Ports

variable {n : Nat} {site : Site} {env : Environ} {port : Int}

theorem vehicleId_auv (i : Fin n) : ((Member.auv i).setup port).vehicleId = 2 + (i : Int) := rfl

theorem vehicleId_injective : Function.Injective fun m : Member n => (m.setup port).vehicleId := by
  intro m m' heq
  have husv : ((Member.usv (n := n)).setup port).vehicleId = 1 := rfl
  have htopside : ((Member.topside (n := n)).setup port).vehicleId = 0 := rfl
  simp only at heq
  cases m <;> cases m' <;> simp only [vehicleId_auv, husv, htopside] at heq <;>
    first | rfl | omega | exact congrArg Member.auv (Fin.ext (by omega))

variable (port) in
theorem vehicleId_mem (m : Member n) :
    0 ≤ (m.setup port).vehicleId ∧ (m.setup port).vehicleId < n + 2 := by
  cases m with
  | topside =>
      show (0 : Int) ≤ 0 ∧ (0 : Int) < n + 2
      omega
  | usv =>
      show (0 : Int) ≤ 1 ∧ (1 : Int) < n + 2
      omega
  | auv i =>
      rw [vehicleId_auv]
      omega

/-- A satellite link has the first port and an id below the acoustic subnet. -/
theorem port_of_mem_links (m : Member n) {l : Link}
    (hl : l ∈ (m.setup port).gobyd.links) :
    (l.multicastPort = port ∧ l.modemId < 0x100) ∨
      (l.multicastPort = port + 1 ∧ ¬ l.modemId < 0x100) := by
  have hid := vehicleId_mem port m
  cases m with
  | topside =>
      obtain rfl := List.mem_singleton.mp hl
      refine Or.inl ⟨rfl, ?_⟩
      show (0 : Int) + 1 < 0x100
      omega
  | usv =>
      rcases List.mem_cons.mp hl with rfl | hl
      · refine Or.inl ⟨rfl, ?_⟩
        show (1 : Int) + 1 < 0x100
        omega
      · obtain rfl := List.mem_singleton.mp hl
        refine Or.inr ⟨rfl, ?_⟩
        show ¬ (0x100 : Int) + 1 + 1 < 0x100
        omega
  | auv i =>
      obtain rfl := List.mem_singleton.mp hl
      refine Or.inr ⟨rfl, ?_⟩
      show ¬ (0x100 : Int) + ((Member.auv i).setup port).vehicleId + 1 < 0x100
      omega

/-- The multicast ports of what is printed, given the one the script settles on. -/
theorem linked (hport : env.multicastPort = .ok port) (hpos : 0 < port) (hmax : port < 65535) :
    ∃ satellite acoustic, IsPort satellite ∧ IsPort acoustic ∧ satellite ≠ acoustic ∧
      ∀ (m : Member n) cfg, m.print site env .gobyd = .ok (.gobyd cfg) → ∀ l ∈ cfg.links,
        l.multicastPort = if l.modemId < 0x100 then satellite else acoustic := by
  refine ⟨port, port + 1, ⟨hpos, by omega⟩, ⟨by omega, by omega⟩, by omega, ?_⟩
  intro m cfg hcfg l hl
  rw [print_gobyd m hport] at hcfg
  obtain rfl := Printed.gobyd.inj (Except.ok.inj hcfg)
  rcases port_of_mem_links m hl with ⟨heq, hlt⟩ | ⟨heq, hge⟩
  · rw [if_pos hlt, heq]
  · rw [if_neg hge, heq]

/-- The USV is on both links, so both ports are ones. -/
theorem linked_ports (hport : env.multicastPort = .ok port) (h : Launched site n env) :
    0 < port ∧ port < 65535 := by
  obtain ⟨satellite, acoustic, ⟨hpos, -⟩, ⟨-, hmax⟩, -, hlinks⟩ := h.linked
  have husv := hlinks .usv _ (print_gobyd .usv hport)
  have hsatellite : port = satellite := husv _ List.mem_cons_self
  have hacoustic : port + 1 = acoustic := husv _ (List.mem_cons_of_mem _ List.mem_cons_self)
  omega

theorem portUsable_iff :
    env.PortUsable ↔ ∃ port, env.multicastPort = .ok port ∧ 0 < port ∧ port < 65535 := by
  unfold Environ.PortUsable Environ.multicastPort
  cases env.trailMulticastPort with
  | unset =>
      refine iff_of_true trivial ⟨_, rfl, ?_⟩
      unfold defaultPort
      omega
  | integer p => exact ⟨fun h => ⟨p, rfl, h⟩, fun ⟨_, hp, h⟩ => Except.ok.inj hp ▸ h⟩
  | text => exact ⟨False.elim, fun ⟨_, hp, _⟩ => by cases hp⟩

variable (hport : env.multicastPort = .ok port) (htiles : site.TilesKnown)

include hport htiles

theorem mem_listens {m : Member n} {p : Int} (hp : p ∈ m.listens site env) :
    (m = .topside ∧ p = 50000) ∨ p = 55000 + (m.setup port).vehicleId ∨
      p = 9000 + (m.setup port).vehicleId := by
  cases m with
  | topside =>
      rw [listens_topside hport htiles] at hp
      exact Or.inl ⟨rfl, List.mem_singleton.mp hp⟩
  | usv =>
      rw [listens_usv hport] at hp
      apply Or.inr
      show p = 55001 ∨ p = 9001
      simpa using hp
  | auv i =>
      rw [listens_auv hport] at hp
      simp only [List.mem_cons, List.not_mem_nil, or_false] at hp
      rw [vehicleId_auv]
      omega

theorem listens_apart (hn : n ≤ 10534) {m m' : Member n} (hne : m ≠ m') :
    (m.listens site env).Disjoint (m'.listens site env) := by
  intro p hp hp'
  have hid : (m.setup port).vehicleId ≠ (m'.setup port).vehicleId :=
    fun heq => hne (vehicleId_injective heq)
  have hm := vehicleId_mem port m
  have hm' := vehicleId_mem port m'
  rcases mem_listens hport htiles hp with ⟨rfl, htop⟩ | hveh
  · rcases mem_listens hport htiles hp' with ⟨rfl, -⟩ | hveh'
    · exact hne rfl
    · omega
  · rcases mem_listens hport htiles hp' with ⟨rfl, htop'⟩ | hveh'
    · omega
    · omega

theorem listens_valid (hn : n ≤ 10534) {m : Member n} {p : Int} (hp : p ∈ m.listens site env) :
    IsPort p := by
  have hm := vehicleId_mem port m
  unfold IsPort
  rcases mem_listens hport htiles hp with ⟨-, htop⟩ | hveh
  · omega
  · omega

theorem listens_once (m : Member n) : (m.listens site env).Nodup := by
  cases m with
  | topside =>
      rw [listens_topside hport htiles]
      exact List.nodup_singleton _
  | usv =>
      rw [listens_usv hport]
      decide
  | auv i =>
      rw [listens_auv hport]
      simp only [List.nodup_cons, List.mem_singleton, List.not_mem_nil, not_false_eq_true,
        List.nodup_nil, and_true]
      omega

end Ports

/--
**The configurations of a fleet exist and fit together if and only if the
environment gives the script what it reads and the simulators' ports end before
the ports do.**
-/
theorem launched_iff (site : Site) (n : Nat) (env : Environ) :
    Launched site n env ↔ site.TilesKnown ∧ env.PortUsable ∧ n ≤ 10534 := by
  rw [portUsable_iff]
  constructor
  · intro h
    obtain ⟨block, hprinted⟩ := h.printed
    obtain ⟨p, hp, -⟩ := hprinted .topside .liaison (by simp [Member.role, launchFile])
    -- whatever was printed, the port was read first
    obtain ⟨port, hport⟩ : ∃ port, env.multicastPort = .ok port := by
      cases henv : env.multicastPort with
      | ok port => exact ⟨port, rfl⟩
      | error e =>
          rw [print_bind, henv] at hp
          cases hp
    refine ⟨?_, ⟨port, hport, ?_⟩, ?_⟩
    · by_contra hother
      rw [Site.TilesKnown, not_or] at hother
      rw [print_eq _ hport] at hp
      simp [Setup.generator, Setup.liaison, hother, fail, Except.map] at hp
    · exact linked_ports hport h
    · rcases Nat.eq_zero_or_pos n with rfl | hpos
      · exact Nat.zero_le _
      · have hlast : n - 1 < n := Nat.sub_lt hpos Nat.one_pos
        have hlisten : (Member.auv ⟨n - 1, hlast⟩).listens site env = _ := listens_auv hport _
        obtain ⟨-, hmax⟩ := h.valid (.auv ⟨n - 1, hlast⟩) _ (by
          rw [hlisten]
          exact List.mem_cons_self)
        simp only at hmax
        omega
  · rintro ⟨htiles, ⟨port, hport, hpos, hmax⟩, hn⟩
    exact
      { printed := ⟨⟨"", warp, latOrigin, lonOrigin, ""⟩, fun m a ha => printed m hport htiles a ha⟩
        wired := fun m => wired m hport
        named := named
        linked := linked hport hpos hmax
        once := listens_once hport htiles
        apart := fun m m' hne => listens_apart hport htiles hn hne
        valid := fun m p hp => listens_valid hport htiles hn hp }

/-! ### Two machines -/

/-- **Fleets on two machines share a port only where their names collide**, and then the satellite
links share one and the acoustic links another. -/
theorem hosts_apart (crc32 : String → Nat) (host host' : String) {n n' : Nat} (m : Member n)
    (m' : Member n') {l l' : Link} (hl : l ∈ (m.setup (defaultPort (crc32 host))).gobyd.links)
    (hl' : l' ∈ (m'.setup (defaultPort (crc32 host'))).gobyd.links) :
    l.multicastPort = l'.multicastPort ↔
      crc32 host % 500 = crc32 host' % 500 ∧ (l.modemId < 0x100 ↔ l'.modemId < 0x100) := by
  have hfirst := port_of_mem_links m hl
  have hsecond := port_of_mem_links m' hl'
  unfold defaultPort at hfirst hsecond
  omega

end Trail
