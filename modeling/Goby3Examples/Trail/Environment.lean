/-
Which environments the generator accepts, and which of them are usable.

For an AUV the script reads two integers and checks nothing about them, so it
prints a configuration for every pair: `generateAuv_eq`.  What it prints is
usable when five bounds hold that stand in five other places.  For an index in
the fleet all of them hold but one: the depth grows by 10 m with each AUV, and
the helm's domain ends at 200 m.  `auv_usable_iff` is the exact set.
-/
import Mathlib.Tactic.IntervalCases
import Mathlib.Tactic.NormNum
import Goby3Examples.Trail.Config
import Goby3Examples.Trail.Nav

namespace Trail

/-- `domain = depth:0:200:201`, from `vehicle.moos.in`. -/
def helmDepth : NumericField := { min := 0, max := 200 }

namespace Link

/-- The part of the modem id that the mask keeps. -/
def subnet (l : Link) : BitVec 32 := BitVec.ofInt 32 l.modemId &&& l.subnetMask

/-- The part that tells the modems of a subnet apart. -/
def host (l : Link) : BitVec 32 := BitVec.ofInt 32 l.modemId &&& ~~~l.subnetMask

end Link

/-- The three configurations of an AUV that depend on the environment. -/
structure AuvConfigs where
  gobyd : Gobyd
  manager : ManagerConfig
  behaviors : Behaviors
  deriving DecidableEq

/-- The script run for an AUV, once for each of the three. -/
def generateAuv (env : Environ) : Except Failure AuvConfigs := do
  let s ← setup .auv env
  let behaviors ← s.bhv
  return { gobyd := s.gobyd, manager := s.manager, behaviors }

/-- The AUV can be told from the others, is heard on the acoustic link, and dives where it can. -/
structure AuvConfigs.Usable (c : AuvConfigs) : Prop where
  vehicle : ∃ cfg, c.manager = .auv cfg ∧ cfg.vehicleId ≠ 0 ∧ cfg.vehicleId ≠ usvId ∧
    NumericField.vehicle.min ≤ cfg.vehicleId ∧ cfg.vehicleId ≤ NumericField.vehicle.max
  modem : ∃ l, c.gobyd.links = [l] ∧ l.modemId ≠ acommsModemId usvId ∧ l.subnet = 0x0100 ∧
    l.host ≠ 0 ∧ ∃ slot ∈ l.slots, slot.src = l.modemId
  depth : ∃ angle deployDepth, c.behaviors = .auv angle deployDepth ∧
    helmDepth.min ≤ deployDepth ∧ deployDepth ≤ helmDepth.max

/-! ### What the script prints for an AUV -/

/-- What the script knows of an AUV. -/
def auvSetup (n i port : Int) : Setup :=
  { role := .auv, nAuvs := n, auvIndex := some i, multicastPort := port }

/-- What `all.launch` sets for an AUV. -/
def auvEnviron (n i : Int) (host : Host) : Environ :=
  { host.environ with trailNAuvs := .integer n, trailAuvIndex := .integer i }

theorem setup_auv (n i : Int) (host : Host) :
    setup .auv (auvEnviron n i host) = .ok (auvSetup n i host.port) := by
  have hport : (auvEnviron n i host).multicastPort = .ok host.port := host.multicastPort_environ
  simp only [setup, hport]
  rfl

/-- `trail_angle` -/
def trailAngle (n i : Int) : Int := if n = 1 then 180 else 90 + (180 * i).fdiv (n - 1)

/-- `deploy_depth` -/
def deployDepth (i : Int) : Int := 10 + 10 * i

/-- The division is never by zero: the only fleet size it would be for has its own branch. -/
theorem bhv_auvSetup (n i port : Int) :
    (auvSetup n i port).bhv = .ok (.auv (trailAngle n i) (deployDepth i)) := by
  by_cases h : n = 1
  · simp [auvSetup, Setup.bhv, trailAngle, deployDepth, h, bind, Except.bind, pure, Except.pure]
  · have hne : n - 1 ≠ 0 := by omega
    simp [auvSetup, Setup.bhv, trailAngle, deployDepth, floorDiv, h, hne, bind, Except.bind, pure,
      Except.pure, Except.map]

/-- **The script accepts every pair of integers.** -/
theorem generateAuv_eq (n i : Int) (host : Host) :
    generateAuv (auvEnviron n i host) =
      .ok
        { gobyd := (auvSetup n i host.port).gobyd
          manager := (auvSetup n i host.port).manager
          behaviors := .auv (trailAngle n i) (deployDepth i) } := by
  simp [generateAuv, setup_auv, bhv_auvSetup, bind, Except.bind, pure, Except.pure]

/-- A modem other than the USV's has a slot when its id is an AUV's. -/
theorem exists_slot_iff {s : Setup} {m : Int} (hm : m ≠ acommsModemId usvId) :
    (∃ slot ∈ s.acommsLink.slots, slot.src = m) ↔ m ∈ s.auvModemIds := by
  simp only [Setup.acommsLink, List.mem_flatMap, List.mem_cons, List.not_mem_nil, or_false]
  constructor
  · rintro ⟨slot, ⟨auv, hauv, rfl | rfl⟩, hsrc⟩
    · exact absurd hsrc.symm hm
    · exact hsrc ▸ hauv
  · intro h
    exact ⟨_, ⟨m, h, Or.inr rfl⟩, rfl⟩

/-! ### The three bounds, for an index up to 19 -/

section Bounds

variable {n i : Int} (port : Int)

private theorem vehicle_usable (hlo : 0 ≤ i) (hmax : i ≤ 19) :
    ∃ cfg, (auvSetup n i port).manager = .auv cfg ∧ cfg.vehicleId ≠ 0 ∧ cfg.vehicleId ≠ usvId ∧
      NumericField.vehicle.min ≤ cfg.vehicleId ∧ cfg.vehicleId ≤ NumericField.vehicle.max := by
  have hid : (auvSetup n i port).vehicleId = 2 + i := rfl
  have hrange : (1 : ℚ) ≤ ((2 + i : ℤ) : ℚ) ∧ ((2 + i : ℤ) : ℚ) ≤ 128 := by
    refine ⟨?_, ?_⟩
    · exact_mod_cast (by omega : (1 : ℤ) ≤ 2 + i)
    · exact_mod_cast (by omega : (2 + i : ℤ) ≤ 128)
  refine ⟨_, rfl, ?_, ?_, hrange.1, hrange.2⟩
  · show (auvSetup n i port).vehicleId ≠ 0
    omega
  · show (auvSetup n i port).vehicleId ≠ 1
    omega

private theorem modem_usable (hlo : 0 ≤ i) (hhi : i < n) (hmax : i ≤ 19) :
    ∃ l, (auvSetup n i port).gobyd.links = [l] ∧ l.modemId ≠ acommsModemId usvId ∧
      l.subnet = 0x0100 ∧ l.host ≠ 0 ∧ ∃ slot ∈ l.slots, slot.src = l.modemId := by
  have hid : (auvSetup n i port).acommsLink.modemId = acommsModemId (2 + i) := rfl
  have hne : acommsModemId (2 + i) ≠ acommsModemId usvId := by
    unfold acommsModemId usvId
    omega
  refine ⟨(auvSetup n i port).acommsLink, rfl, hid ▸ hne, ?_, ?_, ?_⟩
  · rw [Link.subnet, hid]
    show BitVec.ofInt 32 (acommsModemId (2 + i)) &&& 0xFF00 = 0x0100
    interval_cases i <;> rfl
  · rw [Link.host, hid]
    show BitVec.ofInt 32 (acommsModemId (2 + i)) &&& ~~~0xFF00 ≠ 0
    interval_cases i <;> decide
  · rw [hid, exists_slot_iff hne, Setup.mem_auvModemIds]
    exact ⟨i, hlo, hhi, rfl⟩

private theorem depth_usable (hlo : 0 ≤ i) (hmax : i ≤ 19) :
    ∃ angle depth, Behaviors.auv (trailAngle n i) (deployDepth i) = .auv angle depth ∧
      helmDepth.min ≤ depth ∧ depth ≤ helmDepth.max := by
  refine ⟨_, _, rfl, ?_, ?_⟩
  · show (0 : ℚ) ≤ ((10 + 10 * i : ℤ) : ℚ)
    exact_mod_cast (by omega : (0 : ℤ) ≤ 10 + 10 * i)
  · show ((10 + 10 * i : ℤ) : ℚ) ≤ 200
    exact_mod_cast (by omega : (10 + 10 * i : ℤ) ≤ 200)

end Bounds

/--
**The configurations of an AUV are usable if and only if its index is in the
fleet and at most 19.**
-/
theorem auv_usable_iff (n i : Int) (host : Host) {c : AuvConfigs}
    (h : generateAuv (auvEnviron n i host) = .ok c) :
    c.Usable ↔ 0 ≤ i ∧ i < n ∧ i ≤ 19 := by
  rw [generateAuv_eq] at h
  obtain rfl := Except.ok.inj h
  constructor
  · rintro ⟨-, ⟨l, hl, hne, -, -, hslot⟩, ⟨angle, depth, hbhv, -, hdepth⟩⟩
    obtain rfl : (auvSetup n i host.port).acommsLink = l := by
      simpa [Setup.gobyd, auvSetup] using hl
    rw [exists_slot_iff hne] at hslot
    obtain ⟨j, hlo, hhi, hj⟩ := Setup.mem_auvModemIds.mp hslot
    obtain ⟨-, rfl⟩ := Behaviors.auv.inj hbhv
    have hij : acommsModemId (2 + i) = acommsModemId (2 + j) := hj
    have hn : (auvSetup n i host.port).nAuvs = n := rfl
    have hmax : 10 + 10 * i ≤ 200 := by
      have hcast : ((10 + 10 * i : ℤ) : ℚ) ≤ 200 := hdepth
      exact_mod_cast hcast
    unfold acommsModemId at hij
    omega
  · rintro ⟨hlo, hhi, hmax⟩
    exact ⟨vehicle_usable host.port hlo hmax, modem_usable host.port hlo hhi hmax,
      depth_usable hlo hmax⟩

theorem auv_usable_first :
    ∃ c, generateAuv (auvEnviron 2 0 {}) = .ok c ∧ c.Usable :=
  ⟨_, generateAuv_eq 2 0 {},
    (auv_usable_iff 2 0 {} (generateAuv_eq 2 0 {})).mpr (by decide)⟩

theorem not_auv_usable_twentyFirst :
    ∃ c, generateAuv (auvEnviron 21 20 {}) = .ok c ∧ ¬ c.Usable := by
  refine ⟨_, generateAuv_eq 21 20 {}, ?_⟩
  rintro ⟨-, -, ⟨angle, depth, hbhv, -, hdepth⟩⟩
  obtain ⟨-, rfl⟩ := Behaviors.auv.inj hbhv
  norm_num [deployDepth, helmDepth] at hdepth

end Trail
