/-
One fleet's configurations agree with each other.

The script computes a vehicle's own ids from its index, and the ids of the others
from the fleet size, and it does so again for every vehicle.  Nothing compares
the results: with a decentralized MAC each node simply takes its own copy of the
slots for the common one.  `fleet_consistent` is that comparison, for a fleet of
any size.

All copies of the acoustic slots are the same list, which `acommsLink_slots`
writes down as `acousticCycle`; what it says about a vehicle is read off the
source of each position, `acousticCycle_src`.
-/
import Mathlib.Data.List.Nodup
import Goby3Examples.Lib.Cycle
import Goby3Examples.Trail.Config

namespace Trail

open Cycle

/-! ### The fleet -/

/-- Those who get a configuration in a fleet of `n` AUVs. -/
inductive Member (n : Nat)
  | topside
  | usv
  | auv (i : Fin n)
  deriving DecidableEq

namespace Member

variable {n : Nat} (m : Member n)

/-- The argument that the member's launch file gives the script. -/
def role : Member n → Role
  | .topside => .topside
  | .usv => .usv
  | .auv _ => .auv

/-- The index of an AUV. -/
def index : Member n → Option Int
  | .auv i => some i
  | _ => none

/-- What `all.launch` adds to the environment. -/
def environ (env : Environ) : Environ :=
  { env with trailNAuvs := .integer n, trailAuvIndex := m.index.elim .unset .integer }

/-- What the script knows of the member. -/
def setup (port : Int) : Setup :=
  { role := m.role
    nAuvs := if m.role = .topside then 0 else n
    auvIndex := m.index
    multicastPort := port }

/-- Of the variables only the port's can still stop the script. -/
theorem setup_environ (env : Environ) :
    Trail.setup m.role (m.environ env) = env.multicastPort.map m.setup := by
  have hport : (m.environ env).multicastPort = env.multicastPort := rfl
  cases m <;> simp only [Trail.setup, hport] <;> cases env.multicastPort <;> rfl

end Member

/-- The script run for `gobyd`. -/
def generateGobyd (role : Role) (env : Environ) : Except Failure Gobyd :=
  (setup role env).map Setup.gobyd

/-- The script run for the role's manager. -/
def generateManager (role : Role) (env : Environ) : Except Failure ManagerConfig :=
  (setup role env).map Setup.manager

/-- What the script prints for all the members of a fleet, started on one machine. -/
structure Generated {n : Nat} (host : Host) (gobyd : Member n → Gobyd)
    (manager : Member n → ManagerConfig) : Prop where
  gobyd : ∀ m, generateGobyd m.role (m.environ host.environ) = .ok (gobyd m)
  manager : ∀ m, generateManager m.role (m.environ host.environ) = .ok (manager m)

/-- The links of a fleet: the satellite link at its two ends, the acoustic link at the others. -/
structure FleetLinks (n : Nat) where
  topside : Link
  usvSatellite : Link
  usvAcoustic : Link
  auv : Fin n → Link

/-- The links are those in the configurations. -/
structure FleetLinks.Of {n : Nat} (L : FleetLinks n) (gobyd : Member n → Gobyd) : Prop where
  topside : (gobyd .topside).links = [L.topside]
  usv : (gobyd .usv).links = [L.usvSatellite, L.usvAcoustic]
  auv : ∀ i, (gobyd (.auv i)).links = [L.auv i]

/-- The members agree on who may send when, and expect each other where they are. -/
structure Consistent {n : Nat} (L : FleetLinks n) (manager : Member n → ManagerConfig) : Prop where
  satelliteCycle : L.topside.slots = L.usvSatellite.slots
  acousticCycle : ∀ i, (L.auv i).slots = L.usvAcoustic.slots
  slotCount : L.usvAcoustic.slots.length = 2 * n
  /-- A slot of the USV's, a slot of an AUV's. -/
  alternates : ∀ (i : Fin n) (hi : 2 * i.val + 1 < L.usvAcoustic.slots.length),
    L.usvAcoustic.slots[2 * i.val].src = L.usvAcoustic.modemId ∧
      L.usvAcoustic.slots[2 * i.val + 1].src = (L.auv i).modemId
  auvSlot : ∀ i, (L.usvAcoustic.slots.map (·.src)).count (L.auv i).modemId = 1
  usvSlots : (L.usvAcoustic.slots.map (·.src)).count L.usvAcoustic.modemId = n
  noOther : ∀ slot ∈ L.usvAcoustic.slots,
    slot.src = L.usvAcoustic.modemId ∨ ∃ i, slot.src = (L.auv i).modemId
  usvApart : ∀ c : Slots Slot, c.slots = L.usvAcoustic.slots → ∀ k k',
    c.Next (·.src = L.usvAcoustic.modemId) k k' →
      c.startAt (·.slotSeconds) k' = c.startAt (·.slotSeconds) k + 20
  auvApart : ∀ c : Slots Slot, c.slots = L.usvAcoustic.slots → ∀ i k k',
    c.Next (·.src = (L.auv i).modemId) k k' →
      c.startAt (·.slotSeconds) k' = c.startAt (·.slotSeconds) k + 20 * n
  usvManager : ∃ cfg, manager .usv = .usv cfg ∧ cfg.auvModemId.Nodup ∧
    ∀ m, m ∈ cfg.auvModemId ↔ ∃ i, m = (L.auv i).modemId
  auvManager : ∀ i, ∃ cfg, manager (.auv i) = .auv cfg ∧ cfg.usvModemId = L.usvAcoustic.modemId
  topsideManager : ∃ cfg, manager .topside = .topside cfg ∧
    cfg.usvModemId = L.usvSatellite.modemId

/-! ### The acoustic slots -/

/-- A slot of the acoustic cycle. -/
def acommsSlot (src : Int) : Slot := { src, slotSeconds := 10 }

/-- The acoustic modem ids of `n` AUVs. -/
def auvIds (n : Nat) : List Int := (List.range n).map fun (i : Nat) => acommsModemId (2 + (i : Int))

/-- The USV's slot before each AUV's. -/
def acousticCycle (n : Nat) : List Slot :=
  alternate (acommsSlot (acommsModemId usvId)) ((auvIds n).map acommsSlot)

@[simp] theorem length_auvIds (n : Nat) : (auvIds n).length = n := by simp [auvIds]

@[simp] theorem length_acousticCycle (n : Nat) : (acousticCycle n).length = 2 * n := by
  simp [acousticCycle]

theorem mem_auvIds {n : Nat} {m : Int} :
    m ∈ auvIds n ↔ ∃ i : Fin n, m = acommsModemId (2 + (i : Nat)) := by
  simp only [auvIds, List.mem_map, List.mem_range]
  constructor
  · rintro ⟨i, hi, rfl⟩
    exact ⟨⟨i, hi⟩, rfl⟩
  · rintro ⟨i, rfl⟩
    exact ⟨i, i.isLt, rfl⟩

theorem nodup_auvIds (n : Nat) : (auvIds n).Nodup := by
  have hinj : Function.Injective fun (i : Nat) => acommsModemId (2 + (i : Int)) := by
    intro i j hij
    simp only [acommsModemId] at hij
    omega
  exact List.Nodup.map hinj List.nodup_range

theorem auvModemIds_eq {s : Setup} {n : Nat} (h : s.nAuvs = n) : s.auvModemIds = auvIds n := by
  rw [Setup.auvModemIds, h, Int.toNat_natCast]
  rfl

theorem acommsLink_slots {s : Setup} {n : Nat} (h : s.nAuvs = n) :
    s.acommsLink.slots = acousticCycle n := by
  rw [acousticCycle, alternate, ← auvModemIds_eq h, List.flatMap_map]
  rfl

theorem acousticCycle_src {n j : Nat} (hj : j < (acousticCycle n).length) :
    (acousticCycle n)[j].src =
      if j % 2 = 0 then acommsModemId usvId else acommsModemId (2 + (j / 2 : Nat)) := by
  obtain ⟨i, rfl | rfl⟩ : ∃ i, j = 2 * i ∨ j = 2 * i + 1 := ⟨j / 2, by omega⟩
  · have heven : (2 * i) % 2 = 0 := by omega
    simp only [acousticCycle, getElem_alternate_even, acommsSlot, if_pos heven]
  · have hodd : ¬ (2 * i + 1) % 2 = 0 := by omega
    have hhalf : (2 * i + 1) / 2 = i := by omega
    have hi : i < ((auvIds n).map acommsSlot).length := by
      simp at hj ⊢
      omega
    rw [if_neg hodd, hhalf]
    simp only [acousticCycle, getElem_alternate_odd _ hi]
    simp [acommsSlot, auvIds]

theorem acousticCycle_seconds {n : Nat} : ∀ slot ∈ acousticCycle n, slot.slotSeconds = 10 := by
  intro slot hslot
  rcases mem_alternate hslot with rfl | hmem
  · rfl
  · obtain ⟨m, -, rfl⟩ := List.mem_map.mp hmem
    rfl

theorem usv_sends_iff {n j : Nat} (hj : j < (acousticCycle n).length) :
    (acousticCycle n)[j].src = acommsModemId usvId ↔ j % 2 = 0 := by
  rw [acousticCycle_src hj]
  unfold acommsModemId usvId
  split <;> omega

theorem auv_sends_iff {n j : Nat} (i : Fin n) (hj : j < (acousticCycle n).length) :
    (acousticCycle n)[j].src = acommsModemId (2 + (i : Nat)) ↔ j % (2 * n) = 2 * i + 1 := by
  have hlt : j < 2 * n := by simpa using hj
  rw [acousticCycle_src hj, Nat.mod_eq_of_lt hlt]
  unfold acommsModemId usvId
  split <;> omega

theorem acoustic_alternates {n : Nat} {slots : List Slot} (hslots : slots = acousticCycle n)
    (i : Fin n) (hi : 2 * i.val + 1 < slots.length) :
    slots[2 * i.val].src = acommsModemId usvId ∧
      slots[2 * i.val + 1].src = acommsModemId (2 + (i : Nat)) := by
  subst hslots
  refine ⟨(usv_sends_iff _).mpr (by omega), (auv_sends_iff i _).mpr ?_⟩
  have hlt : 2 * i.val + 1 < 2 * n := by omega
  exact Nat.mod_eq_of_lt hlt

theorem map_src_acousticCycle (n : Nat) :
    (acousticCycle n).map (·.src) = alternate (acommsModemId usvId) (auvIds n) := by
  rw [acousticCycle, map_alternate, List.map_map]
  congr 1
  exact List.map_id _

theorem usvId_notMem_auvIds (n : Nat) : acommsModemId usvId ∉ auvIds n := by
  rw [mem_auvIds]
  rintro ⟨i, hi⟩
  unfold acommsModemId usvId at hi
  omega

theorem count_usv (n : Nat) : ((acousticCycle n).map (·.src)).count (acommsModemId usvId) = n := by
  rw [map_src_acousticCycle, count_alternate, if_pos rfl,
    List.count_eq_zero_of_not_mem (usvId_notMem_auvIds n), length_auvIds, Nat.add_zero]

theorem count_auv {n : Nat} {m : Int} (hm : m ∈ auvIds n) :
    ((acousticCycle n).map (·.src)).count m = 1 := by
  have hne : acommsModemId usvId ≠ m := fun h => usvId_notMem_auvIds n (h ▸ hm)
  rw [map_src_acousticCycle, count_alternate, if_neg hne,
    List.count_eq_one_of_mem (nodup_auvIds n) hm, Nat.zero_add]

theorem src_mem_acousticCycle {n : Nat} {slot : Slot} (h : slot ∈ acousticCycle n) :
    slot.src = acommsModemId usvId ∨ slot.src ∈ auvIds n := by
  have hsrc : slot.src ∈ alternate (acommsModemId usvId) (auvIds n) := by
    rw [← map_src_acousticCycle]
    exact List.mem_map_of_mem h
  exact mem_alternate hsrc

section Turns

variable {n : Nat} {c : Slots Slot} (hc : c.slots = acousticCycle n)
include hc

/-- The USV sends every 20 seconds. -/
theorem usv_apart {k k' : Nat} (hnext : c.Next (·.src = acommsModemId usvId) k k') :
    c.startAt (·.slotSeconds) k' = c.startAt (·.slotSeconds) k + 20 := by
  obtain ⟨slots, hpos⟩ := c
  obtain rfl : slots = acousticCycle n := hc
  have hturn := Slots.turn_iff ⟨acousticCycle n, hpos⟩ (p := (·.src = acommsModemId usvId))
    (by simp) fun j hj => usv_sends_iff hj
  exact hnext.apart (by omega) hturn acousticCycle_seconds

/-- An AUV sends once in a cycle. -/
theorem auv_apart (i : Fin n) {k k' : Nat}
    (hnext : c.Next (·.src = acommsModemId (2 + (i : Nat))) k k') :
    c.startAt (·.slotSeconds) k' = c.startAt (·.slotSeconds) k + 20 * n := by
  obtain ⟨slots, hpos⟩ := c
  obtain rfl : slots = acousticCycle n := hc
  have hturn := Slots.turn_iff ⟨acousticCycle n, hpos⟩
    (p := (·.src = acommsModemId (2 + (i : Nat)))) (by simp) fun j hj => auv_sends_iff i hj
  have hpos : 0 < 2 * n := by
    have := i.isLt
    omega
  have hcycle : 10 * (2 * n) = 20 * n := by omega
  exact hcycle ▸ hnext.apart hpos hturn acousticCycle_seconds

end Turns

/-! ### The whole fleet -/

/-- The links of the members' configurations. -/
def fleetLinks (n : Nat) (port : Int) : FleetLinks n where
  topside := ((Member.topside : Member n).setup port).satelliteLink
  usvSatellite := ((Member.usv : Member n).setup port).satelliteLink
  usvAcoustic := ((Member.usv : Member n).setup port).acommsLink
  auv := fun i => ((Member.auv i).setup port).acommsLink

section Links

variable {n : Nat} (port : Int)

theorem fleetLinks_usvAcoustic_slots :
    (fleetLinks n port).usvAcoustic.slots = acousticCycle n := acommsLink_slots rfl

theorem fleetLinks_of : (fleetLinks n port).Of fun m => (m.setup port).gobyd :=
  ⟨rfl, rfl, fun _ => rfl⟩

theorem fleetLinks_consistent :
    Consistent (fleetLinks n port) fun m => (m.setup port).manager := by
  refine
    { satelliteCycle := rfl
      acousticCycle := fun _ => rfl
      slotCount := ?_
      alternates := ?_
      auvSlot := ?_
      usvSlots := ?_
      noOther := ?_
      usvApart := ?_
      auvApart := ?_
      usvManager := ?_
      auvManager := fun _ => ⟨_, rfl, rfl⟩
      topsideManager := ⟨_, rfl, rfl⟩ }
  · rw [fleetLinks_usvAcoustic_slots, length_acousticCycle]
  · intro i hi
    exact acoustic_alternates (fleetLinks_usvAcoustic_slots port) i hi
  · intro i
    rw [fleetLinks_usvAcoustic_slots]
    exact count_auv (mem_auvIds.mpr ⟨i, rfl⟩)
  · rw [fleetLinks_usvAcoustic_slots]
    exact count_usv n
  · rw [fleetLinks_usvAcoustic_slots]
    intro slot hslot
    exact (src_mem_acousticCycle hslot).imp_right mem_auvIds.mp
  · intro c hc k k' hnext
    exact usv_apart (hc.trans (fleetLinks_usvAcoustic_slots port)) hnext
  · intro c hc i k k' hnext
    exact auv_apart (hc.trans (fleetLinks_usvAcoustic_slots port)) i hnext
  · refine ⟨_, rfl, ?_, ?_⟩
    · show (Setup.auvModemIds _).Nodup
      rw [auvModemIds_eq rfl]
      exact nodup_auvIds n
    · intro m
      show m ∈ Setup.auvModemIds _ ↔ _
      rw [auvModemIds_eq rfl]
      exact mem_auvIds

end Links

/-- **The script prints a configuration for every member.** -/
theorem generated (n : Nat) (host : Host) :
    Generated host (fun m : Member n => (m.setup host.port).gobyd)
      fun m => (m.setup host.port).manager := by
  refine ⟨?_, ?_⟩
  · intro m
    rw [generateGobyd, m.setup_environ, host.multicastPort_environ]
    rfl
  · intro m
    rw [generateManager, m.setup_environ, host.multicastPort_environ]
    rfl

/--
**The configurations generated for one fleet exist and are consistent**, whatever
its size: the topside's, the USV's and those of all its AUVs.
-/
theorem fleet_consistent (n : Nat) (host : Host) :
    ∃ (gobyd : Member n → Gobyd) (manager : Member n → ManagerConfig),
      Generated host gobyd manager ∧ ∃ L : FleetLinks n, L.Of gobyd ∧ Consistent L manager :=
  ⟨_, _, generated n host, fleetLinks n host.port, fleetLinks_of host.port,
    fleetLinks_consistent host.port⟩

/-- The fleet that is launched, with its acoustic cycle. -/
theorem fleet_consistent_two :
    ∃ (gobyd : Member 2 → Gobyd) (manager : Member 2 → ManagerConfig),
      Generated {} gobyd manager ∧ ∃ L : FleetLinks 2, L.Of gobyd ∧ Consistent L manager ∧
        L.usvAcoustic.slots.map (·.src) = [0x102, 0x103, 0x102, 0x104] := by
  obtain ⟨gobyd, manager, hgen, L, hof, hcons⟩ := fleet_consistent 2 {}
  refine ⟨gobyd, manager, hgen, L, hof, hcons, ?_⟩
  have husv : gobyd .usv = (Member.usv.setup (n := 2) ({} : Host).port).gobyd :=
    Except.ok.inj ((hgen.gobyd .usv).symm.trans ((generated 2 {}).gobyd .usv))
  have hlinks := hof.usv
  rw [husv] at hlinks
  have hacoustic : L.usvAcoustic = (fleetLinks 2 ({} : Host).port).usvAcoustic :=
    (List.cons.inj (List.cons.inj hlinks).2).1.symm
  rw [hacoustic, fleetLinks_usvAcoustic_slots]
  decide

end Trail
