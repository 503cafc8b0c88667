/-
The medium access cycle of two peers.

Each peer writes down a slot for itself and a slot for the other, and puts first
the one of whoever has the smaller id.  With a decentralized MAC there is nobody
to compare the two lists; that they are the same is `slot_eq`, which writes the
list down without saying who looks at it.
-/
import Mathlib.Order.MinMax
import Goby3Examples.Chat.Main

namespace Chat

/-- What a peer writes down for the other is what the other writes down for itself. -/
theorem buddySlot_eq (v : Variant) (myId buddyId : Int) :
    buddySlot v myId buddyId = mySlot v buddyId myId := by
  cases v <;> rfl

@[simp] theorem mySlot_src (v : Variant) (src dest : Int) : (mySlot v src dest).src = some src := by
  cases v <;> rfl

@[simp] theorem mySlot_dest (v : Variant) (src dest : Int) :
    (mySlot v src dest).dest = some dest := by
  cases v <;> rfl

/-- **The cycle, from nobody's point of view**: the smaller id sends first. -/
theorem slot_eq (v : Variant) {a b : Int} (h : a ≠ b) :
    (macCfg v a b).slot = [mySlot v (min a b) (max a b), mySlot v (max a b) (min a b)] := by
  rcases Int.lt_or_gt_of_ne h with hlt | hgt
  · rw [macCfg, if_pos hlt, buddySlot_eq, min_eq_left hlt.le, max_eq_right hlt.le]
  · rw [macCfg, if_neg (Int.not_lt.mpr hgt.le), buddySlot_eq, min_eq_right hgt.le,
      max_eq_left hgt.le]

/-- With this configuration, the MAC initiates a transmission in the `i`-th slot. -/
def MACConfig.Sends (cfg : MACConfig) (i : Nat) : Prop :=
  ∃ slot, cfg.slot[i]? = some slot ∧ slot.src = some cfg.modemId

/-- The cycles of two peers fit together. -/
structure PeersAgree (v : Variant) (a b : Int) : Prop where
  same : (macCfg v a b).slot = (macCfg v b a).slot
  first : ∃ slot, (macCfg v a b).slot.filter (·.src = some a) = [slot] ∧ slot.dest = some b
  second : ∃ slot, (macCfg v a b).slot.filter (·.src = some b) = [slot] ∧ slot.dest = some a
  oneSends : ∀ i < (macCfg v a b).slot.length,
    Xor ((macCfg v a b).Sends i) ((macCfg v b a).Sends i)

/-! ### Either way round -/

section Slots

variable {v : Variant} {x y : Int} (h : x ≠ y)
include h

theorem filter_first :
    [mySlot v x y, mySlot v y x].filter (·.src = some x) = [mySlot v x y] := by
  simp [h.symm]

theorem filter_second :
    [mySlot v x y, mySlot v y x].filter (·.src = some y) = [mySlot v y x] := by
  simp [h]

end Slots

theorem sends_iff {cfg : MACConfig} {v : Variant} {x y : Int}
    (hslot : cfg.slot = [mySlot v x y, mySlot v y x]) (i : Nat) :
    cfg.Sends i ↔ (i = 0 ∧ x = cfg.modemId) ∨ (i = 1 ∧ y = cfg.modemId) := by
  rw [MACConfig.Sends, hslot]
  match i with
  | 0 => simp
  | 1 => simp
  | i + 2 => simp

/--
**The two peers agree on the medium access cycle**, in every variant: it is the
same list on both sides, each of them has one slot to send to the other, and in
every slot exactly one of them sends.
-/
theorem peersAgree (v : Variant) (a b : Int) (h : a ≠ b) : PeersAgree v a b := by
  have hsame : (macCfg v a b).slot = (macCfg v b a).slot := by
    rw [slot_eq v h, slot_eq v h.symm, min_comm, max_comm]
  obtain ⟨x, y, hslot, hxy⟩ : ∃ x y, (macCfg v a b).slot = [mySlot v x y, mySlot v y x] ∧
      (x = a ∧ y = b ∨ x = b ∧ y = a) := by
    refine ⟨_, _, slot_eq v h, ?_⟩
    rcases Int.le_total a b with hle | hle
    · exact Or.inl ⟨min_eq_left hle, max_eq_right hle⟩
    · exact Or.inr ⟨min_eq_right hle, max_eq_left hle⟩
  refine ⟨hsame, ?_, ?_, ?_⟩
  · rw [hslot]
    rcases hxy with ⟨rfl, rfl⟩ | ⟨rfl, rfl⟩
    · exact ⟨_, filter_first h, mySlot_dest ..⟩
    · exact ⟨_, filter_second h.symm, mySlot_dest ..⟩
  · rw [hslot]
    rcases hxy with ⟨rfl, rfl⟩ | ⟨rfl, rfl⟩
    · exact ⟨_, filter_second h, mySlot_dest ..⟩
    · exact ⟨_, filter_first h.symm, mySlot_dest ..⟩
  · intro i hi
    have htwo : i < 2 := by simpa [hslot] using hi
    have hmine : (macCfg v a b).modemId = a := rfl
    have hbuddy : (macCfg v b a).modemId = b := rfl
    rw [sends_iff hslot, sends_iff (hsame ▸ hslot), hmine, hbuddy]
    rw [xor_def]
    omega

theorem peersAgree_default : PeersAgree .default 1 2 := peersAgree .default 1 2 (by decide)

end Chat
