/-
Self-delimiting binary formats.

A format writes a value as bytes and reads one back from the front of a longer
string, handing back what follows.  The law that the two fit together is a field
of the structure, so a format that is put together from smaller ones is right by
construction: sequencing, lists with their length in front, and a change of
representation are all that is needed to write down a record.

Numbers are written seven bits to a byte, low bits first, with the top bit set on
every byte but the last.
-/
import Mathlib.Logic.Equiv.Nat

namespace Wire

variable {α β : Type*}

/-- A binary format for `α`. -/
structure Format (α : Type*) where
  put : α → List UInt8
  get : List UInt8 → Option (α × List UInt8)
  get_put : ∀ a rest, get (put a ++ rest) = some (a, rest)

namespace Format

/-! ### Numbers -/

/-- A number in groups of seven bits, the lowest first; all but the last are marked. -/
def putNat (n : Nat) : List UInt8 :=
  if n < 128 then [UInt8.ofNat n] else UInt8.ofNat (n % 128 + 128) :: putNat (n / 128)
termination_by n

/-- The number at the front, if it ends. -/
def getNat : List UInt8 → Option (Nat × List UInt8)
  | [] => none
  | b :: rest =>
    if b.toNat < 128 then some (b.toNat, rest)
    else (getNat rest).map fun r => (b.toNat - 128 + 128 * r.1, r.2)

private theorem toNat_ofNat {n : Nat} (h : n < 256) : (UInt8.ofNat n).toNat = n := by
  rw [UInt8.toNat_ofNat', Nat.mod_eq_of_lt h]

theorem getNat_putNat (n : Nat) (rest : List UInt8) :
    getNat (putNat n ++ rest) = some (n, rest) := by
  induction n using Nat.strong_induction_on with
  | _ n ih =>
      unfold putNat
      by_cases h : n < 128
      · rw [if_pos h, List.singleton_append, getNat, toNat_ofNat (by omega), if_pos h]
      · rw [if_neg h, List.cons_append, getNat, toNat_ofNat (by omega), if_neg (by omega),
          ih (n / 128) (by omega)]
        simp only [Option.map_some, Option.some.injEq, Prod.mk.injEq, and_true]
        omega

/-- Numbers. -/
def nat : Format Nat := ⟨putNat, getNat, getNat_putNat⟩

/-- Single bytes. -/
def byte : Format UInt8 where
  put := fun b => [b]
  get := fun
    | [] => none
    | b :: rest => some (b, rest)
  get_put := fun _ _ => rfl

/-! ### Putting formats together -/

/-- One thing after another. -/
def pair (f : Format α) (g : Format β) : Format (α × β) where
  put := fun p => f.put p.1 ++ g.put p.2
  get := fun bs => (f.get bs).bind fun a => (g.get a.2).map fun b => ((a.1, b.1), b.2)
  get_put := by
    intro p rest
    rw [List.append_assoc, f.get_put]
    simp [g.get_put]

/-- Values of `β` by way of values of `α` that stand for them. -/
def via (f : Format α) (enc : β → α) (dec : α → β) (h : ∀ b, dec (enc b) = b) : Format β where
  put := fun b => f.put (enc b)
  get := fun bs => (f.get bs).map fun a => (dec a.1, a.2)
  get_put := by
    intro b rest
    rw [f.get_put, Option.map_some, h]

/-- So many things are read. -/
def getMany (f : Format α) : Nat → List UInt8 → Option (List α × List UInt8)
  | 0, bs => some ([], bs)
  | n + 1, bs => (f.get bs).bind fun a => (f.getMany n a.2).map fun as => (a.1 :: as.1, as.2)

theorem getMany_flatMap (f : Format α) (as : List α) (rest : List UInt8) :
    f.getMany as.length (as.flatMap f.put ++ rest) = some (as, rest) := by
  induction as with
  | nil => rfl
  | cons a as ih =>
      rw [List.flatMap_cons, List.append_assoc, List.length_cons, getMany, f.get_put]
      simp [ih]

/-- A list, its length in front. -/
def list (f : Format α) : Format (List α) where
  put := fun as => nat.put as.length ++ as.flatMap f.put
  get := fun bs => (nat.get bs).bind fun n => f.getMany n.1 n.2
  get_put := by
    intro as rest
    rw [List.append_assoc, nat.get_put]
    exact f.getMany_flatMap as rest

/-- A value that may be missing: a list of at most one. -/
def option (f : Format α) : Format (Option α) :=
  f.list.via Option.toList List.head? (by intro o; cases o <;> rfl)

/-- Integers. -/
def int : Format Int := nat.via Equiv.intEquivNat Equiv.intEquivNat.symm (by simp)

/-- Truth values. -/
def bool : Format Bool := nat.via Bool.toNat (fun n => n == 1) (by intro b; cases b <;> rfl)

/-- Machine words. -/
def uint32 : Format UInt32 := nat.via UInt32.toNat UInt32.ofNat (by simp)

end Format

end Wire
