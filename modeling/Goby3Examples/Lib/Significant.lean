/-
Writing a number to so many significant digits.

This is what a C++ stream does with a floating point number when nothing but its
precision has been set: the digits are those of the nearest number that has so
many, zeros at the end of the fraction are left out, and the exponent is written
only where the number is very large or very small.

A `Literal` is the text before it is put together.  What it is worth is the
significand at its place, whichever of the two forms was chosen: `value_literal`.
Reading the text gives the literal back, so what is read differs from the number by
the rounding and nothing else, and by nothing at all where the number has no more
digits than are written.
-/
import Mathlib.Data.Int.Log
import Mathlib.Data.List.DropRight
import Mathlib.Data.Rat.Floor
import Mathlib.Tactic.FieldSimp
import Goby3Examples.Lib.Rounding

namespace Significant

/-! ### Literals -/

/-- A decimal number in parts. -/
structure Literal where
  negative : Bool := false
  whole : List Char
  fraction : List Char := []
  exponent : Option ℤ := none
  deriving DecidableEq

namespace Literal

/-- What a literal is worth. -/
def value (l : Literal) : ℚ :=
  (if l.negative then -1 else 1) * (Nat.ofDigitChars 10 (l.whole ++ l.fraction) 0 : ℚ) *
    10 ^ (l.exponent.getD 0 - l.fraction.length)

/-- An exponent has a sign and two digits at least. -/
def exponentText (e : ℤ) : List Char :=
  (if e < 0 then '-' else '+') ::
    ((if (Nat.toDigits 10 e.natAbs).length < 2 then ['0'] else []) ++ Nat.toDigits 10 e.natAbs)

/-- The text of a literal; a fraction that is empty has no point. -/
def text (l : Literal) : List Char :=
  (if l.negative then ['-'] else []) ++ l.whole ++
    (if l.fraction = [] then [] else '.' :: l.fraction) ++
      (l.exponent.elim [] fun e => 'e' :: exponentText e)

/-- The sign in front of a number, and what follows it. -/
def readSign : List Char → Bool × List Char
  | '-' :: s => (true, s)
  | '+' :: s => (false, s)
  | s => (false, s)

/-- The fraction, if there is a point, and what follows it. -/
def readFraction : List Char → List Char × List Char
  | '.' :: s => (s.takeWhile Char.isDigit, s.dropWhile Char.isDigit)
  | s => ([], s)

/-- The exponent, if there is one. -/
def readExponent : List Char → Option ℤ
  | 'e' :: s =>
    let signed := readSign s
    let n : ℤ := Nat.ofDigitChars 10 (signed.2.takeWhile Char.isDigit) 0
    some (if signed.1 then -n else n)
  | _ => none

/-- A number is read from left to right: sign, digits, fraction and exponent. -/
def read (s : List Char) : Literal :=
  let signed := readSign s
  let afterWhole := readFraction (signed.2.dropWhile Char.isDigit)
  { negative := signed.1
    whole := signed.2.takeWhile Char.isDigit
    fraction := afterWhole.1
    exponent := readExponent afterWhole.2 }

/-- The parts are digits, and there is one before the point. -/
structure Proper (l : Literal) : Prop where
  nonempty : l.whole ≠ []
  whole : ∀ c ∈ l.whole, c.isDigit
  fraction : ∀ c ∈ l.fraction, c.isDigit

theorem takeWhile_isDigit {ds rest : List Char} (hds : ∀ c ∈ ds, c.isDigit)
    (hrest : rest.head?.all (!·.isDigit)) :
    (ds ++ rest).takeWhile Char.isDigit = ds ∧ (ds ++ rest).dropWhile Char.isDigit = rest := by
  induction ds with
  | nil =>
      cases rest with
      | nil => exact ⟨rfl, rfl⟩
      | cons c rest =>
          have hc : ¬ c.isDigit = true := by simpa using hrest
          exact ⟨List.takeWhile_cons_of_neg hc, List.dropWhile_cons_of_neg hc⟩
  | cons c ds ih =>
      have hc := hds c List.mem_cons_self
      obtain ⟨htake, hdrop⟩ := ih fun c' hc' => hds c' (List.mem_cons_of_mem _ hc')
      simp [hc, htake, hdrop]

theorem readSign_digit {c : Char} (hc : c.isDigit) (s : List Char) :
    readSign (c :: s) = (false, c :: s) := by
  unfold readSign
  split
  · next heq =>
      obtain ⟨rfl, -⟩ := List.cons.inj heq
      exact absurd hc (by decide)
  · next heq =>
      obtain ⟨rfl, -⟩ := List.cons.inj heq
      exact absurd hc (by decide)
  · rfl

theorem isDigit_toDigits (n : ℕ) : ∀ c ∈ Nat.toDigits 10 n, c.isDigit :=
  fun _ hc => Nat.isDigit_of_mem_toDigits (by decide) (by decide) hc

theorem readExponent_text (e : Option ℤ) :
    readExponent (e.elim [] fun e => 'e' :: exponentText e) = e := by
  cases e with
  | none => rfl
  | some e =>
      let ds := (if (Nat.toDigits 10 e.natAbs).length < 2 then ['0'] else []) ++
        Nat.toDigits 10 e.natAbs
      have hds : ∀ c ∈ ds, c.isDigit := by
        intro c hc
        rcases List.mem_append.mp hc with hzero | hc
        · split at hzero
          · rw [List.mem_singleton.mp hzero]
            decide
          · simp at hzero
        · exact isDigit_toDigits _ c hc
      -- a zero in front counts for nothing
      have hvalue : Nat.ofDigitChars 10 ds 0 = e.natAbs := by
        show Nat.ofDigitChars 10 ((if _ then ['0'] else []) ++ _) 0 = _
        rw [Nat.ofDigitChars_append]
        split <;> simp [Nat.ofDigitChars_cons]
      have htake : ds.takeWhile Char.isDigit = ds := List.takeWhile_eq_self_iff.mpr hds
      show readExponent ('e' :: (if e < 0 then '-' else '+') :: ds) = some e
      by_cases hneg : e < 0
      · simp only [readExponent, if_pos hneg, readSign, htake, hvalue, if_true]
        congr 1
        omega
      · simp only [readExponent, if_neg hneg, readSign, htake, hvalue]
        congr 1
        simp only [Bool.false_eq_true, if_false]
        omega

/-- **What is read is what was written.** -/
theorem read_text {l : Literal} (h : l.Proper) : read l.text = l := by
  obtain ⟨negative, whole, fraction, exponent⟩ := l
  obtain ⟨hne, hwhole, hfraction⟩ := h
  simp only at hne hwhole hfraction
  let tail := exponent.elim [] fun e => 'e' :: exponentText e
  have htail : tail.head?.all (!·.isDigit) := by
    cases exponent with
    | none => rfl
    | some e => rfl
  let rest := (if fraction = [] then [] else '.' :: fraction) ++ tail
  have hrest : rest.head?.all (!·.isDigit) ∧ readFraction rest = (fraction, tail) := by
    by_cases hnone : fraction = []
    · subst hnone
      refine ⟨htail, ?_⟩
      show readFraction tail = ([], tail)
      cases exponent with
      | none => rfl
      | some e => rfl
    · have hpoint : rest = '.' :: (fraction ++ tail) := by
        show (if fraction = [] then [] else '.' :: fraction) ++ tail = _
        rw [if_neg hnone]
        rfl
      obtain ⟨htake, hdrop⟩ := takeWhile_isDigit hfraction htail
      rw [hpoint]
      refine ⟨rfl, ?_⟩
      show ((fraction ++ tail).takeWhile Char.isDigit,
        (fraction ++ tail).dropWhile Char.isDigit) = _
      rw [htake, hdrop]
  obtain ⟨htake, hdrop⟩ := takeWhile_isDigit hwhole hrest.1
  have hsign : readSign ((if negative then ['-'] else []) ++ (whole ++ rest)) =
      (negative, whole ++ rest) := by
    cases negative with
    | true => rfl
    | false =>
        cases whole with
        | nil => exact absurd rfl hne
        | cons c whole => exact readSign_digit (hwhole c List.mem_cons_self) _
  have htext : text ⟨negative, whole, fraction, exponent⟩ =
      (if negative then ['-'] else []) ++ (whole ++ rest) := by
    simp only [text, rest, tail, List.append_assoc]
  rw [htext]
  simp only [read, hsign, htake, hdrop, hrest.2]
  congr 1
  exact readExponent_text exponent

end Literal

/-! ### The significand -/

/-- The first `p` digits of a positive number as a whole number, and the place of the first. -/
def significand (p : ℕ) (x : ℚ) : ℕ × ℤ :=
  let e := Int.log 10 x
  let d := (Rounding.halfEven (x * 10 ^ ((p : ℤ) - 1 - e))).toNat
  if d = 10 ^ p then (10 ^ (p - 1), e + 1) else (d, e)

section Significand

variable {p : ℕ} (hp : 0 < p) {x : ℚ} (hx : 0 < x)

include hp hx in
/-- Scaled so that its first digit comes to stand where it should, the number has `p` digits before
the point. -/
theorem scaled_mem :
    ((10 ^ (p - 1) : ℕ) : ℚ) ≤ x * 10 ^ ((p : ℤ) - 1 - Int.log 10 x) ∧
      x * 10 ^ ((p : ℤ) - 1 - Int.log 10 x) ≤ ((10 ^ p : ℕ) : ℚ) := by
  have hlo : (10 : ℚ) ^ Int.log 10 x ≤ x := by
    exact_mod_cast Int.zpow_log_le_self (b := 10) (by norm_num) hx
  have hhi : x < (10 : ℚ) ^ (Int.log 10 x + 1) := by
    exact_mod_cast Int.lt_zpow_succ_log_self (b := 10) (by norm_num) x
  have hpos : (0 : ℚ) < 10 ^ ((p : ℤ) - 1 - Int.log 10 x) := zpow_pos (by norm_num) _
  have hfirst : ((10 ^ (p - 1) : ℕ) : ℚ) =
      10 ^ Int.log 10 x * 10 ^ ((p : ℤ) - 1 - Int.log 10 x) := by
    rw [← zpow_add₀ (by norm_num), Nat.cast_pow, ← zpow_natCast]
    congr 1
    omega
  have hlast : ((10 ^ p : ℕ) : ℚ) =
      10 ^ (Int.log 10 x + 1) * 10 ^ ((p : ℤ) - 1 - Int.log 10 x) := by
    rw [← zpow_add₀ (by norm_num), Nat.cast_pow, ← zpow_natCast]
    congr 1
    omega
  rw [hfirst, hlast]
  exact ⟨mul_le_mul_of_nonneg_right hlo hpos.le, mul_le_mul_of_nonneg_right hhi.le hpos.le⟩

include hp hx in
/-- It has `p` digits, and it is the rounded number in its place. -/
theorem significand_spec :
    10 ^ (p - 1) ≤ (significand p x).1 ∧ (significand p x).1 < 10 ^ p ∧
      (significand p x).1 * (10 : ℚ) ^ ((significand p x).2 - (p - 1)) =
        Rounding.halfEven (x * 10 ^ ((p : ℤ) - 1 - Int.log 10 x)) *
          10 ^ (Int.log 10 x - (p - 1)) := by
  obtain ⟨hlo, hhi⟩ := scaled_mem hp hx
  set d := Rounding.halfEven (x * 10 ^ ((p : ℤ) - 1 - Int.log 10 x)) with hd
  have hdlo : ((10 ^ (p - 1) : ℕ) : ℤ) ≤ d := Rounding.le_halfEven (by exact_mod_cast hlo)
  have hdhi : d ≤ ((10 ^ p : ℕ) : ℤ) := Rounding.halfEven_le (by exact_mod_cast hhi)
  have hnat : (d.toNat : ℤ) = d := Int.toNat_of_nonneg (le_trans (by positivity) hdlo)
  have hpow : 10 ^ p = 10 * 10 ^ (p - 1) := by
    rw [← pow_succ']
    congr 1
    omega
  have hone : 1 ≤ 10 ^ (p - 1) := Nat.one_le_pow _ _ (by norm_num)
  unfold significand
  simp only [← hd]
  by_cases hover : d.toNat = 10 ^ p
  · -- rounding has gone up to the next power of ten
    have hnext : (d : ℚ) = 10 * 10 ^ (p - 1) := by
      have : d = ((10 ^ p : ℕ) : ℤ) := by omega
      rw [this, hpow]
      push_cast
      ring
    have hplace : (10 : ℚ) ^ (Int.log 10 x + 1 - ((p : ℤ) - 1)) =
        10 * 10 ^ (Int.log 10 x - ((p : ℤ) - 1)) := by
      rw [← zpow_one_add₀ (by norm_num)]
      congr 1
      ring
    rw [if_pos hover]
    refine ⟨le_rfl, by omega, ?_⟩
    show ((10 ^ (p - 1) : ℕ) : ℚ) * 10 ^ (Int.log 10 x + 1 - ((p : ℤ) - 1)) = _
    rw [hplace, hnext]
    push_cast
    ring
  · rw [if_neg hover]
    refine ⟨by omega, by omega, ?_⟩
    show ((d.toNat : ℕ) : ℚ) * _ = _
    rw [show ((d.toNat : ℕ) : ℚ) = (d : ℚ) by exact_mod_cast hnat]

include hp hx in
/-- **The digits are off by half of the last one at most.** -/
theorem abs_sub_significand :
    |x - (significand p x).1 * (10 : ℚ) ^ ((significand p x).2 - (p - 1))| ≤
      x / (2 * 10 ^ (p - 1)) := by
  obtain ⟨-, -, hvalue⟩ := significand_spec hp hx
  set scale : ℚ := 10 ^ (Int.log 10 x - ((p : ℤ) - 1)) with hscale
  have hpos : 0 < scale := zpow_pos (by norm_num) _
  have hunit : (10 : ℚ) ^ ((p : ℤ) - 1 - Int.log 10 x) = scale⁻¹ := by
    rw [hscale, ← zpow_neg]
    congr 1
    ring
  have hround := Rounding.abs_sub_halfEven (x * scale⁻¹)
  have hlo : (10 : ℚ) ^ Int.log 10 x ≤ x := by
    exact_mod_cast Int.zpow_log_le_self (b := 10) (by norm_num) hx
  have hplace : scale * 10 ^ (p - 1) = 10 ^ Int.log 10 x := by
    rw [hscale, ← zpow_natCast, ← zpow_add₀ (by norm_num)]
    congr 1
    omega
  rw [hvalue, hunit]
  have hdiff : x - Rounding.halfEven (x * scale⁻¹) * scale =
      (x * scale⁻¹ - Rounding.halfEven (x * scale⁻¹)) * scale := by
    rw [sub_mul, inv_mul_cancel_right₀ hpos.ne']
  rw [hdiff, abs_mul, abs_of_pos hpos, le_div_iff₀ (by positivity)]
  calc |x * scale⁻¹ - Rounding.halfEven (x * scale⁻¹)| * scale * (2 * 10 ^ (p - 1))
      ≤ 1 / 2 * scale * (2 * 10 ^ (p - 1)) := by gcongr
    _ = scale * 10 ^ (p - 1) := by ring
    _ ≤ x := hplace ▸ hlo

include hp hx in
/-- They are the number itself when it has no digits after them. -/
theorem significand_exact {k : ℕ} {n : ℤ} (hn : x * 10 ^ k = n)
    (hfits : x < 10 ^ ((p : ℤ) - k)) :
    (significand p x).1 * (10 : ℚ) ^ ((significand p x).2 - (p - 1)) = x := by
  obtain ⟨-, -, hvalue⟩ := significand_spec hp hx
  have hlog : Int.log 10 x < (p : ℤ) - k := by
    rw [← Int.lt_zpow_iff_log_lt (by norm_num) hx]
    exact_mod_cast hfits
  obtain ⟨j, hj⟩ := Int.eq_ofNat_of_zero_le (show 0 ≤ (p : ℤ) - 1 - Int.log 10 x - k by omega)
  -- so what is rounded is a whole number already
  have hwhole : x * 10 ^ ((p : ℤ) - 1 - Int.log 10 x) = ((n * 10 ^ j : ℤ) : ℚ) := by
    have hsplit : (p : ℤ) - 1 - Int.log 10 x = k + j := by omega
    rw [hsplit, zpow_add₀ (by norm_num), zpow_natCast, zpow_natCast, ← mul_assoc, hn]
    push_cast
    rfl
  rw [hvalue, hwhole, Rounding.halfEven_intCast, ← hwhole, mul_assoc, ← zpow_add₀ (by norm_num)]
  have hzero : (p : ℤ) - 1 - Int.log 10 x + (Int.log 10 x - (p - 1)) = 0 := by ring
  rw [hzero, zpow_zero, mul_one]

end Significand

/-! ### The literal of a number -/

/-- Without the zeros at its end. -/
def strip (ds : List Char) : List Char := ds.rdropWhile (· == '0')

theorem strip_append (ds : List Char) : ∃ k, ds = strip ds ++ List.replicate k '0' := by
  refine ⟨(ds.rtakeWhile (· == '0')).length, ?_⟩
  have hzeros : ds.rtakeWhile (· == '0') =
      List.replicate (ds.rtakeWhile (· == '0')).length '0' := by
    rw [List.eq_replicate_iff]
    exact ⟨rfl, fun c hc => by simpa using List.mem_rtakeWhile_imp hc⟩
  rw [← hzeros]
  exact (List.rdropWhile_append_rtakeWhile (p := (· == '0')) (l := ds)).symm

theorem mem_of_mem_strip {ds : List Char} {c : Char} (h : c ∈ strip ds) : c ∈ ds :=
  (List.rdropWhile_prefix (· == '0') ds).subset h

/-- How a number is written with `p` significant digits: without an exponent when its first digit
stands among these or not far behind the point, and else with one. -/
def literal (p : ℕ) (x : ℚ) : Literal :=
  if x = 0 then { whole := ['0'] }
  else
    let negative := decide (x < 0)
    let ds := Nat.toDigits 10 (significand p |x|).1
    let e := (significand p |x|).2
    if -4 ≤ e ∧ e < p then
      if 0 ≤ e then
        { negative, whole := ds.take (e + 1).toNat, fraction := strip (ds.drop (e + 1).toNat) }
      else
        { negative, whole := ['0'], fraction := List.replicate (-e - 1).toNat '0' ++ strip ds }
    else { negative, whole := ds.take 1, fraction := strip (ds.drop 1), exponent := some e }

/-- The text of a number with `p` significant digits. -/
def print (p : ℕ) (x : ℚ) : List Char := (literal p x).text

/-- The number that a text says. -/
def readNumber (s : List Char) : ℚ := (Literal.read s).value

section Print

variable {p : ℕ} (hp : 0 < p) {x : ℚ} (hx : x ≠ 0)

/-- Zeros at the end only move the point. -/
theorem value_of_digits {l : Literal} {d k : ℕ}
    (h : Nat.ofDigitChars 10 (l.whole ++ l.fraction ++ List.replicate k '0') 0 = d) :
    l.value =
      (if l.negative then -1 else 1) * (d : ℚ) *
        10 ^ (l.exponent.getD 0 - l.fraction.length - k) := by
  rw [Nat.ofDigitChars_append, Nat.ofDigitChars_replicate_zero] at h
  have hcast : (d : ℚ) = 10 ^ k * (Nat.ofDigitChars 10 (l.whole ++ l.fraction) 0 : ℚ) := by
    rw [← h]
    push_cast
    rfl
  have hten : (10 : ℚ) ^ k ≠ 0 := by positivity
  unfold Literal.value
  rw [hcast, zpow_sub₀ (by norm_num) _ (k : ℤ), zpow_natCast]
  field_simp

include hp hx in
/-- **A literal is worth its significand, in its place.** -/
theorem value_literal :
    (literal p x).value =
      (if x < 0 then -1 else 1) *
        ((significand p |x|).1 * (10 : ℚ) ^ ((significand p |x|).2 - (p - 1))) := by
  obtain ⟨hlo, hhi, -⟩ := significand_spec hp (abs_pos.mpr hx)
  unfold literal
  rw [if_neg hx]
  generalize hd : (significand p |x|).1 = d at hlo hhi ⊢
  generalize he : (significand p |x|).2 = e
  have hlen : (Nat.toDigits 10 d).length = p := by
    have hle := (Nat.length_toDigits_le_iff (b := 10) (n := d) (by norm_num) hp).mpr hhi
    by_contra hne
    have hpos : 0 < p - 1 := by
      have := Nat.length_toDigits_pos (b := 10) (n := d)
      omega
    have hless := (Nat.length_toDigits_le_iff (b := 10) (n := d) (by norm_num) hpos).mp (by omega)
    omega
  have hvalue := Nat.ofDigitChars_ten_toDigits (n := d)
  generalize Nat.toDigits 10 d = ds at hlen hvalue
  have hsplit : ∀ j, ∃ k, ds = ds.take j ++ strip (ds.drop j) ++ List.replicate k '0' ∧
      (strip (ds.drop j)).length + k = p - j := by
    intro j
    obtain ⟨k, hk⟩ := strip_append (ds.drop j)
    refine ⟨k, ?_, ?_⟩
    · rw [List.append_assoc, ← hk, List.take_append_drop]
    · have := congrArg List.length hk
      rw [List.length_append, List.length_replicate, List.length_drop, hlen] at this
      exact this.symm
  rw [← mul_assoc]
  simp only
  split
  · next hfixed =>
      split
      · next hnonneg =>
          obtain ⟨k, hk, hkl⟩ := hsplit (e + 1).toNat
          rw [value_of_digits (d := d) (k := k) (by rw [← hk]; exact hvalue)]
          simp only [decide_eq_true_eq, Option.getD_none]
          congr 2
          omega
      · next hneg =>
          obtain ⟨k, hk⟩ := strip_append ds
          have hkl := congrArg List.length hk
          rw [List.length_append, List.length_replicate, hlen] at hkl
          have hzeros : Nat.ofDigitChars 10
              (['0'] ++ (List.replicate (-e - 1).toNat '0' ++ strip ds) ++ List.replicate k '0') 0
                = d := by
            rw [List.append_assoc, List.append_assoc, ← hk]
            simp [Nat.ofDigitChars_cons, Nat.ofDigitChars_append, hvalue]
          rw [value_of_digits hzeros]
          simp only [decide_eq_true_eq, Option.getD_none, List.length_append, List.length_replicate]
          congr 2
          omega
  · obtain ⟨k, hk, hkl⟩ := hsplit 1
    rw [value_of_digits (d := d) (k := k) (by rw [← hk]; exact hvalue)]
    simp only [decide_eq_true_eq, Option.getD_some]
    congr 2
    omega

theorem isDigit_literal (p : ℕ) (x : ℚ) :
    (∀ c ∈ (literal p x).whole, c.isDigit) ∧ ∀ c ∈ (literal p x).fraction, c.isDigit := by
  have hds := Literal.isDigit_toDigits (significand p |x|).1
  have hdrop : ∀ j, ∀ c ∈ strip ((Nat.toDigits 10 (significand p |x|).1).drop j), c.isDigit :=
    fun j c hc => hds c (List.mem_of_mem_drop (mem_of_mem_strip hc))
  have htake : ∀ j, ∀ c ∈ (Nat.toDigits 10 (significand p |x|).1).take j, c.isDigit :=
    fun j c hc => hds c (List.mem_of_mem_take hc)
  have hzero : ∀ j, ∀ c ∈ List.replicate j '0', c.isDigit := by
    intro j c hc
    rw [List.eq_of_mem_replicate hc]
    decide
  unfold literal
  split
  · exact ⟨hzero 1, by simp⟩
  simp only
  split
  · split
    · exact ⟨htake _, hdrop _⟩
    · refine ⟨hzero 1, fun c hc => ?_⟩
      rcases List.mem_append.mp hc with hz | hs
      · exact hzero _ c hz
      · exact hds c (mem_of_mem_strip hs)
  · exact ⟨htake _, hdrop _⟩

theorem whole_literal_ne_nil (p : ℕ) (x : ℚ) : (literal p x).whole ≠ [] := by
  have hne := Nat.toDigits_ne_nil (n := (significand p |x|).1) (b := 10)
  unfold literal
  split
  · simp
  simp only
  split
  · split
    · simp only [ne_eq, List.take_eq_nil_iff, not_or]
      exact ⟨by omega, hne⟩
    · simp
  · simp only [ne_eq, List.take_eq_nil_iff, not_or]
    exact ⟨by omega, hne⟩

theorem readNumber_print (p : ℕ) (x : ℚ) : readNumber (print p x) = (literal p x).value := by
  obtain ⟨hwhole, hfraction⟩ := isDigit_literal p x
  rw [readNumber, print, Literal.read_text ⟨whole_literal_ne_nil p x, hwhole, hfraction⟩]

theorem readNumber_print_zero (p : ℕ) : readNumber (print p 0) = 0 := by
  rw [readNumber_print]
  simp [literal, Literal.value, Nat.ofDigitChars_cons]

theorem sign_mul_abs (x : ℚ) : (if x < 0 then -1 else 1) * |x| = x := by
  by_cases h : x < 0
  · rw [if_pos h, abs_of_neg h, neg_one_mul, neg_neg]
  · rw [if_neg h, abs_of_nonneg (not_lt.mp h), one_mul]

include hp in
/-- **What is read differs from the number by half of its last digit at most.** -/
theorem abs_sub_readNumber_print (x : ℚ) :
    |x - readNumber (print p x)| ≤ |x| / (2 * 10 ^ (p - 1)) := by
  by_cases hx : x = 0
  · subst hx
    rw [readNumber_print_zero]
    simp
  · have hsign : |if x < 0 then (-1 : ℚ) else 1| = 1 := by
      split <;> simp
    have hnear := abs_sub_significand hp (abs_pos.mpr hx)
    rw [readNumber_print, value_literal hp hx]
    nth_rewrite 1 [← sign_mul_abs x]
    rw [← mul_sub, abs_mul, hsign, one_mul]
    exact hnear

include hp in
/-- **And not at all when the number has no digits after them.** -/
theorem readNumber_print_exact {k : ℕ} {n : ℤ} (hn : x * 10 ^ k = n)
    (hfits : |x| < 10 ^ ((p : ℤ) - k)) : readNumber (print p x) = x := by
  by_cases hx : x = 0
  · subst hx
    exact readNumber_print_zero p
  · have habs : |x| * 10 ^ k = ((|n| : ℤ) : ℚ) := by
      rw [Int.cast_abs, ← hn, abs_mul, abs_of_pos (show (0 : ℚ) < 10 ^ k by positivity)]
    rw [readNumber_print, value_literal hp hx,
      significand_exact hp (abs_pos.mpr hx) habs hfits, sign_mul_abs]

/-- Nothing but digits, signs, a point and an exponent is ever written. -/
theorem mem_print {p : ℕ} {x : ℚ} {c : Char} (hc : c ∈ print p x) :
    c.isDigit ∨ c ∈ ['-', '+', '.', 'e'] := by
  obtain ⟨hwhole, hfraction⟩ := isDigit_literal p x
  unfold print Literal.text at hc
  rcases List.mem_append.mp hc with hc | hc
  · rcases List.mem_append.mp hc with hc | hc
    · rcases List.mem_append.mp hc with hc | hc
      · split at hc
        · rw [List.mem_singleton.mp hc]
          decide
        · simp at hc
      · exact Or.inl (hwhole c hc)
    · split at hc
      · simp at hc
      · rcases List.mem_cons.mp hc with rfl | hc
        · decide
        · exact Or.inl (hfraction c hc)
  · cases hexp : (literal p x).exponent with
    | none =>
        rw [hexp] at hc
        simp at hc
    | some e =>
        rw [hexp] at hc
        rcases List.mem_cons.mp hc with rfl | hc
        · decide
        rcases List.mem_cons.mp hc with rfl | hc
        · split <;> decide
        rcases List.mem_append.mp hc with hc | hc
        · split at hc
          · rw [List.mem_singleton.mp hc]
            decide
          · simp at hc
        · exact Or.inl (Literal.isDigit_toDigits _ c hc)

end Print

example : print 15 (-3 / 20) = "-0.15".toList := by decide +kernel

example : print 3 123456 = "1.23e+05".toList := by decide +kernel

end Significant
