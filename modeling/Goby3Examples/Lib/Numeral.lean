/-
Reading an integer the way C does.

`std::stoi` skips white space, takes a sign if there is one and then as many
digits as there are, and pays no attention to what comes after them.  `Parts` is
a string taken apart in this way.  The string is an unsigned integer as it stands
when the digits are all of it, which `unsigned_iff` says is what keeps what is
read and what is written together.
-/
import Mathlib.Data.List.TakeWhile

namespace Numeral

/-- A string. -/
abbrev Text := List Char

/-- The white space of the C locale: a blank, or one of the five from tab to carriage return. -/
def isspace (c : Char) : Bool := c == ' ' || (9 ≤ c.toNat && c.toNat ≤ 13)

/-- What a string of digits says in base ten. -/
def value (digits : Text) : Nat := digits.foldl (fun n c => 10 * n + (c.toNat - '0'.toNat)) 0

/-- A sign in front of a number. -/
inductive Sign
  | plus
  | minus
  deriving DecidableEq, Repr

/-- The sign, if there is one, and what follows it. -/
def takeSign : Text → Option Sign × Text
  | '-' :: s => (some .minus, s)
  | '+' :: s => (some .plus, s)
  | s => (none, s)

/-- A string as `strtol` sees it. -/
structure Parts where
  blanks : Text
  sign : Option Sign
  digits : Text
  rest : Text
  deriving DecidableEq, Repr

/-- The parts of a string. -/
def parts (s : Text) : Parts :=
  let signed := takeSign (s.dropWhile isspace)
  { blanks := s.takeWhile isspace
    sign := signed.1
    digits := signed.2.takeWhile Char.isDigit
    rest := signed.2.dropWhile Char.isDigit }

/-- The number that they say. -/
def Parts.number (p : Parts) : Int :=
  if p.sign = some .minus then -value p.digits else value p.digits

/-- The value is one of an `int`'s. -/
def FitsInt (n : Int) : Prop := -2147483648 ≤ n ∧ n ≤ 2147483647

instance (n : Int) : Decidable (FitsInt n) := inferInstanceAs (Decidable (_ ∧ _))

/-- What `stoi` throws. -/
inductive StoiError
  | invalidArgument
  | outOfRange
  deriving DecidableEq, Repr

/-- `std::stoi` -/
def stoi (s : Text) : Except StoiError Int :=
  let p := parts s
  if p.digits = [] then .error .invalidArgument
  else if FitsInt p.number then .ok p.number
  else .error .outOfRange

/-- `stoi` finds no digit, or too many. -/
def Refused (s : Text) : Prop := (parts s).digits = [] ∨ ¬ FitsInt (parts s).number

/-- The digits are all there is. -/
structure Bare (s : Text) : Prop where
  blanks : (parts s).blanks = []
  sign : (parts s).sign = none
  rest : (parts s).rest = []

/-- Digits from end to end, and a value that fits an `int`. -/
structure Unsigned (s : Text) : Prop where
  nonempty : s ≠ []
  digits : ∀ c ∈ s, c.isDigit
  fits : FitsInt (value s)

/-! ### What is read and what is written -/

theorem stoi_of_refused {s : Text} (h : Refused s) : ∃ e, stoi s = .error e := by
  unfold stoi
  rcases h with hnone | hbig
  · exact ⟨_, if_pos hnone⟩
  · by_cases hnone : (parts s).digits = []
    · exact ⟨_, if_pos hnone⟩
    · exact ⟨_, (if_neg hnone).trans (if_neg hbig)⟩

theorem not_refused_iff {s : Text} :
    ¬ Refused s ↔ (parts s).digits ≠ [] ∧ FitsInt (parts s).number := by
  rw [Refused, not_or, not_not]

theorem stoi_of_not_refused {s : Text} (h : ¬ Refused s) : stoi s = .ok (parts s).number := by
  obtain ⟨hne, hfits⟩ := not_refused_iff.mp h
  unfold stoi
  exact (if_neg hne).trans (if_pos hfits)

theorem not_isspace_of_isDigit {c : Char} (h : c.isDigit) : isspace c = false := by
  have hlo : 48 ≤ c.toNat := by
    simp only [Char.isDigit, Bool.and_eq_true, decide_eq_true_eq] at h
    exact h.1
  have hne : c ≠ ' ' := by
    rintro rfl
    simp at hlo
  simp only [isspace, Bool.or_eq_false_iff, beq_eq_false_iff_ne, ne_eq, hne, not_false_eq_true,
    true_and, Bool.and_eq_false_iff, decide_eq_false_iff_not]
  omega

theorem takeSign_of_isDigit {c : Char} (h : c.isDigit) (s : Text) :
    takeSign (c :: s) = (none, c :: s) := by
  unfold takeSign
  split
  · next heq =>
      obtain ⟨rfl, -⟩ := List.cons.inj heq
      exact absurd h (by decide)
  · next heq =>
      obtain ⟨rfl, -⟩ := List.cons.inj heq
      exact absurd h (by decide)
  · rfl

/-- A string of digits has no other part. -/
theorem parts_of_digits {s : Text} (h : ∀ c ∈ s, c.isDigit) :
    parts s = { blanks := [], sign := none, digits := s, rest := [] } := by
  cases s with
  | nil => rfl
  | cons c s =>
      have hc := h c List.mem_cons_self
      have hspace : isspace c = false := not_isspace_of_isDigit hc
      have hdrop : (c :: s).dropWhile isspace = c :: s :=
        List.dropWhile_cons_of_neg (by simp [hspace])
      have hblanks : (c :: s).takeWhile isspace = [] :=
        List.takeWhile_cons_of_neg (by simp [hspace])
      have htake : (c :: s).takeWhile Char.isDigit = c :: s := List.takeWhile_eq_self_iff.mpr h
      have hrest : (c :: s).dropWhile Char.isDigit = [] := List.dropWhile_eq_nil_iff.mpr h
      simp only [parts, hdrop, hblanks, takeSign_of_isDigit hc, htake, hrest]

/-- Without blanks, sign and rest the string is its digits. -/
theorem Bare.digits_eq {s : Text} (h : Bare s) : (parts s).digits = s := by
  have hdrop : s.dropWhile isspace = s := by
    have happ := List.takeWhile_append_dropWhile (p := isspace) (l := s)
    rwa [show s.takeWhile isspace = [] from h.blanks, List.nil_append] at happ
  have hsign : (takeSign s).2 = s := by
    have hnone : (takeSign s).1 = none := by
      have := h.sign
      simpa only [parts, hdrop] using this
    unfold takeSign at hnone ⊢
    split at hnone <;> simp_all
  have hrest : s.dropWhile Char.isDigit = [] := by
    have := h.rest
    simpa only [parts, hdrop, hsign] using this
  have happ := List.takeWhile_append_dropWhile (p := Char.isDigit) (l := s)
  rw [hrest, List.append_nil] at happ
  simpa only [parts, hdrop, hsign] using happ

theorem Bare.number_eq {s : Text} (h : Bare s) : (parts s).number = value s := by
  rw [Parts.number, h.sign, h.digits_eq, if_neg (by simp)]

/-- **The string is an unsigned integer if and only if `stoi` reads it and reads all of it.** -/
theorem unsigned_iff {s : Text} : Unsigned s ↔ ¬ Refused s ∧ Bare s := by
  constructor
  · rintro ⟨hne, hdigits, hfits⟩
    have hparts := parts_of_digits hdigits
    have hbare : Bare s := ⟨by rw [hparts], by rw [hparts], by rw [hparts]⟩
    refine ⟨not_refused_iff.mpr ⟨?_, ?_⟩, hbare⟩
    · rw [hbare.digits_eq]
      exact hne
    · rw [hbare.number_eq]
      exact hfits
  · rintro ⟨hread, hbare⟩
    obtain ⟨hne, hfits⟩ := not_refused_iff.mp hread
    refine ⟨hbare.digits_eq ▸ hne, ?_, hbare.number_eq ▸ hfits⟩
    intro c hc
    rw [← hbare.digits_eq] at hc
    exact List.mem_takeWhile_imp hc

end Numeral
