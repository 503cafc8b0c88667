/-
Which ids the command line may give.

`main` says that the ids must be unsigned integers and leaves it to `std::stoi`
to tell, which takes more than that.  It refuses too little in two places only:
in front of the digits, where white space and a sign are skipped, and behind
them, where nothing is looked at.
-/
import Goby3Examples.Chat.Main

namespace Chat

open Numeral

/-! ### The two ways through the first part of `main` -/

section Ways

variable {program serialPort myId buddyId logFile : Text}

theorem parseArguments_of_read (hmy : ¬ Refused myId) (hbuddy : ¬ Refused buddyId) :
    parseArguments [program, serialPort, myId, buddyId, logFile] =
      .goesOn serialPort (parts myId).number (parts buddyId).number logFile := by
  simp only [parseArguments, stoi_of_not_refused hmy, stoi_of_not_refused hbuddy]
  rfl

/-- The message is the same whichever of the ids it is, and whatever is wrong with it. -/
theorem parseArguments_of_refused (h : Refused myId ∨ Refused buddyId) :
    parseArguments [program, serialPort, myId, buddyId, logFile] =
      startupFailure [badIds myId buddyId] := by
  have hread : ∃ e : StoiError,
      (do return (← stoi myId, ← stoi buddyId) : Except StoiError (Int × Int)) = .error e := by
    by_cases hmy : Refused myId
    · obtain ⟨e, he⟩ := stoi_of_refused hmy
      exact ⟨e, by rw [he]; rfl⟩
    · obtain ⟨e, he⟩ := stoi_of_refused (h.resolve_left hmy)
      exact ⟨e, by rw [stoi_of_not_refused hmy, he]; rfl⟩
  obtain ⟨e, he⟩ := hread
  simp only [parseArguments, he]
  cases e <;> rfl

end Ways

/-- `main` goes on with unsigned integers, as they stand, and ends with any other pair. -/
structure AcceptsUnsigned (program serialPort myId buddyId logFile : Text) : Prop where
  accepts : Unsigned myId → Unsigned buddyId →
    parseArguments [program, serialPort, myId, buddyId, logFile] =
      .goesOn serialPort (value myId) (value buddyId) logFile
  rejects : ¬ (Unsigned myId ∧ Unsigned buddyId) →
    ∃ cerr, parseArguments [program, serialPort, myId, buddyId, logFile] = .startupFailure cerr

/--
**`main` takes exactly the unsigned integers if and only if one of the two strings
is refused by `stoi`, or both are nothing but their digits.**
-/
theorem acceptsUnsigned_iff (program serialPort myId buddyId logFile : Text) :
    AcceptsUnsigned program serialPort myId buddyId logFile ↔
      Refused myId ∨ Refused buddyId ∨ (Bare myId ∧ Bare buddyId) := by
  constructor
  · intro h
    by_contra hcontra
    simp only [not_or] at hcontra
    obtain ⟨hmy, hbuddy, hbare⟩ := hcontra
    have hboth : ¬ (Unsigned myId ∧ Unsigned buddyId) := by
      rintro ⟨humy, hubuddy⟩
      exact hbare ⟨(unsigned_iff.mp humy).2, (unsigned_iff.mp hubuddy).2⟩
    obtain ⟨cerr, hfail⟩ := h.rejects hboth
    rw [parseArguments_of_read hmy hbuddy] at hfail
    cases hfail
  · intro h
    by_cases hrefused : Refused myId ∨ Refused buddyId
    · refine ⟨fun hmy hbuddy => ?_, fun _ => ⟨_, parseArguments_of_refused hrefused⟩⟩
      rcases hrefused with hr | hr
      · exact absurd hr (unsigned_iff.mp hmy).1
      · exact absurd hr (unsigned_iff.mp hbuddy).1
    · rw [not_or] at hrefused
      obtain ⟨hmy, hbuddy⟩ : Bare myId ∧ Bare buddyId :=
        (h.resolve_left hrefused.1).resolve_left hrefused.2
      refine ⟨fun _ _ => ?_, fun hneither => ?_⟩
      · rw [parseArguments_of_read hrefused.1 hrefused.2, hmy.number_eq, hbuddy.number_eq]
      · exact absurd ⟨unsigned_iff.mpr ⟨hrefused.1, hmy⟩, unsigned_iff.mpr ⟨hrefused.2, hbuddy⟩⟩
          hneither

/-- `chat /dev/ttyUSB0 -1 2 log` starts, as node -1. -/
theorem not_acceptsUnsigned_minusOne :
    ¬ AcceptsUnsigned "chat".toList "/dev/ttyUSB0".toList "-1".toList "2".toList "log".toList := by
  intro h
  have hsigned : ¬ (Unsigned "-1".toList ∧ Unsigned "2".toList) := by
    rintro ⟨hmy, -⟩
    exact absurd (hmy.digits '-' (by decide)) (by decide)
  obtain ⟨cerr, hfail⟩ := h.rejects hsigned
  revert hfail
  have hread : parseArguments ["chat".toList, "/dev/ttyUSB0".toList, "-1".toList, "2".toList,
      "log".toList] = .goesOn "/dev/ttyUSB0".toList (-1) 2 "log".toList := by decide
  rw [hread]
  exact nofun

end Chat
