/-
What can come out of `parse_line`.

The block is guarded by a handler for `bad_nmea_sentence` alone.  The constructor
throws that one; an access to a field that is not there throws another.  So a
line that is well formed but too short ends the thread: `parseLine_clean_iff`
says which lines do not.
-/
import Goby3Examples.Gps.Driver

namespace Gps

/-! ### Accessing the fields -/

namespace NMEASentence

variable {α : Type} (nmea : NMEASentence) (convert : Text → α) {i : Nat}

theorem as_of_lt (h : i < nmea.fields.length) :
    nmea.as convert i = .ok (convert nmea.fields[i]) := by
  rw [as, List.getElem?_eq_getElem h]

theorem as_of_ge (h : nmea.fields.length ≤ i) : nmea.as convert i = .error .outOfRange := by
  rw [as, List.getElem?_eq_none h]

theorem as_cases (i : Nat) :
    (∃ a, nmea.as convert i = .ok a) ∨ nmea.as convert i = .error .outOfRange := by
  rcases Nat.lt_or_ge i nmea.fields.length with h | h
  · exact Or.inl ⟨_, nmea.as_of_lt convert h⟩
  · exact Or.inr (nmea.as_of_ge convert h)

end NMEASentence

/-- If what comes after throws it, so does the whole, whether the first part gets that far or
not. -/
private theorem bind_outOfRange {α β : Type} {x : Except Exception α}
    {f : α → Except Exception β} (hx : (∃ a, x = .ok a) ∨ x = .error .outOfRange)
    (hf : ∀ a, f a = .error .outOfRange) : (x >>= f) = .error .outOfRange := by
  rcases hx with ⟨a, rfl⟩ | rfl
  · exact hf a
  · rfl

variable (goby : NMEA)

theorem lt_six_of_accessed : ∀ i ∈ accessed, i < 6 := by decide

theorem position_of_six {nmea : NMEASentence} (h : 6 ≤ nmea.fields.length) :
    position goby nmea = .ok
      { time := nmeaTimeToSeconds (goby.asDouble nmea.fields[1])
        latitude := nmeaGeoToDecimal (goby.asDouble nmea.fields[2]) (goby.asChar nmea.fields[3])
        longitude :=
          nmeaGeoToDecimal (goby.asDouble nmea.fields[4]) (goby.asChar nmea.fields[5]) } := by
  have hlt : ∀ i ∈ accessed, i < nmea.fields.length := fun i hi =>
    Nat.lt_of_lt_of_le (lt_six_of_accessed i hi) h
  rw [position, nmea.as_of_lt _ (hlt UTC (by decide)), nmea.as_of_lt _ (hlt LAT (by decide)),
    nmea.as_of_lt _ (hlt LAT_HEMI (by decide)), nmea.as_of_lt _ (hlt LON (by decide)),
    nmea.as_of_lt _ (hlt LON_HEMI (by decide))]
  rfl

/-- With fewer the last one fails, if none did before it. -/
theorem position_of_fewer {nmea : NMEASentence} (h : nmea.fields.length < 6) :
    position goby nmea = .error .outOfRange := by
  refine bind_outOfRange (nmea.as_cases _ _) fun utc => ?_
  refine bind_outOfRange (nmea.as_cases _ _) fun lat => ?_
  refine bind_outOfRange (nmea.as_cases _ _) fun latHemi => ?_
  refine bind_outOfRange (nmea.as_cases _ _) fun lon => ?_
  rw [nmea.as_of_ge _ (show nmea.fields.length ≤ LON_HEMI by unfold LON_HEMI; omega)]
  rfl

/-! ### The four ways through `parse_line` -/

section Ways

variable {goby} {line : Text} {nmea : NMEASentence}

theorem parseLine_of_rejected {what : Text} (h : goby.construct line = .error what) :
    parseLine goby line = { published := [], escaped := none } := by
  rw [parseLine, tryBlock, h]

theorem parseLine_of_other (h : goby.construct line = .ok nmea)
    (hid : nmea.sentenceId ≠ "GGA".toList) :
    parseLine goby line = { published := [], escaped := none } := by
  simp only [parseLine, tryBlock, h, if_neg hid]

theorem parseLine_of_position (h : goby.construct line = .ok nmea)
    (hid : nmea.sentenceId = "GGA".toList) {gps : GPSPosition}
    (hgps : position goby nmea = .ok gps) :
    parseLine goby line = { published := [gps], escaped := none } := by
  simp only [parseLine, tryBlock, h, if_pos hid, hgps, Except.map]

theorem parseLine_of_fewer (h : goby.construct line = .ok nmea)
    (hid : nmea.sentenceId = "GGA".toList) (hfewer : nmea.fields.length < 6) :
    parseLine goby line = { published := [], escaped := some .outOfRange } := by
  simp only [parseLine, tryBlock, h, if_pos hid, position_of_fewer goby hfewer, Except.map]

/-- The only way on which anything is published. -/
theorem mem_published_iff {gps : GPSPosition} :
    gps ∈ (parseLine goby line).published ↔ ∃ nmea, goby.construct line = .ok nmea ∧
      nmea.sentenceId = "GGA".toList ∧ 6 ≤ nmea.fields.length ∧ position goby nmea = .ok gps := by
  constructor
  · intro hgps
    cases hmake : goby.construct line with
    | error what =>
        rw [parseLine_of_rejected hmake] at hgps
        cases hgps
    | ok nmea =>
        by_cases hid : nmea.sentenceId = "GGA".toList
        · rcases Nat.lt_or_ge nmea.fields.length 6 with hfewer | hsix
          · rw [parseLine_of_fewer hmake hid hfewer] at hgps
            cases hgps
          · have hpos := position_of_six goby hsix
            rw [parseLine_of_position hmake hid hpos] at hgps
            obtain rfl := List.mem_singleton.mp hgps
            exact ⟨nmea, rfl, hid, hsix, hpos⟩
        · rw [parseLine_of_other hmake hid] at hgps
          cases hgps
  · rintro ⟨nmea, hmake, hid, -, hpos⟩
    rw [parseLine_of_position hmake hid hpos]
    exact List.mem_singleton_self gps

end Ways

/-! ### The whole -/

/-- Some step of decoding the line fails. -/
def DecodingFails (line : Text) : Prop :=
  (∃ what, goby.construct line = .error what) ∨
    ∃ nmea, goby.construct line = .ok nmea ∧ nmea.sentenceId = "GGA".toList ∧
      ∃ i ∈ accessed, nmea.fields[i]? = none

/-- `parse_line` returns, has published one position at most, and none if decoding failed. -/
structure Clean (line : Text) : Prop where
  returns : (parseLine goby line).escaped = none
  published : (parseLine goby line).published = [] ∨
    ∃ gps, (parseLine goby line).published = [gps]
  failed : DecodingFails goby line → (parseLine goby line).published = []

theorem clean_of_nothing {line : Text}
    (h : parseLine goby line = { published := [], escaped := none }) : Clean goby line := by
  refine ⟨?_, ?_, fun _ => ?_⟩
  · rw [h]
  · rw [h]
    exact Or.inl rfl
  · rw [h]

/--
**`parse_line` is clean on a line if and only if the sentence the constructor
makes of it, if any, is not a `GGA` sentence with fewer than six fields.**
-/
theorem parseLine_clean_iff (line : Text) :
    Clean goby line ↔ ∀ nmea, goby.construct line = .ok nmea →
      nmea.sentenceId = "GGA".toList → 6 ≤ nmea.fields.length := by
  constructor
  · intro hclean nmea hmake hid
    by_contra hfewer
    have hescaped := hclean.returns
    rw [parseLine_of_fewer hmake hid (Nat.not_le.mp hfewer)] at hescaped
    cases hescaped
  · intro hlong
    cases hmake : goby.construct line with
    | error what => exact clean_of_nothing goby (parseLine_of_rejected hmake)
    | ok nmea =>
        by_cases hid : nmea.sentenceId = "GGA".toList
        · have hsix := hlong nmea hmake hid
          have hline := parseLine_of_position hmake hid (position_of_six goby hsix)
          refine ⟨by rw [hline], Or.inr ⟨_, by rw [hline]⟩, ?_⟩
          -- with six fields nothing has failed
          rintro (⟨what, hwhat⟩ | ⟨nmea', hmake', -, i, hi, hnone⟩)
          · rw [hmake] at hwhat
            cases hwhat
          · obtain rfl := Except.ok.inj (hmake.symm.trans hmake')
            have hge := List.getElem?_eq_none_iff.mp hnone
            have hlt := lt_six_of_accessed i hi
            omega
        · exact clean_of_nothing goby (parseLine_of_other hmake hid)

/-- The fields of a sentence. -/
def splitCommas : Text → List Text
  | [] => [[]]
  | c :: cs =>
    if c = ',' then [] :: splitCommas cs
    else match splitCommas cs with
      | [] => [[c]]
      | field :: fields => (c :: field) :: fields

/-- What two hexadecimal digits say. -/
def hexValue (hi lo : Char) : Nat :=
  let digit := fun c : Char => if c.isDigit then c.toNat - '0'.toNat else c.toNat - 'A'.toNat + 10
  digit hi * 16 + digit lo

/-- What stands before a checksum at the end, and whether the checksum is right. -/
def stripChecksum (line : Text) : Text × Bool :=
  match line.reverse with
  | lo :: hi :: '*' :: rest =>
    let body := rest.reverse
    (body, hexValue hi lo == body.tail.foldl (fun sum c => sum ^^^ c.toNat) 0)
  | _ => (line, true)

/-- A constructor that checks the start, the checksum and the length of the talker field. -/
def validating : NMEA where
  construct := fun line =>
    let (body, valid) := stripChecksum line
    let talker := (splitCommas body).headD []
    if line.isEmpty then .error "no message provided".toList
    else if line.head? ≠ some '$' then .error "no $".toList
    else if !valid then .error "bad checksum".toList
    else if talker.length ≠ 6 then .error "bad talker length".toList
    else .ok { fields := splitCommas body, sentenceId := talker.drop 3 }
  asDouble := fun _ => none
  asChar := fun field => field.headD ' '

/-- A sentence cut off after its second field, with the checksum of what is left. -/
theorem not_parseLine_clean_cut : ¬ Clean validating "$GPGGA,123519*77".toList := by
  intro hclean
  have hreturns := hclean.returns
  revert hreturns
  decide

end Gps
