import WeatherNotify.Domain.QuietHours
import WeatherNotify.Order.Arc
import WeatherNotify.Users.UpdateProfile

/-!
# Quiet windows are arcs of the day

The profile check and the domain's parser are two grammars for one set of
texts: the five characters a minute of the day is written with.  Between two
such texts `isWithinQuietHours` answers for the half-open arc of the day, so
that the windows between two different minutes, one in each direction, divide
the day.
-/

namespace WeatherNotify.Users

open WeatherNotify.Domain
open WeatherNotify.Js
open WeatherNotify.Order

/-! ## The text of a minute -/

def minutesPerDay : Nat := 1440

/-- `HH:MM`. -/
def clockText (minute : Nat) : List Char :=
  [Nat.digitChar (minute / 60 / 10), Nat.digitChar (minute / 60 % 10), ':',
    Nat.digitChar (minute % 60 / 10), Nat.digitChar (minute % 60 % 10)]

/-- The text is how a minute of the day is written. -/
def Denotes (value : String) (minute : Nat) : Prop :=
  minute < minutesPerDay ∧ value.toList = clockText minute

theorem clockText_of_digits {h₁ h₂ m₁ m₂ : Nat}
    (hourDigit : h₂ < 10) (tenMinutes : m₁ < 6) (minuteDigit : m₂ < 10) :
    clockText ((h₁ * 10 + h₂) * 60 + (m₁ * 10 + m₂)) =
      [Nat.digitChar h₁, Nat.digitChar h₂, ':', Nat.digitChar m₁,
        Nat.digitChar m₂] := by
  have hour : ((h₁ * 10 + h₂) * 60 + (m₁ * 10 + m₂)) / 60 =
      h₁ * 10 + h₂ := by omega
  have minute : ((h₁ * 10 + h₂) * 60 + (m₁ * 10 + m₂)) % 60 =
      m₁ * 10 + m₂ := by omega
  have tens : (h₁ * 10 + h₂) / 10 = h₁ ∧ (h₁ * 10 + h₂) % 10 = h₂ := by
    omega
  have ones : (m₁ * 10 + m₂) / 10 = m₁ ∧ (m₁ * 10 + m₂) % 10 = m₂ := by
    omega
  rw [clockText, hour, minute, tens.1, tens.2, ones.1, ones.2]

/-- A minute of the day by its digits. -/
theorem denotes_iff_digits {value : String} {minute : Nat} :
    Denotes value minute ↔
      ∃ h₁ h₂ m₁ m₂, h₂ < 10 ∧ h₁ * 10 + h₂ < 24 ∧ m₁ < 6 ∧ m₂ < 10 ∧
        minute = (h₁ * 10 + h₂) * 60 + (m₁ * 10 + m₂) ∧
          value.toList = [Nat.digitChar h₁, Nat.digitChar h₂, ':',
            Nat.digitChar m₁, Nat.digitChar m₂] := by
  constructor
  · rintro ⟨below, written⟩
    have inDay : minute < 1440 := below
    exact ⟨minute / 60 / 10, minute / 60 % 10, minute % 60 / 10,
      minute % 60 % 10, by omega, by omega, by omega, by omega, by omega,
      written⟩
  · rintro ⟨h₁, h₂, m₁, m₂, hourDigit, hours, tenMinutes, minuteDigit, rfl,
      written⟩
    constructor
    · show _ < 1440
      omega
    · rw [written, clockText_of_digits hourDigit tenMinutes minuteDigit]

/-! ## Two grammars for the same texts -/

theorem acceptsWhole_HHMM_iff {value : String} :
    acceptsWhole HHMM value = true ↔ ∃ minute, Denotes value minute := by
  have distributed : HHMM.matches' =
      (digitBelow 2 * (digitBelow 10 *
          (.char ':' * (digitBelow 6 * digitBelow 10)))).matches' +
        (RegularExpression.char '2' * (digitBelow 4 *
          (.char ':' * (digitBelow 6 * digitBelow 10)))).matches' := by
    simp only [HHMM, RegularExpression.matches'_mul,
      RegularExpression.matches'_add, add_mul, mul_assoc]
  rw [acceptsWhole_iff, distributed, Language.mem_add]
  simp only [mem_digitBelow_mul, mem_char_mul, mem_digitBelow]
  constructor
  · rintro (⟨h₁, firstDigit, _, ⟨h₂, hourDigit, _, ⟨_, ⟨m₁, tenMinutes, _,
        ⟨m₂, minuteDigit, rfl⟩, rfl⟩, rfl⟩, rfl⟩, written⟩ |
      ⟨_, ⟨h₂, hourDigit, _, ⟨_, ⟨m₁, tenMinutes, _,
        ⟨m₂, minuteDigit, rfl⟩, rfl⟩, rfl⟩, rfl⟩, written⟩)
    · exact ⟨_, denotes_iff_digits.mpr ⟨h₁, h₂, m₁, m₂, hourDigit, by omega,
        tenMinutes, minuteDigit, rfl, written⟩⟩
    · exact ⟨_, denotes_iff_digits.mpr ⟨2, h₂, m₁, m₂, by omega, by omega,
        tenMinutes, minuteDigit, rfl, written⟩⟩
  · rintro ⟨minute, denotes⟩
    rcases denotes_iff_digits.mp denotes with ⟨h₁, h₂, m₁, m₂, hourDigit,
      hours, tenMinutes, minuteDigit, _, written⟩
    rcases Nat.lt_or_ge h₁ 2 with early | late
    · exact Or.inl ⟨h₁, early, _, ⟨h₂, hourDigit, _, ⟨_, ⟨m₁, tenMinutes, _,
        ⟨m₂, minuteDigit, rfl⟩, rfl⟩, rfl⟩, rfl⟩, written⟩
    · have twenty : h₁ = 2 := by omega
      subst twenty
      exact Or.inr ⟨_, ⟨h₂, by omega, _, ⟨_, ⟨m₁, tenMinutes, _,
        ⟨m₂, minuteDigit, rfl⟩, rfl⟩, rfl⟩, rfl⟩, written⟩

theorem parseHHMM_of_denotes {value : String} {minute : Nat}
    (denotes : Denotes value minute) : parseHHMM value = some minute := by
  rcases denotes_iff_digits.mp denotes with ⟨h₁, h₂, m₁, m₂, hourDigit,
    hours, tenMinutes, minuteDigit, rfl, written⟩
  have firstDigit : h₁ < 10 := by omega
  have tenDigit : m₁ < 10 := by omega
  have inRange : ¬ (23 < h₁ * 10 + h₂ ∨ 59 < m₁ * 10 + m₂) := by omega
  have value₁ := digitValue_digitChar firstDigit
  have value₂ := digitValue_digitChar hourDigit
  have value₃ := digitValue_digitChar tenDigit
  have value₄ := digitValue_digitChar minuteDigit
  unfold digitValue at value₁ value₂ value₃ value₄
  simp only [parseHHMM, written, Nat.isDigit_digitChar, firstDigit,
    hourDigit, tenDigit, minuteDigit, decide_true, Bool.and_self, if_true,
    value₁, value₂, value₃, value₄, Bool.or_eq_true, decide_eq_true_eq,
    if_neg inRange]

theorem denotes_of_parseHHMM {value : String} {minute : Nat}
    (parsed : parseHHMM value = some minute) : Denotes value minute := by
  unfold parseHHMM at parsed
  split at parsed
  case h_1 _ h₁ h₂ m₁ m₂ written =>
    split at parsed
    case isTrue digits =>
      simp only [Bool.and_eq_true] at digits
      rcases digits with ⟨⟨⟨hourTens, hourOnes⟩, minuteTens⟩, minuteOnes⟩
      dsimp only at parsed
      split at parsed
      case isTrue => cases parsed
      case isFalse inRange =>
        cases parsed
        simp only [Bool.or_eq_true, decide_eq_true_eq, not_or,
          Nat.not_lt] at inRange
        have ones := digitValue_lt hourOnes
        have last := digitValue_lt minuteOnes
        have hours : digitValue h₁ * 10 + digitValue h₂ ≤ 23 := inRange.1
        have minutes : digitValue m₁ * 10 + digitValue m₂ ≤ 59 := inRange.2
        apply denotes_iff_digits.mpr
        refine ⟨digitValue h₁, digitValue h₂, digitValue m₁, digitValue m₂,
          ones, by omega, by omega, last, rfl, ?_⟩
        rw [digitChar_digitValue hourTens, digitChar_digitValue hourOnes,
          digitChar_digitValue minuteTens, digitChar_digitValue minuteOnes]
        exact written
    case isFalse => cases parsed
  case h_2 => cases parsed

theorem parseHHMM_eq_some_iff {value : String} {minute : Nat} :
    parseHHMM value = some minute ↔ Denotes value minute :=
  ⟨denotes_of_parseHHMM, parseHHMM_of_denotes⟩

/-- The parser accepts exactly what the profile check accepts. -/
theorem parseHHMM_isSome_iff {value : String} :
    (parseHHMM value).isSome = true ↔ acceptsWhole HHMM value = true := by
  rw [Option.isSome_iff_exists, acceptsWhole_HHMM_iff]
  exact exists_congr fun minute => parseHHMM_eq_some_iff

/-- A window a user can save has two bounds the parser reads. -/
theorem parsed_of_errors {timezones : List String} {dto : UpdateProfileDto}
    {start finish : String} (valid : dto.errors timezones = [])
    (startGiven : dto.quietHoursStart = .given start)
    (finishGiven : dto.quietHoursEnd = .given finish) :
    (parseHHMM start).isSome = true ∧ (parseHHMM finish).isSome = true := by
  rcases UpdateProfileDto.accepted_of_errors valid startGiven finishGiven with
    ⟨first, second⟩
  exact ⟨parseHHMM_isSome_iff.mpr first, parseHHMM_isSome_iff.mpr second⟩

/-! ## The arc of a window -/

/-- For a zone the platform knows it prints an hour up to 24 and a minute. -/
def PrintsClock (zones : Zones) : Prop :=
  ∀ zone now hour minute, zones zone now = some (hour, minute) →
    hour ≤ 24 ∧ minute ≤ 59

section Windows

variable {zones : Zones} {now : Int} {timezone : Option String}

theorem localMinutes_lt (prints : PrintsClock zones) (now : Int)
    (timezone : Option String) :
    localMinutes zones now timezone < minutesPerDay := by
  have bounded : ∀ zone, (formatParts zones now zone).2 ≤ 59 := by
    intro zone
    unfold formatParts
    cases known : zones zone now with
    | none =>
        show (now / 60000 % 60).toNat ≤ 59
        omega
    | some parts => exact (prints zone now parts.1 parts.2 known).2
  have minute := bounded ((timezone.filter (· ≠ "")).getD "UTC")
  show (formatParts zones now _).1 % 24 * 60 + (formatParts zones now _).2 <
    1440
  omega

/-- What the two branches say of the minutes the bounds denote. -/
theorem isWithinQuietHours_eq {start finish : String} {s e : Nat}
    (startDenotes : Denotes start s) (finishDenotes : Denotes finish e) :
    isWithinQuietHours zones now (some start) (some finish) timezone =
      if s = e then false
      else if s < e then
        decide (s ≤ localMinutes zones now timezone) &&
          decide (localMinutes zones now timezone < e)
      else
        decide (s ≤ localMinutes zones now timezone) ||
          decide (localMinutes zones now timezone < e) := by
  simp only [isWithinQuietHours, Option.bind_some,
    parseHHMM_of_denotes startDenotes, parseHHMM_of_denotes finishDenotes]

/-- Between two denoted minutes a window is the arc from one to the other. -/
theorem isWithinQuietHours_iff_inArc (prints : PrintsClock zones)
    {start finish : String} {s e : Nat}
    (startDenotes : Denotes start s) (finishDenotes : Denotes finish e) :
    isWithinQuietHours zones now (some start) (some finish) timezone = true ↔
      s ≠ e ∧ InArc minutesPerDay s e (localMinutes zones now timezone) := by
  have below := localMinutes_lt prints now timezone
  have range : ∀ minute : Nat, minute < minutesPerDay →
      InRange minutesPerDay minute :=
    fun minute inDay => ⟨Int.natCast_nonneg minute, Int.ofNat_lt.mpr inDay⟩
  have startRange := range s startDenotes.1
  have finishRange := range e finishDenotes.1
  rw [isWithinQuietHours_eq startDenotes finishDenotes]
  rcases Nat.lt_trichotomy s e with ascending | rfl | descending
  · rw [if_neg (Nat.ne_of_lt ascending), if_pos ascending,
      inArc_of_lt startRange finishRange (range _ below)
        (Int.ofNat_lt.mpr ascending)]
    simp only [Bool.and_eq_true, decide_eq_true_eq, Nat.cast_le, Nat.cast_lt]
    exact (and_iff_right (Nat.ne_of_lt ascending)).symm
  · simp
  · rw [if_neg (Nat.ne_of_gt descending),
      if_neg (Nat.lt_asymm descending),
      inArc_of_gt startRange finishRange (range _ below)
        (Int.ofNat_lt.mpr descending)]
    simp only [Bool.or_eq_true, decide_eq_true_eq, Nat.cast_le, Nat.cast_lt]
    exact (and_iff_right (Nat.ne_of_gt descending)).symm

/-- A window holds only between two texts that denote minutes. -/
theorem denotes_of_isWithinQuietHours {start finish : String}
    (within :
      isWithinQuietHours zones now (some start) (some finish) timezone =
        true) :
    ∃ s e, Denotes start s ∧ Denotes finish e := by
  unfold isWithinQuietHours at within
  split at within
  case h_1 s e startParsed finishParsed =>
    exact ⟨s, e, denotes_of_parseHHMM startParsed,
      denotes_of_parseHHMM finishParsed⟩
  case h_2 => cases within

/--
Quiet hours hold on the half-open arc of the day between the two minutes the
bounds denote; the bounds that denote a minute are those a user can save; and
the windows between two different minutes divide the day.
-/
theorem quiet_hours_are_arcs (prints : PrintsClock zones) (now : Int)
    (timezone : Option String) (start finish : String) :
    (isWithinQuietHours zones now (some start) (some finish) timezone =
        true ↔
      acceptsWhole HHMM start = true ∧ acceptsWhole HHMM finish = true ∧
        ∃ s e : Nat, Denotes start s ∧ Denotes finish e ∧ s ≠ e ∧
          ((localMinutes zones now timezone : Int) - s) % minutesPerDay <
            ((e : Int) - s) % minutesPerDay) ∧
      (∀ value, (parseHHMM value).isSome = true ↔
        acceptsWhole HHMM value = true) ∧
      (∀ timezones (dto : UpdateProfileDto), dto.errors timezones = [] →
        dto.quietHoursStart = .given start →
          dto.quietHoursEnd = .given finish →
            (parseHHMM start).isSome = true ∧
              (parseHHMM finish).isSome = true) ∧
      ∀ s e, Denotes start s → Denotes finish e → s ≠ e →
        (isWithinQuietHours zones now (some start) (some finish) timezone =
            true ↔
          ¬ isWithinQuietHours zones now (some finish) (some start)
            timezone = true) := by
  refine ⟨?_, fun value => parseHHMM_isSome_iff, ?_, ?_⟩
  · constructor
    · intro within
      rcases denotes_of_isWithinQuietHours within with
        ⟨s, e, startDenotes, finishDenotes⟩
      rcases (isWithinQuietHours_iff_inArc prints startDenotes
        finishDenotes).mp within with ⟨different, inArc⟩
      exact ⟨acceptsWhole_HHMM_iff.mpr ⟨s, startDenotes⟩,
        acceptsWhole_HHMM_iff.mpr ⟨e, finishDenotes⟩, s, e, startDenotes,
        finishDenotes, different, inArc⟩
    · rintro ⟨_, _, s, e, startDenotes, finishDenotes, different, inArc⟩
      exact (isWithinQuietHours_iff_inArc prints startDenotes
        finishDenotes).mpr ⟨different, inArc⟩
  · intro timezones dto valid startGiven finishGiven
    exact parsed_of_errors valid startGiven finishGiven
  · intro s e startDenotes finishDenotes different
    have below := localMinutes_lt prints now timezone
    have range : ∀ minute : Nat, minute < minutesPerDay →
        InRange minutesPerDay minute :=
      fun minute inDay => ⟨Int.natCast_nonneg minute, Int.ofNat_lt.mpr inDay⟩
    rw [isWithinQuietHours_iff_inArc prints startDenotes finishDenotes,
      isWithinQuietHours_iff_inArc prints finishDenotes startDenotes,
      and_iff_right different, and_iff_right (Ne.symm different)]
    exact inArc_iff_not_inArc (range s startDenotes.1)
      (range e finishDenotes.1) (range _ below) (Nat.cast_injective.ne different)

end Windows

/-- A platform that knows UTC only and prints midnight as hour 24. -/
def utcOnly : Zones := fun zone now =>
  if zone = "UTC" then
    let parts := utcParts now
    some (if parts.1 = 0 then 24 else parts.1, parts.2)
  else none

theorem printsClock_utcOnly : PrintsClock utcOnly := by
  intro zone now hour minute printed
  unfold utcOnly at printed
  split at printed
  case isTrue =>
    cases printed
    constructor
    · show (if (now / 3600000 % 24).toNat = 0 then 24
        else (now / 3600000 % 24).toNat) ≤ 24
      split <;> omega
    · show (now / 60000 % 60).toNat ≤ 59
      omega
  case isFalse => cases printed

/-- Half past midnight lies on the arc from ten in the evening to seven. -/
theorem quiet_hours_are_arcs_overnight :
    localMinutes utcOnly 1800000 none = 30 ∧
      isWithinQuietHours utcOnly 1800000 (some "22:00") (some "07:00") none =
        true := by
  constructor
  · decide
  · apply (quiet_hours_are_arcs printsClock_utcOnly 1800000 none "22:00"
      "07:00").1.mpr
    exact ⟨by decide, by decide, 1320, 420, ⟨by decide, by decide⟩,
      ⟨by decide, by decide⟩, by decide, by decide⟩

end WeatherNotify.Users
