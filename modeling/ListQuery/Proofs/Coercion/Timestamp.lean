import Mathlib.Algebra.Order.Floor.Semifield
import Mathlib.Data.Rat.Floor
import ListQuery.Proofs.Calendar.Days
import ListQuery.Proofs.Calendar.Timestamp
import ListQuery.Proofs.Coercion
import ListQuery.Proofs.Text.Trim

/-!
# Timestamps in filters

A filter on instants is a timestamp on the clocks of any place.  Going over to UTC may change the
minute, the hour, the day, the month and the year, in either direction.  None of this shows when
instants are counted in seconds: the offset is subtracted once, and the calendar is only asked for
the number of the day.

## What is here

* `ShowsTimestamp` — a text, blanks around it aside, is a timestamp.
* `Timestamp.Names` — the instant of a timestamp, its day counted on the calendar one by one.
* `Timestamp.IsMoment` — the point of time of a timestamp as an exact number of seconds.
* `nanosOf_eq_floor` — the first nine digits of a fraction are its whole nanoseconds.
* `Timestamp.Names.eq_of_isMoment` — timestamps of one point of time name one instant.
* `timestamps_become_utc` — **a filter on instants accepts the timestamps and counts them in UTC**,
  so that it does not matter on which clocks a point of time is shown.
-/

set_option autoImplicit false
namespace ListQuery

/-- What stands between the blanks around a text is a timestamp. -/
def ShowsTimestamp (s : String) (t : Timestamp) : Prop :=
  ∃ u, Text.Trims s u ∧ WritesTimestamp u.toList t

/-- The part of a second that the digits of a fraction stand for. -/
def fractionValue (ds : List Char) : ℚ :=
  placeValue ds / 10 ^ ds.length

namespace Timestamp

/-- Whether a timestamp shows a leap second. -/
def IsLeap (t : Timestamp) : Prop :=
  t.time.second = 60

/-- The instant of a timestamp in UTC. A leap second is counted as the second before it, with a
billion nanoseconds more; the offset does not change the nanoseconds. -/
structure Names (t : Timestamp) (i : Instant) : Prop where
  seconds_eq : ∃ day, t.date.HasNumber day ∧ i.seconds =
    86400 * day + (3600 * t.time.hour + 60 * t.time.minute + min t.time.second 59 : Nat) - t.offset
  nanoseconds_eq :
    i.nanoseconds = nanosOf t.time.fraction + if t.time.second = 60 then 1000000000 else 0

/-- The point of time of a timestamp, in seconds and their fractions since the beginning of 1970. -/
def IsMoment (t : Timestamp) (moment : ℚ) : Prop :=
  ∃ day : Int, t.date.HasNumber day ∧ moment = fractionValue t.time.fraction +
    (86400 * day + (3600 * t.time.hour + 60 * t.time.minute + t.time.second : Nat) - t.offset : Int)

end Timestamp

/-! ## Fractions -/

theorem placeValue_lt {ds : List Char} (h : ∀ d ∈ ds, '0' ≤ d ∧ d ≤ '9') :
    placeValue ds < 10 ^ ds.length := by
  have hdigit : ∀ n ∈ ds.reverse.map fun d => d.toNat - '0'.toNat, n < 10 := by
    intro n hn
    obtain ⟨d, hd, rfl⟩ := List.mem_map.1 hn
    have hnine := UInt32.le_iff_toNat_le.1 (h d (List.mem_reverse.1 hd)).2
    have hvalue : d.toNat ≤ 57 := hnine
    have hzero : '0'.toNat = 48 := rfl
    omega
  have hlt := Nat.ofDigits_lt_base_pow_length (by decide) hdigit
  rwa [List.length_map, List.length_reverse] at hlt

theorem fractionValue_nonneg (ds : List Char) : 0 ≤ fractionValue ds := by
  unfold fractionValue
  positivity

theorem fractionValue_lt_one {ds : List Char} (h : ∀ d ∈ ds, '0' ≤ d ∧ d ≤ '9') :
    fractionValue ds < 1 := by
  have hlt := placeValue_lt h
  rw [fractionValue, div_lt_one (by positivity)]
  exact_mod_cast hlt

/-- **The first nine digits of a fraction are its whole nanoseconds.** -/
theorem nanosOf_eq_floor {ds : List Char} (h : ∀ d ∈ ds, '0' ≤ d ∧ d ≤ '9') :
    nanosOf ds = ⌊fractionValue ds * 10 ^ 9⌋₊ := by
  have hpadded : ∀ d ∈ ds ++ List.replicate 9 '0', '0' ≤ d ∧ d ≤ '9' := by
    intro d hd
    rcases List.mem_append.1 hd with hd | hd
    · exact h d hd
    · rw [List.eq_of_mem_replicate hd]
      decide
  -- With nine zeros behind it, the fraction is cut behind the nanoseconds.
  have hcut : placeValue ds * 10 ^ 9 =
      nanosOf ds * 10 ^ ds.length +
        placeValue ((ds ++ List.replicate 9 '0').drop 9) := by
    have hlength : ((ds ++ List.replicate 9 '0').drop 9).length = ds.length := by simp
    rw [nanosOf, ← hlength, ← placeValue_append, List.take_append_drop, placeValue_append,
      placeValue_replicate_zero, List.length_replicate, Nat.add_zero]
  have hrest : placeValue ((ds ++ List.replicate 9 '0').drop 9) < 10 ^ ds.length := by
    have hdropped : ∀ d ∈ (ds ++ List.replicate 9 '0').drop 9, '0' ≤ d ∧ d ≤ '9' :=
      fun d hd => hpadded d (List.mem_of_mem_drop hd)
    simpa using placeValue_lt hdropped
  have hquotient : fractionValue ds * 10 ^ 9 =
      ((placeValue ds * 10 ^ 9 : Nat) : ℚ) / (10 ^ ds.length : Nat) := by
    rw [fractionValue]
    push_cast
    ring
  rw [hquotient, Nat.floor_div_eq_div, hcut, Nat.add_comm,
    Nat.add_mul_div_right _ _ (by positivity), Nat.div_eq_of_lt hrest, Nat.zero_add]

/-! ## Points of time -/

namespace Timestamp

variable {cs cs' : List Char} {t t' : Timestamp}

theorem exists_names (h : WritesTimestamp cs t) :
    t.Names (.ofLocal t.date t.time.timeOfDay t.offset) where
  seconds_eq := ⟨t.date.dayNumber, (Date.hasNumber_iff h.isValid_date).2 rfl, rfl⟩
  nanoseconds_eq := rfl

theorem Names.unique {i i' : Instant} (hi : t.Names i) (hi' : t.Names i') : i = i' := by
  obtain ⟨⟨day, hday, hseconds⟩, hnanos⟩ := hi
  obtain ⟨⟨day', hday', hseconds'⟩, hnanos'⟩ := hi'
  obtain rfl := hday.unique hday'
  cases i
  cases i'
  simp_all

/-- The whole seconds of a point of time come from the date, the time and the offset, and what is
left over is the fraction. -/
theorem IsMoment.floor_and_fract (h : WritesTimestamp cs t) {moment : ℚ} (hm : t.IsMoment moment)
    {day : Int} (hday : t.date.HasNumber day) :
    ⌊moment⌋ = 86400 * day + (3600 * t.time.hour + 60 * t.time.minute + t.time.second : Nat) -
        t.offset ∧
      Int.fract moment = fractionValue t.time.fraction := by
  obtain ⟨day', hday', rfl⟩ := hm
  obtain rfl := hday.unique hday'
  have hfract := Int.fract_eq_self.2
    ⟨fractionValue_nonneg t.time.fraction, fractionValue_lt_one h.isDigit_fraction⟩
  have hfloor := Int.floor_eq_zero_iff.2
    ⟨fractionValue_nonneg t.time.fraction, fractionValue_lt_one h.isDigit_fraction⟩
  rw [Int.floor_add_intCast, Int.fract_add_intCast, hfract, hfloor, Int.zero_add]
  exact ⟨rfl, rfl⟩

/-- **Timestamps of one point of time name one instant**, if a leap second is shown by both of them
or by neither. -/
theorem Names.eq_of_isMoment {i i' : Instant} (h : WritesTimestamp cs t) (hi : t.Names i)
    (h' : WritesTimestamp cs' t') (hi' : t'.Names i') (hleap : t.IsLeap ↔ t'.IsLeap) {moment : ℚ}
    (hm : t.IsMoment moment) (hm' : t'.IsMoment moment) : i = i' := by
  obtain ⟨⟨day, hday, hseconds⟩, hnanos⟩ := hi
  obtain ⟨⟨day', hday', hseconds'⟩, hnanos'⟩ := hi'
  obtain ⟨hfloor, hfract⟩ := hm.floor_and_fract h hday
  obtain ⟨hfloor', hfract'⟩ := hm'.floor_and_fract h' hday'
  have hsame : i.seconds = i'.seconds := by
    have hsecond := h.second_le
    have hsecond' := h'.second_le
    unfold IsLeap at hleap
    omega
  have hfraction : nanosOf t.time.fraction = nanosOf t'.time.fraction := by
    rw [nanosOf_eq_floor h.isDigit_fraction, nanosOf_eq_floor h'.isDigit_fraction, ← hfract,
      ← hfract']
  have hsame' : i.nanoseconds = i'.nanoseconds := by
    rw [hnanos, hnanos', hfraction]
    simp only [show t.time.second = 60 ↔ t'.time.second = 60 from hleap]
  cases i
  cases i'
  cases hsame
  cases hsame'
  rfl

end Timestamp

/-! ## Filters -/

theorem showsTimestamp_iff {s : String} {t : Timestamp} :
    ShowsTimestamp s t ↔ WritesTimestamp (Text.trim s).toList t := by
  constructor
  · rintro ⟨u, htrim, hwrites⟩
    rwa [htrim.trim_eq]
  · intro hwrites
    exact ⟨Text.trim s, Text.trims_trim s, hwrites⟩

/-- **A filter on instants accepts the timestamps and counts them in UTC.**  The value of a
timestamp is the instant that it names: the number of its day on the calendar, its time of day and
the opposite of its offset, all in seconds, and the nanoseconds that the first nine digits of its
fraction write, which the offset does not change.  In a leap second the second before it is counted,
and a billion nanoseconds more.  So two timestamps of one point of time become the same value,
wherever their clocks are, as long as both of them show a leap second or neither does. -/
theorem timestamps_become_utc (field s : String) :
    (∀ v, coerceText field .dateTimeUtc s = .ok v ↔
      ∃ t i, ShowsTimestamp s t ∧ t.Names i ∧ v = .dateTimeUtc i) ∧
    ∀ s' t t' moment, ShowsTimestamp s t → ShowsTimestamp s' t' → (t.IsLeap ↔ t'.IsLeap) →
      t.IsMoment moment → t'.IsMoment moment →
      ∃ v, coerceText field .dateTimeUtc s = .ok v ∧ coerceText field .dateTimeUtc s' = .ok v := by
  have haccepted : ∀ r v, coerceText field .dateTimeUtc r = .ok v ↔
      ∃ t i, ShowsTimestamp r t ∧ t.Names i ∧ v = .dateTimeUtc i := by
    intro r v
    rw [coerceText_eq_ok_iff (by decide), parseValue?, Option.map_eq_some_iff]
    constructor
    · rintro ⟨i, hread, rfl⟩
      obtain ⟨t, hwrites, rfl⟩ := Instant.parse?_eq_some_iff.1 hread
      exact ⟨t, _, showsTimestamp_iff.2 hwrites, Timestamp.exists_names hwrites, rfl⟩
    · rintro ⟨t, i, hshows, hnames, rfl⟩
      have hwrites := showsTimestamp_iff.1 hshows
      obtain rfl := hnames.unique (Timestamp.exists_names hwrites)
      exact ⟨_, Instant.parse?_eq_some_iff.2 ⟨t, hwrites, rfl⟩, rfl⟩
  refine ⟨haccepted s, ?_⟩
  intro s' t t' moment hshows hshows' hleap hm hm'
  have hwrites := showsTimestamp_iff.1 hshows
  have hwrites' := showsTimestamp_iff.1 hshows'
  have hi := Timestamp.exists_names hwrites
  have hi' := Timestamp.exists_names hwrites'
  refine ⟨_, (haccepted s _).2 ⟨t, _, hshows, hi, rfl⟩,
    (haccepted s' _).2 ⟨t', _, hshows', hi', ?_⟩⟩
  rw [hi.eq_of_isMoment hwrites hwrites' hi' hleap hm hm']

/-- Half past midnight on the first of March, in a place that is ahead of UTC, is still the 29th of
February there. -/
theorem timestamps_become_utc_leap_day :
    let local' : Timestamp := ⟨⟨2024, 3, 1⟩, ⟨0, 30, 0, ['2', '5']⟩, 3600⟩
    let utc : Timestamp := ⟨⟨2024, 2, 29⟩, ⟨23, 30, 0, ['2', '5', '0']⟩, 0⟩
    ShowsTimestamp " 2024-03-01T00:30:00.25+01:00" local' ∧
      ShowsTimestamp "2024-02-29 23:30:00.250z" utc ∧
      coerceText "seen" .dateTimeUtc " 2024-03-01T00:30:00.25+01:00" =
        coerceText "seen" .dateTimeUtc "2024-02-29 23:30:00.250z" := by
  intro local' utc
  have hlocal : ShowsTimestamp " 2024-03-01T00:30:00.25+01:00" local' := by
    have hdate := @WritesDate.mk ['2', '0', '2', '4'] ['0', '3'] ['0', '1'] (by decide)
      (by decide) (by decide) rfl
    have htime := @WritesClockTime.mk ['0', '0'] ['3', '0'] ['0', '0'] ['.', '2', '5'] ['2', '5']
      (by decide) (by decide) (by decide) (.some (by decide))
      (by decide) (by decide) (by decide)
    have hoffset := @WritesOffset.ahead ['0', '1'] ['0', '0'] (by decide) (by decide)
      (by decide) (by decide)
    exact showsTimestamp_iff.2 (.mk (t := local') hdate (Or.inl rfl) htime hoffset)
  have hutc : ShowsTimestamp "2024-02-29 23:30:00.250z" utc := by
    have hdate := @WritesDate.mk ['2', '0', '2', '4'] ['0', '2'] ['2', '9'] (by decide)
      (by decide) (by decide) rfl
    have htime := @WritesClockTime.mk ['2', '3'] ['3', '0'] ['0', '0'] ['.', '2', '5', '0']
      ['2', '5', '0'] (by decide) (by decide) (by decide)
      (.some (by decide)) (by decide) (by decide) (by decide)
    exact showsTimestamp_iff.2 (.mk (t := utc) hdate (Or.inr (Or.inr rfl)) htime
      (.utc (Or.inr rfl)))
  have hleap : local'.IsLeap ↔ utc.IsLeap := by
    unfold Timestamp.IsLeap
    decide
  have hquarter : fractionValue ['2', '5'] = 1 / 4 := by
    rw [fractionValue, show placeValue ['2', '5'] = 25 from rfl]
    norm_num
  have hquarter' : fractionValue ['2', '5', '0'] = 1 / 4 := by
    rw [fractionValue, show placeValue ['2', '5', '0'] = 250 from rfl]
    norm_num
  have hmoment : local'.IsMoment (1709249400 + 1 / 4) :=
    ⟨19783, (Date.hasNumber_iff rfl).2 (by decide), by norm_num [local', hquarter]⟩
  have hmoment' : utc.IsMoment (1709249400 + 1 / 4) :=
    ⟨19782, (Date.hasNumber_iff rfl).2 (by decide), by norm_num [utc, hquarter']⟩
  obtain ⟨v, hv, hv'⟩ := (timestamps_become_utc "seen" " 2024-03-01T00:30:00.25+01:00").2 _ _ _ _
    hlocal hutc hleap hmoment hmoment'
  exact ⟨hlocal, hutc, hv.trans hv'.symm⟩

end ListQuery
