import ListQuery.Calendar.Instant
import ListQuery.Proofs.Text.Scan

/-!
# The timestamps that texts write

A timestamp shows a date and a time on the clocks of some place, and how far these clocks are from
UTC.  This file says which texts are timestamps and what they show, part by part, and that the
reader takes just these texts.

## What is here

* `WritesDate`, `WritesClockTime`, `WritesOffset` — the parts of a timestamp.
* `Timestamp`, `WritesTimestamp` — what a timestamp shows, and the texts that show it.
* `Instant.parse?_eq_some_iff` — **a text is read exactly if it is a timestamp**, and what comes of
  it is computed from what the timestamp shows.
-/

set_option autoImplicit false
namespace ListQuery

/-! ## Texts -/

/-- Four digits of a year and two each of a month and a day, which exist. -/
inductive WritesDate : List Char → Date → Prop
  | mk {year month day : List Char} (hyear : FixedDigits 4 year) (hmonth : FixedDigits 2 month)
      (hday : FixedDigits 2 day)
      (hvalid : Date.isValid ⟨placeValue year, placeValue month, placeValue day⟩ = true) :
      WritesDate (year ++ '-' :: (month ++ '-' :: day))
        ⟨placeValue year, placeValue month, placeValue day⟩

/-- What a clock shows, with the digits of a fraction of a second. In a leap second it shows a
sixtieth second. -/
structure ClockTime where
  hour : Nat
  minute : Nat
  second : Nat
  fraction : List Char

/-- Two digits each of an hour, a minute and a second, and perhaps a fraction. -/
inductive WritesClockTime : List Char → ClockTime → Prop
  | mk {hour minute second text fraction : List Char} (hhour : FixedDigits 2 hour)
      (hminute : FixedDigits 2 minute) (hsecond : FixedDigits 2 second)
      (hfraction : FractionText text fraction) (hhours : placeValue hour ≤ 23)
      (hminutes : placeValue minute ≤ 59) (hseconds : placeValue second ≤ 60) :
      WritesClockTime (hour ++ ':' :: (minute ++ ':' :: (second ++ text)))
        ⟨placeValue hour, placeValue minute, placeValue second, fraction⟩

/-- How many seconds clocks are ahead of UTC: none, or a sign and two digits each of hours and
minutes. -/
inductive WritesOffset : List Char → Int → Prop
  | utc {c : Char} (hc : c = 'Z' ∨ c = 'z') : WritesOffset [c] 0
  | ahead {hours minutes : List Char} (hhours : FixedDigits 2 hours)
      (hminutes : FixedDigits 2 minutes) (hday : placeValue hours ≤ 23)
      (hhour : placeValue minutes ≤ 59) :
      WritesOffset ('+' :: (hours ++ ':' :: minutes))
        (3600 * placeValue hours + 60 * placeValue minutes)
  | behind {c : Char} {hours minutes : List Char} (hc : c = '-' ∨ c = '−')
      (hhours : FixedDigits 2 hours) (hminutes : FixedDigits 2 minutes)
      (hday : placeValue hours ≤ 23) (hhour : placeValue minutes ≤ 59) :
      WritesOffset (c :: (hours ++ ':' :: minutes))
        (-(3600 * placeValue hours + 60 * placeValue minutes))

/-- What a timestamp shows: a date and a time, and by how many seconds they are ahead of UTC. -/
structure Timestamp where
  date : Date
  time : ClockTime
  offset : Int

/-- A date, a separator, a time and an offset. -/
inductive WritesTimestamp : List Char → Timestamp → Prop
  | mk {date time offset : List Char} {separator : Char} {t : Timestamp}
      (hdate : WritesDate date t.date)
      (hseparator : separator = 'T' ∨ separator = 't' ∨ separator = ' ')
      (htime : WritesClockTime time t.time) (hoffset : WritesOffset offset t.offset) :
      WritesTimestamp (date ++ separator :: (time ++ offset)) t

/-! ## What timestamps can show -/

theorem WritesTimestamp.isValid_date {cs : List Char} {t : Timestamp} (h : WritesTimestamp cs t) :
    t.date.isValid = true := by
  obtain ⟨hdate, -, -, -⟩ := h
  generalize t.date = d at hdate
  obtain ⟨-, -, -, hvalid⟩ := hdate
  exact hvalid

theorem WritesTimestamp.second_le {cs : List Char} {t : Timestamp} (h : WritesTimestamp cs t) :
    t.time.second ≤ 60 := by
  obtain ⟨-, -, htime, -⟩ := h
  generalize t.time = c at htime
  obtain ⟨-, -, -, -, -, -, hseconds⟩ := htime
  exact hseconds

theorem WritesTimestamp.isDigit_fraction {cs : List Char} {t : Timestamp}
    (h : WritesTimestamp cs t) : ∀ d ∈ t.time.fraction, '0' ≤ d ∧ d ≤ '9' := by
  obtain ⟨-, -, htime, -⟩ := h
  generalize t.time = c at htime
  obtain ⟨-, -, -, hfraction, -, -, -⟩ := htime
  cases hfraction with
  | none => nofun
  | some h => exact h.isDigit

/-! ## Readers -/

/-- The time of day that a clock shows. A leap second belongs to the second before it. -/
def ClockTime.timeOfDay (t : ClockTime) : TimeOfDay :=
  ⟨3600 * t.hour + 60 * t.minute + min t.second 59,
    nanosOf t.fraction + if t.second = 60 then 1000000000 else 0⟩

theorem TimeOfDay.ofFields?_eq_some_iff {hour minute second nanoseconds : Nat} {t : TimeOfDay} :
    ofFields? hour minute second nanoseconds = some t ↔
      (hour ≤ 23 ∧ minute ≤ 59 ∧ second ≤ 60) ∧
        t = ⟨3600 * hour + 60 * minute + min second 59,
          nanoseconds + if second = 60 then 1000000000 else 0⟩ := by
  simp only [ofFields?, Option.ite_none_right_eq_some, Bool.and_eq_true, decide_eq_true_eq,
    and_assoc, and_congr_right_iff]
  intro _ _ hsecond
  split
  · rename_i hleap
    simp only [Option.some_inj, eq_comm (a := t), hleap, nanosPerSecond, Nat.mul_comm]
    rfl
  · have hmin : min second 59 = second := by omega
    simp only [Option.some_inj, eq_comm (a := t), hmin, Nat.mul_comm, Nat.add_zero]

namespace Instant

theorem date?_eq_some_iff {cs rest : List Char} {d : Date} :
    date? cs = some (d, rest) ↔ ∃ text, WritesDate text d ∧ cs = text ++ rest := by
  constructor
  · intro h
    obtain ⟨⟨_, cs₁⟩, hyear, h⟩ := Option.bind_eq_some_iff.1 h
    obtain ⟨cs₂, hhyphen, h⟩ := Option.bind_eq_some_iff.1 h
    obtain ⟨⟨_, cs₃⟩, hmonth, h⟩ := Option.bind_eq_some_iff.1 h
    obtain ⟨cs₄, hhyphen', h⟩ := Option.bind_eq_some_iff.1 h
    obtain ⟨⟨_, cs₅⟩, hday, h⟩ := Option.bind_eq_some_iff.1 h
    obtain ⟨hvalid, h⟩ := Option.ite_none_right_eq_some.1 h
    cases h
    obtain ⟨year, hy, rfl, rfl⟩ := Text.Scan.digits?_eq_some_iff.1 hyear
    obtain rfl := Text.Scan.literal?_eq_some_iff.1 hhyphen
    obtain ⟨month, hm, rfl, rfl⟩ := Text.Scan.digits?_eq_some_iff.1 hmonth
    obtain rfl := Text.Scan.literal?_eq_some_iff.1 hhyphen'
    obtain ⟨day, hd, rfl, rfl⟩ := Text.Scan.digits?_eq_some_iff.1 hday
    exact ⟨_, .mk hy hm hd hvalid, by simp⟩
  · rintro ⟨_, @⟨year, month, day, hy, hm, hd, hvalid⟩, rfl⟩
    simp only [date?, List.append_assoc, List.cons_append, Text.Scan.digits?_append hy,
      Text.Scan.digits?_append hm, Text.Scan.digits?_append hd, Text.Scan.literal?_cons_self,
      Option.bind_eq_bind, Option.bind_some, hvalid, if_true]

theorem exists_of_time? {cs rest : List Char} {t : TimeOfDay} (h : time? cs = some (t, rest)) :
    ∃ text c, WritesClockTime text c ∧ t = c.timeOfDay ∧ cs = text ++ rest := by
  obtain ⟨⟨_, cs₁⟩, hhour, h⟩ := Option.bind_eq_some_iff.1 h
  obtain ⟨cs₂, hcolon, h⟩ := Option.bind_eq_some_iff.1 h
  obtain ⟨⟨_, cs₃⟩, hminute, h⟩ := Option.bind_eq_some_iff.1 h
  obtain ⟨cs₄, hcolon', h⟩ := Option.bind_eq_some_iff.1 h
  obtain ⟨⟨_, cs₅⟩, hsecond, h⟩ := Option.bind_eq_some_iff.1 h
  obtain ⟨⟨_, cs₆⟩, hfraction, h⟩ := Option.bind_eq_some_iff.1 h
  obtain ⟨time, hfields, h⟩ := Option.bind_eq_some_iff.1 h
  cases h
  obtain ⟨hour, hh, rfl, rfl⟩ := Text.Scan.digits?_eq_some_iff.1 hhour
  obtain rfl := Text.Scan.literal?_eq_some_iff.1 hcolon
  obtain ⟨minute, hm, rfl, rfl⟩ := Text.Scan.digits?_eq_some_iff.1 hminute
  obtain rfl := Text.Scan.literal?_eq_some_iff.1 hcolon'
  obtain ⟨second, hs, rfl, rfl⟩ := Text.Scan.digits?_eq_some_iff.1 hsecond
  obtain ⟨text, fraction, hf, rfl, rfl⟩ := Text.Scan.exists_of_pointFraction? hfraction
  obtain ⟨⟨hhours, hminutes, hseconds⟩, rfl⟩ := TimeOfDay.ofFields?_eq_some_iff.1 hfields
  exact ⟨_, _, .mk hh hm hs hf hhours hminutes hseconds, rfl, by simp⟩

theorem time?_append {text rest : List Char} {c : ClockTime} (h : WritesClockTime text c)
    (hrest : ∀ d, rest.head? = some d → Text.isDigit d = false ∧ d ≠ '.') :
    time? (text ++ rest) = some (c.timeOfDay, rest) := by
  obtain @⟨hour, minute, second, text, fraction, hh, hm, hs, hf, hhours, hminutes, hseconds⟩ := h
  have hfields : TimeOfDay.ofFields? (placeValue hour) (placeValue minute) (placeValue second)
      (nanosOf fraction) = some (ClockTime.timeOfDay ⟨_, _, _, fraction⟩) :=
    TimeOfDay.ofFields?_eq_some_iff.2 ⟨⟨hhours, hminutes, hseconds⟩, rfl⟩
  simp only [time?, List.append_assoc, List.cons_append, Text.Scan.digits?_append hh,
    Text.Scan.digits?_append hm, Text.Scan.digits?_append hs, Text.Scan.literal?_cons_self,
    Text.Scan.pointFraction?_append hf hrest, hfields, Option.bind_eq_bind, Option.bind_some]
  rfl

theorem behind?_eq_some_iff {c : Char} {behind : Bool} :
    behind? c = some behind ↔
      behind = false ∧ c = '+' ∨ behind = true ∧ (c = '-' ∨ c = '−') := by
  rw [behind?]
  split
  · rename_i hplus
    subst hplus
    cases behind <;> simp
  · rename_i hplus
    cases behind <;> simp [hplus, or_iff_not_imp_left]

/-- Behind a sign stand two digits each of hours and minutes. -/
theorem offset?_of_sign {c : Char} {behind : Bool} (hc : behind? c = some behind)
    {hours minutes : List Char} (hh : FixedDigits 2 hours) (hm : FixedDigits 2 minutes)
    (hday : placeValue hours ≤ 23) (hhour : placeValue minutes ≤ 59) (rest : List Char) :
    offset? (c :: (hours ++ ':' :: minutes) ++ rest) =
      some (if behind then -(3600 * placeValue hours + 60 * placeValue minutes : Int)
        else 3600 * placeValue hours + 60 * placeValue minutes, rest) := by
  have hutc : ¬(c = 'Z' || c = 'z') = true := by
    rcases behind?_eq_some_iff.1 hc with ⟨-, rfl⟩ | ⟨-, rfl | rfl⟩ <;> decide
  rw [List.cons_append, offset?, if_neg hutc]
  simp only [hc, List.append_assoc, List.cons_append, Text.Scan.digits?_append hh,
    Text.Scan.digits?_append hm, Text.Scan.literal?_cons_self, Option.bind_eq_bind,
    Option.bind_some, hday, hhour, decide_true, Bool.and_self, if_true, Int.mul_comm]

theorem offset?_eq_some_iff {cs rest : List Char} {seconds : Int} :
    offset? cs = some (seconds, rest) ↔ ∃ text, WritesOffset text seconds ∧ cs = text ++ rest := by
  constructor
  · intro h
    cases cs with
    | nil => cases h
    | cons c cs =>
      rw [offset?] at h
      split at h
      · rename_i hutc
        cases h
        exact ⟨[c], .utc (by simpa using hutc), rfl⟩
      · obtain ⟨behind, hsign, h⟩ := Option.bind_eq_some_iff.1 h
        obtain ⟨⟨_, cs₁⟩, hhours, h⟩ := Option.bind_eq_some_iff.1 h
        obtain ⟨cs₂, hcolon, h⟩ := Option.bind_eq_some_iff.1 h
        obtain ⟨⟨_, cs₃⟩, hminutes, h⟩ := Option.bind_eq_some_iff.1 h
        obtain ⟨hrange, h⟩ := Option.ite_none_right_eq_some.1 h
        cases h
        obtain ⟨hours, hh, rfl, rfl⟩ := Text.Scan.digits?_eq_some_iff.1 hhours
        obtain rfl := Text.Scan.literal?_eq_some_iff.1 hcolon
        obtain ⟨minutes, hm, rfl, rfl⟩ := Text.Scan.digits?_eq_some_iff.1 hminutes
        rw [Bool.and_eq_true, decide_eq_true_eq, decide_eq_true_eq] at hrange
        obtain ⟨hhour, hday⟩ := hrange
        refine ⟨c :: (hours ++ ':' :: minutes), ?_, by simp⟩
        rw [Int.mul_comm _ 3600, Int.mul_comm _ 60]
        rcases behind?_eq_some_iff.1 hsign with ⟨rfl, rfl⟩ | ⟨rfl, hc⟩
        · exact .ahead hh hm hday hhour
        · exact .behind hc hh hm hday hhour
  · rintro ⟨text, h, rfl⟩
    cases h with
    | @utc c hc => exact if_pos (by simpa using hc)
    | ahead hh hm hday hhour =>
      exact offset?_of_sign (behind?_eq_some_iff.2 (Or.inl ⟨rfl, rfl⟩)) hh hm hday hhour rest
    | behind hc hh hm hday hhour =>
      exact offset?_of_sign (behind?_eq_some_iff.2 (Or.inr ⟨rfl, hc⟩)) hh hm hday hhour rest

/-- An offset begins with none of the characters that a fraction consists of. -/
theorem head_of_writesOffset {text : List Char} {seconds : Int} (h : WritesOffset text seconds)
    {c : Char} (hc : text.head? = some c) : Text.isDigit c = false ∧ c ≠ '.' := by
  cases h with
  | utc hutc =>
    cases hc
    rcases hutc with rfl | rfl <;> decide
  | ahead =>
    cases hc
    decide
  | behind hsign =>
    cases hc
    rcases hsign with rfl | rfl <;> decide

theorem isSeparator_iff {c : Char} : isSeparator c = true ↔ c = 'T' ∨ c = 't' ∨ c = ' ' := by
  simp [isSeparator, or_assoc]

/-- **A text is read exactly if it is a timestamp.** -/
theorem parse?_eq_some_iff {s : String} {i : Instant} :
    parse? s = some i ↔
      ∃ t, WritesTimestamp s.toList t ∧ i = ofLocal t.date t.time.timeOfDay t.offset := by
  constructor
  · intro h
    obtain ⟨⟨date, cs₁⟩, hdate, h⟩ := Option.bind_eq_some_iff.1 h
    obtain ⟨dateText, hd, hs⟩ := date?_eq_some_iff.1 hdate
    cases cs₁ with
    | nil => cases h
    | cons separator more =>
      dsimp only at h
      split at h
      · rename_i hseparator
        obtain ⟨⟨time, cs₂⟩, htime, h⟩ := Option.bind_eq_some_iff.1 h
        obtain ⟨⟨offset, cs₃⟩, hoffset, h⟩ := Option.bind_eq_some_iff.1 h
        obtain ⟨hend, h⟩ := Option.ite_none_right_eq_some.1 h
        cases h
        obtain ⟨timeText, clock, ht, rfl, rfl⟩ := exists_of_time? htime
        obtain ⟨offsetText, ho, rfl⟩ := offset?_eq_some_iff.1 hoffset
        obtain rfl := List.isEmpty_iff.1 hend
        refine ⟨⟨date, clock, offset⟩, ?_, rfl⟩
        rw [hs, List.append_nil]
        exact .mk hd (isSeparator_iff.1 hseparator) ht ho
      · cases h
  · rintro ⟨t, h, rfl⟩
    generalize hs : s.toList = cs at h
    obtain @⟨date, time, offset, separator, t, hd, hseparator, ht, ho⟩ := h
    have hdate : date? (date ++ separator :: (time ++ offset)) =
        some (t.date, separator :: (time ++ offset)) := date?_eq_some_iff.2 ⟨date, hd, rfl⟩
    have htime := time?_append ht fun c hc => head_of_writesOffset ho hc
    have hoffset := offset?_eq_some_iff.2 ⟨offset, ho, (List.append_nil offset).symm⟩
    simp only [parse?, hs, hdate, isSeparator_iff.2 hseparator, htime, hoffset, if_true,
      Option.bind_eq_bind, Option.bind_some, List.isEmpty_nil]

end Instant
end ListQuery
