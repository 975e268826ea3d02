import Mathlib.Algebra.Ring.Nat
import SqlBatch.MySql.Value
import SqlBatch.Proofs.Sql.Query
/- Dates and durations read back from their texts. The numbers in such a text stand apart by marks
   that no digit is, so that each is read to its last digit, whatever its width.
     1. `number_padded`: a number is read back with the zeros in front of it.
     2. `parse_time`: so is a time with its fraction, and what is not written of it is zero.
     3. `parse_date`, `parse_duration`: the text of a date has all that the date holds; that of a
        duration has its days and hours as hours, which 64 bits count.
     4. `sixDigits_fraction`: the fraction of a second is six digits.
     5. `times_read_back`: what is sent as a date or a duration is known from its text. -/
namespace SqlBatch.MySql

open Sql (Reader natural?)

/-! Numbers. -/

theorem toList_padded (width n : Nat) :
    (padded width n).toList =
      List.replicate (width - (toString n).toList.length) '0' ++ (toString n).toList := by
  rw [padded, String.toList_ofList]

theorem isDigit_padded (width n : Nat) : (padded width n).toList.all Char.isDigit = true := by
  rw [toList_padded, List.all_append, Sql.isDigit_toString, Bool.and_true, List.all_replicate]
  split <;> rfl

/-- The zeros in front of a number are worth nothing. -/
theorem natural?_padded (width n : Nat) : natural? (padded width n).toList = some n := by
  have hne : (padded width n).toList ≠ [] := by
    rw [toList_padded, Nat.toString_eq_ofList_toDigits, String.toList_ofList]
    exact List.append_ne_nil_of_right_ne_nil _ Nat.toDigits_ne_nil
  rw [natural?, if_pos ⟨hne, isDigit_padded width n⟩, toList_padded,
    Nat.toString_eq_ofList_toDigits, String.toList_ofList, Nat.ofDigitChars_append,
    Nat.ofDigitChars_replicate_zero, Nat.mul_zero,
    Nat.ofDigitChars_toDigits (by decide) (by decide)]

/-- A number that fits is as wide as it is made. -/
theorem length_padded {width n : Nat} (hwidth : 0 < width) (h : n < 10 ^ width) :
    (padded width n).toList.length = width := by
  have hlength : (toString n).toList.length ≤ width := by
    rw [Nat.toString_eq_ofList_toDigits, String.toList_ofList]
    exact (Nat.length_toDigits_le_iff (by decide) hwidth).mpr h
  rw [toList_padded, List.length_append, List.length_replicate, Nat.sub_add_cancel hlength]

/-- A number is read to its last digit. -/
theorem number_padded (width n : Nat) {rest : List Char}
    (h : rest.head?.all (fun c => !c.isDigit) = true) :
    Reader.number ((padded width n).toList ++ rest) = some (n, rest) := by
  rw [Reader.number, Reader.bind_of_eq (Reader.span_append (isDigit_padded width n) h),
    natural?_padded]
  rfl

/-! Times. -/

/-- Hours, minutes, seconds and a fraction. -/
structure Time where
  hours : Nat
  minutes : Nat
  seconds : Nat
  micro : Nat
  deriving DecidableEq, Repr

/-- The text of a time. -/
def Time.text (t : Time) : String := clock t.hours t.minutes t.seconds ++ fraction t.micro

/-- Takes a time, which has no fraction if none is written. -/
def Time.read : Reader Time := do
  let hours ← Reader.number
  Reader.expect ":"
  let minutes ← Reader.number
  Reader.expect ":"
  let seconds ← Reader.number
  let micro ← Reader.maybe "." Reader.number
  return ⟨hours, minutes, seconds, micro.getD 0⟩

theorem parse_time (t : Time) : Time.read.parse t.text = some t := by
  obtain ⟨hours, minutes, seconds, micro⟩ := t
  have hfraction (f : Option Nat → Reader Time) :
      (Reader.maybe "." Reader.number >>= f).parse (fraction micro) =
        (f (if micro = 0 then none else some micro)).parse "" := by
    unfold fraction
    split
    · exact Reader.parse_maybe_none rfl
    · refine Reader.parse_last (Reader.parse_maybe_some (Reader.parse_eq_some_iff.mpr ?_))
      have hread : Reader.number ((padded 6 micro).toList ++ []) = some (micro, []) :=
        number_padded 6 micro rfl
      rwa [List.append_nil] at hread
  have hhead : (fraction micro).toList.head?.all (fun c => !c.isDigit) = true := by
    unfold fraction
    split <;> simp
  simp only [Time.text, clock, String.append_assoc]
  rw [Time.read, Reader.parse_bind (number_padded 2 hours (by simp)), Reader.parse_expect,
    Reader.parse_bind (number_padded 2 minutes (by simp)), Reader.parse_expect,
    Reader.parse_bind (number_padded 2 seconds hhead), hfraction]
  split
  · next hmicro =>
    subst hmicro
    rfl
  · rfl

/-! Dates. -/

/-- The time of day of a date, none for zero. -/
def Date.time? (d : Date) : Option Time :=
  if d.hour = 0 ∧ d.minute = 0 ∧ d.second = 0 ∧ d.micro = 0 then none
  else some ⟨d.hour.toNat, d.minute.toNat, d.second.toNat, d.micro.toNat⟩

/-- The date of these numbers. -/
def Date.ofParts (year month day : Nat) (time? : Option Time) : Date :=
  let time := time?.getD ⟨0, 0, 0, 0⟩
  ⟨.ofNat year, .ofNat month, .ofNat day, .ofNat time.hours, .ofNat time.minutes,
    .ofNat time.seconds, .ofNat time.micro⟩

/-- Takes a date, whose time is zero if none is written. -/
def Date.read : Reader Date := do
  let year ← Reader.number
  Reader.expect "-"
  let month ← Reader.number
  Reader.expect "-"
  let day ← Reader.number
  let time? ← Reader.maybe " " Time.read
  return .ofParts year month day time?

/-- A date is known by its numbers. -/
theorem Date.ofParts_time? (d : Date) :
    ofParts d.year.toNat d.month.toNat d.day.toNat d.time? = d := by
  obtain ⟨year, month, day, hour, minute, second, micro⟩ := d
  unfold ofParts time?
  split
  · next hzero =>
    obtain ⟨rfl, rfl, rfl, rfl⟩ := hzero
    simp
  · simp

/-- The time of day has the fraction of the date. -/
theorem Date.micro_time? (d : Date) : d.time?.elim 0 Time.micro = d.micro.toNat := by
  unfold time?
  split
  · next hzero => rw [hzero.2.2.2]; rfl
  · rfl

theorem Date.text_eq (d : Date) :
    d.text = padded 4 d.year.toNat ++ ("-" ++ (padded 2 d.month.toNat ++ ("-" ++
      (padded 2 d.day.toNat ++ Sql.part Time.text d.time?)))) := by
  have htime : Sql.part Time.text d.time? =
      if d.hour = 0 ∧ d.minute = 0 ∧ d.second = 0 ∧ d.micro = 0 then ""
      else " " ++ (clock d.hour.toNat d.minute.toNat d.second.toNat ++
        fraction d.micro.toNat) := by
    unfold time?
    split <;> rfl
  simp only [text, htime, String.append_assoc]

/-- A date is read back with all that it holds. -/
theorem parse_date (d : Date) : Date.read.parse d.text = some d := by
  have htime (f : Option Time → Reader Date) :
      (Reader.maybe " " Time.read >>= f).parse (Sql.part Time.text d.time?) =
        (f d.time?).parse "" := by
    cases d.time? with
    | none => exact Reader.parse_maybe_none rfl
    | some t => exact Reader.parse_last (Reader.parse_maybe_some (parse_time t))
  have hhead : (Sql.part Time.text d.time?).toList.head?.all (fun c => !c.isDigit) = true := by
    cases d.time? <;> simp [Sql.part]
  rw [Date.text_eq, Date.read, Reader.parse_bind (number_padded 4 _ (by simp)),
    Reader.parse_expect, Reader.parse_bind (number_padded 2 _ (by simp)), Reader.parse_expect,
    Reader.parse_bind (number_padded 2 _ hhead), htime, Date.ofParts_time?]
  rfl

/-! Durations. -/

/-- Takes a time that may have a minus before it. -/
def Duration.read : Reader (Bool × Time) := do
  let minus ← Reader.maybe "-" (pure ())
  let time ← Time.read
  return (minus.isSome, time)

/-- The time of a duration, with its days as hours. -/
def Duration.time (d : Duration) : Time :=
  ⟨d.days.toNat * 24 + d.hours.toNat, d.minutes.toNat, d.seconds.toNat, d.micro.toNat⟩

/-- 64 bits count the hours of every duration. -/
theorem Duration.toNat_totalHours (d : Duration) :
    d.totalHours.toNat = d.days.toNat * 24 + d.hours.toNat := by
  have hdays := d.days.toNat_lt
  have hhours := d.hours.toNat_lt
  have hproduct : (d.days.toUInt64 * 24).toNat = d.days.toNat * 24 := by
    rw [UInt64.toNat_mul, UInt32.toNat_toUInt64]
    exact Nat.mod_eq_of_lt (by show _ * 24 < _; omega)
  rw [totalHours, UInt64.toNat_add, hproduct, UInt8.toNat_toUInt64]
  exact Nat.mod_eq_of_lt (by omega)

theorem Duration.text_eq (d : Duration) :
    d.text = (if d.negative then "-" else "") ++ d.time.text := by
  rw [text, toNat_totalHours, String.append_assoc]
  rfl

/-- No time begins with a minus. -/
theorem dropPrefix?_time (t : Time) : t.text.toList.dropPrefix? "-".toList = none := by
  have hdigits := isDigit_padded 2 t.hours
  have hread := natural?_padded 2 t.hours
  simp only [Time.text, clock, String.toList_append]
  cases hchars : (padded 2 t.hours).toList with
  | nil =>
    rw [hchars] at hread
    cases hread
  | cons c cs =>
    rw [hchars, List.all_cons, Bool.and_eq_true] at hdigits
    have hc : c ≠ '-' := by
      rintro rfl
      cases hdigits.1
    simp [List.dropPrefix?, hc]

/-- A duration is read back with its sign, and with its days as hours. -/
theorem parse_duration (d : Duration) :
    Duration.read.parse d.text = some (d.negative, d.time) := by
  rw [Duration.text_eq, Duration.read]
  cases hsign : d.negative with
  | false =>
    rw [if_neg Bool.false_ne_true, String.empty_append,
      Reader.parse_maybe_none (dropPrefix?_time d.time), Reader.parse_last (parse_time d.time)]
    rfl
  | true =>
    rw [if_pos rfl, Reader.parse_bind (Reader.maybe_pure "-" _),
      Reader.parse_last (parse_time d.time)]
    rfl

/-- A duration of fewer than 24 hours beside its days is known by its sign and its time. -/
theorem Duration.eq_of_time {d e : Duration} (hd : d.hours.toNat < 24) (he : e.hours.toNat < 24)
    (h : (d.negative, d.time) = (e.negative, e.time)) : d = e := by
  obtain ⟨negative, days, hours, minutes, seconds, micro⟩ := d
  obtain ⟨negative', days', hours', minutes', seconds', micro'⟩ := e
  simp only [time, Prod.mk.injEq, Time.mk.injEq] at h
  obtain ⟨hnegative, htotal, hminutes, hseconds, hmicro⟩ := h
  dsimp only at hd he
  have hdays : days.toNat = days'.toNat := by omega
  have hhours : hours.toNat = hours'.toNat := by omega
  simp only [mk.injEq]
  exact ⟨hnegative, UInt32.toNat_inj.mp hdays, UInt8.toNat_inj.mp hhours,
    UInt8.toNat_inj.mp hminutes, UInt8.toNat_inj.mp hseconds, UInt32.toNat_inj.mp hmicro⟩

/-! Fractions. -/

/-- The text has no fraction for zero, and else a point with six digits behind it that spell the
    number. -/
def SixDigits (text : String) (micro : Nat) : Prop :=
  if micro = 0 then '.' ∉ text.toList
  else ∃ front digits, text.toList = front ++ '.' :: digits ∧ '.' ∉ front ∧
    digits.length = 6 ∧ natural? digits = some micro

theorem point_not_mem_padded (width n : Nat) : '.' ∉ (padded width n).toList := by
  intro h
  have hdigit := List.all_eq_true.mp (isDigit_padded width n) '.' h
  cases hdigit

/-- Behind a text without a point. -/
theorem sixDigits_fraction {front : String} {micro : Nat} (hfront : '.' ∉ front.toList)
    (h : micro < 1000000) : SixDigits (front ++ fraction micro) micro := by
  unfold SixDigits fraction
  split
  · rwa [String.append_empty]
  · refine ⟨front.toList, (padded 6 micro).toList, ?_, hfront, length_padded (by decide) h,
      natural?_padded 6 micro⟩
    rw [String.toList_append, String.toList_append]
    rfl

theorem sixDigits_date {d : Date} (h : d.micro.toNat < 1000000) :
    SixDigits d.text d.micro.toNat := by
  have hmicro := d.micro_time?
  rw [Date.text_eq]
  cases htime : d.time? with
  | none =>
    rw [htime, Option.elim_none] at hmicro
    rw [SixDigits, if_pos hmicro.symm]
    simp [Sql.part, String.toList_append, point_not_mem_padded]
  | some t =>
    rw [htime, Option.elim_some] at hmicro
    rw [← hmicro] at h ⊢
    simp only [Sql.part, Time.text, ← String.append_assoc]
    refine sixDigits_fraction ?_ h
    simp [clock, String.toList_append, point_not_mem_padded]

theorem sixDigits_duration {d : Duration} (h : d.micro.toNat < 1000000) :
    SixDigits d.text d.micro.toNat := by
  rw [Duration.text_eq, Time.text, ← String.append_assoc]
  refine sixDigits_fraction ?_ h
  cases d.negative <;> simp [clock, String.toList_append, point_not_mem_padded]

/-- What the server sends as a date or as a duration is known from the text that stands for it. A
    date is read back with all that it holds, so that two dates never have the same text. A
    duration is read back with its sign and its time, of which the hours are the exact sum of its
    hours and those of its days, so that two durations of fewer than 24 hours beside their days
    never have the same text. A fraction of a second is six digits, and none is written for zero. -/
theorem times_read_back :
    (∀ d : Date, ∃ text, (Sent.date d).value = .text text ∧ Date.read.parse text = some d ∧
      (d.micro.toNat < 1000000 → SixDigits text d.micro.toNat)) ∧
    (∀ d e : Date, (Sent.date d).value = (Sent.date e).value → d = e) ∧
    (∀ d : Duration, ∃ text, (Sent.duration d).value = .text text ∧
      Duration.read.parse text = some (d.negative, ⟨d.days.toNat * 24 + d.hours.toNat,
        d.minutes.toNat, d.seconds.toNat, d.micro.toNat⟩) ∧
      (d.micro.toNat < 1000000 → SixDigits text d.micro.toNat)) ∧
    (∀ d e : Duration, d.hours.toNat < 24 → e.hours.toNat < 24 →
      (Sent.duration d).value = (Sent.duration e).value → d = e) := by
  refine ⟨fun d => ⟨d.text, rfl, parse_date d, sixDigits_date⟩, fun d e h => ?_,
    fun d => ⟨d.text, rfl, parse_duration d, sixDigits_duration⟩, fun d e hd he h => ?_⟩
  · have htext : d.text = e.text := Value.text.inj h
    have hread := parse_date d
    rw [htext, parse_date e] at hread
    exact (Option.some.inj hread).symm
  · have htext : d.text = e.text := Value.text.inj h
    have hread := parse_duration d
    rw [htext, parse_duration e] at hread
    exact Duration.eq_of_time hd he (Option.some.inj hread).symm

/-- A negative duration of the most days that there are, and two that differ in days and hours. -/
theorem times_read_back_longest :
    (∃ text, (Sent.duration ⟨true, 4294967295, 23, 0, 7, 500⟩).value = .text text ∧
      Duration.read.parse text = some (true, ⟨103079215103, 0, 7, 500⟩) ∧
      500 < 1000000 ∧ SixDigits text 500) ∧
    (1 < 24 ∧ 23 < 24) ∧
    (Sent.duration ⟨false, 1, 1, 0, 0, 0⟩).value ≠
      (Sent.duration ⟨false, 0, 23, 0, 0, 0⟩).value := by
  obtain ⟨-, -, hduration, hdistinct⟩ := times_read_back
  obtain ⟨text, hvalue, hread, hdigits⟩ := hduration ⟨true, 4294967295, 23, 0, 7, 500⟩
  have hne : (⟨false, 1, 1, 0, 0, 0⟩ : Duration) ≠ ⟨false, 0, 23, 0, 0, 0⟩ := by decide
  exact ⟨⟨text, hvalue, hread, by decide, hdigits (by decide)⟩, by decide,
    mt (hdistinct _ _ (by decide) (by decide)) hne⟩

/-- A day is not told from 24 hours. -/
example : (⟨false, 1, 0, 0, 0, 0⟩ : Duration).text = (⟨false, 0, 24, 0, 0, 0⟩ : Duration).text := by
  decide

end SqlBatch.MySql
