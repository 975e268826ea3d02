import SqlBatch.Text.Utf8
import SqlBatch.Result.Row
/- What a MySQL server sends for a value, and the value it stands for. Dates and
   times become texts: the parts in fixed width, a part too large for it in full,
   and only what is not zero of the time of a date and of a fraction.
   Correspondence:
     `ValueWrap::try_from`   ↔ `Sent.value`, with `Date.text` and `Duration.text`
     `RowWrap::from_row_opt` ↔ `row?` -/
namespace SqlBatch.MySql

/-- A date with the time of day. -/
structure Date where
  year : UInt16
  month : UInt8
  day : UInt8
  hour : UInt8
  minute : UInt8
  second : UInt8
  micro : UInt32
  deriving DecidableEq, Repr

/-- A signed duration. -/
structure Duration where
  negative : Bool
  days : UInt32
  hours : UInt8
  minutes : UInt8
  seconds : UInt8
  micro : UInt32
  deriving DecidableEq, Repr

/-- A value as the server sends it. -/
inductive Sent where
  | null
  | bytes (bytes : List UInt8)
  | signed (value : Int64)
  | unsigned (value : UInt64)
  /-- A single precision number by its bits. -/
  | single (bits : UInt32)
  | double (value : Binary64)
  | date (date : Date)
  | duration (duration : Duration)

/-- A number with zeros before it up to the given width. -/
def padded (width n : Nat) : String :=
  let ds := (toString n).toList
  String.ofList (List.replicate (width - ds.length) '0' ++ ds)

/-- A time of day, or a duration, to the second. -/
def clock (hours minutes seconds : Nat) : String :=
  padded 2 hours ++ ":" ++ padded 2 minutes ++ ":" ++ padded 2 seconds

/-- The fraction of a second, nothing for none. -/
def fraction (micro : Nat) : String :=
  if micro = 0 then "" else "." ++ padded 6 micro

/-- The text of a date. -/
def Date.text (d : Date) : String :=
  padded 4 d.year.toNat ++ "-" ++ padded 2 d.month.toNat ++ "-" ++ padded 2 d.day.toNat ++
    if d.hour = 0 ∧ d.minute = 0 ∧ d.second = 0 ∧ d.micro = 0 then ""
    else " " ++ clock d.hour.toNat d.minute.toNat d.second.toNat ++ fraction d.micro.toNat

/-- The hours of a duration and of its days together. -/
def Duration.totalHours (d : Duration) : UInt64 := d.days.toUInt64 * 24 + d.hours.toUInt64

/-- The text of a duration, its days as hours. -/
def Duration.text (d : Duration) : String :=
  (if d.negative then "-" else "") ++
    clock d.totalHours.toNat d.minutes.toNat d.seconds.toNat ++ fraction d.micro.toNat

/-- The value that was sent. -/
def Sent.value : Sent → Value
  | .null => .null
  | .bytes bs => .blob bs
  | .signed n => .signed n
  | .unsigned n => .unsigned n
  | .single bits => .float (.ofSingleBits bits.toNat)
  | .double x => .float x
  | .date d => .text d.text
  | .duration d => .text d.text

/-- The row of names, as bytes, and of what was sent under them. There is none if a value was
    taken out of it before. -/
def row? (names : List (List UInt8)) (values : List (Option Sent)) : Option Row :=
  (values.mapM fun (v : Option Sent) => v.map Sent.value).map fun vs =>
    ⟨names.map Text.ofUtf8Lossy, vs⟩

/-- There is a row as long as no value was taken out of it. -/
theorem row?_untaken (names : List (List UInt8)) (values : List Sent) :
    row? names (values.map some) =
      some ⟨names.map Text.ofUtf8Lossy, values.map Sent.value⟩ := by
  have hvalues : (values.map some).mapM (fun (v : Option Sent) => v.map Sent.value) =
      some (values.map Sent.value) := by
    induction values with
    | nil => rfl
    | cons v values ih => simp [ih]
  rw [row?, hvalues, Option.map_some]

end SqlBatch.MySql
