/-!
# DosTime — the clock of archive entries

Two 16-bit words hold a date from 1980 on and a time in steps of two seconds.  `DosTime.ofWords?`
refuses words that are no date, and `DosTime.unixSeconds?` gives the seconds since 1970.  A year of
1980 counts as no time at all: it is what tools without a clock write.
-/

namespace OfficePictures
namespace Archive

/-- A date of the calendar with a time of day. -/
structure DosTime where
  year : Nat
  month : Nat
  day : Nat
  hour : Nat
  minute : Nat
  second : Nat
  deriving DecidableEq, Repr

namespace DosTime

/-! ## Calendar -/

def isLeap (year : Nat) : Bool :=
  year % 4 = 0 && (year % 100 ≠ 0 || year % 400 = 0)

def monthLengths (year : Nat) : List Nat :=
  [31, if isLeap year then 29 else 28, 31, 30, 31, 30, 31, 31, 30, 31, 30, 31]

/-- The days before a year, counted from the year 1. -/
def daysBefore (year : Nat) : Nat :=
  let full := year - 1
  365 * full + full / 4 - full / 100 + full / 400

/-! ## Words -/

/-- The time that two words tell, if they tell one; a sixtieth second is taken back to the step
before. -/
def ofWords? (date time : Nat) : Option DosTime :=
  let year := 1980 + date / 512
  let month := date / 32 % 16
  let day := date % 32
  let hour := time / 2048
  let minute := time / 32 % 64
  let second := 2 * (time % 32)
  let isDate :=
    match month with
    | 0 => false
    | index + 1 =>
        match (monthLengths year)[index]? with
        | none => false
        | some length => 1 ≤ day && day ≤ length
  if isDate && hour < 24 && minute < 60 && second ≤ 60 then
    some ⟨year, month, day, hour, minute, min second 58⟩
  else
    none

/-- The seconds from the start of 1970 to the given time, if the time counts. -/
def unixSeconds? (time : DosTime) : Option Int :=
  if time.year ≤ 1980 then
    none
  else
    let days :=
      daysBefore time.year - daysBefore 1970 +
        ((monthLengths time.year).take (time.month - 1)).foldl (· + ·) 0 + (time.day - 1)
    some (((days * 24 + time.hour) * 60 + time.minute) * 60 + time.second : Nat)

end DosTime
end Archive
end OfficePictures
