import PocketShell.Text.Basic

/-!
Moments of the Gregorian calendar, without a time zone, and the three stamps made of them.
-/

namespace PocketShell

structure Moment where
  year : Nat
  month : Nat
  day : Nat
  hour : Nat
  minute : Nat
  second : Nat
  deriving DecidableEq, Repr, Inhabited

namespace Moment

def isLeap (year : Nat) : Bool := year % 4 == 0 && (year % 100 != 0 || year % 400 == 0)

def monthLengths (year : Nat) : List Nat :=
  [31, if isLeap year then 29 else 28, 31, 30, 31, 30, 31, 31, 30, 31, 30, 31]

/-- Days from the first of January of year 1, a Monday. -/
def dayNumber (m : Moment) : Nat :=
  let before := m.year - 1
  before * 365 + before / 4 - before / 100 + before / 400
    + ((monthLengths m.year).take (m.month - 1)).foldr Nat.add 0 + (m.day - 1)

def weekdayNames : List Text := ["Mon", "Tue", "Wed", "Thu", "Fri", "Sat", "Sun"]

def monthNames : List Text :=
  ["Jan", "Feb", "Mar", "Apr", "May", "Jun", "Jul", "Aug", "Sep", "Oct", "Nov", "Dec"]

def weekday (m : Moment) : Text := (weekdayNames[m.dayNumber % 7]?).getD []

def monthName (m : Moment) : Text := (monthNames[m.month - 1]?).getD []

def twoDigits (n : Nat) : Text := Text.padStart '0' 2 (Text.ofNat n)

/-- As in `Tue Jan 02 2024 03:04:05`. -/
def dateStamp (m : Moment) : Text :=
  m.weekday ++ " " ++ m.monthName ++ " " ++ twoDigits m.day ++ " " ++ Text.ofNat m.year ++ " "
    ++ twoDigits m.hour ++ ":" ++ twoDigits m.minute ++ ":" ++ twoDigits m.second

/-- As in `Jan 2, 03:04 AM`; noon and midnight are hour 12. -/
def listingStamp (m : Moment) : Text :=
  m.monthName ++ " " ++ Text.ofNat m.day ++ ", " ++ twoDigits ((m.hour + 11) % 12 + 1) ++ ":"
    ++ twoDigits m.minute ++ (if m.hour < 12 then " AM" else " PM")

/-- As in `2024-01-02`. -/
def isoDate (m : Moment) : Text :=
  Text.padStart '0' 4 (Text.ofNat m.year) ++ "-" ++ twoDigits m.month ++ "-" ++ twoDigits m.day

end Moment
end PocketShell
