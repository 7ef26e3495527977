import HomeAutomation.Text.Numeral

/-!
# One-minute windows

A time of day that people wrote becomes a window of one minute: from that time to the next minute,
past midnight if need be. The hour and the minute are whole numbers with a colon between them;
what follows a second colon is not looked at. The hour and minute are written back as they were
read, and only the end of the window is brought into the day.
-/

namespace HomeAutomation

open Text

def readClock? (s : String) : Option (Int × Int) :=
  match s.toList.splitOn ':' with
  | hour :: minute :: _ => do return (← readInt? hour, ← readInt? minute)
  | _ => none

def writeClock (hour minute : Int) : String :=
  String.ofList (twoDigits hour ++ ':' :: twoDigits minute)

structure Window where
  start : String
  stop : String
  deriving DecidableEq, Repr

namespace Window

def dayMinutes : Int := 1440

def ofClock (hour minute : Int) : Window :=
  let next := (60 * hour + minute + 1) % dayMinutes
  ⟨writeClock hour minute, writeClock (next / 60) (next % 60)⟩

def ofText? (s : String) : Option Window :=
  (readClock? s).map fun (hour, minute) => ofClock hour minute

end Window

end HomeAutomation
