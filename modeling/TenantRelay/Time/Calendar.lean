/-! Days of the Gregorian calendar, extended to all years that are kept. -/

namespace TenantRelay

structure Day where
  year : Int
  month : Nat
  day : Nat
deriving DecidableEq

namespace Day

def isLeap (year : Int) : Bool :=
  year % 4 == 0 && (year % 100 != 0 || year % 400 == 0)

def lengthOf (year : Int) (month : Nat) : Nat :=
  if month == 2 then (if isLeap year then 29 else 28)
  else if month == 4 || month == 6 || month == 9 || month == 11 then 30
  else 31

def firstYear : Int := -262143

def lastYear : Int := 262142

def valid (d : Day) : Bool :=
  firstYear ≤ d.year && d.year ≤ lastYear && 1 ≤ d.month && d.month ≤ 12 && 1 ≤ d.day &&
    d.day ≤ lengthOf d.year d.month

def next (d : Day) : Day :=
  if d.day < lengthOf d.year d.month then { d with day := d.day + 1 }
  else if d.month < 12 then ⟨d.year, d.month + 1, 1⟩
  else ⟨d.year + 1, 1, 1⟩

def previous (d : Day) : Day :=
  if 1 < d.day then { d with day := d.day - 1 }
  else if 1 < d.month then ⟨d.year, d.month - 1, lengthOf d.year (d.month - 1)⟩
  else ⟨d.year - 1, 12, 31⟩

end Day
end TenantRelay
