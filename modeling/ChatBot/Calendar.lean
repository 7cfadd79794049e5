/-
  ChatBot.Calendar — instants and the proleptic Gregorian calendar, counted in months.

  A month is a number: twelve times the year plus the months since January. `monthStart`
  is the day on which a month begins, `monthOf` the month that holds a day, and every
  question about dates is answered by these two. Months begin on the first of March of a
  year shifted by two, so that the leap day is the last day of the shifted year.

  Instants are supported from the year -262143 to the year 262142; going back farther
  gives no instant.
-/

namespace ChatBot

/-- Seconds since 1970-01-01 00:00:00 UTC. -/
abbrev Instant := Int

namespace Calendar

def secondsPerDay : Int := 86400

/-- The day, counted from 1970-01-01, on which a month begins. -/
def monthStart (month : Int) : Int :=
  let year := (month - 2) / 12
  let shifted := (month - 2) % 12
  365 * year + year / 4 - year / 100 + year / 400 + (153 * shifted + 2) / 5 - 719468

def monthLength (month : Int) : Int := monthStart (month + 1) - monthStart month

/-- The month that holds a day. The mean month (400 years are 146097 days) is at most
    one off. -/
def monthOf (day : Int) : Int :=
  let guess := (day + 719468) * 4800 / 146097 + 2
  if day < monthStart guess then guess - 1
  else if monthStart (guess + 1) ≤ day then guess + 1
  else guess

def firstMonth : Int := -262143 * 12

def lastMonth : Int := 262142 * 12 + 11

def earliest : Instant := monthStart firstMonth * secondsPerDay

def latest : Instant := monthStart (lastMonth + 1) * secondsPerDay - 1

/-- An instant some seconds back, if it is supported. -/
def minusSeconds (now : Instant) (seconds : Nat) : Option Instant :=
  let t := now - seconds
  if t < earliest || latest < t then none else some t

/-- The same time of day some months back, if it is supported; the last day of a shorter
    month stands for the days that it lacks. -/
def minusMonths (now : Instant) (months : Nat) : Option Instant :=
  let day := now / secondsPerDay
  let month := monthOf day
  let target := month - months
  if target < firstMonth || lastMonth < target then none
  else
    let offset := min (day - monthStart month) (monthLength target - 1)
    some ((monthStart target + offset) * secondsPerDay + now % secondsPerDay)

/-! ## Writing -/

/-- A number of at least `width` digits. -/
def padded (width n : Nat) : String :=
  let cs := Nat.toDigits 10 n
  String.ofList (List.replicate (width - cs.length) '0' ++ cs)

/-- A year of four digits, with a sign outside 0 to 9999. -/
def yearText (year : Int) : String :=
  if 0 ≤ year && year ≤ 9999 then padded 4 year.toNat
  else (if year < 0 then "-" else "+") ++ padded 4 year.natAbs

/-- An instant as date, hour and minute, such as `2024-06-15 12:00 UTC`. -/
def minuteText (t : Instant) : String :=
  let day := t / secondsPerDay
  let time := (t % secondsPerDay).toNat
  let month := monthOf day
  yearText (month / 12) ++ "-" ++ padded 2 ((month % 12).toNat + 1) ++ "-" ++
    padded 2 ((day - monthStart month).toNat + 1) ++ " " ++ padded 2 (time / 3600) ++ ":" ++
    padded 2 (time / 60 % 60) ++ " UTC"

end Calendar

end ChatBot
