namespace StorageController.Timestamp

/-- Year, month and day of a number of days since 1970 in the Gregorian calendar. The year of the
computation starts in March, so that a leap day is its last day. -/
def date (days : Int) : Int × Int × Int :=
  let shifted := days + 719468
  let era := shifted / 146097
  let dayOfEra := shifted % 146097
  let yearOfEra := (dayOfEra - dayOfEra / 1460 + dayOfEra / 36524 - dayOfEra / 146096) / 365
  let dayOfYear := dayOfEra - (365 * yearOfEra + yearOfEra / 4 - yearOfEra / 100)
  let monthFromMarch := (5 * dayOfYear + 2) / 153
  let day := dayOfYear - (153 * monthFromMarch + 2) / 5 + 1
  let month := if monthFromMarch < 10 then monthFromMarch + 3 else monthFromMarch - 9
  let year := yearOfEra + era * 400 + (if month ≤ 2 then 1 else 0)
  (year, month, day)

def padded (width : Nat) (n : Int) : List Char :=
  let digits := Nat.toDigits 10 n.toNat
  List.replicate (width - digits.length) '0' ++ digits

/-- The text of a point in time, given in microseconds since 1970. -/
def text (microseconds : Int) : String :=
  let seconds := microseconds / 1000000
  let fraction := microseconds % 1000000
  let time := seconds % 86400
  let (year, month, day) := date (seconds / 86400)
  String.ofList
    (padded 4 year ++ '-' :: padded 2 month ++ '-' :: padded 2 day ++
      'T' :: padded 2 (time / 3600) ++ ':' :: padded 2 (time / 60 % 60) ++
      ':' :: padded 2 (time % 60) ++
      (if fraction = 0 then [] else '.' :: padded 6 fraction) ++ "+00:00".toList)

end StorageController.Timestamp
