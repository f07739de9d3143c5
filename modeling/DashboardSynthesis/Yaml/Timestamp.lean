import DashboardSynthesis.Yaml.Tag

/-!
# Dates and times

A timestamp is a date, or a date with a time of day and perhaps a zone.  Only dates that exist are
accepted, and times from midnight up to the second before the next one.
-/

namespace DashboardSynthesis
namespace Yaml

/-- A time of day, and the distance of its zone in minutes if a zone is given. -/
structure TimeOfDay where
  hour : Nat
  minute : Nat
  second : Nat
  microsecond : Nat
  zone : Option Int
  deriving DecidableEq, Repr

/-- A date, perhaps with a time of day. -/
structure Timestamp where
  year : Nat
  month : Nat
  day : Nat
  time : Option TimeOfDay
  deriving DecidableEq, Repr

namespace Timestamp

/-- Does a year have a day more than usual? -/
def isLeap (year : Nat) : Bool := year % 4 = 0 && (year % 100 ≠ 0 || year % 400 = 0)

/-- The number of days of a month. -/
def daysIn (year month : Nat) : Nat :=
  if month = 2 then if isLeap year then 29 else 28
  else if month ∈ [4, 6, 9, 11] then 30
  else 31

/-- Checks that a date exists. -/
def checkDate (year month day : Nat) : Except ScalarDefect Unit :=
  if year = 0 then .error (.yearOutOfRange year)
  else if month = 0 || 12 < month then .error .monthOutOfRange
  else if day = 0 || daysIn year month < day then .error .dayOutOfRange
  else .ok ()

/-- Checks that a time of day exists. -/
def checkTime (hour minute second : Nat) : Except ScalarDefect Unit :=
  if 23 < hour then .error .hourOutOfRange
  else if 59 < minute then .error .minuteOutOfRange
  else if 59 < second then .error .secondOutOfRange
  else .ok ()

/-- The distance of a zone in minutes; it is less than a day. -/
def readZone (sign : Char) (hours : Text) (minutes : Option Text) : Except ScalarDefect Int :=
  let distance : Int := 60 * Text.digitsValue hours + Text.digitsValue (minutes.getD [])
  let signed := if sign = '-' then -distance else distance
  if 24 * 60 ≤ distance then .error (.zoneOutOfRange signed) else .ok signed

/-- The first six digits of a fraction, filled up with zeros. -/
def readFraction (digits : Text) : Nat :=
  let six := digits.take 6
  Text.digitsValue six * Nat.pow 10 (6 - six.length)

/-- The time of day and the zone of written parts. -/
def readTime (hour minute second : Text) (fraction : Option Text)
    (zone : Option (Option (Char × Text × Option Text))) : Except ScalarDefect TimeOfDay := do
  let zone ←
    match zone with
    | none => pure none
    | some none => pure (some 0)
    | some (some (sign, hours, minutes)) => some <$> readZone sign hours minutes
  pure
    { hour := Text.digitsValue hour, minute := Text.digitsValue minute
      second := Text.digitsValue second, microsecond := readFraction (fraction.getD []), zone }

/-- The timestamp that a text denotes. -/
def read (t : Text) : Except ScalarDefect Timestamp := do
  match TimestampText.read? t with
  | none => throw .noTimestamp
  | some p =>
    let year := Text.digitsValue p.year
    let month := Text.digitsValue p.month
    let day := Text.digitsValue p.day
    match p.time with
    | none =>
      checkDate year month day
      pure ⟨year, month, day, none⟩
    | some (hour, minute, second, fraction) =>
      let time ← readTime hour minute second fraction p.zone
      checkDate year month day
      checkTime time.hour time.minute time.second
      pure ⟨year, month, day, some time⟩

/-! ## As text -/

/-- A number with at least `width` digits. -/
def padded (width n : Nat) : Text :=
  let digits := Text.ofNat n
  List.replicate (width - digits.length) (.scalar '0') ++ digits

/-- A zone as a sign, hours and minutes. -/
def zoneText (minutes : Int) : Text :=
  (if minutes < 0 then "-" else "+" : Text) ++ padded 2 (minutes.natAbs / 60) ++
    (.scalar ':' :: padded 2 (minutes.natAbs % 60))

/-- A time of day with its zone. -/
def timeText (time : TimeOfDay) : Text :=
  padded 2 time.hour ++ (.scalar ':' :: padded 2 time.minute) ++
    (.scalar ':' :: padded 2 time.second) ++
    (if time.microsecond = 0 then [] else .scalar '.' :: padded 6 time.microsecond) ++
    (time.zone.map zoneText).getD []

/-- A timestamp as text. -/
def text (t : Timestamp) : Text :=
  padded 4 t.year ++ (.scalar '-' :: padded 2 t.month) ++ (.scalar '-' :: padded 2 t.day) ++
    match t.time with
    | none => []
    | some time => .scalar ' ' :: timeText time

/-- A span of time in minutes, as it is shown inside a list: days, and seconds that are not
negative. -/
def spanText (minutes : Int) : Text :=
  let days := minutes / (24 * 60)
  let seconds := 60 * (minutes % (24 * 60))
  let parts : List Text :=
    (if days = 0 then [] else [("days=" : Text) ++ Text.ofInt days]) ++
      (if seconds = 0 then [] else [("seconds=" : Text) ++ Text.ofInt seconds])
  ("datetime.timedelta(" : Text) ++
    (if parts.isEmpty then ("0" : Text) else Text.joinWith ", " parts) ++ (")" : Text)

/-- A zone as it is shown inside a list. -/
def innerZone (minutes : Int) : Text :=
  if minutes = 0 then "datetime.timezone.utc"
  else ("datetime.timezone(" : Text) ++ spanText minutes ++ (")" : Text)

/-- A timestamp as it is shown inside a list. -/
def inner (t : Timestamp) : Text :=
  let numbers (ns : List Nat) : List Text := ns.map Text.ofNat
  match t.time with
  | none =>
    ("datetime.date(" : Text) ++ Text.joinWith ", " (numbers [t.year, t.month, t.day]) ++
      (")" : Text)
  | some time =>
    let small :=
      if time.microsecond ≠ 0 then [time.second, time.microsecond]
      else if time.second ≠ 0 then [time.second]
      else []
    let zone :=
      match time.zone with
      | none => []
      | some minutes => [("tzinfo=" : Text) ++ innerZone minutes]
    ("datetime.datetime(" : Text) ++
      Text.joinWith ", "
        (numbers ([t.year, t.month, t.day, time.hour, time.minute] ++ small) ++ zone) ++
      (")" : Text)

end Timestamp

end Yaml
end DashboardSynthesis
