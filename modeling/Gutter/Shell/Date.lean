import Gutter.Shell.Number

/-!
# Dates

Moments are seconds since the start of the year 1970. Dates belong to the calendar that all years
use, and all times are those of the zone of Greenwich.
-/

namespace Gutter.Shell

/-- A day of the calendar, and a time of that day in seconds. -/
structure Date where
  year : Int
  month : Nat
  day : Nat
  seconds : Nat := 0
  deriving DecidableEq, Repr

namespace Date

/-- The number of a day, counted from the first day of the year 1970. Years start in March here, so
that the day that only some years have is their last one. -/
def dayNumber (year : Int) (month : Nat) (day : Int) : Int :=
  let y := if month ≤ 2 then year - 1 else year
  let m : Int := ((month + 9) % 12 : Nat)
  365 * y + y / 4 - y / 100 + y / 400 + (153 * m + 2) / 5 + (day - 1) - 719468

def ofDayNumber (n : Int) : Int × Nat × Nat :=
  let n := n + 719468
  let era := n / 146097
  let day := (n % 146097).toNat
  let year := (day - day / 1460 + day / 36524 - day / 146096) / 365
  let rest := day - (365 * year + year / 4 - year / 100)
  let month := (5 * rest + 2) / 153
  let date := rest - (153 * month + 2) / 5 + 1
  let m := if month < 10 then month + 3 else month - 9
  (era * 400 + year + if m ≤ 2 then 1 else 0, m, date)

def ofMoment (t : Int) : Date :=
  let (year, month, day) := ofDayNumber (t / 86400)
  ⟨year, month, day, (t % 86400).toNat⟩

def moment (d : Date) : Int := dayNumber d.year d.month d.day * 86400 + d.seconds

def now : Int := 1767225600

def monthNames : List String :=
  ["January", "February", "March", "April", "May", "June", "July", "August", "September",
    "October", "November", "December"]

def dayNames : List String :=
  ["Sunday", "Monday", "Tuesday", "Wednesday", "Thursday", "Friday", "Saturday"]

def weekday (d : Date) : Nat := ((dayNumber d.year d.month d.day + 4) % 7).toNat

def dayOfYear (d : Date) : Nat :=
  (dayNumber d.year d.month d.day - dayNumber d.year 1 1).toNat

/-- The year and the number of a week, which starts on Monday and belongs to the year that has its
Thursday. -/
def week (d : Date) : Int × Nat :=
  let thursday := dayNumber d.year d.month d.day - ((d.weekday + 6) % 7 : Nat) + 3
  let (year, _, _) := ofDayNumber thursday
  (year, (thursday - dayNumber year 1 1).toNat / 7 + 1)

/-! ## Writing -/

def padded (filler : Option Char) (width : Nat) (n : Int) : String :=
  let ds := Nat.toDigits 10 n.natAbs
  let gap := match filler with
    | some c => List.replicate (width - ds.length - if n < 0 then 1 else 0) c
    | none => []
  String.ofList ((if n < 0 then ['-'] else []) ++ gap ++ ds)

/-- What a directive in a format stands for. `filler` is what the format asks for in front of
numbers, if it does. -/
def field (d : Date) (filler : Option (Option Char)) (width : Option Nat) (c : Char) :
    Option String :=
  let hour := d.seconds / 3600
  let minute := d.seconds / 60 % 60
  let number (start : Char) (least : Nat) (n : Int) : Option String :=
    some (padded (filler.getD (some start)) (width.getD least) n)
  let two (n : Nat) : Option String := number '0' 2 n
  let plainTwo (n : Nat) : String := padded (some '0') 2 n
  let name (names : List String) (n : Nat) : String := (names[n]?).getD ""
  let clock := plainTwo hour ++ ":" ++ plainTwo minute ++ ":" ++ plainTwo (d.seconds % 60)
  let year := toString d.year
  let twelve := if hour % 12 = 0 then 12 else hour % 12
  match c with
  | 'a' => some ((name dayNames d.weekday).take 3).toString
  | 'A' => some (name dayNames d.weekday)
  | 'b' | 'h' => some ((name monthNames (d.month - 1)).take 3).toString
  | 'B' => some (name monthNames (d.month - 1))
  | 'c' => some (((name dayNames d.weekday).take 3).toString ++ " " ++
      ((name monthNames (d.month - 1)).take 3).toString ++ " " ++ padded (some ' ') 2 d.day ++ " " ++
      clock ++ " " ++ year)
  | 'C' => number '0' 2 (d.year / 100)
  | 'd' => two d.day
  | 'D' | 'x' => some (plainTwo d.month ++ "/" ++ plainTwo d.day ++ "/" ++
      padded (some '0') 2 (d.year % 100))
  | 'e' => number ' ' 2 d.day
  | 'F' => some (year ++ "-" ++ plainTwo d.month ++ "-" ++ plainTwo d.day)
  | 'g' => number '0' 2 (d.week.1 % 100)
  | 'G' => number '0' 4 d.week.1
  | 'H' => two hour
  | 'I' => two twelve
  | 'j' => number '0' 3 (d.dayOfYear + 1)
  | 'k' => number ' ' 2 hour
  | 'l' => number ' ' 2 twelve
  | 'm' => two d.month
  | 'M' => two minute
  | 'n' => some "\n"
  | 'N' => some (padded (some '0') (width.getD 9) 0)
  | 'p' => some (if hour < 12 then "AM" else "PM")
  | 'P' => some (if hour < 12 then "am" else "pm")
  | 'q' => some (toString ((d.month - 1) / 3 + 1))
  | 'r' => some (plainTwo twelve ++ ":" ++ plainTwo minute ++ ":" ++ plainTwo (d.seconds % 60) ++
      if hour < 12 then " AM" else " PM")
  | 'R' => some (plainTwo hour ++ ":" ++ plainTwo minute)
  | 's' => some (toString d.moment)
  | 'S' => two (d.seconds % 60)
  | 't' => some "\t"
  | 'T' | 'X' => some clock
  | 'u' => some (toString (if d.weekday = 0 then 7 else d.weekday))
  | 'U' => two ((d.dayOfYear + 7 - d.weekday) / 7)
  | 'V' => two d.week.2
  | 'w' => some (toString d.weekday)
  | 'W' => two ((d.dayOfYear + 7 - (d.weekday + 6) % 7) / 7)
  | 'y' => number '0' 2 (d.year % 100)
  | 'Y' => number '0' 4 d.year
  | 'z' => some "+0000"
  | 'Z' => some "UTC"
  | '%' => some "%"
  | _ => none

/-- The text that a format makes of a date. -/
def format (d : Date) : (fuel : Nat) → List Char → List Char
  | 0, cs => cs
  | _, [] => []
  | fuel + 1, '%' :: cs =>
    let flags := cs.takeWhile (· ∈ ['-', '_', '0', '^', '#'])
    let rest := cs.drop flags.length
    let digits := rest.takeWhile Char.isDigit
    let rest := rest.drop digits.length
    let colons := rest.takeWhile (· = ':')
    let filler : Option (Option Char) := (flags.filter (· ∈ ['-', '_', '0'])).getLast?.map fun c =>
      if c = '-' then none else if c = '_' then some ' ' else some '0'
    let width := if digits.isEmpty then none else some (Number.ofDigits 10 digits)
    match rest.drop colons.length with
    | [] => '%' :: cs
    | c :: more =>
      let text := if c = 'z' && !colons.isEmpty then
          some (if colons.length = 1 then "+00:00" else if colons.length = 2 then "+00:00:00"
            else "+00")
        else d.field filler width c
      match text with
      | none => '%' :: flags ++ digits ++ colons ++ c :: format d fuel more
      | some text =>
        let text := if '^' ∈ flags then text.toUpper else text
        let gap := (width.getD 0) - text.length
        let pad := if filler = some (some '0') then '0' else ' '
        List.replicate gap pad ++ text.toList ++ format d fuel more
  | fuel + 1, c :: cs => c :: format d fuel cs

def write (d : Date) (format : String) : String :=
  String.ofList (d.format (format.length + 1) format.toList)

/-! ## Reading -/

/-- A part of a text with a date. -/
inductive Word where
  | number (ds : List Char)
  | name (s : String)
  | sign (c : Char)
  deriving DecidableEq

/-- The parts of a text. -/
def words : (fuel : Nat) → List Char → List Word
  | 0, _ => []
  | _, [] => []
  | fuel + 1, c :: cs =>
    if c.isDigit then
      let ds := (c :: cs).takeWhile Char.isDigit
      .number ds :: words fuel ((c :: cs).drop ds.length)
    else if c.isAlpha then
      let name := (c :: cs).takeWhile Char.isAlpha
      .name (String.ofList (name.map Char.toLower)) :: words fuel ((c :: cs).drop name.length)
    else if c = ' ' || c = '\t' then words fuel cs
    else .sign c :: words fuel cs

/-- What is known of a date while its text is read. -/
structure Draft where
  day : Option (Int × Nat × Nat) := none
  time : Option Nat := none
  weekday : Option Nat := none
  months : Int := 0
  days : Int := 0
  seconds : Int := 0
  zone : Int := 0

namespace Draft

def value (ds : List Char) : Nat := Number.ofDigits 10 ds

/-- The year that digits stand for; two of them stand for one around the year 2000. -/
def yearOf (ds : List Char) : Int :=
  let n := value ds
  if ds.length ≤ 2 then (if n < 69 then 2000 + n else 1900 + n) else n

def placeOf? (names : List String) (s : String) : Option Nat :=
  if s.length < 3 then none
  else names.findIdx? fun name => name.toLower.startsWith s

/-- Adds an amount of a unit. -/
def shift? (amount : Int) (unit : String) (d : Draft) : Option Draft :=
  let unit := if unit.endsWith "s" then (unit.dropEnd 1).toString else unit
  match unit with
  | "year" => some { d with months := d.months + 12 * amount }
  | "month" => some { d with months := d.months + amount }
  | "fortnight" => some { d with days := d.days + 14 * amount }
  | "week" => some { d with days := d.days + 7 * amount }
  | "day" => some { d with days := d.days + amount }
  | "hour" => some { d with seconds := d.seconds + 3600 * amount }
  | "minute" | "min" => some { d with seconds := d.seconds + 60 * amount }
  | "second" | "sec" => some { d with seconds := d.seconds + amount }
  | _ => none

def onDay (year : Int) (month day : Nat) (d : Draft) : Option Draft :=
  if d.day.isSome || month < 1 || 12 < month || day < 1 || 31 < day then none
  else some { d with day := some (year, month, day) }

def atTime (hour minute second : Nat) (half : Option String) (d : Draft) : Option Draft :=
  let hour? := match half with
    | none => some hour
    | some half =>
      if hour < 1 || 12 < hour then none
      else some (hour % 12 + if half = "pm" then 12 else 0)
  hour?.bind fun hour =>
    if d.time.isSome || 23 < hour || 59 < minute || 60 < second then none
    else some { d with time := some (hour * 3600 + minute * 60 + second) }

/-- Reads the parts of a text; an amount of a unit may go back in time. -/
def read : (fuel : Nat) → List Word → Draft → Option Draft
  | 0, _, _ => none
  | _, [], d => some d
  | fuel + 1, ws, d =>
    let amount (n : Int) (unit : String) (rest : List Word) : Option Draft :=
      match rest with
      | .name "ago" :: rest => (d.shift? (-n) unit).bind (read fuel rest)
      | rest => (d.shift? n unit).bind (read fuel rest)
    let halved (rest : List Word) : Option String × List Word :=
      match rest with
      | .name "am" :: rest => (some "am", rest)
      | .name "pm" :: rest => (some "pm", rest)
      | rest => (none, rest)
    let zoned (rest : List Word) (d : Draft) : Option Draft :=
      match rest with
      | .sign s :: .number h :: .sign ':' :: .number m :: rest =>
        let n : Int := value h * 3600 + value m * 60
        if s = '+' || s = '-' then read fuel rest { d with zone := if s = '+' then n else -n }
        else none
      | .sign s :: .number h :: rest =>
        let n : Int := if h.length ≤ 2 then (value h * 3600 : Nat)
          else (value h / 100 * 3600 + value h % 100 * 60 : Nat)
        if s = '+' || s = '-' then read fuel rest { d with zone := if s = '+' then n else -n }
        else none
      | rest => read fuel rest d
    match ws with
    | [] => some d
    | .sign '@' :: .sign '-' :: .number ds :: rest =>
      read fuel rest { d with day := some (1970, 1, 1), time := some 0,
                              seconds := d.seconds - value ds }
    | .sign '@' :: .number ds :: rest =>
      read fuel rest { d with day := some (1970, 1, 1), time := some 0,
                              seconds := d.seconds + value ds }
    | .number y :: .sign '-' :: .number m :: .sign '-' :: .number n :: rest =>
      (d.onDay (yearOf y) (value m) (value n)).bind (read fuel rest)
    | .number a :: .sign '/' :: .number b :: .sign '/' :: .number c :: rest =>
      if a.length = 4 then (d.onDay (value a) (value b) (value c)).bind (read fuel rest)
      else (d.onDay (yearOf c) (value a) (value b)).bind (read fuel rest)
    | .number h :: .sign ':' :: .number m :: .sign ':' :: .number s :: .sign '.' :: .number _ ::
        rest =>
      let (half, rest) := halved rest
      (d.atTime (value h) (value m) (value s) half).bind (zoned rest)
    | .number h :: .sign ':' :: .number m :: .sign ':' :: .number s :: rest =>
      let (half, rest) := halved rest
      (d.atTime (value h) (value m) (value s) half).bind (zoned rest)
    | .number h :: .sign ':' :: .number m :: rest =>
      let (half, rest) := halved rest
      (d.atTime (value h) (value m) 0 half).bind (zoned rest)
    | .number h :: .name "am" :: rest => (d.atTime (value h) 0 0 (some "am")).bind (read fuel rest)
    | .number h :: .name "pm" :: rest => (d.atTime (value h) 0 0 (some "pm")).bind (read fuel rest)
    | .sign ',' :: rest => read fuel rest d
    | .sign '+' :: .number n :: .name unit :: rest => amount (value n) unit rest
    | .sign '-' :: .number n :: .name unit :: rest => amount (-(value n : Int)) unit rest
    | .number n :: .name s :: rest =>
      match placeOf? monthNames s with
      | some m =>
        match rest with
        | .number y :: rest =>
          if y.length = 4 then (d.onDay (yearOf y) (m + 1) (value n)).bind (read fuel rest)
          else (d.onDay (ofMoment now).year (m + 1) (value n)).bind (read fuel (.number y :: rest))
        | rest => (d.onDay (ofMoment now).year (m + 1) (value n)).bind (read fuel rest)
      | none => amount (value n) s rest
    | .number ds :: rest =>
      if ds.length = 8 then
        (d.onDay (value (ds.take 4)) (value ((ds.drop 4).take 2)) (value (ds.drop 6))).bind
          (read fuel rest)
      else if ds.length = 4 && d.day.isSome then
        (d.atTime (value (ds.take 2)) (value (ds.drop 2)) 0 none).bind (read fuel rest)
      else none
    | .name s :: rest =>
      match placeOf? monthNames s, rest with
      | some m, .number n :: .sign ',' :: .number y :: rest
      | some m, .number n :: .number y :: rest =>
        (d.onDay (yearOf y) (m + 1) (value n)).bind (read fuel rest)
      | some m, .number n :: rest =>
        (d.onDay (ofMoment now).year (m + 1) (value n)).bind (read fuel rest)
      | some _, _ => none
      | none, _ =>
        match placeOf? dayNames s with
        | some n => read fuel rest { d with weekday := some n }
        | none =>
          match s, rest with
          | "now", rest | "today", rest | "utc", rest | "gmt", rest | "z", rest | "t", rest =>
            read fuel rest d
          | "yesterday", rest => (d.shift? (-1) "day").bind (read fuel rest)
          | "tomorrow", rest => (d.shift? 1 "day").bind (read fuel rest)
          | "next", .name unit :: rest => amount 1 unit rest
          | "last", .name unit :: rest => amount (-1) unit rest
          | "this", .name unit :: rest => amount 0 unit rest
          | unit, rest => amount 1 unit rest
    | .sign _ :: _ => none

/-- The moment that is meant. Without a time of day it is the start of the day that is given, or the
present time. -/
def moment (d : Draft) : Option Int :=
  let today := ofMoment now
  let (year, month, day) := d.day.getD (today.year, today.month, today.day)
  let isWhole := d.day.isSome || d.weekday.isSome
  let time : Int := d.time.getD (if isWhole then 0 else today.seconds)
  let total := year * 12 + (month - 1 : Nat) + d.months
  let start := dayNumber (total / 12) ((total % 12).toNat + 1) day
  let start := match d.weekday, d.day with
    | some n, none => start + ((n : Int) - (start + 4) % 7) % 7
    | _, _ => start
  let (_, sameMonth, _) := ofDayNumber (dayNumber year month day)
  if sameMonth ≠ month then none
  else some ((start + d.days) * 86400 + time + d.seconds - d.zone)

end Draft

def read? (text : String) : Option Int :=
  (Draft.read (text.length + 1) (words (text.length + 1) text.toList) {}).bind Draft.moment

/-- The moment that a stamp gives: month, day, hour and minute, perhaps with a year in front, and
perhaps with seconds after a point. -/
def readStamp? (text : String) : Option Int :=
  let (main, seconds) := match text.splitOn "." with
    | [main] => (main.toList, some 0)
    | [main, s] => (main.toList,
        if s.length = 2 && s.toList.all Char.isDigit then some (Draft.value s.toList) else none)
    | _ => ([], none)
  let year := match main.length with
    | 8 => some (ofMoment now).year
    | 10 => some (Draft.yearOf (main.take 2))
    | 12 => some (Draft.value (main.take 4) : Int)
    | _ => none
  match year, seconds, (main.drop (main.length - 8)).map fun c => c.toNat - '0'.toNat with
  | some year, some seconds, [a, b, c, d, e, f, g, h] =>
    let month := a * 10 + b
    let day := c * 10 + d
    if !main.all Char.isDigit then none
    else
      ((({} : Draft).onDay year month day).bind
        (Draft.atTime (e * 10 + f) (g * 10 + h) seconds none)).bind Draft.moment
  | _, _, _ => none

end Date

end Gutter.Shell
