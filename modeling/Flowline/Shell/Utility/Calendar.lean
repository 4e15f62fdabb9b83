import Flowline.Shell.Utility.Listing

/-!
# Dates

`date`: the time of the system, or another one, written as a format says.  All times are those of Greenwich.
-/

namespace Flowline.Shell

namespace Calendar

/-- A time, taken apart. -/
structure Moment where
  seconds : Nat
  nanos : Nat

namespace Moment

variable (m : Moment)

def days : Nat := m.seconds / 86400

def year : Nat := (dateOf m.days).1

def month : Nat := (dateOf m.days).2.1

def day : Nat := (dateOf m.days).2.2

def hour : Nat := m.seconds / 3600 % 24

def minute : Nat := m.seconds / 60 % 60

def second : Nat := m.seconds % 60

/-- The day of the week, Sunday first. -/
def weekday : Nat := (m.days + 4) % 7

/-- The day of the year, from 0 on. -/
def yearDay : Nat := m.days - daysOf m.year 1 1

/-- The year and the week of it, by weeks that begin on Monday and belong to the year of their Thursday. -/
def weekOfYear : Nat × Nat :=
  let thursday := m.days + 3 - (m.weekday + 6) % 7
  let year := (dateOf thursday).1
  (year, (thursday - daysOf year 1 1) / 7 + 1)

end Moment

def dayNames : List String := ["Sunday", "Monday", "Tuesday", "Wednesday", "Thursday", "Friday", "Saturday"]

def longMonthNames : List String := ["January", "February", "March", "April", "May", "June", "July", "August",
  "September", "October", "November", "December"]

def zeros (width n : Nat) : String :=
  let s := toString n
  String.ofList (List.replicate (width - s.length) '0') ++ s

/-- The hour on a dial of twelve. -/
def Moment.dialHour (m : Moment) : Nat := if m.hour % 12 = 0 then 12 else m.hour % 12

/-- A field as its number, its usual width and what usually fills it, or as a text. -/
inductive Field
  | number (n width : Nat) (fill : Char)
  | text (s : String)

/-- What a letter of a format stands for, if it stands for one thing. -/
def Moment.field? (m : Moment) (c : Char) : Option Field :=
  let two (n : Nat) : Option Field := some (.number n 2 '0')
  let name (names : List String) (i : Nat) : String := names[i]?.getD ""
  let short (s : String) : Option Field := some (.text (String.ofList (s.toList.take 3)))
  let (weekYear, week) := m.weekOfYear
  match c with
  | 'Y' => some (.number m.year 4 '0')
  | 'm' => two m.month
  | 'd' => two m.day
  | 'e' => some (.number m.day 2 ' ')
  | 'H' => two m.hour
  | 'I' => two m.dialHour
  | 'k' => some (.number m.hour 2 ' ')
  | 'l' => some (.number m.dialHour 2 ' ')
  | 'M' => two m.minute
  | 'S' => two m.second
  | 's' => some (.number m.seconds 1 '0')
  | 'j' => some (.number (m.yearDay + 1) 3 '0')
  | 'u' => some (.number (if m.weekday = 0 then 7 else m.weekday) 1 '0')
  | 'w' => some (.number m.weekday 1 '0')
  | 'y' => two (m.year % 100)
  | 'C' => two (m.year / 100)
  | 'g' => two (weekYear % 100)
  | 'G' => some (.number weekYear 4 '0')
  | 'V' => two week
  | 'U' => two ((m.yearDay + 7 - m.weekday) / 7)
  | 'W' => two ((m.yearDay + 7 - (m.weekday + 6) % 7) / 7)
  | 'q' => some (.number ((m.month + 2) / 3) 1 '0')
  | 'a' => short (name dayNames m.weekday)
  | 'A' => some (.text (name dayNames m.weekday))
  | 'b' => short (name longMonthNames (m.month - 1))
  | 'h' => short (name longMonthNames (m.month - 1))
  | 'B' => some (.text (name longMonthNames (m.month - 1)))
  | 'p' => some (.text (if m.hour < 12 then "AM" else "PM"))
  | 'P' => some (.text (if m.hour < 12 then "am" else "pm"))
  | 'Z' => some (.text "UTC")
  | 'z' => some (.text "+0000")
  | 'n' => some (.text "\n")
  | 't' => some (.text "\t")
  | _ => none

/-- The format that a letter is short for. -/
def longForm? (c : Char) : Option String :=
  match c with
  | 'F' => some "%Y-%m-%d"
  | 'T' => some "%H:%M:%S"
  | 'X' => some "%H:%M:%S"
  | 'D' => some "%m/%d/%y"
  | 'x' => some "%m/%d/%y"
  | 'R' => some "%H:%M"
  | 'r' => some "%I:%M:%S %p"
  | 'c' => some "%a %b %e %H:%M:%S %Y"
  | _ => none

/-- A field as flags and a width ask for it. -/
def Field.write (flags : List Char) (width : Option Nat) : Field → String
  | .number n usual fill =>
    let flag? := flags.reverse.find? fun c => c = '-' || c = '_' || c = '0'
    match flag? with
    | some '-' => toString n
    | some '_' => padLeft (width.getD usual) (toString n)
    | some _ => zeros (width.getD usual) n
    | none => if fill = '0' then zeros (width.getD usual) n else padLeft (width.getD usual) (toString n)
  | .text s =>
    let s := if flags.contains '^' then String.ofList (s.toList.map Char.toUpper) else s
    padLeft (width.getD 0) s

/-- A moment as a format says. -/
def render (m : Moment) : Nat → List Char → String
  | 0, _ => ""
  | _, [] => ""
  | fuel + 1, '%' :: cs =>
    let flags := cs.takeWhile fun c => "-_0^#".toList.contains c
    let digits := (cs.drop flags.length).takeWhile Char.isDigit
    let width := if digits.isEmpty then none else some (Text.digitsValue digits)
    match cs.drop (flags.length + digits.length) with
    | [] => "%" ++ String.ofList cs
    | '%' :: rest => "%" ++ render m fuel rest
    | ':' :: 'z' :: rest => "+00:00" ++ render m fuel rest
    | 'N' :: rest =>
      let all := zeros 9 m.nanos
      String.ofList (all.toList.take (width.getD 9)) ++ render m fuel rest
    | c :: rest =>
      match m.field? c, longForm? c with
      | some f, _ => f.write flags width ++ render m fuel rest
      | none, some f => padLeft (width.getD 0) (render m fuel f.toList) ++ render m fuel rest
      | none, none => "%" ++ String.ofList (flags ++ digits ++ [c]) ++ render m fuel rest
  | fuel + 1, c :: cs => String.ofList [c] ++ render m fuel cs

/-! ## Reading dates -/

/-- Numbers with a character between them. -/
def numbers? (stop : Char) (text : String) : Option (List Nat) :=
  (Text.split stop text).mapM fun part => if part.toList.all Char.isDigit then part.toNat? else none

/-- The units of time that a date can be moved by, in seconds. -/
def unit? (word : String) : Option Nat :=
  let word := if word.toList.getLast? = some 's' && 1 < word.length then String.ofList word.toList.dropLast else word
  match word with
  | "sec" => some 1
  | "second" => some 1
  | "min" => some 60
  | "minute" => some 60
  | "hour" => some 3600
  | "day" => some 86400
  | "week" => some 604800
  | "fortnight" => some 1209600
  | _ => none

/-- The months in a unit of time, if it is made of months. -/
def months? (word : String) : Option Int :=
  if word = "month" || word = "months" then some 1
  else if word = "year" || word = "years" then some 12
  else none

/-- A time some months later, on the same day of the month. -/
def laterByMonths (t n : Int) : Int :=
  let (year, month, day) := dateOf (t / 86400).toNat
  let month := (year : Int) * 12 + (month - 1) + n
  daysOf (month / 12).toNat ((month % 12).toNat + 1) 1 * 86400 + (day - 1) * 86400 + t % 86400

/-- The seconds that the words of a date come to, given the seconds up to now. -/
def ofWords : Nat → List String → Int → Option Int
  | 0, _, _ => none
  | _, [], t => some t
  | fuel + 1, word :: rest, t =>
    let date? := match numbers? '-' word with
      | some [y, m, d] => if 1 ≤ m && m ≤ 12 && dateOf (daysOf y m d) = (y, m, d) then some (daysOf y m d) else none
      | _ => none
    let clock? := match numbers? ':' word with
      | some [h, m] => if h < 24 && m < 60 then some (h * 3600 + m * 60) else none
      | some [h, m, s] => if h < 24 && m < 60 && s < 61 then some (h * 3600 + m * 60 + s) else none
      | _ => none
    match word, date?, clock? with
    | _, some d, _ => ofWords fuel rest (d * 86400)
    | _, none, some s => ofWords fuel rest ((t / 86400) * 86400 + s)
    | "now", _, _ => ofWords fuel rest t
    | "today", _, _ => ofWords fuel rest t
    | "UTC", _, _ => ofWords fuel rest t
    | "Z", _, _ => ofWords fuel rest t
    | "GMT", _, _ => ofWords fuel rest t
    | "yesterday", _, _ => ofWords fuel rest (t - 86400)
    | "tomorrow", _, _ => ofWords fuel rest (t + 86400)
    | "next", _, _ => ofWords fuel ("+1" :: rest) t
    | "last", _, _ => ofWords fuel ("-1" :: rest) t
    | "+", _, _ => match rest with
      | n :: rest => ofWords fuel (("+" ++ n) :: rest) t
      | [] => none
    | "-", _, _ => match rest with
      | n :: rest => ofWords fuel (("-" ++ n) :: rest) t
      | [] => none
    | word, _, _ =>
      match integer? word, rest with
      | some n, unit :: rest =>
        let n := if rest.head? = some "ago" then -n else n
        let rest := if rest.head? = some "ago" then rest.drop 1 else rest
        match unit? unit, months? unit with
        | some s, _ => ofWords fuel rest (t + n * s)
        | none, some m => ofWords fuel rest (laterByMonths t (n * m))
        | none, none => none
      | _, _ => none

/-- The moment that a text denotes. -/
def parse? (now : Moment) (text : String) : Option Moment :=
  match text.toList with
  | '@' :: cs =>
    let whole := cs.takeWhile Char.isDigit
    let rest := cs.drop whole.length
    let fraction := (rest.drop 1).take 9
    if whole.isEmpty then none
    else if rest.isEmpty then some ⟨Text.digitsValue whole, 0⟩
    else if rest.head? = some '.' && fraction.all Char.isDigit then
      some ⟨Text.digitsValue whole, Text.digitsValue fraction * Nat.pow 10 (9 - fraction.length)⟩
    else none
  | cs =>
    let spaced := cs.flatMap fun c => if c = 'T' && cs.any Char.isDigit && ! (cs.contains 'U') then [' '] else
      if c = 'Z' then [' ', 'Z'] else [c]
    let words := (Text.split ' ' (String.ofList spaced)).filter (· ≠ "")
    let hasDate := words.any fun w => match numbers? '-' w with
      | some [_, _, _] => true
      | _ => false
    let isPlain := ! words.isEmpty && ! hasDate && words.all fun w => ! w.toList.contains ':'
    match ofWords (4 * words.length + 4) words now.seconds with
    | some t => if 0 ≤ t then some ⟨t.toNat, if isPlain then now.nanos else 0⟩ else none
    | none => if text = "" then some ⟨now.seconds / 86400 * 86400, 0⟩ else none

end Calendar

namespace Exec

open Calendar

/-- The format that the options ask for. -/
def dateFormat (a : Arguments) : String :=
  let precise (start : String) : String → String
    | "hours" => start ++ "%H%:z"
    | "minutes" => start ++ "%H:%M%:z"
    | "seconds" => start ++ "%H:%M:%S%:z"
    | "ns" => start ++ "%H:%M:%S,%N%:z"
    | _ => "%Y-%m-%d"
  match a.get? 'I', a.get? '\x01' with
  | some p, _ => precise "%Y-%m-%dT" p
  | none, some p => precise "%Y-%m-%d " p
  | none, none => if a.has 'R' then "%a, %d %b %Y %H:%M:%S %z" else "%a %b %e %H:%M:%S %Z %Y"

def date (args : List String) : Exec Unit :=
  let names := [("date", 'd'), ("iso-8601", 'I'), ("reference", 'r'), ("rfc-email", 'R'), ("set", 's'), ("universal", 'u'),
    ("utc", 'u'), ("uct", 'u'), ("rfc-3339", '\x01')]
  withArguments { letters := "d:I::r:Rs:u\x01:", names } 1 args fun a => do
    let clock := (← world).clock
    let now : Moment := ⟨clock / 1000, clock % 1000 * 1000000⟩
    let moment? ← match a.get? 'd', a.get? 'r' with
      | some text, _ => pure (parse? now text)
      | none, some name => do
        match ← nodeAt? true name with
        | some n => pure (some ⟨n.time / 1000, n.time % 1000 * 1000000⟩)
        | none =>
          complain (Quotation.whereNeeded name ++ ": " ++ OsError.notFound.text)
          status 1
          return
      | none, none => pure (some now)
    match a.operands with
    | _ :: o :: _ => misuse ("extra operand " ++ Quotation.always o) 1
    | operands =>
      match operands.head?, moment? with
      | _, none =>
        complain ("invalid date " ++ Quotation.always ((a.get? 'd').getD ""))
        status 1
      | some o, some m =>
        match o.toList with
        | '+' :: format => print (render m (format.length + 32) format ++ "\n")
        | _ =>
          complain ("invalid date " ++ Quotation.always o)
          status 1
      | none, some m =>
        let format := (dateFormat a).toList
        print (render m (format.length + 32) format ++ "\n")

end Exec

end Flowline.Shell
