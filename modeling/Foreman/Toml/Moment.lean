import Foreman.Toml.Value
import Foreman.Text.Number

/-! Points in time: dates, times of day, and both together with or without a distance from universal time. A
reader gives the usual text of what it read, and what follows. -/

namespace Foreman.Toml

open Text (isDigit digitValue)

structure Missing where
  what : String
  expected : String
  deriving DecidableEq, Repr

def number (s : List Char) : Nat := s.foldl (fun n c => n * 10 + digitValue c) 0

structure Part where
  name : String
  width : Nat
  form : String
  deriving DecidableEq, Repr

def Part.year : Part := ⟨"year", 4, "a four-digit year (YYYY)"⟩

def Part.month : Part := ⟨"month", 2, "a two-digit month (MM)"⟩

def Part.day : Part := ⟨"day", 2, "a two-digit day (DD)"⟩

def Part.hour : Part := ⟨"hour", 2, "a two-digit hour (HH)"⟩

def Part.minute : Part := ⟨"minute", 2, "a two-digit minute (MM)"⟩

def Part.second : Part := ⟨"second", 2, "a two-digit second (SS)"⟩

def Part.read (p : Part) (what : String) (s : List Char) : Except Missing (Nat × List Char) :=
  let digits := s.takeWhile isDigit
  if digits.isEmpty then .error ⟨what, p.name⟩
  else if digits.length ≠ p.width then .error ⟨what, p.form⟩
  else .ok (number digits, s.drop p.width)

def sign (what wanted : String) (c : Char) : List Char → Except Missing (List Char)
  | d :: rest => if c = d then .ok rest else .error ⟨what, wanted⟩
  | [] => .error ⟨what, wanted⟩

def isLeapYear (y : Nat) : Bool := y % 4 == 0 && (y % 100 != 0 || y % 400 == 0)

def daysIn (year month : Nat) : Nat :=
  if month == 2 then (if isLeapYear year then 29 else 28)
  else if month == 4 || month == 6 || month == 9 || month == 11 then 30
  else 31

def date (s : List Char) : Except Missing (List Char × List Char) := do
  let (y, rest) ← Part.year.read "date" s
  let (m, rest) ← Part.month.read "date" (← sign "datetime" "`-` (YYYY-MM) or `:` (HH:MM)" '-' rest)
  let (d, rest) ← Part.day.read "date" (← sign "date" "`-` (MM-DD)" '-' rest)
  if !(1 ≤ m && m ≤ 12) then .error ⟨"date", "month between 01 and 12"⟩
  else if !(1 ≤ d && d ≤ daysIn y m) then
    .error ⟨"date", "day between 01 and " ++ toString (daysIn y m)⟩
  else .ok (s.take 10, rest)

/-- The digits of a fraction of a second that count: nine at most, and no zeros at the end. -/
def fraction (digits : List Char) : List Char :=
  match ((digits.take 9).reverse.dropWhile (· == '0')).reverse with
  | [] => []
  | digits => '.' :: digits

def seconds (s : List Char) : Except Missing (List Char × List Char) :=
  match s with
  | ':' :: rest => do
    let (n, rest) ← Part.second.read "time" rest
    if 60 < n then .error ⟨"time", "second between 00 and 60"⟩
    else match rest with
      | '.' :: rest =>
        let digits := rest.takeWhile isDigit
        if digits.isEmpty then .error ⟨"time", "nanosecond"⟩
        else .ok (s.take 3 ++ fraction digits, rest.dropWhile isDigit)
      | rest => .ok (s.take 3, rest)
  | s => .ok ([':', '0', '0'], s)

def time (s : List Char) : Except Missing (List Char × List Char) := do
  let (h, rest) ← Part.hour.read "time" s
  let (m, rest) ← Part.minute.read "time" (← sign "time" "`:` (HH:MM)" ':' rest)
  if 23 < h then .error ⟨"time", "hour between 00 and 23"⟩
  else if 59 < m then .error ⟨"time", "minute between 00 and 59"⟩
  else do
    let (sec, rest) ← seconds rest
    .ok (s.take 5 ++ sec, rest)

/-- All of the text is a distance from universal time, or empty. No distance has a plus sign. -/
def offset : List Char → Except Missing (List Char)
  | [] => .ok []
  | ['Z'] => .ok ['Z']
  | ['z'] => .ok ['Z']
  | c :: s =>
    if c = '+' || c = '-' then do
      let (h, rest) ← Part.hour.read "offset" s
      let (m, rest) ← Part.minute.read "offset" (← sign "offset" "`:` (HH:MM)" ':' rest)
      if 23 < h then .error ⟨"offset", "hours between 00 and 23"⟩
      else if 59 < m then .error ⟨"offset", "minutes between 00 and 59"⟩
      else if rest ≠ [] then .error ⟨"datetime", "nothing"⟩
      else .ok ((if h = 0 && m = 0 then '+' else c) :: s)
    else .error ⟨"offset", "`Z`, +OFFSET, -OFFSET"⟩

def isMomentMark (c : Char) : Bool := c == 'T' || c == 't' || c == ' '

def beginsWithTime (s : List Char) : Bool := (s.dropWhile isDigit).head? == some ':'

def moment (s : List Char) : Except Missing (List Char) :=
  if beginsWithTime s then do
    let (clock, rest) ← time s
    if rest = [] then .ok clock else .error ⟨"datetime", "nothing"⟩
  else do
    let (day, rest) ← date s
    match rest with
    | [] => .ok day
    | c :: rest =>
      if isMomentMark c then do
        let (clock, rest) ← time rest
        .ok (day ++ 'T' :: clock ++ (← offset rest))
      else .error ⟨"date-time", "`T` between date and time"⟩

end Foreman.Toml
