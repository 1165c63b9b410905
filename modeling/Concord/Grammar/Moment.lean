namespace Concord.Grammar

/-! Days and times of day as they are written in documents. -/

/-- What a digit of a day or of a time counts.  The six characters behind `9` go on counting, from
ten to fifteen. -/
def digit? (c : Char) : Option Nat :=
  if '0' ≤ c ∧ c ≤ '?' then some (c.toNat - '0'.toNat) else none

/-- The number that two digits write. -/
def twoDigits? (tens ones : Char) : Option Nat := do
  return 10 * (← digit? tens) + (← digit? ones)

def isLeapYear (year : Nat) : Bool := year % 4 == 0 && (year % 100 != 0 || year % 400 == 0)

def daysOfMonth (year month : Nat) : Nat :=
  match month with
  | 2 => if isLeapYear year then 29 else 28
  | 4 | 6 | 9 | 11 => 30
  | _ => if 1 ≤ month ∧ month ≤ 12 then 31 else 0

/-- A day of the calendar, `YYYY-MM-DD`. -/
def isDate (text : List Char) : Bool :=
  match text with
  | [y₁, y₂, y₃, y₄, '-', m₁, m₂, '-', d₁, d₂] =>
      match twoDigits? y₁ y₂, twoDigits? y₃ y₄, twoDigits? m₁ m₂, twoDigits? d₁ d₂ with
      | some century, some year, some month, some day =>
          1 ≤ day && day ≤ daysOfMonth (100 * century + year) month
      | _, _, _, _ => false
  | _ => false

/-- How far local time is ahead of universal time, in minutes. -/
def offset? (text : List Char) : Option Int :=
  match text with
  | ['Z'] | ['z'] => some 0
  | [sign, h₁, h₂, ':', m₁, m₂] => do
      let hours ← twoDigits? h₁ h₂
      let minutes ← twoDigits? m₁ m₂
      if 23 < hours ∨ 59 < minutes then none
      else if sign = '+' then some (60 * hours + minutes)
      else if sign = '-' then some (-(60 * hours + minutes))
      else none
  | _ => none

/-- What follows a fraction of a second, if there is one; it has at least one digit. -/
def afterFraction? (text : List Char) : Option (List Char) :=
  match text with
  | '.' :: fraction =>
      if (fraction.head?.map Char.isDigit).getD false then some (fraction.dropWhile Char.isDigit)
      else none
  | _ => some text

/-- A time of day with its offset. A minute has a sixtieth second only at the end of a day of
universal time. -/
def isTime (text : List Char) : Bool :=
  match text with
  | h₁ :: h₂ :: ':' :: m₁ :: m₂ :: ':' :: s₁ :: s₂ :: rest =>
      match twoDigits? h₁ h₂, twoDigits? m₁ m₂, twoDigits? s₁ s₂,
          (afterFraction? rest).bind offset? with
      | some hour, some minute, some second, some offset =>
          hour ≤ 23 && minute ≤ 59 &&
            (second ≤ 59 || (second == 60 &&
              (60 * (hour : Int) + minute - offset) % 1440 == 1439))
      | _, _, _, _ => false
  | _ => false

/-- A day and a time of day with a letter `T` between them. -/
def isDateTime (text : List Char) : Bool :=
  let isMark := fun c => c == 'T' || c == 't'
  match text.dropWhile (!isMark ·) with
  | _ :: time => isDate (text.takeWhile (!isMark ·)) && isTime time
  | [] => false

end Concord.Grammar
