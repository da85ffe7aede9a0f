import EntityProps.Text.Numeral

/-!
# Dates and times in TOML

A date, a time, or both joined by a `T` or a space; with both, an offset may
follow.
-/

namespace EntityProps.Toml

def readFixed (digits : Nat) (text : List Char) : Option (Nat × List Char) :=
  let numeral := text.take digits
  if numeral.length = digits then (Text.numeralValue? 10 numeral).map (·, text.drop digits)
  else none

def afterChar? (c : Char) : List Char → Option (List Char)
  | d :: rest => if d = c then some rest else none
  | [] => none

def daysIn (year month : Nat) : Nat :=
  let leap := year % 4 = 0 ∧ (year % 100 ≠ 0 ∨ year % 400 = 0)
  if month = 2 then (if leap then 29 else 28)
  else if month ∈ [4, 6, 9, 11] then 30
  else 31

def afterDate? (text : List Char) : Option (List Char) := do
  let (year, rest) ← readFixed 4 text
  let (month, rest) ← readFixed 2 (← afterChar? '-' rest)
  let (day, rest) ← readFixed 2 (← afterChar? '-' rest)
  if 1 ≤ month ∧ month ≤ 12 ∧ 1 ≤ day ∧ day ≤ daysIn year month then some rest else none

/-- The text after the fraction of a second, if one follows. -/
def afterFraction? : List Char → Option (List Char)
  | '.' :: rest =>
    match rest.span Char.isDigit with
    | ([], _) => none
    | (_, rest) => some rest
  | text => some text

def afterMinutes? (text : List Char) : Option (List Char) := do
  let (hour, rest) ← readFixed 2 text
  let (minute, rest) ← readFixed 2 (← afterChar? ':' rest)
  if hour < 24 ∧ minute < 60 then some rest else none

/-- The text after a time. A minute may end with a leap second. -/
def afterTime? (text : List Char) : Option (List Char) := do
  let rest ← afterMinutes? text
  let (second, rest) ← readFixed 2 (← afterChar? ':' rest)
  if second ≤ 60 then afterFraction? rest else none

/-- The text is an offset or empty. -/
def isOffset : List Char → Bool
  | [] => true
  | c :: rest =>
    if c = 'Z' ∨ c = 'z' then rest.isEmpty
    else (c = '+' ∨ c = '-') && afterMinutes? rest == some []

def isDate (text : List Char) : Bool :=
  afterDate? text == some []

/-- The text is what follows a date and the mark between date and time. -/
def isClock (text : List Char) : Bool :=
  match afterTime? text with
  | some rest => isOffset rest
  | none => false

/-- The text is a date, a time, or both joined by a `T`. -/
def isMoment (text : List Char) : Bool :=
  match afterDate? text with
  | some [] => true
  | some (c :: rest) => (c = 'T' ∨ c = 't') && isClock rest
  | none => afterTime? text == some []

end EntityProps.Toml
