import EntityProps.Data
import EntityProps.Toml.Moment

/-!
# Scalars in TOML

Truth values, numbers and moments are words of letters, digits and a few signs,
so a word is taken whole before its sense is decided.
-/

namespace EntityProps.Toml

def isScalarChar (c : Char) : Bool :=
  c.isAlphanum || c == '_' || c == '+' || c == '-' || c == '.' || c == ':'

/-! ## Integers -/

/-- The digits of a word in which single underscores may stand between digits. -/
def ungroup? (base : Nat) : List Char → Option (List Char)
  | [] => none
  | [d] => (Text.digitValue? base d).map fun _ => [d]
  | d :: '_' :: rest => do
    let _ ← Text.digitValue? base d
    let ds ← ungroup? base rest
    some (d :: ds)
  | d :: rest => do
    let _ ← Text.digitValue? base d
    let ds ← ungroup? base rest
    some (d :: ds)

/-- The decimal digits of a word without a needless leading zero. -/
def decimal? (word : List Char) : Option (List Char) :=
  match word with
  | '0' :: _ :: _ => none
  | word => ungroup? 10 word

def splitSign : List Char → Bool × List Char
  | '-' :: rest => (true, rest)
  | '+' :: rest => (false, rest)
  | word => (false, word)

def integer? (word : List Char) : Option Int :=
  match word with
  | '0' :: 'x' :: rest => unsigned 16 rest
  | '0' :: 'o' :: rest => unsigned 8 rest
  | '0' :: 'b' :: rest => unsigned 2 rest
  | word => do
    let (negative, word) := splitSign word
    let n ← Text.numeralValue? 10 (← decimal? word)
    some (if negative then -n else n)
where
  unsigned (base : Nat) (word : List Char) : Option Int := do
    let n ← Text.numeralValue? base (← ungroup? base word)
    some n

def isStorable (n : Int) : Bool :=
  -0x8000000000000000 ≤ n ∧ n < 0x8000000000000000

/-! ## Numbers with a fraction or an exponent -/

/-- The word is an infinity or no number. -/
def isSpecialFloat (word : List Char) : Bool :=
  let (_, word) := splitSign word
  word == ['i', 'n', 'f'] || word == ['n', 'a', 'n']

def spanDigits (word : List Char) : List Char × List Char :=
  word.span fun c => c.isDigit || c == '_'

def exponent? : List Char → Option Int
  | [] => some 0
  | c :: rest =>
    if c = 'e' ∨ c = 'E' then do
      let (negative, rest) := splitSign rest
      let n ← Text.numeralValue? 10 (← ungroup? 10 rest)
      some (if negative then -n else n)
    else none

/-- The number that decimal digits stand for, times ten to the `e`, is so large that the nearest
binary number with 53 bits and an exponent of 11 bits is infinity. How many digits there are decides
that unless the number has 308 to 310 of them. -/
def overflows (digits : List Char) (e : Int) : Bool :=
  let digits := digits.dropWhile (· = '0')
  let size : Int := digits.length + e
  if digits.isEmpty ∨ size < 308 then false
  else if 310 < size then true
  else
    let m := (Text.numeralValue? 10 digits).getD 0
    let least := Nat.pow 2 1024 - Nat.pow 2 970
    if 0 ≤ e then decide (least ≤ m * Nat.pow 10 e.toNat)
    else decide (least * Nat.pow 10 (-e).toNat ≤ m)

/-- The word is a number with a fraction or an exponent, in range. A negative one is always. -/
def isFloat (word : List Char) : Bool :=
  (read word).isSome
where
  read (word : List Char) : Option Unit := do
    let (negative, word) := splitSign word
    let (whole, rest) := spanDigits word
    let whole ← decimal? whole
    let (fraction, rest) ← match rest with
      | '.' :: rest =>
        let (fraction, rest) := spanDigits rest
        (ungroup? 10 fraction).map (·, rest)
      | c :: rest => some ([], c :: rest)
      -- Nothing but digits is an integer.
      | [] => none
    let e ← exponent? rest
    if !negative && overflows (whole ++ fraction) (e - fraction.length) then none else some ()

/-! ## Words -/

def scalar? (word : List Char) : Option Data :=
  if word = ['t', 'r', 'u', 'e'] then some (.bool true)
  else if word = ['f', 'a', 'l', 's', 'e'] then some (.bool false)
  else match integer? word with
    | some n => if isStorable n then some (.int n) else none
    -- A word that starts as a number may be a date, so all readings are tried on the whole word.
    | none =>
      if isSpecialFloat word || isFloat word then some (.float (String.ofList word))
      else if isMoment word then some (.moment (String.ofList word))
      else none

/-- Reads a scalar. A date and a time may have a space between them. -/
def readScalar (text : List Char) : Option (Data × List Char) :=
  let (word, rest) := text.span isScalarChar
  let clock := (rest.drop 1).takeWhile isScalarChar
  if isDate word && rest.head? == some ' ' && isClock clock then
    some (.moment (String.ofList (word ++ ' ' :: clock)), rest.drop (clock.length + 1))
  else (scalar? word).map (·, rest)

end EntityProps.Toml
