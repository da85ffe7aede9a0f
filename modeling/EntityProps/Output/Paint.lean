/-!
# Painted text

On a terminal parts of a text are painted by escape sequences: one that starts
a style before the part, and one that ends every style after it.
-/

namespace EntityProps.Output

inductive Paint where
  | cyan
  | dimmed
  | green
  | red
  | yellow
  | plain
deriving DecidableEq

/-- The sequence that ends every style. -/
def reset : List Char := ['\x1b', '[', '0', 'm']

namespace Paint

/-- The sequence that starts a style. Green and red are bold. -/
def start? : Paint → Option (List Char)
  | cyan => some ['\x1b', '[', '3', '6', 'm']
  | dimmed => some ['\x1b', '[', '2', 'm']
  | green => some ['\x1b', '[', '1', ';', '3', '2', 'm']
  | red => some ['\x1b', '[', '1', ';', '3', '1', 'm']
  | yellow => some ['\x1b', '[', '3', '3', 'm']
  | plain => none

/-- The text with a style started again wherever the text ends all styles. -/
def resume (start : List Char) : List Char → List Char
  -- Such a sequence inside the text would end the style around it too.
  | '\x1b' :: '[' :: '0' :: 'm' :: rest => reset ++ start ++ resume start rest
  | c :: rest => c :: resume start rest
  | [] => []

/-- The text in a style, if colours are wanted. -/
def apply (p : Paint) (colored : Bool) (text : String) : String :=
  match p.start? with
  | some start =>
    if colored then String.ofList (start ++ resume start text.toList ++ reset) else text
  | none => text

end Paint

/-- Texts are to be painted: on a terminal, unless a variable of the environment says otherwise.
Being forced counts more than being forbidden, and `0` means no. -/
def wantsColors (terminal : Bool) (force plain color : Option String) : Bool :=
  if force.any (· != "0") then true
  else if plain.isSome then false
  else terminal && color.all (· != "0")

end EntityProps.Output
