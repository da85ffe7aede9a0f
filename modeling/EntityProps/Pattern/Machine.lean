import EntityProps.Pattern.Shape
import EntityProps.Text.Bytes
import Std.Data.HashMap

/-!
# Machines of patterns

A pattern is run by two machines that go through the bytes of a text, one
forward and one backward. Only the space that a machine takes is worked out
here: each state takes a fixed number of bytes, and each way out of a state with
several takes more. A machine that takes too much space is not built.
-/

namespace EntityProps.Pattern

structure Machine where
  /-- Number of states. The next state gets this number. -/
  states : Nat
  /-- Bytes beside those of the states themselves. -/
  extra : Nat

namespace Machine

def size (m : Machine) : Nat :=
  32 * m.states + m.extra

def sizeLimit : Nat := 10 * 1024 * 1024

end Machine

/-- A step of building a machine, which stops when there is no space left. -/
abbrev Build (α : Type) := StateT Machine Option α

namespace Build

/-- Goes on with a machine if there is space for it. -/
def put (m : Machine) : Build Unit := fun _ =>
  if m.size ≤ Machine.sizeLimit then some ((), m) else none

/-- Adds a state with some bytes beside it, and gives its number. -/
def state (extra : Nat := 0) : Build Nat := do
  let m ← get
  put ⟨m.states + 1, m.extra + extra⟩
  return m.states

def branch : Build Unit := do
  let m ← get
  put { m with extra := m.extra + 4 }

/-- Leads on from a part of the machine. Only from a fork this takes space. -/
def leave (fork : Bool) : Build Unit :=
  if fork then branch else pure ()

/-- Builds `n` more copies after one that ends in a fork or not. The result says the same of the
last copy. -/
def more (copy : Build Bool) : Nat → Bool → Build Bool
  | 0, fork, m => some (fork, m)
  | n + 1, fork, m =>
    match copy m with
    | none => none
    | some (next, m) =>
      match leave fork m with
      | none => none
      | some (_, m) => more copy n next m

def times (copy : Build Bool) : Nat → Build Bool
  | 0 => do
    let _ ← state
    return false
  | n + 1 => do
    let fork ← copy
    more copy n fork

/-- Builds up to `n` copies, each behind a fork that may leave to the end instead. -/
def optional (copy : Build Bool) : Nat → Bool → Build Bool
  | 0, fork, m => some (fork, m)
  | n + 1, fork, m =>
    match (state *> copy) m with
    | none => none
    | some (next, m) =>
      match (leave fork *> branch *> branch) m with
      | none => none
      | some (_, m) => optional copy n next m

/-- Builds any number of copies. If a copy may match the empty text, there is a fork after the copies
and another that goes around them. -/
def star (copy : Build Bool) (consumes : Bool) : Build Bool :=
  if consumes then do
    let _ ← state
    let fork ← copy
    branch
    leave fork
    return true
  else do
    let fork ← copy
    let _ ← state
    leave fork
    branch
    let _ ← state
    let _ ← state
    branch
    branch
    branch
    return false

def repetition (copy : Build Bool) (consumes : Bool) (least : Nat) : Option Nat → Build Bool
  | none =>
    match least with
    | 0 => star copy consumes
    | 1 => do
      let fork ← copy
      let _ ← state
      leave fork
      branch
      return true
    | n + 2 => do
      -- The last copy is the one that repeats.
      let fork ← times copy (n + 1)
      let last ← copy
      let _ ← state
      leave fork
      leave last
      branch
      return true
  | some most =>
    -- At most once, exactly so often, or so often and then optional copies.
    if least = 0 ∧ most = 1 then do
      let _ ← state
      let fork ← copy
      let _ ← state
      branch
      branch
      leave fork
      return false
    else if least = most then times copy least
    else do
      let fork ← times copy least
      let _ ← state
      let fork ← optional copy (most - least) fork
      leave fork
      return false

end Build

/-! ## Sets of characters

The states for a set share what they can. What has been built is looked up in a
table with a fixed number of places, so a later entry may push out an earlier
one.
-/

/-- The states built for a set so far, by place: what each does, and its number. -/
abbrev Shared := Std.HashMap Nat (List Nat × Nat)

/-- A step of building the states for a set. -/
abbrev BuildSet (α : Type) := StateT Shared Build α

namespace BuildSet

/-- The place of an entry among `places`. -/
def place (places : Nat) (key : List Nat) : Nat :=
  let mixed := key.foldl (fun h n => (h ^^^ n.toUInt64) * 1099511628211) (14695981039346656037 : UInt64)
  mixed.toNat % places

/-- The state that does what `key` says, which is built unless the table has it. -/
def share (places : Nat) (key : List Nat) (extra : Nat) : BuildSet Nat := do
  let i := place places key
  match (← get)[i]? with
  | some (known, id) => if known = key then return id
  | none => pure ()
  let id ← Build.state extra
  modify fun shared => shared.insert i (key, id)
  return id

/-- Builds the forward states for rows of byte ranges. Rows that start alike share a state, and so do
rows that end alike. The depth bounds the length of the rows. -/
def forward (target : Nat) : Nat → List (List Text.ByteRange) → BuildSet Nat
  | 0, _ => pure target
  | depth + 1, rows => do
    let ways ← (rows.splitBy fun r s => r.head? == s.head?).mapM fun group => do
      -- What follows a common first range is built before the state that leads there.
      let rests := group.map List.tail
      let next ← if rests.all List.isEmpty then pure target else forward target depth rests
      let range := (group.head?.bind List.head?).getD (0, 0)
      return [range.1, range.2, next]
    share 10000 ways.flatten (8 * ways.length)

/-- Builds the backward states for a row of byte ranges, from its first range to its last. -/
def backward : Nat → List Text.ByteRange → BuildSet Nat
  | id, [] => pure id
  | id, range :: rest => do
    let next ← share 1000 [id, range.1, range.2] 0
    backward next rest

end BuildSet

namespace Build

/-- Builds the states for a set. Only for ASCII sets the bytes are the characters. -/
def set (backward : Bool) (members : CharSet) : Build Bool := do
  if members.isAscii then
    let _ ← state
    let _ ← state (8 * members.ranges.length)
  else if backward then
    let _ ← state
    let target ← state
    let rows := members.ranges.rows
    let build : BuildSet Unit := rows.forM fun row => do
      let _ ← BuildSet.backward target row
      Build.branch
    let _ ← build.run {}
  else
    let target ← state
    let _ ← (BuildSet.forward target 4 members.ranges.rows).run {}
  return false

/-! ## Alternatives that are all literals -/

/-- The runs of words between empty ones. -/
def splitAtEmpty : List (List Nat) → List (List (List Nat))
  | [] => [[]]
  | [] :: words => [] :: splitAtEmpty words
  | word :: words =>
    match splitAtEmpty words with
    | run :: runs => (word :: run) :: runs
    | [] => [[word]]

/-- The runs of words that count. Of several empty words at the start all but one are left out. -/
def chunks : List (List Nat) → List (List (List Nat))
  | [] :: words => splitAtEmpty ([] :: words.dropWhile List.isEmpty)
  | words => splitAtEmpty words

/-- Builds a tree of words, which branches where they differ. The depth bounds their length. -/
def tree : Nat → List (List Nat) → Build Unit
  | 0, _ => pure ()
  | depth + 1, words => do
    let all := chunks words
    let filled := all.filter fun chunk => !chunk.isEmpty
    for chunk in filled do
      let starts := (chunk.filterMap List.head?).eraseDups
      for start in starts do
        let rests := (chunk.filter fun word => word.head? == some start).map List.tail
        if !rests.all List.isEmpty then tree depth rests
      let _ ← state (if starts.length = 1 then 0 else 8 * starts.length)
    let _ ← state (4 * (filled.length + (all.length - 1)))

/-- Builds alternatives that are all literals, as a tree. -/
def words (words : List (List Nat)) : Build Bool := do
  let _ ← state
  tree (words.foldl (fun n word => max n word.length) 0) words
  return false

end Build

/-! ## Whole patterns -/

def bytesOfText (text : List Char) : List Nat :=
  text.flatMap fun c => Text.bytesOf c.toNat

namespace Shape

/-- The bytes of a literal, in the order in which a machine meets them. -/
def bytes? (backward : Bool) : Shape → Option (List Nat)
  | literal text => some (if backward then (bytesOfText text).reverse else bytesOfText text)
  | _ => none

mutual

/-- Builds the states for a shape. The result says whether they end in a fork. Captures are kept by
the forward machine only. -/
def build (backward : Bool) : Shape → Build Bool
  | empty => do
    let _ ← Build.state
    return false
  | literal text => do
    for _ in bytesOfText text do
      let _ ← Build.state
    return false
  | set members => Build.set backward members
  | look _ => do
    let _ ← Build.state
    return false
  | rep item least most =>
    Build.repetition (item.build backward) (item.leastLength?.any (0 < ·)) least most
  | captured item =>
    if backward then item.build backward
    else do
      let _ ← Build.state
      let fork ← item.build backward
      let _ ← Build.state
      Build.leave fork
      return false
  | concat parts => buildRow backward parts
  | alt options =>
    match options.mapM (bytes? backward) with
    | some words => Build.words words
    | none => do
      buildOptions backward options 0
      return false

/-- Builds one shape after another; the backward machine starts with the last. -/
def buildRow (backward : Bool) : List Shape → Build Bool
  | [] => do
    let _ ← Build.state
    return false
  | [s] => s.build backward
  | s :: rest =>
    if backward then do
      let fork ← buildRow backward rest
      let last ← s.build backward
      Build.leave fork
      return last
    else do
      let fork ← s.build backward
      let last ← buildRow backward rest
      Build.leave fork
      return last

/-- Builds one shape or another, of which `built` have been built. After the second come the fork
before them and the state after them. -/
def buildOptions (backward : Bool) : List Shape → (built : Nat) → Build Unit
  | [], _ => pure ()
  | s :: rest, built => do
    let fork ← s.build backward
    if built = 1 then
      let _ ← Build.state
      let _ ← Build.state
    Build.branch
    Build.leave fork
    buildOptions backward rest (built + 1)

end

/-- Builds the way into a machine. Unless a match starts at an end of the text, some bytes may be
passed over first. -/
def buildEntry (backward : Bool) (s : Shape) : Build Bool :=
  if s.requires (if backward then .textEnd else .textStart) backward then do
    let _ ← Build.state
    return false
  else do
    let passed : Build Bool := do
      let _ ← Build.state
      let _ ← Build.state 8
      return false
    Build.star passed true

/-- Builds a whole machine: the way in, the pattern as a capture, and the state of a match. -/
def buildAll (backward : Bool) (s : Shape) : Build Unit := do
  let entry ← s.buildEntry backward
  let fork ← (Shape.captured s).build backward
  let _ ← Build.state
  Build.leave fork
  Build.leave entry

def fits (s : Shape) : Bool :=
  (s.buildAll false ⟨0, 0⟩).isSome && (s.buildAll true ⟨0, 0⟩).isSome

end Shape

end EntityProps.Pattern
