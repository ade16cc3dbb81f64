/-!
# Punycode

A label of a host name may hold any character, but only ASCII is sent.  The
encoded label starts with its ASCII characters.  Behind them it says for each
other character, from the least on, how many places are passed before it goes
in, as numbers of base 36 whose digits have moving thresholds.
-/

namespace DriverUplift.Text.Punycode

def base : Nat := 36

/-- A digit: the letters come first. -/
def digit (value : Nat) : Char :=
  if value < 26 then Char.ofNat ('a'.toNat + value) else Char.ofNat ('0'.toNat + (value - 26))

/-- The least digit that does not end a number at a position. -/
def threshold (position bias : Nat) : Nat :=
  if position ≤ bias then 1 else if bias + 26 ≤ position then 26 else position - bias

theorem threshold_pos (position bias : Nat) : 1 ≤ threshold position bias := by
  unfold threshold
  split
  · exact Nat.le_refl 1
  · split
    · decide
    · omega

/-- A number, its least digit first. -/
def digits (bias position number : Nat) : List Char :=
  let least := threshold position bias
  if number < least then [digit number]
  else
    digit (least + (number - least) % (base - least)) ::
      digits bias (position + base) ((number - least) / (base - least))
termination_by number
decreasing_by
  have low := threshold_pos position bias
  calc (number - threshold position bias) / (base - threshold position bias)
      ≤ number - threshold position bias := Nat.div_le_self _ _
    _ < number := by omega

def damped (number count : Nat) : Nat × Nat :=
  if 455 < number then damped (number / 35) (count + base) else (number, count)
termination_by number
decreasing_by exact Nat.div_lt_self (by omega) (by decide)

/-- The bias behind a number that was written as the given one in a row. -/
def nextBias (number place : Nat) (isFirst : Bool) : Nat :=
  let scaled := if isFirst then number / 700 else number / 2
  let (rest, count) := damped (scaled + scaled / place) 0
  count + base * rest / (rest + 38)

structure State where
  written : List Char
  passed : Nat
  bias : Nat
  /-- How many characters of the label are in. -/
  count : Nat

/-- Pass a character of the label on the way of a code point, or write that it goes in here. -/
def visit (basics code : Nat) (state : State) (c : Char) : State :=
  if c.toNat < code then { state with passed := state.passed + 1 }
  else if c.toNat = code then
    { written := state.written ++ digits state.bias base state.passed
      passed := 0
      bias := nextBias state.passed (state.count + 1) (state.count == basics)
      count := state.count + 1 }
  else state

def insertCodes (label : List Char) (basics : Nat) : List Nat → Nat → State → State
  | [], _, state => state
  | code :: codes, least, state =>
      let state := { state with passed := state.passed + (code - least) * (state.count + 1) }
      let state := label.foldl (visit basics code) state
      insertCodes label basics codes (code + 1) { state with passed := state.passed + 1 }

def encode (label : List Char) : List Char :=
  let basic := label.filter fun c => c.toNat < 0x80
  let codes := ((label.map Char.toNat).filter (0x80 ≤ ·)).mergeSort.eraseDups
  let separator := if basic.isEmpty then [] else ['-']
  let state := insertCodes label basic.length codes 0x80 ⟨[], 0, 72, basic.length⟩
  basic ++ separator ++ state.written

end DriverUplift.Text.Punycode
