import ShardedView.Bytes

/-!
Tables of characters by their codes.

A table is written as runs of codes in ascending order, in hexadecimal and with
blanks between them. A run is one code, or a first and a last one with a hyphen
between; its values follow behind a colon, with plus signs between.
-/

namespace ShardedView

structure CodeRun where
  first : Nat
  last : Nat
  values : List Nat
  deriving DecidableEq, Repr

/-- Runs of codes in ascending order. -/
structure CodeTable where
  runs : Array CodeRun

namespace CodeTable

structure Reading where
  runs : Array CodeRun
  /-- The numbers of the next run, the latest one first. -/
  numbers : List Nat
  /-- Whether the next run has a last code of its own. -/
  isWide : Bool

namespace Reading

def finish (reading : Reading) : Array CodeRun :=
  match reading.numbers.reverse with
  | [] => reading.runs
  | [first] => reading.runs.push ⟨first, first, []⟩
  | first :: second :: values =>
    if reading.isWide then reading.runs.push ⟨first, second, values⟩
    else reading.runs.push ⟨first, first, second :: values⟩

def read (reading : Reading) (char : Char) : Reading :=
  match Bytes.hexValue? char with
  | some digit =>
    match reading.numbers with
    | [] => { reading with numbers := [digit] }
    | number :: earlier => { reading with numbers := (16 * number + digit) :: earlier }
  | none =>
    if char = '-' then { reading with numbers := 0 :: reading.numbers, isWide := true }
    else if char = ':' ∨ char = '+' then { reading with numbers := 0 :: reading.numbers }
    else ⟨reading.finish, [], false⟩

end Reading

def ofText (text : String) : CodeTable :=
  ⟨(text.foldl Reading.read ⟨#[], [], false⟩).finish⟩

/-- The run that holds a code, among those between two positions. -/
def findBetween? (table : CodeTable) (code low high : Nat) : Option CodeRun :=
  if low < high then
    let middle := (low + high) / 2
    match table.runs[middle]? with
    | none => none
    | some run =>
      if code < run.first then table.findBetween? code low middle
      else if run.last < code then table.findBetween? code (middle + 1) high
      else some run
  else none
  termination_by high - low

def find? (table : CodeTable) (code : Nat) : Option CodeRun :=
  table.findBetween? code 0 table.runs.size

def contains (table : CodeTable) (code : Nat) : Bool :=
  (table.find? code).isSome

end CodeTable

end ShardedView
