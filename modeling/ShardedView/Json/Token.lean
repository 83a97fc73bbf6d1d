import ShardedView.Text.Digits
import ShardedView.Text.Utf8

/-!
The tokens of a JSON document.

Strings and numbers are kept as they are written: whether an escape denotes a
scalar value, whether a byte belongs to one, and whether a number is within
range is asked only where the string or number is used.
-/

namespace ShardedView.Json

inductive Piece
  | char (char : Char)
  /-- A unit of sixteen bits, escaped by four hexadecimal digits. -/
  | unit (code : Nat)
  /-- Bytes that are no UTF-8. -/
  | fault
  deriving DecidableEq, Repr

structure Numeral where
  negative : Bool
  whole : List Char
  /-- The digits after the point; none without a point. -/
  fraction : Option (List Char)
  /-- The sign and the digits after the exponent mark. -/
  exponent : Option (Bool × List Char)
  deriving DecidableEq, Repr

namespace Numeral

/-- Digits without a needless zero in front, and what follows. -/
def splitWhole? (chars : List Char) : Option (List Char × List Char) :=
  match chars with
  | '0' :: rest => some (['0'], rest)
  | chars =>
    match chars.takeWhile Digits.isDigit with
    | [] => none
    | digits => some (digits, chars.dropWhile Digits.isDigit)

/-- A point with at least one digit behind it, if there is a point. -/
def splitFraction? (chars : List Char) : Option (Option (List Char) × List Char) :=
  match chars with
  | '.' :: rest =>
    match rest.takeWhile Digits.isDigit with
    | [] => none
    | digits => some (some digits, rest.dropWhile Digits.isDigit)
  | chars => some (none, chars)

def readExponent? (chars : List Char) : Option (Option (Bool × List Char)) :=
  match chars with
  | [] => some none
  | mark :: rest =>
    let (negative, digits) :=
      match rest with
      | '-' :: digits => (true, digits)
      | '+' :: digits => (false, digits)
      | digits => (false, digits)
    if (mark == 'e' || mark == 'E') && !digits.isEmpty && digits.all Digits.isDigit then
      some (some (negative, digits))
    else none

def read? (chars : List Char) : Option Numeral := do
  let (negative, chars) :=
    match chars with
    | '-' :: rest => (true, rest)
    | chars => (false, chars)
  let (whole, chars) ← splitWhole? chars
  let (fraction, chars) ← splitFraction? chars
  let exponent ← readExponent? chars
  return ⟨negative, whole, fraction, exponent⟩

end Numeral

inductive Token
  | null
  | bool (value : Bool)
  | number (numeral : Numeral)
  | string (pieces : List Piece)
  | openBracket
  | closeBracket
  | openBrace
  | closeBrace
  | comma
  | colon
  deriving DecidableEq, Repr

namespace Token

def ofWord? (word : List Char) : Option Token :=
  if word = ['n', 'u', 'l', 'l'] then some null
  else if word = ['t', 'r', 'u', 'e'] then some (bool true)
  else if word = ['f', 'a', 'l', 's', 'e'] then some (bool false)
  else (Numeral.read? word).map number

def ofMark? (char : Char) : Option Token :=
  if char = '[' then some openBracket
  else if char = ']' then some closeBracket
  else if char = '{' then some openBrace
  else if char = '}' then some closeBrace
  else if char = ',' then some comma
  else if char = ':' then some colon
  else none

def isGap (char : Char) : Bool :=
  char = ' ' || char = '\t' || char = '\n' || char = '\r'

def isWordChar (char : Char) : Bool :=
  char.isAlphanum || char = '+' || char = '-' || char = '.'

def escaped? (char : Char) : Option Char :=
  if char = '"' then some '"'
  else if char = '\\' then some '\\'
  else if char = '/' then some '/'
  else if char = 'b' then some '\x08'
  else if char = 'f' then some '\x0C'
  else if char = 'n' then some '\n'
  else if char = 'r' then some '\r'
  else if char = 't' then some '\t'
  else none

/-- What is being read; parts read so far are in reverse. -/
inductive Mode
  | gap
  | word (before : List Char)
  | text (before : List Piece)
  /-- After the backslash of an escape. -/
  | escape (before : List Piece)
  /-- Within the four hexadecimal digits of an escape, of which `missing + 1`
  are still to come. -/
  | code (before : List Piece) (missing : Nat) (value : Nat)
  deriving Repr

/-- The mode after a character between tokens, and the token it is, if any. -/
def start? (char : Char) : Option (Mode × Option Token) :=
  if isGap char then some (.gap, none)
  else if char = '"' then some (.text [], none)
  else if isWordChar char then some (.word [char], none)
  else (ofMark? char).map fun token => (.gap, some token)

/-- The mode after a unit of the document, and the tokens that it completes. -/
def step? (mode : Mode) (unit : Utf8.Unit) : Option (Mode × List Token) :=
  match mode, unit with
  | .gap, .scalar char => do
    let (mode, token) ← start? char
    return (mode, token.toList)
  | .word before, .scalar char =>
    if isWordChar char then some (.word (char :: before), [])
    else do
      let word ← ofWord? before.reverse
      let (mode, token) ← start? char
      return (mode, word :: token.toList)
  | .text before, .scalar char =>
    if char = '"' then some (.gap, [string before.reverse])
    else if char = '\\' then some (.escape before, [])
    else if char.toNat < 0x20 then none
    else some (.text (.char char :: before), [])
  | .text before, _ => some (.text (.fault :: before), [])
  | .escape before, .scalar char =>
    if char = 'u' then some (.code before 3 0, [])
    else (escaped? char).map fun char => (.text (.char char :: before), [])
  | .code before missing value, .scalar char => do
    let digit ← Bytes.hexValue? char
    let value := 16 * value + digit
    match missing with
    | 0 => return (.text (.unit value :: before), [])
    | missing + 1 => return (.code before missing value, [])
  | _, _ => none

def finish? : Mode → Option (List Token)
  | .gap => some []
  | .word before => (ofWord? before.reverse).map fun token => [token]
  | _ => none

def scanFrom? (mode : Mode) : List Utf8.Unit → Option (List Token)
  | [] => finish? mode
  | unit :: rest => do
    let (mode, tokens) ← step? mode unit
    let later ← scanFrom? mode rest
    return tokens ++ later

def scan? (units : List Utf8.Unit) : Option (List Token) :=
  scanFrom? .gap units

end Token

end ShardedView.Json
