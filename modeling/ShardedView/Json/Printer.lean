import ShardedView.Bytes
import ShardedView.Json.Value
import ShardedView.Number.Shortest

/-!
Writing JSON, on one line without blanks or indented by two blanks a level.
Strings escape only what they must.
-/

namespace ShardedView.Json

/-- Writes a character of a string: quotes, backslashes and control characters
are escaped, all others stand for themselves. -/
def escape (char : Char) : List Char :=
  if char = '"' then ['\\', '"']
  else if char = '\\' then ['\\', '\\']
  else if char = '\x08' then ['\\', 'b']
  else if char = '\t' then ['\\', 't']
  else if char = '\n' then ['\\', 'n']
  else if char = '\x0C' then ['\\', 'f']
  else if char = '\r' then ['\\', 'r']
  else if char.toNat < 0x20 then
    ['\\', 'u', '0', '0', Bytes.hexDigit false (char.toNat / 16),
      Bytes.hexDigit false (char.toNat % 16)]
  else [char]

def quote (text : String) : List Char :=
  '"' :: text.toList.flatMap escape ++ ['"']

mutual

def compact : Json → List Char
  | null => ['n', 'u', 'l', 'l']
  | bool true => ['t', 'r', 'u', 'e']
  | bool false => ['f', 'a', 'l', 's', 'e']
  | int value => Digits.ofInt value
  | float value => FloatFormat.record.write value
  | str text => quote text
  | arr [] => ['[', ']']
  | arr (item :: rest) => '[' :: compact item ++ compactItems rest
  | obj [] => ['{', '}']
  | obj (member :: rest) => '{' :: compactMember member ++ compactMembers rest

def compactItems : List Json → List Char
  | [] => [']']
  | item :: rest => ',' :: compact item ++ compactItems rest

def compactMember : String × Json → List Char
  | (name, value) => quote name ++ ':' :: compact value

def compactMembers : List (String × Json) → List Char
  | [] => ['}']
  | member :: rest => ',' :: compactMember member ++ compactMembers rest

end

def print (json : Json) : String :=
  String.ofList json.compact

def newLine (depth : Nat) : List Char :=
  '\n' :: List.replicate (2 * depth) ' '

mutual

def indented (depth : Nat) : Json → List Char
  | arr (item :: rest) =>
    '[' :: newLine (depth + 1) ++ indented (depth + 1) item ++ indentedItems depth rest
  | obj (member :: rest) =>
    '{' :: newLine (depth + 1) ++ indentedMember (depth + 1) member ++
      indentedMembers depth rest
  | json => compact json

def indentedItems (depth : Nat) : List Json → List Char
  | [] => newLine depth ++ [']']
  | item :: rest =>
    ',' :: newLine (depth + 1) ++ indented (depth + 1) item ++ indentedItems depth rest

def indentedMember (depth : Nat) : String × Json → List Char
  | (name, value) => quote name ++ ':' :: ' ' :: indented depth value

def indentedMembers (depth : Nat) : List (String × Json) → List Char
  | [] => newLine depth ++ ['}']
  | member :: rest =>
    ',' :: newLine (depth + 1) ++ indentedMember (depth + 1) member ++
      indentedMembers depth rest

end

def pretty (json : Json) : String :=
  String.ofList (json.indented 0)

end ShardedView.Json
