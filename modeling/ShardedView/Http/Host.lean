import ShardedView.Http.Domain
import ShardedView.Http.Percent
import ShardedView.Net.Address

/-!
Hosts of URLs: domain names in lower case, and addresses.
-/

namespace ShardedView.Http

inductive UrlFault
  | emptyHost
  | portNumber
  | domainName
  | ipv4Address
  | ipv6Address
  deriving DecidableEq, Repr

def UrlFault.message : UrlFault → String
  | .emptyHost => "empty host"
  | .portNumber => "invalid port number"
  | .domainName => "invalid international domain name"
  | .ipv4Address => "invalid IPv4 address"
  | .ipv6Address => "invalid IPv6 address"

namespace Host

/-- The digits of an address part in its base: `0x` begins hexadecimal and a
further zero octal digits. -/
def numeral (part : List Char) : Nat × List Char :=
  match part with
  | '0' :: 'x' :: digits => (16, digits)
  | '0' :: 'X' :: digits => (16, digits)
  | '0' :: second :: digits => (8, second :: digits)
  | digits => (10, digits)

def readPart? (part : List Char) : Option Nat :=
  if part.isEmpty then none
  else
    let (base, digits) := numeral part
    digits.foldlM
      (fun value char => do
        let digit ← Bytes.hexValue? char
        if digit < base then some (value * base + digit) else none)
      0

/-- The labels without an empty one at the end. -/
def properLabels (domain : List Char) : List (List Char) :=
  let labels := Domain.labels domain
  match labels.reverse with
  | [] :: last :: earlier => (last :: earlier).reverse
  | _ => labels

/-- Whether the last label is a number, so that the whole has to be an
address. -/
def endsInNumber (domain : List Char) : Bool :=
  match (properLabels domain).getLast? with
  | none => false
  | some last => (!last.isEmpty && last.all Digits.isDigit) || (readPart? last).isSome

/-- The address that one to four numbers form: each but the last is an octet,
the last fills the rest. -/
def ofNumbers? : (room : Nat) → List Nat → Option Nat
  | _, [] => none
  | room, [last] => if last < Nat.pow 256 room then some last else none
  | 0, _ => none
  | room + 1, number :: rest => do
    let low ← ofNumbers? room rest
    if number < 256 then some (number * Nat.pow 256 room + low) else none

def readV4? (domain : List Char) : Option Nat := do
  let numbers ← (properLabels domain).mapM readPart?
  if numbers.length ≤ 4 then ofNumbers? 4 numbers else none

def normalize (chars : List Char) : Except UrlFault (List Char) :=
  match chars with
  | [] => .error .emptyHost
  | '[' :: rest =>
    if rest.getLast? = some ']' then
      match Net.IpAddress.splitV6? rest.dropLast with
      | some (number, []) =>
        .ok ('[' :: Net.IpAddress.compressed (Net.IpAddress.groups number) ++ [']'])
      | _ => .error .ipv6Address
    else .error .ipv6Address
  | chars =>
    match Utf8.decode (Percent.decode (chars.flatMap Utf8.encodeChar)) with
    | .error _ => .error .domainName
    | .ok domain =>
      match Domain.normalize? domain.toList with
      | none => .error .domainName
      | some [] => .error .emptyHost
      | some domain =>
        if endsInNumber domain then
          match readV4? domain with
          | some number => .ok (Net.IpAddress.dotted number)
          | none => .error .ipv4Address
        else .ok domain

end Host

end ShardedView.Http
