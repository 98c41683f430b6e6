import FluentAssist.Url.Domain
import FluentAssist.Url.Percent

/-!
# Hosts of addresses

A host is a domain name in lower-case ASCII, an address of four bytes or an address of eight
pieces. A domain whose last label is a number has to be a four-byte address.
-/

set_option autoImplicit false

namespace FluentAssist.Url

/-- Why a text is not an address. -/
inductive Fault
  /-- There is no scheme. -/
  | relative
  | emptyHost
  | badDomain
  /-- A host of a scheme without hosts of its own holds a character of other parts. -/
  | badHostCharacter
  | badIpv4
  | badIpv6
  | badPort
  deriving DecidableEq, Repr

/-- The wording of a fault. -/
def Fault.message : Fault → String
  | .relative => "relative URL without a base"
  | .emptyHost => "empty host"
  | .badDomain => "invalid international domain name"
  | .badHostCharacter => "invalid domain character"
  | .badIpv4 => "invalid IPv4 address"
  | .badIpv6 => "invalid IPv6 address"
  | .badPort => "invalid port number"

/-- The host of an address. -/
inductive Host
  | domain (name : Text)
  | ipv4 (address : Nat)
  | ipv6 (pieces : List Nat)
  deriving DecidableEq, Repr

/-- A part of a four-byte address: hexadecimal after `0x`, octal after a zero, else decimal. -/
def ipv4Part? : Text → Option Nat
  | '0' :: 'x' :: rest => if rest.isEmpty then some 0 else Text.readBase? 16 rest
  | '0' :: 'X' :: rest => if rest.isEmpty then some 0 else Text.readBase? 16 rest
  | ['0'] => some 0
  | '0' :: rest => Text.readBase? 8 rest
  | digits => Text.readBase? 10 digits

/-- The labels of a domain without a single empty one at the end. -/
def labelsOf (domain : Text) : List Text :=
  let labels := Text.pieces '.' domain
  if 1 < labels.length && labels.getLast? == some [] then labels.dropLast else labels

/-- Whether the last label of a domain is a number. -/
def endsInNumber (domain : Text) : Bool :=
  match (labelsOf domain).getLast? with
  | none => false
  | some last =>
    (!last.isEmpty && last.all Char.isDigit) ||
      (match last with
      | '0' :: x :: rest =>
        (x == 'x' || x == 'X') && (rest.isEmpty || (Text.readBase? 16 rest).isSome)
      | _ => false)

/-- The parts of a four-byte address as one number; the last part fills the rest. -/
def joinParts? : List Nat → Nat → Option Nat
  | [], _ => none
  | [last], left => if last < Nat.pow 256 left then some last else none
  | part :: parts, left =>
    if part < 256 then
      (joinParts? parts (left - 1)).map fun value => part * Nat.pow 256 (left - 1) + value
    else none

/-- A four-byte address. -/
def ipv4? (domain : Text) : Option Nat := do
  let parts ← (labelsOf domain).mapM ipv4Part?
  if 4 < parts.length then none else joinParts? parts 4

/-- The text of a four-byte address. -/
def ipv4Text (address : Nat) : Text :=
  Nat.toDigits 10 (address / 16777216 % 256) ++ ['.'] ++ Nat.toDigits 10 (address / 65536 % 256) ++
    ['.'] ++ Nat.toDigits 10 (address / 256 % 256) ++ ['.'] ++ Nat.toDigits 10 (address % 256)

/-- A part of a dotted tail: decimal without a leading zero, below 256. -/
def dottedPart? (digits : Text) : Option Nat := do
  if digits.isEmpty || (1 < digits.length && digits.head? == some '0') || 3 < digits.length then
    none
  else
    let value ← if digits.all Char.isDigit then Text.readBase? 10 digits else none
    if value < 256 then some value else none

/-- The two pieces of a dotted tail. -/
def dottedPieces? (tail : Text) : Option (List Nat) := do
  match ← (Text.pieces '.' tail).mapM dottedPart? with
  | [a, b, c, d] => some [a * 256 + b, c * 256 + d]
  | _ => none

/-- A piece of an eight-piece address: up to four hexadecimal digits. -/
def piece? (digits : Text) : Option Nat :=
  if 4 < digits.length then none else Text.readBase? 16 digits

/-- The pieces of one side of an eight-piece address; the last part may be dotted if `atEnd`. -/
def pieces? (atEnd : Bool) : List Text → Option (List Nat)
  | [] => some []
  | [last] => if atEnd && last.any (· == '.') then dottedPieces? last else (piece? last).map ([·])
  | part :: parts => do return (← piece? part) :: (← pieces? atEnd parts)

/-- The parts of a text between colons; nothing for an empty text. -/
def colonParts (text : Text) : List Text := if text.isEmpty then [] else Text.pieces ':' text

/-- The text before and after the first double colon. -/
def splitDoubleColon? : Text → Option (Text × Text)
  | ':' :: ':' :: rest => some ([], rest)
  | c :: rest => (splitDoubleColon? rest).map fun (before, after) => (c :: before, after)
  | [] => none

/-- An eight-piece address. A double colon stands for the missing pieces. -/
def ipv6? (text : Text) : Option (List Nat) := do
  match splitDoubleColon? text with
  | none =>
    let pieces ← pieces? true (colonParts text)
    if pieces.length = 8 then some pieces else none
  | some (before, after) =>
    let left ← pieces? false (colonParts before)
    let right ← pieces? true (colonParts after)
    if left.length + right.length < 8 then
      some (left ++ List.replicate (8 - left.length - right.length) 0 ++ right)
    else none

/-- The first longest run of at least two zeros: where it starts and how long it is. -/
def zeroRun (pieces : List Nat) : Option (Nat × Nat) :=
  let runs := (List.range pieces.length).map fun start =>
    (start, ((pieces.drop start).takeWhile (· == 0)).length)
  runs.foldl
    (fun best run =>
      if 1 < run.2 && (best.map Prod.snd).getD 1 < run.2 then some run else best)
    none

/-- Pieces separated by colons. -/
def piecesText (pieces : List Nat) : Text := [':'].intercalate (pieces.map (Nat.toDigits 16))

/-- The text of an eight-piece address, with its longest run of zeros left out. -/
def ipv6Text (pieces : List Nat) : Text :=
  match zeroRun pieces with
  | none => piecesText pieces
  | some (start, length) =>
    piecesText (pieces.take start) ++ [':', ':'] ++ piecesText (pieces.drop (start + length))

/-- Characters that no host of any scheme holds. -/
def isForbiddenAnywhere (c : Char) : Bool :=
  [0, 9, 10, 13, 0x20].contains c.toNat ||
    ['#', '/', ':', '<', '>', '?', '@', '[', '\\', ']', '^', '|'].contains c

/-- An eight-piece address in square brackets. -/
def bracketed? : Text → Option (List Nat)
  | '[' :: rest => if rest.getLast? == some ']' then ipv6? rest.dropLast else none
  | _ => none

/-- The host of an eight-piece address. -/
def bracketedHost (text : Text) : Except Fault Host :=
  (bracketed? text).elim (.error .badIpv6) fun pieces => .ok (.ipv6 pieces)

/-- The host of a scheme with hosts. -/
def specialHost (text : Text) : Except Fault Host :=
  if text.head? == some '[' then bracketedHost text
  else
    match (Utf8.decode? (percentDecode text)).bind domain? with
    | none => .error .badDomain
    | some domain =>
      if domain.isEmpty then .error .emptyHost
      else if endsInNumber domain then
        (ipv4? domain).elim (.error .badIpv4) fun address => .ok (.ipv4 address)
      else .ok (.domain domain)

/-- The host of any other scheme: kept as written, apart from control characters. -/
def otherHost (text : Text) : Except Fault Host :=
  if text.head? == some '[' then bracketedHost text
  else if text.any isForbiddenAnywhere then .error .badHostCharacter
  else .ok (.domain (percentEncode isControl text))

/-- The text of a host. -/
def Host.text : Host → Text
  | .domain name => name
  | .ipv4 address => ipv4Text address
  | .ipv6 pieces => '[' :: ipv6Text pieces ++ [']']

end FluentAssist.Url
