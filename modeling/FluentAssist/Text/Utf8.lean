import FluentAssist.Text.Basic

/-!
# UTF-8

Texts as bytes. Decoding reads byte by byte and refuses overlong forms, surrogates, numbers beyond
the last code point and truncated characters.
-/

set_option autoImplicit false

namespace FluentAssist.Utf8

/-- The bytes of a text. -/
def encode (text : Text) : List UInt8 := text.flatMap String.utf8EncodeChar

/-- Where decoding stands: before a character, or inside one with some bytes to come, the number
read so far, and the least number that needs a character of this length. -/
inductive Scan
  | between
  | inside (left : Nat) (code : Nat) (least : Nat)
  deriving DecidableEq, Repr

/-- Whether a byte continues a character. -/
def isContinuation (b : UInt8) : Bool := 0x80 ≤ b.toNat && b.toNat < 0xC0

/-- The text of the bytes from here on. -/
def decodeFrom? : Scan → List UInt8 → Option Text
  | .between, [] => some []
  | .inside _ _ _, [] => none
  | .between, b :: rest =>
    let code := b.toNat
    if code < 0x80 then (decodeFrom? .between rest).map (Char.ofNat code :: ·)
    else if code < 0xC2 then none
    else if code < 0xE0 then decodeFrom? (.inside 1 (code - 0xC0) 0x80) rest
    else if code < 0xF0 then decodeFrom? (.inside 2 (code - 0xE0) 0x800) rest
    else if code < 0xF5 then decodeFrom? (.inside 3 (code - 0xF0) 0x10000) rest
    else none
  | .inside left code least, b :: rest =>
    if isContinuation b then
      let next := code * 64 + (b.toNat - 0x80)
      if 1 < left then decodeFrom? (.inside (left - 1) next least) rest
      else if least ≤ next ∧ next.isValidChar then
        (decodeFrom? .between rest).map (Char.ofNat next :: ·)
      else none
    else none

/-- The text of bytes that are well-formed UTF-8. -/
def decode? (bytes : List UInt8) : Option Text := decodeFrom? .between bytes

/-- Where lossy decoding stands: before a character, or inside one with some bytes to come, the
number read so far, and the least and greatest byte that may come next. -/
inductive LossyScan
  | between
  | inside (left : Nat) (code : Nat) (low : Nat) (high : Nat)
  deriving DecidableEq, Repr

/-- Takes a byte before a character: what it shows at once, and where decoding stands after it. -/
def enter (b : UInt8) : Text × LossyScan :=
  let code := b.toNat
  if code < 0x80 then ([Char.ofNat code], .between)
  else if code < 0xC2 then (['\ufffd'], .between)
  else if code < 0xE0 then ([], .inside 1 (code - 0xC0) 0x80 0xBF)
  else if code < 0xF0 then
    ([], .inside 2 (code - 0xE0) (if code = 0xE0 then 0xA0 else 0x80)
      (if code = 0xED then 0x9F else 0xBF))
  else if code < 0xF5 then
    ([], .inside 3 (code - 0xF0) (if code = 0xF0 then 0x90 else 0x80)
      (if code = 0xF4 then 0x8F else 0xBF))
  else (['\ufffd'], .between)

/-- The text of any bytes from here on. -/
def lossyFrom : LossyScan → List UInt8 → Text
  | .between, [] => []
  | .inside _ _ _ _, [] => ['\ufffd']
  | .between, b :: rest => (enter b).1 ++ lossyFrom (enter b).2 rest
  | .inside left code low high, b :: rest =>
    if low ≤ b.toNat ∧ b.toNat ≤ high then
      let next := code * 64 + (b.toNat - 0x80)
      if 1 < left then lossyFrom (.inside (left - 1) next 0x80 0xBF) rest
      else Char.ofNat next :: lossyFrom .between rest
    else '\ufffd' :: (enter b).1 ++ lossyFrom (enter b).2 rest

/-- The text of any bytes; the longest start of a character that is not completed, or a byte that
starts none, is shown as one replacement character. -/
def decodeLossy (bytes : List UInt8) : Text := lossyFrom .between bytes

end FluentAssist.Utf8
