import FluentAssist.Text.Search
import FluentAssist.Url.DomainForms
import FluentAssist.Url.Label
import FluentAssist.Url.Punycode

/-!
# Domain names

A domain name is compared and sent in lower-case ASCII. `domain?` brings every character into its
plain form, composes letters and marks, checks each label and writes labels that go beyond ASCII in
Punycode behind `xn--`. A label that already stands behind `xn--` has to decode to a label in
plain form.
-/

set_option autoImplicit false

namespace FluentAssist.Url

open Text

/-- The plain form of a character of a domain name; none for a character that no domain holds. -/
def plainForm? (c : Char) : Option Text :=
  if c.toNat < 128 then some [c.toLower]
  else if disallowedRanges.holds c.toNat then none
  else if ignoredRanges.holds c.toNat then some []
  else
    match CodeRun.find? formRuns c.toNat with
    | some run => some (run.codes.map fun code => Char.ofNat (code + (c.toNat - run.first)))
    | none => some [c]

/-- The plain form of a text. -/
def plainText? (text : Text) : Option Text :=
  (text.mapM plainForm?).map fun forms => composed forms.flatten

/-- What stands before an encoded label. -/
def encodedMark : Text := "xn--".toList

/-- The longest text behind the mark of an encoded label. -/
def longestEncoded : Nat := 2000

/-- The longest label that is encoded. -/
def longestLabel : Nat := 1000

/-- Whether a character is one of ASCII. -/
def isAscii (c : Char) : Bool := c.toNat < 128

/-- The characters that a plain label stands for. An encoded label decodes to plain characters, not
all of them ASCII. -/
def meaning? (label : Text) : Option Text :=
  match dropLiteral? encodedMark label with
  | none => some label
  | some written => do
    if longestEncoded < written.length || !written.all isAscii then none
    else
      let decoded ← Punycode.decode? written
      if !decoded.all isAscii && plainText? decoded == some decoded then some decoded else none

/-- A plain label in ASCII. -/
def asciiLabel? (label : Text) : Option Text :=
  if label.all isAscii then some label
  else if longestLabel < label.length then none
  else some (encodedMark ++ Punycode.encode label)

/-- Characters that no domain holds. -/
def isForbidden (c : Char) : Bool :=
  c.toNat ≤ 0x20 || c.toNat == 0x7F ||
    ['#', '/', ':', '<', '>', '?', '@', '[', '\\', ']', '^', '|', '%'].contains c

/-- A domain name in lower-case ASCII; it is empty if all its characters are lost. -/
def domain? (text : Text) : Option Text := do
  let labels := pieces '.' (← plainText? text)
  let meanings ← labels.mapM meaning?
  let ascii := ['.'].intercalate (← labels.mapM asciiLabel?)
  let isOneWay := !meanings.any runsRight || meanings.all readsOneWay
  if ascii.any isForbidden || !meanings.all isSoundLabel || !isOneWay then none
  else some ascii

end FluentAssist.Url
