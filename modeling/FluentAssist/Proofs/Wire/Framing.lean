import FluentAssist.Proofs.Text.Search
import FluentAssist.Proofs.Text.Utf8
import FluentAssist.Wire.Frame
import Mathlib.Data.List.DropRight
import Mathlib.Data.List.Induction
import Mathlib.Tactic.MkIffOfInductiveProp

/-!
# Frames are read as they were put together

A `Packet` is a frame by its parts: header lines, the empty line and the body. It is well-formed if
the last length among its header lines is that of the body. The other lines are free, and so are the
bytes of the body.

`read_packet` takes a well-formed packet from the start of a stream: exactly its bytes are used up,
and what is found depends on the body alone. A written frame is such a packet, so values that are
written one after another are read again in their order, whatever follows them.
-/

set_option autoImplicit false

namespace FluentAssist.Frame

/-! ## Lines -/

/-- The bytes of a line. A carriage return before the line feed belongs to the text. -/
def lineBytes (line : Text) : List UInt8 := Utf8.encode line ++ [lineFeed]

/-- A line ends at its first line feed. -/
theorem splitLine_append_lineFeed {content : List UInt8} (h : lineFeed ∉ content)
    (rest : List UInt8) :
    splitLine (content ++ [lineFeed] ++ rest) = (content ++ [lineFeed], rest) := by
  induction content with
  | nil => simp [splitLine]
  | cons b content ih =>
    obtain ⟨hb, hcontent⟩ := not_or.1 (List.mem_cons.not.1 h)
    rw [List.cons_append, List.cons_append, splitLine, if_neg (Ne.symm hb), ih hcontent]

/-- A carriage return or line feed at the end of a line is trimmed away. -/
theorem trimLine_concat {c : Char} (h : c = '\r' ∨ c = '\n') (line : Text) :
    trimLine (line ++ [c]) = trimLine line := by
  rcases h with rfl | rfl <;> simp [trimLine]

/-- The line feed at the end of a line says nothing. -/
theorem headerLine_append_lineFeed (line : Text) :
    headerLine (line ++ ['\n']) = headerLine line := by
  unfold headerLine
  rw [trimLine_concat (.inr rfl)]

/-- A line is sent as its characters and a line feed. -/
theorem lineBytes_eq_encode (line : Text) : lineBytes line = Utf8.encode (line ++ ['\n']) :=
  (Utf8.encode_append line ['\n']).symm

/-- A complete line is read, and the reading goes on behind it. -/
theorem readHeader_of_splitLine {bytes line rest : List UInt8}
    (hsplit : splitLine bytes = (line, rest)) (hends : endsLine line = true) (ended : Bool)
    (length : Option Nat) :
    readHeader ended length bytes =
      match Utf8.decode? line with
      | none => .broken .invalidText
      | some text =>
        match headerLine text with
        | .error fault => .broken fault
        | .ok .last => .complete length rest
        | .ok (.length found) => readHeader ended (some found) rest
        | .ok .other => readHeader ended length rest := by
  cases bytes with
  | nil =>
    cases hsplit
    simp [endsLine] at hends
  | cons b later =>
    rw [readHeader, hsplit]
    dsimp only
    rw [hends]
    exact if_neg (by simp)

/-- A header is read line by line. -/
theorem readHeader_line {line : Text} (hline : '\n' ∉ line) (ended : Bool) (length : Option Nat)
    (rest : List UInt8) :
    readHeader ended length (lineBytes line ++ rest) =
      match headerLine line with
      | .error fault => .broken fault
      | .ok .last => .complete length rest
      | .ok (.length found) => readHeader ended (some found) rest
      | .ok .other => readHeader ended length rest := by
  have hsplit : splitLine (lineBytes line ++ rest) = (lineBytes line, rest) :=
    splitLine_append_lineFeed (Utf8.lineFeed_not_mem_encode hline) rest
  have hends : endsLine (lineBytes line) = true := by simp [endsLine, lineBytes]
  rw [readHeader_of_splitLine hsplit hends, lineBytes_eq_encode, Utf8.decode?_encode]
  dsimp only
  rw [headerLine_append_lineFeed]

/-! ## Packets -/

/-- What a header line says behind the name of the length, if it has that name. -/
def lengthValue? (line : Text) : Option Text :=
  (Text.splitOnce? ':' (trimLine line)).bind fun (name, value) =>
    if isLengthName name then some value else none

/-- The length that header lines declare: the last one counts. -/
def declaredLength? (lines : List Text) : Option Nat :=
  (lines.filterMap lengthValue?).getLast?.bind fun value => natural? (Text.trim value)

/-- A line of a header before its end. If it is a length, it is a number. -/
@[mk_iff]
structure IsHeaderLine (line : Text) : Prop where
  unbroken : '\n' ∉ line
  nonempty : trimLine line ≠ []
  natural : ∀ value ∈ lengthValue? line, (natural? (Text.trim value)).isSome

instance (line : Text) : Decidable (IsHeaderLine line) :=
  decidable_of_iff' _ (isHeaderLine_iff line)

/-- A frame by its parts. -/
structure Packet where
  lines : List Text
  /-- The empty line. -/
  blank : Text
  body : List UInt8

/-- A packet as it is sent. -/
def Packet.bytes (packet : Packet) : List UInt8 :=
  packet.lines.flatMap lineBytes ++ lineBytes packet.blank ++ packet.body

/-- The message of a packet, if its body is one. -/
def Packet.message? (packet : Packet) : Option Json := body? packet.body

/-- A packet that a reader understands up to its body, which is free. -/
@[mk_iff]
structure Packet.WellFormed (packet : Packet) : Prop where
  lines : ∀ line ∈ packet.lines, IsHeaderLine line
  blank_unbroken : '\n' ∉ packet.blank
  blank_empty : trimLine packet.blank = []
  declared : declaredLength? packet.lines = some packet.body.length

instance (packet : Packet) : Decidable packet.WellFormed :=
  decidable_of_iff' _ (Packet.wellFormed_iff packet)

/-- A line before the end of a header declares a length or says nothing. -/
theorem IsHeaderLine.headerLine_eq {line : Text} (h : IsHeaderLine line) :
    headerLine line =
      match (lengthValue? line).bind fun value => natural? (Text.trim value) with
      | some bytes => .ok (.length bytes)
      | none => .ok .other := by
  have hempty : (trimLine line).isEmpty = false := by simpa using h.nonempty
  unfold headerLine
  simp only [hempty, Bool.false_eq_true, if_false]
  cases hsplit : Text.splitOnce? ':' (trimLine line) with
  | none => simp [lengthValue?, hsplit]
  | some parts =>
    obtain ⟨name, value⟩ := parts
    by_cases hname : isLengthName name = true
    · have hvalue : lengthValue? line = some value := by simp [lengthValue?, hsplit, hname]
      obtain ⟨bytes, hbytes⟩ := Option.isSome_iff_exists.1 (h.natural value hvalue)
      simp [hvalue, hname, hbytes]
    · simp [lengthValue?, hsplit, hname]

/-- The last line with a length counts. -/
theorem declaredLength?_concat (lines : List Text) (line : Text) :
    declaredLength? (lines ++ [line]) =
      match lengthValue? line with
      | some value => natural? (Text.trim value)
      | none => declaredLength? lines := by
  unfold declaredLength?
  rw [List.filterMap_append, List.getLast?_append]
  cases hvalue : lengthValue? line with
  | none => simp [hvalue]
  | some value => simp [hvalue]

/-- After some lines a header has the length that they declare, or the one it had. -/
theorem readHeader_lines {lines : List Text} (hlines : ∀ line ∈ lines, IsHeaderLine line)
    (ended : Bool) (length : Option Nat) (rest : List UInt8) :
    readHeader ended length (lines.flatMap lineBytes ++ rest) =
      readHeader ended ((declaredLength? lines).or length) rest := by
  -- The last line counts, so the lines are taken from the end.
  induction lines using List.reverseRecOn generalizing rest with
  | nil => rfl
  | append_singleton lines line ih =>
    have hline : IsHeaderLine line := hlines line (by simp)
    have hbefore : ∀ line ∈ lines, IsHeaderLine line :=
      fun line hmem => hlines line (List.mem_append_left _ hmem)
    rw [List.flatMap_append, List.flatMap_singleton, List.append_assoc, ih hbefore,
      readHeader_line hline.unbroken, hline.headerLine_eq, declaredLength?_concat]
    cases hvalue : lengthValue? line with
    | none => rfl
    | some value =>
      obtain ⟨bytes, hbytes⟩ := Option.isSome_iff_exists.1 (hline.natural value hvalue)
      simp [hbytes]

/-- What is found in a frame with a body. -/
def Incoming.ofBody (bytes rest : List UInt8) : Incoming :=
  match body? bytes with
  | some value => .message value rest
  | none => .malformed rest

/-- A body is read as long as it is, whatever follows. -/
theorem readBody_append (ended : Bool) (bytes rest : List UInt8) :
    readBody ended bytes.length (bytes ++ rest) = .ofBody bytes rest := by
  unfold readBody
  rw [if_neg (by simp), List.take_left, List.drop_left]
  rfl

/-- A well-formed packet is taken from a stream as a whole, and what is found depends on its body
alone. -/
theorem read_packet {packet : Packet} (hwell : packet.WellFormed) (ended : Bool)
    (rest : List UInt8) :
    read ended (packet.bytes ++ rest) = .ofBody packet.body rest := by
  have hbytes : packet.bytes ++ rest =
      packet.lines.flatMap lineBytes ++ (lineBytes packet.blank ++ (packet.body ++ rest)) := by
    simp [Packet.bytes]
  have hnonempty : (packet.bytes ++ rest).isEmpty = false := by simp [hbytes, lineBytes]
  have hblank : headerLine packet.blank = .ok .last := by simp [headerLine, hwell.blank_empty]
  have hheader : readHeader ended none (packet.bytes ++ rest) =
      .complete (some packet.body.length) (packet.body ++ rest) := by
    rw [hbytes, readHeader_lines hwell.lines, readHeader_line hwell.blank_unbroken, hblank,
      hwell.declared]
    rfl
  unfold read
  rw [hnonempty, hheader, ← readBody_append ended]
  rfl

/-! ## Written frames -/

/-- At least one digit, and nothing else. -/
structure IsDecimal (digits : Text) : Prop where
  ne_nil : digits ≠ []
  isDigit : ∀ c ∈ digits, c.isDigit = true

/-- The digits of a number are decimal. -/
theorem isDecimal_toDigits (n : Nat) : IsDecimal (Nat.toDigits 10 n) where
  ne_nil := Nat.toDigits_ne_nil
  isDigit _ hc := Nat.isDigit_of_mem_toDigits (by decide) (by decide) hc

/-- The digits of a number are read as the number. -/
theorem natural?_toDigits {n : Nat} (h : n < wordSize64) :
    natural? (Nat.toDigits 10 n) = some n := by
  obtain ⟨hne, hdigit⟩ := isDecimal_toDigits n
  have hplus : (Nat.toDigits 10 n).head? ≠ some '+' :=
    fun hhead => absurd (hdigit '+' (List.mem_of_mem_head? hhead)) (by decide)
  have hdigits : (Nat.toDigits 10 n).all Char.isDigit = true := List.all_eq_true.2 hdigit
  have hvalue : (Nat.toDigits 10 n).foldl (fun n c => n * 10 + Json.digitValue c) 0 = n := by
    have hread : Nat.ofDigitChars 10 (Nat.toDigits 10 n) 0 = n := Nat.ofDigitChars_ten_toDigits
    rw [Nat.ofDigitChars_eq_foldl] at hread
    simpa only [Json.digitValue, Nat.mul_comm] using hread
  unfold natural?
  simp only [if_neg hplus, hdigits, hvalue, h, if_true]
  simp [hne]

/-- A digit is no white space. -/
theorem isBlank_of_isDigit {c : Char} (h : c.isDigit = true) : Text.isBlank c = false := by
  have hbounds : 48 ≤ c.toNat ∧ c.toNat ≤ 57 := by
    simpa [Char.isDigit, UInt32.le_iff_toNat_le] using h
  simp only [Text.isBlank, Bool.or_eq_false_iff, Bool.and_eq_false_iff, decide_eq_false_iff_not,
    beq_eq_false_iff_ne]
  omega

/-- The line that declares a length. -/
def lengthLine (digits : Text) : Text := "Content-Length: ".toList ++ digits ++ ['\r']

section LengthLine

variable {digits : Text} (hdigits : IsDecimal digits)
include hdigits

/-- Trimming at the end stops at a digit. -/
theorem dropWhile_reverse_digits {p : Char → Bool}
    (hp : ∀ c : Char, c.isDigit = true → p c = false) (text : Text) :
    ((text ++ digits).reverse.dropWhile p).reverse = text ++ digits := by
  refine List.rdropWhile_eq_self_iff.2 fun hne => ?_
  rw [List.getLast_append_of_ne_nil hne hdigits.ne_nil]
  simp [hp _ (hdigits.isDigit _ (List.getLast_mem _))]

/-- Digits behind a blank are trimmed to themselves. -/
theorem trim_digits : Text.trim (' ' :: digits) = digits := by
  have hstart : Text.trimStart (' ' :: digits) = digits := by
    obtain ⟨d, later, rfl⟩ := List.exists_cons_of_ne_nil hdigits.ne_nil
    have hspace : ∀ c ∈ [' '], Text.isBlank c = true := List.forall_mem_singleton.2 rfl
    have hd : d.isDigit = true := hdigits.isDigit d List.mem_cons_self
    exact Text.trimStart_append hspace (isBlank_of_isDigit hd) later
  rw [Text.trim, hstart]
  exact dropWhile_reverse_digits hdigits (fun _ => isBlank_of_isDigit) []

/-- Behind digits a carriage return is trimmed away. -/
theorem trimLine_digits (text : Text) : trimLine (text ++ digits ++ ['\r']) = text ++ digits := by
  have hends (c : Char) (hc : c.isDigit = true) : (c == '\r' || c == '\n') = false := by
    simp only [Bool.or_eq_false_iff, beq_eq_false_iff_ne]
    constructor
    · rintro rfl
      exact absurd hc (by decide)
    · rintro rfl
      exact absurd hc (by decide)
  rw [trimLine_concat (.inl rfl)]
  exact dropWhile_reverse_digits hdigits hends text

/-- The line of a length is trimmed to its name and digits. -/
theorem trimLine_lengthLine :
    trimLine (lengthLine digits) = "Content-Length: ".toList ++ digits :=
  trimLine_digits hdigits _

/-- The value in the line of a length is its digits behind a blank. -/
theorem lengthValue?_lengthLine : lengthValue? (lengthLine digits) = some (' ' :: digits) := by
  have hsplit : Text.splitOnce? ':' ("Content-Length: ".toList ++ digits) =
      some ("Content-Length".toList, ' ' :: digits) :=
    Text.splitOnce?_eq_some_iff.2 ⟨by simp, by decide⟩
  rw [lengthValue?, trimLine_lengthLine hdigits, hsplit]
  rfl

/-- The line of a length is a header line. -/
theorem isHeaderLine_lengthLine (hnatural : (natural? digits).isSome) :
    IsHeaderLine (lengthLine digits) where
  unbroken := by
    have hfeed : '\n' ∉ digits := fun hmem => absurd (hdigits.isDigit _ hmem) (by decide)
    unfold lengthLine
    rw [List.mem_append, List.mem_append, not_or, not_or]
    exact ⟨⟨by decide, hfeed⟩, by decide⟩
  nonempty := by
    rw [trimLine_lengthLine hdigits]
    exact List.append_ne_nil_of_right_ne_nil _ hdigits.ne_nil
  natural := by
    intro value hvalue
    rw [lengthValue?_lengthLine hdigits] at hvalue
    cases hvalue
    rw [trim_digits hdigits]
    exact hnatural

end LengthLine

/-- The packet of a value. -/
def Packet.ofValue (value : Json) : Packet where
  lines := [lengthLine (Nat.toDigits 10 (Frame.body value).length)]
  blank := ['\r']
  body := Frame.body value

/-- The packet of a value is what is written for it. -/
theorem bytes_ofValue (value : Json) : (Packet.ofValue value).bytes = write value := by
  have hends : "\r\n\r\n".toList = ['\r'] ++ ['\n'] ++ (['\r'] ++ ['\n']) := by simp
  unfold write ofBody header Packet.bytes Packet.ofValue lengthLine
  simp only [hends, List.flatMap_singleton, lineBytes_eq_encode, Utf8.encode_append,
    List.append_assoc]

/-- The packet of a value is well-formed if its length fits into a word. -/
theorem wellFormed_ofValue {value : Json} (hfits : (Frame.body value).length < wordSize64) :
    (Packet.ofValue value).WellFormed := by
  have hdigits := isDecimal_toDigits (body value).length
  have hnatural := natural?_toDigits hfits
  refine ⟨List.forall_mem_singleton.2 ?_, by simp [Packet.ofValue], rfl, ?_⟩
  · exact isHeaderLine_lengthLine hdigits (Option.isSome_iff_exists.2 ⟨_, hnatural⟩)
  · simp [declaredLength?, Packet.ofValue, lengthValue?_lengthLine hdigits, trim_digits hdigits,
      hnatural]

/-- A value that the other side can read: it is what its body says, and the length of its body is a
number of 64 bits, as that of any buffer. -/
structure Sendable (value : Json) : Prop where
  decoded : body? (body value) = some value
  fits : (body value).length < wordSize64

/-- Takes some messages from the start of a stream. -/
def readMessages? (ended : Bool) : Nat → List UInt8 → Option (List Json × List UInt8)
  | 0, bytes => some ([], bytes)
  | count + 1, bytes =>
    match read ended bytes with
    | .message value rest =>
      (readMessages? ended count rest).map fun (values, left) => (value :: values, left)
    | _ => none

/-- A written value is read back, whatever follows. -/
theorem read_write {value : Json} (h : Sendable value) (ended : Bool) (rest : List UInt8) :
    read ended (write value ++ rest) = .message value rest := by
  rw [← bytes_ofValue, read_packet (wellFormed_ofValue h.fits), Incoming.ofBody,
    show (Packet.ofValue value).body = body value from rfl, h.decoded]

/-- Written values are read back in their order, whatever follows. -/
theorem readMessages?_append {values : List Json} (hvalues : ∀ value ∈ values, Sendable value)
    (ended : Bool) (rest : List UInt8) :
    readMessages? ended values.length (values.flatMap write ++ rest) = some (values, rest) := by
  induction values with
  | nil => rfl
  | cons value values ih =>
    obtain ⟨hvalue, hvalues⟩ := List.forall_mem_cons.1 hvalues
    rw [List.flatMap_cons, List.append_assoc, List.length_cons, readMessages?, read_write hvalue]
    dsimp only
    rw [ih hvalues]
    rfl

/-- **Written messages are read again.** Messages that are written one after another are read in
their order, and what follows them is left as it is. If nothing follows, the stream is at its
end. -/
theorem read_written_messages (values : List Json) (hvalues : ∀ value ∈ values, Sendable value)
    (ended : Bool) (rest : List UInt8) :
    readMessages? ended values.length (values.flatMap write ++ rest) = some (values, rest) ∧
      ∃ left, readMessages? true values.length (values.flatMap write) = some (values, left) ∧
        read true left = .ended := by
  have hlast := readMessages?_append hvalues true []
  rw [List.append_nil] at hlast
  exact ⟨readMessages?_append hvalues ended rest, [], hlast, rfl⟩

/-- A text with an empty line, like the one that ends a header, is read as a text. -/
theorem read_written_emptyLine :
    let values : List Json :=
      [.str "\r\n\r\né", .arr [.num (.int 1), .null]]
    readMessages? false 2 (values.flatMap write ++ [lineFeed]) = some (values, [lineFeed]) ∧
      ∃ left, readMessages? true 2 (values.flatMap write) = some (values, left) ∧
        read true left = .ended := by
  have htext : Sendable (.str "\r\n\r\né") := ⟨rfl, by decide⟩
  have hitems : Sendable (.arr [.num (.int 1), .null]) := ⟨rfl, by decide⟩
  exact read_written_messages _
    (List.forall_mem_cons.2 ⟨htext, List.forall_mem_singleton.2 hitems⟩) false [lineFeed]

end FluentAssist.Frame
