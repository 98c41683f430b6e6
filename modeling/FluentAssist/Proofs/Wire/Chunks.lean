import FluentAssist.Proofs.Wire.Framing

/-!
# Streams that come in pieces

A stream may come in any pieces, also with a cut in the middle of a line or of a character. What was
found at the start of a stream is found there whatever comes later (`read_append`): a reading that
needs more bytes says so instead of guessing. So nothing is lost or read twice if the incomplete
rest of one piece is put in front of the next one.
-/

set_option autoImplicit false

namespace FluentAssist.Frame

/-- A line that has its end is not changed by more bytes. -/
theorem splitLine_append {bytes : List UInt8} (h : endsLine (splitLine bytes).1 = true)
    (more : List UInt8) :
    splitLine (bytes ++ more) = ((splitLine bytes).1, (splitLine bytes).2 ++ more) := by
  induction bytes with
  | nil => simp [splitLine, endsLine] at h
  | cons b rest ih =>
    by_cases hb : b = lineFeed
    · simp [splitLine, hb]
    · simp only [splitLine, if_neg hb] at h
      have hrest : endsLine (splitLine rest).1 = true := by
        cases hline : (splitLine rest).1 with
        | nil => simp [hline, endsLine, hb] at h
        | cons c line => simpa [hline, endsLine, List.getLast?_cons_cons] using h
      simp only [List.cons_append, splitLine, if_neg hb, ih hrest]

/-- A header with more bytes behind it. -/
def Header.followedBy (more : List UInt8) : Header → Header
  | .complete length rest => .complete length (rest ++ more)
  | .waiting => .waiting
  | .broken fault => .broken fault

/-- What a header says does not depend on the bytes behind it. -/
theorem readHeader_append {bytes : List UInt8} {length : Option Nat}
    (h : readHeader false length bytes ≠ .waiting) (ended : Bool) (more : List UInt8) :
    readHeader ended length (bytes ++ more) =
      (readHeader false length bytes).followedBy more := by
  -- Only complete lines are read, so each of them is also the first line of the longer stream.
  have hfirst {length : Option Nat} {b : UInt8} {rest : List UInt8}
      (hcomplete : ¬(!false && !endsLine (splitLine (b :: rest)).1) = true) :=
    have hends : endsLine (splitLine (b :: rest)).1 = true := by simpa using hcomplete
    readHeader_of_splitLine (splitLine_append hends more) hends ended length
  fun_induction readHeader false length bytes with
  | case1 length hended => cases hended
  | case2 => exact absurd rfl h
  | case3 => exact absurd rfl h
  | case4 length b rest line hcomplete hdecode =>
    rw [hfirst hcomplete, hdecode]
    rfl
  | case5 length b rest line hcomplete text hdecode fault hline =>
    rw [hfirst hcomplete, hdecode]
    simp only [hline, Header.followedBy]
  | case6 length b rest line hcomplete text hdecode hline =>
    rw [hfirst hcomplete, hdecode]
    simp only [hline, Header.followedBy]
  | case7 length b rest line hcomplete text hdecode found hline ih =>
    rw [hfirst hcomplete, hdecode]
    simp only [hline, ih h]
  | case8 length b rest line hcomplete text hdecode hline ih =>
    rw [hfirst hcomplete, hdecode]
    simp only [hline, ih h]

/-- What stands at the start of a stream with more bytes behind it. -/
def Incoming.followedBy (more : List UInt8) : Incoming → Incoming
  | .message value rest => .message value (rest ++ more)
  | .malformed rest => .malformed (rest ++ more)
  | .waiting => .waiting
  | .ended => .ended
  | .broken fault => .broken fault

/-- A body that is complete or broken is not changed by more bytes. -/
theorem readBody_followedBy {length : Nat} {bytes : List UInt8}
    (h : readBody false length bytes ≠ .waiting) (ended : Bool) (more : List UInt8) :
    readBody ended length (bytes ++ more) = (readBody false length bytes).followedBy more := by
  unfold readBody at h ⊢
  by_cases hshort : bytes.length < length
  · simp [hshort] at h
  · have henough : length ≤ bytes.length := Nat.le_of_not_lt hshort
    have hlong : ¬(bytes ++ more).length < length := by
      rw [List.length_append]
      omega
    rw [if_neg hshort, if_neg hlong, List.take_append_of_le_length henough,
      List.drop_append_of_le_length henough]
    cases body? (bytes.take length) with
    | none => rfl
    | some value => rfl

/-- What is found at the start of a stream is found there whatever comes later. -/
theorem read_append {bytes : List UInt8} {found : Incoming} (hread : read false bytes = found)
    (hfound : found ≠ .waiting) (ended : Bool) (more : List UInt8) :
    read ended (bytes ++ more) = found.followedBy more := by
  subst hread
  cases bytes with
  | nil => exact absurd rfl hfound
  | cons b rest =>
    have hheader : readHeader false none (b :: rest) ≠ .waiting := by
      intro hwaiting
      simp [read, hwaiting] at hfound
    unfold read at hfound ⊢
    rw [readHeader_append hheader]
    cases hcase : readHeader false none (b :: rest) with
    | waiting => exact absurd hcase hheader
    | broken fault => rfl
    | complete length after =>
      rw [hcase] at hfound
      cases length with
      | none => rfl
      | some length => exact readBody_followedBy hfound ended more

/-! ## Whole streams -/

/-- The values of a stream, by what stands at its start. -/
theorem values_readAll (ended : Bool) (bytes : List UInt8) :
    values (readAll ended bytes) =
      match read ended bytes with
      | .message value rest => value :: values (readAll ended rest)
      | .malformed rest => values (readAll ended rest)
      | _ => [] := by
  rw [readAll]
  cases hread : read ended bytes <;> rfl

/-- How a stream goes on, by what stands at its start. -/
theorem unread?_eq (ended : Bool) (bytes : List UInt8) :
    unread? ended bytes =
      match read ended bytes with
      | .message _ rest => unread? ended rest
      | .malformed rest => unread? ended rest
      | .waiting => some bytes
      | _ => none := by
  rw [unread?]
  split
  all_goals
    rename_i hread
    rw [hread]

/-- A stream that goes on is read further from where it stopped, and one that is over stays
over. -/
theorem readAll_append (ended : Bool) (bytes more : List UInt8) :
    values (readAll ended (bytes ++ more)) =
        values (readAll false bytes) ++
          (unread? false bytes).elim [] (fun left => values (readAll ended (left ++ more))) ∧
      unread? ended (bytes ++ more) =
        (unread? false bytes).bind fun left => unread? ended (left ++ more) := by
  -- Along the complete frames, each of which is read alike with more bytes behind it.
  fun_induction unread? false bytes with
  | case1 bytes value rest hread ih =>
    have hmore := read_append hread (by simp) ended more
    rw [values_readAll ended, values_readAll false, unread?_eq ended, hmore, hread]
    exact ⟨congrArg (value :: ·) ih.1, ih.2⟩
  | case2 bytes rest hread ih =>
    have hmore := read_append hread (by simp) ended more
    rw [values_readAll ended, values_readAll false, unread?_eq ended, hmore, hread]
    exact ih
  | case3 bytes hread =>
    rw [values_readAll false, hread]
    exact ⟨rfl, rfl⟩
  | case4 bytes hread =>
    have hmore := read_append hread (by simp) ended more
    rw [values_readAll ended, values_readAll false, unread?_eq ended, hmore, hread]
    exact ⟨rfl, rfl⟩
  | case5 bytes fault hread =>
    have hmore := read_append hread (by simp) ended more
    rw [values_readAll ended, values_readAll false, unread?_eq ended, hmore, hread]
    exact ⟨rfl, rfl⟩

/-- Packets are read one after another, and nothing of them is left. -/
theorem readAll_packets {packets : List Packet} (hwell : ∀ packet ∈ packets, packet.WellFormed)
    (ended : Bool) :
    values (readAll ended (packets.flatMap Packet.bytes)) =
        packets.filterMap Packet.message? ∧
      unread? ended (packets.flatMap Packet.bytes) = if ended then none else some [] := by
  induction packets with
  | nil =>
    rw [values_readAll, unread?_eq]
    cases ended with
    | false => exact ⟨rfl, rfl⟩
    | true => exact ⟨rfl, rfl⟩
  | cons packet later ih =>
    obtain ⟨hpacket, hlater⟩ := List.forall_mem_cons.1 hwell
    obtain ⟨hvalues, hunread⟩ := ih hlater
    rw [List.flatMap_cons, values_readAll, unread?_eq, read_packet hpacket, Incoming.ofBody,
      ← Packet.message?]
    cases hmessage : packet.message? with
    | none =>
      rw [List.filterMap_cons_none hmessage]
      exact ⟨hvalues, hunread⟩
    | some value =>
      rw [List.filterMap_cons_some hmessage]
      exact ⟨congrArg (value :: ·) hvalues, hunread⟩

end FluentAssist.Frame
