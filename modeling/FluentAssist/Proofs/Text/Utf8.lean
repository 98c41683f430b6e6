import FluentAssist.Text.Utf8
import Mathlib.Tactic.Common

/-!
# Decoding what was encoded

A text is read back from its bytes, whatever bytes follow. The bytes of a character are a leading
byte and up to three continuations of six bits each; decoding collects the bits again. Only the
characters of ASCII have bytes below 128, so a line feed among the bytes is one of the text.
-/

set_option autoImplicit false

namespace FluentAssist.Utf8

/-- A text is encoded character by character. -/
theorem encode_cons (c : Char) (text : Text) :
    encode (c :: text) = String.utf8EncodeChar c ++ encode text := rfl

/-- Two texts one after the other are encoded one after the other. -/
@[simp] theorem encode_append (text more : Text) :
    encode (text ++ more) = encode text ++ encode more := List.flatMap_append

/-! ## One character -/

/-- Six bits with the mark of a continuation byte make one. -/
theorem continuation (bits : Nat) :
    (UInt8.ofNat (bits % 64 + 128)).toNat = bits % 64 + 128 ∧
      isContinuation (UInt8.ofNat (bits % 64 + 128)) = true := by
  have hbyte : (UInt8.ofNat (bits % 64 + 128)).toNat = bits % 64 + 128 := by
    rw [UInt8.toNat_ofNat']
    omega
  refine ⟨hbyte, ?_⟩
  simp only [isContinuation, hbyte, Bool.and_eq_true, decide_eq_true_eq]
  omega

/-- A continuation that is not the last adds six bits. -/
theorem decodeFrom?_continuation (left code least bits : Nat) (rest : List UInt8) :
    decodeFrom? (.inside (left + 2) code least) (UInt8.ofNat (bits % 64 + 128) :: rest) =
      decodeFrom? (.inside (left + 1) (code * 64 + bits % 64) least) rest := by
  obtain ⟨hbyte, hcontinues⟩ := continuation bits
  rw [decodeFrom?, if_pos hcontinues, hbyte]
  simp

/-- The last continuation completes the character. -/
theorem decodeFrom?_last {code least bits : Nat} {c : Char} (hcode : code * 64 + bits % 64 = c.toNat)
    (hleast : least ≤ c.toNat) (rest : List UInt8) :
    decodeFrom? (.inside 1 code least) (UInt8.ofNat (bits % 64 + 128) :: rest) =
      (decodeFrom? .between rest).map (c :: ·) := by
  obtain ⟨hbyte, hcontinues⟩ := continuation bits
  have hnext : code * 64 + (bits % 64 + 128 - 128) = c.toNat := by omega
  have hvalid : c.toNat.isValidChar := c.valid
  rw [decodeFrom?, if_pos hcontinues, hbyte]
  dsimp only
  rw [if_neg (Nat.lt_irrefl 1), hnext, if_pos ⟨hleast, hvalid⟩, Char.ofNat_toNat]

/-- The bytes of a character are decoded to it. -/
theorem decodeFrom?_utf8EncodeChar (c : Char) (rest : List UInt8) :
    decodeFrom? .between (String.utf8EncodeChar c ++ rest) =
      (decodeFrom? .between rest).map (c :: ·) := by
  have hval : c.val.toNat = c.toNat := rfl
  have hlarge : c.toNat < 0x110000 := by
    have hvalid := c.valid
    simp only [UInt32.isValidChar, Nat.isValidChar, hval] at hvalid
    omega
  rw [String.utf8EncodeChar.eq_1, hval]
  split_ifs with hone htwo hthree
  · have hbyte : (UInt8.ofNat c.toNat).toNat = c.toNat := by
      rw [UInt8.toNat_ofNat']
      omega
    rw [List.singleton_append, decodeFrom?, hbyte, if_pos (by omega), Char.ofNat_toNat]
  · have hbyte : (UInt8.ofNat (c.toNat / 64 % 32 + 192)).toNat = c.toNat / 64 + 192 := by
      rw [UInt8.toNat_ofNat']
      omega
    rw [List.cons_append, List.singleton_append, decodeFrom?, hbyte, if_neg (by omega),
      if_neg (by omega), if_pos (by omega), Nat.add_sub_cancel]
    exact decodeFrom?_last (by omega) (by omega) rest
  · have hbyte : (UInt8.ofNat (c.toNat / 4096 % 16 + 224)).toNat = c.toNat / 4096 + 224 := by
      rw [UInt8.toNat_ofNat']
      omega
    rw [List.cons_append, List.cons_append, List.singleton_append, decodeFrom?, hbyte,
      if_neg (by omega), if_neg (by omega), if_neg (by omega), if_pos (by omega),
      Nat.add_sub_cancel, decodeFrom?_continuation 0]
    exact decodeFrom?_last (by omega) (by omega) rest
  · have hbyte : (UInt8.ofNat (c.toNat / 262144 % 8 + 240)).toNat = c.toNat / 262144 + 240 := by
      rw [UInt8.toNat_ofNat']
      omega
    rw [List.cons_append, List.cons_append, List.cons_append, List.singleton_append, decodeFrom?,
      hbyte, if_neg (by omega), if_neg (by omega), if_neg (by omega), if_neg (by omega),
      if_pos (by omega), Nat.add_sub_cancel, decodeFrom?_continuation 1,
      decodeFrom?_continuation 0]
    exact decodeFrom?_last (by omega) (by omega) rest

/-- A line feed among the bytes of a character is the character. -/
theorem eq_of_lineFeed_mem {c : Char} (h : (10 : UInt8) ∈ String.utf8EncodeChar c) : c = '\n' := by
  have hnat : ∀ n : Nat, (10 : UInt8) = UInt8.ofNat n → n % 256 = 10 := by
    intro n hn
    have htoNat := congrArg UInt8.toNat hn
    rw [UInt8.toNat_ofNat'] at htoNat
    exact htoNat.symm
  rw [String.utf8EncodeChar.eq_1] at h
  split_ifs at h with hone htwo hthree
  · have hcode := hnat _ (List.mem_singleton.1 h)
    have hval : c.val.toNat = 10 := by omega
    have hchar : c.toNat = '\n'.toNat := hval
    rw [← Char.ofNat_toNat c, hchar, Char.ofNat_toNat]
  all_goals
    -- All bytes of a longer character are above 127.
    simp only [List.mem_cons, List.not_mem_nil, or_false] at h
    exfalso
  · rcases h with h | h
    all_goals
      have hcode := hnat _ h
      omega
  · rcases h with h | h | h
    all_goals
      have hcode := hnat _ h
      omega
  · rcases h with h | h | h | h
    all_goals
      have hcode := hnat _ h
      omega

/-! ## Texts -/

/-- The bytes of a text are decoded to it, whatever follows. -/
theorem decodeFrom?_encode_append (text : Text) (rest : List UInt8) :
    decodeFrom? .between (encode text ++ rest) =
      (decodeFrom? .between rest).map (text ++ ·) := by
  induction text with
  | nil => simp [encode]
  | cons c text ih =>
    rw [encode_cons, List.append_assoc, decodeFrom?_utf8EncodeChar, ih, Option.map_map]
    rfl

/-- A text is read back from its bytes. -/
theorem decode?_encode (text : Text) : decode? (encode text) = some text := by
  have hread := decodeFrom?_encode_append text []
  rw [List.append_nil] at hread
  rw [decode?, hread]
  simp [decodeFrom?]

/-- Only a line feed is encoded with the byte of a line feed. -/
theorem lineFeed_not_mem_encode {text : Text} (h : '\n' ∉ text) :
    (10 : UInt8) ∉ encode text := by
  intro hmem
  obtain ⟨c, hc, hbyte⟩ := List.mem_flatMap.1 hmem
  rw [eq_of_lineFeed_mem hbyte] at hc
  exact h hc

end FluentAssist.Utf8
