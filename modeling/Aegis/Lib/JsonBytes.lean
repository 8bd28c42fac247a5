/-
# Lib.JsonBytes — JSON decoders on bytes

`json.loads` of bytes guesses the encoding of the text from its first bytes. UTF-8 is decoded here; the
decoders of the wide encodings are a parameter, of which is relied on that they make no more
characters than there are bytes.
-/
import Aegis.Lib.TextLines

namespace Aegis.Lib

set_option autoImplicit false

abbrev Bytes := List UInt8

inductive Encoding
  | utf8
  | utf8Sig
  | utf16
  | utf16be
  | utf16le
  | utf32
  | utf32be
  | utf32le
  deriving DecidableEq, Repr

/-- `json.detect_encoding`. -/
def detectEncoding : Bytes → Encoding
  | 0x00 :: 0x00 :: 0xfe :: 0xff :: _ => .utf32
  | 0xff :: 0xfe :: 0x00 :: 0x00 :: _ => .utf32
  | 0xfe :: 0xff :: _ => .utf16
  | 0xff :: 0xfe :: _ => .utf16
  | 0xef :: 0xbb :: 0xbf :: _ => .utf8Sig
  | first :: second :: third :: fourth :: _ =>
      if first = 0 then if second = 0 then .utf32be else .utf16be
      else if second = 0 then if third = 0 ∧ fourth = 0 then .utf32le else .utf16le
      else .utf8
  | [first, second] => if first = 0 then .utf16be else if second = 0 then .utf16le else .utf8
  | _ => .utf8

/-- The decoders of UTF-16 and UTF-32. -/
structure WideText where
  decode : Encoding → Bytes → Option (List Char)
  length_le : ∀ encoding bytes text, decode encoding bytes = some text → text.length ≤ bytes.length

/-- `text.encode("utf-8")`. -/
def encodeUtf8 (text : List Char) : Bytes := text.flatMap String.utf8EncodeChar

/-- `bytes.decode("utf-8")`. -/
def decodeUtf8 (bytes : Bytes) : Option (List Char) :=
  (String.fromUTF8? bytes.toByteArray).map String.toList

/-- `bytes.decode(json.detect_encoding(bytes))`. -/
def decodeBytes (wide : WideText) (bytes : Bytes) : Option (List Char) :=
  match detectEncoding bytes with
  | .utf8 => decodeUtf8 bytes
  | .utf8Sig => decodeUtf8 (bytes.drop 3)
  | encoding => wide.decode encoding bytes

theorem length_le_encodeUtf8 (text : List Char) : text.length ≤ (encodeUtf8 text).length := by
  induction text with
  | nil => exact Nat.le_refl _
  | cons c text ih =>
      have one : 1 ≤ (String.utf8EncodeChar c).length := by
        rw [String.length_utf8EncodeChar]
        exact Char.utf8Size_pos c
      rw [encodeUtf8, List.flatMap_cons, List.length_append, List.length_cons]
      unfold encodeUtf8 at ih
      omega

/-- The bytes of a text are decoded as this text, and no others are. -/
theorem decodeUtf8_eq_some {bytes : Bytes} {text : List Char} :
    decodeUtf8 bytes = some text ↔ bytes = encodeUtf8 text := by
  unfold decodeUtf8
  constructor
  · intro decoded
    obtain ⟨held, read, rfl⟩ := Option.map_eq_some_iff.mp decoded
    unfold String.fromUTF8? at read
    split at read
    · rename_i valid
      obtain rfl := Option.some.inj read
      have same : bytes.toByteArray =
          (encodeUtf8 (String.fromUTF8 bytes.toByteArray valid).toList).toByteArray :=
        (String.utf8Encode_toList (b := String.fromUTF8 bytes.toByteArray valid)).symm
      have data := congrArg ByteArray.data same
      rw [List.data_toByteArray, List.data_toByteArray] at data
      simpa using data
    · cases read
  · rintro rfl
    have same : (encodeUtf8 text).toByteArray = (String.ofList text).toUTF8 := rfl
    rw [same, fromUTF8?_toUTF8, Option.map_some, String.toList_ofList]

theorem length_le_of_decodeBytes {wide : WideText} {bytes : Bytes} {text : List Char}
    (decoded : decodeBytes wide bytes = some text) : text.length ≤ bytes.length := by
  unfold decodeBytes at decoded
  split at decoded
  · rw [decodeUtf8_eq_some.mp decoded]
    exact length_le_encodeUtf8 text
  · have dropped : (bytes.drop 3).length ≤ bytes.length := by simp
    rw [decodeUtf8_eq_some.mp decoded] at dropped
    exact Nat.le_trans (length_le_encodeUtf8 text) dropped
  · exact wide.length_le _ _ _ decoded

theorem utf8EncodeChar_ascii {c : Char} (ascii : c.toNat < 128) :
    String.utf8EncodeChar c = [c.val.toUInt8] := by
  refine String.utf8EncodeChar_eq_singleton ?_
  rw [Char.utf8Size, if_pos]
  exact UInt32.le_iff_toNat_le.mpr (Nat.le_of_lt_succ ascii)

/-- A text of ASCII has as many bytes as characters. -/
theorem length_encodeUtf8 {text : List Char} (ascii : ∀ c ∈ text, c.toNat < 128) :
    (encodeUtf8 text).length = text.length := by
  induction text with
  | nil => rfl
  | cons c text ih =>
      obtain ⟨here, later⟩ := List.forall_mem_cons.mp ascii
      have rest := ih later
      unfold encodeUtf8 at rest ⊢
      rw [List.flatMap_cons, utf8EncodeChar_ascii here, List.length_append, rest, List.length_cons]
      exact Nat.add_comm 1 _

/-- A text that starts with two visible characters of ASCII is taken for UTF-8. -/
theorem decodeBytes_encodeUtf8 (wide : WideText) {first second : Char} (rest : List Char)
    (isFirst : 0 < first.toNat ∧ first.toNat < 128) (isSecond : 0 < second.toNat ∧ second.toNat < 128) :
    decodeBytes wide (encodeUtf8 (first :: second :: rest)) = some (first :: second :: rest) := by
  have small : ∀ c : Char, 0 < c.toNat ∧ c.toNat < 128 →
      0 < c.val.toUInt8.toNat ∧ c.val.toUInt8.toNat < 128 := by
    intro c range
    have same : c.val.toUInt8.toNat = c.toNat % 256 := rfl
    omega
  have bytes : encodeUtf8 (first :: second :: rest) =
      first.val.toUInt8 :: second.val.toUInt8 :: encodeUtf8 rest := by
    simp only [encodeUtf8, List.flatMap_cons, utf8EncodeChar_ascii isFirst.2,
      utf8EncodeChar_ascii isSecond.2, List.cons_append, List.nil_append]
  have guessed : detectEncoding (first.val.toUInt8 :: second.val.toUInt8 :: encodeUtf8 rest) =
      .utf8 := by
    have isFirst := small first isFirst
    have isSecond := small second isSecond
    generalize first.val.toUInt8 = one at isFirst
    generalize second.val.toUInt8 = two at isSecond
    have apart : ∀ byte : UInt8, byte.toNat = 0 ∨ 128 ≤ byte.toNat → one ≠ byte ∧ two ≠ byte := by
      intro byte far
      constructor <;> rintro rfl <;> omega
    have zero := apart 0 (by decide)
    -- no branch for a mark of the byte order is taken
    delta detectEncoding detectEncoding.match_1
    refine (dif_neg zero.1).trans ((dif_neg (apart 0xff (by decide)).1).trans
      ((dif_neg (apart 0xfe (by decide)).1).trans ((dif_neg (apart 0xef (by decide)).1).trans ?_)))
    rcases encodeUtf8 rest with _ | ⟨third, _ | ⟨fourth, tail⟩⟩
    · exact (if_neg zero.1).trans (if_neg zero.2)
    · rfl
    · exact (if_neg zero.1).trans (if_neg zero.2)
  have decoded : decodeUtf8 (encodeUtf8 (first :: second :: rest)) = some (first :: second :: rest) :=
    decodeUtf8_eq_some.mpr rfl
  rw [decodeBytes, bytes, guessed, ← bytes]
  exact decoded

end Aegis.Lib
