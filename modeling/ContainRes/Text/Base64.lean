import ContainRes.Text.Python
import Mathlib.Data.List.Basic

/-! # Base64

The encoding of texts as base64, with the lenient decoder of the standard library: a character outside the
alphabet is skipped, and nothing is read after the padding.

* **`base64Encode`** — the text of the bytes of a text.
* **`base64Decode`** — the text that a base64 text stands for.
* **`base64Decode_encode`** — decoding gives back what was encoded. -/

namespace ContainRes.Text

namespace Base64

/-- The digits in the order of their values. -/
def alphabet : List Char :=
  "ABCDEFGHIJKLMNOPQRSTUVWXYZabcdefghijklmnopqrstuvwxyz0123456789+/".toList

/-- The digit of a value. -/
def digit (v : ℕ) : Char := alphabet.getD v 'A'

/-- The value of a digit. -/
def value (c : Char) : Option ℕ := alphabet.idxOf? c

/-- The digits of some bytes. Three bytes have four digits, and the last group is padded. -/
def encodeBytes : List UInt8 → List Char
  | [] => []
  | [a] => [digit (a.toNat / 4), digit (a.toNat % 4 * 16), '=', '=']
  | [a, b] =>
    [digit (a.toNat / 4), digit (a.toNat % 4 * 16 + b.toNat / 16), digit (b.toNat % 16 * 4), '=']
  | a :: b :: c :: rest =>
    digit (a.toNat / 4) :: digit (a.toNat % 4 * 16 + b.toNat / 16) ::
      digit (b.toNat % 16 * 4 + c.toNat / 64) :: digit (c.toNat % 64) :: encodeBytes rest

/-- The bytes of some digits, after `quadPos` digits of a group of which `left` is left, and after `pads`
signs of padding. -/
def decodeFrom (quadPos left pads : ℕ) : List Char → Option (List UInt8)
  | [] => if quadPos = 0 then some [] else none
  | c :: rest =>
    if c = '=' then
      if quadPos < 2 then decodeFrom quadPos left pads rest
      -- the padding is complete: what follows is not read
      else if 4 ≤ quadPos + (pads + 1) then some []
      else decodeFrom quadPos left (pads + 1) rest
    else
      match value c with
      | none => decodeFrom quadPos left pads rest
      | some v =>
        match quadPos with
        | 0 => decodeFrom 1 v 0 rest
        | 1 => (decodeFrom 2 (v % 16) 0 rest).map (UInt8.ofNat (left * 4 + v / 16) :: ·)
        | 2 => (decodeFrom 3 (v % 4) 0 rest).map (UInt8.ofNat (left * 16 + v / 4) :: ·)
        | _ => (decodeFrom 0 0 0 rest).map (UInt8.ofNat (left * 64 + v) :: ·)

/-! ## Digits and their values -/

theorem value_digit {v : ℕ} (h : v < 64) : value (digit v) = some v := by
  have hall : ∀ v : Fin 64, value (digit v) = some v.val := by decide +kernel
  exact hall ⟨v, h⟩

theorem digit_ne_pad {v : ℕ} (h : v < 64) : digit v ≠ '=' := by
  have hall : ∀ v : Fin 64, digit v ≠ '=' := by decide +kernel
  exact hall ⟨v, h⟩

section Digits

variable {v left pads : ℕ} (rest : List Char)

theorem decodeFrom_first (h : v < 64) : decodeFrom 0 left pads (digit v :: rest) = decodeFrom 1 v 0 rest := by
  rw [decodeFrom, if_neg (digit_ne_pad h), value_digit h]
  rfl

theorem decodeFrom_second (h : v < 64) : decodeFrom 1 left pads (digit v :: rest) =
    (decodeFrom 2 (v % 16) 0 rest).map (UInt8.ofNat (left * 4 + v / 16) :: ·) := by
  rw [decodeFrom, if_neg (digit_ne_pad h), value_digit h]
  rfl

theorem decodeFrom_third (h : v < 64) : decodeFrom 2 left pads (digit v :: rest) =
    (decodeFrom 3 (v % 4) 0 rest).map (UInt8.ofNat (left * 16 + v / 4) :: ·) := by
  rw [decodeFrom, if_neg (digit_ne_pad h), value_digit h]
  rfl

theorem decodeFrom_fourth (h : v < 64) : decodeFrom 3 left pads (digit v :: rest) =
    (decodeFrom 0 0 0 rest).map (UInt8.ofNat (left * 64 + v) :: ·) := by
  rw [decodeFrom, if_neg (digit_ne_pad h), value_digit h]
  rfl

end Digits

theorem ofNat_parts {a : UInt8} {n : ℕ} (h : n = a.toNat) : UInt8.ofNat n = a := by
  rw [h, UInt8.ofNat_toNat]

/-- Decoding gives back the bytes. -/
theorem decodeFrom_encodeBytes (bytes : List UInt8) : decodeFrom 0 0 0 (encodeBytes bytes) = some bytes := by
  induction bytes using encodeBytes.induct with
  | case1 => rfl
  | case2 a =>
    have ha := a.toNat_lt
    rw [encodeBytes, decodeFrom_first _ (by omega), decodeFrom_second _ (by omega),
      ofNat_parts (a := a) (by omega)]
    rfl
  | case3 a b =>
    have ha := a.toNat_lt
    have hb := b.toNat_lt
    rw [encodeBytes, decodeFrom_first _ (by omega), decodeFrom_second _ (by omega),
      decodeFrom_third _ (by omega), ofNat_parts (a := a) (by omega), ofNat_parts (a := b) (by omega)]
    rfl
  | case4 a b c rest ih =>
    have ha := a.toNat_lt
    have hb := b.toNat_lt
    have hc := c.toNat_lt
    rw [encodeBytes, decodeFrom_first _ (by omega), decodeFrom_second _ (by omega),
      decodeFrom_third _ (by omega), decodeFrom_fourth _ (by omega), ih,
      ofNat_parts (a := a) (by omega), ofNat_parts (a := b) (by omega), ofNat_parts (a := c) (by omega)]
    rfl

end Base64

/-- `Utils.base64_encode(data)` of a text. -/
def base64Encode (data : String) : String := String.ofList (Base64.encodeBytes data.toByteArray.data.toList)

/-- `Utils.base64_decode(data)` of a text; there is none when the digits or the bytes are not a text. -/
def base64Decode (data : String) : Option String :=
  (Base64.decodeFrom 0 0 0 data.toList).bind fun bytes => String.fromUTF8? bytes.toByteArray

theorem base64Decode_encode (data : String) : base64Decode (base64Encode data) = some data := by
  have hbytes : data.toByteArray.data.toList.toByteArray = data.toByteArray := by
    apply ByteArray.ext
    rw [List.data_toByteArray, Array.toArray_toList]
  rw [base64Decode, base64Encode, String.toList_ofList, Base64.decodeFrom_encodeBytes, Option.bind_some,
    hbytes, String.fromUTF8?, dif_pos data.isValidUTF8]
  rfl

end ContainRes.Text
