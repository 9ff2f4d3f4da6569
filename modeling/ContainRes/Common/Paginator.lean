import ContainRes.Common.Exceptions
import ContainRes.Store.Scan
import ContainRes.Text.Base64

/-! # Cursors and paginators

A listing answers where the next one is to start: the key of the last row as a JSON object in base64. The
client hands this cursor back in the paginator of its next request.

* **`JsonObjects`** — `orjson` on the objects of one kind.
* **`encodeCursor`**, **`decodeCursor`** — the cursor of an object, and the object of a cursor.
* **`SocaPaginator`** — the paginator; **`SocaPaginator.ofStart`** is what the constructor makes of a text under
  `start`, which is a field for integers. -/

namespace ContainRes

open Text

/-! ## JSON objects -/

/-- `orjson.dumps` and `orjson.loads` on objects of one kind: what was written is read back, and the text of an
object begins with a brace. -/
structure JsonObjects (α : Type) where
  dumps : α → String
  loads : String → Option α
  loads_dumps : ∀ a, loads (dumps a) = some a
  dumps_open : ∀ a, ∃ rest, dumps a = "\x7b" ++ rest

/-- Texts by the number of an object. -/
def JsonObjects.ofEncodable (α : Type) [Encodable α] : JsonObjects α where
  dumps a := "\x7b" ++ String.ofList (List.replicate (Encodable.encode a) '0')
  loads text := Encodable.decode (text.length - 1)
  loads_dumps a := by
    have hbrace : "\x7b".length = 1 := by decide
    simp [hbrace]
  dumps_open a := ⟨_, rfl⟩

section Cursors

variable {α : Type} (json : JsonObjects α)

/-- `Utils.base64_encode(Utils.to_json(value))`. -/
def encodeCursor (value : α) : String := base64Encode (json.dumps value)

/-- `Utils.from_json(Utils.base64_decode(cursor))`. -/
def decodeCursor (cursor : String) : Except Exc α :=
  match (base64Decode cursor).bind json.loads with
  | none => .error (.other .valueError "Incorrect padding or invalid JSON")
  | some value => .ok value

@[simp] theorem decodeCursor_encodeCursor (value : α) : decodeCursor json (encodeCursor json value) = .ok value := by
  rw [decodeCursor, encodeCursor, base64Decode_encode, Option.bind_some, json.loads_dumps]

/-- A cursor begins with the first digit of a brace. -/
theorem encodeCursor_head (value : α) : ∃ rest, (encodeCursor json value).toList = 'e' :: rest := by
  obtain ⟨text, htext⟩ := json.dumps_open value
  have hbytes : (json.dumps value).toByteArray.data.toList = 123 :: text.toByteArray.data.toList := by
    rw [htext, String.toByteArray_append, ByteArray.data_append, Array.toList_append]
    rfl
  rw [encodeCursor, base64Encode, String.toList_ofList, hbytes]
  rcases text.toByteArray.data.toList with _ | ⟨b, _ | ⟨c, rest⟩⟩
  · exact ⟨_, rfl⟩
  · exact ⟨_, rfl⟩
  · exact ⟨_, rfl⟩

theorem isEmpty_encodeCursor (value : α) : isEmpty (encodeCursor json value) = false := by
  obtain ⟨rest, hrest⟩ := encodeCursor_head json value
  rw [Bool.eq_false_iff]
  intro hblank
  have hspace := (isEmpty_iff _).mp hblank 'e' (by rw [hrest]; exact List.mem_cons_self)
  exact absurd hspace (by decide)

end Cursors

/-! ## Paginators -/

/-- The number that digits stand for, after those of `value`; a single underscore may stand between two. -/
def digitsFrom (value : ℕ) (afterDigit : Bool) : List Char → Option ℕ
  | [] => if afterDigit then some value else none
  | c :: rest =>
    if c.isDigit then digitsFrom (value * 10 + (c.toNat - '0'.toNat)) true rest
    else if c = '_' ∧ afterDigit = true then digitsFrom value false rest
    else none

/-- `int(text)`, for texts without digits outside ASCII. -/
def parseInt (text : String) : Option ℤ :=
  match stripList text.toList with
  | '-' :: rest => (digitsFrom 0 false rest).map fun n => -Int.ofNat n
  | '+' :: rest => (digitsFrom 0 false rest).map Int.ofNat
  | rest => (digitsFrom 0 false rest).map Int.ofNat

structure SocaPaginator where
  total : Option ℤ := none
  pageSize : Option ℤ := none
  start : Option ℤ := none
  cursor : Option String := none

/-- `SocaPaginator(start=text)`: the field is one for integers. -/
def SocaPaginator.ofStart : Option String → Except Exc SocaPaginator
  | none => .ok {}
  | some text =>
    match parseInt text with
    | none => .error (.other .valueError "1 validation error for SocaPaginator: start")
    | some start => .ok { start := some start }

/-- A text that begins with a letter is no number. -/
theorem parseInt_of_head {text : String} {rest : List Char} (h : text.toList = 'e' :: rest) : parseInt text = none := by
  have hhead : ∃ rest', stripList text.toList = 'e' :: rest' := by
    have hdrop : ('e' :: rest).dropWhile isSpace = 'e' :: rest := List.dropWhile_cons_of_neg (by decide)
    have hne : ('e' :: rest).rdropWhile isSpace ≠ [] := by
      intro hnil
      have hspace := List.rdropWhile_eq_nil_iff.mp hnil 'e' List.mem_cons_self
      exact absurd hspace (by decide)
    obtain ⟨c, rest', hcons⟩ := List.exists_cons_of_ne_nil hne
    have hpre : ('e' :: rest).rdropWhile isSpace <+: 'e' :: rest := List.rdropWhile_prefix _ _
    rw [hcons, List.cons_prefix_cons] at hpre
    exact ⟨rest', by rw [stripList, h, hdrop, hcons, hpre.1]⟩
  obtain ⟨rest', hstrip⟩ := hhead
  rw [parseInt, hstrip]
  rfl

theorem ofStart_cursor {α : Type} (json : JsonObjects α) (value : α) :
    SocaPaginator.ofStart (some (encodeCursor json value)) =
      .error (.other .valueError "1 validation error for SocaPaginator: start") := by
  obtain ⟨rest, hrest⟩ := encodeCursor_head json value
  show (match parseInt (encodeCursor json value) with
    | none => _
    | some start => _) = _
  rw [parseInt_of_head hrest]

end ContainRes
