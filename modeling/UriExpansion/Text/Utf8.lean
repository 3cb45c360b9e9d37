import UriExpansion.Text.Basic

namespace UriExpansion.Text

/-- The UTF-8 bytes of a text are those of its characters in order. -/
def toUtf8 (text : Text) : List UInt8 :=
  text.flatMap String.utf8EncodeChar

/-- Bytes that are not UTF-8 are refused. -/
def ofUtf8? (bytes : List UInt8) : Option Text :=
  bytes.toByteArray.utf8Decode?.map Array.toList

/-- Some bytes open a character if more bytes complete it. -/
def opensCharacter (bytes : List UInt8) : Bool :=
  -- The second byte of a character may have to reach `0xA0`, and every later one may be `0x80`.
  [0x80, 0xA0].any fun next =>
    [0, 1, 2].any fun later => (ofUtf8? (bytes ++ next :: List.replicate later 0x80)).isSome

/-- The bytes of a character that is cut are left out. -/
def ofCutUtf8? (bytes : List UInt8) : Option Text :=
  [0, 1, 2, 3].findSome? fun opened =>
    let length := bytes.length - opened
    if opened = 0 || opensCharacter (bytes.drop length) then ofUtf8? (bytes.take length) else none

@[simp] theorem toUtf8_cons (character : Char) (text : Text) :
    toUtf8 (character :: text) = String.utf8EncodeChar character ++ toUtf8 text := rfl

/-- Each text is read back from its own bytes. -/
theorem ofUtf8?_toUtf8 (text : Text) : ofUtf8? (toUtf8 text) = some text := by
  have bytes : (toUtf8 text).toByteArray = text.utf8Encode := rfl
  simp [ofUtf8?, bytes]

/-- The bytes of a decoded text are the bytes that were read. -/
theorem toUtf8_of_ofUtf8? {bytes : List UInt8} {text : Text}
    (decoded : ofUtf8? bytes = some text) : toUtf8 text = bytes := by
  simp only [ofUtf8?, Option.map_eq_some_iff] at decoded
  obtain ⟨characters, read, rfl⟩ := decoded
  have present : bytes.toByteArray.utf8Decode?.isSome = true := by simp [read]
  have encoded := ByteArray.utf8Encode_get_utf8Decode? (h := present)
  simp only [read, Option.get_some] at encoded
  have same : (toUtf8 characters.toList).toByteArray = bytes.toByteArray := encoded
  have lists := congrArg (fun array => array.data.toList) same
  simpa using lists

end UriExpansion.Text
