import UriExpansion.Text.Utf8
import UriExpansion.Yaml.Character
import UriExpansion.Yaml.Token

namespace UriExpansion.Yaml

/-- A fault may interrupt the text of a source. -/
structure Source where
  text : Text
  interruption : Option Fault := none
  deriving DecidableEq

namespace Source

/-- The first portion has 8192 characters and each later one has 4096. -/
def portionStart (index : Nat) : Nat :=
  if index < 8192 then 0 else index / 4096 * 4096

/-- The portions of a text before an index. -/
def interruptAt (text : Text) (index : Nat) (fault : Fault) : Source :=
  { text := text.take (portionStart index), interruption := some fault }

/-- A portion with an unreadable character interrupts the text. -/
def check (source : Source) : Source :=
  match source.text.findIdx? fun character => !isReadable character with
  | some index => interruptAt source.text index .malformed
  | none => source

/-- Bytes are decoded in blocks of 8192, and the end counts as one. -/
def decodedBlocks (bytes : List UInt8) : Text :=
  let texts := (List.range (bytes.length / 8192 + 2)).filterMap fun count =>
    Text.ofCutUtf8? (bytes.take (8192 * count))
  texts.getLast?.getD []

/-- The source of the bytes of a file. -/
def ofBytes (bytes : List UInt8) : Source :=
  match Text.ofUtf8? bytes with
  | some text => check { text := unifyLines text }
  | none =>
      let text := unifyLines (decodedBlocks bytes)
      check (interruptAt text text.length .undecodable)

end Source

end UriExpansion.Yaml
