/- Collections are built level by level, so the fault at the smallest depth counts. -/

import UriExpansion.Yaml.Lexer
import UriExpansion.Yaml.Node
import UriExpansion.Yaml.Scalar

namespace UriExpansion.Yaml

/-- A part that cannot be built has a fault at some depth. -/
abbrev Build (A : Type) := Except (Nat × Fault) A

namespace Build

/-- The fault of a part stands at the depth of the part. -/
def placed {A : Type} (depth : Nat) (result : Except Fault A) : Build A :=
  result.mapError (depth, ·)

/-- The fault at the smaller depth counts, or else the first one. -/
def pair {A B : Type} : Build A → Build B → Build (A × B)
  | .ok first, .ok second => .ok (first, second)
  | .error fault, .ok _ => .error fault
  | .ok _, .error fault => .error fault
  | .error first, .error second => .error (if second.1 < first.1 then second else first)

/-- The parts of a list are built one by one. -/
def collect {A : Type} : List (Build A) → Build (List A)
  | [] => .ok []
  | part :: rest => (part.pair (collect rest)).map fun parts => parts.1 :: parts.2

end Build

namespace Node

/-- The key that merges other mappings. -/
def isMergeKey : Node → Bool
  | .plain text => text == Scalar.mergeKey
  | _ => false

/-- The sign for a value is a text as a key. -/
def keyDatum : Node → Except Fault Datum
  | .plain text =>
      if text = Scalar.valueKey then .ok (.text (CodeText.ofText text)) else Scalar.meaning text
  | .quoted points => .ok (.text points)
  | _ => .error .malformed

/-- In a document all data that are not numbers are the same key. -/
def sameKey : Datum → Datum → Bool
  | .real .nan, .real .nan => true
  | first, second => first.sameKey second

mutual

/-- Merged entries stand before own ones, and a repeated key takes its last value. -/
def datum (depth : Nat) : Node → Build Datum
  | .plain text => Build.placed depth (Scalar.meaning text)
  | .quoted points => .ok (.text points)
  | .sequence items => (Build.collect (data (depth + 1) items)).map .list
  | .mapping entries =>
      match mergedEntries (depth + 1) entries with
      | some merged =>
          (Build.collect (merged ++ ownEntries (depth + 1) entries)).map (Datum.ofEntries sameKey)
      | none => .error (depth + 1, .malformed)

/-- The data of the items. -/
def data (depth : Nat) : List Node → List (Build Datum)
  | [] => []
  | item :: rest => datum depth item :: data depth rest

/-- The entries of the mapping itself. -/
def ownEntries (depth : Nat) : List (Node × Node) → List (Build (Datum × Datum))
  | [] => []
  | (key, value) :: rest =>
      if isMergeKey key then ownEntries depth rest
      else (Build.placed depth (keyDatum key)).pair (datum depth value) :: ownEntries depth rest

/-- The entries that the merge keys bring. -/
def mergedEntries (depth : Nat) : List (Node × Node) → Option (List (Build (Datum × Datum)))
  | [] => some []
  | (key, value) :: rest =>
      if isMergeKey key then do
        let entries ← brought depth value
        let others ← mergedEntries depth rest
        return entries ++ others
      else mergedEntries depth rest

/-- A merge brings the entries of one mapping or of several. -/
def brought (depth : Nat) : Node → Option (List (Build (Datum × Datum)))
  | .mapping entries =>
      (mergedEntries depth entries).map fun merged => merged ++ ownEntries depth entries
  | .sequence items => broughtByItems depth items
  | .plain _ | .quoted _ => none

/-- The entries of the last mapping of a sequence come first. -/
def broughtByItems (depth : Nat) : List Node → Option (List (Build (Datum × Datum)))
  | [] => some []
  | .mapping entries :: rest => do
      let merged ← mergedEntries depth entries
      let later ← broughtByItems depth rest
      return later ++ merged ++ ownEntries depth entries
  | _ :: _ => none

end

end Node

/-- A document without a node is null. -/
def read (bytes : List UInt8) : Except Fault Datum := do
  match ← Node.ofTokens (Token.ofSource (Source.ofBytes bytes)) with
  | none => return .null
  | some node => (node.datum 0).mapError Prod.snd

end UriExpansion.Yaml
