import UriExpansion.Yaml.Token

namespace UriExpansion.Yaml

/-- A node is a plain scalar, a quoted one or a collection. -/
inductive Node where
  | plain (text : Text)
  | quoted (points : CodeText)
  | sequence (items : List Node)
  | mapping (entries : List (Node × Node))

/-- An anchor has no node while its node is still open. -/
abbrev Anchors := List (Text × Option Node)

namespace Node

/-- A missing node is an empty plain scalar. -/
def empty : Node := .plain []

/-- The entry of a block mapping may be a sequence without an indentation. -/
inductive Style where
  | flow
  | block
  | entry
  deriving DecidableEq

/-- A parsed part leaves a rest that is shorter than a bound. -/
structure Parsed (A : Type) (bound : Nat) where
  part : A
  anchors : Anchors
  rest : List Token
  within : rest.length < bound

/-- A changed part keeps its rest under a weaker bound. -/
def Parsed.map {A B : Type} {bound wider : Nat} (parsed : Parsed A bound) (change : A → B)
    (le : bound ≤ wider) : Parsed B wider :=
  ⟨change parsed.part, parsed.anchors, parsed.rest, Nat.lt_of_lt_of_le parsed.within le⟩

/-- The anchor is bound to the node behind it. -/
def Parsed.close {bound wider : Nat} (parsed : Parsed Node bound) (name : Text)
    (le : bound ≤ wider) : Parsed Node wider :=
  { parsed.map id le with anchors := (name, some parsed.part) :: parsed.anchors }

/-- A token that does not fit is malformed unless it is broken. -/
def refuse {A : Type} : List Token → Except Fault A
  | .broken fault :: _ => .error fault
  | _ => .error .malformed

/-- An entry of a block sequence is missing before these tokens. -/
def endsBlockItem : List Token → Bool
  | .blockEntry :: _ | .blockEnd :: _ => true
  | _ => false

/-- A key or a value of a block mapping is missing before these tokens. -/
def endsBlockPart : List Token → Bool
  | .key :: _ | .value :: _ | .blockEnd :: _ => true
  | _ => false

/-- An entry of a sequence without indentation is missing before these tokens. -/
def endsEntryItem (tokens : List Token) : Bool :=
  endsBlockItem tokens || endsBlockPart tokens

/-- A value in a flow collection is missing before these tokens. -/
def endsFlowValue : List Token → Bool
  | .flowEntry :: _ | .flowSequenceEnd :: _ | .flowMappingEnd :: _ => true
  | _ => false

/-- A key in a flow collection is missing before these tokens. -/
def endsFlowKey : List Token → Bool
  | .value :: _ => true
  | tokens => endsFlowValue tokens

/-- These tokens start the content of a node. -/
def startsContent (style : Style) : List Token → Bool
  | .plain _ :: _ | .quoted _ :: _ | .flowSequenceStart :: _ | .flowMappingStart :: _ => true
  | .blockSequenceStart :: _ | .blockMappingStart :: _ => style ≠ .flow
  | .blockEntry :: _ => style = .entry
  | _ => false

/-- The entries of a flow collection are separated by commas. -/
def afterComma (first : Bool) (tokens : List Token) :
    Except Fault { rest : List Token // rest.length ≤ tokens.length } :=
  if first then .ok ⟨tokens, Nat.le_refl _⟩
  else
    match tokens with
    | .flowEntry :: rest => .ok ⟨rest, Nat.le_succ _⟩
    | tokens => refuse tokens

/-- The name of an anchor may be used once. -/
def openAnchor (anchors : Anchors) (name : Text) (tokens : List Token) : Except Fault Anchors :=
  match tokens with
  | .broken fault :: _ => .error fault
  | _ =>
      if (anchors.lookup name).isSome then .error .malformed
      else .ok ((name, none) :: anchors)

mutual

/-- An anchor may stand before the content of a node. -/
def parse (style : Style) (anchors : Anchors) (tokens : List Token) :
    Except Fault (Parsed Node tokens.length) :=
  match tokens with
  | .alias name :: rest =>
      match anchors.lookup name with
      | some (some node) => .ok ⟨node, anchors, rest, by simp⟩
      | _ => .error .malformed
  | .anchor name :: rest => do
      let opened ← openAnchor anchors name rest
      if startsContent style rest then
        (parseContent style opened rest).map fun parsed => parsed.close name (by simp)
      else return ⟨.empty, (name, some .empty) :: anchors, rest, by simp⟩
  | tokens => parseContent style anchors tokens
  termination_by 4 * tokens.length + 1

/-- The content is a scalar or a collection. -/
def parseContent (style : Style) (anchors : Anchors) (tokens : List Token) :
    Except Fault (Parsed Node tokens.length) :=
  match tokens with
  | .plain text :: rest => .ok ⟨.plain text, anchors, rest, by simp⟩
  | .quoted points :: rest => .ok ⟨.quoted points, anchors, rest, by simp⟩
  | .flowSequenceStart :: rest =>
      (parseFlowItems true anchors rest).map fun parsed => parsed.map .sequence (by simp)
  | .flowMappingStart :: rest =>
      (parseFlowEntries true anchors rest).map fun parsed => parsed.map .mapping (by simp)
  | .blockSequenceStart :: rest =>
      if style = .flow then .error .malformed
      else (parseBlockItems anchors rest).map fun parsed => parsed.map .sequence (by simp)
  | .blockMappingStart :: rest =>
      if style = .flow then .error .malformed
      else (parseBlockEntries anchors rest).map fun parsed => parsed.map .mapping (by simp)
  | .blockEntry :: rest =>
      if style = .entry then
        (parseEntryItems anchors rest).map fun parsed => parsed.map .sequence (by simp)
      else .error .malformed
  | tokens => refuse tokens
  termination_by 4 * tokens.length + 0

/-- A node may be missing. -/
def parseOptional (style : Style) (missing : List Token → Bool) (anchors : Anchors)
    (tokens : List Token) : Except Fault (Parsed Node (tokens.length + 1)) :=
  if missing tokens then .ok ⟨.empty, anchors, tokens, Nat.lt_succ_self _⟩
  else (parse style anchors tokens).map fun parsed => parsed.map id (Nat.le_succ _)
  termination_by 4 * tokens.length + 2

/-- A key without a colon has an empty value. -/
def parseValue (style : Style) (missing : List Token → Bool) (anchors : Anchors)
    (tokens : List Token) : Except Fault (Parsed Node (tokens.length + 1)) :=
  match tokens with
  | .value :: rest =>
      (parseOptional style missing anchors rest).map fun parsed => parsed.map id (by simp)
  | tokens => .ok ⟨.empty, anchors, tokens, Nat.lt_succ_self _⟩
  termination_by 4 * tokens.length + 0

/-- A key and its value. -/
def parseEntry (style : Style) (noKey noValue : List Token → Bool) (anchors : Anchors)
    (tokens : List Token) : Except Fault (Parsed (Node × Node) (tokens.length + 1)) := do
  let key ← parseOptional style noKey anchors tokens
  have within := key.within
  let value ← parseValue style noValue key.anchors key.rest
  return value.map (key.part, ·) (by omega)
  termination_by 4 * tokens.length + 3

/-- The items of a block sequence to its end. -/
def parseBlockItems (anchors : Anchors) (tokens : List Token) :
    Except Fault (Parsed (List Node) (tokens.length + 1)) :=
  match tokens with
  | .blockEnd :: rest => .ok ⟨[], anchors, rest, by simp only [List.length_cons]; omega⟩
  | .blockEntry :: rest => do
      let item ← parseOptional .block endsBlockItem anchors rest
      have within := item.within
      let items ← parseBlockItems item.anchors item.rest
      return items.map (item.part :: ·) (by simp only [List.length_cons]; omega)
  | tokens => refuse tokens
  termination_by 4 * tokens.length + 0

/-- The items of a sequence without indentation, after the first hyphen. -/
def parseEntryItems (anchors : Anchors) (tokens : List Token) :
    Except Fault (Parsed (List Node) (tokens.length + 1)) := do
  let item ← parseOptional .block endsEntryItem anchors tokens
  have within := item.within
  match _next : item.rest with
  | .blockEntry :: rest =>
      have shorter : rest.length < tokens.length := by
        rw [_next, List.length_cons] at within
        omega
      let items ← parseEntryItems item.anchors rest
      return items.map (item.part :: ·) (by omega)
  | _ => return item.map (fun part => [part]) (Nat.le_refl _)
  termination_by 4 * tokens.length + 3

/-- The entries of a block mapping to its end. -/
def parseBlockEntries (anchors : Anchors) (tokens : List Token) :
    Except Fault (Parsed (List (Node × Node)) (tokens.length + 1)) :=
  match tokens with
  | .blockEnd :: rest => .ok ⟨[], anchors, rest, by simp only [List.length_cons]; omega⟩
  | .key :: rest => do
      let entry ← parseEntry .entry endsBlockPart endsBlockPart anchors rest
      have within := entry.within
      let entries ← parseBlockEntries entry.anchors entry.rest
      return entries.map (entry.part :: ·) (by simp only [List.length_cons]; omega)
  | tokens => refuse tokens
  termination_by 4 * tokens.length + 0

/-- An item with a colon is a mapping of one entry. -/
def parseFlowItems (first : Bool) (anchors : Anchors) (tokens : List Token) :
    Except Fault (Parsed (List Node) (tokens.length + 1)) :=
  match tokens with
  | .flowSequenceEnd :: rest => .ok ⟨[], anchors, rest, by simp only [List.length_cons]; omega⟩
  | tokens => do
      let ⟨start, startWithin⟩ ← afterComma first tokens
      match _next : start with
      | .flowSequenceEnd :: rest =>
          return ⟨[], anchors, rest, by rw [_next, List.length_cons] at startWithin; omega⟩
      | .key :: rest =>
          have shorter : rest.length < tokens.length := by
            rw [_next, List.length_cons] at startWithin
            omega
          let entry ← parseEntry .flow endsFlowKey endsFlowValue anchors rest
          have within := entry.within
          let items ← parseFlowItems false entry.anchors entry.rest
          return items.map (.mapping [entry.part] :: ·) (by omega)
      | _ =>
          let item ← parse .flow anchors start
          have within := item.within
          let items ← parseFlowItems false item.anchors item.rest
          return items.map (item.part :: ·) (by omega)
  termination_by 4 * tokens.length + 3

/-- An entry without a colon has an empty value. -/
def parseFlowEntries (first : Bool) (anchors : Anchors) (tokens : List Token) :
    Except Fault (Parsed (List (Node × Node)) (tokens.length + 1)) :=
  match tokens with
  | .flowMappingEnd :: rest => .ok ⟨[], anchors, rest, by simp only [List.length_cons]; omega⟩
  | tokens => do
      let ⟨start, startWithin⟩ ← afterComma first tokens
      match _next : start with
      | .flowMappingEnd :: rest =>
          return ⟨[], anchors, rest, by rw [_next, List.length_cons] at startWithin; omega⟩
      | .key :: rest =>
          have shorter : rest.length < tokens.length := by
            rw [_next, List.length_cons] at startWithin
            omega
          let entry ← parseEntry .flow endsFlowKey endsFlowValue anchors rest
          have within := entry.within
          let entries ← parseFlowEntries false entry.anchors entry.rest
          return entries.map (entry.part :: ·) (by omega)
      | _ =>
          let key ← parse .flow anchors start
          have within := key.within
          let entries ← parseFlowEntries false key.anchors key.rest
          return entries.map ((key.part, .empty) :: ·) (by omega)
  termination_by 4 * tokens.length + 3

end

/-- The content after a start mark may be missing. -/
def endsDocument : List Token → Bool
  | [] | .documentStart :: _ | .documentEnd :: _ => true
  | _ => false

/-- Only end marks may follow the document of a stream. -/
def checkEnd (node : Node) (tokens : List Token) : Except Fault Node :=
  match tokens.dropWhile (· == .documentEnd) with
  | [] => .ok node
  | rest => refuse rest

/-- A stream has at most one document. -/
def ofTokens (tokens : List Token) : Except Fault (Option Node) :=
  match tokens with
  | [] => .ok none
  | .documentStart :: rest => do
      let parsed ← parseOptional .block endsDocument [] rest
      (checkEnd parsed.part parsed.rest).map some
  | tokens => do
      let parsed ← parse .block [] tokens
      (checkEnd parsed.part parsed.rest).map some

end Node

end UriExpansion.Yaml
