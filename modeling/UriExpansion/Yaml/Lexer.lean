/- Tags, directives and block scalars are refused. -/

import UriExpansion.Yaml.Folding
import UriExpansion.Yaml.Source

namespace UriExpansion.Yaml

/-- A node at the indentation of a block mapping has to be a key. -/
structure PendingKey where
  position : Nat
  line : Nat
  index : Nat
  column : Nat
  required : Bool

/-- The innermost indentations and keys come first. -/
structure Lexer where
  rest : Text
  interruption : Option Fault := none
  index : Nat := 0
  line : Nat := 0
  column : Nat := 0
  indents : List Nat := []
  keys : List (Option PendingKey) := [none]
  allowKey : Bool := true
  tokens : List Token := []

namespace Lexer

/-- The flow style adds levels to the first one. -/
def inFlow (lexer : Lexer) : Bool :=
  1 < lexer.keys.length

/-- A byte-order mark has no width. -/
def advance : Nat → Lexer → Lexer
  | 0, lexer => lexer
  | count + 1, lexer =>
      match lexer.rest with
      | [] => lexer
      | character :: rest =>
          let moved := { lexer with rest, index := lexer.index + 1 }
          advance count <|
            if isBreak character then { moved with line := lexer.line + 1, column := 0 }
            else if character = '\ufeff' then moved
            else { moved with column := lexer.column + 1 }

/-- The place moves to a rest of the text. -/
def moveTo (lexer : Lexer) (rest : Text) : Lexer :=
  lexer.advance (lexer.rest.length - rest.length)

/-- A token is appended. -/
def emit (lexer : Lexer) (token : Token) : Lexer :=
  { lexer with tokens := lexer.tokens ++ [token] }

/-- A token is inserted before a position. -/
def emitAt (lexer : Lexer) (position : Nat) (token : Token) : Lexer :=
  { lexer with tokens := lexer.tokens.take position ++ token :: lexer.tokens.drop position }

/-- Spaces, comments and line ends separate tokens. -/
def gapLength (comment : Bool) : Text → Nat
  | [] => 0
  | character :: rest =>
      if isBreak character then gapLength false rest + 1
      else if comment then gapLength true rest + 1
      else if character = ' ' then gapLength false rest + 1
      else if character = '#' then gapLength true rest + 1
      else 0

/-- A new line in the block style allows a key. -/
def skipGap (lexer : Lexer) : Lexer :=
  let length := gapLength false lexer.rest
  let crossed := (lexer.rest.take length).any isBreak
  { lexer.advance length with allowKey := lexer.allowKey || (crossed && !lexer.inFlow) }

/-- A possible key ends with its line and reaches at most 1024 characters. -/
def isStale (lexer : Lexer) (key : PendingKey) : Bool :=
  key.line != lexer.line || 1024 < lexer.index - key.index

/-- A stale key is given up unless it is required. -/
def dropStaleKeys (lexer : Lexer) : Except Fault Lexer :=
  if lexer.keys.any fun key => key.any fun key => key.required && lexer.isStale key then
    .error .malformed
  else .ok { lexer with keys := lexer.keys.map fun key => key.filter fun key => !lexer.isStale key }

/-- The possible key of the current level is given up. -/
def dropKey (lexer : Lexer) : Except Fault Lexer :=
  match lexer.keys with
  | some key :: outer =>
      if key.required then .error .malformed else .ok { lexer with keys := none :: outer }
  | _ => .ok lexer

/-- The next token may start a key. -/
def saveKey (lexer : Lexer) : Except Fault Lexer :=
  if lexer.allowKey then
    lexer.dropKey.map fun lexer =>
      let key : PendingKey :=
        { position := lexer.tokens.length
          line := lexer.line
          index := lexer.index
          column := lexer.column
          required := !lexer.inFlow && lexer.indents.head? == some lexer.column }
      { lexer with keys := some key :: lexer.keys.drop 1 }
  else .ok lexer

/-- The block collections of the chosen indentations are closed. -/
def closeBlocks (lexer : Lexer) (closes : Nat → Bool) : Lexer :=
  if lexer.inFlow then lexer
  else
    { lexer with
      indents := lexer.indents.dropWhile closes
      tokens := lexer.tokens ++ (lexer.indents.takeWhile closes).map fun _ => .blockEnd }

/-- A block collection opens where the indentation grows. -/
def opensBlock (lexer : Lexer) (column : Nat) : Bool :=
  lexer.indents.head?.all (· < column)

/-- A block collection opens before a position if the indentation grows. -/
def openBlock (lexer : Lexer) (column position : Nat) (token : Token) : Lexer :=
  if lexer.opensBlock column then
    { lexer.emitAt position token with indents := column :: lexer.indents }
  else lexer

/-- A block collection opens only where the place allows a key. -/
def openBlockHere (lexer : Lexer) (token : Token) : Except Fault Lexer :=
  if lexer.inFlow then .ok lexer
  else if lexer.allowKey then .ok (lexer.openBlock lexer.column lexer.tokens.length token)
  else .error .malformed

/-- A document mark closes all blocks. -/
def documentMark (lexer : Lexer) (token : Token) : Except Fault Lexer :=
  (lexer.closeBlocks fun _ => true).dropKey.map fun lexer =>
    { (lexer.emit token).advance 3 with allowKey := false }

/-- A flow collection opens a level. -/
def flowStart (lexer : Lexer) (token : Token) : Except Fault Lexer :=
  lexer.saveKey.map fun lexer =>
    { (lexer.emit token).advance 1 with keys := none :: lexer.keys, allowKey := true }

/-- The end of a flow collection closes a level. -/
def flowEnd (lexer : Lexer) (token : Token) : Except Fault Lexer :=
  if lexer.inFlow then
    lexer.dropKey.map fun lexer =>
      { (lexer.emit token).advance 1 with keys := lexer.keys.drop 1, allowKey := false }
  else .error .malformed

/-- A comma separates the entries of a flow collection. -/
def flowEntry (lexer : Lexer) : Except Fault Lexer :=
  lexer.dropKey.map fun lexer => { (lexer.emit .flowEntry).advance 1 with allowKey := true }

/-- A hyphen starts an entry of a block sequence. -/
def blockEntry (lexer : Lexer) : Except Fault Lexer := do
  let opened ← lexer.openBlockHere .blockSequenceStart
  let lexer ← opened.dropKey
  return { (lexer.emit .blockEntry).advance 1 with allowKey := true }

/-- A question mark starts an explicit key. -/
def explicitKey (lexer : Lexer) : Except Fault Lexer := do
  let opened ← lexer.openBlockHere .blockMappingStart
  let lexer ← opened.dropKey
  return { (lexer.emit .key).advance 1 with allowKey := !lexer.inFlow }

/-- A colon makes a key of the pending node or follows an explicit one. -/
def value (lexer : Lexer) : Except Fault Lexer :=
  match lexer.keys with
  | some key :: outer =>
      let marked := { lexer.emitAt key.position .key with keys := none :: outer }
      let opened :=
        if lexer.inFlow then marked
        else marked.openBlock key.column key.position .blockMappingStart
      .ok { (opened.emit .value).advance 1 with allowKey := false }
  | _ => do
      let opened ← lexer.openBlockHere .blockMappingStart
      return { (opened.emit .value).advance 1 with allowKey := !lexer.inFlow }

/-- Letters, digits, hyphens and low lines make the name of an anchor. -/
def isNameCharacter (character : Char) : Bool :=
  character.isAlphanum || character == '-' || character == '_'

/-- A blank or one of these marks follows the name of an anchor. -/
def endsName (rest : Text) : Bool :=
  startsBlank rest ||
    rest.head?.any fun character => character ∈ ['?', ':', ',', ']', '}', '%', '@', '\x60']

/-- An anchor or an alias is a mark and a name. -/
def named (lexer : Lexer) (token : Text → Token) : Except Fault Lexer := do
  let lexer ← lexer.saveKey
  let name := (lexer.rest.drop 1).takeWhile isNameCharacter
  let rest := (lexer.rest.drop 1).dropWhile isNameCharacter
  if name.isEmpty || !endsName rest then .error .malformed
  else return { (lexer.emit (token name)).moveTo rest with allowKey := false }

/-- A quoted scalar starts with its quote. -/
def quoted (lexer : Lexer) (double : Bool) : Except Fault Lexer := do
  let lexer ← lexer.saveKey
  let (points, rest) ← scanQuoted double (lexer.rest.drop 1)
  return { (lexer.emit (.quoted points)).moveTo rest with allowKey := false }

/-- The lines of a plain scalar are indented more than the block around them. -/
def plain (lexer : Lexer) : Except Fault Lexer :=
  lexer.saveKey.map fun lexer =>
    let indent := (lexer.indents.head?.map (· + 1)).getD 0
    let scalar := Plain.scan lexer.inFlow indent lexer.rest
    { (lexer.emit (.plain scalar.text)).moveTo scalar.rest with allowKey := scalar.crossed }

/-- These characters cannot start a plain scalar on their own. -/
def isIndicator (character : Char) : Bool :=
  isBlank character ||
    character ∈ ['-', '?', ':', ',', '[', ']', '{', '}', '#', '&', '*', '!', '|', '>', '\x27',
      '\"', '%', '@', '\x60']

/-- A hyphen or a block mark before a character starts a plain scalar. -/
def startsPlain (inFlow : Bool) (character : Char) (rest : Text) : Bool :=
  !isIndicator character ||
    (!startsBlank rest && (character == '-' || (!inFlow && (character == '?' || character == ':'))))

/-- One token after a gap. -/
def fetch (lexer : Lexer) (character : Char) (rest : Text) : Except Fault Lexer :=
  let separated := lexer.inFlow || startsBlank rest
  if lexer.column = 0 && character == '%' then .error .malformed
  else if lexer.column = 0 && startsWithMark '-' lexer.rest then lexer.documentMark .documentStart
  else if lexer.column = 0 && startsWithMark '.' lexer.rest then lexer.documentMark .documentEnd
  else if character = '[' then lexer.flowStart .flowSequenceStart
  else if character = '{' then lexer.flowStart .flowMappingStart
  else if character = ']' then lexer.flowEnd .flowSequenceEnd
  else if character = '}' then lexer.flowEnd .flowMappingEnd
  else if character = ',' then lexer.flowEntry
  else if character = '-' && startsBlank rest then lexer.blockEntry
  else if character = '?' && separated then lexer.explicitKey
  else if character = ':' && separated then lexer.value
  else if character = '*' then lexer.named .alias
  else if character = '&' then lexer.named .anchor
  else if character = '\x27' then lexer.quoted false
  else if character = '\"' then lexer.quoted true
  else if startsPlain lexer.inFlow character rest then lexer.plain
  else .error .malformed

/-- The end of the text closes all blocks. -/
def finish (lexer : Lexer) : Except Fault (List Token) :=
  (lexer.closeBlocks fun _ => true).dropKey.map Lexer.tokens

/-- A scan that reaches the end of an interrupted text fails with the interruption. -/
def interrupt (interruption : Option Fault) (scan : Except Fault Lexer) : Except Fault Lexer :=
  match scan with
  | .ok lexer => if lexer.rest.isEmpty then interruption.elim scan .error else scan
  | .error .unfinished => .error (interruption.getD .malformed)
  | .error fault => .error fault

/-- The next token closes the blocks that are indented more. -/
def approach (lexer : Lexer) : Except Fault Lexer := do
  let fresh ← lexer.dropStaleKeys
  let moved ← interrupt lexer.interruption (.ok fresh.skipGap)
  let ready ← moved.dropStaleKeys
  return ready.closeBlocks fun indent => ready.column < indent

/-- The tokens before the first one that may still become a key. -/
def settled (lexer : Lexer) : List Token :=
  let pending := lexer.keys.filterMap fun key => key.filter fun key => !lexer.isStale key
  lexer.tokens.take ((pending.map PendingKey.position).foldl Nat.min lexer.tokens.length)

/-- Only the settled tokens can be used before a fault is found. -/
def failWith (lexer : Lexer) (fault : Fault) : List Token :=
  lexer.settled ++ [.broken fault]

/-- Tokens are scanned to the end of the text or to a fault. -/
def run (lexer : Lexer) : List Token :=
  match lexer.approach with
  | .error fault => lexer.failWith fault
  | .ok ready =>
      match ready.rest with
      | [] =>
          match ready.finish with
          | .error fault => lexer.failWith fault
          | .ok tokens => tokens
      | character :: rest =>
          match interrupt lexer.interruption (ready.fetch character rest) with
          | .error fault => lexer.failWith fault
          | .ok next =>
              if _shorter : next.rest.length < lexer.rest.length then run next
              else lexer.failWith .malformed
  termination_by lexer.rest.length

end Lexer

/-- A byte-order mark at the start of a source is skipped. -/
def Token.ofSource (source : Source) : List Token :=
  let text := source.text
  let body := if text.head? = some '\ufeff' then text.drop 1 else text
  Lexer.run { rest := body, interruption := source.interruption }

end UriExpansion.Yaml
