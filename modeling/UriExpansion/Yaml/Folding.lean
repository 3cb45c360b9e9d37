import UriExpansion.Numeric.Reading
import UriExpansion.Yaml.Character
import UriExpansion.Yaml.Token

namespace UriExpansion.Yaml

/-- A gap has line ends and may end at a document mark. -/
structure LineFold where
  breaks : Text
  rest : Text
  column : Nat
  marked : Bool

namespace LineFold

/-- Line ends and the blanks at the start of the lines. -/
def scan (skips : Char → Bool) : Text → Nat → LineFold
  | [], column => { breaks := [], rest := [], column, marked := false }
  | character :: rest, column =>
      if skips character then scan skips rest (column + 1)
      else if isBreak character then
        if startsDocumentMark rest then
          { breaks := [lineEnd character], rest, column := 0, marked := true }
        else
          let fold := scan skips rest 0
          { fold with breaks := lineEnd character :: fold.breaks }
      else { breaks := [], rest := character :: rest, column, marked := false }

theorem length_scan (skips : Char → Bool) (text : Text) (column : Nat) :
    (scan skips text column).rest.length ≤ text.length := by
  induction text generalizing column with
  | nil => simp [scan]
  | cons character rest inductionHypothesis =>
      simp only [scan]
      split
      · exact Nat.le_succ_of_le (inductionHypothesis _)
      · split
        · split
          · simp
          · exact Nat.le_succ_of_le (inductionHypothesis _)
        · simp

/-- One line feed folds to a space, and the first of several is dropped. -/
def folded (fold : LineFold) : Text :=
  match fold.breaks with
  | ['\n'] => [' ']
  | '\n' :: more => more
  | breaks => breaks

end LineFold

theorem length_dropWhile_le (test : Char → Bool) (text : Text) :
    (text.dropWhile test).length ≤ text.length :=
  (List.dropWhile_sublist test).length_le

/-- A plain word ends at a blank, a mark or a colon before them. -/
def endsWord (inFlow : Bool) (character : Char) (rest : Text) : Bool :=
  isBlank character ||
    (character == ':' && (startsBlank rest || (inFlow && rest.head?.any isFlowMark))) ||
    (inFlow && (isFlowMark character || character == '?'))

/-- A plain word is split off. -/
def plainWord (inFlow : Bool) : Text → Text × Text
  | [] => ([], [])
  | character :: rest =>
      if endsWord inFlow character rest then ([], character :: rest)
      else
        let (word, after) := plainWord inFlow rest
        (character :: word, after)

theorem plainWord_parts (inFlow : Bool) (text : Text) :
    (plainWord inFlow text).1 ++ (plainWord inFlow text).2 = text := by
  induction text with
  | nil => rfl
  | cons character rest inductionHypothesis =>
      simp only [plainWord]
      split
      · rfl
      · simp [inductionHypothesis]

/-- A plain scalar may end in a gap that crosses a line end. -/
structure Plain where
  text : Text
  rest : Text
  crossed : Bool

/-- A line that is not indented enough ends a block scalar. -/
def Plain.scan (inFlow : Bool) (indent : Nat) (text : Text) : Plain :=
  let parts := plainWord inFlow text
  if _nonempty : parts.1 = [] then { text := [], rest := text, crossed := false }
  else
    let spaces := parts.2.takeWhile (· == ' ')
    let after := parts.2.dropWhile (· == ' ')
    if after.head?.any isBreak then
      let fold := LineFold.scan (· == ' ') after 0
      if fold.marked || fold.rest.head? == some '#' || (!inFlow && fold.column < indent) then
        { text := parts.1, rest := fold.rest, crossed := true }
      else
        let next := scan inFlow indent fold.rest
        if next.text = [] then { text := parts.1, rest := fold.rest, crossed := true }
        else { next with text := parts.1 ++ fold.folded ++ next.text }
    else if spaces.isEmpty || after.head? == some '#' then
      { text := parts.1, rest := after, crossed := false }
    else
      let next := scan inFlow indent after
      if next.text = [] then { text := parts.1, rest := after, crossed := false }
      else { next with text := parts.1 ++ spaces ++ next.text }
  termination_by text.length
  decreasing_by
    all_goals
      have whole := congrArg List.length (plainWord_parts inFlow text)
      have positive : 0 < (plainWord inFlow text).1.length := List.length_pos_iff.mpr _nonempty
      have dropped := length_dropWhile_le (· == ' ') (plainWord inFlow text).2
      simp only [List.length_append] at whole
    · have shorter := LineFold.length_scan (· == ' ')
        ((plainWord inFlow text).2.dropWhile (· == ' ')) 0
      omega
    · omega

/-- The escapes of one character. -/
def escaped? : Char → Option Char
  | '0' => some '\x00'
  | 'a' => some '\x07'
  | 'b' => some '\x08'
  | 't' => some '\t'
  | '\t' => some '\t'
  | 'n' => some '\n'
  | 'v' => some '\x0b'
  | 'f' => some '\x0c'
  | 'r' => some '\r'
  | 'e' => some '\x1b'
  | ' ' => some ' '
  | '\"' => some '\"'
  | '\\' => some '\\'
  | '/' => some '/'
  | 'N' => some '\u0085'
  | '_' => some '\u00a0'
  | 'L' => some '\u2028'
  | 'P' => some '\u2029'
  | _ => none

/-- These escapes take a fixed number of hexadecimal digits. -/
def escapeWidth? : Char → Option Nat
  | 'x' => some 2
  | 'u' => some 4
  | 'U' => some 8
  | _ => none

/-- The hexadecimal digits of both cases. -/
def isHexDigit (character : Char) : Bool :=
  character.isDigit || ('a' ≤ character && character ≤ 'f') ||
    ('A' ≤ character && character ≤ 'F')

/-- A number of 32 bits overflows before its range is checked. -/
def codeEscape (digits : Text) : Except Fault CodePoint :=
  let code := Text.readNat 16 digits
  if 0x7FFFFFFF < code then .error .codePointOverflow
  else
    match CodePoint.ofCode? code with
    | some point => .ok point
    | none => .error .codePointRange

/-- An escaped line end is dropped. -/
def scanEscape : Text → Except Fault (CodeText × Text)
  | [] => .error .unfinished
  | character :: rest =>
      match escaped? character, escapeWidth? character with
      | some meaning, _ => .ok ([.character meaning], rest)
      | none, some width =>
          let digits := rest.take width
          if !digits.all isHexDigit then .error .malformed
          else if digits.length < width then .error .unfinished
          else (codeEscape digits).map fun meaning => ([meaning], rest.drop width)
      | none, none =>
          if isBreak character then
            let fold := LineFold.scan isInnerBlank (character :: rest) 0
            if fold.marked then .error .malformed
            else .ok (.ofText (fold.breaks.drop 1), fold.rest)
          else .error .malformed

/-- The blanks around a line end between quotes are dropped. -/
def scanGap (text : Text) : Except Fault (CodeText × Text) :=
  let after := text.dropWhile isInnerBlank
  match after with
  | [] => .error .unfinished
  | character :: _ =>
      if isBreak character then
        let fold := LineFold.scan isInnerBlank after 0
        if fold.marked then .error .malformed else .ok (.ofText fold.folded, fold.rest)
      else .ok (.ofText (text.takeWhile isInnerBlank), after)

/-- A piece of a quoted scalar stands before the closing quote. -/
def scanPiece (double : Bool) (character : Char) (rest : Text) :
    Except Fault (Option (CodeText × Text)) :=
  if isBlank character then (scanGap (character :: rest)).map some
  else if double then
    if character = '\"' then .ok none
    else if character = '\\' then (scanEscape rest).map some
    else .ok (some ([.character character], rest))
  else if character = '\x27' then
    match rest with
    | '\x27' :: after => .ok (some ([.character '\x27'], after))
    | _ => .ok none
  else .ok (some ([.character character], rest))

/-- The text after an opening quote. -/
def scanQuoted (double : Bool) : Text → Except Fault (CodeText × Text)
  | [] => .error .unfinished
  | character :: rest =>
      match scanPiece double character rest with
      | .error fault => .error fault
      | .ok none => .ok ([], rest)
      | .ok (some (piece, after)) =>
          if _shorter : after.length ≤ rest.length then
            (scanQuoted double after).map fun tail => (piece ++ tail.1, tail.2)
          else .error .malformed
  termination_by text => text.length
  decreasing_by simp only [List.length_cons]; omega

end UriExpansion.Yaml
