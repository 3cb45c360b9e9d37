import UriExpansion.Text.Quoted

namespace UriExpansion

/-- A code point is a character or one of the 2048 surrogates. -/
inductive CodePoint where
  | character (value : Char)
  | surrogate (index : Fin 0x800)
  deriving DecidableEq

instance : Coe Char CodePoint := ⟨.character⟩

namespace CodePoint

/-- The code of a code point. -/
def code : CodePoint → Nat
  | .character value => value.toNat
  | .surrogate index => 0xD800 + index.val

/-- The code point of a code. -/
def ofCode? (code : Nat) : Option CodePoint :=
  if code.isValidChar then some (.character (Char.ofNat code))
  else if within : code - 0xD800 < 0x800 then some (.surrogate ⟨code - 0xD800, within⟩)
  else none

/-- The character of a code point that is no surrogate. -/
def character? : CodePoint → Option Char
  | .character value => some value
  | .surrogate _ => none

/-- A code point between quotes. -/
def escape (quote : Char) : CodePoint → Text
  | .character value => Text.escapeCharacter quote value
  | .surrogate index => Text.escapeCode (surrogate index).code

end CodePoint

/-- A code text may hold lone surrogates. -/
abbrev CodeText := List CodePoint

namespace CodeText

/-- Each text is a code text. -/
def ofText (text : Text) : CodeText :=
  text.map .character

/-- The text of a code text without surrogates. -/
def toText? (points : CodeText) : Option Text :=
  points.mapM CodePoint.character?

/-- A code text between quotes. -/
def quoted (points : CodeText) : Text :=
  let quote := Text.chooseQuote (points.filterMap CodePoint.character?)
  quote :: points.flatMap (CodePoint.escape quote) ++ [quote]

section

variable {text first second : Text} {points : CodeText} {character : Char} {index : Fin 0x800}

@[simp] theorem ofText_nil : ofText [] = [] := rfl

@[simp] theorem ofText_cons (character : Char) (text : Text) :
    ofText (character :: text) = .character character :: ofText text := rfl

@[simp] theorem ofText_append (first second : Text) :
    ofText (first ++ second) = ofText first ++ ofText second :=
  List.map_append

@[simp] theorem ofText_eq_nil_iff : ofText text = [] ↔ text = [] :=
  List.map_eq_nil_iff

@[simp] theorem character_mem_ofText : .character character ∈ ofText text ↔ character ∈ text := by
  simp [ofText]

@[simp] theorem toText?_nil : toText? [] = some [] := rfl

@[simp] theorem toText?_cons_character :
    toText? (.character character :: points) = (toText? points).map (character :: ·) := by
  simp only [toText?, List.mapM_cons, CodePoint.character?]
  cases points.mapM CodePoint.character? <;> rfl

@[simp] theorem toText?_cons_surrogate : toText? (.surrogate index :: points) = none := rfl

theorem toText?_eq_some_iff : toText? points = some text ↔ points = ofText text := by
  induction points generalizing text with
  | nil => cases text <;> simp
  | cons point points inductionHypothesis =>
      cases point with
      | character value => cases text <;> simp [inductionHypothesis, and_left_comm]
      | surrogate index => cases text <;> simp

@[simp] theorem toText?_ofText (text : Text) : toText? (ofText text) = some text :=
  toText?_eq_some_iff.mpr rfl

/-- A code text is no text exactly if it holds a surrogate. -/
theorem toText?_eq_none_iff : toText? points = none ↔ ∃ index, .surrogate index ∈ points := by
  induction points with
  | nil => simp
  | cons point points inductionHypothesis =>
      cases point with
      | character value => simp [inductionHypothesis]
      | surrogate other => exact iff_of_true rfl ⟨other, List.mem_cons_self⟩

theorem ofText_injective (same : ofText first = ofText second) : first = second := by
  have read := congrArg toText? same
  rw [toText?_ofText, toText?_ofText] at read
  exact Option.some.inj read

@[simp] theorem ofText_inj : ofText first = ofText second ↔ first = second :=
  ⟨ofText_injective, congrArg ofText⟩

/-- A text is quoted like its code points. -/
theorem quoted_ofText (text : Text) : quoted (ofText text) = Text.quoted text := by
  have characters : (ofText text).filterMap CodePoint.character? = text := by
    simp [ofText, List.filterMap_map, Function.comp_def, CodePoint.character?]
  have escapes (quote : Char) :
      (ofText text).flatMap (CodePoint.escape quote) =
        text.flatMap (Text.escapeCharacter quote) := by
    simp [ofText, List.flatMap_map, CodePoint.escape]
  simp only [quoted, Text.quoted, characters, escapes]

end

end CodeText

end UriExpansion
