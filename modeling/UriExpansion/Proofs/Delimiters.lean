import UriExpansion.Proofs.Alphabet
import UriExpansion.Proofs.NameOrder

namespace UriExpansion

/-- A delimiter is no coded character. -/
def CodePoint.isDelimiter : CodePoint → Bool
  | .character value => !PercentEncoding.isCoded value
  | .surrogate _ => true

namespace CodeText

/-- The delimiters of a text in their order. -/
def delimiters (text : CodeText) : CodeText :=
  text.filter CodePoint.isDelimiter

/-- The mask of a text is its delimiters after a percent sign. -/
def mask (text : CodeText) : CodeText :=
  if text.isEmpty then [] else .character '%' :: delimiters text

@[simp] theorem delimiters_append (first second : CodeText) :
    delimiters (first ++ second) = delimiters first ++ delimiters second :=
  List.filter_append ..

theorem delimiters_flatten (texts : List CodeText) :
    delimiters texts.flatten = (texts.map delimiters).flatten :=
  List.filter_flatten

theorem delimiters_encode (text : Text) :
    delimiters (ofText (PercentEncoding.encode text)) = [] := by
  apply List.filter_eq_nil_iff.mpr
  intro point member
  obtain ⟨character, inside, rfl⟩ := List.mem_map.mp member
  simp [CodePoint.isDelimiter, PercentEncoding.isCoded_of_mem_encode inside]

@[simp] theorem delimiters_mask (text : CodeText) : delimiters (mask text) = delimiters text := by
  unfold mask
  split
  · next empty => rw [List.isEmpty_iff.mp empty]
  · have coded : CodePoint.isDelimiter (.character '%') = false := by decide
    simp [delimiters, coded, List.filter_filter]

@[simp] theorem isEmpty_mask (text : CodeText) : (mask text).isEmpty = text.isEmpty := by
  unfold mask
  split <;> simp [*]

/-- The mask of an encoded text shows only whether the source is empty. -/
theorem mask_encode {first second : Text} (same : first = [] ↔ second = []) :
    mask (ofText (PercentEncoding.encode first)) =
      mask (ofText (PercentEncoding.encode second)) := by
  simp only [mask, delimiters_encode, List.isEmpty_iff, ofText_eq_nil_iff,
    PercentEncoding.encode_eq_nil_iff, same]

/-- The delimiters of joined parts are the joined delimiters. -/
theorem delimiters_join (separator : CodeText) (parts : List CodeText) :
    delimiters (Text.join separator parts) =
      Text.join (delimiters separator) (parts.map delimiters) := by
  induction parts with
  | nil => rfl
  | cons part parts inductionHypothesis =>
      cases parts with
      | nil => simp
      | cons next parts =>
          rw [List.map_cons] at inductionHypothesis
          rw [List.map_cons, List.map_cons, Text.join_cons_cons, Text.join_cons_cons,
            delimiters_append, delimiters_append, inductionHypothesis]

theorem isEmpty_append (first second : CodeText) :
    (first ++ second).isEmpty = (first.isEmpty && second.isEmpty) := by
  cases first <;> rfl

/-- Masks hide nothing about the emptiness of joined parts. -/
theorem isEmpty_join_mask (separator : CodeText) (parts : List CodeText) :
    (Text.join separator (parts.map mask)).isEmpty = (Text.join separator parts).isEmpty := by
  induction parts with
  | nil => rfl
  | cons part parts inductionHypothesis =>
      cases parts with
      | nil => simp
      | cons next parts =>
          rw [List.map_cons] at inductionHypothesis
          rw [List.map_cons, List.map_cons, Text.join_cons_cons, Text.join_cons_cons,
            isEmpty_append, isEmpty_append, isEmpty_append, isEmpty_append, isEmpty_mask,
            inductionHypothesis]

end CodeText

namespace Value

/-- The mask of a value masks each of its texts. -/
def mask : Value → Value
  | .scalar text => .scalar text.mask
  | .sequence items => .sequence (items.map CodeText.mask)

@[simp] theorem isEmpty_mask (value : Value) : value.mask.isEmpty = value.isEmpty := by
  cases value <;> simp [mask, isEmpty]

@[simp] theorem isSequence_mask (value : Value) : value.mask.isSequence = value.isSequence := by
  cases value <;> rfl

@[simp] theorem delimiters_joined_mask (separator : CodeText) (value : Value) :
    (value.mask.joined separator).delimiters = (value.joined separator).delimiters := by
  cases value with
  | scalar text => exact CodeText.delimiters_mask text
  | sequence items =>
      have texts : (items.map CodeText.mask).map CodeText.delimiters =
          items.map CodeText.delimiters := by
        rw [List.map_map]
        exact List.map_congr_left fun item _ => CodeText.delimiters_mask item
      rw [mask, joined, joined, CodeText.delimiters_join, CodeText.delimiters_join, texts]

@[simp] theorem isEmpty_joined_mask (separator : CodeText) (value : Value) :
    (value.mask.joined separator).isEmpty = (value.joined separator).isEmpty := by
  cases value with
  | scalar text => exact CodeText.isEmpty_mask text
  | sequence items => exact CodeText.isEmpty_join_mask separator items

end Value

/-- The masked variables keep their names and have masked values. -/
def Bindings.masked (bound : Bindings Value) : Bindings Value :=
  bound.map fun _ => Value.mask

namespace Operator

/-- An operation on the first value shows the delimiters of its mask. -/
theorem delimiters_firstValue?_masked {change : Value → CodeText}
    (unchanged : ∀ value, (change value.mask).delimiters = (change value).delimiters)
    (bound : Bindings Value) :
    ((firstValue? bound.masked).map change).map CodeText.delimiters =
      ((firstValue? bound).map change).map CodeText.delimiters := by
  obtain ⟨entries, distinct⟩ := bound
  cases entries with
  | nil => rfl
  | cons entry rest => exact congrArg some (unchanged entry.2)

theorem delimiters_prepended_mask (argument : CodeText) (value : Value) :
    (prepended argument value.mask).delimiters = (prepended argument value).delimiters := by
  simp only [prepended, Value.isEmpty_joined_mask]
  split <;> simp

theorem delimiters_appended_mask (argument : CodeText) (value : Value) :
    (appended argument value.mask).delimiters = (appended argument value).delimiters := by
  simp only [appended, Value.isEmpty_joined_mask]
  split <;> simp

theorem delimiters_listed_mask (argument : CodeText) (value : Value) :
    (listed argument value.mask).delimiters = (listed argument value).delimiters := by
  simp only [listed, Value.isSequence_mask]
  split <;> simp

theorem delimiters_pair_mask (entry : Text × Value) :
    (pair (entry.1, entry.2.mask)).delimiters = (pair entry).delimiters := by
  rw [pair, pair, CodeText.delimiters_append, CodeText.delimiters_append,
    Value.delimiters_joined_mask]

/-- The masks of the variables give the pairs the same delimiters, one by one. -/
theorem delimiters_pairs_masked (bound : Bindings Value) :
    (pairs bound.masked).map CodeText.delimiters = (pairs bound).map CodeText.delimiters := by
  have kept : ((fun entry : Text × Value => !entry.2.isEmpty) ∘
      fun entry : Text × Value => (entry.1, entry.2.mask)) = fun entry => !entry.2.isEmpty := by
    funext entry
    simp
  rw [pairs, pairs, Bindings.masked, sortedByName_map, List.filter_map, kept, List.map_map,
    List.map_map, List.map_map]
  exact List.map_congr_left fun entry _ => delimiters_pair_mask entry

theorem anyPresent_masked (bound : Bindings Value) :
    anyPresent bound.masked = anyPresent bound := by
  simp [anyPresent, Bindings.masked, Bindings.map, Function.comp_def]

theorem allEmpty_masked (bound : Bindings Value) : allEmpty bound.masked = allEmpty bound := by
  simp [allEmpty, Bindings.masked, Bindings.map, Function.comp_def]

/-- The delimiters of a result depend on the masks of the variables alone. -/
theorem delimiters_apply_masked (operator : Operator) (bound : Bindings Value)
    (argument : CodeText) :
    (operator.apply bound.masked argument).map CodeText.delimiters =
      (operator.apply bound argument).map CodeText.delimiters := by
  rw [apply_eq, apply_eq]
  cases operator with
  | plain => exact delimiters_firstValue?_masked (Value.delimiters_joined_mask [',']) bound
  | prepend => exact delimiters_firstValue?_masked (delimiters_prepended_mask argument) bound
  | append => exact delimiters_firstValue?_masked (delimiters_appended_mask argument) bound
  | join =>
      simp only [Option.map_some, CodeText.delimiters_join, delimiters_pairs_masked]
  | list => exact delimiters_firstValue?_masked (delimiters_listed_mask argument) bound
  | opt => rw [anyPresent_masked]
  | neg => rw [allEmpty_masked]
  | unknown => rfl

end Operator

end UriExpansion
