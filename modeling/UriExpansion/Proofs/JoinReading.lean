import Mathlib.Data.List.Forall2
import UriExpansion.Proofs.Decoding
import UriExpansion.Proofs.NameOrder
import UriExpansion.Proofs.Rendering
import UriExpansion.Proofs.SingleMarker

namespace UriExpansion

namespace Value

/-- The datum that binds a variable to a value. -/
def datum : Value → Datum
  | .scalar text => .text text
  | .sequence items => .list (items.map .text)

/-- The encoded value, or the value itself if it cannot be encoded. -/
def encodedForm (value : Value) : Value :=
  (ofDatum true value.datum).toOption.getD value

/-- Only a sequence is split at commas before it is decoded. -/
def decode? (isSequence : Bool) (text : CodeText) : Option Value :=
  if isSequence then ((text.splitOn (.character ',')).mapM CodeText.decode?).map .sequence
  else (CodeText.decode? text).map .scalar

/-- Texts that are encoded one by one hold no surrogates. -/
theorem exists_characters_of_encoded (items : List CodeText) {texts : List CodeText}
    (related : List.Forall₂ (fun part text => Value.encoded true part.render = .ok text)
      (items.map Datum.text) texts) :
    ∃ characters : List Text, items = characters.map CodeText.ofText ∧
      texts = characters.map fun text => CodeText.ofText (PercentEncoding.encode text) := by
  induction items generalizing texts with
  | nil =>
      cases related
      exact ⟨[], rfl, rfl⟩
  | cons item items inductionHypothesis =>
      cases related with
      | cons head tail =>
          obtain ⟨text, found, rfl⟩ := eq_of_percentEncoded head
          obtain rfl : item = CodeText.ofText text := found
          obtain ⟨rest, rfl, rfl⟩ := inductionHypothesis tail
          exact ⟨text :: rest, rfl, rfl⟩

/-- A value that is encoded has texts without surrogates. -/
theorem cases_of_ofDatum_datum {value result : Value}
    (found : ofDatum true value.datum = .ok result) :
    (∃ text, value = .scalar (CodeText.ofText text) ∧
      result = .scalar (CodeText.ofText (PercentEncoding.encode text))) ∨
    ∃ texts : List Text, value = .sequence (texts.map CodeText.ofText) ∧
      result =
        .sequence (texts.map fun text => CodeText.ofText (PercentEncoding.encode text)) := by
  obtain ⟨texts, related, rfl⟩ := exists_texts_of_ofDatum found
  cases value with
  | scalar item =>
      obtain ⟨characters, single, rfl⟩ := exists_characters_of_encoded [item] related
      obtain ⟨text, rest, rfl⟩ : ∃ text rest, characters = text :: rest := by
        cases characters <;> simp at single ⊢
      obtain ⟨rfl, -⟩ := List.cons.inj single
      exact .inl ⟨text, rfl, rfl⟩
  | sequence items =>
      obtain ⟨characters, rfl, rfl⟩ := exists_characters_of_encoded items related
      exact .inr ⟨characters, rfl, rfl⟩

theorem encodedForm_of_ofDatum {value result : Value}
    (found : ofDatum true value.datum = .ok result) : value.encodedForm = result := by
  rw [encodedForm, found]
  rfl

@[simp] theorem isEmpty_encodedForm (value : Value) :
    value.encodedForm.isEmpty = value.isEmpty := by
  cases found : ofDatum true value.datum with
  | error cause =>
      rw [encodedForm, found]
      rfl
  | ok result =>
      rw [encodedForm_of_ofDatum found]
      obtain ⟨text, rfl, rfl⟩ | ⟨texts, rfl, rfl⟩ := cases_of_ofDatum_datum found
      · rw [Bool.eq_iff_iff]
        simp only [isEmpty, List.isEmpty_iff, CodeText.ofText_eq_nil_iff,
          PercentEncoding.encode_eq_nil_iff]
      · simp [isEmpty]

end Value

namespace Operator

/-- The variables that are not empty stand in order of their names. -/
def present (bound : Bindings Value) : List (Text × Value) :=
  (sortedByName bound).filter fun entry => !entry.2.isEmpty

theorem mem_present_iff {bound : Bindings Value} {entry : Text × Value} :
    entry ∈ present bound ↔ entry ∈ bound.entries ∧ entry.2.isEmpty = false := by
  rw [present, List.mem_filter, (perm_sortedByName bound).mem_iff, Bool.not_eq_true']

theorem present_eq_nil_iff {bound : Bindings Value} :
    present bound = [] ↔ ∀ entry ∈ bound.entries, entry.2.isEmpty = true := by
  simp only [List.eq_nil_iff_forall_not_mem, mem_present_iff, not_and, Bool.not_eq_false]

end Operator

namespace Template

section

variable {bindings : Bindings Datum} {values : Bindings Value} {name : Text} {value : Value}

end

end Template

end UriExpansion
