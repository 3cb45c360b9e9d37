import UriExpansion.Proofs.Traversal
import UriExpansion.Value

namespace UriExpansion

namespace Datum

/-- The parts of a datum are rendered one by one. -/
def parts (datum : Datum) : List Datum :=
  datum.items?.getD [datum]

/-- The datum of a name, if it is not null. -/
def bound? (bindings : Bindings Datum) (name : Text) : Option Datum :=
  (bindings.get? name).filter fun datum => !datum.isNull

/-- Encoding fails at a surrogate. -/
def encodingFault? (encode : Bool) (datum : Datum) : Option Value.Fault :=
  if encode && datum.render.toText?.isNone then some (.loneSurrogate datum.render) else none

/-- A part that cannot be written comes before one that cannot be encoded. -/
def fault? (encode : Bool) (datum : Datum) : Option Value.Fault :=
  if datum.parts.all isWritable then datum.parts.findSome? (encodingFault? encode)
  else some .tooManyDigits

theorem fault?_null (encode : Bool) : fault? encode .null = none := by
  cases encode <;> decide

theorem encodingFault?_eq_none_iff {encode : Bool} {datum : Datum} :
    encodingFault? encode datum = none ↔
      (encode = true → ∀ index, .surrogate index ∉ datum.render) := by
  have surrogates : datum.render.toText? = none ↔ ∃ index, .surrogate index ∈ datum.render :=
    CodeText.toText?_eq_none_iff
  cases encode with
  | false => simp [encodingFault?]
  | true => simp [encodingFault?, surrogates]

/-- A faultless datum has parts that can be written and encoded. -/
theorem fault?_eq_none_iff {encode : Bool} {datum : Datum} :
    datum.fault? encode = none ↔ ∀ part ∈ datum.parts, part.isWritable = true ∧
      (encode = true → ∀ index, .surrogate index ∉ part.render) := by
  unfold fault?
  split
  · next writable =>
      rw [List.findSome?_eq_none_iff]
      simp only [encodingFault?_eq_none_iff]
      exact forall₂_congr fun part member =>
        (and_iff_right (List.all_eq_true.mp writable part member)).symm
  · next unwritable =>
      simp only [reduceCtorEq, false_iff]
      exact fun parts => unwritable (List.all_eq_true.mpr fun part member => (parts part member).1)

/-- Among parts that can be written only a surrogate is a fault. -/
theorem exists_of_fault? {encode : Bool} {datum : Datum} {cause : Value.Fault}
    (writable : ∀ part ∈ datum.parts, part.isWritable = true)
    (faulty : datum.fault? encode = some cause) :
    encode = true ∧ ∃ part ∈ datum.parts,
      (∃ index, .surrogate index ∈ part.render) ∧ cause = .loneSurrogate part.render := by
  rw [fault?, if_pos (List.all_eq_true.mpr writable)] at faulty
  obtain ⟨part, member, found⟩ := List.exists_of_findSome?_eq_some faulty
  rw [encodingFault?, Option.ite_none_right_eq_some, Bool.and_eq_true,
    Option.isNone_iff_eq_none, CodeText.toText?_eq_none_iff, Option.some.injEq] at found
  obtain ⟨⟨on, surrogate⟩, rfl⟩ := found
  exact ⟨on, part, member, surrogate, rfl⟩

theorem get?_present (bindings : Bindings Datum) (name : Text) :
    (present bindings).get? name = bound? bindings name := by
  rw [present, Bindings.get?_filterMap, bound?]
  cases bindings.get? name with
  | none => rfl
  | some datum => cases null : datum.isNull <;> simp [Option.filter, null]

end Datum

namespace Value

/-- The first fault among the data of a mapping. -/
def fault? (encode : Bool) (bindings : Bindings Datum) : Option Fault :=
  bindings.entries.findSome? fun entry => entry.2.fault? encode

variable {encode : Bool} {bindings : Bindings Datum} {values : Bindings Value}

theorem error?_textOf (datum : Datum) :
    error? (textOf datum) = if datum.isWritable then none else some .tooManyDigits := by
  cases writable : datum.isWritable <;> simp [textOf, writable]

theorem textOf_of_isWritable {datum : Datum} (writable : datum.isWritable = true) :
    textOf datum = .ok datum.render := by
  rw [textOf, if_pos writable]

theorem error?_encoded (encode : Bool) (text : CodeText) :
    error? (encoded encode text) =
      if encode && text.toText?.isNone then some (.loneSurrogate text) else none := by
  cases encode with
  | false => rfl
  | true => cases found : text.toText? <;> simp [encoded, percentEncoded, found]

/-- The parts of a datum become the texts of its value. -/
def ofTexts (datum : Datum) (texts : List CodeText) : Value :=
  if datum.items?.isSome then .sequence texts else .scalar (texts.headD [])

theorem ofDatum_eq (encode : Bool) (datum : Datum) :
    ofDatum encode datum = (do
      let texts ← datum.parts.mapM textOf
      (texts.mapM (encoded encode)).map (ofTexts datum)) := by
  unfold ofDatum Datum.parts ofTexts
  cases datum.items? with
  | some items => rfl
  | none =>
      simp only [Option.getD_none, List.mapM_cons, List.mapM_nil]
      cases textOf datum with
      | error cause => rfl
      | ok text =>
          change (encoded encode text).map scalar = ([text].mapM (encoded encode)).map _
          rw [List.mapM_cons]
          cases encoded encode text <;> rfl

theorem mapM_textOf_of_writable {parts : List Datum}
    (writable : parts.all Datum.isWritable = true) :
    parts.mapM textOf = .ok (parts.map Datum.render) :=
  Traversal.mapM_of_forall_ok textOf fun part member =>
    textOf_of_isWritable (List.all_eq_true.mp writable part member)

theorem mapM_textOf_of_not_writable {parts : List Datum}
    (unwritable : ¬ parts.all Datum.isWritable = true) :
    parts.mapM textOf = .error .tooManyDigits := by
  have tested (part : Datum) :
      error? (textOf part) = if !part.isWritable then some .tooManyDigits else none := by
    rw [error?_textOf]
    cases part.isWritable <;> rfl
  have failed := Traversal.error?_mapM_of_forall textOf tested parts
  obtain ⟨part, found⟩ : ∃ part, parts.find? (fun part => !part.isWritable) = some part := by
    rw [← Option.isSome_iff_exists, List.find?_isSome]
    simpa using unwritable
  rwa [found, Option.map_some, error?_eq_some_iff] at failed

theorem error?_ofDatum (encode : Bool) (datum : Datum) :
    error? (ofDatum encode datum) = datum.fault? encode := by
  rw [ofDatum_eq, Datum.fault?]
  split
  · next writable =>
      rw [mapM_textOf_of_writable writable]
      change error? (((datum.parts.map Datum.render).mapM (encoded encode)).map _) = _
      rw [error?_map, Traversal.error?_mapM, List.findSome?_map]
      simp only [Function.comp_def, error?_encoded]
      rfl
  · next unwritable =>
      rw [mapM_textOf_of_not_writable unwritable]
      rfl

theorem eq_of_percentEncoded {text result : CodeText}
    (found : percentEncoded text = .ok result) :
    ∃ characters, text = CodeText.ofText characters ∧
      result = CodeText.ofText (PercentEncoding.encode characters) := by
  rw [percentEncoded] at found
  split at found
  · next characters read =>
      exact ⟨characters, CodeText.toText?_eq_some_iff.mp read, (Except.ok.inj found).symm⟩
  · cases found

/-- The texts of a value encode the parts of its datum. -/
theorem exists_texts_of_ofDatum {datum : Datum} {value : Value}
    (found : ofDatum encode datum = .ok value) :
    ∃ texts, List.Forall₂ (fun part text => encoded encode part.render = .ok text)
      datum.parts texts ∧ value = ofTexts datum texts := by
  rw [ofDatum_eq] at found
  by_cases writable : datum.parts.all Datum.isWritable = true
  · rw [mapM_textOf_of_writable writable] at found
    change ((datum.parts.map Datum.render).mapM (encoded encode)).map (ofTexts datum) =
      .ok value at found
    cases visited : (datum.parts.map Datum.render).mapM (encoded encode) with
    | error cause =>
        rw [visited] at found
        cases found
    | ok texts =>
        rw [visited] at found
        refine ⟨texts, ?_, (Except.ok.inj found).symm⟩
        exact List.forall₂_map_left_iff.mp (Traversal.forall₂_of_mapM _ visited)
  · rw [mapM_textOf_of_not_writable writable] at found
    cases found

theorem error?_ofEntry (encode : Bool) (entry : Text × Datum) :
    error? (ofEntry encode entry) = entry.2.fault? encode := by
  rw [ofEntry, error?_map, error?_ofDatum]

/-- The null data are dropped, and they have no faults. -/
theorem findSome?_fault?_present (bindings : Bindings Datum) :
    (Datum.present bindings).entries.findSome? (fun entry => entry.2.fault? encode) =
      fault? encode bindings := by
  obtain ⟨entries, distinct⟩ := bindings
  simp only [fault?, Datum.present, Bindings.filterMap]
  clear distinct
  induction entries with
  | nil => rfl
  | cons entry rest inductionHypothesis =>
      obtain ⟨name, datum⟩ := entry
      cases null : datum.isNull with
      | false => simp [null, List.findSome?_cons, inductionHypothesis]
      | true =>
          obtain rfl : datum = .null := by cases datum <;> simp [Datum.isNull] at null ⊢
          simp [null, Datum.fault?_null, inductionHypothesis]

/-- A preparation fails with the first fault of its data. -/
theorem error?_prepare (encode : Bool) (bindings : Bindings Datum) :
    error? (prepare encode bindings) = fault? encode bindings := by
  rw [prepare, error?_map, Traversal.error?_mapM]
  simp only [error?_ofEntry, findSome?_fault?_present]

theorem prepare_eq_error_iff {cause : Fault} :
    prepare encode bindings = .error cause ↔ fault? encode bindings = some cause := by
  rw [← error?_prepare, error?_eq_some_iff]

theorem exists_prepare_iff :
    (∃ values, prepare encode bindings = .ok values) ↔ fault? encode bindings = none := by
  rw [← error?_prepare, error?_eq_none_iff]

/-- A faultless mapping has data that can be written and encoded. -/
theorem fault?_eq_none_iff :
    fault? encode bindings = none ↔
      ∀ entry ∈ bindings.entries, ∀ part ∈ entry.2.parts, part.isWritable = true ∧
        (encode = true → ∀ index, .surrogate index ∉ part.render) := by
  simp only [fault?, List.findSome?_eq_none_iff, Datum.fault?_eq_none_iff]

/-- Every part of the data of a mapping can be written. -/
def IsWritable (bindings : Bindings Datum) : Prop :=
  ∀ entry ∈ bindings.entries, ∀ part ∈ entry.2.parts, part.isWritable = true

/-- Among data that can be written only a surrogate is a fault. -/
theorem exists_of_fault? {cause : Fault} (writable : IsWritable bindings)
    (faulty : fault? encode bindings = some cause) :
    encode = true ∧ ∃ entry ∈ bindings.entries, ∃ part ∈ entry.2.parts,
      (∃ index, .surrogate index ∈ part.render) ∧ cause = .loneSurrogate part.render := by
  obtain ⟨entry, member, found⟩ := List.exists_of_findSome?_eq_some faulty
  obtain ⟨on, part, inside, surrogate⟩ := Datum.exists_of_fault? (writable entry member) found
  exact ⟨on, entry, member, part, inside, surrogate⟩

theorem exists_of_ofEntry {entry : Text × Datum} {result : Text × Value}
    (visited : ofEntry encode entry = .ok result) :
    ∃ value, ofDatum encode entry.2 = .ok value ∧ result = (entry.1, value) := by
  rw [ofEntry] at visited
  cases found : ofDatum encode entry.2 with
  | error cause =>
      rw [found] at visited
      cases visited
  | ok value =>
      rw [found] at visited
      exact ⟨value, rfl, (Except.ok.inj visited).symm⟩

section Entries

variable {present : List (Text × Datum)} {entries : List (Text × Value)}

/-- Related entries bind the same names to related values. -/
theorem rel_find (related : List.Forall₂ (fun entry result => ofEntry encode entry = .ok result)
    present entries) (name : Text) :
    Option.Rel (fun datum value => ofDatum encode datum = .ok value)
      (Bindings.find name present) (Bindings.find name entries) := by
  induction related with
  | nil => exact .none
  | @cons entry _ _ _ head _ inductionHypothesis =>
      obtain ⟨value, found, rfl⟩ := exists_of_ofEntry head
      by_cases same : entry.1 = name
      · simpa [Bindings.find, same] using found
      · simpa [Bindings.find, same] using inductionHypothesis

theorem map_fst_of_forall₂
    (related : List.Forall₂ (fun entry result => ofEntry encode entry = .ok result)
      present entries) : entries.map Prod.fst = present.map Prod.fst := by
  induction related with
  | nil => rfl
  | cons head _ inductionHypothesis =>
      obtain ⟨value, _, rfl⟩ := exists_of_ofEntry head
      rw [List.map_cons, List.map_cons, inductionHypothesis]

end Entries

/-- Each bound name has the value of its datum. -/
theorem rel_get?_of_prepare (prepared : prepare encode bindings = .ok values) (name : Text) :
    Option.Rel (fun datum value => ofDatum encode datum = .ok value)
      (Datum.bound? bindings name) (values.get? name) := by
  rw [prepare] at prepared
  cases visited : (Datum.present bindings).entries.mapM (ofEntry encode) with
  | error cause =>
      rw [visited] at prepared
      cases prepared
  | ok entries =>
      rw [visited] at prepared
      obtain rfl : .ofList entries = values := Except.ok.inj prepared
      have related := Traversal.forall₂_of_mapM _ visited
      have distinct : (entries.map Prod.fst).Nodup := by
        rw [map_fst_of_forall₂ related]
        exact (Datum.present bindings).distinct
      rw [← Datum.get?_present, Bindings.get?, Bindings.get?,
        Bindings.entries_ofList_of_nodup distinct]
      exact rel_find related name

section Lookup

variable {name : Text}

theorem get?_of_prepare_of_unbound (prepared : prepare encode bindings = .ok values)
    (unbound : Datum.bound? bindings name = none) : values.get? name = none := by
  have related := rel_get?_of_prepare prepared name
  rw [unbound] at related
  generalize values.get? name = found at related
  cases related
  rfl

theorem exists_get?_of_prepare {datum : Datum} (prepared : prepare encode bindings = .ok values)
    (bound : Datum.bound? bindings name = some datum) :
    ∃ value, ofDatum encode datum = .ok value ∧ values.get? name = some value := by
  have related := rel_get?_of_prepare prepared name
  rw [bound] at related
  generalize values.get? name = found at related
  cases related with
  | some rendered => exact ⟨_, rendered, rfl⟩

theorem exists_bound?_of_prepare {value : Value} (prepared : prepare encode bindings = .ok values)
    (found : values.get? name = some value) :
    ∃ datum, Datum.bound? bindings name = some datum ∧ ofDatum encode datum = .ok value := by
  have related := rel_get?_of_prepare prepared name
  rw [found] at related
  generalize Datum.bound? bindings name = bound at related
  cases related with
  | some rendered => exact ⟨_, rfl, rendered⟩

/-- Mappings that agree on a name give it the same value. -/
theorem get?_eq_of_prepare {other : Bindings Datum} {others : Bindings Value}
    (agree : Datum.bound? bindings name = Datum.bound? other name)
    (prepared : prepare encode bindings = .ok values)
    (otherPrepared : prepare encode other = .ok others) : values.get? name = others.get? name := by
  cases bound : Datum.bound? bindings name with
  | none =>
      rw [get?_of_prepare_of_unbound prepared bound,
        get?_of_prepare_of_unbound otherPrepared (agree ▸ bound)]
  | some datum =>
      obtain ⟨value, rendered, found⟩ := exists_get?_of_prepare prepared bound
      obtain ⟨same, otherRendered, otherFound⟩ :=
        exists_get?_of_prepare otherPrepared (agree ▸ bound)
      rw [found, otherFound, Except.ok.inj (rendered.symm.trans otherRendered)]

end Lookup

end Value

end UriExpansion
