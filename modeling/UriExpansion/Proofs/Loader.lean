import Mathlib.Data.List.TakeWhile
import UriExpansion.Options.Loader

namespace UriExpansion.Options

/-- The problems with which the validation of a document fails. -/
def problemsOf (datum : Datum) : List Problem :=
  match ofDatum datum with
  | .ok _ => []
  | .error problems => problems

theorem problemsOf_mapping (entries : List (Datum × Datum)) :
    problemsOf (.mapping entries) = problems entries := by
  cases noted : problems entries <;> simp [problemsOf, ofDatum, noted]

/-- The document that a call validates. -/
def Reader.document {File Exception : Type} (reader : Reader File Exception) :
    LoaderCall File → Except Exception Datum
  | .fromDatum datum => .ok datum
  | .load file => (reader.read file).map Loader.documentOf

namespace Loader

theorem problems_foldl_note (loader : Loader) (problems : List Problem) :
    (problems.foldl note loader).problems = loader.problems ++ problems := by
  induction problems generalizing loader with
  | nil => simp
  | cons problem rest inductionHypothesis =>
      rw [List.foldl_cons, inductionHypothesis, note, List.append_assoc, List.singleton_append]

/-- A fresh loader notes the problems before the first one that cannot be written. -/
theorem noteAll_reset (loader : Loader) (problems : List Problem) :
    loader.reset.noteAll problems = { problems := problems.takeWhile Problem.isWritable } := by
  have noted := problems_foldl_note loader.reset (problems.takeWhile Problem.isWritable)
  exact congrArg Loader.mk noted

/-- A validation breaks off at a problem that cannot be written. -/
def settle (datum : Datum) : Except ValidationFailure Options × Loader :=
  if (problemsOf datum).all Problem.isWritable then
    ((ofDatum datum).mapError .invalid, { problems := problemsOf datum })
  else (.error .unwritable, { problems := (problemsOf datum).takeWhile Problem.isWritable })

theorem fromDatum_eq (loader : Loader) (datum : Datum) : loader.fromDatum datum = settle datum := by
  cases datum with
  | mapping entries =>
      simp only [fromDatum, settle, problemsOf_mapping, noteAll_reset]
      split
      · next writable =>
          have all : (Options.problems entries).takeWhile Problem.isWritable =
              Options.problems entries :=
            List.takeWhile_eq_self_iff.mpr (List.all_eq_true.mp writable)
          rw [all, conclude, ofDatum]
          split <;> rfl
      · rfl
  | _ => rfl

section

variable {File Exception : Type} (reader : Reader File Exception) (loader : Loader)

/-- A call validates its document, or it fails with the exception of its file. -/
theorem perform_eq (call : LoaderCall File) :
    loader.perform reader call =
      match reader.document call with
      | .ok datum => step (settle datum)
      | .error exception =>
          if reader.isReported exception then
            (.error (.validation (.invalid [.unreadable (reader.wording exception)])),
              { problems := [.unreadable (reader.wording exception)] })
          else (.error (.reading exception), {}) := by
  cases call with
  | fromDatum datum => exact congrArg step (loader.fromDatum_eq datum)
  | load file =>
      simp only [perform, load, Reader.document]
      cases reader.read file with
      | ok datum => exact congrArg step (loader.reset.fromDatum_eq (documentOf datum))
      | error exception => rfl

/-- The loader before a call has no part in it. -/
theorem perform_eq_perform_empty (call : LoaderCall File) :
    loader.perform reader call = perform reader {} call := by
  rw [perform_eq, perform_eq]

end

end Loader

end UriExpansion.Options
