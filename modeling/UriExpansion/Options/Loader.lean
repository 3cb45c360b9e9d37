import UriExpansion.Options.Problem

namespace UriExpansion.Options

/-- A validation fails with problems, or at a notice that cannot be written. -/
inductive ValidationFailure where
  | invalid (problems : List Problem)
  | unwritable

/-- A loader holds the problems that its current call has found. -/
structure Loader where
  problems : List Problem := []

namespace Loader

/-- Each call starts without problems. -/
def reset (_ : Loader) : Loader := {}

/-- A new problem stands after the others. -/
def note (loader : Loader) (problem : Problem) : Loader :=
  { loader with problems := loader.problems ++ [problem] }

/-- A call with problems fails with all of them. -/
def conclude (loader : Loader) (options : Options) :
    Except ValidationFailure Options × Loader :=
  if loader.problems.isEmpty then (.ok options, loader)
  else (.error (.invalid loader.problems), loader)

/-- Problems are noted up to the first one whose notice cannot be written. -/
def noteAll (loader : Loader) (problems : List Problem) : Loader :=
  (problems.takeWhile Problem.isWritable).foldl note loader

/-- The validation of a document. -/
def fromDatum (loader : Loader) (datum : Datum) : Except ValidationFailure Options × Loader :=
  match datum with
  | .mapping entries =>
      let problems := Options.problems entries
      let noted := loader.reset.noteAll problems
      if problems.all Problem.isWritable then noted.conclude (ofEntries entries)
      else (.error .unwritable, noted)
  | datum => (loader.reset.note (.notMapping datum)).conclude {}

/-- The null document is the empty mapping. -/
def documentOf (datum : Datum) : Datum :=
  if datum.isNull then .mapping [] else datum

end Loader

/-- A reader gives the document of a file or raises an exception. -/
structure Reader (File Exception : Type) where
  read : File → Except Exception Datum
  /-- The system and the document format raise these exceptions. -/
  isReported : Exception → Bool
  wording : Exception → CodeText

/-- A load fails like a validation, or with an exception that is not reported. -/
inductive LoadFailure (Exception : Type) where
  | validation (cause : ValidationFailure)
  | reading (exception : Exception)

/-- The outcome of a call and the loader after it. -/
abbrev LoaderStep (Exception : Type) := Except (LoadFailure Exception) Options × Loader

namespace Loader

variable {File Exception : Type}

/-- A validation as the step of a call. -/
def step (validated : Except ValidationFailure Options × Loader) : LoaderStep Exception :=
  (validated.1.mapError .validation, validated.2)

/-- A file is read, and its document is validated. -/
def load (reader : Reader File Exception) (loader : Loader) (file : File) :
    LoaderStep Exception :=
  let fresh := loader.reset
  match reader.read file with
  | .ok datum => step (fresh.fromDatum (documentOf datum))
  | .error exception =>
      if reader.isReported exception then
        step ((fresh.note (.unreadable (reader.wording exception))).conclude {})
      else (.error (.reading exception), fresh)

end Loader

/-- A call to a loader validates a document or loads a file. -/
inductive LoaderCall (File : Type) where
  | fromDatum (datum : Datum)
  | load (file : File)

namespace Loader

variable {File Exception : Type}

/-- The step of one call. -/
def perform (reader : Reader File Exception) (loader : Loader) :
    LoaderCall File → LoaderStep Exception
  | .fromDatum datum => step (loader.fromDatum datum)
  | .load file => loader.load reader file

/-- Each call starts with the loader that the call before it left. -/
def session (reader : Reader File Exception) (loader : Loader) :
    List (LoaderCall File) → List (LoaderStep Exception)
  | [] => []
  | call :: rest =>
      let step := loader.perform reader call
      step :: session reader step.2 rest

end Loader

end UriExpansion.Options
