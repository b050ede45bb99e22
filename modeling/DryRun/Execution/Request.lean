import DryRun.Duration.Basic
import DryRun.Error

/-!
# Requests

What is asked of an executor: code, the language that it is declared to be in, and a budget of time.
-/

namespace DryRun

/-- A language that code can be run in. -/
inductive Language where
  | python
  deriving DecidableEq, Repr

namespace Language

/-- The name of a language. -/
def name : Language → String
  | python => "python"

/-- The language of a name. -/
def ofName (name : String) : Except Error Language :=
  if name = python.name then .ok python else .error (.unsupportedLanguage name)

end Language

/-- A request to run code. -/
structure Request where
  code : String
  /-- The declared language, known or not. -/
  language : String
  timeoutSeconds : Float

namespace Request

/-- The budget of a request that names none, in seconds. -/
def defaultTimeout : Float := 30

/-- The budget of time; one that is no length of time counts as none at all. -/
def timeout (request : Request) : Duration :=
  (Duration.ofSeconds? request.timeoutSeconds).getD .zero

/-- The request with a budget of time. -/
def withTimeout (request : Request) (timeout : Duration) : Request :=
  { request with timeoutSeconds := timeout.toSeconds }

end Request

end DryRun
