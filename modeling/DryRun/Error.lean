/-!
# Errors

What can go wrong outside the expressions of a program, with the text that is shown for it.
-/

namespace DryRun

/-- An error of the library, with what is to be said about it. -/
inductive Error where
  | config (message : String)
  | io (message : String)
  | json (message : String)
  | invalidInput (message : String)
  | unsupportedLanguage (language : String)
  | evaluation (message : String)
  | timeout (message : String)
  | internal (message : String)
  deriving DecidableEq, Repr

namespace Error

/-- The text that is shown for an error. -/
def display : Error → String
  | config message => "Configuration error: " ++ message
  | io message => "I/O error: " ++ message
  | json message => "JSON error: " ++ message
  | invalidInput message => "Invalid input: " ++ message
  | unsupportedLanguage language => "Language " ++ language ++ " not supported yet"
  | evaluation message => message
  | timeout message => "Timeout: " ++ message
  | internal message => "Internal error: " ++ message

/-- Whether the submitted code or request is to blame. -/
def isClientError : Error → Bool
  | invalidInput _ | unsupportedLanguage _ | evaluation _ => true
  | _ => false

end Error

end DryRun
