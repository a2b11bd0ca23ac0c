import Resemblance.Text.Offset

/-!
Failures by their class. Failures of an artifact or of a delegate stay with the pair they concern;
those of the cache's storage and of the configuration end a whole run.
-/

namespace Resemblance

/-- What went wrong, with the words that describe it. A `cause` is the description of the failure of
the operating system behind it. -/
inductive Failure where
  | input (path detail : String) (cause : Option String)
  | parse (language detail : String) (place : Option Text.Place)
  | delegate (name detail : String)
  | cacheStorage (detail : String) (cause : Option String)
  /-- Some other file operation failed. -/
  | file (detail : String) (cause : String)
  | configuration (detail : String) (field : Option String)
  | validation (detail : String) (field : Option String)
  /-- A text is not in its format, or not of its shape. -/
  | malformed
  | timeout (detail : String) (seconds : Nat)
  | internal (detail : String)
  deriving DecidableEq, Repr

namespace Failure

def kind : Failure → String
  | input .. => "InputError"
  | parse .. => "ParseError"
  | delegate .. => "DelegateError"
  | cacheStorage .. => "CacheIOError"
  | file .. => "IoError"
  | configuration .. => "ConfigError"
  | validation .. => "ValidationError"
  | malformed => "SerializationError"
  | timeout .. => "TimeoutError"
  | internal .. => "InternalError"

def message : Failure → String
  | input path detail _ => s!"Input error for {path}: {detail}"
  | parse language detail _ => s!"Parse error in {language}: {detail}"
  | delegate name detail => s!"Delegate error ({name}): {detail}"
  | cacheStorage detail _ => s!"Cache I/O error: {detail}"
  | file detail _ => s!"I/O error: {detail}"
  | configuration detail _ => s!"Configuration error: {detail}"
  | validation detail _ => s!"Validation error: {detail}"
  | malformed => "Serialization error"
  | timeout detail seconds => s!"Timed out after {seconds}s: {detail}"
  | internal detail => s!"Internal error: {detail}"

def isFatal : Failure → Bool
  | cacheStorage .. => true
  | configuration .. => true
  | _ => false

def cause : Failure → Option String
  | input _ _ cause => cause
  | cacheStorage _ cause => cause
  | file _ cause => some cause
  | _ => none

def place : Failure → Option Text.Place
  | parse _ _ place => place
  | _ => none

def field : Failure → Option String
  | configuration _ field => field
  | validation _ field => field
  | _ => none

def unreadable (path cause : String) : Failure :=
  input path cause (some cause)

def ofFile (cause : String) : Failure :=
  file "I/O operation failed" cause

end Failure
end Resemblance
