/-!
# Log records

What the library tells its log: a level and a line of text. The modules that
write to the log say what happened as a value of their own and derive the
record from it.
-/

namespace SpriteRenderer

/-- Severity, most severe first. -/
inductive Level where
  | error
  | warn
  | info
  | debug
  | trace
deriving DecidableEq

def Level.label : Level → String
  | .error => "ERROR"
  | .warn => "WARN"
  | .info => "INFO"
  | .debug => "DEBUG"
  | .trace => "TRACE"

/-- One line of the log. -/
structure LogRecord where
  level : Level
  text : String
deriving DecidableEq

end SpriteRenderer
