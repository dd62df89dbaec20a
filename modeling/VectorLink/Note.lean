/-! Log events: a severity, a fixed text and named fields. -/

set_option autoImplicit false

namespace VectorLink

inductive Level where
  | debug
  | info
  | warn
  | error
  deriving DecidableEq, Repr

def Level.label : Level → String
  | debug => "DEBUG"
  | info => "INFO"
  | warn => "WARN"
  | error => "ERROR"

structure Note where
  level : Level
  text : String
  fields : List (String × String)
  deriving DecidableEq, Repr

end VectorLink
