set_option autoImplicit false

/-! Records of what happens on the way: a severity and a message. -/

namespace Listfile

inductive Severity where
  | error
  | warning
  | info
  | debug
  deriving DecidableEq, Repr

namespace Severity

def rank : Severity → Nat
  | .error => 0
  | .warning => 1
  | .info => 2
  | .debug => 3

def label : Severity → String
  | .error => "ERROR"
  | .warning => "WARN"
  | .info => "INFO"
  | .debug => "DEBUG"

end Severity

structure LogRecord where
  severity : Severity
  message : String
  deriving DecidableEq, Repr

namespace LogRecord

def warning (message : String) : LogRecord := ⟨.warning, message⟩

def info (message : String) : LogRecord := ⟨.info, message⟩

def debug (message : String) : LogRecord := ⟨.debug, message⟩

def atLeast (least : Severity) (records : List LogRecord) : List LogRecord :=
  records.filter fun record => decide (record.severity.rank ≤ least.rank)

end LogRecord

end Listfile
