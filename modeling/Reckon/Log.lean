set_option autoImplicit false

namespace Reckon.Log

inductive Level where
  | debug
  | info
  | warning
  | error
  | critical
deriving DecidableEq

namespace Level

def name : Level → String
  | .debug => "DEBUG"
  | .info => "INFO"
  | .warning => "WARNING"
  | .error => "ERROR"
  | .critical => "CRITICAL"

def all : List Level := [.debug, .info, .warning, .error, .critical]

def ofName? (name : String) : Option Level := all.find? (·.name == name)

def severity : Level → Nat
  | .debug => 10
  | .info => 20
  | .warning => 30
  | .error => 40
  | .critical => 50

end Level

inductive Channel where
  | parsing
  | evaluation
  | machine
  | session
deriving DecidableEq

structure Record where
  channel : Channel
  level : Level
  message : String
deriving DecidableEq

def atLeast (level : Level) (records : List Record) : List Record :=
  records.filter fun record => level.severity ≤ record.level.severity

end Reckon.Log
