/-!
# Journals

What an operation reports about its course, beside its result.
-/

namespace GuardedNet

/-- How much attention a record asks for. -/
inductive Level where
  | debug
  | info
  | warn
deriving DecidableEq, Inhabited

/-- The word for a level. -/
def Level.name : Level → String
  | .debug => "DEBUG"
  | .info => "INFO"
  | .warn => "WARN"

/-- One record of a journal. -/
structure Record where
  level : Level
  text : String
deriving DecidableEq, Inhabited

/-- The records of an operation in order. -/
abbrev Journal := List Record

namespace Record

/-- A record about a detail. -/
def debug (text : String) : Record := ⟨.debug, text⟩

/-- A record about a result. -/
def info (text : String) : Record := ⟨.info, text⟩

/-- A record about a doubt. -/
def warn (text : String) : Record := ⟨.warn, text⟩

end Record

end GuardedNet
