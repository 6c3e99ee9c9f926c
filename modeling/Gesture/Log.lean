
namespace Gesture

inductive LogLevel where
  | debug
  | info
  | warning
  | error
  deriving DecidableEq, Repr

structure LogLine where
  level : LogLevel
  message : String
  detail : Option String := none
  deriving DecidableEq, Repr

end Gesture
