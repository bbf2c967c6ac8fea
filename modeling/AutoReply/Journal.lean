/-!
The records that the bot keeps of its work for those who run it.
-/

namespace AutoReply

inductive Severity
  | debug
  | info
  | warning
  deriving DecidableEq

inductive FieldValue
  | text (value : String)
  | number (value : Int)
  | flag (value : Bool)
  deriving DecidableEq

structure Entry where
  severity : Severity
  message : String
  fields : List (String × FieldValue) := []
  deriving DecidableEq

abbrev Journal := List Entry

end AutoReply
