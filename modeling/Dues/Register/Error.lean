import Dues.Store.Basic
import Dues.Text.Quoted

/-! # What goes wrong in the register -/

namespace Dues.Register

inductive RegisterError where
  | store (e : StoreError)
  | emptyLoginName
  | unknownRole (name : String)
  | unknownField (name : String)
  | invalidValue (field value : String)
  | memberNotFound (userId : Int)
  /-- No public identifier could be found that is not in use. -/
  | identifiersExhausted (what : String)
  deriving DecidableEq

def RegisterError.message : RegisterError → String
  | .store e => e.message
  | .emptyLoginName => "login name must not be empty"
  | .unknownRole name => "unknown role " ++ name
  | .unknownField name => "unknown profile field " ++ name
  | .invalidValue field value =>
      "invalid value " ++ Text.Quoted.quote value ++ " stored in profile field " ++ field
  | .memberNotFound userId =>
      "user " ++ String.ofList (Text.digitsOfInt userId) ++ " has no member record"
  | .identifiersExhausted what => "unable to generate a unique identifier for " ++ what

end Dues.Register
