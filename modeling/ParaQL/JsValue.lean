/-
The JavaScript values that cross the layers of the program, and the errors of
lib/errors.js.
-/

import Mathlib.Tactic.Common

namespace ParaQL

structure JsError where
  name : String
  code : Option String
  message : String
  deriving DecidableEq, Repr

inductive JsValue where
  | undefined
  | null
  | bool (value : Bool)
  | number (value : Int)
  | error (error : JsError)
  deriving DecidableEq, Repr

namespace JsError

/-- `new ParaQLError(message, fn, code)`: the message carries its code. -/
def paraQL (message code : String) : JsError :=
  { name := "ParaQLError", code := some code, message := code ++ ": " ++ message }

def internal (message : String) : JsError := paraQL message "INTERNAL"

def alreadyClosed : JsError := paraQL "Database has already been closed" "ALREADY_CLOSED"

def invalidArgument (message : String) : JsError := paraQL message "INVALID_ARGUMENT"

def notDefined (identifier : String) : JsError :=
  { name := "ReferenceError", code := none, message := identifier ++ " is not defined" }

def typeError (message : String) : JsError :=
  { name := "TypeError", code := none, message := message }

def fromError (error : JsError) : JsError :=
  if error.name = "ParaQLError" then error
  else if error.name = "TypeError" then invalidArgument error.message
  else paraQL error.message (error.code.getD "ERROR")

end JsError

/-- `throw errors.from(err)`.  Reading `message` of a value that is no object is
itself a `TypeError`. -/
def JsValue.fromThrown : JsValue → JsValue
  | .error thrown => .error (JsError.fromError thrown)
  | .undefined => .error (JsError.typeError "Cannot read properties of undefined")
  | .null => .error (JsError.typeError "Cannot read properties of null")
  | .bool _ => .error (JsError.paraQL "undefined" "ERROR")
  | .number _ => .error (JsError.paraQL "undefined" "ERROR")

end ParaQL
