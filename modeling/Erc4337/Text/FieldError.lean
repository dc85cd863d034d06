import Erc4337.Arith
/-!
Field rule violations: a field that breaks a declared rule (`required`, `oneof`, `gte`, ...)
is reported by its path in the record, its own name and the rule, one line per field.
-/
namespace Erc4337

structure FieldError where
  path : String
  field : String
  rule : String
  deriving DecidableEq, Inhabited

namespace FieldError

def message (e : FieldError) : String :=
  "Key: '" ++ e.path ++ "' Error:Field validation for '" ++ e.field ++ "' failed on the '" ++
    e.rule ++ "' tag"

def listMessage (es : List FieldError) : String := "\n".intercalate (es.map message)

end FieldError

end Erc4337
