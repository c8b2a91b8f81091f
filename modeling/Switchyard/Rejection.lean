/-!
# Rejections

Why a route did not take a request. A rejection is an ordinary answer and no error.
-/

namespace Switchyard

/-- Why a route did not take a request. -/
inductive Rejection where
  | method
  | scheme
  | path
  | uncompiled
  deriving Repr, DecidableEq

/-- The wording of a rejection. -/
def Rejection.message : Rejection → String
  | .method => "method not allowed"
  | .scheme => "scheme not allowed"
  | .path => "path mismatch"
  | .uncompiled => "pattern failed to compile"

end Switchyard
