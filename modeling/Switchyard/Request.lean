/-!
# Requests

All that routing reads of a request: its method, the scheme of its address and the path.
-/

namespace Switchyard

/-- What routing reads of a request. The path is in its escaped form, without query or fragment;
an address without a scheme has the empty one. -/
structure Request where
  method : String := "GET"
  scheme : String := "http"
  path : String
  deriving Repr, DecidableEq

end Switchyard
