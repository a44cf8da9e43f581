import CloudLifecycle.Text.Quoted

/-!
# Errors of backends

What may go wrong in a call to a backend, or in looking a resource up.
-/

namespace CloudLifecycle

/-- An error that a backend answers with. -/
inductive BackendError where
  | network (detail : String)
  | authentication (detail : String)
  | objectNotFound (detail : String)
  | vendor (code detail : String)
  | responseParse (detail : String)
  | unavailable (detail : String)
  deriving DecidableEq, Repr, Inhabited

namespace BackendError

/-- An error in words. -/
def message : BackendError → String
  | network d => "Network error: " ++ d
  | authentication d => "Authentication failed: " ++ d
  | objectNotFound d => "Object not found: " ++ d
  | vendor c d => "Vendor error " ++ c ++ ": " ++ d
  | responseParse d => "Could not parse backend response: " ++ d
  | unavailable d => "Backend unavailable: " ++ d

/-- The status of a web response that fits an error. -/
def statusHint : BackendError → UInt16
  | authentication _ => 401
  | objectNotFound _ => 404
  | unavailable _ => 503
  | network _ | vendor _ _ | responseParse _ => 502

/-- An error in diagnostics. -/
def diagnostic : BackendError → String
  | network d => "Network(" ++ Text.quoted d ++ ")"
  | authentication d => "Authentication(" ++ Text.quoted d ++ ")"
  | objectNotFound d => "ObjectNotFound(" ++ Text.quoted d ++ ")"
  | vendor c d => "Vendor \x7b code: " ++ Text.quoted c ++ ", message: " ++ Text.quoted d ++ " \x7d"
  | responseParse d => "ResponseParse(" ++ Text.quoted d ++ ")"
  | unavailable d => "Unavailable(" ++ Text.quoted d ++ ")"

end BackendError

end CloudLifecycle
