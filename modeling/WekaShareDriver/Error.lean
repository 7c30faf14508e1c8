import WekaShareDriver.Foundation.Text

/-! # Exceptions

The exceptions the driver raises, catches or lets through. The Weka API errors
form one family: a class, the HTTP status it was built from and the reason;
what tolerates an error inspects all three.
-/

namespace WekaShareDriver

open Foundation

/-- `WekaApiError` and its subclasses. -/
inductive ApiErrorClass where
  | generic
  | auth
  | notFound
  | conflict
  | rateLimited
  deriving DecidableEq, Repr

/-- A failed request to the Weka REST API. -/
structure WekaApiError where
  kind : ApiErrorClass
  statusCode : Option Nat
  reason : String
  deriving DecidableEq, Repr

namespace WekaApiError

def auth (reason : String) : WekaApiError := ⟨.auth, some 401, reason⟩
def notFound (reason : String) : WekaApiError := ⟨.notFound, some 404, reason⟩
def conflict (reason : String) : WekaApiError := ⟨.conflict, some 409, reason⟩
def rateLimited (reason : String) : WekaApiError := ⟨.rateLimited, some 429, reason⟩
def generic (statusCode : Nat) (reason : String) : WekaApiError :=
  ⟨.generic, some statusCode, reason⟩

/-- `str(exc)`. -/
def message (error : WekaApiError) : String :=
  match error.kind with
  | .generic =>
      "Weka API error " ++ (error.statusCode.map Nat.repr).getD "unknown" ++ ": " ++ error.reason
  | .auth => "Weka authentication failed: " ++ error.reason
  | .notFound => "Weka resource not found: " ++ error.reason
  | .conflict => "Weka resource conflict: " ++ error.reason
  | .rateLimited => "Weka API rate limited: " ++ error.reason

end WekaApiError

/-- Everything that can be raised. -/
inductive Error where
  | api (error : WekaApiError)
  | capacity (reason : String)
  | mount (reason : String)
  | unmount (reason : String)
  | configuration (reason : String)
  | org (reason : String)
  | shareNotFound (shareId : String)
  | shareSnapshotNotFound (snapshotId : String)
  | invalidShare (reason : String)
  | invalidShareAccess (reason : String)
  | manageInvalidShare (reason : String)
  | shareBackend (message : String)
  | shareShrinkingPossibleDataLoss (shareId : String)
  | manila (message : String)
  | value (message : String)
  | connection
  | timeout
  | process
  | os
  deriving DecidableEq, Repr

/-- A Weka API error that means the policy is attached already. Weka answers
500, not 4xx. -/
def isAlreadyAttachedError : Error → Bool
  | .api error => Text.contains (Text.lower error.message) "already present"
  | _ => false

/-- A Weka API error that means the resource exists already: 409, or 400 with a
message that says so. -/
def isAlreadyExistsError : Error → Bool
  | .api error =>
      if error.kind = .conflict then true
      else if error.statusCode = some 400 ∨ error.statusCode = some 409 then
        Text.contains (Text.lower error.message) "already exist" ||
          Text.contains (Text.lower error.message) "already in use"
      else false
  | _ => false

/-- `WekaNotFound`. -/
def isNotFound : Error → Bool
  | .api error => error.kind = .notFound
  | _ => false

/-- `WekaApiError` or a subclass. -/
def isApiError : Error → Bool
  | .api _ => true
  | _ => false

end WekaShareDriver
