import StoreAdmin.Record.Shape

/-!
# Error documents

The service describes a failed call by a code, a description and details.
-/

namespace StoreAdmin

open Entry

/-- An error document of the service. -/
structure ApiError where
  code : Int64 := 0
  description : String := ""
  details : String := ""
  retryable : Bool := false
  deriving DecidableEq, Inhabited

instance : Model ApiError where
  heading := { name := "ApiError", root := "error" }
  fields := .of [
    integer "code", text "description", text "details", flag "retryable"]
  toVal a := (a.code, a.description, a.details, a.retryable, ())
  ofVal := fun (code, description, details, retryable, _) =>
    { code, description, details, retryable }
  ofVal_toVal _ := rfl

namespace ApiError

/-- The code of an error document about a thing that does not exist. -/
def notFoundCode : Int64 := 1004

/-- The error that a thing does not exist. -/
def notFound : ApiError :=
  { code := notFoundCode, description := "not found" }

/-- Whether the error says that a thing does not exist. -/
def isNotFound (e : ApiError) : Bool :=
  e.code = notFoundCode

/-- The description, if there is one, with the details behind it. -/
def message (e : ApiError) : String :=
  let description := if e.description = "" then "Unknown" else e.description
  if e.details = "" then description else description ++ ": " ++ e.details

end ApiError

end StoreAdmin
