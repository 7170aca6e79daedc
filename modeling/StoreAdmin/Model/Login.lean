import StoreAdmin.Record.Shape

/-!
# Logins

The documents of a login that returns its token in a document.
-/

namespace StoreAdmin

open Entry

/-- The name and the password of a login. Both are required. -/
structure LoginRequest where
  username : String := ""
  password : String := ""
  deriving DecidableEq, Inhabited

instance : Model LoginRequest where
  heading := { name := "RkeLoginRequest", lenient := false }
  fields := .of [
    text "username", (text "password").redacted]
  toVal a := (a.username, a.password, ())
  ofVal := fun (username, password, _) =>
    { username, password }
  ofVal_toVal _ := rfl

/-- The tokens that a login returns. -/
structure LoginResponse where
  accessToken : String := ""
  accessExpiresIn : Int64 := 0
  refreshToken : String := ""
  refreshExpiresIn : Int64 := 0
  deriving DecidableEq, Inhabited

instance : Model LoginResponse where
  heading := { name := "RkeLoginResponse", partlyShown := true }
  fields := .of [
    (text "access_token").hidden, integer "expires_in" "access_expires_in",
    (text "refresh_token").hidden, integer "refresh_expires_in"]
  toVal a := (a.accessToken, a.accessExpiresIn, a.refreshToken, a.refreshExpiresIn, ())
  ofVal := fun (accessToken, accessExpiresIn, refreshToken, refreshExpiresIn, _) =>
    { accessToken, accessExpiresIn, refreshToken, refreshExpiresIn }
  ofVal_toVal _ := rfl

end StoreAdmin
