import StoreAdmin.Config.ClientConfig

/-!
# Configurations with another secret

Credentials have one secret, which neither decides whether a configuration is refused nor stands in
a log.
-/

namespace StoreAdmin

/-- The same credentials with another secret. -/
def Credentials.withSecret (secret : String) : Credentials → Credentials
  | .user gateway username _ => .user gateway username secret
  | .service gateway _ podName namespaceName objectScaleId =>
    .service gateway secret podName namespaceName objectScaleId
  | .legacy gateway username _ => .legacy gateway username secret

def ClientConfig.withSecret (config : ClientConfig) (secret : String) : ClientConfig :=
  { config with credentials := config.credentials.map (·.withSecret secret) }

theorem Credentials.gateway_withSecret (credentials : Credentials) (secret : String) :
    (credentials.withSecret secret).gateway = credentials.gateway := by
  cases credentials <;> rfl

/-- A configuration is not refused for its secret. -/
theorem ClientConfig.validate_withSecret (config : ClientConfig) (secret : String) :
    (config.withSecret secret).validate = config.validate := by
  unfold validate withSecret
  cases config.credentials with
  | none => rfl
  | some credentials => simp only [Option.map_some, credentials.gateway_withSecret]

/-- A log shows the same of credentials, whatever their secret is. -/
theorem Credentials.inspect_withSecret (credentials : Credentials) (secret : String) :
    (credentials.withSecret secret).inspect = credentials.inspect := by
  cases credentials <;> rfl

theorem ClientConfig.inspect_withSecret (config : ClientConfig) (secret : String) :
    (config.withSecret secret).inspect = config.inspect := by
  unfold inspect withSecret
  cases config.credentials with
  | none => rfl
  | some credentials => simp only [Option.map_some, credentials.inspect_withSecret]

end StoreAdmin
