import BridgeOfHope.Admin.Runtime
import BridgeOfHope.Config

namespace BridgeOfHope.Admin

open Process

-- What argon2 makes of a password.
inductive PasswordCheck : Type
  | verified
  | mismatch
  | raises (error : Exn)

-- The libraries for passwords and for one-time codes.
class Credentials where
  argon2 : (hash plaintext : String) → PasswordCheck
  -- pyotp.TOTP(secret).verify(code, valid_window=1)
  totp : (secret code : String) → Time → Except Exn Bool

def verifyPassword [Credentials] (hash plaintext : String) : Except Exn Bool :=
  match Credentials.argon2 hash plaintext with
  | .verified => .ok true
  | .mismatch => .ok false
  | .raises error => .error error

def verifyTotp [Credentials] (secret code : String) (time : Time) : Except Exn Bool :=
  Credentials.totp secret code time

variable [Platform]

-- The two kinds of signed token differ in the salt, in the field and in the age.
structure TokenKind where
  salt : String
  field : String
  maxAge : ℕ
deriving DecidableEq

def adminSession : TokenKind := ⟨"admin-session", "admin_id", 60 * 60 * 8⟩

def donorManage : TokenKind := ⟨manageTokenSalt, "donor_id", manageTokenMaxAge⟩

namespace TokenKind

def payload (kind : TokenKind) (id : Uuid) : Json := .obj [(kind.field, .str id.toText)]

def issue (kind : TokenKind) (secretKey : String) (id : Uuid) : Act String :=
  ask (.dumps secretKey kind.salt (kind.payload id))

-- What is left of `loads`: a bad token is no token.
def subject (kind : TokenKind) : Except Exn Json → Except Exn (Option Uuid)
  | .error error =>
      if error.cls = .badSignature ∨ error.cls = .signatureExpired then .ok none else .error error
  | .ok data => match (data.item kind.field).bind Uuid.ofJson with
    | .ok id => .ok (some id)
    | .error error =>
        if error.cls = .keyError ∨ error.cls = .valueError ∨ error.cls = .typeError then .ok none
        else .error error

def verify (kind : TokenKind) (secretKey token : String) : Act (Option Uuid) := do
  Prog.ofExcept (kind.subject (← ask (.loads secretKey kind.salt token kind.maxAge)))

end TokenKind

def issueSession (secretKey : String) (adminId : Uuid) : Act String := adminSession.issue secretKey adminId

def verifySession (secretKey token : String) : Act (Option Uuid) := adminSession.verify secretKey token

def issueManageToken (secretKey : String) (donorId : Uuid) : Act String :=
  donorManage.issue secretKey donorId

def verifyManageToken (secretKey token : String) : Act (Option Uuid) := donorManage.verify secretKey token

-- The manage pages read the same function off a serializer that is a function.
theorem verifyManageToken_eq (secretKey token : String) (time : Time) :
    BridgeOfHope.verifyManageToken secretKey token time =
      donorManage.subject (Platform.unsign secretKey donorManage.salt token donorManage.maxAge time) := by
  unfold BridgeOfHope.verifyManageToken TokenKind.subject donorManage
  cases Platform.unsign secretKey manageTokenSalt token manageTokenMaxAge time <;> rfl

-- The settings that the router reads.
structure AdminSettings extends Settings where
  environment : String := "development"
deriving DecidableEq

def httpException {α : Type} (status : ℕ) (detail : String) : Act α :=
  Prog.raise ⟨.httpException status, detail⟩

-- `if not condition: raise HTTPException(status, detail)`
def raiseUnless (condition : Bool) (status : ℕ) (detail : String) : Act Unit :=
  if condition then return () else httpException status detail

-- An empty cookie counts as none.
def requireAdmin (settings : AdminSettings) (bohAdminSession : Option String) : Act AdminUser := do
  match bohAdminSession.filter Settings.given with
  | none => httpException 401 "Not authenticated"
  | some token =>
      match ← verifySession settings.secretKey token with
      | none => httpException 401 "Session expired"
      | some adminId =>
          match ← adminById adminId with
          | none => httpException 401 "Not authenticated"
          | some admin =>
              raiseUnless admin.isActive 401 "Not authenticated"
              return admin

end BridgeOfHope.Admin
