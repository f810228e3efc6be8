import BridgeOfHope.Platform

namespace BridgeOfHope

structure Settings where
  secretKey : String
  frontendUrl : String := "http://localhost:3000"
  testProviderEnabled : Bool := true
  stripeEnabled : Bool := false
  paypalEnabled : Bool := false
  mpesaEnabled : Bool := false
  btcEnabled : Bool := false
  stripeSecretKey : String := ""
  stripeWebhookSecret : String := ""
  paypalClientId : String := ""
  paypalClientSecret : String := ""
  paypalMode : String := "sandbox"
  mpesaConsumerKey : String := ""
  mpesaConsumerSecret : String := ""
  mpesaShortcode : String := ""
  mpesaPasskey : String := ""
  mpesaEnvironment : String := "sandbox"
  mpesaCallbackUrl : String := ""
  btcApiKey : String := ""
  emailProvider : String := "console"
  smtpHost : String := ""
  smtpUser : String := ""
  smtpPassword : String := ""
  emailFrom : String := "The Bridge of Hope Foundation <giving@example.org>"
  emailReplyTo : String := ""
deriving DecidableEq

namespace Settings

-- A Python string is true when it is not empty.
def given (value : String) : Bool := value ≠ ""

def missing (s : Settings) : List String :=
  (if s.stripeEnabled && !given s.stripeSecretKey
    then ["STRIPE_SECRET_KEY is required when STRIPE_ENABLED=true"] else []) ++
  (if s.paypalEnabled && !(given s.paypalClientId && given s.paypalClientSecret)
    then ["PAYPAL_CLIENT_ID/PAYPAL_CLIENT_SECRET required when PAYPAL_ENABLED=true"] else []) ++
  (if s.mpesaEnabled && !(given s.mpesaConsumerKey && given s.mpesaConsumerSecret &&
      given s.mpesaShortcode && given s.mpesaPasskey)
    then ["MPESA_* credentials required when MPESA_ENABLED=true"] else []) ++
  (if s.btcEnabled && !given s.btcApiKey
    then ["BTC_API_KEY required when BTC_ENABLED=true"] else []) ++
  (if s.emailProvider = "smtp" && !(given s.smtpHost && given s.smtpUser && given s.smtpPassword)
    then ["SMTP_HOST/SMTP_USER/SMTP_PASSWORD required when EMAIL_PROVIDER=smtp"] else [])

def validateFeatureFlags (s : Settings) : Except Exn Settings :=
  if s.missing = [] then .ok s
  else .error ⟨.valueError,
    "Refusing to boot due to incomplete configuration:\n- " ++ "\n- ".intercalate s.missing⟩

end Settings

-- Settings that boot. No request is ever served with any others.
structure AcceptedSettings where
  settings : Settings
  accepted : settings.validateFeatureFlags = .ok settings
deriving DecidableEq

instance : Coe AcceptedSettings Settings := ⟨AcceptedSettings.settings⟩

end BridgeOfHope
