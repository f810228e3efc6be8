import BridgeOfHope.Payments.Base

namespace BridgeOfHope.Payments

open Process

variable [Platform]

def normalizePhone (raw : String) : Except Exn String :=
  let digits := raw.toList.filter isDecimal
  if "254".toList.isPrefixOf digits && digits.length = 12 then .ok (String.ofList digits)
  else if "0".toList.isPrefixOf digits && digits.length = 10 &&
      digits[1]?.any (fun c => c = '1' || c = '7') then
    .ok (String.ofList ("254".toList ++ digits.drop 1))
  else if "7".toList.isPrefixOf digits && digits.length = 9 then
    .ok (String.ofList ("254".toList ++ digits))
  else if "1".toList.isPrefixOf digits && digits.length = 9 then
    .ok (String.ofList ("254".toList ++ digits))
  else valueError ("Could not recognise '" ++ raw ++ "' as a Kenyan phone number. " ++
    "Use 07XXXXXXXX, 01XXXXXXXX, +2547XXXXXXXX or 2547XXXXXXXX.")

def base64Alphabet : List Char :=
  "ABCDEFGHIJKLMNOPQRSTUVWXYZabcdefghijklmnopqrstuvwxyz0123456789+/".toList

def base64Digit (n : ℕ) : Char := base64Alphabet.getD (n % 64) '='

-- `base64.b64encode(data).decode()`
def b64encode : Bytes → List Char
  | [] => []
  | [a] => [base64Digit (a.toNat / 4), base64Digit (a.toNat * 16), '=', '=']
  | [a, b] => [base64Digit (a.toNat / 4), base64Digit (a.toNat * 16 + b.toNat / 16),
      base64Digit (b.toNat * 4), '=']
  | a :: b :: c :: rest => base64Digit (a.toNat / 4) :: base64Digit (a.toNat * 16 + b.toNat / 16) ::
      base64Digit (b.toNat * 4 + c.toNat / 64) :: base64Digit c.toNat :: b64encode rest

namespace MpesaProvider

def darajaHost (environment : String) : Except Exn String :=
  if environment = "sandbox" then .ok "https://sandbox.safaricom.co.ke"
  else if environment = "production" then .ok "https://api.safaricom.co.ke"
  else .error ⟨.keyError, "'" ++ environment ++ "'"⟩

def build (s : Settings) : Except Exn String :=
  if !s.mpesaEnabled || !(Settings.given s.mpesaConsumerKey && Settings.given s.mpesaConsumerSecret &&
      Settings.given s.mpesaShortcode && Settings.given s.mpesaPasskey) then
    notConfigured "M-Pesa is not enabled/configured (MPESA_* env vars)"
  else darajaHost s.mpesaEnvironment

-- `int(data.get("expires_in", 3599))`, which only has to go through.
def expiresIn (data : Json) : Except Exn Unit := do
  match ← data.get "expires_in" (.int 3599) with
  | .int _ | .bool _ | .float _ => .ok ()
  | .str text => if text.toInt?.isSome then .ok () else valueError "invalid literal for int()"
  | _ => .error ⟨.typeError, "int() argument must be a string or a number"⟩

-- The cache of the token is empty: every request builds its own provider.
def getToken (s : Settings) (host : String) : Act Json := do
  let data ← Prog.ofExcept (← perform (.http ⟨host, "/oauth/v1/generate",
    .basic s.mpesaConsumerKey s.mpesaConsumerSecret, .obj [("grant_type", .str "client_credentials")]⟩))
  let token ← Prog.ofExcept (data.item "access_token")
  Prog.ofExcept (expiresIn data)
  return token

def stkPassword (s : Settings) (timestamp : String) : String :=
  String.ofList (b64encode (s.mpesaShortcode ++ s.mpesaPasskey ++ timestamp).toUTF8.toList)

-- EAT is three hours ahead of UTC.
def eatOffset : Time := 3 * 60 * 60 * 1000000

-- `round(amount_minor / 100)`
def wholeShillings (amountMinor : Int) : Except Exn Int := do
  let double ← trueDiv amountMinor.natAbs 100
  return amountMinor.sign * roundHalfEven double.1 double.2

def createOneOff (s : Settings) (host : String) (gift : Gift) : Act OneOffResult := do
  if gift.currency ≠ "KES" then
    Prog.ofExcept (valueError "M-Pesa only accepts KES")
  let raw := gift.donor.phone.getD ""
  if raw = "" then
    Prog.ofExcept (valueError "A phone number is required for M-Pesa")
  let phone ← Prog.ofExcept (normalizePhone raw)
  let timestamp := Time.compact ((← now) + eatOffset)
  let token ← getToken s host
  let amount ← Prog.ofExcept (wholeShillings gift.amountMinor)
  let data ← Prog.ofExcept (← perform (.http ⟨host, "/mpesa/stkpush/v1/processrequest", .bearer token,
    .obj [("BusinessShortCode", .str s.mpesaShortcode), ("Password", .str (stkPassword s timestamp)),
      ("Timestamp", .str timestamp), ("TransactionType", .str "CustomerPayBillOnline"),
      ("Amount", .int amount), ("PartyA", .str phone), ("PartyB", .str s.mpesaShortcode),
      ("PhoneNumber", .str phone), ("CallBackURL", .str s.mpesaCallbackUrl),
      ("AccountReference", .str "BridgeOfHope"), ("TransactionDesc", .str "Donation")]⟩))
  let requestId ← Prog.ofExcept (data.item "CheckoutRequestID")
  return { providerPaymentId := requestId, mpesaRequestId := requestId }

def createSubscription (_ : Gift) : Act SubscriptionResult :=
  Prog.ofExcept (notConfigured "M-Pesa Ratiba standing orders need production Daraja credentials")

def cancelSubscription : Act Unit :=
  Prog.ofExcept (notConfigured "M-Pesa Ratiba cancellation needs production Daraja credentials")

def verifyWebhook : Bool := false

def parseEvent (rawBody : Bytes) : Except Exn WebhookEvent := do
  let data ← Platform.loads rawBody
  let body ← (← data.get "Body" (.obj [])).get "stkCallback" (.obj [])
  return ⟨.str (← body.get "CheckoutRequestID" .null).toStr, .str "stk_callback", data, false⟩

end MpesaProvider

end BridgeOfHope.Payments
