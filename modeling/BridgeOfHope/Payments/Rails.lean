import BridgeOfHope.Payments.Base

namespace BridgeOfHope.Payments

open Process

variable [Platform]

namespace TestProvider

def createOneOff (_ : Gift) : Act OneOffResult := do
  let token ← tokenHex
  return { providerPaymentId := .str ("test_pay_" ++ token), status := "succeeded" }

-- This rail has no books of its own. `record` notes what it was told.
def createSubscription (gift : Gift) : Act SubscriptionResult := do
  let token ← tokenHex
  let subId := "test_sub_" ++ token
  perform (.record (.testSubscribed subId gift.amountMinor gift.currency))
  return { providerSubscriptionId := subId, status := "active" }

def cancelSubscription (providerSubscriptionId : String) : Act Unit :=
  perform (.record (.testCancelled providerSubscriptionId))

def syntheticPayload (token eventType providerPaymentId : String) (time : Time) : Json :=
  .obj [("event_id", .str ("test_evt_" ++ token)), ("event_type", .str eventType),
    ("provider_payment_id", .str providerPaymentId), ("occurred_at", .str time.isoformat)]

def syntheticEvent (eventType providerPaymentId : String) : Act Json := do
  let token ← tokenHex
  let time ← now
  return syntheticPayload token eventType providerPaymentId time

def verifyWebhook (headers : List (String × String)) : Bool :=
  headers.lookup "x-test-signature" = some "test-signature"

def parseEvent (rawBody : Bytes) : Except Exn WebhookEvent := do
  let data ← Platform.loads rawBody
  return ⟨← data.item "event_id", ← data.item "event_type", data, true⟩

end TestProvider

namespace StripeProvider

def build (s : Settings) : Except Exn Unit :=
  if !s.stripeEnabled || !Settings.given s.stripeSecretKey then
    notConfigured "Stripe is not enabled/configured (STRIPE_ENABLED, STRIPE_SECRET_KEY)"
  else if !Platform.stripeImportable then
    .error ⟨.moduleNotFoundError, "No module named 'stripe'"⟩
  else .ok ()

def checkout (s : Settings) (mode : CheckoutMode) (product : String) (gift : Gift) : Checkout where
  mode := mode
  currency := Platform.lower gift.currency
  unitAmount := gift.amountMinor
  productName := product
  customerEmail := gift.donor.email
  successUrl := s.frontendUrl ++ "/give/thank-you?session_id=\x7bCHECKOUT_SESSION_ID\x7d"
  cancelUrl := s.frontendUrl ++ "/give"

def createOneOff (s : Settings) (gift : Gift) : Act OneOffResult := do
  let session ← Prog.ofExcept (← perform
    (.stripeCheckout (checkout s .payment "One-off gift — Bridge of Hope" gift)))
  return { providerPaymentId := .str session.id, checkoutUrl := .str session.url }

def createSubscription (s : Settings) (gift : Gift) : Act SubscriptionResult := do
  let session ← Prog.ofExcept (← perform
    (.stripeCheckout (checkout s .subscription "Monthly gift — Bridge of Hope" gift)))
  return { providerSubscriptionId := session.id, checkoutUrl := some session.url }

def cancelSubscription (providerSubscriptionId : String) : Act Unit := do
  Prog.ofExcept (← perform (.stripeDelete providerSubscriptionId))

def verifyWebhook (s : Settings) (headers : List (String × String)) (rawBody : Bytes) : Bool :=
  match Platform.constructEvent rawBody ((headers.lookup "stripe-signature").getD "")
      s.stripeWebhookSecret with
  | .ok _ => true
  | .error _ => false

def parseEvent (rawBody : Bytes) : Except Exn WebhookEvent := do
  let data ← Platform.loads rawBody
  return ⟨← data.item "id", ← data.item "type", data, true⟩

end StripeProvider

namespace PayPalProvider

def paypalApi (mode : String) : Except Exn String :=
  if mode = "sandbox" then .ok "https://api-m.sandbox.paypal.com"
  else if mode = "live" then .ok "https://api-m.paypal.com"
  else .error ⟨.keyError, "'" ++ mode ++ "'"⟩

def build (s : Settings) : Except Exn String :=
  if !s.paypalEnabled || !(Settings.given s.paypalClientId && Settings.given s.paypalClientSecret) then
    notConfigured "PayPal is not enabled/configured (PAYPAL_CLIENT_ID, PAYPAL_CLIENT_SECRET)"
  else paypalApi s.paypalMode

def token (s : Settings) (base : String) : Act Json := do
  let reply ← Prog.ofExcept (← perform (.http ⟨base, "/v1/oauth2/token",
    .basic s.paypalClientId s.paypalClientSecret, .obj [("grant_type", .str "client_credentials")]⟩))
  Prog.ofExcept (reply.item "access_token")

-- `next((l["href"] for l in order["links"] if l["rel"] == "approve"), None)`
def approveLink : List Json → Except Exn Json
  | [] => .ok .null
  | link :: links => do
      if (← link.item "rel") = .str "approve" then link.item "href" else approveLink links

-- Iterating an object or a text gives texts, and those have no `l["rel"]`.
def links (order : Json) : Except Exn (List Json) := do
  match ← order.item "links" with
  | .arr links => .ok links
  | .obj [] | .str "" => .ok []
  | _ => .error ⟨.typeError, "object is not iterable"⟩

def createOneOff (s : Settings) (base : String) (gift : Gift) : Act OneOffResult := do
  let token ← token s base
  let amount ← Prog.ofExcept (decimalAmount gift.amountMinor)
  let order ← Prog.ofExcept (← perform (.http ⟨base, "/v2/checkout/orders", .bearer token,
    .obj [("intent", .str "CAPTURE"), ("purchase_units", .arr [.obj [("amount",
      .obj [("currency_code", .str gift.currency), ("value", .str amount)])]])]⟩))
  let approve ← Prog.ofExcept ((links order).bind approveLink)
  return { providerPaymentId := ← Prog.ofExcept (order.item "id"), checkoutUrl := approve }

def createSubscription (_ : Gift) : Act SubscriptionResult :=
  Prog.ofExcept (notConfigured
    "PayPal subscriptions require a pre-created Plan cache — add credentials first")

def cancelPath (providerSubscriptionId : String) : String :=
  "/v1/billing/subscriptions/" ++ providerSubscriptionId ++ "/cancel"

def cancelSubscription (s : Settings) (base providerSubscriptionId : String) : Act Unit := do
  let token ← token s base
  let _ ← Prog.ofExcept (← perform (.http ⟨base, cancelPath providerSubscriptionId, .bearer token,
    .obj [("reason", .str "Donor requested cancellation")]⟩))

def verifyWebhook : Bool := false

def parseEvent (rawBody : Bytes) : Except Exn WebhookEvent := do
  let data ← Platform.loads rawBody
  return ⟨← data.item "id", ← data.item "event_type", data, false⟩

end PayPalProvider

namespace BtcProvider

def build (s : Settings) : Except Exn Unit :=
  if !s.btcEnabled || !Settings.given s.btcApiKey then
    notConfigured "Bitcoin is not enabled/configured (BTC_ENABLED, BTC_API_KEY)"
  else .ok ()

def createOneOff (_ : Gift) : Act OneOffResult :=
  Prog.ofExcept (notConfigured "BTC provider needs BTCPay/OpenNode/Coinbase Commerce credentials")

def createSubscription (_ : Gift) : Act SubscriptionResult :=
  Prog.raise ⟨.notImplementedError, "Bitcoin is one-off only per the build spec — no recurring BTC"⟩

def cancelSubscription : Act Unit := Prog.raise ⟨.notImplementedError, ""⟩

def verifyWebhook : Bool := false

def parseEvent (rawBody : Bytes) : Except Exn WebhookEvent := do
  let data ← Platform.loads rawBody
  return ⟨.str (← data.get "id" .null).toStr, .str (← data.get "type" .null).toStr, data, false⟩

end BtcProvider

end BridgeOfHope.Payments
