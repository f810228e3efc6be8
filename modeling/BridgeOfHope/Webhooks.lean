import BridgeOfHope.Ledger
import BridgeOfHope.Payments.Registry
import BridgeOfHope.Schemas

namespace BridgeOfHope.Webhooks

open Process Payments

variable [Platform]

-- The five routes and the rail each one names.
inductive Endpoint : Type
  | stripe
  | paypal
  | mpesaStk
  | mpesaRatiba
  | btc
deriving DecidableEq

def Endpoint.providerName : Endpoint → String
  | stripe => "stripe"
  | paypal => "paypal"
  | mpesaStk => "mpesa"
  | mpesaRatiba => "mpesa"
  | btc => "btc"

-- `{k.lower(): v for k, v in request.headers.items()}`: the last value counts.
def lowerHeaders (headers : List (String × String)) : List (String × String) :=
  (headers.map fun header => (Platform.lower header.1, header.2)).reverse

-- A failed flush or commit leaves the session broken, so the second
-- `markEventProcessed` works on the row as it was before the first one.
def process (event : BridgeOfHope.WebhookEvent) : Act Unit := do
  try
    Ledger.markEventProcessed event none
    commit
  catch error =>
    Ledger.markEventProcessed event (some error.message)
    commit

def accept (providerName : String) (event : Payments.WebhookEvent) : Act Response := do
  let (row, isNew) ← Ledger.recordWebhookEvent {
    provider := providerName
    providerEventId := event.providerEventId
    eventType := event.eventType
    payload := event.payload
    signatureValid := event.signatureValid }
  commit
  if isNew then
    process row
  return ⟨200, .empty⟩

def handle (settings : Settings) (providerName : String) (headers : List (String × String))
    (rawBody : Bytes) : Act Response :=
  match getProvider providerName settings with
  | .error _ => return ⟨401, .empty⟩
  | .ok provider =>
      if provider.verifyWebhook (lowerHeaders headers) rawBody then do
        let event ← Prog.ofExcept (provider.parseEvent rawBody)
        accept providerName event
      else return ⟨401, .empty⟩

end BridgeOfHope.Webhooks
