import BridgeOfHope.Runtime

namespace BridgeOfHope

open Process

variable [Platform]

-- The keyword arguments of `record_webhook_event`. A rail hands over the id
-- and the type as it parsed them: only the driver insists on a `str`.
structure EventArgs where
  provider : String
  providerEventId : Json
  eventType : Json
  payload : Json
  signatureValid : Bool
deriving DecidableEq

def EventArgs.row (args : EventArgs) (providerEventId eventType : String) (id : Uuid)
    (receivedAt : Time) : WebhookEvent where
  id := id
  provider := args.provider
  providerEventId := providerEventId
  eventType := eventType
  payload := args.payload
  signatureValid := args.signatureValid
  receivedAt := receivedAt
  status := .received

-- The keyword arguments of `record_donation`.
structure DonationArgs where
  donorId : Uuid
  subscriptionId : Option Uuid
  provider : SubscriptionProvider
  providerPaymentId : String
  amountMinor : Int
  currency : String
  isRecurring : Bool
  rawPayload : Json
deriving DecidableEq

def DonationArgs.row (args : DonationArgs) (id : Uuid) (completedAt : Time) : Donation where
  id := id
  donorId := args.donorId
  subscriptionId := args.subscriptionId
  provider := args.provider
  providerPaymentId := args.providerPaymentId
  amountMinor := args.amountMinor
  currency := args.currency
  status := .succeeded
  isRecurring := args.isRecurring
  completedAt := some completedAt
  rawPayload := args.rawPayload

namespace Ledger

def recordWebhookEvent (args : EventArgs) : Act (WebhookEvent × Bool) := do
  let providerEventId ← Prog.ofExcept args.providerEventId.text
  match ← scalar (.eventByProviderEventId providerEventId) with
  | some existing => return (existing, false)
  | none =>
      let receivedAt ← now
      let id ← uuid7
      let eventType ← Prog.ofExcept args.eventType.text
      let row := args.row providerEventId eventType id receivedAt
      add (.insertWebhookEvent row)
      flush
      return (row, true)

-- An empty error text counts as none.
def processedColumns (event : WebhookEvent) (error : Option String) (time : Time) :
    List WebhookEventSet :=
  [.processedAt (some time), .status (if error.any Settings.given then .failed else .processed),
    .error error, .attempts (event.attempts + 1)]

def markEventProcessed (event : WebhookEvent) (error : Option String) : Act Unit := do
  let time ← now
  let _ ← event.assign (processedColumns event error time)
  flush

def recordDonation (args : DonationArgs) : Act Donation := do
  match ← scalar (.donationByProviderPaymentId args.providerPaymentId) with
  | some existing => return existing
  | none =>
      let completedAt ← now
      let id ← uuid7
      let donation := args.row id completedAt
      add (.insertDonation donation)
      flush
      return donation

def activatedColumns (subscription : Subscription) (time : Time) : List SubscriptionSet :=
  [.status .active, .startedAt (subscription.startedAt <|> some time)]

def activateSubscription (subscription : Subscription) : Act Unit := do
  let time ← now
  let _ ← subscription.assign (activatedColumns subscription time)
  flush

def cancelledColumns (reason : Option String) (time : Time) : List SubscriptionSet :=
  [.status .cancelled, .cancelledAt (some time), .cancellationReason reason]

def cancelSubscriptionRow (subscription : Subscription) (reason : Option String) : Act Unit := do
  let time ← now
  let _ ← subscription.assign (cancelledColumns reason time)
  flush

end Ledger

end BridgeOfHope
