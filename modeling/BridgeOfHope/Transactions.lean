import BridgeOfHope.Runtime.Lemmas
import BridgeOfHope.Service

namespace BridgeOfHope

open Process Payments Donations

-- What one commit of a request may do to the tables, as one unit.

-- The donor of a give or a newsletter request: the row as it was loaded or as
-- it was built, whether it is inserted, and the columns that are assigned to it.
structure DonorStep where
  row : Donor
  isNew : Bool
  columns : Option (List DonorSet)

-- The records of a payment on the test rail. The donation is left out when its
-- payment id has one already.
structure Settlement where
  event : WebhookEvent
  args : DonationArgs
  inserted : Option (Uuid × Time)
  time : Time

structure Activation where
  time : Time
  settlement : Option Settlement

inductive Transaction : Type
  | oneOff (step : DonorStep) (settlement : Option Settlement)
  | subscribe (step : DonorStep) (subscription : Subscription) (activation : Option Activation)
  | changeAmount (subscription : Subscription) (amountMinor : Int)
  | cancel (subscription : Subscription) (time : Time)
  | donor (step : DonorStep)
  | dataRequest (row : DataRequest)
  | receive (event : Option WebhookEvent)
  | process (event : WebhookEvent) (time : Time)

def DonorStep.stmts (step : DonorStep) : List Stmt :=
  (if step.isNew then [.insertDonor step.row] else []) ++
    step.columns.toList.map (.updateDonor step.row.id)

def Settlement.donation (x : Settlement) : Option Donation :=
  x.inserted.map fun (id, completedAt) => x.args.row id completedAt

def Settlement.stmts (x : Settlement) : List Stmt :=
  [.insertWebhookEvent x.event] ++ x.donation.toList.map .insertDonation ++
    [.updateWebhookEvent x.event.id (x.event.changes (Ledger.processedColumns x.event none x.time))]

def Activation.stmts (subscription : Subscription) (x : Activation) : List Stmt :=
  [.updateSubscription subscription.id
    (subscription.changes (Ledger.activatedColumns subscription x.time))] ++
    x.settlement.toList.flatMap Settlement.stmts

def Transaction.stmts : Transaction → List Stmt
  | oneOff step settlement => step.stmts ++ settlement.toList.flatMap Settlement.stmts
  | subscribe step subscription activation => step.stmts ++ [.insertSubscription subscription] ++
      activation.toList.flatMap (Activation.stmts subscription)
  | changeAmount subscription amountMinor =>
      [.updateSubscription subscription.id (subscription.changes [.amountMinor amountMinor])]
  | cancel subscription time => [.updateSubscription subscription.id (subscription.changes
      (Ledger.cancelledColumns (some Subscriptions.cancelReason) time))]
  | donor step => step.stmts
  | dataRequest row => [.insertDataRequest row]
  | receive event => event.toList.map .insertWebhookEvent
  | process event time =>
      [.updateWebhookEvent event.id (event.changes (Ledger.processedColumns event none time))]

-- The payment on the test rail that a transaction records.
def Transaction.settlement : Transaction → Option Settlement
  | oneOff _ settlement => settlement
  | subscribe _ _ activation => activation.bind Activation.settlement
  | _ => none

-- What the same request has committed before. Only a delivery commits twice.
def Transaction.earlier : Transaction → List Stmt
  | process event _ => [.insertWebhookEvent event]
  | _ => []

section

variable [Platform]

-- The verified event that a webhook request delivers.
def Request.delivery (request : Request) : Option EventArgs :=
  match request.endpoint with
  | .webhook endpoint headers rawBody =>
      match getProvider endpoint.providerName request.settings.settings with
      | .error _ => none
      | .ok provider =>
          if provider.verifyWebhook (Webhooks.lowerHeaders headers) rawBody then
            match provider.parseEvent rawBody with
            | .error _ => none
            | .ok event => some ⟨endpoint.providerName, event.providerEventId, event.eventType,
                event.payload, event.signatureValid⟩
          else none
  | _ => none

def Request.isWebhook (request : Request) : Bool :=
  match request.endpoint with
  | .webhook .. => true
  | _ => false

def syntheticArgs (token eventType subject : String) (occurredAt : Time) : EventArgs where
  provider := "test"
  providerEventId := .str ("test_evt_" ++ token)
  eventType := .str eventType
  payload := TestProvider.syntheticPayload token eventType subject occurredAt
  signatureValid := true

def oneOffArgs (body : OneOffCreate) (donorId : Uuid) (paymentId : String) (payload : Json) :
    DonationArgs where
  donorId := donorId
  subscriptionId := none
  provider := .test
  providerPaymentId := paymentId
  amountMinor := body.amountMinor
  currency := body.currency
  isRecurring := false
  rawPayload := payload

def initialArgs (body : SubscriptionCreate) (donorId : Uuid) (subscription : Subscription)
    (payload : Json) : DonationArgs where
  donorId := donorId
  subscriptionId := some subscription.id
  provider := .test
  providerPaymentId := subscription.providerSubscriptionId ++ "_initial"
  amountMinor := body.amountMinor
  currency := body.currency
  isRecurring := true
  rawPayload := payload

-- The donor is the one that the lookup by email found, or a new one.
def DonorStep.From (step : DonorStep) (payload : DonorPayload) (s : Session) : Prop :=
  step.isNew = false ∧ s.Read (.donorByEmail payload.email) step.row ∨
    step.isNew = true ∧ ∃ id, step.row = newDonor payload id

-- The event is one the test rail made up, and only a donation that is there
-- already keeps the payment from inserting its own.
structure Settlement.Synthetic (x : Settlement) (eventType subject : String) (s : Session) : Prop where
  event : ∃ token ∈ s.drawn, ∃ occurredAt id receivedAt,
    x.event = (syntheticArgs token eventType subject occurredAt).row ("test_evt_" ++ token) eventType
      id receivedAt
  found : x.inserted = none → ∃ row, s.Read (.donationByProviderPaymentId x.args.providerPaymentId) row

-- The rail was told to charge what the row says.
def Opened (s : Session) (subscription : Subscription) : Prop :=
  match subscription.provider with
  | .test => (∃ token ∈ s.drawn, subscription.providerSubscriptionId = "test_sub_" ++ token) ∧
      ⟨.record (.testSubscribed subscription.providerSubscriptionId subscription.amountMinor
        subscription.currency), ()⟩ ∈ s.past
  | .stripe => ∃ checkout url,
      ⟨.stripeCheckout checkout, .ok ⟨subscription.providerSubscriptionId, url⟩⟩ ∈ s.past ∧
        checkout.mode = .subscription ∧ checkout.unitAmount = subscription.amountMinor ∧
        checkout.currency = Platform.lower subscription.currency
  | _ => False

-- When a request may commit a transaction, given what its session has done.
inductive Licensed (request : Request) (s : Session) : Transaction → Prop
  | oneOff {body : OneOffCreate} {step : DonorStep} {settlement : Option Settlement}
      (hrequest : request.endpoint = .oneOff body)
      (hdonor : step.From body.donor s)
      (hsettled : ∀ x ∈ settlement, ∃ token ∈ s.drawn,
        x.args = oneOffArgs body step.row.id ("test_pay_" ++ token) x.event.payload ∧
          x.Synthetic "payment.succeeded" ("test_pay_" ++ token) s) :
      Licensed request s (.oneOff step settlement)
  | subscribe {body : SubscriptionCreate} {step : DonorStep} {rail : SubscriptionProvider}
      {providerSubscriptionId : String} {id : Uuid} {subscription : Subscription}
      {activation : Option Activation}
      (hrequest : request.endpoint = .subscription body)
      (hdonor : step.From body.donor s)
      (hsubscription : subscription = newSubscription body step.row.id rail providerSubscriptionId id)
      (hopened : Opened s subscription) (hactive : activation.isSome = true ↔ rail = .test)
      (hsettled : ∀ a ∈ activation, ∀ x ∈ a.settlement,
        x.args = initialArgs body step.row.id subscription x.event.payload ∧
          x.Synthetic "subscription.activated" providerSubscriptionId s) :
      Licensed request s (.subscribe step subscription activation)
  | changeAmount {token : String} {body : ManageSubscriptionPatch} {subscription : Subscription}
      (hrequest : request.endpoint = .managePatch token body)
      (htoken : ∃ time, verifyManageToken request.settings.settings.secretKey token time =
        .ok (some subscription.donorId))
      (hread : s.Read (.openSubscriptions subscription.donorId) subscription) :
      Licensed request s (.changeAmount subscription body.amountMinor)
  | cancel {token : String} {subscription : Subscription} {time : Time}
      (hrequest : request.endpoint = .manageDelete token)
      (htoken : ∃ time, verifyManageToken request.settings.settings.secretKey token time =
        .ok (some subscription.donorId))
      (hread : s.Read (.openSubscriptions subscription.donorId) subscription)
      (hopen : subscription.status ≠ .cancelled) :
      Licensed request s (.cancel subscription time)
  | subscriber {body : NewsletterSubscribe} {step : DonorStep}
      (hrequest : request.endpoint = .newsletterSubscribe body) :
      Licensed request s (.donor step)
  | unsubscriber {donorId : String} {step : DonorStep}
      (hrequest : request.endpoint = .newsletterUnsubscribe donorId)
      (hold : step.isNew = false) : Licensed request s (.donor step)
  | dataRequest {body : DataRequestCreate} {row : DataRequest}
      (hrequest : request.endpoint = .dataRequest body) :
      Licensed request s (.dataRequest row)
  | seen {args : EventArgs} {providerEventId : String} {row : WebhookEvent}
      (hrequest : request.delivery = some args)
      (hid : args.providerEventId = .str providerEventId)
      (hread : s.Read (.eventByProviderEventId providerEventId) row) :
      Licensed request s (.receive none)
  | receive {args : EventArgs} {providerEventId eventType : String} {id : Uuid} {receivedAt : Time}
      (hrequest : request.delivery = some args)
      (hid : args.providerEventId = .str providerEventId) (htype : args.eventType = .str eventType)
      (hmissing : ⟨.query (.eventByProviderEventId providerEventId), .ok []⟩ ∈ s.past) :
      Licensed request s (.receive (some (args.row providerEventId eventType id receivedAt)))
  | process {args : EventArgs} {providerEventId eventType : String} {id : Uuid}
      {receivedAt time : Time} (hrequest : request.delivery = some args)
      (hid : args.providerEventId = .str providerEventId) (htype : args.eventType = .str eventType)
      (hmissing : ⟨.query (.eventByProviderEventId providerEventId), .ok []⟩ ∈ s.past) :
      Licensed request s (.process (args.row providerEventId eventType id receivedAt) time)

-- The transaction that a mail speaks of.
inductive Announces (request : Request) (s : Session) (mail : Mail) : Transaction → Prop
  | receipt {body : OneOffCreate} {step : DonorStep} {x : Settlement} {amount date : String}
      (hrequest : request.endpoint = .oneOff body) (hto : mail.to_ = step.row.email)
      (hamount : statedAmount body.currency body.amountMinor = .ok amount)
      (hmail : mail.template = .oneoffReceipt amount date x.args.providerPaymentId) :
      Announces request s mail (.oneOff step (some x))
  | signup {body : SubscriptionCreate} {step : DonorStep} {subscription : Subscription}
      {time : Time} {x : Settlement} {amount manageUrl : String}
      (hrequest : request.endpoint = .subscription body) (hto : mail.to_ = step.row.email)
      (hmail : mail.template = .monthlySignup amount manageUrl) :
      Announces request s mail (.subscribe step subscription (some ⟨time, some x⟩))
  | cancellation {token : String} {subscription : Subscription} {donor : Donor} {time : Time}
      (hrequest : request.endpoint = .manageDelete token)
      (hdonor : s.Read (.donorById subscription.donorId) donor) (hto : mail.to_ = donor.email)
      (hmail : mail.template = .subscriptionCancelled) :
      Announces request s mail (.cancel subscription time)

end

end BridgeOfHope
