import BridgeOfHope.Email
import BridgeOfHope.Ledger
import BridgeOfHope.Payments.Registry
import BridgeOfHope.Schemas
import BridgeOfHope.Tokens

namespace BridgeOfHope.Donations

open Process Payments

variable [Platform]

def httpException {α : Type} (status : ℕ) (detail : String) : Act α :=
  Prog.raise ⟨.httpException status, detail⟩

-- `get_provider`, with the exception that the give handlers turn into a 422.
def selectProvider (name : String) (settings : Settings) : Act Provider :=
  match getProvider name settings with
  | .ok provider => return provider
  | .error error =>
      if error.cls = .providerNotConfigured then httpException 422 error.message
      else Prog.raise error

def newDonor (payload : DonorPayload) (id : Uuid) : Donor where
  id := id
  email := payload.email
  firstName := payload.firstName
  lastName := payload.lastName
  countryCode := Platform.upper payload.countryCode

def getOrCreateDonor (payload : DonorPayload) : Act Donor := do
  match ← scalar (.donorByEmail payload.email) with
  | some donor => return donor
  | none =>
      let donor := newDonor payload (← uuid7)
      add (.insertDonor donor)
      flush
      return donor

def consentColumns (source : String) (time : Time) : List DonorSet :=
  [.marketingConsent true, .consentRecordedAt (some time), .consentSource (some source)]

def recordConsent (donor : Donor) (source : String) : Act Donor := do
  let time ← now
  donor.assign (consentColumns source time)

def gift (body : GiveBody) : Gift where
  amountMinor := body.amountMinor
  currency := body.currency
  coverFees := body.coverFees
  donor := {
    email := body.donor.email
    firstName := body.donor.firstName
    lastName := body.donor.lastName
    countryCode := body.donor.countryCode
    phone := body.donor.phone }
  consent := body.consent

-- `f"{body.currency} {body.amount_minor / 100:.2f}"`
def statedAmount (currency : String) (amountMinor : Int) : Except Exn String :=
  (decimalAmount amountMinor).map fun amount => currency ++ " " ++ amount

-- The response model refuses a field that is neither null nor a text.
def optionalText : Json → Except Exn (Option String)
  | .null => .ok none
  | value => value.text.map some

def oneOffResponse (result : OneOffResult) : Except Exn OneOffResponse := do
  return {
    checkoutUrl := ← optionalText result.checkoutUrl
    clientSecret := ← optionalText result.clientSecret
    mpesaRequestId := ← optionalText result.mpesaRequestId
    providerPaymentId := ← result.providerPaymentId.text
    status := result.status }

-- The test rail has no callback: its event and its donation are recorded at once.
def settleOneOff (settings : Settings) (body : OneOffCreate) (donor : Donor)
    (result : OneOffResult) : Act Unit := do
  let paymentId ← Prog.ofExcept result.providerPaymentId.text
  let payload ← TestProvider.syntheticEvent "payment.succeeded" paymentId
  let (event, isNew) ← Ledger.recordWebhookEvent {
    provider := "test"
    providerEventId := ← Prog.ofExcept (payload.item "event_id")
    eventType := ← Prog.ofExcept (payload.item "event_type")
    payload := payload
    signatureValid := true }
  if isNew then
    let _ ← Ledger.recordDonation {
      donorId := donor.id
      subscriptionId := none
      provider := .test
      providerPaymentId := paymentId
      amountMinor := body.amountMinor
      currency := body.currency
      isRecurring := false
      rawPayload := payload }
    Ledger.markEventProcessed event none
    let amount ← Prog.ofExcept (statedAmount body.currency body.amountMinor)
    let time ← now
    sendEmail settings donor.email "Your gift to The Bridge of Hope Foundation"
      (.oneoffReceipt amount time.dateIso paymentId)

def createOneOff (settings : Settings) (body : OneOffCreate) : Act Response := do
  let provider ← selectProvider body.provider settings
  let donor ← getOrCreateDonor body.donor
  let donor ← if body.consent then recordConsent donor "give_form_oneoff" else pure donor
  let result ← provider.createOneOff (gift body)
  match provider with
  | .test => settleOneOff settings body donor result
  | _ => pure ()
  commit
  let response ← Prog.ofExcept (oneOffResponse result)
  return ⟨200, .oneOff response⟩

def settleSubscription (settings : Settings) (body : SubscriptionCreate) (donor : Donor)
    (subscription : Subscription) : Act Unit := do
  Ledger.activateSubscription subscription
  let payload ← TestProvider.syntheticEvent "subscription.activated"
    subscription.providerSubscriptionId
  let (event, isNew) ← Ledger.recordWebhookEvent {
    provider := "test"
    providerEventId := ← Prog.ofExcept (payload.item "event_id")
    eventType := ← Prog.ofExcept (payload.item "event_type")
    payload := payload
    signatureValid := true }
  if isNew then
    let firstPaymentId := subscription.providerSubscriptionId ++ "_initial"
    let _ ← Ledger.recordDonation {
      donorId := donor.id
      subscriptionId := some subscription.id
      provider := .test
      providerPaymentId := firstPaymentId
      amountMinor := body.amountMinor
      currency := body.currency
      isRecurring := true
      rawPayload := payload }
    Ledger.markEventProcessed event none
    let manageToken := issueManageToken settings.secretKey donor.id (← now)
    let amount ← Prog.ofExcept (statedAmount body.currency body.amountMinor)
    sendEmail settings donor.email "Your monthly gift is set up"
      (.monthlySignup amount (settings.frontendUrl ++ "/manage/" ++ manageToken))

def newSubscription (body : SubscriptionCreate) (donorId : Uuid) (rail : SubscriptionProvider)
    (providerSubscriptionId : String) (id : Uuid) : Subscription where
  id := id
  donorId := donorId
  provider := rail
  providerSubscriptionId := providerSubscriptionId
  amountMinor := body.amountMinor
  currency := body.currency
  coverFees := body.coverFees
  status := .pending

def createSubscription (settings : Settings) (body : SubscriptionCreate) : Act Response := do
  let provider ← selectProvider body.provider settings
  let donor ← getOrCreateDonor body.donor
  let donor ← if body.consent then recordConsent donor "give_form_monthly" else pure donor
  let result ← provider.createSubscription (gift body)
  let rail ← Prog.ofExcept (SubscriptionProvider.ofString body.provider)
  let subscription := newSubscription body donor.id rail result.providerSubscriptionId (← uuid7)
  add (.insertSubscription subscription)
  flush
  match provider with
  | .test => settleSubscription settings body donor subscription
  | _ => pure ()
  commit
  return ⟨200, .subscription {
    checkoutUrl := result.checkoutUrl
    approvalUrl := result.approvalUrl
    ratibaRequestId := result.ratibaRequestId
    providerSubscriptionId := result.providerSubscriptionId
    status := result.status }⟩

end BridgeOfHope.Donations
