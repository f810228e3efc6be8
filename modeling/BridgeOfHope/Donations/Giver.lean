import BridgeOfHope.Service.Paths

namespace BridgeOfHope

open Process Payments Donations

-- The two give handlers, cut where they meet the rail: the donor is found or
-- stored, the rail is asked, and the gift is recorded.

variable [Platform] {settings : Settings} {request : Request} {body : GiveBody}

theorem Request.handler_oneOff (h : request.endpoint = .oneOff body) :
    request.handler = createOneOff request.settings.settings body := by
  unfold Request.handler
  rw [h]

theorem Request.handler_subscription (h : request.endpoint = .subscription body) :
    request.handler = createSubscription request.settings.settings body := by
  unfold Request.handler
  rw [h]

-- The body of a give request.
def Request.given (request : Request) : Option GiveBody :=
  match request.endpoint with
  | .oneOff body => some body
  | .subscription body => some body
  | _ => none

namespace Donations

def giver (payload : DonorPayload) (consent : Bool) (source : String) : Act Donor := do
  let donor ← getOrCreateDonor payload
  if consent then recordConsent donor source else return donor

def finishOneOff (settings : Settings) (body : OneOffCreate) (provider : Provider) (donor : Donor)
    (result : OneOffResult) :
    Act Response := do
  match provider with
  | .test => settleOneOff settings body donor result
  | _ => pure ()
  commit
  let response ← Prog.ofExcept (oneOffResponse result)
  return ⟨200, .oneOff response⟩

def finishSubscription (settings : Settings) (body : SubscriptionCreate) (provider : Provider) (donor : Donor)
    (result : SubscriptionResult) : Act Response := do
  let rail ← Prog.ofExcept (SubscriptionProvider.ofString body.provider)
  let subscription := newSubscription body donor.id rail result.providerSubscriptionId (← uuid7)
  add (.insertSubscription subscription)
  flush
  match provider with
  | .test => settleSubscription settings body donor subscription
  | _ => pure ()
  commit
  return ⟨200, .subscription {
    checkoutUrl := result.checkoutUrl
    approvalUrl := result.approvalUrl
    ratibaRequestId := result.ratibaRequestId
    providerSubscriptionId := result.providerSubscriptionId
    status := result.status }⟩

theorem createOneOff_eq : createOneOff settings body = (do
    let provider ← selectProvider body.provider settings
    let donor ← giver body.donor body.consent "give_form_oneoff"
    let result ← provider.createOneOff (gift body)
    finishOneOff settings body provider donor result) := by
  unfold createOneOff giver
  cases body.consent with
  | true => simp only [Prog.bind_assoc]; rfl
  | false => simp only [Prog.bind_assoc]; rfl

theorem createSubscription_eq : createSubscription settings body = (do
    let provider ← selectProvider body.provider settings
    let donor ← giver body.donor body.consent "give_form_monthly"
    let result ← provider.createSubscription (gift body)
    finishSubscription settings body provider donor result) := by
  unfold createSubscription giver
  cases body.consent with
  | true => simp only [Prog.bind_assoc]; rfl
  | false => simp only [Prog.bind_assoc]; rfl

end Donations

end BridgeOfHope
