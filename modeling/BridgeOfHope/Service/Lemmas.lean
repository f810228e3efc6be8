import BridgeOfHope.Content.Lemmas
import BridgeOfHope.Donations.Lemmas
import BridgeOfHope.Subscriptions.Lemmas
import BridgeOfHope.Webhooks.Lemmas

namespace BridgeOfHope

open Process

-- Only an answer of a handler has a status text.
theorem result_of_status {result : Except Exn Response} {status : ℕ} {text : String}
    (h : respond result = ⟨status, .status text⟩) : result = .ok ⟨status, .status text⟩ := by
  cases result with
  | ok response => exact congrArg _ h
  | error error =>
      unfold respond at h
      cases hclass : error.cls <;> simp [hclass] at h

variable [Platform]

-- Every handler asks only what it may and ends as it should, whatever answers it gets.
theorem handler_obeys (request : Request) :
    (service.start request).Obeys service.toClient (Permits request) (Concludes request)
      service.fresh := by
  show request.handler.Obeys client (Permits request) (Concludes request) {}
  unfold Request.handler
  cases h : request.endpoint with
  | oneOff body => exact Donations.createOneOff_obeys h
  | subscription body => exact Donations.createSubscription_obeys h
  | manageGet token => exact Subscriptions.getSubscriptions_obeys h
  | managePatch token body => exact Subscriptions.changeAmount_obeys h
  | manageDelete token => exact Subscriptions.cancel_obeys h
  | newsletterSubscribe body => exact Content.subscribe_obeys h
  | newsletterUnsubscribe donorId => exact Content.unsubscribe_obeys h
  | dataRequest body => exact Content.createDataRequest_obeys h
  | webhook endpoint headers rawBody => exact Webhooks.handle_obeys h

end BridgeOfHope
