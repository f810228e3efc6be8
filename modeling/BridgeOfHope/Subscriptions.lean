import BridgeOfHope.Donations

namespace BridgeOfHope.Subscriptions

open Process Payments Donations

variable [Platform]

def donorSubscriptions (secretKey token : String) : Act (List Subscription) := do
  match ← Prog.ofExcept (verifyManageToken secretKey token (← now)) with
  | none => httpException 404 "This link has expired or is invalid."
  | some donorId => scalars (.openSubscriptions donorId)

def manageOut (subscription : Subscription) : ManageSubscriptionOut where
  id := subscription.id.toText
  amountMinor := subscription.amountMinor
  currency := subscription.currency
  status := subscription.status.value
  nextChargeAt := subscription.nextChargeAt.map Time.isoformat
  provider := subscription.provider.value

def getSubscriptions (settings : Settings) (token : String) : Act Response := do
  let subs ← donorSubscriptions settings.secretKey token
  return ⟨200, .manage (subs.map manageOut)⟩

def changeAmount (settings : Settings) (token : String) (body : ManageSubscriptionPatch) :
    Act Response := do
  match ← donorSubscriptions settings.secretKey token with
  | [] => httpException 404 "No active monthly gift found."
  | sub :: _ =>
      let _ ← sub.assign [.amountMinor body.amountMinor]
      commit
      return ⟨200, .status "updated"⟩

def cancelReason : String := "donor requested cancellation via manage page"

-- The rail is told on a best-effort basis: whatever it raises is dropped.
def tellRail (settings : Settings) (sub : Subscription) : Act Unit := do
  try
    let provider ← Prog.ofExcept (getProvider sub.provider.value settings)
    provider.cancelSubscription sub.providerSubscriptionId
  catch _ => pure ()

def cancel (settings : Settings) (token : String) : Act Response := do
  match ← donorSubscriptions settings.secretKey token with
  | [] => httpException 404 "No active monthly gift found."
  | sub :: _ =>
      tellRail settings sub
      Ledger.cancelSubscriptionRow sub (some cancelReason)
      match ← scalar (.donorById sub.donorId) with
      | some donor =>
          sendEmail settings donor.email "Your monthly gift has been cancelled" .subscriptionCancelled
      | none => pure ()
      commit
      return ⟨200, .status "cancelled"⟩

end BridgeOfHope.Subscriptions
