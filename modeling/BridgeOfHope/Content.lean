import BridgeOfHope.Donations

namespace BridgeOfHope.Content

open Process Donations

variable [Platform]

def newsletterConsent (time : Time) : List DonorSet :=
  [.marketingConsent true, .consentRecordedAt (some time), .consentSource (some "newsletter_double_optin")]

def newSubscriber (body : NewsletterSubscribe) (id : Uuid) : Donor where
  id := id
  email := body.email
  firstName := ""
  lastName := ""
  countryCode := ""

def subscribe (body : NewsletterSubscribe) : Act Response := do
  let donor ← scalar (.donorByEmail body.email)
  let time ← now
  match donor with
  | some donor =>
      let _ ← donor.assign (newsletterConsent time)
  | none =>
      -- the row is inserted by the commit, with the values it has by then
      add (.insertDonor ((newSubscriber body (← uuid7)).setAll (newsletterConsent time)))
  commit
  return ⟨200, .status "subscribed"⟩

-- `db.get(Donor, donor_id)` with the text from the path: the driver parses it.
def unsubscribe (donorId : String) : Act Response := do
  let id ← Prog.ofExcept (Platform.pgUuid donorId)
  match ← scalar (.donorById id) with
  | some donor =>
      let _ ← donor.assign [.marketingConsent false]
      commit
  | none => pure ()
  return ⟨200, .status "unsubscribed"⟩

def createDataRequest (body : DataRequestCreate) : Act Response := do
  match ← scalar (.donorByEmail body.email) with
  | none => httpException 404 "No donor record found for that email"
  | some donor =>
      let type ← Prog.ofExcept (DataRequestType.ofString body.type)
      let requestedAt ← now
      let id ← uuid7
      add (.insertDataRequest ⟨id, donor.id, type, requestedAt, body.notes⟩)
      commit
      return ⟨200, .status "received"⟩

end BridgeOfHope.Content
