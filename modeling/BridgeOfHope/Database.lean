import BridgeOfHope.Models

namespace BridgeOfHope

variable [Platform]

structure Db where
  donors : List Donor := []
  subscriptions : List Subscription := []
  donations : List Donation := []
  webhookEvents : List WebhookEvent := []
  dataRequests : List DataRequest := []
deriving DecidableEq

-- The statements a flush emits. An update writes the assigned columns only.
inductive Stmt : Type
  | insertDonor (row : Donor)
  | insertSubscription (row : Subscription)
  | insertDonation (row : Donation)
  | insertWebhookEvent (row : WebhookEvent)
  | insertDataRequest (row : DataRequest)
  | updateDonor (id : Uuid) (columns : List DonorSet)
  | updateSubscription (id : Uuid) (columns : List SubscriptionSet)
  | updateWebhookEvent (id : Uuid) (columns : List WebhookEventSet)
deriving DecidableEq

-- An entry of a unique index: the primary keys and the unique columns.
inductive Key : Type
  | donor (id : Uuid)
  | donorEmail (folded : String)
  | subscription (id : Uuid)
  | providerSubscription (provider : SubscriptionProvider) (providerSubscriptionId : String)
  | donation (id : Uuid)
  | providerPayment (providerPaymentId : String)
  | webhookEvent (id : Uuid)
  | providerEvent (providerEventId : String)
  | dataRequest (id : Uuid)
deriving DecidableEq

def Donor.keys (row : Donor) : List Key := [.donor row.id, .donorEmail (Platform.citext row.email)]

def Subscription.keys (row : Subscription) : List Key :=
  [.subscription row.id, .providerSubscription row.provider row.providerSubscriptionId]

def Donation.keys (row : Donation) : List Key :=
  [.donation row.id, .providerPayment row.providerPaymentId]

def WebhookEvent.keys (row : WebhookEvent) : List Key :=
  [.webhookEvent row.id, .providerEvent row.providerEventId]

def DataRequest.keys (row : DataRequest) : List Key := [.dataRequest row.id]

namespace Stmt

-- The index entries that a statement adds.
def keys : Stmt → List Key
  | insertDonor row => row.keys
  | insertSubscription row => row.keys
  | insertDonation row => row.keys
  | insertWebhookEvent row => row.keys
  | insertDataRequest row => row.keys
  | updateDonor .. | updateSubscription .. | updateWebhookEvent .. => []

-- The rows that a statement refers to.
def references : Stmt → List Key
  | insertSubscription row => [.donor row.donorId]
  | insertDonation row => .donor row.donorId :: row.subscriptionId.toList.map .subscription
  | insertDataRequest row => [.donor row.donorId]
  | _ => []

end Stmt

namespace Db

def keys (db : Db) : List Key :=
  db.donors.flatMap Donor.keys ++ db.subscriptions.flatMap Subscription.keys ++
    db.donations.flatMap Donation.keys ++ db.webhookEvents.flatMap WebhookEvent.keys ++
    db.dataRequests.flatMap DataRequest.keys

def apply (db : Db) : Stmt → Db
  | .insertDonor row => { db with donors := db.donors ++ [row] }
  | .insertSubscription row => { db with subscriptions := db.subscriptions ++ [row] }
  | .insertDonation row => { db with donations := db.donations ++ [row] }
  | .insertWebhookEvent row => { db with webhookEvents := db.webhookEvents ++ [row] }
  | .insertDataRequest row => { db with dataRequests := db.dataRequests ++ [row] }
  | .updateDonor id columns => { db with
      donors := db.donors.map fun row => if row.id = id then row.setAll columns else row }
  | .updateSubscription id columns => { db with
      subscriptions := db.subscriptions.map fun row => if row.id = id then row.setAll columns else row }
  | .updateWebhookEvent id columns => { db with
      webhookEvents := db.webhookEvents.map fun row => if row.id = id then row.setAll columns else row }

def applyAll (db : Db) (stmts : List Stmt) : Db := stmts.foldl apply db

def hasDonor (db : Db) (id : Uuid) : Bool := db.donors.any fun row => row.id = id

def hasSubscription (db : Db) (id : Uuid) : Bool := db.subscriptions.any fun row => row.id = id

-- Whether the columns and the foreign keys take the statement.
def admits (db : Db) : Stmt → Bool
  | .insertDonor row => row.fits
  | .insertSubscription row => row.fits && db.hasDonor row.donorId
  | .insertDonation row => row.fits && db.hasDonor row.donorId &&
      row.subscriptionId.all db.hasSubscription
  | .insertWebhookEvent row => row.fits
  | .insertDataRequest row => db.hasDonor row.donorId
  | .updateDonor id columns => (db.donors.filter fun row => row.id = id).all fun row =>
      (row.setAll columns).fits
  | .updateSubscription id columns => (db.subscriptions.filter fun row => row.id = id).all fun row =>
      (row.setAll columns).fits
  | .updateWebhookEvent id columns => (db.webhookEvents.filter fun row => row.id = id).all fun row =>
      (row.setAll columns).fits

def admitsAll (db : Db) : List Stmt → Bool
  | [] => true
  | stmt :: stmts => db.admits stmt && (db.apply stmt).admitsAll stmts

end Db

-- The SELECT statements of the handlers.
inductive Query : Type
  | donorByEmail (email : String)
  | donorById (id : Uuid)
  | eventByProviderEventId (providerEventId : String)
  | donationByProviderPaymentId (providerPaymentId : String)
  | openSubscriptions (donorId : Uuid)

namespace Query

abbrev Row : Query → Type
  | donorByEmail _ => Donor
  | donorById _ => Donor
  | eventByProviderEventId _ => WebhookEvent
  | donationByProviderPaymentId _ => Donation
  | openSubscriptions _ => Subscription

-- The WHERE clause.
def accepts : (query : Query) → query.Row → Bool
  | donorByEmail email, row => Platform.citext row.email = Platform.citext email
  | donorById id, row => row.id = id
  | eventByProviderEventId providerEventId, row => row.providerEventId = providerEventId
  | donationByProviderPaymentId providerPaymentId, row => row.providerPaymentId = providerPaymentId
  | openSubscriptions donorId, row => row.donorId = donorId && row.status ≠ .cancelled

def table (db : Db) : (query : Query) → List query.Row
  | donorByEmail _ => db.donors
  | donorById _ => db.donors
  | eventByProviderEventId _ => db.webhookEvents
  | donationByProviderPaymentId _ => db.donations
  | openSubscriptions _ => db.subscriptions

def select (db : Db) (query : Query) : List query.Row :=
  (query.table db).filter query.accepts

instance decidableEqRow : (query : Query) → DecidableEq query.Row
  | donorByEmail _ => inferInstanceAs (DecidableEq Donor)
  | donorById _ => inferInstanceAs (DecidableEq Donor)
  | eventByProviderEventId _ => inferInstanceAs (DecidableEq WebhookEvent)
  | donationByProviderPaymentId _ => inferInstanceAs (DecidableEq Donation)
  | openSubscriptions _ => inferInstanceAs (DecidableEq Subscription)

end Query

end BridgeOfHope
