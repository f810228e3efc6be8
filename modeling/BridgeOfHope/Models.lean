import BridgeOfHope.Config

namespace BridgeOfHope

abbrev Uuid := BitVec 128

inductive SubscriptionProvider : Type
  | stripe
  | paypal
  | mpesaRatiba
  | test
deriving DecidableEq

namespace SubscriptionProvider

def value : SubscriptionProvider → String
  | stripe => "stripe"
  | paypal => "paypal"
  | mpesaRatiba => "mpesa_ratiba"
  | test => "test"

-- `SubscriptionProvider(name)`
def ofString [Platform] (name : String) : Except Exn SubscriptionProvider :=
  match [stripe, paypal, mpesaRatiba, test].find? fun provider => provider.value = name with
  | some provider => .ok provider
  | none => .error ⟨.valueError, Platform.reprStr name ++ " is not a valid SubscriptionProvider"⟩

end SubscriptionProvider

inductive SubscriptionStatus : Type
  | pending
  | active
  | pastDue
  | cancelled
  | failed
deriving DecidableEq

def SubscriptionStatus.value : SubscriptionStatus → String
  | pending => "pending"
  | active => "active"
  | pastDue => "past_due"
  | cancelled => "cancelled"
  | failed => "failed"

inductive DonationStatus : Type
  | pending
  | succeeded
  | failed
  | refunded
deriving DecidableEq

inductive WebhookEventStatus : Type
  | received
  | processed
  | failed
  | ignored
deriving DecidableEq

inductive DataRequestType : Type
  | access
  | erasure
  | rectification
  | objection
deriving DecidableEq

def DataRequestType.value : DataRequestType → String
  | access => "access"
  | erasure => "erasure"
  | rectification => "rectification"
  | objection => "objection"

-- `DataRequestType(name)`
def DataRequestType.ofString [Platform] (name : String) : Except Exn DataRequestType :=
  match [access, erasure, rectification, objection].find? fun type => type.value = name with
  | some type => .ok type
  | none => .error ⟨.valueError, Platform.reprStr name ++ " is not a valid DataRequestType"⟩

structure Donor where
  id : Uuid
  email : String
  firstName : String
  lastName : String
  countryCode : String
  marketingConsent : Bool := false
  consentRecordedAt : Option Time := none
  consentSource : Option String := none
deriving DecidableEq

structure Subscription where
  id : Uuid
  donorId : Uuid
  provider : SubscriptionProvider
  providerSubscriptionId : String
  amountMinor : Int
  currency : String
  status : SubscriptionStatus := .pending
  startedAt : Option Time := none
  nextChargeAt : Option Time := none
  cancelledAt : Option Time := none
  cancellationReason : Option String := none
  coverFees : Bool := false
deriving DecidableEq

structure Donation where
  id : Uuid
  donorId : Uuid
  subscriptionId : Option Uuid
  provider : SubscriptionProvider
  providerPaymentId : String
  amountMinor : Int
  currency : String
  status : DonationStatus := .pending
  isRecurring : Bool := false
  completedAt : Option Time := none
  rawPayload : Json
deriving DecidableEq

structure WebhookEvent where
  id : Uuid
  provider : String
  providerEventId : String
  eventType : String
  payload : Json
  signatureValid : Bool
  receivedAt : Time
  processedAt : Option Time := none
  status : WebhookEventStatus := .received
  error : Option String := none
  attempts : ℕ := 0
deriving DecidableEq

structure DataRequest where
  id : Uuid
  donorId : Uuid
  type : DataRequestType
  requestedAt : Time
  notes : Option String
deriving DecidableEq

-- The columns that some handler assigns on a row that is already stored.
inductive DonorSet : Type
  | marketingConsent (value : Bool)
  | consentRecordedAt (value : Option Time)
  | consentSource (value : Option String)
deriving DecidableEq

inductive SubscriptionSet : Type
  | amountMinor (value : Int)
  | status (value : SubscriptionStatus)
  | startedAt (value : Option Time)
  | cancelledAt (value : Option Time)
  | cancellationReason (value : Option String)
deriving DecidableEq

inductive WebhookEventSet : Type
  | processedAt (value : Option Time)
  | status (value : WebhookEventStatus)
  | error (value : Option String)
  | attempts (value : ℕ)
deriving DecidableEq

def Donor.set (donor : Donor) : DonorSet → Donor
  | .marketingConsent value => { donor with marketingConsent := value }
  | .consentRecordedAt value => { donor with consentRecordedAt := value }
  | .consentSource value => { donor with consentSource := value }

def Subscription.set (subscription : Subscription) : SubscriptionSet → Subscription
  | .amountMinor value => { subscription with amountMinor := value }
  | .status value => { subscription with status := value }
  | .startedAt value => { subscription with startedAt := value }
  | .cancelledAt value => { subscription with cancelledAt := value }
  | .cancellationReason value => { subscription with cancellationReason := value }

def WebhookEvent.set (event : WebhookEvent) : WebhookEventSet → WebhookEvent
  | .processedAt value => { event with processedAt := value }
  | .status value => { event with status := value }
  | .error value => { event with error := value }
  | .attempts value => { event with attempts := value }

def Donor.setAll (donor : Donor) (columns : List DonorSet) : Donor :=
  columns.foldl Donor.set donor

def Subscription.setAll (subscription : Subscription) (columns : List SubscriptionSet) : Subscription :=
  columns.foldl Subscription.set subscription

def WebhookEvent.setAll (event : WebhookEvent) (columns : List WebhookEventSet) : WebhookEvent :=
  columns.foldl WebhookEvent.set event

-- The limits of the columns: a varchar holds so many characters, an `Integer`
-- column a signed 32-bit number. A row that breaks one is refused.
def varchar (length : ℕ) (value : String) : Bool := value.length ≤ length

def int32 (value : Int) : Bool := -2 ^ 31 ≤ value && value < 2 ^ 31

def Donor.fits (donor : Donor) : Bool :=
  varchar 120 donor.firstName && varchar 120 donor.lastName && varchar 2 donor.countryCode &&
    donor.consentSource.all (varchar 120)

def Subscription.fits (subscription : Subscription) : Bool :=
  varchar 255 subscription.providerSubscriptionId && int32 subscription.amountMinor &&
    varchar 3 subscription.currency && subscription.cancellationReason.all (varchar 500)

def Donation.fits (donation : Donation) : Bool :=
  varchar 255 donation.providerPaymentId && int32 donation.amountMinor && varchar 3 donation.currency

def WebhookEvent.fits (event : WebhookEvent) : Bool :=
  varchar 32 event.provider && varchar 255 event.providerEventId && varchar 120 event.eventType &&
    int32 event.attempts

end BridgeOfHope
