import BridgeOfHope.Runtime

namespace BridgeOfHope.Payments

-- A reply of a rail is passed on as it came: nothing checks the type of an id
-- before the response model or the database driver does.
structure OneOffResult where
  providerPaymentId : Json
  checkoutUrl : Json := .null
  clientSecret : Json := .null
  mpesaRequestId : Json := .null
  status : String := "pending"

structure SubscriptionResult where
  providerSubscriptionId : String
  checkoutUrl : Option String := none
  approvalUrl : Option String := none
  ratibaRequestId : Option String := none
  status : String := "pending"

structure DonorInput where
  email : String
  firstName : String
  lastName : String
  countryCode : String
  phone : Option String := none

structure WebhookEvent where
  providerEventId : Json
  eventType : Json
  payload : Json
  signatureValid : Bool

-- The keyword arguments that every rail's `create_*` takes.
structure Gift where
  amountMinor : Int
  currency : String
  coverFees : Bool
  donor : DonorInput
  consent : Bool

def notConfigured {α : Type} (message : String) : Except Exn α :=
  .error ⟨.providerNotConfigured, message⟩

def valueError {α : Type} (message : String) : Except Exn α :=
  .error ⟨.valueError, message⟩

end BridgeOfHope.Payments
