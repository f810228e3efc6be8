import BridgeOfHope.Models

namespace BridgeOfHope

-- The bodies the schemas admit. A body that breaks a bound is answered 422
-- before any handler runs, so each bound is a field.

structure DonorPayload where
  email : String
  firstName : String
  lastName : String
  countryCode : String
  phone : Option String := none
  firstName_length : 1 ≤ firstName.length ∧ firstName.length ≤ 120
  lastName_length : 1 ≤ lastName.length ∧ lastName.length ≤ 120
  countryCode_length : countryCode.length = 2
deriving DecidableEq

structure GiveBody where
  provider : String
  amountMinor : Int
  currency : String
  coverFees : Bool := false
  donor : DonorPayload
  consent : Bool := false
  amountMinor_pos : 0 < amountMinor
  currency_length : currency.length = 3
deriving DecidableEq

-- `OneOffCreate` and `SubscriptionCreate` declare the same fields and bounds.
abbrev OneOffCreate := GiveBody
abbrev SubscriptionCreate := GiveBody

structure ManageSubscriptionPatch where
  amountMinor : Int
  amountMinor_pos : 0 < amountMinor
deriving DecidableEq

structure NewsletterSubscribe where
  email : String
deriving DecidableEq

structure DataRequestCreate where
  email : String
  type : String
  notes : Option String := none
deriving DecidableEq

structure OneOffResponse where
  checkoutUrl : Option String
  clientSecret : Option String
  mpesaRequestId : Option String
  providerPaymentId : String
  status : String
deriving DecidableEq

structure SubscriptionResponse where
  checkoutUrl : Option String
  approvalUrl : Option String
  ratibaRequestId : Option String
  providerSubscriptionId : String
  status : String
deriving DecidableEq

structure ManageSubscriptionOut where
  id : String
  amountMinor : Int
  currency : String
  status : String
  nextChargeAt : Option String
  provider : String
deriving DecidableEq

inductive Body : Type
  | oneOff (value : OneOffResponse)
  | subscription (value : SubscriptionResponse)
  | manage (value : List ManageSubscriptionOut)
  | status (value : String)
  | problem (title : String) (detail : Option String)
  | empty
deriving DecidableEq

structure Response where
  status : ℕ
  body : Body
deriving DecidableEq

end BridgeOfHope
