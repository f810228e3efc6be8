import BridgeOfHope.Models

namespace BridgeOfHope

-- The templates, each with the values its text takes.
inductive Template : Type
  | oneoffReceipt (amount date reference : String)
  | monthlySignup (amount manageUrl : String)
  | monthlyReceipt (amount reference manageUrl : String)
  | paymentFailed (amount reason manageUrl : String)
  | subscriptionCancelled
  | newsletterConfirm (confirmUrl : String)
deriving DecidableEq

def Template.render : Template → String
  | oneoffReceipt amount date reference =>
      "Thank you for your gift of " ++ amount ++ " to The Bridge of Hope Foundation.\n" ++
      "Date: " ++ date ++ "\nReference: " ++ reference ++
      "\nOrganisation registration no. SCH/2026/001\n\n" ++ "Keep this email as your receipt."
  | monthlySignup amount manageUrl =>
      "Thank you for setting up a monthly gift of " ++ amount ++
      " to The Bridge of Hope Foundation.\n" ++
      "You will be charged this amount every month and receive a receipt each time.\n" ++
      "Cancel any time, in one click, here: " ++ manageUrl
  | monthlyReceipt amount reference manageUrl =>
      "Your monthly gift of " ++ amount ++ " was received today.\nReference: " ++ reference ++
      "\n\nManage or cancel your monthly gift: " ++ manageUrl
  | paymentFailed amount reason manageUrl =>
      "We could not process your gift of " ++ amount ++ ".\nWhat happened: " ++ reason ++
      "\nYou can update your payment details here: " ++ manageUrl
  | subscriptionCancelled =>
      "Your monthly gift has been cancelled, as requested. " ++
      "No further charges will be made. Thank you for everything you have already given."
  | newsletterConfirm confirmUrl =>
      "Please confirm you'd like to receive updates from The Bridge of Hope Foundation: " ++ confirmUrl

structure Mail where
  to_ : String
  subject : String
  template : Template
  from_ : String
  replyTo : String
deriving DecidableEq

inductive CheckoutMode : Type
  | payment
  | subscription
deriving DecidableEq

-- The arguments of `stripe.checkout.Session.create`.
structure Checkout where
  mode : CheckoutMode
  currency : String
  unitAmount : Int
  productName : String
  customerEmail : String
  successUrl : String
  cancelUrl : String
deriving DecidableEq

structure CheckoutSession where
  id : String
  url : String
deriving DecidableEq

-- The credentials as the code holds them, before the wire encoding.
inductive Authorization : Type
  | basic (user password : String)
  | bearer (token : Json)
deriving DecidableEq

structure HttpRequest where
  base : String
  path : String
  authorization : Authorization
  body : Json
deriving DecidableEq

-- What a rail has accepted from us.
inductive RailRecord : Type
  | checkout (request : Checkout) (sessionId : String)
  | stripeDeleted (providerSubscriptionId : String)
  | http (request : HttpRequest)
  | testSubscribed (providerSubscriptionId : String) (amountMinor : Int) (currency : String)
  | testCancelled (providerSubscriptionId : String)
deriving DecidableEq

end BridgeOfHope
