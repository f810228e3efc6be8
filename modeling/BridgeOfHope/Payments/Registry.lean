import BridgeOfHope.Payments.Rails
import BridgeOfHope.Payments.Mpesa

namespace BridgeOfHope.Payments

variable [Platform]

-- A built rail, with what its constructor keeps.
inductive Provider : Type
  | test
  | stripe (settings : Settings)
  | paypal (settings : Settings) (base : String)
  | mpesa (settings : Settings) (host : String)
  | btc (settings : Settings)

def getProvider (name : String) (settings : Settings) : Except Exn Provider :=
  match name with
  | "test" => .ok .test
  | "stripe" => (StripeProvider.build settings).map fun _ => .stripe settings
  | "paypal" => (PayPalProvider.build settings).map (.paypal settings)
  | "mpesa" => (MpesaProvider.build settings).map (.mpesa settings)
  | "btc" => (BtcProvider.build settings).map fun _ => .btc settings
  | _ => notConfigured ("Unknown payment provider '" ++ name ++ "'")

def availableProviders (s : Settings) : List String :=
  (if s.testProviderEnabled then ["test"] else []) ++ (if s.stripeEnabled then ["stripe"] else []) ++
    (if s.paypalEnabled then ["paypal"] else []) ++ (if s.mpesaEnabled then ["mpesa"] else []) ++
    (if s.btcEnabled then ["btc"] else [])

namespace Provider

def createOneOff : Provider → Gift → Act OneOffResult
  | test => TestProvider.createOneOff
  | stripe s => StripeProvider.createOneOff s
  | paypal s base => PayPalProvider.createOneOff s base
  | mpesa s host => MpesaProvider.createOneOff s host
  | btc _ => BtcProvider.createOneOff

def createSubscription : Provider → Gift → Act SubscriptionResult
  | test => TestProvider.createSubscription
  | stripe s => StripeProvider.createSubscription s
  | paypal _ _ => PayPalProvider.createSubscription
  | mpesa _ _ => MpesaProvider.createSubscription
  | btc _ => BtcProvider.createSubscription

def cancelSubscription : Provider → String → Act Unit
  | test => TestProvider.cancelSubscription
  | stripe _ => StripeProvider.cancelSubscription
  | paypal s base => PayPalProvider.cancelSubscription s base
  | mpesa _ _ => fun _ => MpesaProvider.cancelSubscription
  | btc _ => fun _ => BtcProvider.cancelSubscription

def verifyWebhook : Provider → List (String × String) → Bytes → Bool
  | test => fun headers _ => TestProvider.verifyWebhook headers
  | stripe s => StripeProvider.verifyWebhook s
  | paypal _ _ => fun _ _ => PayPalProvider.verifyWebhook
  | mpesa _ _ => fun _ _ => MpesaProvider.verifyWebhook
  | btc _ => fun _ _ => BtcProvider.verifyWebhook

def parseEvent : Provider → Bytes → Except Exn WebhookEvent
  | test => TestProvider.parseEvent
  | stripe _ => StripeProvider.parseEvent
  | paypal _ _ => PayPalProvider.parseEvent
  | mpesa _ _ => MpesaProvider.parseEvent
  | btc _ => BtcProvider.parseEvent

end Provider

end BridgeOfHope.Payments
