import BridgeOfHope.Transactions

namespace BridgeOfHope

open Process Payments

variable [Platform]

-- What a request asks of its surroundings, and how it ends. Both are read off
-- its own session, so they hold whatever the other requests do.

-- A query is asked about a table that the open transaction has not written.
def Asks (request : Request) (s : Session) : Query → Prop
  | .eventByProviderEventId providerEventId => request.isWebhook = true → s.lookups = [] ∧
      s.committed = [] ∧ ∃ args, request.delivery = some args ∧ args.providerEventId = .str providerEventId
  | .donationByProviderPaymentId providerPaymentId => s.committed = [] ∧ ∃ token ∈ s.drawn,
      providerPaymentId = "test_pay_" ++ token ∨ providerPaymentId = "test_sub_" ++ token ++ "_initial"
  | .openSubscriptions _ => s.flushed = [] ∧ s.committed = []
  | _ => True

-- The transaction is complete in the session, and the mails sent so far speak of it.
structure Ready (request : Request) (s : Session) (transaction : Transaction) : Prop where
  pending : s.pending = transaction.stmts
  committed : s.committed = transaction.earlier
  broken : s.broken = false
  licensed : Licensed request s transaction
  announced : ∀ mail ∈ s.sent, Announces request s mail transaction

-- A row that a delivery of the event inserts.
def EventArgs.Inserts (args : EventArgs) (row : WebhookEvent) : Prop :=
  ∃ providerEventId eventType id receivedAt, args.providerEventId = .str providerEventId ∧
    args.eventType = .str eventType ∧ row = args.row providerEventId eventType id receivedAt

-- A delivery stores its event once it has looked for it in vain, and then marks it.
def Keeps (request : Request) (s : Session) : Stmt → Prop
  | .insertWebhookEvent row => s.committed = [] ∧
      ⟨.query (.eventByProviderEventId row.providerEventId), .ok []⟩ ∈ s.past ∧
        ∃ args, request.delivery = some args ∧ args.Inserts row
  | .updateWebhookEvent id columns => (∃ row, .insertWebhookEvent row ∈ s.committed ∧ row.id = id) ∧
      ∀ attempts, .attempts attempts ∈ columns → attempts = 1
  | _ => False

def Permits (request : Request) (s : Session) : Op → Prop
  | .commit => s.unflushed = [] ∧ ∃ transaction, Ready request s transaction
  | .smtp mail | .log mail => s.sent = [] ∧
      ∃ transaction, Ready request s transaction ∧ Announces request s mail transaction
  | .push stmt => request.isWebhook = true → s.broken = false → s.pending = [] ∧ Keeps request s stmt
  | .query query => (∀ stmt ∈ s.flushed, stmt.target ≠ query.source) ∧ Asks request s query
  | .record (.testSubscribed id amountMinor currency) => ∃ body, request.endpoint = .subscription body ∧
      amountMinor = body.amountMinor ∧ currency = body.currency ∧
        ∃ token ∈ s.drawn, id = "test_sub_" ++ token
  | .record (.checkout _ _) => False
  | _ => True

theorem free_permits (request : Request) : Free (Permits request) where
  now _ := trivial
  uuid7 _ := trivial
  tokenHex _ := trivial
  flush _ := trivial

theorem permits_writes {request : Request} (h : request.isWebhook = false) :
    FreeToWrite (Permits request) where
  toFree := free_permits request
  push _ _ hwebhook := by simp [h] at hwebhook

-- A delivery that is answered 200 found its event, or stored and processed it.
def Acknowledged (request : Request) (s : Session) : Prop :=
  ∃ args providerEventId, request.delivery = some args ∧ args.providerEventId = .str providerEventId ∧
    (s.committed = [] ∧ (∃ row, s.Read (.eventByProviderEventId providerEventId) row) ∨
      ∃ eventType id receivedAt time,
        s.committed = [.insertWebhookEvent (args.row providerEventId eventType id receivedAt)] ++
          (Transaction.process (args.row providerEventId eventType id receivedAt) time).stmts)

-- The one attempt to tell the rail, where the subscription's rail has a call for it.
def Told (settings : Settings) (subscription : Subscription) (s : Session) : Prop :=
  match subscription.provider with
  | .test => ⟨.record (.testCancelled subscription.providerSubscriptionId), ()⟩ ∈ s.past
  | .stripe => match StripeProvider.build settings with
    | .ok _ => ∃ answer, ⟨.stripeDelete subscription.providerSubscriptionId, answer⟩ ∈ s.past
    | .error _ => True
  | _ => True

-- A cancellation that is answered 200 is committed for one open subscription, and
-- the donor is told unless the row of the donor is gone.
def Confirmed (request : Request) (s : Session) : Prop :=
  ∃ subscription time, Licensed request s (.cancel subscription time) ∧
    s.committed = (Transaction.cancel subscription time).stmts ∧
    Told request.settings.settings subscription s ∧
    (s.sent ≠ [] ∨ ⟨.query (.donorById subscription.donorId), .ok []⟩ ∈ s.past)

def Concludes (request : Request) (s : Session) : Except Exn Response → Prop
  | .error _ => (s.sent ≠ [] → s.broken = true) ∧
      ∀ args providerEventId eventType, request.delivery = some args →
        args.providerEventId = .str providerEventId → args.eventType = .str eventType → s.broken = true
  | .ok response => (s.sent ≠ [] → s.committed ≠ []) ∧ s.pending = [] ∧
      match request.endpoint with
      | .webhook .. => response = ⟨200, .empty⟩ ∧ Acknowledged request s ∨
          response = ⟨401, .empty⟩ ∧ request.delivery = none ∧ s.committed = []
      | .manageDelete _ => response = ⟨200, .status "cancelled"⟩ ∧ Confirmed request s
      | _ => True

end BridgeOfHope
