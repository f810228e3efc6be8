import BridgeOfHope.Database
import BridgeOfHope.Messages
import BridgeOfHope.Process.Pool

namespace BridgeOfHope

open Process

variable [Platform]

-- What a handler asks of its surroundings. `flush`, `query`, `commit` and the
-- calls that leave the program are awaited: another request may run there.
inductive Op : Type
  | now
  | uuid7
  | tokenHex
  | push (stmt : Stmt)
  | flush
  | query (query : Query)
  | commit
  | stripeCheckout (request : Checkout)
  | stripeDelete (providerSubscriptionId : String)
  | http (request : HttpRequest)
  | record (entry : RailRecord)
  | smtp (mail : Mail)
  | log (mail : Mail)

abbrev Ans : Op → Type
  | .now => Time
  | .uuid7 => Uuid
  | .tokenHex => String
  | .push _ => Unit
  | .flush => Except Exn Unit
  | .query query => Except Exn (List query.Row)
  | .commit => Except Exn Unit
  | .stripeCheckout _ => Except Exn CheckoutSession
  | .stripeDelete _ => Except Exn Unit
  | .http _ => Except Exn Json
  | .record _ => Unit
  | .smtp _ => Except Exn Unit
  | .log _ => Unit

abbrev Act := Prog Op Ans Exn

structure Event where
  op : Op
  ans : Ans op

-- The unit of work of a request's session. `flushed` is in the open database
-- transaction, `unflushed` is not sent yet. A session whose statement failed
-- is broken. `committed` and `past` are history that no handler reads.
structure Session where
  unflushed : List Stmt := []
  flushed : List Stmt := []
  broken : Bool := false
  committed : List Stmt := []
  past : List Event := []

namespace Session

def abort (session : Session) : Session :=
  { session with unflushed := [], flushed := [], broken := true }

def advance (session : Session) : (op : Op) → Ans op → Session
  | .push stmt, _ => { session with unflushed := session.unflushed ++ [stmt] }
  | .flush, .ok _ =>
      { session with flushed := session.flushed ++ session.unflushed, unflushed := [] }
  | .flush, .error _ => session.abort
  | .query _, .error _ => session.abort
  | .commit, .ok _ =>
      { session with committed := session.committed ++ session.flushed, flushed := [] }
  | .commit, .error _ => session.abort
  | _, _ => session

def update (session : Session) (op : Op) (ans : Ans op) : Session :=
  { session.advance op ans with past := ⟨op, ans⟩ :: session.past }

-- The end of a request closes its session: what it did not commit is rolled back.
def close (session : Session) : Session :=
  { session with unflushed := [], flushed := [] }

def keys (session : Session) : List Key := session.flushed.flatMap Stmt.keys

-- What the session's own statements see: committed rows and its own writes.
def view (session : Session) (db : Db) : Db := db.applyAll session.flushed

end Session

structure World where
  db : Db := {}
  rails : List RailRecord := []

-- `secrets.token_hex(10)`
def isTokenHex (token : String) : Bool :=
  token.length = 20 && token.toList.all fun c => c.isDigit || ('a' ≤ c && c ≤ 'f')

-- The index entries of all rows, committed or not.
def entries (db : Db) (sessions : List Session) : List Key :=
  db.keys ++ sessions.flatMap Session.keys

-- An INSERT goes through when nobody else holds one of its keys. While the
-- holder is uncommitted it waits, and when the holder is committed it raises.
def flushable (db : Db) (sessions : List Session) (session : Session) : Prop :=
  (session.unflushed.flatMap Stmt.keys).Nodup ∧
    (∀ key ∈ session.unflushed.flatMap Stmt.keys, key ∉ entries db sessions) ∧
    (session.view db).admitsAll session.unflushed = true

def enabled (world : World) (sessions : List Session) (session : Session) :
    (op : Op) → Ans op → Prop
  | .flush, .ok _ => session.broken = false ∧ flushable world.db sessions session
  | .query query, .ok rows => session.broken = false ∧ rows.Perm (query.select (session.view world.db))
  | .commit, .ok _ => session.broken = false
  | .tokenHex, token => isTokenHex token = true
  | _, _ => True

instance (db : Db) (sessions : List Session) (session : Session) :
    Decidable (flushable db sessions session) :=
  inferInstanceAs (Decidable (_ ∧ _ ∧ _))

instance (world : World) (sessions : List Session) (session : Session) (op : Op) (ans : Ans op) :
    Decidable (enabled world sessions session op ans) :=
  match op, ans with
  | .flush, .ok _ => inferInstanceAs (Decidable (_ = false ∧ flushable world.db sessions session))
  | .query query, .ok rows =>
      inferInstanceAs (Decidable (_ = false ∧ rows.Perm (query.select (session.view world.db))))
  | .commit, .ok _ => inferInstanceAs (Decidable (_ = false))
  | .tokenHex, token => inferInstanceAs (Decidable (isTokenHex token = true))
  | .flush, .error _ | .query _, .error _ | .commit, .error _ | .now, _ | .uuid7, _ | .push _, _
  | .stripeCheckout _, _ | .stripeDelete _, _ | .http _, _ | .record _, _ | .smtp _, _ | .log _, _ =>
      isTrue trivial

-- What an answer tells the session itself.
def sound (session : Session) : (op : Op) → Ans op → Prop
  | .flush, .ok _ => session.broken = false
  | .query query, .ok rows => session.broken = false ∧ ∀ row ∈ rows, query.accepts row = true
  | .commit, .ok _ => session.broken = false
  | .tokenHex, token => isTokenHex token = true
  | _, _ => True

def effect (world : World) (session : Session) : (op : Op) → Ans op → World
  | .commit, .ok _ => { world with db := world.db.applyAll session.flushed }
  | .stripeCheckout request, .ok checkout =>
      { world with rails := .checkout request checkout.id :: world.rails }
  | .stripeDelete id, .ok _ => { world with rails := .stripeDeleted id :: world.rails }
  | .http request, .ok _ => { world with rails := .http request :: world.rails }
  | .record entry, _ => { world with rails := entry :: world.rails }
  | _, _ => world

-- The calls of the handlers.

def perform (op : Op) : Act (Ans op) := Prog.perform op

def now : Act Time := perform .now

def uuid7 : Act Uuid := perform .uuid7

def tokenHex : Act String := perform .tokenHex

-- `db.add(row)`
def add (stmt : Stmt) : Act Unit := perform (.push stmt)

def flush : Act Unit := do
  Prog.ofExcept (← perform .flush)

-- Every query and every commit flushes first.
def scalars (query : Query) : Act (List query.Row) := do
  flush
  Prog.ofExcept (← perform (.query query))

def scalar (query : Query) : Act (Option query.Row) := do
  return (← scalars query).head?

def commit : Act Unit := do
  flush
  Prog.ofExcept (← perform .commit)

-- Attribute assignments on a loaded row. The next flush writes the columns
-- whose value differs from the loaded one.

def Donor.changes (donor : Donor) (columns : List DonorSet) : List DonorSet :=
  columns.filter fun column => donor.set column ≠ donor

def Subscription.changes (subscription : Subscription) (columns : List SubscriptionSet) :
    List SubscriptionSet :=
  columns.filter fun column => subscription.set column ≠ subscription

def WebhookEvent.changes (event : WebhookEvent) (columns : List WebhookEventSet) :
    List WebhookEventSet :=
  columns.filter fun column => event.set column ≠ event

def Donor.assign (donor : Donor) (columns : List DonorSet) : Act Donor := do
  add (.updateDonor donor.id (donor.changes columns))
  return donor.setAll columns

def Subscription.assign (subscription : Subscription) (columns : List SubscriptionSet) :
    Act Subscription := do
  add (.updateSubscription subscription.id (subscription.changes columns))
  return subscription.setAll columns

def WebhookEvent.assign (event : WebhookEvent) (columns : List WebhookEventSet) :
    Act WebhookEvent := do
  add (.updateWebhookEvent event.id (event.changes columns))
  return event.setAll columns

end BridgeOfHope
