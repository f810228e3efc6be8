import BridgeOfHope.Content
import BridgeOfHope.Process.Script
import BridgeOfHope.Process.Solo
import BridgeOfHope.Subscriptions
import BridgeOfHope.Webhooks

namespace BridgeOfHope

open Process

variable [Platform]

inductive Endpoint : Type
  | oneOff (body : OneOffCreate)
  | subscription (body : SubscriptionCreate)
  | manageGet (token : String)
  | managePatch (token : String) (body : ManageSubscriptionPatch)
  | manageDelete (token : String)
  | newsletterSubscribe (body : NewsletterSubscribe)
  | newsletterUnsubscribe (donorId : String)
  | dataRequest (body : DataRequestCreate)
  | webhook (endpoint : Webhooks.Endpoint) (headers : List (String × String)) (rawBody : Bytes)
deriving DecidableEq

-- The settings are those of the process that serves the request: they are
-- read once per process, so a restart can change them between two requests.
structure Request where
  settings : AcceptedSettings
  endpoint : Endpoint
deriving DecidableEq

def Request.handler (request : Request) : Act Response :=
  let settings := request.settings.settings
  match request.endpoint with
  | .oneOff body => Donations.createOneOff settings body
  | .subscription body => Donations.createSubscription settings body
  | .manageGet token => Subscriptions.getSubscriptions settings token
  | .managePatch token body => Subscriptions.changeAmount settings token body
  | .manageDelete token => Subscriptions.cancel settings token
  | .newsletterSubscribe body => Content.subscribe body
  | .newsletterUnsubscribe donorId => Content.unsubscribe donorId
  | .dataRequest body => Content.createDataRequest body
  | .webhook endpoint headers rawBody =>
      Webhooks.handle settings endpoint.providerName headers rawBody

-- The exception handlers of the application.
def respond : Except Exn Response → Response
  | .ok response => response
  | .error error => match error.cls with
    | .httpException status => ⟨status, .problem error.message none⟩
    | _ => ⟨500, .problem "Internal server error" none⟩

theorem sound_of_enabled (world : World) (sessions : List Session) (session : Session) (op : Op)
    (ans : Ans op) (h : enabled world sessions session op ans) : sound session op ans := by
  cases op with
  | flush => cases ans with
    | ok _ => exact h.1
    | error _ => trivial
  | query query => cases ans with
    | ok rows => exact ⟨h.1, fun row hr => (List.mem_filter.mp (h.2.mem_iff.mp hr)).2⟩
    | error _ => trivial
  | commit => cases ans with
    | ok _ => exact h
    | error _ => trivial
  | tokenHex => exact h
  | _ => trivial

abbrev ServiceThread := Thread Op Ans Exn Session Request Response

-- What the client of a request receives, once the request has ended.
def response (t : ServiceThread) : Option Response :=
  match t.phase with
  | .ended out => some (respond out)
  | _ => none

abbrev ServicePool := Pool Op Ans Exn Session World Request Response

abbrev ServiceMove := Move Op Ans Request

def service : System Op Ans Exn Session World Request Response where
  update := Session.update
  sound := sound
  start := Request.handler
  fresh := {}
  close := Session.close
  enabled := enabled
  effect := effect
  sound_of_enabled := sound_of_enabled

instance (world : World) (sessions : List Session) (session : Session) (op : Op) (ans : Ans op) :
    Decidable (service.enabled world sessions session op ans) :=
  inferInstanceAs (Decidable (enabled world sessions session op ans))

end BridgeOfHope

namespace BridgeOfHope.Trial

open Process

-- A concrete surrounding in which runs can be computed: the libraries as they
-- behave on the few values in use, and a reply to every operation.

def secretKey : String := "test-secret-key-not-for-real-use"

def clock : Time := 1750000000 * 1000000

def uuid (n : ℕ) : Uuid := BitVec.ofNat 128 (0x01977420dc0070008000000000000000 + n)

-- The link of the donor whose row is `uuid 2`, signed at `clock`.
def manageToken : String :=
  ".eJyrVkrJz8svis9MUbJSMjC0NDc3MTLQTUk2MNA1NwASFiDCAAGMlGoBZHkMUw.aE7hgA." ++
    "rqJhfhacPgoqD2VYQ1N00RaQ1g8"

def webhookSecret : String := "whsec_test"

def eventText : String := "\x7b\"id\":\"evt_1RaBoh\",\"type\":\"checkout.session.completed\"," ++
  "\"data\":\x7b\"object\":\x7b\"id\":\"cs_test_a1\"\x7d\x7d\x7d"

def eventJson : Json := .obj [("id", .str "evt_1RaBoh"), ("type", .str "checkout.session.completed"),
  ("data", .obj [("object", .obj [("id", .str "cs_test_a1")])])]

def eventBody : Bytes := eventText.toUTF8.toList

def eventSignature : String :=
  "t=1750000000,v1=a9fff28d1410e7fa4f1774b04573fb7a282c0e6d5a226599cc855d1283c24968"

def foldAscii (f : Char → Char) (text : String) : String := String.ofList (text.toList.map f)

-- `ß` is two letters in upper case.
def upperChars (c : Char) : List Char :=
  if 'a' ≤ c ∧ c ≤ 'z' then [Char.ofNat (c.toNat - 32)] else if c = 'ß' then ['S', 'S'] else [c]

def lowerAscii (c : Char) : Char := if 'A' ≤ c ∧ c ≤ 'Z' then Char.ofNat (c.toNat + 32) else c

def loads (body : Bytes) : Except Exn Json :=
  if body = eventBody then .ok eventJson
  else .error ⟨.valueError, "Expecting value: line 1 column 1 (char 0)"⟩

-- 32 to 36 characters, of which 32 are digits and the others hyphens.
def pgUuid (text : String) : Except Exn Uuid :=
  let digits := text.toList.filter (· ≠ '-')
  match digits.mapM hexValue with
  | some values =>
      if 32 ≤ text.length ∧ text.length ≤ 36 ∧ digits.length = 32 then
        .ok (BitVec.ofNat 128 (values.foldl (fun n v => 16 * n + v) 0))
      else .error ⟨.valueError, "invalid UUID"⟩
  | none => .error ⟨.valueError, "invalid UUID"⟩

scoped instance : Platform where
  upper text := String.ofList (text.toList.flatMap upperChars)
  lower := foldAscii lowerAscii
  reprStr text := "'" ++ text ++ "'"
  citext := foldAscii lowerAscii
  loads := loads
  pgUuid := pgUuid
  dumps secret salt data time :=
    if secret = secretKey ∧ salt = manageTokenSalt ∧ time.seconds = clock.seconds ∧
      data = .obj [("donor_id", .str (uuid 2).toText)] then manageToken else ""
  unsign secret salt token maxAge time :=
    if secret = secretKey ∧ salt = manageTokenSalt ∧ token = manageToken then
      if time.seconds - clock.seconds ≤ maxAge then .ok (.obj [("donor_id", .str (uuid 2).toText)])
      else .error ⟨.signatureExpired, "Signature age is too old"⟩
    else .error ⟨.badSignature, "Signature does not match"⟩
  stripeImportable := true
  constructEvent body signature secret :=
    if signature = eventSignature ∧ secret = webhookSecret then loads body
    else .error ⟨.other, "No signatures found matching the expected signature for payload"⟩

-- Every operation goes well. The `n`-th participant draws its own ids.
def reply (n : ℕ) (world : World) (s : Session) : (op : Op) → Ans op
  | .now => clock + s.past.length
  | .uuid7 => uuid (100 * n + s.past.length)
  | .tokenHex => pad 20 (100 * n + s.past.length)
  | .push _ => ()
  | .flush => .ok ()
  | .query query => .ok (query.select (s.view world.db))
  | .commit => .ok ()
  | .stripeCheckout _ => .ok ⟨"cs_test_a1", "https://checkout.stripe.com/c/pay/cs_test_a1"⟩
  | .stripeDelete _ => .ok ()
  | .http _ => .ok (.obj [])
  | .record _ => ()
  | .smtp _ => .ok ()
  | .log _ => ()

-- What can fail does.
def refuse (n : ℕ) (world : World) (s : Session) : (op : Op) → Ans op
  | .flush => .error ⟨.other, "connection was closed"⟩
  | .query _ => .error ⟨.other, "connection was closed"⟩
  | .commit => .error ⟨.other, "connection was closed"⟩
  | .stripeCheckout _ => .error ⟨.other, "Connection error"⟩
  | .stripeDelete _ => .error ⟨.other, "Connection error"⟩
  | .http _ => .error ⟨.other, "Connection error"⟩
  | .smtp _ => .error ⟨.other, "Connection unexpectedly closed"⟩
  | op => reply n world s op

def settings : AcceptedSettings where
  settings := {
    secretKey := secretKey, stripeEnabled := true, stripeSecretKey := "sk_test",
    stripeWebhookSecret := webhookSecret, emailProvider := "smtp", smtpHost := "localhost",
    smtpUser := "mailer", smtpPassword := "mailer" }
  accepted := rfl

def donor (email : String) : DonorPayload where
  email := email
  firstName := "Amina"
  lastName := "Otieno"
  countryCode := "KE"
  firstName_length := by decide
  lastName_length := by decide
  countryCode_length := by decide

def giveBody (provider email : String) : GiveBody where
  provider := provider
  amountMinor := 2500
  currency := "USD"
  donor := donor email
  amountMinor_pos := by decide
  currency_length := by decide

def oneOff (provider email : String) : Request := ⟨settings, .oneOff (giveBody provider email)⟩

def subscription (provider email : String) : Request :=
  ⟨settings, .subscription (giveBody provider email)⟩

def manageDelete : Request := ⟨settings, .manageDelete manageToken⟩

def managePatch : Request := ⟨settings, .managePatch manageToken ⟨9900, by decide⟩⟩

def delivery : Request :=
  ⟨settings, .webhook .stripe [("Stripe-Signature", eventSignature)] eventBody⟩

abbrev ServiceCue := Cue Op Ans Session World Request

-- `count` operations of participant `i`.
def turns (i count : ℕ) (answers : World → Session → (op : Op) → Ans op) : List ServiceCue :=
  List.replicate count (.act i answers)

-- Rows as two subscriptions on the test rail leave them.

def amina : Donor where
  id := uuid 2
  email := "amina@example.org"
  firstName := "Amina"
  lastName := "Otieno"
  countryCode := "KE"

def monthly (n : ℕ) (donor : Donor) : Subscription where
  id := uuid n
  donorId := donor.id
  provider := .test
  providerSubscriptionId := "test_sub_" ++ pad 20 n
  amountMinor := 2500
  currency := "USD"
  status := .active
  startedAt := some clock

def aminaOnly : Db := { donors := [amina], subscriptions := [monthly 7 amina] }

-- Runs start with nobody at work.
theorem exists_run_from (allow : ServicePool → ServiceMove → Prop)
    [∀ pool move, Decidable (allow pool move)] (db : Db) (P : ServicePool → Prop) [DecidablePred P]
    (cues : List ServiceCue)
    (h : (service.play allow ⟨{ db := db }, []⟩ cues).any (fun pool => P pool) = true) :
    ∃ pool, service.Run allow ⟨{ db := db }, []⟩ pool ∧ P pool :=
  System.exists_run cues h

theorem exists_run (allow : ServicePool → ServiceMove → Prop)
    [∀ pool move, Decidable (allow pool move)] (P : ServicePool → Prop) [DecidablePred P]
    (cues : List ServiceCue) (h : (service.play allow ⟨{}, []⟩ cues).any (fun pool => P pool) = true) :
    ∃ pool, service.Run allow ⟨{}, []⟩ pool ∧ P pool :=
  exists_run_from allow {} P cues h

-- A request that is served alone, with every answer given by the function.
theorem exists_serves (world : World) (request : Request) (answers : World → Session → (op : Op) → Ans op)
    (P : World × Session → Except Exn Response → Prop) [∀ state result, Decidable (P state result)]
    (h : (Prog.follow service.alone (fun state => answers state.1 state.2) (world, {}) request.handler).any
      (fun finish => P finish.1 finish.2) = true) :
    ∃ state result, service.Serves world request state result ∧ P state result := by
  obtain ⟨⟨state, result⟩, hfollow, hP⟩ := (Option.any_eq_true _ _).mp h
  exact ⟨state, result, Prog.exec_of_follow hfollow, of_decide_eq_true hP⟩

end BridgeOfHope.Trial
