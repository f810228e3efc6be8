import BridgeOfHope.Subscriptions.Repeated

namespace BridgeOfHope

open Process

-- The mail server and the rails, which a gift or a cancellation meets on its way.

-- How the mail server and the rails answer.
structure SideChannels where
  smtp : Mail → Except Exn Unit
  stripeDelete : String → Except Exn Unit
  http : HttpRequest → Except Exn Json

def SideChannels.Gives (channels : SideChannels) : Event → Prop
  | ⟨.smtp mail, answer⟩ => answer = channels.smtp mail
  | ⟨.stripeDelete id, answer⟩ => answer = channels.stripeDelete id
  | ⟨.http request, answer⟩ => answer = channels.http request
  | _ => True

instance (channels : SideChannels) : (event : Event) → Decidable (channels.Gives event)
  | ⟨.smtp mail, answer⟩ => inferInstanceAs (Decidable (answer = channels.smtp mail))
  | ⟨.stripeDelete id, answer⟩ => inferInstanceAs (Decidable (answer = channels.stripeDelete id))
  | ⟨.http request, answer⟩ => inferInstanceAs (Decidable (answer = channels.http request))
  | ⟨.now, _⟩ | ⟨.uuid7, _⟩ | ⟨.tokenHex, _⟩ | ⟨.push _, _⟩ | ⟨.flush, _⟩ | ⟨.query _, _⟩ | ⟨.commit, _⟩
  | ⟨.stripeCheckout _, _⟩ | ⟨.record _, _⟩ | ⟨.log _, _⟩ => isTrue trivial

-- The requests that send a mail before they commit.
def Request.mails (request : Request) : Bool :=
  match request.endpoint with
  | .oneOff body | .subscription body => body.provider = "test"
  | .manageDelete _ => true
  | _ => false

-- A cancellation with the same link, when the rails are set up in another way.
structure Request.SameCancellation (request request' : Request) : Prop where
  endpoint : request'.endpoint = request.endpoint
  cancels : ∃ token, request.endpoint = .manageDelete token
  secretKey : request'.settings.settings.secretKey = request.settings.settings.secretKey
  emailProvider : request'.settings.settings.emailProvider = request.settings.settings.emailProvider
  smtpHost : request'.settings.settings.smtpHost = request.settings.settings.smtpHost
  emailFrom : request'.settings.settings.emailFrom = request.settings.settings.emailFrom
  emailReplyTo : request'.settings.settings.emailReplyTo = request.settings.settings.emailReplyTo

-- What a request asks when it is not with a rail that may fail.
def Inward (settings : Settings) : Op → Prop
  | .smtp _ => settings.mailsBySmtp = true
  | .log _ => settings.mailsBySmtp = false
  | .stripeDelete _ | .http _ | .query (.openSubscriptions _) => False
  | _ => True

theorem writes_inward (settings : Settings) : FreeToWrite fun _ => Inward settings :=
  ⟨⟨fun _ => trivial, fun _ => trivial, fun _ => trivial, fun _ => trivial⟩, fun _ _ => trivial⟩

-- Nothing is left to the side channels when mails go to the log.
theorem Inward.gives {settings : Settings} {op : Op} (h : Inward settings op)
    (hmail : settings.mailsBySmtp = false)
    (channels : SideChannels) (ans : Ans op) : channels.Gives ⟨op, ans⟩ := by
  cases op with
  | smtp mail =>
      have hsmtp : settings.mailsBySmtp = true := h
      rw [hmail] at hsmtp
      cases hsmtp
  | stripeDelete _ => exact h.elim
  | http _ => exact h.elim
  | _ => trivial

-- No mail gets out when the mail server refuses it.
theorem Inward.unsent {settings : Settings} {op : Op} (h : Inward settings op)
    (hmail : settings.mailsBySmtp = true)
    {channels : SideChannels} (hdown : ∀ mail, ∃ error, channels.smtp mail = .error error) {ans : Ans op}
    (hgives : channels.Gives ⟨op, ans⟩) : Event.mail ⟨op, ans⟩ = none := by
  cases op with
  | smtp mail =>
      obtain ⟨error, herror⟩ := hdown mail
      have hans : ans = .error error := Eq.trans hgives herror
      rw [hans]
      rfl
  | log mail =>
      have hlog : settings.mailsBySmtp = false := h
      rw [hmail] at hlog
      cases hlog
  | _ => rfl

theorem unsent_of_inward {settings : Settings} {s : Session} (hmail : settings.mailsBySmtp = true)
    {channels : SideChannels} (hdown : ∀ mail, ∃ error, channels.smtp mail = .error error)
    (hgiven : ∀ event ∈ s.past, channels.Gives event)
    (hinward : ∀ event ∈ s.past, event.mail ≠ none → Inward settings event.op) : s.sent = [] := by
  refine List.filterMap_eq_nil_iff.mpr fun event hevent => ?_
  by_contra hsent
  exact hsent ((hinward event hevent hsent).unsent hmail hdown (hgiven event hevent))

theorem only_sendEmail_inward {settings : Settings} (to_ subject : String) (template : Template) :
    (sendEmail settings to_ subject template).Only (Inward settings) := by
  unfold sendEmail
  split
  · next hsmtp => exact .bind (.perform hsmtp) fun _ => .ofExcept
  · next hconsole => exact .perform (Bool.eq_false_iff.mpr hconsole)

variable [Platform]

-- A way the request can go, served alone, while the database does not fail.
structure Course (channels : SideChannels) (world : World) (request : Request) (state : World × Session)
    (result : Except Exn Response) : Prop where
  serves : service.Serves world request state result
  database : state.2.broken = false
  given : ∀ event ∈ state.2.past, channels.Gives event

-- The request can end with these tables.
def Leads (channels : SideChannels) (world : World) (request : Request) (db : Db) : Prop :=
  ∃ state result, Course channels world request state result ∧ state.1.db = db

-- The request can get to send its mail.
def Sends (world : World) (request : Request) : Prop :=
  ∃ channels state result, Course channels world request state result ∧ state.2.sent ≠ []

-- Whatever the mail server and the rails do, the request can end with the same
-- tables, and a subscription that it picked is cancelled in them.
structure Independent (world : World) (request : Request) : Prop where
  tables : ∀ channels channels' request' db, request' = request ∨ request.SameCancellation request' →
    Leads channels world request db → Leads channels' world request' db
  cancelled : ∀ channels state result token, request.endpoint = .manageDelete token →
    Course channels world request state result → ∀ sub ∈ state.2.picked, state.1.db.Cancelled sub.id

-- A program that leaves nothing to them can go with any.
theorem gives_of_obeys {α : Type} {channels : SideChannels} {before : World × Session → Op → Prop}
    {after : World × Session → Except Exn α → Prop} {program : Act α} {state state' : World × Session}
    {result : Except Exn α} (hbefore : ∀ state op, before state op → ∀ ans, channels.Gives ⟨op, ans⟩)
    (hobeys : program.Obeys service.alone before after state)
    (hexec : program.Exec service.alone state state' result)
    (h : ∀ event ∈ state.2.past, channels.Gives event) : ∀ event ∈ state'.2.past, channels.Gives event := by
  refine hexec.invariant (fun state => ∀ event ∈ state.2.past, channels.Gives event) ?_ hobeys h
  intro state op ans hgiven hop _ event hevent
  rcases List.mem_cons.mp hevent with rfl | hold
  · exact hbefore state op hop ans
  · exact hgiven event hold

end BridgeOfHope
