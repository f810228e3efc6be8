import BridgeOfHope.Service.Lemmas

namespace BridgeOfHope

open Process Payments
open Prog (Only)

-- The subscription that a manage request is about: the first row of the answer
-- to its query.

-- A PATCH or a DELETE.
def Request.manages (request : Request) : Bool :=
  match request.endpoint with
  | .managePatch .. | .manageDelete _ => true
  | _ => false

def Event.picked : Event → Option Subscription
  | ⟨.query (.openSubscriptions _), .ok (sub :: _)⟩ => some sub
  | _ => none

def Session.picked (s : Session) : List Subscription := s.past.filterMap Event.picked

theorem Session.picked_mono {s s' : Session} {sub : Subscription} (h : sub ∈ s.picked)
    (hpast : s.past <:+ s'.past) : sub ∈ s'.picked :=
  (hpast.filterMap _).subset h

theorem Session.picked_of_rows {s : Session} {donorId : Uuid} {sub : Subscription} {rows : List Subscription}
    (h : ⟨.query (.openSubscriptions donorId), .ok (sub :: rows)⟩ ∈ s.past) : sub ∈ s.picked :=
  List.mem_filterMap.mpr ⟨_, h, rfl⟩

theorem Session.mem_picked_update {s : Session} {op : Op} {ans : Ans op} {sub : Subscription}
    (h : sub ∈ (s.update op ans).picked) : sub ∈ s.picked ∨ ∃ donorId rows,
      (⟨op, ans⟩ : Event) = ⟨.query (.openSubscriptions donorId), .ok (sub :: rows)⟩ := by
  obtain ⟨event, hevent, hpicked⟩ := List.mem_filterMap.mp h
  rcases List.mem_cons.mp hevent with rfl | hold
  · unfold Event.picked at hpicked
    split at hpicked
    · next donorId _ rows heq =>
        cases hpicked
        exact .inr ⟨donorId, rows, heq⟩
    · cases hpicked
  · exact .inl (List.mem_filterMap.mpr ⟨event, hold, hpicked⟩)

-- The call by which a rail is told to stop charging for the row.
def Op.CallsOff (row : Subscription) : Op → Prop
  | .record (.testCancelled id) => row.provider = .test ∧ id = row.providerSubscriptionId
  | .stripeDelete id => row.provider = .stripe ∧ id = row.providerSubscriptionId
  | .http request => row.provider = .paypal ∧
      request.path = PayPalProvider.cancelPath row.providerSubscriptionId
  | _ => False

-- It calls off that subscription and no other one.
def Op.Targets (sub : Subscription) (op : Op) : Prop :=
  ∀ row, op.CallsOff row →
    sub.provider = row.provider ∧ sub.providerSubscriptionId = row.providerSubscriptionId

section

variable {id id' : String}

theorem cancelPath_injective (h : PayPalProvider.cancelPath id = PayPalProvider.cancelPath id') : id = id' := by
  have hpath := (String.append_left_inj "/cancel").mp h
  exact (String.append_right_inj "/v1/billing/subscriptions/").mp hpath

-- The two paths end in different letters.
theorem token_path (id : String) : "/v1/oauth2/token" ≠ PayPalProvider.cancelPath id := by
  intro h
  have hlast := congrArg (fun path : String => path.toList.getLast?) h
  have htoken : "/v1/oauth2/token".toList.getLast? = some 'n' := by decide
  have hcancel : (PayPalProvider.cancelPath id).toList.getLast? = some 'l' := by
    unfold PayPalProvider.cancelPath
    rw [String.toList_append, List.getLast?_append, show "/cancel".toList.getLast? = some 'l' by decide]
    rfl
  cases htoken.symm.trans (hlast.trans hcancel)

end

-- What a manage request asks, and when. It reads the open subscriptions of the
-- donor that its token names. All that it does then is about the row it picked.
inductive Manages [Platform] (secretKey token : String) (s : Session) : Op → Prop
  | now : Manages secretKey token s .now
  | uuid7 : Manages secretKey token s .uuid7
  | tokenHex : Manages secretKey token s .tokenHex
  | flush : Manages secretKey token s .flush
  | look {donorId : Uuid} {time : Time} (hflushed : s.flushed = []) (hbegan : s.Began time)
      (htoken : verifyManageToken secretKey token time = .ok (some donorId)) :
      Manages secretKey token s (.query (.openSubscriptions donorId))
  | tell {sub : Subscription} {op : Op} (hpicked : sub ∈ s.picked) (hcommitted : s.committed = [])
      (houter : op.outer = true) (htargets : op.Targets sub) : Manages secretKey token s op
  | assign {sub : Subscription} (hpicked : sub ∈ s.picked) (columns : List SubscriptionSet) :
      Manages secretKey token s (.push (.updateSubscription sub.id columns))
  | donor {sub : Subscription} (hpicked : sub ∈ s.picked) :
      Manages secretKey token s (.query (.donorById sub.donorId))
  | smtp (mail : Mail) : Manages secretKey token s (.smtp mail)
  | log (mail : Mail) : Manages secretKey token s (.log mail)
  | commit {sub : Subscription} {columns : List SubscriptionSet} (hpicked : sub ∈ s.picked)
      (hpending : s.pending = [.updateSubscription sub.id columns]) : Manages secretKey token s .commit

-- What a manage request does before its commit, and the rows that the commit
-- writes, are about the subscription it has picked.
structure Aims (s : Session) (op : Op) : Prop where
  calls : ∀ row, op.CallsOff row → s.committed = [] ∧ ∃ sub ∈ s.picked,
    sub.provider = row.provider ∧ sub.providerSubscriptionId = row.providerSubscriptionId
  writes : op = .commit → ∀ id columns, .updateSubscription id columns ∈ s.pending →
    ∃ sub ∈ s.picked, sub.id = id

theorem only_sendEmail (settings : Settings) (to_ subject : String) (template : Template) :
    (sendEmail settings to_ subject template).Only fun op => ∃ mail, op = .smtp mail ∨ op = .log mail := by
  unfold sendEmail
  split
  · exact .bind (.perform ⟨_, .inl rfl⟩) fun _ => .ofExcept
  · exact .perform ⟨_, .inr rfl⟩

variable [Platform]

theorem only_cancelSubscription_targets {sub : Subscription} {settings : Settings} {provider : Provider}
    (h : getProvider sub.provider.value settings = .ok provider) :
    (provider.cancelSubscription sub.providerSubscriptionId).Only fun op =>
      op.outer = true ∧ op.Targets sub := by
  rcases getProvider_cases h with ⟨hname, rfl⟩ | ⟨hname, rfl⟩ | ⟨hname, base, rfl⟩ | ⟨-, host, rfl⟩ | ⟨-, rfl⟩
  · have hrail : sub.provider = .test := by
      cases hp : sub.provider <;> simp [hp, SubscriptionProvider.value] at hname ⊢
    exact .perform ⟨rfl, fun row ⟨hrow, hid⟩ => ⟨hrail.trans hrow.symm, hid⟩⟩
  · have hrail : sub.provider = .stripe := by
      cases hp : sub.provider <;> simp [hp, SubscriptionProvider.value] at hname ⊢
    exact .bind (.perform ⟨rfl, fun row ⟨hrow, hid⟩ => ⟨hrail.trans hrow.symm, hid⟩⟩) fun _ => .ofExcept
  · have hrail : sub.provider = .paypal := by
      cases hp : sub.provider <;> simp [hp, SubscriptionProvider.value] at hname ⊢
    refine .bind (.bind (.perform ⟨rfl, fun row ⟨_, hpath⟩ => ?_⟩) fun _ => .bind .ofExcept fun _ => .ofExcept)
      fun token => .bind (.perform ⟨rfl, fun row ⟨hrow, hpath⟩ => ?_⟩) fun _ => .bind .ofExcept fun _ => trivial
    · exact absurd hpath (token_path _)
    · exact ⟨hrail.trans hrow.symm, cancelPath_injective hpath⟩
  · trivial
  · trivial

theorem Subscriptions.only_tellRail (settings : Settings) (sub : Subscription) :
    (tellRail settings sub).Only fun op => op.outer = true ∧ op.Targets sub := by
  refine Only.handle ?_ fun _ => trivial
  cases hprovider : getProvider sub.provider.value settings with
  | error error => trivial
  | ok provider => exact only_cancelSubscription_targets hprovider

variable {secretKey token : String}

theorem Manages.aims {s : Session} {op : Op} (h : Manages secretKey token s op) : Aims s op := by
  constructor
  · intro row hcalls
    cases h with
    | tell hpicked hcommitted _ htargets => exact ⟨hcommitted, _, hpicked, htargets row hcalls⟩
    | _ => exact hcalls.elim
  · rintro rfl id columns hmem
    cases h with
    | tell _ _ houter _ => cases houter
    | @commit sub _ hpicked hpending =>
        rw [hpending] at hmem
        cases List.mem_singleton.mp hmem
        exact ⟨sub, hpicked, rfl⟩

theorem free_manages : Free (Manages secretKey token) where
  now _ := .now
  uuid7 _ := .uuid7
  tokenHex _ := .tokenHex
  flush _ := .flush

namespace Subscriptions

theorem obeys_donorSubscriptions_manages {α : Type} {rest : List Subscription → Act α}
    (hrest : ∀ s rows, Session.Writes {} s [] → (∀ sub ∈ rows.head?, sub ∈ s.picked) →
      (rest rows).Obeys client (Manages secretKey token) (fun _ _ => True) s) :
    (donorSubscriptions secretKey token >>= rest).Obeys client (Manages secretKey token)
    (fun _ _ => True) {} := by
  refine obeys_seq (obeys_donorSubscriptions free_manages (fun _ _ _ hflushed _ hbegan => .look hflushed hbegan)
    (fun s rows donorId time h _ _ hmem _ => hrest s rows h ?_) fun _ _ _ _ => trivial)
  cases rows with
  | nil => simp
  | cons sub rows => simpa using Session.picked_of_rows hmem

theorem getSubscriptions_manages {settings : Settings} (hkey : settings.secretKey = secretKey) :
    (getSubscriptions settings token).Obeys client (Manages secretKey token) (fun _ _ => True) {} := by
  unfold getSubscriptions
  rw [hkey]
  exact obeys_donorSubscriptions_manages fun _ _ _ _ => trivial

-- The commit of an update of the picked row, and the answer after it.
theorem obeys_commit_manages {sub : Subscription} {columns : List SubscriptionSet} {s : Session} {text : String}
    (hpicked : sub ∈ s.picked) (hpending : s.pending = [.updateSubscription sub.id columns]) :
    (do commit
        return ⟨200, .status text⟩ : Act Response).Obeys client (Manages secretKey token)
          (fun _ _ => True) s := by
  refine obeys_seq (obeys_commit free_manages (fun s' h _ => ?_) (fun _ _ _ _ _ _ => trivial)
    fun _ _ _ _ => trivial)
  have hpending' : s'.pending = s.pending := h.pending.trans (List.append_nil _)
  exact .commit (Session.picked_mono hpicked h.past) (hpending'.trans hpending)

theorem changeAmount_manages {settings : Settings} (hkey : settings.secretKey = secretKey)
    {body : ManageSubscriptionPatch} :
    (changeAmount settings token body).Obeys client (Manages secretKey token) (fun _ _ => True) {} := by
  unfold changeAmount
  rw [hkey]
  refine obeys_donorSubscriptions_manages fun s₁ rows h₁ hhead => ?_
  cases rows with
  | nil => trivial
  | cons sub rows =>
      have hpicked : sub ∈ s₁.picked := hhead sub rfl
      refine obeys_seq (obeys_seq (obeys_add (.assign hpicked _) fun s₂ h₂ => ?_))
      exact obeys_commit_manages (Session.picked_mono hpicked h₂.past) (h₁.trans h₂).pending

theorem finishCancel_manages {settings : Settings} {sub : Subscription} {s : Session} (hsub : sub ∈ s.picked)
    (hpending : s.pending = []) :
    (finishCancel settings sub).Obeys client (Manages secretKey token) (fun _ _ => True) s := by
  have hpicked {s' : Session} (hpast : s.past <:+ s'.past) : sub ∈ s'.picked := Session.picked_mono hsub hpast
  refine obeys_seq (Ledger.obeys_cancelSubscriptionRow free_manages
    (fun s time hs => .assign (hpicked hs.past) _)
    (fun s₁ time h₁ => ?_) fun _ _ _ _ => trivial)
  have hpending₁ := h₁.pending
  rw [hpending] at hpending₁
  refine obeys_seq (obeys_scalar free_manages (fun s hs _ _ => .donor (hpicked (h₁.past.trans hs.past)))
    (fun s₂ h₂ _ => ?_) (fun s₂ donor _ h₂ _ _ => ?_) fun _ _ _ _ => trivial)
  · have hpending₂ := (h₂.pending.trans (List.append_nil _)).trans hpending₁
    exact obeys_commit_manages (hpicked (h₁.past.trans h₂.past)) hpending₂
  · have hpending₂ := (h₂.pending.trans (List.append_nil _)).trans hpending₁
    refine obeys_seq ((only_sendEmail settings _ _ _).obeys
      (fun s => s.pending = s₂.pending ∧ s₂.past <:+ s.past) ?_ ?_ (fun s result hs => ?_)
        ⟨rfl, List.suffix_rfl⟩)
    · rintro s op ans ⟨hpend, hsuffix⟩ ⟨mail, rfl | rfl⟩
      · exact ⟨hpend, hsuffix.trans (List.suffix_cons _ _)⟩
      · exact ⟨hpend, hsuffix.trans (List.suffix_cons _ _)⟩
    · rintro s op - ⟨mail, rfl | rfl⟩
      · exact .smtp mail
      · exact .log mail
    · cases result with
      | error error => trivial
      | ok _ => exact obeys_commit_manages (hpicked ((h₁.past.trans h₂.past).trans hs.2)) (hs.1.trans hpending₂)

theorem cancel_manages {settings : Settings} (hkey : settings.secretKey = secretKey) :
    (cancel settings token).Obeys client (Manages secretKey token) (fun _ _ => True) {} := by
  rw [cancel_eq, hkey]
  refine obeys_donorSubscriptions_manages fun s₁ rows h₁ hhead => ?_
  cases rows with
  | nil => trivial
  | cons sub rows =>
      have hpicked {s : Session} (hpast : s₁.past <:+ s.past) : sub ∈ s.picked :=
        Session.picked_mono (hhead sub rfl) hpast
      -- the rail is told of the picked subscription, with nothing committed
      refine obeys_seq ((only_tellRail settings sub).obeys (fun s => s₁.Writes s [])
        (fun _ _ _ hs hop => hs.trans_nil (writes_outer hop.1))
        (fun s op hs hop => .tell (hpicked hs.past) (h₁.trans hs).committed hop.1 hop.2)
        (fun s₂ result h₂ => ?_) (.refl s₁))
      cases result with
      | error error => trivial
      | ok _ => exact finishCancel_manages (hpicked h₂.past) (h₁.trans h₂).pending

end Subscriptions

-- The token in the link of a manage request.
def Request.manageToken (request : Request) : Option String :=
  match request.endpoint with
  | .manageGet token | .managePatch token _ | .manageDelete token => some token
  | _ => none

theorem handler_manages {request : Request} (h : request.manageToken = some token) :
    request.handler.Obeys client (Manages request.settings.settings.secretKey token) (fun _ _ => True) {} := by
  unfold Request.manageToken at h
  unfold Request.handler
  split at h
  · next hendpoint =>
      cases h
      rw [hendpoint]
      exact Subscriptions.getSubscriptions_manages rfl
  · next hendpoint =>
      cases h
      rw [hendpoint]
      exact Subscriptions.changeAmount_manages rfl
  · next hendpoint =>
      cases h
      rw [hendpoint]
      exact Subscriptions.cancel_manages rfl
  · cases h

theorem handler_aims (request : Request) :
    (service.start request).Obeys service.toClient (fun s op => request.manages = true → Aims s op)
      (fun _ _ => True) service.fresh := by
  show request.handler.Obeys client _ _ {}
  by_cases hmanages : request.manages = true
  · have htoken : ∃ token, request.manageToken = some token := by
      unfold Request.manages at hmanages
      unfold Request.manageToken
      split at hmanages <;> simp_all
    obtain ⟨token, htoken⟩ := htoken
    exact (handler_manages htoken).mono (fun _ _ h _ => h.aims) fun _ _ h => h
  · exact (handler_obeys request).mono (fun _ _ _ h => absurd h hmanages) fun _ _ _ => trivial

end BridgeOfHope
