import BridgeOfHope.Service.Lemmas

namespace BridgeOfHope

open Process Payments Donations
open Prog (Only)

-- A gift on a rail other than the test rail stores no event.

def Op.storesEvent : Op → Bool
  | .push (.insertWebhookEvent _) => true
  | _ => false

-- Nothing of the kind is in the open transaction.
def Eventless (s : Session) : Prop := ∀ row, .insertWebhookEvent row ∉ s.pending

theorem Eventless.update {s : Session} (h : Eventless s) {op : Op} (hop : op.storesEvent = false)
    (ans : Ans op) :
    Eventless (s.update op ans) := by
  intro row hrow
  rcases Session.mem_pending_update hrow with hold | rfl
  · exact h row hold
  · cases hop

theorem commit_eventless : commit.Only fun op => op.storesEvent = false := only_commit rfl rfl

theorem only_recordConsent (donor : Donor) (source : String) :
    (recordConsent donor source).Only fun op => op.storesEvent = false :=
  .bind (.perform rfl) fun _ => .bind (.perform rfl) fun _ => trivial

theorem Op.storesEvent_of_outer {op : Op} (h : op.outer = true) : op.storesEvent = false := by
  cases op with
  | push stmt => cases h
  | _ => rfl

variable [Platform]

theorem only_getOrCreateDonor (payload : DonorPayload) :
    (getOrCreateDonor payload).Only fun op => op.storesEvent = false := by
  refine .bind (only_scalar rfl rfl) fun found => ?_
  cases found with
  | some donor => trivial
  | none =>
      refine .bind (.perform rfl) fun id => .bind (.perform rfl) fun _ => ?_
      exact .bind (.bind (.perform rfl) fun _ => .ofExcept) fun _ => trivial

-- The rail that a give request names.
def Request.rail (request : Request) : Option String :=
  match request.endpoint with
  | .oneOff body => some body.provider
  | .subscription body => some body.provider
  | _ => none

theorem only_createSubscription {provider : Provider} (h : provider ≠ .test) (gift : Gift) :
    (provider.createSubscription gift).Only fun op => op.storesEvent = false := by
  cases provider with
  | test => exact absurd rfl h
  | stripe s => exact .bind (.perform rfl) fun _ => .bind .ofExcept fun _ => trivial
  | paypal s base => trivial
  | mpesa s host => trivial
  | btc s => trivial

-- The rail of the request is chosen first, and only the name test leads to the test rail.
theorem only_selected {name : String} {settings : Settings} {rest : Provider → Act Response}
    (hname : name ≠ "test")
    (h : ∀ provider, provider ≠ .test → (rest provider).Only fun op => op.storesEvent = false) :
    (selectProvider name settings >>= rest).Only fun op => op.storesEvent = false := by
  rcases selectProvider_cases name settings with ⟨provider, hprovider, hselect⟩ | ⟨error, hselect⟩
  · rw [hselect]
    refine h provider fun htest => ?_
    rcases getProvider_cases hprovider with ⟨hsame, -⟩ | ⟨-, hp⟩ | ⟨-, base, hp⟩ | ⟨-, host, hp⟩ | ⟨-, hp⟩
    · exact hname hsame
    · cases htest.symm.trans hp
    · cases htest.symm.trans hp
    · cases htest.symm.trans hp
    · cases htest.symm.trans hp
  · rw [hselect]
    trivial

theorem only_giver {payload : DonorPayload} {consent : Bool} {source : String} {rest : Donor → Act Response}
    (h : ∀ donor, (rest donor).Only fun op => op.storesEvent = false) :
    (do let donor ← getOrCreateDonor payload
        if consent then
          let donor ← recordConsent donor source
          rest donor
        else
          let donor ← pure donor
          rest donor : Act Response).Only fun op => op.storesEvent = false := by
  refine (only_getOrCreateDonor payload).bind fun donor => ?_
  cases consent with
  | true => exact (only_recordConsent donor source).bind h
  | false => exact h donor

theorem only_createOneOff_rail {settings : Settings} {body : OneOffCreate} (hname : body.provider ≠ "test") :
    (Donations.createOneOff settings body).Only fun op => op.storesEvent = false := by
  refine only_selected hname fun provider hprovider => only_giver fun donor => ?_
  have hcall := (only_createOneOff provider (gift body)).mono fun op => Op.storesEvent_of_outer
  cases provider with
  | test => exact absurd rfl hprovider
  | stripe _ | paypal _ _ | mpesa _ _ | btc _ =>
      exact hcall.bind fun result => commit_eventless.bind fun _ => .bind .ofExcept fun _ => trivial

theorem only_createSubscription_rail {settings : Settings} {body : SubscriptionCreate}
    (hname : body.provider ≠ "test") :
    (Donations.createSubscription settings body).Only fun op => op.storesEvent = false := by
  refine only_selected hname fun provider hprovider => only_giver fun donor => ?_
  refine (only_createSubscription hprovider _).bind fun result => .bind .ofExcept fun rail => ?_
  refine .bind (.perform rfl) fun id => .bind (.perform rfl) fun _ => ?_
  refine .bind (.bind (.perform rfl) fun _ => .ofExcept) fun _ => ?_
  cases provider with
  | test => exact absurd rfl hprovider
  | stripe _ | paypal _ _ | mpesa _ _ | btc _ => exact commit_eventless.bind fun _ => trivial

-- What a gift on another rail writes.
def Spares (request : Request) (s : Session) (_ : Op) : Prop :=
  ∀ name ∈ request.rail, name ≠ "test" → Eventless s

theorem handler_spares (request : Request) :
    (service.start request).Obeys service.toClient (Spares request) (fun _ _ => True) service.fresh := by
  show request.handler.Obeys client (Spares request) (fun _ _ => True) {}
  by_cases hrail : ∃ name ∈ request.rail, name ≠ "test"
  · have honly : request.handler.Only fun op => op.storesEvent = false := by
      obtain ⟨name, hname, hne⟩ := hrail
      unfold Request.rail at hname
      unfold Request.handler
      split at hname
      · next body hendpoint =>
          cases hname
          rw [hendpoint]
          exact only_createOneOff_rail hne
      · next body hendpoint =>
          cases hname
          rw [hendpoint]
          exact only_createSubscription_rail hne
      · cases hname
    have hfresh : Eventless {} := by
      intro row hrow
      cases hrow
    exact honly.obeys Eventless (fun _ _ ans hs hop => hs.update hop ans) (fun _ _ hs _ _ _ _ => hs)
      (fun _ _ _ => trivial) hfresh
  · refine (handler_obeys request).mono (fun s op _ name hname hne => ?_) fun _ _ _ => trivial
    exact absurd ⟨name, hname, hne⟩ hrail

end BridgeOfHope
