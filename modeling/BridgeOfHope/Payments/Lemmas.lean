import BridgeOfHope.Payments.Registry
import BridgeOfHope.Runtime.Lemmas

namespace BridgeOfHope

open Process

-- The operations that leave the request's transaction alone. The test rail's
-- note of a new subscription is not among them: a request has to own it.
def Op.outer : Op → Bool
  | now | tokenHex | stripeCheckout _ | stripeDelete _ | http _ => true
  | record (.testCancelled _) => true
  | _ => false

theorem advance_outer {s : Session} {op : Op} {ans : Ans op} (h : op.outer = true) : s.advance op ans = s := by
  cases op <;> first | rfl | cases h

theorem mail_outer {op : Op} {ans : Ans op} (h : op.outer = true) : Event.mail ⟨op, ans⟩ = none := by
  cases op <;> first | rfl | cases h

theorem writes_outer {s : Session} {op : Op} {ans : Ans op} (h : op.outer = true) :
    s.Writes (s.update op ans) [] :=
  Session.writes_update (advance_outer h) (mail_outer h)

-- A call of a rail writes nothing, however it ends.
theorem obeys_outer [Platform] {α : Type} {before : Session → Op → Prop} {s : Session} {program : Act α}
    {after : Session → Except Exn α → Prop} (hprogram : program.Only fun op => op.outer = true)
    (houter : ∀ s op, op.outer = true → before s op)
    (hafter : ∀ s' result, s.Writes s' [] → after s' result) :
    program.Obeys client before after s :=
  hprogram.obeys (fun s' => s.Writes s' []) (fun _ _ _ hs hop => hs.trans_nil (writes_outer hop))
    (fun s op _ => houter s op) hafter (.refl s)

namespace Payments

open Prog (Only)

theorem PayPalProvider.only_token (s : Settings) (base : String) :
    (PayPalProvider.token s base).Only fun op => op.outer = true :=
  .bind (.perform rfl) fun _ => .bind .ofExcept fun _ => .ofExcept

theorem PayPalProvider.only_cancelSubscription (s : Settings) (base id : String) :
    (PayPalProvider.cancelSubscription s base id).Only fun op => op.outer = true :=
  .bind (only_token s base) fun _ => .bind (.perform rfl) fun _ => .bind .ofExcept fun _ => trivial

theorem MpesaProvider.only_getToken (s : Settings) (host : String) :
    (MpesaProvider.getToken s host).Only fun op => op.outer = true := by
  refine .bind (.perform rfl) fun reply => .bind .ofExcept fun data => ?_
  exact .bind .ofExcept fun token => .bind .ofExcept fun _ => trivial

theorem PayPalProvider.only_createOneOff (s : Settings) (base : String) (gift : Gift) :
    (PayPalProvider.createOneOff s base gift).Only fun op => op.outer = true := by
  refine .bind (only_token s base) fun token => .bind .ofExcept fun amount => ?_
  refine .bind (.perform rfl) fun reply => .bind .ofExcept fun order => ?_
  exact .bind .ofExcept fun _ => .bind .ofExcept fun _ => trivial

theorem MpesaProvider.only_createOneOff (s : Settings) (host : String) (gift : Gift) :
    (MpesaProvider.createOneOff s host gift).Only fun op => op.outer = true := by
  unfold createOneOff
  refine Only.guard .ofExcept fun _ => ?_
  refine Only.guard .ofExcept fun _ => ?_
  refine .bind .ofExcept fun phone => .bind (.perform rfl) fun time => ?_
  refine .bind (only_getToken s host) fun token => .bind .ofExcept fun amount => ?_
  exact .bind (.perform rfl) fun reply => .bind .ofExcept fun data => .bind .ofExcept fun _ => trivial

theorem only_cancelSubscription (provider : Provider) (id : String) :
    (provider.cancelSubscription id).Only fun op => op.outer = true := by
  cases provider with
  | test => exact .perform rfl
  | stripe s => exact .bind (.perform rfl) fun _ => .ofExcept
  | paypal s base => exact PayPalProvider.only_cancelSubscription s base id
  | mpesa s host => trivial
  | btc s => trivial

section

variable [Platform]

theorem only_createOneOff (provider : Provider) (gift : Gift) :
    (provider.createOneOff gift).Only fun op => op.outer = true := by
  cases provider with
  | test => exact .bind (.perform rfl) fun _ => trivial
  | stripe s => exact .bind (.perform rfl) fun _ => .bind .ofExcept fun _ => trivial
  | paypal s base => exact PayPalProvider.only_createOneOff s base gift
  | mpesa s host => exact MpesaProvider.only_createOneOff s host gift
  | btc s => trivial

-- The rail that each name builds.

theorem getProvider_test (s : Settings) : getProvider "test" s = .ok .test := rfl

theorem getProvider_cases {name : String} {s : Settings} {provider : Provider}
    (h : getProvider name s = .ok provider) :
    name = "test" ∧ provider = .test ∨ name = "stripe" ∧ provider = .stripe s ∨
      name = "paypal" ∧ (∃ base, provider = .paypal s base) ∨
      name = "mpesa" ∧ (∃ host, provider = .mpesa s host) ∨ name = "btc" ∧ provider = .btc s := by
  unfold getProvider at h
  split at h
  · exact .inl ⟨rfl, (Except.ok.inj h).symm⟩
  · cases hb : StripeProvider.build s with
    | error e => rw [hb] at h; cases h
    | ok _ => rw [hb] at h; exact .inr (.inl ⟨rfl, (Except.ok.inj h).symm⟩)
  · cases hb : PayPalProvider.build s with
    | error e => rw [hb] at h; cases h
    | ok base => rw [hb] at h; exact .inr (.inr (.inl ⟨rfl, base, (Except.ok.inj h).symm⟩))
  · cases hb : MpesaProvider.build s with
    | error e => rw [hb] at h; cases h
    | ok host => rw [hb] at h; exact .inr (.inr (.inr (.inl ⟨rfl, host, (Except.ok.inj h).symm⟩)))
  · cases hb : BtcProvider.build s with
    | error e => rw [hb] at h; cases h
    | ok _ => rw [hb] at h; exact .inr (.inr (.inr (.inr ⟨rfl, (Except.ok.inj h).symm⟩)))
  · cases h

end

end Payments

end BridgeOfHope
