import BridgeOfHope.Conduct
import BridgeOfHope.Ledger.Lemmas
import BridgeOfHope.Payments.Lemmas
import BridgeOfHope.Transactions.Lemmas

namespace BridgeOfHope

open Process

theorem Announces.stmts_ne_nil {request : Request} {s : Session} {mail : Mail}
    {transaction : Transaction} (h : Announces request s mail transaction) :
    transaction.stmts ≠ [] := by
  cases h <;> simp [Transaction.stmts, Settlement.stmts]

theorem Announces.earlier {request : Request} {s : Session} {mail : Mail} {transaction : Transaction}
    (h : Announces request s mail transaction) : transaction.earlier = [] := by
  cases h <;> rfl

variable [Platform] {request : Request} {s : Session}

theorem Ready.mono {s' : Session} {transaction : Transaction} (h : Ready request s transaction)
    (hw : s.Writes s' []) : Ready request s' transaction where
  pending := by rw [hw.pending, List.append_nil, h.pending]
  committed := hw.committed.trans h.committed
  broken := hw.broken.trans h.broken
  licensed := h.licensed.mono hw.past
  announced mail hmail := (h.announced mail (hw.sent ▸ hmail)).mono hw.past

theorem Told.mono {settings : Settings} {subscription : Subscription} {s' : Session}
    (h : Told settings subscription s) (hpast : s.past <:+ s'.past) :
    Told settings subscription s' := by
  unfold Told at *
  split at h
  · exact hpast.subset h
  · split at h
    · obtain ⟨answer, hmem⟩ := h
      exact ⟨answer, hpast.subset hmem⟩
    · trivial
  · trivial

theorem obeys_commit_ready (transaction : Transaction) (hready : Ready request s transaction)
    {after : Session → Except Exn Unit → Prop}
    (hok : ∀ s', s'.committed = transaction.earlier ++ transaction.stmts → s'.pending = [] →
      s'.sent = s.sent → s.past <:+ s'.past → s'.broken = false → after s' (.ok ()))
    (herr : ∀ s' error, s'.broken = true → after s' (.error error)) :
    commit.Obeys client (Permits request) after s := by
  refine obeys_commit (free_permits request) (fun s' h hu => ⟨hu, _, hready.mono h⟩)
    (fun s' hc hp hs hpast hb => ?_) fun s' error _ hb => herr s' error hb
  exact hok s' (by rw [hc, hready.committed, hready.pending]) hp hs hpast (hb.trans hready.broken)

-- A request that fails before it sends a mail.
theorem concludes_error (hwebhook : request.isWebhook = false) (error : Exn) (h : s.sent = []) :
    Concludes request s (.error error) := by
  refine ⟨fun hsent => absurd h hsent, fun args _ _ hdelivery => ?_⟩
  rw [delivery_eq_none hwebhook] at hdelivery
  cases hdelivery

theorem concludes_broken (error : Exn) (h : s.broken = true) : Concludes request s (.error error) :=
  ⟨fun _ => h, fun _ _ _ _ _ _ => h⟩

theorem permits_outer (s : Session) (op : Op) (h : op.outer = true) : Permits request s op := by
  cases op with
  | record entry => cases entry with
    | testSubscribed _ _ _ | checkout _ _ => cases h
    | _ => trivial
  | commit | smtp _ | log _ | query _ => cases h
  | _ => trivial

-- A mail is sent at most once, by a request whose transaction is complete.
theorem obeys_sendEmail {settings : Settings} {to_ subject : String} {template : Template}
    {transaction : Transaction} (hready : Ready request s transaction) (hsent : s.sent = [])
    (hannounce : ∀ mail : Mail, mail.to_ = to_ → mail.template = template →
      Announces request s mail transaction)
    {after : Session → Except Exn Unit → Prop}
    (hok : ∀ s', Ready request s' transaction → s'.sent ≠ [] → s.past <:+ s'.past → after s' (.ok ()))
    (herr : ∀ s' error, s.Extends s' → after s' (.error error)) :
    (sendEmail settings to_ subject template).Obeys client (Permits request) after s := by
  have hready' (op : Op) (ans : Ans op) (mail : Mail) (hadvance : s.advance op ans = s)
      (hmail : Event.mail ⟨op, ans⟩ = some mail) (ha : Announces request s mail transaction) :
      Ready request (s.update op ans) transaction ∧ (s.update op ans).sent ≠ [] := by
    have hpast : s.past <:+ (s.update op ans).past := List.suffix_cons _ _
    have hout : (s.update op ans).sent = [mail] := by
      simp only [Session.sent, Session.update, List.filterMap_cons, hmail]
      exact congrArg _ hsent
    refine ⟨⟨?_, ?_, ?_, hready.licensed.mono hpast, fun m hm => ?_⟩, by simp [hout]⟩
    · simpa only [Session.pending, Session.update, hadvance] using hready.pending
    · simpa only [Session.update, hadvance] using hready.committed
    · simpa only [Session.update, hadvance] using hready.broken
    · rw [hout, List.mem_singleton] at hm
      exact hm ▸ ha.mono hpast
  have ha := hannounce ⟨to_, subject, template, settings.emailFrom, settings.emailReplyTo⟩ rfl rfl
  unfold sendEmail
  split
  · refine obeys_seq ⟨⟨hsent, _, hready, ha⟩, fun answer _ => ?_⟩
    cases answer with
    | ok _ =>
        obtain ⟨hr, hs⟩ := hready' (.smtp _) (.ok ()) _ rfl rfl ha
        exact hok _ hr hs (List.suffix_cons _ _)
    | error error => exact herr _ error (Session.extends_update rfl rfl)
  · refine ⟨⟨hsent, _, hready, ha⟩, fun answer _ => ?_⟩
    obtain ⟨hr, hs⟩ := hready' (.log _) () _ rfl rfl ha
    exact hok _ hr hs (List.suffix_cons _ _)

end BridgeOfHope
