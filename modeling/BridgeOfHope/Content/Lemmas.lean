import BridgeOfHope.Conduct.Lemmas

namespace BridgeOfHope

open Process Donations

variable [Platform] {request : Request} {s : Session}

namespace Content

-- The last step of these handlers: one commit, and an answer.
theorem obeys_commit_last (transaction : Transaction) {stmts : List Stmt} {response : Response}
    (hs : Session.Writes {} s stmts) (hstmts : stmts = transaction.stmts)
    (hearlier : transaction.earlier = []) (hlicensed : Licensed request s transaction)
    (hresponse : ∀ s' : Session, s'.sent = [] → s'.pending = [] → Concludes request s' (.ok response)) :
    (do commit
        return response : Act Response).Obeys client (Permits request) (Concludes request) s := by
  refine obeys_seq (obeys_commit_ready transaction ⟨hs.pending.trans hstmts, hs.committed.trans hearlier.symm,
    hs.broken, hlicensed, by simp [show s.sent = [] from hs.sent]⟩ (fun s' _ hp hsent _ _ => ?_)
    fun s' error hb => concludes_broken error hb)
  exact hresponse s' (hsent.trans hs.sent) hp

theorem subscribe_obeys {body : NewsletterSubscribe}
    (hrequest : request.endpoint = .newsletterSubscribe body) :
    (subscribe body).Obeys client (Permits request) (Concludes request) {} := by
  have hfree := free_permits request
  have hwebhook : request.isWebhook = false := by simp [Request.isWebhook, hrequest]
  have hpush (s' : Session) (stmt : Stmt) := (permits_writes hwebhook).push s' stmt
  have hresponse (s' : Session) (hsent : s'.sent = []) (hp : s'.pending = []) :
      Concludes request s' (.ok ⟨200, .status "subscribed"⟩) :=
    ⟨fun hne => absurd hsent hne, hp, by rw [hrequest]; trivial⟩
  refine obeys_seq (obeys_scalar hfree (fun s' h hu _ => ?_) (fun s₁ h₁ _ => ?_)
    (fun s₁ donor donors h₁ _ _ => ?_) fun s' error h _ => concludes_error hwebhook error h.sent)
  · exact ⟨by simp [h.flushed hu, Session.pending], trivial⟩
  · refine obeys_seq (obeys_now hfree fun s₂ time h₂ => obeys_seq (obeys_uuid7 hfree fun s₃ id h₃ =>
      obeys_seq (obeys_add (hpush _ _) fun s₄ h₄ => ?_)))
    exact obeys_commit_last (.donor ⟨_, true, none⟩)
      ((h₁.trans h₂).trans (h₃.trans h₄)) rfl rfl (.subscriber hrequest) hresponse
  · refine obeys_seq (obeys_now hfree fun s₂ time h₂ => obeys_seq (obeys_seq
      (obeys_add (hpush _ _) fun s₃ h₃ => ?_)))
    exact obeys_commit_last (.donor ⟨donor, false, some _⟩)
      ((h₁.trans h₂).trans h₃) rfl rfl (.subscriber hrequest) hresponse

theorem unsubscribe_obeys {donorId : String}
    (hrequest : request.endpoint = .newsletterUnsubscribe donorId) :
    (unsubscribe donorId).Obeys client (Permits request) (Concludes request) {} := by
  have hfree := free_permits request
  have hwebhook : request.isWebhook = false := by simp [Request.isWebhook, hrequest]
  have hpush (s' : Session) (stmt : Stmt) := (permits_writes hwebhook).push s' stmt
  have hresponse (s' : Session) (hsent : s'.sent = []) (hp : s'.pending = []) :
      Concludes request s' (.ok ⟨200, .status "unsubscribed"⟩) :=
    ⟨fun hne => absurd hsent hne, hp, by rw [hrequest]; trivial⟩
  refine obeys_seq (obeys_ofExcept ?_)
  cases Platform.pgUuid donorId with
  | error error => exact concludes_error hwebhook error rfl
  | ok id =>
      refine obeys_seq (obeys_scalar hfree (fun s' h hu _ => ?_) (fun s₁ h₁ _ => ?_)
        (fun s₁ donor donors h₁ _ _ => ?_) fun s' error h _ => concludes_error hwebhook error h.sent)
      · exact ⟨by simp [h.flushed hu, Session.pending], trivial⟩
      · exact hresponse s₁ h₁.sent h₁.pending
      · refine obeys_seq (obeys_seq (obeys_add (hpush _ _) fun s₂ h₂ => ?_))
        exact obeys_commit_last (.donor ⟨donor, false, some _⟩) (h₁.trans h₂) rfl rfl
          (.unsubscriber hrequest rfl) hresponse

theorem createDataRequest_obeys {body : DataRequestCreate}
    (hrequest : request.endpoint = .dataRequest body) :
    (createDataRequest body).Obeys client (Permits request) (Concludes request) {} := by
  have hfree := free_permits request
  have hwebhook : request.isWebhook = false := by simp [Request.isWebhook, hrequest]
  have hpush (s' : Session) (stmt : Stmt) := (permits_writes hwebhook).push s' stmt
  have herr (s' : Session) (error : Exn) (h : Session.Extends {} s') :
      Concludes request s' (.error error) := concludes_error hwebhook error h.sent
  refine obeys_seq (obeys_scalar hfree (fun s' h hu _ => ?_) (fun s₁ h₁ _ => ?_)
    (fun s₁ donor donors h₁ _ _ => ?_) fun s' error h _ => herr s' error h)
  · exact ⟨by simp [h.flushed hu, Session.pending], trivial⟩
  · exact herr s₁ ⟨.httpException 404, "No donor record found for that email"⟩ h₁.toExtends
  · refine obeys_seq (obeys_ofExcept ?_)
    cases DataRequestType.ofString body.type with
    | error error => exact herr s₁ error h₁.toExtends
    | ok type =>
        refine obeys_seq (obeys_now hfree fun s₂ time h₂ => obeys_seq (obeys_uuid7 hfree
          fun s₃ id h₃ => obeys_seq (obeys_add (hpush _ _) fun s₄ h₄ => ?_)))
        exact obeys_commit_last (.dataRequest _) ((h₁.trans h₂).trans (h₃.trans h₄))
          rfl rfl (.dataRequest hrequest) fun s' hsent hp =>
            ⟨fun hne => absurd hsent hne, hp, by rw [hrequest]; trivial⟩

end Content

end BridgeOfHope
