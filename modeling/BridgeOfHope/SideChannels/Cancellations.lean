import BridgeOfHope.Donations.Tracks
import BridgeOfHope.SideChannels

namespace BridgeOfHope

open Process Payments Donations
open Prog (Only)

namespace Subscriptions

variable {settings : Settings} {sub : Subscription}

theorem only_finishCancel : (finishCancel settings sub).Only (Inward settings) := by
  have hcommit : commit.Only (Inward settings) := only_commit trivial trivial
  refine .bind (.bind (.perform trivial) fun time => .bind (.bind (.perform trivial) fun _ => trivial) fun _ =>
    only_flush trivial) fun _ => .bind (only_scalar trivial trivial) fun found => ?_
  cases found with
  | none => exact hcommit.bind fun _ => trivial
  | some donor => exact .bind (only_sendEmail_inward _ _ _) fun _ => hcommit.bind fun _ => trivial

section

variable [Platform] {secretKey token : String}

theorem only_donorSubscriptions : (donorSubscriptions secretKey token).Only fun op =>
    ∀ (channels : SideChannels) ans, channels.Gives ⟨op, ans⟩ := by
  refine .bind (.perform fun _ _ => trivial) fun time => .bind .ofExcept fun verified => ?_
  cases verified with
  | none => trivial
  | some donorId => exact only_scalars (fun _ _ => trivial) fun _ _ => trivial

end

end Subscriptions

theorem Request.SameCancellation.refl {request : Request}
    (h : ∃ token, request.endpoint = .manageDelete token) :
    request.SameCancellation request := ⟨rfl, h, rfl, rfl, rfl, rfl, rfl⟩

theorem Request.SameCancellation.finishCancel {request request' : Request}
    (h : request.SameCancellation request') (sub : Subscription) :
    Subscriptions.finishCancel request'.settings.settings sub =
      Subscriptions.finishCancel request.settings.settings sub := by
  unfold Subscriptions.finishCancel sendEmail
  rw [h.emailProvider, h.smtpHost, h.emailFrom, h.emailReplyTo]

-- How it ends: the cancellation is committed, or nothing is.
inductive CancelEnds (settings : Settings) (sub : Subscription) (s : Session) : Prop
  | committed (time : Time) (hcommitted : s.committed = (Transaction.cancel sub time).stmts)
      (hmail : s.sent ≠ [] ∨ ⟨.query (.donorById sub.donorId), .ok []⟩ ∈ s.past)
  | failed (hcommitted : s.committed = [])
      (hcause : s.broken = true ∨ settings.mailsBySmtp = true ∧ s.sent = [])

section Served

variable [Platform] {settings : Settings} {sub : Subscription} {secretKey token : String} {s : Session}

theorem finishCancel_ends (h : Session.Writes {} s []) :
    (Subscriptions.finishCancel settings sub).Obeys client (fun _ _ => True)
    (fun s _ => CancelEnds settings sub s) s := by
  have herr {s' : Session} (hcommitted : s'.committed = []) (hbroken : s'.broken = true) :
      CancelEnds settings sub s' :=
    .failed hcommitted (.inl hbroken)
  refine obeys_seq (Ledger.obeys_cancelSubscriptionRow free_any (fun _ _ _ => trivial) (fun s₁ time h₁ => ?_)
    fun s' error h' hbroken => herr (h'.committed.trans h.committed) hbroken)
  have hs₁ := h.trans h₁
  have hfinish {s₂ : Session} (hcommitted : s₂.committed = [])
      (hpending : s₂.pending = (Transaction.cancel sub time).stmts)
      (hmail : s₂.sent ≠ [] ∨ ⟨.query (.donorById sub.donorId), .ok []⟩ ∈ s₂.past) :
      (do commit
          return ⟨200, .status "cancelled"⟩ : Act Response).Obeys client (fun _ _ => True)
        (fun s _ => CancelEnds settings sub s) s₂ := by
    refine obeys_seq (obeys_commit free_any (fun _ _ _ => trivial) (fun s₃ hcommitted₃ _ hsent₃ hpast₃ _ => ?_)
      fun s' error h' hbroken => herr (h'.committed.trans hcommitted) hbroken)
    rw [hcommitted, hpending] at hcommitted₃
    refine .committed time hcommitted₃ (hmail.imp (fun hsent => ?_) fun hmissing => hpast₃.subset hmissing)
    rw [hsent₃]
    exact hsent
  refine obeys_seq (obeys_scalar free_any (fun _ _ _ _ => trivial) (fun s₂ h₂ hmissing => ?_)
    (fun s₂ donor donors h₂ _ _ => ?_) fun s' error h' hbroken =>
      herr (h'.committed.trans hs₁.committed) hbroken)
  · have hs₂ := hs₁.trans_nil h₂
    exact hfinish hs₂.committed hs₂.pending (.inr hmissing)
  · have hs₂ := hs₁.trans_nil h₂
    refine obeys_seq (obeys_sendEmail_any (fun _ _ _ => trivial) (fun _ _ _ => trivial)
      (fun s₃ _ hpending hcommitted hsent => ?_) fun s' error hsmtp h' _ => ?_)
    · exact hfinish (hcommitted.trans hs₂.committed) (hpending.trans hs₂.pending) (.inl hsent)
    · have hs₃ := hs₂.toExtends.trans h'
      exact .failed hs₃.committed (.inr ⟨hsmtp, hs₃.sent⟩)

end Served

-- The tables and the open unit of work are the same.
structure SameWork (state state' : World × Session) : Prop where
  db : state'.1.db = state.1.db
  flushed : state'.2.flushed = state.2.flushed
  unflushed : state'.2.unflushed = state.2.unflushed
  broken : state'.2.broken = state.2.broken

theorem SameWork.symm {state state' : World × Session} (h : SameWork state state') : SameWork state' state :=
  ⟨h.db.symm, h.flushed.symm, h.unflushed.symm, h.broken.symm⟩

theorem SameWork.trans {state state' state'' : World × Session} (h : SameWork state state')
    (h' : SameWork state' state'') : SameWork state state'' :=
  ⟨h'.db.trans h.db, h'.flushed.trans h.flushed, h'.unflushed.trans h.unflushed, h'.broken.trans h.broken⟩

section Alone

variable [Platform] {state state' : World × Session}

theorem SameWork.step {op : Op} {ans : Ans op} (h : SameWork state state')
    (hsound : service.alone.sound state op ans) :
    service.alone.sound state' op ans ∧
      SameWork (service.alone.update state op ans) (service.alone.update state' op ans) := by
  obtain ⟨⟨db, rails⟩, ⟨unflushed, flushed, broken, committed, past⟩⟩ := state
  obtain ⟨⟨db', rails'⟩, ⟨unflushed', flushed', broken', committed', past'⟩⟩ := state'
  obtain ⟨hdb, hflushed, hunflushed, hbroken⟩ := h
  simp only at hdb hflushed hunflushed hbroken
  subst hdb hflushed hunflushed hbroken
  refine ⟨hsound, ?_⟩
  cases op with
  | flush => cases ans <;> exact ⟨rfl, rfl, rfl, rfl⟩
  | query _ => cases ans <;> exact ⟨rfl, rfl, rfl, rfl⟩
  | commit => cases ans <;> exact ⟨rfl, rfl, rfl, rfl⟩
  | stripeCheckout _ => cases ans <;> exact ⟨rfl, rfl, rfl, rfl⟩
  | stripeDelete _ => cases ans <;> exact ⟨rfl, rfl, rfl, rfl⟩
  | http _ => cases ans <;> exact ⟨rfl, rfl, rfl, rfl⟩
  | _ => exact ⟨rfl, rfl, rfl, rfl⟩

-- A call of a rail changes nothing of them, and it picks no row.
structure Beyond (state state' : World × Session) : Prop where
  work : SameWork state state'
  writes : state.2.Writes state'.2 []
  picked : state'.2.picked = state.2.picked

theorem Beyond.update {mid : World × Session} {op : Op} {ans : Ans op} (h : Beyond mid state)
    (houter : op.outer = true) :
    Beyond mid (service.alone.update state op ans) := by
  have hadvance : state.2.advance op ans = state.2 := advance_outer houter
  have hcommit : (⟨op, ans⟩ : Event) ≠ ⟨.commit, .ok ()⟩ := by
    intro hcommit
    cases hcommit
    cases houter
  have hquery : Event.picked ⟨op, ans⟩ = none := by
    cases op with
    | query _ => cases houter
    | _ => rfl
  refine ⟨⟨(effect_quiet hcommit).trans h.work.db, ?_, ?_, ?_⟩, h.writes.trans_nil (writes_outer houter), ?_⟩
  · exact (congrArg Session.flushed hadvance).trans h.work.flushed
  · exact (congrArg Session.unflushed hadvance).trans h.work.unflushed
  · exact (congrArg Session.broken hadvance).trans h.work.broken
  · rw [← h.picked]
    show List.filterMap Event.picked (⟨op, ans⟩ :: state.2.past) = _
    rw [List.filterMap_cons, hquery]
    rfl

theorem exec_tellRail {settings : Settings} {sub : Subscription} {result : Except Exn Unit}
    (hexec : (Subscriptions.tellRail settings sub).Exec service.alone state state' result) :
    result = .ok () ∧ Beyond state state' := by
  have hobeys : (Subscriptions.tellRail settings sub).Obeys service.alone (fun _ op => op.outer = true)
      (fun state' result => result = .ok () ∧ Beyond state state') state := by
    have hcalls : (do let provider ← Prog.ofExcept (getProvider sub.provider.value settings)
                      provider.cancelSubscription sub.providerSubscriptionId : Act Unit).Only
        fun op => op.outer = true := .bind .ofExcept fun provider => only_cancelSubscription provider _
    refine Prog.obeys_handle.mpr (hcalls.obeys (Beyond state) (fun _ _ _ h houter => h.update houter)
      (fun _ _ _ houter => houter) (fun mid result h => ?_) ⟨⟨rfl, rfl, rfl, rfl⟩, .refl _, rfl⟩)
    cases result with
    | ok _ => exact ⟨rfl, h⟩
    | error _ => exact ⟨rfl, h⟩
  exact hobeys.exec hexec

-- The program can end with the side channels as given.
theorem exists_exec_giving {α : Type} (channels : SideChannels) (program : Act α) (state : World × Session) :
    ∃ state' result, program.Exec service.alone state state' result ∧
      ∀ event ∈ state'.2.past, event ∈ state.2.past ∨ channels.Gives event := by
  induction program generalizing state with
  | ret value => exact ⟨state, _, .ret _ _, fun _ h => .inl h⟩
  | raise error => exact ⟨state, _, .raise _ _, fun _ h => .inl h⟩
  | call op next ih =>
      have hanswer : ∃ answer, service.alone.sound state op answer ∧ channels.Gives ⟨op, answer⟩ := by
        have hany : ∃ answer, service.alone.sound state op answer := exists_answer state op
        obtain ⟨answer, hsound⟩ := hany
        cases op with
        | smtp mail => exact ⟨channels.smtp mail, trivial, rfl⟩
        | stripeDelete id => exact ⟨channels.stripeDelete id, trivial, rfl⟩
        | http request => exact ⟨channels.http request, trivial, rfl⟩
        | _ => exact ⟨answer, hsound, trivial⟩
      obtain ⟨answer, hsound, hgives⟩ := hanswer
      obtain ⟨state', result, hexec, hpast⟩ := ih answer (service.alone.update state op answer)
      refine ⟨state', result, .call hsound hexec, fun event hevent => ?_⟩
      rcases hpast event hevent with hold | hgiven
      · rcases List.mem_cons.mp hold with rfl | hold
        · exact .inr hgives
        · exact .inl hold
      · exact .inr hgiven

-- The donor's open subscriptions are looked up, and nothing else is done.
inductive Looked (world : World) (state : World × Session) : Except Exn (List Subscription) → Prop
  | found {donorId : Uuid} {rows : List Subscription} (hdb : state.1.db = world.db)
    (hrows : rows.Perm ((Query.openSubscriptions donorId).select world.db))
      (hpicked : state.2.picked = rows.head?.toList) (hwrites : Session.Writes {} state.2 []) :
        Looked world state (.ok rows)
  | refused (error : Exn) (hdb : state.1.db = world.db) (hpicked : state.2.picked = [])
    (hsent : state.2.sent = []) :
      Looked world state (.error error)

theorem exec_donorSubscriptions {world : World} {secretKey token : String}
    {result : Except Exn (List Subscription)}
    (hexec : (Subscriptions.donorSubscriptions secretKey token).Exec service.alone (world, {}) state result) :
    Looked world state result := by
  rcases Prog.exec_bind.mp hexec with ⟨mid, time, hnow, hrest⟩ | ⟨error, hnow, rfl⟩
  · obtain ⟨_, -, rfl, -⟩ := Prog.exec_perform.mp hnow
    rcases Prog.exec_bind.mp hrest with ⟨mid, verified, hverify, hrest⟩ | ⟨error, hverify, rfl⟩
    · obtain ⟨rfl, -⟩ := Prog.exec_ofExcept.mp hverify
      cases verified with
      | none =>
          obtain ⟨rfl, rfl⟩ := Prog.exec_raise.mp hrest
          exact .refused _ rfl rfl rfl
      | some donorId =>
          rcases Prog.exec_bind.mp hrest with ⟨mid, value, hflush, hquery⟩ | ⟨error, hflush, rfl⟩
          · obtain ⟨-, rfl⟩ := exec_flush hflush rfl
            obtain ⟨answer, hanswer, hlast⟩ := Prog.exec_call.mp hquery
            obtain ⟨rfl, rfl⟩ := Prog.exec_ofExcept.mp hlast
            cases result with
            | ok rows =>
                refine .found rfl hanswer.2 ?_ ?_
                · cases rows <;> rfl
                · exact ⟨⟨List.nil_suffix, rfl, rfl⟩, rfl, rfl⟩
            | error error => exact .refused error rfl rfl rfl
          · obtain ⟨answer, hanswer, hlast⟩ := Prog.exec_call.mp hflush
            obtain ⟨rfl, hresult⟩ := Prog.exec_ofExcept.mp hlast
            rw [← hresult]
            exact .refused error rfl rfl rfl
    · obtain ⟨rfl, -⟩ := Prog.exec_ofExcept.mp hverify
      exact .refused _ rfl rfl rfl
  · obtain ⟨_, -, -, hresult⟩ := Prog.exec_perform.mp hnow
    cases hresult

-- The rest picks no other row, and all the mail is its own.
theorem exec_finishCancel {settings : Settings} {sub : Subscription} {result : Except Exn Response}
    (hexec : (Subscriptions.finishCancel settings sub).Exec service.alone state state' result)
    (hsent : state.2.sent = []) : state'.2.picked = state.2.picked ∧
      ∀ event ∈ state'.2.past, event.mail ≠ none → Inward settings event.op := by
  refine hexec.invariant (fun mid => mid.2.picked = state.2.picked ∧
    ∀ event ∈ mid.2.past, event.mail ≠ none → Inward settings event.op) ?_
    Subscriptions.only_finishCancel.obeys_any ⟨rfl, fun event hevent hmail =>
      absurd (List.filterMap_eq_nil_iff.mp hsent event hevent) hmail⟩
  rintro mid op ans ⟨h, hmails⟩ hop -
  refine ⟨?_, fun event hevent hmail => ?_⟩
  swap
  · rcases List.mem_cons.mp hevent with rfl | hold
    · exact hop
    · exact hmails event hold hmail
  have hnone : Event.picked ⟨op, ans⟩ = none := by
    cases op with
    | query query => cases query with
      | openSubscriptions _ => exact hop.elim
      | _ => rfl
    | _ => rfl
  rw [← h]
  show List.filterMap Event.picked (⟨op, ans⟩ :: mid.2.past) = _
  rw [List.filterMap_cons, hnone]
  rfl

-- How a cancellation goes: it changes nothing, or it is about the row it picked.
inductive CancelCourse (settings : Settings) (world : World) (state : World × Session) : Prop
  | quiet (hdb : state.1.db = world.db) (hpicked : state.2.picked = []) (hsent : state.2.sent = [])
  | about {donorId : Uuid} (sub : Subscription) (hsub : sub ∈ (Query.openSubscriptions donorId).select world.db)
      (hpicked : state.2.picked = [sub]) (hends : CancelEnds settings sub state.2)
      (hmails : ∀ event ∈ state.2.past, event.mail ≠ none → Inward settings event.op)

theorem exec_cancel {world : World} {settings : Settings} {token : String} {result : Except Exn Response}
    (hexec : (Subscriptions.cancel settings token).Exec service.alone (world, {}) state result) :
    CancelCourse settings world state := by
  rw [Subscriptions.cancel_eq] at hexec
  rcases Prog.exec_bind.mp hexec with ⟨mid, rows, hlook, hrest⟩ | ⟨error, hlook, -⟩
  · cases exec_donorSubscriptions hlook with
    | found hdb hrows hpicked hwrites =>
        cases rows with
        | nil =>
            obtain ⟨rfl, -⟩ := Prog.exec_raise.mp hrest
            exact .quiet hdb hpicked hwrites.sent
        | cons sub rows =>
            rcases Prog.exec_bind.mp hrest with ⟨mid', value, htell, hfinish⟩ | ⟨error, htell, -⟩
            · obtain ⟨-, hbeyond⟩ := exec_tellRail htell
              have hends := (System.obeys_alone
                (finishCancel_ends (hwrites.trans_nil hbeyond.writes))).exec hfinish
              obtain ⟨hsame, hmails⟩ := exec_finishCancel hfinish (hwrites.trans_nil hbeyond.writes).sent
              refine .about sub (hrows.subset List.mem_cons_self) ?_ hends hmails
              rw [hsame, hbeyond.picked, hpicked]
              rfl
            · cases (exec_tellRail htell).1
  · cases exec_donorSubscriptions hlook with
    | refused _ hdb hpicked hsent => exact .quiet hdb hpicked hsent

end Alone

section Requests

variable [Platform] {channels channels' : SideChannels} {world : World} {request request' : Request}
    {token : String}
  {state : World × Session} {result : Except Exn Response}

theorem Request.handler_delete (h : request.endpoint = .manageDelete token) :
    request.handler = Subscriptions.cancel request.settings.settings token := by
  unfold Request.handler
  rw [h]

-- What follows the rail's answer can go the same way after any other answer.
theorem exec_alongside {α : Type} {settings : Settings} {program : Act α} {mid mid' : World × Session}
    {result : Except Exn α} (honly : program.Only (Inward settings)) (hmail : settings.mailsBySmtp = false)
    (hexec : program.Exec service.alone mid state result) (hwork : SameWork mid mid')
    (hgiven : ∀ event ∈ mid'.2.past, channels.Gives event) :
    ∃ state', program.Exec service.alone mid' state' result ∧ SameWork state state' ∧
      ∀ event ∈ state'.2.past, channels.Gives event := by
  refine Prog.Exec.simulate (R := fun state state' => SameWork state state' ∧
    ∀ event ∈ state'.2.past, channels.Gives event) ?_ honly.obeys_any hexec ⟨hwork, hgiven⟩
  rintro state state' op ans ⟨hwork, hgiven⟩ hop hsound
  obtain ⟨hsound', hwork'⟩ := hwork.step hsound
  refine ⟨hsound', hwork', fun event hevent => ?_⟩
  rcases List.mem_cons.mp hevent with rfl | hold
  · exact hop.gives hmail channels ans
  · exact hgiven event hold

theorem serves_cancel (hrequest : request.endpoint = .manageDelete token)
    (h : service.Serves world request state result) : CancelCourse request.settings.settings world state := by
  have hexec : request.handler.Exec service.alone (world, {}) state result := h
  rw [Request.handler_delete hrequest] at hexec
  exact exec_cancel hexec

theorem cancel_leads (hrequest : request.endpoint = .manageDelete token)
    (hmail : request.settings.settings.mailsBySmtp = false) (hsame : request.SameCancellation request')
    (hcourse : Course channels world request state result) : Leads channels' world request' state.1.db := by
  have hexec : (Subscriptions.cancel request.settings.settings token).Exec service.alone (world, {})
      state result :=
    Request.handler_delete hrequest ▸ hcourse.serves
  suffices h : ∃ state' result',
      (Subscriptions.cancel request'.settings.settings token).Exec service.alone (world, {})
      state' result' ∧ state'.1.db = state.1.db ∧ state'.2.broken = state.2.broken ∧
        ∀ event ∈ state'.2.past, channels'.Gives event by
    obtain ⟨state', result', hexec', hdb, hbroken, hgiven⟩ := h
    have hserves : service.Serves world request' state' result' := by
      show request'.handler.Exec service.alone (world, {}) state' result'
      rw [Request.handler_delete (hsame.endpoint.trans hrequest)]
      exact hexec'
    exact ⟨state', result', ⟨hserves, hbroken.trans hcourse.database, hgiven⟩, hdb⟩
  rw [Subscriptions.cancel_eq] at hexec ⊢
  rw [hsame.secretKey]
  have hlooked {mid : World × Session} {rows : Except Exn (List Subscription)}
      (hlook : (Subscriptions.donorSubscriptions request.settings.settings.secretKey token).Exec
        service.alone (world, {})
        mid rows) : ∀ event ∈ mid.2.past, channels'.Gives event :=
    gives_of_obeys (fun _ _ hop => hop channels')
      Subscriptions.only_donorSubscriptions.obeys_any hlook (by simp)
  rcases Prog.exec_bind.mp hexec with ⟨mid, rows, hlook, hrest⟩ | ⟨error, hlook, hresult⟩
  · cases rows with
    | nil =>
        obtain ⟨rfl, hresult⟩ := Prog.exec_raise.mp hrest
        exact ⟨state, result, Prog.exec_bind.mpr (.inl ⟨state, [], hlook, hrest⟩), rfl, rfl, hlooked hlook⟩
    | cons sub rows =>
        rcases Prog.exec_bind.mp hrest with ⟨mid₁, value, htell, hfinish⟩ | ⟨error, htell, -⟩
        · obtain ⟨mid₂, result₂, htell₂, hpast⟩ := exists_exec_giving channels'
            (Subscriptions.tellRail request'.settings.settings sub) mid
          obtain ⟨-, hbeyond⟩ := exec_tellRail htell
          obtain ⟨rfl, hbeyond₂⟩ := exec_tellRail htell₂
          have hgiven₂ : ∀ event ∈ mid₂.2.past, channels'.Gives event :=
            fun event hevent => (hpast event hevent).elim (hlooked hlook event) id
          obtain ⟨state', hfinish', hwork, hgiven⟩ :=
            exec_alongside Subscriptions.only_finishCancel hmail hfinish
            (hbeyond.work.symm.trans hbeyond₂.work) hgiven₂
          refine ⟨state', result, Prog.exec_bind.mpr (.inl ⟨mid, sub :: rows, hlook, Prog.exec_bind.mpr
            (.inl ⟨mid₂, (), htell₂, ?_⟩)⟩), hwork.db, hwork.broken, hgiven⟩
          rw [hsame.finishCancel]
          exact hfinish'
        · cases (exec_tellRail htell).1
  · exact ⟨state, result, Prog.exec_bind.mpr (.inr ⟨error, hlook, hresult⟩), rfl, rfl, hlooked hlook⟩

end Requests

end BridgeOfHope
