import BridgeOfHope.Admin.Conduct

namespace BridgeOfHope.Admin

open Process

-- What the strings that `dumps` has produced go back to.

section Effect

variable {world : World}

theorem clock_le_effect (op : Op) (reply : Reply op) : world.clock ≤ (effect world op reply).clock := by
  cases op with
  | pass duration => exact Nat.le_add_right _ _
  | commit stmt => cases reply <;> exact le_rfl
  | _ => exact le_rfl

theorem signed_effect (op : Op) (reply : Reply op) : (effect world op reply).signed = world.signed ∨
    ∃ secretKey salt data token,
      (⟨op, (world.clock, reply)⟩ : Event) = ⟨.dumps secretKey salt data, (world.clock, token)⟩ ∧
        (effect world op reply).signed =
          ⟨secretKey, salt, data, token, world.clock.seconds⟩ :: world.signed := by
  cases op with
  | dumps secretKey salt data => exact .inr ⟨secretKey, salt, data, reply, rfl, rfl⟩
  | commit stmt => cases reply <;> exact .inl rfl
  | _ => exact .inl rfl

theorem signed_mono (op : Op) (reply : Reply op) {signed : Signed} (h : signed ∈ world.signed) :
    signed ∈ (effect world op reply).signed := by
  rcases @signed_effect world op reply with heq | ⟨secretKey, salt, data, token, -, heq⟩
  · rwa [heq]
  · rw [heq]
    exact List.mem_cons_of_mem _ h

end Effect

section Runs

variable [Platform] [Credentials]

-- The request that had the string signed, and when: a login for an admin that had
-- passed by then, or a link for a donor.
def Origin (pool : AdminPool) (signed : Signed) : Prop :=
  ∃ t ∈ pool.threads, ∃ time, Time.seconds time = signed.seconds ∧
    signed.secretKey = t.req.settings.secretKey ∧
    ⟨.dumps signed.secretKey signed.salt signed.data, (time, signed.token)⟩ ∈ t.loc ∧
    ((∃ admin, Passed t.req t.loc admin time ∧ signed.salt = adminSession.salt ∧
      signed.data = adminSession.payload admin.id) ∨
    ∃ donorId, t.req.endpoint = .manageToken donorId ∧ signed.salt = donorManage.salt ∧
      signed.data = donorManage.payload donorId)

structure Sealed (pool : AdminPool) : Prop where
  unique : ∀ signed ∈ pool.shared.signed, ∀ signed' ∈ pool.shared.signed,
    signed.token = signed'.token → signed = signed'
  origin : ∀ signed ∈ pool.shared.signed, Origin pool signed
  timely : ∀ t ∈ pool.threads, ∀ e ∈ t.loc, e.ans.1 ≤ pool.shared.clock
  opened : ∀ t ∈ pool.threads, ∀ secretKey salt token maxAge time data,
    ⟨.loads secretKey salt token maxAge, (time, .ok data)⟩ ∈ t.loc →
      ∃ signed ∈ pool.shared.signed, signed.opens secretKey salt token maxAge (Time.seconds time) = true ∧
        signed.data = data

theorem Passed.mono {request : Request} {s s' : Session} {admin : AdminUser} {time time' : Time}
    (h : Passed request s admin time) (hsub : ∀ e ∈ s, e.ans.1 ≤ time → e ∈ s' ∧ e.ans.1 ≤ time') :
    Passed request s' admin time' := by
  obtain ⟨client, body, hrequest, ⟨t₁, ht₁, h₁⟩, ⟨t₂, ht₂, h₂⟩, hactive, hpassword, secret, hsecret,
    hgiven, t₃, ht₃, h₃, htotp⟩ := h
  obtain ⟨h₁, ht₁⟩ := hsub _ h₁ ht₁
  obtain ⟨h₂, ht₂⟩ := hsub _ h₂ ht₂
  obtain ⟨h₃, ht₃⟩ := hsub _ h₃ ht₃
  exact ⟨client, body, hrequest, ⟨t₁, ht₁, h₁⟩, ⟨t₂, ht₂, h₂⟩, hactive, hpassword, secret, hsecret,
    hgiven, t₃, ht₃, h₃, htotp⟩

variable {pool pool' : AdminPool} {move : AdminMove} {world : World}

theorem Origin.later {signed : Signed} (h : Origin pool signed) (hmove : service.Step pool move pool') :
    Origin pool' signed := by
  obtain ⟨t, ht, time, hseconds, hsecret, hmem, hcase⟩ := h
  obtain ⟨k, hk⟩ := List.mem_iff_getElem?.mp ht
  obtain ⟨t', hk', hreq, hloc⟩ := hmove.get_later (R := fun s s' => ∀ e ∈ s, e ∈ s')
    (fun _ _ h => h) (fun _ _ h => h) (fun _ _ _ _ _ _ _ h => List.mem_cons_of_mem _ h) hk
  refine ⟨t', List.mem_of_getElem? hk', time, hseconds, hreq ▸ hsecret, hloc _ hmem, ?_⟩
  rw [hreq]
  refine hcase.imp_left fun ⟨admin, hpassed, hrest⟩ => ⟨admin, ?_, hrest⟩
  exact hpassed.mono fun e he htime => ⟨hloc e he, htime⟩

theorem Sealed.initial (h : world.signed = []) : Sealed ⟨world, []⟩ := by
  refine ⟨?_, ?_, by simp, by simp⟩ <;> simp [h]

-- No string is signed twice for different data.
theorem Sealed.unique_step (h : Sealed pool) (hmove : service.Step pool move pool') :
    ∀ signed ∈ pool'.shared.signed, ∀ signed' ∈ pool'.shared.signed, signed.token = signed'.token →
      signed = signed' := by
  cases hmove with
  | @act shared threads i request s op next ans hthread hanswer =>
      obtain ⟨time, reply⟩ := ans
      obtain ⟨rfl, hpossible⟩ := hanswer
      rcases @signed_effect shared op reply with heq | ⟨secretKey, salt, data, token, hop, heq⟩
      · show ∀ signed ∈ (effect shared op reply).signed, ∀ signed' ∈ (effect shared op reply).signed, _
        rw [heq]
        exact h.unique
      · cases hop
        intro signed hsigned signed' hsigned' htoken
        rcases List.mem_cons.mp hsigned with rfl | hold
        · rcases List.mem_cons.mp hsigned' with rfl | hold'
          · rfl
          · exact (hpossible signed' hold' htoken.symm).symm
        · rcases List.mem_cons.mp hsigned' with rfl | hold'
          · exact hpossible signed hold htoken
          · exact h.unique signed hold signed' hold' htoken
  | _ => exact h.unique

section

variable (hproper : ∀ t ∈ pool.threads, service.Obedient Permits Concludes t)

include hproper

theorem Sealed.origin_step (h : Sealed pool) (hmove : service.Step pool move pool') :
    ∀ signed ∈ pool'.shared.signed, Origin pool' signed := by
  intro signed hsigned
  have hold (hmem : signed ∈ pool.shared.signed) : Origin pool' signed := (h.origin signed hmem).later hmove
  cases hmove with
  | @act shared threads i request s op next ans hthread hanswer =>
      obtain ⟨time, reply⟩ := ans
      obtain ⟨rfl, -⟩ := hanswer
      have hmem := List.mem_of_getElem? hthread
      have hpermits := (hproper _ hmem).1
      rcases @signed_effect shared op reply with heq | ⟨secretKey, salt, data, token, hop, heq⟩
      · exact hold (heq ▸ hsigned)
      · cases hop
        rcases List.mem_cons.mp hsigned with rfl | hmem'
        · obtain ⟨hsecret, hcase⟩ := hpermits
          refine ⟨⟨request, _, _⟩, List.mem_of_getElem? (List.getElem?_set_self
            (List.getElem?_eq_some_iff.mp hthread).1), shared.clock, rfl, hsecret, List.mem_cons_self, ?_⟩
          refine hcase.imp_left fun ⟨admin, time, hpassed, hsalt, hdata⟩ => ⟨admin, ?_, hsalt, hdata⟩
          exact hpassed.mono fun e he _ => ⟨List.mem_cons_of_mem _ he, h.timely _ hmem e he⟩
        · exact hold hmem'
  | _ => exact hold hsigned

theorem Sealed.timely_step (h : Sealed pool) (hmove : service.Step pool move pool') :
    ∀ t ∈ pool'.threads, ∀ e ∈ t.loc, e.ans.1 ≤ pool'.shared.clock := by
  refine hmove.forall_threads hproper (P := fun world _ s => ∀ e ∈ s, e.ans.1 ≤ world.clock)
    (fun _ _ e he => (nomatch he)) (fun _ _ hs => hs) ?_ ?_ h.timely
  · rintro i t op ans - - - henabled hs e he
    rcases List.mem_cons.mp he with rfl | he
    · exact henabled.1.le.trans (clock_le_effect op ans.2)
    · exact (hs e he).trans (clock_le_effect op ans.2)
  · exact fun _ _ op ans _ _ _ _ _ hs e he => (hs e he).trans (clock_le_effect op ans.2)

theorem Sealed.opened_step (h : Sealed pool) (hmove : service.Step pool move pool') :
    ∀ t ∈ pool'.threads, ∀ secretKey salt token maxAge time data,
      ⟨.loads secretKey salt token maxAge, (time, .ok data)⟩ ∈ t.loc → ∃ signed ∈ pool'.shared.signed,
        signed.opens secretKey salt token maxAge (Time.seconds time) = true ∧ signed.data = data := by
  refine hmove.forall_threads hproper (P := fun world _ s => ∀ secretKey salt token maxAge time data,
    ⟨.loads secretKey salt token maxAge, (time, .ok data)⟩ ∈ s → ∃ signed ∈ world.signed,
      signed.opens secretKey salt token maxAge (Time.seconds time) = true ∧ signed.data = data)
    (fun _ _ _ _ _ _ _ _ he => (nomatch he)) (fun _ _ hs => hs) ?_ ?_ h.opened
  · rintro i t op ans - - - henabled hs secretKey salt token maxAge time data he
    rcases List.mem_cons.mp he with hnew | he
    · cases hnew
      obtain ⟨rfl, hpossible⟩ := henabled
      exact hpossible
    · obtain ⟨signed, hsigned, hopens⟩ := hs secretKey salt token maxAge time data he
      exact ⟨signed, signed_mono op ans.2 hsigned, hopens⟩
  · intro _ _ op ans _ _ _ _ _ hs secretKey salt token maxAge time data he
    obtain ⟨signed, hsigned, hopens⟩ := hs secretKey salt token maxAge time data he
    exact ⟨signed, signed_mono op ans.2 hsigned, hopens⟩

theorem Sealed.step (h : Sealed pool) (hmove : service.Step pool move pool') : Sealed pool' :=
  ⟨h.unique_step hmove, h.origin_step hproper hmove, h.timely_step hproper hmove, h.opened_step hproper hmove⟩

end

theorem sealed_run {allow : AdminPool → AdminMove → Prop} (hworld : world.signed = [])
    (hrun : service.Run allow ⟨world, []⟩ pool) :
    Sealed pool ∧ ∀ t ∈ pool.threads, service.Obedient Permits Concludes t :=
  hrun.invariant_of_obeys handler_obeys (.initial hworld) (by simp)
    fun _ _ _ h hproper _ hmove => h.step hproper hmove

-- The cookie of a request goes back to a login for the admin, on the same secret,
-- that had passed when its token was signed, and the token was not too old when
-- the request was looked at.
def Backed (pool : AdminPool) (t : AdminThread) (admin : AdminUser) : Prop :=
  ∃ token data signedAt verifiedAt, t.req.cookie = some token ∧
    ⟨.loads t.req.settings.secretKey adminSession.salt token adminSession.maxAge,
      (verifiedAt, .ok data)⟩ ∈ t.loc ∧
    (∃ t' ∈ pool.threads, ∃ row, row.id = admin.id ∧ Passed t'.req t'.loc row signedAt ∧
      ⟨.dumps t.req.settings.secretKey adminSession.salt data, (signedAt, token)⟩ ∈ t'.loc) ∧
    Time.seconds signedAt ≤ Time.seconds verifiedAt ∧
    Time.seconds verifiedAt ≤ Time.seconds signedAt + adminSession.maxAge

theorem backed_of_presents (h : Sealed pool) {t : AdminThread} (ht : t ∈ pool.threads) {admin : AdminUser}
    (hpresents : Presents t.req t.loc admin.id) : Backed pool t admin := by
  obtain ⟨token, data, time, htoken, hmem, hsubject⟩ := hpresents
  obtain ⟨signed, hsigned, hopens, rfl⟩ := h.opened t ht _ _ _ _ _ _ hmem
  simp only [Signed.opens, Bool.and_eq_true, decide_eq_true_eq] at hopens
  obtain ⟨⟨⟨⟨hsecret, hsalt⟩, rfl⟩, hage⟩, hage'⟩ := hopens
  obtain ⟨t', ht', signedAt, hseconds, -, hdumps, ⟨row, hpassed, -, hdata⟩ | ⟨_, -, hmanage, -⟩⟩ :=
    h.origin signed hsigned
  · rw [hsecret, hsalt] at hdumps
    rw [hdata, adminSession.subject_payload] at hsubject
    refine ⟨_, _, signedAt, time, htoken, hmem, ⟨t', ht', row, ?_, hpassed, hdumps⟩, ?_, ?_⟩
    · simpa using hsubject
    · rw [hseconds]
      exact hage
    · rw [hseconds]
      exact hage'
  · exact absurd (hsalt.symm.trans hmanage) (by decide)

-- What `verify` makes of the answer of the serializer.
theorem exec_verify {kind : TokenKind} {secretKey token : String} {state state' : World × Session}
    {result : Except Exn (Option Uuid)}
    (h : (kind.verify secretKey token).Exec service.alone state state' result) :
    ∃ loaded, possible state.1 (.loads secretKey kind.salt token kind.maxAge) loaded ∧
      result = kind.subject loaded := by
  rcases Prog.exec_bind.mp h with ⟨mid, loaded, hask, hread⟩ | ⟨error, hask, rfl⟩
  · obtain ⟨reply, hpossible, rfl, hreply⟩ := exec_ask.mp hask
    cases hreply
    exact ⟨_, hpossible, (Prog.exec_ofExcept.mp hread).2⟩
  · obtain ⟨_, _, _, hreply⟩ := exec_ask.mp hask
    cases hreply

-- A string that was signed for one kind is no token of the other kind, and every
-- answer of the serializer is dealt with.
theorem Sealed.verify (h : Sealed pool) {kind other : TokenKind}
    (hkinds : (kind = adminSession ∧ other = donorManage) ∨ (kind = donorManage ∧ other = adminSession))
    {secretKey token : String} {s : Session} {state : World × Session}
    {result : Except Exn (Option Uuid)}
    (hexec : (kind.verify secretKey token).Exec service.alone (pool.shared, s) state result) :
    (∃ found, result = .ok found) ∧
      ∀ signed ∈ pool.shared.signed, signed.salt = other.salt → signed.token = token → result = .ok none := by
  obtain ⟨loaded, hpossible, rfl⟩ := exec_verify hexec
  cases loaded with
  | error error =>
      have hnone : kind.subject (.error error) = .ok none := if_pos hpossible.1
      exact ⟨⟨none, hnone⟩, fun _ _ _ _ => hnone⟩
  | ok data =>
      obtain ⟨signed, hsigned, hopens, rfl⟩ := hpossible
      simp only [Signed.opens, Bool.and_eq_true, decide_eq_true_eq] at hopens
      obtain ⟨⟨⟨⟨-, hsalt⟩, htoken⟩, -⟩, -⟩ := hopens
      have hdata : ∃ id, signed.data = kind.payload id := by
        obtain ⟨t, -, time, -, -, -, ⟨admin, -, hsalt', hdata⟩ | ⟨donorId, -, hsalt', hdata⟩⟩ :=
          h.origin signed hsigned
        · rcases hkinds with ⟨rfl, -⟩ | ⟨rfl, -⟩
          · exact ⟨_, hdata⟩
          · exact absurd (hsalt.symm.trans hsalt') (by decide)
        · rcases hkinds with ⟨rfl, -⟩ | ⟨rfl, -⟩
          · exact absurd (hsalt.symm.trans hsalt') (by decide)
          · exact ⟨_, hdata⟩
      obtain ⟨id, hdata⟩ := hdata
      refine ⟨⟨some id, by rw [hdata, kind.subject_payload]⟩, fun signed' hsigned' hsalt' htoken' => ?_⟩
      have heq := h.unique signed' hsigned' signed hsigned (htoken'.trans htoken.symm)
      rw [heq, hsalt] at hsalt'
      rcases hkinds with ⟨rfl, rfl⟩ | ⟨rfl, rfl⟩
      · exact absurd hsalt' (by decide)
      · exact absurd hsalt' (by decide)

-- The cookie opens the admin router for nobody else, and the two kinds of token
-- are kept apart.
theorem admin_sessions {allow : AdminPool → AdminMove → Prop} (hworld : world.signed = [])
    (hrun : service.Run allow ⟨world, []⟩ pool) :
    (∀ i id time admin pool', service.Step pool (.act i (.adminById id) (time, .ok (some admin))) pool' →
      admin.isActive = true → admin ∈ pool.shared.db.admins ∧
        ∃ t, pool.threads[i]? = some t ∧ Backed pool t admin) ∧
    (∀ t ∈ pool.threads, t.req.guarded = true → ∀ response, t.answer = some response →
      ∃ admin, Admitted t.loc admin) ∧
    ∀ secretKey token s state result,
      ((verifySession secretKey token).Exec service.alone (pool.shared, s) state result →
        (∃ found, result = .ok found) ∧ ∀ signed ∈ pool.shared.signed,
          signed.salt = donorManage.salt → signed.token = token → result = .ok none) ∧
      ((verifyManageToken secretKey token).Exec service.alone (pool.shared, s) state result →
        (∃ found, result = .ok found) ∧ ∀ signed ∈ pool.shared.signed,
          signed.salt = adminSession.salt → signed.token = token → result = .ok none) := by
  obtain ⟨hsealed, hproper⟩ := sealed_run hworld hrun
  refine ⟨fun i id time admin pool' hmove hactive => ?_, fun t ht hguarded response hanswer => ?_,
    fun secretKey token s state result => ⟨?_, ?_⟩⟩
  · cases hmove with
    | act hthread hanswer =>
        obtain ⟨hmem, rfl⟩ := hanswer.2
        have ht := List.mem_of_getElem? hthread
        exact ⟨hmem, _, hthread, backed_of_presents hsealed ht (hproper _ ht).1⟩
  · have hobedient := hproper t ht
    unfold System.Obedient at hobedient
    unfold Thread.answer at hanswer
    split at hanswer
    · next out hphase =>
        rw [hphase] at hobedient
        obtain ⟨s, hloc, hconcludes⟩ := hobedient
        rw [hloc]
        exact hconcludes hguarded out rfl
    · cases hanswer
  · exact hsealed.verify (.inl ⟨rfl, rfl⟩)
  · exact hsealed.verify (.inr ⟨rfl, rfl⟩)

end Runs

open BridgeOfHope.Admin.Trial
open scoped BridgeOfHope.Trial

-- The admin that the thread looks up next.
def looksUp (t : AdminThread) : Option Uuid :=
  match t.phase with
  | .running (.call (.adminById id) _) => some id
  | _ => none

theorem step_of_looksUp {pool : AdminPool} {i : ℕ} {t : AdminThread} {admin : AdminUser}
    (hi : pool.threads[i]? = some t) (hlooks : looksUp t = some admin.id)
    (hadmin : admin ∈ pool.shared.db.admins) : ∃ pool',
      service.Step pool (.act i (.adminById admin.id) (pool.shared.clock, .ok (some admin))) pool' := by
  obtain ⟨shared, threads⟩ := pool
  obtain ⟨request, s, phase⟩ := t
  unfold looksUp at hlooks
  split at hlooks
  · next hphase =>
      cases hphase
      cases hlooks
      exact ⟨_, .act hi ⟨rfl, hadmin, rfl⟩⟩
  · cases hlooks

-- An hour after the login, the cookie is shown.
def anHourLater : List AdminCue :=
  serve 0 6 loginRequest ++ serve 1 1 ⟨settings, .pass (3600 * 1000000)⟩ ++ [.arrive meRequest] ++ turns 2 1

theorem admin_sessions_anHourLater : ∃ pool t admin, service.Run (fun _ _ => True) ⟨world, []⟩ pool ∧
    t ∈ pool.threads ∧ t.req = meRequest ∧ admin ∈ pool.shared.db.admins ∧ admin.isActive = true ∧
      Backed pool t admin := by
  let row := { admin with lastLoginAt := some world.clock }
  obtain ⟨pool, hrun, t, ht, hrequest, hlooks, hadmin⟩ := exists_run
    (fun pool => ∃ t ∈ pool.threads[2]?, t.req = meRequest ∧ looksUp t = some row.id ∧
      row ∈ pool.shared.db.admins) anHourLater (by decide +kernel)
  obtain ⟨pool', hstep⟩ := step_of_looksUp ht hlooks hadmin
  have hfresh : world.signed = [] := rfl
  obtain ⟨-, t', ht', hbacked⟩ := (admin_sessions hfresh hrun).1 2 row.id _ row pool' hstep rfl
  cases Option.some.inj (ht.symm.trans ht')
  exact ⟨pool, t, row, hrun, List.mem_of_getElem? ht, hrequest, hadmin, rfl, hbacked⟩

-- The moment of a pass of the limiter, and that of an admission with its admin.

def Event.letThrough : Event → Option Time
  | ⟨.check _, (time, true)⟩ => some time
  | _ => none

def Event.admitted : Event → Option (AdminUser × Time)
  | ⟨.adminById _, (time, .ok (some admin))⟩ => if admin.isActive then some (admin, time) else none
  | _ => none

-- The commit of a login is held up for nine hours. The token is signed after it,
-- and the cookie is good for another eight.
def heldUpLogin : List AdminCue :=
  [.arrive loginRequest] ++ turns 0 4 ++ serve 1 1 ⟨settings, .pass (9 * 3600 * 1000000)⟩ ++ turns 0 2 ++
    [.finish 0] ++ serve 2 2 meRequest

theorem admitted_long_after_checks : ∃ pool, service.Run (fun _ _ => True) ⟨world, []⟩ pool ∧
    ∃ t ∈ pool.threads, t.req = meRequest ∧ t.answer.isSome ∧ ∃ found ∈ t.loc.filterMap Event.admitted,
      ∀ t' ∈ pool.threads, ∀ time ∈ t'.loc.filterMap Event.letThrough,
        Time.seconds time + adminSession.maxAge < Time.seconds found.2 :=
  exists_run _ heldUpLogin (by decide +kernel)

end BridgeOfHope.Admin
