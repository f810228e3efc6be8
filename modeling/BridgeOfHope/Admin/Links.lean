import BridgeOfHope.Admin.Sessions

namespace BridgeOfHope.Admin

open Process

-- Which tokens are good, and for how long.

-- What a request has had signed stays signed.
def Recorded (world : World) (s : Session) : Prop :=
  ∀ secretKey salt data time token, ⟨.dumps secretKey salt data, (time, token)⟩ ∈ s →
    ⟨secretKey, salt, data, token, Time.seconds time⟩ ∈ world.signed

theorem Recorded.effect {world : World} {s : Session} (h : Recorded world s) (op : Op) (reply : Reply op) :
    Recorded (effect world op reply) s :=
  fun secretKey salt data time token he => signed_mono op reply (h secretKey salt data time token he)

theorem Recorded.own {world : World} {s : Session} {op : Op} {ans : Ans op} (h : Recorded world s)
    (htime : ans.1 = world.clock) :
    Recorded (Admin.effect world op ans.2) (update s op ans) := by
  intro secretKey salt data time token he
  rcases List.mem_cons.mp he with hnew | hold
  · cases hnew
    cases htime
    exact List.mem_cons_self
  · exact h.effect op ans.2 secretKey salt data time token hold

section Runs

variable [Platform] [Credentials] {pool pool' : AdminPool} {move : AdminMove} {world : World} {kind : TokenKind}
  {secretKey token : String} {id : Uuid}

-- What a token of a kind is given out for: a login that has passed, or a link for a donor.
def TokenKind.Grants (kind : TokenKind) (t : AdminThread) (time : Time) (id : Uuid) : Prop :=
  kind = adminSession ∧ (∃ admin, admin.id = id ∧ Passed t.req t.loc admin time) ∨
    kind = donorManage ∧ t.req.endpoint = .manageToken id

-- A request has been given the token under this secret, and its age is not over.
def TokenKind.Live (kind : TokenKind) (pool : AdminPool) (secretKey token : String) (id : Uuid) : Prop :=
  ∃ t ∈ pool.threads, ∃ issuedAt, kind.Grants t issuedAt id ∧ t.req.settings.secretKey = secretKey ∧
    ⟨.dumps secretKey kind.salt (kind.payload id), (issuedAt, token)⟩ ∈ t.loc ∧
    Time.seconds issuedAt ≤ Time.seconds pool.shared.clock ∧
    Time.seconds pool.shared.clock ≤ Time.seconds issuedAt + kind.maxAge

theorem recorded_step (hproper : ∀ t ∈ pool.threads, service.Obedient Permits Concludes t)
    (hmove : service.Step pool move pool') (h : ∀ t ∈ pool.threads, Recorded pool.shared t.loc) :
    ∀ t ∈ pool'.threads, Recorded pool'.shared t.loc := by
  refine hmove.forall_threads hproper (P := fun world _ s => Recorded world s) ?_ (fun _ _ hs => hs) ?_ ?_ h
  · intro _ _ _ _ _ _ _ he
    cases he
  · rintro i t op ans - - - henabled hs
    exact hs.own henabled.1
  · exact fun _ _ op ans _ _ _ _ _ hs => hs.effect op ans.2

theorem recorded_run {allow : AdminPool → AdminMove → Prop} (hworld : world.signed = [])
    (hrun : service.Run allow ⟨world, []⟩ pool) :
    Sealed pool ∧ ∀ t ∈ pool.threads, Recorded pool.shared t.loc :=
  (hrun.invariant_of_obeys handler_obeys
    (I := fun pool => Sealed pool ∧ ∀ t ∈ pool.threads, Recorded pool.shared t.loc)
    ⟨.initial hworld, by simp⟩ (by simp)
    fun _ _ _ h hproper _ hmove => ⟨h.1.step hproper hmove, recorded_step hproper hmove h.2⟩).1

-- A string that opens goes back to a request that was given it.
theorem Sealed.live (h : Sealed pool) (hkind : kind = adminSession ∨ kind = donorManage) {signed : Signed}
    (hsigned : signed ∈ pool.shared.signed)
    (hopens : signed.opens secretKey kind.salt token kind.maxAge (Time.seconds pool.shared.clock) = true) :
    ∃ id, signed.data = kind.payload id ∧ kind.Live pool secretKey token id := by
  simp only [Signed.opens, Bool.and_eq_true, decide_eq_true_eq] at hopens
  obtain ⟨⟨⟨⟨hsecret, hsalt⟩, htoken⟩, hage⟩, hage'⟩ := hopens
  obtain ⟨t, ht, issuedAt, hseconds, hown, hdumps, hcase⟩ := h.origin signed hsigned
  rw [← hseconds] at hage hage'
  have hgrants : ∃ id, signed.data = kind.payload id ∧ kind.Grants t issuedAt id := by
    rcases hcase with ⟨admin, hpassed, hsalt', hdata⟩ | ⟨donorId, hrequest, hsalt', hdata⟩
    · rcases hkind with rfl | rfl
      · exact ⟨admin.id, hdata, .inl ⟨rfl, admin, rfl, hpassed⟩⟩
      · exact absurd (hsalt.symm.trans hsalt') (by decide)
    · rcases hkind with rfl | rfl
      · exact absurd (hsalt.symm.trans hsalt') (by decide)
      · exact ⟨donorId, hdata, .inr ⟨rfl, hrequest⟩⟩
  obtain ⟨id, hdata, hgrants⟩ := hgrants
  rw [hsecret, hsalt, hdata, htoken] at hdumps
  exact ⟨id, hdata, t, ht, issuedAt, hgrants, hown.symm.trans hsecret, hdumps, hage, hage'⟩

-- In every reachable state, and whatever the request has been through, a session
-- or a manage token opens for an admin or a donor exactly when it has been given
-- out for them under the same secret and is not too old.
theorem tokens_live_iff {allow : AdminPool → AdminMove → Prop} (hworld : world.signed = [])
    (hrun : service.Run allow ⟨world, []⟩ pool) (hkind : kind = adminSession ∨ kind = donorManage)
    {s : Session} {state : World × Session} {result : Except Exn (Option Uuid)}
    (hexec : (kind.verify secretKey token).Exec service.alone (pool.shared, s) state result) :
    (∀ id, result = .ok (some id) ↔ kind.Live pool secretKey token id) ∧
      (result = .ok none ↔ ∀ id, ¬ kind.Live pool secretKey token id) := by
  obtain ⟨hsealed, hrecorded⟩ := recorded_run hworld hrun
  -- a live token is a string that opens
  have hopens {id : Uuid} (hlive : kind.Live pool secretKey token id) :
      ∃ signed ∈ pool.shared.signed, signed.data = kind.payload id ∧ signed.token = token ∧
        signed.opens secretKey kind.salt token kind.maxAge (Time.seconds pool.shared.clock) = true := by
    obtain ⟨t, ht, issuedAt, -, -, hdumps, hage, hage'⟩ := hlive
    exact ⟨_, hrecorded t ht _ _ _ _ _ hdumps, rfl, rfl, by simp [Signed.opens, hage, hage']⟩
  obtain ⟨loaded, hpossible, rfl⟩ := exec_verify hexec
  cases loaded with
  | error error =>
    have hnone : kind.subject (.error error) = .ok none := if_pos hpossible.1
    have hdead (id : Uuid) : ¬ kind.Live pool secretKey token id := by
      intro hlive
      obtain ⟨signed, hsigned, -, -, hopen⟩ := hopens hlive
      have hshut :
          signed.opens secretKey kind.salt token kind.maxAge (Time.seconds pool.shared.clock) = false :=
        hpossible.2 signed hsigned
      cases hopen.symm.trans hshut
    refine ⟨fun id => ⟨fun h => ?_, fun h => absurd h (hdead id)⟩, fun _ => hdead, fun _ => hnone⟩
    cases hnone.symm.trans h
  | ok data =>
    obtain ⟨signed, hsigned, hopen, rfl⟩ := hpossible
    obtain ⟨id, hdata, hlive⟩ := hsealed.live hkind hsigned hopen
    have hsome : kind.subject (.ok signed.data) = .ok (some id) := by rw [hdata, kind.subject_payload]
    refine ⟨fun id' => ⟨fun h => ?_, fun h => ?_⟩, fun h => ?_, fun h => absurd hlive (h id)⟩
    · cases hsome.symm.trans h
      exact hlive
    · obtain ⟨signed', hsigned', hdata', htoken', -⟩ := hopens h
      have htoken : signed.token = token := by
        simp only [Signed.opens, Bool.and_eq_true, decide_eq_true_eq] at hopen
        exact hopen.1.1.2
      rw [hsealed.unique signed hsigned signed' hsigned' (htoken.trans htoken'.symm), hdata',
        kind.subject_payload]
    · cases hsome.symm.trans h

end Runs

open BridgeOfHope.Admin.Trial
open scoped BridgeOfHope.Trial

-- A donor is sent a link, and an hour goes by.
def linkSent : List AdminCue :=
  serve 0 1 ⟨settings, .manageToken (BridgeOfHope.Trial.uuid 7)⟩ ++ serve 1 1 ⟨settings, .pass (3600 * 1000000)⟩

theorem tokens_live_anHour : ∃ pool, service.Run (fun _ _ => True) ⟨world, []⟩ pool ∧
    donorManage.Live pool settings.secretKey BridgeOfHope.Trial.manageToken (BridgeOfHope.Trial.uuid 7) := by
  obtain ⟨pool, hrun, signed, hsigned, hopens, hdata⟩ := exists_run
    (fun pool => ∃ signed ∈ pool.shared.signed,
      signed.opens settings.secretKey donorManage.salt BridgeOfHope.Trial.manageToken donorManage.maxAge
        (Time.seconds pool.shared.clock) = true ∧ signed.data = donorManage.payload (BridgeOfHope.Trial.uuid 7))
    linkSent (by decide +kernel)
  have hfresh : world.signed = [] := rfl
  have hexec : (donorManage.verify settings.secretKey BridgeOfHope.Trial.manageToken).Exec
      service.alone (pool.shared, []) _
      (donorManage.subject (.ok signed.data)) :=
    Prog.exec_bind.mpr (.inl ⟨_, _, exec_ask.mpr ⟨.ok signed.data, ⟨signed, hsigned, hopens, rfl⟩, rfl, rfl⟩,
      Prog.exec_ofExcept.mpr ⟨rfl, rfl⟩⟩)
  rw [hdata, donorManage.subject_payload] at hexec
  exact ⟨pool, hrun, ((tokens_live_iff hfresh hrun (.inr rfl) hexec).1 _).mp rfl⟩

end BridgeOfHope.Admin
