import BridgeOfHope.Admin.Service
import BridgeOfHope.Tokens.Lemmas

namespace BridgeOfHope.Admin

open Process

theorem TokenKind.subject_payload [Platform] (kind : TokenKind) (id : Uuid) :
    kind.subject (.ok (kind.payload id)) = .ok (some id) := by
  have hitem : (kind.payload id).item kind.field = .ok (.str id.toText) := by
    simp [TokenKind.payload, Json.item, Json.lookup]
  have hread : Uuid.ofJson (.str id.toText) = .ok id := Uuid.ofText_toText id
  simp [TokenKind.subject, hitem, Except.bind, hread]

-- The cookie that a request carries, for the endpoints that want one.
def Request.cookie (request : Request) : Option String :=
  match request.endpoint with
  | .me cookie | .createPost cookie _ | .updatePost cookie _ _ | .deletePost cookie _ => cookie
  | _ => none

section Rules

variable {α : Type} {before : Session → Op → Prop} {s : Session}

abbrev client : Client Op Ans Session where
  update := update
  sound := sound

theorem obeys_ask {op : Op} {after : Session → Except Exn (Reply op) → Prop} (hop : before s op)
    (h : ∀ time reply, sound s op (time, reply) → after (⟨op, (time, reply)⟩ :: s) (.ok reply)) :
    (ask op).Obeys client before after s :=
  ⟨hop, fun ans hans => h ans.1 ans.2 hans⟩

theorem obeys_now {after : Session → Except Exn Time → Prop} (hop : before s .now)
    (h : ∀ time, after (⟨.now, (time, ())⟩ :: s) (.ok time)) : now.Obeys client before after s :=
  ⟨hop, fun ans _ => h ans.1⟩

theorem obeys_raiseUnless {condition : Bool} {status : ℕ} {detail : String}
    {after : Session → Except Exn Unit → Prop} (hok : condition = true → after s (.ok ()))
    (herr : ∀ error, after s (.error error)) :
    (raiseUnless condition status detail).Obeys client before after s := by
  unfold raiseUnless
  split
  · next h => exact hok h
  · exact herr _

theorem obeys_seq {β : Type} {program : Act α} {rest : α → Act β} {after : Session → Except Exn β → Prop}
    (h : program.Obeys client before (Prog.Then client before after rest) s) :
    (program >>= rest).Obeys client before after s :=
  Prog.obeys_bind.mpr h

theorem obeys_ofExcept {result : Except Exn α} {after : Session → Except Exn α → Prop}
    (h : after s result) : (Prog.ofExcept result : Act α).Obeys client before after s :=
  Prog.obeys_ofExcept.mpr h

-- A request forgets nothing that it has done.
theorem obeys_remember {program : Act α} {e : Event} (h : e ∈ s) :
    program.Obeys client (fun _ _ => True) (fun s' _ => e ∈ s') s := by
  induction program generalizing s with
  | ret value => exact h
  | raise error => exact h
  | call op next ih => exact ⟨trivial, fun ans _ => ih ans (List.mem_cons_of_mem _ h)⟩

end Rules

variable [Platform] [Credentials]

-- A login request that has passed every check for the admin by then.
def Passed (request : Request) (s : Session) (admin : AdminUser) (time : Time) : Prop :=
  ∃ client body, request.endpoint = .login client body ∧
    (∃ t ≤ time, ⟨.check (limiterKey (client.getD "unknown") body.email), (t, true)⟩ ∈ s) ∧
    (∃ t ≤ time, ⟨.adminByEmail body.email, (t, .ok (some admin))⟩ ∈ s) ∧ admin.isActive = true ∧
    verifyPassword admin.passwordHash body.password = .ok true ∧
    ∃ secret, admin.totpSecret = some secret ∧ Settings.given secret = true ∧
      ∃ t ≤ time, ⟨.now, (t, ())⟩ ∈ s ∧ verifyTotp secret body.totpCode t = .ok true

-- `require_admin` has let the request through, for this admin.
def Admitted (s : Session) (admin : AdminUser) : Prop :=
  admin.isActive = true ∧ ∃ id time, ⟨.adminById id, (time, .ok (some admin))⟩ ∈ s

-- The session token in the cookie names the admin.
def Presents (request : Request) (s : Session) (id : Uuid) : Prop :=
  ∃ token data time, request.cookie = some token ∧
    ⟨.loads request.settings.secretKey adminSession.salt token adminSession.maxAge, (time, .ok data)⟩ ∈ s ∧
    adminSession.subject (.ok data) = .ok (some id)

def Permits (request : Request) (s : Session) : Op → Prop
  | .check key => s = [] ∧ ∃ client body, request.endpoint = .login client body ∧
      key = limiterKey (client.getD "unknown") body.email
  | .adminByEmail email => ∃ client body time, request.endpoint = .login client body ∧
      email = body.email ∧ s = [⟨.check (limiterKey (client.getD "unknown") body.email), (time, true)⟩]
  | .dumps secretKey salt data => secretKey = request.settings.secretKey ∧
      ((∃ admin time, Passed request s admin time ∧ salt = adminSession.salt ∧
        data = adminSession.payload admin.id) ∨
      ∃ donorId, request.endpoint = .manageToken donorId ∧ salt = donorManage.salt ∧
        data = donorManage.payload donorId)
  | .adminById id => Presents request s id
  | _ => True

variable {request : Request} {s : Session}

theorem requireAdmin_obeys {after : Session → Except Exn AdminUser → Prop}
    (hok : ∀ s' admin, Admitted s' admin → after s' (.ok admin))
    (herr : ∀ s' error, after s' (.error error)) :
    (requireAdmin request.settings request.cookie).Obeys client (Permits request) after s := by
  unfold requireAdmin
  cases hcookie : request.cookie.filter Settings.given with
  | none => exact herr s _
  | some token =>
      have htoken : request.cookie = some token := (Option.filter_eq_some_iff.mp hcookie).1
      refine obeys_seq (obeys_seq (obeys_ask trivial fun time loaded _ => obeys_ofExcept ?_))
      cases hsubject : adminSession.subject loaded with
      | error error => exact herr _ _
      | ok found => cases found with
        | none => exact herr _ _
        | some adminId =>
            have hpresents : Presents request
                (⟨.loads request.settings.secretKey adminSession.salt token adminSession.maxAge,
                  (time, loaded)⟩ :: s) adminId := by
              cases loaded with
              | ok data => exact ⟨token, data, time, htoken, List.mem_cons_self, hsubject⟩
              | error error =>
                  simp only [TokenKind.subject] at hsubject
                  split at hsubject <;> cases hsubject
            refine obeys_seq (obeys_seq (obeys_ask hpresents fun _ found _ => obeys_ofExcept ?_))
            cases found with
            | error error => exact herr _ _
            | ok admin => cases admin with
              | none => exact herr _ _
              | some admin =>
                  refine obeys_seq (obeys_raiseUnless (fun hactive => hok _ admin ⟨hactive, ?_⟩)
                    fun _ => herr _ _)
                  exact ⟨_, _, List.mem_cons_self⟩

-- Nothing is owed at the end of a request.
abbrev ends {α : Type} (_ : Session) (_ : Except Exn α) : Prop := True

theorem commit_obeys {stmt : Stmt} {after : Session → Except Exn Unit → Prop}
    (h : ∀ time reply, after (⟨.commit stmt, (time, reply)⟩ :: s) reply) :
    (commit stmt).Obeys client (Permits request) after s :=
  obeys_seq (obeys_ask trivial fun time reply _ => obeys_ofExcept (h time reply))

theorem checkTotp_obeys {admin : AdminUser} {code : String} {after : Session → Except Exn Unit → Prop}
    (hok : ∀ secret time, admin.totpSecret = some secret → Settings.given secret = true →
      verifyTotp secret code time = .ok true → after (⟨.now, (time, ())⟩ :: s) (.ok ()))
    (herr : ∀ s' error, after s' (.error error)) :
    (checkTotp admin code).Obeys client (Permits request) after s := by
  unfold checkTotp
  cases hsecret : admin.totpSecret.filter Settings.given with
  | none => exact herr s _
  | some secret =>
      obtain ⟨htotp, hgiven⟩ := Option.filter_eq_some_iff.mp hsecret
      refine obeys_seq (obeys_now trivial fun time => obeys_seq (obeys_ofExcept ?_))
      cases hverified : verifyTotp secret code time with
      | error error => exact herr _ error
      | ok verified =>
          refine obeys_raiseUnless (fun h => ?_) (fun error => herr _ error)
          exact hok secret time htotp hgiven (h ▸ hverified)

theorem login_obeys {clientHost : Option String} {body : LoginBody}
    (h : request.endpoint = .login clientHost body) :
    (login request.settings clientHost body).Obeys client (Permits request) ends [] := by
  unfold login
  refine obeys_seq (obeys_ask ⟨rfl, clientHost, body, h, rfl⟩ fun t₁ allowed _ => ?_)
  refine obeys_seq (obeys_raiseUnless (fun hallowed => ?_) fun _ => trivial)
  subst hallowed
  refine obeys_seq (obeys_seq (obeys_ask ⟨clientHost, body, t₁, h, rfl, rfl⟩ fun t₂ found _ =>
    obeys_ofExcept ?_))
  cases found with
  | error error => trivial
  | ok found => cases found with
    | none => trivial
    | some admin =>
        refine obeys_seq (obeys_seq (obeys_raiseUnless (fun hactive => ?_) fun _ => trivial))
        refine obeys_seq (obeys_ofExcept ?_)
        cases hpassword : verifyPassword admin.passwordHash body.password with
        | error error => trivial
        | ok verified =>
            refine obeys_raiseUnless (fun hverified => ?_) fun _ => trivial
            subst hverified
            refine obeys_seq (checkTotp_obeys (fun secret t₃ hsecret hgiven htotp => ?_) fun _ _ => trivial)
            refine obeys_seq (obeys_now trivial fun t₄ => obeys_seq (commit_obeys fun t₅ reply => ?_))
            cases reply with
            | error error => trivial
            | ok _ =>
                refine obeys_seq (obeys_ask ⟨rfl, .inl ⟨admin, max t₁ (max t₂ t₃), ?_, rfl, rfl⟩⟩
                  fun _ _ _ => trivial)
                refine ⟨clientHost, body, h, ⟨t₁, le_max_left _ _, by simp⟩, ⟨t₂, ?_, by simp⟩, hactive,
                  hpassword, secret, hsecret, hgiven, t₃, ?_, by simp, htotp⟩
                · exact (le_max_left _ _).trans (le_max_right _ _)
                · exact (le_max_right _ _).trans (le_max_right _ _)

theorem findPost_obeys {postId : String} {after : Session → Except Exn Post → Prop}
    (h : ∀ s' result, after s' result) : (findPost postId).Obeys client (Permits request) after s := by
  unfold findPost
  refine obeys_seq (obeys_ofExcept ?_)
  cases Platform.pgUuid postId with
  | error error => exact h _ _
  | ok id =>
      refine obeys_seq (obeys_seq (obeys_ask trivial fun _ found _ => obeys_ofExcept ?_))
      cases found with
      | error error => exact h _ _
      | ok found => cases found <;> exact h _ _

theorem handler_permits (request : Request) :
    (service.start request).Obeys service.toClient (Permits request) ends service.fresh := by
  show request.handler.Obeys client (Permits request) ends []
  unfold Request.handler
  have hcookie {cookie : Option String} (h : request.cookie = cookie) {rest : AdminUser → Act Response}
      (hrest : ∀ s admin, (rest admin).Obeys client (Permits request) ends s) :
      (requireAdmin request.settings cookie >>= rest).Obeys client (Permits request) ends [] :=
    h ▸ obeys_seq (requireAdmin_obeys (fun s admin _ => hrest s admin) fun _ _ => trivial)
  have hcommit {s : Session} {stmt : Stmt} {response : Response} :
      (commit stmt >>= fun _ => pure response : Act Response).Obeys client (Permits request) ends s :=
    obeys_seq (commit_obeys fun _ reply => by cases reply <;> trivial)
  cases h : request.endpoint with
  | login clientHost body => exact login_obeys h
  | logout => trivial
  | me cookie => exact hcookie (by rw [Request.cookie, h]) fun _ _ => trivial
  | createPost cookie body =>
      refine hcookie (by rw [Request.cookie, h]) fun s admin => ?_
      refine obeys_seq (obeys_now trivial fun time => obeys_seq (obeys_ask trivial fun _ id _ => ?_))
      exact hcommit
  | updatePost cookie postId body =>
      refine hcookie (by rw [Request.cookie, h]) fun s admin => ?_
      refine obeys_seq (findPost_obeys fun s' result => ?_)
      cases result with
      | error error => trivial
      | ok post => exact obeys_seq (obeys_now trivial fun time => hcommit)
  | deletePost cookie postId =>
      refine hcookie (by rw [Request.cookie, h]) fun s admin => ?_
      refine obeys_seq (findPost_obeys fun s' result => ?_)
      cases result with
      | error error => trivial
      | ok post => exact hcommit
  | listPosts limit offset =>
      refine obeys_seq (obeys_ask trivial fun _ posts _ => obeys_seq (obeys_ofExcept ?_))
      cases posts with
      | error error => trivial
      | ok posts =>
          refine obeys_seq (obeys_ofExcept ?_)
          cases pageBounds limit offset <;> trivial
  | getPost slug =>
      refine obeys_seq (obeys_ask trivial fun _ found _ => obeys_seq (obeys_ofExcept ?_))
      cases found with
      | error error => trivial
      | ok found => cases found <;> trivial
  | manageToken donorId =>
      exact obeys_seq (obeys_ask ⟨rfl, .inr ⟨donorId, h, rfl, rfl⟩⟩ fun _ _ _ => trivial)
  | pass duration => exact obeys_seq (obeys_ask trivial fun _ _ _ => trivial)
  | operate admins => exact obeys_seq (obeys_ask trivial fun _ _ _ => trivial)

-- A call of a request that is served alone.
theorem exec_ask {op : Op} {state state' : World × Session} {result : Except Exn (Reply op)} :
    (ask op).Exec service.alone state state' result ↔ ∃ reply, possible state.1 op reply ∧
      state' = (effect state.1 op reply, ⟨op, (state.1.clock, reply)⟩ :: state.2) ∧ result = .ok reply := by
  unfold ask
  rw [Prog.exec_bind]
  constructor
  · rintro (⟨mid, ans, hperform, hret⟩ | ⟨error, hperform, rfl⟩)
    · obtain ⟨⟨time, reply⟩, ⟨rfl, hpossible⟩, rfl, hans⟩ := Prog.exec_perform.mp hperform
      cases hans
      obtain ⟨rfl, rfl⟩ := Prog.exec_ret.mp hret
      exact ⟨reply, hpossible, rfl, rfl⟩
    · obtain ⟨ans, -, -, hresult⟩ := Prog.exec_perform.mp hperform
      cases hresult
  · rintro ⟨reply, hpossible, rfl, rfl⟩
    refine .inl ⟨_, (state.1.clock, reply), Prog.exec_perform.mpr ⟨_, ⟨rfl, hpossible⟩, rfl, rfl⟩, ?_⟩
    exact .ret _ _

-- The endpoints that depend on `require_admin`.
def Request.guarded (request : Request) : Bool :=
  match request.endpoint with
  | .me _ | .createPost _ _ | .updatePost _ _ _ | .deletePost _ _ => true
  | _ => false

theorem handler_guarded {request : Request} (h : request.guarded = true) :
    ∃ rest, request.handler = requireAdmin request.settings request.cookie >>= rest := by
  unfold Request.guarded at h
  unfold Request.handler Request.cookie
  split at h
  · next cookie hendpoint => exact ⟨_, by rw [hendpoint]; rfl⟩
  · next cookie body hendpoint => exact ⟨_, by rw [hendpoint]; rfl⟩
  · next cookie postId body hendpoint => exact ⟨_, by rw [hendpoint]; rfl⟩
  · next cookie postId hendpoint => exact ⟨_, by rw [hendpoint]; rfl⟩
  · cases h

-- Such a request comes to an answer only when it was admitted.
theorem guarded_obeys {request : Request} (h : request.guarded = true) :
    (service.start request).Obeys service.toClient (fun _ _ => True)
      (fun s result => ∀ response, result = .ok response → ∃ admin, Admitted s admin) service.fresh := by
  obtain ⟨rest, hrest⟩ := handler_guarded h
  show request.handler.Obeys client _ _ []
  rw [hrest]
  refine obeys_seq (Prog.Obeys.mono (requireAdmin_obeys (fun s admin hadmitted => ?_) fun s error => ?_)
    (fun _ _ _ => trivial) fun _ _ h => h)
  · obtain ⟨hactive, id, time, hmem⟩ := hadmitted
    exact (obeys_remember hmem).mono (fun _ _ h => h)
      fun s' result hmem' _ _ => ⟨admin, hactive, id, time, hmem'⟩
  · intro response hresponse
    cases hresponse

-- Every handler asks only what it may and ends as it should, whatever answers it gets.
def Concludes (request : Request) (s : Session) (result : Except Exn Response) : Prop :=
  request.guarded = true → ∀ response, result = .ok response → ∃ admin, Admitted s admin

theorem handler_obeys (request : Request) :
    (service.start request).Obeys service.toClient (Permits request) (Concludes request) service.fresh := by
  by_cases h : request.guarded = true
  · exact ((handler_permits request).and (guarded_obeys h)).mono (fun _ _ h => h.1) fun _ _ h _ => h.2
  · exact (handler_permits request).mono (fun _ _ h => h) fun _ _ _ hguarded => absurd hguarded h

end BridgeOfHope.Admin
