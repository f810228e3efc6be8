import BridgeOfHope.Admin.Conduct

namespace BridgeOfHope.Admin

open Process
open Prog (Only)

-- Who has written what stands in the posts.

-- What a create or an update request carries.
def Request.content (request : Request) : Option PostBody :=
  match request.endpoint with
  | .createPost _ body | .updatePost _ _ body => some body
  | _ => none

-- The columns as a body has them, at a moment.
def PostBody.asks (body : PostBody) (time : Time) : List PostSet :=
  [.slug body.slug, .title body.title, .bodyMd body.bodyMd, .excerpt body.excerpt,
    .coverImageUrl body.coverImageUrl, .publishedAt (if body.published then some time else none)]

theorem newPost_asks {body : PostBody} {id : Uuid} {time : Time} {column : PostSet}
    (h : (newPost body id (if body.published then some time else none)).set column =
      newPost body id (if body.published then some time else none)) : column ∈ body.asks time := by
  cases column <;> simp [Post.set, newPost] at h <;> simp [PostBody.asks, h]

theorem postColumns_asks {post : Post} {body : PostBody} {time : Time} {column : PostSet}
    (h : column ∈ post.changes (postColumns post body time)) : column ∈ body.asks time := by
  have hcolumn := (List.mem_filter.mp h).1
  unfold postColumns at hcolumn
  rcases List.mem_append.mp hcolumn with hcontent | hdate
  · simp only [List.mem_cons, List.not_mem_nil, or_false] at hcontent
    rcases hcontent with rfl | rfl | rfl | rfl | rfl <;> simp [PostBody.asks]
  · split at hdate
    · next hpublish =>
      have hpublished : body.published = true := by simp_all
      simp_all [PostBody.asks]
    · split at hdate <;> simp_all [PostBody.asks]

-- A column of a row that has been assigned to has what was assigned, or what it had.
theorem Post.set_set {post : Post} {column assigned : PostSet}
    (h : (post.set assigned).set column = post.set assigned) : column = assigned ∨ post.set column = post := by
  cases post
  cases assigned <;> cases column <;> simp_all [Post.set]

theorem Post.set_setAll {post : Post} {column : PostSet} {columns : List PostSet}
    (h : (post.setAll columns).set column = post.setAll columns) :
    column ∈ columns ∨ post.set column = post := by
  induction columns generalizing post with
  | nil => exact .inr h
  | cons assigned columns ih =>
    rcases ih h with hmem | hfirst
    · exact .inl (List.mem_cons_of_mem _ hmem)
    · rcases Post.set_set hfirst with rfl | hpost
      · exact .inl List.mem_cons_self
      · exact .inr hpost

-- Whether the posts may change.
def Op.commits : Op → Bool
  | .commit (.updateAdmin _ _) => false
  | .commit _ => true
  | _ => false

section Handlers

variable {request : Request} {s : Session}

-- An admitted administrator has asked for the column to be so.
def Wrote (request : Request) (s : Session) (column : PostSet) : Prop :=
  ∃ admin body time, Admitted s admin ∧ request.content = some body ∧ ⟨.now, (time, ())⟩ ∈ s ∧
    column ∈ body.asks time

-- What a request may commit to the posts.
def Signs (request : Request) (s : Session) : Op → Prop
  | .commit (.insertPost row) => ∀ column, row.set column = row → Wrote request s column
  | .commit (.updatePost _ columns) => ∀ column ∈ columns, Wrote request s column
  | .commit (.deletePost _) => ∃ admin, Admitted s admin
  | _ => True

theorem signs_of_not_commits {op : Op} (h : op.commits = false) : Signs request s op := by
  cases op with
  | commit stmt => cases stmt <;> trivial
  | _ => trivial

theorem Admitted.cons {admin : AdminUser} (h : Admitted s admin) (e : Event) : Admitted (e :: s) admin := by
  obtain ⟨hactive, id, time, hmem⟩ := h
  exact ⟨hactive, id, time, List.mem_cons_of_mem _ hmem⟩

theorem only_requireAdmin [Platform] {settings : AdminSettings} {cookie : Option String} :
    (requireAdmin settings cookie).Only fun op => op.commits = false := by
  unfold requireAdmin
  cases cookie.filter Settings.given with
  | none => trivial
  | some token =>
    refine .bind (.bind (.bind (.perform rfl) fun _ => trivial) fun _ => .ofExcept) fun found => ?_
    cases found with
    | none => trivial
    | some adminId =>
      refine .bind (.bind (.bind (.perform rfl) fun _ => trivial) fun _ => .ofExcept) fun found => ?_
      cases found with
      | none => trivial
      | some admin =>
        refine .bind ?_ fun _ => trivial
        unfold raiseUnless
        split <;> trivial

theorem commit_signs {stmt : Stmt} {response : Response} (h : Signs request s (.commit stmt)) :
    (commit stmt >>= fun _ => pure response : Act Response).Obeys client (Signs request) ends s :=
  obeys_seq (obeys_seq (obeys_ask h fun _ reply _ => obeys_ofExcept (by cases reply <;> trivial)))

theorem obeys_signs {op : Op} {after : Session → Except Exn (Reply op) → Prop} (h : op.commits = false)
    (hrest : ∀ time reply, after (⟨op, (time, reply)⟩ :: s) (.ok reply)) :
    (ask op).Obeys client (Signs request) after s :=
  obeys_ask (signs_of_not_commits h) fun time reply _ => hrest time reply

theorem findPost_signs [Platform] {postId : String} {rest : Post → Act Response} {admin : AdminUser}
    (h : Admitted s admin)
    (hrest : ∀ s post, Admitted s admin → (rest post).Obeys client (Signs request) ends s) :
    (findPost postId >>= rest).Obeys client (Signs request) ends s := by
  unfold findPost
  refine obeys_seq (obeys_seq (obeys_ofExcept ?_))
  cases Platform.pgUuid postId with
  | error error => trivial
  | ok id =>
    refine obeys_seq (obeys_seq (obeys_signs rfl fun time found => obeys_ofExcept ?_))
    cases found with
    | error error => trivial
    | ok found => cases found with
      | none => trivial
      | some post => exact hrest _ post (h.cons _)

variable [Platform] [Credentials]

theorem requireAdmin_signs {cookie : Option String} (hcookie : request.cookie = cookie) {α : Type}
    {rest : AdminUser → Act α}
    (hrest : ∀ s admin, Admitted s admin → (rest admin).Obeys client (Signs request) ends s) :
    (requireAdmin request.settings cookie >>= rest).Obeys client (Signs request) ends s := by
  subst hcookie
  have hadmitted : (requireAdmin request.settings request.cookie).Obeys client (Permits request)
      (fun s' result => ∀ admin, result = .ok admin → Admitted s' admin) s :=
    requireAdmin_obeys (fun s' admin h admin' hresult => by cases hresult; exact h)
      fun s' error admin hresult => by cases hresult
  have hquiet : (requireAdmin request.settings request.cookie).Obeys client
      (fun _ op => op.commits = false) (fun _ _ => True) s := only_requireAdmin.obeys_any
  refine obeys_seq ((hadmitted.and hquiet).mono (fun _ _ h => signs_of_not_commits h.2) fun s' result h => ?_)
  cases result with
  | ok admin => exact hrest s' admin (h.1 admin rfl)
  | error error => trivial

theorem only_login {settings : AdminSettings} {host : Option String} {body : LoginBody} :
    (login settings host body).Only fun op => op.commits = false := by
  unfold login
  have hcheck {condition : Bool} {status : ℕ} {detail : String} :
      (raiseUnless condition status detail).Only fun op => op.commits = false := by
    unfold raiseUnless
    split <;> trivial
  refine .bind (.bind (.perform rfl) fun _ => trivial) fun allowed => hcheck.bind fun _ => ?_
  refine .bind (.bind (.bind (.perform rfl) fun _ => trivial) fun _ => .ofExcept) fun found => ?_
  cases found with
  | none => trivial
  | some admin =>
    refine .bind (hcheck.bind fun _ => Only.ofExcept.bind fun _ => hcheck) fun _ => .bind ?_ fun _ => ?_
    · unfold checkTotp
      cases admin.totpSecret.filter Settings.given with
      | none => trivial
      | some secret => exact .bind (.bind (.perform rfl) fun _ => trivial) fun _ =>
        Only.ofExcept.bind fun _ => hcheck
    · refine .bind (.bind (.perform rfl) fun _ => trivial) fun time => ?_
      refine .bind (.bind (.bind (.perform rfl) fun _ => trivial) fun _ => .ofExcept) fun _ => ?_
      exact .bind (.bind (.perform rfl) fun _ => trivial) fun _ => trivial

theorem handler_signs (request : Request) :
    (service.start request).Obeys service.toClient (Signs request) ends service.fresh := by
  show request.handler.Obeys client (Signs request) ends []
  unfold Request.handler
  cases h : request.endpoint with
  | login host body =>
      exact only_login.obeys_any.mono (fun _ _ hop => signs_of_not_commits hop) fun _ _ _ => trivial
  | logout => trivial
  | me cookie => exact requireAdmin_signs (by rw [Request.cookie, h]) fun _ _ _ => trivial
  | createPost cookie body =>
    refine requireAdmin_signs (by rw [Request.cookie, h]) fun s admin hadmitted => ?_
    refine obeys_seq (obeys_now trivial fun time => obeys_seq (obeys_signs rfl fun _ id => commit_signs ?_))
    intro column hcolumn
    refine ⟨admin, body, time, (hadmitted.cons _).cons _, by rw [Request.content, h], ?_, newPost_asks hcolumn⟩
    exact List.mem_cons_of_mem _ List.mem_cons_self
  | updatePost cookie postId body =>
    refine requireAdmin_signs (by rw [Request.cookie, h]) fun s admin hadmitted => ?_
    refine findPost_signs hadmitted fun s post hadmitted => ?_
    refine obeys_seq (obeys_now trivial fun time => commit_signs fun column hcolumn => ?_)
    exact ⟨admin, body, time, hadmitted.cons _, by rw [Request.content, h], List.mem_cons_self,
      postColumns_asks hcolumn⟩
  | deletePost cookie postId =>
    refine requireAdmin_signs (by rw [Request.cookie, h]) fun s admin hadmitted => ?_
    exact findPost_signs hadmitted fun s post hadmitted => commit_signs ⟨admin, hadmitted⟩
  | listPosts limit offset =>
    refine obeys_seq (obeys_signs rfl fun _ posts => obeys_seq (obeys_ofExcept ?_))
    cases posts with
    | error error => trivial
    | ok posts =>
      refine obeys_seq (obeys_ofExcept ?_)
      cases pageBounds limit offset <;> trivial
  | getPost slug =>
    refine obeys_seq (obeys_signs rfl fun _ found => obeys_seq (obeys_ofExcept ?_))
    cases found with
    | error error => trivial
    | ok found => cases found <;> trivial
  | manageToken donorId => exact obeys_seq (obeys_signs rfl fun _ _ => trivial)
  | pass duration => exact obeys_seq (obeys_signs rfl fun _ _ => trivial)
  | operate admins => exact obeys_seq (obeys_signs rfl fun _ _ => trivial)

end Handlers

section Runs

variable [Platform] [Credentials] {pool pool' : AdminPool} {move : AdminMove} {world : World}

-- Some request has written the column so.
def Written (pool : AdminPool) (column : PostSet) : Prop := ∃ t ∈ pool.threads, Wrote t.req t.loc column

theorem Written.later {column : PostSet} (h : Written pool column) (hmove : service.Step pool move pool') :
    Written pool' column := by
  obtain ⟨t, ht, admin, body, time, ⟨hactive, id, asked, hadmin⟩, hcontent, hnow, hcolumn⟩ := h
  obtain ⟨k, hk⟩ := List.mem_iff_getElem?.mp ht
  obtain ⟨t', hk', hreq, hloc⟩ := hmove.get_later (R := fun s s' => ∀ e ∈ s, e ∈ s')
    (fun _ _ h => h) (fun _ _ h => h) (fun _ _ _ _ _ _ _ h => List.mem_cons_of_mem _ h) hk
  exact ⟨t', List.mem_of_getElem? hk', admin, body, time, ⟨hactive, id, asked, hloc _ hadmin⟩, hreq ▸ hcontent,
    hloc _ hnow, hcolumn⟩

def Authored (pool : AdminPool) : Prop :=
  ∀ post ∈ pool.shared.db.posts, ∀ column, post.set column = post → Written pool column

theorem Authored.step (h : Authored pool)
    (hsigned : ∀ t ∈ pool.threads, service.Obedient Signs (fun _ => ends) t)
    (hmove : service.Step pool move pool') : Authored pool' := by
  have hold {post : Post} (hpost : post ∈ pool.shared.db.posts) {column : PostSet}
      (hcolumn : post.set column = post) : Written pool' column := (h post hpost column hcolumn).later hmove
  cases hmove with
  | @act shared threads i request s op next ans hthread hanswer =>
    intro post hpost column hcolumn
    have hsigns : Signs request s op := (hsigned _ (List.mem_of_getElem? hthread)).1
    have hnew {column : PostSet} (hwrote : Wrote request s column) : Written _ column :=
      Written.later ⟨_, List.mem_of_getElem? hthread, hwrote⟩ (.act hthread hanswer)
    obtain ⟨time, reply⟩ := ans
    cases op with
    | commit stmt => cases reply with
      | error error => exact hold hpost hcolumn
      | ok _ => cases stmt with
        | updateAdmin id lastLoginAt => exact hold hpost hcolumn
        | insertPost row =>
          rcases List.mem_append.mp hpost with hstored | hrow
          · exact hold hstored hcolumn
          · rw [List.mem_singleton.mp hrow] at hcolumn
            exact hnew (hsigns column hcolumn)
        | updatePost id columns =>
          obtain ⟨stored, hstored, hrow⟩ := List.mem_map.mp hpost
          subst hrow
          by_cases hid : stored.id = id
          · rw [if_pos hid] at hcolumn
            rcases Post.set_setAll hcolumn with hassigned | hkept
            · exact hnew (hsigns column hassigned)
            · exact hold hstored hkept
          · rw [if_neg hid] at hcolumn
            exact hold hstored hcolumn
        | deletePost id => exact hold (List.mem_filter.mp hpost).1 hcolumn
    | _ => exact hold hpost hcolumn
  | _ => exact fun post hpost column hcolumn => hold hpost hcolumn

-- In every reachable state, everything that stands in a post, its date of
-- publication included, was asked for by a request of an admitted administrator.
theorem posts_authored {allow : AdminPool → AdminMove → Prop} (hworld : world.db.posts = [])
    (hrun : service.Run allow ⟨world, []⟩ pool) : Authored pool :=
  (hrun.invariant_of_obeys handler_signs (I := Authored) (by simp [Authored, hworld]) (by simp)
    fun _ _ _ h hsigned _ hmove => h.step hsigned hmove).1

end Runs

open BridgeOfHope.Admin.Trial
open scoped BridgeOfHope.Trial

def harvestUpdate : PostBody where
  slug := "harvest-2025"
  title := "Harvest"
  bodyMd := "The maize is in."
  excerpt := "A good year."
  published := true

theorem posts_authored_published : ∃ pool, service.Run (fun _ _ => True) ⟨world, []⟩ pool ∧
    ∃ post ∈ pool.shared.db.posts, ∃ time, post.publishedAt = some time ∧
      Written pool (.publishedAt (some time)) := by
  obtain ⟨pool, hrun, post, hpost, hpublished⟩ := exists_run
    (fun pool => ∃ post ∈ pool.shared.db.posts, post.published = true)
    (serve 0 6 loginRequest ++ serve 1 5 ⟨settings, .createPost (some sessionToken) harvestUpdate⟩)
    (by decide +kernel)
  obtain ⟨time, htime⟩ := Option.isSome_iff_exists.mp hpublished
  have hempty : world.db.posts = [] := rfl
  refine ⟨pool, hrun, post, hpost, time, htime, posts_authored hempty hrun post hpost _ ?_⟩
  show { post with publishedAt := some time } = post
  rw [← htime]

end BridgeOfHope.Admin
