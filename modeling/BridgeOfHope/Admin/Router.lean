import BridgeOfHope.Admin.Auth

namespace BridgeOfHope.Admin

open Process

variable [Platform]

structure LoginBody where
  email : String
  password : String
  totpCode : String
deriving DecidableEq

structure PostBody where
  slug : String
  title : String
  bodyMd : String
  excerpt : String
  coverImageUrl : Option String := none
  published : Bool := false
deriving DecidableEq

structure PostOut where
  slug : String
  title : String
  excerpt : String
  coverImageUrl : Option String
  publishedAt : Option Time
deriving DecidableEq

structure PostDetailOut extends PostOut where
  bodyMd : String
deriving DecidableEq

inductive Body : Type
  | status (value : String)
  | me (email : String) (lastLoginAt : Option Time)
  | id (value : String)
  | posts (value : List PostOut)
  | post (value : PostDetailOut)
deriving DecidableEq

-- The session cookie of a response. The browser sends it back over plain HTTP
-- unless it is `secure`.
inductive Cookie : Type
  | set (token : String) (secure : Bool) (maxAge : ℕ)
  | delete
deriving DecidableEq

structure Response where
  body : Body
  cookie : Option Cookie := none
deriving DecidableEq

-- `f"{client_ip}:{body.email.lower()}"`
def limiterKey (clientIp email : String) : String := clientIp ++ ":" ++ Platform.lower email

def checkPassword [Credentials] (admin : AdminUser) (password : String) : Act Unit := do
  raiseUnless admin.isActive 401 "Invalid credentials"
  let verified ← Prog.ofExcept (verifyPassword admin.passwordHash password)
  raiseUnless verified 401 "Invalid credentials"

def checkTotp [Credentials] (admin : AdminUser) (code : String) : Act Unit := do
  match admin.totpSecret.filter Settings.given with
  | none => httpException 401 "Invalid authentication code"
  | some secret =>
      let verified ← Prog.ofExcept (verifyTotp secret code (← now))
      raiseUnless verified 401 "Invalid authentication code"

def login [Credentials] (settings : AdminSettings) (client : Option String) (body : LoginBody) :
    Act Response := do
  let clientIp := client.getD "unknown"
  let allowed ← check (limiterKey clientIp body.email)
  raiseUnless allowed 429 "Too many login attempts. Try again later."
  match ← adminByEmail body.email with
  | none => httpException 401 "Invalid credentials"
  | some admin =>
      checkPassword admin body.password
      checkTotp admin body.totpCode
      commit (.updateAdmin admin.id (← now))
      let token ← issueSession settings.secretKey admin.id
      return ⟨.status "ok", some (.set token (settings.environment ≠ "development") (60 * 60 * 8))⟩

def logout : Act Response := return ⟨.status "ok", some .delete⟩

def me (settings : AdminSettings) (cookie : Option String) : Act Response := do
  let admin ← requireAdmin settings cookie
  return { body := .me admin.email admin.lastLoginAt }

def newPost (body : PostBody) (id : Uuid) (publishedAt : Option Time) : Post where
  id := id
  slug := body.slug
  title := body.title
  bodyMd := body.bodyMd
  excerpt := body.excerpt
  coverImageUrl := body.coverImageUrl
  publishedAt := publishedAt

def adminCreatePost (settings : AdminSettings) (cookie : Option String) (body : PostBody) :
    Act Response := do
  let _ ← requireAdmin settings cookie
  let time ← now
  let post := newPost body (← uuid7) (if body.published then some time else none)
  commit (.insertPost post)
  return { body := .id post.id.toText }

-- Publishing keeps the date of a post that is published already.
def postColumns (post : Post) (body : PostBody) (time : Time) : List PostSet :=
  [.slug body.slug, .title body.title, .bodyMd body.bodyMd, .excerpt body.excerpt,
    .coverImageUrl body.coverImageUrl] ++
  if body.published && post.publishedAt.isNone then [.publishedAt (some time)]
  else if !body.published then [.publishedAt none]
  else []

-- `db.get(Post, post_id)` with the text from the path: the driver parses it.
def findPost (postId : String) : Act Post := do
  match ← postById (← Prog.ofExcept (Platform.pgUuid postId)) with
  | none => httpException 404 "Not found"
  | some post => return post

def adminUpdatePost (settings : AdminSettings) (cookie : Option String) (postId : String)
    (body : PostBody) : Act Response := do
  let _ ← requireAdmin settings cookie
  let post ← findPost postId
  commit (.updatePost post.id (post.changes (postColumns post body (← now))))
  return { body := .status "updated" }

def adminDeletePost (settings : AdminSettings) (cookie : Option String) (postId : String) :
    Act Response := do
  let _ ← requireAdmin settings cookie
  let post ← findPost postId
  commit (.deletePost post.id)
  return { body := .status "deleted" }

-- The public pages.

def postOut (post : Post) : PostOut where
  slug := post.slug
  title := post.title
  excerpt := post.excerpt
  coverImageUrl := post.coverImageUrl
  publishedAt := post.publishedAt

def postDetailOut (post : Post) : PostDetailOut where
  toPostOut := postOut post
  bodyMd := post.bodyMd

-- The database refuses a negative OFFSET, and then a negative LIMIT.
def pageBounds (limit offset : Int) : Except Exn Unit :=
  if offset < 0 then .error ⟨.other, "OFFSET must not be negative"⟩
  else if limit < 0 then .error ⟨.other, "LIMIT must not be negative"⟩
  else .ok ()

omit [Platform] in
theorem pageBounds_eq_ok {limit offset : Int} :
    pageBounds limit offset = .ok () ↔ 0 ≤ limit ∧ 0 ≤ offset := by
  unfold pageBounds
  split
  · simp; omega
  · split <;> simp <;> omega

def listPosts (limit offset : Int) : Act Response := do
  let posts ← Prog.ofExcept (← ask .publishedPosts)
  Prog.ofExcept (pageBounds limit offset)
  return { body := .posts (((posts.drop offset.toNat).take limit.toNat).map postOut) }

def getPost (slug : String) : Act Response := do
  match ← Prog.ofExcept (← ask (.postBySlug slug)) with
  | none => httpException 404 "Not found"
  | some post => return { body := .post (postDetailOut post) }

end BridgeOfHope.Admin
