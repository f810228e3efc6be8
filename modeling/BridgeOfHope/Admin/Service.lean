import BridgeOfHope.Admin.Router
import BridgeOfHope.Service

namespace BridgeOfHope.Admin

open Process

variable [Platform] [Credentials]

-- The last two are no requests: they stand for what happens besides.
inductive Endpoint : Type
  | login (client : Option String) (body : LoginBody)
  | logout
  | me (cookie : Option String)
  | createPost (cookie : Option String) (body : PostBody)
  | updatePost (cookie : Option String) (postId : String) (body : PostBody)
  | deletePost (cookie : Option String) (postId : String)
  | listPosts (limit offset : Int)
  | getPost (slug : String)
  | manageToken (donorId : Uuid)
  | pass (duration : Time)
  | operate (admins : List AdminUser)
deriving DecidableEq

structure Request where
  settings : AdminSettings
  endpoint : Endpoint
deriving DecidableEq

def Request.handler (request : Request) : Act Response :=
  match request.endpoint with
  | .login client body => login request.settings client body
  | .logout => logout
  | .me cookie => me request.settings cookie
  | .createPost cookie body => adminCreatePost request.settings cookie body
  | .updatePost cookie postId body => adminUpdatePost request.settings cookie postId body
  | .deletePost cookie postId => adminDeletePost request.settings cookie postId
  | .listPosts limit offset => listPosts limit offset
  | .getPost slug => getPost slug
  | .manageToken donorId => do
      return ⟨.status (← issueManageToken request.settings.secretKey donorId), none⟩
  | .pass duration => do
      ask (.pass duration)
      return ⟨.status "", none⟩
  | .operate admins => do
      ask (.operate admins)
      return ⟨.status "", none⟩

def update (session : Session) (op : Op) (ans : Ans op) : Session := ⟨op, ans⟩ :: session

-- What an answer tells the request itself.
def sound (_ : Session) : (op : Op) → Ans op → Prop
  | .adminById id, (_, .ok (some admin)) => admin.id = id
  | .loads .., (_, .error error) => error.cls = .badSignature ∨ error.cls = .signatureExpired
  | _, _ => True

def service : System Op Ans Exn Session World Request Response where
  update := update
  sound := sound
  start := Request.handler
  fresh := []
  close session := session
  enabled world _ _ op ans := ans.1 = world.clock ∧ possible world op ans.2
  effect world _ op ans := effect world op ans.2
  sound_of_enabled world _ _ op ans h := by
    obtain ⟨time, reply⟩ := ans
    cases op with
    | adminById id => match reply with
      | .ok (some admin) => exact h.2.2
      | .ok none | .error _ => trivial
    | loads secretKey salt token maxAge => cases reply with
      | ok data => trivial
      | error error => exact h.2.1
    | _ => trivial

instance (world : World) (sessions : List Session) (session : Session) (op : Op) (ans : Ans op) :
    Decidable (service.enabled world sessions session op ans) :=
  inferInstanceAs (Decidable (ans.1 = world.clock ∧ possible world op ans.2))

abbrev AdminThread := Thread Op Ans Exn Session Request Response

abbrev AdminPool := Pool Op Ans Exn Session World Request Response

abbrev AdminMove := Move Op Ans Request

end BridgeOfHope.Admin

namespace BridgeOfHope.Admin.Trial

open Process BridgeOfHope.Trial

-- A concrete surrounding for the admin router.

def passwordHash : String :=
  "$argon2id$v=19$m=8,t=1,p=1$YnJpZGdlLW9mLWhvcGUtMQ$GKRt46tTeYfePHOj6l2vmMLIiV9+mIXNbclK6xl9nV0"

def totpSecret : String := "JBSWY3DPEHPK3PXP"

-- The code is good in its own half minute and in the two next to it.
scoped instance : Credentials where
  argon2 hash plaintext :=
    if hash = passwordHash ∧ plaintext = "karibu-2025" then .verified else .mismatch
  totp secret code time := .ok (decide (secret = totpSecret ∧ code = "509970" ∧
    time.seconds / 30 ≤ clock.seconds / 30 + 1 ∧ clock.seconds / 30 ≤ time.seconds / 30 + 1))

def admin : AdminUser where
  id := uuid 1
  email := "office@example.org"
  passwordHash := passwordHash
  totpSecret := some totpSecret

def sessionToken : String :=
  ".eJyrVkpMyc3Mi89MUbJSMjC0NDc3MTLQTUk2MNA1NwASFiDCAAEMlWoBX9wMOQ.aE7hgA." ++
    "bS1YQa2uLVspXtfoOFKMsYztvsA"

def world : World where
  clock := clock
  db := { admins := [admin] }
  limiter := loginRateLimiter

-- Every operation goes well.
def answer (n : ℕ) (world : World) (s : Session) : (op : Op) → Reply op
  | .now => ()
  | .uuid7 => uuid (100 * n + s.length)
  | .check key => (world.limiter.check key world.clock).1
  | .dumps _ salt _ => if salt = adminSession.salt then sessionToken else manageToken
  | .loads secretKey salt token maxAge =>
      match world.signed.find? fun signed =>
        signed.opens secretKey salt token maxAge world.clock.seconds with
      | some signed => .ok signed.data
      | none => .error ⟨.badSignature, "Signature does not match"⟩
  | .adminByEmail email => .ok (world.db.admins.find? fun admin =>
      Platform.citext admin.email = Platform.citext email)
  | .adminById id => .ok (world.db.admins.find? fun admin => admin.id = id)
  | .postById id => .ok (world.db.posts.find? fun post => post.id = id)
  | .postBySlug slug => .ok (world.db.posts.find? fun post => post.slug = slug)
  | .publishedPosts => .ok (world.db.posts.filter Post.published)
  | .commit _ => .ok ()
  | .pass _ => ()
  | .operate _ => ()

def reply (n : ℕ) (world : World) (s : Session) (op : Op) : Ans op := (world.clock, answer n world s op)

def settings : AdminSettings := { BridgeOfHope.Trial.settings.settings with environment := "production" }

def loginRequest : Request :=
  ⟨settings, .login (some "192.0.2.7") ⟨"Office@example.org", "karibu-2025", "509970"⟩⟩

def meRequest : Request := ⟨settings, .me (some sessionToken)⟩

abbrev AdminCue := Cue Op Ans Session World Request

def turns (i count : ℕ) : List AdminCue := List.replicate count (.act i (reply i))

-- The whole of a request with so many operations.
def serve (i count : ℕ) (request : Request) : List AdminCue :=
  [.arrive request] ++ turns i count ++ [.finish i]

theorem exists_run (P : AdminPool → Prop) [DecidablePred P] (cues : List AdminCue)
    (h : (service.play (fun _ _ => True) ⟨world, []⟩ cues).any (fun pool => P pool) = true) :
    ∃ pool, service.Run (fun _ _ => True) ⟨world, []⟩ pool ∧ P pool :=
  System.exists_run cues h

end BridgeOfHope.Admin.Trial
