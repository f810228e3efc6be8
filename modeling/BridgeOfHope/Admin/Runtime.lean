import BridgeOfHope.Admin.Models
import BridgeOfHope.Process.Pool
import BridgeOfHope.Tokens

namespace BridgeOfHope.Admin

open Process

variable [Platform]

-- What the admin router and the public pages ask of their surroundings. The
-- last two are not asked by any handler: time goes by, and an operator edits the
-- admin rows in the database.
inductive Op : Type
  | now
  | uuid7
  | check (key : String)
  | dumps (secretKey salt : String) (data : Json)
  | loads (secretKey salt token : String) (maxAge : ℕ)
  | adminByEmail (email : String)
  | adminById (id : Uuid)
  | postById (id : Uuid)
  | postBySlug (slug : String)
  | publishedPosts
  | commit (stmt : Stmt)
  | pass (duration : Time)
  | operate (admins : List AdminUser)

abbrev Reply : Op → Type
  | .now => Unit
  | .uuid7 => Uuid
  | .check _ => Bool
  | .dumps .. => String
  | .loads .. => Except Exn Json
  | .adminByEmail _ => Except Exn (Option AdminUser)
  | .adminById _ => Except Exn (Option AdminUser)
  | .postById _ => Except Exn (Option Post)
  | .postBySlug _ => Except Exn (Option Post)
  | .publishedPosts => Except Exn (List Post)
  | .commit _ => Except Exn Unit
  | .pass _ => Unit
  | .operate _ => Unit

-- Every answer carries the moment at which it was given.
abbrev Ans (op : Op) : Type := Time × Reply op

abbrev Act := Prog Op Ans Exn

structure Event where
  op : Op
  ans : Ans op

-- What a request has done. No handler reads it.
abbrev Session := List Event

-- A string that `dumps` has produced.
structure Signed where
  secretKey : String
  salt : String
  data : Json
  token : String
  seconds : ℕ
deriving DecidableEq

-- The limiter is an object of the process.
structure World where
  clock : Time := 0
  db : Db := {}
  limiter : RateLimiter ℤ
  signed : List Signed := []

-- Whether `loads` takes the string, at that second. The age is in whole seconds.
def Signed.opens (signed : Signed) (secretKey salt token : String) (maxAge seconds : ℕ) : Bool :=
  signed.secretKey = secretKey && signed.salt = salt && signed.token = token &&
    signed.seconds ≤ seconds && seconds ≤ signed.seconds + maxAge

def latestFirst (posts : List Post) : Prop :=
  posts.Pairwise fun post post' => post'.publishedAt.getD 0 ≤ post.publishedAt.getD 0

instance (posts : List Post) : Decidable (latestFirst posts) := inferInstanceAs (Decidable (List.Pairwise _ _))

-- The answers that are possible. The serializer is ideal: `dumps` gives a string
-- that stands for nothing else, and `loads` takes what `dumps` gave and no other.
def possible (world : World) : (op : Op) → Reply op → Prop
  | .check key, accepted => accepted = (world.limiter.check key world.clock).1
  | .dumps secretKey salt data, token => ∀ signed ∈ world.signed, signed.token = token →
      signed = ⟨secretKey, salt, data, token, world.clock.seconds⟩
  | .loads secretKey salt token maxAge, .ok data => ∃ signed ∈ world.signed,
      signed.opens secretKey salt token maxAge world.clock.seconds = true ∧ signed.data = data
  | .loads secretKey salt token maxAge, .error error =>
      (error.cls = .badSignature ∨ error.cls = .signatureExpired) ∧ ∀ signed ∈ world.signed,
        signed.opens secretKey salt token maxAge world.clock.seconds = false
  | .adminByEmail email, .ok none =>
      ∀ admin ∈ world.db.admins, Platform.citext admin.email ≠ Platform.citext email
  | .adminByEmail email, .ok (some admin) =>
      admin ∈ world.db.admins ∧ Platform.citext admin.email = Platform.citext email
  | .adminById id, .ok none => ∀ admin ∈ world.db.admins, admin.id ≠ id
  | .adminById id, .ok (some admin) => admin ∈ world.db.admins ∧ admin.id = id
  | .postById id, .ok none => ∀ post ∈ world.db.posts, post.id ≠ id
  | .postById id, .ok (some post) => post ∈ world.db.posts ∧ post.id = id
  | .postBySlug slug, .ok none => ∀ post ∈ world.db.posts, post.slug ≠ slug
  | .postBySlug slug, .ok (some post) => post ∈ world.db.posts ∧ post.slug = slug
  | .publishedPosts, .ok posts => posts.Perm (world.db.posts.filter Post.published) ∧ latestFirst posts
  | .commit stmt, .ok _ => world.db.admits stmt
  | _, _ => True

def effect (world : World) : (op : Op) → Reply op → World
  | .check key, _ => { world with limiter := (world.limiter.check key world.clock).2 }
  | .dumps secretKey salt data, token => { world with
      signed := ⟨secretKey, salt, data, token, world.clock.seconds⟩ :: world.signed }
  | .commit stmt, .ok _ => { world with db := world.db.apply stmt }
  | .pass duration, _ => { world with clock := world.clock + duration }
  | .operate admins, _ => { world with db := { world.db with admins := admins } }
  | _, _ => world

instance (world : World) (op : Op) (reply : Reply op) : Decidable (possible world op reply) :=
  match op, reply with
  | .check _, accepted => inferInstanceAs (Decidable (accepted = _))
  | .dumps _ _ _, token => inferInstanceAs (Decidable (∀ signed ∈ world.signed, signed.token = token → _))
  | .loads secretKey salt token maxAge, .ok data => inferInstanceAs (Decidable (∃ signed ∈ world.signed,
      signed.opens secretKey salt token maxAge world.clock.seconds = true ∧ signed.data = data))
  | .loads secretKey salt token maxAge, .error error => inferInstanceAs (Decidable
      ((error.cls = .badSignature ∨ error.cls = .signatureExpired) ∧ ∀ signed ∈ world.signed,
        signed.opens secretKey salt token maxAge world.clock.seconds = false))
  | .adminByEmail _, .ok none => inferInstanceAs (Decidable (∀ admin ∈ world.db.admins, _ ≠ _))
  | .adminByEmail _, .ok (some admin) => inferInstanceAs (Decidable (admin ∈ world.db.admins ∧ _ = _))
  | .adminById id, .ok none => inferInstanceAs (Decidable (∀ admin ∈ world.db.admins, admin.id ≠ id))
  | .adminById id, .ok (some admin) =>
      inferInstanceAs (Decidable (admin ∈ world.db.admins ∧ admin.id = id))
  | .postById id, .ok none => inferInstanceAs (Decidable (∀ post ∈ world.db.posts, post.id ≠ id))
  | .postById id, .ok (some post) => inferInstanceAs (Decidable (post ∈ world.db.posts ∧ post.id = id))
  | .postBySlug slug, .ok none => inferInstanceAs (Decidable (∀ post ∈ world.db.posts, post.slug ≠ slug))
  | .postBySlug slug, .ok (some post) =>
      inferInstanceAs (Decidable (post ∈ world.db.posts ∧ post.slug = slug))
  | .publishedPosts, .ok posts => inferInstanceAs (Decidable
      (posts.Perm (world.db.posts.filter Post.published) ∧ latestFirst posts))
  | .commit stmt, .ok _ => inferInstanceAs (Decidable (world.db.admits stmt))
  | .now, _ | .uuid7, _ | .adminByEmail _, .error _ | .adminById _, .error _ | .postById _, .error _
  | .postBySlug _, .error _ | .publishedPosts, .error _ | .commit _, .error _ | .pass _, _
  | .operate _, _ => isTrue trivial

-- The calls of the handlers.

def ask (op : Op) : Act (Reply op) := do
  return (← Prog.perform op).2

def now : Act Time := do
  return (← Prog.perform .now).1

def uuid7 : Act Uuid := ask .uuid7

-- `login_rate_limiter.check(key)`
def check (key : String) : Act Bool := ask (.check key)

def adminByEmail (email : String) : Act (Option AdminUser) := do
  Prog.ofExcept (← ask (.adminByEmail email))

def adminById (id : Uuid) : Act (Option AdminUser) := do
  Prog.ofExcept (← ask (.adminById id))

def postById (id : Uuid) : Act (Option Post) := do
  Prog.ofExcept (← ask (.postById id))

def commit (stmt : Stmt) : Act Unit := do
  Prog.ofExcept (← ask (.commit stmt))

end BridgeOfHope.Admin
