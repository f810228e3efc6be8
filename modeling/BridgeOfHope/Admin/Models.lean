import BridgeOfHope.Admin.RateLimiter
import BridgeOfHope.Models

namespace BridgeOfHope.Admin

structure AdminUser where
  id : Uuid
  email : String
  passwordHash : String
  totpSecret : Option String := none
  lastLoginAt : Option Time := none
  isActive : Bool := true
deriving DecidableEq

structure Post where
  id : Uuid
  slug : String
  title : String
  bodyMd : String
  excerpt : String
  coverImageUrl : Option String := none
  publishedAt : Option Time := none
deriving DecidableEq

def Post.published (post : Post) : Bool := post.publishedAt.isSome

inductive PostSet : Type
  | slug (value : String)
  | title (value : String)
  | bodyMd (value : String)
  | excerpt (value : String)
  | coverImageUrl (value : Option String)
  | publishedAt (value : Option Time)
deriving DecidableEq

def Post.set (post : Post) : PostSet → Post
  | .slug value => { post with slug := value }
  | .title value => { post with title := value }
  | .bodyMd value => { post with bodyMd := value }
  | .excerpt value => { post with excerpt := value }
  | .coverImageUrl value => { post with coverImageUrl := value }
  | .publishedAt value => { post with publishedAt := value }

def Post.setAll (post : Post) (columns : List PostSet) : Post := columns.foldl Post.set post

-- The columns whose value differs from the loaded one.
def Post.changes (post : Post) (columns : List PostSet) : List PostSet :=
  columns.filter fun column => post.set column ≠ post

def Post.fits (post : Post) : Bool :=
  varchar 200 post.slug && varchar 300 post.title && varchar 500 post.excerpt &&
    post.coverImageUrl.all (varchar 500)

-- What the handlers write, one statement to a commit.
inductive Stmt : Type
  | updateAdmin (id : Uuid) (lastLoginAt : Time)
  | insertPost (row : Post)
  | updatePost (id : Uuid) (columns : List PostSet)
  | deletePost (id : Uuid)
deriving DecidableEq

structure Db where
  admins : List AdminUser := []
  posts : List Post := []
deriving DecidableEq

namespace Db

def apply (db : Db) : Stmt → Db
  | .updateAdmin id lastLoginAt => { db with
      admins := db.admins.map fun row =>
        if row.id = id then { row with lastLoginAt := some lastLoginAt } else row }
  | .insertPost row => { db with posts := db.posts ++ [row] }
  | .updatePost id columns => { db with
      posts := db.posts.map fun row => if row.id = id then row.setAll columns else row }
  | .deletePost id => { db with posts := db.posts.filter fun row => row.id ≠ id }

-- The columns and the unique indexes take the outcome.
def Lawful (db : Db) : Prop :=
  (db.posts.map Post.id).Nodup ∧ (db.posts.map Post.slug).Nodup ∧ ∀ post ∈ db.posts, post.fits = true

instance (db : Db) : Decidable db.Lawful := inferInstanceAs (Decidable (_ ∧ _ ∧ _))

-- An update of a row that is gone is an error, a delete of one is not. Where no
-- column changed there is no update.
def admits (db : Db) (stmt : Stmt) : Prop :=
  (db.apply stmt).Lawful ∧ match stmt with
    | .updateAdmin id _ => id ∈ db.admins.map AdminUser.id
    | .updatePost id columns => columns = [] ∨ id ∈ db.posts.map Post.id
    | _ => True

instance (db : Db) : (stmt : Stmt) → Decidable (db.admits stmt)
  | .updateAdmin id _ => inferInstanceAs (Decidable (_ ∧ id ∈ db.admins.map AdminUser.id))
  | .updatePost id _ => inferInstanceAs (Decidable (_ ∧ (_ ∨ id ∈ db.posts.map Post.id)))
  | .insertPost _ | .deletePost _ => inferInstanceAs (Decidable (_ ∧ True))

end Db

end BridgeOfHope.Admin
