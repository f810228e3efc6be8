import BridgeOfHope.Admin.Drafts
import BridgeOfHope.Select.Pages

namespace BridgeOfHope.Admin

open Process

-- The public list of posts, read page by page.

def publishedPosts : Select Post Time where
  keep := Post.published
  key post := post.publishedAt.getD 0

theorem map_inj_on {α β : Type} {f : α → β} {rows rows' : List α}
    (hinj : ∀ row ∈ rows, ∀ row' ∈ rows', f row = f row' → row = row') (h : rows.map f = rows'.map f) :
    rows = rows' := by
  induction rows generalizing rows' with
  | nil => exact (List.map_eq_nil_iff.mp h.symm).symm
  | cons row rows ih =>
    cases rows' with
    | nil => cases h
    | cons row' rows' =>
      obtain ⟨hrow, hrows⟩ := List.cons.inj h
      rw [hinj row List.mem_cons_self row' List.mem_cons_self hrow]
      rw [ih (fun a ha b hb => hinj a (List.mem_cons_of_mem _ ha) b (List.mem_cons_of_mem _ hb)) hrows]

section

variable [Platform] [Credentials] {settings : AdminSettings} {world : World} {size n i : ℕ}
  {outs : List PostOut}

-- `GET /posts?limit={size}&offset={i * size}`
def ServesPage (settings : AdminSettings) (world : World) (size i : ℕ) (outs : List PostOut) : Prop :=
  ∃ state, service.Serves world ⟨settings, .listPosts size ((i * size : ℕ) : ℤ)⟩ state
    (.ok { body := .posts outs })

theorem servesPage_iff : ServesPage settings world size i outs ↔
    ∃ found, (publishedPosts.page size i).Answers world.db.posts found ∧ outs = found.map postOut := by
  unfold ServesPage
  rw [serves_listPosts]
  constructor
  · rintro ⟨-, -, posts, hperm, hsorted, hresponse⟩
    cases hresponse
    exact ⟨_, ⟨posts, hperm, hsorted, rfl⟩, rfl⟩
  · rintro ⟨found, ⟨posts, hperm, hsorted, rfl⟩, rfl⟩
    exact ⟨Int.natCast_nonneg size, Int.natCast_nonneg (i * size), posts, hperm, hsorted, rfl⟩

-- What a reader should see: the published posts, the latest first.
def Complete (world : World) (outs : List PostOut) : Prop :=
  ∃ found, found.Perm (world.db.posts.filter Post.published) ∧ latestFirst found ∧ outs = found.map postOut

variable {allow : AdminPool → AdminMove → Prop} {pool : AdminPool}

-- In every reachable state, a reader who goes from page to page sees every published
-- post once and in order, whatever the database does with posts of one moment,
-- exactly when no two posts of one moment stand on two sides of a page end.
theorem pages_complete_iff (hworld : world.db.Lawful) (hrun : service.Run allow ⟨world, []⟩ pool)
    (hsize : 0 < size) (hall : (pool.shared.db.posts.filter Post.published).length ≤ n * size) :
    (∀ pages : ℕ → List PostOut, (∀ i < n, ServesPage settings pool.shared size i (pages i)) →
      Complete pool.shared ((List.range n).flatMap pages)) ↔
        ¬ publishedPosts.Torn size pool.shared.db.posts := by
  have hlawful := lawful_run hworld hrun
  have hnodup : (pool.shared.db.posts.filter Post.published).Nodup := hlawful.1.of_map.filter _
  have hanswers {rows : List Post} : publishedPosts.Answers pool.shared.db.posts rows ↔
      rows.Perm (pool.shared.db.posts.filter Post.published) ∧ latestFirst rows := Select.answers_all rfl rfl
  rw [← Select.pages_iff rfl rfl hsize hnodup hall]
  constructor
  · intro h pages hpages
    obtain ⟨found, hperm, hsorted, houts⟩ := h (fun i => (pages i).map postOut) fun i hi =>
      servesPage_iff.mpr ⟨pages i, hpages i hi, rfl⟩
    rw [← List.map_flatMap] at houts
    have hsame : (List.range n).flatMap pages = found := by
      refine map_inj_on (fun post hpost post' hpost' hout => ?_) houts
      obtain ⟨i, hi, hmem⟩ := List.mem_flatMap.mp hpost
      have hstored := ((hpages i (List.mem_range.mp hi)).mem hmem).1
      have hstored' := (List.mem_filter.mp (hperm.mem_iff.mp hpost')).1
      exact List.inj_on_of_nodup_map hlawful.2.1 hstored hstored' (congrArg PostOut.slug hout)
    rw [hsame, hanswers]
    exact ⟨hperm, hsorted⟩
  · intro h pages hpages
    choose! found hfound houts using fun i hi => servesPage_iff.mp (hpages i hi)
    obtain ⟨hperm, hsorted⟩ := hanswers.mp (h found hfound)
    refine ⟨_, hperm, hsorted, ?_⟩
    rw [List.map_flatMap]
    exact List.flatMap_congr fun i hi => houts i (List.mem_range.mp hi)

end

open BridgeOfHope.Admin.Trial
open scoped BridgeOfHope.Trial

def harvest (slug : String) : PostBody where
  slug := slug
  title := "Harvest"
  bodyMd := "A good year."
  excerpt := "A good year."
  published := true

def creates (slug : String) : Request := ⟨settings, .createPost (some sessionToken) (harvest slug)⟩

-- An administrator publishes two posts in one moment.
def twoHarvests : List AdminCue :=
  serve 0 6 loginRequest ++ serve 1 5 (creates "harvest-2024") ++ serve 2 5 (creates "harvest-2025")

theorem pages_complete_twoHarvests : ∃ pool, service.Run (fun _ _ => True) ⟨world, []⟩ pool ∧
    (pool.shared.db.posts.filter Post.published).length = 2 ∧
    ¬ ∀ pages : ℕ → List PostOut, (∀ i < 2, ServesPage settings pool.shared 1 i (pages i)) →
      Complete pool.shared ((List.range 2).flatMap pages) := by
  obtain ⟨pool, hrun, hdates⟩ := exists_run
    (fun pool => pool.shared.db.posts.map Post.publishedAt = [some world.clock, some world.clock]) twoHarvests
    (by decide +kernel)
  obtain ⟨first, rest, hposts, hfirst, hrest⟩ := List.map_eq_cons_iff.mp hdates
  obtain ⟨second, rfl, hsecond⟩ := List.map_eq_singleton_iff.mp hrest
  have hall : pool.shared.db.posts.filter Post.published = [first, second] := by
    simp [hposts, Post.published, hfirst, hsecond]
  have htorn : publishedPosts.Torn 1 pool.shared.db.posts :=
    ⟨[first, second], [], first, second, [], 0, .of_eq hall.symm,
      by simp [Select.Sorted, publishedPosts, hfirst, hsecond], rfl, rfl,
      by simp [publishedPosts, hfirst, hsecond]⟩
  have hlength : (pool.shared.db.posts.filter Post.published).length = 2 := congrArg List.length hall
  refine ⟨pool, hrun, hlength, fun h => ?_⟩
  exact (pages_complete_iff (by decide) hrun Nat.one_pos hlength.le).mp h htorn

end BridgeOfHope.Admin
