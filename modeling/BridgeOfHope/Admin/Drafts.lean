import BridgeOfHope.Admin.Conduct
import Mathlib.Data.List.Nodup

namespace BridgeOfHope.Admin

open Process

-- Which posts the public pages show.

section

variable [Platform] {world : World}

theorem effect_lawful {op : Op} (reply : Reply op) (hpossible : possible world op reply)
    (h : world.db.Lawful) : (effect world op reply).db.Lawful := by
  cases op with
  | commit stmt => cases reply with
    | ok _ => exact hpossible.1
    | error error => exact h
  | _ => exact h

variable [Credentials] {settings : AdminSettings} {slug : String} {limit offset : Int} {response : Response}

-- A query that comes back with rows, and the request goes on with them.
theorem exec_query {op : Op} {α β : Type} {state state' : World × Session} {read : Reply op → Except Exn α}
    {rest : α → Act β} {value : β} :
    (ask op >>= fun reply => Prog.ofExcept (read reply) >>= rest : Act β).Exec service.alone state
      state' (.ok value) ↔
      ∃ reply found, possible state.1 op reply ∧ read reply = .ok found ∧
        (rest found).Exec service.alone
        (effect state.1 op reply, ⟨op, (state.1.clock, reply)⟩ :: state.2) state'
          (.ok value) := by
  rw [Prog.exec_bind]
  constructor
  · rintro (⟨mid, reply, hask, hread⟩ | ⟨error, -, hresult⟩)
    · obtain ⟨reply', hpossible, rfl, hreply⟩ := exec_ask.mp hask
      cases hreply
      rcases Prog.exec_bind.mp hread with ⟨mid, found, hfound, hrest⟩ | ⟨error, -, hresult⟩
      · obtain ⟨rfl, hread⟩ := Prog.exec_ofExcept.mp hfound
        exact ⟨reply, found, hpossible, hread.symm, hrest⟩
      · cases hresult
    · cases hresult
  · rintro ⟨reply, found, hpossible, hfound, hrest⟩
    refine .inl ⟨_, reply, exec_ask.mpr ⟨reply, hpossible, rfl, rfl⟩, ?_⟩
    exact Prog.exec_bind.mpr (.inl ⟨_, found, Prog.exec_ofExcept.mpr ⟨rfl, hfound.symm⟩, hrest⟩)

theorem serves_listPosts : (∃ state,
    service.Serves world ⟨settings, .listPosts limit offset⟩ state (.ok response)) ↔
    0 ≤ limit ∧ 0 ≤ offset ∧ ∃ posts, posts.Perm (world.db.posts.filter Post.published) ∧ latestFirst posts ∧
      response = { body := .posts (((posts.drop offset.toNat).take limit.toNat).map postOut) } := by
  have hquery {state : World × Session} := @exec_query _ _ .publishedPosts (List Post) Response (world, [])
    state id (fun posts => do
      Prog.ofExcept (pageBounds limit offset)
      return { body := .posts (((posts.drop offset.toNat).take limit.toNat).map postOut) }) response
  constructor
  · rintro ⟨state, hserves⟩
    obtain ⟨reply, posts, hpossible, rfl, hrest⟩ := hquery.mp hserves
    rcases Prog.exec_bind.mp hrest with ⟨mid, _, hlimits, hret⟩ | ⟨error, -, hresult⟩
    · obtain ⟨hlimit, hoffset⟩ := pageBounds_eq_ok.mp (Prog.exec_ofExcept.mp hlimits).2.symm
      exact ⟨hlimit, hoffset, posts, hpossible.1, hpossible.2, Except.ok.inj (Prog.exec_ret.mp hret).2⟩
    · cases hresult
  · rintro ⟨hlimit, hoffset, posts, hperm, hsorted, rfl⟩
    refine ⟨(world, [⟨.publishedPosts, (world.clock, .ok posts)⟩]),
      hquery.mpr ⟨.ok posts, posts, ⟨hperm, hsorted⟩, rfl, ?_⟩⟩
    have hbounds := pageBounds_eq_ok.mpr ⟨hlimit, hoffset⟩
    exact Prog.exec_bind.mpr
      (.inl ⟨_, (), Prog.exec_ofExcept.mpr ⟨rfl, hbounds.symm⟩, Prog.exec_ret.mpr ⟨rfl, rfl⟩⟩)

-- The page of a post can be read.
def Shown (settings : AdminSettings) (world : World) (slug : String) : Prop :=
  ∃ state post, service.Serves world ⟨settings, .getPost slug⟩ state (.ok { body := .post post })

variable {pool pool' : AdminPool} {move : AdminMove}

theorem lawful_run {allow : AdminPool → AdminMove → Prop} (hworld : world.db.Lawful)
    (hrun : service.Run allow ⟨world, []⟩ pool) : pool.shared.db.Lawful :=
  hrun.invariant (I := fun pool => pool.shared.db.Lawful) hworld fun pool move pool' h _ hmove => by
    cases hmove with
    | act _ hanswer => exact effect_lawful _ hanswer.2 h
    | _ => exact h

end

open BridgeOfHope.Admin.Trial
open scoped BridgeOfHope.Trial

end BridgeOfHope.Admin
