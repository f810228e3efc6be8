import BridgeOfHope.Process.Solo
import BridgeOfHope.Service.Lemmas

namespace BridgeOfHope

open Process

-- A request that is served while nobody else is at work.

variable [Platform] {world : World} {request : Request} {state state' : World × Session}
  {result : Except Exn Response}

theorem past_of_exec {α : Type} {program : Act α} {result : Except Exn α}
    (h : program.Exec service.alone state state' result) : state.2.past <:+ state'.2.past := by
  induction h with
  | ret => exact List.suffix_rfl
  | raise => exact List.suffix_rfl
  | call _ _ ih => exact (List.suffix_cons _ _).trans ih

theorem serves_obeys (request : Request) (world : World) :
    (service.start request).Obeys service.alone (fun state op => Permits request state.2 op)
      (fun state result => Concludes request state.2 result) (world, service.fresh) :=
  System.obeys_alone (handler_obeys request)

theorem serves_concludes (h : service.Serves world request state result) : Concludes request state.2 result :=
  (serves_obeys request world).exec h

theorem serves_invariant (I : World × Session → Prop)
    (hstep : ∀ state op ans, I state → Permits request state.2 op → service.alone.sound state op ans →
      I (service.alone.update state op ans))
    (h : service.Serves world request state result) (hinit : I (world, {})) : I state :=
  Prog.Exec.invariant I hstep (serves_obeys request world) h hinit

-- The tables have changed by what the request has committed.
def Unshared (world : World) (state : World × Session) : Prop :=
  state.1.db = world.db.applyAll state.2.committed

theorem Unshared.step (h : Unshared world state) (op : Op) (ans : Ans op) :
    Unshared world (service.alone.update state op ans) := by
  show (effect state.1 state.2 op ans).db = world.db.applyAll (state.2.update op ans).committed
  have hdb : state.1.db = world.db.applyAll state.2.committed := h
  by_cases hcommit : (⟨op, ans⟩ : Event) = ⟨.commit, .ok ()⟩
  · cases hcommit
    show state.1.db.applyAll state.2.flushed = world.db.applyAll (state.2.committed ++ state.2.flushed)
    rw [Db.applyAll_append, hdb]
  · rw [effect_quiet hcommit, Session.committed_update hcommit, hdb]

theorem serves_db (h : service.Serves world request state result) :
    state.1.db = world.db.applyAll state.2.committed :=
  serves_invariant (Unshared world) (fun _ op ans h _ _ => h.step op ans) h rfl

-- The open subscriptions are looked for before anything is written.
theorem serves_looks (h : service.Serves world request state result) {donorId : Uuid} {rows : List Subscription}
    (hread : ⟨.query (.openSubscriptions donorId), .ok rows⟩ ∈ state.2.past) :
    rows.Perm ((Query.openSubscriptions donorId).select world.db) := by
  have hall := serves_invariant (fun state => Unshared world state ∧
    ∀ donorId rows, ⟨.query (.openSubscriptions donorId), .ok rows⟩ ∈ state.2.past →
      rows.Perm ((Query.openSubscriptions donorId).select world.db)) ?_ h ⟨rfl, by simp⟩
  · exact hall.2 donorId rows hread
  · rintro state op ans ⟨hdb, hreads⟩ hpermits hsound
    refine ⟨hdb.step op ans, fun donorId rows hmem => ?_⟩
    rcases List.mem_cons.mp hmem with hnew | hold
    · cases hnew
      obtain ⟨-, hflushed, hcommitted⟩ := hpermits
      have hview : state.2.view state.1.db = world.db := by
        have hsame : state.1.db = world.db.applyAll state.2.committed := hdb
        simp [Session.view, hflushed, hsame, hcommitted]
      exact hview ▸ hsound.2
    · exact hreads donorId rows hold

end BridgeOfHope
