import BridgeOfHope.Process.Pool

namespace Process

variable {Op : Type} {Ans : Op → Type} {ε Loc Shared Req Out : Type}

-- An instruction of a script. The operation is the one that the thread issues;
-- the script only decides who moves and what is answered.
inductive Cue (Op : Type) (Ans : Op → Type) (Loc Shared Req : Type) : Type
  | arrive (req : Req)
  | act (i : Nat) (reply : Shared → Loc → (op : Op) → Ans op)
  | finish (i : Nat)
  | crash (i : Nat)

namespace System

variable (S : System Op Ans ε Loc Shared Req Out)
  (allow : Pool Op Ans ε Loc Shared Req Out → Move Op Ans Req → Prop)
  [∀ pool move, Decidable (allow pool move)]
  [∀ shared locs loc op answer, Decidable (S.enabled shared locs loc op answer)]

-- The move that a cue stands for and where it leads, when it is admitted.
def perform? (pool : Pool Op Ans ε Loc Shared Req Out) :
    Cue Op Ans Loc Shared Req → Option (Pool Op Ans ε Loc Shared Req Out)
  | .arrive req =>
      if allow pool (.arrive req) then
        some ⟨pool.shared, pool.threads ++ [⟨req, S.fresh, .running (S.start req)⟩]⟩
      else none
  | .act i reply => match pool.threads[i]? with
    | some ⟨req, loc, .running (.call op next)⟩ =>
        if S.enabled pool.shared (pool.threads.map Thread.loc) loc op (reply pool.shared loc op) ∧
            allow pool (.act i op (reply pool.shared loc op)) then
          some ⟨S.effect pool.shared loc op (reply pool.shared loc op),
            pool.threads.set i ⟨req, S.update loc op (reply pool.shared loc op),
              .running (next (reply pool.shared loc op))⟩⟩
        else none
    | _ => none
  | .finish i => match pool.threads[i]? with
    | some ⟨req, loc, .running (.ret value)⟩ =>
        if allow pool (.finish i) then
          some ⟨pool.shared, pool.threads.set i ⟨req, S.close loc, .ended (.ok value)⟩⟩
        else none
    | some ⟨req, loc, .running (.raise error)⟩ =>
        if allow pool (.finish i) then
          some ⟨pool.shared, pool.threads.set i ⟨req, S.close loc, .ended (.error error)⟩⟩
        else none
    | _ => none
  | .crash i => match pool.threads[i]? with
    | some ⟨req, loc, .running _⟩ =>
        if allow pool (.crash i) then
          some ⟨pool.shared, pool.threads.set i ⟨req, S.close loc, .died⟩⟩
        else none
    | _ => none

def play (pool : Pool Op Ans ε Loc Shared Req Out) :
    List (Cue Op Ans Loc Shared Req) → Option (Pool Op Ans ε Loc Shared Req Out)
  | [] => some pool
  | cue :: cues => match S.perform? allow pool cue with
    | some pool' => play pool' cues
    | none => none

variable {S allow} {pool pool' : Pool Op Ans ε Loc Shared Req Out}

theorem perform?_sound {cue : Cue Op Ans Loc Shared Req} (h : S.perform? allow pool cue = some pool') :
    ∃ move, allow pool move ∧ S.Step pool move pool' := by
  obtain ⟨shared, threads⟩ := pool
  unfold perform? at h
  split at h
  · split at h
    · next hallow =>
        cases h
        exact ⟨_, hallow, .arrive _ _ _⟩
    · cases h
  · split at h
    · next hthread =>
        split at h
        · next hanswer =>
            cases h
            exact ⟨_, hanswer.2, .act hthread hanswer.1⟩
        · cases h
    · cases h
  · split at h
    · next hthread =>
        split at h
        · next hallow =>
            cases h
            exact ⟨_, hallow, .finish hthread⟩
        · cases h
    · next hthread =>
        split at h
        · next hallow =>
            cases h
            exact ⟨_, hallow, .fail hthread⟩
        · cases h
    · cases h
  · split at h
    · next hthread =>
        split at h
        · next hallow =>
            cases h
            exact ⟨_, hallow, .crash hthread⟩
        · cases h
    · cases h

theorem play_sound {cues : List (Cue Op Ans Loc Shared Req)} (h : S.play allow pool cues = some pool') :
    S.Run allow pool pool' := by
  induction cues generalizing pool with
  | nil =>
      cases h
      exact .refl
  | cons cue cues ih =>
      unfold play at h
      split at h
      · next pool₁ hcue => exact .head (perform?_sound hcue) (ih h)
      · cases h

-- A script that plays to its end, and ends as asked, is a run that does.
theorem exists_run {P : Pool Op Ans ε Loc Shared Req Out → Prop} [DecidablePred P]
    (cues : List (Cue Op Ans Loc Shared Req)) (h : (S.play allow pool cues).any (fun p => P p) = true) :
    ∃ pool', S.Run allow pool pool' ∧ P pool' := by
  obtain ⟨pool', hplay, hP⟩ := (Option.any_eq_true _ _).mp h
  exact ⟨pool', play_sound hplay, of_decide_eq_true hP⟩

end System

end Process
