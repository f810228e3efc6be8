import BridgeOfHope.Process.Pool

namespace Process

variable {Op : Type} {Ans : Op → Type} {ε α β Loc Loc' Shared Req Out : Type}

namespace Prog

-- The ways in which one program can come to its end, with some sound answer
-- to each of its operations.
inductive Exec (C : Client Op Ans Loc) :
    Loc → Prog Op Ans ε α → Loc → Except ε α → Prop
  | ret (loc : Loc) (value : α) : Exec C loc (.ret value) loc (.ok value)
  | raise (loc : Loc) (error : ε) : Exec C loc (.raise error) loc (.error error)
  | call {loc loc' : Loc} {op : Op} {next : Ans op → Prog Op Ans ε α} {answer : Ans op}
      {result : Except ε α} (hanswer : C.sound loc op answer)
      (hrest : Exec C (C.update loc op answer) (next answer) loc' result) :
      Exec C loc (.call op next) loc' result

variable {C : Client Op Ans Loc} {C' : Client Op Ans Loc'} {before : Loc → Op → Prop} {loc loc' : Loc}

@[simp] theorem exec_ret {value : α} {result : Except ε α} :
    (Exec C loc (ret value) loc' result) ↔ loc' = loc ∧ result = .ok value := by
  constructor
  · intro h
    cases h
    exact ⟨rfl, rfl⟩
  · rintro ⟨rfl, rfl⟩
    exact .ret _ _

@[simp] theorem exec_raise {error : ε} {result : Except ε α} :
    (Exec C loc (raise error) loc' result) ↔ loc' = loc ∧ result = .error error := by
  constructor
  · intro h
    cases h
    exact ⟨rfl, rfl⟩
  · rintro ⟨rfl, rfl⟩
    exact .raise _ _

@[simp] theorem exec_call {op : Op} {next : Ans op → Prog Op Ans ε α} {result : Except ε α} :
    (Exec C loc (call op next) loc' result) ↔ ∃ answer, C.sound loc op answer ∧
      Exec C (C.update loc op answer) (next answer) loc' result := by
  constructor
  · intro h
    cases h with
    | call hanswer hrest => exact ⟨_, hanswer, hrest⟩
  · rintro ⟨answer, hanswer, hrest⟩
    exact .call hanswer hrest

theorem exec_bind {program : Prog Op Ans ε α} {rest : α → Prog Op Ans ε β} {result : Except ε β} :
    (Exec C loc (program >>= rest) loc' result) ↔
      (∃ mid value, Exec C loc program mid (.ok value) ∧ Exec C mid (rest value) loc' result) ∨
        ∃ error, Exec C loc program loc' (.error error) ∧ result = .error error := by
  rw [bind_eq]
  induction program generalizing loc with
  | ret value => simp [bind]
  | raise error => simp [bind]
  | call op next ih =>
      simp only [bind, exec_call, ih]
      constructor
      · rintro ⟨answer, hanswer, ⟨mid, value, hfirst, hrest⟩ | ⟨error, hfirst, hresult⟩⟩
        · exact .inl ⟨mid, value, ⟨answer, hanswer, hfirst⟩, hrest⟩
        · exact .inr ⟨error, ⟨answer, hanswer, hfirst⟩, hresult⟩
      · rintro (⟨mid, value, ⟨answer, hanswer, hfirst⟩, hrest⟩ | ⟨error, ⟨answer, hanswer, hfirst⟩, hresult⟩)
        · exact ⟨answer, hanswer, .inl ⟨mid, value, hfirst, hrest⟩⟩
        · exact ⟨answer, hanswer, .inr ⟨error, hfirst, hresult⟩⟩

theorem exec_perform {op : Op} {result : Except ε (Ans op)} :
    (Exec C loc (perform op) loc' result) ↔ ∃ answer, C.sound loc op answer ∧
      loc' = C.update loc op answer ∧ result = .ok answer := by
  simp [perform]

theorem exec_ofExcept {value : Except ε α} {result : Except ε α} :
    (Exec C loc (ofExcept value) loc' result) ↔ loc' = loc ∧ result = value := by
  cases value <;> simp [ofExcept]

-- What a program owes, it delivers.
theorem Obeys.exec {program : Prog Op Ans ε α} {after : Loc → Except ε α → Prop}
    {result : Except ε α} (h : program.Obeys C before after loc)
    (hexec : program.Exec C loc loc' result) : after loc' result := by
  induction hexec with
  | ret => exact h
  | raise => exact h
  | call hanswer _ ih => exact ih (h.2 _ hanswer)

-- What each permitted operation keeps holds at the end.
theorem Exec.invariant {program : Prog Op Ans ε α} {after : Loc → Except ε α → Prop} {result : Except ε α}
    (I : Loc → Prop) (hstep : ∀ loc op answer, I loc → before loc op → C.sound loc op answer →
      I (C.update loc op answer))
    (hobeys : program.Obeys C before after loc) (hexec : program.Exec C loc loc' result) (hloc : I loc) :
    I loc' := by
  induction hexec with
  | ret => exact hloc
  | raise => exact hloc
  | call hanswer _ ih => exact ih (hobeys.2 _ hanswer) (hstep _ _ _ hloc hobeys.1 hanswer)

-- And what every way to the end delivers, the program owes.
theorem obeys_of_exec {program : Prog Op Ans ε α} {after : Loc → Except ε α → Prop}
    (h : ∀ loc' result, program.Exec C loc loc' result → after loc' result) :
    program.Obeys C (fun _ _ => True) after loc := by
  induction program generalizing loc with
  | ret value => exact h _ _ (.ret _ _)
  | raise error => exact h _ _ (.raise _ _)
  | call op next ih =>
      exact ⟨trivial, fun answer hanswer => ih answer fun _ _ hexec => h _ _ (.call hanswer hexec)⟩

-- The rule of simulation. Where one surrounding can give an answer the other can
-- give it as well, and the states stay related, so the program can end alike.
theorem Exec.simulate {R : Loc → Loc' → Prop} {program : Prog Op Ans ε α}
    {after : Loc → Except ε α → Prop} {result : Except ε α}
    (hstep : ∀ loc loc₁ op answer, R loc loc₁ → before loc op → C.sound loc op answer →
      C'.sound loc₁ op answer ∧ R (C.update loc op answer) (C'.update loc₁ op answer))
    (hobeys : program.Obeys C before after loc) (hexec : program.Exec C loc loc' result) {loc₁ : Loc'}
    (hrelated : R loc loc₁) : ∃ loc₁', program.Exec C' loc₁ loc₁' result ∧ R loc' loc₁' := by
  induction hexec generalizing loc₁ with
  | ret loc value => exact ⟨loc₁, .ret _ _, hrelated⟩
  | raise loc error => exact ⟨loc₁, .raise _ _, hrelated⟩
  | call hanswer _ ih =>
      obtain ⟨hsound, hnext⟩ := hstep _ _ _ _ hrelated hobeys.1 hanswer
      obtain ⟨loc₁', hexec, hend⟩ := ih (hobeys.2 _ hanswer) hnext
      exact ⟨loc₁', .call hsound hexec, hend⟩

-- The rule of lockstep, for two given ends of one program. `Q` says that the answers
-- were alike so far, and is given for the two ends. Then the ends are alike.
theorem Exec.lockstep {R Q : Loc → Loc' → Prop} {program : Prog Op Ans ε α}
    {after : Loc → Except ε α → Prop} {result result' : Except ε α} {loc₁ loc₁' : Loc'}
    (hleft : ∀ loc loc₁ op answer, Q (C.update loc op answer) loc₁ → Q loc loc₁)
    (hright : ∀ loc loc₁ op answer, Q loc (C'.update loc₁ op answer) → Q loc loc₁)
    (hstep : ∀ loc loc₁ op answer answer₁, R loc loc₁ → before loc op → C.sound loc op answer →
      C'.sound loc₁ op answer₁ → Q (C.update loc op answer) (C'.update loc₁ op answer₁) →
      answer₁ = answer ∧ R (C.update loc op answer) (C'.update loc₁ op answer))
    (hobeys : program.Obeys C before after loc) (hexec : program.Exec C loc loc' result)
    (hexec₁ : program.Exec C' loc₁ loc₁' result') (hend : Q loc' loc₁') (hrelated : R loc loc₁) :
    result' = result ∧ R loc' loc₁' := by
  have hback {mid loc' : Loc} {loc₁ : Loc'} {rest : Prog Op Ans ε α} {result : Except ε α}
      (h : rest.Exec C mid loc' result) (hQ : Q loc' loc₁) : Q mid loc₁ := by
    induction h with
    | ret => exact hQ
    | raise => exact hQ
    | call _ _ ih => exact hleft _ _ _ _ (ih hQ)
  have hback₁ {mid loc₁' : Loc'} {loc : Loc} {rest : Prog Op Ans ε α} {result : Except ε α}
      (h : rest.Exec C' mid loc₁' result) (hQ : Q loc loc₁') : Q loc mid := by
    induction h with
    | ret => exact hQ
    | raise => exact hQ
    | call _ _ ih => exact hright _ _ _ _ (ih hQ)
  induction hexec generalizing loc₁ with
  | ret loc value =>
      obtain ⟨rfl, rfl⟩ := exec_ret.mp hexec₁
      exact ⟨rfl, hrelated⟩
  | raise loc error =>
      obtain ⟨rfl, rfl⟩ := exec_raise.mp hexec₁
      exact ⟨rfl, hrelated⟩
  | call hanswer hrest ih =>
      obtain ⟨answer₁, hanswer₁, hrest₁⟩ := exec_call.mp hexec₁
      have halike := hback hrest (hback₁ hrest₁ hend)
      obtain ⟨rfl, hnext⟩ := hstep _ _ _ _ _ hrelated hobeys.1 hanswer hanswer₁ halike
      exact ih (hobeys.2 _ hanswer) hrest₁ hend hnext

-- One end, for answers that are given by a function.
def follow (C : Client Op Ans Loc) [∀ loc op answer, Decidable (C.sound loc op answer)]
    (reply : Loc → (op : Op) → Ans op) : Loc → Prog Op Ans ε α → Option (Loc × Except ε α)
  | loc, ret value => some (loc, .ok value)
  | loc, raise error => some (loc, .error error)
  | loc, call op next =>
      if C.sound loc op (reply loc op) then
        follow C reply (C.update loc op (reply loc op)) (next (reply loc op))
      else none

theorem exec_of_follow [∀ loc op answer, Decidable (C.sound loc op answer)]
    {reply : Loc → (op : Op) → Ans op} {program : Prog Op Ans ε α} {result : Except ε α}
    (h : follow C reply loc program = some (loc', result)) : program.Exec C loc loc' result := by
  induction program generalizing loc with
  | ret value =>
      cases h
      exact .ret _ _
  | raise error =>
      cases h
      exact .raise _ _
  | call op next ih =>
      unfold follow at h
      split at h
      · next hanswer => exact .call hanswer (ih _ h)
      · cases h

end Prog

-- A request that was served alone: what its process knew in the end, and what came out.
structure Turn (Req Loc ε Out : Type) where
  req : Req
  loc : Loc
  result : Except ε Out

namespace System

-- The process that has the shared state to itself.
def alone (S : System Op Ans ε Loc Shared Req Out) : Client Op Ans (Shared × Loc) where
  update state op answer := (S.effect state.1 state.2 op answer, S.update state.2 op answer)
  sound state op answer := S.enabled state.1 [state.2] state.2 op answer

instance (S : System Op Ans ε Loc Shared Req Out)
    [∀ shared locs loc op answer, Decidable (S.enabled shared locs loc op answer)]
    (state : Shared × Loc) (op : Op) (answer : Ans op) : Decidable (S.alone.sound state op answer) :=
  inferInstanceAs (Decidable (S.enabled state.1 [state.2] state.2 op answer))

variable {S : System Op Ans ε Loc Shared Req Out}

-- It may rely on what it would obey among others.
theorem obeys_alone {before : Loc → Op → Prop} {after : Loc → Except ε α → Prop}
    {program : Prog Op Ans ε α} {shared : Shared} {loc : Loc}
    (h : program.Obeys S.toClient before after loc) :
    program.Obeys S.alone (fun state op => before state.2 op)
      (fun state result => after state.2 result) (shared, loc) := by
  induction program generalizing shared loc with
  | ret value => exact h
  | raise error => exact h
  | call op next ih =>
      exact ⟨h.1, fun answer hanswer => ih answer (h.2 answer (S.sound_of_enabled _ _ _ _ _ hanswer))⟩

-- A request that is served alone.
def Serves (S : System Op Ans ε Loc Shared Req Out) (shared : Shared) (req : Req)
    (state : Shared × Loc) (result : Except ε Out) : Prop :=
  (S.start req).Exec S.alone (shared, S.fresh) state result

-- Requests that are served one after another. Each starts from what the ones before it left.
inductive InTurn (S : System Op Ans ε Loc Shared Req Out) : Shared → List (Turn Req Loc ε Out) → Shared → Prop
  | nil (shared : Shared) : InTurn S shared [] shared
  | snoc {shared shared' : Shared} {served : List (Turn Req Loc ε Out)} {req : Req} {state : Shared × Loc}
    {result : Except ε Out}
      (hearlier : InTurn S shared served shared') (hserves : S.Serves shared' req state result) :
      InTurn S shared (served ++ [⟨req, state.2, result⟩]) state.1

theorem run_of_exec {req : Req} {state state' : Shared × Loc} {program : Prog Op Ans ε Out}
    {result : Except ε Out} (h : program.Exec S.alone state state' result) :
    S.Run (fun _ _ => True) ⟨state.1, [⟨req, state.2, .running program⟩]⟩
      ⟨state'.1, [⟨req, S.close state'.2, .ended result⟩]⟩ := by
  induction h with
  | ret state value =>
      have hstep : S.Step ⟨state.1, [⟨req, state.2, .running (.ret value)⟩]⟩ (.finish 0)
          ⟨state.1, [⟨req, S.close state.2, .ended (.ok value)⟩]⟩ := .finish rfl
      exact .single ⟨_, trivial, hstep⟩
  | raise state error =>
      have hstep : S.Step ⟨state.1, [⟨req, state.2, .running (.raise error)⟩]⟩ (.finish 0)
          ⟨state.1, [⟨req, S.close state.2, .ended (.error error)⟩]⟩ := .fail rfl
      exact .single ⟨_, trivial, hstep⟩
  | @call state state' op next answer result hanswer _ ih =>
      have hstep : S.Step ⟨state.1, [⟨req, state.2, .running (.call op next)⟩]⟩ (.act 0 op answer)
          ⟨S.effect state.1 state.2 op answer,
            [⟨req, S.update state.2 op answer, .running (next answer)⟩]⟩ := .act rfl hanswer
      exact .head ⟨_, trivial, hstep⟩ ih

-- It is one of the runs of the pool.
theorem Serves.run {shared : Shared} {req : Req} {state : Shared × Loc} {result : Except ε Out}
    (h : S.Serves shared req state result) :
    S.Run (fun _ _ => True) ⟨shared, []⟩ ⟨state.1, [⟨req, S.close state.2, .ended result⟩]⟩ :=
  .head ⟨_, trivial, .arrive shared [] req⟩ (run_of_exec h)

-- One history, for answers that are given by a function for each request.
def serveAll (S : System Op Ans ε Loc Shared Req Out)
    [∀ shared locs loc op answer, Decidable (S.enabled shared locs loc op answer)] :
    Shared → List (Req × (Shared → Loc → (op : Op) → Ans op)) → Option (List (Turn Req Loc ε Out) × Shared)
  | shared, [] => some ([], shared)
  | shared, (req, reply) :: later => do
      let (state, result) ← (S.start req).follow S.alone (fun state => reply state.1 state.2) (shared, S.fresh)
      let (served, last) ← S.serveAll state.1 later
      return (⟨req, state.2, result⟩ :: served, last)

theorem InTurn.append_serveAll [∀ shared locs loc op answer, Decidable (S.enabled shared locs loc op answer)]
    {shared mid last : Shared} {served served' : List (Turn Req Loc ε Out)}
    {requests : List (Req × (Shared → Loc → (op : Op) → Ans op))} (h : InTurn S shared served mid)
    (hall : S.serveAll mid requests = some (served', last)) : InTurn S shared (served ++ served') last := by
  induction requests generalizing served served' mid with
  | nil =>
      cases hall
      simpa using h
  | cons request later ih =>
      obtain ⟨req, reply⟩ := request
      simp only [serveAll, Option.bind_eq_bind, Option.bind_eq_some_iff, Option.pure_def, Option.some.injEq,
        Prod.mk.injEq] at hall
      obtain ⟨⟨state, result⟩, hfollow, ⟨served'', last'⟩, hlater, rfl, rfl⟩ := hall
      have hnext := ih (h.snoc (Prog.exec_of_follow hfollow)) hlater
      simpa using hnext

end System

end Process
