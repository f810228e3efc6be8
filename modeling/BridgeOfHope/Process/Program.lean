import Mathlib.Logic.Basic

namespace Process

variable {Op : Type} {Ans : Op → Type} {ε α β γ : Type}

-- A program that issues operations one at a time and goes on with each answer.
-- It is a finite tree. Every path through it ends in a value or in an error.
inductive Prog (Op : Type) (Ans : Op → Type) (ε α : Type) : Type
  | ret (value : α)
  | raise (error : ε)
  | call (op : Op) (next : Ans op → Prog Op Ans ε α)

namespace Prog

def bind : Prog Op Ans ε α → (α → Prog Op Ans ε β) → Prog Op Ans ε β
  | ret value, rest => rest value
  | raise error, _ => raise error
  | call op next, rest => call op fun answer => (next answer).bind rest

-- `try … except`: an error of the first program runs the handler.
def handle : Prog Op Ans ε α → (ε → Prog Op Ans ε α) → Prog Op Ans ε α
  | ret value, _ => ret value
  | raise error, handler => handler error
  | call op next, handler => call op fun answer => (next answer).handle handler

instance : Monad (Prog Op Ans ε) where
  pure := ret
  bind := bind

instance : MonadExceptOf ε (Prog Op Ans ε) where
  throw := raise
  tryCatch := handle

def perform (op : Op) : Prog Op Ans ε (Ans op) :=
  call op ret

def ofExcept : Except ε α → Prog Op Ans ε α
  | .ok value => ret value
  | .error error => raise error

@[simp] theorem pure_eq (value : α) : (pure value : Prog Op Ans ε α) = ret value := rfl

@[simp] theorem bind_eq (program : Prog Op Ans ε α) (rest : α → Prog Op Ans ε β) :
    program >>= rest = program.bind rest := rfl

theorem bind_assoc (program : Prog Op Ans ε α) (rest : α → Prog Op Ans ε β) (rest' : β → Prog Op Ans ε γ) :
    (program >>= rest) >>= rest' = program >>= fun value => rest value >>= rest' := by
  simp only [bind_eq]
  induction program with
  | ret value => rfl
  | raise error => rfl
  | call op next ih =>
      show call op _ = call op _
      exact congrArg (call op) (funext ih)

end Prog

-- The private state of the process that runs a program: how each answer
-- changes it, and which answers it can get at all, whatever the others do.
structure Client (Op : Type) (Ans : Op → Type) (Loc : Type) where
  update : Loc → (op : Op) → Ans op → Loc
  sound : Loc → (op : Op) → Ans op → Prop

namespace Prog

variable {Loc : Type} {C : Client Op Ans Loc}

-- `program.Obeys C before after loc`: started in `loc`, the program issues
-- only operations that `before` permits, and ends only as `after` says.
-- The answers are arbitrary sound ones, so nothing is assumed of the others.
def Obeys (C : Client Op Ans Loc) (before : Loc → Op → Prop)
    (after : Loc → Except ε α → Prop) : Loc → Prog Op Ans ε α → Prop
  | loc, ret value => after loc (.ok value)
  | loc, raise error => after loc (.error error)
  | loc, call op next => before loc op ∧
      ∀ answer, C.sound loc op answer → Obeys C before after (C.update loc op answer) (next answer)

variable {before before' : Loc → Op → Prop}

-- What a program owes at its end when `rest` follows it.
def Then (C : Client Op Ans Loc) (before : Loc → Op → Prop)
    (after : Loc → Except ε β → Prop) (rest : α → Prog Op Ans ε β) :
    Loc → Except ε α → Prop
  | loc, .ok value => (rest value).Obeys C before after loc
  | loc, .error error => after loc (.error error)

-- What a program owes at its end when a handler catches its errors.
def Catch (C : Client Op Ans Loc) (before : Loc → Op → Prop)
    (after : Loc → Except ε α → Prop) (handler : ε → Prog Op Ans ε α) :
    Loc → Except ε α → Prop
  | loc, .ok value => after loc (.ok value)
  | loc, .error error => (handler error).Obeys C before after loc

@[simp] theorem obeys_ret {after : Loc → Except ε α → Prop} {loc : Loc} {value : α} :
    (ret value : Prog Op Ans ε α).Obeys C before after loc ↔ after loc (.ok value) := Iff.rfl

@[simp] theorem obeys_raise {after : Loc → Except ε α → Prop} {loc : Loc} {error : ε} :
    (raise error : Prog Op Ans ε α).Obeys C before after loc ↔ after loc (.error error) := Iff.rfl

@[simp] theorem obeys_call {after : Loc → Except ε α → Prop} {loc : Loc} {op : Op}
    {next : Ans op → Prog Op Ans ε α} :
    (call op next).Obeys C before after loc ↔ before loc op ∧
      ∀ answer, C.sound loc op answer →
        (next answer).Obeys C before after (C.update loc op answer) := Iff.rfl

@[simp] theorem obeys_bind {program : Prog Op Ans ε α} {rest : α → Prog Op Ans ε β}
    {after : Loc → Except ε β → Prop} {loc : Loc} :
    (program.bind rest).Obeys C before after loc ↔
      program.Obeys C before (Then C before after rest) loc := by
  induction program generalizing loc with
  | ret value => rfl
  | raise error => rfl
  | call op next ih => simp only [bind, obeys_call, ih]

@[simp] theorem obeys_handle {program : Prog Op Ans ε α} {handler : ε → Prog Op Ans ε α}
    {after : Loc → Except ε α → Prop} {loc : Loc} :
    (program.handle handler).Obeys C before after loc ↔
      program.Obeys C before (Catch C before after handler) loc := by
  induction program generalizing loc with
  | ret value => rfl
  | raise error => rfl
  | call op next ih => simp only [handle, obeys_call, ih]

@[simp] theorem obeys_perform {after : Loc → Except ε (Ans op) → Prop} {loc : Loc} :
    (perform op : Prog Op Ans ε (Ans op)).Obeys C before after loc ↔ before loc op ∧
      ∀ answer, C.sound loc op answer → after (C.update loc op answer) (.ok answer) := Iff.rfl

@[simp] theorem obeys_ofExcept {result : Except ε α} {after : Loc → Except ε α → Prop} {loc : Loc} :
    (ofExcept result : Prog Op Ans ε α).Obeys C before after loc ↔ after loc result := by
  cases result <;> rfl

-- The rule of consequence. `P` holds of every private state that a path
-- reaches, and may be used to weaken both what is permitted and what is owed.
theorem Obeys.weaken {program : Prog Op Ans ε α} {after after' : Loc → Except ε α → Prop}
    (P : Loc → Prop) (hstep : ∀ loc op answer, P loc → before loc op → C.sound loc op answer →
      P (C.update loc op answer))
    (hbefore : ∀ loc op, P loc → before loc op → before' loc op)
    (hafter : ∀ loc result, P loc → after loc result → after' loc result)
    {loc : Loc} (hloc : P loc) (h : program.Obeys C before after loc) :
    program.Obeys C before' after' loc := by
  induction program generalizing loc with
  | ret value => exact hafter _ _ hloc h
  | raise error => exact hafter _ _ hloc h
  | call op next ih =>
      obtain ⟨hop, hnext⟩ := h
      exact ⟨hbefore _ _ hloc hop, fun answer hs =>
        ih answer (hstep _ _ _ hloc hop hs) (hnext answer hs)⟩

theorem Obeys.mono {program : Prog Op Ans ε α} {after after' : Loc → Except ε α → Prop} {loc : Loc}
    (h : program.Obeys C before after loc)
    (hbefore : ∀ loc op, before loc op → before' loc op)
    (hafter : ∀ loc result, after loc result → after' loc result) :
    program.Obeys C before' after' loc :=
  h.weaken (fun _ => True) (fun _ _ _ _ _ _ => trivial) (fun loc op _ => hbefore loc op)
    (fun loc result _ => hafter loc result) trivial

-- Two facts about one program hold together.
theorem Obeys.and {program : Prog Op Ans ε α} {before' : Loc → Op → Prop}
    {after after' : Loc → Except ε α → Prop} (h : program.Obeys C before after loc)
    (h' : program.Obeys C before' after' loc) :
    program.Obeys C (fun loc op => before loc op ∧ before' loc op)
      (fun loc result => after loc result ∧ after' loc result) loc := by
  induction program generalizing loc with
  | ret value => exact ⟨h, h'⟩
  | raise error => exact ⟨h, h'⟩
  | call op next ih =>
      exact ⟨⟨h.1, h'.1⟩, fun answer hanswer => ih answer (h.2 answer hanswer) (h'.2 answer hanswer)⟩

-- A program that is obedient as one client sees it is obedient as another one
-- does, when the private states of the two go together.
theorem Obeys.simulate {Loc' : Type} {D : Client Op Ans Loc'} {program : Prog Op Ans ε α}
    {before' : Loc' → Op → Prop} {after : Loc → Except ε α → Prop} {after' : Loc' → Except ε α → Prop}
    (R : Loc → Loc' → Prop)
    (hstep : ∀ loc loc' op answer, R loc loc' → before loc op → D.sound loc' op answer →
      C.sound loc op answer ∧ R (C.update loc op answer) (D.update loc' op answer))
    (hbefore : ∀ loc loc' op, R loc loc' → before loc op → before' loc' op)
    (hafter : ∀ loc loc' result, R loc loc' → after loc result → after' loc' result) {loc : Loc} {loc' : Loc'}
    (hloc : R loc loc') (h : program.Obeys C before after loc) : program.Obeys D before' after' loc' := by
  induction program generalizing loc loc' with
  | ret value => exact hafter _ _ _ hloc h
  | raise error => exact hafter _ _ _ hloc h
  | call op next ih =>
      refine ⟨hbefore _ _ _ hloc h.1, fun answer hanswer => ?_⟩
      obtain ⟨hsound, hnext⟩ := hstep _ _ op answer hloc h.1 hanswer
      exact ih answer hnext (h.2 answer hsound)

-- Every operation of the program, on every path, is one of `P`.
def Only (P : Op → Prop) : Prog Op Ans ε α → Prop
  | ret _ | raise _ => True
  | call op next => P op ∧ ∀ answer, (next answer).Only P

variable {P : Op → Prop}

theorem Only.bind {program : Prog Op Ans ε α} {rest : α → Prog Op Ans ε β}
    (h : program.Only P) (hrest : ∀ value, (rest value).Only P) : (program >>= rest).Only P := by
  rw [bind_eq]
  induction program with
  | ret value => exact hrest value
  | raise error => trivial
  | call op next ih => exact ⟨h.1, fun answer => ih answer (h.2 answer)⟩

theorem Only.mono {Q : Op → Prop} {program : Prog Op Ans ε α} (h : program.Only P) (hle : ∀ op, P op → Q op) :
    program.Only Q := by
  induction program with
  | ret value => trivial
  | raise error => trivial
  | call op next ih => exact ⟨hle op h.1, fun answer => ih answer (h.2 answer)⟩

theorem Only.handle {program : Prog Op Ans ε α} {handler : ε → Prog Op Ans ε α} (h : program.Only P)
    (hhandler : ∀ error, (handler error).Only P) : (program.handle handler).Only P := by
  induction program with
  | ret value => trivial
  | raise error => exact hhandler error
  | call op next ih => exact ⟨h.1, fun answer => ih answer (h.2 answer)⟩

theorem Only.guard {condition : Prop} {_ : Decidable condition} {check : Prog Op Ans ε Unit}
    {rest : Unit → Prog Op Ans ε α} (h : check.Only P) (hrest : ∀ value, (rest value).Only P) :
    (if condition then check >>= fun value => rest value else rest ()).Only P := by
  split
  · exact h.bind hrest
  · exact hrest ()

theorem Only.ofExcept {result : Except ε α} : (ofExcept result : Prog Op Ans ε α).Only P := by
  cases result <;> trivial

theorem Only.perform {op : Op} (h : P op) : (perform op : Prog Op Ans ε (Ans op)).Only P :=
  ⟨h, fun _ => trivial⟩

-- A program of such operations keeps what each of them keeps, and ends in it.
theorem Only.obeys {program : Prog Op Ans ε α} {after : Loc → Except ε α → Prop} {loc : Loc}
    (I : Loc → Prop) (hstep : ∀ loc op answer, I loc → P op → I (C.update loc op answer))
    (hbefore : ∀ loc op, I loc → P op → before loc op) (hafter : ∀ loc result, I loc → after loc result)
    (hloc : I loc) (h : program.Only P) : program.Obeys C before after loc := by
  induction program generalizing loc with
  | ret value => exact hafter loc _ hloc
  | raise error => exact hafter loc _ hloc
  | call op next ih =>
      exact ⟨hbefore loc op hloc h.1, fun answer _ => ih answer (hstep loc op answer hloc h.1) (h.2 answer)⟩

theorem Only.obeys_any {program : Prog Op Ans ε α} {loc : Loc} (h : program.Only P) :
    program.Obeys C (fun _ op => P op) (fun _ _ => True) loc :=
  h.obeys (fun _ => True) (fun _ _ _ _ _ => trivial) (fun _ _ _ hop => hop) (fun _ _ _ => trivial) trivial

-- On every path of answers that `A` admits, every operation is one of `P`, and
-- the path ends in an error or in a value of `Q`.
def Within (A : (op : Op) → Ans op → Prop) (P : Op → Prop) (Q : α → Prop) : Prog Op Ans ε α → Prop
  | ret value => Q value
  | raise _ => True
  | call op next => P op ∧ ∀ answer, A op answer → (next answer).Within A P Q

variable {A : (op : Op) → Ans op → Prop} {Q : α → Prop} {R : β → Prop}

theorem Within.bind {program : Prog Op Ans ε α} {rest : α → Prog Op Ans ε β} (h : program.Within A P Q)
    (hrest : ∀ value, Q value → (rest value).Within A P R) : (program >>= rest).Within A P R := by
  rw [bind_eq]
  induction program with
  | ret value => exact hrest value h
  | raise error => trivial
  | call op next ih => exact ⟨h.1, fun answer hanswer => ih answer (h.2 answer hanswer)⟩

theorem Within.ofExcept {result : Except ε α} (h : ∀ value, result = .ok value → Q value) :
    (ofExcept result : Prog Op Ans ε α).Within A P Q := by
  cases result with
  | ok value => exact h value rfl
  | error error => trivial

theorem Within.perform {op : Op} {Q : Ans op → Prop} (h : P op) (hQ : ∀ answer, A op answer → Q answer) :
    (perform op : Prog Op Ans ε (Ans op)).Within A P Q :=
  ⟨h, hQ⟩

theorem Only.within {program : Prog Op Ans ε α} (h : program.Only P) :
    program.Within A P fun _ => True := by
  induction program with
  | ret value => trivial
  | raise error => trivial
  | call op next ih => exact ⟨h.1, fun answer _ => ih answer (h.2 answer)⟩

-- Such a program is obedient wherever the answers are so admitted.
theorem Within.obeys {program : Prog Op Ans ε α} {loc : Loc}
    (hsound : ∀ loc op answer, C.sound loc op answer → A op answer)
    (h : program.Within A P Q) :
    program.Obeys C (fun _ op => P op) (fun _ result => ∀ value, result = .ok value → Q value) loc := by
  induction program generalizing loc with
  | ret value =>
      intro value' hvalue
      cases hvalue
      exact h
  | raise error =>
      intro value hvalue
      cases hvalue
  | call op next ih => exact ⟨h.1, fun answer hanswer => ih answer (h.2 answer (hsound loc op answer hanswer))⟩

end Prog

end Process
