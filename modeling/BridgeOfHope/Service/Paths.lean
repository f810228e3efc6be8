import BridgeOfHope.Service.Solo

namespace BridgeOfHope

open Process

-- Ways for a request to get on, while nobody else is at work.

variable [Platform] {α β : Type}

-- What the next steps depend on: the tables, and the open unit of work.
structure Point where
  db : Db
  flushed : List Stmt := []
  unflushed : List Stmt := []

structure At (point : Point) (state : World × Session) : Prop where
  db : state.1.db = point.db
  flushed : state.2.flushed = point.flushed
  unflushed : state.2.unflushed = point.unflushed
  broken : state.2.broken = false

-- From the one point the program can go on to the other, with this value.
def Goes (program : Act α) (point : Point) (value : α) (point' : Point) : Prop :=
  ∀ state, At point state → ∃ state', program.Exec service.alone state state' (.ok value) ∧ At point' state'

variable {point point' point'' : Point}

theorem goes_ret (value : α) : Goes (.ret value) point value point :=
  fun state h => ⟨state, .ret _ _, h⟩

theorem Goes.bind {program : Act α} {rest : α → Act β} {value : α} {result : β}
    (h : Goes program point value point')
    (hrest : Goes (rest value) point' result point'') : Goes (program >>= rest) point result point'' := by
  intro state hstate
  obtain ⟨mid, hfirst, hmid⟩ := h state hstate
  obtain ⟨state', hexec, hend⟩ := hrest mid hmid
  exact ⟨state', Prog.exec_bind.mpr (.inl ⟨mid, value, hfirst, hexec⟩), hend⟩

theorem goes_ofExcept {result : Except Exn α} {value : α} (h : result = .ok value) :
    Goes (Prog.ofExcept result) point value point := by
  rw [h]
  exact goes_ret value

-- One operation, with an answer that is possible here.
theorem goes_perform {op : Op} {answer : Ans op}
    (henabled : ∀ state, At point state → service.alone.sound state op answer)
    (hstep : ∀ state, At point state → At point' (service.alone.update state op answer)) :
    Goes (perform op) point answer point' :=
  fun state h => ⟨_, .call (henabled state h) (.ret _ _), hstep state h⟩

-- An answer that leaves the unit of work alone, of an operation other than a commit.
theorem At.quiet {state : World × Session} {op : Op} {answer : Ans op} (h : At point state)
    (hadvance : state.2.advance op answer = state.2) (hcommit : (⟨op, answer⟩ : Event) ≠ ⟨.commit, .ok ()⟩) :
    At point (service.alone.update state op answer) where
  db := (effect_quiet hcommit).trans h.db
  flushed := (congrArg Session.flushed hadvance).trans h.flushed
  unflushed := (congrArg Session.unflushed hadvance).trans h.unflushed
  broken := (congrArg Session.broken hadvance).trans h.broken

theorem goes_quiet {op : Op} {answer : Ans op}
    (henabled : ∀ world sessions s, enabled world sessions s op answer)
    (hadvance : ∀ s : Session, s.advance op answer = s) (hcommit : (⟨op, answer⟩ : Event) ≠ ⟨.commit, .ok ()⟩) :
    Goes (perform op) point answer point :=
  goes_perform (fun _ _ => henabled _ _ _) fun state h => h.quiet (hadvance state.2) hcommit

theorem goes_now (time : Time) : Goes now point time point :=
  goes_quiet (fun _ _ _ => trivial) (fun _ => rfl) (by simp)

theorem goes_uuid7 (id : Uuid) : Goes uuid7 point id point :=
  goes_quiet (fun _ _ _ => trivial) (fun _ => rfl) (by simp)

theorem goes_tokenHex {token : String} (h : isTokenHex token = true) : Goes tokenHex point token point :=
  goes_quiet (fun _ _ _ => h) (fun _ => rfl) (by simp)

theorem goes_record (entry : RailRecord) : Goes (perform (.record entry)) point () point :=
  goes_quiet (fun _ _ _ => trivial) (fun _ => rfl) (by simp)

theorem goes_add (stmt : Stmt) :
    Goes (add stmt) point () { point with unflushed := point.unflushed ++ [stmt] } :=
  goes_perform (fun _ _ => trivial) fun _ h =>
    ⟨h.db, h.flushed, congrArg (· ++ [stmt]) h.unflushed, h.broken⟩

-- The new rows have keys of their own, and the columns take them.
def Point.Flushable (point : Point) : Prop :=
  (point.unflushed.flatMap Stmt.keys).Nodup ∧
    (∀ key ∈ point.unflushed.flatMap Stmt.keys, key ∉ point.db.keys ++ point.flushed.flatMap Stmt.keys) ∧
    (point.db.applyAll point.flushed).admitsAll point.unflushed = true

def Point.flush (point : Point) : Point :=
  { point with flushed := point.flushed ++ point.unflushed, unflushed := [] }

theorem goes_flush (h : point.Flushable) : Goes flush point () point.flush := by
  have hflush : Goes (perform .flush) point (.ok ()) point.flush := by
    refine goes_perform (fun state hstate => ⟨hstate.broken, ?_⟩) fun state hstate => ?_
    · show flushable state.1.db [state.2] state.2
      have hkeys : entries state.1.db [state.2] = point.db.keys ++ point.flushed.flatMap Stmt.keys := by
        simp [entries, Session.keys, hstate.db, hstate.flushed]
      obtain ⟨hnodup, hfresh, hadmits⟩ := h
      unfold flushable
      rw [hkeys, Session.view, hstate.db, hstate.flushed, hstate.unflushed]
      exact ⟨hnodup, hfresh, hadmits⟩
    · refine ⟨hstate.db, ?_, rfl, hstate.broken⟩
      show state.2.flushed ++ state.2.unflushed = point.flushed ++ point.unflushed
      rw [hstate.flushed, hstate.unflushed]
  exact hflush.bind (goes_ofExcept rfl)

-- A query is answered in some order of its rows.
theorem goes_scalars (h : point.Flushable) {query : Query} {rows : List query.Row}
    (hrows : rows.Perm (query.select (point.db.applyAll (point.flushed ++ point.unflushed)))) :
    Goes (scalars query) point rows point.flush := by
  have hquery : Goes (perform (.query query)) point.flush (.ok rows) point.flush := by
    refine goes_perform (fun state hstate => ⟨hstate.broken, ?_⟩) fun state hstate => hstate.quiet rfl (by simp)
    show rows.Perm (query.select (state.2.view state.1.db))
    rw [Session.view, hstate.db, hstate.flushed]
    exact hrows
  exact (goes_flush h).bind (hquery.bind (goes_ofExcept rfl))

theorem goes_scalar (h : point.Flushable) {query : Query} {rows : List query.Row}
    (hrows : rows.Perm (query.select (point.db.applyAll (point.flushed ++ point.unflushed)))) :
    Goes (scalar query) point rows.head? point.flush :=
  (goes_scalars h hrows).bind (goes_ret _)

theorem goes_commit (h : point.Flushable) :
    Goes commit point () { db := point.db.applyAll (point.flushed ++ point.unflushed) } := by
  have hcommit : Goes (perform .commit) point.flush (.ok ())
      { db := point.db.applyAll (point.flushed ++ point.unflushed) } := by
    refine goes_perform (fun state hstate => hstate.broken) fun state hstate =>
      ⟨?_, rfl, hstate.unflushed, hstate.broken⟩
    show state.1.db.applyAll state.2.flushed = _
    rw [hstate.db, hstate.flushed]
    rfl
  exact (goes_flush h).bind (hcommit.bind (goes_ofExcept rfl))

-- Every operation has an answer, if only that it fails.
theorem exists_answer (state : World × Session) (op : Op) : ∃ answer, service.alone.sound state op answer := by
  cases op with
  | now => exact ⟨(0 : Time), trivial⟩
  | uuid7 => exact ⟨(0 : Uuid), trivial⟩
  | tokenHex => exact ⟨pad 20 0, by show isTokenHex (pad 20 0) = true; decide⟩
  | push stmt => exact ⟨(), trivial⟩
  | flush => exact ⟨.error ⟨.other, ""⟩, trivial⟩
  | query query => exact ⟨.error ⟨.other, ""⟩, trivial⟩
  | commit => exact ⟨.error ⟨.other, ""⟩, trivial⟩
  | stripeCheckout checkout => exact ⟨.error ⟨.other, ""⟩, trivial⟩
  | stripeDelete id => exact ⟨.error ⟨.other, ""⟩, trivial⟩
  | http request => exact ⟨.error ⟨.other, ""⟩, trivial⟩
  | record entry => exact ⟨(), trivial⟩
  | smtp mail => exact ⟨.error ⟨.other, ""⟩, trivial⟩
  | log mail => exact ⟨(), trivial⟩

-- Every program can be brought to an end from where it is.
theorem exists_exec (program : Act α) (state : World × Session) :
    ∃ state' result, program.Exec service.alone state state' result := by
  induction program generalizing state with
  | ret value => exact ⟨state, _, .ret _ _⟩
  | raise error => exact ⟨state, _, .raise _ _⟩
  | call op next ih =>
      obtain ⟨answer, hanswer⟩ := exists_answer state op
      obtain ⟨state', result, hexec⟩ := ih answer (service.alone.update state op answer)
      exact ⟨state', result, .call hanswer hexec⟩

-- From the point the program can come to write the statement, and end somehow.
def CanWrite (program : Act α) (point : Point) (stmt : Stmt) : Prop :=
  ∀ state, At point state → ∃ state' result, program.Exec service.alone state state' result ∧
    ⟨.push stmt, ()⟩ ∈ state'.2.past

theorem canWrite_add (stmt : Stmt) : CanWrite (add stmt) point stmt :=
  fun _ _ => ⟨_, _, .call trivial (.ret _ _), List.mem_cons_self⟩

theorem CanWrite.bind {program : Act α} {rest : α → Act β} {stmt : Stmt} (h : CanWrite program point stmt) :
    CanWrite (program >>= rest) point stmt := by
  intro state hstate
  obtain ⟨mid, result, hfirst, hwritten⟩ := h state hstate
  cases result with
  | error error => exact ⟨mid, _, Prog.exec_bind.mpr (.inr ⟨error, hfirst, rfl⟩), hwritten⟩
  | ok value =>
      obtain ⟨state', result, hexec⟩ := exists_exec (rest value) mid
      exact ⟨state', result, Prog.exec_bind.mpr (.inl ⟨mid, value, hfirst, hexec⟩),
        (past_of_exec hexec).subset hwritten⟩

theorem Goes.canWrite {program : Act α} {rest : α → Act β} {value : α} {stmt : Stmt}
    (h : Goes program point value point') (hrest : CanWrite (rest value) point' stmt) :
    CanWrite (program >>= rest) point stmt := by
  intro state hstate
  obtain ⟨mid, hfirst, hmid⟩ := h state hstate
  obtain ⟨state', result, hexec, hwritten⟩ := hrest mid hmid
  exact ⟨state', result, Prog.exec_bind.mpr (.inl ⟨mid, value, hfirst, hexec⟩), hwritten⟩

end BridgeOfHope
