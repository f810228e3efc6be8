import BridgeOfHope.Database.Lemmas
import BridgeOfHope.Runtime

namespace BridgeOfHope

open Process
open Prog (Only)

namespace Event

def token : Event → Option String
  | ⟨.tokenHex, token⟩ => some token
  | _ => none

def time : Event → Option Time
  | ⟨.now, time⟩ => some time
  | _ => none

-- A mail that went out: the exchange succeeded, or the console took it.
def mail : Event → Option Mail
  | ⟨.smtp mail, .ok _⟩ => some mail
  | ⟨.log mail, _⟩ => some mail
  | _ => none

def lookup : Event → Option (String × List WebhookEvent)
  | ⟨.query (.eventByProviderEventId providerEventId), .ok rows⟩ => some (providerEventId, rows)
  | _ => none

end Event

namespace Session

-- The statements that a commit would make permanent.
def pending (s : Session) : List Stmt := s.flushed ++ s.unflushed

def drawn (s : Session) : List String := s.past.filterMap Event.token

def sent (s : Session) : List Mail := s.past.filterMap Event.mail

def lookups (s : Session) : List (String × List WebhookEvent) := s.past.filterMap Event.lookup

def Read (s : Session) (query : Query) (row : query.Row) : Prop :=
  ∃ rows, ⟨.query query, .ok rows⟩ ∈ s.past ∧ row ∈ rows

-- `s'` comes after `s`, with nothing committed and no mail sent in between.
structure Extends (s s' : Session) : Prop where
  past : s.past <:+ s'.past
  committed : s'.committed = s.committed
  sent : s'.sent = s.sent

-- In addition the session is as sound as before, and `stmts` are what it wrote.
structure Writes (s s' : Session) (stmts : List Stmt) : Prop extends Extends s s' where
  pending : s'.pending = s.pending ++ stmts
  broken : s'.broken = s.broken

variable {s s' s'' : Session} {stmts stmts' : List Stmt}

theorem Extends.refl (s : Session) : s.Extends s := ⟨List.suffix_rfl, rfl, rfl⟩

theorem Extends.trans (h : s.Extends s') (h' : s'.Extends s'') : s.Extends s'' :=
  ⟨h.past.trans h'.past, h'.committed.trans h.committed, h'.sent.trans h.sent⟩

theorem drawn_mono (h : s.past <:+ s'.past) {token : String} (ht : token ∈ s.drawn) :
    token ∈ s'.drawn :=
  (h.filterMap _).subset ht

theorem mem_drawn_update {op : Op} {ans : Ans op} {token : String}
    (h : token ∈ (s.update op ans).drawn) :
    token ∈ s.drawn ∨ (⟨op, ans⟩ : Event) = ⟨.tokenHex, token⟩ := by
  obtain ⟨e, he, htoken⟩ := List.mem_filterMap.mp h
  rcases List.mem_cons.mp he with rfl | he
  · unfold Event.token at htoken
    split at htoken
    · rename_i heq
      rw [heq, Option.some.inj htoken]
      exact .inr rfl
    · cases htoken
  · exact .inl (List.mem_filterMap.mpr ⟨e, he, htoken⟩)

theorem mem_lookups {providerEventId : String} {rows : List WebhookEvent} :
    (providerEventId, rows) ∈ s.lookups ↔
    ⟨.query (.eventByProviderEventId providerEventId), .ok rows⟩ ∈ s.past := by
  refine ⟨fun h => ?_, fun h => List.mem_filterMap.mpr ⟨_, h, rfl⟩⟩
  obtain ⟨e, he, hlookup⟩ := List.mem_filterMap.mp h
  unfold Event.lookup at hlookup
  split at hlookup
  · cases hlookup
    exact he
  · cases hlookup

theorem Read.mono {query : Query} {row : query.Row} (hr : s.Read query row)
    (h : s.past <:+ s'.past) : s'.Read query row := by
  obtain ⟨rows, hpast, hrow⟩ := hr
  exact ⟨rows, h.subset hpast, hrow⟩

theorem Writes.refl (s : Session) : s.Writes s [] := ⟨.refl s, (List.append_nil _).symm, rfl⟩

theorem Writes.trans (h : s.Writes s' stmts) (h' : s'.Writes s'' stmts') :
    s.Writes s'' (stmts ++ stmts') :=
  ⟨h.toExtends.trans h'.toExtends, by rw [h'.pending, h.pending, List.append_assoc],
    h'.broken.trans h.broken⟩

theorem Writes.trans_nil (h : s.Writes s' stmts) (h' : s'.Writes s'' []) : s.Writes s'' stmts :=
  List.append_nil stmts ▸ h.trans h'

theorem Writes.nil_trans (h : s.Writes s' []) (h' : s'.Writes s'' stmts) : s.Writes s'' stmts :=
  h.trans h'

theorem Writes.flushed (h : s.Writes s' stmts) (hs : s'.unflushed = []) :
    s'.flushed = s.pending ++ stmts := by
  rw [← h.pending, Session.pending, hs, List.append_nil]

-- An answer that is no statement and no failure of the database only adds
-- to the history of the session.
theorem writes_update {op : Op} {ans : Ans op} (hadvance : s.advance op ans = s)
    (hmail : Event.mail ⟨op, ans⟩ = none) : s.Writes (s.update op ans) [] := by
  refine ⟨⟨List.suffix_cons _ _, ?_, ?_⟩, ?_, ?_⟩
  · simp only [update, hadvance]
  · simp only [sent, update, List.filterMap_cons, hmail]
  · simp only [pending, update, hadvance, List.append_nil]
  · simp only [update, hadvance]

theorem extends_update {op : Op} {ans : Ans op} (hcommitted : (s.advance op ans).committed = s.committed)
    (hmail : Event.mail ⟨op, ans⟩ = none) : s.Extends (s.update op ans) := by
  refine ⟨List.suffix_cons _ _, hcommitted, ?_⟩
  simp only [sent, update, List.filterMap_cons, hmail]

theorem writes_push (stmt : Stmt) (ans : Unit) : s.Writes (s.update (.push stmt) ans) [stmt] :=
  ⟨extends_update rfl rfl, (List.append_assoc ..).symm, rfl⟩

theorem writes_flush (ans : Unit) : s.Writes (s.update .flush (.ok ans)) [] :=
  ⟨extends_update rfl rfl, by simp [pending, update, advance], rfl⟩

-- Statements come to a session by being written.
theorem mem_pending_update {op : Op} {ans : Ans op} {stmt : Stmt} (h : stmt ∈ (s.update op ans).pending) :
    stmt ∈ s.pending ∨ op = .push stmt := by
  cases op with
  | push new =>
      have hmem : stmt ∈ s.flushed ++ (s.unflushed ++ [new]) := h
      rw [← List.append_assoc] at hmem
      rcases List.mem_append.mp hmem with hold | hnew
      · exact .inl hold
      · exact .inr (congrArg Op.push (List.mem_singleton.mp hnew).symm)
  | flush => cases ans with
    | ok _ => exact .inl (by simpa [pending, update, advance] using h)
    | error _ => cases h
  | query query => cases ans with
    | ok _ => exact .inl h
    | error _ => cases h
  | commit => cases ans with
    | ok _ => exact .inl (List.mem_append_right _ h)
    | error _ => cases h
  | _ => exact .inl h

theorem committed_update {op : Op} {ans : Ans op} (h : (⟨op, ans⟩ : Event) ≠ ⟨.commit, .ok ()⟩) :
    (s.update op ans).committed = s.committed := by
  cases op with
  | commit => cases ans with
    | ok _ => exact absurd rfl h
    | error _ => rfl
  | flush => cases ans <;> rfl
  | query query => cases ans <;> rfl
  | _ => rfl

theorem committed_prefix (s : Session) (op : Op) (ans : Ans op) :
    s.committed <+: (s.update op ans).committed := by
  by_cases hcommit : (⟨op, ans⟩ : Event) = ⟨.commit, .ok ()⟩
  · cases hcommit
    exact List.prefix_append _ _
  · exact (committed_update hcommit).symm ▸ List.prefix_rfl

end Session

-- Only a commit changes the tables.
theorem effect_quiet {world : World} {s : Session} {op : Op} {ans : Ans op}
    (h : (⟨op, ans⟩ : Event) ≠ ⟨.commit, .ok ()⟩) : (effect world s op ans).db = world.db := by
  cases op with
  | commit => cases ans with
    | ok _ => exact absurd rfl h
    | error _ => rfl
  | stripeCheckout _ => cases ans <;> rfl
  | stripeDelete _ => cases ans <;> rfl
  | http _ => cases ans <;> rfl
  | _ => rfl

-- What a session has sent an INSERT for fits the columns.
theorem Session.insertsFit_update [Platform] {world : World} {sessions : List Session} {s : Session} {op : Op}
    {ans : Ans op} (henabled : enabled world sessions s op ans)
    (h : ∀ donor, .insertDonor donor ∈ s.flushed → donor.fits = true) :
    ∀ donor, .insertDonor donor ∈ (s.update op ans).flushed → donor.fits = true := by
  intro donor hdonor
  by_cases hflush : (⟨op, ans⟩ : Event) = ⟨.flush, .ok ()⟩
  · cases hflush
    obtain ⟨-, -, -, hadmits⟩ := henabled
    rcases List.mem_append.mp hdonor with hold | hnew
    · exact h donor hold
    · exact Db.fits_of_admitsAll hadmits hnew
  · refine h donor ?_
    cases op with
    | flush => cases ans with
      | ok _ => exact absurd rfl hflush
      | error _ => cases hdonor
    | query query => cases ans with
      | ok _ => exact hdonor
      | error _ => cases hdonor
    | commit => cases ans with
      | ok _ => cases hdonor
      | error _ => cases hdonor
    | _ => exact hdonor

section Only

variable {P : Op → Prop} {query : Query}

theorem only_flush (hflush : P .flush) : flush.Only P := .bind (.perform hflush) fun _ => .ofExcept

theorem only_scalars (hflush : P .flush) (hquery : P (.query query)) : (scalars query).Only P :=
  .bind (only_flush hflush) fun _ => .bind (.perform hquery) fun _ => .ofExcept

theorem only_scalar (hflush : P .flush) (hquery : P (.query query)) : (scalar query).Only P :=
  .bind (only_scalars hflush hquery) fun _ => trivial

theorem only_commit (hflush : P .flush) (hcommit : P .commit) : commit.Only P :=
  .bind (only_flush hflush) fun _ => .bind (.perform hcommit) fun _ => .ofExcept

end Only

section Rules

variable [Platform]

-- A request as seen from its own session.
abbrev client : Client Op Ans Session where
  update := Session.update
  sound := sound

-- The operations that are permitted to all: they change nothing outside the
-- session.
structure Free (before : Session → Op → Prop) : Prop where
  now : ∀ s, before s .now
  uuid7 : ∀ s, before s .uuid7
  tokenHex : ∀ s, before s .tokenHex
  flush : ∀ s, before s .flush

structure FreeToWrite (before : Session → Op → Prop) : Prop extends Free before where
  push : ∀ s stmt, before s (.push stmt)

variable {α β : Type} {before : Session → Op → Prop} {s : Session}

theorem obeys_seq {program : Act α} {rest : α → Act β} {after : Session → Except Exn β → Prop}
    (h : program.Obeys client before (Prog.Then client before after rest) s) :
    (program >>= rest).Obeys client before after s :=
  Prog.obeys_bind.mpr h

theorem obeys_now (hfree : Free before) {after : Session → Except Exn Time → Prop}
    (hok : ∀ s' time, s.Writes s' [] → after s' (.ok time)) : now.Obeys client before after s :=
  ⟨hfree.now s, fun _ _ => hok _ _ (Session.writes_update rfl rfl)⟩

theorem obeys_uuid7 (hfree : Free before) {after : Session → Except Exn Uuid → Prop}
    (hok : ∀ s' id, s.Writes s' [] → after s' (.ok id)) : uuid7.Obeys client before after s :=
  ⟨hfree.uuid7 s, fun _ _ => hok _ _ (Session.writes_update rfl rfl)⟩

theorem obeys_tokenHex (hfree : Free before) {after : Session → Except Exn String → Prop}
    (hok : ∀ s' token, s.Writes s' [] → token ∈ s'.drawn → isTokenHex token = true →
      after s' (.ok token)) : tokenHex.Obeys client before after s :=
  ⟨hfree.tokenHex s, fun _ htoken =>
    hok _ _ (Session.writes_update rfl rfl) List.mem_cons_self htoken⟩

theorem obeys_add {after : Session → Except Exn Unit → Prop} {stmt : Stmt}
    (hpush : before s (.push stmt))
    (hok : ∀ s', s.Writes s' [stmt] → after s' (.ok ())) : (add stmt).Obeys client before after s :=
  ⟨hpush, fun _ _ => hok _ (Session.writes_push stmt _)⟩

theorem obeys_flush (hfree : Free before) {after : Session → Except Exn Unit → Prop}
    (hok : ∀ s', s.Writes s' [] → s'.unflushed = [] → s'.lookups = s.lookups → after s' (.ok ()))
    (herr : ∀ s' error, s.Extends s' → s'.broken = true → after s' (.error error)) :
    flush.Obeys client before after s := by
  refine obeys_seq ⟨hfree.flush s, fun answer _ => ?_⟩
  cases answer with
  | ok _ => exact hok _ (Session.writes_flush _) rfl rfl
  | error error => exact herr _ error (Session.extends_update rfl rfl) rfl

-- A broken session refuses every further statement.
theorem obeys_flush_broken (hfree : Free before) (hs : s.broken = true)
    {after : Session → Except Exn Unit → Prop}
    (herr : ∀ s' error, s.Extends s' → s'.broken = true → after s' (.error error)) :
    flush.Obeys client before after s := by
  refine obeys_seq ⟨hfree.flush s, fun answer hanswer => ?_⟩
  cases answer with
  | ok _ => exact absurd (hs.symm.trans hanswer) nofun
  | error error => exact herr _ error (Session.extends_update rfl rfl) rfl

theorem obeys_scalars (hfree : Free before) {query : Query}
    {after : Session → Except Exn (List query.Row) → Prop}
    (hquery : ∀ s', s.Writes s' [] → s'.unflushed = [] → s'.lookups = s.lookups →
      before s' (.query query))
    (hok : ∀ s' rows, s.Writes s' [] → ⟨.query query, .ok rows⟩ ∈ s'.past →
      (∀ row ∈ rows, query.accepts row = true) → after s' (.ok rows))
    (herr : ∀ s' error, s.Extends s' → s'.broken = true → after s' (.error error)) :
    (scalars query).Obeys client before after s := by
  refine obeys_seq (obeys_flush hfree (fun s₁ h₁ hu hl => obeys_seq
    ⟨hquery s₁ h₁ hu hl, fun answer hanswer => ?_⟩) herr)
  cases answer with
  | ok rows =>
      exact hok _ rows (h₁.trans_nil (Session.writes_update rfl rfl)) List.mem_cons_self hanswer.2
  | error error => exact herr _ error (h₁.toExtends.trans (Session.extends_update rfl rfl)) rfl

theorem obeys_scalar (hfree : Free before) {query : Query}
    {after : Session → Except Exn (Option query.Row) → Prop}
    (hquery : ∀ s', s.Writes s' [] → s'.unflushed = [] → s'.lookups = s.lookups →
      before s' (.query query))
    (hnone : ∀ s', s.Writes s' [] → ⟨.query query, .ok []⟩ ∈ s'.past → after s' (.ok none))
    (hsome : ∀ s' row rows, s.Writes s' [] → ⟨.query query, .ok (row :: rows)⟩ ∈ s'.past →
      query.accepts row = true → after s' (.ok (some row)))
    (herr : ∀ s' error, s.Extends s' → s'.broken = true → after s' (.error error)) :
    (scalar query).Obeys client before after s := by
  refine obeys_seq (obeys_scalars hfree hquery (fun s' rows h hmem hrows => ?_) herr)
  cases rows with
  | nil => exact hnone s' h hmem
  | cons row rows => exact hsome s' row rows h hmem (hrows row List.mem_cons_self)

theorem obeys_commit (hfree : Free before) {after : Session → Except Exn Unit → Prop}
    (hcommit : ∀ s', s.Writes s' [] → s'.unflushed = [] → before s' .commit)
    (hok : ∀ s', s'.committed = s.committed ++ s.pending → s'.pending = [] → s'.sent = s.sent →
      s.past <:+ s'.past → s'.broken = s.broken → after s' (.ok ()))
    (herr : ∀ s' error, s.Extends s' → s'.broken = true → after s' (.error error)) :
    commit.Obeys client before after s := by
  refine obeys_seq (obeys_flush hfree (fun s₁ h₁ hu _ => obeys_seq
    ⟨hcommit s₁ h₁ hu, fun answer _ => ?_⟩) herr)
  cases answer with
  | ok _ =>
      refine hok _ ?_ ?_ h₁.sent (h₁.past.trans (List.suffix_cons _ _)) h₁.broken
      · show s₁.committed ++ s₁.flushed = _
        rw [h₁.committed, h₁.flushed hu, List.append_nil]
      · show [] ++ s₁.unflushed = []
        rw [hu, List.append_nil]
  | error error => exact herr _ error (h₁.toExtends.trans (Session.extends_update rfl rfl)) rfl

theorem obeys_ofExcept {result : Except Exn α} {after : Session → Except Exn α → Prop}
    (h : after s result) : (Prog.ofExcept result : Act α).Obeys client before after s :=
  Prog.obeys_ofExcept.mpr h

end Rules

end BridgeOfHope
