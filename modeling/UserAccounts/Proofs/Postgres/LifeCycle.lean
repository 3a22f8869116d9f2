import UserAccounts.Proofs.Postgres.Failure

/-!
# Transactions of a store on a database

However a transaction and its statements are used, whatever deadlines are given and whatever the
server answers, the store on a database keeps to their life cycle (`transaction_life`):

* `serve_refused` — a call against the life cycle is refused, and nothing is sent for it;
* `serve_passed` — for any other call just the request is sent that it stands for;
* `Follows.step` — what the store remembers of a transaction and of closed statements is what the
  life cycle says, after any call.

So a transaction is committed or rolled back by one request at most (`countP_traffic_le`). What is
sent is kept by a client that records it (`Client.recorded`) and is otherwise like the client itself
(`serve_unrecorded`).
-/

namespace UserAccounts

open Postgres

namespace Postgres

/-- Something that a client was made to do. -/
inductive Sent where
  | asked (now : Instant) (deadline : Deadline) (request : Request)
  | abandoned (now : Instant) (session : Nat)
  deriving DecidableEq

/-- Whether a request ends a transaction. -/
def Sent.isEnd : Sent → Bool
  | .asked _ _ (.commit _) | .asked _ _ (.rollback _) => true
  | _ => false

/-- A client that records what it is made to do. -/
def Client.recorded {γ : Type} (client : Client γ) : Client (γ × List Sent) where
  serve s now deadline r :=
    let handled := client.serve s.1 now deadline r
    ⟨handled.result, (handled.state, s.2 ++ [.asked now deadline r]), handled.finished⟩
  abandon s now session := (client.abandon s.1 now session, s.2 ++ [.abandoned now session])

end Postgres

namespace PgStore

variable {γ : Type}

/-- A store without the record of its client. -/
def unrecorded (s : PgStore (γ × List Sent)) : PgStore γ := { s with client := s.client.1 }

section Unrecorded

variable (client : Client γ) (s : PgStore (γ × List Sent)) (now : Instant)

/-- What came of a request, without the record. -/
def Passed.unrecorded {α : Type} (p : Passed (γ × List Sent) α) : Passed γ α :=
  ⟨p.answer, p.store.unrecorded, p.finished, p.events⟩

theorem pass_unrecorded (deadline : Deadline) (r : Request) (failed : ClientError → Reported) :
    pass client s.unrecorded now deadline r failed =
      (pass client.recorded s now deadline r failed).unrecorded :=
  rfl

theorem handOut_unrecorded (query : String) (p : Passed (γ × List Sent) Unit) :
    handOut query p.unrecorded = (handOut query p).unrecorded := by
  obtain ⟨answer, store, finished, events⟩ := p
  cases answer <;> rfl

theorem configure_unrecorded (deadline : Deadline) (session : Nat) (options : BeginOptions) :
    configure client s.unrecorded now deadline session options =
      (configure client.recorded s now deadline session options).unrecorded := by
  unfold configure
  cases options.isolation with
  | none => rfl
  | some level =>
    simp only [pass_unrecorded]
    generalize pass client.recorded s now deadline _ runFailed = p
    obtain ⟨answer, store, finished, events⟩ := p
    cases answer <;> rfl

theorem begin_unrecorded (deadline : Deadline) (options : BeginOptions) :
    begin client s.unrecorded now deadline options =
      (begin client.recorded s now deadline options).unrecorded := by
  unfold begin
  simp only [pass_unrecorded]
  generalize pass client.recorded s now deadline .begin connectionFailed = p
  obtain ⟨answer, store, finished, events⟩ := p
  cases answer with
  | error e => rfl
  | ok session =>
    simp only [Passed.unrecorded, configure_unrecorded]
    generalize configure client.recorded store finished deadline session options = q
    obtain ⟨answer, store, finished, events⟩ := q
    cases answer <;> rfl

/-- Recording changes nothing else. -/
theorem serve_unrecorded (c : Call) :
    serve client s.unrecorded now c =
      let served := serve client.recorded s now c
      ⟨served.answer, served.state.unrecorded, served.finished, served.events⟩ := by
  cases c with
  | prepare within deadline query =>
    have htarget : s.unrecorded.target? within = s.target? within := rfl
    simp only [serve, htarget]
    cases s.target? within with
    | error e => rfl
    | ok target =>
      simp only [pass_unrecorded, handOut_unrecorded]
      rfl
  | begin deadline options =>
    simp only [serve, begin_unrecorded]
    rfl
  | exec statement deadline args | queryRow statement deadline args
  | queryRows statement deadline args =>
    have htarget : s.unrecorded.targetOf? statement = s.targetOf? statement := rfl
    simp only [serve, htarget]
    cases s.targetOf? statement <;> rfl
  | close statement =>
    have hclosed : s.unrecorded.closed = s.closed := rfl
    simp only [serve, hclosed]
    cases s.closed.contains statement.key <;> rfl
  | commit tx | rollback tx =>
    have hlive : s.unrecorded.live? tx = s.live? tx := rfl
    simp only [serve, hlive]
    cases s.live? tx <;> rfl

end Unrecorded

/-- What was sent from one state to another. -/
def sent (before after : PgStore (γ × List Sent)) : List Sent :=
  after.client.2.drop before.client.2.length

/-! ## Following the life cycle -/

/-- Setting the level of a transaction is between the client and its server. -/
theorem configure_store (client : Client γ) (s : PgStore γ) (now : Instant) (deadline : Deadline)
    (session : Nat) (options : BeginOptions) :
    ∃ c, (configure client s now deadline session options).store = { s with client := c } := by
  unfold configure
  cases options.isolation with
  | none => exact ⟨s.client, rfl⟩
  | some level =>
    dsimp only
    split <;> exact ⟨_, rfl⟩

/-- A store that knows of a transaction, and of closed statements, what the life cycle says. -/
structure Follows (tx : Transaction) (session : Nat) (deadline : Deadline) (l : LifeCycle)
    (s : PgStore γ) : Prop where
  handle : s.transactions[tx.key]? = some ⟨session, deadline, l.ended⟩
  closed : ∀ key, key ∈ s.closed ↔ key ∈ l.closed

section Serve

variable {client : Client γ} {s : PgStore γ} {now : Instant} {tx : Transaction} {session : Nat}
  {deadline : Deadline} {l : LifeCycle}

theorem Follows.live?_eq (h : Follows tx session deadline l s) :
    s.live? tx = if l.ended then none else some ⟨session, deadline, false⟩ := by
  unfold live?
  rw [h.handle]
  cases l.ended <;> rfl

theorem Follows.contains_closed (h : Follows tx session deadline l s) (key : Nat) :
    s.closed.contains key = decide (key ∈ l.closed) := by
  rw [List.contains_eq_mem, decide_eq_decide]
  exact h.closed key

/-- Until it ends, the transaction is found. -/
theorem Follows.live?_of_not_late (h : Follows tx session deadline l s) (hlate : l.late? = none) :
    s.live? tx = some ⟨session, deadline, false⟩ := by
  rw [h.live?_eq, LifeCycle.late?_eq_none.mp hlate]
  rfl

theorem Follows.live?_of_late (h : Follows tx session deadline l s) {e : StoreError}
    (hlate : l.late? = some e) : s.live? tx = none ∧ e = .transactionDone := by
  obtain ⟨hended, rfl⟩ := LifeCycle.late?_eq_some.mp hlate
  rw [h.live?_eq, hended]
  exact ⟨rfl, rfl⟩

/-- Where a statement may be prepared, or why it may not. -/
theorem Follows.target?_eq (h : Follows tx session deadline l s) :
    s.target? (some tx) = l.late?.elim (.ok (.session session)) .error := by
  simp only [target?]
  cases hlate : l.late? with
  | none => rw [h.live?_of_not_late hlate]; rfl
  | some e =>
    obtain ⟨hlive, rfl⟩ := h.live?_of_late hlate
    rw [hlive]
    rfl

/-- Where a statement is run, or why it is not. -/
theorem Follows.targetOf?_eq (h : Follows tx session deadline l s) {statement : Statement}
    (hwithin : statement.within = some tx) :
    s.targetOf? statement = (l.unusable? statement.key).elim (.ok (.session session)) .error := by
  unfold targetOf? LifeCycle.unusable?
  rw [h.contains_closed, hwithin, h.target?_eq]
  by_cases hclosed : statement.key ∈ l.closed <;> simp [hclosed]

theorem Follows.target?_of_not_late (h : Follows tx session deadline l s)
    (hlate : l.late? = none) : s.target? (some tx) = .ok (.session session) := by
  rw [h.target?_eq, hlate, Option.elim_none]

theorem Follows.targetOf?_of_usable (h : Follows tx session deadline l s) {statement : Statement}
    (hwithin : statement.within = some tx) (husable : l.unusable? statement.key = none) :
    s.targetOf? statement = .ok (.session session) := by
  rw [h.targetOf?_eq hwithin, husable, Option.elim_none]

/-- Passing a request on leaves transactions and closed statements as they are. -/
theorem Follows.pass (h : Follows tx session deadline l s) (d : Deadline) (r : Request)
    (failed : ClientError → Reported) :
    Follows tx session deadline l (pass client s now d r failed).store :=
  ⟨h.handle, h.closed⟩

theorem Follows.handOut {p : Passed γ Unit} (h : Follows tx session deadline l p.store)
    (query : String) : Follows tx session deadline l (handOut query p).store := by
  unfold PgStore.handOut
  split
  · exact ⟨h.handle, h.closed⟩
  · exact h

theorem Follows.configure (h : Follows tx session deadline l s) (d : Deadline) (n : Nat)
    (options : BeginOptions) :
    Follows tx session deadline l (configure client s now d n options).store := by
  obtain ⟨c, hstore⟩ := configure_store client s now d n options
  rw [hstore]
  exact ⟨h.handle, h.closed⟩

theorem Follows.handOutTransaction {p : Passed γ Unit} (h : Follows tx session deadline l p.store)
    (d : Deadline) (n : Nat) :
    Follows tx session deadline l (handOutTransaction d n p).store := by
  unfold PgStore.handOutTransaction
  split
  · refine ⟨?_, h.closed⟩
    show (p.store.transactions ++ _)[tx.key]? = _
    rw [List.getElem?_append_left (List.getElem?_eq_some_iff.mp h.handle).1, h.handle]
  · exact h

theorem Follows.begin (h : Follows tx session deadline l s) (d : Deadline)
    (options : BeginOptions) :
    Follows tx session deadline l (begin client s now d options).store := by
  unfold PgStore.begin
  dsimp only
  split
  · apply Follows.handOutTransaction
    exact (h.pass d .begin connectionFailed).configure d _ options
  · exact h.pass d .begin connectionFailed

theorem Follows.finish_self (h : Follows tx session deadline l s) :
    Follows tx session deadline { l with ended := true } (s.finish tx) := by
  refine ⟨?_, h.closed⟩
  show (s.transactions.modify tx.key _)[tx.key]? = _
  rw [List.getElem?_modify_eq, h.handle]
  rfl

theorem Follows.finish_of_ne (h : Follows tx session deadline l s) {t : Transaction}
    (ht : t ≠ tx) : Follows tx session deadline l (s.finish t) := by
  refine ⟨?_, h.closed⟩
  show (s.transactions.modify t.key _)[tx.key]? = _
  rw [List.getElem?_modify_ne _ _ fun heq => ht (by cases t; cases tx; cases heq; rfl), h.handle]

/-- After a call that is to end a transaction it has ended, whatever came of the call. -/
theorem Follows.asked_to_end (h : Follows tx session deadline l s) {t : Transaction}
    (hlive : s.live? t = none) :
    Follows tx session deadline { l with ended := l.ended || t == tx } s := by
  by_cases ht : t = tx
  · subst ht
    rw [h.live?_eq] at hlive
    cases hended : l.ended with
    | true =>
      rw [Bool.true_or, ← hended]
      exact h
    | false => simp [hended] at hlive
  · have hother : (t == tx) = false := beq_eq_false_iff_ne.mpr ht
    rw [hother, Bool.or_false]
    exact h

theorem Follows.finish (h : Follows tx session deadline l s) (t : Transaction) :
    Follows tx session deadline { l with ended := l.ended || t == tx } (s.finish t) := by
  by_cases ht : t = tx
  · subst ht
    rw [beq_self_eq_true, Bool.or_true]
    exact h.finish_self
  · have hother : (t == tx) = false := beq_eq_false_iff_ne.mpr ht
    rw [hother, Bool.or_false]
    exact h.finish_of_ne ht

/-- After any call the store knows what the life cycle says. -/
theorem Follows.step (h : Follows tx session deadline l s) (now : Instant) (c : Call) :
    Follows tx session deadline (l.after tx c) (serve client s now c).state := by
  cases c with
  | prepare within d query =>
    simp only [serve]
    split
    · exact h
    · exact (h.pass d _ prepareFailed).handOut query
  | begin d options => exact h.begin d options
  | exec statement d args | queryRow statement d args | queryRows statement d args =>
    simp only [serve]
    split
    · exact h
    · exact h.pass d _ runFailed
  | close statement =>
    simp only [serve]
    split
    · -- The store leaves its list alone, and the life cycle takes in a key that it has already.
      rename_i hclosed
      have hmem : statement.key ∈ l.closed := (h.closed _).mp (List.contains_iff_mem.mp hclosed)
      refine ⟨h.handle, fun key => (h.closed key).trans ?_⟩
      show key ∈ l.closed ↔ key ∈ statement.key :: l.closed
      rw [List.mem_cons]
      exact ⟨.inr, fun hkey => hkey.elim (fun heq => heq ▸ hmem) id⟩
    · refine ⟨h.handle, fun key => ?_⟩
      show key ∈ statement.key :: s.closed ↔ key ∈ statement.key :: l.closed
      rw [List.mem_cons, List.mem_cons, h.closed]
  | commit t | rollback t =>
    simp only [serve]
    split
    · exact h.asked_to_end ‹_›
    · exact ⟨(h.finish t).handle, h.closed⟩

/-- A call against the life cycle is refused without a request. -/
theorem Follows.serve_refused (h : Follows tx session deadline l s) {c : Call}
    (hc : c.Concerns tx) {e : StoreError} (hrefusal : l.refusal? c = some e) :
    serve client s now c = refuse s now c e := by
  cases c with
  | begin d options => cases hc
  | prepare within d query =>
    obtain rfl : within = some tx := hc
    have htarget : s.target? (some tx) = .error e := by
      rw [h.target?_eq, show l.late? = some e from hrefusal, Option.elim_some]
    simp only [serve, htarget]
  | exec statement d args | queryRow statement d args | queryRows statement d args =>
    have htarget : s.targetOf? statement = .error e := by
      rw [h.targetOf?_eq hc, show l.unusable? _ = some e from hrefusal, Option.elim_some]
    simp only [serve, htarget]
  | close statement =>
    obtain ⟨hclosed, rfl⟩ := LifeCycle.refusal?_close_eq_some.mp hrefusal
    simp only [serve, h.contains_closed, hclosed, decide_true, if_true]
  | commit t | rollback t =>
    obtain rfl : t = tx := hc
    obtain ⟨hlive, rfl⟩ := h.live?_of_late hrefusal
    simp only [serve, hlive]

/-- A call that is passed on is not refused for being late. -/
theorem Follows.mishap (h : Follows tx session deadline l s) {c : Call} (hc : c.Concerns tx)
    (hrefusal : l.refusal? c = none) {e : StoreError}
    (he : (serve client s now c).answer = .error e) : Mishap e := by
  cases c with
  | begin d options => cases hc
  | prepare within d query =>
    obtain rfl : within = some tx := hc
    simp only [serve, h.target?_of_not_late hrefusal] at he
    exact mishap_pass mishap_prepareFailed (answer_handOut he)
  | exec statement d args =>
    simp only [serve, h.targetOf?_of_usable hc hrefusal] at he
    exact mishap_run (fun _ _ hread => by cases hread) he
  | queryRow statement d args =>
    simp only [serve, h.targetOf?_of_usable hc hrefusal] at he
    exact mishap_run (fun _ _ => mishap_readFirst) he
  | queryRows statement d args =>
    simp only [serve, h.targetOf?_of_usable hc hrefusal] at he
    exact mishap_run (fun _ _ => mishap_decodeRows) he
  | close statement =>
    have hclosed := LifeCycle.refusal?_close_eq_none.mp hrefusal
    simp only [serve, h.contains_closed, hclosed, decide_false, Bool.false_eq_true, if_false] at he
    cases he
  | commit t =>
    obtain rfl : t = tx := hc
    simp only [serve, h.live?_of_not_late hrefusal] at he
    exact mishap_pass mishap_commitFailed he
  | rollback t =>
    obtain rfl : t = tx := hc
    simp only [serve, h.live?_of_not_late hrefusal] at he
    exact mishap_pass mishap_rollbackFailed he

end Serve

/-! ## What is sent -/

/-- The requests that a call on a live transaction or an unclosed statement stands for. -/
def requests (session : Nat) (deadline : Deadline) (now : Instant) : Call → List Sent
  | .prepare _ d query => [.asked now d (.prepare (.session session) query)]
  | .exec s d args | .queryRow s d args | .queryRows s d args =>
    [.asked now d (.run (.session session) s.query args)]
  | .commit _ => [.asked now deadline (.commit session)]
  | .rollback _ => [.asked now (.after now rollbackTimeout) (.rollback session)]
  | .close _ | .begin .. => []

section Passed

variable {client : Client γ} {s : PgStore (γ × List Sent)} {now : Instant} {tx : Transaction}
  {session : Nat} {deadline : Deadline} {l : LifeCycle}

theorem sent_self : sent s s = [] := by
  simp [sent]

theorem sent_pass {s' : PgStore (γ × List Sent)} (hclient : s'.client = s.client) (d : Deadline)
    (r : Request) (failed : ClientError → Reported) :
    sent s (pass client.recorded s' now d r failed).store = [.asked now d r] := by
  simp [sent, pass, Client.recorded, hclient]

theorem sent_handOut (query : String) (p : Passed (γ × List Sent) Unit) :
    sent s (handOut query p).store = sent s p.store := by
  unfold handOut
  split <;> rfl

/-- A call against the life cycle sends nothing. -/
theorem Follows.sent_refused (h : Follows tx session deadline l s) {c : Call}
    (hc : c.Concerns tx) {e : StoreError} (hrefusal : l.refusal? c = some e) :
    sent s (serve client.recorded s now c).state = [] := by
  rw [h.serve_refused hc hrefusal]
  exact sent_self

/-- For a call that is passed on just its request is sent. -/
theorem Follows.sent_passed (h : Follows tx session deadline l s) {c : Call} (hc : c.Concerns tx)
    (hrefusal : l.refusal? c = none) :
    sent s (serve client.recorded s now c).state = requests session deadline now c := by
  cases c with
  | begin d options => cases hc
  | prepare within d query =>
    obtain rfl : within = some tx := hc
    simp only [serve, h.target?_of_not_late hrefusal]
    exact (sent_handOut query _).trans (sent_pass rfl _ _ _)
  | exec statement d args | queryRow statement d args | queryRows statement d args =>
    simp only [serve, h.targetOf?_of_usable hc hrefusal]
    exact sent_pass rfl d _ runFailed
  | close statement =>
    have hclosed := LifeCycle.refusal?_close_eq_none.mp hrefusal
    simp only [serve, h.contains_closed, hclosed, decide_false, Bool.false_eq_true, if_false]
    exact sent_self
  | commit t =>
    obtain rfl : t = tx := hc
    simp only [serve, h.live?_of_not_late hrefusal]
    exact sent_pass rfl deadline _ commitFailed
  | rollback t =>
    obtain rfl : t = tx := hc
    simp only [serve, h.live?_of_not_late hrefusal]
    exact sent_pass rfl (.after now rollbackTimeout) _ rollbackFailed

end Passed

/-! ## All calls together -/

/-- What is sent for the calls on a transaction and its statements, in order. -/
def traffic (client : Client γ) (tx : Transaction) :
    PgStore (γ × List Sent) → List TimedCall → List Sent
  | _, [] => []
  | s, (now, c) :: rest =>
    let next := (serve client.recorded s now c).state
    (if c.Concerns tx then sent s next else []) ++ traffic client tx next rest

/-- The requests for a call end the transaction once if it ends by the call, and never otherwise. -/
theorem countP_requests {tx : Transaction} (session : Nat) (deadline : Deadline) (now : Instant)
    {l : LifeCycle} {c : Call} (hc : c.Concerns tx) (hrefusal : l.refusal? c = none) :
    (requests session deadline now c).countP Sent.isEnd =
      if (l.after tx c).ended && !l.ended then 1 else 0 := by
  cases c with
  | begin d options => cases hc
  | prepare | exec | queryRow | queryRows | close =>
    simp [requests, LifeCycle.after, Sent.isEnd]
  | commit t | rollback t =>
    obtain rfl : t = tx := hc
    have hended : l.ended = false := LifeCycle.late?_eq_none.mp hrefusal
    simp [requests, LifeCycle.after, Sent.isEnd, hended]

theorem Follows.countP_sent_le {client : Client γ} {tx : Transaction} {session : Nat}
    {deadline : Deadline} {l : LifeCycle} {s : PgStore (γ × List Sent)}
    (h : Follows tx session deadline l s) (now : Instant) (c : Call) :
    (if c.Concerns tx then sent s (serve client.recorded s now c).state else []).countP Sent.isEnd ≤
      if (l.after tx c).ended && !l.ended then 1 else 0 := by
  by_cases hc : c.Concerns tx
  · rw [if_pos hc]
    cases hrefusal : l.refusal? c with
    | none =>
      rw [h.sent_passed hc hrefusal, countP_requests session deadline now hc hrefusal]
    | some e =>
      rw [h.sent_refused hc hrefusal]
      exact Nat.zero_le _
  · rw [if_neg hc]
    exact Nat.zero_le _

/-- A transaction is ended by one request at most, and by none once it has ended. -/
theorem Follows.countP_traffic_le {client : Client γ} {tx : Transaction} {session : Nat}
    {deadline : Deadline} {l : LifeCycle} {s : PgStore (γ × List Sent)}
    (h : Follows tx session deadline l s) (calls : List TimedCall) :
    (traffic client tx s calls).countP Sent.isEnd ≤ if l.ended then 0 else 1 := by
  -- The call that ends the transaction uses up the one request; before and after there is none.
  induction calls generalizing l s with
  | nil => exact Nat.zero_le _
  | cons x rest ih =>
    obtain ⟨now, c⟩ := x
    rw [traffic, List.countP_append]
    refine (Nat.add_le_add (h.countP_sent_le now c) (ih (h.step now c))).trans ?_
    cases hended : l.ended with
    | true =>
      rw [LifeCycle.ended_after hended c]
      exact Nat.le_refl _
    | false => cases (l.after tx c).ended <;> exact Nat.le_refl _

/-- A transaction that is handed out begins its life with nothing said about it. -/
theorem follows_begin {client : Client γ} {s : PgStore γ} {now : Instant} {deadline : Deadline}
    {options : BeginOptions} {tx : Transaction}
    (h : (serve client s now (.begin deadline options)).answer = .ok tx) :
    ∃ session, Follows tx session deadline ⟨false, s.closed⟩
      (serve client s now (.begin deadline options)).state := by
  simp only [serve, Passed.served, begin] at h ⊢
  split at h
  · rename_i session hsession
    refine ⟨session, ?_⟩
    obtain ⟨c, hstore⟩ :=
      configure_store client (pass client s now deadline .begin connectionFailed).store
        (pass client s now deadline .begin connectionFailed).finished deadline session options
    unfold handOutTransaction at h ⊢
    split at h
    · rename_i hconfigured
      simp only [Except.ok.injEq] at h
      subst h
      refine ⟨?_, fun key => ?_⟩
      · simp
      · simp only [hstore]
        rfl
    · cases h
  · cases h

/-- However a transaction is used after it was begun, among whatever other calls and whatever a
client makes of its requests: a call against the life cycle is refused, and nothing is sent for it;
for any other just its request is sent, and it is not refused for being late. A commit is asked for
by the deadline that the transaction was begun with, a rollback by one of its own, and no more than
one of them is asked for at all. -/
theorem transaction_life {client : Client γ} {s : PgStore (γ × List Sent)} {now : Instant}
    {deadline : Deadline} {options : BeginOptions} {tx : Transaction}
    (hbegun : (serve client.recorded s now (.begin deadline options)).answer = .ok tx) :
    let begun := (serve client.recorded s now (.begin deadline options)).state
    ∃ session,
      (∀ past now' c, c.Concerns tx →
        let store := (backend client.recorded).after begun past
        let served := serve client.recorded store now' c
        match (LifeCycle.run tx ⟨false, s.closed⟩ past).refusal? c with
        | some e => served.answer = .error e ∧ sent store served.state = []
        | none =>
          sent store served.state = requests session deadline now' c ∧
            ∀ e, served.answer = .error e → Mishap e) ∧
      ∀ calls, (traffic client tx begun calls).countP Sent.isEnd ≤ 1 := by
  obtain ⟨session, hstart⟩ := follows_begin hbegun
  refine ⟨session, fun past now' c hc => ?_, fun calls => hstart.countP_traffic_le calls⟩
  have hfollows := (backend client.recorded).after_induction (P := Follows tx session deadline)
    hstart (fun _ _ now c h => h.step now c) past
  dsimp only
  cases hrefusal : (LifeCycle.run tx ⟨false, s.closed⟩ past).refusal? c with
  | none => exact ⟨hfollows.sent_passed hc hrefusal, fun e => hfollows.mishap hc hrefusal⟩
  | some e =>
    refine ⟨?_, hfollows.sent_refused hc hrefusal⟩
    rw [hfollows.serve_refused hc hrefusal]
    rfl

/-- A client that never comes back from a commit. -/
def stalling : Client Unit where
  serve s now _ r :=
    ⟨match r with
      | .prepare .. | .rollback _ => some (.ok ())
      | .run .. => some (.ok ⟨[], [], 1⟩)
      | .begin => some (.ok 7)
      | .commit _ => none,
      s, now⟩
  abandon s _ _ := s

/-- A store that was not used yet. -/
def unused : PgStore (Unit × List Sent) := ⟨"accounts", "accounts", ((), []), [], 0, []⟩

/-- The only statement that is prepared. -/
def onlyStatement : Statement := ⟨0, "INSERT", some ⟨0⟩⟩

/-- A write and a commit, and the statement closed. -/
def stalledPast : List TimedCall :=
  [(⟨1⟩, .prepare (some ⟨0⟩) .none "INSERT"), (⟨2⟩, .exec onlyStatement .none []),
    (⟨3⟩, .commit ⟨0⟩), (⟨4⟩, .close onlyStatement)]

/-- A commit whose deadline passes has ended the transaction all the same, also for a client whose
requests are not recorded. -/
theorem transaction_life_of_stalled_commit :
    let client := Client.recorded stalling
    let begun := (serve client unused ⟨0⟩ (.begin .none ⟨none⟩)).state
    let store := (backend client).after begun
    (serve client (store (stalledPast.take 2)) ⟨3⟩ (.commit ⟨0⟩)).answer =
        .error .deadlineExceeded ∧
      (serve client (store (stalledPast.take 3)) ⟨4⟩ (.exec onlyStatement .none [])).answer =
        .error .transactionDone ∧
      (serve client (store stalledPast) ⟨5⟩ (.rollback ⟨0⟩)).answer = .error .transactionDone ∧
      (serve client (store stalledPast) ⟨5⟩ (.exec onlyStatement .none [])).answer =
        .error .statementClosed ∧
      (serve stalling (store stalledPast).unrecorded ⟨5⟩ (.rollback ⟨0⟩)).answer =
        .error .transactionDone ∧
      (traffic stalling ⟨0⟩ begun stalledPast).countP Sent.isEnd ≤ 1 := by
  intro client begun store
  have hbegun : (serve client unused ⟨0⟩ (.begin .none ⟨none⟩)).answer = .ok ⟨0⟩ := rfl
  obtain ⟨_, hcalls, hcount⟩ := transaction_life hbegun
  have hrollback : (serve client (store stalledPast) ⟨5⟩ (.rollback ⟨0⟩)).answer =
      .error .transactionDone := (hcalls stalledPast ⟨5⟩ (.rollback ⟨0⟩) rfl).1
  refine ⟨rfl, (hcalls (stalledPast.take 3) ⟨4⟩ (.exec onlyStatement .none []) rfl).1, hrollback,
    (hcalls stalledPast ⟨5⟩ (.exec onlyStatement .none []) rfl).1, ?_, hcount stalledPast⟩
  rw [serve_unrecorded]
  exact hrollback

end PgStore

end UserAccounts
