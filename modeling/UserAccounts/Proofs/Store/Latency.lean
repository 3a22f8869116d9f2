import UserAccounts.Proofs.Store.Bracket
import UserAccounts.Proofs.Store.Timekeeping

/-!
# What statements cost in memory

Two accounts of the time that a statement takes from being prepared to being closed. Whatever the
store in memory makes of its calls, it is done by its deadline (`Memory.finishes_once_of_le`). And
where nothing is made to fail, it takes what the store takes to run it, or is cut off at the
deadline (`Memory.Untroubled.takes_once`): work that would be done at the very moment of the
deadline is too late. The same goes for commits (`Memory.Untroubled.takes_commit`).

`Memory.Steady` is what calls about statements keep, so that one use of a statement can follow
another.
-/

namespace UserAccounts

namespace Work

/-- What a piece of work yields, given what the script says about its statement. -/
def replyTo : (w : Work) → Option Scripted → w.Reply
  | .exec _, answer => Memory.affectedRows answer
  | .row _, answer => (Memory.resultRows answer).head?
  | .rows _, answer => Memory.resultRows answer

/-- Whether a piece of work can change what is kept. -/
def writes : Work → Bool
  | .exec _ => true
  | .row _ | .rows _ => false

end Work

/-! ## Brackets in time -/

namespace Memory

variable {m m' : Memory} {now due : Instant} {database user : String}
  {within : Option Transaction} {d : Deadline} {query : String}

/-- A bracket prepares its statement, does its work and closes the statement. -/
theorem finishes_bracket {α : Type} {post : Except StoreError α → Instant → Memory → Prop}
    {work : Statement → Program (Except StoreError α)}
    (hrefused : ∀ e, (m.serve now (.prepare within d query)).1 = .error e →
      post (.error e) (m.serve now (.prepare within d query)).2.2
        (m.serve now (.prepare within d query)).2.1)
    (hprepared : ∀ p, (m.serve now (.prepare within d query)).1 = .ok p →
      (work (p.statement within)).Finishes
        (fun outcome now' m' =>
          let closed := m'.serve now' (.close (p.statement within))
          post (closing outcome closed.1) closed.2.2 closed.2.1)
        (m.serve now (.prepare within d query)).2.2
        (m.serve now (.prepare within d query)).2.1) :
    ((Store.direct database user).bracket within d query work).Finishes post now m := by
  simp only [Store.bracket, Store.prepare, Store.close, Store.direct, Program.call, Program.ask,
    Program.bind_eq, Program.pure_eq_done, Program.perform_bind, Program.done_bind,
    Program.finishes_store]
  cases hanswer : (m.serve now (.prepare within d query)).1 with
  | error e => exact hrefused e hanswer
  | ok p =>
    simp only [Program.done_bind]
    exact Program.Finishes.bind (hprepared p hanswer)

/-- However the use of a statement goes, it goes by its deadline. -/
theorem finishes_once_of_le {w : Work}
    {post : Except StoreError w.Reply → Instant → Memory → Prop} (hnow : now ≤ due)
    (hpost : ∀ outcome now' m', now' ≤ due →
      (∀ tx, m.TransactionDue tx due → m'.TransactionDue tx due) → post outcome now' m') :
    ((Store.direct database user).once within ⟨some due⟩ query w).Finishes post now m := by
  have hprepared : (m.serve now (.prepare within ⟨some due⟩ query)).2.2 ≤ due :=
    serve_le hnow trivial
  cases w <;> refine finishes_bracket (fun e _ => ?_) fun p _ => ?_
  case exec.refine_1 | row.refine_1 | rows.refine_1 =>
    exact hpost _ _ _ hprepared fun tx htx => serve_transactionDue htx _
  case exec.refine_2 | row.refine_2 | rows.refine_2 =>
    refine hpost _ _ _ (serve_le (serve_le hprepared ?_) trivial) fun tx htx =>
      serve_transactionDue (serve_transactionDue (serve_transactionDue htx _) _) _
    exact rfl

/-! ## What later calls go by -/

/-- A store after calls that leave alone all that later calls go by: there are more statements, some
of them closed, and transactions may have more to commit. -/
structure Steady (m m' : Memory) : Prop where
  script : m'.script = m.script
  failures : m'.failures = m.failures
  timetable : m'.timetable = m.timetable
  ended : m'.roster.ended = m.roster.ended
  committed : m'.committed = m.committed
  statements : m.statements ≤ m'.statements
  closed : ∀ key ∈ m'.closed, key ∈ m.closed ∨ key < m'.statements

namespace Steady

theorem refl (m : Memory) : m.Steady m :=
  ⟨rfl, rfl, rfl, rfl, rfl, Nat.le_refl _, fun _ hkey => .inl hkey⟩

theorem trans {m'' : Memory} (h : m.Steady m') (h' : m'.Steady m'') : m.Steady m'' where
  script := h'.script.trans h.script
  failures := h'.failures.trans h.failures
  timetable := h'.timetable.trans h.timetable
  ended := h'.ended.trans h.ended
  committed := h'.committed.trans h.committed
  statements := h.statements.trans h'.statements
  closed key hkey := by
    rcases h'.closed key hkey with hkey | hkey
    · exact (h.closed key hkey).imp_right fun hlt => hlt.trans_le h'.statements
    · exact .inr hkey

theorem scripted?_eq (h : m.Steady m') (query : String) :
    m'.scripted? query = m.scripted? query := by
  rw [scripted?, scripted?, h.script]

theorem failureOf?_eq (h : m.Steady m') (operation : Operation) :
    m'.failureOf? operation = m.failureOf? operation := by
  rw [failureOf?, failureOf?, h.failures]

theorem transactionDue (h : m.Steady m') {tx : Transaction} (hdue : m.TransactionDue tx due) :
    m'.TransactionDue tx due :=
  hdue.of_timetable_eq h.timetable

end Steady

theorem Steady.isDone (h : m.Steady m') {tx : Transaction} (hopen : m.isDone tx = false) :
    m'.isDone tx = false := by
  rw [isDone_eq_false_iff] at hopen ⊢
  rw [h.ended]
  exact hopen

/-- That a call runs or closes a statement that was handed out, and that nothing is committed by
it. -/
def UsesStatement (m : Memory) : Call → Prop
  | .queryRow .. | .queryRows .. => True
  | .exec s _ _ => s.within.isSome = true
  | .close s => s.key < m.statements
  | .prepare .. | .begin .. | .commit _ | .rollback _ => False

theorem serve_committed (now : Instant) {c : Call} (hc : m.UsesStatement c) :
    (m.serve now c).2.1.committed = m.committed := by
  have hmoved := m.serve_moved now c
  show (m.serve now c).2.1.ledger.committed = m.ledger.committed
  generalize (m.serve now c).1 = answer, (m.serve now c).2.1.ledger = l' at hmoved ⊢
  cases hmoved with
  | written s d args affected =>
    obtain ⟨tx, htx⟩ := Option.isSome_iff_exists.mp hc
    simp only [Ledger.write, htx]
  | committed tx writes h => exact hc.elim
  | _ => rfl

/-- Statements may be run and closed, and what later calls go by is left alone. -/
theorem serve_steady (now : Instant) {c : Call} (hc : m.UsesStatement c) :
    m.Steady (m.serve now c).2.1 := by
  have hcommitted := serve_committed now hc
  have htimetable := m.serve_timetable now c
  have hroster := m.serve_roster now c
  generalize c.verdict (m.serve now c).1 = v, (m.serve now c).2.1 = m' at *
  have hafter : m'.statements = (m.roster.after c v).statements :=
    congrArg Roster.statements hroster
  have hclosed : m'.closed = (m.roster.after c v).closed := congrArg Roster.closed hroster
  have hscript : m'.script = (m.roster.after c v).script := congrArg Roster.script hroster
  have hfailures : m'.failures = (m.roster.after c v).failures := congrArg Roster.failures hroster
  have hended : m'.roster.ended = (m.roster.after c v).ended := congrArg Roster.ended hroster
  cases c with
  | prepare | begin | commit | rollback => exact hc.elim
  | exec | queryRow | queryRows =>
    have hsame : m'.closed = m.closed := hclosed
    exact ⟨hscript, hfailures, htimetable, hended, hcommitted, hafter.ge,
      fun key hkey => .inl (hsame ▸ hkey)⟩
  | close s =>
    refine ⟨hscript, hfailures, htimetable, hended, hcommitted, hafter.ge, fun key hkey => ?_⟩
    rw [hclosed] at hkey
    rcases List.mem_cons.mp hkey with rfl | hkey
    · exact .inr (hafter ▸ hc)
    · exact .inl hkey

/-! ## Calls that wait -/

/-- What comes of something that would be ready at some time, but has a deadline. -/
inductive Takes {α : Type} (due ready : Instant) (reply : α) :
    Except StoreError α → Instant → Prop
  | inTime (h : ready < due) : Takes due ready reply (.ok reply) ready
  | late (h : due ≤ ready) : Takes due ready reply (.error .deadlineExceeded) due

/-- In milliseconds since the start of what has the deadline. -/
theorem Takes.millis {α : Type} {start finished : Instant} {limit spent more : Nat} {reply : α}
    {outcome : Except StoreError α}
    (h : Takes due (now.after (.ofMillis more)) reply outcome finished)
    (hdue : due = start.after (.ofMillis limit)) (hnow : now = start.after (.ofMillis spent)) :
    (spent + more < limit ∧ outcome = .ok reply ∧
      finished = start.after (.ofMillis (spent + more))) ∨
      (limit ≤ spent + more ∧ outcome = .error .deadlineExceeded ∧
        finished = start.after (.ofMillis limit)) := by
  subst hdue hnow
  rw [Instant.after_after_ofMillis] at h
  cases h with
  | inTime h => exact .inl ⟨Instant.after_ofMillis_lt.mp h, rfl, rfl⟩
  | late h =>
    have hle : limit ≤ spent + more :=
      Nat.le_of_not_lt (mt Instant.after_ofMillis_lt.mpr (Nat.not_lt.mpr h))
    exact .inr ⟨hle, rfl, rfl⟩

/-- The time until something is ready, at the latest until its deadline. -/
theorem await_eq {ready : Instant} (hnow : now ≤ due) (hready : now ≤ ready) :
    Deadline.await ⟨some due⟩ now ready = if ready ≤ due then (ready, true) else (due, false) := by
  simp only [Deadline.await]
  by_cases h₁ : ready ≤ now
  · obtain rfl := Instant.le_antisymm hready h₁
    rw [if_pos h₁, if_pos hnow]
  · rw [if_neg h₁]
    by_cases h₂ : ready ≤ due
    · rw [if_pos h₂, if_pos h₂]
    · rw [if_neg h₂, if_neg h₂]
      by_cases h₃ : due ≤ now
      · rw [if_pos h₃, Instant.le_antisymm hnow h₃]
      · rw [if_neg h₃]

theorem delay_eq {c : Call} {latency : Option Span} (hnow : now ≤ due) :
    let ready := now.after (latency.getD (.ofMillis 0))
    delay (c := c) now ⟨some due⟩ latency =
      if ready ≤ due then .waiting ready true else .waiting due false := by
  intro ready
  cases latency with
  | none =>
    have hready : ready = now := Instant.after_ofMillis_zero now
    rw [hready, if_pos hnow]
    rfl
  | some d =>
    simp only [delay, await_eq hnow (now.le_after d), ready, Option.getD_some]
    split <;> rfl

/-- What was not ready in time, or is ready at the deadline only, is too late. -/
theorem settle_late {c : Call} {inTime : Bool} (hc : m.CallDue due c)
    (hlate : inTime = true → due ≤ now) :
    m.settle now inTime c = (.error .deadlineExceeded, m) := by
  have hexpired (h : inTime = true) : Deadline.isExpired ⟨some due⟩ now = true :=
    decide_eq_true (hlate h)
  cases c with
  | exec s d args | queryRow s d args | queryRows s d args =>
    obtain rfl : d = ⟨some due⟩ := hc
    cases inTime with
    | false => rfl
    | true => simp [settle, runScript, hexpired rfl]
  | commit tx =>
    cases inTime with
    | false => rfl
    | true => simp [settle, TransactionDue.deadlineOf_eq hc, hexpired rfl]
  | prepare | begin | close | rollback => rfl

theorem startRun_eq {c : Call} {refused : c.Answer} {s : Statement} (hs : s.key ∉ m.closed) :
    m.startRun refused now s d = delay now d m.latency := by
  have hunclosed : m.closed.contains s.key = false := by
    rw [List.contains_eq_mem, decide_eq_false hs]
  simp only [startRun, hunclosed, Bool.false_eq_true, if_false]

theorem runScript_eq (hd : d.isExpired now = false)
    (hfails : ∀ e, m.scripted? query ≠ some (.fail e)) :
    m.runScript now d query = .ok (m.scripted? query) := by
  simp only [runScript, hd]
  cases hscripted : m.scripted? query with
  | none => rfl
  | some scripted =>
    cases scripted with
    | fail e => exact absurd hscripted (hfails e)
    | _ => rfl

/-- What a statement yields that is not made to fail, and is ready before its deadline. -/
theorem settle_run {s : Statement} (hd : d.isExpired now = false)
    (hfails : ∀ e, m.scripted? s.query ≠ some (.fail e)) (args : List SqlValue) :
    (m.settle now true (.exec s d args)).1 = .ok (affectedRows (m.scripted? s.query)) ∧
      (m.settle now true (.queryRow s d args)).1 =
        .ok (resultRows (m.scripted? s.query)).head? ∧
      (m.settle now true (.queryRows s d args)).1 = .ok (resultRows (m.scripted? s.query)) := by
  simp only [settle, runScript_eq hd hfails]
  exact ⟨rfl, rfl, rfl⟩

/-- A call that waits comes to what it is settled to, if it is ready before its deadline. -/
theorem takes_of_receive {c : Call} {reply : c.Reply} {latency : Option Span} {ready : Instant}
    (hnow : now ≤ due) (hwaits : (m.receive now c).1 = delay now ⟨some due⟩ latency)
    (hready : now.after (latency.getD (.ofMillis 0)) = ready)
    (hdue : (m.receive now c).2.CallDue due c)
    (hreply : ready < due → ((m.receive now c).2.settle ready true c).1 = .ok reply) :
    Takes due ready reply (m.serve now c).1 (m.serve now c).2.2 := by
  unfold serve
  generalize m.receive now c = received at *
  obtain ⟨reception, r⟩ := received
  subst hwaits
  rw [delay_eq hnow, hready]
  by_cases hlt : ready < due
  · have hle : ready ≤ due := Nat.le_of_lt hlt
    simp only [if_pos hle, hreply hlt]
    exact .inTime hlt
  · have hge : due ≤ ready := Nat.le_of_not_lt hlt
    by_cases hle : ready ≤ due
    · obtain rfl := Instant.le_antisymm hle hge
      simp only [if_pos hle, settle_late hdue fun _ => hle]
      exact .late hge
    · have hmissed : r.settle due false c = (.error .deadlineExceeded, r) := settle_late hdue nofun
      simp only [if_neg hle, hmissed]
      exact .late hge

/-! ## Stores without trouble -/

/-- A store that does not make calls of any kind fail, that takes a number of milliseconds to run a
statement and another to commit, and that closed no statement before handing it out. -/
structure Untroubled (m : Memory) (run commit : Nat) : Prop where
  latency : m.latency.getD (.ofMillis 0) = .ofMillis run
  commitLatency : m.commitLatency.getD (.ofMillis 0) = .ofMillis commit
  failures : ∀ operation, m.failureOf? operation = none
  closed : ∀ key ∈ m.closed, key < m.statements

namespace Untroubled

variable {run commit : Nat} {start : Instant} {limit spent : Nat}

theorem of_steady (h : m.Untroubled run commit) (hsteady : m.Steady m') :
    m'.Untroubled run commit := by
  obtain ⟨hlatency, hcommitLatency, -⟩ := Timetable.mk.inj hsteady.timetable
  refine ⟨hlatency ▸ h.latency, hcommitLatency ▸ h.commitLatency,
    fun operation => (hsteady.failureOf?_eq operation).trans (h.failures operation),
    fun key hkey => ?_⟩
  rcases hsteady.closed key hkey with hkey | hkey
  · exact (h.closed key hkey).trans_le hsteady.statements
  · exact hkey

/-- A statement is prepared at once, under a key that is new. -/
theorem serve_prepare (h : m.Untroubled run commit) (hd : d.isExpired now = false)
    (hopen : ∀ tx, within = some tx → m.isDone tx = false) (query : String) :
    ∃ m', m.serve now (.prepare within d query) = (.ok ⟨m.statements, query⟩, m', now) ∧
      m.Steady m' ∧ m.statements < m'.statements ∧ m.statements ∉ m'.closed := by
  have hfailure : ∀ calls, { m with calls }.failureOf? .prepare = none :=
    fun _ => h.failures .prepare
  refine ⟨{ m with
    calls := m.calls ++ [.prepare query within.isSome]
    statements := m.statements + 1 }, ?_, ?_, Nat.lt_succ_self _, fun hkey => ?_⟩
  · cases within with
    | none =>
      simp only [serve, receive, handOut, hd, hfailure]
      rfl
    | some tx =>
      have hdone : ∀ calls, { m with calls }.isDone tx = false := fun _ => hopen tx rfl
      simp only [serve, receive, hdone, handOut, hd, hfailure]
      rfl
  · exact ⟨rfl, rfl, rfl, rfl, rfl, Nat.le_succ _, fun key hkey => .inl hkey⟩
  · exact Nat.lt_irrefl _ (h.closed _ hkey)

/-- A statement is closed at once. -/
theorem serve_close (h : m.Untroubled run commit) (now : Instant) (s : Statement) :
    (m.serve now (.close s)).1 = .ok () ∧ (m.serve now (.close s)).2.2 = now := by
  have hfailure : ∀ calls closed, { m with calls, closed }.failureOf? .close = none :=
    fun _ _ => h.failures .close
  simp only [serve, receive, unlessFailing, hfailure]
  exact ⟨trivial, trivial⟩

/-- A statement that was run is closed at once, and nothing comes of that. -/
theorem run_then_close (h : m.Untroubled run commit) {c : Call} {s : Statement} {reply : c.Reply}
    {ready : Instant} {post : c.Answer → Instant → Memory → Prop} (hc : m.UsesStatement c)
    (hs : s.key < m.statements)
    (htakes : Takes due ready reply (m.serve now c).1 (m.serve now c).2.2)
    (hpost : ∀ outcome now' m', Takes due ready reply outcome now' → m.Steady m' →
      post outcome now' m') :
    let ran := m.serve now c
    let closed := ran.2.1.serve ran.2.2 (.close s)
    post (closing ran.1 closed.1) closed.2.2 closed.2.1 := by
  intro ran closed
  have hran : m.Steady ran.2.1 := serve_steady now hc
  have hclosed : ran.2.1.Steady closed.2.1 :=
    serve_steady ran.2.2 (c := .close s) (hs.trans_le hran.statements)
  obtain ⟨hanswer, htime⟩ := (h.of_steady hran).serve_close ran.2.2 s
  have houtcome : closing ran.1 closed.1 = ran.1 := by
    rw [show closed.1 = .ok () from hanswer]
    cases ran.1 <;> rfl
  rw [houtcome, show closed.2.2 = ran.2.2 from htime]
  exact hpost _ _ _ htakes (hran.trans hclosed)

/-- Running a statement takes what it takes, whatever it is run for. -/
theorem takes_run (h : m.Untroubled run commit) (hnow : now < due) {s : Statement}
    (hs : s.key ∉ m.closed) (hfails : ∀ e, m.scripted? s.query ≠ some (.fail e))
    (args : List SqlValue) :
    let ready := now.after (.ofMillis run)
    let executed := m.serve now (.exec s ⟨some due⟩ args)
    let queried := m.serve now (.queryRow s ⟨some due⟩ args)
    let collected := m.serve now (.queryRows s ⟨some due⟩ args)
    Takes due ready (affectedRows (m.scripted? s.query)) executed.1 executed.2.2 ∧
      Takes due ready (resultRows (m.scripted? s.query)).head? queried.1 queried.2.2 ∧
      Takes due ready (resultRows (m.scripted? s.query)) collected.1 collected.2.2 := by
  intro ready executed queried collected
  have hle : now ≤ due := Nat.le_of_lt hnow
  have hready : now.after (m.latency.getD (.ofMillis 0)) = ready := congrArg now.after h.latency
  have hsettled (hlt : ready < due) (calls : List Observed) :=
    settle_run (m := { m with calls }) (d := ⟨some due⟩) (decide_eq_false (Nat.not_le.mpr hlt))
      hfails args
  exact ⟨takes_of_receive (c := .exec s ⟨some due⟩ args) hle (startRun_eq hs) hready rfl
      fun hlt => (hsettled hlt _).1,
    takes_of_receive (c := .queryRow s ⟨some due⟩ args) hle (startRun_eq hs) hready rfl
      fun hlt => (hsettled hlt _).2.1,
    takes_of_receive (c := .queryRows s ⟨some due⟩ args) hle (startRun_eq hs) hready rfl
      fun hlt => (hsettled hlt _).2.2⟩

/-- The use of a statement takes what the store takes to run it. -/
theorem takes_once (h : m.Untroubled run commit) {w : Work}
    {post : Except StoreError w.Reply → Instant → Memory → Prop} (hnow : now < due)
    (hopen : ∀ tx, within = some tx → m.isDone tx = false)
    (hwrites : w.writes = true → within.isSome = true)
    (hfails : ∀ e, m.scripted? query ≠ some (.fail e))
    (hpost : ∀ outcome now' m',
      Takes due (now.after (.ofMillis run)) (w.replyTo (m.scripted? query)) outcome now' →
        m.Steady m' → post outcome now' m') :
    ((Store.direct database user).once within ⟨some due⟩ query w).Finishes post now m := by
  obtain ⟨m₁, hprepare, hprepared, hkey, hunclosed⟩ :=
    h.serve_prepare (d := ⟨some due⟩) (decide_eq_false (Nat.not_le.mpr hnow)) hopen query
  have h₁ : m₁.Untroubled run commit := h.of_steady hprepared
  rw [← hprepared.scripted?_eq] at hfails hpost
  have hruns := h₁.takes_run hnow (s := Prepared.statement ⟨m.statements, query⟩ within) hunclosed
    hfails
  have hsteady {outcome now' m'}
      (htakes : Takes due (now.after (.ofMillis run)) (w.replyTo (m₁.scripted? query)) outcome now')
      (hm' : m₁.Steady m') : post outcome now' m' :=
    hpost outcome now' m' htakes (hprepared.trans hm')
  cases w <;> refine finishes_bracket (fun e he => ?_) fun p hp => ?_ <;> rw [hprepare] at *
  case exec.refine_1 | row.refine_1 | rows.refine_1 => cases he
  case exec.refine_2 args =>
    cases hp
    exact h₁.run_then_close (c := .exec _ _ args) (hwrites rfl) hkey (hruns args).1
      fun _ _ _ => hsteady
  case row.refine_2 args =>
    cases hp
    exact h₁.run_then_close (c := .queryRow _ _ args) trivial hkey (hruns args).2.1
      fun _ _ _ => hsteady
  case rows.refine_2 args =>
    cases hp
    exact h₁.run_then_close (c := .queryRows _ _ args) trivial hkey (hruns args).2.2
      fun _ _ _ => hsteady

/-- Outside of transactions, for work that writes nothing. -/
theorem takes_reading (h : m.Untroubled run commit) {w : Work}
    {post : Except StoreError w.Reply → Instant → Memory → Prop} (hnow : now < due)
    (hreads : w.writes = false) (hfails : ∀ e, m.scripted? query ≠ some (.fail e))
    (hpost : ∀ outcome now' m',
      Takes due (now.after (.ofMillis run)) (w.replyTo (m.scripted? query)) outcome now' →
        m.Steady m' → post outcome now' m') :
    ((Store.direct database user).once none ⟨some due⟩ query w).Finishes post now m := by
  refine h.takes_once hnow (fun tx htx => ?_) (fun hwrites => ?_) hfails hpost
  · cases htx
  · exact absurd (hreads.symm.trans hwrites) Bool.false_ne_true

end Untroubled

/-! ## Transactions in time -/

variable {tx : Transaction}

/-- A transaction that was begun has the deadline that it was begun with. -/
theorem transactionDue_of_begin {options : BeginOptions}
    (h : (m.serve now (.begin ⟨some due⟩ options)).1 = .ok tx) :
    (m.serve now (.begin ⟨some due⟩ options)).2.1.TransactionDue tx due := by
  have hmoved := m.serve_moved now (.begin ⟨some due⟩ options)
  have htimetable := m.serve_timetable now (.begin ⟨some due⟩ options)
  rw [h] at hmoved htimetable
  unfold TransactionDue
  rw [htimetable]
  generalize (m.serve now (.begin ⟨some due⟩ options)).2.1.ledger = l' at hmoved
  cases hmoved with
  | begun => simp [Timetable.after, Call.verdict, Except.map, timetable, ledger]
  | unmoved _ _ hfailed => cases hfailed rfl

/-- A commit that fails commits nothing. -/
theorem committed_of_commit_error {e : StoreError} (h : (m.serve now (.commit tx)).1 = .error e) :
    (m.serve now (.commit tx)).2.1.committed = m.committed := by
  have hmoved := m.serve_moved now (.commit tx)
  show (m.serve now (.commit tx)).2.1.ledger.committed = m.ledger.committed
  rw [h] at hmoved
  generalize (m.serve now (.commit tx)).2.1.ledger = l' at hmoved ⊢
  cases hmoved with
  | unmoved => rfl

namespace Untroubled

variable {run commit : Nat}

/-- A transaction is begun at once. -/
theorem serve_begin (h : m.Untroubled run commit) (hnow : now < due) (options : BeginOptions) :
    ∃ tx m', m.serve now (.begin ⟨some due⟩ options) = (.ok tx, m', now) ∧
      m'.Untroubled run commit ∧ m'.TransactionDue tx due ∧ m'.isDone tx = false ∧
      m'.script = m.script ∧ m'.committed = m.committed := by
  have hopen : Deadline.isExpired ⟨some due⟩ now = false := decide_eq_false (Nat.not_le.mpr hnow)
  have hfailure : ∀ calls begun, { m with calls, begun }.failureOf? .begin = none :=
    fun _ _ => h.failures .begin
  refine ⟨⟨m.transactions.length⟩, { m with
    calls := m.calls ++ [.begin]
    begun := m.begun ++ [options]
    transactions := m.transactions ++ [⟨⟨some due⟩, [], false⟩] }, ?_,
    ⟨h.latency, h.commitLatency, h.failures, h.closed⟩, ?_, ?_, rfl, rfl⟩
  · simp only [serve, receive, handOutTransaction, hopen, hfailure]
    rfl
  · simp [TransactionDue, timetable]
  · simp [isDone]

/-- A transaction is rolled back at once. -/
theorem serve_rollback (h : m.Untroubled run commit) (now : Instant)
    (hopen : m.isDone tx = false) :
    (m.serve now (.rollback tx)).1 = .ok () ∧
      (m.serve now (.rollback tx)).2.1.committed = m.committed := by
  have hcommitted : (m.serve now (.rollback tx)).2.1.committed = m.committed :=
    (m.serve_moved now (.rollback tx)).committed_eq rfl
  refine ⟨?_, hcommitted⟩
  have hdone : ∀ calls, { m with calls }.isDone tx = false := fun _ => hopen
  have hfailure : ∀ calls transactions,
      { m with calls, transactions }.failureOf? .rollback = none :=
    fun _ _ => h.failures .rollback
  simp only [serve, receive, hdone, modifyTransaction, unlessFailing, hfailure]
  rfl

/-- A commit takes what the store takes for it. -/
theorem takes_commit (h : m.Untroubled run commit) (hnow : now < due)
    (hdue : m.TransactionDue tx due) (hopen : m.isDone tx = false) :
    Takes due (now.after (.ofMillis commit)) () (m.serve now (.commit tx)).1
      (m.serve now (.commit tx)).2.2 := by
  have hdone : ∀ calls, { m with calls }.isDone tx = false := fun _ => hopen
  -- The transaction is marked as ended before the commit takes its time.
  generalize hr : modifyTransaction { m with calls := m.calls ++ [(Call.commit tx).observed] }
    tx.key (fun t => { t with done := true }) = r
  have hreceive :
      m.receive now (.commit tx) = (delay now (r.deadlineOf tx) r.commitLatency, r) := by
    subst hr
    simp only [receive, hdone]
    rfl
  have htimetable : r.timetable = m.timetable := by
    subst hr
    exact timetable_modifyTransaction tx.key _ fun _ => rfl
  have hmarked : r.TransactionDue tx due := hdue.of_timetable_eq htimetable
  have hcommitLatency : r.commitLatency = m.commitLatency :=
    congrArg Timetable.commitLatency htimetable
  have hready : now.after (r.commitLatency.getD (.ofMillis 0)) = now.after (.ofMillis commit) := by
    rw [hcommitLatency, h.commitLatency]
  have hfailure : r.failureOf? .commit = none := by
    subst hr
    exact h.failures .commit
  refine takes_of_receive (c := .commit tx) (Nat.le_of_lt hnow) ?_ hready ?_ fun hlt => ?_ <;>
    rw [hreceive]
  · rw [hmarked.deadlineOf_eq]
  · exact hmarked
  · have hnotYet : Deadline.isExpired ⟨some due⟩ (now.after (.ofMillis commit)) = false :=
      decide_eq_false (Nat.not_le.mpr hlt)
    obtain ⟨t, ht, -⟩ := hmarked.getElem?_eq
    simp [settle, hmarked.deadlineOf_eq, hnotYet, hfailure, ht]

end Untroubled

end Memory

end UserAccounts
