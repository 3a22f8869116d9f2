import UserAccounts.Proofs.Account.Decision
import UserAccounts.Proofs.Store.Latency

/-!
# Operations keep to their time

All calls that an operation makes share one deadline, which is set when it starts. So no operation
takes longer than that, whatever fails on the way (`createAccount_finishes_by`,
`listAccounts_finishes_by`, `findAccount_finishes_by`). Where nothing is made to fail, what an
operation costs is known beforehand: `createAccount_decided_by_time` and its like say that it
succeeds if it costs less than its deadline allows, and that otherwise it fails for that reason and
commits nothing.

`Service.stacked_keeps_time` says both of the service however it is put together.
-/

namespace UserAccounts

section Punctuality

variable {database user : String} {ids : Identifiers} {clock : Clock} {m : Memory}
  {now due : Instant}

/-! ## No operation takes too long -/

/-- The rows of an account are added by the deadline, or not at all. -/
theorem insertRows_finishes_by (hids : ids.Prompt) (hclock : clock.Prompt) (hnow : now ≤ due)
    (tx : Transaction) (account : Account)
    {post : Except Setback Account → Instant → Memory → Prop}
    (hpost : ∀ outcome now' m', now' ≤ due →
      (∀ tx, m.TransactionDue tx due → m'.TransactionDue tx due) → post outcome now' m') :
    (insertRows (.direct database user) ids clock tx ⟨some due⟩ account).Finishes post now m := by
  simp only [insertRows, Program.bind_eq, Program.pure_eq_done]
  refine .bind (Memory.finishes_once_of_le (w := .row _) hnow fun check t₁ m₁ ht₁ hm₁ => ?_)
  rcases firstColumn false (·.boolean 0) check with e | (_ | _)
  · exact hpost _ _ _ ht₁ hm₁
  · refine hids.finishes_bind fun userId => (hclock .universal).finishes_bind fun userMoment => ?_
    refine .bind (Memory.finishes_once_of_le (w := .exec _) ht₁ fun users t₂ m₂ ht₂ hm₂ => ?_)
    rcases users with e | users
    · exact hpost _ _ _ ht₂ fun tx h => hm₂ tx (hm₁ tx h)
    · refine hids.finishes_bind fun id => (hclock .universal).finishes_bind fun moment => ?_
      refine .bind (Memory.finishes_once_of_le (w := .exec _) ht₂ fun accounts t₃ m₃ ht₃ hm₃ => ?_)
      rcases accounts with e | accounts
      · exact hpost _ _ _ ht₃ fun tx h => hm₃ tx (hm₂ tx (hm₁ tx h))
      · exact hpost _ _ _ ht₃ fun tx h => hm₃ tx (hm₂ tx (hm₁ tx h))
  · exact hpost _ _ _ ht₁ hm₁

theorem createAccount_finishes_by (hids : ids.Prompt) (hclock : clock.Prompt) (account : Account) :
    (createAccount (.direct database user) ids clock account).Finishes
      (fun _ now' _ => now' ≤ now.after operationTimeout) now m := by
  have hnow : now ≤ now.after operationTimeout := now.le_after _
  simp only [createAccount, abandon, Program.now, Store.begin, Store.commit, Store.rollback,
    Store.direct, Program.call, Program.report, Program.ask, Program.bind_eq, Program.pure_eq_done,
    Program.perform_bind, Program.done_bind, Program.finishes_now, Program.finishes_store]
  have hbegun := Memory.serve_le (m := m) hnow
    (c := .begin (.after now operationTimeout) creationOptions) trivial
  cases hanswer : (m.serve now (.begin (.after now operationTimeout) creationOptions)).1 with
  | error e => exact fun _ => hbegun
  | ok tx =>
    have hdue := Memory.transactionDue_of_begin hanswer
    refine .bind (insertRows_finishes_by hids hclock hbegun tx account
      fun outcome t m' ht hm' => ?_)
    cases outcome with
    | error setback =>
      have hrolledBack := Memory.serve_le (m := m') ht (c := .rollback tx) trivial
      simp only [Program.finishes_store]
      cases (m'.serve t (.rollback tx)).1 <;> exact fun _ => hrolledBack
    | ok a =>
      have hcommitted := Memory.serve_le (m := m') ht (c := .commit tx) (hm' tx hdue)
      simp only [Program.finishes_store]
      cases (m'.serve t (.commit tx)).1 with
      | error e => exact hcommitted
      | ok _ => exact fun _ => hcommitted

theorem listAccounts_finishes_by (window : Window) :
    (listAccounts (.direct database user) window).Finishes
      (fun _ now' _ => now' ≤ now.after operationTimeout) now m := by
  have hnow : now ≤ now.after operationTimeout := now.le_after _
  simp only [listAccounts, Program.now, Program.ask, Program.bind_eq, Program.pure_eq_done,
    Program.perform_bind, Program.done_bind, Program.finishes_now]
  cases window.args with
  | error f => exact hnow
  | ok args =>
    refine .bind (Memory.finishes_once_of_le (w := .row _) hnow fun count t₁ m₁ ht₁ _ => ?_)
    rcases firstColumn 0 (·.integer 0) count with e | n
    · exact ht₁
    · dsimp only
      rcases countValue n with f | total
      · exact ht₁
      · refine .bind (Memory.finishes_once_of_le (w := .rows _) ht₁ fun found t₂ m₂ ht₂ _ => ?_)
        rcases decoding accountsOfRows found with e | accounts
        · exact ht₂
        · refine .bind (Memory.finishes_once_of_le (w := .row _) ht₂ fun more t₃ m₃ ht₃ _ => ?_)
          rcases firstColumn false (·.boolean 0) more with e | hasNext <;> exact ht₃

theorem findAccount_finishes_by (id : Id) :
    (findAccount (.direct database user) id).Finishes
      (fun _ now' _ => now' ≤ now.after operationTimeout) now m := by
  simp only [findAccount, Program.now, Program.ask, Program.bind_eq, Program.pure_eq_done,
    Program.perform_bind, Program.done_bind, Program.finishes_now]
  refine .bind (Memory.finishes_once_of_le (w := .row _) (now.le_after _)
    fun found t m' ht _ => ?_)
  rcases found with e | (_ | row)
  · exact ht
  · exact ht
  · dsimp only
    cases Account.ofRow row <;> exact ht

/-! ## Where nothing is made to fail -/

theorem lt_after_operationTimeout (now : Instant) : now < now.after operationTimeout := by
  have hlt : now.after (.ofMillis 0) < now.after (.ofMillis 1000) :=
    Instant.after_ofMillis_lt.mpr (Nat.zero_lt_succ _)
  rwa [Instant.after_ofMillis_zero] at hlt

/-- What a script says about a step: its statement is not made to fail, and its reply is read as a
certain value. -/
structure Memory.Provides {β : Type} (m : Memory) (step : Step β) (b : β) : Prop where
  not_failing : ∀ e, m.scripted? step.query ≠ some (.fail e)
  read : step.read (step.work.replyTo (m.scripted? step.query)) = .ok b

/-- An operation that succeeds if what it costs, in milliseconds, is less than what its deadline
allows. Otherwise it fails for that reason, and leaves what is committed as it was. -/
structure DecidedByTime {α : Type} (cost : Nat) (m : Memory) (outcome : Except Failure α)
    (m' : Memory) : Prop where
  isOk_iff : outcome.isOk = true ↔ cost < 1000
  late : 1000 ≤ cost → m'.committed = m.committed ∧
    ∃ action f, outcome = .error f ∧ StoreFailed action .deadlineExceeded f

theorem DecidedByTime.inTime {α : Type} {cost : Nat} {a : α} {m' : Memory} (h : cost < 1000) :
    DecidedByTime cost m (.ok a) m' :=
  ⟨iff_of_true rfl h, fun hlate => absurd h (Nat.not_lt.mpr hlate)⟩

theorem DecidedByTime.tooLate {α : Type} {cost : Nat} {m' : Memory} (h : 1000 ≤ cost)
    (hcommitted : m'.committed = m.committed) (action : String) :
    DecidedByTime cost m (.error (storeFailure action .deadlineExceeded) : Except Failure α) m' :=
  ⟨iff_of_false nofun (Nat.not_lt.mpr h),
    fun _ => ⟨hcommitted, action, _, rfl, storeFailure_tells action .deadlineExceeded⟩⟩

variable {run commit : Nat}

/-- The rows of an account are added if running three statements costs less than the deadline
allows, and only then. -/
theorem insertRows_decided_by_time (h : m.Untroubled run commit) (hids : ids.Prompt)
    (hclock : clock.Prompt) {tx : Transaction} (hopen : m.isDone tx = false) {account : Account}
    (hfree : m.Provides (.checkUsername account.username) false)
    (huser : ∀ e, m.scripted? Statements.insertUser ≠ some (.fail e))
    (haccount : ∀ e, m.scripted? Statements.insertAccount ≠ some (.fail e))
    {post : Except Setback Account → Instant → Memory → Prop}
    (hinTime : 3 * run < 1000 → ∀ a m', m.Steady m' →
      post (.ok a) (now.after (.ofMillis (3 * run))) m')
    (hlate : 1000 ≤ 3 * run → ∀ stage action now' m', m.Steady m' →
      post (.error ⟨stage, storeFailure action .deadlineExceeded⟩) now' m') :
    (insertRows (.direct database user) ids clock tx (.after now operationTimeout)
      account).Finishes post now m := by
  have hopens {m' : Memory} (hm' : m.Steady m') :
      ∀ tx', some tx = some tx' → m'.isDone tx' = false := by
    rintro tx' heq
    cases heq
    exact hm'.isDone hopen
  simp only [insertRows, Program.bind_eq, Program.pure_eq_done]
  refine .bind (h.takes_once (w := .row _) (lt_after_operationTimeout now) (hopens (.refl m))
    (fun _ => rfl) hfree.not_failing fun check t₁ m₁ htakes₁ hm₁ => ?_)
  rcases htakes₁.millis rfl (Instant.after_ofMillis_zero now).symm with
    ⟨hlt₁, rfl, rfl⟩ | ⟨hge₁, rfl, rfl⟩
  · have hread : firstColumn false (·.boolean 0) (.ok ((Work.row [.text account.username]).replyTo
        (m.scripted? Statements.usernameExists))) = .ok false := hfree.read
    rw [hread]
    refine hids.finishes_bind fun userId => (hclock .universal).finishes_bind fun userMoment => ?_
    refine .bind ((h.of_steady hm₁).takes_once (w := .exec _) (Instant.after_ofMillis_lt.mpr hlt₁)
      (hopens hm₁) (fun _ => rfl) (hm₁.scripted?_eq _ ▸ huser) fun users t₂ m₂ htakes₂ hm₂ => ?_)
    have hm₁₂ : m.Steady m₂ := hm₁.trans hm₂
    rcases htakes₂.millis rfl rfl with ⟨hlt₂, rfl, rfl⟩ | ⟨hge₂, rfl, rfl⟩
    · refine hids.finishes_bind fun id => (hclock .universal).finishes_bind fun moment => ?_
      refine .bind ((h.of_steady hm₁₂).takes_once (w := .exec _)
        (Instant.after_ofMillis_lt.mpr hlt₂) (hopens hm₁₂) (fun _ => rfl)
        (hm₁₂.scripted?_eq _ ▸ haccount) fun accounts t₃ m₃ htakes₃ hm₃ => ?_)
      have hcost : 0 + run + run + run = 3 * run := by omega
      rcases htakes₃.millis rfl rfl with ⟨hlt₃, rfl, rfl⟩ | ⟨hge₃, rfl, rfl⟩
      · rw [hcost] at hlt₃ ⊢
        exact hinTime hlt₃ _ _ (hm₁₂.trans hm₃)
      · exact hlate (hcost ▸ hge₃) _ _ _ _ (hm₁₂.trans hm₃)
    · exact hlate (by omega) _ _ _ _ hm₁₂
  · exact hlate (by omega) _ _ _ _ hm₁

theorem createAccount_decided_by_time (h : m.Untroubled run commit) (hids : ids.Prompt)
    (hclock : clock.Prompt) {account : Account}
    (hfree : m.Provides (.checkUsername account.username) false)
    (huser : ∀ e, m.scripted? Statements.insertUser ≠ some (.fail e))
    (haccount : ∀ e, m.scripted? Statements.insertAccount ≠ some (.fail e)) :
    (createAccount (.direct database user) ids clock account).Finishes
      (fun outcome _ m' => DecidedByTime (3 * run + commit) m outcome m') now m := by
  obtain ⟨tx, m₀, hbegin, h₀, hdue, hopen, hscript, hcommitted⟩ :=
    h.serve_begin (lt_after_operationTimeout now) creationOptions
  have hscripted (query : String) : m₀.scripted? query = m.scripted? query := by
    rw [Memory.scripted?, Memory.scripted?, hscript]
  simp only [createAccount, abandon, Program.now, Store.begin, Store.commit, Store.rollback,
    Store.direct, Program.call, Program.report, Program.ask, Program.bind_eq, Program.pure_eq_done,
    Program.perform_bind, Program.done_bind, Program.finishes_now, Program.finishes_store]
  have hbegin' : m.serve now (.begin (.after now operationTimeout) creationOptions) = _ := hbegin
  rw [hbegin']
  refine .bind (insertRows_decided_by_time h₀ hids hclock hopen
    ⟨hscripted _ ▸ hfree.not_failing, hscripted _ ▸ hfree.read⟩ (hscripted _ ▸ huser)
    (hscripted _ ▸ haccount) (fun hlt a m' hm' => ?_) fun hge stage action t m' hm' => ?_)
  · have htakes := (h₀.of_steady hm').takes_commit (Instant.after_ofMillis_lt.mpr hlt)
      (hm'.transactionDue hdue) (hm'.isDone hopen)
    have hlost {e : StoreError}
        (herror : (m'.serve (now.after (.ofMillis (3 * run))) (.commit tx)).1 = .error e) :=
      Memory.committed_of_commit_error herror
    simp only [Program.finishes_store]
    generalize m'.serve (now.after (.ofMillis (3 * run))) (.commit tx) = served at *
    obtain ⟨answer, m'', t⟩ := served
    rcases htakes.millis rfl rfl with ⟨hcost, rfl, rfl⟩ | ⟨hcost, rfl, rfl⟩
    · exact fun _ => .inTime hcost
    · exact .tooLate hcost ((hlost rfl).trans (hm'.committed.trans hcommitted)) _
  · obtain ⟨hrolledBack, hkept⟩ := (h₀.of_steady hm').serve_rollback t (hm'.isDone hopen)
    simp only [Program.finishes_store]
    rw [hrolledBack]
    exact fun _ => .tooLate (by omega) (hkept.trans (hm'.committed.trans hcommitted)) action

theorem listAccounts_decided_by_time (h : m.Untroubled run commit) {window : Window}
    {args : ListingArgs} {n : Int64} {accounts : List Account} {hasNext : Bool}
    (hargs : window.args = .ok args) (hcount : m.Provides .count n) (hn : 0 ≤ n.toInt)
    (hpage : m.Provides (.page args) accounts) (hprobe : m.Provides (.probe args) hasNext) :
    (listAccounts (.direct database user) window).Finishes
      (fun outcome _ m' => DecidedByTime (3 * run) m outcome m') now m := by
  simp only [listAccounts, hargs, Program.now, Program.ask, Program.bind_eq, Program.pure_eq_done,
    Program.perform_bind, Program.done_bind, Program.finishes_now]
  refine .bind (h.takes_reading (w := .row _) (lt_after_operationTimeout now) rfl
    hcount.not_failing fun count t₁ m₁ htakes₁ hm₁ => ?_)
  rcases htakes₁.millis rfl (Instant.after_ofMillis_zero now).symm with
    ⟨hlt₁, rfl, rfl⟩ | ⟨hge₁, rfl, rfl⟩
  · have hread₁ : firstColumn 0 (·.integer 0)
        (.ok ((Work.row []).replyTo (m.scripted? Statements.countAccounts))) = .ok n := hcount.read
    have htotal : countValue n = .ok n.toInt.toNat := if_neg (Int.not_lt.mpr hn)
    simp only [hread₁, htotal]
    refine .bind ((h.of_steady hm₁).takes_reading (w := .rows _)
      (Instant.after_ofMillis_lt.mpr hlt₁) rfl (hm₁.scripted?_eq _ ▸ hpage.not_failing)
      fun found t₂ m₂ htakes₂ hm₂ => ?_)
    have hm₁₂ : m.Steady m₂ := hm₁.trans hm₂
    rcases htakes₂.millis rfl rfl with ⟨hlt₂, rfl, rfl⟩ | ⟨hge₂, rfl, rfl⟩
    · have hread₂ : decoding accountsOfRows (.ok ((Work.rows [args.offset, args.limit]).replyTo
          (m₁.scripted? Statements.findAccounts))) = .ok accounts :=
        hm₁.scripted?_eq _ ▸ hpage.read
      simp only [hread₂]
      refine .bind ((h.of_steady hm₁₂).takes_reading (w := .row _)
        (Instant.after_ofMillis_lt.mpr hlt₂) rfl (hm₁₂.scripted?_eq _ ▸ hprobe.not_failing)
        fun more t₃ m₃ htakes₃ hm₃ => ?_)
      rcases htakes₃.millis rfl rfl with ⟨hlt₃, rfl, rfl⟩ | ⟨hge₃, rfl, rfl⟩
      · have hread₃ : firstColumn false (·.boolean 0) (.ok ((Work.row [args.next]).replyTo
            (m₂.scripted? Statements.hasAccountsAfter))) = .ok hasNext :=
          hm₁₂.scripted?_eq _ ▸ hprobe.read
        simp only [hread₃]
        exact .inTime (by omega)
      · exact .tooLate (by omega) (hm₁₂.trans hm₃).committed _
    · exact .tooLate (by omega) hm₁₂.committed _
  · exact .tooLate (by omega) hm₁.committed _

theorem findAccount_decided_by_time (h : m.Untroubled run commit) {id : Id} {row : Row}
    {account : Account} (hfound : m.Provides (.search id) (some row))
    (hrow : Account.ofRow row = .ok account) :
    (findAccount (.direct database user) id).Finishes
      (fun outcome _ m' => DecidedByTime run m outcome m') now m := by
  simp only [findAccount, Program.now, Program.ask, Program.bind_eq, Program.pure_eq_done,
    Program.perform_bind, Program.done_bind, Program.finishes_now]
  refine .bind (h.takes_reading (w := .row _) (lt_after_operationTimeout now) rfl
    hfound.not_failing fun found t m' htakes hm' => ?_)
  rcases htakes.millis rfl (Instant.after_ofMillis_zero now).symm with
    ⟨hlt, rfl, rfl⟩ | ⟨hge, rfl, rfl⟩
  · have hreply : (Work.row [.text id.text]).replyTo (m.scripted? Statements.findAccountById) =
        some row := Except.ok.inj hfound.read
    simp only [hreply, hrow]
    exact .inTime (by omega)
  · exact .tooLate (by omega) hm'.committed _

end Punctuality

/-! ## Services -/

/-- However the service is put together, as long as its layers and reports take no time: no
operation on the store in memory takes longer than its deadline allows, whatever fails. If nothing
is made to fail, a creation takes three times what the store takes to run a statement and once what
it takes to commit, a listing three times and a search once what it takes to run a statement, and
each of them succeeds exactly if that is less than its deadline allows. -/
theorem Service.stacked_keeps_time {layers : List Layer} {reporters : List Clock}
    {ids : Identifiers} {clock : Clock} (hlayers : ∀ layer ∈ layers, layer.Prompt)
    (hreporters : ∀ reporter ∈ reporters, reporter.Prompt) (hids : ids.Prompt)
    (hclock : clock.Prompt) (database user : String) (w : World Memory) :
    let service := stacked layers reporters database user ids clock
    let machine := World.machine .memory
    let store := w.store
    ((∀ account, ((service.create account).run machine w).2.now ≤ w.now.after operationTimeout) ∧
      (∀ window, ((service.list window).run machine w).2.now ≤ w.now.after operationTimeout) ∧
      ∀ id, ((service.find id).run machine w).2.now ≤ w.now.after operationTimeout) ∧
    ∀ run commit, store.Untroubled run commit →
      (∀ account, store.Provides (.checkUsername account.username) false →
        (∀ e, store.scripted? Statements.insertUser ≠ some (.fail e)) →
        (∀ e, store.scripted? Statements.insertAccount ≠ some (.fail e)) →
        let creation := (service.create account).run machine w
        DecidedByTime (3 * run + commit) store creation.1 creation.2.store) ∧
      (∀ window args n accounts hasNext, window.args = .ok args → store.Provides .count n →
        0 ≤ n.toInt → store.Provides (.page args) accounts → store.Provides (.probe args) hasNext →
        let listing := (service.list window).run machine w
        DecidedByTime (3 * run) store listing.1 listing.2.store) ∧
      ∀ id row account, store.Provides (.search id) (some row) → Account.ofRow row = .ok account →
        let search := (service.find id).run machine w
        DecidedByTime run store search.1 search.2.store := by
  intro service machine store
  have hservice : DecoratesBy Effect.Instantaneous (.ofStore (.direct database user) ids clock)
      service :=
    stacked_decoratesBy hlayers
      (fun reporter hreporter => Layer.logged_prompt (hreporters reporter hreporter)) trivial
      hids.quiet hclock.quiet database user
  refine ⟨⟨fun account => ?_, fun window => ?_, fun id => ?_⟩,
    fun run commit h => ⟨fun account hfree huser haccount => ?_,
      fun window args n accounts hasNext hargs hcount hn hpage hprobe => ?_,
      fun id row account hfound hrow => ?_⟩⟩
  · exact ((hservice.create account).finishes
      (createAccount_finishes_by hids hclock account)).run
  · exact ((hservice.list window).finishes (listAccounts_finishes_by window)).run
  · exact ((hservice.find id).finishes (findAccount_finishes_by id)).run
  · exact ((hservice.create account).finishes
      (createAccount_decided_by_time h hids hclock hfree huser haccount)).run
  · exact ((hservice.list window).finishes
      (listAccounts_decided_by_time h hargs hcount hn hpage hprobe)).run
  · exact ((hservice.find id).finishes (findAccount_decided_by_time h hfound hrow)).run

/-- A store that takes a quarter of a second for each statement and for each commit. -/
def slowStore : Memory :=
  { Memory.empty with latency := some (.ofMillis 250), commitLatency := some (.ofMillis 250) }

/-- On a slow store a creation comes to an end at the very moment of its deadline, which is too
late, while a listing is in time. -/
theorem Service.stacked_keeps_time_of_slowStore :
    let layers := [Layer.metered (.kept 0), .logged .wall, .metered .discarding]
    let service := stacked layers [.wall] "accounts" "svc" .fresh .wall
    let machine := World.machine .memory
    let world := World.start slowStore ⟨0, 0, 0⟩ "id"
    let creation := (service.create (.new "jane" (.new "Jane" "Doe"))).run machine world
    (∀ layer ∈ layers, layer.Prompt) ∧ (∀ reporter ∈ [Clock.wall], reporter.Prompt) ∧
      Identifiers.fresh.Prompt ∧ Clock.wall.Prompt ∧ slowStore.Untroubled 250 250 ∧
      creation.2.now ≤ world.now.after operationTimeout ∧
      creation.2.store.committed = slowStore.committed ∧
      (∃ action f, creation.1 = .error f ∧ StoreFailed action .deadlineExceeded f) ∧
      ((service.list .default).run machine world).1.isOk = true := by
  intro layers service machine world creation
  have hlayers : ∀ layer ∈ layers, layer.Prompt :=
    List.forall_mem_cons.mpr ⟨Layer.metered_prompt _, List.forall_mem_cons.mpr
      ⟨Layer.logged_prompt Clock.wall_prompt,
        List.forall_mem_singleton.mpr (Layer.metered_prompt _)⟩⟩
  have hreporters : ∀ reporter ∈ [Clock.wall], reporter.Prompt :=
    List.forall_mem_singleton.mpr Clock.wall_prompt
  have huntroubled : slowStore.Untroubled 250 250 := ⟨rfl, rfl, fun _ => rfl, nofun⟩
  have hsilent (query : String) (e : StoreError) :
      slowStore.scripted? query ≠ some (.fail e) := nofun
  obtain ⟨⟨hpunctual, -, -⟩, hdecided⟩ := stacked_keeps_time hlayers hreporters
    Identifiers.fresh_prompt Clock.wall_prompt "accounts" "svc" world
  obtain ⟨hcreation, hlisting, -⟩ := hdecided 250 250 huntroubled
  have hcreated := hcreation (.new "jane" (.new "Jane" "Doe")) ⟨hsilent _, rfl⟩ (hsilent _)
    (hsilent _)
  have hlisted := hlisting .default _ 0 [] false rfl ⟨hsilent _, rfl⟩ (by decide) ⟨hsilent _, rfl⟩
    ⟨hsilent _, rfl⟩
  obtain ⟨hcommitted, hlate⟩ := hcreated.late (Nat.le_refl _)
  refine ⟨hlayers, hreporters, Identifiers.fresh_prompt, Clock.wall_prompt, huntroubled, ?_⟩
  -- With the names in place, comparing the two sides would evaluate the run.
  dsimp only [creation, service, machine]
  exact ⟨hpunctual (.new "jane" (.new "Jane" "Doe")), hcommitted, hlate,
    hlisted.isOk_iff.mpr (by decide)⟩

end UserAccounts
