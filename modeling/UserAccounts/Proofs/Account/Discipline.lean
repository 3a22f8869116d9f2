import UserAccounts.Proofs.Account.Decision

/-!
# The discipline of statements

An operation on accounts never holds more than one prepared statement, and never for longer than it
takes to run it once and close it. `WellBracketed` says so of a list of calls, without regard to
which operation made them: whatever the store answers, a statement that it hands out is run by the
very next call and closed by the one after that, and no statement is run or closed otherwise.

The operations that read go by `ReadsInOrder` besides: they stay outside of transactions, ask for
certain statements in a certain order, and once a call has failed they only close what is open.

* `WellBracketed.append`, `ReadsInOrder.append` — one list of calls after another;
* `Service.stacked_brackets` — the operations of the service, on any stack of layers.
-/

namespace UserAccounts

/-! ## Kinds of calls -/

/-- The statement that a call runs. -/
def Call.run? : Call → Option Statement
  | .exec s _ _ | .queryRow s _ _ | .queryRows s _ _ => some s
  | _ => none

/-- The text that a call asks to be prepared. -/
def Call.prepares? : Call → Option String
  | .prepare _ _ query => some query
  | _ => none

/-- Whether a call begins or ends a transaction. -/
def Call.isTransactional : Call → Bool
  | .begin .. | .commit _ | .rollback _ => true
  | _ => false

/-- Whether a call prepares, closes or runs a statement for its rows, outside of transactions. -/
def Call.readsPlainly : Call → Bool
  | .prepare within _ _ => within.isNone
  | .queryRow s _ _ | .queryRows s _ _ | .close s => s.within.isNone
  | _ => false

namespace Exchange

/-- The statement that the store handed out. -/
def opens? : Exchange → Option Statement
  | ⟨.prepare within _ _, .ok p⟩ => some (p.statement within)
  | _ => none

/-- The store refused to prepare a statement. -/
def RefusesStatement (x : Exchange) : Prop := x.1.prepares?.isSome = true ∧ ¬ x.Succeeded

variable {x : Exchange} {s : Statement}

/-- Handing out, running and closing a statement are different things, and none of them is refusing
one. -/
theorem of_opens? (h : x.opens? = some s) :
    ¬ x.RefusesStatement ∧ x.1.run? = none ∧ ∀ s', x.1 ≠ .close s' := by
  obtain ⟨c, answer⟩ := x
  cases c with
  | prepare within d query =>
    cases answer with
    | error e => cases h
    | ok p => exact ⟨fun hrefuses => hrefuses.2 rfl, rfl, nofun⟩
  | _ => cases h

theorem of_run? (h : x.1.run? = some s) :
    ¬ x.RefusesStatement ∧ x.opens? = none ∧ ∀ s', x.1 ≠ .close s' := by
  obtain ⟨c, answer⟩ := x
  cases c with
  | exec | queryRow | queryRows => exact ⟨fun hrefuses => (nomatch hrefuses.1), rfl, nofun⟩
  | _ => cases h

theorem of_close (h : x.1 = .close s) :
    ¬ x.RefusesStatement ∧ x.opens? = none ∧ x.1.run? = none := by
  obtain ⟨c, answer⟩ := x
  cases h
  exact ⟨fun hrefuses => (nomatch hrefuses.1), rfl, rfl⟩

end Exchange

/-! ## Brackets -/

/-- Calls that use statements in brackets. The calls before and after one of them are told apart by
its place, so that it does not matter whether the store hands out the same statement twice. -/
structure WellBracketed (calls : List Exchange) : Prop where
  /-- A statement that is handed out is run next, and closed after that. -/
  completed : ∀ {before after x s}, calls = before ++ x :: after → x.opens? = some s →
    ∃ run closed rest, after = run :: closed :: rest ∧ run.1.run? = some s ∧ closed.1 = .close s
  /-- A statement is run only right after it was handed out. -/
  run_opened : ∀ {before after x s}, calls = before ++ x :: after → x.1.run? = some s →
    ∃ earlier opened, before = earlier ++ [opened] ∧ opened.opens? = some s
  /-- A statement is closed only right after it was run. -/
  close_opened : ∀ {before after x s}, calls = before ++ x :: after → x.1 = .close s →
    ∃ earlier opened run, before = earlier ++ [opened, run] ∧ opened.opens? = some s ∧
      run.1.run? = some s
  /-- Once the store has refused a statement, there are no more calls about statements. -/
  refused : calls.Pairwise fun x y => x.RefusesStatement → y.1.isTransactional = true

/-- An element of a list is the first or one of the others. -/
theorem cons_eq_split {α : Type} {l before after : List α} {x y : α}
    (h : y :: l = before ++ x :: after) :
    (before = [] ∧ x = y ∧ after = l) ∨ ∃ rest, before = y :: rest ∧ l = rest ++ x :: after := by
  rcases List.cons_eq_append_iff.mp h with ⟨hbefore, hx⟩ | hlater
  · obtain ⟨rfl, rfl⟩ := List.cons.inj hx
    exact .inl ⟨hbefore, rfl, rfl⟩
  · exact .inr hlater

/-- An element of one list after another is in the one or in the other. -/
theorem append_eq_split {α : Type} {a b before after : List α} {x : α}
    (h : a ++ b = before ++ x :: after) :
    (∃ rest, a = before ++ x :: rest ∧ after = rest ++ b) ∨
      ∃ rest, before = a ++ rest ∧ b = rest ++ x :: after := by
  induction a generalizing before with
  | nil => exact .inr ⟨before, rfl, h⟩
  | cons y a ih =>
    rcases cons_eq_split h with ⟨rfl, rfl, rfl⟩ | ⟨rest, rfl, hrest⟩
    · exact .inl ⟨a, rfl, rfl⟩
    · rcases ih hrest with ⟨more, rfl, hafter⟩ | ⟨more, rfl, hb⟩
      · exact .inl ⟨more, rfl, hafter⟩
      · exact .inr ⟨more, rfl, hb⟩

namespace WellBracketed

variable {a b : List Exchange}

theorem nil : WellBracketed [] where
  completed h := by simp at h
  run_opened h := by simp at h
  close_opened h := by simp at h
  refused := .nil

/-- Calls may follow others if those got all the statements that they asked for, or if no more
statements come. -/
theorem append (ha : WellBracketed a) (hb : WellBracketed b)
    (hab : (∀ x ∈ a, x.Succeeded) ∨ ∀ y ∈ b, y.1.isTransactional = true) :
    WellBracketed (a ++ b) where
  completed h hs := by
    rcases append_eq_split h with ⟨rest, hin, hafter⟩ | ⟨rest, hbefore, hin⟩
    · obtain ⟨run, closed, more, rfl, hrun, hclosed⟩ := ha.completed hin hs
      exact ⟨run, closed, more ++ b, hafter, hrun, hclosed⟩
    · exact hb.completed hin hs
  run_opened h hs := by
    rcases append_eq_split h with ⟨rest, hin, hafter⟩ | ⟨rest, hbefore, hin⟩
    · exact ha.run_opened hin hs
    · obtain ⟨earlier, opened, rfl, hopened⟩ := hb.run_opened hin hs
      exact ⟨a ++ earlier, opened, by rw [hbefore, List.append_assoc], hopened⟩
  close_opened h hs := by
    rcases append_eq_split h with ⟨rest, hin, hafter⟩ | ⟨rest, hbefore, hin⟩
    · exact ha.close_opened hin hs
    · obtain ⟨earlier, opened, run, rfl, hopened, hrun⟩ := hb.close_opened hin hs
      exact ⟨a ++ earlier, opened, run, by rw [hbefore, List.append_assoc], hopened, hrun⟩
  refused := by
    refine List.pairwise_append.mpr ⟨ha.refused, hb.refused, fun x hx y hy hrefused => ?_⟩
    rcases hab with hsucceeded | htransactional
    · exact absurd (hsucceeded x hx) hrefused.2
    · exact htransactional y hy

/-- A call by which no statement is handed out, run or closed. -/
theorem single {x : Exchange} (hout : x.opens? = none) (hrun : x.1.run? = none)
    (hclose : ∀ s, x.1 ≠ .close s) : WellBracketed [x] := by
  have only {before after : List Exchange} {y : Exchange} (h : [x] = before ++ y :: after) :
      y = x := by
    rcases cons_eq_split h with ⟨-, hy, -⟩ | ⟨rest, -, hrest⟩
    · exact hy
    · simp at hrest
  refine ⟨fun h hs => ?_, fun h hs => ?_, fun h hs => ?_, List.pairwise_singleton _ _⟩ <;>
    rw [only h] at hs
  · rw [hout] at hs
    cases hs
  · rw [hrun] at hs
    cases hs
  · exact absurd hs (hclose _)

/-- A call about a transaction. -/
theorem transactional {x : Exchange} (hx : x.1.isTransactional = true) : WellBracketed [x] := by
  obtain ⟨c, answer⟩ := x
  cases c with
  | begin | commit | rollback => exact .single rfl rfl nofun
  | _ => cases hx

/-- A statement that is handed out, run and closed. -/
theorem bracket {opened run closed : Exchange} {s : Statement} (hopened : opened.opens? = some s)
    (hrun : run.1.run? = some s) (hclosed : closed.1 = .close s) :
    WellBracketed [opened, run, closed] := by
  obtain ⟨hopens, hnotRun, hnotClose⟩ := Exchange.of_opens? hopened
  obtain ⟨hruns, hrunOut, hrunClose⟩ := Exchange.of_run? hrun
  obtain ⟨hcloses, hcloseOut, hcloseRun⟩ := Exchange.of_close hclosed
  have places {before after : List Exchange} {x : Exchange}
      (h : [opened, run, closed] = before ++ x :: after) :
      (before = [] ∧ x = opened ∧ after = [run, closed]) ∨
        (before = [opened] ∧ x = run ∧ after = [closed]) ∨
        (before = [opened, run] ∧ x = closed ∧ after = []) := by
    rcases cons_eq_split h with hfirst | ⟨rest, rfl, hlater⟩
    · exact .inl hfirst
    · rcases cons_eq_split hlater with ⟨rfl, hsecond⟩ | ⟨rest, rfl, hlast⟩
      · exact .inr (.inl ⟨rfl, hsecond⟩)
      · rcases cons_eq_split hlast with ⟨rfl, hthird⟩ | ⟨rest, -, hnone⟩
        · exact .inr (.inr ⟨rfl, hthird⟩)
        · simp at hnone
  refine ⟨fun h hs => ?_, fun h hs => ?_, fun h hs => ?_, ?_⟩
  · rcases places h with ⟨-, rfl, rfl⟩ | ⟨-, rfl, -⟩ | ⟨-, rfl, -⟩
    · obtain rfl := Option.some.inj (hopened.symm.trans hs)
      exact ⟨run, closed, [], rfl, hrun, hclosed⟩
    · cases hrunOut.symm.trans hs
    · cases hcloseOut.symm.trans hs
  · rcases places h with ⟨-, rfl, -⟩ | ⟨rfl, rfl, -⟩ | ⟨-, rfl, -⟩
    · cases hnotRun.symm.trans hs
    · obtain rfl := Option.some.inj (hrun.symm.trans hs)
      exact ⟨[], opened, rfl, hopened⟩
    · cases hcloseRun.symm.trans hs
  · rcases places h with ⟨-, rfl, -⟩ | ⟨-, rfl, -⟩ | ⟨rfl, rfl, -⟩
    · exact absurd hs (hnotClose _)
    · exact absurd hs (hrunClose _)
    · obtain rfl := Call.close.inj (hclosed.symm.trans hs)
      exact ⟨[], opened, run, rfl, hopened, hrun⟩
  · -- None of the three is a statement refused.
    refine .cons (fun _ _ h => absurd h hopens) (.cons (fun _ _ h => absurd h hruns)
      (List.pairwise_singleton _ _))

end WellBracketed

/-! ## Reading in order -/

/-- Whether a piece of work yields rows. -/
def Work.reads : Work → Bool
  | .exec _ => false
  | .row _ | .rows _ => true

/-- Calls outside of transactions that read and do not write. They ask for certain statements in
order, and stop at the first failure, except for closing what is open. -/
structure ReadsInOrder (queries : List String) (calls : List Exchange) : Prop where
  plainly : ∀ x ∈ calls, x.1.readsPlainly = true
  in_order : calls.filterMap (·.1.prepares?) = queries
  stops : calls.Pairwise fun x y => x.Succeeded ∨ ∃ s, y.1 = .close s

namespace ReadsInOrder

variable {queries more : List String} {a b : List Exchange}

theorem nil : ReadsInOrder [] [] := ⟨nofun, rfl, .nil⟩

/-- Reading goes on as long as nothing has failed. -/
theorem append (ha : ReadsInOrder queries a) (hsucceeded : ∀ x ∈ a, x.Succeeded)
    (hb : ReadsInOrder more b) : ReadsInOrder (queries ++ more) (a ++ b) where
  plainly := List.forall_mem_append.mpr ⟨ha.plainly, hb.plainly⟩
  in_order := by rw [List.filterMap_append, ha.in_order, hb.in_order]
  stops := List.pairwise_append.mpr
    ⟨ha.stops, hb.stops, fun x hx _ _ => .inl (hsucceeded x hx)⟩

end ReadsInOrder

/-! ## Uses of statements and steps -/

namespace StatementUse

variable {within : Option Transaction} {d : Deadline} {query : String} {w : Work}
  {calls : List Exchange} {outcome : Except StoreError w.Reply}

theorem wellBracketed (u : StatementUse within d query w calls outcome) : WellBracketed calls := by
  have hrun (s : Statement) (answer : Except StoreError w.Reply) :
      (w.exchange d s answer).1.run? = some s := by
    cases w <;> rfl
  cases u with
  | unprepared e => exact .single rfl rfl nofun
  | failed p e closed => exact .bracket rfl (hrun _ _) rfl
  | unclosed p reply e => exact .bracket rfl (hrun _ _) rfl
  | completed p reply => exact .bracket rfl (hrun _ _) rfl

theorem readsInOrder (hw : w.reads = true) (u : StatementUse none d query w calls outcome) :
    ReadsInOrder [query] calls := by
  have hbracket (p : Prepared) (answer : Except StoreError w.Reply)
      (closed : Except StoreError Unit) :
      ReadsInOrder [query] [⟨.prepare none d query, .ok p⟩,
        w.exchange d (p.statement none) answer, ⟨.close (p.statement none), closed⟩] := by
    have hplainly : (w.exchange d (p.statement none) answer).1.readsPlainly = true := by
      cases w <;> first | rfl | cases hw
    have hnone : (w.exchange d (p.statement none) answer).1.prepares? = none := by
      cases w <;> rfl
    refine ⟨?_, ?_, ?_⟩
    · simp only [List.forall_mem_cons, List.not_mem_nil, false_imp_iff, implies_true, and_true]
      exact ⟨rfl, hplainly, rfl⟩
    · show query :: List.filterMap (·.1.prepares?) [w.exchange d (p.statement none) answer, _] = _
      rw [List.filterMap_cons_none (f := fun x : Exchange => x.1.prepares?) hnone]
      rfl
    · -- The statement was handed out, and what is left to do is to close it.
      refine .cons (fun _ _ => .inl rfl) (.cons (fun x hx => .inr ?_) (List.pairwise_singleton _ _))
      rw [List.mem_singleton.mp hx]
      exact ⟨_, rfl⟩
  cases u with
  | unprepared e =>
    exact ⟨List.forall_mem_singleton.mpr rfl, rfl, List.pairwise_singleton _ _⟩
  | failed p e closed => exact hbracket p _ closed
  | unclosed p reply e => exact hbracket p _ _
  | completed p reply => exact hbracket p _ _

end StatementUse

namespace Step

variable {β : Type} {step : Step β} {within : Option Transaction} {d : Deadline}
  {calls : List Exchange} {outcome : Except StoreError β}

theorem Ends.wellBracketed (h : step.Ends within d calls outcome) : WellBracketed calls := by
  obtain ⟨reply, use, -⟩ := h
  exact use.wellBracketed

theorem Ends.readsInOrder (h : step.Ends none d calls outcome) (hw : step.work.reads = true) :
    ReadsInOrder [step.query] calls := by
  obtain ⟨reply, use, -⟩ := h
  exact use.readsInOrder hw

/-- A step that yields something made no call that failed. -/
theorem Ends.succeeded {b : β} (h : step.Ends within d calls (.ok b)) :
    ∀ x ∈ calls, x.Succeeded := by
  obtain ⟨reply, use, hread⟩ := h
  refine use.isOk_iff.mp ?_
  cases reply with
  | error e => cases hread
  | ok reply => rfl

end Step

/-! ## Operations -/

theorem InsertionDecision.wellBracketed {account : Account} {d : Deadline} {tx : Transaction}
    {calls : List Exchange} {outcome : Except Failure Account}
    (h : InsertionDecision account d tx calls outcome) : WellBracketed calls := by
  cases h with
  | unchecked checked told => exact checked.wellBracketed
  | taken checked told => exact checked.wellBracketed
  | userRefused checked userAdded told =>
    exact checked.wellBracketed.append userAdded.wellBracketed (.inl checked.succeeded)
  | accountRefused checked userAdded accountAdded told | inserted checked userAdded accountAdded =>
    have hearlier := checked.wellBracketed.append userAdded.wellBracketed (.inl checked.succeeded)
    exact hearlier.append accountAdded.wellBracketed
      (.inl (List.forall_mem_append.mpr ⟨checked.succeeded, userAdded.succeeded⟩))

theorem CreationDecision.wellBracketed {account : Account} {calls : List Exchange}
    {outcome : Except Failure Account} (h : CreationDecision account calls outcome) :
    WellBracketed calls := by
  -- What is between the beginning and the end of the transaction is in brackets.
  have hwhole {d : Deadline} {tx : Transaction} {calls : List Exchange} {last : Exchange}
      (hcalls : WellBracketed calls) (hlast : last.1.isTransactional = true) :
      WellBracketed (⟨.begin d creationOptions, .ok tx⟩ :: calls ++ [last]) := by
    have hbegun : WellBracketed (⟨.begin d creationOptions, .ok tx⟩ :: calls) :=
      (WellBracketed.transactional rfl).append hcalls (.inl (List.forall_mem_singleton.mpr rfl))
    exact hbegun.append (.transactional hlast) (.inr (List.forall_mem_singleton.mpr hlast))
  cases h with
  | notBegun told => exact .transactional rfl
  | rolledBack insertion => exact hwhole insertion.wellBracketed rfl
  | notRolledBack insertion told => exact hwhole insertion.wellBracketed rfl
  | notCommitted insertion told => exact hwhole insertion.wellBracketed rfl
  | created insertion => exact hwhole insertion.wellBracketed rfl

/-- A listing counts the accounts, finds those of the page and probes for more, as far as it
comes. -/
theorem ListingDecision.disciplined {window : Window} {calls : List Exchange}
    {outcome : Except Failure Listing} (h : ListingDecision window calls outcome) :
    WellBracketed calls ∧
      ∃ queries, queries <+: [Statements.countAccounts, Statements.findAccounts,
        Statements.hasAccountsAfter] ∧ ReadsInOrder queries calls := by
  cases h with
  | unrepresentable first told => exact ⟨.nil, [], List.nil_prefix, .nil⟩
  | uncounted counted told | negative counted below told =>
    exact ⟨counted.wellBracketed, _, ⟨_, rfl⟩, counted.readsInOrder rfl⟩
  | unread counted above bound read told =>
    exact ⟨counted.wellBracketed.append read.wellBracketed (.inl counted.succeeded), _,
      ⟨_, rfl⟩, (counted.readsInOrder rfl).append counted.succeeded (read.readsInOrder rfl)⟩
  | unprobed counted above bound read more told | listed counted above bound read more =>
    have hearlier := List.forall_mem_append.mpr ⟨counted.succeeded, read.succeeded⟩
    have hbrackets := counted.wellBracketed.append read.wellBracketed (.inl counted.succeeded)
    have horder := (counted.readsInOrder rfl).append counted.succeeded (read.readsInOrder rfl)
    exact ⟨hbrackets.append more.wellBracketed (.inl hearlier), _, List.prefix_rfl,
      horder.append hearlier (more.readsInOrder rfl)⟩

theorem SearchDecision.disciplined {id : Id} {calls : List Exchange}
    {outcome : Except Failure Account} (h : SearchDecision id calls outcome) :
    WellBracketed calls ∧ ReadsInOrder [Statements.findAccountById] calls := by
  cases h with
  | unsought sought | missing sought | unreadable sought | found sought =>
    exact ⟨sought.wellBracketed, sought.readsInOrder rfl⟩

/-- Whatever the store answers, and whatever lies between it and the service, statements are used in
brackets. The operations that read stay outside of transactions and stop at the first call that
fails, having asked for their statements in order. -/
theorem Service.stacked_brackets {σ : Type} (m : Machine σ) (s : σ) {layers : List Layer}
    {reporters : List Clock} {ids : Identifiers} {clock : Clock}
    (hlayers : ∀ layer ∈ layers, layer.Quiet) (hreporters : ∀ reporter ∈ reporters, reporter.Quiet)
    (hids : ids.Quiet) (hclock : clock.Quiet) (database user : String) :
    let service := stacked layers reporters database user ids clock
    (∀ account, WellBracketed ((service.create account).exchanges m s)) ∧
    (∀ window, let calls := (service.list window).exchanges m s
      WellBracketed calls ∧
        ∃ queries, queries <+: [Statements.countAccounts, Statements.findAccounts,
          Statements.hasAccountsAfter] ∧ ReadsInOrder queries calls) ∧
    (∀ id, let calls := (service.find id).exchanges m s
      WellBracketed calls ∧ ReadsInOrder [Statements.findAccountById] calls) := by
  intro service
  have hservice : Decorates (.ofStore (.direct database user) ids clock) service :=
    stacked_decorates hlayers hreporters hids hclock database user
  refine ⟨fun account => ?_, fun window => ?_, fun id => ?_⟩
  · have hkeeps := (hservice.create account).keeps_asides conversation_ignoresAsides
      (createAccount_decides hids hclock account)
    exact (Program.exchanges_of_keeps hkeeps m s).wellBracketed
  · have hkeeps := (hservice.list window).keeps_asides conversation_ignoresAsides
      (listAccounts_decides window)
    exact (Program.exchanges_of_keeps hkeeps m s).disciplined
  · have hkeeps := (hservice.find id).keeps_asides conversation_ignoresAsides
      (findAccount_decides id)
    exact (Program.exchanges_of_keeps hkeeps m s).disciplined

/-- A listing whose second query is cut off: its statement is closed, and no third is prepared. -/
theorem Service.stacked_brackets_of_slow_query :
    let layers := [Layer.metered (.kept 0), .logged .wall]
    let service := stacked layers [.wall] "accounts" "svc" .fresh .wall
    let memory := { Memory.empty with latency := some (.ofMillis 600) }
    let calls := (service.list .default).exchanges (World.machine .memory)
      (.start memory ⟨0, 0, 0⟩ "id")
    (∀ layer ∈ layers, layer.Quiet) ∧ (∀ reporter ∈ [Clock.wall], reporter.Quiet) ∧
      Identifiers.fresh.Quiet ∧ Clock.wall.Quiet ∧ WellBracketed calls ∧
      calls.map (·.1.name) =
        ["prepare", "query_row", "close", "prepare", "query_rows", "close"] := by
  intro layers service memory calls
  have hlayers : ∀ layer ∈ layers, layer.Quiet :=
    List.forall_mem_cons.mpr ⟨Layer.metered_quiet _,
      List.forall_mem_singleton.mpr (Layer.logged_quiet Clock.wall_quiet)⟩
  have hreporters : ∀ reporter ∈ [Clock.wall], reporter.Quiet :=
    List.forall_mem_singleton.mpr Clock.wall_quiet
  have hbrackets := (stacked_brackets (World.machine .memory) (.start memory ⟨0, 0, 0⟩ "id") hlayers
    hreporters Identifiers.fresh_quiet Clock.wall_quiet "accounts" "svc").2.1 .default
  exact ⟨hlayers, hreporters, Identifiers.fresh_quiet, Clock.wall_quiet, hbrackets.1,
    by decide +kernel⟩

end UserAccounts
