import UserAccounts.Proofs.Store.Bracket
import UserAccounts.World

/-!
# The course of a creation

Creating an account is one transaction: it is begun, a free username is made sure of, two rows are
added, and it is committed. `CreationCourse` lists the ways in which this can go. Whatever goes
wrong before the commit is followed by one rollback and nothing else; a failed commit is followed by
nothing at all.
-/

namespace UserAccounts

/-- The statements of a creation in order, each with what it is used for. -/
def creationSteps (account : Account) (userArgs accountArgs : List SqlValue) :
    List (String × Work) :=
  [(Statements.usernameExists, .row [.text account.username]),
    (Statements.insertUser, .exec userArgs), (Statements.insertAccount, .exec accountArgs)]

/-- All calls of the uses of some statements succeeded. -/
def AllSucceeded (uses : List (List Exchange)) : Prop :=
  ∀ calls ∈ uses, ∀ x ∈ calls, x.Succeeded

/-- The use of a statement yielded no row, or one that begins with a no. -/
def SaysFree (calls : List Exchange) : Prop :=
  ∃ s d args found, (⟨.queryRow s d args, .ok found⟩ : Exchange) ∈ calls ∧
    ∀ row ∈ found, row.columns[0]? = some (.bool false)

/-- The first of the uses of some statements found the username free. -/
def FoundFree (uses : List (List Exchange)) : Prop := ∃ calls ∈ uses.head?, SaysFree calls

@[simp] theorem foundFree_cons {calls : List Exchange} {rest : List (List Exchange)} :
    FoundFree (calls :: rest) ↔ SaysFree calls := by
  simp [FoundFree]

/-- The uses of statements within the transaction of a creation, as far as they go: at least one and
at most three, in order, of which only the last may have failed. -/
structure InsertionCourse (account : Account) (d : Deadline) (tx : Transaction)
    (uses : List (List Exchange)) : Prop where
  some_use : uses ≠ []
  in_order : ∃ userArgs accountArgs, List.Forall₂
    (fun step calls => ∃ outcome, StatementUse (some tx) d step.1 step.2 calls outcome)
    ((creationSteps account userArgs accountArgs).take uses.length) uses
  earlier_succeeded : AllSucceeded uses.dropLast
  free_first : 2 ≤ uses.length → FoundFree uses

/-- The uses of statements that a creation needs have all been made with success. -/
structure InsertionDone (uses : List (List Exchange)) : Prop where
  length_eq : uses.length = 3
  all_succeeded : AllSucceeded uses
  found_free : FoundFree uses

/-- The calls of a creation, and whether it succeeds. -/
inductive CreationCourse (account : Account) : List Exchange → Bool → Prop
  /-- The transaction could not be begun. -/
  | notBegun (d : Deadline) (e : StoreError) :
      CreationCourse account [⟨.begin d creationOptions, .error e⟩] false
  /-- Everything before the commit succeeded, and its answer decides. -/
  | ended (d : Deadline) (tx : Transaction) {uses : List (List Exchange)}
      (course : InsertionCourse account d tx uses) (complete : InsertionDone uses)
      (answer : Except StoreError Unit) :
      CreationCourse account
        (⟨.begin d creationOptions, .ok tx⟩ :: uses.flatten ++ [⟨.commit tx, answer⟩]) answer.isOk
  /-- Something before the commit did not succeed. -/
  | abandoned (d : Deadline) (tx : Transaction) {uses : List (List Exchange)}
      (course : InsertionCourse account d tx uses) (incomplete : ¬ InsertionDone uses)
      (answer : Except StoreError Unit) :
      CreationCourse account
        (⟨.begin d creationOptions, .ok tx⟩ :: uses.flatten ++ [⟨.rollback tx, answer⟩]) false

/-! ## What the check says -/

/-- The truth value in a column, if the column holds one. -/
theorem Row.boolean_eq_ok_iff {row : Row} {index : Nat} {b : Bool} :
    row.boolean index = .ok b ↔ row.columns[index]? = some (.bool b) := by
  unfold Row.boolean Row.column
  cases row.columns[index]? with
  | none => simp
  | some value => cases value <;> simp

/-- The check of a username goes through exactly if each of its calls succeeded and it says that the
name is free. -/
theorem StatementUse.checked_iff {within : Option Transaction} {d : Deadline} {query : String}
    {args : List SqlValue} {calls : List Exchange}
    {outcome : Except StoreError (Work.row args).Reply}
    (u : StatementUse within d query (Work.row args) calls outcome) :
    firstColumn false (·.boolean 0) outcome = .ok false ↔
      (∀ x ∈ calls, x.Succeeded) ∧ SaysFree calls := by
  rw [← u.isOk_iff]
  cases u with
  | unprepared e => exact ⟨nofun, fun h => nomatch h.1⟩
  | failed p e closed => exact ⟨nofun, fun h => nomatch h.1⟩
  | unclosed p found e => exact ⟨nofun, fun h => nomatch h.1⟩
  | completed p found =>
    have free : SaysFree [⟨.prepare within d query, .ok p⟩,
        Work.exchange (.row args) d (p.statement within) (.ok found),
        ⟨.close (p.statement within), .ok ()⟩] ↔
        ∀ row ∈ found, row.columns[0]? = some (.bool false) := by
      constructor
      · rintro ⟨s, d, args, found', hmem, hfree⟩
        simp only [Work.exchange, List.mem_cons, Sigma.mk.injEq, reduceCtorEq, false_and,
          Call.queryRow.injEq, List.not_mem_nil, or_false, false_or] at hmem
        obtain ⟨⟨rfl, rfl, rfl⟩, heq⟩ := hmem
        cases heq
        exact hfree
      · intro hfree
        exact ⟨p.statement within, d, args, found, by simp [Work.exchange], hfree⟩
    rw [free]
    cases found with
    | none => simp [firstColumn, Except.isOk, Except.toBool]
    | some row => simp [firstColumn, Row.boolean_eq_ok_iff, Except.isOk, Except.toBool]

/-! ## The course of the insertions -/

section Insertions

variable {account : Account} {d : Deadline} {tx : Transaction}
  {check addUser addAccount : List Exchange} {userArgs accountArgs : List SqlValue}
  {found : Except StoreError (Option Row)} {users accounts : Except StoreError Nat}

/-- A creation may stop after the check of the username. -/
theorem InsertionCourse.checked
    (u : StatementUse (some tx) d Statements.usernameExists (.row [.text account.username]) check
      found) : InsertionCourse account d tx [check] where
  some_use := by simp
  in_order := ⟨[], [], .cons ⟨found, u⟩ .nil⟩
  earlier_succeeded := by simp [AllSucceeded]
  free_first := by simp

/-- A creation may stop after adding the user, once the username was found free. -/
theorem InsertionCourse.userAdded
    (u₁ : StatementUse (some tx) d Statements.usernameExists (.row [.text account.username]) check
      found)
    (ok₁ : ∀ x ∈ check, x.Succeeded) (free : SaysFree check)
    (u₂ : StatementUse (some tx) d Statements.insertUser (.exec userArgs) addUser users) :
    InsertionCourse account d tx [check, addUser] where
  some_use := by simp
  in_order := ⟨userArgs, [], .cons ⟨found, u₁⟩ (.cons ⟨users, u₂⟩ .nil)⟩
  earlier_succeeded := by simpa [AllSucceeded] using ok₁
  free_first _ := foundFree_cons.mpr free

/-- A creation that adds the account has added the user before. -/
theorem InsertionCourse.accountAdded
    (u₁ : StatementUse (some tx) d Statements.usernameExists (.row [.text account.username]) check
      found)
    (ok₁ : ∀ x ∈ check, x.Succeeded) (free : SaysFree check)
    (u₂ : StatementUse (some tx) d Statements.insertUser (.exec userArgs) addUser users)
    (ok₂ : ∀ x ∈ addUser, x.Succeeded)
    (u₃ : StatementUse (some tx) d Statements.insertAccount (.exec accountArgs) addAccount
      accounts) : InsertionCourse account d tx [check, addUser, addAccount] where
  some_use := by simp
  in_order := ⟨userArgs, accountArgs,
    .cons ⟨found, u₁⟩ (.cons ⟨users, u₂⟩ (.cons ⟨accounts, u₃⟩ .nil))⟩
  earlier_succeeded := by
    simp only [AllSucceeded, List.dropLast, List.forall_mem_cons, List.not_mem_nil, false_imp_iff,
      implies_true, and_true]
    exact ⟨ok₁, ok₂⟩
  free_first _ := foundFree_cons.mpr free

end Insertions

/-- Adding the rows of an account uses statements in the course of `InsertionCourse`, and succeeds
exactly if all of them were used with success and the username was free. -/
theorem keeps_insertRows (database user : String) {ids : Identifiers} {clock : Clock}
    (hids : ids.Quiet) (hclock : clock.Quiet) (tx : Transaction) (d : Deadline)
    (account : Account) (h : List Exchange) :
    (insertRows (.direct database user) ids clock tx d account).Keeps conversation
      (fun h' outcome => ∃ uses, h' = h ++ uses.flatten ∧ InsertionCourse account d tx uses ∧
        (outcome.isOk = true ↔ InsertionDone uses)) h := by
  simp only [insertRows, Program.bind_eq, Program.pure_eq_done]
  rw [Program.keeps_bind]
  refine Store.keeps_once (w := .row [.text account.username]) fun check found u₁ => ?_
  -- Unless the check goes through, it remains the only use.
  cases hc : firstColumn false (·.boolean 0) found with
  | error e =>
    exact ⟨[check], by simp, .checked u₁, nofun, fun hdone => absurd hdone.length_eq (by simp)⟩
  | ok taken =>
    cases taken with
    | true =>
      exact ⟨[check], by simp, .checked u₁, nofun, fun hdone => absurd hdone.length_eq (by simp)⟩
    | false =>
      obtain ⟨ok₁, free⟩ := u₁.checked_iff.mp hc
      refine hids.keeps_bind fun userId => (hclock .universal).keeps_bind fun userCreatedAt => ?_
      rw [Program.keeps_bind]
      refine Store.keeps_once (w := .exec _) fun addUser users u₂ => ?_
      cases users with
      | error e =>
        exact ⟨[check, addUser], by simp, .userAdded u₁ ok₁ free u₂, nofun,
          fun hdone => absurd hdone.length_eq (by simp)⟩
      | ok _ =>
        have ok₂ : ∀ x ∈ addUser, x.Succeeded := u₂.isOk_iff.mp rfl
        refine hids.keeps_bind fun id => (hclock .universal).keeps_bind fun createdAt => ?_
        rw [Program.keeps_bind]
        refine Store.keeps_once (w := .exec _) fun addAccount accounts u₃ => ?_
        have course := InsertionCourse.accountAdded u₁ ok₁ free u₂ ok₂ u₃
        cases accounts with
        | error e =>
          refine ⟨[check, addUser, addAccount], by simp, course, nofun, fun hdone => ?_⟩
          exact absurd (u₃.isOk_iff.mpr (hdone.all_succeeded addAccount (by simp))) nofun
        | ok _ =>
          have ok₃ : ∀ x ∈ addAccount, x.Succeeded := u₃.isOk_iff.mp rfl
          refine ⟨[check, addUser, addAccount], by simp, course, fun _ => ⟨rfl, ?_, ?_⟩,
            fun _ => rfl⟩
          · simp only [AllSucceeded, List.forall_mem_cons, List.not_mem_nil, false_imp_iff,
              implies_true, and_true]
            exact ⟨ok₁, ok₂, ok₃⟩
          · exact foundFree_cons.mpr free

/-! ## The course of a creation -/

/-- On every branch a creation takes one of the courses of `CreationCourse`. -/
theorem keeps_createAccount (database user : String) {ids : Identifiers} {clock : Clock}
    (hids : ids.Quiet) (hclock : clock.Quiet) (account : Account) :
    (createAccount (.direct database user) ids clock account).Keeps conversation
      (fun h outcome => CreationCourse account h outcome.isOk) [] := by
  simp only [createAccount, Program.now, Store.begin, Store.direct, Store.commit, abandon,
    Store.rollback, Program.call, Program.report, Program.ask, Program.bind_eq,
    Program.pure_eq_done, Program.perform_bind, Program.done_bind, Program.keeps_perform]
  refine ⟨trivial, fun now _ => ⟨trivial, fun begun _ => ?_⟩⟩
  cases begun with
  | error e => exact ⟨trivial, fun _ _ => .notBegun _ e⟩
  | ok tx =>
    rw [Program.keeps_bind]
    refine (keeps_insertRows database user hids hclock tx _ account _).mono fun h outcome => ?_
    rintro ⟨uses, rfl, course, ok_iff⟩
    cases outcome with
    | error setback =>
      refine ⟨trivial, fun answer _ => ?_⟩
      have incomplete : ¬ InsertionDone uses := by
        intro hdone
        cases ok_iff.mpr hdone
      cases answer <;> exact ⟨trivial, fun _ _ => .abandoned _ tx course incomplete _⟩
    | ok account' =>
      refine ⟨trivial, fun answer _ => ?_⟩
      have complete : InsertionDone uses := ok_iff.mp rfl
      cases answer with
      | error e => exact .ended _ tx course complete (.error e)
      | ok _ => exact ⟨trivial, fun _ _ => .ended _ tx course complete (.ok ())⟩

/-- The statements of a creation neither commit nor roll back. -/
theorem InsertionCourse.endsTransaction_eq_false {account : Account} {d : Deadline}
    {tx : Transaction} {uses : List (List Exchange)} (course : InsertionCourse account d tx uses) :
    ∀ x ∈ uses.flatten, x.1.endsTransaction = false := by
  obtain ⟨userArgs, accountArgs, steps⟩ := course.in_order
  intro x hx
  obtain ⟨calls, hcalls, hx⟩ := List.mem_flatten.mp hx
  obtain ⟨i, hi, rfl⟩ := List.mem_iff_getElem.mp hcalls
  obtain ⟨outcome, u⟩ := steps.get (by rw [steps.length_eq]; exact hi) hi
  exact u.endsTransaction_eq_false x hx

/-- A creation ends its transaction at most once. -/
theorem CreationCourse.countP_endsTransaction_le {account : Account} {calls : List Exchange}
    {created : Bool} (course : CreationCourse account calls created) :
    calls.countP (·.1.endsTransaction) ≤ 1 := by
  have inner {d : Deadline} {tx : Transaction} {uses : List (List Exchange)}
      (course : InsertionCourse account d tx uses) :
      uses.flatten.countP (·.1.endsTransaction) = 0 :=
    List.countP_eq_zero.mpr fun x hx => by simp [course.endsTransaction_eq_false x hx]
  cases course with
  | notBegun d e => simp [Call.endsTransaction]
  | ended d tx course complete answer =>
    simp only [List.cons_append, List.countP_cons, List.countP_append, inner course]
    simp [Call.endsTransaction]
  | abandoned d tx course incomplete answer =>
    simp only [List.cons_append, List.countP_cons, List.countP_append, inner course]
    simp [Call.endsTransaction]

/-- Whatever the store answers, a creation takes one of the courses of `CreationCourse`: it is
begun; statements are used one after the other as long as they succeed; it is committed exactly if
all of them succeeded on a free username, and rolled back exactly once otherwise; and it succeeds
exactly if the commit did. -/
theorem createAccount_course {σ : Type} (m : Machine σ) (s : σ) (database user : String)
    {ids : Identifiers} {clock : Clock} (hids : ids.Quiet) (hclock : clock.Quiet)
    (account : Account) :
    let creation := createAccount (.direct database user) ids clock account
    let calls := creation.exchanges m s
    CreationCourse account calls (creation.run m s).1.isOk ∧
      calls.countP (·.1.endsTransaction) ≤ 1 := by
  intro creation calls
  have course : CreationCourse account calls (creation.run m s).1.isOk :=
    Program.exchanges_of_keeps (keeps_createAccount database user hids hclock account) m s
  exact ⟨course, course.countP_endsTransaction_le⟩

/-- A creation whose commit takes longer than its deadline allows. -/
theorem createAccount_course_of_slow_commit :
    let slow := { Memory.empty with commitLatency := some (.ofMillis 1500) }
    let world := World.start slow ⟨0, 0, 0⟩ "id"
    let account := Account.new "jdoe" (.new "John" "Doe")
    let creation := createAccount (.direct "accounts" "svc") .fresh .wall account
    let calls := creation.exchanges (World.machine .memory) world
    Identifiers.fresh.Quiet ∧ Clock.wall.Quiet ∧ CreationCourse account calls false ∧
      calls.countP (·.1.endsTransaction) ≤ 1 :=
  ⟨Identifiers.fresh_quiet, Clock.wall_quiet,
    createAccount_course (World.machine .memory) _ "accounts" "svc" Identifiers.fresh_quiet
      Clock.wall_quiet (Account.new "jdoe" (.new "John" "Doe"))⟩

end UserAccounts
