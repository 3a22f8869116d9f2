import UserAccounts.Proofs.Conversation

/-!
# Statements in brackets

`StatementUse` lists the courses that one use of a prepared statement can take, with what it yields:
it could not be prepared, its work failed, it could not be closed, or all went well.
`keeps_once` says that the service's use of a statement takes one of these courses and no other;
`StatementUse.isOk_iff` that it yields a value exactly if each of its calls succeeded.

Where something is known of the answers, more can be said: `Yields` is about programs that yield the
same whatever else is answered, and `yields_once` about the use of a statement whose calls are
answered.
-/

namespace UserAccounts

/-- What a prepared statement is used for. -/
inductive Work where
  | exec (args : List SqlValue)
  | row (args : List SqlValue)
  | rows (args : List SqlValue)

namespace Work

/-- What a piece of work yields. -/
abbrev Reply : Work → Type
  | .exec _ => Nat
  | .row _ => Option Row
  | .rows _ => List Row

/-- The call that does a piece of work, with its answer. -/
def exchange : (w : Work) → Deadline → Statement → Except StoreError w.Reply → Exchange
  | .exec args, d, s, answer => ⟨.exec s d args, answer⟩
  | .row args, d, s, answer => ⟨.queryRow s d args, answer⟩
  | .rows args, d, s, answer => ⟨.queryRows s d args, answer⟩

theorem succeeded_exchange (w : Work) (d : Deadline) (s : Statement)
    (answer : Except StoreError w.Reply) :
    (w.exchange d s answer).Succeeded ↔ answer.isOk = true := by
  cases w <;> rfl

end Work

/-- The use of one statement for one piece of work: the calls that it takes, in order, and what it
yields. -/
inductive StatementUse (within : Option Transaction) (d : Deadline) (query : String) (w : Work) :
    List Exchange → Except StoreError w.Reply → Prop
  | unprepared (e : StoreError) :
      StatementUse within d query w [⟨.prepare within d query, .error e⟩] (.error e)
  | failed (p : Prepared) (e : StoreError) (closed : Except StoreError Unit) :
      StatementUse within d query w
        [⟨.prepare within d query, .ok p⟩, w.exchange d (p.statement within) (.error e),
          ⟨.close (p.statement within), closed⟩]
        (.error e)
  | unclosed (p : Prepared) (reply : w.Reply) (e : StoreError) :
      StatementUse within d query w
        [⟨.prepare within d query, .ok p⟩, w.exchange d (p.statement within) (.ok reply),
          ⟨.close (p.statement within), .error e⟩]
        (.error e)
  | completed (p : Prepared) (reply : w.Reply) :
      StatementUse within d query w
        [⟨.prepare within d query, .ok p⟩, w.exchange d (p.statement within) (.ok reply),
          ⟨.close (p.statement within), .ok ()⟩]
        (.ok reply)

/-- Whether a call ends a transaction. -/
def Call.endsTransaction : Call → Bool
  | .commit _ | .rollback _ => true
  | _ => false

namespace StatementUse

variable {within : Option Transaction} {d : Deadline} {query : String} {w : Work}
  {calls : List Exchange} {outcome : Except StoreError w.Reply}

/-- A use yields a value exactly if each of its calls succeeded. -/
theorem isOk_iff (u : StatementUse within d query w calls outcome) :
    outcome.isOk = true ↔ ∀ x ∈ calls, x.Succeeded := by
  have worked (s : Statement) := w.succeeded_exchange d s
  cases u <;>
    simp only [List.forall_mem_cons, List.not_mem_nil, false_imp_iff, implies_true, and_true,
      worked]
  case unprepared e => exact Iff.rfl
  case failed p e closed => exact ⟨nofun, fun h => h.2.1⟩
  case unclosed p reply e => exact ⟨fun _ => ⟨rfl, rfl, by assumption⟩, fun h => h.2.2⟩
  case completed p reply => exact ⟨fun _ => ⟨rfl, rfl, rfl⟩, fun _ => rfl⟩

/-- The use of a statement neither commits nor rolls back. -/
theorem endsTransaction_eq_false (u : StatementUse within d query w calls outcome) :
    ∀ x ∈ calls, x.1.endsTransaction = false := by
  cases u <;> cases w <;> simp [Work.exchange, Call.endsTransaction]

end StatementUse

namespace Store

variable {V : Type} {P : Protocol V} {v : V} {database user : String}
  {within : Option Transaction} {d : Deadline} {query : String}

/-- What has to be shown of a bracket: that preparing is allowed, that the work keeps to the
protocol, and that closing is allowed after it. -/
theorem keeps_bracket {α : Type} {post : V → Except StoreError α → Prop}
    {work : Statement → Program (Except StoreError α)} :
    ((direct database user).bracket within d query work).Keeps P post v ↔
      P.permits v (.store (.prepare within d query)) ∧
      ∀ answer : Except StoreError Prepared, P.expects (.store (.prepare within d query)) answer →
        match answer with
        | .error e => post (P.after v (.store (.prepare within d query)) (.error e)) (.error e)
        | .ok p =>
          (work (p.statement within)).Keeps P
            (fun v' outcome => P.permits v' (.store (.close (p.statement within))) ∧
              ∀ closed : Except StoreError Unit,
                P.expects (.store (.close (p.statement within))) closed →
                  post (P.after v' (.store (.close (p.statement within))) closed)
                    (closing outcome closed))
            (P.after v (.store (.prepare within d query)) (.ok p)) := by
  simp only [bracket, prepare, close, direct, Program.call, Program.ask, Program.bind_eq,
    Program.pure_eq_done, Program.perform_bind, Program.done_bind, Program.keeps_perform]
  refine and_congr_right fun _ => forall_congr' fun answer => imp_congr_right fun _ => ?_
  cases answer with
  | error e => rfl
  | ok p =>
    simp only [Program.done_bind]
    rw [Program.keeps_bind]
    rfl

/-- The use of a statement for one piece of work, as the service does it. -/
def once (store : Store) (within : Option Transaction) (d : Deadline) (query : String) :
    (w : Work) → Program (Except StoreError w.Reply)
  | .exec args => store.execOnce within d query args
  | .row args => store.rowOnce within d query args
  | .rows args => store.rowsOnce within d query args

/-- The service uses a statement in one of the courses of `StatementUse`. -/
theorem keeps_once {w : Work} {h : List Exchange}
    {post : List Exchange → Except StoreError w.Reply → Prop}
    (uses : ∀ calls outcome, StatementUse within d query w calls outcome →
      post (h ++ calls) outcome) :
    ((direct database user).once within d query w).Keeps conversation post h := by
  -- The three kinds of work differ only in the call in the middle of the bracket.
  have courses (p : Prepared) (answer : Except StoreError w.Reply)
      (closed : Except StoreError Unit) :
      post (h ++ [⟨.prepare within d query, .ok p⟩] ++ [w.exchange d (p.statement within) answer] ++
        [⟨.close (p.statement within), closed⟩]) (closing answer closed) := by
    simp only [List.append_assoc, List.cons_append, List.nil_append]
    cases answer with
    | error e => exact uses _ _ (.failed p e closed)
    | ok reply =>
      cases closed with
      | error e => exact uses _ _ (.unclosed p reply e)
      | ok _ => exact uses _ _ (.completed p reply)
  cases w <;> refine keeps_bracket.mpr ⟨trivial, fun answer _ => ?_⟩ <;>
    cases answer with
    | error e => exact uses _ _ (.unprepared e)
    | ok p => exact ⟨trivial, fun answer _ => ⟨trivial, fun closed _ => courses p answer closed⟩⟩

end Store

/-! ## Answers that are counted on -/

/-- The protocol that permits everything and counts on answers of a kind. -/
def answering (expected : (e : Effect) → e.Answer → Prop) : Protocol Unit where
  permits _ _ := True
  expects := expected
  after _ _ _ := ()

/-- On every branch with answers of a kind, a program yields the same. -/
structure Yields {α : Type} (expected : (e : Effect) → e.Answer → Prop) (p : Program α) (a : α) :
    Prop where
  keeps : p.Keeps (answering expected) (fun _ outcome => outcome = a) ()

section Yielding

variable {expected : (e : Effect) → e.Answer → Prop} {α β : Type} {p : Program α} {a : α} {b : β}

theorem Yields.bind {f : α → Program β} (hp : Yields expected p a) (hf : Yields expected (f a) b) :
    Yields expected (p.bind f) b := by
  refine ⟨?_⟩
  rw [Program.keeps_bind]
  refine hp.keeps.mono fun _ outcome houtcome => ?_
  rw [houtcome]
  exact hf.keeps

theorem Yields.duringRequest {id : RequestId} (hp : Yields expected p a)
    (hid : expected .currentRequest (some id)) : Yields expected (p.duringRequest id) a :=
  ⟨hp.keeps.duringRequest hid fun _ => rfl⟩

theorem Yields.run {σ : Type} {m : Machine σ} (hp : Yields expected p a)
    (hm : ∀ s e, expected e (m.step s e).1) (s : σ) : (p.run m s).1 = a :=
  Program.keeps_run hp.keeps m hm s

/-- A piece of work whose reply is counted on is done in a bracket without a failure. -/
theorem yields_once {database user query : String} {within : Option Transaction} {d : Deadline}
    {w : Work} {reply : w.Reply}
    (prepared : ∀ answer : Except StoreError Prepared,
      expected (.store (.prepare within d query)) answer → ∃ key, answer = .ok ⟨key, query⟩)
    (worked : ∀ (s : Statement) (answer : Except StoreError w.Reply), s.query = query →
      expected (.store (w.exchange d s answer).1) (w.exchange d s answer).2 →
        answer = .ok reply)
    (closed : ∀ (s : Statement) (answer : Except StoreError Unit), s.query = query →
      expected (.store (.close s)) answer → answer = .ok ()) :
    Yields expected ((Store.direct database user).once within d query w) (.ok reply) := by
  -- The three kinds of work differ only in the call in the middle of the bracket.
  have hclosing (key : Nat) (answer : Except StoreError w.Reply)
      (last : Except StoreError Unit)
      (hanswer : expected (.store (w.exchange d ⟨key, query, within⟩ answer).1)
        (w.exchange d ⟨key, query, within⟩ answer).2)
      (hlast : expected (.store (.close ⟨key, query, within⟩)) last) :
      closing answer last = .ok reply := by
    rw [worked _ answer rfl hanswer, closed _ last rfl hlast]
    rfl
  cases w <;> refine ⟨Store.keeps_bracket.mpr ⟨trivial, fun answer hprepared => ?_⟩⟩ <;>
    obtain ⟨key, rfl⟩ := prepared answer hprepared <;>
    exact ⟨trivial, fun answer hanswer => ⟨trivial, fun last hlast =>
      hclosing key answer last hanswer hlast⟩⟩

end Yielding

end UserAccounts
