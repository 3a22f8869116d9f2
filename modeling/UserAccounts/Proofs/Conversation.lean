import Mathlib
import UserAccounts.Account.Service

/-!
# What programs ask for

A program is a tree of effects, and whoever answers them decides which branch a run takes. Here is
the vocabulary for saying what holds on every branch:

* `Program.Only` restricts the effects that a program may ask for at all; `Program.Quiet` leaves out
  calls to the store.
* a `Protocol` is a state that advances with every answered effect, together with the effects that
  are allowed in it and the answers that are counted on. `Program.Keeps` says that a program stays
  within a protocol on every branch and ends with a postcondition (`keeps_bind`, `keeps_run`).
* `Program.trace` is all that is asked for in a run, with the answers.
* `Program.exchanges` is the list of calls to the store in a run, each with its answer, which the
  protocol `conversation` collects.
-/

namespace UserAccounts

/-- A call to the store with the answer to it. -/
abbrev Exchange := (c : Call) × c.Answer

/-- The call was answered without a failure. -/
def Exchange.Succeeded (x : Exchange) : Prop := x.2.isOk = true

/-- An effect with the answer to it. -/
abbrev Answered := (e : Effect) × e.Answer

/-- Whether an effect is a call to the store. -/
def Effect.isCall : Effect → Bool
  | .store _ => true
  | _ => false

/-- A state that advances with every effect that is answered, the effects that it allows, and the
answers that are counted on. -/
structure Protocol (V : Type) where
  permits : V → Effect → Prop
  expects : (e : Effect) → e.Answer → Prop
  after : V → (e : Effect) → e.Answer → V

namespace Program

variable {V σ α β : Type}

/-! ## Kinds of effects -/

/-- Every effect that a program can come to ask for is of a kind. -/
def Only (kind : Effect → Prop) : Program α → Prop
  | .done _ => True
  | .perform e next => kind e ∧ ∀ answer, (next answer).Only kind

/-- A program that never calls the store. -/
def Quiet (p : Program α) : Prop := p.Only fun e => e.isCall = false

theorem Only.bind {kind : Effect → Prop} {p : Program α} {f : α → Program β}
    (hp : p.Only kind) (hf : ∀ a, (f a).Only kind) : (p.bind f).Only kind := by
  induction p with
  | done a => exact hf a
  | perform e next ih => exact ⟨hp.1, fun answer => ih answer (hp.2 answer)⟩

theorem Only.mono {kind kind' : Effect → Prop} {p : Program α}
    (h : p.Only kind) (himp : ∀ e, kind e → kind' e) : p.Only kind' := by
  induction p with
  | done a => trivial
  | perform e next ih => exact ⟨himp e h.1, fun answer => ih answer (h.2 answer)⟩

/-! ## Keeping to a protocol -/

/-- On every branch with the answers that a protocol counts on, a program asks only for what it
permits, and ends in a state and with a result that meet a postcondition. -/
def Keeps (P : Protocol V) (post : V → α → Prop) : Program α → V → Prop
  | .done a, v => post v a
  | .perform e next, v => P.permits v e ∧
    ∀ answer, P.expects e answer → (next answer).Keeps P post (P.after v e answer)

/-- The state of a protocol after a run. -/
def follow (P : Protocol V) (m : Machine σ) : Program α → V → σ → V
  | .done _, v, _ => v
  | .perform e next, v, s =>
    let answered := m.step s e
    (next answered.1).follow P m (P.after v e answered.1) answered.2

variable {P : Protocol V} {v : V}

@[simp] theorem keeps_done {post : V → α → Prop} {a : α} :
    (done a).Keeps P post v ↔ post v a := Iff.rfl

@[simp] theorem keeps_perform {post : V → α → Prop} {e : Effect} {next : e.Answer → Program α} :
    (perform e next).Keeps P post v ↔
      P.permits v e ∧
        ∀ answer, P.expects e answer → (next answer).Keeps P post (P.after v e answer) := Iff.rfl

theorem keeps_bind {post : V → β → Prop} {p : Program α} {f : α → Program β} :
    (p.bind f).Keeps P post v ↔ p.Keeps P (fun v' a => (f a).Keeps P post v') v := by
  induction p generalizing v with
  | done a => rfl
  | perform e next ih =>
    simp only [perform_bind, keeps_perform]
    exact and_congr_right fun _ => forall_congr' fun answer => imp_congr_right fun _ => ih answer

theorem Keeps.mono {post post' : V → α → Prop} {p : Program α} (h : p.Keeps P post v)
    (hpost : ∀ v' a, post v' a → post' v' a) : p.Keeps P post' v := by
  induction p generalizing v with
  | done a => exact hpost v a h
  | perform e next ih => exact ⟨h.1, fun answer ha => ih answer (h.2 answer ha)⟩

/-- What is kept to in detail is kept to in outline, if the outline moves along with the detail. -/
theorem Keeps.map {W : Type} {Q : Protocol W} {post : V → α → Prop} {p : Program α} (f : V → W)
    (h : p.Keeps P post v) (permitted : ∀ v e, P.permits v e → Q.permits (f v) e)
    (expected : ∀ e answer, Q.expects e answer → P.expects e answer)
    (after : ∀ v e answer, Q.after (f v) e answer = f (P.after v e answer)) :
    p.Keeps Q (fun w a => ∃ v', w = f v' ∧ post v' a) (f v) := by
  induction p generalizing v with
  | done a => exact ⟨v, rfl, h⟩
  | perform e next ih =>
    refine ⟨permitted v e h.1, fun answer ha => ?_⟩
    rw [after]
    exact ih answer (h.2 answer (expected e answer ha))

/-- A protocol that permits everything is kept by every program. -/
theorem keeps_of_permits (permitted : ∀ v e, P.permits v e) (p : Program α) (v : V) :
    p.Keeps P (fun _ _ => True) v := by
  induction p generalizing v with
  | done a => trivial
  | perform e next ih => exact ⟨permitted v e, fun answer _ => ih answer _⟩

/-- Effects that a protocol permits in a state and that leave it as it is may be asked for at any
length. -/
theorem Only.keeps {kind : Effect → Prop} {p : Program α} (hp : p.Only kind)
    (permitted : ∀ e, kind e → P.permits v e) (steady : ∀ e, kind e → ∀ a, P.after v e a = v) :
    p.Keeps P (fun v' _ => v' = v) v := by
  induction p with
  | done a => rfl
  | perform e next ih =>
    refine ⟨permitted e hp.1, fun answer _ => ?_⟩
    rw [steady e hp.1 answer]
    exact ih answer (hp.2 answer)

/-- Being part of a request changes nothing if the protocol counts on the identifier of that request
and goes on as before. -/
theorem Keeps.duringRequest {post : V → α → Prop} {p : Program α} {id : RequestId}
    (hp : p.Keeps P post v) (expected : P.expects .currentRequest (some id))
    (steady : ∀ v, P.after v .currentRequest (some id) = v) :
    (p.duringRequest id).Keeps P post v := by
  induction p generalizing v with
  | done a => exact hp
  | perform e next ih =>
    cases e with
    | currentRequest =>
      -- The identifier is put in without being asked for, so the protocol must not move on here.
      have hnext := hp.2 (some id) expected
      rw [steady] at hnext
      exact ih (some id) hnext
    | _ => exact ⟨hp.1, fun answer ha => ih answer (hp.2 answer ha)⟩

/-- What a program keeps on every branch holds at the end of every run on a machine that gives the
answers that are counted on. -/
theorem keeps_run {post : V → α → Prop} {p : Program α} (h : p.Keeps P post v) (m : Machine σ)
    (hm : ∀ s e, P.expects e (m.step s e).1) (s : σ) :
    post (p.follow P m v s) (p.run m s).1 := by
  induction p generalizing v s with
  | done a => exact h
  | perform e next ih => exact ih _ (h.2 _ (hm s e)) _

/-! ## Traces -/

/-- All that is asked for in a run, with the answers, in order. -/
def trace (m : Machine σ) : Program α → σ → List Answered
  | .done _, _ => []
  | .perform e next, s => ⟨e, (m.step s e).1⟩ :: (next (m.step s e).1).trace m (m.step s e).2

@[simp] theorem trace_done (m : Machine σ) (a : α) (s : σ) : (done a).trace m s = [] := rfl

@[simp] theorem trace_perform (m : Machine σ) (e : Effect) (next : e.Answer → Program α) (s : σ) :
    (perform e next).trace m s =
      ⟨e, (m.step s e).1⟩ :: (next (m.step s e).1).trace m (m.step s e).2 := rfl

/-- The trace of one program after another is the one trace after the other. -/
theorem trace_bind (m : Machine σ) (p : Program α) (f : α → Program β) (s : σ) :
    (p.bind f).trace m s = p.trace m s ++ (f (p.run m s).1).trace m (p.run m s).2 := by
  induction p generalizing s with
  | done a => rfl
  | perform e next ih => simp [ih]

/-- What is in a trace was asked for. -/
theorem Only.of_mem_trace {kind : Effect → Prop} {p : Program α} (hp : p.Only kind)
    (m : Machine σ) {s : σ} {x : Answered} (hx : x ∈ p.trace m s) : kind x.1 := by
  induction p generalizing s with
  | done a => cases hx
  | perform e next ih =>
    rcases List.mem_cons.mp hx with rfl | hx
    · exact hp.1
    · exact ih _ (hp.2 _) hx

/-- What a program keeps on every branch holds at the end of a run, together with whatever each step
keeps between the protocol and the machine, as long as the answers in this run are of a kind. -/
theorem keeps_run_of_step {post : V → α → Prop} {p : Program α} (h : p.Keeps P post v)
    (m : Machine σ) (kind : Answered → Prop) (fits : V → σ → Prop)
    (step : ∀ v s e, fits v s → P.permits v e → kind ⟨e, (m.step s e).1⟩ →
      P.expects e (m.step s e).1 ∧ fits (P.after v e (m.step s e).1) (m.step s e).2)
    {s : σ} (hkind : ∀ x ∈ p.trace m s, kind x) (hfits : fits v s) :
    post (p.follow P m v s) (p.run m s).1 ∧ fits (p.follow P m v s) (p.run m s).2 := by
  -- By induction on the program: after each step the rest of it still keeps to the protocol.
  induction p generalizing v s with
  | done a => exact ⟨h, hfits⟩
  | perform e next ih =>
    obtain ⟨hfirst, hrest⟩ := List.forall_mem_cons.mp hkind
    obtain ⟨hexpected, hfits'⟩ := step v s e hfits h.1 hfirst
    exact ih _ (h.2 _ hexpected) hrest hfits'

end Program

/-- Two protocols at once. -/
def Protocol.both {V W : Type} (P : Protocol V) (Q : Protocol W) : Protocol (V × W) where
  permits v e := P.permits v.1 e ∧ Q.permits v.2 e
  expects e answer := P.expects e answer ∧ Q.expects e answer
  after v e answer := (P.after v.1 e answer, Q.after v.2 e answer)

namespace Program

variable {V W σ α : Type} {P : Protocol V} {Q : Protocol W}

theorem Keeps.both {post : V → α → Prop} {post' : W → α → Prop} {p : Program α} {v : V} {w : W}
    (hP : p.Keeps P post v) (hQ : p.Keeps Q post' w) :
    p.Keeps (P.both Q) (fun vw a => post vw.1 a ∧ post' vw.2 a) (v, w) := by
  induction p generalizing v w with
  | done a => exact ⟨hP, hQ⟩
  | perform e next ih =>
    exact ⟨⟨hP.1, hQ.1⟩, fun answer ha => ih answer (hP.2 answer ha.1) (hQ.2 answer ha.2)⟩

theorem follow_both (m : Machine σ) (p : Program α) (v : V) (w : W) (s : σ) :
    p.follow (P.both Q) m (v, w) s = (p.follow P m v s, p.follow Q m w s) := by
  induction p generalizing v w s with
  | done a => rfl
  | perform e next ih => exact ih _ _ _ _

end Program

/-! ## Conversations with the store -/

/-- The calls so far with one more effect answered. -/
def recordExchange (h : List Exchange) : (e : Effect) → e.Answer → List Exchange
  | .store c, answer => h ++ [⟨c, answer⟩]
  | _, _ => h

/-- The protocol that permits everything, counts on nothing and collects the calls to the store. -/
def conversation : Protocol (List Exchange) where
  permits _ _ := True
  expects _ _ := True
  after := recordExchange

theorem recordExchange_of_not_call {h : List Exchange} {e : Effect} (he : e.isCall = false)
    (answer : e.Answer) : recordExchange h e answer = h := by
  cases e <;> first | rfl | cases he

/-- The calls to the store in a run, each with its answer, in order. -/
def Program.exchanges {σ α : Type} (m : Machine σ) (p : Program α) (s : σ) : List Exchange :=
  p.follow conversation m [] s

/-- A property of calls and result that holds on every branch holds of every run. -/
theorem Program.exchanges_of_keeps {σ α : Type} {post : List Exchange → α → Prop} {p : Program α}
    (h : p.Keeps conversation post []) (m : Machine σ) (s : σ) :
    post (p.exchanges m s) (p.run m s).1 :=
  keeps_run h m (fun _ _ => trivial) s

/-- Quiet programs add nothing to a conversation. -/
theorem Program.Quiet.keeps {α : Type} {p : Program α} (hp : p.Quiet) (h : List Exchange) :
    p.Keeps conversation (fun h' _ => h' = h) h :=
  Only.keeps hp (fun _ _ => trivial) fun _ he answer => recordExchange_of_not_call he answer

theorem Program.Quiet.keeps_bind {α β : Type} {post : List Exchange → β → Prop} {p : Program α}
    {f : α → Program β} {h : List Exchange} (hp : p.Quiet)
    (hf : ∀ a, (f a).Keeps conversation post h) : (p.bind f).Keeps conversation post h := by
  rw [Program.keeps_bind]
  refine (hp.keeps h).mono fun h' a hh => ?_
  rw [hh]
  exact hf a

/-! ## Quiet helpers -/

/-- A clock whose readings involve no calls to the store. -/
def Clock.Quiet (clock : Clock) : Prop := ∀ zone, (clock.read zone).Quiet

theorem Clock.wall_quiet : Clock.wall.Quiet := fun _ => ⟨rfl, fun _ => trivial⟩

theorem Clock.Quiet.logged {clock : Clock} (h : clock.Quiet) : clock.logged.Quiet := fun zone =>
  (h zone).bind fun _ => ⟨rfl, fun _ => trivial⟩

/-- Identifiers whose making involves no calls to the store. -/
def Identifiers.Quiet (ids : Identifiers) : Prop := ids.next.Quiet

theorem Identifiers.fresh_quiet : Identifiers.fresh.Quiet := ⟨rfl, fun _ => trivial⟩

theorem Identifiers.Quiet.logged {ids : Identifiers} (h : ids.Quiet) : ids.logged.Quiet :=
  Program.Only.bind h fun _ => ⟨rfl, fun _ => trivial⟩

end UserAccounts
