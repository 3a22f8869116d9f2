import UserAccounts.Proofs.Store.Transparency

/-!
# What reaches a store within a stack

A stack of layers can be cut at any height: what is above asks for calls, and the store below serves
them. `Program.on` puts the two together, and `Layer.applyAll_on` says that the stack is the same as
its upper part at work on its lower part. What happens in a run then belongs to one of the two:

* `Program.visits` — the calls that reach the store, each with the state in which it comes;
* `Program.filterMap_trace_on` — whatever is never asked for above the store is asked for while the
  store serves a call, visit by visit;
* `Client.map_exchange_visits` — the calls of a client on a stack reach each store of the stack once
  each and in their order, and get the same answers there.
-/

namespace UserAccounts

/-- A call on its way to a store, with the state in which it comes. -/
structure Visit (σ : Type) where
  call : Call
  state : σ

namespace Program

variable {σ α β : Type}

/-! ## Programs at work on another store -/

/-- The program with each of its calls made on a store. -/
def on (store : Store) : Program α → Program α
  | .done a => .done a
  | .perform (.store c) next => (store.call c).bind fun answer => (next answer).on store
  | .perform e next => .perform e fun answer => (next answer).on store

/-- The calls that reach the store on which a program works, in order. -/
def visits (m : Machine σ) (store : Store) : Program α → σ → List (Visit σ)
  | .done _, _ => []
  | .perform (.store c) next, s =>
    ⟨c, s⟩ :: (next ((store.call c).run m s).1).visits m store ((store.call c).run m s).2
  | .perform e next, s => (next (m.step s e).1).visits m store (m.step s e).2

variable {store : Store}

theorem on_bind (p : Program α) (f : α → Program β) :
    (p.bind f).on store = (p.on store).bind fun a => (f a).on store := by
  induction p with
  | done a => rfl
  | perform e next ih =>
    cases e with
    | store c =>
      show ((store.call c).bind fun answer => ((next answer).bind f).on store) = _
      simp only [ih]
      exact (bind_assoc _ _ _).symm
    | _ =>
      simp only [perform_bind, on, ih]

/-- Where nothing is called it makes no difference which store would be. -/
theorem Quiet.on_eq {p : Program α} (hp : p.Quiet) : p.on store = p := by
  induction p with
  | done a => rfl
  | perform e next ih =>
    have hnext : (fun answer => (next answer).on store) = next := by
      funext answer
      exact ih answer (hp.2 answer)
    cases e with
    | store c => cases hp.1
    | _ => exact congrArg (perform _) hnext

end Program

namespace Visit

variable {σ : Type} (m : Machine σ) (store : Store) (v : Visit σ)

/-- The call with the answer that the store gives. -/
def exchange : Exchange := ⟨v.call, ((store.call v.call).run m v.state).1⟩

/-- What is asked for while the store serves the call. -/
def trace : List Answered := (store.call v.call).trace m v.state

end Visit

namespace Program

variable {σ α β : Type} {m : Machine σ} {store : Store}

/-- What a program keeps in conversation with a store is kept with any other store, which answers
the calls that reach it. -/
theorem keeps_visits {post : List Exchange → α → Prop} {p : Program α} {h : List Exchange}
    (hp : p.Keeps conversation post h) (s : σ) :
    post (h ++ (p.visits m store s).map (·.exchange m store)) ((p.on store).run m s).1 := by
  induction p generalizing h s with
  | done a =>
    rw [visits, List.map_nil, List.append_nil]
    exact hp
  | perform e next ih =>
    cases e with
    | store c =>
      have hnext := ih _ (hp.2 ((store.call c).run m s).1 trivial) ((store.call c).run m s).2
      rw [on, run_bind]
      simpa [visits, conversation, recordExchange, Visit.exchange] using hnext
    | _ => exact ih _ (hp.2 _ trivial) _

/-- What a program never asks for on its own account is asked for by the store, while it serves the
calls that reach it. -/
theorem filterMap_trace_on (f : Answered → Option β) {p : Program α}
    (hp : p.Only fun e => e.isCall = true ∨ ∀ answer, f ⟨e, answer⟩ = none) (s : σ) :
    ((p.on store).trace m s).filterMap f =
      (p.visits m store s).flatMap fun v => (v.trace m store).filterMap f := by
  induction p generalizing s with
  | done a => rfl
  | perform e next ih =>
    obtain ⟨he, hnext⟩ := hp
    cases e with
    | store c =>
      rw [on, trace_bind, List.filterMap_append, ih _ (hnext _)]
      rfl
    | _ =>
      have hnone := he.resolve_left Bool.false_ne_true
      simp only [on, trace_perform, List.filterMap_cons, hnone, visits]
      exact ih _ (hnext _) _

/-- What is asked for during a visit is part of the whole, in one piece. -/
theorem trace_infix_of_mem_visits {p : Program α} {s : σ} {v : Visit σ}
    (hv : v ∈ p.visits m store s) : v.trace m store <:+: (p.on store).trace m s := by
  induction p generalizing s with
  | done a => cases hv
  | perform e next ih =>
    cases e with
    | store c =>
      rw [on, trace_bind]
      rcases List.mem_cons.mp hv with rfl | hv
      · exact (List.prefix_append _ _).isInfix
      · exact (ih _ hv).trans (List.suffix_append _ _).isInfix
    | _ => exact (ih _ hv).trans (List.suffix_cons _ _).isInfix

end Program

/-! ## Stacks cut in two -/

/-- A store at work on another one. -/
def Store.on (upper lower : Store) : Store where
  database := upper.database
  user := upper.user
  call c := (upper.call c).on lower

theorem Store.direct_on (store : Store) :
    (Store.direct store.database store.user).on store = store := by
  have hcall : (fun c => (Program.call c).on store) = store.call :=
    funext fun c => Program.bind_done (store.call c)
  unfold Store.on direct
  rw [hcall]

namespace Layer

/-- Wrapping a store in a layer has no part in the calls that the store makes on another one. -/
theorem apply_on {layer : Layer} (hl : layer.Quiet) (upper lower : Store) :
    (layer.apply upper).on lower = layer.apply (upper.on lower) := by
  cases layer with
  | metered recorder =>
    have hcall : (fun c => ((upper.metered recorder).call c).on lower) =
        ((upper.on lower).metered recorder).call := by
      funext c
      have hmeasured : (Store.measured recorder c (upper.call c)).on lower =
          Store.measured recorder c ((upper.call c).on lower) := by
        simp only [Store.measured, Program.now, Program.observe, Program.ask, Program.bind_eq,
          Program.pure_eq_done, Program.perform_bind, Program.done_bind, Program.on,
          Program.on_bind]
        congr
        funext started
        congr
        funext answer
        congr
        funext finished
        congr
        funext
        cases answer <;> rfl
      cases c with
      | rollback tx => exact congrArg (Program.perform _) (funext fun _ => hmeasured)
      | _ => exact hmeasured
    exact congrArg (Store.mk upper.database upper.user) hcall
  | logged clock =>
    have hread : (clock.read .universal).on lower = clock.read .universal :=
      Program.Quiet.on_eq (hl.2.2 .universal)
    have hcall : (fun c => ((upper.logged clock).call c).on lower) =
        ((upper.on lower).logged clock).call := by
      funext c
      simp only [Store.logged, Store.on, Program.timed, Clock.universal, Program.bind_eq,
        Program.pure_eq_done, Program.on_bind, hread]
      refine congrArg (fun f => Program.bind _ f) (funext fun timed => ?_)
      obtain ⟨answer, timing⟩ := timed
      cases answer <;> rfl
    exact congrArg (Store.mk upper.database upper.user) hcall

/-- A stack of layers over a store is the stack over bare calls at work on that store. -/
theorem applyAll_on {layers : List Layer} (hl : ∀ layer ∈ layers, layer.Quiet) (store : Store) :
    (applyAll layers (.direct store.database store.user)).on store = applyAll layers store := by
  have hlayers (upper : Store) :
      (applyAll layers upper).on store = applyAll layers (upper.on store) := by
    induction layers generalizing upper with
    | nil => rfl
    | cons layer rest ih =>
      have hrest := ih (fun l hmem => hl l (List.mem_cons_of_mem _ hmem)) (layer.apply upper)
      rw [apply_on (hl layer List.mem_cons_self)] at hrest
      exact hrest
  rw [hlayers, Store.direct_on]

end Layer

/-! ## Clients at work on a stack -/

namespace Client

variable {σ α : Type} {m : Machine σ} {above : List Layer}

theorem through_on (client : Client α) (upper lower : Store) :
    (client.through upper).on lower = client.through (upper.on lower) := by
  induction client with
  | done a => rfl
  | call c next ih =>
    simp only [through, Program.bind_eq, Program.pure_eq_done, Program.on_bind, ih]
    rfl

/-- The calls that reach a store when a client works on a stack of layers above it. -/
def visits (m : Machine σ) (above : List Layer) (store : Store) (client : Client α) (s : σ) :
    List (Visit σ) :=
  (client.through (Layer.applyAll above (.direct store.database store.user))).visits m store s

/-- A client at work on a stack is what it would be without the store at the bottom, at work on that
store. -/
theorem through_applyAll (habove : ∀ layer ∈ above, layer.Quiet) (store : Store)
    (client : Client α) :
    client.through (Layer.applyAll above store) =
      (client.through (Layer.applyAll above (.direct store.database store.user))).on store := by
  rw [through_on, Layer.applyAll_on habove]

/-- The calls that reach a store below a stack, with their answers, are those that the client makes
on the stack, with the answers that it gets. -/
theorem map_exchange_visits (habove : ∀ layer ∈ above, layer.Quiet) (store : Store)
    (client : Client α) (s : σ) :
    (client.visits m above store s).map (·.exchange m store) =
      ((client.through (Layer.applyAll above store)).run m s).1.1 := by
  have hkeeps : (client.through (Layer.applyAll above (.direct store.database store.user))).Keeps
      conversation (fun h r => h = [] ++ r.1) [] :=
    (client.through_annotates habove _).keeps (fun _ _ _ => trivial)
      (fun _ _ he answer => recordExchange_of_not_call he answer)
      (client.through_direct_keeps _ _ [])
  rw [through_applyAll habove]
  have hvisits : [] ++ (client.visits m above store s).map (·.exchange m store) = [] ++ _ :=
    Program.keeps_visits hkeeps s
  rw [List.nil_append, List.nil_append] at hvisits
  exact hvisits

/-- What no layer of a stack asks for is asked for by the store below, visit by visit. -/
theorem filterMap_trace {β : Type} (f : Answered → Option β)
    (habove : ∀ layer ∈ above,
      layer.Asides fun e => e.isCall = false ∧ ∀ answer, f ⟨e, answer⟩ = none)
    (store : Store) (client : Client α) (s : σ) :
    ((client.through (Layer.applyAll above store)).trace m s).filterMap f =
      (client.visits m above store s).flatMap fun v => (v.trace m store).filterMap f := by
  have hquiet : ∀ layer ∈ above, layer.Quiet := by
    intro layer hlayer
    exact (habove layer hlayer).mono fun e he => he.1
  have honly := (client.through_annotates habove (.direct store.database store.user)).only
    (client.through_direct_only _ _)
  rw [through_applyAll hquiet]
  refine Program.filterMap_trace_on f (honly.mono ?_) s
  intro e he
  exact he.imp_right And.right

end Client

end UserAccounts
