import UserAccounts.Proofs.Conversation
import UserAccounts.World

/-!
# Layers are transparent

A layer measures or reports calls, and for that it asks for the time, reports events and records
observations. `Annotates` says that one program is another with effects of its own put in between,
and `Annotates.run` that whoever does not notice those effects cannot tell the two apart.
`Layer.applyAll_annotates` applies this to any stack of layers over any store: to its clients a
stack answers as the store below, and the store below is called as by the clients themselves.
-/

namespace UserAccounts

/-- `Annotates aside p q`: the program `q` is `p` with further effects of a kind asked for in
between, whose answers change nothing of what `p` goes on with. -/
inductive Annotates (aside : Effect → Prop) {α : Type} : Program α → Program α → Prop
  | done (a : α) : Annotates aside (.done a) (.done a)
  | shared {e : Effect} {next next' : e.Answer → Program α}
      (rest : ∀ answer, Annotates aside (next answer) (next' answer)) :
      Annotates aside (.perform e next) (.perform e next')
  | aside {p : Program α} {e : Effect} {next' : e.Answer → Program α} (he : aside e)
      (rest : ∀ answer, Annotates aside p (next' answer)) :
      Annotates aside p (.perform e next')

namespace Annotates

variable {aside : Effect → Prop} {α β γ : Type}

theorem refl (p : Program α) : Annotates aside p p := by
  induction p with
  | done a => exact .done a
  | perform e next ih => exact .shared ih

theorem trans {p q r : Program α} (hpq : Annotates aside p q) (hqr : Annotates aside q r) :
    Annotates aside p r := by
  induction hqr generalizing p with
  | done a => exact hpq
  | shared rest ih =>
    cases hpq with
    | shared rest' => exact .shared fun answer => ih answer (rest' answer)
    | aside he rest' => exact .aside he fun answer => ih answer (rest' answer)
  | aside he rest ih => exact .aside he fun answer => ih answer hpq

theorem bind {p q : Program α} {f g : α → Program β} (hpq : Annotates aside p q)
    (hfg : ∀ a, Annotates aside (f a) (g a)) : Annotates aside (p.bind f) (q.bind g) := by
  induction hpq with
  | done a => exact hfg a
  | shared rest ih => exact .shared ih
  | aside he rest ih => exact .aside he ih

/-- What is put in front of a program. -/
theorem before {b : Program γ} {p : Program α} {f : γ → Program α} (hb : b.Only aside)
    (hf : ∀ x, Annotates aside p (f x)) : Annotates aside p (b.bind f) := by
  induction b with
  | done x => exact hf x
  | perform e next ih => exact .aside hb.1 fun answer => ih answer (hb.2 answer)

/-- What is put after a program, if it hands the result on. -/
theorem after {p : Program α} {f : α → Program α} (hf : ∀ a, Annotates aside (.done a) (f a)) :
    Annotates aside p (p.bind f) := by
  induction p with
  | done a => exact hf a
  | perform e next ih => exact .shared ih

/-- What a program keeps to, it keeps to with annotations that a protocol permits and ignores. -/
theorem keeps {V : Type} {P : Protocol V}
    {post : V → α → Prop} {p q : Program α} (h : Annotates aside p q)
    (permitted : ∀ v e, aside e → P.permits v e) (steady : ∀ v e, aside e → ∀ a, P.after v e a = v)
    {v : V} (hp : p.Keeps P post v) : q.Keeps P post v := by
  induction h generalizing v with
  | done a => exact hp
  | shared rest ih => exact ⟨hp.1, fun answer hanswer => ih answer (hp.2 answer hanswer)⟩
  | aside he rest ih =>
    refine ⟨permitted v _ he, fun answer _ => ?_⟩
    rw [steady v _ he answer]
    exact ih answer hp

/-- What is asked for with annotations is asked for without them, or is one of them. -/
theorem only {kind : Effect → Prop} {p q : Program α} (h : Annotates aside p q) (hp : p.Only kind) :
    q.Only fun e => kind e ∨ aside e := by
  induction h with
  | done a => trivial
  | shared rest ih => exact ⟨.inl hp.1, fun answer => ih answer (hp.2 answer)⟩
  | aside he rest ih => exact ⟨.inr he, fun answer => ih answer hp⟩

/-! ## Runs -/

/-- A machine seen through a view that the effects of one kind leave alone, and that decides how
those of another kind are answered. -/
structure Separates {σ τ : Type} (m : Machine σ) (view : σ → τ) (aside shared : Effect → Prop) :
    Prop where
  aside_view : ∀ s e, aside e → view (m.step s e).2 = view s
  shared_answer : ∀ s s' e, shared e → view s = view s' → (m.step s e).1 = (m.step s' e).1
  shared_view : ∀ s s' e, shared e → view s = view s' →
    view (m.step s e).2 = view (m.step s' e).2

/-- Through a view that separates them, a program and an annotated one cannot be told apart: their
results are the same, and so is what becomes of the view and of any protocol that ignores the
annotations. -/
theorem run {σ τ V : Type} {m : Machine σ} {view : σ → τ} {shared : Effect → Prop}
    {P : Protocol V} (hm : Separates m view aside shared)
    (hP : ∀ v e, aside e → ∀ answer, P.after v e answer = v) {p q : Program α}
    (hpq : Annotates aside p q) (hp : p.Only shared) (v : V) {s s' : σ} (hs : view s = view s') :
    (p.run m s).1 = (q.run m s').1 ∧ view (p.run m s).2 = view (q.run m s').2 ∧
      p.follow P m v s = q.follow P m v s' := by
  -- By induction on the annotations; what stays true is that the two states have the same view.
  induction hpq generalizing v s s' with
  | done a => exact ⟨rfl, hs, rfl⟩
  | @shared e next next' rest ih =>
    have hanswer := hm.shared_answer s s' e hp.1 hs
    have hview := hm.shared_view s s' e hp.1 hs
    simp only [Program.run_perform, Program.follow]
    rw [← hanswer]
    exact ih _ (hp.2 _) _ hview
  | @aside p e next' he rest ih =>
    have hview : view s = view (m.step s' e).2 := hs.trans (hm.aside_view s' e he).symm
    simp only [Program.run_perform, Program.follow, hP v e he]
    exact ih (m.step s' e).1 hp v hview

end Annotates

/-! ## Layers -/

/-- What a layer asks for besides the call that it wraps is of a kind. -/
def Layer.Asides (aside : Effect → Prop) : Layer → Prop
  | .metered recorder => aside .now ∧ ∀ o, aside (.observe recorder o)
  | .logged clock =>
    aside .now ∧ (∀ event, aside (.report event)) ∧ ∀ zone, (clock.read zone).Only aside

namespace Layer

variable {aside : Effect → Prop}

theorem Asides.mono {aside' : Effect → Prop} {layer : Layer} (h : layer.Asides aside)
    (himp : ∀ e, aside e → aside' e) : layer.Asides aside' := by
  cases layer with
  | metered recorder =>
    obtain ⟨hnow, hobserve⟩ := h
    exact ⟨himp _ hnow, fun o => himp _ (hobserve o)⟩
  | logged clock =>
    obtain ⟨hnow, hreport, hclock⟩ := h
    exact ⟨himp _ hnow, fun event => himp _ (hreport event), fun zone => (hclock zone).mono himp⟩

/-- A layer annotates the calls of the store that it wraps. -/
theorem apply_annotates {layer : Layer} (hl : layer.Asides aside) (store : Store) (c : Call) :
    Annotates aside (store.call c) ((layer.apply store).call c) := by
  cases layer with
  | metered recorder =>
    obtain ⟨hnow, hobserve⟩ := hl
    have hmeasured : Annotates aside (store.call c)
        (Store.measured recorder c (store.call c)) := by
      refine .aside hnow fun started => .after fun answer => .aside hnow fun finished =>
        .aside (hobserve _) fun _ => ?_
      cases answer with
      | ok reply => exact .done _
      | error e => exact .aside (hobserve _) fun _ => .done _
    cases c with
    | rollback tx => exact .aside (hobserve _) fun _ => hmeasured
    | _ => exact hmeasured
  | logged clock =>
    obtain ⟨hnow, hreport, hclock⟩ := hl
    simp only [apply, Store.logged, Program.timed, Clock.universal, Program.now, Program.report,
      Program.ask, Program.bind_eq, Program.pure_eq_done, Program.bind_assoc, Program.perform_bind,
      Program.done_bind]
    refine .before (hclock .universal) fun start => .aside hnow fun started =>
      .after fun answer => .aside hnow fun finished => .before (hclock .universal) fun stop =>
      .aside (hreport _) fun _ => ?_
    cases answer with
    | ok reply => exact .done _
    | error e => exact .aside (hreport _) fun _ => .done _

/-- What holds of a store and is kept by wrapping holds of a stack of layers over the store. -/
theorem applyAll_induction {P : Store → Prop} {layers : List Layer} {store : Store}
    (hstore : P store)
    (happly : ∀ layer ∈ layers, ∀ wrapped, P wrapped → P (layer.apply wrapped)) :
    P (applyAll layers store) := by
  induction layers generalizing store with
  | nil => exact hstore
  | cons layer rest ih =>
    obtain ⟨hlayer, hrest⟩ := List.forall_mem_cons.mp happly
    exact ih (hlayer store hstore) hrest

/-- A stack of layers annotates the calls of the store at its bottom. -/
theorem applyAll_annotates {layers : List Layer} (hl : ∀ layer ∈ layers, layer.Asides aside)
    (store : Store) (c : Call) :
    Annotates aside (store.call c) ((applyAll layers store).call c) := by
  refine applyAll_induction (P := fun stack => Annotates aside (store.call c) (stack.call c))
    (.refl _) ?_
  intro layer hlayer wrapped hwrapped
  exact hwrapped.trans (apply_annotates (hl layer hlayer) wrapped c)

/-- A stack of layers has the identity of the store at its bottom. -/
theorem identity_applyAll (layers : List Layer) (store : Store) :
    (applyAll layers store).database = store.database ∧
      (applyAll layers store).user = store.user := by
  refine applyAll_induction
    (P := fun stack => stack.database = store.database ∧ stack.user = store.user) ⟨rfl, rfl⟩ ?_
  intro layer _ wrapped hwrapped
  cases layer <;> exact hwrapped

end Layer

/-! ## Clients -/

/-- A client of a store: it makes one call after the other, each chosen with the answers to the
earlier ones in hand, and comes to a result. -/
inductive Client (α : Type) : Type where
  | done (a : α)
  | call (c : Call) (next : c.Answer → Client α)

/-- A client at work on a store: its result, after the calls that it made with the answers that it
got. -/
def Client.through {α : Type} (store : Store) : Client α → Program (List Exchange × α)
  | .done a => pure ([], a)
  | .call c next => do
    let answer ← store.call c
    let (seen, a) ← (next answer).through store
    pure (⟨c, answer⟩ :: seen, a)

/-- What a client does on a stack of layers annotates what it does on the store at the bottom. -/
theorem Client.through_annotates {aside : Effect → Prop} {α : Type} {layers : List Layer}
    (hl : ∀ layer ∈ layers, layer.Asides aside) (store : Store) (client : Client α) :
    Annotates aside (client.through store) (client.through (Layer.applyAll layers store)) := by
  induction client with
  | done a => exact .done _
  | call c next ih =>
    exact (Layer.applyAll_annotates hl store c).bind fun answer =>
      (ih answer).bind fun seen => .refl _

/-- A client at work on a store itself sees exactly the calls that reach the store. -/
theorem Client.through_direct_keeps {α : Type} (database user : String) (client : Client α)
    (h : List Exchange) :
    (client.through (.direct database user)).Keeps conversation (fun h' r => h' = h ++ r.1) h := by
  induction client generalizing h with
  | done a => exact (List.append_nil h).symm
  | call c next ih =>
    refine ⟨trivial, fun answer _ => ?_⟩
    simp only [Program.bind_eq, Program.done_bind]
    rw [Program.keeps_bind]
    refine (ih answer (h ++ [⟨c, answer⟩])).mono fun h' r hr => ?_
    simp [hr]

/-- A world in which calls to the store are served from a state that nothing else touches. -/
def Machine.serving {β σ : Type} (world : Machine σ) (serve : β → (c : Call) → c.Answer × β) :
    Machine (β × σ) where
  step state e :=
    match e with
    | .store c => ((serve state.1 c).1, ((serve state.1 c).2, state.2))
    | e => ((world.step state.2 e).1, (state.1, (world.step state.2 e).2))

/-- Serving separates calls to the store from everything else. -/
theorem Machine.separates_serving {β σ : Type} (world : Machine σ)
    (serve : β → (c : Call) → c.Answer × β) :
    Annotates.Separates (world.serving serve) Prod.fst (fun e => e.isCall = false)
      (fun e => e.isCall = true) where
  aside_view s e he := by cases e <;> first | rfl | cases he
  shared_answer s s' e he hs := by
    cases e with
    | store c => simp only [serving, hs]
    | _ => cases he
  shared_view s s' e he hs := by
    cases e with
    | store c => simp only [serving, hs]
    | _ => cases he

/-- A client of a store itself asks for nothing but calls. -/
theorem Client.through_direct_only {α : Type} (database user : String) (client : Client α) :
    (client.through (.direct database user)).Only fun e => e.isCall = true := by
  induction client with
  | done a => exact trivial
  | call c next ih => exact ⟨rfl, fun answer => (ih answer).bind fun _ => trivial⟩

/-- A layer that never calls the store on its own account. -/
def Layer.Quiet (layer : Layer) : Prop := layer.Asides fun e => e.isCall = false

theorem Layer.metered_quiet (recorder : Recorder) : (Layer.metered recorder).Quiet :=
  ⟨rfl, fun _ => rfl⟩

theorem Layer.logged_quiet {clock : Clock} (h : clock.Quiet) : (Layer.logged clock).Quiet :=
  ⟨rfl, fun _ => rfl, h⟩

/-- Layers are transparent, however many there are and however the store below answers: a client
sees the same answers on the stack as on the store, the store is called in the same way and goes
through the same states, and what it is asked is what the client asked of the stack. The stack bears
the name of the store and of its user. -/
theorem Layer.applyAll_transparent {β σ α : Type} (serve : β → (c : Call) → c.Answer × β)
    (world : Machine σ) {layers : List Layer} (hquiet : ∀ layer ∈ layers, layer.Quiet)
    (database user : String) (client : Client α) (b : β) (s : σ) :
    let inner := Store.direct database user
    let stack := applyAll layers inner
    let m := world.serving serve
    stack.database = database ∧ stack.user = user ∧
      ((client.through stack).run m (b, s)).1 = ((client.through inner).run m (b, s)).1 ∧
      ((client.through stack).run m (b, s)).2.1 = ((client.through inner).run m (b, s)).2.1 ∧
      (client.through stack).exchanges m (b, s) = (client.through inner).exchanges m (b, s) ∧
      (client.through stack).exchanges m (b, s) = ((client.through stack).run m (b, s)).1.1 := by
  intro inner stack m
  have hname := identity_applyAll layers inner
  have hannotated : Annotates (fun e => e.isCall = false) (client.through inner)
      (client.through stack) :=
    client.through_annotates hquiet inner
  obtain ⟨hresult, hstate, hcalls⟩ := hannotated.run (P := conversation)
    (world.separates_serving serve)
    (fun _ _ he answer => recordExchange_of_not_call he answer)
    (client.through_direct_only database user) [] (rfl : (b, s).1 = (b, s).1)
  have hseen : (client.through inner).exchanges m (b, s) =
      ((client.through inner).run m (b, s)).1.1 :=
    Program.keeps_run (client.through_direct_keeps database user []) m (fun _ _ => trivial) (b, s)
  refine ⟨hname.1, hname.2, hresult.symm, hstate.symm, hcalls.symm, ?_⟩
  calc (client.through stack).exchanges m (b, s)
      _ = (client.through inner).exchanges m (b, s) := hcalls.symm
      _ = ((client.through inner).run m (b, s)).1.1 := hseen
      _ = ((client.through stack).run m (b, s)).1.1 := by rw [hresult]

/-- A client that writes within a transaction and then gives it up, on three layers over the store
in memory. -/
theorem Layer.applyAll_transparent_of_abandoned_write :
    let layers := [.metered (.kept 0), .logged .wall, .metered .discarding]
    let inner := Store.direct "accounts" "svc"
    let client : Client Bool := .call (.begin .none ⟨none⟩) fun begun =>
      match begun with
      | .error _ => .done false
      | .ok tx => .call (.prepare (some tx) .none "INSERT") fun prepared =>
        match prepared with
        | .error _ => .done false
        | .ok p => .call (.exec (p.statement (some tx)) .none []) fun written =>
          .call (.rollback tx) fun _ => .done written.isOk
    let m := (World.machine .memory).serving fun (memory : Memory) c =>
      ((memory.serve ⟨0⟩ c).1, (memory.serve ⟨0⟩ c).2.1)
    let start := (Memory.empty, World.start Memory.empty ⟨0, 0, 0⟩ "id")
    (∀ layer ∈ layers, layer.Quiet) ∧
      (client.through (applyAll layers inner)).exchanges m start =
        (client.through inner).exchanges m start ∧
      ((client.through (applyAll layers inner)).run m start).1.2 = true := by
  intro layers inner client m start
  have hquiet : ∀ layer ∈ layers, layer.Quiet := by
    intro layer hlayer
    simp only [layers, List.mem_cons, List.not_mem_nil, or_false] at hlayer
    rcases hlayer with rfl | rfl | rfl
    · exact metered_quiet _
    · exact logged_quiet Clock.wall_quiet
    · exact metered_quiet _
  obtain ⟨-, -, hresult, -, hcalls, -⟩ := applyAll_transparent
    (fun (memory : Memory) c => ((memory.serve ⟨0⟩ c).1, (memory.serve ⟨0⟩ c).2.1))
    (World.machine .memory) hquiet "accounts" "svc" client Memory.empty
    (World.start Memory.empty ⟨0, 0, 0⟩ "id")
  refine ⟨hquiet, hcalls, ?_⟩
  rw [hresult]
  rfl

end UserAccounts
