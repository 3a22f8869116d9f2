import UserAccounts.Proofs.Conversation
import UserAccounts.Proofs.Store.Ledger
import UserAccounts.Proofs.Text.Numeral
import UserAccounts.World

/-!
# Several programs at one store

A `Crowd` is any number of programs at work on one store in memory. `Crowd.Step` lets one thing
happen: a program joins, time passes, the store is set up in another way, or one of the programs has
an effect answered. A call to the store is received in one step and, if it has to wait, answered in
another, with anything else in between.

`Step.advance` says what a step comes to for the programs, the history and the ledger; everything
else about crowds goes through it. `Crowd.Kept` carries a protocol that every program keeps over to
the crowd: each program is still within it, at the state that its own part of the history leads to.
-/

namespace UserAccounts

/-- A program that has come some way. -/
inductive Party (α : Type) where
  | ready (p : Program α)
  /-- The store has received a call and will answer it when its time has come. -/
  | waiting (c : Call) (next : c.Answer → Program α) (until_ : Instant) (inTime : Bool)

/-- What is left to be done, the call that the store is working on included. -/
def Party.rest {α : Type} : Party α → Program α
  | .ready p => p
  | .waiting c next _ _ => .perform (.store c) next

namespace Answered

/-- The identifier that was drawn. -/
def id? : Answered → Option Id
  | ⟨.identifier, id⟩ => some id
  | _ => none

/-- The transaction that was committed with success. -/
def commit? : Answered → Option Transaction
  | ⟨.store (.commit tx), .ok _⟩ => some tx
  | _ => none

end Answered

/-- A source of identifiers: which one may be drawn after those drawn so far. -/
abbrev Source := List Id → Id → Prop

/-- A source lets an effect be answered so. -/
def Source.Allows (source : Source) (drawn : List Id) (x : Answered) : Prop :=
  ∀ id ∈ x.id?, source drawn id

/-- Sources have no say in calls to the store. -/
theorem Source.allows_call (source : Source) (drawn : List Id) (c : Call) (answer : c.Answer) :
    source.Allows drawn ⟨.store c, answer⟩ := nofun

/-- Programs at work on a store. -/
structure Crowd (α : Type) where
  memory : Memory
  now : Instant
  parties : List (Party α)
  /-- The effects answered so far, each with the place of the program that asked for it. -/
  history : List (Nat × Answered)

namespace Crowd

variable {α V : Type}

/-- Nobody at a store where nothing has happened yet. -/
def start : Crowd α := ⟨.empty, ⟨0⟩, [], []⟩

/-- What each program has left to do. -/
def rests (c : Crowd α) : List (Program α) := c.parties.map Party.rest

/-- The identifiers drawn so far, in order. -/
def drawn (c : Crowd α) : List Id := c.history.filterMap (·.2.id?)

/-- The transactions committed with success, in order, each with the place of the program that
committed it. -/
def commits (c : Crowd α) : List (Nat × Transaction) :=
  c.history.filterMap fun x => x.2.commit?.map (x.1, ·)

/-- The crowd after an effect of one program is answered. -/
def answer (c : Crowd α) (i : Nat) (e : Effect) (a : e.Answer) (next : e.Answer → Program α)
    (memory : Memory) : Crowd α :=
  { c with
    memory := memory
    parties := c.parties.set i (.ready (next a))
    history := c.history ++ [(i, ⟨e, a⟩)] }

/-- One thing that can happen in a crowd which only certain programs join. -/
inductive Step (joins : Program α → Prop) (source : Source) (c : Crowd α) : Crowd α → Prop
  | join (p : Program α) (h : joins p) :
      Step joins source c { c with parties := c.parties ++ [.ready p] }
  | pass (later : Instant) (h : c.now ≤ later) : Step joins source c { c with now := later }
  | configure (script : List (String × Scripted)) (failures : List (Operation × StoreError))
      (latency commitLatency : Option Span) :
      Step joins source c { c with memory := { c.memory with
        script := script
        failures := failures
        latency := latency
        commitLatency := commitLatency } }
  /-- An effect other than a call to the store is answered in some way. -/
  | aside (i : Nat) (e : Effect) (next : e.Answer → Program α) (a : e.Answer)
      (asks : c.parties[i]? = some (.ready (.perform e next))) (he : e.isCall = false)
      (h : source.Allows c.drawn ⟨e, a⟩) : Step joins source c (c.answer i e a next c.memory)
  | answerAtOnce (i : Nat) (call : Call) (next : call.Answer → Program α) (a : call.Answer)
      (memory : Memory) (asks : c.parties[i]? = some (.ready (.perform (.store call) next)))
      (received : c.memory.receive c.now call = (.answered a, memory)) :
      Step joins source c (c.answer i (.store call) a next memory)
  | wait (i : Nat) (call : Call) (next : call.Answer → Program α) (until_ : Instant) (inTime : Bool)
      (memory : Memory) (asks : c.parties[i]? = some (.ready (.perform (.store call) next)))
      (received : c.memory.receive c.now call = (.waiting until_ inTime, memory)) :
      Step joins source c { c with
        memory := memory
        parties := c.parties.set i (.waiting call next until_ inTime) }
  | settle (i : Nat) (call : Call) (next : call.Answer → Program α) (until_ : Instant)
      (inTime : Bool) (waits : c.parties[i]? = some (.waiting call next until_ inTime))
      (due : until_ ≤ c.now) :
      Step joins source c (c.answer i (.store call) (c.memory.settle c.now inTime call).1 next
        (c.memory.settle c.now inTime call).2)

/-- What can become of a crowd. -/
abbrev Steps (joins : Program α → Prop) (source : Source) : Crowd α → Crowd α → Prop :=
  Relation.ReflTransGen (Step joins source)

/-- A crowd that can come about. -/
def Reachable (joins : Program α → Prop) (source : Source) (c : Crowd α) : Prop :=
  Steps joins source start c

end Crowd

/-- The program calls the store no more and returns a result, whatever it is told. -/
def Program.Returns {α : Type} (r : α) : Program α → Prop
  | .done a => a = r
  | .perform e next => e.isCall = false ∧ ∀ answer, (next answer).Returns r

/-- The ledgers before and after an effect is answered. -/
def Ledger.MovedBy (l : Ledger) : Answered → Ledger → Prop
  | ⟨.store c, answer⟩, l' => l.Moved c answer l'
  | _, l' => l' = l

namespace Crowd

variable {α V : Type} {joins : Program α → Prop} {source : Source} {c c' : Crowd α}

/-! ## Histories -/

theorem filterMap_append_singleton {β γ : Type} (f : β → Option γ) (l : List β) (x : β) :
    (l ++ [x]).filterMap f = l.filterMap f ++ (f x).toList := by
  rw [List.filterMap_append]
  cases h : f x <;> simp [h]

theorem drawn_append {i : Nat} {x : Answered} (h : c'.history = c.history ++ [(i, x)]) :
    c'.drawn = c.drawn ++ x.id?.toList := by
  rw [drawn, h, filterMap_append_singleton]
  rfl

theorem commits_append {i : Nat} {x : Answered} (h : c'.history = c.history ++ [(i, x)]) :
    c'.commits = c.commits ++ (x.commit?.map (i, ·)).toList := by
  rw [commits, h, filterMap_append_singleton]
  rfl

/-! ## What a step comes to -/

/-- What a step comes to for the programs, the history and the ledger. -/
inductive Advance (joins : Program α → Prop) (source : Source) (c c' : Crowd α) : Prop
  | idle (rests : c'.rests = c.rests) (history : c'.history = c.history)
      (ledger : c'.memory.ledger = c.memory.ledger)
  | joined (p : Program α) (h : joins p) (rests : c'.rests = c.rests ++ [p])
      (history : c'.history = c.history) (ledger : c'.memory.ledger = c.memory.ledger)
  | answered (i : Nat) (e : Effect) (next : e.Answer → Program α) (a : e.Answer)
      (asks : c.rests[i]? = some (.perform e next)) (h : source.Allows c.drawn ⟨e, a⟩)
      (rests : c'.rests = c.rests.set i (next a))
      (history : c'.history = c.history ++ [(i, ⟨e, a⟩)])
      (ledger : c.memory.ledger.MovedBy ⟨e, a⟩ c'.memory.ledger)

theorem rests_getElem? {i : Nat} {party : Party α} {p : Program α}
    (h : c.parties[i]? = some party) (hp : party.rest = p) : c.rests[i]? = some p := by
  simp [rests, h, hp]

@[simp] theorem rests_answer (i : Nat) (e : Effect) (a : e.Answer) (next : e.Answer → Program α)
    (memory : Memory) : (c.answer i e a next memory).rests = c.rests.set i (next a) := by
  simp [rests, answer, Party.rest]

theorem Step.advance (h : Step joins source c c') : Advance joins source c c' := by
  cases h with
  | join p h => exact .joined p h (by simp [rests, Party.rest]) rfl rfl
  | pass later h => exact .idle rfl rfl rfl
  | configure script failures latency commitLatency => exact .idle rfl rfl rfl
  | aside i e next a asks he h =>
    refine .answered i e next a (rests_getElem? asks rfl) h (rests_answer ..) rfl ?_
    cases e <;> first | rfl | cases he
  | answerAtOnce i call next a memory asks received =>
    refine .answered i _ next a (rests_getElem? asks rfl) (source.allows_call _ _ _)
      (rests_answer ..) rfl ?_
    have moved := Memory.receive_moved c.memory c.now call
    rw [received] at moved
    exact moved
  | wait i call next until_ inTime memory asks received =>
    have moved := Memory.receive_moved c.memory c.now call
    rw [received] at moved
    refine .idle ?_ rfl moved
    -- The program still has the call ahead of it.
    obtain ⟨hi, hrest⟩ := List.getElem?_eq_some_iff.mp (rests_getElem? asks rfl)
    rw [Party.rest] at hrest
    show (c.parties.set i _).map Party.rest = c.rests
    rw [List.map_set, Party.rest, ← hrest]
    exact List.set_getElem_self hi
  | settle i call next until_ inTime waits due =>
    refine .answered i _ next _ (rests_getElem? waits rfl) (source.allows_call _ _ _)
      (rests_answer ..) rfl ?_
    exact Memory.settle_moved c.memory c.now inTime call

/-! ## Results -/

/-- The program at a place has returned a result. -/
def Returned (c : Crowd α) (i : Nat) (r : α) : Prop := c.rests[i]? = some (.done r)

/-- The program at a place has nothing more to ask of the store and will return a result, whatever
else it is told. -/
def Returning (c : Crowd α) (i : Nat) (r : α) : Prop :=
  ∃ p, c.rests[i]? = some p ∧ p.Returns r

/-- A program that has returned stays as it is. -/
theorem Advance.returned {i : Nat} {r : α} (h : Advance joins source c c')
    (hi : c.Returned i r) : c'.Returned i r := by
  unfold Returned at *
  cases h with
  | idle rests history ledger => rw [rests, hi]
  | joined p h rests history ledger =>
    rw [rests, List.getElem?_append_left (List.getElem?_eq_some_iff.mp hi).1, hi]
  | answered j e next a asks h rests history ledger =>
    have hne : j ≠ i := by
      rintro rfl
      rw [hi] at asks
      cases asks
    rw [rests, List.getElem?_set_ne hne, hi]

theorem Steps.returned {i : Nat} {r : α} (h : Steps joins source c c') (hi : c.Returned i r) :
    c'.Returned i r := by
  induction h with
  | refl => exact hi
  | tail _ hstep ih => exact hstep.advance.returned ih

end Crowd

/-! ## Protocols in a crowd -/

namespace Protocol

variable {V : Type} (P : Protocol V) (v : V) {history : List (Nat × Answered)} {i j : Nat}

/-- The state of a protocol after one program's part of a history. -/
def view (history : List (Nat × Answered)) (i : Nat) : V :=
  history.foldl (fun v x => if x.1 = i then P.after v x.2.1 x.2.2 else v) v

theorem view_append_self (x : Answered) :
    P.view v (history ++ [(i, x)]) i = P.after (P.view v history i) x.1 x.2 := by
  simp [view]

theorem view_append_of_ne (x : Answered) (h : i ≠ j) :
    P.view v (history ++ [(i, x)]) j = P.view v history j := by
  simp [view, h]

/-- Whoever has no part in a history is still where everybody starts. -/
theorem view_of_absent (h : ∀ x ∈ history, x.1 ≠ i) : P.view v history i = v := by
  induction history with
  | nil => rfl
  | cons x rest ih =>
    obtain ⟨hx, hrest⟩ := List.forall_mem_cons.mp h
    show P.view (if x.1 = i then _ else v) rest i = v
    rw [if_neg hx]
    exact ih hrest

end Protocol

namespace Crowd

variable {α V : Type} {joins : Program α → Prop} {source : Source} {c c' : Crowd α}
  {P : Protocol V} {v : V} {post : V → α → Prop}

/-- The answers that a crowd can get are among those that a protocol counts on. -/
structure Expected (P : Protocol V) : Prop where
  of_moved : ∀ {l l' : Ledger} {call : Call} {a : call.Answer},
    l.Moved call a l' → P.expects (.store call) a
  of_aside : ∀ {e : Effect} (a : e.Answer), e.isCall = false → P.expects e a

/-- Every program of the crowd keeps to the protocol from where its part of the history led to. -/
structure Kept (P : Protocol V) (v : V) (post : V → α → Prop) (c : Crowd α) : Prop where
  present : ∀ x ∈ c.history, x.1 < c.rests.length
  keeps : ∀ (i : Nat) (p : Program α), c.rests[i]? = some p →
    p.Keeps P post (P.view v c.history i)

theorem kept_start : Kept P v post (start : Crowd α) where
  present _ hx := nomatch hx
  keeps i p hp := by simp [rests, start] at hp

theorem Expected.of_movedBy (hP : Expected P) {l l' : Ledger} {x : Answered} (h : l.MovedBy x l') :
    P.expects x.1 x.2 := by
  obtain ⟨e, a⟩ := x
  cases e with
  | store call => exact hP.of_moved h
  | _ => exact hP.of_aside a rfl

theorem Advance.kept (hP : Expected P) (hjoins : ∀ p, joins p → p.Keeps P post v)
    (h : Advance joins source c c') (hc : Kept P v post c) : Kept P v post c' := by
  cases h with
  | idle rests history ledger =>
    exact ⟨by rw [history, rests]; exact hc.present, by rw [history, rests]; exact hc.keeps⟩
  | joined p hp rests history ledger =>
    refine ⟨fun x hx => ?_, fun i q hq => ?_⟩
    · rw [history] at hx
      rw [rests, List.length_append]
      exact Nat.lt_add_right 1 (hc.present x hx)
    · rw [rests] at hq
      rw [history]
      by_cases hi : i < c.rests.length
      · rw [List.getElem?_append_left hi] at hq
        exact hc.keeps i q hq
      · -- The one that has joined has no part in the history.
        rw [List.getElem?_append_right (Nat.le_of_not_lt hi), List.getElem?_singleton] at hq
        split at hq
        · cases hq
          rw [P.view_of_absent v fun x hx => by have := hc.present x hx; omega]
          exact hjoins p hp
        · cases hq
  | answered i e next a asks hs rests history ledger =>
    have hlen : c'.rests.length = c.rests.length := by rw [rests, List.length_set]
    have hi : i < c.rests.length := (List.getElem?_eq_some_iff.mp asks).1
    refine ⟨fun x hx => ?_, fun j q hq => ?_⟩
    · rw [history] at hx
      rcases List.mem_append.mp hx with hx | hx
      · rw [hlen]
        exact hc.present x hx
      · rw [hlen, List.mem_singleton.mp hx]
        exact hi
    · rw [history]
      rw [rests] at hq
      -- Only the program at `i` has gone on, and only its part of the history has grown.
      by_cases hij : i = j
      · subst hij
        rw [List.getElem?_set_self hi] at hq
        cases hq
        rw [P.view_append_self v]
        exact (hc.keeps i _ asks).2 a (hP.of_movedBy ledger)
      · rw [List.getElem?_set_ne hij] at hq
        rw [P.view_append_of_ne v _ hij]
        exact hc.keeps j q hq

/-- In every crowd that can come about, the programs keep to a protocol that all who join keep. -/
theorem Reachable.kept (hP : Expected P) (hjoins : ∀ p, joins p → p.Keeps P post v)
    (h : Reachable joins source c) : Kept P v post c := by
  induction h with
  | refl => exact kept_start
  | tail _ hstep ih => exact hstep.advance.kept hP hjoins ih

end Crowd

/-! ## Numbered identifiers -/

/-- Identifiers are numbered in the order in which they are drawn. -/
def NumberedIds.source (stem : String) : Source := fun drawn id =>
  id = (NumberedIds.next ⟨stem, drawn.length⟩).1

/-- Numbers that fit into 64 bits make different identifiers. -/
theorem NumberedIds.next_injective {stem : String} {m n : Nat} (hm : m < Text.maxUnsigned64)
    (hn : n < Text.maxUnsigned64)
    (h : (NumberedIds.next ⟨stem, m⟩).1 = (NumberedIds.next ⟨stem, n⟩).1) : m = n := by
  simp only [next, Id.mk.injEq, String.append_right_inj] at h
  have hnumber := Text.natural_injective h
  rw [Nat.mod_eq_of_lt (by omega), Nat.mod_eq_of_lt (by omega)] at hnumber
  omega

namespace Crowd

variable {α : Type} {joins : Program α → Prop} {c c' : Crowd α} {stem : String}

/-- The identifiers drawn from a numbered source are the first ones. -/
theorem Reachable.drawn_eq (h : Reachable joins (NumberedIds.source stem) c) :
    c.drawn = (List.range c.drawn.length).map fun k => (NumberedIds.next ⟨stem, k⟩).1 := by
  induction h with
  | refl => rfl
  | @tail b c _ hstep ih =>
    cases hstep.advance with
    | idle rests history ledger =>
      have hdrawn : c.drawn = b.drawn := by simp only [drawn, history]
      rw [hdrawn]
      exact ih
    | joined p h rests history ledger =>
      have hdrawn : c.drawn = b.drawn := by simp only [drawn, history]
      rw [hdrawn]
      exact ih
    | answered i e next a asks h rests history ledger =>
      have hdrawn := drawn_append history
      cases hid : Answered.id? ⟨e, a⟩ with
      | none =>
        rw [hdrawn, hid, Option.toList_none, List.append_nil]
        exact ih
      | some id =>
        have hnext : id = (NumberedIds.next ⟨stem, b.drawn.length⟩).1 := h id hid
        rw [hdrawn, hid, Option.toList_some, List.length_append, List.length_singleton,
          List.range_succ, List.map_append, ← ih, List.map_singleton, ← hnext]

/-- Fewer identifiers from a numbered source than 64 bits can count are all different. -/
theorem Reachable.nodup_drawn (h : Reachable joins (NumberedIds.source stem) c)
    (hfew : c.drawn.length ≤ Text.maxUnsigned64) : c.drawn.Nodup := by
  rw [h.drawn_eq]
  refine List.Nodup.map_on (fun m hm n hn heq => ?_) List.nodup_range
  rw [List.mem_range] at hm hn
  exact NumberedIds.next_injective (by omega) (by omega) heq

/-! ## A program on its own -/

/-- A crowd that is as a world says. -/
structure Mirrors (stem : String) (c : Crowd α) (w : World Memory) : Prop where
  memory : c.memory = w.store
  now : c.now = w.now
  ids : w.ids = ⟨stem, c.drawn.length⟩

/-- What has to wait is not due before some time. -/
def NotBefore {call : Call} (now : Instant) : Reception call → Prop
  | .answered _ => True
  | .waiting until_ _ => now ≤ until_

theorem notBefore_delay (call : Call) (now : Instant) (deadline : Deadline)
    (latency : Option Span) : NotBefore now (Memory.delay (c := call) now deadline latency) := by
  cases latency with
  | none => exact Nat.le_refl _
  | some latency =>
    have hready : now ≤ now.after latency := Instant.le_def.mpr (Nat.le_add_right _ _)
    show now ≤ (deadline.await now (now.after latency)).1
    unfold Deadline.await
    split
    · exact hready
    · rename_i limit _
      by_cases h₁ : now.after latency ≤ now
      · rw [if_pos h₁]
        exact Nat.le_refl _
      · rw [if_neg h₁]
        by_cases h₂ : now.after latency ≤ limit
        · rw [if_pos h₂]
          exact hready
        · rw [if_neg h₂]
          by_cases h₃ : limit ≤ now
          · rw [if_pos h₃]
            exact Nat.le_refl _
          · rw [if_neg h₃]
            exact Nat.le_of_lt (Nat.lt_of_not_le h₃)

theorem notBefore_receive (m : Memory) (now : Instant) (call : Call) :
    NotBefore now (m.receive now call).1 := by
  have hreceived := m.receive_received now call
  generalize (m.receive now call).1 = reception, (m.receive now call).2 = m' at *
  cases hreceived with
  | running | committing => exact notBefore_delay _ _ _ _
  | _ => trivial

/-- What does not call the store leaves it as it is, and time does not go back meanwhile. -/
theorem world_aside (w : World Memory) {e : Effect} (he : e.isCall = false) :
    (World.step .memory w e).2.store = w.store ∧ w.now ≤ (World.step .memory w e).2.now := by
  have same : w.now ≤ w.now := Nat.le_refl _
  cases e with
  | store call => cases he
  | wait deadline d =>
    have later := notBefore_delay (.close ⟨0, "", none⟩) w.now deadline (some d)
    exact ⟨rfl, later⟩
  | observe recorder o =>
    show (w.keep recorder o).store = w.store ∧ w.now ≤ (w.keep recorder o).now
    unfold World.keep
    split
    · exact ⟨rfl, same⟩
    · exact ⟨rfl, same⟩
    · split <;> exact ⟨rfl, same⟩
  | freshRequest =>
    obtain ⟨drawn, hdrawn⟩ := World.step_freshRequest .memory w
    rw [hdrawn]
    exact ⟨rfl, same⟩
  | _ => exact ⟨rfl, same⟩

/-- A world with numbered identifiers counts those that it gives out. -/
theorem world_ids (w : World Memory) {n : Nat} (h : w.ids = ⟨stem, n⟩) (e : Effect) :
    (World.step .memory w e).2.ids =
      ⟨stem, n + (Answered.id? ⟨e, (World.step .memory w e).1⟩).toList.length⟩ := by
  cases e with
  | identifier =>
    show w.ids.next.2 = _
    rw [h]
    rfl
  | observe recorder o =>
    show (w.keep recorder o).ids = _
    unfold World.keep
    split
    · exact h
    · exact h
    · split <;> exact h
  | freshRequest =>
    obtain ⟨drawn, hdrawn⟩ := World.step_freshRequest .memory w
    rw [hdrawn]
    exact h
  | _ => exact h

/-- A call that is served from beginning to end can be so in a crowd. -/
theorem Steps.serve {source : Source} {i : Nat} {call : Call} {next : call.Answer → Program α}
    (hi : c.parties[i]? = some (.ready (.perform (.store call) next))) :
    Steps joins source c { c.answer i (.store call) (c.memory.serve c.now call).1 next
      (c.memory.serve c.now call).2.1 with now := (c.memory.serve c.now call).2.2 } := by
  have hlt : i < c.parties.length := (List.getElem?_eq_some_iff.mp hi).1
  have hdue := notBefore_receive c.memory c.now call
  unfold Memory.serve
  cases hr : c.memory.receive c.now call with
  | mk reception memory =>
    rw [hr] at hdue
    cases reception with
    | answered answer => exact .single (.answerAtOnce i call next answer memory hi hr)
    | waiting until_ inTime =>
      -- A call that has to wait takes three steps: it is received, its time comes, it is answered.
      let waiting : Crowd α := { c with
        memory := memory
        parties := c.parties.set i (.waiting call next until_ inTime) }
      let due : Crowd α := { waiting with now := until_ }
      have hwaits : Step joins source c waiting := .wait i call next until_ inTime memory hi hr
      have hpasses : Step joins source waiting due := .pass until_ hdue
      have hsettles : Step joins source due _ :=
        .settle i call next until_ inTime (List.getElem?_set_self hlt) (Nat.le_refl _)
      have hall := ((Relation.ReflTransGen.single hwaits).tail hpasses).tail hsettles
      simpa [answer, waiting, due] using hall

/-- An answer in a world can be given in every crowd that mirrors it. -/
theorem Mirrors.step {w : World Memory} (h : Mirrors stem c w) {i : Nat} {e : Effect}
    {next : e.Answer → Program α} (hi : c.parties[i]? = some (.ready (.perform e next))) :
    ∃ c', Steps joins (NumberedIds.source stem) c c' ∧
      Mirrors stem c' (World.step .memory w e).2 ∧
      c'.parties[i]? = some (.ready (next (World.step .memory w e).1)) := by
  have hlt : i < c.parties.length := (List.getElem?_eq_some_iff.mp hi).1
  have hids (c' : Crowd α)
      (hc' : c'.history = c.history ++ [(i, ⟨e, (World.step .memory w e).1⟩)]) :
      (World.step .memory w e).2.ids = ⟨stem, c'.drawn.length⟩ := by
    rw [world_ids w h.ids, drawn_append hc', List.length_append]
  by_cases he : e.isCall = false
  · obtain ⟨hstore, hnow⟩ := world_aside w he
    rw [← h.now] at hnow
    have allowed : (NumberedIds.source stem).Allows c.drawn ⟨e, (World.step .memory w e).1⟩ := by
      cases e with
      | identifier =>
        rintro id ⟨⟩
        show w.ids.next.1 = _
        rw [h.ids]
      | _ => exact nofun
    refine ⟨{ c.answer i e (World.step .memory w e).1 next c.memory with
        now := (World.step .memory w e).2.now }, ?_, ⟨?_, rfl, hids _ rfl⟩, ?_⟩
    · have hanswers : Step joins (NumberedIds.source stem) c _ := .aside i e next _ hi he allowed
      exact (Relation.ReflTransGen.single hanswers).tail (.pass _ hnow)
    · rw [hstore, ← h.memory]
      rfl
    · exact List.getElem?_set_self hlt
  · cases e with
    | store call =>
      have hserved : World.step .memory w (.store call) = ((c.memory.serve c.now call).1, { w with
          store := (c.memory.serve c.now call).2.1
          now := (c.memory.serve c.now call).2.2
          events := w.events ++ [] }) := by
        rw [h.memory, h.now]
        rfl
      rw [hserved] at hids ⊢
      exact ⟨_, .serve hi, ⟨rfl, rfl, hids _ rfl⟩, List.getElem?_set_self hlt⟩
    | _ => exact absurd rfl he

/-- Whatever a program does on its own in a world, it can do as one of a crowd. -/
theorem Mirrors.run (p : Program α) {w : World Memory} (h : Mirrors stem c w) {i : Nat}
    (hi : c.parties[i]? = some (.ready p)) :
    ∃ c', Steps joins (NumberedIds.source stem) c c' ∧
      Mirrors stem c' (p.run (World.machine .memory) w).2 ∧
      c'.Returned i (p.run (World.machine .memory) w).1 := by
  -- By induction on the program: after each answer the crowd mirrors the world again.
  induction p generalizing c w with
  | done a => exact ⟨c, .refl, h, rests_getElem? hi rfl⟩
  | perform e next ih =>
    obtain ⟨c₁, hsteps, h₁, hi₁⟩ := h.step hi
    obtain ⟨c₂, hmore, h₂, hreturned⟩ := ih _ h₁ hi₁
    exact ⟨c₂, hsteps.trans hmore, h₂, hreturned⟩

theorem mirrors_start (clock : SteppedClock) :
    Mirrors stem (start : Crowd α) (World.start .empty clock stem) :=
  ⟨rfl, rfl, rfl⟩

/-- A program that runs in a world can join every crowd that mirrors the world and run there. -/
theorem Reachable.join_run {w : World Memory} {p : Program α}
    (hc : Reachable joins (NumberedIds.source stem) c) (h : Mirrors stem c w) (hp : joins p) :
    ∃ c', Reachable joins (NumberedIds.source stem) c' ∧
      Mirrors stem c' (p.run (World.machine .memory) w).2 := by
  have hjoins : Step joins (NumberedIds.source stem) c
      { c with parties := c.parties ++ [.ready p] } :=
    .join p hp
  have hjoined : Mirrors stem { c with parties := c.parties ++ [.ready p] } w :=
    ⟨h.memory, h.now, h.ids⟩
  obtain ⟨c', hsteps, hc', _⟩ := hjoined.run p (i := c.parties.length) (by simp)
  exact ⟨c', (hc.tail hjoins).trans hsteps, hc'⟩

end Crowd

end UserAccounts
