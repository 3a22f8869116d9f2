import UserAccounts.Proofs.Account.Outcome
import UserAccounts.Proofs.Store.Ledger

/-!
# The store in memory in its surroundings

`Surroundings` answer whatever a program asks for besides calls: any clocks, any identifiers, any
identifiers of requests. Calls are served by the store in memory. Each step of a creation keeps its
stage and the ledger of the store together (`Surroundings.step_matches`), and a step that neither
writes nor commits leaves the committed log as it is (`Surroundings.step_reading`).
-/

namespace UserAccounts

/-- What surrounds the store in memory. -/
structure Surroundings (τ : Type) where
  /-- The time at which a call is made. -/
  now : τ → Instant
  /-- The time comes at which a call was answered. -/
  arrive : τ → Instant → τ
  step : τ → (e : Effect) → e.Answer × τ

/-- The store in memory in its surroundings. Reports go elsewhere. -/
def Surroundings.machine {τ : Type} (w : Surroundings τ) : Machine (Memory × τ) where
  step s
    | .store c =>
      let served := s.1.serve (w.now s.2) c
      (served.1, (served.2.1, w.arrive s.2 served.2.2))
    | .report _ => ((), s)
    | e => ((w.step s.2 e).1, (s.1, (w.step s.2 e).2))

/-- A world with virtual time as surroundings. -/
def World.surroundings : Surroundings (World Unit) where
  now w := w.now
  arrive w later := { w with now := later }
  step := World.step ⟨fun _ now _ => ⟨.error .deadlineExceeded, (), now, []⟩⟩

/-- How the stage of a creation goes with the ledger of a store whose committed log was `before`:
what has been committed since is what the creation has committed, and what it has written so far is
pending. -/
def Stage.Matches (before : List Observed) (stage : Stage) (l : Ledger) : Prop :=
  l.committed = before ++ stage.committed ∧
    ∀ tx writes, stage = .working tx writes → l.pending[tx.key]? = some writes

/-- A turn of a creation keeps its stage and the ledger together. -/
theorem Stage.Matches.turn {before : List Observed} {stage stage' : Stage} {l l' : Ledger}
    {committed : Option Transaction} (h : stage.Matches before l)
    (ht : Stage.Turn l stage stage' l' committed) : stage'.Matches before l' := by
  obtain ⟨hlog, hpending⟩ := h
  cases ht with
  | same => exact ⟨hlog, hpending⟩
  | began =>
    refine ⟨hlog, ?_⟩
    intro tx writes heq
    cases heq
    simp
  | wrote tx writes x =>
    refine ⟨hlog, ?_⟩
    intro tx' writes' heq
    cases heq
    show (l.pending.modify tx.key _)[tx.key]? = _
    rw [List.getElem?_modify_eq, hpending tx writes rfl]
    rfl
  | gaveUp tx writes l' hl' =>
    refine ⟨?_, nofun⟩
    rcases hl' with rfl | rfl <;> exact hlog
  | committed tx writes held hheld =>
    refine ⟨?_, nofun⟩
    -- What the store takes over is what it holds for the transaction.
    rw [hpending tx writes rfl] at hheld
    cases hheld
    show l.committed ++ writes = before ++ writes
    rw [hlog]
    simp [Stage.committed]

namespace Surroundings

variable {τ : Type} (w : Surroundings τ)

/-- Only calls change what is in the store. -/
theorem step_memory {e : Effect} (he : Aside e) (s : Memory × τ) :
    (w.machine.step s e).2.1 = s.1 := by
  cases e with
  | store c => cases he
  | _ => rfl

/-- A step at which a creation keeps to its stage leaves stage and ledger together. -/
theorem step_matches {before : List Observed} {stage : Stage} {s : Memory × τ} {e : Effect}
    (hfits : stage.Matches before s.1.ledger) (hpermits : stageProtocol.permits stage e) :
    stageProtocol.expects e (w.machine.step s e).1 ∧
      (stageProtocol.after stage e (w.machine.step s e).1).Matches before
        (w.machine.step s e).2.1.ledger := by
  by_cases he : Aside e
  · rw [stageProtocol_ignoresAsides.after stage e he, step_memory w he]
    exact ⟨creationProtocol_expected.of_aside _ he, hfits⟩
  · cases e with
    | store c =>
      have hmoved := s.1.serve_moved (w.now s.2) c
      exact ⟨creationProtocol_expected.of_moved hmoved,
        hfits.turn (Stage.Allows.turn hpermits hmoved)⟩
    | _ => exact absurd rfl he

/-- A step that neither writes nor commits leaves the committed log as it is. -/
theorem step_reading {s : Memory × τ} {e : Effect} (hreads : e.Reads) :
    (w.machine.step s e).2.1.committed = s.1.committed := by
  by_cases he : Aside e
  · rw [step_memory w he]
  · cases e with
    | store c => exact (s.1.serve_moved (w.now s.2) c).committed_eq (hreads c rfl)
    | _ => exact absurd rfl he

end Surroundings

end UserAccounts
