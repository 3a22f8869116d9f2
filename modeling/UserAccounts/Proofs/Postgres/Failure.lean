import Mathlib
import UserAccounts.Postgres.Store
import UserAccounts.Proofs.Store.LifeCycle

/-!
# Failures of a database

What a server, a deadline or an unreadable row is to blame for is never reported as a refusal: that
a transaction has ended or that a statement was closed is said by the store on its own account
(`mishap_pass`, `mishap_run`).
-/

namespace UserAccounts.PgStore

open Postgres

variable {γ : Type}

/-- A failure that is no refusal for being late. -/
def Mishap (e : StoreError) : Prop := e.isRefusal = false

theorem mishap_prepareFailed (e : ClientError) : Mishap (prepareFailed e).error := by
  unfold prepareFailed
  split_ifs
  · rfl
  · split
    · split_ifs <;> rfl
    · rfl

theorem mishap_runFailed (e : ClientError) : Mishap (runFailed e).error := by
  unfold runFailed
  split_ifs <;> rfl

theorem mishap_commitFailed (e : ClientError) : Mishap (commitFailed e).error := rfl

theorem mishap_rollbackFailed (e : ClientError) : Mishap (rollbackFailed e).error := rfl

/-- What the server or the deadline is to blame for is no refusal. -/
theorem mishap_pass {client : Client γ} {s : PgStore γ} {now : Instant} {deadline : Deadline}
    {r : Request} {failed : ClientError → Reported} (hfailed : ∀ e, Mishap (failed e).error)
    {e : StoreError} (h : (pass client s now deadline r failed).answer = .error e) : Mishap e := by
  unfold pass at h
  dsimp only at h
  cases hresult : (client.serve s.client now deadline r).result with
  | none =>
    rw [hresult] at h
    cases h
    rfl
  | some result =>
    rw [hresult] at h
    cases result with
    | ok a => cases h
    | error cause =>
      cases h
      exact hfailed cause

theorem mishap_decodeCell {index : Nat} {column : Column} {cell : Cell} {e : StoreError}
    (h : decodeCell index column cell = .error e) : Mishap e := by
  unfold decodeCell at h
  split at h
  · cases h
  · split at h
    · cases h
      rfl
    · split at h
      · cases h
      · cases h
        rfl

/-- A sequence fails by its first part or, after that, by its second. -/
theorem of_bind_eq_error {α β : Type} {x : Except StoreError α} {f : α → Except StoreError β}
    {e : StoreError} (h : x.bind f = .error e) :
    x = .error e ∨ ∃ a, x = .ok a ∧ f a = .error e := by
  cases x with
  | error cause =>
    cases h
    exact .inl rfl
  | ok a => exact .inr ⟨a, rfl, h⟩

theorem mishap_decodeFrom {index : Nat} {columns : List Column} {cells : List Cell}
    {e : StoreError} (h : decodeFrom index columns cells = .error e) : Mishap e := by
  induction columns generalizing index cells with
  | nil => cases h
  | cons column columns ih =>
    rcases of_bind_eq_error h with hcell | ⟨value, -, h⟩
    · exact mishap_decodeCell hcell
    · rcases of_bind_eq_error h with hrest | ⟨rest, -, h⟩
      · exact ih hrest
      · cases h

theorem mishap_decodeRow {columns : List Column} {cells : List Cell} {e : StoreError}
    (h : decodeRow columns cells = .error e) : Mishap e := by
  unfold decodeRow at h
  cases hcells : decodeFrom 0 columns cells with
  | error cause =>
    rw [hcells] at h
    cases h
    exact mishap_decodeFrom hcells
  | ok values =>
    rw [hcells] at h
    cases h

theorem mishap_decodeRows {columns : List Column} {rows : List (List Cell)} {e : StoreError}
    (h : decodeRows columns rows = .error e) : Mishap e := by
  induction rows with
  | nil => cases h
  | cons cells rest ih =>
    rcases of_bind_eq_error h with hrow | ⟨row, -, h⟩
    · exact mishap_decodeRow hrow
    · rcases of_bind_eq_error h with hrest | ⟨rows, -, h⟩
      · exact ih hrest
      · cases h

theorem mishap_readFirst {r : ResultSet} {e : StoreError} (h : readFirst r = .error e) :
    Mishap e := by
  unfold readFirst at h
  split at h
  · cases h
  · rename_i cells _ _
    cases hrow : decodeRow r.columns cells with
    | error cause =>
      rw [hrow] at h
      cases h
      exact mishap_decodeRow hrow
    | ok row =>
      rw [hrow] at h
      cases h

theorem mishap_run {α : Type} {client : Client γ} {s : PgStore γ} {now : Instant}
    {deadline : Deadline} {target : Target} {query : String} {args : List SqlValue}
    {read : ResultSet → Except StoreError α} (hread : ∀ r e, read r = .error e → Mishap e)
    {e : StoreError} (h : (run client s now deadline target query args read).answer = .error e) :
    Mishap e := by
  rcases of_bind_eq_error h with hpass | ⟨r, -, h⟩
  · exact mishap_pass mishap_runFailed hpass
  · exact hread r e h

theorem answer_handOut {query : String} {p : Passed γ Unit} {e : StoreError}
    (h : (handOut query p).answer = .error e) : p.answer = .error e := by
  unfold handOut at h
  split at h
  · cases h
  · rename_i cause hcause
    cases h
    exact hcause

end UserAccounts.PgStore
