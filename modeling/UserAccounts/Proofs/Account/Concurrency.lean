import UserAccounts.Proofs.Store.Bracket
import UserAccounts.Proofs.Store.Crowd

/-!
# Concurrent creations

Any number of accounts are created at one store in memory, with their calls in any order. Whatever
is committed comes in pairs, the row of a user followed by that of the account, one pair for each
creation that succeeds and none for any other (`createAccount_committed`).

The argument has two halves. A creation on its own keeps to `creationProtocol`: it works within its
own transaction, and if it commits, what it wrote there is the pair of the account that it goes on
to return. A crowd of creations keeps `Tally`: what each is said to have written is what the store
holds for it, no two share a transaction, and the committed log is made of the writes of those that
have committed.
-/

namespace UserAccounts

/-- The writes that add an account: first its user, then itself, with times in milliseconds. -/
def Account.Insertion (a : Account) (writes : List Observed) : Prop :=
  ∃ userCreatedAt createdAt : Int64,
    userCreatedAt.toInt = a.user.createdAt.millis ∧ createdAt.toInt = a.createdAt.millis ∧
    writes =
      [.exec Statements.insertUser
        [.text a.user.id.text, .text a.user.firstName, .text a.user.lastName, .int userCreatedAt],
      .exec Statements.insertAccount
        [.text a.id.text, .text a.username, .text a.user.id.text, .int createdAt]]

theorem Timestamp.toInt_ofInt_millis (t : Timestamp) : (Int64.ofInt t.millis).toInt = t.millis := by
  have h := t.millis_bounds
  exact Int64.toInt_ofInt_of_le (by omega) (by omega)

theorem Account.insertion (a : Account) :
    a.Insertion [.exec Statements.insertUser a.user.insertArgs,
      .exec Statements.insertAccount a.insertArgs] :=
  ⟨_, _, a.user.createdAt.toInt_ofInt_millis, a.createdAt.toInt_ofInt_millis, rfl⟩

/-! ## One creation -/

/-- How far the transaction of a creation has come. -/
inductive Stage where
  | idle
  /-- The transaction has been begun and these writes were made in it. -/
  | working (tx : Transaction) (writes : List Observed)
  /-- The transaction has ended without being committed. -/
  | over
  /-- The transaction has been committed with these writes. -/
  | kept (tx : Transaction) (writes : List Observed)

namespace Stage

/-- The calls to the store that may be made. -/
def Allows : Stage → Call → Prop
  | .idle, .begin .. => True
  | .working .., .prepare .. => True
  | .working .., .queryRow .. => True
  | .working .., .close _ => True
  | .working tx _, .exec s _ _ => s.within = some tx
  | .working tx _, .commit tx' => tx' = tx
  | .working tx _, .rollback tx' => tx' = tx
  | _, _ => False

/-- The stage after a call is answered. -/
def after : Stage → (c : Call) → c.Answer → Stage
  | .idle, .begin .., .ok tx => .working tx []
  | .working tx writes, .exec s _ args, .ok _ => .working tx (writes ++ [.exec s.query args])
  | .working tx writes, .commit _, .ok _ => .kept tx writes
  | .working .., .commit _, .error _ => .over
  | .working .., .rollback _, _ => .over
  | stage, _, _ => stage

/-- The creation has not been committed. -/
def Open (stage : Stage) : Prop := ∀ tx writes, stage ≠ .kept tx writes

end Stage

/-- Where a creation stands: the stage of its transaction, and the identifiers that it has drawn. -/
structure Standing where
  stage : Stage
  drawn : List Id

/-- What a creation may ask for: calls to the store as its stage allows, and nothing but reports
once it is committed. Statements are expected to have the text that was asked for. -/
def creationProtocol : Protocol Standing where
  permits v e :=
    match e with
    | .store c => v.stage.Allows c
    | .report _ | .observe _ _ => True
    | _ => v.stage.Open
  expects e answer :=
    match e, answer with
    | .store (.prepare _ _ query), .ok p => p.query = query
    | _, _ => True
  after v e answer :=
    match e, answer with
    | .store c, answer => { v with stage := v.stage.after c answer }
    | .identifier, id => { v with drawn := v.drawn ++ [id] }
    | _, _ => v

/-- What a creation yields from where it stands in the end: the account that it has added, or a
failure. -/
def Standing.Yields (ids : Identifiers) (v : Standing) (r : Except Failure Account) : Prop :=
  match v.stage with
  | .kept _ writes => ∃ a, r = .ok a ∧ a.Insertion writes ∧
      (ids = .fresh → [a.user.id, a.id].Sublist v.drawn)
  | _ => ∃ failure, r = .error failure

section Creation

variable {α : Type} {v : Standing} {database user : String} {tx : Transaction}
  {writes : List Observed} {d : Deadline} {query : String}

/-- A program that does not call the store leaves the transaction alone. -/
theorem Program.Quiet.keeps_stage {p : Program α} (hp : p.Quiet) (hv : v.stage.Open) :
    p.Keeps creationProtocol (fun v' _ => v'.stage = v.stage ∧ v.drawn.Sublist v'.drawn) v := by
  induction p generalizing v with
  | done a => exact ⟨rfl, List.Sublist.refl _⟩
  | perform e next ih =>
    obtain ⟨he, hnext⟩ := hp
    have permitted : creationProtocol.permits v e := by
      cases e with
      | store c => cases he
      | _ => first | exact hv | trivial
    refine ⟨permitted, fun answer _ => ?_⟩
    have hstage : (creationProtocol.after v e answer).stage = v.stage := by
      cases e with
      | store c => cases he
      | _ => rfl
    have hdrawn : v.drawn.Sublist (creationProtocol.after v e answer).drawn := by
      cases e with
      | identifier => exact List.sublist_append_left _ _
      | _ => exact List.Sublist.refl _
    refine (ih answer (hnext answer) (v := creationProtocol.after v e answer)
      (by rw [hstage]; exact hv)).mono fun v' _ h => ?_
    exact ⟨h.1.trans hstage, hdrawn.trans h.2⟩

/-- An identifier that is drawn from the world itself is the last one drawn. -/
theorem Identifiers.Quiet.keeps_drawn {ids : Identifiers} (hids : ids.Quiet) (hv : v.stage.Open) :
    ids.next.Keeps creationProtocol (fun v' id => v'.stage = v.stage ∧
      v.drawn.Sublist v'.drawn ∧ (ids = .fresh → v'.drawn = v.drawn ++ [id])) v := by
  by_cases hfresh : ids = .fresh
  · subst hfresh
    exact ⟨hv, fun id _ => ⟨rfl, List.sublist_append_left _ _, fun _ => rfl⟩⟩
  · refine (Program.Quiet.keeps_stage hids hv).mono fun v' id h => ?_
    exact ⟨h.1, h.2, fun heq => absurd heq hfresh⟩

/-- Looking for a row within the transaction adds no write. -/
theorem Store.rowOnce_keeps (hv : v.stage = .working tx writes) (args : List SqlValue) :
    ((Store.direct database user).rowOnce (some tx) d query args).Keeps creationProtocol
      (fun v' _ => v' = v) v := by
  obtain ⟨stage, drawn⟩ := v
  cases hv
  refine Store.keeps_bracket.mpr ⟨trivial, fun answer _ => ?_⟩
  cases answer with
  | error e => rfl
  | ok p => exact ⟨trivial, fun answer _ => ⟨trivial, fun closed _ => rfl⟩⟩

/-- Running a statement within the transaction adds its write, if it was run at all. -/
theorem Store.execOnce_keeps (hv : v.stage = .working tx writes) (args : List SqlValue) :
    ((Store.direct database user).execOnce (some tx) d query args).Keeps creationProtocol
      (fun v' outcome => v'.drawn = v.drawn ∧ ∃ more, v'.stage = .working tx (writes ++ more) ∧
        (outcome.isOk = true → more = [.exec query args])) v := by
  obtain ⟨stage, drawn⟩ := v
  cases hv
  refine Store.keeps_bracket.mpr ⟨trivial, fun answer hanswer => ?_⟩
  cases answer with
  | error e => exact ⟨rfl, [], by rw [List.append_nil]; rfl, nofun⟩
  | ok p =>
    refine ⟨rfl, fun answer _ => ⟨?_, fun closed _ => ?_⟩⟩
    · cases answer <;> trivial
    · cases answer with
      | error e => exact ⟨rfl, [], by rw [List.append_nil]; rfl, nofun⟩
      | ok affected =>
        have hquery : p.query = query := hanswer
        subst hquery
        exact ⟨rfl, _, rfl, fun _ => rfl⟩

/-- Adding the rows of an account writes within the transaction, and what was written there when it
succeeds is the pair of the account as it is then. -/
theorem insertRows_keeps {ids : Identifiers} {clock : Clock} (hids : ids.Quiet)
    (hclock : clock.Quiet) (account : Account) (drawn : List Id) :
    (insertRows (.direct database user) ids clock tx d account).Keeps creationProtocol
      (fun v outcome => ∃ writes, v.stage = .working tx writes ∧ ∀ a, outcome = .ok a →
        a.Insertion writes ∧ (ids = .fresh → [a.user.id, a.id].Sublist v.drawn))
      ⟨.working tx [], drawn⟩ := by
  have open_of_working {v : Standing} {writes : List Observed}
      (h : v.stage = .working tx writes) : v.stage.Open := by
    rw [h]
    exact nofun
  simp only [insertRows, Program.bind_eq, Program.pure_eq_done]
  -- Step by step, `hs` says that the creation is still at work, `hw` what it has written, and `hd`
  -- what it has drawn.
  rw [Program.keeps_bind]
  refine (Store.rowOnce_keeps rfl _).mono fun v₀ check h₀ => ?_
  subst h₀
  rcases firstColumn false (·.boolean 0) check with e | (_ | _)
  · exact ⟨[], rfl, fun a ha => by cases ha⟩
  · rw [Program.keeps_bind]
    refine (hids.keeps_drawn (open_of_working rfl)).mono fun v₁ userId ⟨hs₁, _, hd₁⟩ => ?_
    rw [Program.keeps_bind]
    refine ((hclock .universal).keeps_stage (open_of_working hs₁)).mono
      fun v₂ userCreatedAt ⟨hs₂, hd₂⟩ => ?_
    rw [Program.keeps_bind]
    refine (Store.execOnce_keeps (hs₂.trans hs₁) _).mono
      fun v₃ users ⟨hd₃, more₃, hs₃, hw₃⟩ => ?_
    rcases users with e | _
    · exact ⟨_, hs₃, fun a ha => by cases ha⟩
    · rw [Program.keeps_bind]
      refine (hids.keeps_drawn (open_of_working hs₃)).mono fun v₄ id ⟨hs₄, _, hd₄⟩ => ?_
      rw [Program.keeps_bind]
      refine ((hclock .universal).keeps_stage (open_of_working (hs₄.trans hs₃))).mono
        fun v₅ createdAt ⟨hs₅, hd₅⟩ => ?_
      rw [Program.keeps_bind]
      refine (Store.execOnce_keeps (hs₅.trans (hs₄.trans hs₃)) _).mono
        fun v₆ accounts ⟨hd₆, more₆, hs₆, hw₆⟩ => ?_
      rcases accounts with e | _
      · exact ⟨_, hs₆, fun a ha => by cases ha⟩
      · refine ⟨_, hs₆, fun a ha => ?_⟩
        cases ha
        refine ⟨?_, fun hfresh => ?_⟩
        · rw [hw₃ rfl, hw₆ rfl]
          exact Account.insertion ((account.assignUser userId userCreatedAt).assign id createdAt)
        · -- The user's identifier was the last one drawn at first, the account's at the end.
          have huser : [userId].Sublist v₃.drawn := by
            rw [hd₃]
            refine List.Sublist.trans ?_ hd₂
            rw [hd₁ hfresh]
            exact List.sublist_append_right _ _
          have hboth : [userId, id].Sublist v₄.drawn := by
            rw [hd₄ hfresh]
            exact huser.append (List.Sublist.refl [id])
          rw [hd₆]
          exact hboth.trans hd₅
  · exact ⟨[], rfl, fun a ha => by cases ha⟩

/-- A creation keeps to its protocol. -/
theorem createAccount_keeps {ids : Identifiers} {clock : Clock} (hids : ids.Quiet)
    (hclock : clock.Quiet) (account : Account) :
    (createAccount (.direct database user) ids clock account).Keeps creationProtocol
      (Standing.Yields ids) ⟨.idle, []⟩ := by
  simp only [createAccount, Program.now, Store.begin, Store.direct, Store.commit, abandon,
    Store.rollback, Program.call, Program.report, Program.ask, Program.bind_eq,
    Program.pure_eq_done, Program.perform_bind, Program.done_bind, Program.keeps_perform]
  have hopen : Stage.idle.Open := by
    intro tx writes h
    cases h
  refine ⟨hopen, fun now _ => ⟨trivial, fun begun _ => ?_⟩⟩
  cases begun with
  | error e => exact ⟨trivial, fun _ _ => ⟨_, rfl⟩⟩
  | ok tx =>
    rw [Program.keeps_bind]
    refine (insertRows_keeps hids hclock account _).mono fun v outcome => ?_
    rintro ⟨writes, hs, hw⟩
    obtain ⟨stage, drawn⟩ := v
    cases hs
    cases outcome with
    | error setback =>
      refine ⟨rfl, fun answer _ => ?_⟩
      cases answer <;> exact ⟨trivial, fun _ _ => ⟨_, rfl⟩⟩
    | ok a =>
      refine ⟨rfl, fun answer _ => ?_⟩
      cases answer with
      | error e => exact ⟨_, rfl⟩
      | ok _ => exact ⟨trivial, fun _ _ => ⟨a, rfl, hw a rfl⟩⟩

end Creation

/-! ## What an answer does to a creation and to the store -/

namespace Stage

/-- The transaction that a creation works in or has committed. -/
def transaction? : Stage → Option Transaction
  | .working tx _ | .kept tx _ => some tx
  | .idle | .over => none

/-- What a creation has committed. -/
def committed : Stage → List Observed
  | .kept _ writes => writes
  | _ => []

/-- What an answer does to the stage of the creation that gets it and to the ledger of the store,
and the transaction that it says is committed. -/
inductive Turn (l : Ledger) : Stage → Stage → Ledger → Option Transaction → Prop
  | same (s : Stage) : Turn l s s l none
  | began :
      Turn l .idle (.working ⟨l.pending.length⟩ []) { l with pending := l.pending ++ [[]] } none
  | wrote (tx : Transaction) (writes : List Observed) (x : Observed) :
      Turn l (.working tx writes) (.working tx (writes ++ [x]))
        { l with pending := l.pending.modify tx.key (· ++ [x]) } none
  | gaveUp (tx : Transaction) (writes : List Observed) (l' : Ledger)
      (h : l' = l ∨ l' = l.clear tx) :
      Turn l (.working tx writes) .over l' none
  | committed (tx : Transaction) (writes held : List Observed)
      (h : l.pending[tx.key]? = some held) :
      Turn l (.working tx writes) (.kept tx writes)
        { l.clear tx with committed := l.committed ++ held } (some tx)

/-- A call that a stage allows takes one of the turns. -/
theorem Allows.turn {s : Stage} {c : Call} {answer : c.Answer} {l l' : Ledger} (hs : s.Allows c)
    (h : l.Moved c answer l') :
    Turn l s (s.after c answer) l' (Answered.commit? ⟨.store c, answer⟩) := by
  cases h with
  | prepared within d query key => cases s <;> exact .same _
  | begun d options => cases s <;> first | exact .began | cases hs
  | written st d args affected =>
    cases s with
    | working tx writes =>
      have hwithin : st.within = some tx := hs
      rw [Ledger.write, hwithin]
      exact .wrote tx writes _
    | _ => cases hs
  | committed tx held hheld =>
    cases s with
    | working tx' writes =>
      cases hs
      exact .committed tx writes held hheld
    | _ => cases hs
  | rolledBack tx answer =>
    cases s with
    | working tx' writes =>
      cases hs
      exact .gaveUp tx writes _ (.inr rfl)
    | _ => cases hs
  | unmoved c answer hfails =>
    -- An effective call that has left the ledger alone has failed.
    cases s with
    | idle =>
      cases c with
      | begin d options =>
        cases answer with
        | ok tx => cases hfails rfl
        | error e => exact .same _
      | _ => cases hs
    | working tx writes =>
      cases c with
      | commit tx' =>
        cases answer with
        | ok _ => cases hfails rfl
        | error e => exact .gaveUp tx writes _ (.inl rfl)
      | rollback tx' => exact .gaveUp tx writes _ (.inl rfl)
      | exec st d args =>
        cases answer with
        | ok n => cases hfails rfl
        | error e => exact .same _
      | prepare within d query => exact .same _
      | queryRow st d args => exact .same _
      | close st => exact .same _
      | _ => cases hs
    | _ => cases hs

end Stage

/-- An effect that a creation may ask for takes one of the turns. -/
theorem creationProtocol_turn {v : Standing} {e : Effect} {a : e.Answer} {l l' : Ledger}
    (hv : creationProtocol.permits v e) (h : l.MovedBy ⟨e, a⟩ l') :
    Stage.Turn l v.stage (creationProtocol.after v e a).stage l' (Answered.commit? ⟨e, a⟩) := by
  cases e with
  | store c => exact Stage.Allows.turn hv h
  | _ =>
    have hl : l' = l := h
    rw [hl]
    exact .same _

/-! ## A crowd of creations -/

/-- The store holds for each creation what it is said to have written, and no two creations share a
transaction. -/
structure Holds (stages : Nat → Stage) (l : Ledger) : Prop where
  held : ∀ i tx writes, stages i = .working tx writes → l.pending[tx.key]? = some writes
  known : ∀ i tx, (stages i).transaction? = some tx → tx.key < l.pending.length
  apart : ∀ i j tx, (stages i).transaction? = some tx → (stages j).transaction? = some tx → i = j

/-- The commits so far are those of the creations that have committed, once each, and the committed
log is made of their writes. -/
structure Tally (stages : Nat → Stage) (l : Ledger) (commits : List (Nat × Transaction)) :
    Prop where
  kept_iff : ∀ i tx, (i, tx) ∈ commits ↔ ∃ writes, stages i = .kept tx writes
  once : (commits.map Prod.fst).Nodup
  committed : l.committed = commits.flatMap fun x => (stages x.1).committed

section Turns

open Function (update update_self update_of_ne update_eq_self)

variable {stages : Nat → Stage} {l l' : Ledger} {commits : List (Nat × Transaction)} {i : Nat}
  {s : Stage}

/-- What one creation has to observe for the store to hold everything of everybody afterwards. -/
theorem Holds.advance (h : Holds stages l)
    (others : ∀ j tx, j ≠ i → (stages j).transaction? = some tx →
      l'.pending[tx.key]? = l.pending[tx.key]?)
    (own : ∀ tx writes, s = .working tx writes → l'.pending[tx.key]? = some writes)
    (fresh : ∀ tx, s.transaction? = some tx →
      (stages i).transaction? = some tx ∨ l.pending.length ≤ tx.key)
    (longer : l.pending.length ≤ l'.pending.length)
    (known : ∀ tx, s.transaction? = some tx → tx.key < l'.pending.length) :
    Holds (update stages i s) l' := by
  have apart_own (j : Nat) (tx : Transaction) (hj : j ≠ i) (hs : s.transaction? = some tx) :
      (stages j).transaction? ≠ some tx := by
    intro htx
    rcases fresh tx hs with hold | hnew
    · exact hj (h.apart j i tx htx hold)
    · exact absurd (h.known j tx htx) (Nat.not_lt.mpr hnew)
  -- In each part the creation at `i` is at its new stage, and all others are where they were.
  refine ⟨fun j tx writes hj => ?_, fun j tx hj => ?_, fun j k tx hj hk => ?_⟩
  · by_cases hji : j = i
    · subst hji
      exact own tx writes (by rwa [update_self] at hj)
    · rw [update_of_ne hji] at hj
      rw [others j tx hji (by rw [hj]; rfl)]
      exact h.held j tx writes hj
  · by_cases hji : j = i
    · subst hji
      exact known tx (by rwa [update_self] at hj)
    · rw [update_of_ne hji] at hj
      exact Nat.lt_of_lt_of_le (h.known j tx hj) longer
  · by_cases hji : j = i
    · by_cases hki : k = i
      · rw [hji, hki]
      · subst hji
        rw [update_self] at hj
        rw [update_of_ne hki] at hk
        exact absurd hk (apart_own k tx hki hj)
    · rw [update_of_ne hji] at hj
      by_cases hki : k = i
      · subst hki
        rw [update_self] at hk
        exact absurd hj (apart_own j tx hji hk)
      · rw [update_of_ne hki] at hk
        exact h.apart j k tx hj hk

/-- Changing the writes of one creation's transaction leaves those of the others alone. -/
theorem Holds.modify_others (h : Holds stages l) {tx : Transaction}
    (hi : (stages i).transaction? = some tx) (f : List Observed → List Observed) (j : Nat)
    (tx' : Transaction) (hj : j ≠ i) (htx' : (stages j).transaction? = some tx') :
    (l.pending.modify tx.key f)[tx'.key]? = l.pending[tx'.key]? := by
  refine List.getElem?_modify_ne _ _ fun hkey => hj ?_
  have htx : tx = tx' := by
    cases tx
    cases tx'
    cases hkey
    rfl
  subst htx
  exact h.apart j i tx htx' hi

/-- A turn of one creation keeps together what the store holds and what creations have written. -/
theorem Holds.turn {committed : Option Transaction} (h : Holds stages l)
    (ht : Stage.Turn l (stages i) s l' committed) : Holds (update stages i s) l' := by
  generalize hi : stages i = before at ht
  cases ht with
  | same => rwa [← hi, update_eq_self]
  | began =>
    refine h.advance ?others ?own ?fresh ?longer ?known
    case others => exact fun j tx _ hj => List.getElem?_append_left (h.known j tx hj)
    case own =>
      intro tx writes hs
      cases hs
      simp
    case fresh =>
      intro tx hs
      cases hs
      exact .inr (Nat.le_refl _)
    case longer => simp
    case known =>
      intro tx hs
      cases hs
      simp
  | wrote tx writes x =>
    have htx : (stages i).transaction? = some tx := by rw [hi]; rfl
    refine h.advance (h.modify_others htx _) ?own ?fresh ?longer ?known
    case own =>
      intro tx writes hs
      cases hs
      show (l.pending.modify tx.key _)[tx.key]? = _
      rw [List.getElem?_modify_eq, h.held i tx _ hi]
      rfl
    case fresh => exact fun _ hs => .inl (htx.trans hs)
    case longer => simp
    case known =>
      intro tx hs
      cases hs
      simpa using h.known i tx htx
  | gaveUp tx writes l' hl' =>
    have htx : (stages i).transaction? = some tx := by rw [hi]; rfl
    rcases hl' with rfl | rfl
    · exact h.advance (fun _ _ _ _ => rfl) nofun nofun (Nat.le_refl _) nofun
    · refine h.advance (h.modify_others htx _) ?_ ?_ ?_ ?_
      · exact nofun
      · exact nofun
      · simp [Ledger.clear]
      · exact nofun
  | committed tx writes held hheld =>
    have htx : (stages i).transaction? = some tx := by rw [hi]; rfl
    refine h.advance (h.modify_others htx _) ?own ?fresh ?longer ?known
    case own => exact nofun
    case fresh => exact fun _ hs => .inl (htx.trans hs)
    case longer => simp [Ledger.clear]
    case known =>
      intro tx hs
      cases hs
      simpa [Ledger.clear] using h.known i tx htx

/-- Whoever is open has committed nothing. -/
theorem Tally.ne_of_open (h : Tally stages l commits) (hi : (stages i).Open) :
    ∀ x ∈ commits, x.1 ≠ i := by
  rintro ⟨j, tx⟩ hx rfl
  obtain ⟨writes, hkept⟩ := (h.kept_iff j tx).mp hx
  exact hi tx writes hkept

/-- What has been committed stays so when an open stage changes. -/
theorem Tally.committed_update (h : Tally stages l commits) (hi : (stages i).Open) (s : Stage) :
    (commits.flatMap fun x => (update stages i s x.1).committed) = l.committed := by
  rw [h.committed]
  refine List.flatMap_congr fun x hx => ?_
  rw [update_of_ne (h.ne_of_open hi x hx)]

/-- As long as a creation stays open it does not count. -/
theorem Tally.open_update (h : Tally stages l commits) (hi : (stages i).Open) (hs : s.Open)
    (hl : l'.committed = l.committed) : Tally (update stages i s) l' commits := by
  refine ⟨fun j tx => ?_, h.once, by rw [hl, h.committed_update hi]⟩
  rw [h.kept_iff]
  by_cases hj : j = i
  · subst hj
    rw [update_self]
    exact iff_of_false (fun ⟨writes, hw⟩ => hi tx writes hw) fun ⟨writes, hw⟩ => hs tx writes hw
  · rw [update_of_ne hj]

/-- A turn of one creation keeps the tally. -/
theorem Tally.turn {committed : Option Transaction} (h : Tally stages l commits)
    (hheld : Holds stages l) (ht : Stage.Turn l (stages i) s l' committed) :
    Tally (update stages i s) l' (commits ++ (committed.map (i, ·)).toList) := by
  generalize hi : stages i = before at ht
  have hopen (hbefore : before.Open) : (stages i).Open := hi ▸ hbefore
  have unchanged (h' : Tally (update stages i s) l' commits) :
      Tally (update stages i s) l'
        (commits ++ ((none : Option Transaction).map (i, ·)).toList) := by
    simpa using h'
  cases ht with
  | same =>
    refine unchanged ?_
    rwa [← hi, update_eq_self]
  | began =>
    refine unchanged (h.open_update ?_ ?_ rfl)
    · exact hopen nofun
    · exact nofun
  | wrote tx writes x =>
    refine unchanged (h.open_update ?_ ?_ rfl)
    · exact hopen nofun
    · exact nofun
  | gaveUp tx writes l' hl' =>
    have hl : l'.committed = l.committed := by rcases hl' with rfl | rfl <;> rfl
    refine unchanged (h.open_update ?_ ?_ hl)
    · exact hopen nofun
    · exact nofun
  | committed tx writes held hget =>
    have hwrites : held = writes := by
      rw [hheld.held i tx writes hi] at hget
      cases hget
      rfl
    subst hwrites
    have hopen : (stages i).Open := hopen nofun
    have hnew : ∀ tx, (i, tx) ∉ commits := fun tx hmem => h.ne_of_open hopen _ hmem rfl
    refine ⟨fun j tx' => ?_, ?_, ?_⟩
    · by_cases hj : j = i
      · subst hj
        rw [update_self]
        simp [hnew, eq_comm]
      · rw [update_of_ne hj, ← h.kept_iff]
        simp [hj]
    · simpa using List.Nodup.append h.once (List.nodup_singleton i) (by simpa using hnew)
    · rw [List.flatMap_append, h.committed_update hopen]
      simp [Stage.committed]

end Turns

/-- Programs that create an account at a store. -/
def creations (database user : String) (ids : Identifiers) (clock : Clock)
    (p : Program (Except Failure Account)) : Prop :=
  ∃ account, p = createAccount (.direct database user) ids clock account

theorem creationProtocol_expected : Crowd.Expected creationProtocol where
  of_moved {_ _ call answer} h := by
    cases h with
    | prepared within d query key => rfl
    | unmoved _ _ hfails =>
      cases call with
      | prepare within d query =>
        cases answer with
        | error e => trivial
        | ok p => cases hfails rfl
      | _ => trivial
    | _ => trivial
  of_aside {e} a he := by
    cases e with
    | store c => cases he
    | _ => trivial

namespace Crowd

variable {database user : String} {ids : Identifiers} {clock : Clock} {source : Source}
  {c c' : Crowd (Except Failure Account)}

/-- Where the creation at a place stands. -/
def standing (c : Crowd (Except Failure Account)) (i : Nat) : Standing :=
  creationProtocol.view ⟨.idle, []⟩ c.history i

/-- The identifiers that a creation has drawn are its share of those drawn by all. -/
theorem drawn_standing (i : Nat) :
    (c.standing i).drawn = (c.history.filter (·.1 = i)).filterMap (·.2.id?) := by
  unfold standing
  induction c.history using List.reverseRecOn with
  | nil => rfl
  | append_singleton history x ih =>
    obtain ⟨j, e, a⟩ := x
    rw [List.filter_append, List.filterMap_append, ← ih]
    by_cases hj : j = i
    · subst hj
      rw [creationProtocol.view_append_self]
      cases e <;> simp [creationProtocol, Answered.id?]
    · rw [creationProtocol.view_append_of_ne _ _ hj]
      simp [hj]

/-- The stages of the creations fit together with the ledger and the commits. -/
structure Balanced (c : Crowd (Except Failure Account)) : Prop where
  holds : Holds (fun i => (c.standing i).stage) c.memory.ledger
  tally : Tally (fun i => (c.standing i).stage) c.memory.ledger c.commits

theorem balanced_start : Balanced (start : Crowd (Except Failure Account)) where
  holds := ⟨nofun, nofun, nofun⟩
  tally := ⟨fun _ _ => ⟨nofun, nofun⟩, List.nodup_nil, rfl⟩

theorem Advance.balanced {joins : Program (Except Failure Account) → Prop}
    {post : Standing → Except Failure Account → Prop}
    (hc : Kept creationProtocol ⟨.idle, []⟩ post c) (h : Advance joins source c c')
    (hb : Balanced c) : Balanced c' := by
  have same (history : c'.history = c.history) (ledger : c'.memory.ledger = c.memory.ledger) :
      Balanced c' := by
    have hcommits : c'.commits = c.commits := by simp only [commits, history]
    have hstanding : c'.standing = c.standing := by
      funext i
      simp only [standing, history]
    exact ⟨by rw [hstanding, ledger]; exact hb.holds,
      by rw [hstanding, ledger, hcommits]; exact hb.tally⟩
  cases h with
  | idle rests history ledger => exact same history ledger
  | joined p h rests history ledger => exact same history ledger
  | answered i e next a asks h rests history ledger =>
    have hturn := creationProtocol_turn (hc.keeps i _ asks).1 ledger
    have hstages : (fun j => (c'.standing j).stage) = Function.update
        (fun j => (c.standing j).stage) i (creationProtocol.after (c.standing i) e a).stage := by
      funext j
      unfold standing
      rw [history]
      by_cases hj : i = j
      · subst hj
        rw [creationProtocol.view_append_self, Function.update_self]
      · rw [creationProtocol.view_append_of_ne _ _ hj, Function.update_of_ne (Ne.symm hj)]
    refine ⟨?_, ?_⟩
    · rw [hstages]
      exact hb.holds.turn hturn
    · rw [hstages, commits_append history]
      exact hb.tally.turn hb.holds hturn

theorem Reachable.kept_creations (hids : ids.Quiet) (hclock : clock.Quiet)
    (h : Reachable (creations database user ids clock) source c) :
    Kept creationProtocol ⟨.idle, []⟩ (Standing.Yields ids) c := by
  refine Reachable.kept creationProtocol_expected ?_ h
  rintro p ⟨account, rfl⟩
  exact createAccount_keeps hids hclock account

theorem Reachable.balanced (hids : ids.Quiet) (hclock : clock.Quiet)
    (h : Reachable (creations database user ids clock) source c) : Balanced c := by
  induction h with
  | refl => exact balanced_start
  | @tail b c hb hstep ih =>
    exact hstep.advance.balanced (Reachable.kept_creations hids hclock hb) ih

/-- A creation that has committed has nothing left but to return the account that it has added. -/
theorem returns_of_kept {p : Program (Except Failure Account)} {v : Standing} {tx : Transaction}
    {writes : List Observed} (h : p.Keeps creationProtocol (Standing.Yields ids) v)
    (hv : v.stage = .kept tx writes) :
    ∃ a, p.Returns (.ok a) ∧ a.Insertion writes ∧
      (ids = .fresh → [a.user.id, a.id].Sublist v.drawn) := by
  -- All that it may still ask for are reports, which leave it where it stands.
  induction p with
  | done r =>
    have hyields : v.Yields ids r := h
    unfold Standing.Yields at hyields
    rw [hv] at hyields
    obtain ⟨a, hr, hwrites, hdrawn⟩ := hyields
    exact ⟨a, hr, hwrites, hdrawn⟩
  | perform e next ih =>
    obtain ⟨hpermits, hnext⟩ := h
    cases e with
    | store call =>
      have hallows : v.stage.Allows call := hpermits
      rw [hv] at hallows
      cases hallows
    | report event =>
      obtain ⟨a, hreturns, ha⟩ := ih () (hnext () trivial)
      exact ⟨a, ⟨rfl, fun _ => hreturns⟩, ha⟩
    | observe recorder o =>
      obtain ⟨a, hreturns, ha⟩ := ih () (hnext () trivial)
      exact ⟨a, ⟨rfl, fun _ => hreturns⟩, ha⟩
    | _ => exact absurd hv (hpermits tx writes)

/-- Whoever has committed is one of the crowd. -/
theorem Kept.exists_of_mem_commits {post : Standing → Except Failure Account → Prop}
    (h : Kept creationProtocol ⟨.idle, []⟩ post c) {x : Nat × Transaction} (hx : x ∈ c.commits) :
    ∃ p, c.rests[x.1]? = some p := by
  obtain ⟨y, hy, hyx⟩ := List.mem_filterMap.mp hx
  obtain ⟨tx, _, rfl⟩ := Option.map_eq_some_iff.mp hyx
  exact ⟨_, List.getElem?_eq_getElem (h.present y hy)⟩

/-- What the store has committed for a crowd of creations: one pair of writes for each commit that
succeeded, in their order, which adds the account that the creation returns. -/
structure Accounted (c : Crowd (Except Failure Account)) (created : List Account)
    (pairs : List (List Observed)) : Prop where
  log_eq : c.memory.committed = pairs.flatten
  insertions : List.Forall₂ Account.Insertion created pairs
  returning : List.Forall₂ (fun x a => c.Returning x.1 (.ok a)) c.commits created
  apart : c.commits.Pairwise fun x y => x.1 ≠ y.1 ∧ x.2 ≠ y.2

/-- The identifiers drawn so far, each with the place of the program that drew it. -/
def draws (c : Crowd (Except Failure Account)) : List (Nat × Id) :=
  c.history.filterMap fun x => x.2.id?.map (x.1, ·)

theorem map_snd_draws (c : Crowd (Except Failure Account)) : c.draws.map Prod.snd = c.drawn := by
  simp [draws, drawn, List.map_filterMap, Function.comp_def]

theorem mem_draws {i : Nat} {id : Id} (h : id ∈ (c.standing i).drawn) : (i, id) ∈ c.draws := by
  rw [drawn_standing, List.mem_filterMap] at h
  obtain ⟨x, hx, hid⟩ := h
  obtain ⟨hmem, hi⟩ := List.mem_filter.mp hx
  exact List.mem_filterMap.mpr ⟨x, hmem, by simpa [hid] using hi⟩

theorem drawn_standing_sublist (i : Nat) : (c.standing i).drawn.Sublist c.drawn := by
  rw [drawn_standing]
  exact List.filter_sublist.filterMap _

/-- If no identifier was drawn twice, those of accounts that were added are all different. -/
theorem nodup_ids {f : Nat × Transaction → Account} (hdrawn : c.drawn.Nodup)
    (honce : (c.commits.map Prod.fst).Nodup)
    (hf : ∀ x ∈ c.commits, [(f x).user.id, (f x).id].Sublist (c.standing x.1).drawn) :
    (c.commits.flatMap fun x => [(f x).user.id, (f x).id]).Nodup := by
  rw [List.nodup_flatMap]
  -- Within an account the identifiers were drawn one after the other; those of two accounts by
  -- different creations.
  refine ⟨fun x hx => ?_, ?_⟩
  · exact ((hf x hx).trans (drawn_standing_sublist x.1)).nodup hdrawn
  · refine (List.pairwise_map.mp honce).imp_of_mem fun {x y} hx hy hne id hidx hidy => hne ?_
    have hx' := mem_draws ((hf x hx).subset hidx)
    have hy' := mem_draws ((hf y hy).subset hidy)
    rw [← map_snd_draws] at hdrawn
    exact (Prod.mk.inj (List.inj_on_of_nodup_map hdrawn hx' hy' rfl)).1

/-- No two commits are of the same creation or of the same transaction. -/
theorem Balanced.apart (h : Balanced c) :
    c.commits.Pairwise fun x y => x.1 ≠ y.1 ∧ x.2 ≠ y.2 := by
  refine (List.pairwise_map.mp h.tally.once).imp_of_mem fun {x y} hx hy hne => ⟨hne, fun heq => ?_⟩
  obtain ⟨writes, hkept⟩ := (h.tally.kept_iff x.1 x.2).mp hx
  obtain ⟨writes', hkept'⟩ := (h.tally.kept_iff y.1 y.2).mp hy
  refine hne (h.holds.apart x.1 y.1 x.2 ?_ ?_)
  · rw [hkept]
    rfl
  · rw [hkept', heq]
    rfl

end Crowd

/-! ## What is committed -/

/-- At every moment of any number of creations at one store, its committed log is made of one pair
of writes for each commit that succeeded, which adds the account that the creation returns; a
creation that has failed has no part in it, then or later; and with identifiers numbered within 64
bits, all those in the log are different. -/
theorem createAccount_committed {database user : String} {ids : Identifiers} {clock : Clock}
    (hids : ids.Quiet) (hclock : clock.Quiet) {source : Source}
    {c : Crowd (Except Failure Account)}
    (h : c.Reachable (creations database user ids clock) source) :
    (∃ created pairs, c.Accounted created pairs ∧
      ((∃ stem, source = NumberedIds.source stem) → ids = .fresh → c.drawn.length < 2 ^ 64 →
        (created.flatMap fun a => [a.user.id, a.id]).Nodup)) ∧
    ∀ i failure, c.Returned i (.error failure) →
      ∀ later, Crowd.Steps (creations database user ids clock) source c later →
        ∀ x ∈ later.commits, x.1 ≠ i := by
  have hbalanced := h.balanced hids hclock
  have hkept := h.kept_creations hids hclock
  refine ⟨?_, fun i failure hreturned later hsteps x hx heq => ?_⟩
  · have returns : ∀ x ∈ c.commits, ∃ a, c.Returning x.1 (.ok a) ∧
        a.Insertion (c.standing x.1).stage.committed ∧
        (ids = .fresh → [a.user.id, a.id].Sublist (c.standing x.1).drawn) := by
      rintro ⟨i, tx⟩ hx
      obtain ⟨writes, hstage⟩ := (hbalanced.tally.kept_iff i tx).mp hx
      obtain ⟨p, hp⟩ := hkept.exists_of_mem_commits hx
      obtain ⟨a, hreturns, hwrites, hdrawn⟩ := Crowd.returns_of_kept (hkept.keeps i p hp) hstage
      refine ⟨a, ⟨p, hp, hreturns⟩, ?_, hdrawn⟩
      rw [hstage]
      exact hwrites
    have : Nonempty Account := ⟨.new "" (.new "" "")⟩
    choose! created hcreated using returns
    refine ⟨c.commits.map created, c.commits.map fun x => (c.standing x.1).stage.committed, ?_, ?_⟩
    · refine ⟨?_, ?_, ?_, hbalanced.apart⟩
      · rw [← List.flatMap_def]
        exact hbalanced.tally.committed
      · simpa [List.forall₂_map_left_iff, List.forall₂_map_right_iff, List.forall₂_same] using
          fun x hx => (hcreated x hx).2.1
      · simpa [List.forall₂_map_right_iff, List.forall₂_same] using
          fun x hx => (hcreated x hx).1
    · rintro ⟨stem, rfl⟩ hfresh hfew
      rw [List.flatMap_map]
      refine Crowd.nodup_ids (h.nodup_drawn ?_) hbalanced.tally.once fun x hx =>
        (hcreated x hx).2.2 hfresh
      exact Nat.le_of_lt_succ hfew
  · -- A creation that has failed stays failed, and one that has committed would not fail.
    have hlater : later.Reachable (creations database user ids clock) source := h.trans hsteps
    obtain ⟨writes, hstage⟩ := ((hlater.balanced hids hclock).tally.kept_iff x.1 x.2).mp hx
    have hyields : (later.standing i).Yields ids (.error failure) :=
      (hlater.kept_creations hids hclock).keeps i _ (hsteps.returned hreturned)
    rw [← heq] at hyields
    unfold Standing.Yields at hyields
    rw [hstage] at hyields
    obtain ⟨a, ha, _⟩ := hyields
    cases ha

/-- Two accounts created one after the other make two pairs of writes with different identifiers. -/
theorem createAccount_committed_of_two :
    Identifiers.fresh.Quiet ∧ Clock.wall.Quiet ∧ ∃ c : Crowd (Except Failure Account),
      c.Reachable (creations "accounts" "svc" .fresh .wall) (NumberedIds.source "id") ∧
      c.memory.committed.length = 4 ∧
      ∃ created pairs, c.Accounted created pairs ∧
        (created.flatMap fun a => [a.user.id, a.id]).Nodup := by
  have joins (a : Account) : creations "accounts" "svc" .fresh .wall
      (createAccount (.direct "accounts" "svc") .fresh .wall a) := ⟨a, rfl⟩
  have hstart : Crowd.Mirrors "id" (Crowd.start : Crowd (Except Failure Account)) _ :=
    Crowd.mirrors_start ⟨0, 0, 0⟩
  obtain ⟨c₁, hc₁, h₁⟩ :=
    Crowd.Reachable.join_run .refl hstart (joins (.new "jdoe" (.new "John" "Doe")))
  obtain ⟨c₂, hc₂, h₂⟩ := hc₁.join_run h₁ (joins (.new "ada" (.new "Ada" "Lovelace")))
  have hdrawn : c₂.drawn.length = 4 := by
    refine (congrArg NumberedIds.drawn h₂.ids).symm.trans ?_
    rfl
  have hcommitted : c₂.memory.committed.length = 4 := by
    rw [h₂.memory]
    rfl
  obtain ⟨created, pairs, haccounted, hnodup⟩ :=
    (createAccount_committed Identifiers.fresh_quiet Clock.wall_quiet hc₂).1
  refine ⟨Identifiers.fresh_quiet, Clock.wall_quiet, c₂, hc₂, hcommitted, created, pairs,
    haccounted, ?_⟩
  exact hnodup ⟨"id", rfl⟩ rfl (by rw [hdrawn]; decide)

end UserAccounts
