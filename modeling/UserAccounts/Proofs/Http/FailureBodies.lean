import Mathlib
import UserAccounts.Proofs.Account.FailureText
import UserAccounts.Proofs.Account.Outcome
import UserAccounts.Proofs.Http.Secrecy
import UserAccounts.Proofs.Json.Transcripts

/-!
# Failures and the bodies of their responses

`Failure.Reachable` lists the ways in which a failure comes about: it is made and given details, it
is read from a text, an operation of the service fails with it, or it stands for a failure of the
HTTP layer. On each of these ways

* a message is kept as it is unless it is blank (`Failure.make?_eq_some_iff`,
  `Failure.message_make`, `Failure.exists_read_iff`);
* the details are values that can be written and read again (`Failure.Reachable.isBounded`), since
  the service puts no numbers among them and the reader gives no others;

and so the body of the response to a failure is read as a failure again
(`Failure.reachable_explained`).
-/

namespace UserAccounts

open Json (Document Spelling)

namespace Failure

variable {code : FailureCode} {message : String} {f : Failure}

/-! ## Messages -/

/-- A message is taken as it is, unless it is blank. -/
theorem make?_eq_some_iff : make? code message = some f ↔
    Text.trim message ≠ "" ∧ f.code = code ∧ f.message = message ∧ f.details = none := by
  obtain ⟨code', message', details, notBlank⟩ := f
  unfold make?
  rw [trim_ne_empty_iff]
  split_ifs with hblank
  · simp [hblank, eq_comm]
  · simp [hblank]

theorem message_make (code : FailureCode) (message : String) : (make code message).message =
    if Text.trim message = "" then fallbackMessage else message := by
  unfold make make?
  by_cases hblank : Text.isBlank message = false
  · rw [dif_pos hblank, if_neg (trim_ne_empty_iff.mpr hblank)]
    rfl
  · rw [dif_neg hblank, if_pos (not_not.mp (mt trim_ne_empty_iff.mp hblank))]
    rfl

/-- A failure is read from the parts of one, unless its message is blank. -/
theorem exists_read_iff {text : String} {d : Document} {details : Option Json.Value}
    (htext : Document.read? text = some d)
    (hparts : parts? Json.maxDepth d = some (code, message, details)) :
    (∃ f, read text = .ok f) ↔ Text.trim message ≠ "" := by
  constructor
  · rintro ⟨f, hf⟩
    have hsame := (read_eq_ok_iff htext).mp hf
    rw [hparts] at hsame
    cases hsame
    exact trim_ne_empty_iff.mpr f.notBlank
  · intro hne
    exact ⟨⟨code, message, details, trim_ne_empty_iff.mp hne⟩, (read_eq_ok_iff htext).mpr hparts⟩

/-! ## Details -/

/-- The details of a failure, if it has any, are bounded. -/
def IsBounded (f : Failure) : Prop := ∀ v ∈ f.details, v.isBounded = true

theorem isBounded_of_none (h : f.details = none) : f.IsBounded := by
  intro v hv
  rw [h] at hv
  cases hv

theorem isBounded_make (code : FailureCode) (message : String) : (make code message).IsBounded :=
  isBounded_of_none (details_make code message)

theorem isBounded_withDetails (f : Failure) {v : Json.Value} (h : v.isBounded = true) :
    (f.withDetails v).IsBounded := by
  rintro w ⟨⟩
  exact h

theorem isBounded_of_creation (h : CreationFailure f) : f.IsBounded := by
  cases h with
  | store action e => exact isBounded_make _ _
  | taken username => exact isBounded_withDetails _ rfl
  | rollback cause e => exact isBounded_withDetails _ rfl

theorem isBounded_of_listing (h : ListingFailure f) : f.IsBounded := by
  cases h with
  | @position n _ h =>
    unfold positionValue at h
    split_ifs at h
    cases h
    exact isBounded_make _ _
  | store action e => exact isBounded_make _ _
  | @count n _ h =>
    unfold countValue at h
    split_ifs at h
    cases h
    exact isBounded_make _ _

theorem isBounded_of_search (h : SearchFailure f) : f.IsBounded := by
  cases h with
  | store action e => exact isBounded_make _ _
  | missing => exact isBounded_make _ _

theorem optional?_some {depth : Nat} {d : Document} (h : d ≠ .null) :
    (Json.optional? depth (some d) : Option (Option Json.Value)) =
      (d.value? depth).map some := by
  cases d with
  | null => exact absurd rfl h
  | _ => rfl

theorem isBounded_of_optional? {depth : Nat} {found : Option Document}
    {details : Option Json.Value} (h : Json.optional? depth found = some details) :
    ∀ v ∈ details, v.isBounded = true := by
  rintro v ⟨⟩
  cases found with
  | none => cases h
  | some d =>
    by_cases hd : d = .null
    · subst hd
      cases h
    · rw [optional?_some hd] at h
      obtain ⟨w, hw, heq⟩ := Option.map_eq_some_iff.mp h
      cases heq
      exact d.isBounded_value? hw

/-- The details that are read are bounded. -/
theorem isBounded_of_read {text : String} (h : read text = .ok f) : f.IsBounded := by
  cases htext : Document.read? text with
  | none => simp [read, htext] at h
  | some d =>
    have hparts := (read_eq_ok_iff htext).mp h
    unfold parts? at hparts
    split at hparts
    · cases hparts
    · split at hparts
      · split at hparts
        · rename_i hdetails
          cases hparts
          exact isBounded_of_optional? hdetails
        · cases hparts
      · cases hparts

end Failure

/-! ## How failures come about -/

/-- The services over a store of any kind, with and without reports of their calls. -/
inductive Service.OverStore : Service → Prop where
  | ofStore (store : Store) (ids : Identifiers) (clock : Clock) :
      OverStore (.ofStore store ids clock)
  | logged {service : Service} (h : service.OverStore) (reporter : Clock) :
      OverStore (service.logged reporter)

theorem Service.OverStore.gives {service : Service} (h : service.OverStore) :
    service.Gives fun _ => True := by
  induction h with
  | ofStore store ids clock => exact ofStore_gives store clock ids.fit_true
  | logged _ reporter ih => exact ih.logged reporter

/-- What comes of an operation in a run, on any machine. -/
theorem Program.Gives.run_eq {α σ : Type} {p : Program α} {post : α → Prop}
    (hp : p.Gives (fun _ => True) post) {m : Machine σ} {s : σ} {a : α} (h : (p.run m s).1 = a) :
    post a :=
  h ▸ hp.run m fun _ _ _ _ => trivial

namespace Failure

/-- The failures that come about: those that are made, with any details that are given to them,
those that are read from a text, those that the operations of a service fail with, whatever the
store and the world do, and those that stand for failures of the HTTP layer. -/
inductive Reachable : Failure → Prop where
  | made {f : Failure} (h : f.Made) : Reachable f
  | withDetails {f : Failure} (h : Reachable f) {v : Json.Value} (hv : v.isBounded = true) :
      Reachable (f.withDetails v)
  | read {text : String} {f : Failure} (h : read text = .ok f) : Reachable f
  | create {service : Service} (hservice : service.OverStore) {account : Account} {σ : Type}
      {m : Machine σ} {s : σ} {f : Failure}
      (h : ((service.create account).run m s).1 = .error f) : Reachable f
  | list {service : Service} (hservice : service.OverStore) {window : Window} {σ : Type}
      {m : Machine σ} {s : σ} {f : Failure}
      (h : ((service.list window).run m s).1 = .error f) : Reachable f
  | find {service : Service} (hservice : service.OverStore) {id : Id} {σ : Type}
      {m : Machine σ} {s : σ} {f : Failure}
      (h : ((service.find id).run m s).1 = .error f) : Reachable f
  | promoted (cause : String) {σ : Type} (m : Machine σ) (s : σ) :
      Reachable ((Http.promote cause).run m s).1

variable {f : Failure}

theorem Reachable.isBounded (h : f.Reachable) : f.IsBounded := by
  cases h with
  | made h => exact isBounded_of_none h.details_eq
  | withDetails h hv => exact isBounded_withDetails _ hv
  | read h => exact isBounded_of_read h
  | create hservice h =>
    exact isBounded_of_creation (((hservice.gives.create _).run_eq h).2 f rfl)
  | list hservice h =>
    exact isBounded_of_listing (((hservice.gives.list _).run_eq h).1 f rfl)
  | find hservice h => exact isBounded_of_search ((hservice.gives.find _).run_eq h f rfl)
  | promoted cause m s => exact isBounded_make _ _

/-! ## Bodies -/

theorem read_text_of_isBounded (h : f.IsBounded)
    (hdepth : ∀ v ∈ f.details, v.depth < Json.maxDepth) :
    ∃ f', read (Json.text f) = .ok f' ∧ f'.code = f.code ∧ f'.message = f.message := by
  have hread : Document.read? (Json.text f) = some (Json.encode f).transcript :=
    (Json.encode f).readAs_transcript.read?
  obtain ⟨code, message, details, notBlank⟩ := f
  have hdocument : (Json.encode (Failure.mk code message details notBlank)).transcript =
      .object ([(Spelling.whole "code", Document.string (.whole code.name)),
        (Spelling.whole "message", Document.string (.whole message))] ++
          (details.map fun v => (Spelling.whole "details", v.transcript)).toList) := by
    cases details <;> rfl
  have hmax : Json.maxDepth = 125 + 2 := rfl
  have hreadable : ∀ d ∈ (details.map Json.Value.transcript).toList,
      d.isSound = true ∧ d.depth ≤ 126 := by
    intro d hd
    obtain ⟨v, hv, rfl⟩ := Option.map_eq_some_iff.mp (Option.mem_toList.mp hd)
    have hv' := hdepth v hv
    rw [← v.depth_transcript] at hv'
    exact ⟨v.isSound_transcript (h v hv), Nat.le_of_lt_succ hv'⟩
  -- The details may be read as other ones: `null` as none, members sorted, fractions rounded.
  obtain ⟨details', hdetails⟩ := Option.isSome_iff_exists.mp (isSome_optional?_iff.mpr hreadable)
  refine ⟨⟨code, message, details', notBlank⟩, ?_, rfl, rfl⟩
  rw [read_eq_ok_iff hread, hdocument, hmax, parts?_eq_some_iff]
  refine ⟨?_, ⟨_, ?_, .name⟩, ?_, _, ?_, hdetails⟩
  · cases details <;> simp [Spelling.whole]
  all_goals cases details <;> rfl

end Failure

namespace Http

/-- The report of an internal failure changes nothing about its response. -/
theorem run_respondToFailure {σ : Type} (f : Failure) (m : Machine σ) (s : σ) :
    ((respondToFailure f).run m s).1 = failureResponse f := by
  unfold respondToFailure
  cases f.code <;> rfl

theorem redacted_of_ne {f : Failure} (h : f.code ≠ .internal) : redacted f = f := by
  unfold redacted
  split
  · exact absurd ‹_› h
  · rfl

theorem redacted_of_eq {f : Failure} (h : f.code = .internal) :
    redacted f = .internal fallbackMessage := by
  unfold redacted
  rw [h]

/-- The body of the response to a failure with bounded details is read as a failure of the same
category. -/
theorem failureResponse_read {f : Failure} (h : f.IsBounded)
    (hdepth : f.code ≠ .internal → ∀ v ∈ f.details, v.depth < Json.maxDepth) :
    ∃ f', Failure.read (failureResponse f).body = .ok f' ∧ f'.code = f.code ∧
      (f.code ≠ .internal → f'.message = f.message) := by
  show ∃ f', Failure.read (Json.text (redacted f)) = .ok f' ∧ _
  by_cases hinternal : f.code = .internal
  · rw [redacted_of_eq hinternal]
    have hnone : (Failure.internal fallbackMessage).details = none := Failure.details_make _ _
    obtain ⟨f', hread, hcode, -⟩ := Failure.read_text_of_isBounded
      (Failure.isBounded_of_none hnone) (by rw [hnone]; nofun)
    have hsame : f'.code = f.code := by
      rw [hcode, hinternal]
      exact Failure.code_make _ _
    exact ⟨f', hread, hsame, fun hne => absurd hinternal hne⟩
  · rw [redacted_of_ne hinternal]
    obtain ⟨f', hread, hcode, hmessage⟩ := Failure.read_text_of_isBounded h (hdepth hinternal)
    exact ⟨f', hread, hcode, fun _ => hmessage⟩

end Http

/-- No failure is left unexplained. A blank message is refused, by the checked constructor and by
the reader, or the fallback is put in its place, and any other message is kept as it is. However a
failure comes about, its message is not blank, and the body of the response to it is read as a
failure again, of the same category and, unless that is internal, with the same message. Only
details that are too deep for the reader could prevent this, and of an internal failure there are
none in the body. -/
theorem Failure.reachable_explained :
    (∀ (code : FailureCode) (message : String),
      (∀ f, make? code message = some f ↔
        Text.trim message ≠ "" ∧ f.code = code ∧ f.message = message ∧ f.details = none) ∧
      (make code message).code = code ∧
      (make code message).message =
        if Text.trim message = "" then fallbackMessage else message) ∧
    (∀ {text : String} {d : Document} {code : FailureCode} {message : String}
      {details : Option Json.Value}, Document.read? text = some d →
      parts? Json.maxDepth d = some (code, message, details) →
        ((∃ f, read text = .ok f) ↔ Text.trim message ≠ "")) ∧
    ∀ f : Failure, f.Reachable →
      Text.trim f.message ≠ "" ∧
        ((f.code ≠ .internal → ∀ v ∈ f.details, v.depth < Json.maxDepth) →
          ∀ {σ : Type} (m : Machine σ) (s : σ),
            let response := ((Http.respondToFailure f).run m s).1
            ∃ f', read response.body = .ok f' ∧ f'.code = f.code ∧
              (f.code ≠ .internal → f'.message = f.message)) := by
  refine ⟨fun code message => ⟨fun f => make?_eq_some_iff, code_make code message,
    message_make code message⟩, exists_read_iff,
    fun f hf => ⟨trim_ne_empty_iff.mpr f.notBlank, ?_⟩⟩
  intro hdepth σ m s response
  have hresponse : response = Http.failureResponse f := Http.run_respondToFailure f m s
  rw [hresponse]
  exact Http.failureResponse_read hf.isBounded hdepth

/-- Details with the largest number of double precision, the least positive one and a zero with a
sign. -/
def Failure.extremeDetails : Json.Value :=
  .object [("limits", .array [.number (.float 0x7FEFFFFFFFFFFFFF), .number (.float 1),
    .number (.float 0x8000000000000000)]), ("", .array [.array [], .null])]

/-- The response to a conflict with such details, whose message begins with a blank that stays, and
the refusal of a text with nothing but this blank for a message. -/
theorem Failure.reachable_explained_of_extremeDetails :
    let f := (conflict "\u00a0taken").withDetails extremeDetails
    let start := (Memory.empty, World.start () ⟨0, 0, 0⟩ "id")
    let response := ((Http.respondToFailure f).run World.surroundings.machine start).1
    f.Reachable ∧ (∀ v ∈ f.details, v.depth ≤ 100) ∧
      (∃ f', read response.body = .ok f' ∧ f'.code = .conflict ∧ f'.message = "\u00a0taken") ∧
      ¬ ∃ f, read "[\"conflict\",\"\u00a0\",null]" = .ok f := by
  intro f start response
  obtain ⟨-, hreads, hexplained⟩ := reachable_explained
  have hreachable : f.Reachable := .withDetails (.made (.conflict _)) rfl
  have hdepth : ∀ v ∈ f.details, v.depth = 3 := by
    rintro v ⟨⟩
    rfl
  have hcode : f.code = .conflict := code_make _ _
  obtain ⟨-, hread⟩ := hexplained f hreachable
  obtain ⟨f', hok, hsame, hmessage⟩ :=
    hread (fun _ v hv => by rw [hdepth v hv]; decide) World.surroundings.machine start
  have hkept : f'.message = "\u00a0taken" := by
    rw [hmessage (by rw [hcode]; decide)]
    decide
  let blank : Json.Value := .array [.string "conflict", .string "\u00a0", .null]
  have htext : Document.read? "[\"conflict\",\"\u00a0\",null]" = some blank.document :=
    Document.read?_compact (v := blank) rfl
  have hparts : parts? Json.maxDepth blank.document = some (.conflict, "\u00a0", none) := rfl
  refine ⟨hreachable, fun v hv => by rw [hdepth v hv]; decide,
    ⟨f', hok, hsame.trans hcode, hkept⟩, ?_⟩
  rw [hreads htext hparts]
  decide

end UserAccounts
