import Mathlib
import UserAccounts.Account.Failure
import UserAccounts.Proofs.Json.Values

/-!
# Failures as texts

A failure is read from its own text as it was, however it was made and whatever details it was
given, with one exception: details that are `null` are written and are then read as none
(`Failure.made_reads_back`).

Of an object, exactly three members matter to the reader of failures, and each may be there once:
the category, in either of its two spellings, the message, which may not be blank, and the details.
All other members are passed over (`Failure.read_accepts`).
-/

namespace UserAccounts

open Json (Document Spelling)

/-! ## Spellings of a category -/

namespace FailureCode

/-- The two spellings of a category: its name, and an object with the name as its only key and
`null` as its value. -/
inductive SpelledBy (code : FailureCode) : Document → Prop where
  | name : SpelledBy code (.string (.whole code.name))
  | key : SpelledBy code (.object [(.whole code.name, .null)])

variable {code : FailureCode} {depth : Nat} {d : Document}

theorem ofName?_eq_some_iff {name : String} : ofName? name = some code ↔ name = code.name := by
  constructor
  · intro h
    unfold ofName? at h
    have hname := List.find?_some h
    exact (beq_iff_eq.mp hname).symm
  · rintro rfl
    cases code <;> decide

/-- A category is read from its two spellings and from nothing else. -/
theorem decode?_eq_some_iff :
    Json.decode? (depth + 1) d = some code ↔ code.SpelledBy d := by
  constructor
  · intro h
    obtain ⟨name, hname, hcode⟩ : ∃ name, d.caseName? (depth + 1) = some name ∧
        ofName? name = some code := by
      simp only [Json.decode?] at h
      split at h
      · exact ⟨_, ‹_›, h⟩
      · cases h
    rw [ofName?_eq_some_iff] at hcode
    subst hcode
    unfold Document.caseName? at hname
    split at hname
    · rw [Spelling.text?_eq_some_iff.mp hname]
      exact .name
    · rw [if_pos (Nat.succ_pos depth)] at hname
      rw [Spelling.text?_eq_some_iff.mp hname]
      exact .key
    · cases hname
  · intro h
    have hname : ofName? code.name = some code := ofName?_eq_some_iff.mpr rfl
    cases h with
    | name => exact hname
    | key => exact hname

end FailureCode

namespace Failure

/-! ## Written and read back -/

/-- The failures that can be made, before they are given details. -/
inductive Made : Failure → Prop where
  | checked {code : FailureCode} {message : String} {f : Failure}
      (h : make? code message = some f) : Made f
  | made (code : FailureCode) (message : String) : Made (make code message)
  | invalidRequest (message : String) : Made (invalidRequest message)
  | conflict (message : String) : Made (conflict message)
  | notFound (message : String) : Made (notFound message)
  | internal (message : String) : Made (internal message)

theorem details_of_make? {code : FailureCode} {message : String} {f : Failure}
    (h : make? code message = some f) : f.details = none := by
  unfold make? at h
  split at h
  · cases h
    rfl
  · cases h

theorem details_make (code : FailureCode) (message : String) :
    (make code message).details = none := by
  unfold make
  cases h : make? code message with
  | none => rfl
  | some f => exact details_of_make? h

theorem Made.details_eq {f : Failure} (h : f.Made) : f.details = none := by
  cases h with
  | checked h => exact details_of_make? h
  | made code message => exact details_make code message
  | invalidRequest message => exact details_make .invalidRequest message
  | conflict message => exact details_make .conflict message
  | notFound message => exact details_make .notFound message
  | internal message => exact details_make .internal message

/-- Of details given one after another the last are kept. -/
theorem foldl_withDetails (f : Failure) (values : List Json.Value) :
    values.foldl withDetails f = { f with details := values.getLast?.or f.details } := by
  induction values generalizing f with
  | nil => rfl
  | cons v rest ih =>
    rw [List.foldl_cons, ih]
    cases rest with
    | nil => rfl
    | cons next rest =>
      rw [List.getLast?_cons_cons, List.getLast?_eq_some_getLast (List.cons_ne_nil next rest)]
      rfl

/-- The details that are read where these were written: none in place of `null`. -/
def readDetails : Option Json.Value → Option Json.Value
  | some .null => none
  | details => details

theorem optional?_document {v : Json.Value} {depth : Nat} (h : v.isExact = true)
    (hdepth : v.document.depth ≤ depth) :
    Json.optional? depth (some v.document) = some (readDetails (some v)) := by
  have hvalue := v.value?_document h depth hdepth
  cases v with
  | null => rfl
  | number n =>
    cases n with
    | whole n => exact congrArg (Option.map some) hvalue
    | float bits => cases h
  | _ => exact congrArg (Option.map some) hvalue

theorem isWhole_encode {f : Failure} (h : ∀ v, f.details = some v → v.isExact = true) :
    (Json.encode f).isWhole = true := by
  obtain ⟨code, message, details, notBlank⟩ := f
  cases details with
  | none => rfl
  | some v =>
    show (true && (true && (v.isWhole && true))) = true
    rw [v.isWhole_of_isExact (h v rfl)]
    rfl

theorem fields?_document (f : Failure) :
    (Json.encode f).document.fields? fieldRules =
      some [some (.string (.whole f.code.name)), some (.string (.whole f.message)),
        f.details.map Json.Value.document] := by
  obtain ⟨code, message, details, notBlank⟩ := f
  cases details <;> rfl

/-- A failure is read from its own text as it was, except that details that are `null` are lost. -/
theorem read_text {f : Failure}
    (h : ∀ v, f.details = some v → v.isExact = true ∧ v.document.depth < Json.maxDepth) :
    read (Json.text f) = .ok { f with details := readDetails f.details } := by
  have hread : Document.read? (Json.text f) = some (Json.encode f).document :=
    Document.read?_compact (isWhole_encode fun v hv => (h v hv).1)
  have hcode : Json.required? 126 (some (.string (.whole f.code.name))) = some f.code :=
    FailureCode.decode?_eq_some_iff.mpr .name
  have hdetails : Json.optional? 126 (f.details.map Json.Value.document) =
      some (readDetails f.details) := by
    cases hf : f.details with
    | none => rfl
    | some v => exact optional?_document (h v hf).1 (Nat.le_of_lt_succ (h v hf).2)
  have hparts : parts? Json.maxDepth (Json.encode f).document =
      some (f.code, f.message, readDetails f.details) := by
    have hdepth : Json.maxDepth = 126 + 1 := rfl
    rw [hdepth, parts?, fields?_document]
    simp only [hcode, hdetails, Json.required?_string]
  have hmake : make? f.code f.message = some ⟨f.code, f.message, none, f.notBlank⟩ :=
    dif_pos f.notBlank
  unfold read
  rw [hread, Option.bind_some, hparts]
  simp only [hmake]

/-- A failure that was made in any way and then given any details, one after another, is read from
its own text as it is, unless the last details are `null`. Then it is read as the failure without
details. -/
theorem made_reads_back {f : Failure} (hf : f.Made) {values : List Json.Value}
    (hlast : ∀ v, values.getLast? = some v →
      v.isExact = true ∧ v.document.depth < Json.maxDepth) :
    (values.getLast? ≠ some .null →
      read (Json.text (values.foldl withDetails f)) = .ok (values.foldl withDetails f)) ∧
    (values.getLast? = some .null →
      read (Json.text (values.foldl withDetails f)) = .ok f ∧ values.foldl withDetails f ≠ f) := by
  obtain ⟨code, message, details, notBlank⟩ := f
  obtain rfl : details = none := hf.details_eq
  rw [foldl_withDetails, Option.or_none]
  have hread := read_text (f := ⟨code, message, values.getLast?, notBlank⟩) hlast
  constructor
  · intro hne
    have hkept : readDetails values.getLast? = values.getLast? := by
      unfold readDetails
      split
      · exact absurd ‹_› hne
      · rfl
    rw [hread, hkept]
  · intro hnull
    rw [hnull] at hread ⊢
    refine ⟨hread, fun heq => ?_⟩
    injection heq with _ _ hdetails
    cases hdetails

/-- Details with everything that has to be escaped, at both ends of what 64 bits hold. -/
def escapedDetails : Json.Value :=
  .object [("", .array [.whole (-9223372036854775808), .whole 18446744073709551615, .null]),
    ("\"\\\n", .object [("a", .object []), ("b", .string "\x00\u2028😀")])]

theorem made_reads_back_escapedDetails :
    (conflict "taken \"\t").Made ∧
      read (Json.text (((conflict "taken \"\t").withDetails .null).withDetails escapedDetails)) =
        .ok (((conflict "taken \"\t").withDetails .null).withDetails escapedDetails) := by
  refine ⟨.conflict _, ?_⟩
  have hexact : escapedDetails.isExact = true ∧ escapedDetails.document.depth < Json.maxDepth := by
    decide
  have hlast : ∀ v, [.null, escapedDetails].getLast? = some v →
      v.isExact = true ∧ v.document.depth < Json.maxDepth := by
    rintro v ⟨⟩
    exact hexact
  exact (made_reads_back (.conflict "taken \"\t") hlast).1 (by rintro ⟨⟩)

/-- Details that are `null` are written, but the failure that is read has none. -/
theorem null_details_read_as_none :
    Json.text ((conflict "taken").withDetails .null) =
        "\x7b\"code\":\"conflict\",\"message\":\"taken\",\"details\":null\x7d" ∧
      read (Json.text ((conflict "taken").withDetails .null)) = .ok (conflict "taken") ∧
      conflict "taken" ≠ (conflict "taken").withDetails .null := by
  refine ⟨by decide, ?_, fun h => ?_⟩
  · exact read_text (by rintro v ⟨⟩; exact ⟨rfl, by decide⟩)
  · injection h with _ _ hdetails
    cases hdetails

/-! ## What is accepted -/

variable {members : List (Spelling × Document)}

/-- The members of an object spell a failure: there is one category and one message, which is not
blank, and at most one member for details. -/
structure Spells (members : List (Spelling × Document)) : Prop where
  code : ∃ (code : FailureCode) (d : Document),
    Json.valuesAt "code" members = [d] ∧ code.SpelledBy d
  message : ∃ message : String,
    Json.valuesAt "message" members = [.string (.whole message)] ∧ Text.trim message ≠ ""
  details : (Json.valuesAt "details" members).length ≤ 1

/-- The key of a member is the name of a field of a failure. -/
def isKnown (m : Spelling × Document) : Bool :=
  fieldRules.any fun rule => rule.name == m.1.text

/-- The category and the message are the only members with their keys, and the details the only one
with theirs, if there are any. -/
theorem finds_iff {found : List (Option Document)} :
    List.Forall₂ (fun rule d => Json.FieldRule.Finds rule members d) fieldRules found ↔
      ∃ code message details, found = [some code, some message, details] ∧
        Json.valuesAt "code" members = [code] ∧ Json.valuesAt "message" members = [message] ∧
        Json.valuesAt "details" members = details.toList := by
  constructor
  · intro h
    obtain _ | ⟨hc, _ | ⟨hm, _ | ⟨hdetails, _ | _⟩⟩⟩ := h
    obtain ⟨code, rfl, hcode⟩ := Json.FieldRule.needed_finds_iff.mp hc
    obtain ⟨message, rfl, hmessage⟩ := Json.FieldRule.needed_finds_iff.mp hm
    exact ⟨code, message, _, rfl, hcode, hmessage, hdetails.1⟩
  · rintro ⟨code, message, details, rfl, hcode, hmessage, hdetails⟩
    exact .cons (Json.FieldRule.needed_finds_iff.mpr ⟨code, rfl, hcode⟩) <|
      .cons (Json.FieldRule.needed_finds_iff.mpr ⟨message, rfl, hmessage⟩) <|
      .cons ⟨hdetails, fun _ => rfl⟩ .nil

/-- The parts that are read from an object. -/
theorem parts?_eq_some_iff {depth : Nat} {code : FailureCode} {message : String}
    {details : Option Json.Value} :
    parts? (depth + 2) (.object members) = some (code, message, details) ↔
      (∀ m ∈ members, m.1.intact = true) ∧
        (∃ d, Json.valuesAt "code" members = [d] ∧ code.SpelledBy d) ∧
        Json.valuesAt "message" members = [.string (.whole message)] ∧
        ∃ found : Option Document, Json.valuesAt "details" members = found.toList ∧
          Json.optional? (depth + 1) found = some details := by
  constructor
  · intro h
    cases hfields : (Document.object members).fields? fieldRules with
    | none => simp [parts?, hfields] at h
    | some found =>
      obtain ⟨hintact, hfinds⟩ := Document.fields?_object.mp hfields
      obtain ⟨c, m, d, rfl, hc, hm, hd⟩ := finds_iff.mp hfinds
      simp only [parts?, hfields] at h
      split at h
      · rename_i hcode hmessage hdetails
        cases h
        exact ⟨hintact, ⟨c, hc, FailureCode.decode?_eq_some_iff.mp hcode⟩,
          Json.decode?_string_eq_some_iff.mp hmessage ▸ hm, d, hd, hdetails⟩
      · cases h
  · rintro ⟨hintact, ⟨c, hc, hcode⟩, hm, d, hd, hdetails⟩
    have hfields : (Document.object members).fields? fieldRules = _ :=
      Document.fields?_object.mpr ⟨hintact, finds_iff.mpr ⟨c, _, d, rfl, hc, hm, hd⟩⟩
    have hcode : Json.required? (depth + 1) (some c) = some code :=
      FailureCode.decode?_eq_some_iff.mpr hcode
    simp only [parts?, hfields, hcode, hdetails, Json.required?_string]

/-- What is read from a text is what its parts make. -/
theorem read_eq_ok_iff {text : String} {d : Document} (h : Document.read? text = some d)
    {f : Failure} :
    read text = .ok f ↔ parts? Json.maxDepth d = some (f.code, f.message, f.details) := by
  unfold read
  rw [h, Option.bind_some]
  cases hparts : parts? Json.maxDepth d with
  | none => simp
  | some parts =>
    obtain ⟨code, message, details⟩ := parts
    by_cases hblank : Text.isBlank message = false
    · obtain ⟨code', message', details', notBlank⟩ := f
      simp [make?, hblank]
    · have hne : message ≠ f.message := by
        rintro rfl
        exact hblank f.notBlank
      simp [make?, hblank, hne]

theorem isSome_optional?_iff {depth : Nat} {found : Option Document} :
    (Json.optional? depth found : Option (Option Json.Value)).isSome = true ↔
      ∀ d ∈ found.toList, d.isSound = true ∧ d.depth ≤ depth := by
  cases found with
  | none => simp [Json.optional?]
  | some d =>
    rw [Option.toList_some, List.forall_mem_singleton, ← d.isSome_value?_iff depth]
    cases d <;> simp [Json.optional?, Json.decode?, Document.value?]

theorem trim_ne_empty_iff {message : String} :
    Text.trim message ≠ "" ↔ Text.isBlank message = false := by
  rw [← Bool.not_eq_true, not_iff_not, ← Text.isEmpty_trim_iff]
  simp

/-- A failure is read from an object exactly if it spells one, all its keys are texts, and its
details can be read. -/
theorem accepts_iff {text : String} (h : Document.read? text = some (.object members)) :
    (∃ f, read text = .ok f) ↔
      Spells members ∧ (∀ m ∈ members, m.1.intact = true) ∧
        ∀ d ∈ Json.valuesAt "details" members, d.isSound = true ∧ d.depth < Json.maxDepth := by
  constructor
  · rintro ⟨f, hf⟩
    obtain ⟨hintact, hcode, hmessage, found, hfound, hdetails⟩ :=
      parts?_eq_some_iff.mp ((read_eq_ok_iff h).mp hf)
    refine ⟨⟨⟨f.code, hcode⟩, ⟨f.message, hmessage, trim_ne_empty_iff.mpr f.notBlank⟩, ?_⟩,
      hintact, ?_⟩
    · rw [hfound]
      exact Option.length_toList_le
    · rw [hfound]
      have hsome := isSome_optional?_iff.mp (Option.isSome_of_eq_some hdetails)
      exact fun d hd => ⟨(hsome d hd).1, Nat.lt_succ_of_le (hsome d hd).2⟩
  · rintro ⟨⟨⟨code, hcode⟩, ⟨message, hmessage, hblank⟩, hlength⟩, hintact, hdetails⟩
    obtain ⟨found, hfound⟩ : ∃ found : Option Document,
        Json.valuesAt "details" members = found.toList := by
      rcases hvalues : Json.valuesAt "details" members with _ | ⟨d, _ | ⟨other, rest⟩⟩
      · exact ⟨none, rfl⟩
      · exact ⟨some d, rfl⟩
      · simp [hvalues] at hlength
    rw [hfound] at hdetails
    have hreadable : ∀ d ∈ found.toList, d.isSound = true ∧ d.depth ≤ 126 := fun d hd =>
      ⟨(hdetails d hd).1, Nat.le_of_lt_succ (hdetails d hd).2⟩
    obtain ⟨details, hread⟩ := Option.isSome_iff_exists.mp (isSome_optional?_iff.mpr hreadable)
    refine ⟨⟨code, message, details, trim_ne_empty_iff.mp hblank⟩, (read_eq_ok_iff h).mpr ?_⟩
    exact parts?_eq_some_iff.mpr ⟨hintact, hcode, hmessage, found, hfound, hread⟩

/-- Members under unknown keys are passed over. -/
theorem parts?_filter (hintact : ∀ m ∈ members, m.1.intact = true) (depth : Nat) :
    parts? depth (.object (members.filter isKnown)) = parts? depth (.object members) := by
  have hknown : ∀ rule ∈ fieldRules,
      Json.valuesAt rule.name (members.filter isKnown) = Json.valuesAt rule.name members := by
    intro rule hrule
    refine Json.valuesAt_filter fun m hm => List.any_eq_true.mpr ⟨rule, hrule, ?_⟩
    exact beq_iff_eq.mpr hm.symm
  have hfields : (Document.object (members.filter isKnown)).fields? fieldRules =
      (Document.object members).fields? fieldRules := by
    have hall : (members.all fun m => m.1.intact) = true := List.all_eq_true.mpr hintact
    have hfilter : ((members.filter isKnown).all fun m => m.1.intact) = true :=
      List.all_eq_true.mpr fun m hm => hintact m (List.mem_of_mem_filter hm)
    rw [Document.fields?, Document.fields?, if_pos hall, if_pos hfilter,
      Json.fieldsOfMembers?_congr hknown]
  cases depth with
  | zero => rfl
  | succ depth => rw [parts?, parts?, hfields]

/-- What is read as a failure among texts that hold an object. Such a text is accepted exactly if
its members spell a failure, all its keys are texts, and its details, if any, are sound and not too
deep; so for an object that is sound and not too deep as a whole it matters only whether it spells a
failure. Members under other keys change nothing, not even what is read. -/
theorem read_accepts {text : String} (h : Document.read? text = some (.object members)) :
    ((∃ f, read text = .ok f) ↔
      Spells members ∧ (∀ m ∈ members, m.1.intact = true) ∧
        ∀ d ∈ Json.valuesAt "details" members, d.isSound = true ∧ d.depth < Json.maxDepth) ∧
    ((Document.object members).isSound = true →
      (Document.object members).depth ≤ Json.maxDepth →
      ((∃ f, read text = .ok f) ↔ Spells members)) ∧
    ((∀ m ∈ members, m.1.intact = true) → ∀ other,
      Document.read? other = some (.object (members.filter isKnown)) →
      read other = read text) := by
  refine ⟨accepts_iff h, fun hsound hdepth => ?_, fun hintact other hother => ?_⟩
  · rw [accepts_iff h, and_iff_left_iff_imp]
    intro _
    rw [Document.isSound] at hsound
    rw [Document.depth] at hdepth
    refine ⟨fun m hm => (Json.sound_of_mem hsound hm).1, fun d hd => ?_⟩
    obtain ⟨m, hm, -, rfl⟩ := Json.mem_of_mem_valuesAt hd
    have hle := Json.depth_le_membersDepth hm
    exact ⟨(Json.sound_of_mem hsound hm).2, by omega⟩
  · unfold read
    rw [h, hother, Option.bind_some, Option.bind_some, parts?_filter hintact]

/-- A failure whose members are in another order, some others among them, and whose category is
spelled as a key. -/
def reordered (others : List (String × Json.Value)) : Json.Value :=
  .object <| [("details", .null), ("message", .string " taken\n")] ++ others ++
    [("code", .object [("conflict", .null)])]

theorem read_accepts_reordered :
    (∃ f, read (reordered [("note", .array [])]).compact = .ok f) ∧
      read (reordered []).compact = read (reordered [("note", .array [])]).compact := by
  have h : Document.read? (reordered [("note", .array [])]).compact =
      some (reordered [("note", .array [])]).document := Document.read?_compact rfl
  obtain ⟨-, haccepts, hfilter⟩ := read_accepts h
  constructor
  · refine (haccepts rfl (by decide)).mpr ⟨⟨.conflict, _, rfl, .key⟩, ?_, by decide⟩
    exact ⟨" taken\n", rfl, by decide⟩
  · exact hfilter (by decide) _ (Document.read?_compact rfl)

/-- A text with a key that failures do not have. -/
def extendedText : String :=
  "\x7b\"code\":\"conflict\",\"message\":\"taken\",\"extra\":null\x7d"

/-- A key that failures do not have does not keep an object from being accepted. -/
theorem unknown_key_accepted :
    ∃ members, Document.read? extendedText = some (.object members) ∧
      (Document.object members).isSound = true ∧ (Document.object members).depth ≤ 100 ∧
      members.all isKnown = false ∧ read extendedText = .ok (conflict "taken") := by
  let extended : Json.Value :=
    .object [("code", .string "conflict"), ("message", .string "taken"), ("extra", .null)]
  have htext : extendedText = extended.compact := by decide
  have h : Document.read? extendedText = some extended.document :=
    htext ▸ Document.read?_compact rfl
  exact ⟨_, h, rfl, by decide, by decide, (read_eq_ok_iff h).mpr rfl⟩

end Failure

end UserAccounts
