import Mathlib
import UserAccounts.Proofs.Http.Tracking
import UserAccounts.Proofs.Text.Decoding

/-!
# Request identifiers from service to service

A text is a request identifier exactly if what is left of it without white space at its ends is a
token (`RequestId.parse_eq_ok_iff`, `RequestId.isToken_iff`). Length is counted in bytes before the
characters are looked at, but a text of token characters has as many bytes as characters.

Nothing in a token is white space and all of it may stand in a header, so an identifier is read from
its own text as it is, and so is one that stands in the header of a request
(`Request.id?_passing`). Services that hand a request on, each under the identifier that it was
served with, therefore all serve it under the identifier of the first (`relay_keeps`).
-/

namespace UserAccounts

/-! ## Tokens -/

/-- A text of 1 to 128 characters, each of them a letter or a digit of ASCII or one of five
marks. -/
structure IsToken (s : String) : Prop where
  length : 1 ≤ s.length ∧ s.length ≤ 128
  chars : ∀ c ∈ s.toList, ('A' ≤ c ∧ c ≤ 'Z') ∨ ('a' ≤ c ∧ c ≤ 'z') ∨ ('0' ≤ c ∧ c ≤ '9') ∨
    c ∈ ['-', '_', '.', ':', '~']

theorem isTokenChar_iff {c : Char} :
    isTokenChar c = true ↔ ('A' ≤ c ∧ c ≤ 'Z') ∨ ('a' ≤ c ∧ c ≤ 'z') ∨ ('0' ≤ c ∧ c ≤ '9') ∨
      c ∈ ['-', '_', '.', ':', '~'] := by
  have halpha : c.isAlphanum = true ↔
      ('A' ≤ c ∧ c ≤ 'Z') ∨ ('a' ≤ c ∧ c ≤ 'z') ∨ ('0' ≤ c ∧ c ≤ '9') := by
    simp only [Char.isAlphanum, Char.isAlpha, Char.isUpper, Char.isLower, Char.isDigit,
      Bool.or_eq_true, Bool.and_eq_true, decide_eq_true_eq, or_assoc]
    rfl
  simp only [isTokenChar, Bool.or_eq_true, beq_iff_eq, halpha, List.mem_cons, List.not_mem_nil,
    or_false, or_assoc]

/-- Token characters are visible. -/
theorem toNat_of_isTokenChar {c : Char} (h : isTokenChar c = true) :
    0x2D ≤ c.toNat ∧ c.toNat < 0x7F := by
  rcases isTokenChar_iff.mp h with ⟨low, high⟩ | ⟨low, high⟩ | ⟨low, high⟩ | hmark
  · have hlow : 0x41 ≤ c.toNat := low
    have hhigh : c.toNat ≤ 0x5A := high
    omega
  · have hlow : 0x61 ≤ c.toNat := low
    have hhigh : c.toNat ≤ 0x7A := high
    omega
  · have hlow : 0x30 ≤ c.toNat := low
    have hhigh : c.toNat ≤ 0x39 := high
    omega
  · fin_cases hmark <;> decide

theorem isBlankChar_of_isTokenChar {c : Char} (h : isTokenChar c = true) :
    Text.isBlankChar c = false := by
  obtain ⟨low, high⟩ := toNat_of_isTokenChar h
  simp only [← Bool.not_eq_true, Text.isBlankChar, Bool.or_eq_true, Bool.and_eq_true,
    decide_eq_true_eq, beq_iff_eq]
  omega

/-- Characters that are to be kept are kept at the ends, too. -/
theorem Text.stripChars_eq_self {p : Char → Bool} {cs : List Char} (h : ∀ c ∈ cs, p c = false) :
    stripChars p cs = cs := by
  have hkeep {ds : List Char} (hds : ∀ c ∈ ds, p c = false) : ds.dropWhile p = ds := by
    cases ds with
    | nil => rfl
    | cons c rest => rw [List.dropWhile_cons, hds c List.mem_cons_self, if_neg Bool.false_ne_true]
  unfold stripChars
  rw [hkeep h, hkeep fun c hc => h c (List.mem_reverse.mp hc), List.reverse_reverse]

namespace RequestId

variable {s : String} {id : RequestId}

theorem isTokenChar_of_mem {c : Char} (h : c ∈ id.text.toList) : isTokenChar c = true :=
  List.all_eq_true.mp id.isToken.2.2 c h

theorem utf8ByteSize_text (id : RequestId) : id.text.utf8ByteSize = id.text.toList.length := by
  simpa using utf8ByteSize_ofList_of_all id.isToken.2.2

theorem trim_text (id : RequestId) : Text.trim id.text = id.text := by
  unfold Text.trim
  rw [Text.stripChars_eq_self fun c hc => isBlankChar_of_isTokenChar (isTokenChar_of_mem hc),
    String.ofList_toList]

/-- What is read is the text without white space at its ends, if that is an identifier. -/
theorem parse_eq_ok_iff : parse s = .ok id ↔ id.text = Text.trim s := by
  refine ⟨text_of_parse, fun h => ?_⟩
  obtain ⟨hne, hlength, hchars⟩ := id.isToken
  have hlong : ¬ maxLength < id.text.utf8ByteSize := by
    rw [utf8ByteSize_text]
    exact Nat.not_lt.mpr hlength
  unfold parse
  dsimp only
  rw [dif_neg (h ▸ hne), dif_neg (h ▸ hlong), dif_pos (h ▸ hchars)]
  cases id
  cases h
  rfl

theorem parse_text (id : RequestId) : parse id.text = .ok id :=
  parse_eq_ok_iff.mpr id.trim_text.symm

/-- The tokens are the texts of identifiers. -/
theorem isToken_iff : IsToken s ↔ ∃ id : RequestId, id.text = s := by
  constructor
  · rintro ⟨⟨hone, hmax⟩, hchars⟩
    rw [← String.length_toList] at hone hmax
    have hne : s.toList ≠ [] := List.ne_nil_of_length_pos hone
    exact ⟨⟨s, hne, hmax, List.all_eq_true.mpr fun c hc => isTokenChar_iff.mpr (hchars c hc)⟩, rfl⟩
  · rintro ⟨⟨text, hne, hmax, hchars⟩, rfl⟩
    refine ⟨?_, fun c hc => isTokenChar_iff.mp (List.all_eq_true.mp hchars c hc)⟩
    rw [← String.length_toList]
    exact ⟨List.length_pos_of_ne_nil hne, hmax⟩

/-- Whatever random words it is made of, a UUID is an identifier. -/
theorem exists_text_uuid (a b : UInt64) :
    ∃ id : RequestId, id.text = String.ofList (uuidChars a b) := by
  refine isToken_iff.mp ⟨?_, fun c hc => ?_⟩
  · rw [String.length_ofList, length_uuidChars]
    decide
  · rw [String.toList_ofList] at hc
    exact isTokenChar_iff.mp (List.all_eq_true.mp (all_isTokenChar_uuidChars a b) c hc)

end RequestId

namespace Http

/-! ## Identifiers in headers -/

theorem toNat_byte_of_isTokenChar {c : Char} (h : isTokenChar c = true) :
    (UInt8.ofNat c.toNat).toNat = c.toNat := by
  have hvisible := toNat_of_isTokenChar h
  rw [UInt8.toNat_ofNat']
  omega

theorem isHeaderTextByte_of_isTokenChar {c : Char} (h : isTokenChar c = true) :
    isHeaderTextByte (UInt8.ofNat c.toNat) = true := by
  obtain ⟨low, high⟩ := toNat_of_isTokenChar h
  simp only [isHeaderTextByte, toNat_byte_of_isTokenChar h, Bool.or_eq_true, Bool.and_eq_true,
    decide_eq_true_eq, beq_iff_eq]
  omega

theorem isHeaderValue_requestId (id : RequestId) : isHeaderValue id.text = true := by
  refine List.all_eq_true.mpr fun c hc => ?_
  obtain ⟨low, high⟩ := toNat_of_isTokenChar (RequestId.isTokenChar_of_mem hc)
  simp only [Bool.or_eq_true, Bool.and_eq_true, decide_eq_true_eq, bne_iff_ne, beq_iff_eq]
  omega

/-- The bytes of an identifier in a header are read as its text. -/
theorem text?_encode (name : String) (id : RequestId) :
    (Header.mk name (Text.Utf8.encode id.text)).text? = some id.text := by
  have hascii : ∀ c ∈ id.text.toList, c.toNat < 0x80 := fun c hc =>
    RequestId.toNat_lt_of_isTokenChar (RequestId.isTokenChar_of_mem hc)
  have hbytes : Text.Utf8.encode id.text = id.text.toList.map fun c => UInt8.ofNat c.toNat := by
    rw [Text.Utf8.encode_eq, List.flatMap_congr fun c hc =>
      Text.Utf8.utf8EncodeChar_ascii (hascii c hc), ← List.map_eq_flatMap]
  have hall : (Text.Utf8.encode id.text).all isHeaderTextByte = true := by
    rw [hbytes, List.all_map, List.all_eq_true]
    exact fun c hc => isHeaderTextByte_of_isTokenChar (RequestId.isTokenChar_of_mem hc)
  have hchars : (Text.Utf8.encode id.text).map (fun b => Char.ofNat b.toNat) = id.text.toList := by
    rw [hbytes, List.map_map]
    refine (List.map_congr_left fun c hc => ?_).trans (List.map_id _)
    show Char.ofNat (UInt8.ofNat c.toNat).toNat = c
    rw [toNat_byte_of_isTokenChar (RequestId.isTokenChar_of_mem hc), Char.ofNat_toNat]
  unfold Header.text?
  rw [if_pos hall, hchars, String.ofList_toList]

/-- The request with a text as the value of the header for identifiers. -/
def Request.passing (r : Request) (text : String) : Request :=
  { r with headers := ⟨requestIdHeader, Text.Utf8.encode text⟩ :: r.headers }

theorem Request.id?_passing (r : Request) (id : RequestId) :
    (r.passing id.text).id? = some id := by
  have hname : (requestIdHeader.toLower == requestIdHeader) = true := by decide +kernel
  have hheader : (r.passing id.text).header? requestIdHeader =
      some ⟨requestIdHeader, Text.Utf8.encode id.text⟩ := List.find?_cons_of_pos hname
  unfold Request.id?
  rw [hheader, Option.bind_some, text?_encode]
  dsimp only
  rw [RequestId.parse_text]
  rfl

theorem Response.header?_withHeader_self (response : Response) (name value : String) :
    (response.withHeader name value).header? name = some value := by
  unfold withHeader header?
  induction response.headers with
  | nil => simp
  | cons header rest ih =>
    by_cases hname : header.1 = name
    · rw [List.filter_cons_of_neg (by simp [hname])]
      exact ih
    · rw [List.filter_cons_of_pos (by simp [hname]), List.cons_append, List.lookup_cons,
        beq_false_of_ne (Ne.symm hname)]
      exact ih

/-! ## From service to service -/

/-- A service that a request comes to: the request as it would be on its own, and how the service
handles what it gets. -/
structure Hop where
  request : Request
  handler : Request → Program Response

/-- Serve a request at a service. -/
def Hop.serve (hop : Hop) (r : Request) : Program Response :=
  respondTracked r (hop.handler r)

/-- Services one after the other, each of which gets the identifier that the response of the one
before it carries. These are their responses. -/
def relay {σ : Type} (m : Machine σ) : List Hop → Response → σ → List Response
  | [], _, _ => []
  | hop :: rest, before, s =>
    let r := hop.request.passing ((before.header? requestIdHeader).getD "")
    let served := (hop.serve r).run m s
    served.1 :: relay m rest served.1 served.2

section Relaying

variable {σ : Type} (m : Machine σ)

/-- A response carries the identifier that its request was served under. -/
theorem Hop.header?_serve (hop : Hop) (r : Request) (s : σ) :
    ((hop.serve r).run m s).1.header? requestIdHeader = some (r.identify.run m s).1.text := by
  obtain ⟨entered, started, finished, hrun, -⟩ := respondTracked_runs r (hop.handler r) m s
  unfold Hop.serve
  rw [hrun]
  exact Response.header?_withHeader_self _ _ _

/-- A service keeps the identifier that it gets. -/
theorem Hop.header?_serve_passing (hop : Hop) (id : RequestId) (s : σ) :
    ((hop.serve (hop.request.passing id.text)).run m s).1.header? requestIdHeader =
      some id.text := by
  have hid : (hop.request.passing id.text).identify = .done id := by
    unfold Request.identify
    rw [Request.id?_passing]
    rfl
  rw [Hop.header?_serve, hid]
  rfl

/-- However many services a request comes to, they all serve it under the identifier that they got
first. -/
theorem relay_keeps (hops : List Hop) {before : Response} {id : RequestId}
    (h : before.header? requestIdHeader = some id.text) (s : σ) :
    (relay m hops before s).map (·.header? requestIdHeader) =
      List.replicate hops.length (some id.text) := by
  induction hops generalizing before s with
  | nil => rfl
  | cons hop rest ih =>
    have hkept := hop.header?_serve_passing m id s
    rw [relay, h, Option.getD_some, List.map_cons, List.length_cons, List.replicate_succ, hkept]
    exact congrArg _ (ih hkept _)

end Relaying

/-- A text is a request identifier exactly if what is left of it without white space at its ends is
a token, and that is then the identifier. An identifier may stand in a header and is read from its
own text as it is; so is every one that is made up, whatever random words it is made of. The first
service that a request comes to decides on its identifier, namely on the one that the request
brings, if it brings one; whatever the services after it do, none of them changes it. -/
theorem requestId_passes_on :
    (∀ s, (∃ id, RequestId.parse s = .ok id) ↔ IsToken (Text.trim s)) ∧
    (∀ s id, RequestId.parse s = .ok id ↔ id.text = Text.trim s) ∧
    (∀ id : RequestId, isHeaderValue id.text = true ∧ RequestId.parse id.text = .ok id) ∧
    (∀ a b : UInt64, ∃ id, RequestId.parse (String.ofList (uuidChars a b)) = .ok id ∧
      id.text = String.ofList (uuidChars a b)) ∧
    (∀ source : Random, RequestId.parse (RequestId.random source).1.text =
      .ok (RequestId.random source).1) ∧
    ∀ (first : Hop) (hops : List Hop) {σ : Type} (m : Machine σ) (s : σ),
      let served := (first.serve first.request).run m s
      let id := (first.request.identify.run m s).1
      first.request.id?.getD id = id ∧
        (served.1 :: relay m hops served.1 served.2).map (·.header? requestIdHeader) =
          List.replicate (hops.length + 1) (some id.text) := by
  refine ⟨fun s => ?_, fun _ _ => RequestId.parse_eq_ok_iff,
    fun id => ⟨isHeaderValue_requestId id, id.parse_text⟩, fun a b => ?_,
    fun source => RequestId.parse_text _, ?_⟩
  · rw [RequestId.isToken_iff]
    exact exists_congr fun _ => RequestId.parse_eq_ok_iff
  · obtain ⟨id, htext⟩ := RequestId.exists_text_uuid a b
    exact ⟨id, htext ▸ id.parse_text, htext⟩
  · intro first hops σ m s served id
    have hfirst := first.header?_serve m first.request s
    constructor
    · show first.request.id?.getD (first.request.identify.run m s).1 =
        (first.request.identify.run m s).1
      unfold Request.identify
      cases first.request.id? <;> rfl
    · rw [List.map_cons, List.replicate_succ]
      exact congrArg₂ List.cons hfirst (relay_keeps m hops hfirst _)

/-- An identifier with white space around it that is not of ASCII, and what is left of it. -/
example : (RequestId.parse "\u2003edge.lb:01HZX3~a\u0085").toOption.map (·.text) =
    some "edge.lb:01HZX3~a" := by decide

end Http

end UserAccounts
