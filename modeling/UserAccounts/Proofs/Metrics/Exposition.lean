import Mathlib
import UserAccounts.Metrics.Exposition
import UserAccounts.Proofs.Text.Numeral

/-!
# Reading an exposition

An exposition can be read back, whatever stands in the label values:

* `readValue_escaped` — an escaped label value ends at its closing quote, and gives the value back;
* `sampleLine_inj`, `labelChars_append_inj` — so equal lines have equal names and labels;
* `exposition_perm` — without headers, the lines are those of the samples of all collectors;
* `mem_exposition`, `exists_isLineOf` — each line is a header or shows what a collector measured;
* `lineFeed_not_mem_exposition` — no line is broken in two.
-/

namespace UserAccounts

namespace Exposition

/-! ## Label values -/

/-- A character of a label value as it is written. -/
def escapedChar (c : Char) : List Char :=
  if c == '\\' then ['\\', '\\']
  else if c == '"' then ['\\', '"']
  else if c == '\n' then ['\\', 'n']
  else [c]

/-- Read a label value up to its closing quote; the rest follows the quote. -/
def readValue : List Char → Option (List Char × List Char)
  | [] => none
  | '"' :: rest => some ([], rest)
  | '\\' :: 'n' :: rest => (readValue rest).map fun (value, rest) => ('\n' :: value, rest)
  | '\\' :: c :: rest => (readValue rest).map fun (value, rest) => (c :: value, rest)
  | c :: rest => (readValue rest).map fun (value, rest) => (c :: value, rest)

theorem toList_escapedValue (s : String) :
    (escapedValue s).toList = s.toList.flatMap escapedChar := by
  rw [escapedValue, String.toList_ofList]
  rfl

/-- An escaped value is read back as what it was. -/
theorem readValue_escaped (value rest : List Char) :
    readValue (value.flatMap escapedChar ++ '"' :: rest) = some (value, rest) := by
  induction value with
  | nil => rfl
  | cons c value ih =>
    rw [List.flatMap_cons, List.append_assoc]
    -- A quote or a backslash of the value is written behind a backslash, so neither ends it.
    by_cases hbackslash : c = '\\'
    · subst hbackslash
      simp [escapedChar, readValue, ih]
    by_cases hquote : c = '"'
    · subst hquote
      simp [escapedChar, readValue, ih]
    by_cases hbreak : c = '\n'
    · subst hbreak
      simp [escapedChar, readValue, ih]
    simp [escapedChar, readValue, hbackslash, hquote, hbreak, ih]

/-- Where the closing quotes stand after two escaped values, the values are equal. -/
theorem escapedValue_append_inj {s t : String} {rest rest' : List Char}
    (h : (escapedValue s).toList ++ '"' :: rest = (escapedValue t).toList ++ '"' :: rest') :
    s = t ∧ rest = rest' := by
  rw [toList_escapedValue, toList_escapedValue] at h
  have hread := congrArg readValue h
  rw [readValue_escaped, readValue_escaped, Option.some.injEq, Prod.mk.injEq] at hread
  exact ⟨String.toList_injective hread.1, hread.2⟩

theorem lineFeed_not_mem_escapedValue (s : String) : '\n' ∉ (escapedValue s).toList := by
  rw [toList_escapedValue, List.mem_flatMap]
  rintro ⟨c, -, hc⟩
  unfold escapedChar at hc
  split_ifs at hc with hbackslash hquote hbreak
  · simp at hc
  · simp at hc
  · simp at hc
  · exact hbreak (by simpa using (List.mem_singleton.mp hc).symm)

theorem lineFeed_not_mem_escapedHelp (s : String) : '\n' ∉ (escapedHelp s).toList := by
  rw [escapedHelp, String.toList_ofList, List.mem_flatMap]
  rintro ⟨c, -, hc⟩
  split_ifs at hc with hbackslash hbreak
  · simp at hc
  · simp at hc
  · exact hbreak (by simpa using (List.mem_singleton.mp hc).symm)

/-! ## Labels -/

/-- A label as it is written. -/
def labelItem (label : String × String) : String :=
  label.1 ++ "=\"" ++ escapedValue label.2 ++ "\""

/-- Labels as they are written, each after a comma. -/
def labelChars (labels : List (String × String)) : List Char :=
  labels.flatMap fun label => ',' :: (labelItem label).toList

theorem labelChars_append (labels more : List (String × String)) :
    labelChars (labels ++ more) = labelChars labels ++ labelChars more :=
  List.flatMap_append

theorem labelChars_cons (name value : String) (labels : List (String × String)) :
    labelChars ((name, value) :: labels) =
      ',' :: (name.toList ++ "=\"".toList ++
        ((escapedValue value).toList ++ '"' :: labelChars labels)) := by
  simp [labelChars, labelItem]

theorem labelChars_eq_intercalate (label : String × String) (labels : List (String × String)) :
    ',' :: (",".intercalate ((label :: labels).map labelItem)).toList =
      labelChars (label :: labels) := by
  induction labels generalizing label with
  | nil => simp [labelChars]
  | cons next labels ih =>
    have hsplit : labelChars (label :: next :: labels) =
        ',' :: ((labelItem label).toList ++ labelChars (next :: labels)) := rfl
    rw [hsplit, ← ih next, List.map_cons, List.map_cons, String.intercalate_cons_cons]
    simp

/-- The written labels stand between braces, the first without its comma. -/
theorem toList_labelText {labels : List (String × String)} (h : labels ≠ []) :
    ∃ inner, (labelText labels).toList = '\x7b' :: inner ∧
      ',' :: inner = labelChars labels ++ ['\x7d'] := by
  obtain ⟨label, labels, rfl⟩ := List.exists_cons_of_ne_nil h
  refine ⟨(",".intercalate ((label :: labels).map labelItem)).toList ++ ['\x7d'], ?_, ?_⟩
  · show ("\x7b" ++ _ ++ "\x7d").toList = _
    rw [String.toList_append, String.toList_append]
    rfl
  · rw [← labelChars_eq_intercalate]
    rfl

/-- Labels with the same names are told apart by their values. -/
theorem labelChars_append_inj {labels labels' : List (String × String)} {rest rest' : List Char}
    (hnames : labels.map (·.1) = labels'.map (·.1))
    (h : labelChars labels ++ rest = labelChars labels' ++ rest') :
    labels = labels' ∧ rest = rest' := by
  induction labels generalizing labels' with
  | nil =>
    cases labels' with
    | nil => exact ⟨rfl, h⟩
    | cons _ _ => cases hnames
  | cons label labels ih =>
    cases labels' with
    | nil => cases hnames
    | cons label' labels' =>
      obtain ⟨name, value⟩ := label
      obtain ⟨name', value'⟩ := label'
      obtain ⟨hname, htail⟩ := List.cons.inj hnames
      obtain rfl : name = name' := hname
      -- Up to the first value all is the same, and that value ends at its own quote.
      have hchars : (escapedValue value).toList ++ '"' :: (labelChars labels ++ rest) =
          (escapedValue value').toList ++ '"' :: (labelChars labels' ++ rest') := by
        rw [labelChars_cons, labelChars_cons, List.cons_append, List.cons_append] at h
        simpa using h
      obtain ⟨rfl, hlabels⟩ := escapedValue_append_inj hchars
      obtain ⟨rfl, rfl⟩ := ih htail hlabels
      exact ⟨rfl, rfl⟩

/-! ## Lines -/

/-- A line of a sample with labels: its name ends at the first brace. -/
theorem toList_sampleLine {labels : List (String × String)} (h : labels ≠ [])
    (name value : String) :
    ∃ inner, (sampleLine name labels value).toList =
        name.toList ++ '\x7b' :: (inner ++ ' ' :: value.toList) ∧
      ',' :: inner = labelChars labels ++ ['\x7d'] := by
  obtain ⟨inner, htext, hinner⟩ := toList_labelText h
  refine ⟨inner, ?_, hinner⟩
  unfold sampleLine
  simp [htext]

section SampleLine

variable {name name' value value' : String} {labels labels' : List (String × String)}

/-- Equal lines of samples have the same name, and the rest in common. -/
theorem sampleLine_inj (hname : '\x7b' ∉ name.toList) (hname' : '\x7b' ∉ name'.toList)
    (hlabels : labels ≠ []) (hlabels' : labels' ≠ [])
    (h : sampleLine name labels value = sampleLine name' labels' value') :
    name = name' ∧ labelChars labels ++ '\x7d' :: ' ' :: value.toList =
      labelChars labels' ++ '\x7d' :: ' ' :: value'.toList := by
  obtain ⟨inner, hline, hinner⟩ := toList_sampleLine hlabels name value
  obtain ⟨inner', hline', hinner'⟩ := toList_sampleLine hlabels' name' value'
  have hchars : name.toList ++ '\x7b' :: (inner ++ ' ' :: value.toList) =
      name'.toList ++ '\x7b' :: (inner' ++ ' ' :: value'.toList) := by
    rw [← hline, ← hline', h]
  -- Names have no braces, so that each ends at the first one.
  have hbefore (n : String) (hn : '\x7b' ∉ n.toList) (rest : List Char) :
      (n.toList ++ '\x7b' :: rest).takeWhile (· != '\x7b') = n.toList := by
    rw [List.takeWhile_append_of_pos, List.takeWhile_cons_of_neg (by decide), List.append_nil]
    intro c hc
    exact bne_iff_ne.mpr fun heq => hn (heq ▸ hc)
  have hnames : name.toList = name'.toList := by
    rw [← hbefore name hname, hchars, hbefore name' hname']
  refine ⟨String.toList_injective hnames, ?_⟩
  rw [hnames, List.append_cancel_left_eq, List.cons.injEq] at hchars
  calc labelChars labels ++ '\x7d' :: ' ' :: value.toList
      = (labelChars labels ++ ['\x7d']) ++ ' ' :: value.toList := by simp
    _ = ',' :: (inner ++ ' ' :: value.toList) := by rw [← hinner]; rfl
    _ = ',' :: (inner' ++ ' ' :: value'.toList) := by rw [hchars.2]
    _ = (labelChars labels' ++ ['\x7d']) ++ ' ' :: value'.toList := by rw [← hinner']; rfl
    _ = labelChars labels' ++ '\x7d' :: ' ' :: value'.toList := by simp

/-- The value that a line gives for a sample, if it is a line of that sample. -/
def value? (name : String) (labels : List (String × String)) (line : String) : Option String :=
  ((name ++ labelText labels ++ " ").toList.isPrefixOf? line.toList).map String.ofList

/-- The values that lines give for a sample. -/
def valuesOf (name : String) (labels : List (String × String)) (lines : List String) :
    List String :=
  lines.filterMap (value? name labels)

theorem value?_eq_some_iff {line : String} :
    value? name labels line = some value ↔ line = sampleLine name labels value := by
  unfold value? sampleLine
  rw [Option.map_eq_some_iff]
  constructor
  · rintro ⟨rest, hrest, rfl⟩
    apply String.toList_injective
    rw [← List.isPrefixOf?_eq_some_iff_append_eq.mp hrest]
    simp
  · rintro rfl
    refine ⟨value.toList, ?_, String.ofList_toList⟩
    rw [List.isPrefixOf?_eq_some_iff_append_eq, ← String.toList_append]

theorem value?_sampleLine : value? name labels (sampleLine name labels value) = some value :=
  value?_eq_some_iff.mpr rfl

/-- A line of a sample of another name gives no value. -/
theorem value?_eq_none (hname : '\x7b' ∉ name.toList) (hname' : '\x7b' ∉ name'.toList)
    (hlabels : labels ≠ []) (hlabels' : labels' ≠ []) (hne : name ≠ name') :
    value? name labels (sampleLine name' labels' value) = none := by
  by_contra hsome
  obtain ⟨value', hvalue⟩ := Option.ne_none_iff_exists'.mp hsome
  have heq := (value?_eq_some_iff.mp hvalue).symm
  exact hne (sampleLine_inj hname hname' hlabels hlabels' heq).1

/-! ## Line feeds -/

theorem lineFeed_not_mem_labelText (h : ∀ label ∈ labels, '\n' ∉ label.1.toList) :
    '\n' ∉ (labelText labels).toList := by
  by_cases hempty : labels = []
  · simp [hempty, labelText]
  · obtain ⟨inner, htext, hinner⟩ := toList_labelText hempty
    have hmem (c : Char) (hc : c ∈ inner) : c ∈ labelChars labels ++ ['\x7d'] :=
      hinner ▸ List.mem_cons_of_mem _ hc
    rw [htext]
    intro hfeed
    rcases List.mem_append.mp (hmem _ (List.mem_of_ne_of_mem (by decide) hfeed)) with hfeed | hfeed
    · obtain ⟨label, hlabel, hfeed⟩ := List.mem_flatMap.mp hfeed
      have hvalue := lineFeed_not_mem_escapedValue label.2
      have := h label hlabel
      simp_all [labelItem]
    · exact absurd hfeed (by decide)

theorem lineFeed_not_mem_sampleLine (hname : '\n' ∉ name.toList)
    (hlabels : ∀ label ∈ labels, '\n' ∉ label.1.toList) (hvalue : '\n' ∉ value.toList) :
    '\n' ∉ (sampleLine name labels value).toList := by
  have htext := lineFeed_not_mem_labelText hlabels
  simp [sampleLine, hname, htext, hvalue]

end SampleLine

theorem lineFeed_not_mem_natural (n : Nat) : '\n' ∉ (Text.natural n).toList :=
  fun h => absurd (Text.isDigit_of_mem_natural h) (by decide)

theorem lineFeed_not_mem_pointed {digits : List Char} (h : '\n' ∉ digits) (places : Int) :
    '\n' ∉ Decimal.pointed digits places := by
  have htake (n : Nat) : '\n' ∉ digits.take n := fun hfeed => h (List.mem_of_mem_take hfeed)
  have hdrop (n : Nat) : '\n' ∉ digits.drop n := fun hfeed => h (List.mem_of_mem_drop hfeed)
  unfold Decimal.pointed
  split_ifs
  · simp [Decimal.zeros, h]
  · simp [htake, hdrop]

theorem lineFeed_not_mem_floatText (f : Float) : '\n' ∉ (floatText f).toList := by
  have hplain (d : Decimal) : '\n' ∉ d.plain := by
    have hdigits : '\n' ∉ d.digitChars := by
      have := lineFeed_not_mem_natural d.digits
      rwa [Text.toList_natural] at this
    unfold Decimal.plain
    split_ifs
    · simp [Decimal.zeros, hdigits]
    · exact lineFeed_not_mem_pointed hdigits _
  unfold floatText
  split
  · rename_i x _
    unfold Binary64.render
    split_ifs <;> simp [hplain]
  · decide

/-! ## Samples -/

/-- The label values that something was measured under. -/
def keys : Samples → List (List String)
  | .counters values => values.map (·.1)
  | .histograms values => values.map (·.1)

/-- What follows the name of a collector in the names of its samples. -/
def suffixes : Samples → List String
  | .counters _ => [""]
  | .histograms _ => ["_bucket", "_sum", "_count"]

/-- The lines of the samples of collectors, in the order in which they were registered. -/
def sampleLines (collectors : List Collector) : List String :=
  (collectors.flatMap collectorSamples).flatMap (·.lines)

/-- A line for what a collector has measured under some label values. -/
structure IsLineOf (line : String) (c : Collector) (key : List String) : Prop where
  key_mem : key ∈ keys c.samples
  line_eq : ∃ suffix ∈ suffixes c.samples, ∃ more value,
    line = sampleLine (c.metric.name ++ suffix) (sampleLabels c.metric key ++ more) value ∧
      (∀ label ∈ more, label.1 = "le") ∧ '\n' ∉ value.toList

theorem mem_histogramLines {line name : String} {labels : List (String × String)} {h : Histogram}
    (hline : line ∈ histogramLines name labels h) :
    ∃ suffix ∈ ["_bucket", "_sum", "_count"], ∃ more value,
      line = sampleLine (name ++ suffix) (labels ++ more) value ∧
        (∀ label ∈ more, label.1 = "le") ∧ '\n' ∉ value.toList := by
  have hbound (bound : String) : ∀ label ∈ [("le", bound)], label.1 = "le" := by simp
  unfold histogramLines at hline
  rcases List.mem_append.mp hline with hline | hline
  · obtain ⟨⟨bound, n⟩, -, rfl⟩ := List.mem_map.mp hline
    exact ⟨"_bucket", by simp, _, _, rfl, hbound _, lineFeed_not_mem_natural n⟩
  · rcases List.mem_cons.mp hline with rfl | hline
    · exact ⟨"_bucket", by simp, _, _, rfl, hbound _, lineFeed_not_mem_natural _⟩
    rcases List.mem_cons.mp hline with rfl | hline
    · refine ⟨"_sum", by simp, [], _, ?_, nofun, lineFeed_not_mem_floatText h.sum⟩
      rw [List.append_nil]
    · refine ⟨"_count", by simp, [], _, ?_, nofun, lineFeed_not_mem_natural h.count⟩
      rw [List.append_nil, List.mem_singleton.mp hline]

/-- A histogram shows its count once. -/
theorem valuesOf_histogramLines {name : String} (hname : '\x7b' ∉ name.toList)
    {labels : List (String × String)} (hlabels : labels ≠ []) (h : Histogram) :
    valuesOf (name ++ "_count") labels (histogramLines name labels h) = [Text.natural h.count] := by
  have hsuffix (suffix : String) (hbrace : '\x7b' ∉ suffix.toList) :
      '\x7b' ∉ (name ++ suffix).toList := by
    simp [hname, hbrace]
  have hne (suffix : String) (h : suffix ≠ "_count") : name ++ "_count" ≠ name ++ suffix :=
    fun heq => h ((String.append_right_inj name).mp heq).symm
  have hbucket (more : List (String × String)) (value : String) :
      value? (name ++ "_count") labels (sampleLine (name ++ "_bucket") (labels ++ more) value) =
        none :=
    value?_eq_none (hsuffix _ (by decide)) (hsuffix _ (by decide)) hlabels
      (List.append_ne_nil_of_left_ne_nil hlabels _) (hne _ (by decide))
  have hsum (value : String) :
      value? (name ++ "_count") labels (sampleLine (name ++ "_sum") labels value) = none :=
    value?_eq_none (hsuffix _ (by decide)) (hsuffix _ (by decide)) hlabels hlabels
      (hne _ (by decide))
  unfold valuesOf histogramLines
  rw [List.filterMap_append, List.filterMap_eq_nil_iff.mpr, List.nil_append,
    List.filterMap_cons_none (hbucket _ _), List.filterMap_cons_none (hsum _),
    List.filterMap_cons_some value?_sampleLine, List.filterMap_nil]
  intro line hline
  obtain ⟨⟨bound, n⟩, -, rfl⟩ := List.mem_map.mp hline
  exact hbucket _ _

section IsLineOf

variable {c : Collector} {key : List String} {line : String}

theorem isLineOf_counter {values : List (List String × Nat)} (hc : c.samples = .counters values)
    {n : Nat} (h : (key, n) ∈ values) :
    IsLineOf (sampleLine c.metric.name (sampleLabels c.metric key) (Text.natural n)) c key := by
  refine ⟨?_, "", ?_, [], _, ?_, nofun, lineFeed_not_mem_natural n⟩
  · rw [hc]
    exact List.mem_map_of_mem h
  · rw [hc]
    exact List.mem_singleton_self _
  · rw [List.append_nil, String.append_empty]

theorem isLineOf_histogram {values : List (List String × Histogram)}
    (hc : c.samples = .histograms values) {h : Histogram} (hmem : (key, h) ∈ values)
    (hline : line ∈ histogramLines c.metric.name (sampleLabels c.metric key) h) :
    IsLineOf line c key := by
  refine ⟨?_, ?_⟩
  · rw [hc]
    exact List.mem_map_of_mem hmem
  · rw [hc]
    exact mem_histogramLines hline

end IsLineOf

/-- Every line of the samples is a line for something that a collector has measured. -/
theorem exists_isLineOf {collectors : List Collector} {line : String}
    (h : line ∈ sampleLines collectors) : ∃ c ∈ collectors, ∃ key, IsLineOf line c key := by
  obtain ⟨sample, hsample, hline⟩ := List.mem_flatMap.mp h
  obtain ⟨c, hc, hsample⟩ := List.mem_flatMap.mp hsample
  refine ⟨c, hc, ?_⟩
  unfold collectorSamples at hsample
  split at hsample
  · rename_i values hsamples
    obtain ⟨⟨key, n⟩, hvalue, rfl⟩ := List.mem_map.mp hsample
    rw [List.mem_singleton.mp hline]
    exact ⟨key, isLineOf_counter hsamples hvalue⟩
  · rename_i values hsamples
    obtain ⟨⟨key, h⟩, hvalue, rfl⟩ := List.mem_map.mp hsample
    exact ⟨key, isLineOf_histogram hsamples hvalue hline⟩

/-! ## Families -/

/-- Whether a line says something about a family, and not about a sample. -/
def isHeader (line : String) : Bool :=
  line.toList.head? == some '#'

/-- A line about the family that a collector belongs to. -/
inductive IsHeaderOf (c : Collector) : String → Prop
  | help : IsHeaderOf c ("# HELP " ++ c.metric.name ++ " " ++ escapedHelp c.metric.help)
  | kind : IsHeaderOf c ("# TYPE " ++ c.metric.name ++ " " ++ kindName c.samples)

theorem IsHeaderOf.isHeader {c : Collector} {line : String} (h : IsHeaderOf c line) :
    isHeader line = true := by
  cases h <;> simp [Exposition.isHeader]

theorem ne_of_isNameChar {first : Bool} {c : Char} (h : MetricName.isNameChar first c = true) :
    c ≠ '\x7b' ∧ c ≠ '\n' ∧ c ≠ '#' := by
  refine ⟨?_, ?_, ?_⟩ <;>
  · rintro rfl
    cases first <;> exact absurd h (by decide)

/-- The characters of a metric name are no braces, line feeds or number signs. -/
theorem ne_of_isValid {d : MetricName} (h : d.isValid = true) :
    d.name.toList ≠ [] ∧ ∀ c ∈ d.name.toList, c ≠ '\x7b' ∧ c ≠ '\n' ∧ c ≠ '#' := by
  unfold MetricName.isValid at h
  split at h
  · cases h
  · rename_i first rest hname
    simp only [Bool.and_eq_true, List.all_eq_true] at h
    obtain ⟨⟨hfirst, hrest⟩, -⟩ := h
    rw [hname]
    refine ⟨List.cons_ne_nil _ _, fun c hc => ?_⟩
    rcases List.mem_cons.mp hc with rfl | hc
    · exact ne_of_isNameChar hfirst
    · exact ne_of_isNameChar (hrest c hc)

/-- The characters of the names of samples are no braces and no line feeds. -/
theorem ne_of_mem_sampleName {d : MetricName} (h : d.isValid = true) {s : Samples}
    {suffix : String} (hsuffix : suffix ∈ suffixes s) :
    ∀ c ∈ (d.name ++ suffix).toList, c ≠ '\x7b' ∧ c ≠ '\n' := by
  have hchars : ∀ c ∈ suffix.toList, c ≠ '\x7b' ∧ c ≠ '\n' := by
    cases s with
    | counters _ =>
      rw [List.mem_singleton.mp hsuffix]
      exact nofun
    | histograms _ =>
      rcases List.mem_cons.mp hsuffix with rfl | hsuffix
      · simp
      rcases List.mem_pair.mp hsuffix with rfl | rfl
      · simp
      · simp
  intro c hc
  rw [String.toList_append] at hc
  rcases List.mem_append.mp hc with hc | hc
  · obtain ⟨hbrace, hfeed, -⟩ := (ne_of_isValid h).2 c hc
    exact ⟨hbrace, hfeed⟩
  · exact hchars c hc

variable {collectors : List Collector}

theorem isHeader_eq_false_of_mem_sampleLines (hvalid : ∀ c ∈ collectors, c.metric.isValid = true)
    {line : String} (h : line ∈ sampleLines collectors) : isHeader line = false := by
  obtain ⟨c, hc, key, -, suffix, -, more, value, rfl, -, -⟩ := exists_isLineOf h
  obtain ⟨hnonempty, hname⟩ := ne_of_isValid (hvalid c hc)
  obtain ⟨first, rest, hfirst⟩ := List.exists_cons_of_ne_nil hnonempty
  have hsign : first ≠ '#' := (hname first (hfirst ▸ List.mem_cons_self)).2.2
  simp [isHeader, sampleLine, hfirst, hsign]

/-- The lines of a family are headers, if there are samples, and the lines of the samples, which are
those of its collectors. -/
theorem familyLines_eq (collectors : List Collector) :
    ∃ headers lines, familyLines collectors = headers ++ lines ∧
      (∀ line ∈ headers, ∃ c ∈ collectors, IsHeaderOf c line) ∧
      lines.Perm (sampleLines collectors) := by
  cases collectors with
  | nil => exact ⟨[], [], rfl, nofun, .refl _⟩
  | cons first rest =>
    set samples := (first :: rest).flatMap collectorSamples with hsamples
    cases hempty : samples.isEmpty with
    | true =>
      have hlines : sampleLines (first :: rest) = [] := by
        rw [sampleLines, ← hsamples, List.isEmpty_iff.mp hempty, List.flatMap_nil]
      exact ⟨[], [], by simp only [familyLines, ← hsamples, hempty, if_true, List.nil_append],
        nofun, hlines ▸ .refl _⟩
    | false =>
      refine ⟨["# HELP " ++ first.metric.name ++ " " ++ escapedHelp first.metric.help,
          "# TYPE " ++ first.metric.name ++ " " ++ kindName first.samples],
        (samples.mergeSort fun a b => valuesBefore a.labels b.labels).flatMap (·.lines), ?_, ?_,
        (List.mergeSort_perm _ _).flatMap_right _⟩
      · simp only [familyLines, ← hsamples, hempty, Bool.false_eq_true, if_false]
      · intro line hline
        refine ⟨first, List.mem_cons_self, ?_⟩
        rcases List.mem_pair.mp hline with rfl | rfl
        · exact .help
        · exact .kind

/-- Without its headers, a family consists of the lines of the samples of its collectors. -/
theorem familyLines_perm (hvalid : ∀ c ∈ collectors, c.metric.isValid = true) :
    ((familyLines collectors).filter (!isHeader ·)).Perm (sampleLines collectors) := by
  obtain ⟨headers, lines, heq, hheaders, hperm⟩ := familyLines_eq collectors
  have hnone : headers.filter (!isHeader ·) = [] := by
    rw [List.filter_eq_nil_iff]
    intro line hline
    obtain ⟨_, -, hheader⟩ := hheaders line hline
    simp [hheader.isHeader]
  have hall : lines.filter (!isHeader ·) = lines := by
    rw [List.filter_eq_self]
    intro line hline
    simp [isHeader_eq_false_of_mem_sampleLines hvalid (hperm.subset hline)]
  rw [heq, List.filter_append, hnone, hall]
  exact hperm

/-- Entries are found under their keys, each as often, if every key is looked up once. -/
theorem flatMap_filter_perm {α β : Type} [DecidableEq β] {keys : List β} (hkeys : keys.Nodup)
    (key : α → β) {entries : List α} (h : ∀ a ∈ entries, key a ∈ keys) :
    (keys.flatMap fun k => entries.filter fun a => key a == k).Perm entries := by
  induction entries with
  | nil => simp
  | cons a entries ih =>
    obtain ⟨ha, hentries⟩ := List.forall_mem_cons.mp h
    obtain ⟨before, after, rfl⟩ := List.append_of_mem ha
    have hother (ks : List β) (hks : key a ∉ ks) :
        (ks.flatMap fun k => (a :: entries).filter fun a => key a == k) =
          ks.flatMap fun k => entries.filter fun a => key a == k := by
      refine List.flatMap_congr fun k hk => List.filter_cons_of_neg ?_
      simp only [beq_iff_eq]
      rintro rfl
      exact hks hk
    have hapart : key a ∉ before ++ after := (List.nodup_middle.mp hkeys).notMem
    have hbefore : key a ∉ before := fun h => hapart (List.mem_append_left _ h)
    have hafter : key a ∉ after := fun h => hapart (List.mem_append_right _ h)
    have hself : ((a :: entries).filter fun b => key b == key a) =
        a :: entries.filter fun b => key b == key a := List.filter_cons_of_pos (by simp)
    rw [List.flatMap_append, List.flatMap_cons, hother before hbefore, hother after hafter, hself,
      List.cons_append]
    refine List.perm_middle.trans (.cons a ?_)
    have := ih hentries
    rwa [List.flatMap_append, List.flatMap_cons] at this

/-! ## The names of families -/

/-- Without repetitions, a sorted list is strictly sorted. -/
theorem eraseReps_loop {as acc : List String} {a : String}
    (hsorted : (a :: as).Pairwise (· ≤ ·)) (hacc : (a :: acc).Pairwise (· > ·)) :
    (List.eraseRepsBy.loop (· == ·) a as acc).Pairwise (· < ·) ∧
      ∀ b, b ∈ List.eraseRepsBy.loop (· == ·) a as acc ↔ b ∈ a :: as ∨ b ∈ acc := by
  -- The accumulator holds what is kept before the current name, the last of it first.
  induction as generalizing a acc with
  | nil =>
    refine ⟨?_, fun b => ?_⟩
    · exact List.pairwise_reverse.mpr hacc
    · simp [List.eraseRepsBy.loop, or_comm]
  | cons next as ih =>
    obtain ⟨hfirst, hrest⟩ := List.pairwise_cons.mp hsorted
    cases hrep : a == next with
    | true =>
      obtain rfl := beq_iff_eq.mp hrep
      have hloop : List.eraseRepsBy.loop (· == ·) a (a :: as) acc =
          List.eraseRepsBy.loop (· == ·) a as acc := by
        simp [List.eraseRepsBy.loop]
      obtain ⟨hstrict, hmem⟩ := ih hrest hacc
      rw [hloop]
      refine ⟨hstrict, fun b => (hmem b).trans ?_⟩
      simp
    | false =>
      have hloop : List.eraseRepsBy.loop (· == ·) a (next :: as) acc =
          List.eraseRepsBy.loop (· == ·) next as (a :: acc) := by
        simp [List.eraseRepsBy.loop, hrep]
      have hlt : a < next :=
        lt_of_le_of_ne (hfirst next List.mem_cons_self) (beq_eq_false_iff_ne.mp hrep)
      have hacc' : (next :: a :: acc).Pairwise (· > ·) := by
        refine List.pairwise_cons.mpr ⟨fun b hb => ?_, hacc⟩
        rcases List.mem_cons.mp hb with rfl | hb
        · exact hlt
        · exact lt_trans ((List.pairwise_cons.mp hacc).1 b hb) hlt
      obtain ⟨hstrict, hmem⟩ := ih hrest hacc'
      rw [hloop]
      refine ⟨hstrict, fun b => (hmem b).trans ?_⟩
      simp only [List.mem_cons]
      tauto

theorem eraseReps_of_sorted {names : List String} (h : names.Pairwise (· ≤ ·)) :
    names.eraseReps.Pairwise (· < ·) ∧ ∀ b, b ∈ names.eraseReps ↔ b ∈ names := by
  cases names with
  | nil => exact ⟨.nil, fun _ => .rfl⟩
  | cons a as =>
    obtain ⟨hstrict, hmem⟩ := eraseReps_loop h (List.pairwise_singleton _ a)
    exact ⟨hstrict, fun b => (hmem b).trans (by simp)⟩

/-- The families are in order, each once, and they are those of the collectors. -/
theorem familyNames_spec (r : Registry) :
    r.familyNames.Pairwise (· < ·) ∧
      ∀ name, name ∈ r.familyNames ↔ ∃ c ∈ r.collectors, c.metric.name = name := by
  have hsorted : ((r.collectors.map (·.metric.name)).mergeSort fun a b =>
      decide (a ≤ b)).Pairwise (· ≤ ·) := by
    refine (List.pairwise_mergeSort ?_ ?_ _).imp fun h => of_decide_eq_true h
    · intro a b c hab hbc
      exact decide_eq_true (le_trans (of_decide_eq_true hab) (of_decide_eq_true hbc))
    · intro a b
      simpa using le_total a b
  obtain ⟨hstrict, hmem⟩ := eraseReps_of_sorted hsorted
  refine ⟨hstrict, fun name => (hmem name).trans ?_⟩
  rw [(List.mergeSort_perm _ _).mem_iff, List.mem_map]

/-- Without headers, an exposition consists of the lines of the samples of all collectors. -/
theorem exposition_perm {r : Registry} (hvalid : ∀ c ∈ r.collectors, c.metric.isValid = true) :
    (r.exposition.filter (!isHeader ·)).Perm (sampleLines r.collectors) := by
  obtain ⟨hstrict, hnames⟩ := familyNames_spec r
  unfold Registry.exposition
  rw [List.filter_flatMap]
  have hfamilies : (r.familyNames.flatMap fun name =>
      (familyLines (r.collectors.filter fun c => c.metric.name == name)).filter (!isHeader ·)).Perm
      (r.familyNames.flatMap fun name =>
        sampleLines (r.collectors.filter fun c => c.metric.name == name)) :=
    .flatMap_left _ fun name _ =>
      familyLines_perm fun c hc => hvalid c (List.mem_of_mem_filter hc)
  have hregrouped : (r.familyNames.flatMap fun name =>
        sampleLines (r.collectors.filter fun c => c.metric.name == name)) =
      sampleLines (r.familyNames.flatMap fun name =>
        r.collectors.filter fun c => c.metric.name == name) := by
    simp only [sampleLines, List.flatMap_assoc]
  -- Every collector is in the family of its name and in no other.
  refine (hregrouped ▸ hfamilies).trans ?_
  have hgrouped := flatMap_filter_perm (hstrict.imp fun h => ne_of_lt h) _
    fun c hc => (hnames _).mpr ⟨c, hc, rfl⟩
  exact (hgrouped.flatMap_right _).flatMap_right _

/-- Every line of an exposition is a header or the line of a sample. -/
theorem mem_exposition {r : Registry} {line : String} (h : line ∈ r.exposition) :
    (∃ c ∈ r.collectors, IsHeaderOf c line) ∨ line ∈ sampleLines r.collectors := by
  obtain ⟨name, -, hline⟩ := List.mem_flatMap.mp h
  obtain ⟨headers, lines, heq, hheaders, hperm⟩ :=
    familyLines_eq (r.collectors.filter fun c => c.metric.name == name)
  rw [heq] at hline
  rcases List.mem_append.mp hline with hline | hline
  · obtain ⟨c, hc, hheader⟩ := hheaders line hline
    exact .inl ⟨c, List.mem_of_mem_filter hc, hheader⟩
  · obtain ⟨sample, hsample, hline⟩ := List.mem_flatMap.mp (hperm.subset hline)
    obtain ⟨c, hc, hsample⟩ := List.mem_flatMap.mp hsample
    exact .inr (List.mem_flatMap.mpr
      ⟨sample, List.mem_flatMap.mpr ⟨c, List.mem_of_mem_filter hc, hsample⟩, hline⟩)

/-! ## No broken lines -/

theorem mem_insertLabel {label other : String × String} {labels : List (String × String)} :
    other ∈ insertLabel label labels ↔ other = label ∨ other ∈ labels := by
  induction labels with
  | nil => simp [insertLabel]
  | cons first rest ih =>
    rw [insertLabel]
    split_ifs
    · rw [List.mem_cons]
    · rw [List.mem_cons, ih, List.mem_cons]
      tauto

theorem mem_foldl_insertLabel {more labels : List (String × String)} {label : String × String} :
    label ∈ more.foldl (fun labels label => insertLabel label labels) labels ↔
      label ∈ labels ∨ label ∈ more := by
  induction more generalizing labels with
  | nil => simp
  | cons first rest ih =>
    rw [List.foldl_cons, ih, mem_insertLabel, List.mem_cons]
    tauto

/-- A metric whose label names hold no line feeds. -/
def LinelessLabels (d : MetricName) : Prop :=
  (∀ label ∈ d.constantLabels, '\n' ∉ label.1.toList) ∧
    ∀ name ∈ d.variableLabels, '\n' ∉ name.toList

theorem LinelessLabels.sampleLabels {d : MetricName} (h : LinelessLabels d) (key : List String) :
    ∀ label ∈ sampleLabels d key, '\n' ∉ label.1.toList := by
  intro label hlabel
  rcases mem_foldl_insertLabel.mp hlabel with hlabel | hlabel
  · exact h.1 label hlabel
  · exact h.2 label.1 (List.of_mem_zip hlabel).1

/-- No line of an exposition is broken in two, whatever the label values hold. -/
theorem lineFeed_not_mem_exposition {r : Registry}
    (hvalid : ∀ c ∈ r.collectors, c.metric.isValid = true)
    (hlabels : ∀ c ∈ r.collectors, LinelessLabels c.metric) {line : String}
    (h : line ∈ r.exposition) : '\n' ∉ line.toList := by
  rcases mem_exposition h with ⟨c, hc, hheader⟩ | hsample
  · have hname : '\n' ∉ c.metric.name.toList :=
      fun hfeed => ((ne_of_isValid (hvalid c hc)).2 _ hfeed).2.1 rfl
    cases hheader with
    | help => simp [hname, lineFeed_not_mem_escapedHelp]
    | kind =>
      have hkind : '\n' ∉ (kindName c.samples).toList := by
        cases c.samples with
        | counters _ => exact (by decide : '\n' ∉ "counter".toList)
        | histograms _ => exact (by decide : '\n' ∉ "histogram".toList)
      simp [hname, hkind]
  · obtain ⟨c, hc, key, -, suffix, hsuffix, more, value, rfl, hmore, hvalue⟩ :=
      exists_isLineOf hsample
    refine lineFeed_not_mem_sampleLine ?_ ?_ hvalue
    · exact fun hfeed => (ne_of_mem_sampleName (hvalid c hc) hsuffix _ hfeed).2 rfl
    · intro label hlabel
      rcases List.mem_append.mp hlabel with hlabel | hlabel
      · exact (hlabels c hc).sampleLabels key label hlabel
      · rw [hmore label hlabel]
        decide

end Exposition

end UserAccounts
