import UserAccounts.Proofs.Metrics.Exposition
import UserAccounts.Proofs.Metrics.Instruments

/-!
# What an exposition counts

Handles on the instruments of connections are asked for and used in any order (`Usage`). At every
moment the exposition shows, for each connection that was asked for, exactly the number of
observations that were made with any of its handles (`Usage.run_faithful`):

* `Tallied.take` — what one observation does to the samples of an instrument;
* `valuesOf_measured` — how the samples of an instrument are shown;
* `Shows.unique` — a line shows one series of one connection only, whatever their names hold;
* `Kept.step` — what one request or observation does to a registry in use.
-/

namespace UserAccounts

open Exposition

/-! ## Series -/

/-- What is counted for a connection: rollbacks, and for each operation its failed calls and its
calls that were measured. -/
inductive Series where
  | rollbacks
  | errors (operation : String)
  | durations (operation : String)
  deriving DecidableEq

/-- The series that an observation counts for. -/
def Observation.series : Observation → Series
  | .duration label _ => .durations label
  | .error label => .errors label
  | .rollback => .rollbacks

namespace Series

/-- The instrument that keeps a series. -/
def instrument : Series → Instrument
  | .rollbacks => .rollbacks
  | .errors _ => .errors
  | .durations _ => .durations

/-- The values of the variable labels. -/
def key : Series → List String
  | .rollbacks => []
  | .errors operation => [operation]
  | .durations operation => [operation]

/-- The labels of the samples of a series. -/
def labels (c : Connection) (s : Series) : List (String × String) :=
  Registry.connectionLabels c ++ s.key.map fun operation => ("operation", operation)

/-- The names of the samples of a series. -/
def sampleNames : Series → List String
  | .rollbacks => ["db_tx_rollbacks_total"]
  | .errors _ => ["db_query_errors_total"]
  | .durations _ => ["db_query_duration_milliseconds_bucket", "db_query_duration_milliseconds_sum",
      "db_query_duration_milliseconds_count"]

/-- The name of the sample that counts. -/
def countName : Series → String
  | .rollbacks => "db_tx_rollbacks_total"
  | .errors _ => "db_query_errors_total"
  | .durations _ => "db_query_duration_milliseconds_count"

/-- The count that is kept: series of operations begin with their first observation. -/
def counted : Series → Nat → Option Nat
  | .rollbacks, n => some n
  | _, 0 => none
  | _, n + 1 => some (n + 1)

/-- The values that are shown for a count. -/
def shown (s : Series) (n : Nat) : List String := (s.counted n).toList.map Text.natural

theorem ext_of_key {s s' : Series} (hinstrument : s.instrument = s'.instrument)
    (hkey : s.key = s'.key) : s = s' := by
  cases s <;> cases s' <;> simp_all [instrument, key]

theorem counted_succ (s : Series) (n : Nat) :
    s.counted (n + 1) = some ((s.counted n).getD 0 + 1) := by
  cases s <;> cases n <;> rfl

theorem labels_inj {c c' : Connection} {s s' : Series} (h : s.labels c = s'.labels c') :
    c = c' ∧ s.key = s'.key := by
  obtain ⟨hconnection, hkey⟩ := List.append_inj h rfl
  refine ⟨?_, List.map_injective_iff.mpr (fun a b hab => (Prod.mk.inj hab).2) hkey⟩
  cases c
  cases c'
  simpa [Registry.connectionLabels] using hconnection

theorem sampleLabels_eq (c : Connection) (s : Series) :
    sampleLabels (s.instrument.collector c).metric s.key = s.labels c := by
  have hname : ¬"operation" < "db_name" := by decide
  have hsystem : ¬"operation" < "db_system" := by decide
  have huser : ¬"operation" < "db_user" := by decide
  cases s <;> simp [sampleLabels, insertLabel, labels, key, instrument, Instrument.collector,
    Registry.errorCounter, Registry.durationHistogram, Registry.rollbackCounter,
    Registry.connectionLabels, hname, hsystem, huser]

end Series

theorem Observation.instrument_series (o : Observation) : o.series.instrument = o.instrument := by
  cases o <;> rfl

/-! ## Samples -/

section Upsert

variable {κ α : Type} [BEq κ] [LawfulBEq κ] {key : κ} {fresh : α} {f : α → α}
  {values : List (κ × α)}

theorem mem_upsert_keys {k : κ} :
    k ∈ (upsert key fresh f values).map (·.1) ↔ k = key ∨ k ∈ values.map (·.1) := by
  induction values with
  | nil => simp [upsert]
  | cons entry values ih =>
    obtain ⟨first, a⟩ := entry
    rw [upsert]
    by_cases heq : first = key
    · subst heq
      simp
    · rw [if_neg (by simpa using heq), List.map_cons, List.mem_cons, ih, List.map_cons,
        List.mem_cons]
      tauto

theorem nodup_upsert_keys (h : (values.map (·.1)).Nodup) :
    ((upsert key fresh f values).map (·.1)).Nodup := by
  induction values with
  | nil => exact List.nodup_singleton key
  | cons entry values ih =>
    obtain ⟨first, a⟩ := entry
    obtain ⟨hfirst, hvalues⟩ := List.nodup_cons.mp h
    rw [upsert]
    by_cases heq : first = key
    · rw [if_pos (by simpa using heq)]
      exact h
    · rw [if_neg (by simpa using heq), List.map_cons]
      refine List.nodup_cons.mpr ⟨fun hmem => ?_, ih hvalues⟩
      exact (mem_upsert_keys.mp hmem).elim heq hfirst

theorem lookup_upsert_self :
    (upsert key fresh f values).lookup key = some (f ((values.lookup key).getD fresh)) := by
  induction values with
  | nil => simp [upsert]
  | cons entry values ih =>
    obtain ⟨first, a⟩ := entry
    rw [upsert]
    by_cases heq : first = key
    · subst heq
      simp
    · rw [if_neg (by simpa using heq), List.lookup_cons, List.lookup_cons,
        beq_eq_false_iff_ne.mpr (Ne.symm heq), ih]

theorem lookup_upsert_of_ne {k : κ} (h : k ≠ key) :
    (upsert key fresh f values).lookup k = values.lookup k := by
  induction values with
  | nil => simp [upsert, h]
  | cons entry values ih =>
    obtain ⟨first, a⟩ := entry
    rw [upsert]
    by_cases heq : first = key
    · subst heq
      rw [if_pos (by simp), List.lookup_cons, List.lookup_cons, beq_eq_false_iff_ne.mpr h]
    · rw [if_neg (by simpa using heq), List.lookup_cons, List.lookup_cons, ih]

/-- With distinct keys, what concerns one key is what its value gives. -/
theorem flatMap_eq_lookup {β : Type} {g : κ × α → List β} (h : (values.map (·.1)).Nodup)
    (hother : ∀ entry ∈ values, entry.1 ≠ key → g entry = []) :
    values.flatMap g = (values.lookup key).elim [] fun a => g (key, a) := by
  induction values with
  | nil => rfl
  | cons entry values ih =>
    obtain ⟨first, a⟩ := entry
    obtain ⟨hfirst, hvalues⟩ := List.nodup_cons.mp h
    obtain ⟨hhead, htail⟩ := List.forall_mem_cons.mp hother
    rw [List.flatMap_cons, List.lookup_cons]
    by_cases heq : first = key
    · subst heq
      have hnone : values.flatMap g = [] := by
        refine List.flatMap_eq_nil_iff.mpr fun entry hentry => htail entry hentry fun heq => ?_
        exact hfirst (List.mem_map.mpr ⟨entry, hentry, heq⟩)
      rw [hnone, beq_self_eq_true, List.append_nil]
      rfl
    · rw [hhead heq, beq_eq_false_iff_ne.mpr (Ne.symm heq), ih hvalues htail]
      rfl

end Upsert

/-- The count that is kept under some label values. -/
def countOf (key : List String) : Samples → Option Nat
  | .counters values => values.lookup key
  | .histograms values => (values.lookup key).map (·.count)

/-- Whether samples are of the kind that an instrument keeps. -/
def Instrument.Keeps : Instrument → Samples → Prop
  | .durations, .histograms _ => True
  | .errors, .counters _ => True
  | .rollbacks, .counters _ => True
  | _, _ => False

/-- Samples with one more count under some label values than before. -/
structure OneMore (key : List String) (before after : Samples) : Prop where
  nodup : (keys before).Nodup → (keys after).Nodup
  mem_keys : ∀ k, k ∈ keys after ↔ k = key ∨ k ∈ keys before
  countOf_self : countOf key after = some ((countOf key before).getD 0 + 1)
  countOf_other : ∀ k, k ≠ key → countOf k after = countOf k before

theorem oneMore_increment (key : List String) (values : List (List String × Nat)) :
    OneMore key (.counters values) (Samples.increment key (.counters values)) where
  nodup := nodup_upsert_keys
  mem_keys _ := mem_upsert_keys
  countOf_self := lookup_upsert_self
  countOf_other _ := lookup_upsert_of_ne

theorem oneMore_add (key : List String) (d : Span) (values : List (List String × Histogram)) :
    OneMore key (.histograms values) (Samples.add key d (.histograms values)) where
  nodup := nodup_upsert_keys
  mem_keys _ := mem_upsert_keys
  countOf_self := by
    show ((upsert key .empty (·.add d) values).lookup key).map (·.count) = _
    rw [lookup_upsert_self]
    show some (((values.lookup key).getD .empty).count + 1) = _
    cases hlookup : values.lookup key <;> simp [countOf, hlookup, Histogram.empty]
  countOf_other k hk := by
    show ((upsert key .empty (·.add d) values).lookup k).map (·.count) = _
    rw [lookup_upsert_of_ne hk]
    rfl

/-- An observation with its own instrument is one more of its series. -/
theorem oneMore_take (o : Observation) {samples : Samples} (h : o.instrument.Keeps samples) :
    OneMore o.series.key samples (o.instrument.take samples o) ∧
      o.instrument.Keeps (o.instrument.take samples o) := by
  cases o <;> cases samples <;> first
    | exact ⟨oneMore_increment _ _, trivial⟩
    | exact ⟨oneMore_add _ _ _, trivial⟩
    | exact h.elim

/-- What the samples of an instrument are after some observations: each series is counted. -/
structure Tallied (k : Instrument) (os : List Observation) (samples : Samples) : Prop where
  keeps : k.Keeps samples
  nodup : (keys samples).Nodup
  series_of_key : ∀ key ∈ keys samples, ∃ s : Series, s.instrument = k ∧ s.key = key
  countOf_eq : ∀ s : Series, s.instrument = k →
    countOf s.key samples = s.counted (os.countP (·.series == s))

namespace Tallied

theorem collector (c : Connection) (k : Instrument) : Tallied k [] (k.collector c).samples := by
  cases k with
  | errors | durations =>
    refine ⟨trivial, .nil, nofun, fun s hs => ?_⟩
    cases s with
    | rollbacks => cases hs
    | errors _ | durations _ => rfl
  | rollbacks =>
    refine ⟨trivial, List.nodup_singleton _, fun key hkey => ?_, fun s hs => ?_⟩
    · exact ⟨.rollbacks, rfl, (List.mem_singleton.mp hkey).symm⟩
    · cases s with
      | rollbacks => rfl
      | errors _ | durations _ => cases hs

/-- One observation with an instrument counts for its own series and for no other. -/
theorem take {k : Instrument} {os : List Observation} {samples : Samples}
    (h : Tallied k os samples) (o : Observation) : Tallied k (os ++ [o]) (k.take samples o) := by
  have hcount (s : Series) : (os ++ [o]).countP (·.series == s) =
      os.countP (·.series == s) + if o.series = s then 1 else 0 := by
    simp [List.countP_append, List.countP_cons]
  by_cases hk : o.instrument = k
  · subst hk
    obtain ⟨hmore, hkeeps⟩ := oneMore_take o h.keeps
    refine ⟨hkeeps, hmore.nodup h.nodup, fun key hkey => ?_, fun s hs => ?_⟩
    · rcases (hmore.mem_keys key).mp hkey with rfl | hkey
      · exact ⟨o.series, o.instrument_series, rfl⟩
      · exact h.series_of_key key hkey
    · rw [hcount]
      by_cases hseries : o.series = s
      · subst hseries
        rw [if_pos rfl, Series.counted_succ, hmore.countOf_self, h.countOf_eq _ hs]
      · have hkey : s.key ≠ o.series.key := fun heq =>
          hseries (Series.ext_of_key (o.instrument_series.trans hs.symm) heq.symm)
        rw [if_neg hseries, hmore.countOf_other _ hkey]
        exact h.countOf_eq s hs
  · rw [Instrument.take_of_ne hk]
    refine ⟨h.keeps, h.nodup, h.series_of_key, fun s hs => ?_⟩
    have hne : o.series ≠ s := by
      rintro rfl
      exact hk (o.instrument_series ▸ hs)
    rw [hcount, if_neg hne]
    exact h.countOf_eq s hs

theorem measured (c : Connection) (os : List Observation) (k : Instrument) :
    Tallied k os (k.measured c os).samples := by
  induction os using List.reverseRecOn with
  | nil => exact collector c k
  | append_singleton os o ih =>
    rw [Instrument.measured_append]
    exact ih.take o

end Tallied

/-! ## Lines of a series -/

/-- A line that shows a sample of a series of a connection. -/
def Shows (c : Connection) (s : Series) (line : String) : Prop :=
  ∃ name ∈ s.sampleNames, ∃ more value, line = sampleLine name (s.labels c ++ more) value

theorem Series.labels_ne_nil (c : Connection) (s : Series) : s.labels c ≠ [] :=
  List.cons_ne_nil _ _

theorem Series.brace_not_mem_sampleName {s : Series} {name : String} (h : name ∈ s.sampleNames) :
    '\x7b' ∉ name.toList := by
  have hall : ∀ name ∈ (rollbacks.sampleNames ++ (errors "").sampleNames ++
      (durations "").sampleNames), '\x7b' ∉ name.toList := by
    decide
  cases s <;> exact hall name (by simp_all [sampleNames])

theorem Series.instrument_eq_of_sampleName {s s' : Series} {name : String}
    (h : name ∈ s.sampleNames) (h' : name ∈ s'.sampleNames) : s.instrument = s'.instrument := by
  cases s <;> cases s' <;> first
    | rfl
    | simp_all [sampleNames]

/-- A line shows one series of one connection at most. -/
theorem Shows.unique {c c' : Connection} {s s' : Series} {line : String} (h : Shows c s line)
    (h' : Shows c' s' line) : c = c' ∧ s = s' := by
  obtain ⟨name, hname, more, value, rfl⟩ := h
  obtain ⟨name', hname', more', value', heq⟩ := h'
  have hne (c : Connection) (s : Series) (more : List (String × String)) :
      s.labels c ++ more ≠ [] := List.append_ne_nil_of_left_ne_nil (s.labels_ne_nil c) _
  obtain ⟨rfl, hchars⟩ := sampleLine_inj (Series.brace_not_mem_sampleName hname)
    (Series.brace_not_mem_sampleName hname') (hne _ _ _) (hne _ _ _) heq
  have hinstrument := Series.instrument_eq_of_sampleName hname hname'
  -- With the instrument the names of the labels are known, and the values tell the rest.
  have hnames : (s.labels c).map (·.1) = (s'.labels c').map (·.1) := by
    cases s <;> cases s' <;> first
      | rfl
      | cases hinstrument
  rw [labelChars_append, labelChars_append, List.append_assoc, List.append_assoc] at hchars
  obtain ⟨hlabels, -⟩ := labelChars_append_inj hnames hchars
  obtain ⟨rfl, hkey⟩ := Series.labels_inj hlabels
  exact ⟨rfl, Series.ext_of_key hinstrument hkey⟩

/-! ## The samples of an instrument -/

section Measured

variable {c : Connection} {s : Series} {os : List Observation}

theorem Instrument.brace_not_mem_name (k : Instrument) : '\x7b' ∉ k.name.toList := by
  cases k <;> decide

theorem Series.countName_mem (s : Series) : s.countName ∈ s.sampleNames := by
  cases s <;> simp [countName, sampleNames]

/-- The line that counts a series is no header. -/
theorem Series.isHeader_countName (s : Series) (labels : List (String × String)) (value : String) :
    isHeader (sampleLine s.countName labels value) = false := by
  cases s <;> simp [isHeader, sampleLine, countName]

theorem Instrument.linelessLabels_collector (c : Connection) (k : Instrument) :
    LinelessLabels (k.collector c).metric := by
  have hconnection : ∀ label ∈ Registry.connectionLabels c, '\n' ∉ label.1.toList := by
    simp [Registry.connectionLabels]
  cases k with
  | errors | durations => exact ⟨hconnection, by simp [collector, Registry.errorCounter,
      Registry.durationHistogram]⟩
  | rollbacks => exact ⟨hconnection, fun _ h => absurd h List.not_mem_nil⟩

/-- What an instrument keeps for a series is shown under the names of its samples. -/
theorem Series.sampleName_mem {samples : Samples} (hkeeps : s.instrument.Keeps samples)
    {suffix : String} (h : suffix ∈ suffixes samples) :
    s.instrument.name ++ suffix ∈ s.sampleNames := by
  have hcounter (hsingle : suffix ∈ [""]) : s.instrument.name ++ suffix = s.instrument.name := by
    rw [List.mem_singleton.mp hsingle, String.append_empty]
  cases samples with
  | counters _ =>
    rw [hcounter h]
    cases s with
    | rollbacks | errors _ => exact List.mem_singleton_self _
    | durations _ => exact hkeeps.elim
  | histograms _ =>
    cases s with
    | rollbacks | errors _ => exact hkeeps.elim
    | durations _ => exact List.mem_map_of_mem (f := (Instrument.durations.name ++ ·)) h

/-- A line for an instrument of a connection shows a series of both. -/
theorem Shows.of_isLineOf {k : Instrument} {key : List String} {line : String}
    (h : IsLineOf line (k.measured c os) key) :
    ∃ s : Series, s.instrument = k ∧ s.key = key ∧ Shows c s line := by
  have ht := Tallied.measured c os k
  obtain ⟨hkey, suffix, hsuffix, more, value, rfl, -⟩ := h
  obtain ⟨s, rfl, rfl⟩ := ht.series_of_key key hkey
  refine ⟨s, rfl, rfl, _, Series.sampleName_mem ht.keeps hsuffix, more, value, ?_⟩
  rw [Instrument.measured_metric, Instrument.collector_name, Series.sampleLabels_eq]

/-- Lines that show other series give no value for the count of a series. -/
theorem valuesOf_eq_nil {lines : List String}
    (h : ∀ line ∈ lines, ∃ c' s', Shows c' s' line ∧ (c', s') ≠ (c, s)) :
    valuesOf s.countName (s.labels c) lines = [] := by
  refine List.filterMap_eq_nil_iff.mpr fun line hline => ?_
  obtain ⟨c', s', hshows, hne⟩ := h line hline
  by_contra hsome
  obtain ⟨value, hvalue⟩ := Option.ne_none_iff_exists'.mp hsome
  have hself : Shows c s line :=
    ⟨_, s.countName_mem, [], value, by rw [value?_eq_some_iff.mp hvalue, List.append_nil]⟩
  obtain ⟨rfl, rfl⟩ := hshows.unique hself
  exact hne rfl

/-- Of lines under distinct label values, those under the values of a series give its count. -/
theorem valuesOf_flatMap {α : Type} (c : Connection) (os : List Observation) (k : Instrument)
    {values : List (List String × α)} {linesOf : List String × α → List String}
    (hnodup : (values.map (·.1)).Nodup)
    (hlines : ∀ entry ∈ values, ∀ line ∈ linesOf entry, IsLineOf line (k.measured c os) entry.1) :
    valuesOf s.countName (s.labels c) (values.flatMap linesOf) =
      (values.lookup s.key).elim [] fun a =>
        valuesOf s.countName (s.labels c) (linesOf (s.key, a)) := by
  unfold valuesOf
  rw [List.filterMap_flatMap]
  refine flatMap_eq_lookup hnodup fun entry hentry hkey => valuesOf_eq_nil fun line hline => ?_
  obtain ⟨s', -, hkey', hshows⟩ := Shows.of_isLineOf (hlines entry hentry line hline)
  exact ⟨c, s', hshows, fun heq => hkey (by cases heq; exact hkey'.symm)⟩

theorem sampleName_counter {values : List (List String × Nat)}
    (h : s.instrument.Keeps (.counters values)) : s.instrument.name = s.countName := by
  cases s with
  | rollbacks | errors _ => rfl
  | durations _ => exact h.elim

theorem sampleName_histogram {values : List (List String × Histogram)}
    (h : s.instrument.Keeps (.histograms values)) :
    s.instrument.name ++ "_count" = s.countName := by
  cases s with
  | rollbacks | errors _ => exact h.elim
  | durations _ => rfl

/-- The lines for the instrument of a series show how often the series was observed. -/
theorem valuesOf_measured (c : Connection) (s : Series) (os : List Observation) :
    valuesOf s.countName (s.labels c) (sampleLines [s.instrument.measured c os]) =
      s.shown (os.countP (·.series == s)) := by
  obtain ⟨hkeeps, hnodup, -, hcount⟩ := Tallied.measured c os s.instrument
  have hname : (s.instrument.measured c os).metric.name = s.instrument.name :=
    Instrument.collector_name c s.instrument
  have hlabels : sampleLabels (s.instrument.measured c os).metric s.key = s.labels c :=
    s.sampleLabels_eq c
  unfold Series.shown
  rw [← hcount s rfl]
  cases hsamples : (s.instrument.measured c os).samples with
  | counters values =>
    rw [hsamples] at hkeeps hnodup
    have hlines : sampleLines [s.instrument.measured c os] = values.flatMap fun entry =>
        [sampleLine (s.instrument.measured c os).metric.name
          (sampleLabels (s.instrument.measured c os).metric entry.1) (Text.natural entry.2)] := by
      simp [sampleLines, collectorSamples, hsamples, List.flatMap_map]
    rw [hlines, valuesOf_flatMap c os s.instrument hnodup]
    · show _ = (values.lookup s.key).toList.map Text.natural
      cases values.lookup s.key with
      | none => rfl
      | some n =>
        simp only [Option.elim_some, hname, hlabels, sampleName_counter hkeeps]
        exact List.filterMap_cons_some value?_sampleLine
    · intro entry hentry line hline
      rw [List.mem_singleton.mp hline]
      exact isLineOf_counter hsamples hentry
  | histograms values =>
    rw [hsamples] at hkeeps hnodup
    have hlines : sampleLines [s.instrument.measured c os] = values.flatMap fun entry =>
        histogramLines (s.instrument.measured c os).metric.name
          (sampleLabels (s.instrument.measured c os).metric entry.1) entry.2 := by
      simp [sampleLines, collectorSamples, hsamples, List.flatMap_map]
    rw [hlines, valuesOf_flatMap c os s.instrument hnodup]
    · show _ = ((values.lookup s.key).map (·.count)).toList.map Text.natural
      cases values.lookup s.key with
      | none => rfl
      | some h =>
        simp only [Option.elim_some, hname, hlabels, ← sampleName_histogram hkeeps]
        exact valuesOf_histogramLines s.instrument.brace_not_mem_name (s.labels_ne_nil c) h
    · intro entry hentry line hline
      exact isLineOf_histogram hsamples hentry hline

end Measured

/-! ## The exposition of a registry -/

theorem flatMap_eq_of_unique {α β : Type} {l : List α} {a : α} {g : α → List β} (hl : l.Nodup)
    (ha : a ∈ l) (hother : ∀ b ∈ l, b ≠ a → g b = []) : l.flatMap g = g a := by
  obtain ⟨before, after, rfl⟩ := List.append_of_mem ha
  have hapart : a ∉ before ++ after := (List.nodup_middle.mp hl).notMem
  have hnone (part : List α) (hpart : ∀ b ∈ part, b ∈ before ++ after) : part.flatMap g = [] := by
    refine List.flatMap_eq_nil_iff.mpr fun b hb => hother b ?_ fun heq => ?_
    · exact List.perm_middle.symm.subset (List.mem_cons_of_mem _ (hpart b hb))
    · exact hapart (heq ▸ hpart b hb)
  rw [List.flatMap_append, List.flatMap_cons, hnone before fun b hb => List.mem_append_left _ hb,
    hnone after fun b hb => List.mem_append_right _ hb, List.nil_append, List.append_nil]

section Holds

variable {r : Registry} {seen : List Connection} {log : Connection → List Observation}

theorem sampleLines_laidOut (g : Connection → Instrument → Collector) :
    sampleLines (laidOut seen g) =
      seen.flatMap fun c => Instrument.all.flatMap fun k => sampleLines [g c k] := by
  simp [sampleLines, laidOut, List.flatMap_assoc, List.flatMap_map]

/-- Of all samples, those of the instrument of a series give its count. -/
theorem valuesOf_laidOut (log : Connection → List Observation) (hseen : seen.Nodup)
    {c : Connection} (hc : c ∈ seen) (s : Series) :
    valuesOf s.countName (s.labels c)
        (sampleLines (laidOut seen fun c k => k.measured c (log c))) =
      s.shown ((log c).countP (·.series == s)) := by
  have hnone (c' : Connection) (k : Instrument) (hne : (c', k) ≠ (c, s.instrument)) :
      valuesOf s.countName (s.labels c) (sampleLines [k.measured c' (log c')]) = [] := by
    refine valuesOf_eq_nil fun line hline => ?_
    obtain ⟨collector, hcollector, key, hkey⟩ := exists_isLineOf hline
    obtain rfl := List.mem_singleton.mp hcollector
    obtain ⟨s', rfl, -, hshows⟩ := Shows.of_isLineOf hkey
    exact ⟨c', s', hshows, fun heq => hne (by cases heq; rfl)⟩
  rw [← valuesOf_measured c s (log c), sampleLines_laidOut]
  unfold valuesOf at hnone ⊢
  simp only [List.filterMap_flatMap]
  rw [flatMap_eq_of_unique hseen hc,
    flatMap_eq_of_unique (by decide) (Instrument.mem_all s.instrument)]
  · intro k _ hk
    exact hnone c k fun heq => hk (Prod.mk.inj heq).2
  · intro c' _ hc'
    refine List.flatMap_eq_nil_iff.mpr fun k _ => hnone c' k fun heq => hc' (Prod.mk.inj heq).1

variable (h : r.Holds seen log)

include h

theorem Registry.Holds.exists_measured {collector : Collector} (hc : collector ∈ r.collectors) :
    ∃ c ∈ seen, ∃ k, Instrument.measured c (log c) k = collector :=
  mem_laidOut.mp (h.collectors_eq ▸ hc)

theorem Registry.Holds.isValid {collector : Collector} (hc : collector ∈ r.collectors) :
    collector.metric.isValid = true := by
  obtain ⟨c, -, k, rfl⟩ := h.exists_measured hc
  exact k.isValid_collector c

/-- An exposition shows the count of each series of each connection once. -/
theorem Registry.Holds.valuesOf_exposition {c : Connection} (hc : c ∈ seen) (s : Series) :
    valuesOf s.countName (s.labels c) r.exposition = s.shown ((log c).countP (·.series == s)) := by
  have hperm := (exposition_perm fun _ => h.isValid).filterMap (value? s.countName (s.labels c))
  rw [h.collectors_eq] at hperm
  have hshown := valuesOf_laidOut log h.nodup hc s
  -- Headers give no values, so that nothing is lost without them.
  have hheaders : (r.exposition.filter (!isHeader ·)).filterMap (value? s.countName (s.labels c)) =
      valuesOf s.countName (s.labels c) r.exposition := by
    rw [List.filterMap_filter]
    refine List.filterMap_congr fun line _ => ?_
    split_ifs with hheader
    · rfl
    · refine (Option.eq_none_iff_forall_ne_some.mpr fun value hvalue => hheader ?_).symm
      rw [value?_eq_some_iff.mp hvalue, s.isHeader_countName]
      rfl
  unfold valuesOf at hshown
  rw [hheaders, hshown] at hperm
  unfold Series.shown at hperm ⊢
  cases hcounted : s.counted ((log c).countP (·.series == s)) with
  | none =>
    rw [hcounted] at hperm
    exact List.perm_nil.mp hperm
  | some n =>
    rw [hcounted] at hperm
    exact List.perm_singleton.mp hperm

/-- A line of an exposition is whole, and it is a header or shows a series of a connection. -/
theorem Registry.Holds.line {line : String} (hline : line ∈ r.exposition) :
    '\n' ∉ line.toList ∧ (isHeader line = true ∨ ∃ c ∈ seen, ∃ s, Shows c s line) := by
  refine ⟨lineFeed_not_mem_exposition (fun _ => h.isValid) (fun collector hc => ?_) hline, ?_⟩
  · obtain ⟨c, -, k, rfl⟩ := h.exists_measured hc
    exact k.linelessLabels_collector c
  · rcases mem_exposition hline with ⟨_, -, hheader⟩ | hsample
    · exact .inl hheader.isHeader
    · obtain ⟨collector, hc, key, hkey⟩ := exists_isLineOf hsample
      obtain ⟨c, hseen, k, rfl⟩ := h.exists_measured hc
      obtain ⟨s, -, -, hshows⟩ := Shows.of_isLineOf hkey
      exact .inr ⟨c, hseen, s, hshows⟩

end Holds

/-! ## A registry in use -/

/-- A registry in use: the handles that were given out so far, each with the connection that it was
asked for, and the observations that were made so far, each with the connection of the handle that
it was made with. Copies of a registry share what is registered, and so are the same registry. -/
structure Usage where
  registry : Registry
  handles : List (Connection × Instruments)
  made : List (Connection × Observation)

namespace Usage

/-- What can be done with a registry. -/
inductive Step where
  /-- Ask for a handle on the instruments of a connection. -/
  | connect (c : Connection)
  /-- Make an observation with the handle of that number. -/
  | observe (handle : Nat) (o : Observation)

/-- The connection that a handle is asked for. -/
def Step.asked? : Step → Option Connection
  | .connect c => some c
  | .observe _ _ => none

/-- A registry that was not used yet. -/
def start : Usage := ⟨.empty, [], []⟩

/-- Use a registry once. A handle is given out if the request is granted; with a handle that was not
given out, nothing can be observed. -/
def step (u : Usage) : Step → Usage
  | .connect c =>
    match u.registry.connect c with
    | (.ok i, r) => { u with registry := r, handles := u.handles ++ [(c, i)] }
    | (.error _, r) => { u with registry := r }
  | .observe handle o =>
    match u.handles[handle]? with
    | some (c, i) => { u with registry := u.registry.record i o, made := u.made ++ [(c, o)] }
    | none => u

/-- Use a registry for the first time and on. -/
def run (steps : List Step) : Usage := steps.foldl step start

/-- The observations that were made with the handles of a connection. -/
def observations (u : Usage) (c : Connection) : List Observation :=
  (u.made.filter (·.1 == c)).map (·.2)

/-- How often a series of a connection was observed. -/
def count (u : Usage) (c : Connection) (s : Series) : Nat :=
  (u.observations c).countP (·.series == s)

/-- A registry in use that has seen some connections. -/
structure Kept (u : Usage) (seen : List Connection) : Prop where
  holds : u.registry.Holds seen u.observations
  handle : ∀ h ∈ u.handles, h.1 ∈ seen ∧ h.2 = .nth (seen.idxOf h.1)
  made : ∀ m ∈ u.made, m.1 ∈ seen
  asked : ∀ c ∈ seen, c ∈ u.handles.map (·.1)

theorem kept_start : start.Kept [] := ⟨Registry.holds_empty _, nofun, nofun, nofun⟩

theorem observations_append_self (u : Usage) (c : Connection) (o : Observation) (r : Registry) :
    observations { u with registry := r, made := u.made ++ [(c, o)] } c =
      u.observations c ++ [o] := by
  simp [observations]

theorem observations_append_of_ne {u : Usage} {c c' : Connection} (h : c' ≠ c) (o : Observation)
    (r : Registry) :
    observations { u with registry := r, made := u.made ++ [(c, o)] } c' = u.observations c' := by
  simp [observations, Ne.symm h]

/-- Nothing was observed of a connection that was not seen. -/
theorem Kept.observations_eq_nil {u : Usage} {seen : List Connection} (h : u.Kept seen)
    {c : Connection} (hc : c ∉ seen) : u.observations c = [] := by
  unfold observations
  rw [List.map_eq_nil_iff, List.filter_eq_nil_iff]
  intro m hm heq
  exact hc (eq_of_beq heq ▸ h.made m hm)

/-- Every request for a handle is granted, and every use leaves a registry that holds what it
should. -/
theorem Kept.step {u : Usage} {seen : List Connection} (h : u.Kept seen) (st : Step) :
    ∃ seen', (u.step st).Kept seen' ∧
      (u.step st).handles.map (·.1) = u.handles.map (·.1) ++ st.asked?.toList := by
  cases st with
  | connect c =>
    by_cases hc : c ∈ seen
    · have hconnect := h.holds.connect_of_mem hc
      -- Only the handle is new, and it is one for the place that the connection has.
      refine ⟨seen, ?_, ?_⟩
      · simp only [Usage.step, hconnect]
        refine ⟨h.holds, fun handle hhandle => ?_, h.made, fun c hc => ?_⟩
        · rcases List.mem_append.mp hhandle with hhandle | hhandle
          · exact h.handle handle hhandle
          · rw [List.mem_singleton.mp hhandle]
            exact ⟨hc, rfl⟩
        · rw [List.map_append]
          exact List.mem_append_left _ (h.asked c hc)
      · simp only [Usage.step, hconnect]
        simp [Step.asked?]
    · obtain ⟨r, hconnect, hholds⟩ := h.holds.connect_of_not_mem hc (h.observations_eq_nil hc)
      -- The new instruments come behind all others, so every other connection keeps its place.
      refine ⟨seen ++ [c], ?_, ?_⟩
      · simp only [Usage.step, hconnect]
        refine ⟨hholds, fun handle hhandle => ?_, fun m hm => List.mem_append_left _ (h.made m hm),
          fun c' hc' => ?_⟩
        · rcases List.mem_append.mp hhandle with hhandle | hhandle
          · obtain ⟨hseen, hplace⟩ := h.handle handle hhandle
            rw [List.idxOf_append_of_mem hseen]
            exact ⟨List.mem_append_left _ hseen, hplace⟩
          · rw [List.mem_singleton.mp hhandle]
            refine ⟨by simp, ?_⟩
            simp [List.idxOf_append, hc]
        · rw [List.map_append]
          exact List.mem_append.mpr ((List.mem_append.mp hc').imp_left (h.asked c'))
      · simp only [Usage.step, hconnect]
        simp [Step.asked?]
  | observe handle o =>
    simp only [Usage.step]
    split
    · rename_i c i hhandle
      obtain ⟨hc, hplace⟩ := h.handle _ (List.mem_of_getElem? hhandle)
      obtain rfl : i = .nth (seen.idxOf c) := hplace
      refine ⟨seen, ⟨?_, h.handle, fun m hm => ?_, h.asked⟩, by simp [Step.asked?]⟩
      · exact h.holds.record hc (observations_append_self _ _ _ _)
          fun c' hc' => observations_append_of_ne hc' _ _
      · rcases List.mem_append.mp hm with hm | hm
        · exact h.made m hm
        · rw [List.mem_singleton.mp hm]
          exact hc
    · exact ⟨seen, h, by simp [Step.asked?]⟩

theorem run_kept (steps : List Step) :
    ∃ seen, (run steps).Kept seen ∧
      (run steps).handles.map (·.1) = steps.filterMap Step.asked? := by
  induction steps using List.reverseRecOn with
  | nil => exact ⟨[], kept_start, rfl⟩
  | append_singleton steps st ih =>
    obtain ⟨seen, hkept, hhandles⟩ := ih
    obtain ⟨seen', hkept', hhandles'⟩ := hkept.step st
    have hrun : run (steps ++ [st]) = (run steps).step st := by
      simp [run]
    rw [hrun]
    refine ⟨seen', hkept', ?_⟩
    rw [hhandles', hhandles, List.filterMap_append]
    cases st <;> rfl

/-- What holds at any moment of a registry in use, with the connections that were asked for. -/
structure Faithful (u : Usage) (asked : List Connection) : Prop where
  /-- A handle was given out for each request, -/
  granted : u.handles.map (·.1) = asked
  /-- and will be given out for the next. -/
  grants : ∀ c, ∃ i r, u.registry.connect c = (.ok i, r)
  /-- The handles of a connection act on the same instruments, -/
  shared : ∀ {c i j}, (c, i) ∈ u.handles → (c, j) ∈ u.handles → i = j
  /-- which hold what the observations of the connection amount to, -/
  measured : ∀ {c i}, (c, i) ∈ u.handles → ∀ k : Instrument,
    u.registry.collectors[k.position i]? = some (k.measured c (u.observations c))
  /-- and are left alone by the handles of other connections. -/
  apart : ∀ {c i d j}, (c, i) ∈ u.handles → (d, j) ∈ u.handles → c ≠ d → ∀ o (k : Instrument),
    (u.registry.record i o).collectors[k.position j]? = u.registry.collectors[k.position j]?
  /-- The exposition shows how often each series was observed, in one line. -/
  counted : ∀ c ∈ asked, ∀ s : Series,
    valuesOf s.countName (s.labels c) u.registry.exposition = s.shown (u.count c s)
  /-- No line of it is broken in two, -/
  whole : ∀ line ∈ u.registry.exposition, '\n' ∉ line.toList
  /-- and all but the headers show one series of one connection each. -/
  distinct : ∀ line ∈ u.registry.exposition, isHeader line = true ∨
    ∃ c ∈ asked, ∃ s, Shows c s line ∧ ∀ c' s', Shows c' s' line → c' = c ∧ s' = s

/-- However handles are asked for and used, the registry is a faithful record of it. -/
theorem run_faithful (steps : List Step) :
    (run steps).Faithful (steps.filterMap Step.asked?) := by
  obtain ⟨seen, hkept, hgranted⟩ := run_kept steps
  generalize run steps = u at hkept hgranted
  rw [← hgranted]
  have hseen {c : Connection} {i : Instruments} (h : (c, i) ∈ u.handles) :
      c ∈ seen ∧ i = .nth (seen.idxOf c) := hkept.handle _ h
  have hasked {c : Connection} (hc : c ∈ u.handles.map (·.1)) : c ∈ seen := by
    obtain ⟨handle, hhandle, rfl⟩ := List.mem_map.mp hc
    exact (hkept.handle handle hhandle).1
  refine ⟨rfl, ?grants, ?shared, ?measured, ?apart, ?counted, ?whole, ?distinct⟩
  case grants =>
    intro c
    by_cases hc : c ∈ seen
    · exact ⟨_, _, hkept.holds.connect_of_mem hc⟩
    · obtain ⟨r, hconnect, -⟩ := hkept.holds.connect_of_not_mem hc (hkept.observations_eq_nil hc)
      exact ⟨_, _, hconnect⟩
  case shared =>
    intro c i j hi hj
    rw [(hseen hi).2, (hseen hj).2]
  case measured =>
    intro c i hi k
    obtain ⟨hc, rfl⟩ := hseen hi
    exact hkept.holds.collectors_getElem? hc k
  case apart =>
    intro c i d j hi hj hne o k
    obtain ⟨hc, rfl⟩ := hseen hi
    obtain ⟨hd, rfl⟩ := hseen hj
    refine Registry.record_getElem? fun heq => hne ?_
    rw [Instrument.position_nth, Instrument.position_nth] at heq
    -- Three instruments to a connection: equal positions mean equal places.
    have hk := k.index_lt
    have ho := o.instrument.index_lt
    exact (List.idxOf_inj hc).mp (by omega)
  case counted =>
    intro c hc s
    exact hkept.holds.valuesOf_exposition (hasked hc) s
  case whole =>
    intro line hline
    exact (hkept.holds.line hline).1
  case distinct =>
    intro line hline
    refine (hkept.holds.line hline).2.imp_right ?_
    rintro ⟨c, hc, s, hshows⟩
    exact ⟨c, hkept.asked c hc, s, hshows, fun c' s' hshows' => hshows'.unique hshows⟩

/-- Two connections that differ in how their names have to be escaped. -/
def quotedSteps : List Step :=
  [.connect ⟨"a\"", "b"⟩, .connect ⟨"a\\\"", "b"⟩, .observe 0 .rollback, .connect ⟨"a\"", "b"⟩,
    .observe 2 .rollback, .observe 1 .rollback, .observe 1 (.error "x\ny")]

/-- Rollbacks with both handles of the first connection are counted together, and apart from what
was observed with the handle of the second. -/
theorem run_faithful_of_quotes :
    valuesOf "db_tx_rollbacks_total" (Registry.connectionLabels ⟨"a\"", "b"⟩)
        (run quotedSteps).registry.exposition = ["2"] ∧
      valuesOf "db_tx_rollbacks_total" (Registry.connectionLabels ⟨"a\\\"", "b"⟩)
        (run quotedSteps).registry.exposition = ["1"] ∧
      valuesOf "db_query_errors_total"
        (Registry.connectionLabels ⟨"a\\\"", "b"⟩ ++ [("operation", "x\ny")])
        (run quotedSteps).registry.exposition = ["1"] := by
  have h := run_faithful quotedSteps
  refine ⟨?_, ?_, ?_⟩
  · have hcount := h.counted ⟨"a\"", "b"⟩ (by decide) .rollbacks
    rwa [show (run quotedSteps).count ⟨"a\"", "b"⟩ .rollbacks = 2 by decide +kernel] at hcount
  · have hcount := h.counted ⟨"a\\\"", "b"⟩ (by decide) .rollbacks
    rwa [show (run quotedSteps).count ⟨"a\\\"", "b"⟩ .rollbacks = 1 by decide +kernel] at hcount
  · have hcount := h.counted ⟨"a\\\"", "b"⟩ (by decide) (.errors "x\ny")
    rwa [show (run quotedSteps).count ⟨"a\\\"", "b"⟩ (.errors "x\ny") = 1 by decide +kernel]
      at hcount

end Usage

end UserAccounts
