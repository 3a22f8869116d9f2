import UserAccounts.Config.Sources
import UserAccounts.Proofs.Url.Form

/-!
# Which layer a setting comes from

`load_layers` says of every command line and every environment whether they give a configuration and
which one: each setting is what its flag says, or else its variable, or else what is built in,
whatever the other settings are. The exception are command lines that echo what is built in. They
count as if they said nothing, so that a variable wins over a flag that was given.

* `Spells` — how a command line gives settings, in one way only (`Spells.unique`);
* `readArguments?_eq_some_iff` — what is read is what the command line spells;
* `ofSource?_eq_some_iff` — a configuration is made of exactly the sources that say what it says.
-/

namespace UserAccounts.Config

/-! ## Flags -/

namespace Setting

theorem mem_all (s : Setting) : s ∈ all := by
  cases s <;> decide

/-- A flag looks like one, and there is no equals sign in it. -/
theorem flag_chars (s : Setting) :
    '=' ∉ s.flag.toList ∧ ∃ first rest, s.flag.toList = '-' :: '-' :: first :: rest := by
  cases s <;> exact ⟨by decide, _, _, rfl⟩

theorem flag_injective : Function.Injective flag := by
  intro s t h
  have hall : ∀ s ∈ all, ∀ t ∈ all, s.flag = t.flag → s = t := by decide +kernel
  exact hall s s.mem_all t t.mem_all h

theorem find?_flag_eq_some_iff {name : String} {s : Setting} :
    (all.find? fun s => s.flag == name) = some s ↔ name = s.flag := by
  have hfound {name : String} {t : Setting} (h : (all.find? fun s => s.flag == name) = some t) :
      t.flag = name := by
    have hname := List.find?_some h
    exact beq_iff_eq.mp hname
  constructor
  · intro h
    exact (hfound h).symm
  · rintro rfl
    cases h : all.find? fun t => t.flag == s.flag with
    | none => exact absurd (beq_self_eq_true s.flag) (List.find?_eq_none.mp h s s.mem_all)
    | some t => exact congrArg some (flag_injective (hfound h))

end Setting

/-- A flag with the value that is attached to it, if there is one. -/
def joinFlag (name : String) : Option String → String
  | some value => name ++ "=" ++ value
  | none => name

theorem splitFlag_eq (argument : String) :
    splitFlag argument =
      match Url.breakAt (· == '=') argument.toList with
      | (name, _ :: value) => (String.ofList name, some (String.ofList value))
      | (name, []) => (String.ofList name, none) := rfl

theorem splitFlag_joinFlag (s : Setting) (attached : Option String) :
    splitFlag (joinFlag s.flag attached) = (s.flag, attached) := by
  cases attached with
  | none =>
    show splitFlag s.flag = _
    rw [splitFlag_eq, Url.breakAt_of_not_mem s.flag_chars.1]
    simp
  | some value =>
    have hchars : (joinFlag s.flag (some value)).toList = s.flag.toList ++ '=' :: value.toList := by
      simp [joinFlag]
    have hname : ∀ c ∈ s.flag.toList, (c == '=') = false := by
      intro c hc
      rw [beq_eq_false_iff_ne]
      rintro rfl
      exact s.flag_chars.1 hc
    rw [splitFlag_eq, hchars, Url.breakAt_append_cons hname rfl]
    simp

theorem joinFlag_injective {s t : Setting} {a b : Option String}
    (h : joinFlag s.flag a = joinFlag t.flag b) : s = t ∧ a = b := by
  have hsplit := congrArg splitFlag h
  rw [splitFlag_joinFlag, splitFlag_joinFlag] at hsplit
  obtain ⟨hflag, hattached⟩ := Prod.mk.inj hsplit
  exact ⟨Setting.flag_injective hflag, hattached⟩

/-- No flag is the double dash that ends a command line. -/
theorem joinFlag_ne_dashes (s : Setting) (attached : Option String) :
    joinFlag s.flag attached ≠ "--" := by
  intro h
  have hsplit := splitFlag_joinFlag s attached
  rw [h] at hsplit
  obtain ⟨-, first, others, hflag⟩ := s.flag_chars
  rw [← (Prod.mk.inj hsplit).1] at hflag
  cases hflag

theorem joinFlag_splitFlag (argument : String) :
    joinFlag (splitFlag argument).1 (splitFlag argument).2 = argument := by
  have hparts := List.takeWhile_append_dropWhile (p := fun c => !(c == '='))
    (l := argument.toList)
  apply String.toList_injective
  rw [splitFlag_eq, Url.breakAt, List.span_eq_takeWhile_dropWhile]
  -- What is left after the name is nothing, or it begins with the equals sign.
  cases hafter : argument.toList.dropWhile fun c => !(c == '=') with
  | nil =>
    rw [hafter, List.append_nil] at hparts
    simp [joinFlag, hparts]
  | cons c after =>
    have hequals : c = '=' := by
      have hhead := List.head_dropWhile_not (fun c => !(c == '=')) (l := argument.toList)
        (by rw [hafter]; simp)
      simpa [hafter] using hhead
    rw [hafter, hequals] at hparts
    simpa [joinFlag] using hparts

/-! ## What a command line spells -/

/-- How a command line gives values to settings: with flags one after the other, their values in the
same argument or in the next one. -/
inductive Spells : List String → List (Setting × String) → Prop
  | nothing : Spells [] []
  | closed : Spells ["--"] []
  | attached {rest : List String} {given : List (Setting × String)} (s : Setting) (value : String)
      (others : Spells rest given) : Spells ((s.flag ++ "=" ++ value) :: rest) ((s, value) :: given)
  | separate {rest : List String} {given : List (Setting × String)} (s : Setting) {value : String}
      (isValue : mayBeValue value = true) (others : Spells rest given) :
      Spells (s.flag :: value :: rest) ((s, value) :: given)

/-- Take in flags with their values, one after the other. -/
def putAll? (source : Source) : List (Setting × String) → Option Source
  | [] => some source
  | (s, value) :: rest => (putFlag? source s value).bind (putAll? · rest)

section Reading

variable {source result : Source} {arguments rest : List String}
  {given : List (Setting × String)}

theorem readArguments?_flag (s : Setting) (attached : Option String) :
    readArguments? source (joinFlag s.flag attached :: rest) =
      match attached, rest with
      | some value, rest => (putFlag? source s value).bind (readArguments? · rest)
      | none, value :: rest =>
        if mayBeValue value then (putFlag? source s value).bind (readArguments? · rest) else none
      | none, [] => none := by
  rw [readArguments?, splitFlag_joinFlag]
  · dsimp only
    rw [Setting.find?_flag_eq_some_iff.mpr rfl]
    cases attached with
    | some value =>
      dsimp only
      cases putFlag? source s value <;> rfl
    | none =>
      cases rest with
      | nil => rfl
      | cons value rest =>
        dsimp only
        cases putFlag? source s value <;> rfl
  · exact fun h => absurd h (joinFlag_ne_dashes s attached)

theorem readArguments?_sound (h : readArguments? source arguments = some result) :
    ∃ given, Spells arguments given ∧ putAll? source given = some result := by
  fun_induction readArguments? source arguments with
  | case1 source => exact ⟨[], .nothing, h⟩
  | case2 source => exact ⟨[], .closed, h⟩
  | case4 source argument name s value rest hname put hput _ hsplit ih =>
    obtain ⟨given, hspells, hgiven⟩ := ih h
    have hargument := joinFlag_splitFlag argument
    rw [hsplit, Setting.find?_flag_eq_some_iff.mp hname] at hargument
    rw [← hargument]
    refine ⟨(s, value) :: given, .attached s value hspells, ?_⟩
    rw [putAll?, hput]
    exact hgiven
  | case6 source argument name s value rest hname hvalue put hput _ hsplit ih =>
    obtain ⟨given, hspells, hgiven⟩ := ih h
    have hargument := joinFlag_splitFlag argument
    rw [hsplit, Setting.find?_flag_eq_some_iff.mp hname] at hargument
    rw [← hargument]
    refine ⟨(s, value) :: given, .separate s hvalue hspells, ?_⟩
    rw [putAll?, hput]
    exact hgiven
  | _ => cases h

theorem readArguments?_complete (hspells : Spells arguments given)
    (hgiven : putAll? source given = some result) :
    readArguments? source arguments = some result := by
  induction hspells generalizing source with
  | nothing => exact hgiven
  | closed => exact hgiven
  | @attached rest given s value _ ih =>
    obtain ⟨put, hput, hothers⟩ := Option.bind_eq_some_iff.mp hgiven
    show readArguments? source (joinFlag s.flag (some value) :: rest) = _
    rw [readArguments?_flag]
    dsimp only
    rw [hput]
    exact ih hothers
  | @separate rest given s value hvalue _ ih =>
    obtain ⟨put, hput, hothers⟩ := Option.bind_eq_some_iff.mp hgiven
    show readArguments? source (joinFlag s.flag none :: value :: rest) = _
    rw [readArguments?_flag]
    dsimp only
    rw [if_pos hvalue, hput]
    exact ih hothers

/-- What is read is what the command line spells. -/
theorem readArguments?_eq_some_iff :
    readArguments? source arguments = some result ↔
      ∃ given, Spells arguments given ∧ putAll? source given = some result := by
  constructor
  · exact readArguments?_sound
  · rintro ⟨given, hspells, hgiven⟩
    exact readArguments?_complete hspells hgiven

end Reading

/-- What a command line gives that begins with a flag. -/
theorem Spells.of_flag {s : Setting} {a : Option String} {arguments rest : List String}
    {given : List (Setting × String)} (h : Spells arguments given)
    (harguments : arguments = joinFlag s.flag a :: rest) :
    match a, rest with
    | some value, rest => ∃ others, given = (s, value) :: others ∧ Spells rest others
    | none, value :: rest => ∃ others, given = (s, value) :: others ∧ Spells rest others
    | none, [] => False := by
  cases h with
  | nothing => cases harguments
  | closed => exact absurd (List.cons.inj harguments).1.symm (joinFlag_ne_dashes s a)
  | @attached rest' given t value others =>
    obtain ⟨hhead, rfl⟩ := List.cons.inj harguments
    obtain ⟨rfl, rfl⟩ := joinFlag_injective (s := t) (a := some value) hhead
    exact ⟨given, rfl, others⟩
  | @separate rest' given t value isValue others =>
    obtain ⟨hhead, rfl⟩ := List.cons.inj harguments
    obtain ⟨rfl, rfl⟩ := joinFlag_injective (s := t) (a := none) hhead
    exact ⟨given, rfl, others⟩

/-- A command line spells one thing only. -/
theorem Spells.unique {arguments : List String} {given given' : List (Setting × String)}
    (h : Spells arguments given) (h' : Spells arguments given') : given = given' := by
  induction h generalizing given' with
  | nothing =>
    cases h'
    rfl
  | closed =>
    generalize harguments : ["--"] = arguments at h'
    cases h' with
    | nothing => rfl
    | closed => rfl
    | attached s value others =>
      exact absurd (List.cons.inj harguments).1.symm (joinFlag_ne_dashes s (some value))
    | separate s isValue others => cases (List.cons.inj harguments).2
  | @attached rest given s value others ih =>
    have hflag := h'.of_flag (s := s) (a := some value) rfl
    obtain ⟨given', rfl, hothers⟩ := hflag
    rw [ih hothers]
  | @separate rest given s value isValue others ih =>
    obtain ⟨given', rfl, hothers⟩ := h'.of_flag (s := s) (a := none) rfl
    rw [ih hothers]

/-! ## Sources -/

@[ext] theorem Source.ext {a b : Source} (h : ∀ s, a.value? s = b.value? s) : a = b := by
  cases a
  cases b
  exact congrArg Source.mk (funext h)

theorem Source.agrees_iff {a b : Source} : a.agrees b = true ↔ a = b := by
  constructor
  · intro h
    apply Source.ext
    intro s
    exact beq_iff_eq.mp (List.all_eq_true.mp h s s.mem_all)
  · rintro rfl
    exact List.all_eq_true.mpr fun s _ => beq_self_eq_true _

/-- What the given flags say. -/
def flagged (given : List (Setting × String)) : Source :=
  ⟨fun s => (given.lookup s).bind (flagValue? s)⟩

/-- Flags that are given at most once, with values that they take. -/
structure Takes (given : List (Setting × String)) : Prop where
  once : (given.map Prod.fst).Nodup
  valid : ∀ p ∈ given, (flagValue? p.1 p.2).isSome = true

section Putting

variable {source result : Source} {s : Setting} {text : String} {value : Literal}
  {given rest : List (Setting × String)}

theorem takes_cons_iff :
    Takes ((s, text) :: rest) ↔
      s ∉ rest.map Prod.fst ∧ (flagValue? s text).isSome = true ∧ Takes rest := by
  constructor
  · intro h
    obtain ⟨hfirst, honce⟩ := List.nodup_cons.mp h.once
    obtain ⟨hvalue, hvalid⟩ := List.forall_mem_cons.mp h.valid
    exact ⟨hfirst, hvalue, honce, hvalid⟩
  · rintro ⟨hfirst, hvalue, hrest⟩
    exact ⟨List.nodup_cons.mpr ⟨hfirst, hrest.once⟩,
      List.forall_mem_cons.mpr ⟨hvalue, hrest.valid⟩⟩

theorem value?_put (t : Setting) :
    (source.put s value).value? t = if t = s then some value else source.value? t := rfl

theorem value?_flagged_of_not_mem (h : s ∉ rest.map Prod.fst) :
    (flagged rest).value? s = none := by
  have hlookup : rest.lookup s = none := by
    rw [List.lookup_eq_none_iff]
    intro p hp
    exact bne_iff_ne.mpr fun heq => h (heq ▸ List.mem_map_of_mem hp)
  show (rest.lookup s).bind (flagValue? s) = none
  rw [hlookup]
  rfl

theorem value?_flagged_cons (t : Setting) :
    (flagged ((s, text) :: rest)).value? t =
      if t = s then flagValue? s text else (flagged rest).value? t := by
  show (((s, text) :: rest).lookup t).bind (flagValue? t) = _
  rw [List.lookup_cons]
  by_cases ht : t = s
  · subst ht
    simp
  · rw [beq_eq_false_iff_ne.mpr ht, if_neg ht]
    rfl

/-- Where a setting is free, a value for it is put below the flags or given with a flag, which comes
to the same. -/
theorem flagged_cons_orElse (hfirst : s ∉ rest.map Prod.fst)
    (hvalue : flagValue? s text = some value) :
    (flagged ((s, text) :: rest)).orElse source = (flagged rest).orElse (source.put s value) := by
  ext1 t
  show ((flagged _).value? t).or _ = ((flagged _).value? t).or _
  rw [value?_flagged_cons, value?_put]
  by_cases ht : t = s
  · rw [if_pos ht, if_pos ht, ht, hvalue, value?_flagged_of_not_mem hfirst]
    rfl
  · rw [if_neg ht, if_neg ht]

theorem putFlag?_eq_some_iff :
    putFlag? source s text = some result ↔
      source.value? s = none ∧ ∃ value, flagValue? s text = some value ∧
        source.put s value = result := by
  unfold putFlag?
  cases hsource : source.value? s with
  | some value => simp
  | none => simp

theorem forall_value?_put_iff :
    (∀ p ∈ rest, (source.put s value).value? p.1 = none) ↔
      s ∉ rest.map Prod.fst ∧ ∀ p ∈ rest, source.value? p.1 = none := by
  constructor
  · intro h
    have hother : ∀ p ∈ rest, p.1 ≠ s := by
      intro p hp heq
      have hnone := h p hp
      rw [value?_put, if_pos heq] at hnone
      cases hnone
    refine ⟨fun hmem => ?_, fun p hp => ?_⟩
    · obtain ⟨p, hp, heq⟩ := List.mem_map.mp hmem
      exact hother p hp heq
    · rw [← h p hp, value?_put, if_neg (hother p hp)]
  · rintro ⟨hfirst, hfree⟩ p hp
    have hother : p.1 ≠ s := by
      rintro rfl
      exact hfirst (List.mem_map_of_mem hp)
    rw [value?_put, if_neg hother]
    exact hfree p hp

/-- Flags can be taken in exactly if they are given at most once, for settings that are free, with
values that they take. They say what they say, over what was said before. -/
theorem putAll?_eq_some_iff :
    putAll? source given = some result ↔
      Takes given ∧ (∀ p ∈ given, source.value? p.1 = none) ∧
        (flagged given).orElse source = result := by
  induction given generalizing source with
  | nil =>
    constructor
    · intro h
      cases h
      exact ⟨⟨List.nodup_nil, nofun⟩, nofun, rfl⟩
    · rintro ⟨-, -, rfl⟩
      rfl
  | cons p rest ih =>
    obtain ⟨s, text⟩ := p
    rw [putAll?, Option.bind_eq_some_iff, takes_cons_iff, List.forall_mem_cons]
    constructor
    · rintro ⟨put, hput, hrest⟩
      obtain ⟨hfree, value, hvalue, rfl⟩ := putFlag?_eq_some_iff.mp hput
      obtain ⟨htakes, hothers, hresult⟩ := ih.mp hrest
      obtain ⟨hfirst, hothers⟩ := forall_value?_put_iff.mp hothers
      rw [hvalue, flagged_cons_orElse hfirst hvalue]
      exact ⟨⟨hfirst, rfl, htakes⟩, ⟨hfree, hothers⟩, hresult⟩
    · rintro ⟨⟨hfirst, hsome, htakes⟩, ⟨hfree, hothers⟩, hresult⟩
      obtain ⟨value, hvalue⟩ := Option.isSome_iff_exists.mp hsome
      rw [flagged_cons_orElse hfirst hvalue] at hresult
      exact ⟨_, putFlag?_eq_some_iff.mpr ⟨hfree, value, hvalue, rfl⟩,
        ih.mpr ⟨htakes, forall_value?_put_iff.mpr ⟨hfirst, hothers⟩, hresult⟩⟩

end Putting

/-- Flags echo what is built in if they say just that. -/
def Echoes (given : List (Setting × String)) : Prop := flagged given = .builtIn

instance (given : List (Setting × String)) : Decidable (Echoes given) :=
  decidable_of_iff _ Source.agrees_iff

/-- A command line says what its flags say, or nothing if they are an echo. -/
theorem commandLineSource?_eq_some_iff {arguments : List String} {source : Source} :
    commandLineSource? arguments = some source ↔
      ∃ given, Spells arguments given ∧ Takes given ∧
        source = if Echoes given then .silent else flagged given := by
  have hsilent (given : List (Setting × String)) :
      (flagged given).orElse .silent = flagged given :=
    Source.ext fun s => Option.or_none
  have hcounted (given : List (Setting × String)) :
      (if (flagged given).agrees .builtIn then Source.silent else flagged given) =
        if Echoes given then .silent else flagged given :=
    if_congr Source.agrees_iff rfl rfl
  unfold commandLineSource?
  rw [Option.map_eq_some_iff]
  constructor
  · rintro ⟨said, hsaid, rfl⟩
    obtain ⟨given, hspells, hgiven⟩ := readArguments?_eq_some_iff.mp hsaid
    obtain ⟨htakes, -, rfl⟩ := putAll?_eq_some_iff.mp hgiven
    rw [hsilent]
    exact ⟨given, hspells, htakes, hcounted given⟩
  · rintro ⟨given, hspells, htakes, rfl⟩
    have hgiven := putAll?_eq_some_iff.mpr ⟨htakes, fun _ _ => rfl, hsilent given⟩
    exact ⟨_, readArguments?_eq_some_iff.mpr ⟨given, hspells, hgiven⟩, hcounted given⟩

/-! ## Settings -/

/-- What a configuration says about a setting. -/
def value? (c : Config) : Setting → Option Literal
  | .httpAddress => some (.text c.httpAddress)
  | .publicBaseUrl => some (.text c.publicBaseUrl)
  | .databaseUrl => c.databaseUrl.map .text
  | .maxConnections => c.maxConnections.map fun n : Nat => .integer n
  | .acquireTimeout => c.acquireTimeoutMillis.map fun n : Nat => .integer n
  | .logLevel => some (.text c.logLevel)

/-- Numbers that their settings can hold. -/
structure InRange (c : Config) : Prop where
  maxConnections : ∀ n ∈ c.maxConnections, n ≤ maxConnectionLimit
  acquireTimeout : ∀ n ∈ c.acquireTimeoutMillis, n ≤ Text.maxUnsigned64

theorem wantText?_eq_some_iff {literal : Option Literal} {s : String} :
    wantText? literal = some s ↔ literal = some (.text s) := by
  unfold wantText?
  split <;> simp_all

theorem takeText?_eq_some_iff {literal : Option Literal} {s : Option String} :
    takeText? literal = some s ↔ literal = s.map .text := by
  unfold takeText?
  split <;> cases s <;> simp_all

theorem takeNumber?_eq_some_iff {limit : Nat} {literal : Option Literal} {n : Option Nat} :
    takeNumber? limit literal = some n ↔
      (∀ m ∈ n, m ≤ limit) ∧ literal = n.map fun n : Nat => .integer n := by
  constructor
  · intro h
    unfold takeNumber? at h
    split at h
    · cases h
      exact ⟨nofun, rfl⟩
    · rename_i m
      split at h
      · rename_i hm
        cases h
        exact ⟨fun k hk => Option.mem_some.mp hk ▸ hm, rfl⟩
      · cases h
    · cases h
  · rintro ⟨hlimit, rfl⟩
    cases n with
    | none => rfl
    | some m => exact if_pos (hlimit m rfl)

/-- A source gives a configuration exactly if it says what the configuration says. -/
theorem ofSource?_eq_some_iff {source : Source} {c : Config} :
    ofSource? source = some c ↔ c.InRange ∧ ∀ s, c.value? s = source.value? s := by
  constructor
  · intro h
    obtain ⟨httpAddress, hhttp, h⟩ := Option.bind_eq_some_iff.mp h
    obtain ⟨publicBaseUrl, hbase, h⟩ := Option.bind_eq_some_iff.mp h
    obtain ⟨databaseUrl, hdatabase, h⟩ := Option.bind_eq_some_iff.mp h
    obtain ⟨maxConnections, hmax, h⟩ := Option.bind_eq_some_iff.mp h
    obtain ⟨acquireTimeoutMillis, htimeout, h⟩ := Option.bind_eq_some_iff.mp h
    obtain ⟨logLevel, hlevel, h⟩ := Option.bind_eq_some_iff.mp h
    obtain ⟨hconnections, hmax⟩ := takeNumber?_eq_some_iff.mp hmax
    obtain ⟨hmillis, htimeout⟩ := takeNumber?_eq_some_iff.mp htimeout
    cases h
    refine ⟨⟨hconnections, hmillis⟩, fun s => ?_⟩
    cases s with
    | httpAddress => exact (wantText?_eq_some_iff.mp hhttp).symm
    | publicBaseUrl => exact (wantText?_eq_some_iff.mp hbase).symm
    | databaseUrl => exact (takeText?_eq_some_iff.mp hdatabase).symm
    | maxConnections => exact hmax.symm
    | acquireTimeout => exact htimeout.symm
    | logLevel => exact (wantText?_eq_some_iff.mp hlevel).symm
  · rintro ⟨hrange, h⟩
    unfold ofSource?
    rw [wantText?_eq_some_iff.mpr (h .httpAddress).symm,
      wantText?_eq_some_iff.mpr (h .publicBaseUrl).symm,
      takeText?_eq_some_iff.mpr (h .databaseUrl).symm,
      takeNumber?_eq_some_iff.mpr ⟨hrange.maxConnections, (h .maxConnections).symm⟩,
      takeNumber?_eq_some_iff.mpr ⟨hrange.acquireTimeout, (h .acquireTimeout).symm⟩,
      wantText?_eq_some_iff.mpr (h .logLevel).symm]
    rfl

/-! ## Precedence -/

/-- Each setting is what its flag says, or else its variable, or else what is built in. -/
def Layered (given : List (Setting × String)) (environment : List (String × String))
    (c : Config) : Prop :=
  ∀ s : Setting, c.value? s = ((given.lookup s).bind (flagValue? s)).or
    (((environment.lookup s.environmentName).map Literal.ofString).or (Source.builtIn.value? s))

/-- A command line and an environment give a configuration exactly if the command line spells flags
that can be taken and the configuration is layered over them, whatever is given for which settings.
Only flags that echo all of what is built in, and say nothing else, count as if there were none. -/
theorem load_layers {arguments : List String} {environment : List (String × String)} {c : Config} :
    load arguments environment = some c ↔
      c.InRange ∧ ∃ given, Spells arguments given ∧
        (∀ other, Spells arguments other → other = given) ∧ Takes given ∧
        if Echoes given then Layered [] environment c else Layered given environment c := by
  have hlayered (given : List (Setting × String)) :
      (if Echoes given then Layered [] environment c else Layered given environment c) ↔
        ∀ s, c.value? s = ((if Echoes given then Source.silent else flagged given).orElse
          ((environmentSource environment).orElse .builtIn)).value? s := by
    by_cases h : Echoes given
    · rw [if_pos h, if_pos h]
      exact Iff.rfl
    · rw [if_neg h, if_neg h]
      exact Iff.rfl
  unfold load
  constructor
  · intro h
    split at h
    · cases h
    · rename_i commandLine hcommand
      obtain ⟨given, hspells, htakes, rfl⟩ := commandLineSource?_eq_some_iff.mp hcommand
      obtain ⟨hrange, hvalues⟩ := ofSource?_eq_some_iff.mp h
      exact ⟨hrange, given, hspells, fun _ hother => hother.unique hspells, htakes,
        (hlayered given).mpr hvalues⟩
  · rintro ⟨hrange, given, hspells, -, htakes, hvalues⟩
    rw [commandLineSource?_eq_some_iff.mpr ⟨given, hspells, htakes, rfl⟩]
    exact ofSource?_eq_some_iff.mpr ⟨hrange, (hlayered given).mp hvalues⟩

/-- All flags are given what is built in. The level of the log is then what the environment says,
although there is a flag for it. -/
theorem load_overrules_echo :
    let given : List (Setting × String) :=
      [(.httpAddress, "0.0.0.0:8080"), (.publicBaseUrl, "http://localhost:8080"),
        (.logLevel, "info")]
    let arguments := ["--http-address", "0.0.0.0:8080", "--public-base-url",
      "http://localhost:8080", "--log-level", "info"]
    let environment := [("ACCOUNTS_LOG_LEVEL", "debug")]
    let c : Config := { default with logLevel := "debug" }
    Spells arguments given ∧ load arguments environment = some c ∧
      ¬Layered given environment c := by
  intro given arguments environment c
  refine ⟨?spells, ?loads, ?overrules⟩
  case spells =>
    exact .separate .httpAddress rfl (.separate .publicBaseUrl rfl
      (.separate .logLevel rfl .nothing))
  case loads => decide +kernel
  case overrules =>
    intro hlayered
    have hlevel : some (Literal.text "debug") = some (Literal.text "info") := hlayered .logLevel
    exact absurd hlevel (by decide)

end UserAccounts.Config
