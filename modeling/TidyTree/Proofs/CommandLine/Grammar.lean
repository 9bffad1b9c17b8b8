/-
TidyTree.Proofs.CommandLine.Grammar — which arguments are accepted.

The reader goes through the arguments one by one, with a level that may
be pending, and refuses at the first thing that is wrong.  `Gives` says
which options a list of arguments gives and knows no reader.

`request_eq_run_iff`: the arguments ask for a run exactly if they give
options of which none comes twice.  What reading one argument can come
to is said once (`ReadsOn`).  From left to right the induction is on the
arguments that are left, with what is pending written out in front of
them again; from right to left it follows `Gives`.
-/
import Mathlib
import TidyTree.CommandLine.Options

namespace TidyTree

/-! ## 1. The names of levels -/

/-- The text is the name of the threshold, each letter of it small or capital. -/
def Threshold.SpelledAs (t : Threshold) (v : String) : Prop :=
  ∃ name, (name, t) ∈ Threshold.names ∧
    List.Forall₂ (fun c d => c = d ∨ c = d.toUpper) v.toList name.toList

/-- A character becomes a small letter exactly if it is that letter or its capital. -/
theorem toLower_eq_iff {c d : Char} (h : d.isLower = true) :
    c.toLower = d ↔ c = d ∨ c = d.toUpper := by
  constructor
  · rintro rfl
    by_cases hc : c.isUpper = true
    · have hsame : c.toUpper = c := Char.toUpper_eq_of_not_isLower (Char.not_isLower_of_isUpper hc)
      rw [Char.toUpper_toLower_eq_toUpper, hsame]
      exact Or.inr rfl
    · exact Or.inl (Char.toLower_eq_of_not_isUpper hc).symm
  · have hd : d.toLower = d := Char.toLower_eq_of_not_isUpper (Char.not_isUpper_of_isLower h)
    rintro (rfl | rfl)
    · exact hd
    · rw [Char.toLower_toUpper_eq_toLower, hd]

theorem isLower_of_mem_names {name : String} {t : Threshold} (h : (name, t) ∈ Threshold.names) :
    ∀ d ∈ name.toList, d.isLower = true := by
  have hall : ∀ n ∈ Threshold.names, n.1.toList.all Char.isLower = true := by decide
  exact List.all_eq_true.mp (hall _ h)

/-- A name is looked up in the table. -/
theorem lookup_names_iff {name : String} {t : Threshold} :
    Threshold.names.lookup name = some t ↔ (name, t) ∈ Threshold.names := by
  constructor
  · intro h
    obtain ⟨front, rest, hnames, -⟩ := List.lookup_eq_some_iff.mp h
    rw [hnames]
    exact List.mem_append_right _ List.mem_cons_self
  · intro h
    have hall : ∀ n ∈ Threshold.names, Threshold.names.lookup n.1 = some n.2 := by decide
    exact hall _ h

/-- Small letters are what a text becomes exactly if it spells them. -/
theorem map_toLower_eq_iff {cs ds : List Char} (h : ∀ d ∈ ds, d.isLower = true) :
    cs.map Char.toLower = ds ↔ List.Forall₂ (fun c d => c = d ∨ c = d.toUpper) cs ds := by
  induction ds generalizing cs with
  | nil => rw [List.map_eq_nil_iff, List.forall₂_nil_right_iff]
  | cons d ds ih =>
    rw [List.forall_mem_cons] at h
    cases cs with
    | nil => simp
    | cons c cs =>
      rw [List.map_cons, List.cons.injEq, List.forall₂_cons, toLower_eq_iff h.1, ih h.2]

/-- The reader knows a threshold exactly by its spellings. -/
theorem Threshold.ofName?_eq_some_iff {v : String} {t : Threshold} :
    Threshold.ofName? v = some t ↔ t.SpelledAs v := by
  rw [Threshold.ofName?, lookup_names_iff]
  constructor
  · intro h
    exact ⟨_, h, (map_toLower_eq_iff (isLower_of_mem_names h)).mp String.toList_map.symm⟩
  · rintro ⟨name, hmem, hspelled⟩
    have heq := (map_toLower_eq_iff (isLower_of_mem_names hmem)).mpr hspelled
    rw [← String.toList_map, String.toList_inj] at heq
    rwa [heq]

namespace CommandLine

/-! ## 2. What arguments give -/

/-- An option as it is given. -/
inductive Given where
  | quiet
  | level (t : Threshold)
deriving DecidableEq, Repr

/-- The option that is given. -/
def Given.flag : Given → Flag
  | quiet => .quiet
  | level _ => .logLevel

/-- The arguments give the options, one after the other; two dashes may stand at the end. -/
inductive Gives : List String → List Given → Prop
  | nothing : Gives [] []
  | dashes : Gives ["--"] []
  | quiet {as : List String} {given : List Given} :
      Gives as given → Gives ("--quiet" :: as) (.quiet :: given)
  | level {v : String} {t : Threshold} {as : List String} {given : List Given} :
      t.SpelledAs v → Gives as given → Gives ("--log-level" :: v :: as) (.level t :: given)
  | joined {v : String} {t : Threshold} {as : List String} {given : List Given} :
      t.SpelledAs v → Gives as given → Gives (("--log-level=" ++ v) :: as) (.level t :: given)

/-- No option is given twice, and the program is to report as they say; what is not given is not
quiet and at level `info`. -/
structure Options.Fit (o : Options) (given : List Given) : Prop where
  once : (given.map Given.flag).Nodup
  quiet_iff : o.quiet = true ↔ .quiet ∈ given
  level_eq : ∀ t, .level t ∈ given → o.level = t
  level_default : (∀ t, .level t ∉ given) → o.level = .upTo .info

/-- The arguments are accepted and say how to report. -/
def Accepted (arguments : List String) (o : Options) : Prop :=
  ∃ given, Gives arguments given ∧ o.Fit given

/-- An argument that begins like those that ask for help or for the version. -/
def AsksForInformation (a : String) : Prop :=
  ∃ beginning ∈ ["-h", "-V", "--help", "--version"], beginning.toList <+: a.toList

instance : DecidablePred AsksForInformation := fun a =>
  inferInstanceAs (Decidable (∃ beginning ∈ ["-h", "-V", "--help", "--version"],
    beginning.toList <+: a.toList))

/-- In which order options were given says nothing. -/
theorem Options.Fit.perm {o : Options} {given given' : List Given} (h : o.Fit given)
    (hperm : given.Perm given') : o.Fit given' where
  once := (hperm.map _).nodup_iff.mp h.once
  quiet_iff := h.quiet_iff.trans hperm.mem_iff
  level_eq := fun t ht => h.level_eq t (hperm.mem_iff.mpr ht)
  level_default := fun hnone => h.level_default fun t ht => hnone t (hperm.mem_iff.mp ht)

/-! ## 3. Reading one argument -/

/-- A value as it stands behind the name of an option. -/
def valueChars : Option String → List Char
  | none => []
  | some v => '=' :: v.toList

/-- Splitting an argument loses nothing. -/
theorem splitLong_append (cs : List Char) :
    (splitLong cs).1.toList ++ valueChars (splitLong cs).2 = cs := by
  have hcut := List.takeWhile_append_dropWhile (p := fun c : Char => c ≠ '=') (l := cs)
  have hdrop : cs.drop (cs.takeWhile fun c => c ≠ '=').length = cs.dropWhile fun c => c ≠ '=' := by
    calc cs.drop (cs.takeWhile fun c => c ≠ '=').length
        = ((cs.takeWhile fun c => c ≠ '=') ++ cs.dropWhile fun c => c ≠ '=').drop
            (cs.takeWhile fun c => c ≠ '=').length := by rw [hcut]
      _ = cs.dropWhile fun c => c ≠ '=' := List.drop_left
  have hhead := List.head?_dropWhile_not (fun c : Char => c ≠ '=') cs
  rw [splitLong]
  dsimp only
  rw [hdrop, String.toList_ofList]
  cases hrest : cs.dropWhile (fun c => c ≠ '=') with
  | nil => rw [hrest] at hcut; exact hcut
  | cons c v =>
    rw [hrest] at hcut hhead
    have hc : c = '=' := by simpa using hhead
    subst hc
    rw [valueChars, String.toList_ofList]
    exact hcut

/-- An argument of that shape is two dashes with the name and perhaps a value behind them. -/
theorem toList_of_shapeOf_long {a name : String} {value : Option String}
    (h : shapeOf a = .long name value) :
    a.toList = '-' :: '-' :: (name.toList ++ valueChars value) := by
  unfold shapeOf at h
  split at h
  case h_2 _ cs _ hcs =>
    rw [Shape.long.injEq] at h
    obtain ⟨rfl, rfl⟩ := h
    rw [hcs, splitLong_append]
  all_goals cases h

/-- An argument that names an option is that name behind two dashes, perhaps with a value. -/
theorem eq_of_ofName? {a name : String} {value : Option String} {f : Flag}
    (h : shapeOf a = .long name value) (hname : Flag.ofName? name = some f) :
    a = "--" ++ f.name ++ String.ofList (valueChars value) := by
  have heq : f.name = name := by
    have hfound := List.find?_some hname
    exact eq_of_beq hfound
  rw [← String.toList_inj, toList_of_shapeOf_long h, heq]
  simp

/-- Only two dashes end the options. -/
theorem eq_of_shapeOf_endOfOptions {a : String} (h : shapeOf a = .endOfOptions) : a = "--" := by
  unfold shapeOf at h
  split at h
  case h_1 _ ha => exact String.toList_inj.mp ha
  all_goals cases h

/-- A letter behind one dash begins the argument. -/
theorem prefix_of_shapeOf_short {a : String} {c : Char} (h : shapeOf a = .short c) :
    ['-', c] <+: a.toList := by
  unfold shapeOf at h
  split at h
  case h_3 _ c' cs _ _ ha =>
    rw [Shape.short.injEq] at h
    subst h
    rw [ha]
    exact ⟨cs, rfl⟩
  all_goals cases h

/-- What reading one more argument can come to. -/
inductive ReadsOn (s : Seen) (p : Pending) (a : String) (as : List String) : Request → Prop
  | last : a = "--" → as = [] → ReadsOn s p a as (finish s p)
  | level {s₁ : Seen} :
      a = "--log-level" → s.settle p = .ok s₁ → ReadsOn s p a as (readArguments s₁ .option as)
  | joined {v : String} {s₁ s₂ : Seen} :
      a = "--log-level=" ++ v → s.settle p = .ok s₁ → s₁.setLevel v = .ok s₂ →
      ReadsOn s p a as (readArguments s₂ .nothing as)
  | quiet {s₁ : Seen} :
      a = "--quiet" → s.settle p = .ok s₁ → .quiet ∉ s₁.used →
      ReadsOn s p a as (readArguments (s₁.use .quiet) .nothing as)
  | value : p = .option → ReadsOn s p a as (readArguments s (.level a) as)
  | informs {r : Request} :
      AsksForInformation a → r = .help ∨ r = .version → ReadsOn s p a as r
  | refuses (e : UsageError) : ReadsOn s p a as (.refuse e)

theorem ReadsOn.inform {s : Seen} {p : Pending} {a : String} {as : List String} {r : Request}
    (ha : AsksForInformation a) (hr : r = .help ∨ r = .version) :
    ReadsOn s p a as (inform s p r) := by
  unfold CommandLine.inform
  split
  · exact .informs ha hr
  · exact .refuses _

theorem readsOn (s : Seen) (p : Pending) (a : String) (as : List String) :
    ReadsOn s p a as (readArguments s p (a :: as)) := by
  unfold readArguments
  split
  case h_1 hshape =>
    split
    · exact .last (eq_of_shapeOf_endOfOptions hshape) rfl
    · exact .refuses _
  case h_2 name value hshape =>
    split
    · exact .refuses _
    · next hname =>
      split
      · next s₁ hs₁ =>
        exact .level (eq_of_ofName? hshape hname) hs₁
      · exact .refuses _
    · next v hname =>
      split
      · next s₁ hs₁ =>
        split
        · next s₂ hs₂ =>
          have ha : a = "--log-level=" ++ v := by
            rw [eq_of_ofName? hshape hname, ← String.toList_inj]
            simp [Flag.name, valueChars]
          exact .joined ha hs₁ hs₂
        · exact .refuses _
      · exact .refuses _
    · exact .refuses _
    · next hname =>
      split
      · next s₁ hs₁ =>
        split
        · exact .refuses _
        · next hunused => exact .quiet (eq_of_ofName? hshape hname) hs₁ (by simpa using hunused)
      · exact .refuses _
    · next hname =>
      have ha := eq_of_ofName? hshape hname
      exact .inform ⟨"--help", by decide, by rw [ha]; decide⟩ (Or.inl rfl)
    · next hname =>
      have ha := eq_of_ofName? hshape hname
      exact .inform ⟨"--version", by decide, by rw [ha]; decide⟩ (Or.inr rfl)
  case h_3 c hshape =>
    have ha := prefix_of_shapeOf_short hshape
    split
    · next hc =>
      subst hc
      exact .inform ⟨"-h", by decide, ha⟩ (Or.inl rfl)
    · split
      · next hc =>
        subst hc
        exact .inform ⟨"-V", by decide, ha⟩ (Or.inr rfl)
      · exact .refuses _
  case h_4 =>
    split
    · exact .value rfl
    · exact .refuses _

/-! ## 4. What reading comes to -/

/-- No option is given twice, and none that was seen before. -/
def Seen.Once (s : Seen) (given : List Given) : Prop :=
  (given.map Given.flag).Nodup ∧ ∀ g ∈ given, g.flag ∉ s.used

/-- The given options, on top of what was seen before, come to `o`. -/
structure Seen.Adds (s : Seen) (given : List Given) (o : Options) : Prop where
  once : s.Once given
  quiet_iff : o.quiet = true ↔ Flag.quiet ∈ s.used ∨ Given.quiet ∈ given
  level_eq : ∀ t, .level t ∈ given → o.level = t
  level_default : (∀ t, .level t ∉ given) → o.level = s.level

theorem adds_start_iff {given : List Given} {o : Options} :
    Seen.start.Adds given o ↔ o.Fit given := by
  constructor
  · rintro ⟨once, quiet_iff, level_eq, level_default⟩
    exact ⟨once.1, by simpa [Seen.start] using quiet_iff, level_eq, level_default⟩
  · rintro ⟨once, quiet_iff, level_eq, level_default⟩
    exact ⟨⟨once, by simp [Seen.start]⟩, by simpa [Seen.start] using quiet_iff, level_eq,
      level_default⟩

theorem adds_nil_iff {s : Seen} {o : Options} :
    s.Adds [] o ↔ o = ⟨s.used.contains .quiet, s.level⟩ := by
  constructor
  · rintro ⟨-, quiet_iff, -, level_default⟩
    obtain ⟨quiet, level⟩ := o
    have hlevel : level = s.level := level_default fun _ => List.not_mem_nil
    have hquiet : quiet = s.used.contains .quiet := by
      rw [Bool.eq_iff_iff, List.contains_iff_mem]
      simpa using quiet_iff
    rw [hlevel, hquiet]
  · rintro rfl
    exact ⟨by simp [Seen.Once], by simp, by simp, by simp⟩

theorem Seen.mem_use {s : Seen} {f f' : Flag} : f' ∈ (s.use f).used ↔ f' = f ∨ f' ∈ s.used := by
  unfold Seen.use
  by_cases h : f ∈ s.used
  · rw [if_pos (by simpa using h), or_iff_right_of_imp fun heq => heq ▸ h]
  · rw [if_neg (by simpa using h), List.mem_append, List.mem_singleton, or_comm]

/-- A given option was not seen before and counts as seen for those behind it. -/
theorem once_cons_iff {s : Seen} {g : Given} {given : List Given} :
    s.Once (g :: given) ↔ g.flag ∉ s.used ∧ (s.use g.flag).Once given := by
  simp only [Seen.Once, List.map_cons, List.nodup_cons, List.forall_mem_cons, Seen.mem_use,
    not_or, List.mem_map, not_exists, not_and]
  constructor
  · rintro ⟨⟨hother, honce⟩, hnew, hrest⟩
    exact ⟨hnew, honce, fun g' hg' => ⟨hother g' hg', hrest g' hg'⟩⟩
  · rintro ⟨hnew, honce, hrest⟩
    exact ⟨⟨fun g' hg' => (hrest g' hg').1, honce⟩, hnew, fun g' hg' => (hrest g' hg').2⟩

theorem adds_quiet_iff {s : Seen} {given : List Given} {o : Options} :
    s.Adds (.quiet :: given) o ↔ .quiet ∉ s.used ∧ (s.use .quiet).Adds given o := by
  constructor
  · rintro ⟨once, quiet_iff, level_eq, level_default⟩
    obtain ⟨hnew, honce⟩ := once_cons_iff.mp once
    refine ⟨hnew, honce, ?_, ?_, ?_⟩
    · simpa [Seen.mem_use] using quiet_iff
    · simpa using level_eq
    · intro hnone
      exact level_default (by simpa using hnone)
  · rintro ⟨hnew, once, quiet_iff, level_eq, level_default⟩
    refine ⟨once_cons_iff.mpr ⟨hnew, once⟩, ?_, ?_, ?_⟩
    · simpa [Seen.mem_use] using quiet_iff
    · simpa using level_eq
    · intro hnone
      exact level_default (by simpa using hnone)

theorem adds_level_iff {s : Seen} {t : Threshold} {given : List Given} {o : Options} :
    s.Adds (.level t :: given) o ↔
      .logLevel ∉ s.used ∧ ({ s.use .logLevel with level := t } : Seen).Adds given o := by
  have hquiet : Flag.quiet ∈ (s.use .logLevel).used ↔ Flag.quiet ∈ s.used := by
    simp [Seen.mem_use]
  constructor
  · rintro ⟨once, quiet_iff, level_eq, level_default⟩
    obtain ⟨hnew, honce⟩ := once_cons_iff.mp once
    refine ⟨hnew, honce, ?_, ?_, ?_⟩
    · rw [hquiet]
      simpa using quiet_iff
    · exact fun u hu => level_eq u (List.mem_cons_of_mem _ hu)
    · exact fun _ => level_eq t List.mem_cons_self
  · rintro ⟨hnew, once, quiet_iff, level_eq, level_default⟩
    -- No level comes behind this one, so this one is in force.
    have hlast : ∀ u, Given.level u ∉ given := by
      intro u hu
      exact once.2 _ hu (Seen.mem_use.mpr (Or.inl rfl))
    refine ⟨once_cons_iff.mpr ⟨hnew, once⟩, ?_, ?_, ?_⟩
    · rw [hquiet] at quiet_iff
      simpa using quiet_iff
    · intro u hu
      rcases List.mem_cons.mp hu with hu | hu
      · cases hu
        exact level_default hlast
      · exact level_eq u hu
    · exact fun hnone => absurd List.mem_cons_self (hnone t)

/-- A level is taken into account if its option is new and the text spells it. -/
theorem setLevel_eq_ok_iff {s s' : Seen} {v : String} :
    s.setLevel v = .ok s' ↔ .logLevel ∉ s.used ∧
      ∃ t, t.SpelledAs v ∧ s' = { s.use .logLevel with level := t } := by
  simp only [← Threshold.ofName?_eq_some_iff]
  unfold Seen.setLevel
  split
  · next hused =>
    have hmem : .logLevel ∈ s.used := by simpa using hused
    simp [hmem]
  · next hused =>
    have hnew : .logLevel ∉ s.used := by simpa using hused
    split
    · next t ht => simp [hnew, ht, eq_comm]
    · next ht => simp [ht]

/-- A level that is taken into account is one option more. -/
theorem Seen.Adds.of_setLevel {s s' : Seen} {v : String} (h : s.setLevel v = .ok s') {o : Options}
    {given : List Given} (hadds : s'.Adds given o) :
    ∃ t, t.SpelledAs v ∧ s.Adds (.level t :: given) o := by
  obtain ⟨hnew, t, ht, rfl⟩ := setLevel_eq_ok_iff.mp h
  exact ⟨t, ht, adds_level_iff.mpr ⟨hnew, hadds⟩⟩

/-! ## 5. Accepted arguments -/

/-- What is pending, as the arguments that gave it. -/
def Pending.arguments : Pending → List String
  | nothing => []
  | option => ["--log-level"]
  | level v => ["--log-level", v]

/-- The arguments, with what is pending in front of them, give options that with what was seen come
to `o`. -/
def Yields (s : Seen) (p : Pending) (as : List String) (o : Options) : Prop :=
  ∃ given, Gives (p.arguments ++ as) given ∧ s.Adds given o

/-- What is pending may be taken into account first. -/
theorem Yields.of_settle {s s₁ : Seen} {p : Pending} (h : s.settle p = .ok s₁) {as : List String}
    {o : Options} (hyields : Yields s₁ .nothing as o) : Yields s p as o := by
  obtain ⟨given, hgives, hadds⟩ := hyields
  cases p with
  | nothing =>
    cases h
    exact ⟨given, hgives, hadds⟩
  | option => cases h
  | level v =>
    obtain ⟨t, ht, hadds⟩ := hadds.of_setLevel h
    exact ⟨_, .level ht hgives, hadds⟩

/-- The options seen so far are what nothing more comes to. -/
theorem Yields.of_finish {s : Seen} {p : Pending} {as : List String} {o : Options}
    (hend : Gives as []) (h : finish s p = .run o) : Yields s p as o := by
  unfold finish at h
  split at h
  · next s₁ hs₁ =>
    cases h
    exact .of_settle hs₁ ⟨[], hend, adds_nil_iff.mpr rfl⟩
  · cases h

/-- Only options that are given lead to a run. -/
theorem yields_of_run {s : Seen} {p : Pending} {as : List String} {o : Options}
    (h : readArguments s p as = .run o) : Yields s p as o := by
  induction as generalizing s p with
  | nil => exact .of_finish .nothing h
  | cons a as ih =>
    have hread := readsOn s p a as
    generalize readArguments s p (a :: as) = r at h hread
    cases hread with
    | last ha has =>
      subst ha has
      exact .of_finish .dashes h
    | level ha hs₁ =>
      subst ha
      exact .of_settle hs₁ (ih h)
    | joined ha hs₁ hs₂ =>
      subst ha
      obtain ⟨given, hgives, hadds⟩ := ih h
      obtain ⟨t, ht, hadds⟩ := hadds.of_setLevel hs₂
      exact .of_settle hs₁ ⟨_, .joined ht hgives, hadds⟩
    | quiet ha hs₁ hnew =>
      subst ha
      obtain ⟨given, hgives, hadds⟩ := ih h
      exact .of_settle hs₁ ⟨_, .quiet hgives, adds_quiet_iff.mpr ⟨hnew, hadds⟩⟩
    | value hp =>
      subst hp
      exact ih h
    | informs _ hr =>
      rw [h] at hr
      rcases hr with hr | hr <;> cases hr
    | refuses e => cases h

/-- The name of a threshold is a word, no option. -/
theorem shapeOf_of_spelledAs {t : Threshold} {v : String} (h : t.SpelledAs v) :
    shapeOf v = .word := by
  obtain ⟨name, hmem, hspelled⟩ := h
  have hlower := isLower_of_mem_names hmem
  have hdash : ∀ cs, v.toList ≠ '-' :: cs := by
    intro cs hcs
    rw [hcs, List.forall₂_cons_left_iff] at hspelled
    obtain ⟨d, ds, hd, -, hname⟩ := hspelled
    rw [hname, List.forall_mem_cons] at hlower
    rw [← toLower_eq_iff hlower.1] at hd
    subst hd
    exact absurd hlower.1 (by decide)
  unfold shapeOf
  split
  · next hv => exact absurd hv (hdash _)
  · next hv => exact absurd hv (hdash _)
  · next hv => exact absurd hv (hdash _)
  · rfl

theorem shapeOf_joined (v : String) :
    shapeOf ("--log-level=" ++ v) = .long "log-level" (some v) := by
  simp [shapeOf, splitLong]

section Reading

variable {s s₁ : Seen} {p : Pending} (hs₁ : s.settle p = .ok s₁) (as : List String)

include hs₁

theorem readArguments_quiet (hnew : .quiet ∉ s₁.used) :
    readArguments s p ("--quiet" :: as) = readArguments (s₁.use .quiet) .nothing as := by
  have hshape : shapeOf "--quiet" = .long "quiet" none := by decide
  have hname : Flag.ofName? "quiet" = some .quiet := by decide
  conv_lhs => unfold readArguments
  simp only [hshape, hname, hs₁]
  rw [if_neg (by simpa using hnew)]

theorem readArguments_option :
    readArguments s p ("--log-level" :: as) = readArguments s₁ .option as := by
  have hshape : shapeOf "--log-level" = .long "log-level" none := by decide
  have hname : Flag.ofName? "log-level" = some .logLevel := by decide
  conv_lhs => unfold readArguments
  simp only [hshape, hname, hs₁]

theorem readArguments_joined {v : String} {s₂ : Seen} (hs₂ : s₁.setLevel v = .ok s₂) :
    readArguments s p (("--log-level=" ++ v) :: as) = readArguments s₂ .nothing as := by
  have hname : Flag.ofName? "log-level" = some .logLevel := by decide
  conv_lhs => unfold readArguments
  simp only [shapeOf_joined, hname, hs₁, hs₂]

end Reading

theorem readArguments_value (s : Seen) {v : String} (hv : shapeOf v = .word) (as : List String) :
    readArguments s .option (v :: as) = readArguments s (.level v) as := by
  conv_lhs => unfold readArguments
  simp only [hv]

theorem finish_of_adds {s s₁ : Seen} {p : Pending} {o : Options} (hs₁ : s.settle p = .ok s₁)
    (hadds : s₁.Adds [] o) : finish s p = .run o := by
  rw [finish, hs₁, adds_nil_iff.mp hadds]

/-- Options that are given lead to a run. -/
theorem run_of_gives {s s₁ : Seen} {p : Pending} {as : List String} {given : List Given}
    {o : Options} (hs₁ : s.settle p = .ok s₁) (hgives : Gives as given)
    (hadds : s₁.Adds given o) : readArguments s p as = .run o := by
  induction hgives generalizing s s₁ p with
  | nothing => exact finish_of_adds hs₁ hadds
  | dashes =>
    have hshape : shapeOf "--" = .endOfOptions := by decide
    unfold readArguments
    simp only [hshape]
    exact finish_of_adds hs₁ hadds
  | @quiet as _ _ ih =>
    obtain ⟨hnew, hadds⟩ := adds_quiet_iff.mp hadds
    rw [readArguments_quiet hs₁ as hnew]
    exact ih rfl hadds
  | @level v t as _ ht _ ih =>
    obtain ⟨hnew, hadds⟩ := adds_level_iff.mp hadds
    rw [readArguments_option hs₁, readArguments_value s₁ (shapeOf_of_spelledAs ht)]
    exact ih (setLevel_eq_ok_iff.mpr ⟨hnew, t, ht, rfl⟩) hadds
  | @joined v t as _ ht _ ih =>
    obtain ⟨hnew, hadds⟩ := adds_level_iff.mp hadds
    rw [readArguments_joined hs₁ as (setLevel_eq_ok_iff.mpr ⟨hnew, t, ht, rfl⟩)]
    exact ih rfl hadds

/-- The arguments ask for a run exactly if they are accepted. -/
theorem request_eq_run_iff {arguments : List String} {o : Options} :
    request arguments = .run o ↔ Accepted arguments o := by
  constructor
  · intro h
    obtain ⟨given, hgives, hadds⟩ := yields_of_run h
    exact ⟨given, hgives, adds_start_iff.mp hadds⟩
  · rintro ⟨given, hgives, hfit⟩
    exact run_of_gives rfl hgives (adds_start_iff.mpr hfit)

theorem finish_run_or_refuse (s : Seen) (p : Pending) :
    (∃ o, finish s p = .run o) ∨ ∃ e, finish s p = .refuse e := by
  unfold finish
  split
  · exact Or.inl ⟨_, rfl⟩
  · exact Or.inr ⟨_, rfl⟩

/-- Arguments that ask for no information are accepted or refused. -/
theorem run_or_refuse {s : Seen} {p : Pending} {as : List String}
    (h : ∀ a ∈ as, ¬ AsksForInformation a) :
    (∃ o, readArguments s p as = .run o) ∨ ∃ e, readArguments s p as = .refuse e := by
  induction as generalizing s p with
  | nil => exact finish_run_or_refuse s p
  | cons a as ih =>
    rw [List.forall_mem_cons] at h
    have hread := readsOn s p a as
    generalize readArguments s p (a :: as) = r at hread
    cases hread with
    | last _ _ => exact finish_run_or_refuse s p
    | level _ _ => exact ih h.2
    | joined _ _ _ => exact ih h.2
    | quiet _ _ _ => exact ih h.2
    | value _ => exact ih h.2
    | informs ha _ => exact absurd ha h.1
    | refuses e => exact Or.inr ⟨e, rfl⟩

end CommandLine

end TidyTree
