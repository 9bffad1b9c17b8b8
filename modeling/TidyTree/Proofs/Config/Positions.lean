/-
TidyTree.Proofs.Config.Positions — a list gives the fields by their
position what an object gives them by their keys.

Two readers have to agree, and neither calls the other.  What they share
is the reader of a field, which gets from a text the same in a list and
in an object.  So both come down to giving texts to fields, one after
the other (`giveAll`), and what comes of that is said without any reader
(`Holds`).  The list decides only which field a text goes to, and how
many there may be (`place`).
-/
import TidyTree.Proofs.Config.Texts

namespace TidyTree.Config

open Json

variable {a b cs r s t u x rest : List Char} {xs : List (List Char)} {f : Field}

/-! ## 1. Texts given to fields -/

/-- Gives the fields their texts, one after the other.  Nothing comes of a text that its field
cannot take. -/
def giveAll : List (Field × List Char) → Partial → Option Partial
  | [], p => some p
  | (f, x) :: ps, p => (f.read? x).bind fun value => giveAll ps (p.set f value)

/-- Gives the texts to the fields by position.  Nothing comes of more texts than fields. -/
def place (fs : List Field) (xs : List (List Char)) (p : Partial) : Option Partial :=
  if xs.length ≤ fs.length then giveAll (fs.zip xs) p else none

/-- The configuration has in its fields the values that the texts stand for, and the default in all
other fields. -/
def Holds (c : Config) (ps : List (Field × List Char)) : Prop :=
  (∀ g ∈ ps, Written g.2 (.element (g.1.json (c.value g.1)))) ∧
    ∀ f ∉ ps.map Prod.fst, c.value f = Config.default.value f

variable {ps qs : List (Field × List Char)} {c : Config}

theorem place_cons (f : Field) (fs : List Field) (x : List Char) (xs : List (List Char))
    (p : Partial) :
    place (f :: fs) (x :: xs) p = (f.read? x).bind fun value => place fs xs (p.set f value) := by
  simp only [place, List.length_cons, Nat.add_le_add_iff_right, List.zip_cons_cons, giveAll]
  split
  · rfl
  · rw [Option.bind_fun_none]

/-- A field that is set has its value, and the others are as they were. -/
theorem forall_set_iff {fs : List Field} (hf : f ∉ fs) {p : Partial} {value : f.Value} :
    (∀ g ∉ fs, c.value g = ((p.set f value).get? g).getD (Config.default.value g)) ↔
      c.value f = value ∧
        ∀ g ∉ f :: fs, c.value g = (p.get? g).getD (Config.default.value g) := by
  constructor
  · intro h
    refine ⟨?_, fun g hg => ?_⟩
    · have hself := h f hf
      rwa [Partial.get?_set_self] at hself
    · rw [List.mem_cons, not_or] at hg
      rw [h g hg.2, Partial.get?_set_of_ne hg.1]
  · rintro ⟨hself, hothers⟩ g hg
    by_cases hgf : g = f
    · subst hgf
      rw [Partial.get?_set_self]
      exact hself
    · rw [Partial.get?_set_of_ne hgf]
      exact hothers g (by simp [hgf, hg])

/-- Fields that are given texts fill exactly the configurations that have the values of the texts
in them, and the other fields as they were. -/
theorem exists_giveAll_iff (hnodup : (ps.map Prod.fst).Nodup) (hformed : ∀ g ∈ ps, Formed g.2)
    (p : Partial) :
    (∃ q, giveAll ps p = some q ∧ q.fill = c) ↔
      (∀ g ∈ ps, Written g.2 (.element (g.1.json (c.value g.1)))) ∧
        ∀ f ∉ ps.map Prod.fst, c.value f = (p.get? f).getD (Config.default.value f) := by
  induction ps generalizing p with
  | nil => simp [giveAll, fill_eq_iff]
  | cons g ps ih =>
    obtain ⟨f, x⟩ := g
    obtain ⟨hf, hnodup⟩ := List.nodup_cons.mp hnodup
    obtain ⟨hx, hformed⟩ := List.forall_mem_cons.mp hformed
    calc (∃ q, giveAll ((f, x) :: ps) p = some q ∧ q.fill = c)
      _ ↔ ∃ value, f.read? x = some value ∧
            ∃ q, giveAll ps (p.set f value) = some q ∧ q.fill = c := by
          simp only [giveAll, Option.bind_eq_some_iff]
          constructor
          · rintro ⟨q, ⟨value, hread, hgive⟩, hfill⟩
            exact ⟨value, hread, q, hgive, hfill⟩
          · rintro ⟨value, hread, q, hgive, hfill⟩
            exact ⟨q, ⟨value, hread, hgive⟩, hfill⟩
      _ ↔ ∃ value, f.read? x = some value ∧
            (∀ g ∈ ps, Written g.2 (.element (g.1.json (c.value g.1)))) ∧ c.value f = value ∧
              ∀ g ∉ f :: ps.map Prod.fst,
                c.value g = (p.get? g).getD (Config.default.value g) := by
          -- No later text goes to this field again, so its value stays.
          refine exists_congr fun value => and_congr_right fun _ => ?_
          rw [ih hnodup hformed, forall_set_iff hf]
      _ ↔ (∀ g ∈ (f, x) :: ps, Written g.2 (.element (g.1.json (c.value g.1)))) ∧
            ∀ g ∉ f :: ps.map Prod.fst, c.value g = (p.get? g).getD (Config.default.value g) := by
          rw [List.forall_mem_cons, ← read?_eq_some_iff hx]
          constructor
          · rintro ⟨_, hread, hwritten, rfl, hothers⟩
            exact ⟨⟨hread, hwritten⟩, hothers⟩
          · rintro ⟨⟨hread, hwritten⟩, hothers⟩
            exact ⟨_, hread, hwritten, rfl, hothers⟩

theorem exists_giveAll_blank_iff (hnodup : (ps.map Prod.fst).Nodup)
    (hformed : ∀ g ∈ ps, Formed g.2) :
    (∃ q, giveAll ps .blank = some q ∧ q.fill = c) ↔ c.Holds ps := by
  rw [exists_giveAll_iff hnodup hformed]
  simp only [Partial.get?_blank, Option.getD_none, Holds]

theorem holds_perm (h : ps.Perm qs) : c.Holds ps ↔ c.Holds qs := by
  simp only [Holds, h.mem_iff, (h.map Prod.fst).mem_iff]

theorem nodup_zip {fs : List Field} (h : fs.Nodup) (xs : List (List Char)) :
    ((fs.zip xs).map Prod.fst).Nodup := by
  induction fs generalizing xs with
  | nil => exact .nil
  | cons f fs ih =>
    cases xs with
    | nil => exact .nil
    | cons x xs =>
      obtain ⟨hf, hfs⟩ := List.nodup_cons.mp h
      rw [List.zip_cons_cons, List.map_cons, List.nodup_cons]
      refine ⟨fun hmem => hf ?_, ih hfs xs⟩
      obtain ⟨m, hm, rfl⟩ := List.mem_map.mp hmem
      exact (List.of_mem_zip hm).1

/-! ## 2. Lists -/

theorem reads_moreFields_end {p : Partial} {fs : List Field} (hend : Fronts cs ']' r) :
    Reads (readMoreFields p fs cs) p r := by
  obtain ⟨hless, hend⟩ := hend
  cases fs with
  | nil =>
    simp only [readMoreFields, readListEnd, hend, if_true]
    exact ⟨hless, rfl⟩
  | cons f fs =>
    simp only [readMoreFields, hend, if_true]
    exact ⟨hless, rfl⟩

/-- Behind the last field nothing may come. -/
theorem fails_listEnd {p : Partial} {d : Char} (hcomma : Fronts cs ',' r) (hnext : Fronts r d s) :
    ∃ e, readMoreFields p [] cs = .error e := by
  obtain ⟨_, hcomma⟩ := hcomma
  obtain ⟨_, hnext⟩ := hnext
  simp only [readMoreFields, readListEnd, hcomma, hnext]
  by_cases hd : d = ']'
  · simp only [hd]
    exact ⟨_, rfl⟩
  · simp only [hd]
    exact ⟨_, rfl⟩

theorem answers_moreFields_more {p : Partial} {fs : List Field} {d : Char} {given : Option f.Value}
    {more : f.Value → Option Partial} (hcomma : Fronts cs ',' r) (hnext : Fronts r d s)
    (hd : d ≠ ']') (hgiven : Answers (readValue f r) given t)
    (hmore : ∀ value, Answers (readMoreFields (p.set f value) fs t) (more value) u) :
    Answers (readMoreFields p (f :: fs) cs) (given.bind more) u := by
  obtain ⟨_, hcomma⟩ := hcomma
  obtain ⟨_, hnext⟩ := hnext
  obtain ⟨rfl, e, hvalue⟩ | ⟨value, _, rfl, hvalue⟩ := hgiven.cases
  · simp only [readMoreFields, hcomma, hnext, hd, hvalue]
    exact ⟨e, rfl⟩
  rw [Option.bind_some]
  obtain ⟨hnone, e, hrest⟩ | ⟨q, _, hsome, hrest⟩ := (hmore value).cases
  · rw [hnone, readMoreFields]
    simp only [hcomma, hnext, hd, hvalue, hrest]
    exact ⟨e, rfl⟩
  · rw [hsome, readMoreFields]
    simp only [hcomma, hnext, hd, hvalue, hrest]
    exact ⟨_, rfl⟩

theorem answers_list_more {d : Char} {given : Option (Field.Value .rootDir)}
    {more : Field.Value .rootDir → Option Partial} (hfront : Fronts cs d s) (hd : d ≠ ']')
    (hgiven : Answers (readValue .rootDir cs) given t)
    (hmore : ∀ value, Answers (readMoreFields (Partial.blank.set .rootDir value)
      [.program, .inPlaceFlag, .suffixes] t) (more value) u) :
    Answers (readList cs) (given.bind more) u := by
  obtain ⟨_, hfront⟩ := hfront
  obtain ⟨rfl, e, hvalue⟩ | ⟨value, _, rfl, hvalue⟩ := hgiven.cases
  · simp only [readList, hfront, hd, hvalue]
    exact ⟨e, rfl⟩
  rw [Option.bind_some]
  obtain ⟨hnone, e, hrest⟩ | ⟨q, _, hsome, hrest⟩ := (hmore value).cases
  · rw [hnone, readList]
    simp only [hfront, hd, hvalue, hrest]
    exact ⟨e, rfl⟩
  · rw [hsome, readList]
    simp only [hfront, hd, hvalue, hrest]
    exact ⟨_, rfl⟩

theorem answers_config_list {p? : Option Partial} (hopen : Fronts cs '[' r)
    (hgiven : Answers (readList r) p? t) : Answers (readConfig cs) p? t := by
  obtain ⟨_, hopen⟩ := hopen
  obtain ⟨rfl, e, hlist⟩ | ⟨p, _, rfl, hlist⟩ := hgiven.cases
  · simp only [readConfig, hopen, hlist]
    exact ⟨e, rfl⟩
  · simp only [readConfig, hopen, hlist]
    exact ⟨_, rfl⟩

/-- Elements behind the first are given to the fields behind the first. -/
theorem answers_moreFields (hformed : ∀ x ∈ xs, Formed x) (hb : Blanks b) (p : Partial)
    (fs : List Field) (rest : List Char) :
    Answers (readMoreFields p fs (b ++ (xs.flatMap (fun part => ',' :: part) ++ ']' :: rest)))
      (place fs xs p) rest := by
  induction xs generalizing fs p b with
  | nil =>
    have hplace : place fs [] p = some p := by simp [place, giveAll]
    rw [hplace]
    exact reads_moreFields_end (fronts_blanks_cons hb rfl _)
  | cons x xs ih =>
    obtain ⟨hx, hxs⟩ := List.forall_mem_cons.mp hformed
    obtain ⟨d, s, hnext, hd⟩ := hx.fronts (xs.flatMap (fun part => ',' :: part) ++ ']' :: rest)
    rw [List.flatMap_cons, List.append_assoc, List.cons_append]
    cases fs with
    | nil => exact fails_listEnd (fronts_blanks_cons hb rfl _) hnext
    | cons f fs =>
      obtain ⟨b', hb', hread⟩ := (faithful_of_formed hx f).reads
      rw [place_cons]
      exact answers_moreFields_more (fronts_blanks_cons hb rfl _) hnext hd
        (hread [] _ blanks_nil) fun value => ih hxs hb' _ fs

/-- A list is read as what comes of giving its elements to the fields. -/
theorem answers_list (h : Separated cs xs) (hformed : ∀ x ∈ xs, Formed x) (rest : List Char) :
    Answers (readList (cs ++ ']' :: rest)) (place Field.all xs .blank) rest := by
  cases h with
  | none hb =>
    obtain ⟨hless, hend⟩ := fronts_blanks_cons (c := ']') hb rfl rest
    simp only [readList, hend, if_true]
    exact ⟨hless, rfl⟩
  | @some x xs =>
    obtain ⟨hx, hxs⟩ := List.forall_mem_cons.mp hformed
    obtain ⟨d, s, hnext, hd⟩ := hx.fronts (xs.flatMap (fun part => ',' :: part) ++ ']' :: rest)
    obtain ⟨b, hb, hread⟩ := (faithful_of_formed hx .rootDir).reads
    rw [commaSeparated_cons, List.append_assoc, Field.all, place_cons]
    exact answers_list_more hnext hd (hread [] _ blanks_nil) fun value =>
      answers_moreFields hxs hb _ _ rest

/-! ## 3. Objects -/

/-- The member has the key of the field, in some spelling, and the value that the text stands
for. -/
def GivenBy (g : Field × List Char) (m : MemberText) : Prop :=
  Spelled m.key g.1.key.toList ∧ SameValue g.2 m.value

/-- The text is an object, and its members give the fields the values of their texts, in any
order. -/
def KeyedText (cs : List Char) (ps : List (Field × List Char)) : Prop :=
  ∃ ms qs, ObjectText cs ms ∧ qs.Perm ps ∧ List.Forall₂ GivenBy qs ms

/-- A member with the key of a field gives that field what its text gives. -/
theorem answers_member_first {m : MemberText} (h : GivenBy (f, x) m) (hx : Formed x)
    (hkeyed : m.Keyed) (hvalue : Formed m.value) (rest : List Char) :
    ∃ r s b, Blanks b ∧ Fronts (m.chars ++ rest) '"' r ∧ Reads (readString r) f.key s ∧
      ∀ p : Partial, p.has f = false →
        Answers (readMember p f.key s) ((f.read? x).map (p.set f)) (b ++ rest) := by
  obtain ⟨hkey, hsame⟩ := h
  obtain ⟨hbefore, -, hbehind⟩ := hkeyed
  obtain ⟨b, hb, hread⟩ := (faithful_of_formed hvalue f).reads
  have hchars : m.chars ++ rest =
      m.before ++ '"' :: (m.key ++ '"' :: (m.behind ++ ':' :: (m.value ++ rest))) := by
    simp [MemberText.chars]
  rw [hchars]
  refine ⟨_, _, b, hb, fronts_blanks_cons hbefore rfl _, reads_string hkey _, fun p hopen => ?_⟩
  rw [hsame.read?_eq hx hvalue]
  exact answers_member_open hopen (fronts_blanks_cons hbehind rfl _) (hread [] rest blanks_nil)

/-- Members with the keys of open fields are read as what comes of giving the texts to them. -/
theorem answers_keyed {m : MemberText} {ms : List MemberText}
    (h : List.Forall₂ GivenBy ps (m :: ms)) (hnodup : (ps.map Prod.fst).Nodup)
    (hformed : ∀ g ∈ ps, Formed g.2) (hkeyed : ∀ n ∈ m :: ms, n.Keyed)
    (hvalues : ∀ n ∈ m :: ms, Formed n.value) (rest : List Char) :
    ∃ r, Fronts (commaSeparated ((m :: ms).map MemberText.chars) ++ '\x7d' :: rest) '"' r ∧
      ∀ p : Partial, (∀ f ∈ ps.map Prod.fst, p.has f = false) →
        Answers (readMembers p r) (giveAll ps p) rest := by
  induction ms generalizing ps m with
  | nil =>
    cases h with
    | @cons g _ ps _ hfirst hmore =>
      obtain ⟨f, x⟩ := g
      cases hmore
      obtain ⟨r, s, b, hb, hquote, hstring, hmember⟩ :=
        answers_member_first hfirst (hformed _ List.mem_cons_self) (hkeyed m List.mem_cons_self)
          (hvalues m List.mem_cons_self) ('\x7d' :: rest)
      refine ⟨r, hquote, fun p hopen => ?_⟩
      have hlast := answers_members_last hstring (hmember p (hopen f List.mem_cons_self))
        (fronts_blanks_cons hb rfl rest)
      rwa [Option.map_eq_bind] at hlast
  | cons n ms ih =>
    cases h with
    | @cons g _ ps _ hfirst hmore =>
      obtain ⟨f, x⟩ := g
      obtain ⟨hx, hps⟩ := List.forall_mem_cons.mp hformed
      obtain ⟨hm, hkeyed⟩ := List.forall_mem_cons.mp hkeyed
      obtain ⟨hvalue, hvalues⟩ := List.forall_mem_cons.mp hvalues
      obtain ⟨u, hnext, hothers⟩ := ih hmore hnodup.of_cons hps hkeyed hvalues
      obtain ⟨r, s, b, hb, hquote, hstring, hmember⟩ := answers_member_first hfirst hx hm hvalue
        (',' :: (commaSeparated ((n :: ms).map MemberText.chars) ++ '\x7d' :: rest))
      refine ⟨r, ?_, fun p hopen => ?_⟩
      · simpa only [List.map_cons, commaSeparated_cons_cons, List.append_assoc, List.cons_append]
          using hquote
      · -- The first member leaves the other fields as open as they were.
        have hset : ∀ q, (f.read? x).map (p.set f) = some q →
            Answers (readMembers q u) (giveAll ps q) rest := by
          intro q hq
          obtain ⟨value, -, rfl⟩ := Option.map_eq_some_iff.mp hq
          exact hothers _ (has_set_of_nodup hnodup hopen value)
        have hall := answers_members_more hstring (hmember p (hopen f List.mem_cons_self))
          (fronts_blanks_cons hb rfl _) hnext hset
        rwa [Option.bind_map] at hall

theorem answers_keyed_object {ms : List MemberText} (h : List.Forall₂ GivenBy ps ms)
    (hnodup : (ps.map Prod.fst).Nodup) (hformed : ∀ g ∈ ps, Formed g.2)
    (hkeyed : ∀ m ∈ ms, m.Keyed) (hvalues : ∀ m ∈ ms, Formed m.value)
    (hcs : Separated cs (ms.map MemberText.chars))
    (hopen : Fronts r '\x7b' (cs ++ '\x7d' :: rest)) :
    Answers (readConfig r) (giveAll ps .blank) rest := by
  cases ms with
  | nil =>
    cases h
    cases hcs with
    | none hb =>
      exact reads_config_object hopen (reads_object_empty (fronts_blanks_cons hb rfl _))
  | cons m ms =>
    cases hcs with
    | some =>
      obtain ⟨s, hquote, hmembers⟩ := answers_keyed h hnodup hformed hkeyed hvalues rest
      exact answers_config hopen hquote (hmembers .blank fun f _ => by cases f <;> rfl)

/-- Some object gives the fields their texts. -/
theorem exists_keyedText (hformed : ∀ g ∈ ps, Formed g.2) : ∃ cs, KeyedText cs ps := by
  have hplain : ∃ ms, List.Forall₂ GivenBy ps ms ∧ (∀ m ∈ ms, m.Keyed) ∧
      ∀ m ∈ ms, Formed m.value := by
    induction ps with
    | nil => exact ⟨[], .nil, nofun, nofun⟩
    | cons g ps ih =>
      obtain ⟨hx, hps⟩ := List.forall_mem_cons.mp hformed
      obtain ⟨ms, hgiven, hkeyed, hvalues⟩ := ih hps
      have hkey := spelled_flatMap_escape g.1.key.toList
      exact ⟨⟨[], g.1.key.toList.flatMap escape, [], g.2⟩ :: ms,
        .cons ⟨hkey, .refl g.2⟩ hgiven,
        List.forall_mem_cons.mpr ⟨⟨blanks_nil, hkey.lettered, blanks_nil⟩, hkeyed⟩,
        List.forall_mem_cons.mpr ⟨hx, hvalues⟩⟩
  obtain ⟨ms, hgiven, hkeyed, hvalues⟩ := hplain
  exact ⟨_, ms, ps, .text blanks_nil (separated_commaSeparated _) hkeyed hvalues blanks_nil,
    .refl _, hgiven⟩

/-! ## 4. Whole texts -/

theorem forall_mem_zip {fs : List Field} (hformed : ∀ x ∈ xs, Formed x) :
    ∀ g ∈ fs.zip xs, Formed g.2 := fun g hg => hformed g.2 (List.of_mem_zip hg).2

theorem ofJson_list {text : String} (h : ListText text.toList xs) (c : Config) :
    ofJson text = .ok c ↔ xs.length ≤ 4 ∧ c.Holds (Field.all.zip xs) := by
  unfold ofJson
  generalize text.toList = cs at h
  cases h with
  | text ha hcs hformed hb =>
    rw [readText_eq_ok_iff (answers_config_list (fronts_blanks_cons ha rfl _)
      (answers_list hcs hformed _)) hb c, ← exists_giveAll_blank_iff (nodup_zip (by decide) xs)
      (forall_mem_zip hformed)]
    have hlength : Field.all.length = 4 := rfl
    by_cases hfew : xs.length ≤ 4
    · simp [place, hlength, hfew]
    · simp [place, hlength, hfew]

theorem ofJson_keyed {text : String} (h : KeyedText text.toList ps)
    (hnodup : (ps.map Prod.fst).Nodup) (hformed : ∀ g ∈ ps, Formed g.2) (c : Config) :
    ofJson text = .ok c ↔ c.Holds ps := by
  unfold ofJson
  generalize text.toList = cs at h
  obtain ⟨ms, qs, hobject, hperm, hgiven⟩ := h
  have hqs : (qs.map Prod.fst).Nodup := ((hperm.map Prod.fst).nodup_iff).mpr hnodup
  have hqsFormed : ∀ g ∈ qs, Formed g.2 := fun g hg => hformed g (hperm.mem_iff.mp hg)
  cases hobject with
  | text ha hcs hkeyed hvalues hb =>
    rw [readText_eq_ok_iff (answers_keyed_object hgiven hqs hqsFormed hkeyed hvalues hcs
      (fronts_blanks_cons ha rfl _)) hb c, exists_giveAll_blank_iff hqs hqsFormed, holds_perm hperm]

/-- **A list gives the fields by position what an object gives them by key.**  Take a list of any
JSON texts.  If there are at most four, some object gives the first fields the values of these texts
under their keys.  Every object that does so, in whatever order of its members and spelling of keys
and values, is read exactly if the list is, and as the same configuration: the one that has these
values in the first fields and the default in the others.  A list of more than four elements is
never read, whatever they are. -/
theorem positional_iff_keyed {text : String} (h : ListText text.toList xs) :
    (xs.length ≤ 4 →
      (∃ text' : String, KeyedText text'.toList (Field.all.zip xs)) ∧
        ∀ text' : String, KeyedText text'.toList (Field.all.zip xs) →
          ∀ c, ofJson text = .ok c ↔ ofJson text' = .ok c) ∧
      (∀ c, ofJson text = .ok c ↔ xs.length ≤ 4 ∧ c.Holds (Field.all.zip xs)) ∧
      (4 < xs.length → ∃ e, ofJson text = .error e) := by
  have hformed : ∀ g ∈ Field.all.zip xs, Formed g.2 := forall_mem_zip h.formed
  refine ⟨fun hfew => ⟨?_, fun text' hkeyed c => ?_⟩, ofJson_list h, fun hmany => ?_⟩
  · obtain ⟨cs, hcs⟩ := exists_keyedText hformed
    exact ⟨String.ofList cs, by rwa [String.toList_ofList]⟩
  · rw [ofJson_list h, ofJson_keyed hkeyed (nodup_zip (by decide) xs) hformed]
    exact and_iff_right hfew
  · cases hread : ofJson text with
    | error e => exact ⟨e, rfl⟩
    | ok c => exact absurd ((ofJson_list h c).mp hread).1 (Nat.not_le.mpr hmany)

/-- In the example the object has its members in the other order and spells a value with an escape;
in the other list the string that is too much is half a surrogate pair. -/
theorem sample_positional :
    let text := "[\"r\",\"p\"]"
    let keyed := "\x7b\"program\":\"p\",\"root_dir\": \"\\u0072\"\x7d"
    let long := "[\"r\",\"p\",\"p\",[],\"\\ud800\"]"
    let c : Config := { Config.default with rootDir := "r", program := "p" }
    ofJson text = .ok c ∧ ofJson keyed = .ok c ∧ ∃ e, ofJson long = .error e := by
  intro text keyed long c
  have hspace : Blanks [' '] := fun d hd => by
    rw [List.mem_singleton.mp hd]
    rfl
  have hquad : Quad ['0', '0', '7', '2'] (0 * 4096 + 0 * 256 + 7 * 16 + 2) :=
    .digits rfl rfl rfl rfl
  have hcode : Spells ['\\', 'u', '0', '0', '7', '2'] 'r' := .escaped (.code hquad rfl rfl)
  have hescaped : Spelled (['\\', 'u', '0', '0', '7', '2'] ++ []) "r".toList := .cons hcode .nil
  have hhalf : Letter ['\\', 'u', 'd', '8', '0', '0'] := .code (.digits rfl rfl rfl rfl)
  have hr := spelled_flatMap_escape "r".toList
  let x := ['"', 'r', '"']
  let x' := [' ', '"', '\\', 'u', '0', '0', '7', '2', '"']
  let y := ['"', 'p', '"']
  let half := ['"', '\\', 'u', 'd', '8', '0', '0', '"']
  have hx : Formed x := .string hr.lettered
  have hx' : Formed x' := .blanks hspace (.string hescaped.lettered) blanks_nil
  have hy : Formed y := .string (spelled_flatMap_escape "p".toList).lettered
  have htext : ListText text.toList [x, y] := by
    have hchars : text.toList = [] ++ '[' :: (commaSeparated [x, y] ++ [']']) := by decide +kernel
    rw [hchars]
    exact .text blanks_nil .some (by simp [hx, hy]) blanks_nil
  have hlong : ListText long.toList [x, y, y, ['[', ']'], half] := by
    have hchars : long.toList =
        [] ++ '[' :: (commaSeparated [x, y, y, ['[', ']'], half] ++ [']']) := by decide +kernel
    have hempty : Formed ['[', ']'] := .list (.none blanks_nil) nofun
    have hlone : Formed half := .string (.cons hhalf .nil)
    rw [hchars]
    exact .text blanks_nil .some (by simp [hx, hy, hempty, hlone]) blanks_nil
  have hkeyed : KeyedText keyed.toList (Field.all.zip [x, y]) := by
    have hprogram := spelled_flatMap_escape Field.program.key.toList
    have hroot := spelled_flatMap_escape Field.rootDir.key.toList
    have hsame : SameValue x x' := Or.inl ⟨.string "r", Written.toElement (.string hr),
      .element hspace (.string hescaped) blanks_nil⟩
    let ms : List MemberText := [⟨[], Field.program.key.toList.flatMap escape, [], y⟩,
      ⟨[], Field.rootDir.key.toList.flatMap escape, [], x'⟩]
    have hchars : keyed.toList =
        [] ++ '\x7b' :: (commaSeparated (ms.map MemberText.chars) ++ ['\x7d']) := by decide +kernel
    rw [hchars]
    refine ⟨ms, [(.program, y), (.rootDir, x)], .text blanks_nil .some ?_ ?_ blanks_nil,
      .swap .., ?_⟩
    · simp [ms, MemberText.Keyed, blanks_nil, hprogram.lettered, hroot.lettered]
    · simp [ms, hx', hy]
    · exact .cons ⟨hprogram, .refl y⟩ (.cons ⟨hroot, hsame⟩ .nil)
  have hread : ofJson text = .ok c := by decide +kernel
  exact ⟨hread, (((positional_iff_keyed htext).1 (by decide)).2 keyed hkeyed c).mp hread,
    (positional_iff_keyed hlong).2.2 (by decide)⟩

end TidyTree.Config
