/-
TidyTree.Proofs.Config.Objects — which objects are configurations, and
which configurations they are.

The readers are followed along the grammar of the text.  What each of
them does is said by the answer that its part of the text has: the
value if there is one, and otherwise a failure (`Answers`).  The answer
of a whole object is that of its members, added one after the other.
-/
import TidyTree.Proofs.Config.Given
import TidyTree.Proofs.Json.Skipping

namespace TidyTree

open Json

namespace Json

/-- The reading gives the answer and leaves the characters `rest`; it fails if there is none. -/
def Answers {α : Type} {cs : List Char} (reading : Reading α cs) (answer : Option α)
    (rest : List Char) : Prop :=
  match answer with
  | some a => Reads reading a rest
  | none => ∃ e, reading = .error e

theorem Answers.cases {α : Type} {cs rest : List Char} {reading : Reading α cs} {answer : Option α}
    (h : Answers reading answer rest) :
    (answer = none ∧ ∃ e, reading = .error e) ∨
      ∃ a hless, answer = some a ∧ reading = .ok (a, ⟨rest, hless⟩) := by
  cases answer with
  | none => exact Or.inl ⟨rfl, h⟩
  | some a =>
    obtain ⟨hless, h⟩ := h
    exact Or.inr ⟨a, hless, rfl, h⟩

theorem Value.Begins.eq_string {v : Value} (h : v.Begins '"') : ∃ s, v = .string s := by
  cases v with
  | string s => exact ⟨s, rfl⟩
  | boolean b => cases b <;> simp [Value.Begins] at h
  | number => exact absurd h (by simp [Value.Begins, IsDigit])
  | null | list | object => simp [Value.Begins] at h

theorem Value.Begins.eq_list {v : Value} (h : v.Begins '[') : ∃ vs, v = .list vs := by
  cases v with
  | list vs => exact ⟨vs, rfl⟩
  | boolean b => cases b <;> simp [Value.Begins] at h
  | number => exact absurd h (by simp [Value.Begins, IsDigit])
  | null | string | object => simp [Value.Begins] at h

end Json

namespace Config

variable {cs a b r s t u rest : List Char}

/-! ## 1. Strings and lists of strings -/

theorem fails_stringValue {c : Char} (hfront : Fronts cs c r) (hc : c ≠ '"') :
    ∃ e, readStringValue cs = .error e := by
  obtain ⟨_, hfront⟩ := hfront
  simp only [readStringValue, hfront, hc, if_false]
  exact ⟨_, rfl⟩

theorem fails_suffixes {c : Char} (hfront : Fronts cs c r) (hc : c ≠ '[') :
    ∃ e, readValue .suffixes cs = .error e := by
  obtain ⟨_, hfront⟩ := hfront
  simp only [readValue, hfront, hc, if_false]
  exact ⟨_, rfl⟩

/-- A string is read as itself, and no other value is read as a string. -/
theorem answers_stringValue {v : Json.Value} (h : Written cs (.value v)) (ha : Blanks a)
    (rest : List Char) : Answers (readStringValue (a ++ (cs ++ rest))) v.string? rest := by
  cases hstring : v.string? with
  | some s =>
    cases Value.string?_eq_some_iff.mp hstring
    cases h with
    | string hs =>
      rw [List.cons_append, List.append_assoc]
      exact reads_stringValue (fronts_blanks_cons ha rfl _) (reads_string hs rest)
  | none =>
    obtain ⟨c, r, rfl, hc⟩ := h.exists_cons
    refine fails_stringValue (fronts_blanks_cons ha hc.ne.1 _) ?_
    rintro rfl
    obtain ⟨s, rfl⟩ := hc.eq_string
    cases hstring

theorem answers_moreStrings_more {d : Char} {head : Option String} {tail : Option (List String)}
    (hcomma : Fronts cs ',' r) (hnext : Fronts r d s) (hd : d ≠ ']')
    (hhead : Answers (readStringValue r) head t) (htail : Answers (readMoreStrings t) tail u) :
    Answers (readMoreStrings cs) (head.bind fun v => tail.map (v :: ·)) u := by
  obtain ⟨_, hcomma⟩ := hcomma
  obtain ⟨_, hnext⟩ := hnext
  rw [readMoreStrings]
  obtain ⟨rfl, e, hv⟩ | ⟨v, _, rfl, hv⟩ := hhead.cases
  · simp only [hcomma, hnext, hd, hv]
    exact ⟨e, rfl⟩
  obtain ⟨rfl, e, hvs⟩ | ⟨vs, _, rfl, hvs⟩ := htail.cases
  · simp only [hcomma, hnext, hd, hv, hvs]
    exact ⟨e, rfl⟩
  · simp only [hcomma, hnext, hd, hv, hvs]
    exact ⟨_, rfl⟩

theorem answers_strings_more {d : Char} {head : Option String} {tail : Option (List String)}
    (hfront : Fronts cs d r) (hd : d ≠ ']') (hhead : Answers (readStringValue cs) head t)
    (htail : Answers (readMoreStrings t) tail u) :
    Answers (readStrings cs) (head.bind fun v => tail.map (v :: ·)) u := by
  obtain ⟨_, hfront⟩ := hfront
  obtain ⟨rfl, e, hv⟩ | ⟨v, _, rfl, hv⟩ := hhead.cases
  · simp only [readStrings, hfront, hd, hv]
    exact ⟨e, rfl⟩
  obtain ⟨rfl, e, hvs⟩ | ⟨vs, _, rfl, hvs⟩ := htail.cases
  · simp only [readStrings, hfront, hd, hv, hvs]
    exact ⟨e, rfl⟩
  · simp only [readStrings, hfront, hd, hv, hvs]
    exact ⟨_, rfl⟩

theorem answers_suffixes {values : Option (List String)} (hopen : Fronts cs '[' r)
    (hvalues : Answers (readStrings r) values t) : Answers (readValue .suffixes cs) values t := by
  obtain ⟨rfl, e, hvs⟩ | ⟨vs, hless, rfl, hvs⟩ := hvalues.cases
  · obtain ⟨_, hopen⟩ := hopen
    simp only [readValue, hopen, if_true, hvs]
    exact ⟨e, rfl⟩
  · exact reads_suffixes hopen ⟨hless, hvs⟩

theorem mapM_string?_cons (v : Json.Value) (vs : List Json.Value) :
    (v :: vs).mapM Value.string? =
      v.string?.bind fun s => (vs.mapM Value.string?).map (s :: ·) := by
  rw [List.mapM_cons]
  cases v.string? <;> cases vs.mapM Value.string? <;> rfl

/-- Elements behind the first are read as strings one after the other. -/
theorem answers_moreStrings {vs : List Json.Value} {more : List Char}
    (h : Behind .elements more vs) (hb : Blanks b) (rest : List Char) :
    Answers (readMoreStrings (b ++ (more ++ ']' :: rest))) (vs.mapM Value.string?) rest := by
  induction vs generalizing more b with
  | nil =>
    cases h with
    | nothing => exact reads_moreStrings_end (fronts_blanks_cons hb rfl _)
    | comma h =>
      obtain ⟨_, _, _, _, _, _, hnil, -⟩ := h.elements_cons
      cases hnil
  | cons v vs ih =>
    cases h with
    | comma h =>
      obtain ⟨d, s, hnext, hd⟩ := h.fronts_elements (']' :: rest)
      obtain ⟨_, _, _, _, _, _, ⟨⟩, hcs, ha, hvalue, hb', hmore⟩ := h.elements_cons
      rw [hcs] at hnext
      rw [mapM_string?_cons, List.cons_append, hcs]
      exact answers_moreStrings_more (fronts_blanks_cons hb rfl _) hnext hd
        (answers_stringValue hvalue ha _) (ih hmore hb')

/-- A list of strings is read as these, and no other list is read. -/
theorem answers_strings {vs : List Json.Value} (h : Written cs (.elements vs)) (rest : List Char) :
    Answers (readStrings (cs ++ ']' :: rest)) (vs.mapM Value.string?) rest := by
  obtain ⟨d, s, hnext, hd⟩ := h.fronts_elements (']' :: rest)
  obtain ⟨v, vs, _, _, _, _, rfl, hcs, ha, hvalue, hb, hmore⟩ := h.elements_cons
  rw [hcs] at hnext
  rw [mapM_string?_cons, hcs]
  exact answers_strings_more hnext hd (answers_stringValue hvalue ha _)
    (answers_moreStrings hmore hb rest)

/-- A value is read as what it gives for the field. -/
theorem answers_value (f : Field) {v : Json.Value} (h : Written cs (.value v)) (ha : Blanks a)
    (rest : List Char) : Answers (readValue f (a ++ (cs ++ rest))) (f.given? v) rest := by
  cases f with
  | rootDir | program | inPlaceFlag => exact answers_stringValue h ha rest
  | suffixes =>
    cases v with
    | list vs =>
      cases h with
      | emptyList hb =>
        rw [List.cons_append, List.append_assoc]
        exact reads_suffixes (fronts_blanks_cons ha rfl _)
          (reads_strings_end (fronts_blanks_cons hb rfl _))
      | list h =>
        rw [List.cons_append, List.append_assoc]
        exact answers_suffixes (fronts_blanks_cons ha rfl _) (answers_strings h rest)
    | _ =>
      obtain ⟨c, r, rfl, hc⟩ := h.exists_cons
      refine fails_suffixes (fronts_blanks_cons ha hc.ne.1 _) ?_
      rintro rfl
      obtain ⟨vs, hlist⟩ := hc.eq_list
      cases hlist

/-! ## 2. Members -/

theorem fails_member_duplicate {p : Partial} {f : Field} (hgiven : p.has f = true)
    (cs : List Char) : ∃ e, readMember p f.key cs = .error e := by
  simp only [readMember, Field.ofKey?_key, hgiven, if_true]
  exact ⟨_, rfl⟩

theorem fails_member_value {p : Partial} {f : Field} {e : Failure} (hcolon : Fronts cs ':' r)
    (hvalue : readValue f r = .error e) : ∃ e, readMember p f.key cs = .error e := by
  obtain ⟨_, hcolon⟩ := leaves_colon hcolon
  simp only [readMember, Field.ofKey?_key]
  split
  · exact ⟨_, rfl⟩
  · simp only [hcolon, hvalue]
    exact ⟨_, rfl⟩

/-- A member with the key of an open field gives that field what is read as its value. -/
theorem answers_member_open {p : Partial} {f : Field} {given : Option f.Value}
    (hopen : p.has f = false) (hcolon : Fronts cs ':' r)
    (hgiven : Answers (readValue f r) given t) :
    Answers (readMember p f.key cs) (given.map (p.set f)) t := by
  obtain ⟨rfl, e, hvalue⟩ | ⟨value, _, rfl, hvalue⟩ := hgiven.cases
  · exact fails_member_value hcolon hvalue
  · exact reads_member hopen hcolon ⟨_, hvalue⟩

theorem reads_member_unknown {p : Partial} {key : String} (hkey : Field.ofKey? key = none)
    (hcolon : Fronts cs ':' r) (hvalue : Leaves (skipValue [] r) t) :
    Reads (readMember p key cs) p t := by
  obtain ⟨_, hcolon⟩ := leaves_colon hcolon
  obtain ⟨_, hvalue⟩ := hvalue
  simp only [readMember, hkey, hcolon, hvalue]
  exact ⟨_, rfl⟩

/-- Outside all brackets nothing has to be closed. -/
theorem leaves_after (rest : List Char) : Leaves (skipAfter [] rest) rest := by
  rw [skipAfter]
  exact ⟨_, rfl⟩

/-- A member is added to what is given already; one with an unknown key is passed over. -/
theorem answers_member (p : Partial) {key : String} {v : Json.Value}
    (hcolon : Fronts cs ':' (a ++ (s ++ rest))) (h : Written s (.value v)) (ha : Blanks a)
    (hrest : Stops rest) :
    Answers (readMember p key cs) (p.add? (key, v)) rest := by
  cases hkey : Field.ofKey? key with
  | none =>
    have hadd : p.add? (key, v) = some p := by simp only [Partial.add?, hkey]
    rw [hadd]
    exact reads_member_unknown hkey hcolon
      (skips h a [] rest rest ha hrest (leaves_after rest))
  | some f =>
    have hadd : p.add? (key, v) = if p.has f then none else (f.given? v).map (p.set f) := by
      simp only [Partial.add?, hkey]
    rw [hadd, Field.ofKey?_eq_some_iff.mp hkey]
    cases hopen : p.has f with
    | true => exact fails_member_duplicate hopen cs
    | false => exact answers_member_open hopen hcolon (answers_value f h ha rest)

theorem answers_members_last {p : Partial} {key : String} {added : Option Partial}
    (hkey : Reads (readString cs) key r) (hmember : Answers (readMember p key r) added s)
    (hend : Fronts s '\x7d' t) : Answers (readMembers p cs) added t := by
  obtain ⟨rfl, e, hadd⟩ | ⟨q, hless, rfl, hadd⟩ := hmember.cases
  · obtain ⟨_, hkey⟩ := hkey
    rw [readMembers]
    simp only [hkey, hadd]
    exact ⟨e, rfl⟩
  · exact reads_members_last hkey ⟨hless, hadd⟩ hend

theorem answers_members_more {p : Partial} {key : String} {added : Option Partial}
    {more : Partial → Option Partial} {v : List Char} (hkey : Reads (readString cs) key r)
    (hmember : Answers (readMember p key r) added s) (hcomma : Fronts s ',' t)
    (hquote : Fronts t '"' u)
    (hmore : ∀ q, added = some q → Answers (readMembers q u) (more q) v) :
    Answers (readMembers p cs) (added.bind more) v := by
  obtain ⟨rfl, e, hadd⟩ | ⟨q, hless, rfl, hadd⟩ := hmember.cases
  · obtain ⟨_, hkey⟩ := hkey
    rw [readMembers]
    simp only [hkey, hadd]
    exact ⟨e, rfl⟩
  rw [Option.bind_some]
  obtain ⟨hnone, e, hrest⟩ | ⟨a, hless', hsome, hrest⟩ := (hmore q rfl).cases
  · obtain ⟨_, hkey⟩ := hkey
    obtain ⟨_, hcomma⟩ := hcomma
    obtain ⟨_, hquote⟩ := hquote
    rw [hnone, readMembers]
    simp only [hkey, hadd, hcomma, hquote, hrest]
    exact ⟨e, rfl⟩
  · rw [hsome]
    exact reads_members_more hkey ⟨hless, hadd⟩ hcomma hquote ⟨hless', hrest⟩

/-- Members are added one after the other. -/
theorem answers_members {ms : List (String × Json.Value)} (h : Written cs (.members ms))
    (rest : List Char) :
    ∃ r, Fronts (cs ++ '\x7d' :: rest) '"' r ∧
      ∀ p, Answers (readMembers p r) (ms.foldlM Partial.add? p) rest := by
  induction ms generalizing cs with
  | nil =>
    obtain ⟨_, _, _, _, _, _, _, _, _, _, hnil, -⟩ := h.members_cons
    cases hnil
  | cons m ms ih =>
    obtain ⟨key, v, _, a, ks, b, c, ds, d, more, ⟨⟩, hcs, ha, hkey, hb, hc, hvalue, hd, hmore⟩ :=
      h.members_cons
    rw [hcs]
    refine ⟨_, fronts_blanks_cons ha rfl _, fun p => ?_⟩
    have hread := reads_string hkey (b ++ ':' :: (c ++ (ds ++ (d ++ (more ++ '\x7d' :: rest)))))
    have hcolon := fronts_blanks_cons (c := ':') hb rfl
      (c ++ (ds ++ (d ++ (more ++ '\x7d' :: rest))))
    rw [List.foldlM_cons]
    cases hmore with
    | nothing =>
      have hstops : Stops (d ++ ([] ++ '\x7d' :: rest)) :=
        stops_blanks hd (stops_cons (Or.inr (Or.inr rfl)) rest)
      have hlast := answers_members_last hread (answers_member p hcolon hvalue hc hstops)
        (fronts_blanks_cons hd rfl rest)
      simpa using hlast
    | @comma es _ hes =>
      obtain ⟨s, hquote, hothers⟩ := ih hes
      have hstops : Stops (d ++ (',' :: es ++ '\x7d' :: rest)) :=
        stops_blanks hd (stops_cons (Or.inl rfl) _)
      exact answers_members_more hread (answers_member p hcolon hvalue hc hstops)
        (fronts_blanks_cons hd rfl _) hquote fun q _ => hothers q

/-! ## 3. Objects and whole texts -/

theorem answers_config {p? : Option Partial} (hopen : Fronts cs '\x7b' r) (hquote : Fronts r '"' s)
    (hmembers : Answers (readMembers .blank s) p? t) : Answers (readConfig cs) p? t := by
  obtain ⟨rfl, e, hadd⟩ | ⟨p, hless, rfl, hadd⟩ := hmembers.cases
  · obtain ⟨_, hopen⟩ := hopen
    obtain ⟨_, hquote⟩ := hquote
    have hobject : readObject r = .error e := by
      simp only [readObject, hquote, hadd]
      rfl
    simp only [readConfig, hopen, if_true, hobject]
    exact ⟨e, rfl⟩
  · exact reads_config_object hopen (reads_object hquote ⟨hless, hadd⟩)

theorem reads_object_empty (hclose : Fronts cs '\x7d' r) : Reads (readObject cs) .blank r := by
  obtain ⟨hless, hclose⟩ := hclose
  simp only [readObject, hclose, if_true]
  exact ⟨hless, rfl⟩

/-- An object is read as what comes of its members. -/
theorem answers_object {ms : List (String × Json.Value)} (h : Written cs (.value (.object ms)))
    (ha : Blanks a) (rest : List Char) :
    Answers (readConfig (a ++ (cs ++ rest))) (ms.foldlM Partial.add? .blank) rest := by
  cases h with
  | emptyObject hb =>
    rw [List.cons_append, List.append_assoc]
    exact reads_config_object (fronts_blanks_cons ha rfl _)
      (reads_object_empty (fronts_blanks_cons hb rfl _))
  | object hmembers =>
    obtain ⟨r, hquote, hread⟩ := answers_members hmembers rest
    rw [List.cons_append, List.append_assoc]
    exact answers_config (fronts_blanks_cons ha rfl _) hquote (hread .blank)

/-- With only blanks behind it, what is read is filled up with the defaults. -/
theorem readText_eq_ok_iff {p? : Option Partial} (h : Answers (readConfig cs) p? b)
    (hb : Blanks b) (c : Config) :
    readText cs = .ok c ↔ ∃ p, p? = some p ∧ p.fill = c := by
  obtain ⟨rfl, e, hread⟩ | ⟨p, _, rfl, hread⟩ := h.cases
  · simp [readText, hread]
  · rw [readText_eq_ok ⟨_, hread⟩ (front_blanks hb)]
    simp

/-- A text that is an object gives the configuration that its members fill. -/
theorem ofJson_object {text : String} {ms : List (String × Json.Value)}
    (h : Written text.toList (.element (.object ms))) (c : Config) :
    ofJson text = .ok c ↔ ∃ p, ms.foldlM Partial.add? .blank = some p ∧ p.fill = c := by
  unfold ofJson
  generalize text.toList = cs at h
  cases h with
  | element ha hvalue hb => exact readText_eq_ok_iff (answers_object hvalue ha _) hb c

/-! ## 4. Keyed configurations -/

/-- The members whose key is that of a field. -/
def known (ms : List (String × Json.Value)) : List (String × Json.Value) :=
  ms.filter fun m => (Field.ofKey? m.1).isSome

/-- The values of a field are among the known members. -/
theorem valuesAt_known (f : Field) (ms : List (String × Json.Value)) :
    valuesAt f.key (known ms) = valuesAt f.key ms := by
  have hknown : ∀ m : String × Json.Value,
      (decide (m.1 = f.key) && (Field.ofKey? m.1).isSome) = decide (m.1 = f.key) := by
    intro m
    by_cases hkey : m.1 = f.key
    · rw [hkey, Field.ofKey?_key]
      simp
    · simp [hkey]
  simp only [valuesAt, known, List.filter_filter, hknown]

theorem valuesAt_perm {ms ms' : List (String × Json.Value)} (h : (known ms).Perm (known ms'))
    (f : Field) : (valuesAt f.key ms).Perm (valuesAt f.key ms') := by
  rw [← valuesAt_known f ms, ← valuesAt_known f ms']
  exact (h.filter _).map _

/-- What configuration agrees does not depend on the order of the known members and on others. -/
theorem agrees_congr {ms ms' : List (String × Json.Value)} (h : (known ms).Perm (known ms'))
    (c : Config) (f : Field) : Agrees ms c f ↔ Agrees ms' c f := by
  have hperm := valuesAt_perm h f
  have hnil : valuesAt f.key ms = [] ↔ valuesAt f.key ms' = [] := by
    rw [← List.length_eq_zero_iff, hperm.length_eq, List.length_eq_zero_iff]
  simp only [Agrees, hperm.length_eq, hperm.mem_iff, hnil]

theorem ofJson_object_iff_agrees {text : String} {ms : List (String × Json.Value)}
    (h : Written text.toList (.element (.object ms))) (c : Config) :
    ofJson text = .ok c ↔ ∀ f, Agrees ms c f :=
  (ofJson_object h c).trans exists_fill_iff

/-- **The members of an object override the defaults, field by field.**  An object, with any
members in any order, is read if and only if each field has its key at most once and then with a
value that it can hold: a string, or a list of strings for the suffixes.  The configuration has
these values, and the default for each field whose key is missing.  So neither the order of the
members nor members with other keys change what is read, and an object that has only others is read
as the default configuration. -/
theorem members_override_defaults {text : String} {ms : List (String × Json.Value)}
    (h : Written text.toList (.element (.object ms))) :
    ((∃ c, ofJson text = .ok c) ↔ ∀ f : Field,
      (valuesAt f.key ms).length ≤ 1 ∧ ∀ v ∈ valuesAt f.key ms, ∃ value, v = f.json value) ∧
    (∀ c, ofJson text = .ok c → ∀ f : Field,
      (∀ v ∈ valuesAt f.key ms, v = f.json (c.value f)) ∧
        (valuesAt f.key ms = [] → c.value f = Config.default.value f)) ∧
    (∀ (text' : String) (ms' : List (String × Json.Value)),
      Written text'.toList (.element (.object ms')) → (known ms).Perm (known ms') →
        ∀ c, ofJson text = .ok c ↔ ofJson text' = .ok c) ∧
    (known ms = [] → ofJson text = .ok Config.default) := by
  refine ⟨?_, ?_, ?_, ?_⟩
  · calc (∃ c, ofJson text = .ok c)
      _ ↔ ∃ c p, ms.foldlM Partial.add? .blank = some p ∧ p.fill = c :=
          exists_congr (ofJson_object h)
      _ ↔ ∃ p, ms.foldlM Partial.add? .blank = some p := by
          rw [exists_comm]
          simp
      _ ↔ ∀ f, Fits ms f := exists_foldlM_add?_iff
  · intro c hc f
    exact ((ofJson_object_iff_agrees h c).mp hc f).2
  · intro text' ms' h' hperm c
    rw [ofJson_object_iff_agrees h, ofJson_object_iff_agrees h']
    exact forall_congr' (agrees_congr hperm c)
  · intro hnone
    refine (ofJson_object_iff_agrees h _).mpr fun f => ?_
    have hnil : valuesAt f.key ms = [] := by
      rw [← valuesAt_known, hnone]
      rfl
    simp [Agrees, hnil]

/-- In the example one key is unknown, with a list and an object in its value, and the other is
spelled with an escape; the same members are read in the other order. -/
theorem sample_override :
    let text := "\x7b\"x\":[1,\x7b\x7d], \"\\u0070rogram\":\"p\"\x7d"
    let other := "\x7b\"program\":\"p\"\x7d"
    (∃ c, ofJson text = .ok c) ∧
      (∀ c, ofJson text = .ok c → c.program = "p" ∧ c.suffixes = sourceSuffixes) ∧
      ∀ c, ofJson text = .ok c ↔ ofJson other = .ok c := by
  intro text other
  have written {cs ds : List Char} {p : Piece} (h : Written cs p) (heq : cs = ds) : Written ds p :=
    heq ▸ h
  have hnone : Blanks [] := fun _ hc => by cases hc
  have hspace : Blanks [' '] := fun c hc => by
    rw [List.mem_singleton.mp hc]
    rfl
  have hwhole : Whole ['1'] := .digits (by decide) (by decide) nofun
  have hone := Written.number (.positive (.parts hwhole .none .none))
  have hlist := Written.list (.moreElements (.element hnone hone hnone)
    (.lastElement (.element hnone (.emptyObject hnone) hnone)))
  -- The first letter of the key is spelled by its number.
  have hquad : Quad ['0', '0', '7', '0'] (0 * 4096 + 0 * 256 + 7 * 16 + 0) :=
    .digits rfl rfl rfl rfl
  have hletter : Spells ['\\', 'u', '0', '0', '7', '0'] 'p' := .escaped (.code hquad rfl rfl)
  have hkey : Spelled (['\\', 'u', '0', '0', '7', '0'] ++ "rogram".toList.flatMap escape)
      "program".toList :=
    .cons hletter (spelled_flatMap_escape _)
  have hprogram := Written.string (spelled_flatMap_escape "p".toList)
  have hunknown := Written.member hnone (spelled_flatMap_escape "x".toList) hnone
    (.element hnone hlist hnone)
  have hobject := Written.object (.moreMembers hunknown (.lastMember
    (.member hspace hkey hnone (.element hnone hprogram hnone))))
  have hplain := Written.object (.lastMember (.member hnone
    (spelled_flatMap_escape "program".toList) hnone (.element hnone hprogram hnone)))
  have htext : Written text.toList (.element (.object
      [("x", .list [.number ['1'], .object []]), ("program", .string "p")])) :=
    written (.element hnone hobject hnone) (by decide +kernel)
  have hother : Written other.toList (.element (.object [("program", .string "p")])) :=
    written (.element hnone hplain hnone) (by decide +kernel)
  obtain ⟨hread, hvalues, hsame, -⟩ := members_override_defaults htext
  refine ⟨hread.mpr fun f => ?_, fun c hc => ⟨?_, ?_⟩, hsame other _ hother (.refl _)⟩
  · cases f with
    | program => exact ⟨Nat.le_refl 1, fun v hv => ⟨"p", List.mem_singleton.mp hv⟩⟩
    | _ => exact ⟨Nat.zero_le 1, nofun⟩
  · have hvalue := (hvalues c hc .program).1 (.string "p") (List.mem_singleton_self _)
    exact (Value.string.inj hvalue).symm
  · exact (hvalues c hc .suffixes).2 rfl

end Config

end TidyTree
