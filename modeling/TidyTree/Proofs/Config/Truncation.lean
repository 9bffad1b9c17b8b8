/-
TidyTree.Proofs.Config.Truncation — a configuration that is cut is not
read.

The text written for a configuration can stop in any of its parts.  The
parts before the cut are read as in the round trip, and the reader of
the part with the cut fails because the text ends; so no default ever
takes the place of what is missing.
-/
import TidyTree.Proofs.Config.RoundTrip
import TidyTree.Proofs.Json.Truncation

namespace TidyTree.Config

open Json

variable {cs r s t u : List Char}

/-! ## 1. Values -/

/-- A text that is cut in a string or behind it is empty or begins with a quote. -/
theorem cut_string {value : String} {more : List Char} (hcut : Cut cs (stringChars value ++ more)) :
    cs = [] ∨ (∃ r, Fronts cs '"' r) ∧
      (Cut cs (stringChars value) ∨ ∃ t, cs = stringChars value ++ t ∧ Cut t more) := by
  have hfirst := hcut
  rw [stringChars_append] at hfirst
  obtain rfl | ⟨r, rfl, -⟩ := hfirst.cons
  · exact Or.inl rfl
  · exact Or.inr ⟨⟨r, fronts_cons rfl r⟩, hcut.append⟩

theorem ends_stringValue {value : String} (hcut : Cut cs (stringChars value)) :
    Ends (readStringValue cs) := by
  obtain rfl | ⟨r, rfl, hr⟩ := hcut.cons
  · exact ⟨_, rfl, rfl⟩
  obtain ⟨_, hquote⟩ := fronts_cons (c := '"') rfl r
  obtain ⟨e, hread, he⟩ := ends_string (spelled_flatMap_escape value.toList) hr
  simp only [readStringValue, hquote, if_true, hread]
  exact ⟨e, rfl, he⟩

theorem ends_moreStrings_nil : Ends (readMoreStrings []) := by
  rw [readMoreStrings]
  exact ⟨_, rfl, rfl⟩

theorem ends_moreStrings_comma : Ends (readMoreStrings [',']) := by
  rw [readMoreStrings]
  exact ⟨_, rfl, rfl⟩

theorem ends_moreStrings_value (hquote : Fronts r '"' s) (hvalue : Ends (readStringValue r)) :
    Ends (readMoreStrings (',' :: r)) := by
  obtain ⟨_, hcomma⟩ := fronts_cons (c := ',') rfl r
  obtain ⟨_, hquote⟩ := hquote
  obtain ⟨e, hvalue, he⟩ := hvalue
  rw [readMoreStrings]
  simp only [hcomma, hquote, hvalue]
  exact ⟨e, rfl, he⟩

theorem ends_moreStrings_more {value : String} (hquote : Fronts r '"' s)
    (hvalue : Reads (readStringValue r) value t) (hmore : Ends (readMoreStrings t)) :
    Ends (readMoreStrings (',' :: r)) := by
  obtain ⟨_, hcomma⟩ := fronts_cons (c := ',') rfl r
  obtain ⟨_, hquote⟩ := hquote
  obtain ⟨_, hvalue⟩ := hvalue
  obtain ⟨e, hmore, he⟩ := hmore
  rw [readMoreStrings]
  simp only [hcomma, hquote, hvalue, hmore]
  exact ⟨e, rfl, he⟩

/-- The strings of a list behind one of them, cut. -/
theorem ends_moreStrings {values : List String}
    (hcut : Cut cs ((values.map stringChars).flatMap (fun part => ',' :: part) ++ [']'])) :
    Ends (readMoreStrings cs) := by
  induction values generalizing cs with
  | nil =>
    obtain rfl := hcut.nil_of_singleton
    exact ends_moreStrings_nil
  | cons value values ih =>
    rw [List.map_cons, List.flatMap_cons, List.append_assoc, List.cons_append] at hcut
    obtain rfl | ⟨r, rfl, hr⟩ := hcut.cons
    · exact ends_moreStrings_nil
    obtain rfl | ⟨⟨s, hquote⟩, hvalue | ⟨t, rfl, ht⟩⟩ := cut_string hr
    · exact ends_moreStrings_comma
    · exact ends_moreStrings_value hquote (ends_stringValue hvalue)
    · exact ends_moreStrings_more hquote (reads_written_string value t) (ih ht)

theorem ends_strings_value (hquote : Fronts cs '"' s) (hvalue : Ends (readStringValue cs)) :
    Ends (readStrings cs) := by
  obtain ⟨_, hquote⟩ := hquote
  obtain ⟨e, hvalue, he⟩ := hvalue
  simp only [readStrings, hquote, hvalue]
  exact ⟨e, rfl, he⟩

theorem ends_strings_more {value : String} (hquote : Fronts cs '"' s)
    (hvalue : Reads (readStringValue cs) value t) (hmore : Ends (readMoreStrings t)) :
    Ends (readStrings cs) := by
  obtain ⟨_, hquote⟩ := hquote
  obtain ⟨_, hvalue⟩ := hvalue
  obtain ⟨e, hmore, he⟩ := hmore
  simp only [readStrings, hquote, hvalue, hmore]
  exact ⟨e, rfl, he⟩

theorem ends_strings {values : List String}
    (hcut : Cut cs (commaSeparated (values.map stringChars) ++ [']'])) :
    Ends (readStrings cs) := by
  cases values with
  | nil =>
    obtain rfl := hcut.nil_of_singleton
    exact ⟨_, rfl, rfl⟩
  | cons value values =>
    rw [List.map_cons, commaSeparated_cons, List.append_assoc] at hcut
    obtain rfl | ⟨⟨s, hquote⟩, hvalue | ⟨t, rfl, ht⟩⟩ := cut_string hcut
    · exact ⟨_, rfl, rfl⟩
    · exact ends_strings_value hquote (ends_stringValue hvalue)
    · exact ends_strings_more hquote (reads_written_string value t) (ends_moreStrings ht)

/-- The value written for a field, cut. -/
theorem ends_value (c : Config) (f : Field) (hcut : Cut cs (c.valueChars f)) :
    Ends (readValue f cs) := by
  cases f with
  | rootDir | program | inPlaceFlag => exact ends_stringValue hcut
  | suffixes =>
    obtain rfl | ⟨r, rfl, hr⟩ := Cut.cons hcut
    · exact ⟨_, rfl, rfl⟩
    obtain ⟨_, hopen⟩ := fronts_cons (c := '[') rfl r
    obtain ⟨e, hread, he⟩ := ends_strings hr
    simp only [readValue, hopen, if_true, hread]
    exact ⟨e, rfl, he⟩

/-! ## 2. Members -/

/-- What is written for a field behind its key, cut. -/
theorem ends_member (c : Config) {p : Partial} {f : Field} (hopen : p.has f = false)
    (hcut : Cut cs (':' :: c.valueChars f)) : Ends (readMember p f.key cs) := by
  obtain rfl | ⟨r, rfl, hr⟩ := hcut.cons
  · simp only [readMember, Field.ofKey?_key, hopen]
    exact ⟨_, rfl, rfl⟩
  obtain ⟨_, hfront⟩ := fronts_cons (c := ':') rfl r
  have hcolon : readColon (':' :: r) = .ok ⟨r, Nat.lt_succ_self _⟩ := by
    simp only [readColon, hfront, if_true]
  obtain ⟨e, hread, he⟩ := ends_value c f hr
  simp only [readMember, Field.ofKey?_key, hopen, hcolon, hread]
  exact ⟨e, rfl, he⟩

theorem ends_members_key {p : Partial} (hkey : Ends (readString cs)) :
    Ends (readMembers p cs) := by
  obtain ⟨e, hkey, he⟩ := hkey
  rw [readMembers]
  simp only [hkey]
  exact ⟨e, rfl, he⟩

theorem ends_members_member {p : Partial} {key : String} (hkey : Reads (readString cs) key r)
    (hmember : Ends (readMember p key r)) : Ends (readMembers p cs) := by
  obtain ⟨_, hkey⟩ := hkey
  obtain ⟨e, hmember, he⟩ := hmember
  rw [readMembers]
  simp only [hkey, hmember]
  exact ⟨e, rfl, he⟩

theorem ends_members_nil {p q : Partial} {key : String} (hkey : Reads (readString cs) key r)
    (hmember : Reads (readMember p key r) q []) : Ends (readMembers p cs) := by
  obtain ⟨_, hkey⟩ := hkey
  obtain ⟨_, hmember⟩ := hmember
  rw [readMembers]
  simp only [hkey, hmember]
  exact ⟨_, rfl, rfl⟩

theorem ends_members_comma {p q : Partial} {key : String} (hkey : Reads (readString cs) key r)
    (hmember : Reads (readMember p key r) q [',']) : Ends (readMembers p cs) := by
  obtain ⟨_, hkey⟩ := hkey
  obtain ⟨_, hmember⟩ := hmember
  rw [readMembers]
  simp only [hkey, hmember]
  exact ⟨_, rfl, rfl⟩

theorem ends_members_more {p q : Partial} {key : String} (hkey : Reads (readString cs) key r)
    (hmember : Reads (readMember p key r) q (',' :: '"' :: u)) (hmore : Ends (readMembers q u)) :
    Ends (readMembers p cs) := by
  obtain ⟨_, hkey⟩ := hkey
  obtain ⟨_, hmember⟩ := hmember
  obtain ⟨_, hcomma⟩ := fronts_cons (c := ',') rfl ('"' :: u)
  obtain ⟨_, hquote⟩ := fronts_cons (c := '"') rfl u
  obtain ⟨e, hmore, he⟩ := hmore
  rw [readMembers]
  simp only [hkey, hmember, hcomma, hquote, hmore]
  exact ⟨e, rfl, he⟩

/-- The first of several members, cut or with a cut behind it.  A cut in its key or between the key
and the end of its value ends the text. -/
theorem ends_members_first (c : Config) {p : Partial} {f : Field} {more : List Char}
    (hopen : p.has f = false) (hcut : Cut cs
      (f.key.toList.flatMap escape ++ '"' :: ':' :: (c.valueChars f ++ more)))
    (hmore : ∀ r t, Cut t more → Reads (readString cs) f.key r →
      Reads (readMember p f.key r) (p.set f (c.value f)) t → Ends (readMembers p cs)) :
    Ends (readMembers p cs) := by
  have hparts : Cut cs ((f.key.toList.flatMap escape ++ ['"']) ++
      ((':' :: c.valueChars f) ++ more)) := by
    simpa using hcut
  obtain hkey | ⟨r, rfl, hr⟩ := hparts.append
  · exact ends_members_key (ends_string (spelled_flatMap_escape _) hkey)
  have hkey : Reads (readString ((f.key.toList.flatMap escape ++ ['"']) ++ r)) f.key r := by
    rw [List.append_assoc]
    exact reads_written f.key r
  obtain hvalue | ⟨t, rfl, ht⟩ := hr.append
  · exact ends_members_member hkey (ends_member c hopen hvalue)
  · exact hmore _ t ht hkey (reads_written_member c hopen t)

/-- The members of fields that are still open, cut.  The opening quote of the first key is already
read. -/
theorem ends_members (c : Config) (f : Field) (fs : List Field) {p : Partial}
    (hnodup : (f :: fs).Nodup) (hopen : ∀ g ∈ f :: fs, p.has g = false)
    (hcut : Cut cs (f.key.toList.flatMap escape ++ '"' :: ':' :: (c.valueChars f ++
      ((fs.map c.memberChars).flatMap (fun part => ',' :: part) ++ ['\x7d'])))) :
    Ends (readMembers p cs) := by
  induction fs generalizing f p cs with
  | nil =>
    refine ends_members_first c (hopen f List.mem_cons_self) hcut fun r t ht hkey hmember => ?_
    obtain rfl := ht.nil_of_singleton
    exact ends_members_nil hkey hmember
  | cons g fs ih =>
    refine ends_members_first c (hopen f List.mem_cons_self) hcut fun r t ht hkey hmember => ?_
    rw [List.map_cons, List.flatMap_cons, List.append_assoc, List.cons_append, memberChars,
      List.append_assoc, stringChars_append] at ht
    obtain rfl | ⟨s, rfl, hs⟩ := ht.cons
    · exact ends_members_nil hkey hmember
    obtain rfl | ⟨u, rfl, hu⟩ := hs.cons
    · exact ends_members_comma hkey hmember
    have hopen' := has_set_of_nodup hnodup hopen (c.value f)
    exact ends_members_more hkey hmember (ih g hnodup.of_cons hopen' hu)

/-! ## 3. Objects and whole texts -/

theorem ends_object {r : List Char} (hmembers : Ends (readMembers .blank r)) :
    Ends (readConfig ('\x7b' :: '"' :: r)) := by
  obtain ⟨_, hopen⟩ := fronts_cons (c := '\x7b') rfl ('"' :: r)
  obtain ⟨_, hquote⟩ := fronts_cons (c := '"') rfl r
  obtain ⟨e, hmembers, he⟩ := hmembers
  simp only [readConfig, hopen, if_true, readObject, hquote, hmembers]
  exact ⟨e, rfl, he⟩

/-- The text written for a configuration, cut. -/
theorem ends_config (c : Config) (hcut : Cut cs c.jsonChars) : Ends (readConfig cs) := by
  rw [jsonChars_eq] at hcut
  obtain rfl | ⟨r, rfl, hr⟩ := hcut.cons
  · exact ⟨_, rfl, rfl⟩
  obtain rfl | ⟨s, rfl, hs⟩ := hr.cons
  · exact ⟨_, rfl, rfl⟩
  · exact ends_object (ends_members c .rootDir [.program, .inPlaceFlag, .suffixes]
      (by decide) (by decide) hs)

/-- **A configuration that is cut is never read.**  The text written for a configuration is read as
that configuration.  Whatever the fields hold and wherever the text stops before its end, reading it
fails, and the failure is that the text ends too early; no default takes the place of what is
missing. -/
theorem cut_never_read (c : Config) :
    ofJson c.toJson = .ok c ∧
      ∀ text rest : String, c.toJson = text ++ rest → rest ≠ "" →
        ∃ e, ofJson text = .error e ∧ e.cause.category = .truncated := by
  refine ⟨ofJson_toJson c, fun text rest htext hrest => ?_⟩
  have hcut : Cut text.toList c.jsonChars := by
    refine ⟨rest.toList, fun hnil => hrest (String.toList_eq_nil_iff.mp hnil), ?_⟩
    rw [← String.toList_append, ← htext, toJson, String.toList_ofList]
  obtain ⟨e, hread, he⟩ := ends_config c hcut
  refine ⟨e, ?_, he⟩
  simp only [ofJson, readText, hread]

/-- In the example the text stops within an escape. -/
theorem sample_cut :
    let c : Config := { Config.default with rootDir := "a\x01", suffixes := [] }
    let text := "\x7b\"root_dir\":\"a\\u00"
    let rest := "01\",\"program\":\"clang-format\",\"in_place_flag\":\"-i\",\"suffixes\":[]\x7d"
    c.toJson = text ++ rest ∧ ∃ e, ofJson text = .error e ∧ e.cause.category = .truncated := by
  intro c text rest
  have htext : c.toJson = text ++ rest := by decide +kernel
  exact ⟨htext, (cut_never_read c).2 text rest htext (by decide)⟩

end TidyTree.Config
