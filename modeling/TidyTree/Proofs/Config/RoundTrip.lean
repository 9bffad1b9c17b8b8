/-
TidyTree.Proofs.Config.RoundTrip — what is written for a configuration
is read as that configuration.

The text is cut into chunks: the strings of a list, and the members of
the object.  All chunks but the first begin with the comma that
separates them (`commaSeparated_cons`), so that reading goes along the
list of chunks, one rule for each.
-/
import TidyTree.Proofs.Config.Readings

namespace TidyTree

open Json

namespace Json

/-- Every part but the first has a comma before it. -/
theorem commaSeparated_cons (part : List Char) (parts : List (List Char)) :
    commaSeparated (part :: parts) = part ++ parts.flatMap (fun other => ',' :: other) := by
  induction parts generalizing part with
  | nil => exact (List.append_nil _).symm
  | cons other parts ih =>
    rw [commaSeparated, ih, List.flatMap_cons, List.cons_append]
    simp

theorem stringChars_append (s : String) (rest : List Char) :
    stringChars s ++ rest = '"' :: (s.toList.flatMap escape ++ '"' :: rest) := by
  simp [stringChars]

theorem reads_written (s : String) (rest : List Char) :
    Reads (readString (s.toList.flatMap escape ++ '"' :: rest)) s rest :=
  reads_string (spelled_flatMap_escape s.toList) rest

end Json

namespace Config

/-! ## 1. Values -/

/-- The value of a field in a configuration. -/
def value (c : Config) : (f : Field) → f.Value
  | .rootDir => c.rootDir
  | .program => c.program
  | .inPlaceFlag => c.inPlaceFlag
  | .suffixes => c.suffixes

theorem reads_written_string (s : String) (rest : List Char) :
    Reads (readStringValue (stringChars s ++ rest)) s rest := by
  rw [stringChars_append]
  exact reads_stringValue (fronts_cons rfl _) (reads_written s rest)

/-- The strings of a list behind one of them are read, each behind its comma. -/
theorem reads_written_moreStrings (ss : List String) (rest : List Char) :
    Reads (readMoreStrings ((ss.map stringChars).flatMap (fun part => ',' :: part) ++ ']' :: rest))
      ss rest := by
  induction ss with
  | nil => exact reads_moreStrings_end (fronts_cons rfl _)
  | cons s ss ih =>
    rw [List.map_cons, List.flatMap_cons, List.append_assoc, List.cons_append, stringChars_append]
    exact reads_moreStrings_more (fronts_cons rfl _) (fronts_cons rfl _) (reads_written s _) ih

theorem reads_written_strings (ss : List String) (rest : List Char) :
    Reads (readValue .suffixes (stringsChars ss ++ rest)) ss rest := by
  rw [stringsChars, List.cons_append, List.append_assoc]
  refine reads_suffixes (fronts_cons rfl _) ?_
  cases ss with
  | nil => exact reads_strings_end (fronts_cons rfl _)
  | cons s ss =>
    rw [List.map_cons, commaSeparated_cons, List.append_assoc, stringChars_append]
    exact reads_strings_more (fronts_cons rfl _) (reads_written s _)
      (reads_written_moreStrings ss rest)

/-- The value written for a field is read as that value. -/
theorem reads_written_value (c : Config) (f : Field) (rest : List Char) :
    Reads (readValue f (c.valueChars f ++ rest)) (c.value f) rest := by
  cases f with
  | rootDir => exact reads_written_string c.rootDir rest
  | program => exact reads_written_string c.program rest
  | inPlaceFlag => exact reads_written_string c.inPlaceFlag rest
  | suffixes => exact reads_written_strings c.suffixes rest

/-! ## 2. Members -/

/-- The fields with their values in a configuration, set one after the other. -/
def setAll (c : Config) (p : Partial) (fs : List Field) : Partial :=
  fs.foldl (fun p f => p.set f (c.value f)) p

/-- Setting a field leaves the others open. -/
theorem has_set_of_ne {f g : Field} (h : g ≠ f) (p : Partial) (v : f.Value) :
    (p.set f v).has g = p.has g := by
  cases f <;> cases g <;> first | rfl | exact absurd rfl h

/-- If each field comes once, those behind the one that is set are open still. -/
theorem has_set_of_nodup {f : Field} {fs : List Field} {p : Partial} (hnodup : (f :: fs).Nodup)
    (hopen : ∀ g ∈ f :: fs, p.has g = false) (v : f.Value) :
    ∀ g ∈ fs, (p.set f v).has g = false := by
  intro g hmem
  have hne : g ≠ f := fun heq => (List.nodup_cons.mp hnodup).1 (heq ▸ hmem)
  rw [has_set_of_ne hne]
  exact hopen g (List.mem_cons_of_mem _ hmem)

theorem reads_written_member (c : Config) {p : Partial} {f : Field} (hopen : p.has f = false)
    (rest : List Char) :
    Reads (readMember p f.key (':' :: (c.valueChars f ++ rest))) (p.set f (c.value f)) rest :=
  reads_member hopen (fronts_cons rfl _) (reads_written_value c f rest)

/-- The members of fields that are still open are read as their values, up to the closing brace.
The opening quote of the first key is already read. -/
theorem reads_written_members (c : Config) (f : Field) (fs : List Field) {p : Partial}
    (hnodup : (f :: fs).Nodup) (hopen : ∀ g ∈ f :: fs, p.has g = false) (rest : List Char) :
    Reads (readMembers p (f.key.toList.flatMap escape ++ '"' :: ':' :: (c.valueChars f ++
      ((fs.map c.memberChars).flatMap (fun part => ',' :: part) ++ '\x7d' :: rest))))
      (c.setAll p (f :: fs)) rest := by
  induction fs generalizing f p with
  | nil =>
    exact reads_members_last (reads_written _ _)
      (reads_written_member c (hopen f (List.mem_cons_self ..)) _) (fronts_cons rfl _)
  | cons g fs ih =>
    have hmore := ih g hnodup.of_cons (has_set_of_nodup hnodup hopen (c.value f))
    rw [List.map_cons, List.flatMap_cons, List.append_assoc, List.cons_append, memberChars,
      List.append_assoc, stringChars_append]
    exact reads_members_more (reads_written _ _)
      (reads_written_member c (hopen f (List.mem_cons_self ..)) _) (fronts_cons rfl _)
      (fronts_cons rfl _) hmore

/-- Once all fields are set, no default is left. -/
theorem fill_setAll (c : Config) : (c.setAll .blank Field.all).fill = c := rfl

/-! ## 3. Round trip -/

theorem jsonChars_eq (c : Config) :
    c.jsonChars = '\x7b' :: '"' :: (Field.rootDir.key.toList.flatMap escape ++ '"' :: ':' ::
      (c.valueChars .rootDir ++
        (([.program, .inPlaceFlag, .suffixes].map c.memberChars).flatMap
          (fun part => ',' :: part) ++ ['\x7d']))) := by
  rw [jsonChars, Field.all, List.map_cons, commaSeparated_cons, List.append_assoc]
  -- Only the first member is opened; the others keep their commas.
  conv_lhs => rw [memberChars, List.append_assoc, List.cons_append, stringChars_append]

theorem readText_jsonChars (c : Config) : readText c.jsonChars = .ok c := by
  have hmembers := reads_written_members c .rootDir [.program, .inPlaceFlag, .suffixes]
    (p := .blank) (by decide) (by decide) []
  have hobject : Reads (readConfig c.jsonChars) (c.setAll .blank Field.all) [] := by
    rw [jsonChars_eq]
    exact reads_config_object (fronts_cons rfl _) (reads_object (fronts_cons rfl _) hmembers)
  rw [readText_eq_ok hobject front_nil, fill_setAll]

theorem ofJson_toJson (c : Config) : ofJson c.toJson = .ok c := by
  rw [ofJson, toJson, String.toList_ofList, readText_jsonChars]

/-- **Configurations survive their JSON text.**  What is written for a configuration is read as
that configuration, whatever characters its fields hold; so what was read from any text is read
again from the text written for it, which is then written again unchanged, and two configurations
with one text are equal. -/
theorem json_round_trip :
    (∀ c : Config, ofJson c.toJson = .ok c) ∧
      (∀ (text : String) (c : Config), ofJson text = .ok c →
        ofJson c.toJson = .ok c ∧
          ∀ d : Config, ofJson c.toJson = .ok d → d = c ∧ d.toJson = c.toJson) ∧
      ∀ c d : Config, c.toJson = d.toJson → c = d := by
  refine ⟨ofJson_toJson, fun text c _ => ⟨ofJson_toJson c, fun d hd => ?_⟩, fun c d htext => ?_⟩
  · have hsame : (.ok d : Except Failure Config) = .ok c := hd.symm.trans (ofJson_toJson c)
    cases hsame
    exact ⟨rfl, rfl⟩
  · have hsame : (.ok c : Except Failure Config) = .ok d := by
      rw [← ofJson_toJson c, ← ofJson_toJson d, htext]
    cases hsame
    rfl

/-- In the example a text with blanks, surrogates and escapes that are not needed is read; the
text written for it is another, and is read as the same configuration. -/
theorem sample_round_trip :
    let text := "\x7b \"root_dir\" : \"\\ud83d\\ude00\\u0041\\/\\u0001\" \x7d"
    let c : Config := { Config.default with rootDir := "😀A/\x01" }
    ofJson text = .ok c ∧ c.toJson ≠ text ∧ ofJson c.toJson = .ok c := by
  intro text c
  have hread : ofJson text = .ok c := by decide +kernel
  exact ⟨hread, by decide +kernel, (json_round_trip.2.1 text c hread).1⟩

end Config

end TidyTree
