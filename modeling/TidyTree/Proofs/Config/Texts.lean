/-
TidyTree.Proofs.Config.Texts — what the text of a value gives a field.

A value is read with something behind it: the comma or the bracket of a
list, the comma or the brace of an object.  The reader of a field finds
the end of its value by itself, so what it reads depends on the text of
the value alone (`Field.read?`), and it takes exactly the texts that
stand for a value of the field (`read?_eq_some_iff`).  This holds of
every JSON text (`faithful_of_formed`), also of one that stands for no
value because a string in it is not text.
-/
import TidyTree.Proofs.Config.Objects
import TidyTree.Proofs.Json.Forms

namespace TidyTree.Config

open Json

variable {a b cs r x : List Char} {xs : List (List Char)} {f : Field}

/-! ## 1. The text of a value -/

/-- What the text gives for the field, read alone. -/
def Field.read? (f : Field) (x : List Char) : Option f.Value :=
  match readValue f x with
  | .ok (value, _) => some value
  | .error _ => none

/-- That is given for the field wherever the text stands, and the blanks at its end are left. -/
def ReadAs (f : Field) (x : List Char) (given : Option f.Value) : Prop :=
  ∃ b, Blanks b ∧
    ∀ a rest, Blanks a → Answers (readValue f (a ++ (x ++ rest))) given (b ++ rest)

/-- The field is read from the text as from the text alone, and only if it is the text of a value
of the field. -/
structure Faithful (f : Field) (x : List Char) : Prop where
  reads : ReadAs f x (f.read? x)
  written : ∀ value, f.read? x = some value → Written x (.element (f.json value))

theorem ReadAs.eq {given : Option f.Value} (h : ReadAs f x given) : f.read? x = given := by
  obtain ⟨b, -, hread⟩ := h
  have halone := hread [] [] blanks_nil
  rw [List.append_nil, List.nil_append] at halone
  obtain ⟨rfl, e, herror⟩ | ⟨value, _, rfl, hok⟩ := halone.cases
  · rw [Field.read?, herror]
  · rw [Field.read?, hok]

theorem ReadAs.blanks {given : Option f.Value} (h : ReadAs f x given) (ha : Blanks a)
    (hb : Blanks b) : ReadAs f (a ++ (x ++ b)) given := by
  obtain ⟨b', hb', hread⟩ := h
  refine ⟨b' ++ b, blanks_append hb' hb, fun a' rest ha' => ?_⟩
  have hshape : a' ++ (a ++ (x ++ b) ++ rest) = a' ++ a ++ (x ++ (b ++ rest)) := by simp
  rw [hshape, List.append_assoc b']
  exact hread (a' ++ a) (b ++ rest) (blanks_append ha' ha)

theorem readAs_value {v : Json.Value} (h : Written x (.value v)) (f : Field) :
    ReadAs f x (f.given? v) :=
  ⟨[], blanks_nil, fun _ rest ha => answers_value f h ha rest⟩

/-- The text of a value gives what that value gives. -/
theorem read?_of_written {v : Json.Value} (h : Written x (.element v)) (f : Field) :
    f.read? x = f.given? v := by
  cases h with
  | element ha hvalue hb => exact ((readAs_value hvalue f).blanks ha hb).eq

/-- It is enough to know what is read anywhere, and that this is what the text stands for. -/
theorem ReadAs.faithful {given : Option f.Value} (h : ReadAs f x given)
    (hwritten : ∀ value, given = some value → Written x (.element (f.json value))) :
    Faithful f x := by
  constructor <;> rw [h.eq]
  exacts [h, hwritten]

theorem faithful_of_written {v : Json.Value} (h : Written x (.value v)) (f : Field) :
    Faithful f x := by
  refine (readAs_value h f).faithful fun value hvalue => ?_
  rw [← Field.given?_eq_some_iff.mp hvalue]
  exact h.toElement

theorem Faithful.blanks (h : Faithful f x) (ha : Blanks a) (hb : Blanks b) :
    Faithful f (a ++ (x ++ b)) :=
  (h.reads.blanks ha hb).faithful fun value hvalue => (h.written value hvalue).blanks ha hb

/-! ## 2. Lists of strings -/

/-- The string that the text gives. -/
abbrev string? (x : List Char) : Option String := Field.read? .rootDir x

theorem mapM_string_cons (x : List Char) (xs : List (List Char)) :
    (x :: xs).mapM string? = (string? x).bind fun s => (xs.mapM string?).map (s :: ·) := by
  rw [List.mapM_cons]
  cases string? x <;> cases xs.mapM string? <;> rfl

theorem answers_string (h : Faithful .rootDir x) :
    ∃ b, Blanks b ∧ ∀ rest, Answers (readStringValue (x ++ rest)) (string? x) (b ++ rest) := by
  obtain ⟨b, hb, hread⟩ := h.reads
  exact ⟨b, hb, fun rest => hread [] rest blanks_nil⟩

theorem answers_moreStrings_texts (hformed : ∀ x ∈ xs, Formed x)
    (hfaithful : ∀ x ∈ xs, Faithful .rootDir x) (hb : Blanks b) (rest : List Char) :
    Answers (readMoreStrings (b ++ (xs.flatMap (fun part => ',' :: part) ++ ']' :: rest)))
      (xs.mapM string?) rest := by
  induction xs generalizing b with
  | nil => exact reads_moreStrings_end (fronts_blanks_cons hb rfl _)
  | cons x xs ih =>
    obtain ⟨hx, hxs⟩ := List.forall_mem_cons.mp hformed
    obtain ⟨hxfaithful, hxsfaithful⟩ := List.forall_mem_cons.mp hfaithful
    obtain ⟨b', hb', hread⟩ := answers_string hxfaithful
    obtain ⟨d, s, hnext, hd⟩ := hx.fronts (xs.flatMap (fun part => ',' :: part) ++ ']' :: rest)
    rw [List.flatMap_cons, List.append_assoc, List.cons_append, mapM_string_cons]
    exact answers_moreStrings_more (fronts_blanks_cons hb rfl _) hnext hd (hread _)
      (ih hxs hxsfaithful hb')

/-- A list is read as strings if each of its texts is. -/
theorem answers_strings_texts (h : Separated cs xs) (hformed : ∀ x ∈ xs, Formed x)
    (hfaithful : ∀ x ∈ xs, Faithful .rootDir x) (rest : List Char) :
    Answers (readStrings (cs ++ ']' :: rest)) (xs.mapM string?) rest := by
  cases h with
  | none hb => exact reads_strings_end (fronts_blanks_cons hb rfl _)
  | @some x xs =>
    obtain ⟨hx, hxs⟩ := List.forall_mem_cons.mp hformed
    obtain ⟨hxfaithful, hxsfaithful⟩ := List.forall_mem_cons.mp hfaithful
    obtain ⟨b, hb, hread⟩ := answers_string hxfaithful
    obtain ⟨d, s, hnext, hd⟩ := hx.fronts (xs.flatMap (fun part => ',' :: part) ++ ']' :: rest)
    rw [commaSeparated_cons, List.append_assoc, mapM_string_cons]
    exact answers_strings_more hnext hd (hread _)
      (answers_moreStrings_texts hxs hxsfaithful hb rest)

/-- Texts that are read as strings are the elements of a list of these strings. -/
theorem written_elements {ss : List String} (hfaithful : ∀ y ∈ x :: xs, Faithful .rootDir y)
    (h : (x :: xs).mapM string? = some ss) :
    Written (commaSeparated (x :: xs)) (.elements (ss.map Value.string)) := by
  induction xs generalizing x ss with
  | nil =>
    obtain ⟨s, hs, hmap⟩ := Option.bind_eq_some_iff.mp ((mapM_string_cons x []).symm.trans h)
    cases hmap
    exact .lastElement ((hfaithful x List.mem_cons_self).written s hs)
  | cons y ys ih =>
    obtain ⟨s, hs, hmap⟩ := Option.bind_eq_some_iff.mp ((mapM_string_cons x _).symm.trans h)
    obtain ⟨ss, hss, rfl⟩ := Option.map_eq_some_iff.mp hmap
    exact .moreElements ((hfaithful x List.mem_cons_self).written s hs)
      (ih (fun z hz => hfaithful z (List.mem_cons_of_mem x hz)) hss)

/-! ## 3. Every value -/

theorem fails_string_chars (hquote : Fronts cs '"' r) (hchars : ∃ e, readChars r = .error e) :
    ∃ e, readStringValue cs = .error e := by
  obtain ⟨_, hquote⟩ := hquote
  obtain ⟨e, hchars⟩ := hchars
  refine ⟨e, ?_⟩
  simp only [readStringValue, hquote, if_true, readString, hchars]

/-- Nothing is said of a text that is refused everywhere. -/
theorem faithful_of_fails
    (h : ∀ a rest, Blanks a → ∃ e, readValue f (a ++ (x ++ rest)) = .error e) : Faithful f x :=
  have hnone : ReadAs f x none := ⟨[], blanks_nil, h⟩
  hnone.faithful nofun

theorem faithful_string (h : Lettered cs) (f : Field) : Faithful f ('"' :: (cs ++ ['"'])) := by
  rcases h.legible with ⟨s, hs⟩ | hfails
  · rw [← String.toList_ofList (l := s)] at hs
    exact faithful_of_written (.string hs) f
  · -- The string is refused as a string, and as a list because it is none.
    refine faithful_of_fails fun a rest ha => ?_
    rw [List.cons_append, List.append_assoc]
    have hquote := fronts_blanks_cons (c := '"') ha rfl (cs ++ '"' :: rest)
    cases f with
    | rootDir | program | inPlaceFlag => exact fails_string_chars hquote (hfails rest)
    | suffixes => exact fails_suffixes hquote (by decide)

theorem faithful_list (h : Separated cs xs) (hformed : ∀ x ∈ xs, Formed x)
    (hfaithful : ∀ x ∈ xs, Faithful .rootDir x) (f : Field) :
    Faithful f ('[' :: (cs ++ [']'])) := by
  have hopen : ∀ a rest, Blanks a → Fronts (a ++ ('[' :: (cs ++ [']']) ++ rest)) '['
      (cs ++ ']' :: rest) := by
    intro a rest ha
    rw [List.cons_append, List.append_assoc]
    exact fronts_blanks_cons ha rfl _
  cases f with
  | rootDir | program | inPlaceFlag =>
    exact faithful_of_fails fun a rest ha => fails_stringValue (hopen a rest ha) (by decide)
  | suffixes =>
    have hread : ReadAs .suffixes ('[' :: (cs ++ [']'])) (xs.mapM string?) :=
      ⟨[], blanks_nil, fun a rest ha => answers_suffixes (hopen a rest ha)
        (answers_strings_texts h hformed hfaithful rest)⟩
    refine hread.faithful fun ss hss => Written.toElement ?_
    cases h with
    | none hb =>
      cases hss
      exact .emptyList hb
    | some => exact .list (written_elements hfaithful hss)

theorem faithful_object (cs : List Char) (f : Field) : Faithful f ('\x7b' :: cs) := by
  refine faithful_of_fails fun a rest ha => ?_
  have hopen := fronts_blanks_cons (c := '\x7b') ha rfl (cs ++ rest)
  cases f with
  | rootDir | program | inPlaceFlag => exact fails_stringValue hopen (by decide)
  | suffixes => exact fails_suffixes hopen (by decide)

/-- Every JSON text is read alike wherever it stands. -/
theorem faithful_of_formed (h : Formed x) : ∀ f, Faithful f x := by
  induction h with
  | null => exact faithful_of_written .null
  | true => exact faithful_of_written .true
  | false => exact faithful_of_written .false
  | number hn => exact faithful_of_written (.number hn)
  | string hcs => exact faithful_string hcs
  | list hcs hformed ih => exact faithful_list hcs hformed fun x hx => ih x hx .rootDir
  | object => exact faithful_object _
  | blanks ha _ hb ih => exact fun f => (ih f).blanks ha hb

theorem read?_eq_some_iff (h : Formed x) {value : f.Value} :
    f.read? x = some value ↔ Written x (.element (f.json value)) := by
  constructor
  · exact (faithful_of_formed h f).written value
  · intro hwritten
    rw [read?_of_written hwritten, Field.given?_eq_some_iff]

/-- The texts stand for one value, or neither of them stands for any. -/
def SameValue (x y : List Char) : Prop :=
  (∃ v, Written x (.element v) ∧ Written y (.element v)) ∨
    ∀ v, ¬ Written x (.element v) ∧ ¬ Written y (.element v)

theorem SameValue.refl (x : List Char) : SameValue x x := by
  by_cases h : ∃ v, Written x (.element v)
  · obtain ⟨v, hv⟩ := h
    exact Or.inl ⟨v, hv, hv⟩
  · exact Or.inr fun v => ⟨fun hv => h ⟨v, hv⟩, fun hv => h ⟨v, hv⟩⟩

theorem SameValue.read?_eq {y : List Char} (h : SameValue x y) (hx : Formed x) (hy : Formed y)
    (f : Field) : f.read? x = f.read? y := by
  rcases h with ⟨v, hxv, hyv⟩ | hnone
  · rw [read?_of_written hxv, read?_of_written hyv]
  · refine Option.ext fun value => ?_
    obtain ⟨hxnone, hynone⟩ := hnone (f.json value)
    rw [read?_eq_some_iff hx, read?_eq_some_iff hy]
    exact iff_of_false hxnone hynone

end TidyTree.Config
