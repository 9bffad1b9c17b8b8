/-
TidyTree.Proofs.Config.Readings — what each reader of a configuration
reads, from what its parts read.

There is one rule for each way in which a reader can succeed, and the
rules do not say what the text looks like: they take the readings of
the parts.  So they hold with blanks or without, and for every spelling
of a string.
-/
import TidyTree.Config.Json
import TidyTree.Proofs.Json.Strings

namespace TidyTree.Config

open Json

variable {cs r s t u v : List Char}

/-! ## 1. Strings and lists of strings -/

theorem reads_stringValue {value : String} (hquote : Fronts cs '"' r)
    (hvalue : Reads (readString r) value t) : Reads (readStringValue cs) value t := by
  obtain ⟨_, hquote⟩ := hquote
  obtain ⟨_, hvalue⟩ := hvalue
  simp only [readStringValue, hquote, if_true, hvalue]
  exact ⟨_, rfl⟩

theorem reads_moreStrings_end (hend : Fronts cs ']' r) : Reads (readMoreStrings cs) [] r := by
  obtain ⟨hless, hend⟩ := hend
  rw [readMoreStrings]
  simp only [hend, if_true]
  exact ⟨hless, rfl⟩

theorem reads_moreStrings_more {value : String} {values : List String} (hcomma : Fronts cs ',' r)
    (hquote : Fronts r '"' s) (hvalue : Reads (readString s) value t)
    (hmore : Reads (readMoreStrings t) values u) :
    Reads (readMoreStrings cs) (value :: values) u := by
  obtain ⟨_, hstring⟩ := reads_stringValue hquote hvalue
  obtain ⟨_, hcomma⟩ := hcomma
  obtain ⟨_, hquote⟩ := hquote
  obtain ⟨_, hmore⟩ := hmore
  rw [readMoreStrings]
  simp only [hcomma, hquote, hstring, hmore]
  exact ⟨_, rfl⟩

theorem reads_strings_end (hend : Fronts cs ']' r) : Reads (readStrings cs) [] r := by
  obtain ⟨hless, hend⟩ := hend
  simp only [readStrings, hend, if_true]
  exact ⟨hless, rfl⟩

theorem reads_strings_more {value : String} {values : List String} (hquote : Fronts cs '"' s)
    (hvalue : Reads (readString s) value t) (hmore : Reads (readMoreStrings t) values u) :
    Reads (readStrings cs) (value :: values) u := by
  obtain ⟨_, hstring⟩ := reads_stringValue hquote hvalue
  obtain ⟨_, hquote⟩ := hquote
  obtain ⟨_, hmore⟩ := hmore
  simp only [readStrings, hquote, hstring, hmore]
  exact ⟨_, rfl⟩

theorem reads_suffixes {values : List String} (hopen : Fronts cs '[' r)
    (hvalues : Reads (readStrings r) values t) : Reads (readValue .suffixes cs) values t := by
  obtain ⟨_, hopen⟩ := hopen
  obtain ⟨_, hvalues⟩ := hvalues
  simp only [readValue, hopen, if_true, hvalues]
  exact ⟨_, rfl⟩

/-! ## 2. Members -/

/-- A known key with a value gives the field that value, if it has none yet. -/
theorem reads_member {p : Partial} {f : Field} {value : f.Value} (hopen : p.has f = false)
    (hcolon : Fronts cs ':' r) (hvalue : Reads (readValue f r) value t) :
    Reads (readMember p f.key cs) (p.set f value) t := by
  obtain ⟨hless, hcolon⟩ := hcolon
  obtain ⟨_, hvalue⟩ := hvalue
  have hreadColon : readColon cs = .ok ⟨r, hless⟩ := by
    simp only [readColon, hcolon, if_true]
  simp only [readMember, Field.ofKey?_key, hopen, hreadColon, hvalue]
  exact ⟨_, rfl⟩

theorem reads_members_last {p q : Partial} {key : String} (hkey : Reads (readString cs) key r)
    (hmember : Reads (readMember p key r) q s) (hend : Fronts s '\x7d' t) :
    Reads (readMembers p cs) q t := by
  obtain ⟨_, hkey⟩ := hkey
  obtain ⟨_, hmember⟩ := hmember
  obtain ⟨_, hend⟩ := hend
  rw [readMembers]
  simp only [hkey, hmember, hend, if_true]
  exact ⟨_, rfl⟩

theorem reads_members_more {p q a : Partial} {key : String} (hkey : Reads (readString cs) key r)
    (hmember : Reads (readMember p key r) q s) (hcomma : Fronts s ',' t) (hquote : Fronts t '"' u)
    (hmore : Reads (readMembers q u) a v) : Reads (readMembers p cs) a v := by
  obtain ⟨_, hkey⟩ := hkey
  obtain ⟨_, hmember⟩ := hmember
  obtain ⟨_, hcomma⟩ := hcomma
  obtain ⟨_, hquote⟩ := hquote
  obtain ⟨_, hmore⟩ := hmore
  rw [readMembers]
  simp only [hkey, hmember, hcomma, hquote, hmore]
  exact ⟨_, rfl⟩

/-! ## 3. Objects and whole texts -/

theorem reads_object {p : Partial} (hquote : Fronts cs '"' r)
    (hmembers : Reads (readMembers .blank r) p t) : Reads (readObject cs) p t := by
  obtain ⟨_, hquote⟩ := hquote
  obtain ⟨_, hmembers⟩ := hmembers
  simp only [readObject, hquote, hmembers]
  exact ⟨_, rfl⟩

theorem reads_config_object {p : Partial} (hopen : Fronts cs '\x7b' r)
    (hobject : Reads (readObject r) p t) : Reads (readConfig cs) p t := by
  obtain ⟨_, hopen⟩ := hopen
  obtain ⟨_, hobject⟩ := hobject
  simp only [readConfig, hopen, if_true, hobject]
  exact ⟨_, rfl⟩

theorem readText_eq_ok {p : Partial} (hconfig : Reads (readConfig cs) p r)
    (hend : front r = .nothing) : readText cs = .ok p.fill := by
  obtain ⟨_, hconfig⟩ := hconfig
  simp only [readText, hconfig, hend]

end TidyTree.Config
