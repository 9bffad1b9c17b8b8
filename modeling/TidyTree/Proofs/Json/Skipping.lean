/-
TidyTree.Proofs.Json.Skipping — every value that is written is passed
over.

A reader that passes over a value keeps the brackets that are open in a
list instead of calling itself, so what it does with one value depends
on what has to close behind it.  There is one rule for each way to go
on (`skipValue_open`, `skipAfter_comma`, …), and `skips` follows the
grammar with them: behind a value the reader stands where it would stand
had the value not been there.
-/
import TidyTree.Json.Skip
import TidyTree.Proofs.Json.Grammar

namespace TidyTree.Json

/-- The reader passes on and leaves the characters `rest`. -/
def Leaves {p : List Char → Prop} (answer : Except Failure { cs // p cs }) (rest : List Char) :
    Prop :=
  ∃ h, answer = .ok ⟨rest, h⟩

/-- Something is read, no matter what, and the characters `rest` are left. -/
def Reaches {α : Type} {p : List Char → Prop} (answer : Except Failure (α × { cs // p cs }))
    (rest : List Char) : Prop :=
  ∃ a r, answer = .ok (a, r) ∧ r.val = rest

variable {cs rest : List Char}

/-! ## 1. Numbers -/

theorem digit?_of_isDigit {c : Char} (h : IsDigit c) :
    digit? c = some (c.toNat - '0'.toNat) := if_pos h

theorem digit?_eq_none {c : Char} (h : ¬ IsDigit c) : digit? c = none := if_neg h

/-- The characters do not begin with a digit. -/
def EndsDigits (cs : List Char) : Prop := ∀ c ∈ cs.head?, ¬ IsDigit c

theorem EndsDigits.append (h : EndsDigits cs) (hrest : EndsDigits rest) :
    EndsDigits (cs ++ rest) := by
  cases cs with
  | nil => exact hrest
  | cons c cs => exact h

theorem Stops.not_mem {c : Char} (h : Stops rest) (hc : c ∈ rest.head?) :
    ¬ IsDigit c ∧ c ≠ '.' ∧ ¬ (c = 'e' ∨ c = 'E') := by
  rcases h c hc with hblank | rfl | rfl | rfl
  · rcases isBlank_iff.mp hblank with rfl | rfl | rfl | rfl <;> decide
  all_goals decide

theorem Stops.endsDigits (h : Stops rest) : EndsDigits rest := fun _ hc => (h.not_mem hc).1

theorem Fraction.endsDigits (h : Fraction cs) : EndsDigits cs := by
  intro c hc
  cases h with
  | none => cases hc
  | digits => cases hc; decide

theorem Exponent.endsDigits (h : Exponent cs) : EndsDigits cs := by
  intro c hc
  cases h with
  | none => cases hc
  | digits he => cases hc; rcases he with rfl | rfl <;> decide

theorem spanDigits_append {ds : List Char} (hds : ∀ c ∈ ds, IsDigit c) (h : EndsDigits rest) :
    spanDigits (ds ++ rest) = (ds.map fun c => c.toNat - '0'.toNat, rest) := by
  induction ds with
  | nil =>
    cases rest with
    | nil => rfl
    | cons c rest => simp [spanDigits, digit?_eq_none (h c rfl)]
  | cons d ds ih =>
    simp only [List.cons_append, spanDigits, digit?_of_isDigit (hds d List.mem_cons_self),
      ih fun c hc => hds c (List.mem_cons_of_mem d hc), List.map_cons]

theorem afterDigits_append {ds : List Char} (hds : ∀ c ∈ ds, IsDigit c) (h : EndsDigits rest) :
    (afterDigits (ds ++ rest)).val = rest :=
  congrArg Prod.snd (spanDigits_append hds h)

theorem reaches_whole (h : Whole cs) (hrest : EndsDigits rest) (atEnd : Cause) :
    Reaches (readWhole atEnd (cs ++ rest)) rest := by
  cases h with
  | zero =>
    have hnext : rest.head?.any (fun e => (digit? e).isSome) = false := by
      cases rest with
      | nil => rfl
      | cons c rest => simp [digit?_eq_none (hrest c rfl)]
    have hzero : digit? '0' = some 0 := rfl
    simp only [List.singleton_append, readWhole, hzero, hnext]
    exact ⟨_, _, rfl, rfl⟩
  | @digits d ds hd hne hds =>
    have hle : '0'.toNat ≤ d.toNat := hd.1
    have hvalue : d.toNat - '0'.toNat ≠ 0 := by
      intro h
      have hnat : d.toNat = '0'.toNat := by omega
      exact hne (Char.toNat_inj.mp hnat)
    simp only [List.cons_append, readWhole, digit?_of_isDigit hd]
    exact ⟨_, _, rfl, afterDigits_append hds hrest⟩

theorem reaches_fraction (h : Fraction cs) (hrest : EndsDigits rest)
    (hpoint : ∀ c ∈ rest.head?, c ≠ '.') (atEnd : Cause) :
    Reaches (readFraction atEnd (cs ++ rest)) rest := by
  cases h with
  | none =>
    rw [List.nil_append, readFraction]
    · exact ⟨_, _, rfl, rfl⟩
    · rintro r rfl
      exact hpoint '.' rfl rfl
  | @digits d ds hd hds =>
    have hall : ∀ c ∈ d :: ds, IsDigit c := List.forall_mem_cons.mpr ⟨hd, hds⟩
    have hsome : (spanDigits (d :: (ds ++ rest))).1.isEmpty = false := by
      rw [← List.cons_append, spanDigits_append hall hrest]
      rfl
    rw [List.cons_append, List.cons_append, readFraction]
    · simp only [hsome]
      exact ⟨_, _, rfl, afterDigits_append hall hrest⟩
    · intro h
      cases h

theorem reaches_power {d : Char} {ds : List Char} (hd : IsDigit d) (hds : ∀ c ∈ ds, IsDigit c)
    (hrest : EndsDigits rest) (atEnd : Cause) :
    Reaches (readPower atEnd (d :: (ds ++ rest))) rest := by
  simp only [readPower, digit?_of_isDigit hd]
  exact ⟨_, _, rfl, afterDigits_append hds hrest⟩

/-- Behind the sign of an exponent its digits are read. -/
theorem reaches_signed {c : Char} {atEnd : Cause} (negative : Bool) (signless : Remains cs)
    (h : Reaches (readPower atEnd signless.val) rest) :
    Reaches (match readPower atEnd signless.val with
      | .error e => .error e
      | .ok (ds, t) => .ok (some (negative, ds), (signless.orLess t).skip (c := c))) rest := by
  obtain ⟨ds, t, hpower, ht⟩ := h
  rw [hpower]
  exact ⟨_, _, rfl, ht⟩

theorem reaches_exponent (h : Exponent cs) (hrest : EndsDigits rest)
    (hletter : ∀ c ∈ rest.head?, ¬ (c = 'e' ∨ c = 'E')) (atEnd : Cause) :
    Reaches (readExponent atEnd (cs ++ rest)) rest := by
  cases h with
  | none =>
    cases rest with
    | nil => exact ⟨_, _, rfl, rfl⟩
    | cons c rest =>
      have hc := hletter c rfl
      rw [List.nil_append, readExponent.eq_def]
      simp only [hc, if_false]
      exact ⟨_, _, rfl, rfl⟩
  | @digits e d sign ds he hsign hd hds =>
    have hpower := reaches_power hd hds hrest atEnd
    rw [List.cons_append, List.append_assoc, List.cons_append]
    rcases hsign with rfl | rfl | rfl
    · rw [List.nil_append, readExponent, if_pos he]
      · exact reaches_signed false (.all _) hpower
      · rintro t ⟨⟩
        exact absurd hd (by decide)
      · rintro t ⟨⟩
        exact absurd hd (by decide)
    · rw [List.singleton_append, readExponent, if_pos he]
      exact reaches_signed true (Remains.all _).skip hpower
    · rw [List.singleton_append, readExponent, if_pos he]
      exact reaches_signed false (Remains.all _).skip hpower

/-- A number is read up to where something stops it. -/
theorem reaches_unsigned (h : Unsigned cs) (hrest : Stops rest) (negative : Bool) (atEnd : Cause) :
    Reaches (readUnsigned negative atEnd (cs ++ rest)) rest := by
  cases h with
  | @parts whole fraction exponent hwhole hfraction hexponent =>
    have hafter : EndsDigits (exponent ++ rest) := hexponent.endsDigits.append hrest.endsDigits
    have hpoint : ∀ c ∈ (exponent ++ rest).head?, c ≠ '.' := by
      intro c hc
      cases hexponent with
      | none => exact (hrest.not_mem hc).2.1
      | digits he => cases hc; rcases he with rfl | rfl <;> decide
    have hexponent := reaches_exponent hexponent hrest.endsDigits
      (fun c hc => (hrest.not_mem hc).2.2) atEnd
    obtain ⟨a, ⟨r, _⟩, hr, rfl⟩ :=
      reaches_whole hwhole (hfraction.endsDigits.append hafter) atEnd
    obtain ⟨b, ⟨s, _⟩, hs, rfl⟩ := reaches_fraction hfraction hafter hpoint atEnd
    obtain ⟨c, ⟨t, _⟩, ht, htval⟩ := hexponent
    rw [List.append_assoc, List.append_assoc]
    simp only [readUnsigned, hr, hs, ht]
    exact ⟨_, _, rfl, htval⟩

/-! ## 2. Words and strings -/

theorem leaves_word (word : List Char) (rest : List Char) :
    Leaves (readWord word (word ++ rest)) rest := by
  induction word with
  | nil => exact ⟨_, rfl⟩
  | cons c word ih =>
    obtain ⟨_, h⟩ := ih
    simp only [List.cons_append, readWord, if_true, h]
    exact ⟨_, rfl⟩

theorem leaves_escape_short {l c : Char} (h : shortEscape? l = some c) (rest : List Char) :
    Leaves (skipEscape (l :: rest)) rest := by
  have hu : l ≠ 'u' := by
    rintro rfl
    cases h
  simp only [skipEscape, hu, if_false, h, Option.isSome_some, if_true]
  exact ⟨_, rfl⟩

theorem leaves_escape_code {q : List Char} {n : Nat} (h : Quad q n) (rest : List Char) :
    Leaves (skipEscape ('u' :: (q ++ rest))) rest := by
  obtain ⟨_, hread⟩ := reads_quad h rest
  simp only [skipEscape, if_true, hread]
  exact ⟨_, rfl⟩

theorem leaves_string_escaped {e t : List Char} (h : Leaves (skipEscape e) t)
    (ht : Leaves (skipString t) rest) : Leaves (skipString ('\\' :: e)) rest := by
  obtain ⟨_, h⟩ := h
  obtain ⟨_, ht⟩ := ht
  rw [skipString]
  simp only [h, ht]
  exact ⟨_, rfl⟩

/-- A spelled character is passed over; the two halves of a pair one after the other. -/
theorem leaves_string_cons {part : List Char} {c : Char} (h : Spells part c)
    (hcs : Leaves (skipString cs) rest) : Leaves (skipString (part ++ cs)) rest := by
  cases h with
  | plain hquote hback hcontrol =>
    obtain ⟨_, hcs⟩ := hcs
    rw [List.singleton_append, skipString]
    simp only [hquote, hback, Nat.not_lt.mpr hcontrol, if_false, hcs]
    exact ⟨_, rfl⟩
  | escaped he =>
    cases he with
    | short hshort => exact leaves_string_escaped (leaves_escape_short hshort cs) hcs
    | code hq => exact leaves_string_escaped (leaves_escape_code hq cs) hcs
    | halves hq _ hq' _ =>
      rw [List.cons_append, List.cons_append, List.append_assoc, List.cons_append,
        List.cons_append]
      exact leaves_string_escaped (leaves_escape_code hq _)
        (leaves_string_escaped (leaves_escape_code hq' cs) hcs)

theorem leaves_string {s : List Char} (h : Spelled cs s) (rest : List Char) :
    Leaves (skipString (cs ++ '"' :: rest)) rest := by
  induction h with
  | nil =>
    rw [List.nil_append, skipString]
    exact ⟨_, rfl⟩
  | cons hpart _ ih =>
    rw [List.append_assoc]
    exact leaves_string_cons hpart ih

/-! ## 3. Labels and brackets -/

/-- The character that opens the bracket. -/
def Bracket.opening : Bracket → Char
  | list => '['
  | object => '\x7b'

theorem Bracket.of_opening (b : Bracket) :
    (if b.opening = '[' then some Bracket.list
      else if b.opening = '\x7b' then some .object else none) = some b := by
  cases b <;> rfl

/-- What may come before the next value of the bracket is passed over, and then the value and
whatever is needed to close the brackets. -/
def Goes (b : Bracket) (outer : List Bracket) (cs rest : List Char) : Prop :=
  ∃ s, Leaves (skipLabel b cs) s ∧ Leaves (skipValue (b :: outer) s) rest

variable {b : Bracket} {opened outer : List Bracket} {r s t : List Char}

theorem leaves_colon (h : Fronts cs ':' r) : Leaves (readColon cs) r := by
  obtain ⟨_, h⟩ := h
  simp only [readColon, h, if_true]
  exact ⟨_, rfl⟩

theorem leaves_key (hquote : Fronts cs '"' r) (hstring : Leaves (skipString r) s)
    (hcolon : Fronts s ':' t) : Leaves (skipLabel .object cs) t := by
  obtain ⟨_, hquote⟩ := hquote
  obtain ⟨_, hstring⟩ := hstring
  obtain ⟨_, hcolon⟩ := leaves_colon hcolon
  simp only [skipLabel, skipKey, hquote, if_true, hstring, hcolon]
  exact ⟨_, rfl⟩

theorem goes_list (h : Leaves (skipValue (.list :: outer) cs) rest) : Goes .list outer cs rest :=
  ⟨cs, ⟨Nat.le_refl _, rfl⟩, h⟩

theorem skipAfter_comma (hcomma : Fronts cs ',' r) (h : Goes b outer r rest) :
    Leaves (skipAfter (b :: outer) cs) rest := by
  obtain ⟨_, hcomma⟩ := hcomma
  obtain ⟨s, ⟨_, hlabel⟩, _, hvalue⟩ := h
  rw [skipAfter]
  simp only [hcomma, if_true, hlabel, hvalue]
  exact ⟨_, rfl⟩

theorem skipAfter_close (hclose : Fronts cs b.close r) (h : Leaves (skipAfter outer r) rest) :
    Leaves (skipAfter (b :: outer) cs) rest := by
  obtain ⟨_, hclose⟩ := hclose
  obtain ⟨_, h⟩ := h
  have hcomma : b.close ≠ ',' := by cases b <;> decide
  rw [skipAfter]
  simp only [hclose, hcomma, if_false, if_true, h]
  exact ⟨_, rfl⟩

theorem skipValue_open {d : Char} (hopen : Fronts cs b.opening r) (hnext : Fronts r d s)
    (hd : d ≠ b.close) (h : Goes b opened r rest) : Leaves (skipValue opened cs) rest := by
  obtain ⟨_, hopen⟩ := hopen
  obtain ⟨_, hnext⟩ := hnext
  obtain ⟨s', ⟨_, hlabel⟩, _, hvalue⟩ := h
  rw [skipValue]
  simp only [hopen, Bracket.of_opening, hnext, hd, if_false, hlabel, hvalue]
  exact ⟨_, rfl⟩

theorem skipValue_empty (hopen : Fronts cs b.opening r) (hclose : Fronts r b.close s)
    (h : Leaves (skipAfter opened s) rest) : Leaves (skipValue opened cs) rest := by
  obtain ⟨_, hopen⟩ := hopen
  obtain ⟨_, hclose⟩ := hclose
  obtain ⟨_, h⟩ := h
  rw [skipValue]
  simp only [hopen, Bracket.of_opening, hclose, if_true, h]
  exact ⟨_, rfl⟩

theorem skipValue_scalar {c : Char} {answer : Except Failure (Remains r)} (hc : Fronts cs c r)
    (hscalar : skipScalar c r = some answer) (hanswer : Leaves answer s)
    (h : Leaves (skipAfter opened s) rest) : Leaves (skipValue opened cs) rest := by
  obtain ⟨_, hc⟩ := hc
  obtain ⟨_, rfl⟩ := hanswer
  obtain ⟨_, h⟩ := h
  have hbracket : (if c = '[' then some Bracket.list
      else if c = '\x7b' then some .object else none) = none := by
    split
    · next e => subst e; cases hscalar
    · split
      · next e => subst e; cases hscalar
      · rfl
  rw [skipValue]
  simp only [hc, hbracket, hscalar, h]
  exact ⟨_, rfl⟩

theorem skipValue_digits {c : Char} (hc : Fronts cs c r) (hdigit : IsDigit c)
    (hnumber : Reaches (readUnsigned false .invalidNumber (c :: r)) s)
    (h : Leaves (skipAfter opened s) rest) : Leaves (skipValue opened cs) rest := by
  obtain ⟨_, hc⟩ := hc
  obtain ⟨l, ⟨s, _⟩, hnumber, rfl⟩ := hnumber
  obtain ⟨_, h⟩ := h
  have hne : ∀ d, ¬ IsDigit d → c ≠ d := by
    rintro d hd rfl
    exact hd hdigit
  have hbracket : (if c = '[' then some Bracket.list
      else if c = '\x7b' then some .object else none) = none := by
    rw [if_neg (hne _ (by decide)), if_neg (hne _ (by decide))]
  have hscalar : skipScalar c r = none := by
    rw [skipScalar, if_neg (hne _ (by decide)), if_neg (hne _ (by decide)),
      if_neg (hne _ (by decide)), if_neg (hne _ (by decide)), if_neg (hne _ (by decide))]
  rw [skipValue]
  simp only [hc, hbracket, hscalar, digit?_of_isDigit hdigit, Option.isSome_some, if_true,
    hnumber, h]
  exact ⟨_, rfl⟩

/-! ## 4. Values -/

/-- What stands behind a value in the bracket, a comma or what closes the bracket, and whatever is
needed behind that is passed over. -/
inductive Resumes (b : Bracket) (outer : List Bracket) (t : List Char) : List Char → Prop
  | comma {r : List Char} : Goes b outer r t → Resumes b outer t (',' :: r)
  | close {r : List Char} : Leaves (skipAfter outer r) t → Resumes b outer t (b.close :: r)

theorem Bracket.isBlank_opening (b : Bracket) : isBlank b.opening = false := by
  cases b <;> rfl

theorem Bracket.isBlank_close (b : Bracket) : isBlank b.close = false := by
  cases b <;> rfl

theorem Resumes.stops (h : Resumes b outer t rest) : Stops rest := by
  cases h with
  | comma => exact stops_cons (Or.inl rfl) _
  | close =>
    cases b with
    | list => exact stops_cons (Or.inr (Or.inl rfl)) _
    | object => exact stops_cons (Or.inr (Or.inr rfl)) _

theorem Resumes.leaves {blanks : List Char} (h : Resumes b outer t rest)
    (hblanks : Blanks blanks) : Leaves (skipAfter (b :: outer) (blanks ++ rest)) t := by
  cases h with
  | comma h => exact skipAfter_comma (fronts_blanks_cons hblanks rfl _) h
  | close h => exact skipAfter_close (fronts_blanks_cons hblanks b.isBlank_close _) h

/-- How a part of a text is passed over: the reader goes on behind it.  A value, with blanks only in
front of it, may stand outside all brackets; a value with blanks around it stands in one, elements
stand in a list and members in an object, and behind the last of these the bracket closes. -/
def Skips (cs : List Char) : Piece → Prop
  | .value _ => ∀ blanks opened rest t, Blanks blanks → Stops rest →
      Leaves (skipAfter opened rest) t → Leaves (skipValue opened (blanks ++ (cs ++ rest))) t
  | .element _ => ∀ b outer rest t, Resumes b outer t rest →
      Leaves (skipValue (b :: outer) (cs ++ rest)) t
  | .elements _ => ∀ outer rest t, Leaves (skipAfter outer rest) t →
      Goes .list outer (cs ++ ']' :: rest) t
  | .member _ => ∀ outer rest t, Resumes .object outer t rest → Goes .object outer (cs ++ rest) t
  | .members _ => ∀ outer rest t, Leaves (skipAfter outer rest) t →
      Goes .object outer (cs ++ '\x7d' :: rest) t

theorem skips_number (h : Numeral cs) : Skips cs (.value (.number cs)) := by
  intro blanks opened rest t hblanks hrest ht
  cases h with
  | positive h =>
    obtain ⟨c, r, rfl, hc⟩ := h.exists_cons
    exact skipValue_digits (fronts_blanks_cons hblanks (isBlank_of_isDigit hc) _) hc
      (reaches_unsigned h hrest _ _) ht
  | negative h =>
    obtain ⟨l, ⟨s, hs⟩, hnumber, hval⟩ := reaches_unsigned h hrest false .invalidNumber
    have hval : s = rest := hval
    refine skipValue_scalar (fronts_blanks_cons hblanks rfl _) rfl ?_ (hval ▸ ht)
    rw [List.append_eq, hnumber]
    exact ⟨Nat.le_of_lt hs, rfl⟩

theorem skips_string {s : String} (h : Spelled cs s.toList) :
    Skips ('"' :: (cs ++ ['"'])) (.value (.string s)) := by
  intro blanks opened rest t hblanks _ ht
  obtain ⟨hless, hstring⟩ := leaves_string h rest
  rw [List.cons_append, List.append_assoc]
  refine skipValue_scalar (fronts_blanks_cons hblanks rfl _) rfl ?_ ht
  rw [List.singleton_append, hstring]
  exact ⟨Nat.le_of_lt hless, rfl⟩

theorem skips_emptyBracket {blanks inside : List Char} (hblanks : Blanks blanks)
    (hinside : Blanks inside) (h : Leaves (skipAfter opened rest) t) :
    Leaves (skipValue opened (blanks ++ b.opening :: (inside ++ b.close :: rest))) t :=
  skipValue_empty (fronts_blanks_cons hblanks b.isBlank_opening _)
    (fronts_blanks_cons hinside b.isBlank_close _) h

/-- Every part of a text is passed over. -/
theorem skips {piece : Piece} (h : Written cs piece) : Skips cs piece := by
  induction h with
  | null | true | false =>
    intro blanks opened rest t hblanks _ ht
    exact skipValue_scalar (fronts_blanks_cons hblanks rfl _) rfl (leaves_word _ rest) ht
  | number h => exact skips_number h
  | string h => exact skips_string h
  | emptyList hinside =>
    intro blanks opened rest t hblanks _ ht
    rw [List.cons_append, List.append_assoc]
    exact skips_emptyBracket (b := .list) hblanks hinside ht
  | emptyObject hinside =>
    intro blanks opened rest t hblanks _ ht
    rw [List.cons_append, List.append_assoc]
    exact skips_emptyBracket (b := .object) hblanks hinside ht
  | @list cs vs helements ih =>
    intro blanks opened rest t hblanks _ ht
    obtain ⟨d, s, hnext, hd⟩ := helements.fronts_elements (']' :: rest)
    rw [List.cons_append, List.append_assoc]
    exact skipValue_open (b := .list) (fronts_blanks_cons hblanks rfl _) hnext hd
      (ih opened rest t ht)
  | @object cs ms hmembers ih =>
    intro blanks opened rest t hblanks _ ht
    obtain ⟨s, hnext⟩ := hmembers.fronts_members ('\x7d' :: rest)
    rw [List.cons_append, List.append_assoc]
    exact skipValue_open (b := .object) (fronts_blanks_cons hblanks rfl _) hnext (by decide)
      (ih opened rest t ht)
  | element ha _ he ih =>
    intro b outer rest t hrest
    rw [List.append_assoc, List.append_assoc]
    exact ih _ (b :: outer) _ t ha (stops_blanks he hrest.stops) (hrest.leaves he)
  | lastElement _ ih =>
    intro outer rest t ht
    exact goes_list (ih .list outer _ t (.close ht))
  | moreElements _ _ ihe ih =>
    intro outer rest t ht
    rw [List.append_assoc, List.cons_append]
    exact goes_list (ihe .list outer _ t (.comma (ih outer rest t ht)))
  | @member a ks e cs key v ha hkey he _ ih =>
    intro outer rest t hrest
    have hstring := leaves_string hkey (e ++ ':' :: (cs ++ rest))
    simp only [List.append_assoc, List.cons_append]
    exact ⟨_, leaves_key (fronts_blanks_cons ha rfl _) hstring (fronts_blanks_cons he rfl _),
      ih .object outer rest t hrest⟩
  | lastMember _ ih =>
    intro outer rest t ht
    exact ih outer _ t (.close ht)
  | moreMembers _ _ ihm ih =>
    intro outer rest t ht
    rw [List.append_assoc, List.cons_append]
    exact ihm outer _ t (.comma (ih outer rest t ht))

end TidyTree.Json
