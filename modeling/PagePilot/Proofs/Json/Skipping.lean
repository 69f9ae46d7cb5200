import PagePilot.Proofs.Json.Digits
import PagePilot.Proofs.Json.Grammar
import PagePilot.Proofs.Json.RoundTrip

/-!
# Skipping values

A value is skipped exactly if it is JSON, however deep it is nested and whatever numbers it holds.
In particular, every printed value is skipped.

## Main definitions

- `Json.Skips` - a piece of text is skipped as one value

## Main statements

- `Json.skipValue_eq_ok_iff` - what is skipped is what the grammar takes for a value
- `Json.value_print` - a printed value is JSON
-/

namespace PagePilot.Json

open Grammar

section Numbers

variable {text middle rest : List Char}

theorem ne_of_isDigit {c other : Char} (hc : c.isDigit = true) (hother : other.isDigit = false) :
    c ≠ other := by
  rintro rfl
  simp [hc] at hother

theorem Stops.dropWhile_of_digits (hrest : Stops rest) (h : Digits text rest) :
    text.dropWhile Char.isDigit = rest := by
  obtain ⟨digits, hdigits, rfl⟩ := h
  rw [List.dropWhile_append_of_pos hdigits, hrest.dropWhile]

theorem skipExponent_of_exponent (h : Exponent text rest) (hrest : Stops rest) :
    skipExponent text = .ok rest := by
  cases h with
  | plain h =>
    obtain ⟨hdigit, hmore⟩ := h
    -- a digit is no sign
    have hplus := ne_of_isDigit hdigit (rfl : '+'.isDigit = false)
    have hminus := ne_of_isDigit hdigit (rfl : '-'.isDigit = false)
    simp [skipExponent, hplus, hminus, hdigit, hrest.dropWhile_of_digits hmore]
  | signed hsign h =>
    obtain ⟨hdigit, hmore⟩ := h
    rcases hsign with rfl | rfl <;>
      simp [skipExponent, hdigit, hrest.dropWhile_of_digits hmore]

theorem skipTail_of_ends (hrest : Ends rest) : skipTail rest = .ok rest := by
  cases rest with
  | nil => rfl
  | cons c rest =>
    obtain ⟨-, -, he, hE⟩ := hrest
    simp [skipTail, he, hE]

theorem skipTail_of_power (h : Power text rest) (hrest : Ends rest) :
    skipTail text = .ok rest := by
  cases h with
  | none => exact skipTail_of_ends hrest
  | some hmark h =>
    have hexponent := skipExponent_of_exponent h hrest.stops
    rcases hmark with rfl | rfl
    · exact hexponent
    · exact hexponent

theorem Grammar.Power.stops (h : Power text rest) (hrest : Ends rest) : Stops text := by
  cases h with
  | none => exact hrest.stops
  | some hmark _ => rcases hmark with rfl | rfl <;> rfl

theorem Grammar.Places.stops (h : Places text rest) (hrest : Ends rest) : Stops text := by
  cases h with
  | none h => exact h.stops hrest
  | point => exact rfl

theorem skipFraction_of_numeral (h : Numeral text middle) (hpower : Power middle rest)
    (hrest : Ends rest) : skipFraction text = .ok rest := by
  obtain ⟨hdigit, digits, hdigits, rfl⟩ := h
  have hall : ∀ c ∈ _ :: digits, c.isDigit = true := List.forall_mem_cons.mpr ⟨hdigit, hdigits⟩
  have hspan := spanDigits_append hall (hpower.stops hrest)
  rw [List.cons_append] at hspan
  simp only [skipFraction, hspan]
  exact skipTail_of_power hpower hrest

theorem skipPlaces_of_places (h : Places text rest) (hrest : Ends rest) :
    skipPlaces text = .ok rest := by
  cases h with
  | point hnumeral hpower => exact skipFraction_of_numeral hnumeral hpower hrest
  | none h =>
    have htail := skipTail_of_power h hrest
    cases h with
    | some hmark _ =>
      rcases hmark with rfl | rfl
      · exact htail
      · exact htail
    | none =>
      cases text with
      | nil => rfl
      | cons c text =>
        have hpoint : c ≠ '.' := hrest.2.1
        simpa [skipPlaces, hpoint] using htail

/-- A number is skipped if nothing more of a number stands behind it. -/
theorem skipNumber_of_unsigned (h : Unsigned text rest) (hrest : Ends rest) :
    skipNumber text = .ok rest := by
  cases h with
  | @zero text _ h =>
    have hplaces := skipPlaces_of_places h hrest
    have hstops := h.stops hrest
    cases text with
    | nil => exact hplaces
    | cons c text =>
      have hdigit : c.isDigit = false := hstops
      simpa [skipNumber, hdigit] using hplaces
  | whole hzero hdigit hmore h =>
    have hplaces := skipPlaces_of_places h hrest
    rw [skipNumber, if_pos hdigit, (h.stops hrest).dropWhile_of_digits hmore]
    · exact hplaces
    · exact hzero

end Numbers

section Texts

variable {text middle rest : List Char} {n : Nat}

theorem readUnit_of_codeUnit (h : CodeUnit text n rest) : readUnit text = .ok (n, rest) := by
  obtain ⟨ha, hb, hc, hd⟩ := h
  simp only [readUnit, ha, hb, hc, hd]

theorem Grammar.CodeUnit.length (h : CodeUnit text n rest) : rest.length < text.length := by
  cases h
  simp only [List.length_cons]
  omega

theorem skipEscape_of_short {mark c : Char} (h : (mark, c) ∈ escapes) (rest : List Char) :
    skipEscape (mark :: rest) = .ok rest := by
  simp only [escapes, List.mem_cons, Prod.mk.injEq, List.not_mem_nil, or_false] at h
  rcases h with ⟨rfl, -⟩ | ⟨rfl, -⟩ | ⟨rfl, -⟩ | ⟨rfl, -⟩ | ⟨rfl, -⟩ | ⟨rfl, -⟩ | ⟨rfl, -⟩ |
    ⟨rfl, -⟩ <;> rfl

theorem Grammar.Characters.length (h : Characters text rest) : rest.length < text.length := by
  induction h with
  | close rest => exact Nat.lt_succ_self _
  | plain _ _ _ _ ih =>
    rw [List.length_cons]
    omega
  | short _ _ ih =>
    simp only [List.length_cons]
    omega
  | unit hunit _ ih =>
    have hlength := hunit.length
    simp only [List.length_cons]
    omega

/-- A text is skipped whatever its escapes stand for. -/
theorem skipText_of_characters (h : Characters text rest) {fuel : Nat}
    (hfuel : text.length < fuel) : skipText fuel text = .ok rest := by
  -- every piece of the text is as long as the fuel that skipping it takes
  induction h generalizing fuel with
  | close rest =>
    obtain ⟨spare, rfl⟩ := Nat.exists_eq_add_of_lt hfuel
    rfl
  | plain hquote hslash hcontrol _ ih =>
    obtain ⟨spare, rfl⟩ := Nat.exists_eq_add_of_lt hfuel
    rw [skipText, if_neg (Nat.not_lt.mpr hcontrol)]
    · refine ih ?_
      rw [List.length_cons]
      omega
    · exact hquote
    · exact hslash
  | short hescape _ ih =>
    obtain ⟨spare, rfl⟩ := Nat.exists_eq_add_of_lt hfuel
    simp only [skipText, skipEscape_of_short hescape, ok_bind]
    refine ih ?_
    simp only [List.length_cons]
    omega
  | unit hunit _ ih =>
    obtain ⟨spare, rfl⟩ := Nat.exists_eq_add_of_lt hfuel
    have hlength := hunit.length
    simp only [skipText, skipEscape, readUnit_of_codeUnit hunit, ok_bind]
    refine ih ?_
    simp only [List.length_cons]
    omega

end Texts

section Lengths

variable {text rest : List Char}

theorem Grammar.Many.length {p : Char → Bool} (h : Many p text rest) :
    rest.length ≤ text.length := by
  obtain ⟨cs, -, rfl⟩ := h
  rw [List.length_append]
  omega

theorem Grammar.Numeral.length (h : Numeral text rest) : rest.length < text.length := by
  obtain ⟨-, hmore⟩ := h
  have hlength := hmore.length
  rw [List.length_cons]
  omega

theorem Grammar.Power.length (h : Power text rest) : rest.length ≤ text.length := by
  cases h with
  | none => exact Nat.le_refl _
  | some _ h =>
    cases h with
    | plain h | signed _ h =>
      have hlength := h.length
      simp only [List.length_cons]
      omega

theorem Grammar.Places.length (h : Places text rest) : rest.length ≤ text.length := by
  cases h with
  | none h => exact h.length
  | point hfraction hpower =>
    have hfraction := hfraction.length
    have hpower := hpower.length
    rw [List.length_cons]
    omega

/-- A number begins with a digit. -/
theorem Grammar.Unsigned.begins (h : Unsigned text rest) : ∃ c front, text = c :: front ∧
    c.isDigit = true ∧ rest.length ≤ front.length := by
  cases h with
  | zero h => exact ⟨_, _, rfl, rfl, h.length⟩
  | whole _ hdigit hmore h => exact ⟨_, _, rfl, hdigit, h.length.trans hmore.length⟩

theorem Grammar.Series.length {closing : Char} {Part : List Char → List Char → Prop}
    (hpart : ∀ {front middle}, Part front middle → middle.length ≤ front.length) {first : Bool}
    (h : Series closing Part first text rest) : rest.length < text.length := by
  induction h with
  | close hgap =>
    have hlength := hgap.length
    rw [List.length_cons] at hlength
    omega
  | @part first text front middle rest hlead hfront _ ih =>
    have hlength : front.length ≤ text.length := by
      cases first with
      | true => exact Many.length (p := isSpace) hlead
      | false =>
        obtain ⟨behind, hcomma, hgap⟩ := hlead
        have hcomma := hcomma.length
        have hgap := hgap.length
        rw [List.length_cons] at hcomma
        omega
    have hfront := hpart hfront
    omega

theorem Grammar.Member.length {Item : List Char → List Char → Prop}
    (hitem : ∀ {front middle}, Item front middle → middle.length ≤ front.length)
    (h : Member Item text rest) : rest.length ≤ text.length := by
  obtain ⟨hkey, hcolon, hfront⟩ := h
  have hkey := hkey.length
  have hcolon := hcolon.length
  have hfront := hitem hfront
  rw [List.length_cons] at hcolon ⊢
  omega

end Lengths

section Values

variable {text front middle rest : List Char}

/-- What holds of every kind of value holds of all values. Of the items of a list and of the
members of an object, it holds before it holds of the list and of the object. -/
theorem Grammar.Value.induct {P : List Char → List Char → Prop}
    (space : ∀ {text bare rest}, Gap text bare → P bare rest → P text rest)
    (null : ∀ rest, P ('n' :: 'u' :: 'l' :: 'l' :: rest) rest)
    (true : ∀ rest, P ('t' :: 'r' :: 'u' :: 'e' :: rest) rest)
    (false : ∀ rest, P ('f' :: 'a' :: 'l' :: 's' :: 'e' :: rest) rest)
    (number : ∀ {text rest}, Unsigned text rest → P text rest)
    (negative : ∀ {text rest}, Unsigned text rest → P ('-' :: text) rest)
    (text : ∀ {text rest}, Characters text rest → P ('"' :: text) rest)
    (list : ∀ {text rest}, Series ']' P Bool.true text rest → P ('[' :: text) rest)
    (object : ∀ {text rest}, Series '\x7d' (Member P) Bool.true text rest →
      P ('\x7b' :: text) rest)
    {front rest : List Char} (h : Value front rest) : P front rest :=
  -- the grammar of values is nested: lists and objects are series of values again
  @Value.rec (fun text rest _ => P text rest)
    (fun first text rest _ => Series ']' P first text rest)
    (fun first text rest _ => Series '\x7d' (Member P) first text rest)
    (fun text rest _ => Member P text rest)
    (fun hgap _ ih => space hgap ih) null true false number negative text (fun _ ih => list ih)
    (fun _ ih => object ih) .close (fun hlead _ _ ihpart ihmore => .part hlead ihpart ihmore)
    .close (fun hlead _ _ ihpart ihmore => .part hlead ihpart ihmore)
    (fun hkey hcolon _ ih => .mk hkey hcolon ih) front rest h

theorem skipSpace_of_gap (h : Gap text front) : skipSpace text = skipSpace front := by
  obtain ⟨blanks, hblanks, rfl⟩ := h
  exact List.dropWhile_append_of_pos hblanks

theorem skipSpace_of_gap_cons {c : Char} (h : Gap text (c :: rest)) (hspace : isSpace c = false) :
    skipSpace text = c :: rest := by
  rw [skipSpace_of_gap h, skipSpace_of_not hspace]

theorem length_skipSpace_le (text : List Char) : (skipSpace text).length ≤ text.length :=
  (List.dropWhile_sublist isSpace).length_le

theorem skipNested_of_skipSpace {text' : List Char} (h : skipSpace text = skipSpace text')
    (fuel : Nat) : skipNested fuel text = skipNested fuel text' := by
  unfold skipNested
  rw [h]

/-- The text begins with a value that is skipped, blanks in front of it aside, if nothing more of a
number stands behind it. Skipping it takes no more fuel than there are characters. -/
def Skips (text rest : List Char) : Prop :=
  ∃ c behind, skipSpace text = c :: behind ∧ c ≠ ']' ∧ rest.length ≤ behind.length ∧
    (Ends rest → ∀ fuel, behind.length < fuel → skipNested fuel text = .ok rest)

theorem Skips.of_gap (h : Skips front rest) (hgap : Gap text front) : Skips text rest := by
  obtain ⟨c, behind, hfront, hc, hlength, hskip⟩ := h
  have hspace := skipSpace_of_gap hgap
  refine ⟨c, behind, hspace.trans hfront, hc, hlength, fun hrest fuel hfuel => ?_⟩
  rw [skipNested_of_skipSpace hspace]
  exact hskip hrest fuel hfuel

theorem Skips.of_scalar {c : Char} (hbegins : Begins c) (hopening : isOpening c = false)
    (hlength : rest.length ≤ front.length) (h : Ends rest → skipScalar (c :: front) = .ok rest) :
    Skips (c :: front) rest := by
  refine ⟨c, front, skipSpace_of_not hbegins.1 front, hbegins.2, hlength, fun hrest fuel _ => ?_⟩
  unfold skipNested
  rw [skipSpace_of_not hbegins.1]
  simp only [hopening, Bool.false_eq_true, if_false]
  exact h hrest

/-- What stands behind an item of a list or a member of an object is no part of a number. -/
theorem Grammar.Series.ends {closing : Char} {Part : List Char → List Char → Prop}
    (h : Series closing Part false text rest) (hclosing : closing = ']' ∨ closing = '\x7d') :
    Ends text := by
  have hends {c : Char} (hc : c = ']' ∨ c = '\x7d' ∨ c = ',') {front : List Char}
      (hgap : Gap text (c :: front)) : Ends text := by
    obtain ⟨blanks, hblanks, rfl⟩ := hgap
    cases blanks with
    | nil => rcases hc with rfl | rfl | rfl <;> exact ⟨rfl, by decide, by decide, by decide⟩
    | cons blank blanks =>
      have hblank := hblanks blank List.mem_cons_self
      simp only [isSpace, Bool.or_eq_true, decide_eq_true_eq] at hblank
      rcases hblank with ((rfl | rfl) | rfl) | rfl <;>
        exact ⟨rfl, by decide, by decide, by decide⟩
  cases h with
  | close hgap => exact hends (hclosing.elim .inl fun h => .inr (.inl h)) hgap
  | part hlead _ _ =>
    obtain ⟨front, hcomma, -⟩ := hlead
    exact hends (.inr (.inr rfl)) hcomma

/-- A value that is skipped is skipped with or without the blanks in front of it. -/
theorem Skips.skipNested (h : Skips text rest) (hrest : Ends rest) :
    rest.length < text.length ∧ ∃ c behind, skipSpace text = c :: behind ∧ c ≠ ']' ∧
      ∀ bound, text.length ≤ bound →
        skipNested bound text = .ok rest ∧ Json.skipNested bound (c :: behind) = .ok rest := by
  obtain ⟨c, behind, hc, hbracket, hlength, hskip⟩ := h
  have hspace := length_skipSpace_le text
  rw [hc, List.length_cons] at hspace
  refine ⟨by omega, c, behind, hc, hbracket, fun bound hbound => ?_⟩
  have hvalue := hskip hrest bound (by omega)
  have hblank : skipSpace (c :: behind) = skipSpace text := by
    rw [← hc]
    exact (skipSpace_of_gap (gap_skipSpace text)).symm
  exact ⟨hvalue, (skipNested_of_skipSpace hblank bound).trans hvalue⟩

theorem skipItems_first {skip : List Char → Except Misread (List Char)} {c : Char}
    {behind : List Char} (hc : skipSpace text = c :: behind) (hbracket : c ≠ ']') (fuel : Nat) :
    skipItems skip (fuel + 1) true text
      = skip (c :: behind) >>= skipItems skip fuel false := by
  simp [skipItems, hc, hbracket]

theorem skipMembers_first {skip : List Char → Except Misread (List Char)} {behind : List Char}
    (hquote : skipSpace text = '"' :: behind) (fuel : Nat) :
    skipMembers skip (fuel + 1) true text
      = skipMember skip ('"' :: behind) >>= skipMembers skip fuel false := by
  simp [skipMembers, hquote]

/-- The items of a list are skipped one after the other. -/
theorem skipItems_of_series {first : Bool} (h : Series ']' Skips first text rest)
    {bound fuel : Nat} (hbound : text.length ≤ bound) (hfuel : text.length < fuel) :
    skipItems (skipNested bound) fuel first text = .ok rest := by
  induction h generalizing fuel with
  | close hgap =>
    obtain ⟨spare, rfl⟩ := Nat.exists_eq_add_of_lt hfuel
    have hbracket := skipSpace_of_gap_cons hgap rfl
    simp only [skipItems, hbracket]
  | @part first text front middle rest hlead hpart hmore ih =>
    obtain ⟨spare, rfl⟩ := Nat.exists_eq_add_of_lt hfuel
    have hends := hmore.ends (.inl rfl)
    cases first with
    | true =>
      have hgap : Gap text front := hlead
      obtain ⟨hlength, c, behind, hc, hbracket, hskip⟩ := (hpart.of_gap hgap).skipNested hends
      rw [skipItems_first hc hbracket, (hskip bound hbound).2, ok_bind]
      exact ih (by omega) (by omega)
    | false =>
      obtain ⟨behind, hcomma, hgap⟩ := hlead
      obtain ⟨hlength, c, item, -, -, hskip⟩ := (hpart.of_gap hgap).skipNested hends
      have hspace := length_skipSpace_le text
      have hcomma := skipSpace_of_gap_cons hcomma rfl
      rw [hcomma, List.length_cons] at hspace
      simp only [skipItems, hcomma, (hskip bound (by omega)).1, ok_bind]
      exact ih (by omega) (by omega)

/-- A key, its colon and its value are skipped. -/
theorem skipMember_of_member (h : Member Skips front rest) (hrest : Ends rest)
    (hgap : Gap text front) {bound : Nat} (hbound : text.length ≤ bound) :
    rest.length < text.length ∧ ∃ behind, skipSpace text = '"' :: behind ∧
      skipMember (skipNested bound) text = .ok rest ∧
      skipMember (skipNested bound) ('"' :: behind) = .ok rest := by
  cases h with
  | @mk key colon item rest hkey hcolon hitem =>
    have hquote := skipSpace_of_gap_cons hgap rfl
    have hspace := length_skipSpace_le text
    rw [hquote, List.length_cons] at hspace
    have hkeylength := hkey.length
    obtain ⟨hlength, c, behind, hc, -, hskip⟩ := hitem.skipNested hrest
    have hcolonlength := length_skipSpace_le colon
    have hcolon := skipSpace_of_gap_cons hcolon rfl
    rw [hcolon, List.length_cons] at hcolonlength
    have hread : readColon colon = .ok item := by simp only [readColon, hcolon]
    have htext := skipText_of_characters hkey (Nat.lt_succ_self key.length)
    have hmember : skipMember (skipNested bound) text = .ok rest := by
      simp only [skipMember, hquote, htext, ok_bind, hread]
      exact (hskip bound (by omega)).1
    have hbare : skipMember (skipNested bound) ('"' :: key) = .ok rest := by
      simp only [skipMember, skipSpace_of_not (rfl : isSpace '"' = false), htext, ok_bind, hread]
      exact (hskip bound (by omega)).1
    exact ⟨by omega, key, hquote, hmember, hbare⟩

/-- The members of an object are skipped one after the other. -/
theorem skipMembers_of_series {first : Bool} (h : Series '\x7d' (Member Skips) first text rest)
    {bound fuel : Nat} (hbound : text.length ≤ bound) (hfuel : text.length < fuel) :
    skipMembers (skipNested bound) fuel first text = .ok rest := by
  induction h generalizing fuel with
  | close hgap =>
    obtain ⟨spare, rfl⟩ := Nat.exists_eq_add_of_lt hfuel
    have hbrace := skipSpace_of_gap_cons hgap rfl
    simp only [skipMembers, hbrace]
  | @part first text front middle rest hlead hpart hmore ih =>
    obtain ⟨spare, rfl⟩ := Nat.exists_eq_add_of_lt hfuel
    have hends := hmore.ends (.inr rfl)
    cases first with
    | true =>
      have hgap : Gap text front := hlead
      obtain ⟨hlength, behind, hquote, -, hskip⟩ := skipMember_of_member hpart hends hgap hbound
      rw [skipMembers_first hquote, hskip, ok_bind]
      exact ih (by omega) (by omega)
    | false =>
      obtain ⟨behind, hcomma, hgap⟩ := hlead
      have hspace := length_skipSpace_le text
      have hcomma := skipSpace_of_gap_cons hcomma rfl
      rw [hcomma, List.length_cons] at hspace
      have hbehind : behind.length ≤ bound := by omega
      obtain ⟨hlength, -, -, hskip, -⟩ := skipMember_of_member hpart hends hgap hbehind
      simp only [skipMembers, hcomma, hskip, ok_bind]
      exact ih (by omega) (by omega)

theorem skipScalar_of_isDigit {c : Char} (hdigit : c.isDigit = true) :
    skipScalar (c :: rest) = skipNumber (c :: rest) := by
  rw [skipScalar, if_pos hdigit]
  · exact ne_of_isDigit hdigit rfl
  · exact ne_of_isDigit hdigit rfl
  · exact ne_of_isDigit hdigit rfl
  · exact ne_of_isDigit hdigit rfl
  · exact ne_of_isDigit hdigit rfl

theorem Skips.length (h : Skips text rest) : rest.length ≤ text.length := by
  obtain ⟨c, behind, hc, -, hlength, -⟩ := h
  have hspace := length_skipSpace_le text
  rw [hc, List.length_cons] at hspace
  omega

/-- Whatever is JSON is skipped. -/
theorem skips_of_value (h : Value text rest) : Skips text rest := by
  refine Value.induct ?space ?null ?true ?false ?number ?negative ?text ?list ?object h
  case space => exact fun hgap ih => ih.of_gap hgap
  case null | true | false =>
    intro rest
    refine .of_scalar (by decide) rfl ?_ fun _ => rfl
    simp only [List.length_cons]
    omega
  case number =>
    intro text rest h
    obtain ⟨c, front, rfl, hdigit, hlength⟩ := h.begins
    refine .of_scalar (begins_of_isDigit hdigit) (isOpening_of_isDigit hdigit) hlength ?_
    intro hrest
    rw [skipScalar_of_isDigit hdigit]
    exact skipNumber_of_unsigned h hrest
  case negative =>
    intro text rest h
    obtain ⟨c, front, rfl, -, hlength⟩ := h.begins
    refine .of_scalar (by decide) rfl (Nat.le_succ_of_le hlength) fun hrest => ?_
    exact skipNumber_of_unsigned h hrest
  case text =>
    intro text rest h
    refine .of_scalar (by decide) rfl h.length.le fun _ => ?_
    exact skipText_of_characters h (Nat.lt_succ_self _)
  case list =>
    intro text rest h
    refine ⟨'[', text, skipSpace_of_not rfl text, by decide, ?_, fun _ fuel hfuel => ?_⟩
    · exact (h.length Skips.length).le
    · obtain ⟨spare, rfl⟩ := Nat.exists_eq_add_of_lt hfuel
      unfold skipNested
      rw [skipSpace_of_not rfl]
      exact skipItems_of_series h (Nat.le_of_lt_succ hfuel) (Nat.lt_succ_self _)
  case object =>
    intro text rest h
    refine ⟨'\x7b', text, skipSpace_of_not rfl text, by decide, ?_, fun _ fuel hfuel => ?_⟩
    · exact (h.length (Grammar.Member.length Skips.length)).le
    · obtain ⟨spare, rfl⟩ := Nat.exists_eq_add_of_lt hfuel
      unfold skipNested
      rw [skipSpace_of_not rfl]
      exact skipMembers_of_series h (Nat.le_of_lt_succ hfuel) (Nat.lt_succ_self _)

/-- What is skipped as a value is what the grammar takes for one, if nothing more of a number stands
behind it. -/
theorem skipValue_eq_ok_iff (hrest : Ends rest) : skipValue text = .ok rest ↔ Value text rest := by
  constructor
  · exact value_of_skipValue
  · intro h
    obtain ⟨-, c, behind, -, -, hskip⟩ := (skips_of_value h).skipNested hrest
    exact (hskip _ (Nat.le_refl _)).1

end Values

section Printed

open Decimal (Digits)

variable {digits middle rest : List Char} {d : Decimal.Digits}

theorem numeral_append (hne : digits ≠ []) (hdigits : ∀ c ∈ digits, c.isDigit = true)
    (rest : List Char) : Numeral (digits ++ rest) rest := by
  cases digits with
  | nil => exact absurd rfl hne
  | cons c digits =>
    rw [List.forall_mem_cons] at hdigits
    exact .mk hdigits.1 ⟨digits, hdigits.2, rfl⟩

theorem numeral_toDigits (n : Nat) (rest : List Char) :
    Numeral (Nat.toDigits 10 n ++ rest) rest := by
  obtain ⟨c, digits, hdigits, hall⟩ := toDigits_cons n
  rw [hdigits]
  exact numeral_append (List.cons_ne_nil c digits) hall rest

/-- The digits of a number without a zero in front, and what stands behind its whole part. -/
theorem unsigned_append {c : Char} (hzero : c ≠ '0')
    (hdigits : ∀ digit ∈ c :: digits, digit.isDigit = true) (h : Places middle rest) :
    Unsigned (c :: digits ++ middle) rest := by
  rw [List.forall_mem_cons] at hdigits
  exact .whole hzero hdigits.1 ⟨digits, hdigits.2, rfl⟩ h

theorem unsigned_toDigits (n : Nat) (rest : List Char) :
    Unsigned (Nat.toDigits 10 n ++ rest) rest := by
  by_cases hn : n = 0
  · subst hn
    exact .zero (.none (.none rest))
  · obtain ⟨c, digits, hdigits, hall⟩ := toDigits_cons n
    obtain ⟨c', digits', hdigits', hzero, -⟩ := toDigits_eq_cons hn
    obtain ⟨rfl, rfl⟩ := List.cons.inj (hdigits.symm.trans hdigits')
    rw [hdigits]
    exact unsigned_append hzero hall (.none (.none rest))

theorem unsigned_scientific (hd : d.Proper) (rest : List Char) :
    Unsigned (d.scientific ++ rest) rest := by
  obtain ⟨c, digits, hcons, hzero⟩ := hd.cons
  have hall := hd.isDigit
  rw [hcons, List.forall_mem_cons] at hall
  have hpower : Power ('e' :: (if d.exponent < 0 then '-' else '+')
      :: (Nat.toDigits 10 d.exponent.natAbs ++ rest)) rest := by
    refine .some (.inl rfl) (.signed ?_ (numeral_toDigits _ rest))
    split
    · exact .inr rfl
    · exact .inl rfl
  cases digits with
  | nil =>
    simp only [Digits.scientific, hcons, List.cons_append]
    exact .whole hzero hall.1 (Many.refl _) (.none hpower)
  | cons digit digits =>
    simp only [Digits.scientific, hcons, List.cons_append, List.append_assoc]
    refine .whole hzero hall.1 (Many.refl _) (.point ?_ hpower)
    exact numeral_append (List.cons_ne_nil digit digits) hall.2 _

/-- The digits in front of the point: a zero, or digits of which the first one is none. -/
theorem wholePart_eq_cons (hd : d.Proper) : ∃ c digits, d.wholePart = c :: digits ∧
    (∀ digit ∈ c :: digits, digit.isDigit = true) ∧ (c ≠ '0' ∨ digits = []) := by
  obtain ⟨c, digits, hcons, hzero⟩ := hd.cons
  have hall := hd.isDigit
  rw [Digits.wholePart]
  split
  · exact ⟨'0', [], rfl, List.forall_mem_singleton.mpr rfl, .inr rfl⟩
  · simp only [hcons, List.take_succ_cons, List.cons_append] at hall ⊢
    refine ⟨c, _, rfl, fun digit hmem => ?_, .inl hzero⟩
    rw [← List.cons_append, List.mem_append, List.mem_replicate] at hmem
    rcases hmem with hmem | ⟨-, rfl⟩
    · exact hall digit (List.mem_of_mem_take (i := d.exponent.toNat + 1) hmem)
    · rfl

theorem unsigned_wholePart (hd : d.Proper) (h : Places middle rest) :
    Unsigned (d.wholePart ++ middle) rest := by
  obtain ⟨c, digits, hwhole, hdigits, hzero⟩ := wholePart_eq_cons hd
  rw [hwhole]
  by_cases hc : c = '0'
  · obtain rfl := hzero.resolve_left (not_not_intro hc)
    subst hc
    exact .zero h
  · exact unsigned_append hc hdigits h

theorem isDigit_of_mem_fraction (hd : d.Proper) : ∀ c ∈ d.fraction, c.isDigit = true := by
  intro c hmem
  rw [Digits.fraction] at hmem
  split at hmem
  · rw [List.mem_append, List.mem_replicate] at hmem
    rcases hmem with ⟨-, rfl⟩ | hmem
    · rfl
    · exact hd.isDigit c hmem
  · exact hd.isDigit c (List.mem_of_mem_drop hmem)

theorem unsigned_printDigits (hd : d.Proper) (rest : List Char) :
    Unsigned (printDigits d ++ rest) rest := by
  rw [printDigits]
  split
  · rw [List.append_assoc, List.cons_append]
    refine unsigned_wholePart hd (.point ?_ (.none rest))
    split
    · exact .mk rfl (Many.refl rest)
    · next hne => exact numeral_append (by simpa using hne) (isDigit_of_mem_fraction hd) rest
  · exact unsigned_scientific hd rest

/-- The digits of a floating-point number that is neither zero nor beyond all bounds. -/
theorem proper_of_reading {x : Float} {negative : Bool} {v : Decimal.Magnitude}
    (h : Decimal.reading x = .finite negative v) : (v.shortest .toEven).Proper := by
  obtain ⟨c, s, hshortest, hpos, -⟩ := exists_readable_shortest (Decimal.canonical_of_reading h)
  rw [hshortest]
  exact (Digits.ofScaled_spec hpos s).1

theorem value_of_sign (negative : Bool) {text : List Char} (h : Unsigned text rest) :
    Value (Decimal.sign negative ++ text) rest := by
  cases negative with
  | true => exact .negative h
  | false => exact .number h

theorem value_printNumber (n : Number) (rest : List Char) : Value (printNumber n ++ rest) rest := by
  cases n with
  | int i =>
    cases i with
    | ofNat n => exact .number (unsigned_toDigits n rest)
    | negSucc n => exact .negative (unsigned_toDigits (n + 1) rest)
  | float x =>
    rw [printNumber, printFloat]
    split
    · rw [List.append_assoc]
      exact value_of_sign _ (.zero (.point (.mk rfl (Many.refl _)) (.none rest)))
    · next hreading =>
      rw [List.append_assoc]
      exact value_of_sign _ (unsigned_printDigits (proper_of_reading hreading) rest)
    · exact .null rest
    · exact .null rest

/-- What has been printed of a text is a text. -/
theorem characters_print (s : String) (rest : List Char) :
    Characters (s.toList.flatMap escapeChar ++ '"' :: rest) rest :=
  (spelling_of_readText (readText_print s rest)).characters

mutual

/-- A printed value is JSON. -/
theorem value_print : ∀ (v : Json) (rest : List Char), Value (v.print ++ rest) rest
  | .null, rest => .null rest
  | .bool true, rest => .true rest
  | .bool false, rest => .false rest
  | .num n, rest => value_printNumber n rest
  | .str s, rest => by
    rw [print, printText]
    simp only [List.cons_append, List.append_assoc, List.nil_append]
    exact .text (characters_print s rest)
  | .arr [], rest => .list (.close (Many.refl _))
  | .arr (item :: items), rest => by
    rw [print, List.append_assoc]
    exact .list (.part (Many.refl _) (value_print item _) (series_printItems items rest))
  | .obj [], rest => .object (.close (Many.refl _))
  | .obj ((key, value) :: members), rest => by
    rw [print, printText]
    simp only [List.cons_append, List.append_assoc, List.nil_append]
    refine .object (.part (Many.refl _) ?_ (series_printMembers members rest))
    exact .mk (characters_print key _) (Many.refl _) (value_print value _)

theorem series_printItems : ∀ (items : List Json) (rest : List Char),
    Series ']' Value false (printItems items ++ rest) rest
  | [], rest => .close (Many.refl _)
  | item :: items, rest => by
    rw [printItems]
    simp only [List.cons_append, List.append_assoc]
    refine .part ⟨_, Many.refl _, Many.refl _⟩ (value_print item _) (series_printItems items rest)

theorem series_printMembers : ∀ (members : List (String × Json)) (rest : List Char),
    Series '\x7d' (Member Value) false (printMembers members ++ rest) rest
  | [], rest => .close (Many.refl _)
  | (key, value) :: members, rest => by
    rw [printMembers, printText]
    simp only [List.cons_append, List.append_assoc, List.nil_append]
    refine .part ⟨_, Many.refl _, Many.refl _⟩ ?_ (series_printMembers members rest)
    exact .mk (characters_print key _) (Many.refl _) (value_print value _)

end

/-- A printed value is skipped if nothing more of a number stands behind it. -/
theorem skipValue_print (v : Json) (hrest : Ends rest) : skipValue (v.print ++ rest) = .ok rest :=
  (skipValue_eq_ok_iff hrest).mpr (value_print v rest)

end Printed

end PagePilot.Json
