import Mathlib.Data.List.TakeDrop
import Mathlib.Data.List.TakeWhile
import PagePilot.Json.Reader.Value

/-!
# The grammar of JSON

What is JSON, as relations between a text and what is left of it behind one piece of JSON: blanks,
a number, a text, a value. Nothing is said of what the pieces mean, except that a text may be a
`Spelling` of characters. Whatever a reader accepts stands in these relations, whether it keeps
what it reads or skips it.

## Main definitions

- `Many`, `Gap`, `Digits` - characters of one kind
- `Unsigned` - numbers, behind their sign
- `Spelling`, `Characters` - texts, behind their opening quote
- `Series`, `Member` - lists and objects, behind their opening bracket or brace
- `Value` - values of any kind

## Main statements

- `value_of_readValue` - what is read is a value
- `value_of_skipValue` - what is skipped is a value
- `spelling_of_readText` - a text that is read has been spelled
-/

namespace PagePilot.Json

theorem bind_eq_ok {ε α β : Type} {x : Except ε α} {f : α → Except ε β} {b : β}
    (h : (x >>= f) = .ok b) : ∃ a, x = .ok a ∧ f a = .ok b := by
  cases x with
  | error e => cases h
  | ok a => exact ⟨a, rfl, h⟩

namespace Grammar

section Pieces

/-- Some characters, perhaps none, that satisfy `p`. -/
def Many (p : Char → Bool) (text rest : List Char) : Prop :=
  ∃ cs, (∀ c ∈ cs, p c = true) ∧ text = cs ++ rest

/-- The blanks that may stand between any two pieces. -/
abbrev Gap : List Char → List Char → Prop := Many isSpace

abbrev Digits : List Char → List Char → Prop := Many Char.isDigit

/-- At least one digit. -/
inductive Numeral : List Char → List Char → Prop
  | mk {digit : Char} {text rest : List Char} (hdigit : digit.isDigit = true)
      (hmore : Digits text rest) : Numeral (digit :: text) rest

/-- The exponent of a number, behind its `e`. -/
inductive Exponent : List Char → List Char → Prop
  | plain {text rest : List Char} (h : Numeral text rest) : Exponent text rest
  | signed {sign : Char} {text rest : List Char} (hsign : sign = '+' ∨ sign = '-')
      (h : Numeral text rest) : Exponent (sign :: text) rest

/-- The exponent with its `e`, or nothing. -/
inductive Power : List Char → List Char → Prop
  | none (rest : List Char) : Power rest rest
  | some {mark : Char} {text rest : List Char} (hmark : mark = 'e' ∨ mark = 'E')
      (h : Exponent text rest) : Power (mark :: text) rest

/-- What may follow the whole part of a number: a fraction, an exponent, both or nothing. -/
inductive Places : List Char → List Char → Prop
  | none {text rest : List Char} (h : Power text rest) : Places text rest
  | point {text middle rest : List Char} (hfraction : Numeral text middle)
      (hpower : Power middle rest) : Places ('.' :: text) rest

/-- A number behind its sign. A leading zero stands alone. -/
inductive Unsigned : List Char → List Char → Prop
  | zero {text rest : List Char} (h : Places text rest) : Unsigned ('0' :: text) rest
  | whole {digit : Char} {text middle rest : List Char} (hzero : digit ≠ '0')
      (hdigit : digit.isDigit = true) (hmore : Digits text middle) (h : Places middle rest) :
      Unsigned (digit :: text) rest

/-- The characters that stand behind a backslash for a character, and which. -/
def escapes : List (Char × Char) :=
  [('"', '"'), ('\\', '\\'), ('/', '/'), ('b', '\x08'), ('f', '\x0c'), ('n', '\n'), ('r', '\r'),
    ('t', '\t')]

/-- Four hexadecimal digits and their number. -/
inductive CodeUnit : List Char → Nat → List Char → Prop
  | mk {a b c d : Char} {w x y z : Nat} (ha : hexValue? a = some w) (hb : hexValue? b = some x)
      (hc : hexValue? c = some y) (hd : hexValue? d = some z) (rest : List Char) :
      CodeUnit (a :: b :: c :: d :: rest) (((w * 16 + x) * 16 + y) * 16 + z) rest

/-- An escape, behind its backslash, and the character for which it stands. What lies beyond the
first 65536 characters takes two numbers, of which the second one has its own backslash. -/
inductive Escape : List Char → Char → List Char → Prop
  | short {mark c : Char} (h : (mark, c) ∈ escapes) (rest : List Char) :
      Escape (mark :: rest) c rest
  | unit {text rest : List Char} {n : Nat} (h : CodeUnit text n rest)
      (hplain : ¬ (0xD800 ≤ n ∧ n ≤ 0xDFFF)) : Escape ('u' :: text) (Char.ofNat n) rest
  | pair {text middle rest : List Char} {high low : Nat}
      (hfirst : CodeUnit text high ('\\' :: 'u' :: middle)) (hhigh : 0xD800 ≤ high ∧ high ≤ 0xDBFF)
      (hsecond : CodeUnit middle low rest) (hlow : 0xDC00 ≤ low ∧ low ≤ 0xDFFF) :
      Escape ('u' :: text) (Char.ofNat ((high - 0xD800) * 0x400 + (low - 0xDC00) + 0x10000)) rest

/-- A text, behind its opening quote, and the characters that it spells. -/
inductive Spelling : List Char → List Char → List Char → Prop
  | close (rest : List Char) : Spelling ('"' :: rest) [] rest
  | plain {c : Char} {text cs rest : List Char} (hquote : c ≠ '"') (hslash : c ≠ '\\')
      (hcontrol : 0x20 ≤ c.toNat) (h : Spelling text cs rest) : Spelling (c :: text) (c :: cs) rest
  | escape {c : Char} {text middle cs rest : List Char} (hescape : Escape text c middle)
      (h : Spelling middle cs rest) : Spelling ('\\' :: text) (c :: cs) rest

/-- A text, behind its opening quote, that need not spell any characters: its numbers may stand
for none. -/
inductive Characters : List Char → List Char → Prop
  | close (rest : List Char) : Characters ('"' :: rest) rest
  | plain {c : Char} {text rest : List Char} (hquote : c ≠ '"') (hslash : c ≠ '\\')
      (hcontrol : 0x20 ≤ c.toNat) (h : Characters text rest) : Characters (c :: text) rest
  | short {mark c : Char} {text rest : List Char} (hescape : (mark, c) ∈ escapes)
      (h : Characters text rest) : Characters ('\\' :: mark :: text) rest
  | unit {text middle rest : List Char} {n : Nat} (hunit : CodeUnit text n middle)
      (h : Characters middle rest) : Characters ('\\' :: 'u' :: text) rest

/-- What stands in front of a part of a list or an object: blanks in front of the first one, a
comma between any two. -/
def Lead (first : Bool) (text part : List Char) : Prop :=
  if first then Gap text part else ∃ behind, Gap text (',' :: behind) ∧ Gap behind part

/-- The parts of a list or an object, up to its closing bracket or brace; `first` as long as there
has been none. -/
inductive Series (closing : Char) (Part : List Char → List Char → Prop) :
    Bool → List Char → List Char → Prop
  | close {first : Bool} {text rest : List Char} (h : Gap text (closing :: rest)) :
      Series closing Part first text rest
  | part {first : Bool} {text front middle rest : List Char} (hlead : Lead first text front)
      (hpart : Part front middle) (hmore : Series closing Part false middle rest) :
      Series closing Part first text rest

/-- A key, behind its opening quote, and its colon. -/
def Key (key : String) (text item : List Char) : Prop :=
  ∃ colon, Spelling text key.toList colon ∧ Gap colon (':' :: item)

/-- A key, its colon and an item. -/
inductive Member (Item : List Char → List Char → Prop) : List Char → List Char → Prop
  | mk {key colon item rest : List Char} (hkey : Characters key colon)
      (hcolon : Gap colon (':' :: item)) (hitem : Item item rest) : Member Item ('"' :: key) rest

/-- A value of any kind, behind any blanks. -/
inductive Value : List Char → List Char → Prop
  | space {text bare rest : List Char} (hgap : Gap text bare) (h : Value bare rest) :
      Value text rest
  | null (rest : List Char) : Value ('n' :: 'u' :: 'l' :: 'l' :: rest) rest
  | true (rest : List Char) : Value ('t' :: 'r' :: 'u' :: 'e' :: rest) rest
  | false (rest : List Char) : Value ('f' :: 'a' :: 'l' :: 's' :: 'e' :: rest) rest
  | number {text rest : List Char} (h : Unsigned text rest) : Value text rest
  | negative {text rest : List Char} (h : Unsigned text rest) : Value ('-' :: text) rest
  | text {text rest : List Char} (h : Characters text rest) : Value ('"' :: text) rest
  | list {text rest : List Char} (h : Series ']' Value Bool.true text rest) :
      Value ('[' :: text) rest
  | object {text rest : List Char} (h : Series '\x7d' (Member Value) Bool.true text rest) :
      Value ('\x7b' :: text) rest

end Pieces

section Numbers

variable {p : Char → Bool} {text middle rest : List Char}

theorem Many.refl (text : List Char) : Many p text text :=
  ⟨[], fun _ hmem => absurd hmem List.not_mem_nil, rfl⟩

theorem Many.cons {c : Char} (hc : p c = true) (h : Many p text rest) :
    Many p (c :: text) rest := by
  obtain ⟨cs, hcs, rfl⟩ := h
  exact ⟨c :: cs, List.forall_mem_cons.mpr ⟨hc, hcs⟩, rfl⟩

theorem Many.trans (hfirst : Many p text middle) (hsecond : Many p middle rest) :
    Many p text rest := by
  obtain ⟨cs, hcs, rfl⟩ := hfirst
  obtain ⟨ds, hds, rfl⟩ := hsecond
  exact ⟨cs ++ ds, List.forall_mem_append.mpr ⟨hcs, hds⟩, (List.append_assoc cs ds rest).symm⟩

theorem many_dropWhile (p : Char → Bool) (text : List Char) : Many p text (text.dropWhile p) :=
  ⟨text.takeWhile p, fun _ hmem => List.mem_takeWhile_imp hmem,
    List.takeWhile_append_dropWhile.symm⟩

theorem gap_skipSpace (text : List Char) : Gap text (skipSpace text) := many_dropWhile isSpace text

theorem isDigit_of_digitValue? {c : Char} {n : Nat} (h : digitValue? c = some n) :
    c.isDigit = true := by
  by_contra hc
  simp [digitValue?, hc] at h

/-- What has been collected has been digits. -/
theorem dropWhile_collect (n : Nat) (text : List Char) :
    (collect n text).2.dropWhile Char.isDigit = text.dropWhile Char.isDigit := by
  induction text generalizing n with
  | nil => rfl
  | cons c text ih =>
    rw [collect]
    split
    · rfl
    · next digit hdigit =>
      split
      · rw [ih, List.dropWhile_cons, if_pos (isDigit_of_digitValue? hdigit)]
      · rfl

theorem spanDigits_snd (text : List Char) : (spanDigits text).2 = text.dropWhile Char.isDigit := by
  rw [spanDigits, List.span_eq_takeWhile_dropWhile]

variable {n : Number} {negative : Bool} {significand : Nat} {exponent : Int}

theorem scaled_rest (h : scaled negative significand exponent text = .ok (n, rest)) :
    text = rest := by
  rw [scaled] at h
  split at h
  · cases h
  · cases h
    rfl

theorem digits_readPower_go (power : Nat) (text : List Char) :
    Digits text (readPower.go power text).2.1 := by
  induction text generalizing power with
  | nil => exact Many.refl _
  | cons c text ih =>
    rw [readPower.go]
    split
    · exact Many.refl _
    · next digit hdigit =>
      split
      · exact Many.cons (isDigit_of_digitValue? hdigit) (ih _)
      · exact Many.cons (isDigit_of_digitValue? hdigit) (Many.refl _)

theorem numeral_of_readPower {raises : Bool}
    (h : readPower negative significand exponent raises text = .ok (n, rest)) :
    Numeral text rest := by
  cases text with
  | nil => cases h
  | cons c text =>
    have hgo := digits_readPower_go (c.toNat - 48) text
    simp only [readPower, Bool.not_eq_true'] at h
    split at h
    · cases h
    · next hdigit =>
      refine .mk (by simpa using hdigit) ?_
      split at h
      · rwa [← scaled_rest h]
      · -- an exponent that is too large is read to its end all the same
        split at h
        · cases h
        · cases h
          exact hgo.trans (many_dropWhile _ _)

theorem exponent_of_readExponent
    (h : readExponent negative significand exponent text = .ok (n, rest)) : Exponent text rest := by
  rw [readExponent.eq_def] at h
  split at h
  · exact .signed (.inl rfl) (numeral_of_readPower h)
  · exact .signed (.inr rfl) (numeral_of_readPower h)
  · exact .plain (numeral_of_readPower h)

theorem power_of_finishFraction
    (h : finishFraction negative significand exponent text = .ok (n, rest)) : Power text rest := by
  rw [finishFraction.eq_def] at h
  split at h
  · exact .some (.inl rfl) (exponent_of_readExponent h)
  · exact .some (.inr rfl) (exponent_of_readExponent h)
  · rw [scaled_rest h]
    exact .none rest

theorem places_of_readFraction
    (h : readFraction negative significand exponent text = .ok (n, rest)) :
    Places ('.' :: text) rest := by
  cases text with
  | nil => cases h
  | cons c text =>
    -- behind the digits, it does not matter how many of them have been collected
    simp only [readFraction, Bool.not_eq_true', dropWhile_collect] at h
    split at h
    · cases h
    · next hdigit =>
      have hdigit : c.isDigit = true := by simpa using hdigit
      rw [List.dropWhile_cons, if_pos hdigit] at h
      exact .point (.mk hdigit (many_dropWhile _ _)) (power_of_finishFraction h)

theorem places_of_finishWhole {dropped : Nat}
    (h : finishWhole negative significand dropped text = .ok (n, rest)) : Places text rest := by
  rw [finishWhole.eq_def] at h
  split at h
  · exact places_of_readFraction h
  · exact .none (.some (.inl rfl) (exponent_of_readExponent h))
  · exact .none (.some (.inr rfl) (exponent_of_readExponent h))
  · split at h
    · cases h
      exact .none (.none _)
    · rw [scaled_rest h]
      exact .none (.none rest)

theorem unsigned_of_readNumber (h : readNumber negative text = .ok (n, rest)) :
    Unsigned text rest := by
  rw [readNumber.eq_def] at h
  split at h
  · cases h
  · refine .zero ?_
    split at h
    · split at h
      · cases h
      · exact places_of_finishWhole h
    · exact places_of_finishWhole h
  · next c text hzero =>
    split at h
    · next hdigit =>
      -- the digits that did not fit were digits too
      simp only [spanDigits_snd, dropWhile_collect, List.dropWhile_cons, hdigit, if_true] at h
      exact .whole (fun hc => hzero hc) hdigit (many_dropWhile _ _) (places_of_finishWhole h)
    · cases h

theorem exponent_of_skipExponent (h : skipExponent text = .ok rest) : Exponent text rest := by
  unfold skipExponent at h
  extract_lets unsigned at h
  -- the sign has been dropped before the digits are looked at
  have hsign : Numeral unsigned rest → Exponent text rest := by
    unfold unsigned
    split
    · exact .signed (.inl rfl)
    · exact .signed (.inr rfl)
    · exact .plain
  clear_value unsigned
  split at h
  · cases h
  · split at h
    · next hdigit =>
      cases h
      exact hsign (.mk hdigit (many_dropWhile _ _))
    · cases h

theorem power_of_skipTail (h : skipTail text = .ok rest) : Power text rest := by
  rw [skipTail.eq_def] at h
  split at h
  · exact .some (.inl rfl) (exponent_of_skipExponent h)
  · exact .some (.inr rfl) (exponent_of_skipExponent h)
  · cases h
    exact .none _

theorem places_of_skipFraction (h : skipFraction text = .ok rest) : Places ('.' :: text) rest := by
  rw [skipFraction, spanDigits, List.span_eq_takeWhile_dropWhile] at h
  cases text with
  | nil => cases h
  | cons c text =>
    by_cases hdigit : c.isDigit = true
    · simp only [List.takeWhile_cons, List.dropWhile_cons, hdigit, if_true] at h
      exact .point (.mk hdigit (many_dropWhile _ _)) (power_of_skipTail h)
    · simp [hdigit] at h

theorem places_of_skipPlaces (h : skipPlaces text = .ok rest) : Places text rest := by
  rw [skipPlaces.eq_def] at h
  split at h
  · exact places_of_skipFraction h
  · exact .none (power_of_skipTail h)

theorem unsigned_of_skipNumber (h : skipNumber text = .ok rest) : Unsigned text rest := by
  rw [skipNumber.eq_def] at h
  split at h
  · cases h
  · refine .zero ?_
    split at h
    · split at h
      · cases h
      · exact places_of_skipPlaces h
    · cases h
      exact .none (.none [])
  · next c text hzero =>
    split at h
    · next hdigit =>
      exact .whole (fun hc => hzero hc) hdigit (many_dropWhile _ _) (places_of_skipPlaces h)
    · cases h

end Numbers

section Texts

variable {text rest : List Char}

theorem codeUnit_of_readUnit {n : Nat} (h : readUnit text = .ok (n, rest)) :
    CodeUnit text n rest := by
  simp only [readUnit] at h
  split at h
  · split at h
    · next ha hb hc hd =>
      cases h
      exact .mk ha hb hc hd rest
    · cases h
  · cases h

theorem escape_of_readSecondUnit {high : Nat} {c : Char} {first : List Char}
    (hfirst : CodeUnit first high text) (hhigh : 0xD800 ≤ high ∧ high ≤ 0xDBFF)
    (h : readSecondUnit high text = .ok (c, rest)) : Escape ('u' :: first) c rest := by
  rw [readSecondUnit.eq_def] at h
  split at h
  · cases h
  · cases h
  · obtain ⟨⟨low, unread⟩, hunit, h⟩ := bind_eq_ok h
    simp only at h
    split at h
    · next hlow =>
      obtain ⟨rfl, rfl⟩ := Prod.mk.inj (Except.ok.inj h)
      exact .pair hfirst hhigh (codeUnit_of_readUnit hunit) hlow
    · cases h
  · cases h
  · cases h

theorem escape_of_readCodePoint {c : Char} (h : readCodePoint text = .ok (c, rest)) :
    Escape ('u' :: text) c rest := by
  obtain ⟨⟨n, unread⟩, hunit, h⟩ := bind_eq_ok h
  have hunit := codeUnit_of_readUnit hunit
  simp only at h
  split at h
  · cases h
  · next hlow =>
    split at h
    · next hhigh => exact escape_of_readSecondUnit hunit hhigh h
    · next hhigh =>
      cases h
      exact .unit hunit (by omega)

theorem escape_of_readEscape {c : Char} (h : readEscape text = .ok (c, rest)) :
    Escape text c rest := by
  rw [readEscape.eq_def] at h
  split at h
  case h_1 => cases h
  case h_10 => exact escape_of_readCodePoint h
  case h_11 => cases h
  all_goals
    cases h
    exact .short (by simp [escapes]) _

theorem spelling_of_readChars {fuel : Nat} {read cs : List Char}
    (h : readChars fuel read text = .ok (cs, rest)) :
    ∃ spelled, cs = read.reverse ++ spelled ∧ Spelling text spelled rest := by
  fun_induction readChars fuel read text with
  | case1 => cases h
  | case2 => cases h
  | case3 =>
    cases h
    exact ⟨[], (List.append_nil _).symm, .close _⟩
  | case4 fuel read text ih =>
    obtain ⟨⟨c, unread⟩, hescape, h⟩ := bind_eq_ok h
    obtain ⟨spelled, rfl, hspelled⟩ := ih c unread h
    exact ⟨c :: spelled, by simp, .escape (escape_of_readEscape hescape) hspelled⟩
  | case5 => cases h
  | case6 fuel read c text hquote hslash hcontrol ih =>
    obtain ⟨spelled, rfl, hspelled⟩ := ih h
    exact ⟨c :: spelled, by simp, .plain hquote hslash (Nat.le_of_not_lt hcontrol) hspelled⟩

theorem spelling_of_readText {s : String} (h : readText text = .ok (s, rest)) :
    Spelling text s.toList rest := by
  obtain ⟨⟨cs, unread⟩, hread, h⟩ := bind_eq_ok h
  obtain ⟨spelled, rfl, hspelled⟩ := spelling_of_readChars hread
  cases h
  simpa using hspelled

theorem Escape.characters {c : Char} {middle : List Char} (hescape : Escape text c middle)
    (h : Characters middle rest) : Characters ('\\' :: text) rest := by
  cases hescape with
  | short hmark => exact .short hmark h
  | unit hunit => exact .unit hunit h
  -- without their meaning, the two halves of a pair are two numbers
  | pair hfirst _ hsecond => exact .unit hfirst (.unit hsecond h)

/-- What spells characters is a text. -/
theorem Spelling.characters {cs : List Char} (h : Spelling text cs rest) :
    Characters text rest := by
  induction h with
  | close rest => exact .close rest
  | plain hquote hslash hcontrol _ ih => exact .plain hquote hslash hcontrol ih
  | escape hescape _ ih => exact hescape.characters ih

theorem characters_of_skipEscape {middle : List Char} (hescape : skipEscape text = .ok middle)
    (h : Characters middle rest) : Characters ('\\' :: text) rest := by
  rw [skipEscape.eq_def] at hescape
  split at hescape
  · obtain ⟨⟨n, unread⟩, hunit, hescape⟩ := bind_eq_ok hescape
    cases hescape
    exact .unit (codeUnit_of_readUnit hunit) h
  · obtain ⟨⟨c, unread⟩, hread, hescape⟩ := bind_eq_ok hescape
    cases hescape
    exact (escape_of_readEscape hread).characters h

theorem characters_of_skipText {fuel : Nat} (h : skipText fuel text = .ok rest) :
    Characters text rest := by
  fun_induction skipText fuel text with
  | case1 => cases h
  | case2 => cases h
  | case3 =>
    cases h
    exact .close _
  | case4 fuel text ih =>
    obtain ⟨unread, hescape, h⟩ := bind_eq_ok h
    exact characters_of_skipEscape hescape (ih unread h)
  | case5 => cases h
  | case6 fuel c text hquote hslash hcontrol ih =>
    exact .plain hquote hslash (Nat.le_of_not_lt hcontrol) (ih h)

end Texts

section Values

variable {text rest : List Char}

theorem letters_of_readLetters {letters : List Char} (h : readLetters letters text = .ok rest) :
    text = letters ++ rest := by
  induction letters generalizing text with
  | nil =>
    cases h
    rfl
  | cons letter letters ih =>
    cases text with
    | nil => cases h
    | cons c text =>
      rw [readLetters] at h
      split at h
      · next hc => rw [hc, ih h, List.cons_append]
      · cases h

theorem gap_of_readColon (h : readColon text = .ok rest) : Gap text (':' :: rest) := by
  have hgap := gap_skipSpace text
  rw [readColon] at h
  split at h
  · cases h
  · next hcolon =>
    cases h
    rwa [hcolon] at hgap
  · cases h

/-- Either another item follows or the list ends. -/
theorem lead_of_readItemStart {first more : Bool}
    (h : readItemStart first text = .ok (more, rest)) :
    if more then Lead first text rest else Gap text (']' :: rest) := by
  have hgap := gap_skipSpace text
  unfold readItemStart at h
  split at h
  · cases h
  · next hbracket =>
    cases h
    rwa [hbracket] at hgap
  · cases h
    exact hgap
  · next behind hcomma =>
    rw [hcomma] at hgap
    split at h
    · cases h
    · cases h
    · cases h
      exact ⟨behind, hgap, gap_skipSpace behind⟩
  · cases h

/-- Either another key follows or the object ends. -/
theorem lead_of_readKeyStart {first more : Bool} (h : readKeyStart first text = .ok (more, rest)) :
    if more then Lead first text ('"' :: rest) else Gap text ('\x7d' :: rest) := by
  have hgap := gap_skipSpace text
  unfold readKeyStart at h
  split at h
  · cases h
  · next hbrace =>
    cases h
    rwa [hbrace] at hgap
  · next hquote =>
    cases h
    rwa [hquote] at hgap
  · cases h
  · next behind hcomma =>
    rw [hcomma] at hgap
    have hbehind := gap_skipSpace behind
    split at h
    · cases h
    · next hquote =>
      cases h
      rw [hquote] at hbehind
      exact ⟨behind, hgap, hbehind⟩
    · cases h
    · cases h
  · cases h

section Parts

variable {α : Type} {Part : List Char → List Char → Prop}

theorem series_of_readItems {read : Reader α}
    (hread : ∀ {text item rest}, read text = .ok (item, rest) → Part text rest) {fuel : Nat}
    {first : Bool} {items : List α} (h : readItems read fuel first text = .ok (items, rest)) :
    Series ']' Part first text rest := by
  induction fuel generalizing first text items with
  | zero => cases h
  | succ fuel ih =>
    obtain ⟨⟨more, front⟩, hstart, h⟩ := bind_eq_ok h
    have hlead := lead_of_readItemStart hstart
    cases more with
    | false =>
      cases h
      exact .close hlead
    | true =>
      obtain ⟨⟨item, behind⟩, hitem, h⟩ := bind_eq_ok h
      obtain ⟨⟨items, behind⟩, hitems, h⟩ := bind_eq_ok h
      cases h
      exact .part hlead (hread hitem) (ih hitems)

theorem series_of_readMembers {read : Reader α}
    (hread : ∀ {text item rest}, read text = .ok (item, rest) → Part text rest) {fuel : Nat}
    {first : Bool} {members : List (String × α)}
    (h : readMembers read fuel first text = .ok (members, rest)) :
    Series '\x7d' (Member Part) first text rest := by
  induction fuel generalizing first text members with
  | zero => cases h
  | succ fuel ih =>
    obtain ⟨⟨more, front⟩, hstart, h⟩ := bind_eq_ok h
    have hlead := lead_of_readKeyStart hstart
    cases more with
    | false =>
      cases h
      exact .close hlead
    | true =>
      obtain ⟨⟨key, behind⟩, hkey, h⟩ := bind_eq_ok h
      obtain ⟨item, hcolon, h⟩ := bind_eq_ok h
      obtain ⟨⟨value, behind⟩, hitem, h⟩ := bind_eq_ok h
      obtain ⟨⟨members, behind⟩, hmembers, h⟩ := bind_eq_ok h
      cases h
      refine .part hlead (.mk ?_ (gap_of_readColon hcolon) (hread hitem)) (ih hmembers)
      exact (spelling_of_readText hkey).characters

theorem series_of_skipItems {skip : List Char → Except Misread (List Char)}
    (hskip : ∀ {text rest}, skip text = .ok rest → Part text rest) {fuel : Nat} {first : Bool}
    (h : skipItems skip fuel first text = .ok rest) : Series ']' Part first text rest := by
  induction fuel generalizing first text with
  | zero => cases h
  | succ fuel ih =>
    have hgap := gap_skipSpace text
    unfold skipItems at h
    split at h
    · cases h
    · next hbracket =>
      cases h
      exact .close (hbracket ▸ hgap)
    · obtain ⟨behind, hitem, h⟩ := bind_eq_ok h
      exact .part hgap (hskip hitem) (ih h)
    · next front hcomma =>
      obtain ⟨behind, hitem, h⟩ := bind_eq_ok h
      exact .part ⟨front, hcomma ▸ hgap, Many.refl front⟩ (hskip hitem) (ih h)
    · cases h

theorem member_of_skipMember {skip : List Char → Except Misread (List Char)}
    (hskip : ∀ {text rest}, skip text = .ok rest → Part text rest)
    (h : skipMember skip text = .ok rest) : ∃ front, Gap text front ∧ Member Part front rest := by
  have hgap := gap_skipSpace text
  rw [skipMember] at h
  split at h
  · cases h
  · next hquote =>
    obtain ⟨colon, hkey, h⟩ := bind_eq_ok h
    obtain ⟨item, hcolon, h⟩ := bind_eq_ok h
    rw [hquote] at hgap
    exact ⟨_, hgap, .mk (characters_of_skipText hkey) (gap_of_readColon hcolon) (hskip h)⟩
  · cases h

theorem series_of_skipMembers {skip : List Char → Except Misread (List Char)}
    (hskip : ∀ {text rest}, skip text = .ok rest → Part text rest) {fuel : Nat} {first : Bool}
    (h : skipMembers skip fuel first text = .ok rest) :
    Series '\x7d' (Member Part) first text rest := by
  induction fuel generalizing first text with
  | zero => cases h
  | succ fuel ih =>
    have hgap := gap_skipSpace text
    unfold skipMembers at h
    split at h
    · cases h
    · next hbrace =>
      cases h
      exact .close (hbrace ▸ hgap)
    · obtain ⟨behind, hmember, h⟩ := bind_eq_ok h
      obtain ⟨front, hspace, hpart⟩ := member_of_skipMember hskip hmember
      exact .part (Many.trans hgap hspace) hpart (ih h)
    · next front hcomma =>
      obtain ⟨behind, hmember, h⟩ := bind_eq_ok h
      obtain ⟨key, hspace, hpart⟩ := member_of_skipMember hskip hmember
      exact .part ⟨front, hcomma ▸ hgap, hspace⟩ hpart (ih h)
    · cases h

end Parts

theorem value_of_readScalar {value : Json} (h : readScalar text = .ok (value, rest)) :
    Value text rest := by
  rw [readScalar.eq_def] at h
  split at h
  · cases h
  · obtain ⟨unread, hletters, h⟩ := bind_eq_ok h
    cases h
    rw [letters_of_readLetters hletters]
    exact .null _
  · obtain ⟨unread, hletters, h⟩ := bind_eq_ok h
    cases h
    rw [letters_of_readLetters hletters]
    exact .true _
  · obtain ⟨unread, hletters, h⟩ := bind_eq_ok h
    cases h
    rw [letters_of_readLetters hletters]
    exact .false _
  · obtain ⟨⟨s, unread⟩, htext, h⟩ := bind_eq_ok h
    cases h
    exact .text (spelling_of_readText htext).characters
  · obtain ⟨⟨n, unread⟩, hnumber, h⟩ := bind_eq_ok h
    cases h
    exact .negative (unsigned_of_readNumber hnumber)
  · split at h
    · obtain ⟨⟨n, unread⟩, hnumber, h⟩ := bind_eq_ok h
      cases h
      exact .number (unsigned_of_readNumber hnumber)
    · cases h

theorem value_of_skipScalar (h : skipScalar text = .ok rest) : Value text rest := by
  rw [skipScalar.eq_def] at h
  split at h
  · cases h
  · rw [letters_of_readLetters h]
    exact .null rest
  · rw [letters_of_readLetters h]
    exact .true rest
  · rw [letters_of_readLetters h]
    exact .false rest
  · exact .text (characters_of_skipText h)
  · exact .negative (unsigned_of_skipNumber h)
  · split at h
    · exact .number (unsigned_of_skipNumber h)
    · cases h

theorem value_of_readNested {read : Reader Json}
    (hread : ∀ {text item rest}, read text = .ok (item, rest) → Value text rest) {c : Char}
    {value : Json} (hopening : isOpening c = true)
    (h : readNested read c text = .ok (value, rest)) : Value (c :: text) rest := by
  have hc : c = '[' ∨ c = '\x7b' := by simpa [isOpening] using hopening
  rw [readNested] at h
  split at h
  · next hlist =>
    obtain ⟨⟨items, unread⟩, hitems, h⟩ := bind_eq_ok h
    cases h
    subst hlist
    exact .list (series_of_readItems hread hitems)
  · next hlist =>
    obtain ⟨⟨members, unread⟩, hmembers, h⟩ := bind_eq_ok h
    cases h
    rw [hc.resolve_left hlist]
    exact .object (series_of_readMembers hread hmembers)

/-- What is read is a value. -/
theorem value_of_readValue {depth : Nat} {value : Json}
    (h : readValue depth text = .ok (value, rest)) : Value text rest := by
  -- what stands in a list or an object is read with one level less
  induction depth using Nat.strongRecOn generalizing text value rest with
  | ind depth ih =>
    unfold readValue at h
    split at h
    · cases h
    · next c front hfront =>
      refine .space (hfront ▸ gap_skipSpace text) ?_
      split at h
      · next hopening =>
        split at h
        · cases h
        · next depth => exact value_of_readNested (ih depth (Nat.lt_succ_self depth)) hopening h
      · exact value_of_readScalar h

theorem value_of_skipNested {fuel : Nat} (h : skipNested fuel text = .ok rest) :
    Value text rest := by
  -- here it is the fuel that is one less
  induction fuel using Nat.strongRecOn generalizing text rest with
  | ind fuel ih =>
    unfold skipNested at h
    split at h
    · cases h
    · next c front hfront =>
      refine .space (hfront ▸ gap_skipSpace text) ?_
      split at h
      · next hopening =>
        have hc : c = '[' ∨ c = '\x7b' := by simpa [isOpening] using hopening
        split at h
        · cases h
        · next fuel =>
          have hskip := @ih fuel (Nat.lt_succ_self fuel)
          split at h
          · next hlist =>
            subst hlist
            exact .list (series_of_skipItems hskip h)
          · next hlist =>
            rw [hc.resolve_left hlist]
            exact .object (series_of_skipMembers hskip h)
      · exact value_of_skipScalar h

/-- What is skipped is a value. -/
theorem value_of_skipValue (h : skipValue text = .ok rest) : Value text rest :=
  value_of_skipNested h

end Values

end Grammar

end PagePilot.Json
