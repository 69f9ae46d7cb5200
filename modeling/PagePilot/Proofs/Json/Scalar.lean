import PagePilot.Proofs.Json.Record
import PagePilot.Proofs.Json.Skipping

/-!
# Reading scalars from printed values

Where a scalar of one kind is expected in front of a printed value, it is read exactly if the value
is such a scalar. An integer is not taken for a floating-point number, nor the other way round.

## Main definitions

- `Json.Finite` - the value is no floating-point number that has no JSON text
- `Json.Exact` - the value is a scalar that is read back as it was printed
- `Json.below?`, `Json.optionalText?` - views of a value

## Main statements

- `ends_of_readNumber` - an integer is read from all digits in front, behind which a number ends
- `toOption_readScalarAs_print` - a scalar that is expected is read if it has been printed
-/

namespace PagePilot.Json

open Grammar (Digits dropWhile_collect)

section Numbers

variable {text rest : List Char} {n : Number} {negative : Bool} {significand : Nat} {exponent : Int}

theorem float_of_scaled (h : scaled negative significand exponent text = .ok (n, rest)) :
    ∃ x, n = .float x := by
  rw [scaled] at h
  split at h
  · cases h
  · cases h
    exact ⟨_, rfl⟩

theorem float_of_readPower {raises : Bool}
    (h : readPower negative significand exponent raises text = .ok (n, rest)) :
    ∃ x, n = .float x := by
  cases text with
  | nil => cases h
  | cons c text =>
    simp only [readPower, Bool.not_eq_true'] at h
    split at h
    · cases h
    · split at h
      · exact float_of_scaled h
      · split at h
        · cases h
        · cases h
          exact ⟨_, rfl⟩

theorem float_of_readExponent
    (h : readExponent negative significand exponent text = .ok (n, rest)) : ∃ x, n = .float x := by
  rw [readExponent.eq_def] at h
  split at h
  · exact float_of_readPower h
  · exact float_of_readPower h
  · exact float_of_readPower h

theorem float_of_readFraction
    (h : readFraction negative significand exponent text = .ok (n, rest)) : ∃ x, n = .float x := by
  cases text with
  | nil => cases h
  | cons c text =>
    simp only [readFraction, Bool.not_eq_true'] at h
    split at h
    · cases h
    · rw [finishFraction.eq_def] at h
      split at h
      · exact float_of_readExponent h
      · exact float_of_readExponent h
      · exact float_of_scaled h

/-- Behind the digits of an integer there is no more of a number, and none of them was dropped. -/
theorem ends_of_finishWhole {dropped : Nat} {i : Int} (hstops : Stops text)
    (h : finishWhole negative significand dropped text = .ok (.int i, rest)) :
    Ends text ∧ dropped = 0 ∧ wholeNumber negative significand = .int i := by
  have hfloat {x : Except Misread (Number × List Char)} (hx : x = .ok (.int i, rest))
      (hnumber : ∀ {n}, x = .ok (n, rest) → ∃ x, n = .float x) : False := by
    obtain ⟨x, hint⟩ := hnumber hx
    cases hint
  rw [finishWhole.eq_def] at h
  split at h
  · exact (hfloat h float_of_readFraction).elim
  · exact (hfloat h float_of_readExponent).elim
  · exact (hfloat h float_of_readExponent).elim
  · next hpoint he hE =>
    split at h
    · next hdropped =>
      obtain ⟨hnumber, -⟩ := Prod.mk.inj (Except.ok.inj h)
      refine ⟨?_, hdropped, hnumber⟩
      cases text with
      | nil => trivial
      | cons c text =>
        refine ⟨hstops, ?_, ?_, ?_⟩
        · exact fun hc => hpoint text (hc ▸ rfl)
        · exact fun hc => he text (hc ▸ rfl)
        · exact fun hc => hE text (hc ▸ rfl)
    · exact (hfloat h float_of_scaled).elim

theorem stops_dropWhile (text : List Char) : Stops (text.dropWhile Char.isDigit) := by
  cases hrest : text.dropWhile Char.isDigit with
  | nil => trivial
  | cons c rest =>
    have hhead := List.head?_dropWhile_not Char.isDigit text
    rw [hrest] at hhead
    simpa [Stops] using hhead

/-- An integer is read from all the digits in front, which fit a word. -/
theorem ends_of_readNumber {i : Int} (h : readNumber negative text = .ok (.int i, rest)) :
    Ends (text.dropWhile Char.isDigit) ∧ ∃ n, collect 0 text = (n, text.dropWhile Char.isDigit) ∧
      wholeNumber negative n = .int i := by
  rw [readNumber.eq_def] at h
  split at h
  · cases h
  · next tail =>
    -- a zero is followed by no digit, so that it is the only one
    have hzero (hstops : Stops tail) (h : finishWhole negative 0 0 tail = .ok (.int i, rest)) :
        Ends (('0' :: tail).dropWhile Char.isDigit) ∧ ∃ n,
          collect 0 ('0' :: tail) = (n, ('0' :: tail).dropWhile Char.isDigit) ∧
          wholeNumber negative n = .int i := by
      obtain ⟨hends, -, hnumber⟩ := ends_of_finishWhole hstops h
      have hdrop : ('0' :: tail).dropWhile Char.isDigit = tail := hstops.dropWhile
      have hcollect : collect 0 ('0' :: tail) = (0, tail) :=
        @collect_append ['0'] tail (by simp) hstops 0 (by decide)
      rw [hdrop]
      exact ⟨hends, 0, hcollect, hnumber⟩
    split at h
    · next c behind =>
      split at h
      · cases h
      · next hdigit => exact hzero (by simpa [Stops] using hdigit) h
    · exact hzero trivial h
  · next c tail _ =>
    split at h
    · simp only [spanDigits, List.span_eq_takeWhile_dropWhile] at h
      have hdrop := dropWhile_collect 0 (c :: tail)
      obtain ⟨hends, hdropped, hnumber⟩ := ends_of_finishWhole (stops_dropWhile _) h
      -- no digit has been dropped, so that what was collected ends where the digits end
      have hunread := List.takeWhile_append_dropWhile (p := Char.isDigit)
        (l := (collect 0 (c :: tail)).2)
      rw [List.eq_nil_of_length_eq_zero hdropped, List.nil_append, hdrop] at hunread
      rw [hdrop] at hends
      exact ⟨hends, _, Prod.ext rfl hunread.symm, hnumber⟩
    · cases h

/-- A whole number that is read as an integer fits a word. -/
theorem le_of_readNumber_toDigits {n : Nat} {i : Int} {unread : List Char} (hrest : Ends rest)
    (h : readNumber negative (Nat.toDigits 10 n ++ rest) = .ok (.int i, unread)) :
    n ≤ largestWord ∧ wholeNumber negative n = .int i := by
  have hall : ∀ c ∈ Nat.toDigits 10 n, c.isDigit = true := fun c hmem =>
    Nat.isDigit_of_mem_toDigits (by omega) (Nat.le_refl 10) hmem
  have hvalue : Nat.ofDigitChars 10 (Nat.toDigits 10 n) 0 = n :=
    Nat.ofDigitChars_toDigits (by omega) (Nat.le_refl 10)
  obtain ⟨-, m, hcollect, hnumber⟩ := ends_of_readNumber h
  rw [List.dropWhile_append_of_pos hall, hrest.stops.dropWhile] at hcollect
  obtain ⟨front, back, hdigits, hfits, hall⟩ := exists_collect_eq hall (Nat.zero_le largestWord)
  rw [hall rest hrest.stops, Prod.mk.injEq, List.append_left_eq_self] at hcollect
  obtain ⟨rfl, rfl⟩ := hcollect
  rw [List.append_nil] at hdigits
  rw [← hdigits, hvalue] at hfits hnumber
  exact ⟨hfits, hnumber⟩

end Numbers

section Scalars

variable {text rest unread : List Char} {value : Json}

/-- The value is no floating-point number without a JSON text: neither an infinity nor what is no
number. What a list or an object holds does not matter here. -/
def Finite : Json → Prop
  | .num (.float x) => ∃ negative, Decimal.reading x = .zero negative ∨
      ∃ v, Decimal.reading x = .finite negative v
  | _ => True

/-- The value is a scalar that is read back as it was printed: no floating-point number, and no
integer of more than 64 bits. -/
def Exact : Json → Prop
  | .null | .bool _ | .str _ => True
  | .num (.int i) => -9223372036854775808 ≤ i ∧ i < 18446744073709551616
  | .num (.float _) | .arr _ | .obj _ => False

/-- The text begins with digits behind which a fraction or an exponent begins. -/
def Fractional (text : List Char) : Prop :=
  ∃ digit digits mark behind, text = digit :: digits ++ mark :: behind ∧
    (∀ c ∈ digit :: digits, c.isDigit = true) ∧ (mark = '.' ∨ mark = 'e')

theorem fractional_printDigits {d : Decimal.Digits} (hd : d.Proper) :
    Fractional (printDigits d) := by
  obtain ⟨c, digits, hcons, -⟩ := hd.cons
  have hall := hd.isDigit
  rw [printDigits]
  split
  · obtain ⟨digit, whole, hwhole, hdigits, -⟩ := wholePart_eq_cons hd
    rw [hwhole]
    exact ⟨digit, whole, '.', _, rfl, hdigits, .inl rfl⟩
  · rw [hcons, List.forall_mem_cons] at hall
    cases digits with
    | nil =>
      simp only [Decimal.Digits.scientific, hcons]
      exact ⟨c, [], 'e', _, rfl, List.forall_mem_singleton.mpr hall.1, .inr rfl⟩
    | cons digit digits =>
      simp only [Decimal.Digits.scientific, hcons]
      exact ⟨c, [], '.', _, rfl, List.forall_mem_singleton.mpr hall.1, .inl rfl⟩

/-- A number with a fraction or an exponent is not read as an integer. -/
theorem float_of_readNumber {negative : Bool} {n : Number} (htext : Fractional text)
    (h : readNumber negative (text ++ rest) = .ok (n, unread)) : ∃ x, n = .float x := by
  obtain ⟨digit, digits, mark, behind, rfl, hdigits, hmark⟩ := htext
  have hstops : Stops (mark :: (behind ++ rest)) := by rcases hmark with rfl | rfl <;> rfl
  cases n with
  | float x => exact ⟨x, rfl⟩
  | int i =>
    obtain ⟨hends, -⟩ := ends_of_readNumber h
    have hdrop : (digit :: digits ++ mark :: behind ++ rest).dropWhile Char.isDigit
        = mark :: (behind ++ rest) :=
      hstops.dropWhile_of_digits ⟨digit :: digits, hdigits, List.append_assoc _ _ _⟩
    rw [hdrop] at hends
    obtain ⟨-, hpoint, he, -⟩ := hends
    rcases hmark with rfl | rfl
    · exact absurd rfl hpoint
    · exact absurd rfl he

theorem float_of_readScalar {negative : Bool} (htext : Fractional text)
    (h : readScalar (Decimal.sign negative ++ text ++ rest) = .ok (value, unread)) :
    ∃ x, value = .num (.float x) := by
  have hnumber {negative : Bool} (h : (readNumber negative (text ++ rest) >>= fun out =>
      Except.ok (Json.num out.1, out.2)) = .ok (value, unread)) : ∃ x, value = .num (.float x) := by
    obtain ⟨⟨n, behind⟩, hread, h⟩ := bind_eq_ok h
    cases h
    obtain ⟨x, rfl⟩ := float_of_readNumber htext hread
    exact ⟨x, rfl⟩
  cases negative with
  | true => exact hnumber h
  | false =>
    obtain ⟨digit, digits, mark, behind, rfl, hdigits, -⟩ := htext
    have hread := readScalar_of_isDigit (hdigits digit List.mem_cons_self)
      (digits ++ mark :: behind ++ rest)
    exact hnumber (hread.symm.trans h)

theorem exists_fractional {x : Float} (h : (Json.num (.float x)).Finite) :
    ∃ negative text, printFloat x = Decimal.sign negative ++ text ∧ Fractional text := by
  obtain ⟨negative, hreading | ⟨v, hreading⟩⟩ := h
  · refine ⟨negative, ['0', '.', '0'], ?_, '0', [], '.', ['0'], rfl, ?_, .inl rfl⟩
    · simp only [printFloat, hreading]
    · exact List.forall_mem_singleton.mpr rfl
  · refine ⟨negative, _, ?_, fractional_printDigits (proper_of_reading hreading)⟩
    simp only [printFloat, hreading]

/-- A printed number begins with a digit or a sign. -/
theorem printNumber_eq_cons {n : Number} (h : (Json.num n).Finite) :
    ∃ c cs, printNumber n = c :: cs ∧ (c.isDigit = true ∨ c = '-') := by
  cases n with
  | int i =>
    cases i with
    | ofNat n =>
      obtain ⟨c, digits, hdigits, hall⟩ := toDigits_cons n
      exact ⟨c, digits, hdigits, .inl (hall c List.mem_cons_self)⟩
    | negSucc n => exact ⟨'-', _, rfl, .inr rfl⟩
  | float x =>
    obtain ⟨negative, text, hprint, digit, digits, mark, behind, rfl, hdigits, -⟩ :=
      exists_fractional h
    rw [printNumber, hprint]
    cases negative with
    | true => exact ⟨'-', _, rfl, .inr rfl⟩
    | false => exact ⟨digit, _, rfl, .inl (hdigits digit List.mem_cons_self)⟩

theorem begins_of_number {c : Char} (h : c.isDigit = true ∨ c = '-') :
    Begins c ∧ isOpening c = false ∧ c ≠ 'n' := by
  rcases h with hdigit | rfl
  · exact ⟨begins_of_isDigit hdigit, isOpening_of_isDigit hdigit, ne_of_isDigit hdigit rfl⟩
  · exact ⟨by decide, rfl, by decide⟩

/-- Where an integer of 64 bits is read, one has been printed. -/
theorem exact_of_readScalar_printInt {i j : Int} (hrest : Ends rest)
    (h : readScalar (printInt i ++ rest) = .ok (.num (.int j), unread)) :
    (Json.num (.int i)).Exact := by
  cases i with
  | ofNat n =>
    obtain ⟨c, digits, hdigits, hall⟩ := toDigits_cons n
    have hread := readScalar_of_isDigit (hall c List.mem_cons_self) (digits ++ rest)
    rw [printInt, hdigits, List.cons_append, hread, ← List.cons_append, ← hdigits] at h
    obtain ⟨⟨n', behind⟩, hnumber, h⟩ := bind_eq_ok h
    cases h
    obtain ⟨hword, -⟩ := le_of_readNumber_toDigits hrest hnumber
    unfold largestWord at hword
    exact ⟨by simp only [Int.ofNat_eq_natCast]; omega, by simp only [Int.ofNat_eq_natCast]; omega⟩
  | negSucc n =>
    obtain ⟨⟨n', behind⟩, hnumber, h⟩ := bind_eq_ok h
    cases h
    obtain ⟨-, hwhole⟩ := le_of_readNumber_toDigits hrest hnumber
    simp only [wholeNumber, Bool.not_true, Bool.false_eq_true, if_false] at hwhole
    split at hwhole
    · next hfits => exact ⟨by omega, by omega⟩
    · cases hwhole

theorem exists_num_of_readScalar {c : Char} (hc : c.isDigit = true ∨ c = '-')
    (h : readScalar (c :: text) = .ok (value, unread)) : ∃ n, value = .num n := by
  rcases hc with hdigit | rfl
  · rw [readScalar_of_isDigit hdigit] at h
    obtain ⟨⟨n, behind⟩, -, h⟩ := bind_eq_ok h
    cases h
    exact ⟨n, rfl⟩
  · obtain ⟨⟨n, behind⟩, -, h⟩ := bind_eq_ok h
    cases h
    exact ⟨n, rfl⟩

/-- What is read from any other number is a floating-point number. -/
theorem float_of_readScalar_print {n : Number} (hfinite : (Json.num n).Finite)
    (hexact : ¬ (Json.num n).Exact) (hrest : Ends rest)
    (h : readScalar (printNumber n ++ rest) = .ok (value, unread)) :
    ∃ x, value = .num (.float x) := by
  cases n with
  | float x =>
    obtain ⟨negative, text, hprint, htext⟩ := exists_fractional hfinite
    rw [printNumber, hprint] at h
    exact float_of_readScalar htext h
  | int i =>
    obtain ⟨c, cs, hprint, hc⟩ := printNumber_eq_cons hfinite
    have hnumber : ∃ n, value = .num n := by
      rw [hprint] at h
      exact exists_num_of_readScalar hc h
    obtain ⟨n, rfl⟩ := hnumber
    cases n with
    | float x => exact ⟨x, rfl⟩
    | int j => exact absurd (exact_of_readScalar_printInt hrest h) hexact

theorem toOption_eq_none {ε α : Type} {x : Except ε α} (h : ∀ a, x ≠ .ok a) :
    x.toOption = none := by
  cases x with
  | error e => rfl
  | ok a => exact absurd rfl (h a)

/-- A scalar that is not read back is read as nothing, or as a floating-point number. -/
theorem readScalarAs_print_ne_ok {α : Type} {expected : String} {view : Json → Except Reason α}
    (hview : ∀ {v a}, view v = .ok a → v.Exact) {v : Json} (hfinite : v.Finite)
    (hexact : ¬ v.Exact) (hrest : Ends rest) {read : α × List Char} :
    readScalarAs expected view (v.print ++ rest) ≠ .ok read := by
  intro h
  have hrefused {c : Char} {front : List Char} (hspace : isSpace c = false)
      (hopening : isOpening c = true) (h : readScalarAs expected view (c :: front) = .ok read) :
      False := by
    rw [readScalarAs, skipSpace_of_not hspace] at h
    simp only [hopening, if_true] at h
    exact refuse_ne_ok h
  cases v with
  | null | bool _ | str _ => exact hexact trivial
  | arr items => cases items <;> exact hrefused rfl rfl h
  | obj members => cases members <;> exact hrefused rfl rfl h
  | num n =>
    obtain ⟨c, cs, hprint, hc⟩ := printNumber_eq_cons hfinite
    obtain ⟨hbegins, hopening, -⟩ := begins_of_number hc
    rw [print, hprint, List.cons_append, readScalarAs, skipSpace_of_not hbegins.1] at h
    simp only [hopening, Bool.false_eq_true, if_false] at h
    obtain ⟨⟨value, unread⟩, hscalar, h⟩ := bind_eq_ok h
    rw [← List.cons_append, ← hprint] at hscalar
    obtain ⟨x, rfl⟩ := float_of_readScalar_print hfinite hexact hrest hscalar
    simp only at h
    split at h
    · next hok => exact hview hok
    · cases h

theorem readScalar_print_of_exact {v : Json} (h : v.Exact) (hrest : Ends rest) :
    ∃ c cs, v.print = c :: cs ∧ isSpace c = false ∧ isOpening c = false ∧
      readScalar (v.print ++ rest) = .ok (v, rest) := by
  cases v with
  | null => exact ⟨_, _, rfl, rfl, rfl, rfl⟩
  | bool b => cases b <;> exact ⟨_, _, rfl, rfl, rfl, rfl⟩
  | str s =>
    refine ⟨_, _, rfl, rfl, rfl, ?_⟩
    simp only [print, printText, List.cons_append, List.append_assoc, List.nil_append, readScalar,
      readText_print, ok_bind]
  | num n =>
    cases n with
    | float x => exact h.elim
    | int i =>
      obtain ⟨c, cs, hprint, hbegins, hopening⟩ := printInt_eq_cons i
      exact ⟨c, cs, hprint, hbegins.1, hopening, readScalar_printInt h.1 h.2 hrest⟩
  | arr items => exact h.elim
  | obj members => exact h.elim

/-- A scalar that is expected in front of a printed value is that value, if it is such a scalar. -/
theorem toOption_readScalarAs_print {α : Type} {expected : String} {view : Json → Except Reason α}
    (hview : ∀ {v a}, view v = .ok a → v.Exact) {v : Json} (hfinite : v.Finite)
    (hrest : Ends rest) : (readScalarAs expected view (v.print ++ rest)).toOption
      = (view v).toOption.map (·, rest) := by
  by_cases hexact : v.Exact
  · obtain ⟨c, cs, hprint, hspace, hopening, hscalar⟩ := readScalar_print_of_exact hexact hrest
    rw [hprint, List.cons_append] at hscalar ⊢
    rw [readScalarAs, skipSpace_of_not hspace]
    simp only [hopening, Bool.false_eq_true, if_false, hscalar, ok_bind]
    cases view v <;> rfl
  · have hnone : (view v).toOption = none := toOption_eq_none fun a ha => hexact (hview ha)
    rw [hnone]
    exact toOption_eq_none fun read => readScalarAs_print_ne_ok hview hfinite hexact hrest

/-- The value as a natural number below `bound`. -/
def below? (bound : Nat) (v : Json) : Option Nat := v.asNat?.filter (· < bound)

/-- The value as a text or as none, which `null` stands for. -/
def optionalText? : Json → Option (Option String)
  | .null => some none
  | .str s => some (some s)
  | _ => none

theorem toOption_viewUnsigned (bound : Nat) (expected : String) (v : Json) :
    (viewUnsigned bound expected v).toOption = v.below? bound := by
  cases v with
  | num n =>
    cases n with
    | float x => rfl
    | int i =>
      cases i with
      | ofNat n =>
        by_cases hn : n < bound
        · have hfits : (0 : Int) ≤ Int.ofNat n ∧ Int.ofNat n < bound := by
            simp only [Int.ofNat_eq_natCast]
            omega
          simp only [viewUnsigned, if_pos hfits, below?, asNat?, Option.filter, hn]
          rfl
        · have hlarge : ¬ ((0 : Int) ≤ Int.ofNat n ∧ Int.ofNat n < bound) := by
            simp only [Int.ofNat_eq_natCast]
            omega
          simp only [viewUnsigned, if_neg hlarge, below?, asNat?, Option.filter, hn]
          rfl
      | negSucc n =>
        have hneg : ¬ ((0 : Int) ≤ Int.negSucc n ∧ Int.negSucc n < bound) := by omega
        simp only [viewUnsigned, if_neg hneg]
        rfl
  | _ => rfl

theorem exact_of_viewUnsigned {bound : Nat} {expected : String} {v : Json} {n : Nat}
    (hbound : bound ≤ 18446744073709551616) (h : viewUnsigned bound expected v = .ok n) :
    v.Exact := by
  rw [viewUnsigned.eq_def] at h
  split at h
  · split at h
    · next hfits => exact ⟨by omega, by omega⟩
    · cases h
  · cases h

/-- A number is read if it is a natural number below a bound of at most 64 bits. -/
theorem toOption_readUnsigned_print (expected : String) {bound : Nat}
    (hbound : bound ≤ 18446744073709551616) {v : Json} (hfinite : v.Finite) (hrest : Ends rest) :
    (readScalarAs expected (viewUnsigned bound expected) (v.print ++ rest)).toOption
      = (v.below? bound).map (·, rest) := by
  rw [← toOption_viewUnsigned bound expected v]
  exact toOption_readScalarAs_print (exact_of_viewUnsigned hbound) hfinite hrest

theorem toOption_readWord64_print {v : Json} (hfinite : v.Finite) (hrest : Ends rest) :
    (readWord64 (v.print ++ rest)).toOption
      = ((v.below? UInt64.size).map UInt64.ofNat).map (·, rest) := by
  have hread := toOption_readUnsigned_print "u64" (Nat.le_refl UInt64.size) hfinite hrest
  rw [readWord64, toOption_bind, hread]
  cases v.below? UInt64.size <;> rfl

theorem toOption_readWord32_print {v : Json} (hfinite : v.Finite) (hrest : Ends rest) :
    (readWord32 (v.print ++ rest)).toOption
      = ((v.below? UInt32.size).map UInt32.ofNat).map (·, rest) := by
  have hbound : UInt32.size ≤ 18446744073709551616 := by decide
  have hread := toOption_readUnsigned_print "u32" hbound hfinite hrest
  rw [readWord32, toOption_bind, hread]
  cases v.below? UInt32.size <;> rfl

theorem toOption_readTruth_print {v : Json} (hfinite : v.Finite) (hrest : Ends rest) :
    (readTruth (v.print ++ rest)).toOption = v.asBool?.map (·, rest) := by
  have hview : (viewTruth v).toOption = v.asBool? := by cases v <;> rfl
  rw [← hview]
  refine toOption_readScalarAs_print (fun {v b} h => ?_) hfinite hrest
  cases v with
  | bool b => trivial
  | _ => cases h

theorem toOption_readString_print (expected : String) {v : Json} (hfinite : v.Finite)
    (hrest : Ends rest) :
    (readString expected (v.print ++ rest)).toOption = v.asText?.map (·, rest) := by
  have hview : (viewText expected v).toOption = v.asText? := by cases v <;> rfl
  rw [← hview]
  refine toOption_readScalarAs_print (fun {v s} h => ?_) hfinite hrest
  cases v with
  | str s => trivial
  | _ => cases h

/-- Only `null` begins as `null` does. -/
theorem print_eq_cons_of_not_null {v : Json} (hfinite : v.Finite) (hnull : v ≠ .null) :
    ∃ c cs, v.print = c :: cs ∧ isSpace c = false ∧ c ≠ 'n' := by
  cases v with
  | null => exact absurd rfl hnull
  | bool b => cases b <;> exact ⟨_, _, rfl, rfl, by decide⟩
  | str s => exact ⟨_, _, rfl, rfl, by decide⟩
  | arr items => cases items <;> exact ⟨_, _, rfl, rfl, by decide⟩
  | obj members => cases members <;> exact ⟨_, _, rfl, rfl, by decide⟩
  | num n =>
    obtain ⟨c, cs, hprint, hc⟩ := printNumber_eq_cons hfinite
    obtain ⟨hbegins, -, hn⟩ := begins_of_number hc
    exact ⟨c, cs, hprint, hbegins.1, hn⟩

theorem toOption_readOptional_print (expected : String) {v : Json} (hfinite : v.Finite)
    (hrest : Ends rest) :
    (readOptional (readString expected) (v.print ++ rest)).toOption
      = v.optionalText?.map (·, rest) := by
  by_cases hnull : v = .null
  · subst hnull
    rfl
  · obtain ⟨c, cs, hprint, hspace, hn⟩ := print_eq_cons_of_not_null hfinite hnull
    have hread := toOption_readString_print expected hfinite hrest
    have hstep : readOptional (readString expected) (v.print ++ rest)
        = readString expected (v.print ++ rest) >>= fun out => .ok (some out.1, out.2) := by
      rw [hprint, List.cons_append, readOptional, skipSpace_of_not hspace]
      simp [hn]
    rw [hstep, toOption_bind, hread]
    cases v with
    | null => exact absurd rfl hnull
    | _ => rfl

end Scalars

end PagePilot.Json
