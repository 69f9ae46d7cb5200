import PagePilot.Json.Reader.Record
import PagePilot.Proofs.Json.Grammar
import PagePilot.Proofs.Json.RoundTrip

/-!
# Reading records

What a record reads is JSON, and what it reads from a printed object: of one member, or of several
that it takes.

## Main definitions

- `Record.Takes` - a printed member makes a certain change

## Main statements

- `Record.readMembers_cases`, `Record.readValues_cases` - what reading a member or a value has seen
- `Record.toOption_parse_singleton` - an object with one member is read as its value is
- `Record.parse_text` - an object whose members are all taken is read member by member
-/

namespace PagePilot.Json

open Grammar (Gap Lead Key Spelling Value)

variable {text rest : List Char}

section Scalars

theorem gap_of_finish {α : Type} {a b : α} (h : finish (a, rest) = .ok b) : Gap rest [] := by
  have hgap := Grammar.gap_skipSpace rest
  unfold finish at h
  split at h
  · next hend => rwa [hend] at hgap
  · cases h

theorem refuse_ne_ok {α : Type} {expected : String} {read : α × List Char} :
    refuse expected text ≠ .ok read := by
  intro h
  rw [refuse.eq_def] at h
  split at h
  · cases h
  · split at h
    · cases h
    · split at h
      · cases h
      · obtain ⟨_, -, h⟩ := bind_eq_ok h
        cases h

theorem spelling_of_readScalar {s : String} (h : readScalar text = .ok (.str s, rest)) :
    ∃ front, text = '"' :: front ∧ Spelling front s.toList rest := by
  rw [readScalar.eq_def] at h
  split at h
  case h_1 => cases h
  case h_2 | h_3 | h_4 =>
    obtain ⟨_, -, h⟩ := bind_eq_ok h
    cases h
  case h_5 front =>
    obtain ⟨⟨s, unread⟩, htext, h⟩ := bind_eq_ok h
    cases h
    exact ⟨front, rfl, Grammar.spelling_of_readText htext⟩
  case h_6 =>
    obtain ⟨_, -, h⟩ := bind_eq_ok h
    cases h
  case h_7 =>
    split at h
    · obtain ⟨_, -, h⟩ := bind_eq_ok h
      cases h
    · cases h

theorem spelling_of_readString {expected s : String}
    (h : readString expected text = .ok (s, rest)) :
    ∃ front, Gap text ('"' :: front) ∧ Spelling front s.toList rest := by
  have hgap := Grammar.gap_skipSpace text
  rw [readString, readScalarAs] at h
  split at h
  · cases h
  · next hfront =>
    rw [hfront] at hgap
    split at h
    · exact (refuse_ne_ok h).elim
    · obtain ⟨⟨value, unread⟩, hscalar, h⟩ := bind_eq_ok h
      cases value with
      | str s =>
        cases h
        obtain ⟨front, htext, hspelling⟩ := spelling_of_readScalar hscalar
        exact ⟨front, htext ▸ hgap, hspelling⟩
      | _ => cases h

theorem readString_print (expected s : String) (rest : List Char) :
    readString expected ('"' :: (s.toList.flatMap escapeChar ++ '"' :: rest)) = .ok (s, rest) := by
  have hscalar : readScalar ('"' :: (s.toList.flatMap escapeChar ++ '"' :: rest))
      = .ok (.str s, rest) := by
    rw [readScalar, readText_print]
    rfl
  rw [readString, readScalarAs, skipSpace_of_not rfl]
  simp only [isOpening, hscalar, ok_bind]
  rfl

/-- A printed text is read where there may be none. -/
theorem readOptional_readString_print (expected s : String) (rest : List Char) :
    readOptional (readString expected) ((Json.str s).print ++ rest) = .ok (some s, rest) := by
  simp only [print, printText, List.cons_append, List.append_assoc, List.nil_append]
  rw [readOptional, skipSpace_of_not rfl]
  refine Eq.trans (congrArg (· >>= _) (readString_print expected s rest)) ?_
  rfl

/-- A scalar that is read back is looked at. -/
theorem readScalarAs_of_readScalar {α : Type} {expected : String} {view : Json → Except Reason α}
    {c : Char} {value : Json} {a : α} (hspace : isSpace c = false) (hopening : isOpening c = false)
    (hscalar : readScalar (c :: text) = .ok (value, rest)) (hview : view value = .ok a) :
    readScalarAs expected view (c :: text) = .ok (a, rest) := by
  rw [readScalarAs, skipSpace_of_not hspace]
  simp only [hopening, Bool.false_eq_true, if_false, hscalar, ok_bind, hview]

theorem readTruth_print (b : Bool) (rest : List Char) :
    readTruth ((Json.bool b).print ++ rest) = .ok (b, rest) := by
  cases b
  · exact readScalarAs_of_readScalar rfl rfl rfl rfl
  · exact readScalarAs_of_readScalar rfl rfl rfl rfl

/-- A printed natural number is read where one below a bound of at most 64 bits is expected. -/
theorem readScalarAs_viewUnsigned_print {bound : Nat} {expected : String}
    (hbound : bound ≤ 18446744073709551616) {n : Nat} (hn : n < bound) (hrest : Ends rest) :
    readScalarAs expected (viewUnsigned bound expected) ((Json.nat n).print ++ rest)
      = .ok (n, rest) := by
  have hscalar : readScalar (printInt n ++ rest) = .ok (.num (.int n), rest) :=
    readScalar_printInt (by omega) (by omega) hrest
  have hview : viewUnsigned bound expected (.num (.int n)) = .ok n := by
    have hfits : (0 : Int) ≤ n ∧ (n : Int) < bound := by omega
    simp only [viewUnsigned, if_pos hfits, Int.toNat_natCast]
  obtain ⟨c, cs, hprint, hbegins, hopening⟩ := printInt_eq_cons n
  show readScalarAs _ _ (printInt n ++ rest) = _
  rw [hprint, List.cons_append] at hscalar ⊢
  exact readScalarAs_of_readScalar hbegins.1 hopening hscalar hview

theorem readWord64_print (n : UInt64) (hrest : Ends rest) :
    readWord64 ((Json.nat n.toNat).print ++ rest) = .ok (n, rest) := by
  rw [readWord64, readScalarAs_viewUnsigned_print (Nat.le_refl _) n.toNat_lt hrest]
  simp only [ok_bind, UInt64.ofNat_toNat]

theorem readWord32_print (n : UInt32) (hrest : Ends rest) :
    readWord32 ((Json.nat n.toNat).print ++ rest) = .ok (n, rest) := by
  rw [readWord32, readScalarAs_viewUnsigned_print (by decide) n.toNat_lt hrest]
  simp only [ok_bind, UInt32.ofNat_toNat]

end Scalars

section Records

variable {ρ : Type} {record : Record ρ} {r r' : ρ}

theorem Field.read_of {α : Type} {name : String} {read : Reader α} {put : α → ρ → ρ}
    {hasDefault : Bool} {change : ρ → ρ}
    (h : (Field.of name read put hasDefault).read text = .ok (change, rest)) :
    ∃ value, read text = .ok (value, rest) := by
  obtain ⟨⟨value, unread⟩, hread, h⟩ := bind_eq_ok h
  cases h
  exact ⟨value, hread⟩

theorem Field.toOption_read_of {α : Type} {name : String} {read : Reader α} {put : α → ρ → ρ}
    {hasDefault : Bool} {value : α} {p : Prop} [Decidable p]
    (h : (read text).toOption = if p then some (value, rest) else none) :
    ((Field.of name read put hasDefault).read text).toOption
      = if p then some (put value, rest) else none := by
  exact toOption_bind_of_ite h rfl

/-- What the first round of reading members has seen: the end, a member that is skipped, or a field
that has not been read before. -/
theorem Record.readMembers_cases {fuel : Nat} {first : Bool} {seen : List String}
    (h : record.readMembers (fuel + 1) first seen r text = .ok (r', rest)) :
    (Gap text ('\x7d' :: rest) ∧ r' = r) ∨
    ∃ key front item middle, Lead first text ('"' :: front) ∧ Key key front item ∧
      ((record.field? key = none ∧ Value item middle ∧
          record.readMembers fuel false seen r middle = .ok (r', rest)) ∨
        ∃ field put, record.field? key = some field ∧ key ∉ seen ∧
          field.read item = .ok (put, middle) ∧
          record.readMembers fuel false (key :: seen) (put r) middle = .ok (r', rest)) := by
  rw [readMembers] at h
  obtain ⟨⟨more, front⟩, hstart, h⟩ := bind_eq_ok h
  have hlead := Grammar.lead_of_readKeyStart hstart
  cases more with
  | false =>
    cases h
    exact .inl ⟨hlead, rfl⟩
  | true =>
    obtain ⟨⟨key, colon⟩, hkey, h⟩ := bind_eq_ok h
    have hspelling := Grammar.spelling_of_readText hkey
    simp only at h
    split at h
    · next hunknown =>
      obtain ⟨item, hcolon, h⟩ := bind_eq_ok h
      obtain ⟨middle, hskip, h⟩ := bind_eq_ok h
      exact .inr ⟨key, front, item, middle, hlead,
        ⟨colon, hspelling, Grammar.gap_of_readColon hcolon⟩,
        .inl ⟨hunknown, Grammar.value_of_skipValue hskip, h⟩⟩
    · next field hfield =>
      split at h
      · cases h
      · next hseen =>
        obtain ⟨item, hcolon, h⟩ := bind_eq_ok h
        obtain ⟨⟨put, middle⟩, hread, h⟩ := bind_eq_ok h
        exact .inr ⟨key, front, item, middle, hlead,
          ⟨colon, hspelling, Grammar.gap_of_readColon hcolon⟩,
          .inr ⟨field, put, hfield, by simpa using hseen, hread, h⟩⟩

/-- A value of a list form that may not be missing has been read. -/
theorem Record.readValues_cases {field : Field ρ} {fields : List (Field ρ)} {count : Nat}
    (hneeded : ((field :: fields).any fun field => !field.hasDefault) = true)
    (h : record.readValues (field :: fields) count r text = .ok (r', rest)) :
    ∃ item put middle, Lead (count == 0) text item ∧ field.read item = .ok (put, middle) ∧
      record.readValues fields (count + 1) (put r) middle = .ok (r', rest) := by
  rw [readValues] at h
  obtain ⟨⟨more, item⟩, hstart, h⟩ := bind_eq_ok h
  have hlead := Grammar.lead_of_readItemStart hstart
  cases more with
  | true =>
    obtain ⟨⟨put, middle⟩, hread, h⟩ := bind_eq_ok h
    exact ⟨item, put, middle, hlead, hread, h⟩
  | false =>
    simp only [Bool.false_eq_true, if_false] at h
    -- the list has ended, which is an error if a field without default is left
    split at h
    · next hnone =>
      rw [List.findIdx?_eq_none_iff] at hnone
      obtain ⟨missing, hmem, hmissing⟩ := List.any_eq_true.mp hneeded
      rw [hnone missing hmem] at hmissing
      cases hmissing
    · cases h

theorem Record.gap_of_readListEnd (h : readListEnd r text = .ok (r', rest)) :
    Gap text (']' :: rest) := by
  have hgap := Grammar.gap_skipSpace text
  unfold readListEnd at h
  split at h
  · cases h
  · next hbracket =>
    cases h
    rwa [hbracket] at hgap
  · split at h
    · cases h
    · cases h
  · cases h

/-- The round that reads a field that has not been read before, written behind its printed key. -/
theorem Record.readMembers_known {key : String} {field : Field ρ} {fuel : Nat} {first : Bool}
    {seen : List String} {item : List Char} (hfield : record.field? key = some field)
    (hseen : key ∉ seen)
    (hstart : readKeyStart first text
      = .ok (true, key.toList.flatMap escapeChar ++ '"' :: ':' :: item)) :
    record.readMembers (fuel + 1) first seen r text = (do
      let (put, rest) ← field.read item
      record.readMembers fuel false (key :: seen) (put r) rest) := by
  have hnew : seen.contains key = false := by simpa using hseen
  rw [readMembers, hstart]
  simp only [ok_bind, if_true, readText_print, hfield, hnew, Bool.false_eq_true, if_false,
    readColon_colon]

theorem Record.readMembers_close (fuel : Nat) (first : Bool) (seen : List String) (r : ρ)
    (rest : List Char) :
    record.readMembers (fuel + 1) first seen r ('\x7d' :: rest) = .ok (r, rest) := by
  rw [readMembers, readKeyStart_close]
  rfl

/-- Reading a record from the text of an object reads the members behind its brace. -/
theorem Record.read_brace (default : ρ) (text : List Char) :
    record.read default ('\x7b' :: text)
      = record.readMembers (text.length + 1) true [] default text := by
  have hopening : skipSpace ('\x7b' :: text) = '\x7b' :: text := skipSpace_of_not rfl text
  simp only [read, hopening]

/-- A record is read from the text of an object with one member if its field is read from the text
of the value. -/
theorem Record.toOption_parse_member {key : String} {field : Field ρ}
    (hfield : record.field? key = some field) (default : ρ)
    {item : List Char} {put : ρ → ρ} {p : Prop} [Decidable p]
    (hread : (field.read (item ++ ['\x7d'])).toOption = if p then some (put, ['\x7d']) else none) :
    (record.parse default
      (String.ofList ('\x7b' :: printText key ++ ':' :: item ++ ['\x7d']))).toOption
      = if p then some (put default) else none := by
  have hfinish : (finish (put default, [])).toOption = some (put default) := rfl
  simp only [printText, parse, String.toList_ofList, List.cons_append, List.append_assoc,
    List.nil_append, read_brace, List.length_cons]
  rw [readMembers_known hfield List.not_mem_nil (readKeyStart_first _)]
  refine toOption_bind_of_ite (toOption_bind_of_ite hread ?_) hfinish
  simp only [readMembers_close]
  rfl

/-- A record is read from an object with one printed member if its field is read from the value. -/
theorem Record.toOption_parse_singleton {key : String} {field : Field ρ}
    (hfield : record.field? key = some field) (default : ρ)
    {value : Json} {put : ρ → ρ} {p : Prop} [Decidable p]
    (hread : (field.read (value.print ++ ['\x7d'])).toOption
      = if p then some (put, ['\x7d']) else none) :
    (record.parse default (Json.obj [(key, value)]).text).toOption
      = if p then some (put default) else none := by
  have htext : (Json.obj [(key, value)]).text
      = String.ofList ('\x7b' :: printText key ++ ':' :: value.print ++ ['\x7d']) := rfl
  rw [htext, toOption_parse_member hfield default hread]

/-- The record takes a member: the printed value, behind which no number goes on, makes the given
change. -/
def Record.Takes (record : Record ρ) (member : String × Json) (change : ρ → ρ) : Prop :=
  ∃ field, record.field? member.1 = some field ∧
    ∀ rest, Ends rest → field.read (member.2.print ++ rest) = .ok (change, rest)

theorem Record.takes_of {α : Type} {key : String} {read : Reader α} {put : α → ρ → ρ}
    {hasDefault : Bool} {value : Json} {a : α} {change : ρ → ρ}
    (hfield : record.field? key = some (.of key read put hasDefault))
    (hread : ∀ rest, Ends rest → read (value.print ++ rest) = .ok (a, rest))
    (hchange : put a = change) : record.Takes (key, value) change := by
  refine ⟨_, hfield, fun rest hrest => ?_⟩
  simp only [Field.of, hread rest hrest, ok_bind, hchange]

/-- Members with different keys that are all taken make their changes one after the other. -/
theorem Record.readMembers_print {members : List (String × Json)} {changes : List (ρ → ρ)}
    (htakes : List.Forall₂ record.Takes members changes) (hkeys : (members.map (·.1)).Nodup)
    {fuel : Nat} (hfuel : members.length < fuel) {seen : List String}
    (hnew : ∀ key ∈ members.map (·.1), key ∉ seen) (r : ρ) (rest : List Char) :
    record.readMembers fuel false seen r (printMembers members ++ rest)
      = .ok (changes.foldl (fun r change => change r) r, rest) := by
  induction htakes generalizing fuel seen r with
  | nil =>
    obtain ⟨fuel, rfl⟩ := Nat.exists_eq_succ_of_ne_zero (Nat.ne_of_gt hfuel)
    exact readMembers_close fuel false seen r rest
  | @cons member change members changes hmember _ ih =>
    obtain ⟨key, value⟩ := member
    obtain ⟨field, hfield, hread⟩ := hmember
    obtain ⟨fuel, rfl⟩ := Nat.exists_eq_succ_of_ne_zero (Nat.ne_of_gt (Nat.zero_lt_of_lt hfuel))
    rw [List.map_cons, List.nodup_cons] at hkeys
    rw [List.map_cons, List.forall_mem_cons] at hnew
    -- the key that has been read now is none of those that follow
    have hrest : ∀ other ∈ members.map (·.1), other ∉ key :: seen := by
      intro other hmem hseen
      rcases List.mem_cons.mp hseen with rfl | hseen
      · exact hkeys.1 hmem
      · exact hnew.2 other hmem hseen
    rw [printMembers, printText]
    simp only [List.cons_append, List.append_assoc, List.nil_append]
    rw [readMembers_known hfield hnew.1 (readKeyStart_next _),
      hread _ (ends_printMembers members rest)]
    exact ih hkeys.2 (by simpa using hfuel) hrest (change r)

/-- A record is read from a printed object with different keys if it takes all members. -/
theorem Record.parse_text {members : List (String × Json)} {changes : List (ρ → ρ)}
    (htakes : List.Forall₂ record.Takes members changes) (hkeys : (members.map (·.1)).Nodup)
    (default : ρ) :
    record.parse default (Json.obj members).text
      = .ok (changes.foldl (fun r change => change r) default) := by
  cases htakes with
  | nil =>
    simp only [Json.text, print, parse, String.toList_ofList, read_brace]
    rw [readMembers_close]
    rfl
  | @cons member change members changes hmember hmembers =>
    obtain ⟨key, value⟩ := member
    obtain ⟨field, hfield, hread⟩ := hmember
    rw [List.map_cons, List.nodup_cons] at hkeys
    have hnew : ∀ other ∈ members.map (·.1), other ∉ [key] := by
      intro other hmem hseen
      rw [List.mem_singleton] at hseen
      exact hkeys.1 (hseen ▸ hmem)
    simp only [Json.text, print, printText, parse, String.toList_ofList, List.cons_append,
      List.append_assoc, List.nil_append, read_brace, List.length_cons]
    have hends : Ends (printMembers members) := by
      simpa using ends_printMembers members []
    -- the fuel is the length of the text, in which every member takes a character at least
    have hfuel : members.length < (key.toList.flatMap escapeChar
        ++ '"' :: ':' :: (value.print ++ printMembers members)).length + 1 := by
      have hmembers := length_lt_printMembers members
      simp only [List.length_append, List.length_cons]
      omega
    have hmore := readMembers_print hmembers hkeys.2 hfuel hnew (change default) []
    rw [List.append_nil] at hmore
    rw [readMembers_known hfield List.not_mem_nil (readKeyStart_first _), hread _ hends]
    simp only [ok_bind, hmore]
    rfl

end Records

end PagePilot.Json
