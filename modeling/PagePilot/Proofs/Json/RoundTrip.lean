import Mathlib.Logic.Basic
import PagePilot.Proofs.Json.Token

/-!
# Reading printed values

A value without floating-point numbers that has been printed is read back, whatever stands behind
it, if it is nested no deeper than is allowed; otherwise it is refused. The members of its objects
come back in ascending order of their keys.

## Main definitions

- `Json.Integral` - all numbers are integers of 64 bits
- `Json.nesting` - how deep lists and objects are nested
- `Json.ordered` - the value with the members of all objects in ascending order of their keys
- `Json.Ascending` - they are in that order already, and all their keys are different

## Main statements

- `Json.toOption_readValue_print`, `Json.toOption_parse_text` - what reading a printed value comes
  to
- `Json.ordered_eq_self` - what is in order already is left as it is
-/

namespace PagePilot.Json

mutual

/-- All numbers of the value are integers of 64 bits, with sign or without. -/
def Integral : Json → Prop
  | .null | .bool _ | .str _ => True
  | .num (.int i) => -9223372036854775808 ≤ i ∧ i < 18446744073709551616
  | .num (.float _) => False
  | .arr items => IntegralItems items
  | .obj members => IntegralMembers members

def IntegralItems : List Json → Prop
  | [] => True
  | item :: items => item.Integral ∧ IntegralItems items

def IntegralMembers : List (String × Json) → Prop
  | [] => True
  | (_, value) :: members => value.Integral ∧ IntegralMembers members

end

mutual

/-- How deep lists and objects are nested in the value. -/
def nesting : Json → Nat
  | .null | .bool _ | .num _ | .str _ => 0
  | .arr items => nestingItems items + 1
  | .obj members => nestingMembers members + 1

def nestingItems : List Json → Nat
  | [] => 0
  | item :: items => max item.nesting (nestingItems items)

def nestingMembers : List (String × Json) → Nat
  | [] => 0
  | (_, value) :: members => max value.nesting (nestingMembers members)

end

mutual

/-- The value with the members of all its objects in ascending order of their keys; of several
members with one key the last counts. -/
def ordered : Json → Json
  | .arr items => .arr (orderedItems items)
  | .obj members => .obj (sortMembers (orderedMembers members))
  | value => value

def orderedItems : List Json → List Json
  | [] => []
  | item :: items => item.ordered :: orderedItems items

def orderedMembers : List (String × Json) → List (String × Json)
  | [] => []
  | (key, value) :: members => (key, value.ordered) :: orderedMembers members

end

mutual

/-- The members of all objects are in ascending order of their keys, which are all different. -/
def Ascending : Json → Prop
  | .null | .bool _ | .num _ | .str _ => True
  | .arr items => AscendingItems items
  | .obj members => (members.map (·.1)).Pairwise (· < ·) ∧ AscendingMembers members

def AscendingItems : List Json → Prop
  | [] => True
  | item :: items => item.Ascending ∧ AscendingItems items

def AscendingMembers : List (String × Json) → Prop
  | [] => True
  | (_, value) :: members => value.Ascending ∧ AscendingMembers members

end

/-- A member whose key comes behind all others is put at the end. -/
theorem putMember_of_last {key : String} {value : Json} {members : List (String × Json)}
    (h : ∀ member ∈ members, member.1 < key) :
    putMember key value members = members ++ [(key, value)] := by
  induction members with
  | nil => rfl
  | cons member members ih =>
    -- the key is neither below nor equal to the one that it meets, so it goes on
    have hlt := h member List.mem_cons_self
    have hne : ¬ key = member.1 := fun heq => String.lt_irrefl _ (heq ▸ hlt)
    simp only [putMember, if_neg (String.lt_asymm hlt), if_neg hne, List.cons_append]
    rw [ih fun member hmem => h member (List.mem_cons_of_mem _ hmem)]

theorem foldl_putMember_of_ascending {members sorted : List (String × Json)}
    (h : ((sorted ++ members).map (·.1)).Pairwise (· < ·)) :
    members.foldl (fun sorted (key, value) => putMember key value sorted) sorted
      = sorted ++ members := by
  induction members generalizing sorted with
  | nil => simp
  | cons member members ih =>
    obtain ⟨key, value⟩ := member
    have hlast : ∀ member ∈ sorted, member.1 < key := by
      intro member hmem
      rw [List.map_append, List.pairwise_append] at h
      exact h.2.2 member.1 (List.mem_map_of_mem hmem) key (by simp)
    have hput : putMember key value sorted = sorted ++ [(key, value)] := putMember_of_last hlast
    simp only [List.foldl_cons, hput]
    rw [ih (by simpa using h)]
    simp

theorem sortMembers_of_ascending {members : List (String × Json)}
    (h : (members.map (·.1)).Pairwise (· < ·)) : sortMembers members = members :=
  foldl_putMember_of_ascending h

mutual

/-- What is in order already is left as it is. -/
theorem ordered_eq_self : ∀ v : Json, v.Ascending → v.ordered = v
  | .null, _ | .bool _, _ | .num _, _ | .str _, _ => rfl
  | .arr items, h => by rw [ordered, orderedItems_eq_self items h]
  | .obj members, h => by
    rw [ordered, orderedMembers_eq_self members h.2, sortMembers_of_ascending h.1]

theorem orderedItems_eq_self : ∀ items : List Json, AscendingItems items →
    orderedItems items = items
  | [], _ => rfl
  | item :: items, h => by
    rw [orderedItems, ordered_eq_self item h.1, orderedItems_eq_self items h.2]

theorem orderedMembers_eq_self : ∀ members : List (String × Json), AscendingMembers members →
    orderedMembers members = members
  | [], _ => rfl
  | (key, value) :: members, h => by
    rw [orderedMembers, ordered_eq_self value h.1, orderedMembers_eq_self members h.2]

end

theorem ok_bind {ε α β : Type} (a : α) (f : α → Except ε β) : (Except.ok a >>= f) = f a := rfl

theorem toOption_bind {ε α β : Type} (x : Except ε α) (f : α → Except ε β) :
    (x >>= f).toOption = x.toOption.bind fun a => (f a).toOption := by
  cases x <;> rfl

/-- What succeeds under one condition goes on under this condition. -/
theorem toOption_bind_of_ite {ε α β : Type} {x : Except ε α} {f : α → Except ε β} {a : α}
    {b : Option β} {p : Prop} [Decidable p] (hx : x.toOption = if p then some a else none)
    (hf : (f a).toOption = b) : (x >>= f).toOption = if p then b else none := by
  rw [toOption_bind, hx]
  by_cases hp : p
  · rw [if_pos hp, if_pos hp]
    exact hf
  · rw [if_neg hp, if_neg hp]
    rfl

theorem eq_ok_of_toOption {ε α : Type} {x : Except ε α} {a : α} (h : x.toOption = some a) :
    x = .ok a := by
  cases x with
  | error e => cases h
  | ok b =>
    cases h
    rfl

/-- The character begins a value, or at least neither ends a list nor stands for nothing. -/
def Begins (c : Char) : Prop := isSpace c = false ∧ c ≠ ']'

instance (c : Char) : Decidable (Begins c) :=
  inferInstanceAs (Decidable (isSpace c = false ∧ c ≠ ']'))

theorem begins_of_isDigit {c : Char} (h : c.isDigit = true) : Begins c := by
  have hne (letter : Char) (hletter : letter.isDigit = false) : c ≠ letter := by
    rintro rfl
    simp [h] at hletter
  refine ⟨?_, hne ']' rfl⟩
  simp [isSpace, hne ' ' rfl, hne '\n' rfl, hne '\t' rfl, hne '\r' rfl]

theorem skipSpace_of_not {c : Char} (h : isSpace c = false) (rest : List Char) :
    skipSpace (c :: rest) = c :: rest := by
  simp [skipSpace, h]

theorem isOpening_of_isDigit {c : Char} (h : c.isDigit = true) : isOpening c = false := by
  have hne (letter : Char) (hletter : letter.isDigit = false) : c ≠ letter := by
    rintro rfl
    simp [h] at hletter
  simp [isOpening, hne '[' rfl, hne '\x7b' rfl]

theorem printInt_eq_cons (i : Int) :
    ∃ c cs, printInt i = c :: cs ∧ Begins c ∧ isOpening c = false := by
  cases i with
  | negSucc n => exact ⟨'-', _, rfl, by decide, rfl⟩
  | ofNat n =>
    cases hdigits : Nat.toDigits 10 n with
    | nil => exact absurd (@Nat.length_toDigits_pos 10 n) (by simp [hdigits])
    | cons c digits =>
      have hmem : c ∈ Nat.toDigits 10 n := hdigits ▸ List.mem_cons_self
      have hdigit := Nat.isDigit_of_mem_toDigits (by omega) (Nat.le_refl 10) hmem
      exact ⟨c, digits, hdigits, begins_of_isDigit hdigit, isOpening_of_isDigit hdigit⟩

theorem print_eq_cons {v : Json} (h : v.Integral) : ∃ c cs, v.print = c :: cs ∧ Begins c := by
  cases v with
  | null => exact ⟨_, _, rfl, by decide⟩
  | bool b => cases b <;> exact ⟨_, _, rfl, by decide⟩
  | str s => exact ⟨_, _, rfl, by decide⟩
  | num n =>
    cases n with
    | float x => exact h.elim
    | int i =>
      obtain ⟨c, cs, hprint, hbegins, -⟩ := printInt_eq_cons i
      exact ⟨c, cs, hprint, hbegins⟩
  | arr items => cases items <;> exact ⟨_, _, rfl, by decide⟩
  | obj members => cases members <;> exact ⟨_, _, rfl, by decide⟩

/-- What stands in a list or an object behind a value is no part of a number. -/
theorem ends_printItems (items : List Json) (rest : List Char) :
    Ends (printItems items ++ rest) := by
  cases items <;> exact ⟨rfl, by decide, by decide, by decide⟩

theorem ends_printMembers (members : List (String × Json)) (rest : List Char) :
    Ends (printMembers members ++ rest) := by
  cases members <;> exact ⟨rfl, by decide, by decide, by decide⟩

theorem length_lt_printItems (items : List Json) : items.length < (printItems items).length := by
  induction items with
  | nil => decide
  | cons item items ih => simp [printItems]; omega

theorem length_lt_printMembers (members : List (String × Json)) :
    members.length < (printMembers members).length := by
  induction members with
  | nil => decide
  | cons member members ih => simp [printMembers]; omega

theorem readItemStart_first {c : Char} (h : Begins c) (rest : List Char) :
    readItemStart true (c :: rest) = .ok (true, c :: rest) := by
  simp [readItemStart, skipSpace_of_not h.1, h.2]

theorem readItemStart_next {c : Char} (h : Begins c) (rest : List Char) :
    readItemStart false (',' :: c :: rest) = .ok (true, c :: rest) := by
  have hcomma : skipSpace (',' :: c :: rest) = ',' :: c :: rest := skipSpace_of_not rfl _
  simp [readItemStart, hcomma, skipSpace_of_not h.1, h.2]

theorem readValue_of_scalar {c : Char} (hspace : isSpace c = false) (hopening : isOpening c = false)
    (depth : Nat) (rest : List Char) : readValue depth (c :: rest) = readScalar (c :: rest) := by
  cases depth <;> simp [readValue, skipSpace_of_not hspace, hopening]

theorem readValue_opening_zero {c : Char} (hspace : isSpace c = false)
    (hopening : isOpening c = true) (rest : List Char) :
    (readValue 0 (c :: rest)).toOption = none := by
  simp only [readValue, skipSpace_of_not hspace, hopening, if_true]
  rfl

theorem readValue_opening_succ {c : Char} (hspace : isSpace c = false)
    (hopening : isOpening c = true) (depth : Nat) (rest : List Char) :
    readValue (depth + 1) (c :: rest) = readNested (readValue depth) c rest := by
  simp [readValue, skipSpace_of_not hspace, hopening]

section Steps

variable {α : Type} {read : Reader α}

/-- Reading an item and then the items behind it. -/
def readItemAndRest (read : Reader α) (fuel : Nat) : Reader (List α) := fun text => do
  let (item, rest) ← read text
  let (items, rest) ← readItems read fuel false rest
  .ok (item :: items, rest)

theorem readItems_first {c : Char} (h : Begins c) (fuel : Nat) (rest : List Char) :
    readItems read (fuel + 1) true (c :: rest) = readItemAndRest read fuel (c :: rest) := by
  rw [readItems, readItemStart_first h]
  rfl

theorem readItems_next {c : Char} (h : Begins c) (fuel : Nat) (rest : List Char) :
    readItems read (fuel + 1) false (',' :: c :: rest) = readItemAndRest read fuel (c :: rest) := by
  rw [readItems, readItemStart_next h]
  rfl

theorem readItems_close (fuel : Nat) (first : Bool) (rest : List Char) :
    readItems read (fuel + 1) first (']' :: rest) = .ok ([], rest) := by
  have hbracket : skipSpace (']' :: rest) = ']' :: rest := skipSpace_of_not rfl _
  have hstart : readItemStart first (']' :: rest) = .ok (false, rest) := by
    cases first <;> simp [readItemStart, hbracket]
  rw [readItems, hstart]
  rfl

/-- An item and the items behind it are read if each part is. -/
theorem toOption_readItemAndRest {fuel : Nat} {text rest₁ rest : List Char} {item : α}
    {items : List α} {p q : Prop} [Decidable p] [Decidable q]
    (hitem : (read text).toOption = if p then some (item, rest₁) else none)
    (hitems : (readItems read fuel false rest₁).toOption = if q then some (items, rest) else none) :
    (readItemAndRest read fuel text).toOption
      = if p ∧ q then some (item :: items, rest) else none := by
  rw [readItemAndRest, ite_and]
  exact toOption_bind_of_ite hitem (toOption_bind_of_ite hitems rfl)

/-- Reading a key, behind its opening quote, then its value and then the members behind it. -/
def readMemberAndRest (read : Reader α) (fuel : Nat) : Reader (List (String × α)) := fun text => do
  let (key, rest) ← readText text
  let rest ← readColon rest
  let (value, rest) ← read rest
  let (members, rest) ← readMembers read fuel false rest
  .ok ((key, value) :: members, rest)

theorem readKeyStart_first (rest : List Char) :
    readKeyStart true ('"' :: rest) = .ok (true, rest) := by
  have hquote : skipSpace ('"' :: rest) = '"' :: rest := skipSpace_of_not rfl _
  simp [readKeyStart, hquote]

theorem readKeyStart_next (rest : List Char) :
    readKeyStart false (',' :: '"' :: rest) = .ok (true, rest) := by
  have hcomma : skipSpace (',' :: '"' :: rest) = ',' :: '"' :: rest := skipSpace_of_not rfl _
  have hquote : skipSpace ('"' :: rest) = '"' :: rest := skipSpace_of_not rfl _
  simp [readKeyStart, hcomma, hquote]

theorem readKeyStart_close (first : Bool) (rest : List Char) :
    readKeyStart first ('\x7d' :: rest) = .ok (false, rest) := by
  have hbrace : skipSpace ('\x7d' :: rest) = '\x7d' :: rest := skipSpace_of_not rfl _
  cases first <;> simp [readKeyStart, hbrace]

theorem readColon_colon (rest : List Char) : readColon (':' :: rest) = .ok rest := by
  have hcolon : skipSpace (':' :: rest) = ':' :: rest := skipSpace_of_not rfl _
  simp [readColon, hcolon]

theorem readMembers_first (fuel : Nat) (rest : List Char) :
    readMembers read (fuel + 1) true ('"' :: rest) = readMemberAndRest read fuel rest := by
  rw [readMembers, readKeyStart_first]
  rfl

theorem readMembers_next (fuel : Nat) (rest : List Char) :
    readMembers read (fuel + 1) false (',' :: '"' :: rest) = readMemberAndRest read fuel rest := by
  rw [readMembers, readKeyStart_next]
  rfl

theorem readMembers_close (fuel : Nat) (first : Bool) (rest : List Char) :
    readMembers read (fuel + 1) first ('\x7d' :: rest) = .ok ([], rest) := by
  rw [readMembers, readKeyStart_close]
  rfl

/-- A member and the members behind it are read if each part is. -/
theorem toOption_readMemberAndRest_of_key {key : String} {fuel : Nat}
    {front text rest₁ rest : List Char} {value : α} {members : List (String × α)} {r p q : Prop}
    [Decidable r] [Decidable p] [Decidable q]
    (hkey : (readText front).toOption = if r then some (key, ':' :: text) else none)
    (hvalue : (read text).toOption = if p then some (value, rest₁) else none)
    (hmembers : (readMembers read fuel false rest₁).toOption
      = if q then some (members, rest) else none) :
    (readMemberAndRest read fuel front).toOption
      = if r ∧ p ∧ q then some ((key, value) :: members, rest) else none := by
  rw [readMemberAndRest, ite_and, ite_and]
  refine toOption_bind_of_ite hkey ?_
  simp only [readColon_colon, ok_bind]
  exact toOption_bind_of_ite hvalue (toOption_bind_of_ite hmembers rfl)

/-- A member with a printed key and the members behind it are read if each part is. -/
theorem toOption_readMemberAndRest (key : String) {fuel : Nat} {text rest₁ rest : List Char}
    {value : α} {members : List (String × α)} {p q : Prop} [Decidable p] [Decidable q]
    (hvalue : (read text).toOption = if p then some (value, rest₁) else none)
    (hmembers : (readMembers read fuel false rest₁).toOption
      = if q then some (members, rest) else none) :
    (readMemberAndRest read fuel (key.toList.flatMap escapeChar ++ '"' :: ':' :: text)).toOption
      = if p ∧ q then some ((key, value) :: members, rest) else none := by
  have hkey : (readText (key.toList.flatMap escapeChar ++ '"' :: ':' :: text)).toOption
      = if True then some (key, ':' :: text) else none := by
    rw [readText_print, if_pos trivial]
    rfl
  simpa only [true_and] using toOption_readMemberAndRest_of_key hkey hvalue hmembers

end Steps

theorem toOption_readNested_list {read : Reader Json} {text rest : List Char} {items : List Json}
    {p : Prop} [Decidable p]
    (h : (readItems read (text.length + 1) true text).toOption
      = if p then some (items, rest) else none) :
    (readNested read '[' text).toOption = if p then some (.arr items, rest) else none := by
  simp only [readNested, if_true]
  exact toOption_bind_of_ite h rfl

theorem toOption_readNested_object {read : Reader Json} {text rest : List Char}
    {members : List (String × Json)} {p : Prop} [Decidable p]
    (h : (readMembers read (text.length + 1) true text).toOption
      = if p then some (members, rest) else none) :
    (readNested read '\x7b' text).toOption
      = if p then some (.obj (sortMembers members), rest) else none := by
  have hbrace : ¬ '\x7b' = '[' := by decide
  simp only [readNested, hbrace, if_false]
  exact toOption_bind_of_ite h rfl

/-- A list or an object is read one level deeper than what is in it. -/
theorem toOption_readValue_opening_of_ite {c : Char} (hspace : isSpace c = false)
    (hopening : isOpening c = true) {depth inner : Nat} {text rest : List Char} {value : Json}
    {p : Prop} [Decidable p] (h : ∀ depth, (readNested (readValue depth) c text).toOption
      = if p ∧ inner ≤ depth then some (value, rest) else none) :
    (readValue depth (c :: text)).toOption
      = if p ∧ inner + 1 ≤ depth then some (value, rest) else none := by
  cases depth with
  | zero =>
    rw [readValue_opening_zero hspace hopening, if_neg fun hp => Nat.not_succ_le_zero inner hp.2]
  | succ depth =>
    rw [readValue_opening_succ hspace hopening, h depth]
    simp only [Nat.add_le_add_iff_right]

theorem toOption_readValue_opening {c : Char} (hspace : isSpace c = false)
    (hopening : isOpening c = true) {depth inner : Nat} {text rest : List Char} {value : Json}
    (h : ∀ depth, (readNested (readValue depth) c text).toOption
      = if inner ≤ depth then some (value, rest) else none) :
    (readValue depth (c :: text)).toOption
      = if inner + 1 ≤ depth then some (value, rest) else none := by
  have hopened : (readValue depth (c :: text)).toOption
      = if True ∧ inner + 1 ≤ depth then some (value, rest) else none :=
    toOption_readValue_opening_of_ite hspace hopening (by simpa only [true_and] using h)
  simpa only [true_and] using hopened

mutual

/-- A printed value is read back if it is nested no deeper than is allowed, and refused if not. -/
theorem toOption_readValue_print : ∀ v : Json, v.Integral → ∀ (depth : Nat) (rest : List Char),
    Ends rest → (readValue depth (v.print ++ rest)).toOption
      = if v.nesting ≤ depth then some (v.ordered, rest) else none
  | .null, _, depth, rest, _ => by
    refine Eq.trans ?_ (if_pos (Nat.zero_le depth)).symm
    exact congrArg Except.toOption (readValue_of_scalar rfl rfl depth _)
  | .bool true, _, depth, rest, _ => by
    refine Eq.trans ?_ (if_pos (Nat.zero_le depth)).symm
    exact congrArg Except.toOption (readValue_of_scalar rfl rfl depth _)
  | .bool false, _, depth, rest, _ => by
    refine Eq.trans ?_ (if_pos (Nat.zero_le depth)).symm
    exact congrArg Except.toOption (readValue_of_scalar rfl rfl depth _)
  | .str s, _, depth, rest, _ => by
    refine Eq.trans ?_ (if_pos (Nat.zero_le depth)).symm
    rw [print, printText]
    simp only [List.cons_append, List.append_assoc, List.nil_append]
    rw [readValue_of_scalar rfl rfl]
    simp only [readScalar, readText_print, ok_bind]
    rfl
  | .num (.float _), h, _, _, _ => h.elim
  | .num (.int i), h, depth, rest, hrest => by
    obtain ⟨c, cs, hprint, hbegins, hopening⟩ := printInt_eq_cons i
    have hread := readScalar_printInt h.1 h.2 hrest
    refine Eq.trans ?_ (if_pos (Nat.zero_le depth)).symm
    rw [print, printNumber]
    rw [hprint, List.cons_append] at hread ⊢
    rw [readValue_of_scalar hbegins.1 hopening, hread]
    rfl
  | .arr [], _, depth, rest, _ => by
    refine toOption_readValue_opening rfl rfl fun depth => toOption_readNested_list ?_
    exact Eq.trans (congrArg Except.toOption (readItems_close _ true rest))
      (if_pos (Nat.zero_le depth)).symm
  | .arr (item :: items), h, depth, rest, _ => by
    rw [print]
    simp only [List.cons_append, List.append_assoc]
    refine toOption_readValue_opening rfl rfl fun depth => toOption_readNested_list ?_
    obtain ⟨c, cs, hprint, hbegins⟩ := print_eq_cons h.1
    have hitem := toOption_readValue_print item h.1 depth _ (ends_printItems items rest)
    -- the fuel is the length of the text, in which every item takes a character at least
    have hfuel : items.length < (item.print ++ (printItems items ++ rest)).length := by
      have hitems := length_lt_printItems items
      simp only [List.length_append]
      omega
    have hitems := toOption_readItems_print items h.2 depth _ rest hfuel
    have hboth := toOption_readItemAndRest hitem hitems
    rw [hprint, List.cons_append] at hboth ⊢
    rw [readItems_first hbegins, hboth]
    simp only [nestingItems, Nat.max_le, orderedItems]
  | .obj [], _, depth, rest, _ => by
    refine toOption_readValue_opening rfl rfl fun depth => toOption_readNested_object ?_
    exact Eq.trans (congrArg Except.toOption (readMembers_close _ true rest))
      (if_pos (Nat.zero_le depth)).symm
  | .obj ((key, value) :: members), h, depth, rest, _ => by
    rw [print, printText]
    simp only [List.cons_append, List.append_assoc, List.nil_append]
    refine toOption_readValue_opening rfl rfl fun depth => toOption_readNested_object ?_
    have hvalue := toOption_readValue_print value h.1 depth _ (ends_printMembers members rest)
    have hfuel : members.length < ('"' :: (key.toList.flatMap escapeChar
        ++ '"' :: ':' :: (value.print ++ (printMembers members ++ rest)))).length := by
      have hmembers := length_lt_printMembers members
      simp only [List.length_append, List.length_cons]
      omega
    have hmembers := toOption_readMembers_print members h.2 depth _ rest hfuel
    have hboth := toOption_readMemberAndRest key hvalue hmembers
    rw [readMembers_first, hboth]
    simp only [nestingMembers, Nat.max_le, orderedMembers]

theorem toOption_readItems_print : ∀ items : List Json, IntegralItems items →
    ∀ (depth fuel : Nat) (rest : List Char), items.length < fuel →
      (readItems (readValue depth) fuel false (printItems items ++ rest)).toOption
        = if nestingItems items ≤ depth then some (orderedItems items, rest) else none
  | [], _, depth, fuel + 1, rest, _ => by
    exact Eq.trans (congrArg Except.toOption (readItems_close fuel false rest))
      (if_pos (Nat.zero_le depth)).symm
  | item :: items, h, depth, fuel + 1, rest, hfuel => by
    obtain ⟨c, cs, hprint, hbegins⟩ := print_eq_cons h.1
    have hitem := toOption_readValue_print item h.1 depth _ (ends_printItems items rest)
    have hitems := toOption_readItems_print items h.2 depth fuel rest (by simpa using hfuel)
    have hboth := toOption_readItemAndRest hitem hitems
    rw [printItems]
    simp only [List.cons_append, List.append_assoc]
    rw [hprint, List.cons_append] at hboth ⊢
    rw [readItems_next hbegins, hboth]
    simp only [nestingItems, Nat.max_le, orderedItems]

theorem toOption_readMembers_print : ∀ members : List (String × Json), IntegralMembers members →
    ∀ (depth fuel : Nat) (rest : List Char), members.length < fuel →
      (readMembers (readValue depth) fuel false (printMembers members ++ rest)).toOption
        = if nestingMembers members ≤ depth then some (orderedMembers members, rest) else none
  | [], _, depth, fuel + 1, rest, _ => by
    exact Eq.trans (congrArg Except.toOption (readMembers_close fuel false rest))
      (if_pos (Nat.zero_le depth)).symm
  | (key, value) :: members, h, depth, fuel + 1, rest, hfuel => by
    have hvalue := toOption_readValue_print value h.1 depth _ (ends_printMembers members rest)
    have hmembers := toOption_readMembers_print members h.2 depth fuel rest (by simpa using hfuel)
    have hboth := toOption_readMemberAndRest key hvalue hmembers
    rw [printMembers, printText]
    simp only [List.cons_append, List.append_assoc, List.nil_append]
    rw [readMembers_next, hboth]
    simp only [nestingMembers, Nat.max_le, orderedMembers]

end

/-- The text of a value is that value, unless it is nested too deep. -/
theorem toOption_parse_text {v : Json} (h : v.Integral) :
    (parse v.text).toOption = if v.nesting ≤ deepest then some v.ordered else none := by
  have hread := toOption_readValue_print v h deepest [] trivial
  rw [List.append_nil] at hread
  rw [parse, text, String.toList_ofList]
  exact toOption_bind_of_ite hread rfl

end PagePilot.Json
