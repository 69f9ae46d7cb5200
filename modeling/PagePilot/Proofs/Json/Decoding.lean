import PagePilot.Proofs.Json.Scalar

/-!
# Reading records from printed objects

What a record makes of the text of any object: a value is taken where the field takes such a value,
members with other keys are skipped, and a field that is given twice is an error.

## Main definitions

- `Table`, `Record.Follows` - what the fields of a record make of their values
- `Table.overwrite` - a record after the members of an object have been put into it
- `Table.Admits`, `Table.known` - the values that are admissible, and the keys that count

## Main statements

- `Record.Follows.toOption_parse_object` - what a record makes of the text of an object
- `Table.exists_overwrite_iff` - when it makes anything of it
-/

namespace PagePilot.Json

section Records

variable {ρ : Type} {record : Record ρ} {r r' : ρ} {key : String} {value : Json}
  {members : List (String × Json)} {text rest : List Char}

/-- For each key, how a value changes a record; values that are not admissible do not. -/
abbrev Table (ρ : Type) := List (String × (Json → Option (ρ → ρ)))

/-- What the table says about a key. -/
def Table.change? (table : Table ρ) (key : String) : Option (Json → Option (ρ → ρ)) :=
  (table.find? fun entry => entry.1 == key).map (·.2)

/-- What the field makes of any printed value is as given. -/
def Field.Follows (field : Field ρ) (change : Json → Option (ρ → ρ)) : Prop :=
  ∀ (v : Json) (rest : List Char), v.Finite → Ends rest →
    (field.read (v.print ++ rest)).toOption = (change v).map (·, rest)

/-- The fields of the record follow the table. -/
def Record.Follows (record : Record ρ) (table : Table ρ) : Prop :=
  List.Forall₂ (fun field entry => field.name = entry.1 ∧ field.Follows entry.2) record.fields table

theorem Field.follows_of {α : Type} {name : String} {read : Reader α} {put : α → ρ → ρ}
    {hasDefault : Bool} {view : Json → Option α}
    (h : ∀ v rest, Finite v → Ends rest →
      (read (v.print ++ rest)).toOption = (view v).map (·, rest)) :
    (Field.of name read put hasDefault).Follows fun v => (view v).map put := by
  intro v rest hfinite hrest
  show ((read (v.print ++ rest)) >>= fun out => Except.ok (put out.1, out.2)).toOption = _
  rw [toOption_bind, h v rest hfinite hrest]
  cases hview : view v <;> simp only [hview] <;> rfl

variable {table : Table ρ}

theorem Record.Follows.field? (h : record.Follows table) (key : String) :
    Option.Rel Field.Follows (record.field? key) (table.change? key) := by
  rw [Record.field?, Table.change?]
  rw [Follows] at h
  generalize record.fields = fields at h ⊢
  induction h with
  | nil => exact .none
  | @cons field entry fields entries hentry _ ih =>
    obtain ⟨hname, hfollows⟩ := hentry
    rw [List.find?_cons, List.find?_cons, hname]
    cases entry.1 == key with
    | true => exact .some hfollows
    | false => exact ih

/-- The record after members have been put into it one after the other; none if a key of the table
is given twice, `seen` included, or a value is not admissible. Other keys are passed over. -/
def Table.overwrite (table : Table ρ) : List String → ρ → List (String × Json) → Option ρ
  | _, r, [] => some r
  | seen, r, (key, value) :: members =>
    match table.change? key with
    | none => table.overwrite seen r members
    | some change =>
      if key ∈ seen then none
      else (change value).bind fun put => table.overwrite (key :: seen) (put r) members

/-- The round that reads a member with a printed key and a printed value does what the table says,
if the rounds behind it do. -/
theorem Record.Follows.toOption_readMembers_next (h : record.Follows table) (hfinite : value.Finite)
    (hrest : Ends rest) {fuel : Nat} {first : Bool} {unread : List Char}
    (hstart : readKeyStart first text
      = .ok (true, key.toList.flatMap escapeChar ++ '"' :: ':' :: (value.print ++ rest)))
    (hmore : ∀ seen r, (record.readMembers fuel false seen r rest).toOption
      = (table.overwrite seen r members).map (·, unread)) (seen : List String) (r : ρ) :
    (record.readMembers (fuel + 1) first seen r text).toOption
      = (table.overwrite seen r ((key, value) :: members)).map (·, unread) := by
  have hrel := h.field? key
  rw [Table.overwrite]
  cases hfield : record.field? key with
  | none =>
    rw [hfield] at hrel
    cases hchange : table.change? key with
    | some change =>
      rw [hchange] at hrel
      cases hrel
    | none =>
      rw [readMembers, hstart]
      simp only [ok_bind, if_true, readText_print, hfield, readColon_colon,
        skipValue_print value hrest]
      exact hmore seen r
  | some field =>
    rw [hfield] at hrel
    cases hchange : table.change? key with
    | none =>
      rw [hchange] at hrel
      cases hrel
    | some change =>
      rw [hchange] at hrel
      obtain ⟨hfollows⟩ := hrel
      by_cases hseen : key ∈ seen
      · have hknown : seen.contains key = true := by simpa using hseen
        rw [readMembers, hstart]
        simp only [ok_bind, if_true, readText_print, hfield, hknown, if_pos hseen]
        rfl
      · rw [readMembers_known hfield hseen hstart, toOption_bind, hfollows value rest hfinite hrest]
        simp only [if_neg hseen]
        cases change value with
        | none => rfl
        | some put => exact hmore (key :: seen) (put r)

/-- What is read from printed members, up to the closing brace. -/
theorem Record.Follows.toOption_readMembers (h : record.Follows table)
    (hfinite : ∀ member ∈ members, member.2.Finite) {fuel : Nat} (hfuel : members.length < fuel)
    (seen : List String) (r : ρ) (rest : List Char) :
    (record.readMembers fuel false seen r (printMembers members ++ rest)).toOption
      = (table.overwrite seen r members).map (·, rest) := by
  induction members generalizing fuel seen r with
  | nil =>
    obtain ⟨spare, rfl⟩ := Nat.exists_eq_add_of_lt hfuel
    exact congrArg Except.toOption (readMembers_close _ false seen r rest)
  | cons member members ih =>
    obtain ⟨key, value⟩ := member
    obtain ⟨spare, rfl⟩ := Nat.exists_eq_add_of_lt hfuel
    rw [List.forall_mem_cons] at hfinite
    rw [printMembers, printText]
    simp only [List.cons_append, List.append_assoc, List.nil_append]
    refine h.toOption_readMembers_next hfinite.1 (ends_printMembers members rest)
      (readKeyStart_next _) (fun seen r => ?_) seen r
    refine ih hfinite.2 ?_ seen r
    rw [List.length_cons]
    omega

/-- What a record makes of the text of an object is what its table makes of the members. -/
theorem Record.Follows.toOption_parse_object (h : record.Follows table) (default : ρ)
    (hfinite : ∀ member ∈ members, member.2.Finite) :
    (record.parse default (Json.obj members).text).toOption
      = table.overwrite [] default members := by
  have hread : (record.readMembers ((Json.obj members).print.length) true [] default
      ((Json.obj members).print.tail)).toOption
        = (table.overwrite [] default members).map (·, []) := by
    cases members with
    | nil => rfl
    | cons member members =>
      obtain ⟨key, value⟩ := member
      rw [List.forall_mem_cons] at hfinite
      have hends : Ends (printMembers members) := by
        simpa using ends_printMembers members []
      simp only [print, printText, List.cons_append, List.append_assoc, List.nil_append,
        List.tail_cons, List.length_cons]
      refine h.toOption_readMembers_next hfinite.1 hends (readKeyStart_first _) (fun seen r => ?_)
        [] default
      -- the fuel is the length of the text, in which every member takes a character at least
      have hlength := length_lt_printMembers members
      rw [← List.append_nil (printMembers members)]
      refine h.toOption_readMembers hfinite.2 ?_ seen r []
      simp only [List.length_append, List.length_cons, List.append_nil]
      omega
  have htext : ∃ behind, (Json.obj members).print = '\x7b' :: behind := by
    cases members <;> exact ⟨_, rfl⟩
  obtain ⟨behind, hbehind⟩ := htext
  rw [hbehind, List.tail_cons, List.length_cons] at hread
  rw [parse, toOption_bind, Json.text, String.toList_ofList, hbehind, read_brace, hread]
  cases table.overwrite [] default members <;> rfl

/-- The table admits a value for a key, or says nothing about the key. -/
def Table.Admits (table : Table ρ) (key : String) (value : Json) : Prop :=
  ∀ change, table.change? key = some change → ∃ put, change value = some put

/-- The keys of the table among those of the members. -/
def Table.known (table : Table ρ) (members : List (String × Json)) : List String :=
  (members.map (·.1)).filter fun key => (table.change? key).isSome

theorem Table.known_cons_of_none (h : table.change? key = none) :
    table.known ((key, value) :: members) = table.known members := by
  simp [known, h]

theorem Table.known_cons_of_some {change : Json → Option (ρ → ρ)}
    (h : table.change? key = some change) :
    table.known ((key, value) :: members) = key :: table.known members := by
  simp [known, h]

theorem Table.mem_known (table : Table ρ) :
    key ∈ table.known members ↔ key ∈ members.map (·.1) ∧ (table.change? key).isSome = true :=
  List.mem_filter

/-- An object is refused exactly if it gives a key of the table twice or a value that is not
admissible. -/
theorem Table.exists_overwrite_iff (table : Table ρ) (seen : List String) (r : ρ)
    (members : List (String × Json)) : (∃ r', table.overwrite seen r members = some r') ↔
      ((table.known members).Nodup ∧ ∀ key ∈ table.known members, key ∉ seen) ∧
        ∀ member ∈ members, table.Admits member.1 member.2 := by
  induction members generalizing seen r with
  | nil => simp [overwrite, known]
  | cons member members ih =>
    obtain ⟨key, value⟩ := member
    rw [List.forall_mem_cons]
    cases hchange : table.change? key with
    | none =>
      have hadmits : table.Admits key value := fun change h => by
        rw [hchange] at h
        cases h
      simp only [overwrite, hchange, known_cons_of_none hchange, hadmits, true_and]
      exact ih seen r
    | some change =>
      have hadmits : table.Admits key value ↔ ∃ put, change value = some put := by
        constructor
        · exact fun h => h change hchange
        · rintro h other hother
          obtain rfl := Option.some.inj (hchange.symm.trans hother)
          exact h
      simp only [overwrite, hchange, known_cons_of_some hchange, hadmits, List.nodup_cons,
        List.forall_mem_cons]
      by_cases hseen : key ∈ seen
      · simp [hseen]
      · cases hvalue : change value with
        | none => simp [hseen]
        | some put =>
          -- the keys that are left must be none of those seen, this one included
          have hleft : (∀ other ∈ table.known members, other ∉ key :: seen) ↔
              key ∉ table.known members ∧ ∀ other ∈ table.known members, other ∉ seen := by
            constructor
            · intro h
              refine ⟨fun hmem => h key hmem List.mem_cons_self, fun other hmem hother => ?_⟩
              exact h other hmem (List.mem_cons_of_mem _ hother)
            · rintro ⟨hkey, h⟩ other hmem hother
              rcases List.mem_cons.mp hother with rfl | hother
              · exact hkey hmem
              · exact h other hmem hother
          rw [if_neg hseen, Option.bind_some, ih, hleft]
          simp only [Option.some.injEq, exists_eq', true_and, hseen, not_false_eq_true]
          tauto

/-- Members with other keys change nothing. -/
theorem Table.overwrite_filter (table : Table ρ) (seen : List String) (r : ρ)
    (members : List (String × Json)) :
    table.overwrite seen r (members.filter fun member => (table.change? member.1).isSome)
      = table.overwrite seen r members := by
  induction members generalizing seen r with
  | nil => rfl
  | cons member members ih =>
    obtain ⟨key, value⟩ := member
    cases hchange : table.change? key with
    | none =>
      rw [List.filter_cons_of_neg (by simp [hchange])]
      simp only [overwrite, hchange]
      exact ih seen r
    | some change =>
      rw [List.filter_cons_of_pos (by simp [hchange])]
      simp only [overwrite, hchange]
      by_cases hseen : key ∈ seen
      · rw [if_pos hseen, if_pos hseen]
      · rw [if_neg hseen, if_neg hseen]
        exact congrArg (change value).bind (funext fun put => ih (key :: seen) (put r))

end Records

end PagePilot.Json
