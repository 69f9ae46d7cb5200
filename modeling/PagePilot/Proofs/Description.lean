import PagePilot.Options.Json
import PagePilot.Proofs.Json.Decoding

/-!
# The meaning of an options object

An object describes options if no option is given twice and every option that is given has an
admissible value. The options are then the default ones overwritten by its members, whatever other
members there are and in whatever order; otherwise the object is refused.

## Main definitions

- `SessionOptions.names`, `SessionOptions.Admits` - the keys that count, and their admissible values
- `SessionOptions.Described` - the members of an object describe options
- `SessionOptions.overlay` - options overwritten by the members of an object

## Main statements

- `SessionOptions.ofJson_object` - what is read from the text of an object
-/

namespace PagePilot

open Json (Ends Field Record Table)

/-- The value of the first member with the given key, looked at in one way, or `default`. -/
def Json.entry {α : Type} (key : String) (view : Json → Option α) (default : α)
    (members : List (String × Json)) : α :=
  ((Json.lookup key members).bind view).getD default

namespace SessionOptions

/-- The keys of the options. -/
def names : List String :=
  ["baseUrl", "timeout", "pollInterval", "width", "height", "debug", "loadImages",
    "ignoreSslErrors", "sslProtocol", "webSecurity", "proxy", "proxyType", "proxyAuth",
    "cookiesFile"]

/-- The values that are admissible for an option. Under any other key all are. -/
def Admits (key : String) (value : Json) : Prop :=
  match key with
  | "baseUrl" => ∃ s, value = .str s
  | "timeout" | "pollInterval" => ∃ n < 2 ^ 64, value = .nat n
  | "width" | "height" => ∃ n < 2 ^ 32, value = .nat n
  | "debug" | "loadImages" | "ignoreSslErrors" | "webSecurity" => ∃ b, value = .bool b
  | "sslProtocol" | "proxy" | "proxyType" | "proxyAuth" | "cookiesFile" =>
    value = .null ∨ ∃ s, value = .str s
  | _ => True

/-- The members of an object describe options: none is given twice, and all are admissible. -/
def Described (members : List (String × Json)) : Prop :=
  ((members.map (·.1)).filter (· ∈ names)).Nodup ∧
    ∀ member ∈ members, Admits member.1 member.2

/-- A number of milliseconds as a duration. -/
def millis? (value : Json) : Option Duration :=
  (value.below? UInt64.size).map fun n => .ofMillis (.ofNat n)

/-- A number of pixels. -/
def word32? (value : Json) : Option UInt32 := (value.below? UInt32.size).map .ofNat

/-- The options overwritten by the members of an object. -/
def overlay (o : SessionOptions) (members : List (String × Json)) : SessionOptions where
  baseUrl := Json.entry "baseUrl" Json.asText? o.baseUrl members
  timeout := Json.entry "timeout" millis? o.timeout members
  pollInterval := Json.entry "pollInterval" millis? o.pollInterval members
  width := Json.entry "width" word32? o.width members
  height := Json.entry "height" word32? o.height members
  debug := Json.entry "debug" Json.asBool? o.debug members
  loadImages := Json.entry "loadImages" Json.asBool? o.loadImages members
  ignoreSslErrors := Json.entry "ignoreSslErrors" Json.asBool? o.ignoreSslErrors members
  sslProtocol := Json.entry "sslProtocol" Json.optionalText? o.sslProtocol members
  webSecurity := Json.entry "webSecurity" Json.asBool? o.webSecurity members
  proxy := Json.entry "proxy" Json.optionalText? o.proxy members
  proxyType := Json.entry "proxyType" Json.optionalText? o.proxyType members
  proxyAuth := Json.entry "proxyAuth" Json.optionalText? o.proxyAuth members
  cookiesFile := Json.entry "cookiesFile" Json.optionalText? o.cookiesFile members

/-- What each option makes of a value. -/
def table : Table SessionOptions :=
  [("baseUrl", fun v => v.asText?.map fun s o => { o with baseUrl := s }),
   ("timeout", fun v => (millis? v).map fun d o => { o with timeout := d }),
   ("pollInterval", fun v => (millis? v).map fun d o => { o with pollInterval := d }),
   ("width", fun v => (word32? v).map fun n o => { o with width := n }),
   ("height", fun v => (word32? v).map fun n o => { o with height := n }),
   ("debug", fun v => v.asBool?.map fun b o => { o with debug := b }),
   ("loadImages", fun v => v.asBool?.map fun b o => { o with loadImages := b }),
   ("ignoreSslErrors", fun v => v.asBool?.map fun b o => { o with ignoreSslErrors := b }),
   ("sslProtocol", fun v => v.optionalText?.map fun s o => { o with sslProtocol := s }),
   ("webSecurity", fun v => v.asBool?.map fun b o => { o with webSecurity := b }),
   ("proxy", fun v => v.optionalText?.map fun s o => { o with proxy := s }),
   ("proxyType", fun v => v.optionalText?.map fun s o => { o with proxyType := s }),
   ("proxyAuth", fun v => v.optionalText?.map fun s o => { o with proxyAuth := s }),
   ("cookiesFile", fun v => v.optionalText?.map fun s o => { o with cookiesFile := s })]

section Reading

theorem toOption_readMillis_print {v : Json} {rest : List Char} (hfinite : v.Finite)
    (hrest : Ends rest) : (readMillis (v.print ++ rest)).toOption = (millis? v).map (·, rest) := by
  rw [readMillis, Json.toOption_bind, Json.toOption_readWord64_print hfinite hrest, millis?]
  cases v.below? UInt64.size <;> rfl

/-- The fields of the options make of their values what the table says. -/
theorem record_follows : record.Follows table := by
  have htext (v : Json) (rest : List Char) (hv : v.Finite) (hrest : Ends rest) :=
    Json.toOption_readString_print "a string" hv hrest
  have hmillis (v : Json) (rest : List Char) (hv : v.Finite) (hrest : Ends rest) :=
    toOption_readMillis_print hv hrest
  have hword (v : Json) (rest : List Char) (hv : v.Finite) (hrest : Ends rest) :=
    Json.toOption_readWord32_print hv hrest
  have htruth (v : Json) (rest : List Char) (hv : v.Finite) (hrest : Ends rest) :=
    Json.toOption_readTruth_print hv hrest
  have htext? (expected : String) (v : Json) (rest : List Char) (hv : v.Finite)
      (hrest : Ends rest) := Json.toOption_readOptional_print expected hv hrest
  exact
    .cons ⟨rfl, Field.follows_of htext⟩ <|
    .cons ⟨rfl, Field.follows_of hmillis⟩ <|
    .cons ⟨rfl, Field.follows_of hmillis⟩ <|
    .cons ⟨rfl, Field.follows_of hword⟩ <|
    .cons ⟨rfl, Field.follows_of hword⟩ <|
    .cons ⟨rfl, Field.follows_of htruth⟩ <|
    .cons ⟨rfl, Field.follows_of htruth⟩ <|
    .cons ⟨rfl, Field.follows_of htruth⟩ <|
    .cons ⟨rfl, Field.follows_of (htext? _)⟩ <|
    .cons ⟨rfl, Field.follows_of htruth⟩ <|
    .cons ⟨rfl, Field.follows_of (htext? _)⟩ <|
    .cons ⟨rfl, Field.follows_of (htext? _)⟩ <|
    .cons ⟨rfl, Field.follows_of (htext? _)⟩ <|
    .cons ⟨rfl, Field.follows_of (htext? _)⟩ .nil

end Reading

section Admissible

variable {key : String} {v : Json}

theorem exists_asText?_iff : (∃ s, v.asText? = some s) ↔ ∃ s, v = .str s := by
  constructor
  · rintro ⟨s, h⟩
    cases v with
    | str _ => exact ⟨_, rfl⟩
    | _ => cases h
  · rintro ⟨s, rfl⟩
    exact ⟨s, rfl⟩

theorem exists_asBool?_iff : (∃ b, v.asBool? = some b) ↔ ∃ b, v = .bool b := by
  constructor
  · rintro ⟨b, h⟩
    cases v with
    | bool _ => exact ⟨_, rfl⟩
    | _ => cases h
  · rintro ⟨b, rfl⟩
    exact ⟨b, rfl⟩

theorem exists_optionalText?_iff :
    (∃ s, v.optionalText? = some s) ↔ v = .null ∨ ∃ s, v = .str s := by
  constructor
  · rintro ⟨s, h⟩
    cases v with
    | null => exact .inl rfl
    | str _ => exact .inr ⟨_, rfl⟩
    | _ => cases h
  · rintro (rfl | ⟨s, rfl⟩)
    · exact ⟨none, rfl⟩
    · exact ⟨some s, rfl⟩

theorem asNat?_eq_some_iff {n : Nat} : v.asNat? = some n ↔ v = .nat n := by
  constructor
  · intro h
    cases v with
    | num number =>
      cases number with
      | float _ => cases h
      | int i =>
        cases i with
        | ofNat m =>
          cases h
          rfl
        | negSucc _ => cases h
    | _ => cases h
  · rintro rfl
    rfl

theorem exists_below?_iff {bound : Nat} :
    (∃ n, v.below? bound = some n) ↔ ∃ n < bound, v = .nat n := by
  simp only [Json.below?, Option.filter_eq_some_iff, asNat?_eq_some_iff, decide_eq_true_eq]
  exact exists_congr fun n => and_comm

theorem exists_map_iff {α β : Type} {x : Option α} {f : α → β} :
    (∃ b, x.map f = some b) ↔ ∃ a, x = some a := by
  cases x <;> simp

theorem exists_millis?_iff : (∃ d, millis? v = some d) ↔ ∃ n < 2 ^ 64, v = .nat n :=
  exists_map_iff.trans exists_below?_iff

theorem exists_word32?_iff : (∃ n, word32? v = some n) ↔ ∃ n < 2 ^ 32, v = .nat n :=
  exists_map_iff.trans exists_below?_iff

theorem mem_names_iff : key ∈ names ↔ (table.change? key).isSome = true := by
  rw [Table.change?, Option.isSome_map, List.find?_isSome]
  have hnames : names = table.map (·.1) := rfl
  simp [hnames, List.mem_map]

theorem known_eq (members : List (String × Json)) :
    table.known members = (members.map (·.1)).filter (· ∈ names) := by
  refine List.filter_congr fun key _ => ?_
  rw [Bool.eq_iff_iff, decide_eq_true_eq, mem_names_iff]

/-- A value is admissible exactly if the table admits it. -/
theorem admits_iff : Admits key v ↔ table.Admits key v := by
  have hknown {change : Json → Option (SessionOptions → SessionOptions)}
      (h : table.change? key = some change) : table.Admits key v ↔ ∃ put, change v = some put := by
    constructor
    · exact fun hadmits => hadmits change h
    · rintro hput other hother
      obtain rfl := Option.some.inj (h.symm.trans hother)
      exact hput
  unfold Admits
  split
  case h_15 =>
    have hunknown : key ∉ names := by
      simp only [names, List.mem_cons, List.not_mem_nil, or_false, not_or]
      and_intros <;> assumption
    refine (iff_true_intro fun change h => absurd ?_ hunknown).symm
    rw [mem_names_iff, h, Option.isSome_some]
  all_goals
    rw [hknown rfl]
    simp only [exists_map_iff, exists_asText?_iff, exists_asBool?_iff, exists_optionalText?_iff,
      exists_millis?_iff, exists_word32?_iff]

/-- Members describe options exactly if something is made of them. -/
theorem described_iff (o : SessionOptions) (members : List (String × Json)) :
    Described members ↔ ∃ o', table.overwrite [] o members = some o' := by
  have hadmits : (∀ member ∈ members, Admits member.1 member.2) ↔
      ∀ member ∈ members, table.Admits member.1 member.2 :=
    forall₂_congr fun member _ => admits_iff
  rw [Table.exists_overwrite_iff, known_eq, Described, hadmits]
  simp only [List.not_mem_nil, not_false_eq_true, implies_true, and_true]

end Admissible

section Overlay

variable {key other : String} {v : Json} {members : List (String × Json)} {o o' : SessionOptions}
  {α : Type} {view : Json → Option α}

theorem entry_cons_of_ne (h : other ≠ key) (default : α) :
    Json.entry key view default ((other, v) :: members) = Json.entry key view default members := by
  rw [Json.entry, Json.lookup, if_neg h, Json.entry]

theorem entry_cons_self {a : α} (h : view v = some a) (default : α) :
    Json.entry key view default ((key, v) :: members) = a := by
  rw [Json.entry, Json.lookup, if_pos rfl, Option.bind_some, h, Option.getD_some]

theorem lookup_of_not_mem (h : key ∉ members.map (·.1)) : Json.lookup key members = none := by
  induction members with
  | nil => rfl
  | cons member members ih =>
    rw [List.map_cons, List.mem_cons, not_or] at h
    rw [Json.lookup, if_neg (Ne.symm h.1)]
    exact ih h.2

theorem entry_of_not_mem (h : key ∉ members.map (·.1)) (default : α) :
    Json.entry key view default members = default := by
  rw [Json.entry, lookup_of_not_mem h]
  rfl

/-- Only the members of options matter, and of these the first ones. -/
theorem overlay_congr {members' : List (String × Json)}
    (h : ∀ name ∈ names, Json.lookup name members = Json.lookup name members') :
    o.overlay members = o.overlay members' := by
  simp only [names, List.forall_mem_cons, List.not_mem_nil, false_implies, implies_true,
    and_true] at h
  obtain ⟨h₁, h₂, h₃, h₄, h₅, h₆, h₇, h₈, h₉, h₁₀, h₁₁, h₁₂, h₁₃, h₁₄⟩ := h
  simp only [overlay, Json.entry, h₁, h₂, h₃, h₄, h₅, h₆, h₇, h₈, h₉, h₁₀, h₁₁, h₁₂, h₁₃, h₁₄]

theorem overlay_cons_of_none (h : table.change? key = none) :
    o.overlay ((key, v) :: members) = o.overlay members := by
  refine overlay_congr fun name hname => ?_
  have hne : key ≠ name := by
    rintro rfl
    rw [mem_names_iff, h] at hname
    cases hname
  rw [Json.lookup, if_neg hne]

/-- A member of an option changes this option. -/
theorem overlay_cons_of_some {change : Json → Option (SessionOptions → SessionOptions)}
    {put : SessionOptions → SessionOptions} (h : table.change? key = some change)
    (hput : change v = some put) (hnew : key ∉ members.map (·.1)) :
    o.overlay ((key, v) :: members) = (put o).overlay members := by
  obtain ⟨⟨name, change'⟩, hfind, rfl⟩ := Option.map_eq_some_iff.mp h
  have hname : name = key := by simpa using List.find?_some hfind
  have hmem := List.mem_of_find?_eq_some hfind
  subst hname
  simp only [table, List.mem_cons, List.not_mem_nil, or_false, Prod.mk.injEq] at hmem
  rcases hmem with ⟨rfl, rfl⟩ | ⟨rfl, rfl⟩ | ⟨rfl, rfl⟩ | ⟨rfl, rfl⟩ | ⟨rfl, rfl⟩ | ⟨rfl, rfl⟩ |
    ⟨rfl, rfl⟩ | ⟨rfl, rfl⟩ | ⟨rfl, rfl⟩ | ⟨rfl, rfl⟩ | ⟨rfl, rfl⟩ | ⟨rfl, rfl⟩ | ⟨rfl, rfl⟩ |
    ⟨rfl, rfl⟩
  all_goals
    obtain ⟨a, ha, rfl⟩ := Option.map_eq_some_iff.mp hput
    simp [overlay, entry_cons_of_ne, entry_cons_self ha, entry_of_not_mem hnew]

/-- What is made of the members of an object is the overlay. -/
theorem overlay_of_overwrite {seen : List String}
    (h : table.overwrite seen o members = some o') : o' = o.overlay members := by
  induction members generalizing seen o with
  | nil =>
    cases h
    rfl
  | cons member members ih =>
    obtain ⟨key, value⟩ := member
    rw [Table.overwrite] at h
    cases hchange : table.change? key with
    | none =>
      simp only [hchange] at h
      rw [ih h, overlay_cons_of_none hchange]
    | some change =>
      simp only [hchange] at h
      split at h
      · cases h
      · obtain ⟨put, hput, h⟩ := Option.bind_eq_some_iff.mp h
        -- the key that has been put is none of those that follow
        obtain ⟨⟨-, hseen⟩, -⟩ := (table.exists_overwrite_iff _ _ _).mp ⟨o', h⟩
        have hnew : key ∉ members.map (·.1) := by
          intro hmem
          have hknown : key ∈ table.known members := by
            rw [table.mem_known, hchange]
            exact ⟨hmem, rfl⟩
          exact hseen key hknown List.mem_cons_self
        rw [ih h, overlay_cons_of_some hchange hput hnew]

/-- Where a key stands among those of the members does not matter if it stands there once. -/
theorem lookup_perm {members' : List (String × Json)} (h : members.Perm members')
    (hcount : (members.map (·.1)).count key ≤ 1) :
    Json.lookup key members = Json.lookup key members' := by
  induction h with
  | nil => rfl
  | cons member h ih =>
    rw [List.map_cons, List.count_cons] at hcount
    rw [Json.lookup, Json.lookup, ih (by omega)]
  | swap first second members =>
    simp only [List.map_cons, List.count_cons] at hcount
    simp only [Json.lookup]
    by_cases hfirst : first.1 = key
    · by_cases hsecond : second.1 = key
      · simp [hfirst, hsecond] at hcount
      · simp only [if_pos hfirst, if_neg hsecond]
    · simp only [if_neg hfirst]
  | trans h _ ih ih' =>
    rw [ih hcount, ih']
    rwa [← (h.map (·.1)).count_eq]

theorem count_le_one_of_described (h : Described members) (hname : key ∈ names) :
    (members.map (·.1)).count key ≤ 1 := by
  have hcount := List.nodup_iff_count_le_one.mp h.1 key
  rwa [List.count_filter (by simpa using hname)] at hcount

theorem overlay_perm {members' : List (String × Json)} (hperm : members.Perm members')
    (h : Described members) : o.overlay members = o.overlay members' :=
  overlay_congr fun _ hname => lookup_perm hperm (count_le_one_of_described h hname)

theorem described_perm {members' : List (String × Json)} (h : members.Perm members') :
    Described members ↔ Described members' := by
  have hkeys := ((h.map (·.1)).filter (· ∈ names)).nodup_iff
  have hall : (∀ member ∈ members, Admits member.1 member.2) ↔
      ∀ member ∈ members', Admits member.1 member.2 :=
    forall_congr' fun member => imp_congr_left h.mem_iff
  rw [Described, Described, hkeys, hall]

end Overlay

section Objects

variable {members members' : List (String × Json)}

theorem toOption_ofJson (text : String) :
    (ofJson text).toOption = (record.parse {} text).toOption := by
  rw [ofJson]
  cases record.parse {} text <;> rfl

theorem toOption_ofJson_object (hfinite : ∀ member ∈ members, member.2.Finite) :
    (ofJson (Json.obj members).text).toOption = table.overwrite [] {} members := by
  rw [toOption_ofJson]
  exact record_follows.toOption_parse_object {} hfinite

theorem ofJson_of_described (hfinite : ∀ member ∈ members, member.2.Finite)
    (h : Described members) :
    ofJson (Json.obj members).text = .ok (overlay {} members) := by
  obtain ⟨o, ho⟩ := (described_iff {} members).mp h
  refine Json.eq_ok_of_toOption ?_
  rw [toOption_ofJson_object hfinite, ho, overlay_of_overwrite ho]

theorem ofJson_of_not_described (hfinite : ∀ member ∈ members, member.2.Finite)
    (h : ¬ Described members) :
    ∃ detail, ofJson (Json.obj members).text = .error (.invalidOptions detail) := by
  have hnone := toOption_ofJson_object hfinite
  cases hparse : record.parse {} (Json.obj members).text with
  | error fault =>
    refine ⟨fault.message (Json.obj members).text.toList, ?_⟩
    rw [ofJson, hparse]
  | ok o =>
    rw [toOption_ofJson, hparse] at hnone
    exact absurd ((described_iff {} members).mpr ⟨o, hnone.symm⟩) h

theorem ofJson_object_perm (hfinite : ∀ member ∈ members, member.2.Finite)
    (hperm : members'.Perm members) :
    (ofJson (Json.obj members').text).toOption = (ofJson (Json.obj members).text).toOption := by
  have hfinite' : ∀ member ∈ members', member.2.Finite := fun member hmem =>
    hfinite member (hperm.mem_iff.mp hmem)
  by_cases h : Described members
  · have h' := (described_perm hperm).mpr h
    rw [ofJson_of_described hfinite h, ofJson_of_described hfinite' h', overlay_perm hperm h']
  · obtain ⟨detail, hread⟩ := ofJson_of_not_described hfinite h
    obtain ⟨detail', hread'⟩ :=
      ofJson_of_not_described hfinite' fun h' => h ((described_perm hperm).mp h')
    rw [hread, hread']
    rfl

theorem ofJson_object_filter (hfinite : ∀ member ∈ members, member.2.Finite) :
    (ofJson (Json.obj (members.filter (·.1 ∈ names))).text).toOption
      = (ofJson (Json.obj members).text).toOption := by
  have hknown : members.filter (·.1 ∈ names)
      = members.filter fun member => (table.change? member.1).isSome := by
    refine List.filter_congr fun member _ => ?_
    rw [Bool.eq_iff_iff, decide_eq_true_eq, mem_names_iff]
  have hfinite' : ∀ member ∈ members.filter (·.1 ∈ names), member.2.Finite := fun member hmem =>
    hfinite member (List.mem_of_mem_filter hmem)
  rw [toOption_ofJson_object hfinite', toOption_ofJson_object hfinite, hknown,
    table.overwrite_filter]

/-- The text of an object is read as options exactly if its members describe options, and these are
then the default options overwritten by the members; otherwise it is refused. If no key is given
twice, it is only the values that matter. Neither the order of the members matters, nor which
members there are under other keys. -/
theorem ofJson_object (hfinite : ∀ member ∈ members, member.2.Finite) :
    (∀ o, ofJson (Json.obj members).text = .ok o ↔ Described members ∧ o = overlay {} members) ∧
    (¬ Described members →
      ∃ detail, ofJson (Json.obj members).text = .error (.invalidOptions detail)) ∧
    ((members.map (·.1)).Nodup →
      (Described members ↔ ∀ member ∈ members, Admits member.1 member.2)) ∧
    (∀ members', members'.Perm members → (ofJson (Json.obj members').text).toOption
      = (ofJson (Json.obj members).text).toOption) ∧
    (ofJson (Json.obj (members.filter (·.1 ∈ names))).text).toOption
      = (ofJson (Json.obj members).text).toOption := by
  refine ⟨fun o => ⟨fun hread => ?_, ?_⟩, ofJson_of_not_described hfinite, fun hkeys => ?_,
    fun members' hperm => ofJson_object_perm hfinite hperm, ofJson_object_filter hfinite⟩
  · by_cases h : Described members
    · rw [ofJson_of_described hfinite h] at hread
      exact ⟨h, (Except.ok.inj hread).symm⟩
    · obtain ⟨detail, herror⟩ := ofJson_of_not_described hfinite h
      rw [herror] at hread
      cases hread
  · rintro ⟨h, rfl⟩
    exact ofJson_of_described hfinite h
  · exact and_iff_right (hkeys.filter _)

/-- Two options among members with other keys, one of which is given twice. -/
theorem ofJson_object_mixed :
    ofJson (Json.obj [("extra", .arr [.obj [("depth", .null)], .num (.float 1.5)]),
        ("width", .nat 800), ("extra", .str "again"), ("proxy", .null),
        ("debug", .bool true)]).text
      = .ok { width := 800, debug := true } := by
  refine ((ofJson_object ?_).1 _).mpr ⟨⟨by decide, ?_⟩, rfl⟩
  · simp only [List.forall_mem_cons]
    exact ⟨trivial, trivial, trivial, trivial, trivial, List.forall_mem_nil _⟩
  · simp only [List.forall_mem_cons]
    exact ⟨trivial, ⟨800, by decide, rfl⟩, trivial, .inl rfl, ⟨true, rfl⟩, List.forall_mem_nil _⟩

end Objects

end SessionOptions

end PagePilot
