import Mathlib.Algebra.Group.Nat.Defs
import PagePilot.Options.Json
import PagePilot.Proofs.Json.Record

/-!
# Options that are written and read back

Options are written member by member, and what is read from the text are the same options, except
that their durations are counted in milliseconds by a word of 64 bits.

## Main definitions

- `Duration.received` - a duration after it has been written and read
- `SessionOptions.received` - options after they have been written and read

## Main statements

- `SessionOptions.ofJson_text` - what is read from the text of options
- `SessionOptions.ofJson_text_agrees` - it agrees with them in all but the parts of milliseconds
-/

namespace PagePilot

open Json (Ends Record)

/-- A duration after it has been written and read. -/
def Duration.received (d : Duration) : Duration := .ofMillis d.millisWord

theorem Duration.toNat_millisWord (d : Duration) :
    d.millisWord.toNat = d.nanos / 1000000 % 2 ^ 64 := UInt64.toNat_ofNat'

theorem Duration.nanos_received (d : Duration) :
    d.received.nanos = d.nanos / 1000000 % 2 ^ 64 * 1000000 := by
  rw [← toNat_millisWord]
  rfl

/-- What has been received is sent as it was sent before. -/
theorem Duration.millisWord_received (d : Duration) : d.received.millisWord = d.millisWord := by
  apply UInt64.toNat_inj.mp
  rw [toNat_millisWord, toNat_millisWord, nanos_received]
  omega

/-- A duration arrives unchanged if it is a number of whole milliseconds that fits the word. -/
theorem Duration.received_eq_self_iff (d : Duration) :
    d.received = d ↔ 1000000 ∣ d.nanos ∧ d.nanos / 1000000 < 2 ^ 64 := by
  have heq : d.received = d ↔ d.received.nanos = d.nanos := ⟨congrArg nanos, ext_nanos⟩
  rw [heq, nanos_received]
  omega

namespace SessionOptions

/-- Options after they have been written and read. -/
def received (o : SessionOptions) : SessionOptions :=
  { o with timeout := o.timeout.received, pollInterval := o.pollInterval.received }

/-- What the members of the options change, in their order. -/
def changes (o : SessionOptions) : List (SessionOptions → SessionOptions) :=
  [fun r => { r with baseUrl := o.baseUrl },
   fun r => { r with timeout := o.timeout.received },
   fun r => { r with pollInterval := o.pollInterval.received },
   fun r => { r with width := o.width },
   fun r => { r with height := o.height },
   fun r => { r with debug := o.debug },
   fun r => { r with loadImages := o.loadImages },
   fun r => { r with ignoreSslErrors := o.ignoreSslErrors },
   fun r => { r with sslProtocol := o.sslProtocol },
   fun r => { r with webSecurity := o.webSecurity },
   fun r => { r with proxy := o.proxy },
   fun r => { r with proxyType := o.proxyType },
   fun r => { r with proxyAuth := o.proxyAuth },
   fun r => { r with cookiesFile := o.cookiesFile }]

theorem readMillis_print (d : Duration) {rest : List Char} (hrest : Ends rest) :
    readMillis ((Json.nat d.millisWord.toNat).print ++ rest) = .ok (d.received, rest) := by
  rw [readMillis, Json.readWord64_print _ hrest]
  rfl

theorem readOptional_print (expected : String) (text? : Option String) (rest : List Char) :
    Json.readOptional (Json.readString expected) ((optionalText text?).print ++ rest)
      = .ok (text?, rest) := by
  cases text? with
  | none => rfl
  | some s => exact Json.readOptional_readString_print expected s rest

theorem readString_print (expected s : String) (rest : List Char) :
    Json.readString expected ((Json.str s).print ++ rest) = .ok (s, rest) := by
  simp only [Json.print, Json.printText, List.cons_append, List.append_assoc, List.nil_append]
  exact Json.readString_print expected s rest

theorem foldl_changes (o default : SessionOptions) :
    o.changes.foldl (fun r change => change r) default = o.received := rfl

/-- The members of the options have different keys, and all of them are taken. -/
theorem toJson_takes (o : SessionOptions) :
    ∃ members, o.toJson = .obj members ∧ (members.map (·.1)).Nodup ∧
      List.Forall₂ record.Takes members o.changes := by
  refine ⟨_, rfl, ?_, ?_⟩
  · simp only [List.map_cons, List.map_nil]
    decide
  · have htext (s : String) (rest : List Char) (_ : Ends rest) :=
      readString_print "a string" s rest
    have hmillis (d : Duration) (rest : List Char) (hrest : Ends rest) := readMillis_print d hrest
    have hword (n : UInt32) (rest : List Char) (hrest : Ends rest) := Json.readWord32_print n hrest
    have htruth (b : Bool) (rest : List Char) (_ : Ends rest) := Json.readTruth_print b rest
    have htext? (expected : String) (text? : Option String) (rest : List Char) (_ : Ends rest) :=
      readOptional_print expected text? rest
    exact
      .cons (Record.takes_of rfl (htext _) rfl) <|
      .cons (Record.takes_of rfl (hmillis _) rfl) <|
      .cons (Record.takes_of rfl (hmillis _) rfl) <|
      .cons (Record.takes_of rfl (hword _) rfl) <|
      .cons (Record.takes_of rfl (hword _) rfl) <|
      .cons (Record.takes_of rfl (htruth _) rfl) <|
      .cons (Record.takes_of rfl (htruth _) rfl) <|
      .cons (Record.takes_of rfl (htruth _) rfl) <|
      .cons (Record.takes_of rfl (htext? _ _) rfl) <|
      .cons (Record.takes_of rfl (htruth _) rfl) <|
      .cons (Record.takes_of rfl (htext? _ _) rfl) <|
      .cons (Record.takes_of rfl (htext? _ _) rfl) <|
      .cons (Record.takes_of rfl (htext? _ _) rfl) <|
      .cons (Record.takes_of rfl (htext? _ _) rfl) .nil

theorem ofJson_text (o : SessionOptions) : ofJson o.toJson.text = .ok o.received := by
  obtain ⟨members, hmembers, hkeys, htakes⟩ := o.toJson_takes
  rw [ofJson, hmembers, Record.parse_text htakes hkeys, foldl_changes]

theorem toJson_received (o : SessionOptions) : o.received.toJson = o.toJson := by
  simp only [toJson, received, Duration.millisWord_received]

theorem received_eq_self_iff (o : SessionOptions) :
    o.received = o ↔ o.timeout.received = o.timeout ∧ o.pollInterval.received = o.pollInterval := by
  constructor
  · intro h
    exact ⟨congrArg timeout h, congrArg pollInterval h⟩
  · rintro ⟨htimeout, hinterval⟩
    rw [received, htimeout, hinterval]

/-- Options that are written and read back agree with what they were in every entry but the two
durations, of which the whole milliseconds are left, as a word of 64 bits. So they are the same
exactly if both durations are whole milliseconds that fit the word; and they are written as
before. -/
theorem ofJson_text_agrees (o : SessionOptions) :
    ∃ o', ofJson o.toJson.text = .ok o' ∧
      o' = { o with timeout := o'.timeout, pollInterval := o'.pollInterval } ∧
      o'.timeout.nanos = o.timeout.nanos / 1000000 % 2 ^ 64 * 1000000 ∧
      o'.pollInterval.nanos = o.pollInterval.nanos / 1000000 % 2 ^ 64 * 1000000 ∧
      (o' = o ↔ (1000000 ∣ o.timeout.nanos ∧ o.timeout.nanos / 1000000 < 2 ^ 64) ∧
        (1000000 ∣ o.pollInterval.nanos ∧ o.pollInterval.nanos / 1000000 < 2 ^ 64)) ∧
      o'.toJson.text = o.toJson.text := by
  refine ⟨o.received, ofJson_text o, rfl, Duration.nanos_received _, Duration.nanos_received _,
    ?_, by rw [toJson_received]⟩
  rw [received_eq_self_iff, Duration.received_eq_self_iff, Duration.received_eq_self_iff]

end SessionOptions

end PagePilot
