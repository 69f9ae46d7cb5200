import PagePilot.Chromium.Engine
import PagePilot.Proofs.Json.Record

/-!
# What an evaluation in Chromium comes to

The wrapper around a page function answers with the text of an object that holds a value or what
was thrown. Both come out of this text as they went in, whatever they look like; a value may even
be an object with the keys of the wrapper. Any other answer is a failure of the engine.

## Main definitions

- `Chromium.IsEvaluation` - the JSON texts of an evaluation
- `Chromium.ended` - a call with a given result

## Main statements

- `Chromium.evaluate_decodes` - what each answer of the browser comes to
- `Chromium.evaluate_of_deep_value` - a value that is nested as deep as a text may be is refused
-/

namespace PagePilot.Chromium

open Json (bind_eq_ok)
open Json.Grammar (Gap Lead Key Spelling Value)

section Grammar

/-- What was thrown: a text, or `null` if nothing was. -/
inductive Thrown : List Char → List Char → Prop
  | null {text rest : List Char} (hgap : Gap text ('n' :: 'u' :: 'l' :: 'l' :: rest)) :
      Thrown text rest
  | text {text front cs rest : List Char} (hgap : Gap text ('"' :: front))
      (hspelling : Spelling front cs rest) : Thrown text rest

theorem Thrown.behind {text front rest : List Char} (h : Thrown front rest)
    (hgap : Gap text front) : Thrown text rest := by
  cases h with
  | null hnull => exact .null (hgap.trans hnull)
  | text hquote hspelling => exact .text (hgap.trans hquote) hspelling

/-- The members of the wrapper's object, up to its closing brace. A value and what was thrown may
stand there once, in either order; `seen` has the keys of those that have come before. Members with
other keys may stand anywhere and hold anything. -/
inductive Members : (first : Bool) → (seen : List String) → List Char → List Char → Prop
  | close {first : Bool} {seen : List String} {text rest : List Char}
      (h : Gap text ('\x7d' :: rest)) : Members first seen text rest
  | value {first : Bool} {seen : List String} {text front item middle rest : List Char}
      (hlead : Lead first text ('"' :: front)) (hkey : Key "value" front item)
      (hseen : "value" ∉ seen) (hitem : Value item middle)
      (hmore : Members false ("value" :: seen) middle rest) : Members first seen text rest
  | error {first : Bool} {seen : List String} {text front item middle rest : List Char}
      (hlead : Lead first text ('"' :: front)) (hkey : Key "error" front item)
      (hseen : "error" ∉ seen) (hitem : Thrown item middle)
      (hmore : Members false ("error" :: seen) middle rest) : Members first seen text rest
  | other {first : Bool} {seen : List String} {key : String}
      {text front item middle rest : List Char} (hlead : Lead first text ('"' :: front))
      (hkey : Key key front item) (hother : key ≠ "value" ∧ key ≠ "error")
      (hitem : Value item middle) (hmore : Members false seen middle rest) :
      Members first seen text rest

/-- The text of an evaluation: an object with a value and what was thrown, each of which may be
missing, or a list of both. -/
inductive IsEvaluation : List Char → Prop
  | object {text front rest : List Char} (hbrace : Gap text ('\x7b' :: front))
      (hmembers : Members true [] front rest) (hend : Gap rest []) : IsEvaluation text
  | list {text value comma error bracket rest : List Char} (hbracket : Gap text ('[' :: value))
      (hvalue : Value value comma) (hcomma : Gap comma (',' :: error))
      (herror : Thrown error bracket) (hclose : Gap bracket (']' :: rest)) (hend : Gap rest []) :
      IsEvaluation text

end Grammar

section Refusal

variable {text rest : List Char}

theorem thrown_of_readOptional {thrown : Option String}
    (h : Json.readOptional (Json.readString "a string") text = .ok (thrown, rest)) :
    Thrown text rest := by
  have hgap := Json.Grammar.gap_skipSpace text
  rw [Json.readOptional] at h
  split at h
  · next hnull =>
    obtain ⟨unread, hletters, h⟩ := bind_eq_ok h
    cases h
    rw [hnull, Json.Grammar.letters_of_readLetters hletters] at hgap
    exact .null hgap
  · obtain ⟨⟨s, unread⟩, hread, h⟩ := bind_eq_ok h
    cases h
    obtain ⟨front, hfront, hspelling⟩ := Json.spelling_of_readString hread
    exact .text (hgap.trans hfront) hspelling

theorem field?_value : Evaluation.record.field? "value"
    = some (.of "value" (Json.readValue (Json.deepest - 1)) fun v e => { e with value := v }) := rfl

theorem field?_error : Evaluation.record.field? "error"
    = some (.of "error" (Json.readOptional (Json.readString "a string"))
        (fun v e => { e with error := v }) false) := rfl

theorem field?_other {key : String} (h : key ≠ "value" ∧ key ≠ "error") :
    Evaluation.record.field? key = none := by
  simp [Evaluation.record, Json.Record.field?, Json.Field.of, h.1.symm, h.2.symm]

theorem members_of_readMembers {fuel : Nat} {first : Bool} {seen : List String} {e e' : Evaluation}
    (h : Evaluation.record.readMembers fuel first seen e text = .ok (e', rest)) :
    Members first seen text rest := by
  induction fuel generalizing first seen e text with
  | zero => cases h
  | succ fuel ih =>
    obtain ⟨hclose, -⟩ | ⟨key, front, item, middle, hlead, hkey, hmember⟩ :=
      Json.Record.readMembers_cases h
    · exact .close hclose
    -- what must stand behind the colon depends on the key
    by_cases hvalue : key = "value"
    · subst hvalue
      obtain ⟨hunknown, -⟩ | ⟨field, put, hfield, hseen, hread, hmore⟩ := hmember
      · cases hunknown
      · cases hfield
        obtain ⟨value, hread⟩ := Json.Field.read_of hread
        exact .value hlead hkey hseen (Json.Grammar.value_of_readValue hread) (ih hmore)
    by_cases herror : key = "error"
    · subst herror
      obtain ⟨hunknown, -⟩ | ⟨field, put, hfield, hseen, hread, hmore⟩ := hmember
      · cases hunknown
      · cases hfield
        obtain ⟨thrown, hread⟩ := Json.Field.read_of hread
        exact .error hlead hkey hseen (thrown_of_readOptional hread) (ih hmore)
    · obtain ⟨-, hitem, hmore⟩ | ⟨field, put, hfield, -⟩ := hmember
      · exact .other hlead hkey ⟨hvalue, herror⟩ hitem (ih hmore)
      · rw [field?_other ⟨hvalue, herror⟩] at hfield
        cases hfield

theorem isEvaluation_of_parse {text : String} {e : Evaluation}
    (h : Evaluation.record.parse {} text = .ok e) : IsEvaluation text.toList := by
  obtain ⟨⟨e, rest⟩, hread, hfinish⟩ := bind_eq_ok h
  have hend := Json.gap_of_finish hfinish
  have hgap := Json.Grammar.gap_skipSpace text.toList
  unfold Json.Record.read at hread
  split at hread
  · next hbrace =>
    rw [hbrace] at hgap
    exact .object hgap (members_of_readMembers hread) hend
  · next hbracket =>
    rw [hbracket] at hgap
    -- what was thrown has no default, so that neither value of the list may be missing
    obtain ⟨value, put, comma, hlead, hvalue, hread⟩ := Json.Record.readValues_cases rfl hread
    obtain ⟨v, hvalue⟩ := Json.Field.read_of hvalue
    obtain ⟨error, put, bracket, ⟨behind, hcomma, hspace⟩, herror, hread⟩ :=
      Json.Record.readValues_cases rfl hread
    obtain ⟨thrown, herror⟩ := Json.Field.read_of herror
    exact .list hgap (.space hlead (Json.Grammar.value_of_readValue hvalue)) hcomma
      ((thrown_of_readOptional herror).behind hspace) (Json.Record.gap_of_readListEnd hread) hend
  · exact (Json.refuse_ne_ok hread).elim

end Refusal

section Decoding

/-- A printed value comes out of its envelope if the two together are nested no deeper than a text
may be. -/
theorem toOption_parse_value {v : Json} (h : v.Integral) :
    (Evaluation.record.parse {} (Json.obj [("value", v)]).text).toOption
      = if v.nesting ≤ 126 then some { value := v.ordered } else none := by
  have hends : Json.Ends ['\x7d'] := ⟨rfl, by decide, by decide, by decide⟩
  have hvalue := Json.toOption_readValue_print v h 126 ['\x7d'] hends
  exact Json.Record.toOption_parse_singleton field?_value {} (Json.Field.toOption_read_of hvalue)

theorem toOption_parse_error (s : String) :
    (Evaluation.record.parse {} (Json.obj [("error", .str s)]).text).toOption
      = some { error := some s } := by
  have htext := Json.readOptional_readString_print "a string" s ['\x7d']
  have hthrown : (Json.readOptional (Json.readString "a string")
      ((Json.str s).print ++ ['\x7d'])).toOption
        = if True then some (some s, ['\x7d']) else none := by
    rw [htext, if_pos trivial]
    rfl
  rw [Json.Record.toOption_parse_singleton field?_error {} (Json.Field.toOption_read_of hthrown),
    if_pos trivial]

theorem decodeText_of_refused {text : String}
    (h : (Evaluation.record.parse {} text).toOption = none) :
    ∃ detail, decodeText text = .error (.engine detail) := by
  unfold decodeText
  split
  · exact ⟨_, rfl⟩
  · next hparse =>
    rw [hparse] at h
    cases h
  · next hparse =>
    rw [hparse] at h
    cases h

theorem decodeText_of_value {text : String} {v : Json}
    (h : (Evaluation.record.parse {} text).toOption = some { value := v }) :
    decodeText text = .ok v := by
  rw [decodeText, Json.eq_ok_of_toOption h]

theorem decodeText_of_error {text s : String}
    (h : (Evaluation.record.parse {} text).toOption = some { error := some s }) :
    decodeText text = .error (.engine s) := by
  rw [decodeText, Json.eq_ok_of_toOption h]

theorem decodeText_value {v : Json} (h : v.Integral) (hdepth : v.nesting ≤ 126) :
    decodeText (Json.obj [("value", v)]).text = .ok v.ordered := by
  refine decodeText_of_value ?_
  rw [toOption_parse_value h, if_pos hdepth]

theorem decodeText_deep_value {v : Json} (h : v.Integral) (hdepth : 126 < v.nesting) :
    ∃ detail, decodeText (Json.obj [("value", v)]).text = .error (.engine detail) := by
  refine decodeText_of_refused ?_
  rw [toOption_parse_value h, if_neg (Nat.not_le_of_lt hdepth)]

theorem decodeText_empty : decodeText "\x7b\x7d" = .ok .null :=
  rfl

theorem decodeText_of_not_isEvaluation {text : String} (h : ¬ IsEvaluation text.toList) :
    ∃ detail, decodeText text = .error (.engine detail) := by
  refine decodeText_of_refused ?_
  cases hparse : Evaluation.record.parse {} text with
  | error fault => rfl
  | ok e => exact (h (isEvaluation_of_parse hparse)).elim

/-- Whatever is wrong with an answer, it is the engine that has failed. -/
theorem engine_of_decodeAnswer {answer : Option Json} {failure : Failure}
    (h : decodeAnswer answer = .error failure) : ∃ detail, failure = .engine detail := by
  unfold decodeAnswer at h
  split at h
  · cases h
    exact ⟨_, rfl⟩
  · unfold decodeText at h
    split at h
    · cases h
      exact ⟨_, rfl⟩
    · cases h
      exact ⟨_, rfl⟩
    · cases h
  · cases h
    exact ⟨_, rfl⟩

theorem decodeAnswer_of_not_isEvaluation {answer : Option Json}
    (h : ∀ text : String, answer = some (.str text) → ¬ IsEvaluation text.toList) :
    ∃ detail, decodeAnswer answer = .error (.engine detail) := by
  unfold decodeAnswer
  split
  · exact ⟨_, rfl⟩
  · next text => exact decodeText_of_not_isEvaluation (h text rfl)
  · exact ⟨_, rfl⟩

end Decoding

section Calls

variable {τ : Type}

/-- How a call ends that has a result and leaves the outside as `w`. -/
def ended {α : Type} (result : Except Failure α) (w : Hosted τ) :
    EStateM.Result (Fault Failure) (Hosted τ) α :=
  match result with
  | .ok a => .ok a w
  | .error failure => .error (.failed failure) w

/-- A call to the page is one to its tab, or fails if there is none. -/
theorem run_call (browser : Browser τ) (options : Options) (now : τ → Duration × τ)
    (sleep : Duration → Op τ Unit) (call : PageCall) (w : Hosted (Machine τ)) :
    ((environment browser options now sleep).call call).run w
      = match w.host.page with
        | none => .error (.failed (.engine "page is not available")) w
        | some tab => (onInner (perform browser tab call)).run w := by
  simp only [environment]
  rw [EStateM.run_bind, EStateM.run_get]
  simp only [EStateM.run]
  cases w.host.page <;> rfl

/-- An evaluation comes to what the browser's answer says. -/
theorem run_evaluate (browser : Browser τ) (tab : TabId) (function : String) (args : List Json)
    {w : Hosted τ} {host : τ} {answer : Option Json}
    (h : (browser.evaluate tab (evaluationScript function args)).run w.host = .ok answer host) :
    (evaluate browser tab function args).run w = ended (decodeAnswer answer) ⟨host, w.records⟩ := by
  have hlift : (Host.lift Failure.engine
      (browser.evaluate tab (evaluationScript function args))).run w
        = .ok answer ⟨host, w.records⟩ := by
    simp only [Host.lift, EStateM.run] at h ⊢
    rw [h]
  rw [evaluate, EStateM.run_bind, hlift]
  simp only [ended]
  split <;> next hdecoded => rw [hdecoded]; rfl

/-- Every answer of the browser to the wrapper comes to what it says. A value comes out as it went
in, with the members of its objects in order, unless it is nested so deep that there is no level
left for the wrapper; so does what was thrown; an answer that is not the text of an evaluation is a
failure of the engine, as is whatever else goes wrong. -/
theorem evaluate_decodes (browser : Browser τ) (tab : TabId) (function : String) (args : List Json)
    (w : Hosted τ) {host : τ} {answer : Option Json}
    (hanswer : (browser.evaluate tab (evaluationScript function args)).run w.host
      = .ok answer host) :
    ∃ result, (evaluate browser tab function args).run w = ended result ⟨host, w.records⟩ ∧
      (∀ v : Json, v.Integral → answer = some (.str (Json.obj [("value", v)]).text) →
        (v.Ascending → v.ordered = v) ∧ (v.nesting ≤ 126 → result = .ok v.ordered) ∧
          (126 < v.nesting → ∃ detail, result = .error (.engine detail))) ∧
      (∀ s : String, answer = some (.str (Json.obj [("error", .str s)]).text) →
        result = .error (.engine s)) ∧
      (answer = some (.str "\x7b\x7d") → result = .ok .null) ∧
      ((∀ text : String, answer = some (.str text) → ¬ IsEvaluation text.toList) →
        ∃ detail, result = .error (.engine detail)) ∧
      ∀ failure, result = .error failure → ∃ detail, failure = .engine detail := by
  refine ⟨decodeAnswer answer, run_evaluate browser tab function args hanswer, ?_, ?_, ?_,
    decodeAnswer_of_not_isEvaluation, fun failure h => engine_of_decodeAnswer h⟩
  · rintro v hv rfl
    exact ⟨Json.ordered_eq_self v, decodeText_value hv, decodeText_deep_value hv⟩
  · rintro s rfl
    exact decodeText_of_error (toOption_parse_error s)
  · rintro rfl
    exact decodeText_empty

/-- A browser that does nothing and gives every evaluation the same answer. -/
def Browser.answering (answer : Option Json) : Browser Unit where
  start _ := pure 0
  newTab _ := pure 0
  tabs _ := pure []
  release _ := pure ()
  navigateTo _ _ := pure ()
  waitUntilNavigated _ := pure ()
  setBounds _ _ _ := pure ()
  clickPoint _ _ _ := pure ()
  close _ := pure ()
  evaluate _ _ := pure answer
  captureScreenshot _ := pure ""
  writeFile _ _ := pure ()

/-- A value that has the keys of the wrapper. -/
def lookalike : Json := .obj [("error", .str "none"), ("value", .null)]

theorem evaluate_decodes_lookalike :
    (evaluate (Browser.answering (some (.str (Json.obj [("value", lookalike)]).text))) 0
      "function () \x7b return page; \x7d" []).run ⟨(), []⟩ = .ok lookalike ⟨(), []⟩ := by
  obtain ⟨result, hrun, hvalue, -⟩ := evaluate_decodes
    (Browser.answering (some (.str (Json.obj [("value", lookalike)]).text))) 0
    "function () \x7b return page; \x7d" [] ⟨(), []⟩ rfl
  obtain ⟨hordered, hresult, -⟩ := hvalue lookalike ⟨trivial, trivial, trivial⟩ rfl
  rw [hrun, hresult (by decide), hordered ⟨by decide, trivial, trivial, trivial⟩]
  rfl

/-- An empty list inside of `n` lists. -/
def boxed : Nat → Json
  | 0 => .arr []
  | n + 1 => .arr [boxed n]

theorem integral_boxed (n : Nat) : (boxed n).Integral := by
  induction n with
  | zero => trivial
  | succ n ih => exact ⟨ih, trivial⟩

theorem nesting_boxed (n : Nat) : (boxed n).nesting = n + 1 := by
  induction n with
  | zero => rfl
  | succ n ih => simp [boxed, Json.nesting, Json.nestingItems, ih]

theorem ascending_boxed (n : Nat) : (boxed n).Ascending := by
  induction n with
  | zero => trivial
  | succ n ih => exact ⟨ih, trivial⟩

/-- A value nested as deep as a text may be can be read by itself but not out of the wrapper. -/
theorem evaluate_of_deep_value :
    (boxed 126).Integral ∧ (boxed 126).nesting = 127 ∧
      (Json.parse (boxed 126).text).toOption = some (boxed 126) ∧
      ∃ detail, (evaluate (Browser.answering (some (.str (Json.obj [("value", boxed 126)]).text))) 0
        "function () \x7b return page; \x7d" []).run ⟨(), []⟩
          = .error (.failed (.engine detail)) ⟨(), []⟩ := by
  have hnesting := nesting_boxed 126
  refine ⟨integral_boxed 126, hnesting, ?_, ?_⟩
  · rw [Json.toOption_parse_text (integral_boxed 126), hnesting,
      Json.ordered_eq_self _ (ascending_boxed 126)]
    rfl
  · have hdepth : 126 < (boxed 126).nesting := by
      rw [hnesting]
      decide
    obtain ⟨detail, hdetail⟩ := decodeText_deep_value (integral_boxed 126) hdepth
    refine ⟨detail, ?_⟩
    rw [run_evaluate (Browser.answering _) 0 _ [] rfl, decodeAnswer, hdetail]
    rfl

end Calls

end PagePilot.Chromium
