import PagePilot.Chromium.Engine

/-!
# From options to the started browser

Options reach the browser as flags that are looked up by name. No flag is lost or taken for another
one on the way: the launch parameters determine the options that they are made of, and what the
browser is started with, and of what it warns, is said in terms of the options alone.

## Main definitions

- `SessionOptions.flagValues` - the flags of the options, each with its value if it has one
- `Chromium.switchesFor`, `Chromium.warningsFor` - the switches and warnings that options ask for

## Main statements

- `SessionOptions.flag?_launchParams` - every flag is found under its own name
- `SessionOptions.launchParams_eq_iff` - what the launch parameters determine
- `Chromium.launch_launchParams` - what the browser is started with
-/

namespace PagePilot

namespace LaunchParams

variable {width height : UInt32} {name : String} {value : Option String}
  {entries : List (String × Option String)}

/-- All flags that have a value. -/
def flagsOf (entries : List (String × Option String)) : List (String × String) :=
  entries.flatMap fun entry => optionalFlag entry.1 entry.2

theorem find?_flagsOf_of_not_mem (h : name ∉ entries.map (·.1)) :
    (flagsOf entries).find? (fun (key, _) => key == name) = none := by
  rw [List.find?_eq_none]
  rintro ⟨key, text⟩ hmem hkey
  obtain ⟨⟨other, value⟩, hentry, hflag⟩ := List.mem_flatMap.mp hmem
  cases value with
  | none => cases hflag
  | some text' =>
    obtain ⟨rfl, -⟩ := Prod.mk.inj (List.mem_singleton.mp hflag)
    exact h (List.mem_map.mpr ⟨_, hentry, by simpa using hkey⟩)

/-- Of flags with different names, each is found under its own. -/
theorem flag?_flagsOf (hnames : (entries.map (·.1)).Nodup) (hmem : (name, value) ∈ entries) :
    flag? ⟨width, height, flagsOf entries⟩ name = value := by
  induction entries with
  | nil => cases hmem
  | cons entry entries ih =>
    obtain ⟨key, value'⟩ := entry
    rw [List.map_cons, List.nodup_cons] at hnames
    rw [flag?, flagsOf, List.flatMap_cons, List.find?_append]
    rcases List.mem_cons.mp hmem with heq | hmem
    · obtain ⟨rfl, rfl⟩ := Prod.mk.inj heq
      have hrest := find?_flagsOf_of_not_mem hnames.1
      rw [flagsOf] at hrest
      rw [hrest]
      cases value <;> simp [optionalFlag]
    · have hne : ¬ key = name := by
        rintro rfl
        exact hnames.1 (List.mem_map.mpr ⟨_, hmem, rfl⟩)
      have hfirst : (optionalFlag key value').find? (fun (key, _) => key == name) = none := by
        cases value' <;> simp [optionalFlag, hne]
      rw [hfirst, Option.none_or]
      exact ih hnames.2 hmem

end LaunchParams

namespace SessionOptions

variable (o : SessionOptions)

/-- The flags of the options, in ascending order of their names, each with its value if it has
one. -/
def flagValues : List (String × Option String) :=
  [("cookies-file", o.cookiesFile),
   ("ignore-ssl-errors", some (toString o.ignoreSslErrors)),
   ("load-images", some (toString o.loadImages)),
   ("proxy", o.proxy),
   ("proxy-auth", o.proxyAuth),
   ("proxy-type", o.proxyType),
   ("ssl-protocol", o.sslProtocol),
   ("web-security", some (toString o.webSecurity))]

theorem launchParams_eq :
    o.launchParams = ⟨o.width, o.height, LaunchParams.flagsOf o.flagValues⟩ := by
  simp [launchParams, LaunchParams.flagsOf, flagValues, optionalFlag]

variable {o}

/-- Every flag is found under its own name, with its own value. -/
theorem flag?_launchParams {name : String} {value : Option String}
    (h : (name, value) ∈ o.flagValues) : o.launchParams.flag? name = value := by
  rw [launchParams_eq]
  refine LaunchParams.flag?_flagsOf ?_ h
  simp only [flagValues, List.map_cons, List.map_nil]
  decide

/-- A truth value that is passed as a text arrives. -/
theorem flagEnabled_launchParams {name : String} {b : Bool}
    (h : (name, some (toString b)) ∈ o.flagValues) (default : Bool) :
    o.launchParams.flagEnabled name default = b := by
  rw [LaunchParams.flagEnabled, flag?_launchParams h]
  cases b <;> rfl

/-- What the flags of the options are can be told from the launch parameters. -/
theorem flagValues_eq :
    o.flagValues = o.flagValues.map fun entry => (entry.1, o.launchParams.flag? entry.1) := by
  refine (List.map_id' o.flagValues).symm.trans (List.map_congr_left fun entry hmem => ?_)
  rw [flag?_launchParams hmem]

theorem toString_bool_inj {b b' : Bool} : toString b = toString b' ↔ b = b' := by
  cases b <;> cases b' <;> decide

/-- The launch parameters determine the size and all options of the engine, and nothing else. -/
theorem launchParams_eq_iff {o' : SessionOptions} : o.launchParams = o'.launchParams ↔
    o.width = o'.width ∧ o.height = o'.height ∧ o.loadImages = o'.loadImages ∧
      o.ignoreSslErrors = o'.ignoreSslErrors ∧ o.sslProtocol = o'.sslProtocol ∧
      o.webSecurity = o'.webSecurity ∧ o.proxy = o'.proxy ∧ o.proxyType = o'.proxyType ∧
      o.proxyAuth = o'.proxyAuth ∧ o.cookiesFile = o'.cookiesFile := by
  constructor
  · intro h
    have hflags : o.flagValues = o'.flagValues := by
      rw [flagValues_eq, flagValues_eq (o := o'), h]
      rfl
    simp only [flagValues, List.cons.injEq, Prod.mk.injEq, Option.some.injEq, toString_bool_inj,
      true_and, and_true] at hflags
    obtain ⟨hcookies, hssl, himages, hproxy, hauth, htype, hprotocol, hsecurity⟩ := hflags
    exact ⟨congrArg LaunchParams.width h, congrArg LaunchParams.height h, himages, hssl, hprotocol,
      hsecurity, hproxy, htype, hauth, hcookies⟩
  · rintro ⟨hwidth, hheight, himages, hssl, hprotocol, hsecurity, hproxy, htype, hauth, hcookies⟩
    simp only [launchParams, hwidth, hheight, himages, hssl, hprotocol, hsecurity, hproxy, htype,
      hauth, hcookies]

end SessionOptions

namespace Chromium

variable {τ ε : Type}

section Protocols

/-- The ways to write `any` in letters of either case. -/
def anySpellings : List String := ["any", "anY", "aNy", "aNY", "Any", "AnY", "ANy", "ANY"]

theorem toNat_toLower (c : Char) :
    c.toLower.toNat = if 65 ≤ c.toNat ∧ c.toNat ≤ 90 then c.toNat + 32 else c.toNat := by
  have hbounds : c.val ≥ 'A'.val ∧ c.val ≤ 'Z'.val ↔ 65 ≤ c.toNat ∧ c.toNat ≤ 90 := by
    rw [ge_iff_le, UInt32.le_iff_toNat_le, UInt32.le_iff_toNat_le]
    exact Iff.rfl
  by_cases h : 65 ≤ c.toNat ∧ c.toNat ≤ 90
  · rw [show c.toLower = _ from dif_pos (hbounds.mpr h), if_pos h]
    show (c.val + 32).toNat = c.toNat + 32
    rw [UInt32.toNat_add]
    show (c.toNat + 32) % 4294967296 = c.toNat + 32
    omega
  · rw [show c.toLower = c from dif_neg fun h' => h (hbounds.mp h'), if_neg h]

/-- Only a small letter and its capital become the small letter. -/
theorem toLower_eq_iff {c small capital : Char} (hcapital : 65 ≤ capital.toNat ∧ capital.toNat ≤ 90)
    (hsmall : small.toNat = capital.toNat + 32) :
    c.toLower = small ↔ c = small ∨ c = capital := by
  rw [← Char.toNat_inj, ← Char.toNat_inj, ← Char.toNat_inj, toNat_toLower]
  split <;> omega

theorem lowercase_eq_any_iff (protocol : String) :
    lowercase protocol = "any" ↔ protocol ∈ anySpellings := by
  have hlist : lowercase protocol = "any" ↔ protocol.toList.map Char.toLower = ['a', 'n', 'y'] := by
    rw [lowercase, ← String.toList_inj, String.toList_ofList]
    exact Iff.rfl
  rw [hlist]
  constructor
  · intro h
    obtain ⟨a, rest, hrest, ha, h⟩ := List.map_eq_cons_iff.mp h
    obtain ⟨n, rest, rfl, hn, h⟩ := List.map_eq_cons_iff.mp h
    obtain ⟨y, rest, rfl, hy, h⟩ := List.map_eq_cons_iff.mp h
    obtain rfl := List.map_eq_nil_iff.mp h
    have hprotocol : protocol = String.ofList [a, n, y] := by
      rw [← hrest, String.ofList_toList]
    subst hprotocol
    rw [@toLower_eq_iff a 'a' 'A' (by decide) rfl] at ha
    rw [@toLower_eq_iff n 'n' 'N' (by decide) rfl] at hn
    rw [@toLower_eq_iff y 'y' 'Y' (by decide) rfl] at hy
    rcases ha with rfl | rfl <;> rcases hn with rfl | rfl <;> rcases hy with rfl | rfl <;> decide
  · intro h
    have hall : ∀ spelling ∈ anySpellings,
        spelling.toList.map Char.toLower = ['a', 'n', 'y'] := by decide
    exact hall protocol h

end Protocols

/-- The switches that options ask for. -/
def switchesFor (o : SessionOptions) : List String :=
  (if o.loadImages then [] else ["--blink-settings=imagesEnabled=false"])
    ++ (if o.webSecurity then [] else ["--disable-web-security"])
    ++ (match o.sslProtocol with
        | some protocol =>
          if protocol ∈ anySpellings then [] else ["--ssl-version-min=" ++ lowercase protocol]
        | none => [])
    ++ (match o.proxy with
        | some proxy => ["--proxy-server=" ++ o.proxyType.getD "http" ++ "://" ++ proxy]
        | none => [])

/-- The warnings that options bring about. -/
def warningsFor (o : SessionOptions) : List LogRecord :=
  (if o.proxyAuth.isSome then
      [⟨.warn, "Launch parameter 'proxy-auth' is not supported by Chromium and is ignored"⟩]
    else [])
    ++ (if o.cookiesFile.isSome then
      [⟨.warn, "Launch parameter 'cookies-file' is not supported by Chromium and is ignored"⟩]
    else [])

/-- What the browser is started with for options. -/
def Options.settingsFor (options : Options) (o : SessionOptions) : LaunchSettings where
  args := switchesFor o
  headless := options.headless
  sandbox := options.sandbox
  windowSize := (o.width, o.height)
  ignoreCertificateErrors := o.ignoreSslErrors
  path := options.chromePath
  userDataDir := options.userDataDir
  idleTimeout := options.idleTimeout

section Launch

variable (o : SessionOptions)

theorem switches_launchParams : switches o.launchParams = switchesFor o := by
  have himages : o.launchParams.flagEnabled "load-images" true = o.loadImages :=
    SessionOptions.flagEnabled_launchParams (by simp [SessionOptions.flagValues]) true
  have hsecurity : o.launchParams.flagEnabled "web-security" true = o.webSecurity :=
    SessionOptions.flagEnabled_launchParams (by simp [SessionOptions.flagValues]) true
  have hprotocol : o.launchParams.flag? "ssl-protocol" = o.sslProtocol :=
    SessionOptions.flag?_launchParams (by simp [SessionOptions.flagValues])
  have hproxy : o.launchParams.flag? "proxy" = o.proxy :=
    SessionOptions.flag?_launchParams (by simp [SessionOptions.flagValues])
  have htype : o.launchParams.flag? "proxy-type" = o.proxyType :=
    SessionOptions.flag?_launchParams (by simp [SessionOptions.flagValues])
  simp only [switches, switchesFor, himages, hsecurity, hprotocol, hproxy, htype, protocolSwitch,
    lowercase_eq_any_iff]
  rfl

theorem settings_launchParams (options : Options) :
    options.settings o.launchParams = options.settingsFor o := by
  have herrors : o.launchParams.flagEnabled "ignore-ssl-errors" true = o.ignoreSslErrors :=
    SessionOptions.flagEnabled_launchParams (by simp [SessionOptions.flagValues]) true
  rw [Options.settings, Options.settingsFor, switches_launchParams, herrors]
  rfl

theorem run_forM_warn (text : String → String) (names : List String) (w : Hosted τ) :
    (names.forM fun name => (Host.warn (text name) : Host ε τ Unit)).run w
      = .ok () { w with records := w.records ++ names.map fun name => ⟨.warn, text name⟩ } := by
  induction names generalizing w with
  | nil =>
    rw [List.map_nil, List.append_nil]
    rfl
  | cons name names ih =>
    have hfirst : ((name :: names).forM fun name => (Host.warn (text name) : Host ε τ Unit)).run w
        = (names.forM fun name => (Host.warn (text name) : Host ε τ Unit)).run
          { w with records := w.records ++ [⟨.warn, text name⟩] } := rfl
    rw [hfirst, ih, List.map_cons, List.append_assoc, List.singleton_append]

theorem run_warnUnsupported (w : Hosted τ) :
    (warnUnsupported o.launchParams : Host ε τ Unit).run w
      = .ok () { w with records := w.records ++ warningsFor o } := by
  have hauth : o.launchParams.flag? "proxy-auth" = o.proxyAuth :=
    SessionOptions.flag?_launchParams (by simp [SessionOptions.flagValues])
  have hcookies : o.launchParams.flag? "cookies-file" = o.cookiesFile :=
    SessionOptions.flag?_launchParams (by simp [SessionOptions.flagValues])
  have hwarnings : ((unsupported o.launchParams).map fun name =>
      (⟨.warn, unsupportedWarning name⟩ : LogRecord)) = warningsFor o := by
    simp only [unsupported, List.filter_cons, hauth, hcookies, List.filter_nil, warningsFor]
    cases o.proxyAuth <;> cases o.cookiesFile <;> rfl
  rw [warnUnsupported, run_forM_warn, hwarnings]

/-- The launch parameters determine the size and the options of the engine. Started with them, the
browser is given exactly what the options ask for, and warns once of each option for which it has no
switch, before it starts. -/
theorem launch_launchParams (browser : Browser τ) (options : Options) :
    (∀ o' : SessionOptions, o.launchParams = o'.launchParams ↔
      o.width = o'.width ∧ o.height = o'.height ∧ o.loadImages = o'.loadImages ∧
        o.ignoreSslErrors = o'.ignoreSslErrors ∧ o.sslProtocol = o'.sslProtocol ∧
        o.webSecurity = o'.webSecurity ∧ o.proxy = o'.proxy ∧ o.proxyType = o'.proxyType ∧
        o.proxyAuth = o'.proxyAuth ∧ o.cookiesFile = o'.cookiesFile) ∧
    ∀ w, (launch browser options o.launchParams).run w =
      match (browser.start (options.settingsFor o)).run w.host with
      | .ok id host => .ok ⟨some id⟩ ⟨host, w.records ++ warningsFor o⟩
      | .error fault host =>
        .error (fault.map Failure.launchFailed) ⟨host, w.records ++ warningsFor o⟩ := by
  refine ⟨fun o' => SessionOptions.launchParams_eq_iff, fun w => ?_⟩
  rw [launch, EStateM.run_bind, run_warnUnsupported, settings_launchParams]
  show ((Host.lift Failure.launchFailed (browser.start (options.settingsFor o))) >>= fun id =>
    pure (Engine.mk (some id))).run ⟨w.host, w.records ++ warningsFor o⟩ = _
  rw [EStateM.run_bind]
  simp only [Host.lift, EStateM.run]
  cases browser.start (options.settingsFor o) w.host <;> rfl

end Launch

end Chromium

end PagePilot
