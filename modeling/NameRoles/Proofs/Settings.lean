import Mathlib.Data.List.Induction
import Mathlib.Data.Nat.Digits.Defs
import NameRoles.CommandLine.Run

/-!
# How settings are read

`Settings.Variable` says of a variable which texts mean something, and what fault another text is.
A reader of a variable does just this (`Settings.Variable.Reads`): it finds nothing where the
variable is absent or blank, else what the text means or the fault. From the four readers follows
what settings are read as a whole, and which fault is the first (`settings_are_read_or_blamed`).
-/

namespace NameRoles

open Text

/-! ## Whole numbers -/

/-- ASCII digits, one at least, that denote a number. -/
structure IsNumeral (digits : List Char) (n : Nat) : Prop where
  ne_nil : digits ≠ []
  isDigit : ∀ c ∈ digits, c.isDigit = true
  value_eq : n = Nat.ofDigits 10 (digits.reverse.map fun c => c.toNat - '0'.toNat)

/-- A text denotes a number below a bound: digits between blanks, with or without a plus sign. -/
def DenotesBelow (bound : Nat) (raw : String) (n : Nat) : Prop :=
  n < bound ∧ ∃ digits, IsNumeral digits n ∧
    ((trim raw).toList = digits ∨ (trim raw).toList = '+' :: digits)

variable {bound n : Nat} {cs digits : List Char} {raw : String}

theorem decimalNumber_eq_ofDigits (digits : List Char) : decimalNumber digits =
    Nat.ofDigits 10 (digits.reverse.map fun c => c.toNat - '0'.toNat) := by
  induction digits using List.reverseRecOn with
  | nil => rfl
  | append_singleton digits c ih =>
    rw [List.reverse_concat, List.map_cons, Nat.ofDigits_cons, ← ih]
    simp [decimalNumber, Nat.add_comm]

@[grind =] theorem isNumeral_iff : IsNumeral digits n ↔
    digits ≠ [] ∧ (∀ c ∈ digits, c.isDigit = true) ∧ n = decimalNumber digits := by
  rw [decimalNumber_eq_ofDigits]
  constructor
  · rintro ⟨hne, hdigits, hvalue⟩
    exact ⟨hne, hdigits, hvalue⟩
  · rintro ⟨hne, hdigits, hvalue⟩
    exact ⟨hne, hdigits, hvalue⟩

/-- However many digits a text has, it is a number below the bound if it denotes one. -/
theorem wholeNumber?_of_head?_ne (h : cs.head? ≠ some '+') :
    wholeNumber? bound cs = some n ↔ n < bound ∧ IsNumeral cs n := by
  unfold wholeNumber?
  split
  next => simp at h
  next => grind

theorem wholeNumber?_plus :
    wholeNumber? bound ('+' :: digits) = some n ↔ n < bound ∧ IsNumeral digits n := by
  unfold wholeNumber?
  grind

theorem wholeNumber?_eq_some_iff : wholeNumber? bound cs = some n ↔
    n < bound ∧ ∃ digits, IsNumeral digits n ∧ (cs = digits ∨ cs = '+' :: digits) := by
  by_cases h : cs.head? = some '+'
  · obtain ⟨digits, rfl⟩ := List.head?_eq_some_iff.mp h
    have hsign : ¬ IsNumeral ('+' :: digits) n := fun hnumeral => by
      simpa using hnumeral.isDigit '+' List.mem_cons_self
    rw [wholeNumber?_plus]
    grind
  · rw [wholeNumber?_of_head?_ne h]
    grind

theorem denotesBelow_iff :
    DenotesBelow bound raw n ↔ wholeNumber? bound (trim raw).toList = some n :=
  wholeNumber?_eq_some_iff.symm

namespace Settings

/-! ## Single variables -/

/-- The variable has a value that is not blank. -/
structure Given (lookup : Lookup) (key raw : String) : Prop where
  value_eq : lookup key = some raw
  solid : ∃ c ∈ raw.toList, isBlank c = false

variable {lookup : Lookup} {key raw : String}

theorem given?_eq_some_iff : given? lookup key = some raw ↔ Given lookup key raw := by
  simp only [given?, isAllBlank, Option.filter_eq_some_iff]
  constructor
  · rintro ⟨hvalue, hsolid⟩
    exact ⟨hvalue, by simpa using hsolid⟩
  · rintro ⟨hvalue, hsolid⟩
    exact ⟨hvalue, by simpa using hsolid⟩

theorem Given.raw_unique {other : String} (h : Given lookup key raw)
    (hother : Given lookup key other) : other = raw :=
  Option.some.inj (hother.value_eq.symm.trans h.value_eq)

/-- A variable, what its texts mean, and which fault a text is that means nothing. -/
structure Variable (α : Type) where
  key : String
  Means : String → α → Prop
  Refuses : String → SettingsFault → Prop

namespace Variable

/-- The path of the rule file, which is taken as it is. -/
def rulesFile : Variable String where
  key := "ROLEMATCH_RULES_FILE"
  Means raw path := path = raw
  Refuses _ _ := False

/-- The URL of the server. -/
def serverUrl : Variable Url where
  key := "ROLEMATCH_SERVER_URL"
  Means raw url := Url.parse (trim raw) = .ok url
  Refuses raw fault := ∃ cause, Url.parse (trim raw) = .error cause ∧
    fault = .badUrl "ROLEMATCH_SERVER_URL" cause ∧
    fault.message = "ROLEMATCH_SERVER_URL" ++ " is not a valid URL: " ++ cause.message

/-- A whole number below a bound. -/
def number (bound : Nat) (kind : String) (fault : String → SettingsFault) (key : String) :
    Variable Nat where
  key := key
  Means := DenotesBelow bound
  Refuses raw other := other = fault raw ∧
    other.message = key ++ " must be " ++ kind ++ ", got '" ++ raw ++ "'"

def seconds (key : String) : Variable Nat :=
  number (2 ^ 64) "whole seconds" (.badSeconds key) key

def cacheTimeToLive : Variable Nat := seconds "ROLEMATCH_CACHE_TTL_SECS"

def httpTimeout : Variable Nat := seconds "ROLEMATCH_HTTP_TIMEOUT_SECS"

def port : Variable Nat :=
  number (2 ^ 16) "a port number" (.badPort "ROLEMATCH_PORT") "ROLEMATCH_PORT"

variable {α : Type} {v : Variable α} {a : α} {fault : SettingsFault}

/-- What is found of a variable: nothing where it is absent or blank, else what its text means. -/
inductive Found (v : Variable α) (lookup : Lookup) : Option α → Prop where
  | absent (h : ∀ raw, ¬ Given lookup v.key raw) : Found v lookup none
  | given {raw : String} {a : α} (h : Given lookup v.key raw) (hmeans : v.Means raw a) :
      Found v lookup (some a)

/-- The variable is absent or blank, or its text means something. -/
def Fits (v : Variable α) (lookup : Lookup) : Prop :=
  ∀ raw, Given lookup v.key raw → ∃ a, v.Means raw a

/-- The fault of a variable whose text means nothing. -/
def AtFault (v : Variable α) (lookup : Lookup) (fault : SettingsFault) : Prop :=
  ∃ raw, Given lookup v.key raw ∧ (∀ a, ¬ v.Means raw a) ∧ v.Refuses raw fault

/-- What is read of a variable is what is to be found of it, or its fault. -/
structure Reads (v : Variable α) (lookup : Lookup) (read : Except SettingsFault (Option α)) :
    Prop where
  ok_iff : ∀ found, read = .ok found ↔ v.Found lookup found
  error_iff : ∀ fault, read = .error fault ↔ v.AtFault lookup fault

theorem fits_iff : v.Fits lookup ↔ ∃ found, v.Found lookup found := by
  constructor
  · intro hfits
    by_cases hgiven : ∃ raw, Given lookup v.key raw
    · obtain ⟨raw, hraw⟩ := hgiven
      obtain ⟨a, ha⟩ := hfits raw hraw
      exact ⟨some a, .given hraw ha⟩
    · exact ⟨none, .absent (not_exists.mp hgiven)⟩
  · rintro ⟨found, hfound⟩ raw hraw
    cases hfound with
    | absent h => exact absurd hraw (h raw)
    | given h hmeans => exact ⟨_, h.raw_unique hraw ▸ hmeans⟩

theorem Reads.fits_iff {read : Except SettingsFault (Option α)} (h : v.Reads lookup read) :
    v.Fits lookup ↔ ∃ found, read = .ok found := by
  simp only [h.ok_iff, Variable.fits_iff]

theorem reads_of_absent (h : given? lookup v.key = none) : v.Reads lookup (.ok none) := by
  have habsent : ∀ raw, ¬ Given lookup v.key raw := by
    intro raw hraw
    simp [given?_eq_some_iff.mpr hraw] at h
  refine ⟨fun found => ⟨?_, fun hfound => ?_⟩, fun fault => ⟨nofun, ?_⟩⟩
  · rintro ⟨⟩
    exact .absent habsent
  · cases hfound with
    | absent => rfl
    | given hraw => exact absurd hraw (habsent _)
  · rintro ⟨raw, hraw, -⟩
    exact absurd hraw (habsent raw)

theorem reads_of_means (h : given? lookup v.key = some raw) (hmeans : ∀ b, v.Means raw b ↔ b = a) :
    v.Reads lookup (.ok (some a)) := by
  have hraw := given?_eq_some_iff.mp h
  refine ⟨fun found => ⟨?_, fun hfound => ?_⟩, fun fault => ⟨nofun, ?_⟩⟩
  · rintro ⟨⟩
    exact .given hraw ((hmeans a).mpr rfl)
  · cases hfound with
    | absent habsent => exact absurd hraw (habsent raw)
    | given hother hb =>
      obtain rfl := hraw.raw_unique hother
      rw [(hmeans _).mp hb]
  · rintro ⟨other, hother, hbad, -⟩
    obtain rfl := hraw.raw_unique hother
    exact absurd ((hmeans a).mpr rfl) (hbad a)

theorem reads_of_refuses (h : given? lookup v.key = some raw) (hbad : ∀ a, ¬ v.Means raw a)
    (hfault : ∀ other, v.Refuses raw other ↔ other = fault) :
    v.Reads lookup (.error fault) := by
  have hraw := given?_eq_some_iff.mp h
  refine ⟨fun found => ⟨nofun, fun hfound => ?_⟩, fun fault => ⟨?_, ?_⟩⟩
  · cases hfound with
    | absent habsent => exact absurd hraw (habsent raw)
    | given hother hmeans => exact absurd (hraw.raw_unique hother ▸ hmeans) (hbad _)
  · rintro ⟨⟩
    exact ⟨raw, hraw, hbad, (hfault _).mpr rfl⟩
  · rintro ⟨other, hother, -, hrefuses⟩
    obtain rfl := hraw.raw_unique hother
    rw [(hfault _).mp hrefuses]

theorem reads_readUrl (lookup : Lookup) : serverUrl.Reads lookup (readUrl lookup) := by
  unfold readUrl
  split
  next h => exact reads_of_absent h
  next raw h =>
    split
    next url hparse => exact reads_of_means h (by simp [serverUrl, hparse, eq_comm])
    next cause hparse =>
      refine reads_of_refuses h (by simp [serverUrl, hparse]) fun other => ⟨?_, ?_⟩
      · rintro ⟨found, hfound, rfl, -⟩
        rw [Except.error.inj (hfound.symm.trans hparse)]
        rfl
      · rintro rfl
        exact ⟨cause, hparse, rfl, rfl⟩

theorem reads_readNumber {bound : Nat} {kind key : String} {blame : String → SettingsFault}
    (hmessage : ∀ raw, (blame raw).message = key ++ " must be " ++ kind ++ ", got '" ++ raw ++ "'")
    (lookup : Lookup) :
    (number bound kind blame key).Reads lookup (readNumber bound blame lookup key) := by
  unfold readNumber
  split
  next h => exact reads_of_absent h
  next raw h =>
    split
    next n hn => exact reads_of_means h (by simp [number, denotesBelow_iff, hn, eq_comm])
    next hnone =>
      refine reads_of_refuses h (by simp [number, denotesBelow_iff, hnone]) fun other => ⟨?_, ?_⟩
      · exact And.left
      · rintro rfl
        exact ⟨rfl, hmessage raw⟩

theorem reads_readSeconds (lookup : Lookup) (key : String) :
    (seconds key).Reads lookup (readSeconds lookup key) := by
  have htext : " must be whole seconds, got '" = " must be " ++ "whole seconds" ++ ", got '" := by
    decide
  refine reads_readNumber (fun raw => ?_) lookup
  show key ++ " must be whole seconds, got '" ++ raw ++ "'" = _
  rw [htext]
  simp only [String.append_assoc]

theorem reads_readPort (lookup : Lookup) : port.Reads lookup (readPort lookup) := by
  have htext : " must be a port number, got '" = " must be " ++ "a port number" ++ ", got '" := by
    decide
  refine reads_readNumber (fun raw => ?_) lookup
  show "ROLEMATCH_PORT" ++ " must be a port number, got '" ++ raw ++ "'" = _
  rw [htext]
  simp only [String.append_assoc]

end Variable

/-! ## All settings -/

open Variable

/-- What the settings are taken from: each variable, or where nothing is found of it the default. -/
structure TakenFrom (settings : Settings) (lookup : Lookup) : Prop where
  rulesFile : Variable.rulesFile.Found lookup settings.rulesFile
  serverUrl : Variable.serverUrl.Found lookup settings.serverUrl
  cacheTimeToLive : ∃ found, Variable.cacheTimeToLive.Found lookup found ∧
    settings.cacheTimeToLive = found.getD 1800
  httpTimeout : ∃ found, Variable.httpTimeout.Found lookup found ∧
    settings.httpTimeout = found.getD 10
  port : ∃ found, Variable.port.Found lookup found ∧ settings.port = found.getD 8080

/-- The fault of the first variable that has one. -/
inductive FirstFault (lookup : Lookup) (fault : SettingsFault) : Prop where
  | serverUrl (h : Variable.serverUrl.AtFault lookup fault) : FirstFault lookup fault
  | cacheTimeToLive (hserver : Variable.serverUrl.Fits lookup)
      (h : Variable.cacheTimeToLive.AtFault lookup fault) : FirstFault lookup fault
  | httpTimeout (hserver : Variable.serverUrl.Fits lookup)
      (hlife : Variable.cacheTimeToLive.Fits lookup)
      (h : Variable.httpTimeout.AtFault lookup fault) : FirstFault lookup fault
  | port (hserver : Variable.serverUrl.Fits lookup) (hlife : Variable.cacheTimeToLive.Fits lookup)
      (htimeout : Variable.httpTimeout.Fits lookup) (h : Variable.port.AtFault lookup fault) :
      FirstFault lookup fault

variable {settings : Settings} {fault : SettingsFault}

theorem bind_eq_ok_iff {β γ : Type} {read : Except SettingsFault β}
    {rest : β → Except SettingsFault γ} {c : γ} :
    read >>= rest = .ok c ↔ ∃ b, read = .ok b ∧ rest b = .ok c := by
  cases read <;> simp [bind, Except.bind]

theorem bind_eq_error_iff {β γ : Type} {read : Except SettingsFault β}
    {rest : β → Except SettingsFault γ} :
    read >>= rest = .error fault ↔
      read = .error fault ∨ ∃ b, read = .ok b ∧ rest b = .error fault := by
  cases read <;> simp [bind, Except.bind]

/-- What the readers of the variables give is put together. -/
theorem ofLookup_eq_ok_iff : ofLookup lookup = .ok settings ↔
    ∃ url, readUrl lookup = .ok url ∧
    ∃ life, readSeconds lookup cacheTimeToLiveVariable = .ok life ∧
    ∃ timeout, readSeconds lookup httpTimeoutVariable = .ok timeout ∧
    ∃ port, readPort lookup = .ok port ∧
      settings = ⟨given? lookup rulesFileVariable, url, life.getD 1800, timeout.getD 10,
        port.getD 8080⟩ := by
  simp only [ofLookup, bind_eq_ok_iff, pure, Except.pure, Except.ok.injEq, @eq_comm _ _ settings]
  rfl

/-- A reader's fault comes through if the readers in front of it have found none. -/
theorem ofLookup_eq_error_iff : ofLookup lookup = .error fault ↔
    readUrl lookup = .error fault ∨ (∃ url, readUrl lookup = .ok url) ∧
      (readSeconds lookup cacheTimeToLiveVariable = .error fault ∨
        (∃ life, readSeconds lookup cacheTimeToLiveVariable = .ok life) ∧
        (readSeconds lookup httpTimeoutVariable = .error fault ∨
          (∃ timeout, readSeconds lookup httpTimeoutVariable = .ok timeout) ∧
          readPort lookup = .error fault)) := by
  simp only [ofLookup, bind_eq_error_iff, pure, Except.pure, reduceCtorEq, and_false, exists_false,
    or_false, exists_and_right]

theorem rulesFile_found (lookup : Lookup) :
    Variable.rulesFile.Found lookup (given? lookup rulesFileVariable) := by
  cases h : given? lookup rulesFileVariable with
  | none => exact ((reads_of_absent h).ok_iff none).mp rfl
  | some path => exact .given (given?_eq_some_iff.mp h) rfl

theorem takenFrom_of_ofLookup (h : ofLookup lookup = .ok settings) : settings.TakenFrom lookup := by
  obtain ⟨url, hurl, life, hlife, timeout, htimeout, port, hport, rfl⟩ := ofLookup_eq_ok_iff.mp h
  constructor
  · exact rulesFile_found lookup
  · exact ((reads_readUrl lookup).ok_iff url).mp hurl
  · exact ⟨life, ((reads_readSeconds lookup _).ok_iff life).mp hlife, rfl⟩
  · exact ⟨timeout, ((reads_readSeconds lookup _).ok_iff timeout).mp htimeout, rfl⟩
  · exact ⟨port, ((reads_readPort lookup).ok_iff port).mp hport, rfl⟩

theorem exists_ofLookup_eq_ok_iff : (∃ settings, ofLookup lookup = .ok settings) ↔
    Variable.serverUrl.Fits lookup ∧ Variable.cacheTimeToLive.Fits lookup ∧
      Variable.httpTimeout.Fits lookup ∧ Variable.port.Fits lookup := by
  rw [(reads_readUrl lookup).fits_iff, Variable.cacheTimeToLive, Variable.httpTimeout,
    (reads_readSeconds lookup _).fits_iff, (reads_readSeconds lookup _).fits_iff,
    (reads_readPort lookup).fits_iff]
  constructor
  · rintro ⟨settings, h⟩
    obtain ⟨url, hurl, life, hlife, timeout, htimeout, port, hport, -⟩ := ofLookup_eq_ok_iff.mp h
    exact ⟨⟨url, hurl⟩, ⟨life, hlife⟩, ⟨timeout, htimeout⟩, ⟨port, hport⟩⟩
  · rintro ⟨⟨url, hurl⟩, ⟨life, hlife⟩, ⟨timeout, htimeout⟩, ⟨port, hport⟩⟩
    exact ⟨_, ofLookup_eq_ok_iff.mpr
      ⟨url, hurl, life, hlife, timeout, htimeout, port, hport, rfl⟩⟩

theorem ofLookup_eq_error_iff_firstFault :
    ofLookup lookup = .error fault ↔ FirstFault lookup fault := by
  have hserver := reads_readUrl lookup
  have hlife := reads_readSeconds lookup cacheTimeToLiveVariable
  have htimeout := reads_readSeconds lookup httpTimeoutVariable
  rw [ofLookup_eq_error_iff, hserver.error_iff, ← hserver.fits_iff, hlife.error_iff,
    ← hlife.fits_iff, htimeout.error_iff, ← htimeout.fits_iff, (reads_readPort lookup).error_iff]
  constructor
  · rintro (h | ⟨hurl, h | ⟨hseconds, h | ⟨htimeout, h⟩⟩⟩)
    · exact .serverUrl h
    · exact .cacheTimeToLive hurl h
    · exact .httpTimeout hurl hseconds h
    · exact .port hurl hseconds htimeout h
  · intro h
    cases h with
    | serverUrl h => exact .inl h
    | cacheTimeToLive hserver h => exact .inr ⟨hserver, .inl h⟩
    | httpTimeout hserver hlife h => exact .inr ⟨hserver, .inr ⟨hlife, .inl h⟩⟩
    | port hserver hlife htimeout h => exact .inr ⟨hserver, .inr ⟨hlife, .inr ⟨htimeout, h⟩⟩⟩

/-- Settings are read just if each variable that is neither absent nor blank has a text that can be
read, and then they are what these texts mean, with the defaults for the others. Else the fault is
that of the first variable which has one, and the program ends with it. -/
theorem settings_are_read_or_blamed (lookup : Lookup) :
    ((∃ settings, ofLookup lookup = .ok settings) ↔
      Variable.serverUrl.Fits lookup ∧ Variable.cacheTimeToLive.Fits lookup ∧
        Variable.httpTimeout.Fits lookup ∧ Variable.port.Fits lookup) ∧
      (∀ settings, ofLookup lookup = .ok settings → settings.TakenFrom lookup) ∧
      (∀ fault, ofLookup lookup = .error fault ↔ FirstFault lookup fault) ∧
      ∀ fault, ofLookup lookup = .error fault → ∀ inherited envFile world arguments,
        EnvFile.apply inherited (envFile.getD "") = .ok lookup →
        CommandLine.run inherited envFile world arguments =
          .failed ("Configuration error: " ++ fault.message) := by
  refine ⟨exists_ofLookup_eq_ok_iff, fun settings => takenFrom_of_ofLookup, fun fault => ?_,
    fun fault hfault inherited envFile world arguments hlookup => ?_⟩
  · exact ofLookup_eq_error_iff_firstFault
  · rw [CommandLine.run, hlookup]
    simp only [hfault]
    rfl

/-- The greatest number of seconds is read, and the next one is not. It is blamed before the port,
in its own spelling, while a blank variable counts as absent. -/
theorem settings_are_read_or_blamed_at_limits :
    let lookup : String → String → Lookup := fun timeout port key =>
      [(cacheTimeToLiveVariable, " "), (httpTimeoutVariable, timeout),
        (portVariable, port)].lookup key
    let settings : Settings := { httpTimeout := 18446744073709551615 }
    let fault : SettingsFault := .badSeconds httpTimeoutVariable " 18446744073709551616"
    (ofLookup (lookup " +0018446744073709551615\n" "") = .ok settings ∧
        settings.TakenFrom (lookup " +0018446744073709551615\n" "")) ∧
      (ofLookup (lookup " 18446744073709551616" "65536") = .error fault ∧
        FirstFault (lookup " 18446744073709551616" "65536") fault) ∧
      ∀ world arguments,
        CommandLine.run (lookup " 18446744073709551616" "65536") none world arguments =
          .failed ("Configuration error: ROLEMATCH_HTTP_TIMEOUT_SECS must be whole seconds, got " ++
            "' 18446744073709551616'") := by
  intro lookup settings fault
  obtain ⟨-, hsettings, -, -⟩ :=
    settings_are_read_or_blamed (lookup " +0018446744073709551615\n" "")
  obtain ⟨-, -, hfault, hrun⟩ :=
    settings_are_read_or_blamed (lookup " 18446744073709551616" "65536")
  have hok : ofLookup (lookup " +0018446744073709551615\n" "") = .ok settings := by decide +kernel
  have herror : ofLookup (lookup " 18446744073709551616" "65536") = .error fault := by
    decide +kernel
  refine ⟨⟨hok, hsettings settings hok⟩, ⟨herror, (hfault fault).mp herror⟩, ?_⟩
  exact fun world arguments => hrun fault herror _ none world arguments rfl

end Settings

end NameRoles
