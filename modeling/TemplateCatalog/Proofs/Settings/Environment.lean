import TemplateCatalog.Cache.Provider
import TemplateCatalog.Proofs.Text.Digits
import TemplateCatalog.Proofs.Text.Trimmed

/-!
# Caches from the environment

Which cache the variables of an environment give. Any text may stand in a variable. A variable that
holds no numeral is passed over, and what stands in one variable makes no difference to the setting
that another one gives. So only the name of the provider can keep a program from its cache, and no
cache is built without a place for an entry.

The module introduces:

* `SpelledBy`, `IsNumeral`: a text is a numeral of a number, with blank space around it;
* `Gives`: a variable holds a numeral of a number;
* `Misnames`: an environment names a provider that nobody knows;
* `FollowsVariables`: options are the ones that an environment gives;
* `CacheSettings.cacheOfVariables`: the cache that an environment gives.

Main statements:

* `CacheSettings.numberIn?_eq_some_iff`: what is read from a variable.
* `CacheSettings.parse_provider_eq_error_iff`: which providers are refused.
* `CacheSettings.followsVariables`: each option is read from its own variable.
* `CacheSettings.cache_of_variables`: what an environment gives.
-/

namespace TemplateCatalog

/-! ### Numerals -/

/-- A plus sign or none, and decimal digits behind it, one at least, spell a number of at most
64 bits. -/
structure SpelledBy (sign digits : List Char) (n : Nat) : Prop where
  sign : sign = [] ∨ sign = ['+']
  ne_nil : digits ≠ []
  isDigit : ∀ c ∈ digits, '0' ≤ c ∧ c ≤ '9'
  /-- The last digit counts ones. -/
  value : n = Nat.ofDigits 10 (digits.reverse.map fun c => c.toNat - '0'.toNat)
  small : n < 2 ^ 64

/-- The text is a numeral of the number, with blank space around it. -/
def IsNumeral (text : String) (n : Nat) : Prop :=
  ∃ before sign digits after : List Char, text.toList = before ++ (sign ++ digits) ++ after ∧
    (∀ c ∈ before, Text.isBlank c = true) ∧ (∀ c ∈ after, Text.isBlank c = true) ∧
    SpelledBy sign digits n

/-- The variable holds a numeral of the number. -/
def Gives (lookup : String → Option String) (name : String) (n : Nat) : Prop :=
  ∃ text, lookup name = some text ∧ IsNumeral text n

/-- No character of a numeral is blank. -/
theorem SpelledBy.isBlank_eq_false {sign digits : List Char} {n : Nat}
    (hspelled : SpelledBy sign digits n) {c : Char} (hc : c ∈ sign ++ digits) :
    Text.isBlank c = false := by
  rcases List.mem_append.mp hc with hsign | hdigit
  · rcases hspelled.sign with rfl | rfl
    · cases hsign
    · rw [List.mem_singleton.mp hsign]
      decide
  · obtain ⟨hlow, hhigh⟩ := hspelled.isDigit c hdigit
    have hlow : 48 ≤ c.toNat := hlow
    have hhigh : c.toNat ≤ 57 := hhigh
    -- Every blank character lies below the digits or above them.
    rw [← Bool.not_eq_true, Text.isBlank]
    simp only [Bool.or_eq_true, Bool.and_eq_true, decide_eq_true_eq, beq_iff_eq]
    omega

namespace CacheSettings

/-- What stands behind a plus sign, or everything if there is none. -/
def unsigned : List Char → List Char
  | '+' :: cs => cs
  | cs => cs

theorem exists_sign (cs : List Char) : ∃ sign, cs = sign ++ unsigned cs ∧
    (sign = [] ∨ sign = ['+']) := by
  unfold unsigned
  split
  · exact ⟨['+'], rfl, .inr rfl⟩
  · exact ⟨[], rfl, .inl rfl⟩

theorem unsigned_append {sign digits : List Char} {n : Nat} (hspelled : SpelledBy sign digits n) :
    unsigned (sign ++ digits) = digits := by
  rcases hspelled.sign with rfl | rfl
  · -- No digit is a plus sign.
    unfold unsigned
    split
    · next cs hcs =>
      have hplus := hspelled.isDigit '+' (by rw [← List.nil_append digits, hcs]; simp)
      exact absurd hplus (by decide)
    · rfl
  · rfl

/-- What is read from a text, digit by digit. -/
theorem numeral?_eq_some_iff_unsigned {text : String} {n : Nat} : numeral? text = some n ↔
    unsigned text.toList ≠ [] ∧ (∀ c ∈ unsigned text.toList, c.isDigit = true) ∧
      n = Nat.ofDigits 10 ((unsigned text.toList).reverse.map fun c => c.toNat - '0'.toNat) ∧
      n < 2 ^ 64 := by
  have hvalue : ∀ digits : List Char, digits.foldl (fun n c => n * 10 + (c.toNat - 48)) 0 =
      Nat.ofDigits 10 (digits.reverse.map fun c => c.toNat - '0'.toNat) := by
    intro digits
    rw [List.map_reverse, ← Text.ofDigits_eq, Text.ofDigits, List.foldl_map]
    rfl
  -- The reader adds up the digits from the first one, and takes off the sign in the same way.
  have hread : numeral? text =
      if (unsigned text.toList).isEmpty || !(unsigned text.toList).all Char.isDigit then none
      else
        let n := (unsigned text.toList).foldl (fun n c => n * 10 + (c.toNat - 48)) 0
        if n < 2 ^ 64 then some n else none := rfl
  rw [hread, hvalue]
  generalize unsigned text.toList = digits
  by_cases hdigits : digits ≠ [] ∧ ∀ c ∈ digits, c.isDigit = true
  · have hok : (digits.isEmpty || !digits.all Char.isDigit) = false := by
      simpa using hdigits
    rw [hok, if_neg Bool.false_ne_true, Option.ite_none_right_eq_some, Option.some_inj]
    constructor
    · rintro ⟨hsmall, rfl⟩
      exact ⟨hdigits.1, hdigits.2, rfl, hsmall⟩
    · rintro ⟨-, -, rfl, hsmall⟩
      exact ⟨hsmall, rfl⟩
  · have hbad : (digits.isEmpty || !digits.all Char.isDigit) = true := by
      rw [← Bool.not_eq_false]
      simpa using hdigits
    rw [hbad, if_pos rfl]
    constructor
    · intro hsome
      cases hsome
    · rintro ⟨hne, hall, -⟩
      exact absurd ⟨hne, hall⟩ hdigits

/-- What a text spells without blank space around it. -/
theorem numeral?_eq_some_iff {text : String} {n : Nat} : numeral? text = some n ↔
    ∃ sign digits, text.toList = sign ++ digits ∧ SpelledBy sign digits n := by
  rw [numeral?_eq_some_iff_unsigned]
  constructor
  · rintro ⟨hne, hdigits, hn, hsmall⟩
    obtain ⟨sign, hsplit, hsign⟩ := exists_sign text.toList
    exact ⟨sign, _, hsplit, hsign, hne, fun c hc => Text.isDigit_iff.mp (hdigits c hc), hn,
      hsmall⟩
  · rintro ⟨sign, digits, hsplit, hspelled⟩
    rw [hsplit, unsigned_append hspelled]
    exact ⟨hspelled.ne_nil, fun c hc => Text.isDigit_iff.mpr (hspelled.isDigit c hc),
      hspelled.value, hspelled.small⟩

/-- A text is read without the blank space around it. -/
theorem numeral?_trim_eq_some_iff {text : String} {n : Nat} :
    numeral? (Text.trim text) = some n ↔ IsNumeral text n := by
  rw [numeral?_eq_some_iff, Text.trim, String.toList_ofList]
  constructor
  · rintro ⟨sign, digits, hsplit, hspelled⟩
    obtain ⟨before, after, hparts, hbefore, hafter⟩ := Text.exists_blanks text.toList
    rw [hsplit] at hparts
    exact ⟨before, sign, digits, after, hparts, hbefore, hafter, hspelled⟩
  · rintro ⟨before, sign, digits, after, hparts, hbefore, hafter, hspelled⟩
    refine ⟨sign, digits, ?_, hspelled⟩
    -- Neither end of the numeral is blank, so trimming stops there.
    rw [hparts]
    apply Text.trimChars_append hbefore hafter
    · exact List.append_ne_nil_of_right_ne_nil sign hspelled.ne_nil
    · intro c hc
      exact hspelled.isBlank_eq_false (List.mem_of_head? hc)
    · intro c hc
      exact hspelled.isBlank_eq_false (List.mem_of_getLast? hc)

variable {lookup : String → Option String}

/-- The number that is read from a variable is the one that it holds a numeral of. -/
theorem numberIn?_eq_some_iff {name : String} {n : Nat} :
    numberIn? lookup name = some n ↔ Gives lookup name n := by
  rw [numberIn?, Option.bind_eq_some_iff]
  simp only [numeral?_trim_eq_some_iff]
  exact Iff.rfl

/-- No number is read from a variable exactly if it holds no numeral. -/
theorem numberIn?_eq_none_iff {name : String} :
    numberIn? lookup name = none ↔ ∀ n, ¬Gives lookup name n := by
  rw [Option.eq_none_iff_forall_ne_some]
  simp only [ne_eq, numberIn?_eq_some_iff]

end CacheSettings

/-! ### Providers -/

/-- The variable of the provider holds this name, with blank space around it, and in no letter case
is it the name of a provider. -/
def Misnames (lookup : String → Option String) (name : String) : Prop :=
  ∃ text, lookup "PROMPTCAT_CACHE_PROVIDER" = some text ∧ Text.trim text = name ∧ name ≠ "" ∧
    Text.asciiLower name ∉ ["local", "memory", "redis"]

theorem CacheProvider.ofName?_eq_none_iff {name : String} :
    ofName? name = none ↔ Text.asciiLower (Text.trim name) ∉ ["local", "memory", "redis"] := by
  unfold ofName?
  split <;> simp_all

/-- A name is refused exactly if it is not known. -/
theorem CacheProvider.parse_eq_error_iff {name : String} {error : CacheBuildError} :
    parse name = .error error ↔ error = .unsupportedProvider name ∧
      Text.asciiLower (Text.trim name) ∉ ["local", "memory", "redis"] := by
  rw [← ofName?_eq_none_iff, parse]
  cases ofName? name with
  | some provider => simp
  | none => simp [eq_comm]

namespace CacheSettings

variable {lookup : String → Option String}

theorem provider_of_named {text : String} (htext : lookup "PROMPTCAT_CACHE_PROVIDER" = some text)
    (hne : Text.trim text ≠ "") : (ofVariables lookup).provider = Text.trim text := by
  simp only [ofVariables, htext, Option.map_some, if_neg hne]

theorem provider_of_unnamed
    (hunnamed : ∀ text, lookup "PROMPTCAT_CACHE_PROVIDER" = some text → Text.trim text = "") :
    (ofVariables lookup).provider = default.provider := by
  cases htext : lookup "PROMPTCAT_CACHE_PROVIDER" with
  | none => simp only [ofVariables, htext, Option.map_none]
  | some text => simp only [ofVariables, htext, Option.map_some, if_pos (hunnamed text htext)]

/-- Only a name that nobody knows is refused, and the error tells it. -/
theorem parse_provider_eq_error_iff {error : CacheBuildError} :
    CacheProvider.parse (ofVariables lookup).provider = .error error ↔
      ∃ name, Misnames lookup name ∧ error = .unsupportedProvider name := by
  rw [CacheProvider.parse_eq_error_iff]
  by_cases hnamed : ∃ text, lookup "PROMPTCAT_CACHE_PROVIDER" = some text ∧ Text.trim text ≠ ""
  · obtain ⟨text, htext, hne⟩ := hnamed
    have htrim : Text.trim (Text.trim text) = Text.trim text :=
      Text.trim_eq_self_iff.mpr (Text.isTrimmed_trim text)
    rw [provider_of_named htext hne, htrim]
    constructor
    · rintro ⟨herror, hunknown⟩
      exact ⟨_, ⟨text, htext, rfl, hne, hunknown⟩, herror⟩
    · rintro ⟨name, ⟨text', htext', rfl, -, hunknown⟩, herror⟩
      obtain rfl : text = text' := Option.some_inj.mp (htext.symm.trans htext')
      exact ⟨herror, hunknown⟩
  · -- What is not named is the default, which is known.
    have hunnamed : ∀ text, lookup "PROMPTCAT_CACHE_PROVIDER" = some text →
        Text.trim text = "" := by
      intro text htext
      by_contra hne
      exact hnamed ⟨text, htext, hne⟩
    have hdefault :
        Text.asciiLower (Text.trim default.provider) ∈ ["local", "memory", "redis"] := by
      decide
    rw [provider_of_unnamed hunnamed]
    constructor
    · rintro ⟨-, hunknown⟩
      exact absurd hdefault hunknown
    · rintro ⟨name, ⟨text, htext, rfl, hne, -⟩, -⟩
      exact absurd (hunnamed text htext) hne

end CacheSettings

/-! ### Caches -/

/-- The options are those that the variables give, each by its own variable. -/
structure FollowsVariables (lookup : String → Option String) (options : CacheOptions) : Prop where
  capacity : ∀ n, 1 ≤ n → Gives lookup "PROMPTCAT_CACHE_MAX_SIZE" n → options.capacity = n
  default_capacity : (∀ n, 1 ≤ n → ¬Gives lookup "PROMPTCAT_CACHE_MAX_SIZE" n) →
    options.capacity = 1000
  ttl : ∀ n, Gives lookup "PROMPTCAT_CACHE_TTL_MS" n → options.defaultTtl = some n
  default_ttl : (∀ n, ¬Gives lookup "PROMPTCAT_CACHE_TTL_MS" n) → options.defaultTtl = none
  interval : ∀ n, 1 ≤ n → Gives lookup "PROMPTCAT_CACHE_CLEANUP_INTERVAL_MS" n →
    options.sweepInterval = some n
  /-- Zero turns the sweeps off. -/
  no_sweeps : Gives lookup "PROMPTCAT_CACHE_CLEANUP_INTERVAL_MS" 0 → options.sweepInterval = none
  default_interval : (∀ n, ¬Gives lookup "PROMPTCAT_CACHE_CLEANUP_INTERVAL_MS" n) →
    options.sweepInterval = some 60000

namespace CacheSettings

variable {κ ν : Type}

/-- The cache that the variables of an environment give. -/
def cacheOfVariables (lookup : String → Option String) : Except CacheBuildError (Cache κ ν) :=
  (ofVariables lookup).buildBestEffort.map Cache.empty

/-- The capacity of the best cache there is for the settings. -/
def usableCapacity (settings : CacheSettings) : Nat :=
  if settings.capacity = 0 then defaultCapacity else settings.capacity

theorem one_le_usableCapacity (settings : CacheSettings) : 1 ≤ settings.usableCapacity := by
  unfold usableCapacity
  split
  · decide
  · omega

/-- Once the name of the provider is known, the best effort cannot fail. -/
theorem buildBestEffort_eq (settings : CacheSettings) : settings.buildBestEffort =
    (CacheProvider.parse settings.provider).map fun _ =>
      settings.options settings.usableCapacity := by
  rw [buildBestEffort]
  cases CacheProvider.parse settings.provider <;> rfl

/-- The empty cache keeps the options it is built with, since they leave a place for an entry. -/
theorem options_empty_usableCapacity (settings : CacheSettings) :
    (Cache.empty (settings.options settings.usableCapacity) : Cache κ ν).options =
      settings.options settings.usableCapacity := by
  have hplace := settings.one_le_usableCapacity
  simp only [Cache.empty, options, CacheOptions.mk.injEq, and_true]
  omega

theorem cacheOfVariables_eq (lookup : String → Option String) :
    (cacheOfVariables lookup : Except CacheBuildError (Cache κ ν)) =
      (CacheProvider.parse (ofVariables lookup).provider).map fun _ =>
        Cache.empty ((ofVariables lookup).options (ofVariables lookup).usableCapacity) := by
  rw [cacheOfVariables, buildBestEffort_eq]
  cases CacheProvider.parse (ofVariables lookup).provider <;> rfl

/-- What is read from the variables is what they say. -/
theorem followsVariables (lookup : String → Option String) : FollowsVariables lookup
    ((ofVariables lookup).options (ofVariables lookup).usableCapacity) where
  capacity n hn hgives := by
    have hread := numberIn?_eq_some_iff.mpr hgives
    simp only [options, usableCapacity, ofVariables, hread, Option.getD_some]
    exact if_neg (by omega)
  default_capacity hnone := by
    cases hread : numberIn? lookup "PROMPTCAT_CACHE_MAX_SIZE" with
    | none =>
      simp only [options, usableCapacity, ofVariables, hread, Option.getD_none]
      rfl
    | some n =>
      -- The only number that is passed over is zero.
      have hzero : n = 0 := by
        by_contra hne
        exact hnone n (by omega) (numberIn?_eq_some_iff.mp hread)
      simp only [options, usableCapacity, ofVariables, hread, Option.getD_some, hzero, if_true]
      rfl
  ttl n hgives := by
    have hread := numberIn?_eq_some_iff.mpr hgives
    simp only [options, ofVariables, hread]
    rfl
  default_ttl hnone := by
    have hread := numberIn?_eq_none_iff.mpr hnone
    simp only [options, ofVariables, hread]
    rfl
  interval n hn hgives := by
    have hread := numberIn?_eq_some_iff.mpr hgives
    simp only [options, sweepInterval, ofVariables, hread]
    exact Option.filter_some_pos (decide_eq_true hn)
  no_sweeps hgives := by
    have hread := numberIn?_eq_some_iff.mpr hgives
    simp only [options, sweepInterval, ofVariables, hread]
    rfl
  default_interval hnone := by
    have hread := numberIn?_eq_none_iff.mpr hnone
    simp only [options, sweepInterval, ofVariables, hread]
    rfl

/-- No cache is given exactly if the provider's name is not known. -/
theorem cacheOfVariables_eq_error_iff {lookup : String → Option String} {error : CacheBuildError} :
    (cacheOfVariables lookup : Except CacheBuildError (Cache κ ν)) = .error error ↔
      ∃ name, Misnames lookup name ∧ error = .unsupportedProvider name := by
  rw [← parse_provider_eq_error_iff, cacheOfVariables_eq]
  cases CacheProvider.parse (ofVariables lookup).provider with
  | error refused => simp only [Except.map, Except.error.injEq]
  | ok provider => simp [Except.map]

/-- The options of a cache that is given are those that are read from the variables. -/
theorem options_of_cacheOfVariables {lookup : String → Option String} {cache : Cache κ ν}
    (hbuilt : cacheOfVariables lookup = .ok cache) :
    cache.options = (ofVariables lookup).options (ofVariables lookup).usableCapacity := by
  rw [cacheOfVariables_eq] at hbuilt
  cases hparse : CacheProvider.parse (ofVariables lookup).provider with
  | error refused =>
    rw [hparse] at hbuilt
    cases hbuilt
  | ok provider =>
    rw [hparse] at hbuilt
    cases hbuilt
    exact options_empty_usableCapacity _

/-- An environment gives a cache with at least one place, built as its variables say, unless it
names a provider that nobody knows. No setting depends on the variable of another one. -/
theorem cache_of_variables (lookup : String → Option String) :
    (∀ error, (cacheOfVariables lookup : Except CacheBuildError (Cache κ ν)) = .error error ↔
      ∃ name, Misnames lookup name ∧ error = .unsupportedProvider name) ∧
    ((∀ name, ¬Misnames lookup name) → ∃ cache : Cache κ ν, cacheOfVariables lookup = .ok cache ∧
      FollowsVariables lookup cache.options ∧ 1 ≤ cache.options.capacity) ∧
    ∀ other (cache otherCache : Cache κ ν),
      cacheOfVariables lookup = .ok cache → cacheOfVariables other = .ok otherCache →
        (lookup "PROMPTCAT_CACHE_MAX_SIZE" = other "PROMPTCAT_CACHE_MAX_SIZE" →
          cache.options.capacity = otherCache.options.capacity) ∧
        (lookup "PROMPTCAT_CACHE_TTL_MS" = other "PROMPTCAT_CACHE_TTL_MS" →
          cache.options.defaultTtl = otherCache.options.defaultTtl) ∧
        (lookup "PROMPTCAT_CACHE_CLEANUP_INTERVAL_MS" =
            other "PROMPTCAT_CACHE_CLEANUP_INTERVAL_MS" →
          cache.options.sweepInterval = otherCache.options.sweepInterval) := by
  refine ⟨fun error => cacheOfVariables_eq_error_iff, ?_, ?_⟩
  · intro hknown
    cases hbuilt : (cacheOfVariables lookup : Except CacheBuildError (Cache κ ν)) with
    | error error =>
      obtain ⟨name, hname, -⟩ := cacheOfVariables_eq_error_iff.mp hbuilt
      exact absurd hname (hknown name)
    | ok cache =>
      refine ⟨cache, rfl, ?_, ?_⟩
      · rw [options_of_cacheOfVariables hbuilt]
        exact followsVariables lookup
      · rw [options_of_cacheOfVariables hbuilt]
        exact one_le_usableCapacity _
  · intro other cache otherCache hbuilt hother
    rw [options_of_cacheOfVariables hbuilt, options_of_cacheOfVariables hother]
    -- Every setting is read from a variable of its own.
    refine ⟨?_, ?_, ?_⟩
    · intro hsame
      have hread : (ofVariables lookup).capacity = (ofVariables other).capacity := by
        simp only [ofVariables, numberIn?, hsame]
      show (ofVariables lookup).usableCapacity = (ofVariables other).usableCapacity
      rw [usableCapacity, usableCapacity, hread]
    · intro hsame
      simp only [options, ofVariables, numberIn?, hsame]
    · intro hsame
      simp only [options, sweepInterval, ofVariables, numberIn?, hsame]

-- A letter in a number and a number of more than 64 bits are passed over.
example : (ofVariables fun
    | "PROMPTCAT_CACHE_PROVIDER" => some " Redis "
    | "PROMPTCAT_CACHE_MAX_SIZE" => some "1O0"
    | "PROMPTCAT_CACHE_TTL_MS" => some " +05000\n"
    | "PROMPTCAT_CACHE_CLEANUP_INTERVAL_MS" => some "18446744073709551616"
    | _ => none).buildBestEffort = .ok ⟨1000, some 5000, some 60000⟩ := by
  rfl

end CacheSettings

end TemplateCatalog
