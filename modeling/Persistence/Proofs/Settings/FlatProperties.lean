import Persistence.Proofs.Outcome
import Persistence.Settings.Properties

/-! Settings as flat properties tell them. A property settles one setting or none, so that the properties are five
    independent rows of values, one for each key: every value of a row has to be readable, and the last one counts. What
    is given under other keys, and how the rows are mixed, makes no difference. -/

namespace Persistence

/-! ### Spellings -/

namespace Text

/-- The word that a text stands for, whatever its case and the blanks around it. -/
def word (s : String) : String := asciiLower (trim s)

/-- Between its blanks there is nothing but blanks just if there is nothing at all. -/
theorem isBlankText_trim_iff (s : String) : isBlankText (trim s) = true ↔ trim s = "" := by
  rw [isBlankText, toList_trim, ← String.toList_eq_nil_iff, toList_trim, trimChars]
  constructor
  · intro blank
    rw [List.reverse_eq_nil_iff]
    refine Classical.byContradiction fun left => ?_
    -- What is left begins, from its end, with a character that is not blank.
    have first := List.head_dropWhile_not isBlank left
    have mem := List.mem_reverse.mpr (List.head_mem left)
    rw [List.all_eq_true.mp blank _ mem] at first
    cases first
  · intro nothing
    rw [nothing]
    rfl

end Text

namespace TenancyMode

/-- The words for a mode; no word at all means no tenants. -/
def spellings : TenancyMode → List String
  | .none => ["none", ""]
  | mode => [mode.display]

/-- The text spells the mode. -/
def Spelled (s : String) (mode : TenancyMode) : Prop := Text.word s ∈ mode.spellings

theorem read_eq_ok_iff (s : String) (mode : TenancyMode) : read s = .ok mode ↔ Spelled s mode := by
  unfold read Spelled Text.word
  generalize Text.asciiLower (Text.trim s) = word
  cases mode <;> simp [words, List.lookup_cons, spellings, display] <;> grind

end TenancyMode

namespace Settings

/-- The words for a flag. -/
def flagSpellings : Bool → List String
  | true => ["true", "yes", "1"]
  | false => ["false", "no", "0"]

/-- The text spells the flag. -/
def FlagSpelled (s : String) (b : Bool) : Prop := Text.word s ∈ flagSpellings b

theorem flag_eq_ok_iff (key s : String) (b : Bool) : flag key s = .ok b ↔ FlagSpelled s b := by
  unfold flag FlagSpelled Text.word
  generalize Text.asciiLower (Text.trim s) = word
  cases b <;> simp [flagSpellings] <;> grind

/-! ### Keys and rows -/

/-- A key of settings with the start that they all have. -/
def fullKey (key : String) : String := keyStart ++ key

/-- The keys that settings know. -/
def knownKeys : List String :=
  [fullKey tenancyKey, fullKey versionedKey, fullKey nullableKey, fullKey identifierKey, fullKey strategyKey]

/-- The property has a key of settings. -/
def isKnown (property : String × String) : Bool := knownKeys.contains property.1

/-- The values that properties give under a key, from the first to the last. -/
def valuesOf (properties : List (String × String)) (key : String) : List String :=
  (properties.filter (·.1 == key)).map (·.2)

theorem fullKey_inj {key other : String} : fullKey key = fullKey other ↔ key = other := by
  simp [fullKey, ← String.toList_inj]

theorem applyProperty_fullKey (settings : Settings) (key value : String) :
    settings.applyProperty (fullKey key, value) = settings.apply key value := by
  have known : Text.afterStart? keyStart.toList (fullKey key).toList = some key.toList :=
    Text.afterStart?_eq_some_iff.mpr String.toList_append
  rw [applyProperty, known]
  exact congrArg (settings.apply · value) String.ofList_toList

/-! ### One row -/

section Rows
variable {ε α : Type} {read : String → Except ε α} {means : String → α → Prop} {values : List String} {default a : α}

/-- A property gives one setting its value if the key is that of the setting. -/
def settle (read : String → Except ε α) (key : String) (a : α) (property : String × String) : Except ε α :=
  if property.1 = fullKey key then read property.2 else .ok a

/-- What a row of values makes of a setting: what the last value means, or the default if there is no value. -/
def Told (means : String → α → Prop) (values : List String) (default a : α) : Prop :=
  match values.getLast? with
  | some value => means value a
  | none => a = default

theorem foldlM_settle (read : String → Except ε α) (key : String) (a : α) (properties : List (String × String)) :
    properties.foldlM (settle read key) a =
      (valuesOf properties (fullKey key)).foldlM (fun _ value => read value) a := by
  induction properties generalizing a with
  | nil => rfl
  | cons property rest ih =>
    rw [List.foldlM_cons, settle]
    by_cases same : property.1 = fullKey key
    · rw [if_pos same, valuesOf, List.filter_cons_of_pos (by simpa using same), List.map_cons, List.foldlM_cons]
      exact congrArg _ (funext ih)
    · rw [if_neg same, valuesOf, List.filter_cons_of_neg (by simpa using same)]
      exact ih a

/-- A row is read through just if each of its values can be read, and the last one stays. -/
theorem foldlM_read_iff (spelled : ∀ value a, read value = .ok a ↔ means value a) :
    values.foldlM (fun _ value => read value) default = .ok a ↔
      (∀ value ∈ values, ∃ b, means value b) ∧ Told means values default a := by
  induction values generalizing default with
  | nil => simp [Told, pure, Except.pure, eq_comm]
  | cons value rest ih =>
    rw [List.foldlM_cons, bind_eq_ok, List.forall_mem_cons, Told, List.getLast?_cons]
    simp only [spelled, ih, Told]
    cases rest.getLast? with
    | none => grind
    | some last => grind

theorem foldlM_settle_iff {key : String} {properties : List (String × String)}
    (spelled : ∀ value a, read value = .ok a ↔ means value a) :
    properties.foldlM (settle read key) default = .ok a ↔
      (∀ value ∈ valuesOf properties (fullKey key), ∃ b, means value b) ∧
        Told means (valuesOf properties (fullKey key)) default a := by
  rw [foldlM_settle, foldlM_read_iff spelled]

theorem exists_told (each : ∀ value ∈ values, ∃ b, means value b) : ∃ a, Told means values default a := by
  unfold Told
  cases last : values.getLast? with
  | none => exact ⟨default, rfl⟩
  | some value => exact each value (List.mem_of_getLast? last)

end Rows

/-! ### All rows -/

/-- A name is given as it is, without the blanks around it. -/
def readName (value : String) : Except ConfigurationFault String := .ok (Text.trim value)

/-- The text gives the name. -/
def NameGiven (value name : String) : Prop := name = Text.trim value

/-- Any value gives a name. -/
theorem exists_nameGiven (values : List String) : ∀ value ∈ values, ∃ name, NameGiven value name :=
  fun value _ => ⟨Text.trim value, rfl⟩

theorem readName_eq_ok_iff (value name : String) : readName value = .ok name ↔ NameGiven value name := by
  rw [readName, NameGiven, Except.ok.injEq, eq_comm]

/-- Each setting has gone its own way through the properties. -/
structure Settled (start : Settings) (properties : List (String × String)) (settings : Settings) : Prop where
  tenancy : properties.foldlM (settle TenancyMode.read tenancyKey) start.tenancy = .ok settings.tenancy
  versioned : properties.foldlM (settle (flag versionedKey) versionedKey) start.versioned = .ok settings.versioned
  nullable : properties.foldlM (settle (flag nullableKey) nullableKey) start.nullable = .ok settings.nullable
  identifier : properties.foldlM (settle readName identifierKey) start.identifier = .ok settings.identifier
  strategy : properties.foldlM (settle readName strategyKey) start.strategy = .ok settings.strategy
  property : settings.property = start.property

theorem applyProperty_of_foreign {property : String × String} (foreign : isKnown property = false) (settings : Settings) :
    settings.applyProperty property = .ok settings := by
  rw [applyProperty]
  split
  next key h =>
    have own : property.1 = fullKey (String.ofList key) := by
      rw [fullKey, ← String.toList_inj, String.toList_append, String.toList_ofList]
      exact Text.afterStart?_eq_some_iff.mp h
    simp only [isKnown, knownKeys, own, List.contains_eq_mem, decide_eq_false_iff_not, List.mem_cons, List.not_mem_nil,
      or_false, not_or, fullKey_inj] at foreign
    simp only [apply, foreign, if_false]
  · rfl

/-- To apply a property is to settle each setting by it, only one of them by its value. -/
theorem applyProperty_eq (settings : Settings) (property : String × String) : settings.applyProperty property = do
    let tenancy ← settle TenancyMode.read tenancyKey settings.tenancy property
    let versioned ← settle (flag versionedKey) versionedKey settings.versioned property
    let nullable ← settle (flag nullableKey) nullableKey settings.nullable property
    let identifier ← settle readName identifierKey settings.identifier property
    let strategy ← settle readName strategyKey settings.strategy property
    return { settings with tenancy, versioned, nullable, identifier, strategy } := by
  have stays {α β : Type} (a : α) (next : α → Except ConfigurationFault β) : (Except.ok a >>= next) = next a := rfl
  obtain ⟨key, value⟩ := property
  cases known : isKnown (key, value)
  · have others : ∀ own ∈ knownKeys, key ≠ own := fun own mem same =>
      Bool.false_ne_true (known.symm.trans (List.contains_iff_mem.mpr (same ▸ mem)))
    simp only [knownKeys, List.forall_mem_cons] at others
    rw [applyProperty_of_foreign known]
    simp only [settle, others, if_false, stays]
    rfl
  · have own : key ∈ knownKeys := List.contains_iff_mem.mp known
    simp only [knownKeys, List.mem_cons, List.not_mem_nil, or_false] at own
    -- The keys are different, so that four of the five settings stay.
    rcases own with rfl | rfl | rfl | rfl | rfl
    all_goals
      rw [applyProperty_fullKey]
      simp only [apply, settle, fullKey_inj, tenancyKey, versionedKey, nullableKey, identifierKey, strategyKey,
        String.reduceEq, if_true, if_false, stays, readName, pure, Except.pure]

/-- Properties are applied just if each setting goes its own way through them. -/
theorem foldlM_applyProperty_iff {start settings : Settings} {properties : List (String × String)} :
    properties.foldlM applyProperty start = .ok settings ↔ Settled start properties settings := by
  induction properties generalizing start with
  | nil =>
    constructor
    · intro h
      cases h
      exact ⟨rfl, rfl, rfl, rfl, rfl, rfl⟩
    · rintro ⟨tenancy, versioned, nullable, identifier, strategy, property⟩
      obtain ⟨_, _, _, _, _, _⟩ := settings
      cases tenancy; cases versioned; cases nullable; cases identifier; cases strategy; cases property
      rfl
  | cons property rest ih =>
    rw [List.foldlM_cons, applyProperty_eq]
    constructor
    · intro h
      obtain ⟨next, step, h⟩ := bind_eq_ok.mp h
      obtain ⟨tenancy, htenancy, step⟩ := bind_eq_ok.mp step
      obtain ⟨versioned, hversioned, step⟩ := bind_eq_ok.mp step
      obtain ⟨nullable, hnullable, step⟩ := bind_eq_ok.mp step
      obtain ⟨identifier, hidentifier, step⟩ := bind_eq_ok.mp step
      obtain ⟨strategy, hstrategy, step⟩ := bind_eq_ok.mp step
      cases step
      obtain ⟨t, v, n, i, s, p⟩ := ih.mp h
      exact ⟨bind_eq_ok.mpr ⟨_, htenancy, t⟩, bind_eq_ok.mpr ⟨_, hversioned, v⟩, bind_eq_ok.mpr ⟨_, hnullable, n⟩,
        bind_eq_ok.mpr ⟨_, hidentifier, i⟩, bind_eq_ok.mpr ⟨_, hstrategy, s⟩, p⟩
    · intro h
      obtain ⟨tenancy, htenancy, t⟩ := bind_eq_ok.mp h.tenancy
      obtain ⟨versioned, hversioned, v⟩ := bind_eq_ok.mp h.versioned
      obtain ⟨nullable, hnullable, n⟩ := bind_eq_ok.mp h.nullable
      obtain ⟨identifier, hidentifier, i⟩ := bind_eq_ok.mp h.identifier
      obtain ⟨strategy, hstrategy, s⟩ := bind_eq_ok.mp h.strategy
      rw [htenancy, hversioned, hnullable, hidentifier, hstrategy]
      exact ih.mpr ⟨t, v, n, i, s, h.property⟩

/-- Properties of other programs are passed over. -/
theorem foldlM_applyProperty_filter (settings : Settings) (properties : List (String × String)) :
    (properties.filter isKnown).foldlM applyProperty settings = properties.foldlM applyProperty settings := by
  induction properties generalizing settings with
  | nil => rfl
  | cons property rest ih =>
    cases known : isKnown property
    · rw [List.filter_cons_of_neg (by simp [known]), List.foldlM_cons, applyProperty_of_foreign known, ih]
      rfl
    · rw [List.filter_cons_of_pos known, List.foldlM_cons, List.foldlM_cons]
      exact congrArg _ (funext ih)

theorem validate_eq_ok_iff (settings : Settings) : settings.validate = .ok () ↔
    Text.isBlankText settings.identifier = false ∧ Text.isBlankText settings.strategy = false := by
  rw [validate]
  cases Text.isBlankText settings.identifier <;> cases Text.isBlankText settings.strategy <;> simp

/-! ### What properties tell -/

/-- Properties are accepted: modes and flags are spelled wherever they are given, and no name that is given last is
blank. -/
structure Acceptable (properties : List (String × String)) : Prop where
  tenancy : ∀ value ∈ valuesOf properties (fullKey tenancyKey), ∃ mode, TenancyMode.Spelled value mode
  versioned : ∀ value ∈ valuesOf properties (fullKey versionedKey), ∃ b, FlagSpelled value b
  nullable : ∀ value ∈ valuesOf properties (fullKey nullableKey), ∃ b, FlagSpelled value b
  identifier : ∀ value, (valuesOf properties (fullKey identifierKey)).getLast? = some value → Text.trim value ≠ ""
  strategy : ∀ value, (valuesOf properties (fullKey strategyKey)).getLast? = some value → Text.trim value ≠ ""

/-- Settings are as properties tell them: the last value of each key counts, or else the default. -/
structure ToldBy (properties : List (String × String)) (settings : Settings) : Prop where
  tenancy : Told TenancyMode.Spelled (valuesOf properties (fullKey tenancyKey)) .none settings.tenancy
  versioned : Told FlagSpelled (valuesOf properties (fullKey versionedKey)) true settings.versioned
  nullable : Told FlagSpelled (valuesOf properties (fullKey nullableKey)) false settings.nullable
  identifier : Told NameGiven (valuesOf properties (fullKey identifierKey)) "id" settings.identifier
  strategy : Told NameGiven (valuesOf properties (fullKey strategyKey)) "default" settings.strategy
  property : settings.property = none

/-- The name that a row of values gives is not blank just if the last of them is not. -/
theorem isBlankText_told {values : List String} {default name : String} (named : Text.isBlankText default = false)
    (told : Told NameGiven values default name) :
    Text.isBlankText name = false ↔ ∀ value, values.getLast? = some value → Text.trim value ≠ "" := by
  unfold Told at told
  cases last : values.getLast? with
  | none =>
    rw [last] at told
    subst told
    exact iff_of_true named fun value given => nomatch given
  | some given =>
    rw [last] at told
    subst told
    rw [← Bool.not_eq_true, Text.isBlankText_trim_iff]
    exact ⟨fun filled value same => Option.some.inj same ▸ filled, fun each => each given rfl⟩

/-- Properties give settings just if they are accepted and tell these settings. -/
theorem ofProperties_eq_ok_iff (properties : List (String × String)) (settings : Settings) :
    ofProperties properties = .ok settings ↔ Acceptable properties ∧ ToldBy properties settings := by
  constructor
  · intro h
    obtain ⟨_, applied, h⟩ := bind_eq_ok.mp h
    obtain ⟨_, valid, same⟩ := bind_eq_ok.mp h
    cases same
    have settled := foldlM_applyProperty_iff.mp applied
    obtain ⟨identified, called⟩ := (validate_eq_ok_iff settings).mp valid
    obtain ⟨modes, tenancy⟩ := (foldlM_settle_iff TenancyMode.read_eq_ok_iff).mp settled.tenancy
    obtain ⟨versions, versioned⟩ := (foldlM_settle_iff (flag_eq_ok_iff _)).mp settled.versioned
    obtain ⟨nulls, nullable⟩ := (foldlM_settle_iff (flag_eq_ok_iff _)).mp settled.nullable
    obtain ⟨-, identifier⟩ := (foldlM_settle_iff readName_eq_ok_iff).mp settled.identifier
    obtain ⟨-, strategy⟩ := (foldlM_settle_iff readName_eq_ok_iff).mp settled.strategy
    exact ⟨⟨modes, versions, nulls, (isBlankText_told (by decide) identifier).mp identified,
      (isBlankText_told (by decide) strategy).mp called⟩,
      ⟨tenancy, versioned, nullable, identifier, strategy, settled.property⟩⟩
  · rintro ⟨accepted, told⟩
    have settled : Settled {} properties settings :=
      ⟨(foldlM_settle_iff TenancyMode.read_eq_ok_iff).mpr ⟨accepted.tenancy, told.tenancy⟩,
        (foldlM_settle_iff (flag_eq_ok_iff _)).mpr ⟨accepted.versioned, told.versioned⟩,
        (foldlM_settle_iff (flag_eq_ok_iff _)).mpr ⟨accepted.nullable, told.nullable⟩,
        (foldlM_settle_iff readName_eq_ok_iff).mpr ⟨exists_nameGiven _, told.identifier⟩,
        (foldlM_settle_iff readName_eq_ok_iff).mpr ⟨exists_nameGiven _, told.strategy⟩, told.property⟩
    have valid : settings.validate = .ok () :=
      (validate_eq_ok_iff settings).mpr ⟨(isBlankText_told (by decide) told.identifier).mpr accepted.identifier,
        (isBlankText_told (by decide) told.strategy).mpr accepted.strategy⟩
    exact bind_eq_ok.mpr ⟨settings, foldlM_applyProperty_iff.mpr settled, bind_eq_ok.mpr ⟨(), valid, rfl⟩⟩

/-- Accepted properties tell settings. -/
theorem exists_toldBy {properties : List (String × String)} (accepted : Acceptable properties) :
    ∃ settings, ToldBy properties settings := by
  obtain ⟨tenancy, htenancy⟩ := exists_told accepted.tenancy
  obtain ⟨versioned, hversioned⟩ := exists_told accepted.versioned
  obtain ⟨nullable, hnullable⟩ := exists_told accepted.nullable
  obtain ⟨identifier, hidentifier⟩ := exists_told (exists_nameGiven (valuesOf properties (fullKey identifierKey)))
  obtain ⟨strategy, hstrategy⟩ := exists_told (exists_nameGiven (valuesOf properties (fullKey strategyKey)))
  exact ⟨⟨tenancy, versioned, nullable, identifier, strategy, none⟩, htenancy, hversioned, hnullable, hidentifier,
    hstrategy, rfl⟩

/-! ### Order -/

/-- Properties with the same values under each key of settings give the same settings. -/
theorem ofProperties_eq_ok_of_same {properties others : List (String × String)} {settings : Settings}
    (same : ∀ key ∈ knownKeys, valuesOf properties key = valuesOf others key)
    (given : ofProperties properties = .ok settings) : ofProperties others = .ok settings := by
  obtain ⟨accepted, told⟩ := (ofProperties_eq_ok_iff properties settings).mp given
  simp only [knownKeys, List.forall_mem_cons] at same
  obtain ⟨tenancy, versioned, nullable, identifier, strategy, -⟩ := same
  refine (ofProperties_eq_ok_iff others settings).mpr ⟨⟨?_, ?_, ?_, ?_, ?_⟩, ⟨?_, ?_, ?_, ?_, ?_, told.property⟩⟩
  · exact tenancy ▸ accepted.tenancy
  · exact versioned ▸ accepted.versioned
  · exact nullable ▸ accepted.nullable
  · exact identifier ▸ accepted.identifier
  · exact strategy ▸ accepted.strategy
  · exact tenancy ▸ told.tenancy
  · exact versioned ▸ told.versioned
  · exact nullable ▸ told.nullable
  · exact identifier ▸ told.identifier
  · exact strategy ▸ told.strategy

theorem toOption_ofProperties_congr {properties others : List (String × String)}
    (same : ∀ key ∈ knownKeys, valuesOf properties key = valuesOf others key) :
    (ofProperties properties).toOption = (ofProperties others).toOption := by
  refine Option.ext fun settings => ?_
  rw [toOption_eq_some, toOption_eq_some]
  exact ⟨ofProperties_eq_ok_of_same same, ofProperties_eq_ok_of_same fun key known => (same key known).symm⟩

theorem valuesOf_swap {first second : String × String} (different : first.1 ≠ second.1)
    (before after : List (String × String)) (key : String) :
    valuesOf (before ++ first :: second :: after) key = valuesOf (before ++ second :: first :: after) key := by
  rw [valuesOf, valuesOf, List.filter_append, List.filter_append]
  by_cases own : first.1 = key
  · have other : second.1 ≠ key := fun same => different (own.trans same.symm)
    simp [own, other]
  · simp [List.filter_cons, own]

/-- Settings are told by properties if these are accepted, and just then. Properties of other programs make no
difference, nor does the order of two neighbours with different keys. -/
theorem ofProperties_tells :
    (∀ properties, (∃ settings, ofProperties properties = .ok settings) ↔ Acceptable properties) ∧
    (∀ properties settings, ofProperties properties = .ok settings → ToldBy properties settings) ∧
    (∀ properties others, properties.filter isKnown = others.filter isKnown →
      ofProperties properties = ofProperties others) ∧
    ∀ before first second after, first.1 ≠ second.1 → (ofProperties (before ++ first :: second :: after)).toOption =
      (ofProperties (before ++ second :: first :: after)).toOption := by
  refine ⟨fun properties => ⟨?_, fun accepted => ?_⟩, fun properties settings given => ?_,
    fun properties others same => ?_, fun before first second after different => ?_⟩
  · rintro ⟨settings, given⟩
    exact ((ofProperties_eq_ok_iff properties settings).mp given).1
  · obtain ⟨settings, told⟩ := exists_toldBy accepted
    exact ⟨settings, (ofProperties_eq_ok_iff properties settings).mpr ⟨accepted, told⟩⟩
  · exact ((ofProperties_eq_ok_iff properties settings).mp given).2
  · rw [ofProperties, ofProperties, ← foldlM_applyProperty_filter, same, foldlM_applyProperty_filter]
  · exact toOption_ofProperties_congr fun key _ => valuesOf_swap different before after key

/-- A flag that is turned off and on again, an identifier that is blank first, and a property of another program. -/
theorem ofProperties_tells_overridden :
    let versionedOff := ("persistmodel.default.versioned", "no")
    let foreign := ("server.port", "8080")
    let blank := ("persistmodel.default.identifier", " ")
    let tenancy := ("persistmodel.multi_tenancy.mode", " Schema ")
    let versionedOn := ("persistmodel.default.versioned", "1")
    let identifier := ("persistmodel.default.identifier", "\tuid")
    let properties := [versionedOff, foreign, blank, tenancy, versionedOn, identifier]
    let settings : Settings := { tenancy := .schema, identifier := "uid" }
    ofProperties properties = .ok settings ∧ Acceptable properties ∧ ToldBy properties settings ∧
      ofProperties [versionedOff, blank, tenancy, versionedOn, identifier, foreign] = .ok settings ∧
      (ofProperties [versionedOff, foreign, tenancy, blank, versionedOn, identifier]).toOption = some settings := by
  intro versionedOff foreign blank tenancy versionedOn identifier properties settings
  have given : ofProperties properties = .ok settings := toOption_eq_some.mp (by decide +kernel)
  obtain ⟨accepted, told, moved, exchanged⟩ := ofProperties_tells
  have apart : blank.1 ≠ tenancy.1 := by decide
  refine ⟨given, (accepted properties).mp ⟨settings, given⟩, told properties settings given,
    (moved _ properties ?_).trans given, ?_⟩
  · decide
  · exact (exchanged [versionedOff, foreign] blank tenancy [versionedOn, identifier] apart).symm.trans
      (toOption_eq_some.mpr given)

end Settings
end Persistence
