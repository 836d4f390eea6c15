import TextTemplate.Config.Json
import TextTemplate.Proofs.JsonRoundTrip

/-!
# Configurations in JSON texts

Configurations are read back from the JSON texts that are written for them.

* `Json.without` takes members out of an object, and `JsonFields.read?_without` tells the fields
  that are left.
* `configurations_round_trip`: the text of a configuration is read as that configuration, and
  without some of its fields as the one that has defaults for these.
-/

namespace TextTemplate

/-! ## Objects without some members -/

/-- An object without the members of the given names. -/
def Json.without (names : List String) : Json → Json
  | .object members => .object (members.filter fun m => m.key ∉ names.map some)
  | value => value

theorem Json.without_ofMembers (names : List String) (members : List (String × Json)) :
    (Json.ofMembers members).without names =
      .ofMembers (members.filter fun m => m.1 ∉ names) := by
  have hkept : ∀ m : String × Json, some m.1 ∈ names.map some ↔ m.1 ∈ names := by
    simp
  simp only [Json.ofMembers_eq, Json.without, List.filter_map, Function.comp_def,
    JsonMember.ofPair, hkept]

theorem lookup_filter_notMem (names : List String) (members : List (String × Json))
    (name : String) :
    (members.filter fun m => m.1 ∉ names).lookup name =
      if name ∈ names then none else members.lookup name := by
  induction members with
  | nil => simp
  | cons m members ih =>
    obtain ⟨key, value⟩ := m
    by_cases hkey : key ∈ names
    · rw [List.filter_cons_of_neg (by simpa using hkey), ih, List.lookup_cons]
      by_cases heq : name = key
      · subst heq
        simp [hkey]
      · simp [beq_eq_false_iff_ne.mpr heq]
    · rw [List.filter_cons_of_pos (by simpa using hkey), List.lookup_cons, ih, List.lookup_cons]
      by_cases heq : name = key
      · subst heq
        simp [hkey]
      · simp [beq_eq_false_iff_ne.mpr heq]

namespace JsonFields

theorem ofMembers?_cons_of_ne {key : Option String} {value : Json} {members : List JsonMember}
    {name : String} (h : key ≠ some name) :
    ofMembers? (⟨key, value⟩ :: members) name = ofMembers? members name := by
  rw [ofMembers?, List.filter_cons_of_neg (by simpa using h), ofMembers?]

theorem ofMembers?_cons_self {value : Json} {members : List JsonMember} {name : String}
    (h : ∀ m ∈ members, m.key ≠ some name) :
    ofMembers? (⟨some name, value⟩ :: members) name = some (some value) := by
  have hrest : members.filter (·.key = some name) = [] := by
    simpa using h
  rw [ofMembers?, List.filter_cons_of_pos (by simp), hrest]

/-- Among members of different keys, a field has the value that is looked up. -/
theorem ofMembers?_eq_lookup {members : List (String × Json)}
    (h : (members.map Prod.fst).Nodup) (name : String) :
    ofMembers? (members.map JsonMember.ofPair) name = some (members.lookup name) := by
  induction members with
  | nil => rfl
  | cons m members ih =>
    obtain ⟨key, value⟩ := m
    obtain ⟨hkey, hrest⟩ := List.nodup_cons.mp h
    rw [List.map_cons, List.lookup_cons, JsonMember.ofPair]
    by_cases heq : name = key
    · subst heq
      -- The key does not come again, or the field would be refused as given twice.
      have hothers : ∀ m ∈ members.map JsonMember.ofPair, m.key ≠ some name := by
        intro m hm hname
        obtain ⟨pair, hpair, rfl⟩ := List.mem_map.mp hm
        exact hkey (List.mem_map.mpr ⟨pair, hpair, Option.some.inj hname⟩)
      rw [ofMembers?_cons_self hothers]
      simp
    · have hne : some key ≠ some name := fun hsome => heq (Option.some.inj hsome).symm
      rw [ofMembers?_cons_of_ne hne, ih hrest]
      simp [beq_eq_false_iff_ne.mpr heq]

theorem read?_ofMembers {members : List (String × Json)} (h : (members.map Prod.fst).Nodup)
    (fields : List String) :
    read? fields (.ofMembers members) =
      some ⟨true, fields.map fun field => members.lookup field⟩ := by
  have hkeys : (members.map JsonMember.ofPair).all (·.key.isSome) = true := by
    simp [JsonMember.ofPair]
  have hvalues : fields.mapM (ofMembers? (members.map JsonMember.ofPair)) =
      some (fields.map fun field => members.lookup field) := by
    induction fields with
    | nil => rfl
    | cons field fields ih => simp [List.mapM_cons, ofMembers?_eq_lookup h, ih]
  simp only [read?, Json.ofMembers_eq, hkeys, if_true, hvalues, Option.map_some]

/-- The fields that are left of a record without some of its members. -/
theorem read?_without {members : List (String × Json)} (h : (members.map Prod.fst).Nodup)
    (fields names : List String) :
    read? fields ((Json.ofMembers members).without names) =
      some ⟨true, fields.map fun field =>
        if field ∈ names then none else members.lookup field⟩ := by
  have hkept : ((members.filter fun m => m.1 ∉ names).map Prod.fst).Nodup :=
    h.sublist (List.filter_sublist.map _)
  rw [Json.without_ofMembers, read?_ofMembers hkept]
  simp only [lookup_filter_notMem]

/-- A field that may be left out has its default exactly if it has been taken out. -/
theorem optional?_of_read?_without {α : Type} {members : List (String × Json)}
    (h : (members.map Prod.fst).Nodup) {fieldNames names : List String} {fields : JsonFields}
    (hfields : read? fieldNames ((Json.ofMembers members).without names) = some fields)
    {index : Nat} {name : String} (hname : fieldNames[index]? = some name) {json : Json}
    (hjson : members.lookup name = some json) {read : Json → Option α} {written : α}
    (hread : read json = some written) (standard : α) :
    fields.optional? index standard read =
      some (if name ∈ names then standard else written) := by
  rw [read?_without h] at hfields
  obtain rfl := Option.some.inj hfields
  have hvalue : (fieldNames.map fun field =>
      if field ∈ names then none else members.lookup field)[index]? =
        some (if name ∈ names then none else some json) := by
    rw [List.getElem?_map, hname, Option.map_some, hjson]
  rw [optional?, value?, hvalue]
  by_cases hremoved : name ∈ names
  · simp [hremoved]
  · simp [hremoved, hread]

end JsonFields

/-- A plain value stays plain without some of its members. -/
theorem Json.isPlain_without {members : List (String × Json)} (h : ∀ m ∈ members, m.2.IsPlain)
    (names : List String) : ((Json.ofMembers members).without names).IsPlain := by
  rw [Json.without_ofMembers]
  exact .object fun m hm => h m (List.mem_filter.mp hm).1

/-! ## Values of configurations -/

namespace AliasEntry

theorem isPlain_toJson (entry : AliasEntry) : entry.toJson.IsPlain := by
  refine .object fun m hm => ?_
  simp only [List.mem_cons, List.not_mem_nil, or_false] at hm
  rcases hm with rfl | rfl
  · exact .string entry.name
  · exact .string entry.target

theorem ofJson?_toJson (entry : AliasEntry) : ofJson? entry.toJson = some entry := by
  have hfields : JsonFields.read? ["alias", "target"] entry.toJson =
      some ⟨true, [some (.ofString entry.name), some (.ofString entry.target)]⟩ :=
    JsonFields.read?_ofMembers (by simp) ["alias", "target"]
  rw [ofJson?, hfields]
  rfl

end AliasEntry

namespace RegistryConfig

/-- The members that a configuration is written with. -/
def members (config : RegistryConfig) : List (String × Json) :=
  [("aliases", .array (config.aliases.map AliasEntry.toJson))]

theorem members_nodup (config : RegistryConfig) : (config.members.map Prod.fst).Nodup := by
  simp [members]

/-- The entries of a list, the empty one included, are read as that list. -/
theorem entriesOfJson?_toJson (entries : List AliasEntry) :
    entriesOfJson? (.array (entries.map AliasEntry.toJson)) = some entries := by
  rw [entriesOfJson?, Json.items?, Option.bind_some]
  induction entries with
  | nil => rfl
  | cons entry entries ih => simp [List.mapM_cons, AliasEntry.ofJson?_toJson, ih]

theorem isPlain_without (config : RegistryConfig) (names : List String) :
    (config.toJson.without names).IsPlain := by
  refine Json.isPlain_without (fun m hm => ?_) names
  obtain rfl := List.mem_singleton.mp hm
  refine .array fun item hitem => ?_
  obtain ⟨entry, -, rfl⟩ := List.mem_map.mp hitem
  exact entry.isPlain_toJson

theorem ofJson?_without (config : RegistryConfig) (names : List String) :
    ofJson? (config.toJson.without names) =
      some { aliases :=
        if "aliases" ∈ names then ({} : RegistryConfig).aliases else config.aliases } := by
  obtain ⟨fields, hfields⟩ : ∃ fields,
      JsonFields.read? ["aliases"] (config.toJson.without names) = some fields :=
    ⟨_, JsonFields.read?_without config.members_nodup ["aliases"] names⟩
  have haliases : fields.optional? 0 ({} : RegistryConfig).aliases entriesOfJson? =
      some (if "aliases" ∈ names then ({} : RegistryConfig).aliases else config.aliases) :=
    JsonFields.optional?_of_read?_without config.members_nodup hfields rfl rfl
      (entriesOfJson?_toJson config.aliases) _
  simp only [ofJson?, hfields, Option.bind_eq_bind, Option.bind_some, haliases]
  rfl

/-- What is left of the text of a configuration gives defaults for what is missing. -/
theorem parse?_without (config : RegistryConfig) (names : List String) :
    parse? (config.toJson.without names).render =
      some { aliases :=
        if "aliases" ∈ names then ({} : RegistryConfig).aliases else config.aliases } := by
  rw [parse?, Json.parse?_render (config.isPlain_without names), Option.bind_some,
    ofJson?_without]

end RegistryConfig

namespace EngineConfig

/-- The members that a configuration is written with. -/
def members (config : EngineConfig) : List (String × Json) :=
  [("static_caching", .bool config.staticCaching),
    ("max_nesting_depth", .natural config.maxNestingDepth)]

theorem members_nodup (config : EngineConfig) : (config.members.map Prod.fst).Nodup := by
  simp [members]

theorem isPlain_without (config : EngineConfig) (names : List String) :
    (config.toJson.without names).IsPlain := by
  refine Json.isPlain_without (fun m hm => ?_) names
  simp only [List.mem_cons, List.not_mem_nil, or_false] at hm
  rcases hm with rfl | rfl
  · exact .bool config.staticCaching
  · exact .natural config.maxNestingDepth

theorem ofJson?_without (config : EngineConfig) (h : config.maxNestingDepth < UInt64.size)
    (names : List String) :
    ofJson? (config.toJson.without names) =
      some
        { staticCaching :=
            if "static_caching" ∈ names then ({} : EngineConfig).staticCaching
            else config.staticCaching
          maxNestingDepth :=
            if "max_nesting_depth" ∈ names then ({} : EngineConfig).maxNestingDepth
            else config.maxNestingDepth } := by
  have hflag : Json.bool? (.bool config.staticCaching) = some config.staticCaching := rfl
  have hdepth : Json.word? (.natural config.maxNestingDepth) = some config.maxNestingDepth :=
    if_pos h
  obtain ⟨fields, hfields⟩ : ∃ fields, JsonFields.read? ["static_caching", "max_nesting_depth"]
      (config.toJson.without names) = some fields :=
    ⟨_, JsonFields.read?_without config.members_nodup ["static_caching", "max_nesting_depth"] names⟩
  have hcaching : fields.optional? 0 ({} : EngineConfig).staticCaching Json.bool? =
      some (if "static_caching" ∈ names then ({} : EngineConfig).staticCaching
        else config.staticCaching) :=
    JsonFields.optional?_of_read?_without config.members_nodup hfields rfl rfl hflag _
  have hnesting : fields.optional? 1 ({} : EngineConfig).maxNestingDepth Json.word? =
      some (if "max_nesting_depth" ∈ names then ({} : EngineConfig).maxNestingDepth
        else config.maxNestingDepth) :=
    JsonFields.optional?_of_read?_without config.members_nodup hfields rfl rfl hdepth _
  simp only [ofJson?, hfields, Option.bind_eq_bind, Option.bind_some, hcaching, hnesting]
  rfl

/-- What is left of the text of a configuration gives defaults for what is missing. -/
theorem parse?_without (config : EngineConfig) (h : config.maxNestingDepth < UInt64.size)
    (names : List String) :
    parse? (config.toJson.without names).render =
      some
        { staticCaching :=
            if "static_caching" ∈ names then ({} : EngineConfig).staticCaching
            else config.staticCaching
          maxNestingDepth :=
            if "max_nesting_depth" ∈ names then ({} : EngineConfig).maxNestingDepth
            else config.maxNestingDepth } := by
  rw [parse?, Json.parse?_render (config.isPlain_without names), Option.bind_some,
    config.ofJson?_without h]

end EngineConfig

/-! ## Texts of configurations -/

theorem Json.without_nil (members : List (String × Json)) :
    (Json.ofMembers members).without [] = .ofMembers members := by
  rw [Json.without_ofMembers, List.filter_eq_self.mpr (by simp)]

/-- The texts of configurations are read as these configurations, whatever their aliases and with
every nesting limit of 64 bits. Where fields are taken out of the objects first, they have their
defaults and the others the values that were written. -/
theorem configurations_round_trip (registry : RegistryConfig) (engine : EngineConfig)
    (hdepth : engine.maxNestingDepth < UInt64.size) :
    RegistryConfig.parse? registry.toJson.render = some registry ∧
    EngineConfig.parse? engine.toJson.render = some engine ∧
    ∀ names : List String,
      RegistryConfig.parse? (registry.toJson.without names).render =
        some { aliases :=
          if "aliases" ∈ names then ({} : RegistryConfig).aliases else registry.aliases } ∧
      EngineConfig.parse? (engine.toJson.without names).render =
        some
          { staticCaching :=
              if "static_caching" ∈ names then ({} : EngineConfig).staticCaching
              else engine.staticCaching
            maxNestingDepth :=
              if "max_nesting_depth" ∈ names then ({} : EngineConfig).maxNestingDepth
              else engine.maxNestingDepth } := by
  have hregistry : registry.toJson.without [] = registry.toJson := Json.without_nil _
  have hengine : engine.toJson.without [] = engine.toJson := Json.without_nil _
  -- The whole object is what is left when nothing is taken out.
  refine ⟨?_, ?_, fun names => ⟨registry.parse?_without names, engine.parse?_without hdepth names⟩⟩
  · rw [← hregistry, registry.parse?_without]
    rfl
  · rw [← hengine, engine.parse?_without hdepth]
    rfl

example : RegistryConfig.parse? RegistryConfig.empty.toJson.render = some .empty ∧
    RegistryConfig.empty ≠ {} := by
  decide

/-- The greatest nesting limit, and no alias, which is not the default. -/
theorem configurations_round_trip_greatest :
    18446744073709551615 < UInt64.size ∧
    RegistryConfig.parse? RegistryConfig.empty.toJson.render = some .empty ∧
    EngineConfig.parse? (EngineConfig.toJson ⟨false, 18446744073709551615⟩).render =
      some ⟨false, 18446744073709551615⟩ := by
  have hdepth : 18446744073709551615 < UInt64.size := by decide
  have hround := configurations_round_trip .empty ⟨false, 18446744073709551615⟩ hdepth
  exact ⟨hdepth, hround.1, hround.2.1⟩

end TextTemplate
