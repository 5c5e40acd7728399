import BranchingStory.Proofs.Demands

/-!
# How steps of documents are read

What is demanded of a step is a table: the fields that its kind reads, in the order in which they
are read, and what each of them may hold (`fieldsRead`). A step that meets the demands mirrors the
object that it is read from, field by field and option by option (`RawStep.Mirrors`).
`reads_readStep` says both at once, and that a step which does not meet them is refused at the first
place where it does not.
-/

namespace BranchingStory

/-! ## Values -/

mutual

theorem Value.isSome_ofJson?_iff : ∀ json : Json, (Value.ofJson? json).isSome = true ↔ json.NullFree
  | .null => by
    constructor
    · intro h
      exact absurd h (by simp [Value.ofJson?])
    · intro h
      cases h
  | .bool b => ⟨fun _ => .bool b, fun _ => rfl⟩
  | .number n => ⟨fun _ => .number n, fun _ => rfl⟩
  | .string s => ⟨fun _ => .string s, fun _ => rfl⟩
  | .array items => by
    rw [Value.ofJson?, Option.isSome_map, Value.isSome_itemsOfJson?_iff items]
    constructor
    · exact fun h => .array h
    · intro h
      cases h with
      | array h => exact h
  | .object fields => by
    rw [Value.ofJson?, Option.isSome_map, Value.isSome_entriesOfJson?_iff fields []]
    constructor
    · exact fun h => .object h
    · intro h
      cases h with
      | object h => exact h

theorem Value.isSome_itemsOfJson?_iff : ∀ items : List Json,
    (Value.itemsOfJson? items).isSome = true ↔ ∀ item ∈ items, item.NullFree
  | [] => by simp [Value.itemsOfJson?]
  | item :: rest => by
    have hitem := Value.isSome_ofJson?_iff item
    have hrest := Value.isSome_itemsOfJson?_iff rest
    rw [List.forall_mem_cons, ← hitem, ← hrest, Value.itemsOfJson?]
    cases Value.ofJson? item <;> cases Value.itemsOfJson? rest <;> simp

theorem Value.isSome_entriesOfJson?_iff : ∀ (fields : List (String × Json)) (d : Dict Value),
    (Value.entriesOfJson? fields d).isSome = true ↔ ∀ field ∈ fields, field.2.NullFree
  | [], d => by simp [Value.entriesOfJson?]
  | (name, json) :: rest, d => by
    have hjson := Value.isSome_ofJson?_iff json
    rw [List.forall_mem_cons, ← hjson, Value.entriesOfJson?]
    cases Value.ofJson? json with
    | none => simp
    | some value => simpa using Value.isSome_entriesOfJson?_iff rest (d.insert name value)

end

namespace Document

/-! ## The table -/

/-- A field is missing or `null`, or it is a text with a property. -/
inductive OptionalText (P : String → Prop) : Option Json → Prop
  | absent : OptionalText P none
  | null : OptionalText P (some .null)
  | text {s : String} (h : P s) : OptionalText P (some (.string s))

/-- A field is missing or `null`, or it is a value without `null` in it. -/
inductive OptionalValue : Option Json → Prop
  | absent : OptionalValue none
  | null : OptionalValue (some .null)
  | value {json : Json} (h : json.NullFree) : OptionalValue (some json)

/-- A field is missing or `null`, or it is an array. -/
inductive OptionalArray : Option Json → Prop
  | absent : OptionalArray none
  | null : OptionalArray (some .null)
  | array (items : List Json) : OptionalArray (some (.array items))

/-- A value is an option of a choice: its label, its target and perhaps its effect, each of which
may be `null`. -/
inductive OptionFormed (language : Script.Language) : Json → Prop
  | array {parts : List Json} (hlen : parts.length = 2 ∨ parts.length = 3)
    (hlabel : OptionalText (fun _ => True) parts[0]?)
    (htarget : OptionalText (fun _ => True) parts[1]?)
    (heffect : OptionalText (fun source => ∃ program, language.program? source = .ok program)
      parts[2]?) : OptionFormed language (.array parts)

/-- What a field has to be, if it is there. -/
inductive FieldRule
  /-- A text. -/
  | text
  /-- The name of a position. -/
  | position
  /-- A formula. -/
  | formula
  /-- A value of a variable, unless the value is computed. -/
  | value
  /-- Options of a choice. -/
  | options

/-- The fields that a kind of step reads, in their order. -/
def fieldsRead : String → List (String × FieldRule)
  | "background" => [("id", .text)]
  | "show_character" => [("id", .text), ("pose", .text), ("position", .position)]
  | "hide_character" => [("id", .text)]
  | "dialogue" => [("who", .text), ("text", .text)]
  | "narration" => [("text", .text)]
  | "set_variable" => [("key", .text), ("compute", .formula), ("value", .value)]
  | "jump_to" => [("nodeId", .text)]
  | "conditional_jump" => [("test", .formula), ("thenNodeId", .text), ("elseNodeId", .text)]
  | "choice" => [("prompt", .text), ("options", .options)]
  | _ => []

namespace RawStep

variable (raw : RawStep)

/-- The text in a field, if there is one. -/
def textAt (name : String) : Option String :=
  (raw.fields.get? name).bind Json.string?

/-- What is demanded of the options in a field. -/
def optionDemands : Option Json → List Demand
  | some (.array items) => items.zipIdx.map fun item =>
    ⟨.option raw.path raw.index item.2, OptionFormed raw.language item.1⟩
  | _ => []

/-- What a rule demands of a field. -/
def fieldDemands (name : String) : FieldRule → List Demand
  | .text => [⟨raw.place name, OptionalText (fun _ => True) (raw.fields.get? name)⟩]
  | .position =>
    [⟨raw.place name,
      OptionalText (fun s => s ∈ ["left", "center", "right"]) (raw.fields.get? name)⟩]
  | .formula =>
    [⟨raw.place name, OptionalText
      (fun source => ∃ formula, raw.language.formula? source = .ok formula)
      (raw.fields.get? name)⟩]
  | .value =>
    [⟨raw.place name, raw.textAt "compute" ≠ none ∨ OptionalValue (raw.fields.get? name)⟩]
  | .options =>
    ⟨raw.place name, OptionalArray (raw.fields.get? name)⟩ ::
      raw.optionDemands (raw.fields.get? name)

/-- What is demanded of a step: that its kind, if it is there, is a text, and what the kind demands
of the fields that it reads. -/
def demands : List Demand :=
  raw.fieldDemands "kind" .text ++
    match raw.textAt "kind" with
    | some kind => (fieldsRead kind).flatMap fun (name, rule) => raw.fieldDemands name rule
    | none => []

theorem extends_of_mem_fieldDemands {raw : RawStep} {name : String} {rule : FieldRule} {d : Demand}
    (h : d ∈ raw.fieldDemands name rule) : d.location.Extends (.step raw.path raw.index) := by
  cases rule with
  | text | position | formula | value =>
    rw [List.mem_singleton.1 h]
    exact .field _ _ name
  | options =>
    rcases List.mem_cons.1 h with rfl | h
    · exact .field _ _ name
    · unfold optionDemands at h
      split at h
      · obtain ⟨item, -, rfl⟩ := List.mem_map.1 h
        exact .option _ _ _
      · exact absurd h List.not_mem_nil

theorem extends_of_mem_demands {raw : RawStep} {d : Demand} (h : d ∈ raw.demands) :
    d.location.Extends (.step raw.path raw.index) := by
  rcases List.mem_append.1 h with h | h
  · exact extends_of_mem_fieldDemands h
  · split at h
    · obtain ⟨field, -, h⟩ := List.mem_flatMap.1 h
      exact extends_of_mem_fieldDemands h
    · exact absurd h List.not_mem_nil

/-! ## What is made of a step -/

/-- The source of a value mirrors the fields that it is read from. -/
inductive SourceMirrors : Option ValueSource → Prop
  | computed {source : String} {formula : raw.language.Formula}
    (hc : raw.textAt "compute" = some source) (hf : raw.language.formula? source = .ok formula) :
    SourceMirrors (some (.computed (raw.language.compute formula (raw.place "compute"))))
  | literal {json : Json} {value : Value} (hc : raw.textAt "compute" = none)
    (hj : raw.fields.get? "value" = some json) (hv : Value.ofJson? json = some value) :
    SourceMirrors (some (.literal value))
  | absent (hc : raw.textAt "compute" = none)
    (hv : raw.fields.get? "value" = none ∨ raw.fields.get? "value" = some .null) :
    SourceMirrors none

/-- The test of a branch mirrors the field that it is read from. -/
inductive TestMirrors : Option Test → Prop
  | formula {source : String} {formula : raw.language.Formula}
    (ht : raw.textAt "test" = some source) (hf : raw.language.formula? source = .ok formula) :
    TestMirrors (some (raw.language.test source formula (raw.place "test")))
  | absent (ht : raw.textAt "test" = none) : TestMirrors none

/-- The effect of the option with a number mirrors the part that it is read from. -/
inductive EffectMirrors (number : Nat) (part : Option Json) : Option Effect → Prop
  | program {source : String} {program : raw.language.Program} (hs : part = some (.string source))
    (hp : raw.language.program? source = .ok program) :
    EffectMirrors number part
      (some (raw.language.effect program (.option raw.path raw.index number)))
  | absent (hs : part.bind Json.string? = none) : EffectMirrors number part none

/-- The option with a number mirrors the value that it is read from. -/
inductive OptionMirrors (number : Nat) : Json → ChoiceOption → Prop
  | array {parts : List Json} {effect : Option Effect}
    (he : raw.EffectMirrors number parts[2]? effect) :
    OptionMirrors number (.array parts)
      ⟨parts[0]?.bind Json.string?, parts[1]?.bind Json.string?, effect⟩

/-- The options of a choice mirror the field that they are read from, one by one. -/
inductive OptionsMirror : Option Json → List ChoiceOption → Prop
  | absent : OptionsMirror none []
  | null : OptionsMirror (some .null) []
  | array {items : List Json} {options : List ChoiceOption}
    (h : Numbered raw.OptionMirrors items options) : OptionsMirror (some (.array items)) options

/-- A step mirrors the object that it is read from. -/
inductive Mirrors : Step → Prop
  | background (hk : raw.textAt "kind" = some "background") :
    Mirrors (.background (raw.textAt "id"))
  | showCharacter (hk : raw.textAt "kind" = some "show_character") :
    Mirrors (.showCharacter (raw.textAt "id") (raw.textAt "pose")
      ((raw.textAt "position").bind Position.ofName?))
  | hideCharacter (hk : raw.textAt "kind" = some "hide_character") :
    Mirrors (.hideCharacter (raw.textAt "id"))
  | dialogue (hk : raw.textAt "kind" = some "dialogue") :
    Mirrors (.dialogue (raw.textAt "who") (raw.textAt "text"))
  | narration (hk : raw.textAt "kind" = some "narration") :
    Mirrors (.narration (raw.textAt "text"))
  | setVariable {source : Option ValueSource} (hk : raw.textAt "kind" = some "set_variable")
    (hs : raw.SourceMirrors source) : Mirrors (.setVariable (raw.textAt "key") source)
  | jump (hk : raw.textAt "kind" = some "jump_to") : Mirrors (.jump (raw.textAt "nodeId"))
  | branch {test : Option Test} (hk : raw.textAt "kind" = some "conditional_jump")
    (ht : raw.TestMirrors test) :
    Mirrors (.branch test (raw.textAt "thenNodeId") (raw.textAt "elseNodeId"))
  | choice {options : List ChoiceOption} (hk : raw.textAt "kind" = some "choice")
    (ho : raw.OptionsMirror (raw.fields.get? "options") options) :
    Mirrors (.choice (raw.textAt "prompt") options)
  | ending (hk : raw.textAt "kind" = some "end_story") : Mirrors .ending
  | unrecognized {kind : String} (hk : raw.textAt "kind" = some kind)
    (hn : kind ∉ ["background", "show_character", "hide_character", "dialogue", "narration",
      "set_variable", "jump_to", "conditional_jump", "choice", "end_story"]) :
    Mirrors (.unrecognized kind)
  | unnamed (hk : raw.textAt "kind" = none) : Mirrors (.unrecognized "")

/-! ## Fields -/

variable {raw}

/-- A text is read before what is made of it. -/
theorem reads_afterText {α : Type} {location base : Location} {field : Option Json}
    {P : String → Prop} {make : Option String → Except LoadError α} {Result : α → Prop}
    (hl : location.Extends base)
    (hnone : field.bind Json.string? = none → Reads (make none) [] Result)
    (hsome : ∀ s, field = some (.string s) → Reads (make (some s)) [⟨base, P s⟩] Result) :
    Reads (optionalText location field >>= make) [⟨base, OptionalText P field⟩] Result := by
  have hrefuse : ∀ json, ¬ OptionalText P (some json) →
      Reads (.error (.textExpected location json) : Except LoadError α)
        [⟨base, OptionalText P (some json)⟩] Result := fun json hn => .refuse hn rfl hl
  rcases field with _ | json
  · exact (hnone rfl).unite (by simp) (by simp [OptionalText.absent])
  · cases json with
    | null => exact (hnone rfl).unite (by simp) (by simp [OptionalText.null])
    | string s =>
      refine (hsome s rfl).unite (List.forall_mem_singleton.2 (.refl base)) ?_
      rw [List.forall_mem_singleton]
      constructor
      · exact fun h => .text h
      · intro h
        cases h with
        | text h => exact h
    | bool b => exact hrefuse (.bool b) (by rintro ⟨⟩)
    | number n => exact hrefuse (.number n) (by rintro ⟨⟩)
    | array items => exact hrefuse (.array items) (by rintro ⟨⟩)
    | object fields => exact hrefuse (.object fields) (by rintro ⟨⟩)

theorem reads_optionalText (location : Location) (field : Option Json) :
    Reads (optionalText location field) [⟨location, OptionalText (fun _ => True) field⟩]
      (fun found => found = field.bind Json.string?) := by
  have h : Reads (optionalText location field >>= fun found => pure found)
      [⟨location, OptionalText (fun _ => True) field⟩]
      (fun found => found = field.bind Json.string?) :=
    reads_afterText (.refl location) (fun hn => .pure (by simp) hn.symm) fun s hs =>
      .pure (by simp) (by rw [hs]; rfl)
  rwa [bind_pure] at h

theorem reads_text (raw : RawStep) (name : String) :
    Reads (raw.text name) (raw.fieldDemands name .text) (fun found => found = raw.textAt name) :=
  reads_optionalText _ _

theorem isSome_ofName?_iff {s : String} :
    (Position.ofName? s).isSome = true ↔ s ∈ ["left", "center", "right"] := by
  unfold Position.ofName?
  split <;> simp_all

theorem reads_position (raw : RawStep) (name : String) :
    Reads (raw.position name) (raw.fieldDemands name .position)
      (fun found => found = (raw.textAt name).bind Position.ofName?) := by
  refine reads_afterText (.refl _) (fun hn => ?_) fun s hs => ?_
  · refine .pure (by simp) ?_
    rw [textAt, hn]
    rfl
  · have htext : raw.textAt name = some s := by rw [textAt, hs]; rfl
    have hiff := isSome_ofName?_iff (s := s)
    rw [htext]
    dsimp only
    cases hp : Position.ofName? s with
    | none =>
      rw [hp] at hiff
      exact .refuse (fun h => absurd (hiff.2 h) (by simp)) rfl (.refl _)
    | some p =>
      rw [hp] at hiff
      exact .pure (List.forall_mem_singleton.2 (hiff.1 rfl)) hp.symm

theorem reads_formula (raw : RawStep) (name : String) :
    Reads (raw.formula name) (raw.fieldDemands name .formula)
      (fun found => raw.textAt name = found.map Prod.fst ∧
        ∀ source formula, found = some (source, formula) →
          raw.language.formula? source = .ok formula) := by
  refine reads_afterText (.refl _) (fun hn => ?_) fun s hs => ?_
  · exact .pure (by simp) ⟨hn, by simp⟩
  · have htext : raw.textAt name = some s := by rw [textAt, hs]; rfl
    dsimp only
    cases hf : raw.language.formula? s with
    | error problem => exact .refuse (by simp) rfl (.refl _)
    | ok formula =>
      refine .pure (List.forall_mem_singleton.2 ⟨formula, rfl⟩) ⟨htext, ?_⟩
      rintro _ _ ⟨⟩
      exact hf

theorem reads_literal (raw : RawStep) (hc : raw.textAt "compute" = none) :
    Reads (raw.literal "value") (raw.fieldDemands "value" .value)
      (fun found => raw.SourceMirrors (found.map .literal)) := by
  unfold literal
  split
  · next hv =>
    refine .pure (List.forall_mem_singleton.2 (.inr ?_)) (.absent hc (.inl hv))
    rw [hv]
    exact .absent
  · next hv =>
    refine .pure (List.forall_mem_singleton.2 (.inr ?_)) (.absent hc (.inr hv))
    rw [hv]
    exact .null
  · next json hn hv =>
    have hiff := Value.isSome_ofJson?_iff json
    split
    · next value hvalue =>
      refine .pure (List.forall_mem_singleton.2 (.inr ?_)) (.literal hc hv hvalue)
      rw [hv]
      exact .value (hiff.1 (by rw [hvalue]; rfl))
    · next hvalue =>
      refine .refuse ?_ rfl (.refl _)
      rintro (h | h)
      · exact h hc
      · rw [hv] at h
        cases h with
        | null => exact hn rfl
        | value h => exact absurd (hiff.2 h) (by simp [hvalue])

theorem reads_source (raw : RawStep) :
    Reads raw.source (raw.fieldDemands "compute" .formula ++ raw.fieldDemands "value" .value)
      raw.SourceMirrors := by
  refine (reads_formula raw "compute").bind fun found hfound => ?_
  obtain ⟨htext, hformula⟩ := hfound
  rcases found with _ | ⟨source, formula⟩
  · exact (reads_literal raw htext).map fun _ h => h
  · refine .pure (List.forall_mem_singleton.2 (.inl ?_)) (.computed htext (hformula _ _ rfl))
    -- The field `value` is not read then, so it may hold anything.
    rw [htext]
    exact Option.some_ne_none _

theorem reads_test (raw : RawStep) :
    Reads raw.test (raw.fieldDemands "test" .formula) raw.TestMirrors := by
  refine (reads_formula raw "test").map fun found hfound => ?_
  obtain ⟨htext, hformula⟩ := hfound
  rcases found with _ | ⟨source, formula⟩
  · exact .absent htext
  · exact .formula htext (hformula _ _ rfl)

/-! ## Options -/

theorem reads_effect (raw : RawStep) (number : Nat) (parts : List Json) :
    Reads (raw.effect number parts)
      [⟨.option raw.path raw.index number, OptionalText
        (fun source => ∃ program, raw.language.program? source = .ok program) parts[2]?⟩]
      (raw.EffectMirrors number parts[2]?) := by
  refine reads_afterText (.piece _ _ _ _) (fun hn => ?_) fun s hs => ?_
  · exact .pure (by simp) (.absent hn)
  · dsimp only
    cases hp : raw.language.program? s with
    | error problem => exact .refuse (by simp) rfl (.refl _)
    | ok program => exact .pure (List.forall_mem_singleton.2 ⟨program, rfl⟩) (.program hs hp)

theorem reads_option (raw : RawStep) (number : Nat) (json : Json) :
    Reads (raw.option number json)
      [⟨.option raw.path raw.index number, OptionFormed raw.language json⟩]
      (raw.OptionMirrors number json) := by
  unfold RawStep.option
  split
  · next parts =>
    split
    · next hlen =>
      have hlabel := reads_optionalText (.part raw.path raw.index number 0) parts[0]?
      have htarget := reads_optionalText (.part raw.path raw.index number 1) parts[1]?
      -- The effect is read before the label and the target, but the option is one demand: whichever
      -- part is refused, the place that is told is in the option.
      refine Reads.unite ((reads_effect raw number parts).bind fun effect he =>
        hlabel.bind fun label hl => htarget.map fun target ht => ?_) ?_ ?_
      · subst hl ht
        exact .array he
      · simp only [List.cons_append, List.nil_append, List.forall_mem_cons]
        exact ⟨.refl _, .piece _ _ _ _, .piece _ _ _ _, List.forall_mem_nil _⟩
      · simp only [List.cons_append, List.nil_append, List.forall_mem_cons]
        constructor
        · rintro ⟨he, hl, ht, -⟩
          exact .array hlen hl ht he
        · rintro ⟨-, hl, ht, he⟩
          exact ⟨he, hl, ht, List.forall_mem_nil _⟩
    · next hlen =>
      refine .refuse ?_ rfl (.refl _)
      rintro ⟨h, -, -, -⟩
      exact hlen h
  · next hn =>
    refine .refuse ?_ rfl (.refl _)
    rintro ⟨-, -, -, -⟩
    exact hn _ rfl

theorem reads_options (raw : RawStep) :
    Reads raw.options (raw.fieldDemands "options" .options)
      (raw.OptionsMirror (raw.fields.get? "options")) := by
  rw [fieldDemands]
  unfold options
  split
  · next hf =>
    rw [hf]
    exact .pure (List.forall_mem_singleton.2 .absent) .absent
  · next hf =>
    rw [hf]
    exact .pure (List.forall_mem_singleton.2 .null) .null
  · next items hf =>
    rw [hf, optionDemands, List.map_eq_flatMap]
    have hall := Reads.mapM_zipIdx (fun json number => raw.option number json) _
      (fun json number => reads_option raw number json) items
    exact (hall.mono fun _ h => .array h).after (.array items)
  · next other hnull harray hf =>
    rw [hf]
    refine .refuse ?_ rfl (.refl _)
    rintro ⟨⟩
    · exact hnull rfl
    · exact harray _ rfl

/-! ## Steps -/

theorem reads_ofKind (raw : RawStep) {kind : String} (hk : raw.textAt "kind" = some kind) :
    Reads (raw.ofKind kind)
      ((fieldsRead kind).flatMap fun (name, rule) => raw.fieldDemands name rule) raw.Mirrors := by
  unfold ofKind
  split
  · refine (reads_text raw "id").map ?_
    rintro _ rfl
    exact .background hk
  · refine (reads_text raw "id").bind fun character hcharacter =>
      (reads_text raw "pose").bind fun pose hpose =>
        (reads_position raw "position").map fun position hposition => ?_
    subst hcharacter hpose hposition
    exact .showCharacter hk
  · refine (reads_text raw "id").map ?_
    rintro _ rfl
    exact .hideCharacter hk
  · refine (reads_text raw "who").bind fun speaker hspeaker =>
      (reads_text raw "text").map fun text htext => ?_
    subst hspeaker htext
    exact .dialogue hk
  · refine (reads_text raw "text").map ?_
    rintro _ rfl
    exact .narration hk
  · refine (reads_text raw "key").bind fun key hkey =>
      (reads_source raw).map fun source hsource => ?_
    subst hkey
    exact .setVariable hk hsource
  · refine (reads_text raw "nodeId").map ?_
    rintro _ rfl
    exact .jump hk
  · refine (reads_test raw).bind fun test htest =>
      (reads_text raw "thenNodeId").bind fun target htarget =>
        (reads_text raw "elseNodeId").map fun otherwise hotherwise => ?_
    subst htarget hotherwise
    exact .branch hk htest
  · have hdemands : ((fieldsRead "choice").flatMap fun (name, rule) => raw.fieldDemands name rule) =
        raw.fieldDemands "prompt" .text ++ raw.fieldDemands "options" .options := by
      simp [fieldsRead]
    rw [hdemands]
    refine (reads_text raw "prompt").bind fun prompt hprompt =>
      (reads_options raw).map fun options hoptions => ?_
    subst hprompt
    exact .choice hk hoptions
  · exact .pure (List.forall_mem_nil _) (.ending hk)
  · next hother =>
    have hnone : fieldsRead kind = [] := by
      unfold fieldsRead
      split <;> first | rfl | simp_all
    rw [hnone]
    exact .pure (List.forall_mem_nil _) (.unrecognized hk (by simp_all))

theorem reads_step (raw : RawStep) : Reads raw.step raw.demands raw.Mirrors := by
  refine (reads_text raw "kind").bind ?_
  rintro _ rfl
  cases hk : raw.textAt "kind" with
  | none => exact .pure (List.forall_mem_nil _) (.unnamed hk)
  | some kind => exact reads_ofKind raw hk

end RawStep

/-- What is demanded of the step with a number: that it is an object, and what is demanded of its
fields. -/
def stepDemands (language : Script.Language) (path : String) (index : Nat) (json : Json) :
    List Demand :=
  ⟨.step path index, ∃ fields, json = .object fields⟩ ::
    match json with
    | .object fields => (RawStep.mk fields path index language).demands
    | _ => []

theorem extends_of_mem_stepDemands {language : Script.Language} {path : String} {index : Nat}
    {json : Json} {d : Demand} (h : d ∈ stepDemands language path index json) :
    d.location.Extends (.step path index) := by
  rcases List.mem_cons.1 h with rfl | h
  · exact .refl _
  · split at h
    · exact RawStep.extends_of_mem_demands h
    · exact absurd h List.not_mem_nil

/-- A step mirrors the value that it is read from. -/
inductive StepMirrors (language : Script.Language) (path : String) (index : Nat) :
    Json → Step → Prop
  | object {fields : Dict Json} {step : Step}
    (h : (RawStep.mk fields path index language).Mirrors step) :
    StepMirrors language path index (.object fields) step

/-- A step is read from a value that meets the demands, which it mirrors; any other value is refused
at the first demand that it does not meet. -/
theorem reads_readStep (language : Script.Language) (path : String) (index : Nat) (json : Json) :
    Reads (readStep path index json language) (stepDemands language path index json)
      (StepMirrors language path index json) := by
  cases json with
  | object fields =>
    exact ((RawStep.mk fields path index language).reads_step.mono fun _ h => .object h).after
      ⟨fields, rfl⟩
  | _ =>
    refine .refuse ?_ rfl (.refl _)
    rintro ⟨fields, heq⟩
    exact absurd heq (by simp)

end Document

end BranchingStory
