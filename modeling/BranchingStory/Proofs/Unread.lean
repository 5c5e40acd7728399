import BranchingStory.Proofs.Mirrored
import BranchingStory.Proofs.StepNeeds

/-!
# What is not read in a document

A step of a document may hold more than is read of it. It makes no difference whether a field is
missing or `null`, and what a field holds that the kind of the step does not read, or that gives way
to another one; nor does it make a difference whether the effect of an option is missing or `null`.
Documents that are alike but for that (`Alike`) make the same story, or are refused with the same
error (`load_alike`).

The error is the same because fields are read in the same order whatever else is there, so every
lemma about a part of a document is an equation between what is read from two such parts, failures
included. The language of the scripts is arbitrary, so they come from the same sources and places.
-/

namespace BranchingStory

/-- Computations over numbered lists whose members lead to the same. -/
theorem mapM_zipIdx_congr {ε α β : Type} {R : α → α → Prop} {f g : α × Nat → Except ε β}
    (hfg : ∀ x y n, R x y → f (x, n) = g (y, n)) {xs ys : List α} (h : List.Forall₂ R xs ys)
    (n : Nat) : (xs.zipIdx n).mapM f = (ys.zipIdx n).mapM g := by
  induction h generalizing n with
  | nil => rfl
  | cons hxy _ ih =>
    rw [List.zipIdx_cons, List.zipIdx_cons, List.mapM_cons, List.mapM_cons, hfg _ _ n hxy, ih]

namespace Document

/-! ## Documents that are alike -/

/-- Entries of objects that are the same, or both missing or `null`. -/
inductive EntryAlike : Option Json → Option Json → Prop
  | same (entry : Option Json) : EntryAlike entry entry
  | absent {entry entry' : Option Json} (h : Absent entry) (h' : Absent entry') :
    EntryAlike entry entry'

/-- Options that are the same, but for an effect that is missing or `null`. -/
inductive OptionAlike : Json → Json → Prop
  | same (json : Json) : OptionAlike json json
  | extended (label target : Json) :
    OptionAlike (.array [label, target]) (.array [label, target, .null])
  | shortened (label target : Json) :
    OptionAlike (.array [label, target, .null]) (.array [label, target])

/-- Fields that are alike by what a rule says to be read of them. -/
inductive FieldAlike (fields fields' : Dict Json) (name : String) : FieldRule → Prop
  | entry {rule : FieldRule} (h : EntryAlike (fields.get? name) (fields'.get? name)) :
    FieldAlike fields fields' name rule
  /-- The value of a variable is not read if it is computed. -/
  | computed (h : ¬ Absent (fields.get? "compute")) : FieldAlike fields fields' name .value
  | options {items items' : List Json} (hi : fields.get? name = some (.array items))
      (hi' : fields'.get? name = some (.array items')) (h : List.Forall₂ OptionAlike items items') :
    FieldAlike fields fields' name .options

/-- Steps that are alike in their kind and in the fields that it reads. -/
structure FieldsAlike (fields fields' : Dict Json) : Prop where
  kind : EntryAlike (fields.get? "kind") (fields'.get? "kind")
  read {kind name : String} {rule : FieldRule} (hk : fields.get? "kind" = some (.string kind))
    (h : (name, rule) ∈ fieldsRead kind) : FieldAlike fields fields' name rule

/-- Members of a node that are the same or steps that are alike. -/
inductive StepAlike : Json → Json → Prop
  | same (json : Json) : StepAlike json json
  | object {fields fields' : Dict Json} (h : FieldsAlike fields fields') :
    StepAlike (.object fields) (.object fields')

mutual

/-- Nodes and groups that are alike in their steps. -/
inductive TreeAlike : Json → Json → Prop
  | same (json : Json) : TreeAlike json json
  | leaf {items items' : List Json} (h : List.Forall₂ StepAlike items items') :
    TreeAlike (.array items) (.array items')
  | group {children children' : List (String × Json)} (h : ChildrenAlike children children') :
    TreeAlike (.object children) (.object children')

/-- Children of groups that have the same names and are alike. -/
inductive ChildrenAlike : List (String × Json) → List (String × Json) → Prop
  | nil : ChildrenAlike [] []
  | cons (name : String) {json json' : Json} {rest rest' : List (String × Json)}
      (h : TreeAlike json json') (hrest : ChildrenAlike rest rest') :
    ChildrenAlike ((name, json) :: rest) ((name, json') :: rest')

end

/-- Documents that are alike in their nodes, and the same otherwise. -/
structure Alike (d d' : Document) : Prop where
  start : d.start = d'.start
  vars : d.vars = d'.vars
  nodes : Option.Rel TreeAlike d.nodes d'.nodes
  characters : d.characters = d'.characters
  places : d.places = d'.places

/-! ## Steps -/

variable {fields fields' : Dict Json} {name : String}

namespace RawStep

/-- The step with other fields. -/
def withFields (raw : RawStep) (fields : Dict Json) : RawStep :=
  { raw with fields }

variable {raw : RawStep}

theorem optionalText_alike {entry entry' : Option Json} (h : EntryAlike entry entry')
    (location : Location) : optionalText location entry = optionalText location entry' := by
  cases h with
  | same => rfl
  | absent h h' => rcases h with rfl | rfl <;> rcases h' with rfl | rfl <;> rfl

/-- A text is found where there is one, and nothing only where there is nothing. -/
theorem eq_of_optionalText {location : Location} {entry : Option Json} {found : Option String}
    (h : optionalText location entry = .ok found) :
    found = none ∧ Absent entry ∨ ∃ s, found = some s ∧ entry = some (.string s) := by
  unfold optionalText at h
  split at h
  · exact .inl ⟨(Except.ok.inj h).symm, .inl rfl⟩
  · exact .inl ⟨(Except.ok.inj h).symm, .inr rfl⟩
  · next s => exact .inr ⟨s, (Except.ok.inj h).symm, rfl⟩
  · exact absurd h (by simp)

theorem text_alike (h : FieldAlike raw.fields fields' name .text) :
    raw.text name = (raw.withFields fields').text name := by
  cases h with
  | entry h => exact optionalText_alike h _

theorem position_alike (h : FieldAlike raw.fields fields' name .position) :
    raw.position name = (raw.withFields fields').position name := by
  cases h with
  | entry h =>
    rw [position, text_alike (.entry h)]
    rfl

theorem formula_alike (h : FieldAlike raw.fields fields' name .formula) :
    raw.formula name = (raw.withFields fields').formula name := by
  cases h with
  | entry h =>
    rw [formula, formula, text_alike (.entry h)]
    rcases (raw.withFields fields').text name with error | _ | source
    · rfl
    · rfl
    -- Both sides ask the same language, but in matches over different steps: the answer is split
    -- before they can be compared.
    · dsimp only [withFields, bind, Except.bind]
      cases raw.language.formula? source with
      | ok formula => rfl
      | error problem => rfl

theorem test_alike (h : FieldAlike raw.fields fields' "test" .formula) :
    raw.test = (raw.withFields fields').test := by
  rw [test, test, formula_alike h]
  rcases (raw.withFields fields').formula "test" with error | _ | _
  · rfl
  · rfl
  · rfl

theorem literal_alike (h : EntryAlike (raw.fields.get? name) (fields'.get? name)) :
    raw.literal name = (raw.withFields fields').literal name := by
  have hfields : (raw.withFields fields').fields = fields' := rfl
  unfold literal
  rw [hfields]
  generalize raw.fields.get? name = entry at h
  generalize fields'.get? name = entry' at h
  cases h with
  | same => rfl
  | absent h h' => rcases h with rfl | rfl <;> rcases h' with rfl | rfl <;> rfl

/-- A field that is there has a formula, or it is refused. -/
theorem formula_ne_none (h : ¬ Absent (raw.fields.get? name)) : raw.formula name ≠ .ok none := by
  intro hnone
  rw [formula, bind_eq_ok] at hnone
  obtain ⟨found, htext, hfound⟩ := hnone
  rcases eq_of_optionalText htext with ⟨-, habsent⟩ | ⟨source, rfl, -⟩
  · exact h habsent
  · dsimp only at hfound
    split at hfound
    · exact absurd hfound (by simp)
    · exact absurd hfound (by simp)

theorem source_alike (hc : FieldAlike raw.fields fields' "compute" .formula)
    (hv : FieldAlike raw.fields fields' "value" .value) :
    raw.source = (raw.withFields fields').source := by
  have hformula := formula_alike hc
  rw [source, source, ← hformula]
  cases hv with
  | entry hv =>
    rw [literal_alike hv]
    rcases raw.formula "compute" with error | _ | _
    · rfl
    · rfl
    · rfl
  | computed h =>
    -- The formula is found or refused, so the field `value` is not come to on either side.
    have hne := formula_ne_none h
    rcases hfound : raw.formula "compute" with error | _ | _
    · rfl
    · exact absurd hfound hne
    · rfl

/-- What an option is read from has nothing to do with the other fields. -/
theorem option_withFields (raw : RawStep) (fields : Dict Json) (number : Nat) (json : Json) :
    (raw.withFields fields).option number json = raw.option number json := by
  have heffect (parts : List Json) :
      (raw.withFields fields).effect number parts = raw.effect number parts := by
    dsimp only [effect, withFields]
    rcases optionalText (.part raw.path raw.index number 2) parts[2]? with error | _ | source
    · rfl
    · rfl
    · dsimp only [bind, Except.bind]
      cases raw.language.program? source with
      | ok program => rfl
      | error problem => rfl
  cases json with
  | array parts =>
    rw [option, option, heffect]
    rfl
  | _ => rfl

theorem option_alike {json json' : Json} (h : OptionAlike json json') (number : Nat) :
    raw.option number json = raw.option number json' := by
  cases h with
  | same => rfl
  | extended label target => rfl
  | shortened label target => rfl

theorem options_alike (h : FieldAlike raw.fields fields' "options" .options) :
    raw.options = (raw.withFields fields').options := by
  have hfields : (raw.withFields fields').fields = fields' := rfl
  have hplace : (raw.withFields fields').place "options" = raw.place "options" := rfl
  unfold options
  simp only [hfields, hplace, option_withFields]
  cases h with
  | entry h =>
    generalize raw.fields.get? "options" = entry at h
    generalize fields'.get? "options" = entry' at h
    cases h with
    | same => rfl
    | absent h h' => rcases h with rfl | rfl <;> rcases h' with rfl | rfl <;> rfl
  | options hi hi' h =>
    rw [hi, hi']
    exact mapM_zipIdx_congr (fun _ _ number hjson => option_alike hjson number) h 0

/-- The fields that a kind does not read are not looked at. -/
theorem ofKind_alike {kind : String}
    (h : ∀ name rule, (name, rule) ∈ fieldsRead kind → FieldAlike raw.fields fields' name rule) :
    raw.ofKind kind = (raw.withFields fields').ofKind kind := by
  unfold ofKind
  split
  · have hid := h "id" .text (by simp [fieldsRead])
    rw [text_alike hid]
  · have hid := h "id" .text (by simp [fieldsRead])
    have hpose := h "pose" .text (by simp [fieldsRead])
    have hposition := h "position" .position (by simp [fieldsRead])
    rw [text_alike hid, text_alike hpose, position_alike hposition]
  · have hid := h "id" .text (by simp [fieldsRead])
    rw [text_alike hid]
  · have hwho := h "who" .text (by simp [fieldsRead])
    have htext := h "text" .text (by simp [fieldsRead])
    rw [text_alike hwho, text_alike htext]
  · have htext := h "text" .text (by simp [fieldsRead])
    rw [text_alike htext]
  · have hkey := h "key" .text (by simp [fieldsRead])
    have hcompute := h "compute" .formula (by simp [fieldsRead])
    have hvalue := h "value" .value (by simp [fieldsRead])
    rw [text_alike hkey, source_alike hcompute hvalue]
  · have htarget := h "nodeId" .text (by simp [fieldsRead])
    rw [text_alike htarget]
  · have htest := h "test" .formula (by simp [fieldsRead])
    have htarget := h "thenNodeId" .text (by simp [fieldsRead])
    have hotherwise := h "elseNodeId" .text (by simp [fieldsRead])
    rw [test_alike htest, text_alike htarget, text_alike hotherwise]
  · have hprompt := h "prompt" .text (by simp [fieldsRead])
    have hoptions := h "options" .options (by simp [fieldsRead])
    rw [text_alike hprompt, options_alike hoptions]
  · rfl
  · rfl

theorem step_alike (h : FieldsAlike raw.fields fields') :
    raw.step = (raw.withFields fields').step := by
  rw [step, step, ← text_alike (.entry h.kind)]
  rcases hkind : raw.text "kind" with error | _ | kind
  · rfl
  · rfl
  · rcases eq_of_optionalText hkind with ⟨hnone, -⟩ | ⟨s, hsome, hk⟩
    · exact absurd hnone (Option.some_ne_none kind)
    · obtain rfl := Option.some.inj hsome
      exact ofKind_alike fun name rule hread => h.read hk hread

end RawStep

theorem readStep_alike {json json' : Json} (h : StepAlike json json') (path : String) (index : Nat)
    (language : Script.Language) :
    readStep path index json language = readStep path index json' language := by
  cases h with
  | same => rfl
  | @object fields fields' h =>
    have hstep : (RawStep.mk fields path index language).step =
        ((RawStep.mk fields path index language).withFields fields').step := RawStep.step_alike h
    exact hstep

/-! ## Trees -/

mutual

theorem readTree_alike (language : Script.Language) : ∀ {json json' : Json} (path : String),
    TreeAlike json json' → readTree language path json = readTree language path json'
  | .object children, _, path, h => by
    cases h with
    | same => rfl
    | group h => rw [readTree, readTree, readChildren_alike language path h]
  | .array items, _, path, h => by
    cases h with
    | same => rfl
    | leaf h =>
      have hsteps : items.zipIdx.mapM (fun (json, index) => readStep path index json language) =
          List.mapM (fun (json, index) => readStep path index json language) _ :=
        mapM_zipIdx_congr (fun _ _ index hstep => readStep_alike hstep path index language) h 0
      rw [readTree, readTree, hsteps]
  | .null, _, _, h | .bool _, _, _, h | .number _, _, _, h | .string _, _, _, h => by
    cases h with
    | same => rfl

theorem readChildren_alike (language : Script.Language) :
    ∀ {children children' : List (String × Json)} (path : String),
    ChildrenAlike children children' →
      readChildren language path children = readChildren language path children'
  | [], _, _, h => by
    cases h with
    | nil => rfl
  | (name, json) :: rest, _, path, h => by
    cases h with
    | cons _ h hrest =>
      rw [readChildren, readChildren, readTree_alike language _ h,
        readChildren_alike language path hrest]

end

theorem readNodes_alike (language : Script.Language) {nodes nodes' : Option Json}
    (h : Option.Rel TreeAlike nodes nodes') :
    readNodes language nodes = readNodes language nodes' := by
  cases h with
  | none => rfl
  | some h =>
    cases h with
    | same => rfl
    | leaf h => rfl
    | group h => rw [readNodes, readNodes, readChildren_alike language "" h]

/-! ## Documents -/

theorem story_alike {d d' : Document} (h : Alike d d') (language : Script.Language) :
    d.story language = d'.story language := by
  rw [story, story, h.vars, readNodes_alike language h.nodes, h.start, h.characters, h.places]

/-- Texts of documents that are alike make the same story, or are refused with the same error. -/
theorem load_alike {text text' : String} {d d' : Document} (hparse : parse text = .ok d)
    (hparse' : parse text' = .ok d') (h : Alike d d') (language : Script.Language) :
    Story.load text language = Story.load text' language := by
  rw [load_eq_story hparse, load_eq_story hparse', story_alike h]

/-- A document with three steps: a choice, a computed value, and a step without a kind. -/
def bare : String :=
  "\x7b\"nodes\":\x7b\"A\":[" ++
    "\x7b\"kind\":\"choice\",\"options\":[[\"Go\",null]]\x7d," ++
    "\x7b\"kind\":\"set_variable\",\"compute\":\"1\"\x7d,\x7b\x7d]\x7d\x7d"

/-- The document with more in its steps than is read of them. -/
def padded : String :=
  "\x7b\"nodes\":\x7b\"A\":[" ++
    "\x7b\"kind\":\"choice\",\"options\":[[\"Go\",null,null]],\"prompt\":null,\"who\":[]\x7d," ++
    "\x7b\"kind\":\"set_variable\",\"compute\":\"1\",\"value\":[null]\x7d," ++
    "\x7b\"kind\":null,\"id\":true\x7d]\x7d\x7d"

/-- The steps of the first document. -/
def bareSteps : List Json := [
  .object [("kind", .string "choice"), ("options", .array [.array [.string "Go", .null]])],
  .object [("compute", .string "1"), ("kind", .string "set_variable")],
  .object []]

/-- The steps of the second one. -/
def paddedSteps : List Json := [
  .object [("kind", .string "choice"), ("options", .array [.array [.string "Go", .null, .null]]),
    ("prompt", .null), ("who", .array [])],
  .object [("compute", .string "1"), ("kind", .string "set_variable"), ("value", .array [.null])],
  .object [("id", .bool true), ("kind", .null)]]

/-- A document with a single node. -/
def withSteps (items : List Json) : Document where
  nodes := some (.object [("A", .array items)])

/-- Steps of one kind are alike if its fields are. -/
theorem fieldsAlike_of_kind (kind : String) (hk : fields.get? "kind" = some (.string kind))
    (hk' : fields'.get? "kind" = some (.string kind))
    (h : ∀ entry ∈ fieldsRead kind, FieldAlike fields fields' entry.1 entry.2) :
    FieldsAlike fields fields' where
  kind := by
    rw [hk, hk']
    exact .same _
  read {other name rule} hother hread := by
    obtain rfl := Json.string.inj (Option.some.inj (hk.symm.trans hother))
    exact h (name, rule) hread

theorem alike_padded : Alike (withSteps bareSteps) (withSteps paddedSteps) := by
  have hchoice : StepAlike bareSteps[0] paddedSteps[0] := by
    refine .object (fieldsAlike_of_kind "choice" rfl rfl ?_)
    refine List.forall_mem_cons.2 ⟨.entry (.absent (.inl rfl) (.inr rfl)), ?_⟩
    exact List.forall_mem_singleton.2 (.options rfl rfl (.cons (.extended _ _) .nil))
  have hassignment : StepAlike bareSteps[1] paddedSteps[1] := by
    refine .object (fieldsAlike_of_kind "set_variable" rfl rfl ?_)
    refine List.forall_mem_cons.2 ⟨.entry (.same _), List.forall_mem_cons.2 ⟨.entry (.same _), ?_⟩⟩
    refine List.forall_mem_singleton.2 (.computed ?_)
    rintro (h | h)
    · exact Option.some_ne_none _ h
    · exact absurd (Option.some.inj h) (by simp)
  have hunnamed : StepAlike bareSteps[2] paddedSteps[2] := by
    refine .object ⟨.absent (.inl rfl) (.inr rfl), fun hk => ?_⟩
    exact absurd hk (by simp)
  refine ⟨rfl, rfl, .some (.group (.cons "A" (.leaf ?_) .nil)), rfl, rfl⟩
  exact .cons hchoice (.cons hassignment (.cons hunnamed .nil))

/-- Both texts make the same story. -/
theorem load_alike_of_padded :
    (parse bare = .ok (withSteps bareSteps) ∧ parse padded = .ok (withSteps paddedSteps) ∧
        Alike (withSteps bareSteps) (withSteps paddedSteps)) ∧
      Story.load bare .own = Story.load padded .own := by
  have hbare : parse bare = .ok (withSteps bareSteps) := by cbv
  have hpadded : parse padded = .ok (withSteps paddedSteps) := by cbv
  exact ⟨⟨hbare, hpadded, alike_padded⟩, load_alike hbare hpadded alike_padded .own⟩

end Document

end BranchingStory
