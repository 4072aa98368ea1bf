import TraceArchive.Proofs.Json.Taking
import TraceArchive.Settings
/-!
What a text of settings gives.  `draft` reads it without the defaults, so that a field is seen to be
there or not; the settings of the text are its draft with the defaults in place.  What is in a draft
is the member of the field's name in an object, or the item at the field's place in an array.
-/

namespace TraceArchive

namespace Json

namespace Shape

variable {shape : Shape σ τ} {finish : σ → τ}

/-- The record that is read is left as it was gathered. -/
def gathering (shape : Shape σ τ) : Shape σ σ :=
  ⟨shape.title, shape.fields, shape.blank, .ok, shape.exactLength⟩

theorem readItems_gathering (shape : Shape σ τ) (depth : Nat) (fields : List (Member σ))
    (index : Nat) (gathered : σ) (s : Bytes) :
    shape.gathering.readItems depth fields index gathered s =
      shape.readItems depth fields index gathered s := by
  induction fields generalizing index gathered s with
  | nil => rfl
  | cons field fields ih =>
      rw [readItems, readItems]
      congr
      funext next
      cases next with
      | closed rest => rfl
      | more rest => simp only [ih]

theorem mismatch_map (expected : String) (s : Bytes) (f : α → β) :
    (mismatch expected s).map f = mismatch expected s := by
  rw [mismatch, mismatch]
  cases met s with
  | error fault => rfl
  | ok found => rfl

/-- The record of what was gathered. -/
def finished (shape : Shape σ τ) (gathered : Except Fault (σ × Bytes)) :
    Except Fault (τ × Bytes) := do
  let (gathered, rest) ← gathered
  match shape.finish gathered with
  | .ok record => .ok (record, rest)
  | .error cause => faultAt cause rest

theorem finished_gathering (hfinish : ∀ gathered, shape.finish gathered = .ok (finish gathered))
    (gathered : Except Fault (σ × Bytes)) :
    shape.finished gathered = (shape.gathering.finished gathered).map fun found =>
      (finish found.1, found.2) := by
  cases gathered with
  | error fault => rfl
  | ok found => simp [finished, hfinish, gathering, bind, Except.bind, Except.map]

/-- What is read is what is gathered, finished. -/
theorem read_gathering (hfinish : ∀ gathered, shape.finish gathered = .ok (finish gathered))
    (depth : Nat) (s : Bytes) :
    shape.read depth s = (shape.gathering.read depth s).map fun found =>
      (finish found.1, found.2) := by
  rw [read, read]
  cases skipBlanks s with
  | nil => rfl
  | cons b r =>
      simp only
      split
      · cases depth with
        | zero => rfl
        | succ depth =>
            simp only
            split
            · rw [readItems_gathering]
              exact finished_gathering hfinish _
            · exact finished_gathering hfinish (shape.readMembers depth r)
      · rw [mismatch_map]
        rfl

theorem parse_gathering (hfinish : ∀ gathered, shape.finish gathered = .ok (finish gathered))
    (text : Bytes) : shape.parse text = (shape.gathering.parse text).map finish := by
  rw [parse, parse, document, document, read_gathering hfinish]
  cases shape.gathering.read maxDepth text with
  | error fault => rfl
  | ok found =>
      obtain ⟨gathered, rest⟩ := found
      simp only [Except.map]
      cases skipBlanks rest with
      | nil => rfl
      | cons b left => rfl

end Shape

end Json

namespace Settings

open Json (Value document value)

/-- What a text gives of settings. -/
def draft (text : Bytes) : Except Json.Error Draft :=
  shape.gathering.parse text

/-- Settings with the defaults for what a draft leaves out. -/
def ofDraft (d : Draft) : Settings :=
  ⟨d.endpoint.getD defaultEndpoint, d.outputDir.getD defaultOutputDir⟩

/-! ## Drafts of values -/

/-- What stands for a field in a value: the member of its name in an object, or the item at its
place in an array. -/
def part? (name : String) (place : Nat) : Value → Option Value
  | .object members => members.lookup name
  | .array items => items[place]?
  | _ => none

/-- What a value gives of settings is what stands for each field. -/
structure OfValue (v : Value) (d : Draft) : Prop where
  endpoint : part? "endpoint" 0 v = d.endpoint.map .string
  outputDir : part? "output_dir" 1 v = d.outputDir.map fun dir => .string dir.text

theorem fields_follow : ∀ field ∈ shape.gathering.fields, field.Follows :=
  List.forall_mem_cons.mpr ⟨Json.Member.text_follows _ _ _ _,
    List.forall_mem_singleton.mpr (Json.Member.text_follows _ _ _ _)⟩

/-- A field that was not given yet takes a text. -/
theorem string_of_taken {α : Type} {given : Option α} {v : Value} {put : String → Draft}
    {next : Draft → Option Draft} {d : Draft}
    (h : (if given.isSome then none else (v.asString?.map put).bind next) = some d) :
    given = none ∧ ∃ text, v = .string text ∧ next (put text) = some d := by
  obtain ⟨hnew, h⟩ := Option.ite_none_left_eq_some.mp h
  obtain ⟨taken, htaken, hnext⟩ := Option.bind_eq_some_iff.mp h
  obtain ⟨text, htext, rfl⟩ := Option.map_eq_some_iff.mp htaken
  exact ⟨Option.not_isSome_iff_eq_none.mp hnew, text, Value.asString?_eq_some.mp htext, hnext⟩

/-- Each field is taken from the one member of its name, if there is one. -/
theorem takeMembers_gives {members : List (String × Value)} {d gathered : Draft}
    (h : shape.gathering.takeMembers gathered members = some d) :
    (gathered.endpoint.map .string).or (members.lookup "endpoint") = d.endpoint.map .string ∧
      (gathered.outputDir.map fun dir => .string dir.text).or (members.lookup "output_dir") =
        d.outputDir.map fun dir => .string dir.text := by
  induction members generalizing gathered with
  | nil =>
      obtain rfl := Option.some.inj h
      simp
  | cons m members ih =>
      obtain ⟨name, v⟩ := m
      by_cases hendpoint : name = "endpoint"
      · subst hendpoint
        change (if gathered.endpoint.isSome then none else
          (v.asString?.map fun text => { gathered with endpoint := some text }).bind fun next =>
            shape.gathering.takeMembers next members) = some d at h
        obtain ⟨hnew, text, rfl, hrest⟩ := string_of_taken h
        rw [hnew]
        exact ih hrest
      · by_cases houtputDir : name = "output_dir"
        · subst houtputDir
          change (if (gathered.outputDir.map Path.text).isSome then none else
            (v.asString?.map fun text => { gathered with outputDir := some ⟨text⟩ }).bind
              fun next => shape.gathering.takeMembers next members) = some d at h
          obtain ⟨hnew, text, rfl, hrest⟩ := string_of_taken h
          rw [Option.map_eq_none_iff.mp hnew]
          exact ih hrest
        · have hunknown : shape.gathering.fields.find? (·.name = name) = none := by
            simp [Json.Shape.gathering, shape, endpointField, outputDirField, Json.Member.text,
              Ne.symm hendpoint, Ne.symm houtputDir]
          rw [Json.Shape.takeMembers_unknown hunknown] at h
          rw [List.lookup_cons, List.lookup_cons, beq_false_of_ne (Ne.symm hendpoint),
            beq_false_of_ne (Ne.symm houtputDir)]
          exact ih h

/-- Each field is taken from the item at its place, if there is one. -/
theorem takeItems_gives {items : List Value} {d : Draft}
    (h : shape.gathering.takeItems shape.gathering.fields {} items = some d) :
    OfValue (.array items) d := by
  rcases items with _ | ⟨first, items⟩
  · obtain rfl := Option.some.inj h
    exact ⟨rfl, rfl⟩
  · change (if (none : Option String).isSome then none else
      (first.asString?.map fun text => { endpoint := some text }).bind fun next =>
        shape.gathering.takeItems [outputDirField] next items) = some d at h
    obtain ⟨_, endpoint, rfl, h⟩ := string_of_taken h
    rcases items with _ | ⟨second, items⟩
    · obtain rfl := Option.some.inj h
      exact ⟨rfl, rfl⟩
    · change (if (none : Option String).isSome then none else
        (second.asString?.map fun text => { endpoint := some endpoint, outputDir := some ⟨text⟩ })
          |>.bind fun next => shape.gathering.takeItems [] next items) = some d at h
      obtain ⟨_, outputDir, rfl, h⟩ := string_of_taken h
      rcases items with _ | ⟨third, items⟩
      · obtain rfl := Option.some.inj h
        exact ⟨rfl, rfl⟩
      · cases h

theorem ofValue_of_ofValue? {v : Value} {d : Draft} (h : shape.gathering.ofValue? v = some d) :
    OfValue v d := by
  cases v with
  | object members =>
      obtain ⟨gathered, hgathered, hsame⟩ := Option.bind_eq_some_iff.mp h
      obtain rfl := Option.some.inj hsame
      obtain ⟨hendpoint, houtputDir⟩ := takeMembers_gives hgathered
      exact ⟨hendpoint, houtputDir⟩
  | array items =>
      obtain ⟨gathered, hgathered, hsame⟩ := Option.bind_eq_some_iff.mp h
      obtain rfl := Option.some.inj hsame
      exact takeItems_gives hgathered
  | null => cases h
  | bool b => cases h
  | number n => cases h
  | string text => cases h

/-- A text gives a draft: it is read as that, and what is in the draft stands in the text. -/
structure Gives (text : Bytes) (d : Draft) : Prop where
  read : draft text = .ok d
  stands : ∀ v, document (value .verbatim Json.maxDepth) text = .ok v → OfValue v d

theorem gives_of_draft {text : Bytes} {d : Draft} (h : draft text = .ok d) : Gives text d := by
  refine ⟨h, ?_⟩
  intro v hv
  exact ofValue_of_ofValue? ((Json.Shape.parse_eq_ok_iff fields_follow hv d).mp h)

/-- A text of settings is one that gives a draft, which is completed by the defaults. -/
theorem parse_eq_ok {text : Bytes} {s : Settings} :
    parse text = .ok s ↔ ∃ d, Gives text d ∧ s = ofDraft d := by
  have hgathering : shape.parse text = (shape.gathering.parse text).map ofDraft :=
    Json.Shape.parse_gathering (fun _ => rfl) text
  rw [parse, hgathering]
  constructor
  · intro h
    cases hdraft : shape.gathering.parse text with
    | error e =>
        rw [hdraft] at h
        cases h
    | ok d =>
        rw [hdraft] at h
        exact ⟨d, gives_of_draft hdraft, (Except.ok.inj h).symm⟩
  · rintro ⟨d, hgives, rfl⟩
    rw [← draft, hgives.read]
    rfl

example : (draft (Utf8.ofString "\x7b\"output_dir\": \"there\"\x7d")).toOption.map
    (fun d => (d.endpoint, d.outputDir)) = some (none, some ⟨"there"⟩) := by
  decide +kernel

end Settings

end TraceArchive
