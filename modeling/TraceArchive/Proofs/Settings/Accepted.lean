import TraceArchive.Proofs.Json.Grammar
import TraceArchive.Proofs.Settings
/-!
Which texts are settings.  Such a text is an object, in which `endpoint` and `output_dir` are given
once at most and by a string, or an array of two strings at most.  Whatever else an object holds
need only be grammatical.
-/

namespace TraceArchive

namespace Settings

open Json

variable {σ : Type} {s rest t : Bytes} {depth : Nat} {d d' : Draft} {key : String}

/-! ## Texts of settings -/

/-- A member of an object with the text of its name. -/
structure KeyedPiece extends NamedPiece where
  key : String
  quotes : Quotes key name

/-- The text of a member's name, and its value as it is written. -/
def KeyedPiece.part (m : KeyedPiece) : String × Bytes :=
  (m.key, m.text)

/-- The text is an object of these members, with blanks around it. -/
def IsObject (t : Bytes) (members : List KeyedPiece) : Prop :=
  ∃ lead last trail : Blanks,
    t = lead.bytes ++ 0x7B :: (piecesText 0x7D true last (members.map (·.piece)) ++ trail.bytes)

/-- The text is an array of these items, with blanks around it. -/
def IsArray (t : Bytes) (items : List Piece) : Prop :=
  ∃ lead last trail : Blanks,
    t = lead.bytes ++ 0x5B :: (piecesText 0x5D true last items ++ trail.bytes)

/-- Members give a text for a key: one has that name, and a string for the text as its value.  They
give none if none has that name. -/
def GivenBy (parts : List (String × Bytes)) (key : String) (given : Option String) : Prop :=
  List.Forall₂ (fun part text => Quotes text part.2) (parts.filter (·.1 = key)) given.toList

/-- The text offers the draft. -/
inductive Offers (t : Bytes) : Draft → Prop
  /-- Each field is given under its name, and every other member is grammatical. -/
  | object {d : Draft} {members : List KeyedPiece} (ht : IsObject t members)
      (hendpoint : GivenBy (members.map (·.part)) "endpoint" d.endpoint)
      (houtputDir : GivenBy (members.map (·.part)) "output_dir" (d.outputDir.map Path.text))
      (hothers : ∀ m ∈ members, m.key ≠ "endpoint" → m.key ≠ "output_dir" → Grammatical m.text) :
      Offers t d
  /-- The fields are given in order, the later ones not at all where the array is shorter. -/
  | array {items : List Piece} {texts : List String} (ht : IsArray t items)
      (htexts : List.Forall₂ (fun x text => Quotes text x.text) items texts)
      (hlength : texts.length ≤ 2) : Offers t ⟨texts[0]?, texts[1]?.map Path.mk⟩

/-! ## Fields -/

/-- The field holds a string, whose text it puts into the draft. -/
def TakesText (field : Member Draft) (put : Draft → String → Draft) : Prop :=
  ∃ name expected get, field = .text name expected get put

theorem endpointField_takesText :
    TakesText endpointField fun d text => { d with endpoint := some text } :=
  ⟨_, _, _, rfl⟩

theorem outputDirField_takesText :
    TakesText outputDirField fun d text => { d with outputDir := some ⟨text⟩ } :=
  ⟨_, _, _, rfl⟩

/-- What each field does with the text it takes. -/
def puts : List (Draft → String → Draft) :=
  [fun d text => { d with endpoint := some text },
    fun d text => { d with outputDir := some ⟨text⟩ }]

theorem fields_takeText : List.Forall₂ TakesText shape.fields puts :=
  .cons endpointField_takesText (.cons outputDirField_takesText .nil)

namespace TakesText

variable {field : Member Draft} {put : Draft → String → Draft}

theorem exists_grammatical (hfield : TakesText field put) {found : Draft × Bytes}
    (h : field.read depth d s = .ok found) :
    ∃ text, Grammatical text ∧ Front text found.2 s := by
  obtain ⟨_, expected, _, rfl⟩ := hfield
  obtain ⟨⟨t, left⟩, hstring, h⟩ := bind_eq_ok.mp h
  obtain rfl := Except.ok.inj h
  obtain ⟨bytes, hbytes, hfront⟩ := stringOf_eq_ok.mp hstring
  exact ⟨bytes, hbytes.grammatical, hfront⟩

theorem toOption (hfield : TakesText field put) {text : Bytes} (htext : Grammatical text)
    (d : Draft) (depth : Nat) (blanks : Blanks) (rest : Bytes) :
    (field.read depth d (blanks.bytes ++ (text ++ rest))).toOption =
      (textOf? text).map fun t => (put d t, rest) := by
  obtain ⟨_, expected, _, rfl⟩ := hfield
  rw [Member.text, toOption_bind, htext.stringOf]
  cases textOf? text <;> rfl

end TakesText

/-! ## Members -/

/-- The field of a key behind one more member, which must not give it again. -/
def fill (key : String) (given : Option String) (part : String × Bytes) :
    Option (Option String) :=
  if part.1 = key then
    if given.isSome then none else (textOf? part.2).map some
  else some given

/-- The draft behind one more member. -/
def taken (d : Draft) (part : String × Bytes) : Option Draft := do
  let endpoint ← fill "endpoint" d.endpoint part
  let outputDir ← fill "output_dir" (d.outputDir.map Path.text) part
  return ⟨endpoint, outputDir.map Path.mk⟩

theorem map_mk_map_text (dir : Option Path) : (dir.map Path.text).map Path.mk = dir := by
  cases dir <;> rfl

theorem find?_fields (key : String) :
    (key = "endpoint" ∧ shape.fields.find? (·.name = key) = some endpointField) ∨
      (key = "output_dir" ∧ shape.fields.find? (·.name = key) = some outputDirField) ∨
        (key ≠ "endpoint" ∧ key ≠ "output_dir") ∧ shape.fields.find? (·.name = key) = none := by
  by_cases hendpoint : key = "endpoint"
  · exact .inl ⟨hendpoint, hendpoint ▸ rfl⟩
  by_cases houtputDir : key = "output_dir"
  · exact .inr (.inl ⟨houtputDir, houtputDir ▸ rfl⟩)
  · refine .inr (.inr ⟨⟨hendpoint, houtputDir⟩, ?_⟩)
    simp [shape, endpointField, outputDirField, Member.text, Ne.symm hendpoint,
      Ne.symm houtputDir]

section Fields

variable {field : Member Draft} {put : Draft → String → Draft}

theorem TakesText.exists_of_readMember (hfield : TakesText field put)
    (hfind : shape.fields.find? (·.name = key) = some field) {found : Draft × Bytes}
    (h : shape.readMember depth d key s = .ok found) :
    ∃ valued text, colon s = .ok valued ∧ Grammatical text ∧ Front text found.2 valued := by
  rw [Shape.readMember, hfind] at h
  simp only at h
  split at h
  · cases h
  · obtain ⟨valued, hcolon, h⟩ := bind_eq_ok.mp h
    obtain ⟨text, htext⟩ := hfield.exists_grammatical h
    exact ⟨valued, text, hcolon, htext⟩

theorem TakesText.toOption_readMember (hfield : TakesText field put) {blanks : Blanks}
    {text later : Bytes} (hfind : shape.fields.find? (·.name = key) = some field)
    (htext : Grammatical text) (hcolon : colon s = .ok (blanks.bytes ++ (text ++ later)))
    (d : Draft) :
    (shape.readMember depth d key s).toOption =
      if field.given d then none else (textOf? text).map fun t => (put d t, later) := by
  rw [Shape.readMember, hfind, hcolon]
  simp only
  split
  · rfl
  · exact hfield.toOption htext d depth blanks later

end Fields

/-- Whatever a member is read as, its value is grammatical. -/
theorem exists_grammatical {found : Draft × Bytes}
    (h : shape.readMember depth d key s = .ok found) :
    ∃ valued text, colon s = .ok valued ∧ Grammatical text ∧ Front text found.2 valued := by
  rcases find?_fields key with ⟨_, hfind⟩ | ⟨_, hfind⟩ | ⟨_, hfind⟩
  · exact endpointField_takesText.exists_of_readMember hfind h
  · exact outputDirField_takesText.exists_of_readMember hfind h
  · rw [Shape.readMember, hfind] at h
    obtain ⟨valued, hcolon, h⟩ := bind_eq_ok.mp h
    obtain ⟨left, hskip, h⟩ := bind_eq_ok.mp h
    obtain rfl := Except.ok.inj h
    obtain ⟨text, htext⟩ := skipsGrammatical valued.length valued left hskip
    exact ⟨valued, text, hcolon, htext⟩

theorem toOption_readMember {blanks : Blanks} {text later : Bytes} (htext : Grammatical text)
    (hlater : EndsNumber later) (hcolon : colon s = .ok (blanks.bytes ++ (text ++ later)))
    (d : Draft) :
    (shape.readMember depth d key s).toOption = (taken d (key, text)).map (·, later) := by
  rcases find?_fields key with ⟨hkey, hfind⟩ | ⟨hkey, hfind⟩ | ⟨⟨hendpoint, houtputDir⟩, hfind⟩
  · have hother : key ≠ "output_dir" := by rw [hkey]; decide
    rw [endpointField_takesText.toOption_readMember hfind htext hcolon d, taken, fill, fill,
      if_pos hkey, if_neg hother]
    obtain ⟨endpoint, outputDir⟩ := d
    cases endpoint <;> cases textOf? text <;> cases outputDir <;> rfl
  · have hother : key ≠ "endpoint" := by rw [hkey]; decide
    rw [outputDirField_takesText.toOption_readMember hfind htext hcolon d, taken, fill, fill,
      if_neg hother, if_pos hkey]
    obtain ⟨endpoint, outputDir⟩ := d
    cases outputDir <;> cases textOf? text <;> rfl
  · have hskip : skipValue (blanks.bytes ++ (text ++ later)) = .ok later :=
      (skipValue_eq_ok hlater).mpr ⟨text, htext, blanks, rfl⟩
    rw [Shape.readMember, hfind, hcolon, taken, fill, fill, if_neg hendpoint, if_neg houtputDir]
    change (skipValue _ >>= _).toOption = _
    rw [hskip]
    obtain ⟨endpoint, outputDir⟩ := d
    cases outputDir <;> rfl

/-! ## Objects -/

theorem exists_keyedPieces {found : Draft × Bytes} (h : shape.readMembers depth s = .ok found) :
    ∃ (members : List KeyedPiece) (last : Blanks), (∀ m ∈ members, Grammatical m.text) ∧
      s = piecesText 0x7D true last (members.map (·.piece)) ++ found.2 := by
  rw [Shape.readMembers_eq] at h
  obtain ⟨named, last, hnamed, hs⟩ := exists_namedPieces (N := Quotes)
    (fun s found hfound => string_eq_ok_iff.mp hfound)
    (fun _ _ _ _ hfound => exists_grammatical hfound) h
  refine ⟨named.pmap (fun m hm => ⟨m.2, m.1, hm⟩) fun m hm => (hnamed m hm).1, last, ?_, ?_⟩
  · intro m hm
    obtain ⟨n, hn, rfl⟩ := List.mem_pmap.mp hm
    exact (hnamed n hn).2
  · rw [List.map_pmap]
    exact hs.trans (congrArg (fun pieces => piecesText 0x7D true last pieces ++ found.2)
      (List.pmap_eq_map _).symm)

theorem toOption_readMembers {members : List KeyedPiece} (h : ∀ m ∈ members, Grammatical m.text)
    (last : Blanks) (rest : Bytes) :
    (shape.readMembers depth (piecesText 0x7D true last (members.map (·.piece)) ++ rest)).toOption =
      ((members.map (·.part)).foldlM taken {}).map (·, rest) := by
  have hnames : ∀ m ∈ members.map fun m => (m.key, m.toNamedPiece),
      ∃ body, m.2.name = 0x22 :: body ∧
        ∀ later, Json.Gives string (body ++ later) m.1 later :=
    List.forall_mem_map.mpr fun m _ => m.quotes.string
  have hfound := members_pieces (P := fun m => Grammatical m.text) (f := id) hnames
    (List.forall_mem_map.mpr h) true last rest
  have htakes : Takes (Stands (fun m => Grammatical m.text)
      fun m : NamedPiece => m.afterColon.bytes ++ m.text) :=
    takes_stands fun m hm => List.append_ne_nil_of_right_ne_nil _ hm.ne_nil
  rw [Shape.readMembers_eq]
  have hwalk : (foldMembers .building string (shape.readMember depth) _ true _ _).toOption = _ :=
    hfound.fold takes_string htakes id (fun d m => taken d (m.1, m.2.text)) (fun _ _ _ h => h) ?_
      (Nat.lt_succ_self _) shape.blank
  · rw [List.map_map, List.foldlM_map] at hwalk
    rw [List.foldlM_map]
    exact hwalk
  · rintro d _ named valued m left _ _ hcolon ⟨hm, hleft, rfl⟩
    rw [List.append_assoc] at hcolon
    exact toOption_readMember hm hleft hcolon d

/-! What members give, field by field. -/

variable {parts parts' : List (String × Bytes)} {before after given : Option String}

theorem eq_iff_text (d d' : Draft) :
    d = d' ↔ d.endpoint = d'.endpoint ∧ d.outputDir.map Path.text = d'.outputDir.map Path.text := by
  constructor
  · rintro rfl
    exact ⟨rfl, rfl⟩
  · rintro ⟨hendpoint, houtputDir⟩
    obtain ⟨endpoint, outputDir⟩ := d
    obtain ⟨endpoint', outputDir'⟩ := d'
    have hdir := congrArg (Option.map Path.mk) houtputDir
    simp only [map_mk_map_text] at hdir hendpoint
    rw [hdir, hendpoint]

theorem foldlM_taken :
    parts.foldlM taken d = some d' ↔
      parts.foldlM (fill "endpoint") d.endpoint = some d'.endpoint ∧
        parts.foldlM (fill "output_dir") (d.outputDir.map Path.text) =
          some (d'.outputDir.map Path.text) := by
  induction parts generalizing d with
  | nil =>
      simp only [List.foldlM_nil, pure, Option.some.injEq]
      exact eq_iff_text d d'
  | cons part parts ih =>
      simp only [List.foldlM_cons, taken, Option.bind_eq_bind, Option.bind_assoc]
      cases fill "endpoint" d.endpoint part with
      | none => simp
      | some endpoint =>
          cases fill "output_dir" (d.outputDir.map Path.text) part with
          | none => simp
          | some outputDir =>
              have hmap : (outputDir.map Path.mk).map Path.text = outputDir := by
                cases outputDir <;> rfl
              have hlater := @ih ⟨endpoint, outputDir.map Path.mk⟩
              rw [hmap] at hlater
              exact hlater

/-- A field is given by the members of its name alone, and by one at most. -/
theorem foldlM_fill :
    parts.foldlM (fill key) before = some after ↔
      ∃ texts, List.Forall₂ (fun part text => Quotes text part.2) (parts.filter (·.1 = key)) texts ∧
        before.toList ++ texts = after.toList := by
  induction parts generalizing before with
  | nil =>
      simp only [List.foldlM_nil, pure, List.filter_nil, List.forall₂_nil_left_iff,
        exists_eq_left, List.append_nil, Option.some.injEq]
      cases before <;> cases after <;> simp
  | cons part parts ih =>
      rw [List.foldlM_cons, fill]
      by_cases hkey : part.1 = key
      · rw [if_pos hkey, List.filter_cons_of_pos (by simpa using hkey)]
        cases before with
        | some text =>
            refine iff_of_false (by simp) ?_
            rintro ⟨texts, hall, htexts⟩
            obtain ⟨other, others, _, _, rfl⟩ := List.forall₂_cons_left_iff.mp hall
            cases after <;> simp at htexts
        | none =>
            constructor
            · intro h
              obtain ⟨given, hgiven, h⟩ := Option.bind_eq_some_iff.mp h
              obtain ⟨text, htext, rfl⟩ := Option.map_eq_some_iff.mp hgiven
              obtain ⟨texts, hall, htexts⟩ := ih.mp h
              exact ⟨text :: texts, .cons (textOf?_eq_some.mp htext) hall, htexts⟩
            · rintro ⟨texts, hall, htexts⟩
              obtain ⟨text, later, hquotes, hlater, rfl⟩ := List.forall₂_cons_left_iff.mp hall
              refine Option.bind_eq_some_iff.mpr ⟨some text, ?_, ih.mpr ⟨later, hlater, htexts⟩⟩
              rw [Option.isSome_none, if_neg (by decide), textOf?_eq_some.mpr hquotes]
              rfl
      · rw [if_neg hkey, List.filter_cons_of_neg (by simpa using hkey)]
        exact ih

/-- Members give a draft exactly if each of its fields is given. -/
theorem foldlM_taken_eq_some :
    parts.foldlM taken {} = some d ↔
      GivenBy parts "endpoint" d.endpoint ∧
        GivenBy parts "output_dir" (d.outputDir.map Path.text) := by
  have hfill {key : String} {given : Option String} :
      parts.foldlM (fill key) none = some given ↔ GivenBy parts key given := by
    rw [foldlM_fill, GivenBy]
    simp
  rw [foldlM_taken, ← hfill, ← hfill]
  rfl

/-! ## Arrays -/

theorem exists_items {fields : List (Member Draft)} {puts : List (Draft → String → Draft)}
    {index : Nat} {found : Draft × Bytes} (hfields : List.Forall₂ TakesText fields puts)
    (h : shape.readItems depth fields index d s = .ok found) :
    ∃ (items : List Piece) (last : Blanks), (∀ x ∈ items, Grammatical x.text) ∧
      s = piecesText 0x5D (index = 0) last items ++ found.2 := by
  induction hfields generalizing index d s with
  | nil =>
      obtain ⟨rest, hclose, h⟩ := bind_eq_ok.mp h
      obtain rfl := Except.ok.inj h
      obtain ⟨last, hs⟩ := (skipBlanks_eq_cons (by decide)).mp (closeArray_eq_ok.mp hclose)
      exact ⟨[], last, List.forall_mem_nil _, by simp [hs, piecesText]⟩
  | cons hfield _ ih =>
      obtain ⟨next, hnext, h⟩ := bind_eq_ok.mp h
      cases next with
      | closed rest =>
          obtain rfl := Except.ok.inj h
          obtain ⟨last, hs⟩ := (skipBlanks_eq_cons (by decide)).mp (nextItem_eq_closed.mp hnext)
          exact ⟨[], last, List.forall_mem_nil _, by simp [hs, piecesText]⟩
      | more mid =>
          obtain ⟨_, _, hnext⟩ := nextItem_eq_more.mp hnext
          obtain ⟨lead, before, hs⟩ := hnext.exists_blanks
          obtain ⟨later, hread, h⟩ := bind_eq_ok.mp h
          obtain ⟨text, htext, blanks, hmid⟩ := hfield.exists_grammatical hread
          obtain ⟨items, last, hitems, hleft⟩ := ih h
          refine ⟨⟨lead, before.append blanks, text⟩ :: items, last,
            List.forall_mem_cons.mpr ⟨htext, hitems⟩, ?_⟩
          rw [hs, hmid, hleft]
          simp [piecesText, Blanks.append]

/-- The draft behind items that are put into the fields in order, of which there must be enough. -/
def takenItems : List (Draft → String → Draft) → Draft → List Bytes → Option Draft
  | _, d, [] => some d
  | [], _, _ :: _ => none
  | put :: puts, d, text :: texts => (textOf? text).bind fun t => takenItems puts (put d t) texts

theorem toOption_readItems {fields : List (Member Draft)} {puts : List (Draft → String → Draft)}
    {index : Nat} (hfields : List.Forall₂ TakesText fields puts) {items : List Piece}
    (hitems : ∀ x ∈ items, Grammatical x.text) (last : Blanks) (rest : Bytes) :
    (shape.readItems depth fields index d
        (piecesText 0x5D (index = 0) last items ++ rest)).toOption =
      (takenItems puts d (items.map (·.text))).map (·, rest) := by
  induction hfields generalizing index d items with
  | nil =>
      rw [Shape.readItems]
      cases items with
      | nil =>
          rw [closeArray_eq_ok.mpr (skipBlanks_piecesText (by decide) _ last rest)]
          rfl
      | cons x items =>
          have hmore := nextItem_piecesText (hitems x List.mem_cons_self).head .building
            (index = 0) last items rest
          obtain ⟨_, hopen, hnext⟩ := nextItem_eq_more.mp hmore
          rw [toOption_bind, Shape.toOption_closeArray hopen hnext]
          rfl
  | @cons field put fields puts hfield hfields ih =>
      rw [Shape.readItems]
      cases items with
      | nil =>
          rw [nextItem_eq_closed.mpr (skipBlanks_piecesText (by decide) _ last rest)]
          rfl
      | cons x items =>
          obtain ⟨hx, hitems⟩ := List.forall_mem_cons.mp hitems
          rw [nextItem_piecesText hx.head]
          have hread := hfield.toOption hx d depth .empty
            (piecesText 0x5D false last items ++ rest)
          rw [Blanks.bytes_empty, List.nil_append] at hread
          change (field.read depth d _ >>= _).toOption = _
          rw [toOption_bind, hread, List.map_cons, takenItems]
          cases textOf? x.text with
          | none => rfl
          | some t => exact ih hitems

/-- The fields take two items at most, which are strings. -/
theorem takenItems_eq_some {texts : List Bytes} :
    takenItems puts {} texts = some d ↔
      ∃ given : List String, List.Forall₂ (fun bytes text => Quotes text bytes) texts given ∧
        given.length ≤ 2 ∧ d = ⟨given[0]?, given[1]?.map Path.mk⟩ := by
  constructor
  · intro h
    rcases texts with _ | ⟨first, _ | ⟨second, _ | ⟨third, texts⟩⟩⟩
    · obtain rfl := Option.some.inj h
      exact ⟨[], .nil, by decide, rfl⟩
    · obtain ⟨endpoint, hendpoint, h⟩ := Option.bind_eq_some_iff.mp h
      obtain rfl := Option.some.inj h
      exact ⟨[endpoint], .cons (textOf?_eq_some.mp hendpoint) .nil, by simp, rfl⟩
    · obtain ⟨endpoint, hendpoint, h⟩ := Option.bind_eq_some_iff.mp h
      obtain ⟨outputDir, houtputDir, h⟩ := Option.bind_eq_some_iff.mp h
      obtain rfl := Option.some.inj h
      exact ⟨[endpoint, outputDir], .cons (textOf?_eq_some.mp hendpoint)
        (.cons (textOf?_eq_some.mp houtputDir) .nil), by simp, rfl⟩
    · obtain ⟨_, _, h⟩ := Option.bind_eq_some_iff.mp h
      obtain ⟨_, _, h⟩ := Option.bind_eq_some_iff.mp h
      cases h
  · rintro ⟨given, hall, hlength, rfl⟩
    rcases hall with _ | ⟨hendpoint, _ | ⟨houtputDir, _ | ⟨_, _⟩⟩⟩
    · rfl
    · simp [puts, takenItems, textOf?_eq_some.mpr hendpoint]
    · simp [puts, takenItems, textOf?_eq_some.mpr hendpoint, textOf?_eq_some.mpr houtputDir]
    · simp at hlength

/-! ## Whole texts -/

theorem read_object {r : Bytes} (hs : skipBlanks s = 0x7B :: r) :
    shape.read (depth + 1) s =
      shape.readMembers depth r >>= fun found => .ok (ofDraft found.1, found.2) := by
  rw [Shape.read, hs]
  rfl

theorem read_array {r : Bytes} (hs : skipBlanks s = 0x5B :: r) :
    shape.read (depth + 1) s =
      shape.readItems depth shape.fields 0 {} r >>= fun found =>
        .ok (ofDraft found.1, found.2) := by
  rw [Shape.read, hs]
  rfl

theorem ofContent_eq_ok {settings : Settings} :
    ofContent (.ok t) = .ok settings ↔
      ∃ rest, shape.read maxDepth t = .ok (settings, rest) ∧ skipBlanks rest = [] := by
  rw [← document_eq_ok_iff, ofContent, parse]
  change _ ↔ shape.parse t = .ok settings
  cases shape.parse t <;> simp

/-- Where a text is read up to blanks, the settings are those of the draft it gives. -/
theorem ofContent_eq_ok_of_read {settings : Settings} {given : Option Draft} (trail : Blanks)
    (hread : (shape.read maxDepth t).toOption = given.map fun d => (ofDraft d, trail.bytes)) :
    ofContent (.ok t) = .ok settings ↔ ∃ d, given = some d ∧ settings = ofDraft d := by
  rw [ofContent_eq_ok]
  constructor
  · rintro ⟨rest, hok, _⟩
    rw [hok] at hread
    obtain ⟨d, hd, heq⟩ := Option.map_eq_some_iff.mp hread.symm
    exact ⟨d, hd, (Prod.mk.inj heq).1.symm⟩
  · rintro ⟨d, rfl, rfl⟩
    exact ⟨trail.bytes, toOption_eq_some.mp hread, skipBlanks_eq_nil.mpr ⟨trail, rfl⟩⟩

section Texts

variable {settings : Settings} {members members' : List KeyedPiece} {items items' : List Piece}

theorem ofContent_object (ht : IsObject t members) (h : ∀ m ∈ members, Grammatical m.text) :
    ofContent (.ok t) = .ok settings ↔
      ∃ d, (members.map (·.part)).foldlM taken {} = some d ∧ settings = ofDraft d := by
  obtain ⟨lead, last, trail, rfl⟩ := ht
  apply ofContent_eq_ok_of_read trail
  rw [maxDepth, read_object ((skipBlanks_eq_cons rfl).mpr ⟨lead, rfl⟩), toOption_bind,
    toOption_readMembers h]
  cases (members.map (·.part)).foldlM taken {} <;> rfl

theorem ofContent_array (ht : IsArray t items) (h : ∀ x ∈ items, Grammatical x.text) :
    ofContent (.ok t) = .ok settings ↔
      ∃ d, takenItems puts {} (items.map (·.text)) = some d ∧ settings = ofDraft d := by
  obtain ⟨lead, last, trail, rfl⟩ := ht
  apply ofContent_eq_ok_of_read trail
  have hitems : (shape.readItems 126 shape.fields 0 {}
      (piecesText 0x5D true last items ++ trail.bytes)).toOption =
        (takenItems puts {} (items.map (·.text))).map (·, trail.bytes) :=
    toOption_readItems fields_takeText h last trail.bytes
  rw [maxDepth, read_array ((skipBlanks_eq_cons rfl).mpr ⟨lead, rfl⟩), toOption_bind, hitems]
  cases takenItems puts {} (items.map (·.text)) <;> rfl

/-- A text of settings is an object or an array of values. -/
theorem isObject_or_isArray (h : ofContent (.ok t) = .ok settings) :
    (∃ members, IsObject t members ∧ ∀ m ∈ members, Grammatical m.text) ∨
      ∃ items, IsArray t items ∧ ∀ x ∈ items, Grammatical x.text := by
  obtain ⟨rest, hread, hrest⟩ := ofContent_eq_ok.mp h
  obtain ⟨trail, rfl⟩ := skipBlanks_eq_nil.mp hrest
  obtain ⟨lead, ht⟩ := exists_blanks t
  cases hs : skipBlanks t with
  | nil =>
      rw [Shape.read, hs] at hread
      cases hread
  | cons b r =>
      rw [hs] at ht
      by_cases hbrace : b = 0x7B
      · subst hbrace
        rw [maxDepth, read_object hs] at hread
        obtain ⟨found, hmembers, heq⟩ := bind_eq_ok.mp hread
        obtain ⟨_, htrail⟩ := Prod.mk.inj (Except.ok.inj heq)
        obtain ⟨members, last, hall, hr⟩ := exists_keyedPieces hmembers
        exact .inl ⟨members, ⟨lead, last, trail, by rw [ht, hr, htrail]⟩, hall⟩
      by_cases hbracket : b = 0x5B
      · subst hbracket
        rw [maxDepth, read_array hs] at hread
        obtain ⟨found, hitems, heq⟩ := bind_eq_ok.mp hread
        obtain ⟨_, htrail⟩ := Prod.mk.inj (Except.ok.inj heq)
        obtain ⟨items, last, hall, hr⟩ := exists_items fields_takeText hitems
        exact .inr ⟨items, ⟨lead, last, trail, by rw [ht, hr, htrail]; rfl⟩, hall⟩
      · rw [Shape.read, hs] at hread
        simp only [hbrace, hbracket] at hread
        exact absurd hread (mismatch_ne_ok _ _ _)

theorem exists_of_forall₂ {α β : Type} {R : α → β → Prop} {xs : List α} {ys : List β}
    (h : List.Forall₂ R xs ys) : ∀ x ∈ xs, ∃ y, R x y := by
  induction h with
  | nil => exact List.forall_mem_nil _
  | cons hxy _ ih => exact List.forall_mem_cons.mpr ⟨⟨_, hxy⟩, ih⟩

theorem GivenBy.grammatical (h : GivenBy parts key given) {part : String × Bytes}
    (hpart : part ∈ parts) (hkey : part.1 = key) : Grammatical part.2 := by
  obtain ⟨text, hquotes⟩ := exists_of_forall₂ h part (by simp [hpart, hkey])
  exact hquotes.grammatical

/-- The members that give a field, with what they give. -/
def known (members : List KeyedPiece) : List (String × Bytes) :=
  (members.map (·.part)).filter fun part => part.1 = "endpoint" ∨ part.1 = "output_dir"

theorem givenBy_known (hkey : key = "endpoint" ∨ key = "output_dir") :
    GivenBy (known members) key given ↔ GivenBy (members.map (·.part)) key given := by
  have hfilter : (known members).filter (·.1 = key) =
      (members.map (·.part)).filter (·.1 = key) := by
    rw [known, List.filter_filter]
    refine List.filter_congr fun part _ => ?_
    by_cases hpart : part.1 = key
    · simp [hpart, hkey]
    · simp [hpart]
  rw [GivenBy, GivenBy, hfilter]

/-- In which order members are given does not matter. -/
theorem GivenBy.of_perm (hperm : parts.Perm parts') (h : GivenBy parts key given) :
    GivenBy parts' key given := by
  have hfilter := hperm.filter (·.1 = key)
  rw [GivenBy] at h ⊢
  cases given with
  | none =>
      rw [Option.toList_none, List.forall₂_nil_right_iff] at h ⊢
      rw [h] at hfilter
      exact hfilter.symm.eq_nil
  | some text =>
      obtain ⟨part, rest, hquotes, hrest, heq⟩ := List.forall₂_cons_right_iff.mp h
      obtain rfl := List.forall₂_nil_right_iff.mp hrest
      rw [heq] at hfilter
      rw [List.perm_singleton.mp hfilter.symm]
      exact .cons hquotes .nil

theorem givenBy_congr (hperm : (known members).Perm (known members'))
    (hkey : key = "endpoint" ∨ key = "output_dir") :
    GivenBy (members.map (·.part)) key given ↔ GivenBy (members'.map (·.part)) key given := by
  rw [← givenBy_known hkey, ← givenBy_known hkey]
  exact ⟨.of_perm hperm, .of_perm hperm.symm⟩

theorem Offers.ofContent {d : Draft} (h : Offers t d) :
    Settings.ofContent (.ok t) = .ok (ofDraft d) := by
  cases h with
  | object ht hendpoint houtputDir hothers =>
      refine (ofContent_object ht ?_).mpr
        ⟨d, foldlM_taken_eq_some.mpr ⟨hendpoint, houtputDir⟩, rfl⟩
      intro m hm
      have hpart := List.mem_map_of_mem (f := KeyedPiece.part) hm
      by_cases hkey : m.key = "endpoint"
      · exact hendpoint.grammatical hpart hkey
      by_cases hkey' : m.key = "output_dir"
      · exact houtputDir.grammatical hpart hkey'
      · exact hothers m hm hkey hkey'
  | array ht htexts hlength =>
      refine (ofContent_array ht ?_).mpr ⟨_, takenItems_eq_some.mpr ⟨_, ?_, hlength, rfl⟩, rfl⟩
      · intro x hx
        obtain ⟨text, hquotes⟩ := exists_of_forall₂ htexts x hx
        exact hquotes.grammatical
      · exact List.forall₂_map_left_iff.mpr htexts

theorem exists_offers (h : Settings.ofContent (.ok t) = .ok settings) :
    ∃ d, Offers t d ∧ settings = ofDraft d := by
  rcases isObject_or_isArray h with ⟨members, ht, hall⟩ | ⟨items, ht, hall⟩
  · obtain ⟨d, htaken, rfl⟩ := (ofContent_object ht hall).mp h
    obtain ⟨hendpoint, houtputDir⟩ := foldlM_taken_eq_some.mp htaken
    exact ⟨d, .object ht hendpoint houtputDir fun m hm _ _ => hall m hm, rfl⟩
  · obtain ⟨d, htaken, rfl⟩ := (ofContent_array ht hall).mp h
    obtain ⟨texts, htexts, hlength, rfl⟩ := takenItems_eq_some.mp htaken
    exact ⟨_, .array ht (List.forall₂_map_left_iff.mp htexts) hlength, rfl⟩

/-- A text is settings exactly if it offers a draft, and they are the draft with the defaults in
place.  Blanks, the order of the members and the unknown members change nothing. -/
theorem ofContent_eq_ok_iff :
    (∀ t settings, ofContent (.ok t) = .ok settings ↔ ∃ d, Offers t d ∧ settings = ofDraft d) ∧
    (∀ t t' members members', IsObject t members → IsObject t' members' →
      (∀ m ∈ members ++ members', Grammatical m.text) →
      (known members).Perm (known members') →
      (ofContent (.ok t)).toOption = (ofContent (.ok t')).toOption) ∧
    ∀ t t' items items', IsArray t items → IsArray t' items' →
      (∀ x ∈ items, Grammatical x.text) → items.map (·.text) = items'.map (·.text) →
      (ofContent (.ok t)).toOption = (ofContent (.ok t')).toOption := by
  refine ⟨?accepted, ?objects, ?arrays⟩
  case accepted =>
    intro t settings
    constructor
    · exact exists_offers
    · rintro ⟨d, hoffers, rfl⟩
      exact hoffers.ofContent
  case objects =>
    intro t t' members members' ht ht' hall hperm
    obtain ⟨hmembers, hmembers'⟩ := List.forall_mem_append.mp hall
    apply Option.ext
    intro settings
    rw [toOption_eq_some, toOption_eq_some, ofContent_object ht hmembers,
      ofContent_object ht' hmembers']
    simp only [foldlM_taken_eq_some, givenBy_congr hperm (.inl rfl),
      givenBy_congr hperm (.inr rfl)]
  case arrays =>
    intro t t' items items' ht ht' hitems htexts
    have hitems' : ∀ x ∈ items', Grammatical x.text := by
      have htext := List.forall_mem_map.mpr hitems
      rw [htexts] at htext
      exact List.forall_mem_map.mp htext
    apply Option.ext
    intro settings
    rw [toOption_eq_some, toOption_eq_some, ofContent_array ht hitems,
      ofContent_array ht' hitems', htexts]

end Texts

/-- A member without blanks. -/
def plainMember (key : String) (name text : Bytes) (h : textOf? name = some key) : KeyedPiece where
  lead := .empty
  before := .empty
  name := name
  afterName := .empty
  afterColon := .empty
  text := text
  key := key
  quotes := textOf?_eq_some.mp h

def ordered : List KeyedPiece :=
  [plainMember "endpoint" (Utf8.ofString "\"endpoint\"") (Utf8.ofString "\"h\"")
      (by decide +kernel),
    plainMember "output_dir" (Utf8.ofString "\"output_dir\"") (Utf8.ofString "\"d\"")
      (by decide +kernel)]

/-- The same members in the other order, one of them with an escape in its name, and one more. -/
def mixed : List KeyedPiece :=
  [plainMember "output_dir" (Utf8.ofString "\"output\\u005fdir\"") (Utf8.ofString "\"d\"")
      (by decide +kernel),
    plainMember "x" (Utf8.ofString "\"x\"") (Utf8.ofString "[1E999]") (by decide +kernel),
    plainMember "endpoint" (Utf8.ofString "\"endpoint\"") (Utf8.ofString "\"h\"")
      (by decide +kernel)]

def orderedText : Bytes :=
  Utf8.ofString "\x7b\"endpoint\":\"h\",\"output_dir\":\"d\"\x7d"

def mixedText : Bytes :=
  Utf8.ofString "\x7b\"output\\u005fdir\":\"d\",\"x\":[1E999],\"endpoint\":\"h\"\x7d"

/-- Two objects of the same known members, and two arrays of the same string. -/
theorem ofContent_eq_ok_iff_mixed :
    (∃ settings d, ofContent (.ok orderedText) = .ok settings ∧
      ofContent (.ok mixedText) = .ok settings ∧ Offers mixedText d ∧ settings = ofDraft d ∧
      settings.endpoint = "h" ∧ settings.outputDir.text = "d") ∧
    (ofContent (.ok (Utf8.ofString "[\"h\"]"))).toOption =
      (ofContent (.ok (Utf8.ofString " [\"h\"]\n"))).toOption := by
  obtain ⟨haccepted, hobjects, harrays⟩ := ofContent_eq_ok_iff
  constructor
  · have hordered : IsObject orderedText ordered := ⟨.empty, .empty, .empty, by decide +kernel⟩
    have hmixed : IsObject mixedText mixed := ⟨.empty, .empty, .empty, by decide +kernel⟩
    have hsame := hobjects _ _ _ _ hordered hmixed (by decide +kernel) (by decide +kernel)
    have hread : (ofContent (.ok orderedText)).toOption.map
        (fun settings => (settings.endpoint, settings.outputDir.text)) = some ("h", "d") := by
      decide +kernel
    obtain ⟨settings, hsettings, htexts⟩ := Option.map_eq_some_iff.mp hread
    obtain ⟨hendpoint, houtputDir⟩ := Prod.mk.inj htexts
    have hother := toOption_eq_some.mp (hsame ▸ hsettings)
    obtain ⟨d, hoffers, hdraft⟩ := (haccepted _ _).mp hother
    exact ⟨settings, d, toOption_eq_some.mp hsettings, hother, hoffers, hdraft, hendpoint,
      houtputDir⟩
  · let item : Piece := ⟨.empty, .empty, Utf8.ofString "\"h\""⟩
    let space : Blanks := ⟨[0x20], List.forall_mem_singleton.mpr rfl⟩
    let lineFeed : Blanks := ⟨[0x0A], List.forall_mem_singleton.mpr rfl⟩
    have hbare : IsArray (Utf8.ofString "[\"h\"]") [item] :=
      ⟨.empty, .empty, .empty, by decide +kernel⟩
    have hspaced : IsArray (Utf8.ofString " [\"h\"]\n") [item] :=
      ⟨space, .empty, lineFeed, by decide +kernel⟩
    exact harrays _ _ _ _ hbare hspaced (by decide +kernel) rfl

end Settings

end TraceArchive
