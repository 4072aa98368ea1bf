import TraceArchive.Json.Record
import TraceArchive.Proofs.Json.Settling
/-!
Records taken from values.  Where a value is read verbatim, reading a record gives what taking it
from the value gives, and fails where that fails, if each field does so: `Member.Follows` says it of
a field, and `Shape.toOption_read` of a record.
-/

namespace TraceArchive

namespace Json

variable {σ τ : Type} {depth inner : Nat} {s r rest : Bytes} {v : Value}

/-! ## Integers and arrays -/

namespace Value

/-- The integer that a value is, if it is one within the bounds. -/
def integerWithin? (low high : Int) : Value → Option Int
  | .number (.integer n _) => if low ≤ n ∧ n ≤ high then some n else none
  | _ => none

/-- The settled items of a value that is an array. -/
def settledItems? : Value → Option (List Value)
  | .array items => settleItems items
  | _ => none

end Value

theorem integerOf_of_not {b : UInt8} (hs : skipBlanks s = b :: r)
    (hb : (decide (b = 0x2D) || isDigit b) = false) (expected : String) (low high : Int) :
    (integerOf expected low high s).toOption = none := by
  rw [integerOf]
  simp only [hs, hb, Bool.false_eq_true, ↓reduceIte]
  exact toOption_mismatch expected (b :: r)

theorem Verbatim.integerOf (h : Verbatim depth s v rest) (expected : String) (low high : Int) :
    (Json.integerOf expected low high s).toOption =
      (v.integerWithin? low high).map (·, rest) := by
  cases h with
  | null hs hword => exact integerOf_of_not hs (by decide) expected low high
  | yes hs hword => exact integerOf_of_not hs (by decide) expected low high
  | no hs hword => exact integerOf_of_not hs (by decide) expected low high
  | @number _ _ _ _ _ n hs hb hnumber =>
      rw [Json.integerOf]
      simp only [hs, Bool.or_eq_true, decide_eq_true_eq, hb, ↓reduceIte]
      rw [hnumber]
      cases n with
      | double d => rfl
      | integer i fits =>
          change (if low ≤ i ∧ i ≤ high then _ else _ : Except Fault (Int × Bytes)).toOption = _
          rw [Value.integerWithin?]
          split
          · rfl
          · rfl
  | string hs hstring => exact integerOf_of_not hs (by decide) expected low high
  | array hs hitems => exact integerOf_of_not hs (by decide) expected low high
  | object hs hmembers => exact integerOf_of_not hs (by decide) expected low high

theorem arrayOf_bracket (expected : String) (depth : Nat) (r : Bytes) :
    arrayOf expected (depth + 1) (0x5B :: r) = (do
      let (items, rest) ← foldItems .building
        (fun items s => do
          let (v, rest) ← value .usual depth s
          return (v :: items, rest)) (r.length + 1) true [] r
      return (items.reverse, rest)) :=
  rfl

theorem arrayOf_of_ne {b : UInt8} (hs : skipBlanks s = b :: r) (hb : b ≠ 0x5B)
    (expected : String) : (arrayOf expected depth s).toOption = none := by
  rw [arrayOf]
  simp only [hs, hb, ↓reduceIte]
  exact toOption_mismatch expected (b :: r)

theorem Verbatim.arrayOf (h : Verbatim depth s v rest) (expected : String) :
    (Json.arrayOf expected depth s).toOption = v.settledItems?.map (·, rest) := by
  cases h with
  | null hs hword => exact arrayOf_of_ne hs (by decide) expected
  | yes hs hword => exact arrayOf_of_ne hs (by decide) expected
  | no hs hword => exact arrayOf_of_ne hs (by decide) expected
  | number hs hb hnumber => exact arrayOf_of_ne hs (ne_of_number hb).2.2.2.2.1 expected
  | string hs hstring => exact arrayOf_of_ne hs (by decide) expected
  | @array inner _ r _ items hs hitems =>
      have hinner : ∀ s v rest, value .verbatim inner s = .ok (v, rest) →
          (value .usual inner s).toOption = v.settle.map (·, rest) :=
        fun s v rest hv => (verbatim_of_value hv).settle
      rw [← arrayOf_skipBlanks, hs, arrayOf_bracket, toOption_bind,
        foldItems_settled hinner hitems, Value.settledItems?]
      cases Value.settleItems items with
      | none => rfl
      | some items => simp [pure, Except.pure, Except.toOption]
  | object hs hmembers => exact arrayOf_of_ne hs (by decide) expected

/-! ## Fields -/

/-- The field reads what it takes from a value, and leaves what is behind that. -/
def Member.Follows (field : Member σ) : Prop :=
  ∀ depth gathered s v rest, Verbatim depth s v rest →
    (field.read depth gathered s).toOption = (field.ofValue? gathered v).map (·, rest)

/-- A field follows if it is one part of a value, put into what is gathered. -/
theorem Member.follows_of_part {α : Type} {field : Member σ}
    {reading : Nat → Bytes → Except Fault (α × Bytes)} {part : Value → Option α} (put : σ → α → σ)
    (hpart : ∀ depth s v rest, Verbatim depth s v rest →
      (reading depth s).toOption = (part v).map (·, rest))
    (hread : ∀ depth gathered s, field.read depth gathered s = (do
      let (a, rest) ← reading depth s
      return (put gathered a, rest)))
    (htake : ∀ gathered v, field.ofValue? gathered v = (part v).map (put gathered)) :
    field.Follows := by
  intro depth gathered s v rest h
  rw [hread, toOption_bind, hpart depth s v rest h, htake]
  cases part v with
  | none => rfl
  | some a => rfl

/-- A field of a string takes the text that a value is. -/
theorem Member.text_follows (name expected : String) (get : σ → Option String)
    (put : σ → String → σ) : (Member.text name expected get put).Follows :=
  follows_of_part put (fun _ _ _ _ h => h.stringOf expected) (fun _ _ _ => rfl) fun _ _ => rfl

namespace Shape

variable {shape : Shape σ τ} {fields : List (Member σ)} {field : Member σ} {gathered next : σ}
  {name : String}

/-- What a record does with a name in an object. -/
def readMember (shape : Shape σ τ) (depth : Nat) (gathered : σ) (name : String) (rest : Bytes) :
    Except Fault (σ × Bytes) :=
  match shape.fields.find? (·.name = name) with
  | some field =>
    if field.given gathered then
      let rest := skipBlanks rest
      faultAt (.duplicateField name) (if rest.head? = some 0x7D then rest.drop 1 else rest)
    else do field.read depth gathered (← colon rest)
  | none => do return (gathered, ← skipValue (← colon rest))

theorem readMembers_eq (shape : Shape σ τ) (depth : Nat) (s : Bytes) :
    shape.readMembers depth s =
      foldMembers .building string (shape.readMember depth) (s.length + 1) true shape.blank s :=
  rfl

/-- What a record does with one member of a value. -/
def takeMember (shape : Shape σ τ) (gathered : σ) (m : String × Value) : Option σ :=
  match shape.fields.find? (·.name = m.1) with
  | some field => if field.given gathered then none else field.ofValue? gathered m.2
  | none => some gathered

theorem takeMembers_eq_foldlM (shape : Shape σ τ) (gathered : σ) (members : List (String × Value)) :
    shape.takeMembers gathered members = members.foldlM shape.takeMember gathered := by
  induction members generalizing gathered with
  | nil => rfl
  | cons m members ih =>
      rw [takeMembers, List.foldlM_cons, takeMember]
      cases shape.fields.find? (·.name = m.1) with
      | none => exact ih gathered
      | some field =>
          simp only
          split
          · rfl
          · exact congrArg _ (funext ih)

/-! Members of a value, taken one by one. -/

theorem takeMembers_field {members : List (String × Value)}
    (hfield : shape.fields.find? (·.name = name) = some field)
    (hnew : field.given gathered = false) (htake : field.ofValue? gathered v = some next) :
    shape.takeMembers gathered ((name, v) :: members) = shape.takeMembers next members := by
  rw [takeMembers, hfield]
  simp [hnew, htake]

theorem takeMembers_unknown {members : List (String × Value)}
    (hfield : shape.fields.find? (·.name = name) = none) :
    shape.takeMembers gathered ((name, v) :: members) = shape.takeMembers gathered members := by
  rw [takeMembers, hfield]

theorem ofValue?_object {members : List (String × Value)}
    (htake : shape.takeMembers shape.blank members = some gathered) :
    shape.ofValue? (.object members) = (shape.finish gathered).toOption := by
  simp [ofValue?, htake]

theorem toOption_readMember (hfields : ∀ field ∈ shape.fields, field.Follows) {valued : Bytes}
    {name : String} (hcolon : colon s = .ok valued) (hv : Verbatim depth valued v rest)
    (gathered : σ) :
    (shape.readMember depth gathered name s).toOption =
      (shape.takeMember gathered (name, v)).map (·, rest) := by
  rw [readMember, takeMember]
  cases hfield : shape.fields.find? (·.name = name) with
  | none =>
      simp only [hcolon]
      change (skipValue valued >>= _).toOption = _
      rw [hv.skipValue]
      rfl
  | some field =>
      simp only
      split
      · rfl
      · rw [hcolon]
        exact hfields field (List.mem_of_find?_eq_some hfield) depth gathered valued v rest hv

theorem toOption_readMembers (hfields : ∀ field ∈ shape.fields, field.Follows)
    {members : List (String × Value)}
    (h : Members (value .verbatim depth) true s members rest) :
    (shape.readMembers depth s).toOption =
      (shape.takeMembers shape.blank members).map (·, rest) := by
  rw [readMembers_eq, takeMembers_eq_foldlM]
  refine h.fold takes_string (takes_verbatim depth) id shape.takeMember (fun _ _ _ h => h) ?_
    (Nat.lt_succ_self _) shape.blank
  intro gathered text named valued v left _ _ hcolon hv
  exact toOption_readMember hfields hcolon (verbatim_of_value hv) gathered

/-- An array that goes on does not close. -/
theorem toOption_closeArray {first : Bool} {mid : Bytes} (hopen : mid.head? ≠ some 0x5D)
    (hnext : NextAt first s mid) : (closeArray s).toOption = none := by
  rw [Option.eq_none_iff_forall_ne_some]
  intro left hleft
  rw [toOption_eq_some, closeArray_eq_ok] at hleft
  cases first with
  | true =>
      obtain rfl : skipBlanks s = mid := hnext
      exact hopen (by rw [hleft]; rfl)
  | false =>
      obtain ⟨r, hcomma, _⟩ := hnext
      rw [hcomma] at hleft
      cases hleft

/-- Items are read into the fields in order as they are taken into them. -/
theorem toOption_readItems (hfields : ∀ field ∈ fields, field.Follows) {items : List Value}
    {index : Nat} (h : Items (value .verbatim depth) (index = 0) s items rest) (gathered : σ) :
    (shape.readItems depth fields index gathered s).toOption =
      (shape.takeItems fields gathered items).map (·, rest) := by
  induction fields generalizing gathered index s items with
  | nil =>
      rw [readItems]
      cases h with
      | closed hclosed =>
          rw [closeArray_eq_ok.mpr hclosed]
          rfl
      | more _ hopen hnext =>
          rw [toOption_bind, toOption_closeArray hopen hnext]
          rfl
  | cons field fields ih =>
      obtain ⟨hfield, hfields⟩ := List.forall_mem_cons.mp hfields
      rw [readItems]
      cases h with
      | closed hclosed =>
          rw [nextItem_eq_closed.mpr hclosed, takeItems]
          cases hlength : shape.exactLength with
          | none => rfl
          | some expected => rfl
      | @more _ _ mid left _ x items hsome hopen hnext hx hlater =>
          rw [nextItem_eq_more.mpr ⟨hsome, hopen, hnext⟩, takeItems]
          change (field.read depth gathered mid >>= _).toOption = _
          rw [toOption_bind, hfield depth gathered mid x left (verbatim_of_value hx)]
          cases field.ofValue? gathered x with
          | none => rfl
          | some next => exact ih hfields (by simpa using hlater) next

theorem read_of_ne {b : UInt8} (hs : skipBlanks s = b :: r) (harray : b ≠ 0x5B)
    (hobject : b ≠ 0x7B) : (shape.read depth s).toOption = none := by
  rw [read]
  simp only [hs, harray, hobject, decide_false, Bool.or_self, Bool.false_eq_true, ↓reduceIte]
  exact toOption_mismatch shape.title (b :: r)

/-- The record that the gathered fields make up. -/
theorem toOption_finish (shape : Shape σ τ) (gathered : σ) (rest : Bytes) :
    (match shape.finish gathered with
      | .ok record => .ok (record, rest)
      | .error cause => faultAt cause rest : Except Fault (τ × Bytes)).toOption =
      (shape.finish gathered).toOption.map (·, rest) := by
  cases shape.finish gathered with
  | error cause => rfl
  | ok record => rfl

/-- Where a value is read verbatim, a record is read as it is taken from the value. -/
theorem toOption_read (hfields : ∀ field ∈ shape.fields, field.Follows)
    (h : Verbatim depth s v rest) :
    (shape.read depth s).toOption = (shape.ofValue? v).map (·, rest) := by
  cases h with
  | null hs hword => exact read_of_ne hs (by decide) (by decide)
  | yes hs hword => exact read_of_ne hs (by decide) (by decide)
  | no hs hword => exact read_of_ne hs (by decide) (by decide)
  | number hs hb hnumber =>
      obtain ⟨_, _, _, _, harray, hobject⟩ := ne_of_number hb
      exact read_of_ne hs harray hobject
  | string hs hstring => exact read_of_ne hs (by decide) (by decide)
  | @array inner _ r _ items hs hitems =>
      rw [read]
      simp only [hs]
      change (shape.readItems inner shape.fields 0 shape.blank r >>= _).toOption = _
      rw [toOption_bind, toOption_readItems hfields hitems, ofValue?]
      simp only
      cases shape.takeItems shape.fields shape.blank items with
      | none => rfl
      | some gathered => exact shape.toOption_finish gathered rest
  | @object inner _ r _ members hs hmembers =>
      rw [read]
      simp only [hs]
      change (shape.readMembers inner r >>= _).toOption = _
      rw [toOption_bind, toOption_readMembers hfields hmembers, ofValue?]
      simp only
      cases shape.takeMembers shape.blank members with
      | none => rfl
      | some gathered => exact shape.toOption_finish gathered rest

/-- A record is parsed from a whole text as it is taken from the value that the text is. -/
theorem parse_eq_ok_iff (hfields : ∀ field ∈ shape.fields, field.Follows) {text : Bytes}
    (h : document (value .verbatim maxDepth) text = .ok v) (record : τ) :
    shape.parse text = .ok record ↔ shape.ofValue? v = some record := by
  obtain ⟨rest, hread, hrest⟩ := document_eq_ok_iff.mp h
  have hrecord := toOption_read hfields (verbatim_of_value hread)
  rw [parse, document_eq_ok_iff]
  constructor
  · rintro ⟨left, hparse, _⟩
    rw [hparse] at hrecord
    obtain ⟨_, htaken, heq⟩ := Option.map_eq_some_iff.mp hrecord.symm
    cases heq
    exact htaken
  · intro htaken
    rw [htaken] at hrecord
    exact ⟨rest, toOption_eq_some.mp hrecord, hrest⟩

end Shape

end Json

end TraceArchive
