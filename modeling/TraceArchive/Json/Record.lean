import TraceArchive.Json.Reader
/-!
Records: values of a fixed set of named fields, written as an object, or as an array of the fields
in order.  A `Shape` lists the fields and says how each is read; `Shape.read` reads a record from a
text, and `Shape.ofValue?` takes one from a value that was read verbatim.

In an object unknown members are passed over and a field may be given once.
-/

namespace TraceArchive

namespace Json

/-- A field of a record, seen from the state `σ` that gathers the fields. -/
structure Member (σ : Type) where
  name : String
  given : σ → Bool
  /-- Reads the field's value where so many brackets may still be entered. -/
  read : Nat → σ → Bytes → Except Fault (σ × Bytes)
  ofValue? : σ → Value → Option σ

/-- A field that holds a string; `expected` names in a message what should have been there. -/
def Member.text (name expected : String) (get : σ → Option String) (put : σ → String → σ) :
    Member σ where
  name := name
  given gathered := (get gathered).isSome
  read _ gathered s := do
    let (text, rest) ← stringOf expected s
    return (put gathered text, rest)
  ofValue? gathered v := v.asString?.map (put gathered)

structure Shape (σ τ : Type) where
  /-- How a message names the record. -/
  title : String
  fields : List (Member σ)
  blank : σ
  /-- The record, or what is wrong with the fields as a whole. -/
  finish : σ → Except Cause τ
  /-- How a message names the length that an array must have; none where every field may be left
  out. -/
  exactLength : Option String

namespace Shape

/-- Reads the members of an object into `gathered`. -/
def readMembers (shape : Shape σ τ) (depth : Nat) (s : Bytes) : Except Fault (σ × Bytes) :=
  foldMembers .building string
    (fun gathered name rest =>
      match shape.fields.find? (·.name = name) with
      | some field =>
        if field.given gathered then
          let rest := skipBlanks rest
          faultAt (.duplicateField name) (if rest.head? = some 0x7D then rest.drop 1 else rest)
        else do field.read depth gathered (← colon rest)
      | none => do return (gathered, ← skipValue (← colon rest)))
    (s.length + 1) true shape.blank s

/-- Reads the items of an array into the fields in order. -/
def readItems (shape : Shape σ τ) (depth : Nat) :
    List (Member σ) → Nat → σ → Bytes → Except Fault (σ × Bytes)
  | [], _, gathered, s => do return (gathered, ← closeArray s)
  | field :: fields, index, gathered, s => do
    match ← nextItem .building (index = 0) s with
    | .closed rest =>
      match shape.exactLength with
      | some expected => faultAt (.invalidLength index expected) rest
      | none => .ok (gathered, rest)
    | .more rest =>
      let (gathered, rest) ← field.read depth gathered rest
      readItems shape depth fields (index + 1) gathered rest

/-- Reads a record, entering at most `depth` brackets. -/
def read (shape : Shape σ τ) (depth : Nat) (s : Bytes) : Except Fault (τ × Bytes) :=
  match skipBlanks s with
  | [] => faultAt .endInValue []
  | b :: r =>
    if b = 0x5B || b = 0x7B then
      match depth with
      | 0 => faultPast .tooDeep (b :: r)
      | depth + 1 => do
        let (gathered, rest) ←
          if b = 0x5B then shape.readItems depth shape.fields 0 shape.blank r
          else shape.readMembers depth r
        match shape.finish gathered with
        | .ok record => .ok (record, rest)
        | .error cause => faultAt cause rest
    else mismatch shape.title (b :: r)

/-- Reads a text of one record. -/
def parse (shape : Shape σ τ) (text : Bytes) : Except Error τ :=
  document (shape.read maxDepth) text

/-- Takes the members of an object into the fields. -/
def takeMembers (shape : Shape σ τ) (gathered : σ) : List (String × Value) → Option σ
  | [] => some gathered
  | (name, v) :: members =>
    match shape.fields.find? (·.name = name) with
    | some field =>
      if field.given gathered then none
      else do takeMembers shape (← field.ofValue? gathered v) members
    | none => takeMembers shape gathered members

/-- Takes the items of an array into the fields in order. -/
def takeItems (shape : Shape σ τ) : List (Member σ) → σ → List Value → Option σ
  | [], gathered, [] => some gathered
  | [], _, _ :: _ => none
  | _ :: _, gathered, [] => if shape.exactLength.isSome then none else some gathered
  | field :: fields, gathered, v :: items => do
    takeItems shape fields (← field.ofValue? gathered v) items

/-- The record of a value that was read verbatim. -/
def ofValue? (shape : Shape σ τ) (v : Value) : Option τ := do
  let gathered ← match v with
    | .object members => shape.takeMembers shape.blank members
    | .array items => shape.takeItems shape.fields shape.blank items
    | _ => none
  (shape.finish gathered).toOption

end Shape

end Json

end TraceArchive
