import TraceArchive.Json.Reader
/-!
How deep values nest, and the values whose objects are written as they are kept: `levels` counts the
brackets around the innermost part of a value, and in a `Plain` value no name is repeated and no
object begins with `embeddedName`.
-/

namespace TraceArchive

namespace Json

namespace Value

/-- Induction on a value, with a hypothesis for each item and each member. -/
@[elab_as_elim]
theorem inductionOn {motive : Value → Prop} (null : motive .null) (bool : ∀ b, motive (.bool b))
    (number : ∀ n, motive (.number n)) (string : ∀ s, motive (.string s))
    (array : ∀ items, (∀ x ∈ items, motive x) → motive (.array items))
    (object : ∀ members, (∀ m ∈ members, motive m.2) → motive (.object members)) (v : Value) :
    motive v :=
  @Value.rec motive (fun items => ∀ x ∈ items, motive x) (fun members => ∀ m ∈ members, motive m.2)
    (fun m => motive m.2) null bool number string array object (by simp)
    (fun _ _ hhead htail => List.forall_mem_cons.mpr ⟨hhead, htail⟩) (by simp)
    (fun _ _ hhead htail => List.forall_mem_cons.mpr ⟨hhead, htail⟩) (fun _ _ h => h) v

mutual

/-- The number of brackets around the innermost part of a value. -/
def levels : Value → Nat
  | .array items => levelsOfItems items + 1
  | .object members => levelsOfMembers members + 1
  | _ => 0

def levelsOfItems : List Value → Nat
  | [] => 0
  | x :: xs => max x.levels (levelsOfItems xs)

def levelsOfMembers : List (String × Value) → Nat
  | [] => 0
  | (_, v) :: members => max v.levels (levelsOfMembers members)

end

theorem levelsOfItems_le {items : List Value} {depth : Nat} :
    levelsOfItems items ≤ depth ↔ ∀ x ∈ items, x.levels ≤ depth := by
  induction items with
  | nil => simp [levelsOfItems]
  | cons x items ih => rw [levelsOfItems, Nat.max_le, ih, List.forall_mem_cons]

theorem levelsOfMembers_le {members : List (String × Value)} {depth : Nat} :
    levelsOfMembers members ≤ depth ↔ ∀ m ∈ members, m.2.levels ≤ depth := by
  induction members with
  | nil => simp [levelsOfMembers]
  | cons m members ih => rw [levelsOfMembers, Nat.max_le, ih, List.forall_mem_cons]

/-- An array nests one deeper than its items. -/
@[simp]
theorem levels_array_le {items : List Value} {depth : Nat} :
    (array items).levels ≤ depth + 1 ↔ ∀ x ∈ items, x.levels ≤ depth := by
  rw [levels, Nat.add_le_add_iff_right, levelsOfItems_le]

/-- An object nests one deeper than its members. -/
@[simp]
theorem levels_object_le {members : List (String × Value)} {depth : Nat} :
    (object members).levels ≤ depth + 1 ↔ ∀ m ∈ members, m.2.levels ≤ depth := by
  rw [levels, Nat.add_le_add_iff_right, levelsOfMembers_le]

/-- The values in whose objects every name stands once and the first is not `embeddedName`. -/
inductive Plain : Value → Prop
  | null : Plain .null
  | bool (b : Bool) : Plain (.bool b)
  | number (n : Number) : Plain (.number n)
  | string (s : String) : Plain (.string s)
  | array {items : List Value} (items_plain : ∀ x ∈ items, Plain x) : Plain (.array items)
  | object {members : List (String × Value)} (names_nodup : (members.map Prod.fst).Nodup)
      (head_ne : (members.map Prod.fst).head? ≠ some embeddedName)
      (members_plain : ∀ m ∈ members, Plain m.2) : Plain (.object members)

/-- Members as a plain object has them. -/
structure PlainMembers (members : List (String × Value)) : Prop where
  names_nodup : (members.map Prod.fst).Nodup
  head_ne : (members.map Prod.fst).head? ≠ some embeddedName
  members_plain : ∀ m ∈ members, m.2.Plain

theorem PlainMembers.plain {members : List (String × Value)} (h : PlainMembers members) :
    (object members).Plain :=
  .object h.names_nodup h.head_ne h.members_plain

theorem Plain.items {items : List Value} (h : (Value.array items).Plain) :
    ∀ x ∈ items, x.Plain := by
  cases h with
  | array h => exact h

theorem Plain.plainMembers {members : List (String × Value)} (h : (Value.object members).Plain) :
    PlainMembers members := by
  cases h with
  | object hnames hhead hmembers => exact ⟨hnames, hhead, hmembers⟩

end Value

/-! ## Members of plain objects -/

/-- A new name is set behind the others. -/
theorem setMember_of_not_mem {members : List (String × α)} {name : String} {v : α}
    (h : name ∉ members.map Prod.fst) : setMember members name v = members ++ [(name, v)] := by
  induction members with
  | nil => rfl
  | cons m members ih =>
      rw [List.map_cons, List.mem_cons, not_or] at h
      rw [setMember, if_neg (Ne.symm h.1), ih h.2]
      rfl

/-- Members of different names are set one behind the other. -/
theorem foldl_setMember {former latter : List (String × α)}
    (h : ((former ++ latter).map Prod.fst).Nodup) :
    latter.foldl (fun members m => setMember members m.1 m.2) former = former ++ latter := by
  induction latter generalizing former with
  | nil => rw [List.foldl_nil, List.append_nil]
  | cons m latter ih =>
      have hsplit : former ++ m :: latter = former ++ [m] ++ latter := by simp
      have hnew : m.1 ∉ former.map Prod.fst := by
        rw [List.map_append, List.map_cons, List.nodup_append] at h
        intro hmem
        exact h.2.2 m.1 hmem m.1 List.mem_cons_self rfl
      rw [List.foldl_cons, setMember_of_not_mem hnew, hsplit]
      exact ih (hsplit ▸ h)

namespace Value

theorem settleItems_eq {items : List Value} (h : ∀ x ∈ items, x.settle = some x) :
    settleItems items = some items := by
  induction items with
  | nil => rfl
  | cons x items ih =>
      obtain ⟨hhead, htail⟩ := List.forall_mem_cons.mp h
      rw [settleItems, hhead, ih htail]
      rfl

theorem settleMembers_eq {settled members : List (String × Value)}
    (h : ∀ m ∈ members, m.2.settle = some m.2) :
    settleMembers settled members =
      some (members.foldl (fun settled m => setMember settled m.1 m.2) settled) := by
  induction members generalizing settled with
  | nil => rfl
  | cons m members ih =>
      obtain ⟨hhead, htail⟩ := List.forall_mem_cons.mp h
      rw [settleMembers, hhead, Option.bind_eq_bind, Option.bind_some, ih htail]
      rfl

/-- A plain value stays as it was read. -/
theorem Plain.settle {v : Value} (h : v.Plain) : v.settle = some v := by
  induction h with
  | null => rfl
  | bool b => rfl
  | number n => rfl
  | string s => rfl
  | array hitems ih => rw [Value.settle, settleItems_eq ih, Option.map_some]
  | @object members hnames hhead hmembers ih =>
      cases members with
      | nil => rfl
      | cons m members =>
          obtain ⟨name, v⟩ := m
          obtain ⟨hfirst, hrest⟩ := List.forall_mem_cons.mp ih
          have hname : name ≠ embeddedName := fun heq => hhead (congrArg some heq)
          rw [Value.settle.eq_def]
          simp only [hname, ↓reduceIte]
          rw [hfirst, Option.bind_eq_bind, Option.bind_some, settleMembers_eq hrest,
            foldl_setMember hnames]
          rfl

end Value

end Json

end TraceArchive
