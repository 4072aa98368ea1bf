import TraceArchive.Proofs.Json.Number
/-!
Printed values, part by part: what a layout writes behind an opening bracket, from one item or
member to the next.
-/

namespace TraceArchive

namespace Json

/-- What stands in front of an item: nothing before the first, a comma before the others. -/
def separator (first : Bool) : List Char :=
  if first then [] else [',']

namespace Value

/-- An array behind its opening bracket, from its first item or from a later one. -/
def itemsTail (layout : Layout) (place : Nat) (first : Bool) : List Value → List Char
  | [] => (if first then [] else layout.beforeItem place) ++ [']']
  | x :: xs =>
    separator first ++ layout.beforeItem (place + 1)
      ++ (x.print layout (place + 1) ++ itemsTail layout place false xs)

/-- An object behind its opening brace, from its first member or from a later one. -/
def membersTail (layout : Layout) (place : Nat) (first : Bool) : List (String × Value) → List Char
  | [] => (if first then [] else layout.beforeItem place) ++ ['}']
  | (name, v) :: members =>
    separator first ++ layout.beforeItem (place + 1)
      ++ (quoted name ++ (':' :: (layout.afterColon
        ++ (v.print layout (place + 1) ++ membersTail layout place false members))))

theorem printItems_append (layout : Layout) (place : Nat) (items : List Value) :
    printItems layout (place + 1) items ++ (layout.beforeItem place ++ [']']) =
      itemsTail layout place false items := by
  induction items with
  | nil => rfl
  | cons x items ih =>
      rw [itemsTail, ← ih]
      simp [printItems, separator]

theorem printMembers_append (layout : Layout) (place : Nat) (members : List (String × Value)) :
    printMembers layout (place + 1) members ++ (layout.beforeItem place ++ ['}']) =
      membersTail layout place false members := by
  induction members with
  | nil => rfl
  | cons m members ih =>
      rw [membersTail, ← ih]
      simp [printMembers, separator]

theorem print_array (layout : Layout) (place : Nat) (items : List Value) :
    (array items).print layout place = '[' :: itemsTail layout place true items := by
  cases items with
  | nil => rfl
  | cons x items =>
      rw [print, printItems_append]
      simp [itemsTail, separator]

theorem print_object (layout : Layout) (place : Nat) (members : List (String × Value)) :
    (object members).print layout place = '{' :: membersTail layout place true members := by
  cases members with
  | nil => rfl
  | cons m members =>
      rw [print, printMembers_append]
      simp [membersTail, separator]

end Value

end Json

end TraceArchive
