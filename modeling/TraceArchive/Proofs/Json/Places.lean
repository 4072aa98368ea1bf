import TraceArchive.Proofs.Json.Settling
import TraceArchive.Proofs.Json.Spaced
/-!
Places within values and within texts.  A place is a way from a value to one that it holds, item by
item and member by member, and a member counts only if no other has its name.  `Value.at?` follows a
way into a value, and `textAt?` into a text, without reading more than it must.  What stands at a
place of a text is what is read there verbatim; and the usual policy changes no place, unless it
leads to a string.
-/

namespace TraceArchive

namespace Json

variable {α β : Type} {depth inner : Nat} {s r t rest : Bytes} {v u : Value} {name : String}

/-- A step from a value to one that it holds. -/
inductive Step where
  | item (index : Nat)
  | member (name : String)

/-- What the members of a name hold, in order. -/
def under (name : String) : List (String × α) → List α
  | [] => []
  | (key, x) :: members => if key = name then x :: under name members else under name members

/-- What is under a name, if exactly one member has it. -/
def soleMember? (name : String) (members : List (String × α)) : Option α :=
  match under name members with
  | [x] => some x
  | _ => none

/-- What stands at a place of a value. -/
def Value.at? : List Step → Value → Option Value
  | [], v => some v
  | .item index :: path, .array items => items[index]?.bind (at? path)
  | .member name :: path, .object members => (soleMember? name members).bind (at? path)
  | _ :: _, _ => none

/-- The texts that begin with the items of an array, each up to the end of the whole. -/
def itemTexts? (s : Bytes) : Option (List Bytes) :=
  match skipBlanks s with
  | [] => none
  | b :: r =>
    if b = 0x5B then
      (foldItems .skipping (fun texts s => do return (s :: texts, ← skipValue s))
        (r.length + 1) true [] r).toOption.map (·.1.reverse)
    else none

/-- The texts that begin with the values of an object's members, by their names. -/
def memberTexts? (s : Bytes) : Option (List (String × Bytes)) :=
  match skipBlanks s with
  | [] => none
  | b :: r =>
    if b = 0x7B then
      (foldMembers .skipping string
        (fun texts name s => do
          let valued ← colon s
          return ((name, valued) :: texts, ← skipValue valued)) (r.length + 1) true
        [] r).toOption.map (·.1.reverse)
    else none

/-- The text that begins with what stands at a place of a value, whose text is given. -/
def textAt? : List Step → Bytes → Option Bytes
  | [], s => some s
  | .item index :: path, s => ((itemTexts? s).bind (·[index]?)).bind (textAt? path)
  | .member name :: path, s => ((memberTexts? s).bind (soleMember? name)).bind (textAt? path)

/-- A value in front of a text as it is written, from its first byte to its last. -/
def written? (s : Bytes) : Option Bytes :=
  let start := skipBlanks s
  (skipValue start).toOption.map fun rest => start.take (start.length - rest.length)

/-- What is written at a place of a value, whose text is given. -/
def writtenAt? (path : List Step) (s : Bytes) : Option Bytes :=
  (textAt? path s).bind written?

/-! ## Members of a name -/

theorem soleMember?_eq_some {members : List (String × α)} {x : α} :
    soleMember? name members = some x ↔ under name members = [x] := by
  rw [soleMember?]
  split <;> simp_all

theorem under_map (f : α → β) (name : String) (members : List (String × α)) :
    under name (members.map fun m => (m.1, f m.2)) = (under name members).map f := by
  induction members with
  | nil => rfl
  | cons m members ih =>
      rw [List.map_cons, under, under, ih]
      split <;> rfl

theorem soleMember?_map (f : α → β) (name : String) (members : List (String × α)) :
    soleMember? name (members.map fun m => (m.1, f m.2)) = (soleMember? name members).map f := by
  rw [soleMember?, soleMember?, under_map]
  match under name members with
  | [] => rfl
  | [x] => rfl
  | x :: y :: xs => rfl

theorem mem_of_mem_under {members : List (String × α)} {x : α} (h : x ∈ under name members) :
    (name, x) ∈ members := by
  induction members with
  | nil => cases h
  | cons m members ih =>
      rw [under] at h
      split at h
      · rename_i hm
        rcases List.mem_cons.mp h with rfl | hx
        · exact hm ▸ List.mem_cons_self
        · exact List.mem_cons_of_mem m (ih hx)
      · exact List.mem_cons_of_mem m (ih h)

theorem mem_of_soleMember? {members : List (String × α)} {x : α}
    (h : soleMember? name members = some x) : (name, x) ∈ members := by
  refine mem_of_mem_under ?_
  rw [soleMember?_eq_some.mp h]
  exact List.mem_singleton_self x

/-- Setting a member leaves what is under other names. -/
theorem under_setMember_of_ne {key : String} (h : key ≠ name) (members : List (String × α))
    (x : α) : under name (setMember members key x) = under name members := by
  induction members with
  | nil => simp only [setMember, under, if_neg h]
  | cons m members ih =>
      rw [setMember]
      split
      · rename_i hkey
        have hm : m.1 ≠ name := hkey ▸ h
        rw [under, under, if_neg hm, if_neg hm]
      · rw [under, under, ih]

/-- Setting a member replaces the first of its name. -/
theorem under_setMember (members : List (String × α)) (name : String) (x : α) :
    under name (setMember members name x) = x :: (under name members).tail := by
  induction members with
  | nil => simp [setMember, under]
  | cons m members ih =>
      rw [setMember, under]
      split
      · rename_i hm
        rw [under, if_pos hm, List.tail_cons]
      · rename_i hm
        rw [under, if_neg hm, ih]

theorem lookup_eq_head?_under (name : String) (members : List (String × α)) :
    members.lookup name = (under name members).head? := by
  induction members with
  | nil => rfl
  | cons m members ih =>
      obtain ⟨key, x⟩ := m
      rw [under, List.lookup_cons]
      split
      · rename_i hkey
        rw [if_pos (beq_iff_eq.mp hkey).symm, List.head?_cons]
      · rename_i hkey
        rw [if_neg (beq_eq_false_iff_ne.mp hkey).symm, ih]

/-! ## Places of settled values -/

namespace Value

theorem settleItems_getElem? {items settled : List Value} (h : settleItems items = some settled)
    {index : Nat} {x : Value} (hx : items[index]? = some x) :
    ∃ y, x.settle = some y ∧ settled[index]? = some y := by
  induction items generalizing settled index with
  | nil => cases hx
  | cons z items ih =>
      rw [settleItems] at h
      obtain ⟨y, hy, h⟩ := Option.bind_eq_some_iff.mp h
      obtain ⟨ys, hys, h⟩ := Option.bind_eq_some_iff.mp h
      obtain rfl : y :: ys = settled := Option.some.inj h
      cases index with
      | zero =>
          obtain rfl : z = x := Option.some.inj hx
          exact ⟨y, hy, rfl⟩
      | succ index => exact ih hys hx

theorem under_settleMembers_of_nil {members settled out : List (String × Value)}
    (h : settleMembers settled members = some out) (hname : under name members = []) :
    under name out = under name settled := by
  induction members generalizing settled with
  | nil =>
      obtain rfl : settled = out := Option.some.inj h
      rfl
  | cons m members ih =>
      obtain ⟨y, _, h⟩ := Option.bind_eq_some_iff.mp h
      rw [under] at hname
      split at hname
      · cases hname
      · rename_i hm
        rw [ih h hname, under_setMember_of_ne hm]

/-- Of the members of a name the last one is kept, settled, in place of one that was there. -/
theorem under_settleMembers {members settled out : List (String × Value)}
    (h : settleMembers settled members = some out) {x : Value}
    (hlast : (under name members).getLast? = some x) :
    ∃ y, x.settle = some y ∧ under name out = y :: (under name settled).tail := by
  induction members generalizing settled with
  | nil => cases hlast
  | cons m members ih =>
      obtain ⟨y, hy, h⟩ := Option.bind_eq_some_iff.mp h
      rw [under] at hlast
      split at hlast
      · rename_i hm
        subst hm
        have hset := under_setMember settled m.1 y
        cases hlater : under m.1 members with
        | nil =>
            rw [hlater] at hlast
            obtain rfl : m.2 = x := Option.some.inj hlast
            exact ⟨y, hy, (under_settleMembers_of_nil h hlater).trans hset⟩
        | cons z zs =>
            rw [hlater, List.getLast?_cons_cons, ← hlater] at hlast
            obtain ⟨w, hw, hout⟩ := ih h hlast
            exact ⟨w, hw, by rw [hout, hset, List.tail_cons]⟩
      · rename_i hm
        obtain ⟨w, hw, hout⟩ := ih h hlast
        exact ⟨w, hw, by rw [hout, under_setMember_of_ne hm]⟩

/-- Settling an object settles its members, or takes the value that its one string stands for. -/
theorem settle_object {members : List (String × Value)}
    (h : (object members).settle = some v) :
    (∃ text, members = [(embeddedName, .string text)]) ∨
      ∃ out, settleMembers [] members = some out ∧ v = .object out := by
  cases members with
  | nil => exact Or.inr ⟨[], rfl, (Option.some.inj h).symm⟩
  | cons m members =>
      obtain ⟨key, w⟩ := m
      by_cases hkey : key = embeddedName
      · subst hkey
        left
        rw [settle.eq_def] at h
        simp only [↓reduceIte] at h
        split at h
        · rename_i text
          exact ⟨text, rfl⟩
        · cases h
      · right
        rw [settle_members hkey] at h
        obtain ⟨x, hx, h⟩ := Option.bind_eq_some_iff.mp h
        obtain ⟨out, hout, h⟩ := Option.map_eq_some_iff.mp h
        refine ⟨out, ?_, h.symm⟩
        rw [settleMembers, hx]
        exact hout

/-- The usual policy keeps what stands at a place, settled, unless that is a string. -/
theorem at?_settle {path : List Step} (hsettle : v.settle = some u) {x : Value}
    (hat : v.at? path = some x) :
    (∃ y, x.settle = some y ∧ u.at? path = some y) ∨ ∃ text, x = .string text := by
  induction path generalizing v u with
  | nil =>
      obtain rfl : v = x := Option.some.inj hat
      exact Or.inl ⟨u, hsettle, rfl⟩
  | cons step path ih =>
      cases step with
      | item index =>
          cases v with
          | array items =>
              obtain ⟨z, hz, hat⟩ := Option.bind_eq_some_iff.mp hat
              obtain ⟨settled, hitems, rfl⟩ := Option.map_eq_some_iff.mp hsettle
              obtain ⟨w, hw, hindex⟩ := settleItems_getElem? hitems hz
              rw [at?, hindex]
              exact ih hw hat
          | null | bool b | number n | string s | object ms => cases hat
      | member name =>
          cases v with
          | object members =>
              obtain ⟨z, hz, hat⟩ := Option.bind_eq_some_iff.mp hat
              rw [soleMember?_eq_some] at hz
              obtain ⟨text, rfl⟩ | ⟨out, hout, rfl⟩ := settle_object hsettle
              · right
                rw [under] at hz
                split at hz
                · obtain ⟨rfl, _⟩ := List.cons.inj hz
                  cases path with
                  | nil => exact ⟨text, (Option.some.inj hat).symm⟩
                  | cons step path => cases step <;> cases hat
                · cases hz
              · have hlast : (under name members).getLast? = some z := by
                  rw [hz, List.getLast?_singleton]
                obtain ⟨w, hw, hunder⟩ := under_settleMembers hout hlast
                rw [at?, soleMember?_eq_some.mpr hunder]
                exact ih hw hat
          | null | bool b | number n | string s | array items => cases hat

end Value

/-! ## Places of texts -/

/-- Gathering the texts alone gathers them all. -/
theorem foldlM_texts {γ : Type} (f : α → γ) (xs : List α) :
    xs.foldlM (fun gathered x => some (f x :: gathered)) [] = some (xs.map f).reverse := by
  have hgathered := foldlM_cons_eq (xs.map f) []
  rwa [List.foldlM_map, List.append_nil] at hgathered

/-- The texts of items are found where the items are, if those can be passed over. -/
theorem itemTexts?_of_items {Found : Bytes → α → Bytes → Prop} {found : List (Bytes × α)}
    (hs : skipBlanks s = 0x5B :: r)
    (h : ItemsBy (fun s x left => x.1 = s ∧ Found s x.2 left) true r found rest)
    (htakes : Takes Found) (hskip : ∀ s x left, Found s x left → skipValue s = .ok left) :
    itemTexts? s = some (found.map Prod.fst) := by
  rw [itemTexts?]
  simp only [hs, ↓reduceIte]
  rw [h.fold (fun s x left hx => htakes s x.2 left hx.2) (fun texts x => some (x.1 :: texts)) ?_
    (Nat.lt_succ_self _), foldlM_texts]
  · simp
  · rintro texts mid x left _ ⟨rfl, hx⟩
    rw [hskip x.1 x.2 left hx]
    rfl

theorem memberTexts?_of_members {Found : Bytes → α → Bytes → Prop}
    {found : List (String × Bytes × α)} (hs : skipBlanks s = 0x7B :: r)
    (h : MembersBy (Gives string) (fun s x left => x.1 = s ∧ Found s x.2 left) true r found rest)
    (htakes : Takes Found) (hskip : ∀ s x left, Found s x left → skipValue s = .ok left) :
    memberTexts? s = some (found.map fun m => (m.1, m.2.1)) := by
  rw [memberTexts?]
  simp only [hs, ↓reduceIte]
  rw [h.fold takes_string (fun s x left hx => htakes s x.2 left hx.2) id
    (fun texts m => some ((m.1, m.2.1) :: texts)) (fun _ _ _ h => h) ?_ (Nat.lt_succ_self _),
    foldlM_texts]
  · simp
  · rintro texts name named valued x left _ _ hcolon ⟨rfl, hx⟩
    rw [hcolon]
    change (skipValue x.1 >>= _).toOption = _
    rw [hskip x.1 x.2 left hx]
    rfl

/-- Only an array has items. -/
theorem head_of_itemTexts? {texts : List Bytes} (h : itemTexts? s = some texts) :
    ∃ r, skipBlanks s = 0x5B :: r := by
  rw [itemTexts?] at h
  split at h
  · cases h
  · rename_i b r hs
    split at h
    · rename_i hb
      exact ⟨r, hb ▸ hs⟩
    · cases h

theorem head_of_memberTexts? {texts : List (String × Bytes)} (h : memberTexts? s = some texts) :
    ∃ r, skipBlanks s = 0x7B :: r := by
  rw [memberTexts?] at h
  split at h
  · cases h
  · rename_i b r hs
    split at h
    · rename_i hb
      exact ⟨r, hb ▸ hs⟩
    · cases h

/-- What stands at a place of a text is what is read there. -/
theorem at?_of_textAt? {path : List Step} (hread : value .verbatim depth s = .ok (v, rest))
    (htext : textAt? path s = some t) :
    ∃ x inner left, v.at? path = some x ∧ value .verbatim inner t = .ok (x, left) := by
  induction path generalizing depth s v rest with
  | nil =>
      obtain rfl : s = t := Option.some.inj htext
      exact ⟨v, depth, rest, rfl, hread⟩
  | cons step path ih =>
      cases step with
      | item index =>
          obtain ⟨first, hfirst, htext⟩ := Option.bind_eq_some_iff.mp htext
          obtain ⟨texts, htexts, hfirst⟩ := Option.bind_eq_some_iff.mp hfirst
          obtain ⟨r, hs⟩ := head_of_itemTexts? htexts
          obtain ⟨inner, items, rfl, hitems⟩ := (verbatim_of_value hread).items hs
          obtain ⟨found, hfound, rfl, hall⟩ := hitems.located
          rw [itemTexts?_of_items hs hfound (takes_verbatim inner) fun _ _ _ hx =>
            (verbatim_of_value hx).skipValue] at htexts
          obtain rfl := Option.some.inj htexts
          rw [List.getElem?_map] at hfirst
          obtain ⟨x, hx, rfl⟩ := Option.map_eq_some_iff.mp hfirst
          obtain ⟨left, hleft⟩ := hall x (List.mem_of_getElem? hx)
          rw [Value.at?, List.getElem?_map, hx]
          exact ih hleft htext
      | member name =>
          obtain ⟨first, hfirst, htext⟩ := Option.bind_eq_some_iff.mp htext
          obtain ⟨texts, htexts, hfirst⟩ := Option.bind_eq_some_iff.mp hfirst
          obtain ⟨r, hs⟩ := head_of_memberTexts? htexts
          obtain ⟨inner, members, rfl, hmembers⟩ := (verbatim_of_value hread).members hs
          obtain ⟨found, hfound, rfl, hall⟩ := hmembers.located
          rw [memberTexts?_of_members hs hfound (takes_verbatim inner) fun _ _ _ hx =>
            (verbatim_of_value hx).skipValue] at htexts
          obtain rfl := Option.some.inj htexts
          rw [soleMember?_map] at hfirst
          obtain ⟨x, hx, rfl⟩ := Option.map_eq_some_iff.mp hfirst
          obtain ⟨left, hleft⟩ := hall (name, x) (mem_of_soleMember? hx)
          rw [Value.at?, soleMember?_map, hx]
          exact ih hleft htext

/-! ## Places of texts with blanks -/

section Related

variable {R : α → β → Prop}

theorem exists_of_getElem? {xs : List α} {ys : List β} (h : List.Forall₂ R xs ys) {index : Nat}
    {x : α} (hx : xs[index]? = some x) : ∃ y, ys[index]? = some y ∧ R x y := by
  induction h generalizing index with
  | nil => cases hx
  | @cons z w xs ys hzw _ ih =>
      cases index with
      | zero =>
          obtain rfl : z = x := Option.some.inj hx
          exact ⟨w, rfl, hzw⟩
      | succ index => exact ih hx

theorem under_forall₂ {ms : List (String × α)} {ns : List (String × β)}
    (h : List.Forall₂ (fun m n => m.1 = n.1 ∧ R m.2 n.2) ms ns) (name : String) :
    List.Forall₂ R (under name ms) (under name ns) := by
  induction h with
  | nil => exact .nil
  | @cons m n ms ns hmn _ ih =>
      rw [under, under, hmn.1]
      split
      · exact .cons hmn.2 ih
      · exact ih

theorem exists_of_soleMember? {ms : List (String × α)} {ns : List (String × β)}
    (h : List.Forall₂ (fun m n => m.1 = n.1 ∧ R m.2 n.2) ms ns) {x : α}
    (hx : soleMember? name ms = some x) : ∃ y, soleMember? name ns = some y ∧ R x y := by
  have hunder := under_forall₂ h name
  rw [soleMember?_eq_some.mp hx, List.forall₂_cons_left_iff] at hunder
  obtain ⟨y, ys, hxy, hys, hunder⟩ := hunder
  obtain rfl := List.forall₂_nil_left_iff.mp hys
  exact ⟨y, soleMember?_eq_some.mpr hunder, hxy⟩

end Related

/-- The text begins with one of the value, blanks in front apart. -/
def Begins (v : Value) (s : Bytes) : Prop :=
  ∃ (blanks : Blanks) (text rest : Bytes), s = blanks.bytes ++ (text ++ rest) ∧ Spaced v text ∧
    EndsNumber rest

theorem itemTexts?_of_spaced {items : List WrittenItem} {last : Blanks}
    (hs : skipBlanks s = 0x5B :: (piecesText 0x5D true last (items.map (·.toPiece)) ++ rest))
    (hitems : ∀ x ∈ items, Spaced x.value x.text) :
    ∃ texts, itemTexts? s = some texts ∧
      List.Forall₂ (fun x text => Begins x.value text) items texts := by
  obtain ⟨found, hfound, hsame, hall⟩ := (items_written hitems last rest).located
  refine ⟨_, itemTexts?_of_items hs hfound (takes_items hitems) ?_, ?_⟩
  · rintro _ x left ⟨hx, hleft, rfl⟩
    exact (hitems x hx).skipValue .empty hleft
  · rw [← hsame, List.forall₂_map_left_iff, List.forall₂_map_right_iff, List.forall₂_same]
    intro x hx
    obtain ⟨left, hmem, hleft, htext⟩ := hall x hx
    exact ⟨.empty, x.2.text, left, htext, hitems x.2 hmem, hleft⟩

theorem memberTexts?_of_spaced {members : List WrittenMember} {last : Blanks}
    (hs : skipBlanks s =
      0x7B :: (piecesText 0x7D true last (members.map (·.named.piece)) ++ rest))
    (hmembers : ∀ m ∈ members, Spaced m.value m.text) :
    ∃ texts, memberTexts? s = some texts ∧
      List.Forall₂ (fun m text => m.name = text.1 ∧ Begins m.value text.2) members texts := by
  obtain ⟨found, hfound, hsame, hall⟩ := (members_written members last rest).located
  refine ⟨_, memberTexts?_of_members hs hfound (takes_members hmembers) ?_, ?_⟩
  · rintro _ m left ⟨hm, hleft, rfl⟩
    rw [List.append_assoc]
    exact (hmembers m hm).skipValue m.afterColon hleft
  · have hvalues : found.map (fun m => m.2.2) = members := by
      have hseconds := congrArg (List.map Prod.snd) hsame
      rw [List.map_map, List.map_map] at hseconds
      exact hseconds.trans (List.map_id members)
    have hnames : ∀ x ∈ found, x.2.2.name = x.1 := by
      intro x hx
      have hmem : (x.1, x.2.2) ∈ found.map fun m => (m.1, m.2.2) := List.mem_map.mpr ⟨x, hx, rfl⟩
      rw [hsame] at hmem
      obtain ⟨m, _, heq⟩ := List.mem_map.mp hmem
      rw [← congrArg Prod.fst heq, ← congrArg Prod.snd heq]
    rw [← hvalues, List.forall₂_map_left_iff, List.forall₂_map_right_iff, List.forall₂_same]
    intro x hx
    obtain ⟨left, hmem, hleft, htext⟩ := hall x hx
    refine ⟨hnames x hx, x.2.2.afterColon, x.2.2.text, left, ?_, hmembers x.2.2 hmem, hleft⟩
    rw [htext, List.append_assoc]

/-- What stands at a place of a value is written at that place of its text. -/
theorem Begins.exists_textAt? {path : List Step} (h : Begins v s) (hat : v.at? path = some u) :
    ∃ t, textAt? path s = some t ∧ Begins u t := by
  induction path generalizing v s with
  | nil =>
      obtain rfl : v = u := Option.some.inj hat
      exact ⟨s, rfl, h⟩
  | cons step path ih =>
      obtain ⟨blanks, text, rest, rfl, hspaced, _⟩ := h
      cases step with
      | item index =>
          cases hspaced with
          | @array items last hitems =>
              obtain ⟨x, hx, hat⟩ := Option.bind_eq_some_iff.mp hat
              have hs : skipBlanks 
                  (blanks.bytes ++ (0x5B :: piecesText 0x5D true last (items.map (·.toPiece))
                    ++ rest)) =
                  0x5B :: (piecesText 0x5D true last (items.map (·.toPiece)) ++ rest) := by
                rw [blanks.skipBlanks_append]
                exact skipBlanks_cons (by decide) _
              obtain ⟨texts, htexts, hall⟩ := itemTexts?_of_spaced hs hitems
              obtain ⟨t, ht, hbegins⟩ :=
                exists_of_getElem? (List.forall₂_map_left_iff.mpr hall) hx
              rw [textAt?, htexts, Option.bind_some, ht]
              exact ih hbegins hat
          | scalar hflat => cases v <;> first | cases hat | cases hflat
          | object last hmembers => cases hat
      | member name =>
          cases hspaced with
          | @object members last hmembers =>
              obtain ⟨x, hx, hat⟩ := Option.bind_eq_some_iff.mp hat
              have hs : skipBlanks
                  (blanks.bytes ++ (0x7B :: piecesText 0x7D true last (members.map (·.named.piece))
                    ++ rest)) =
                    0x7B :: (piecesText 0x7D true last (members.map (·.named.piece)) ++ rest) := by
                rw [blanks.skipBlanks_append]
                exact skipBlanks_cons (by decide) _
              obtain ⟨texts, htexts, hall⟩ := memberTexts?_of_spaced hs hmembers
              obtain ⟨t, ht, hbegins⟩ :=
                exists_of_soleMember? (List.forall₂_map_left_iff.mpr hall) hx
              rw [textAt?, htexts, Option.bind_some, ht]
              exact ih hbegins hat
          | scalar hflat => cases v <;> first | cases hat | cases hflat
          | array last hitems => cases hat

theorem Begins.written? (h : Begins v s) : ∃ text, Json.written? s = some text ∧ Spaced v text := by
  obtain ⟨blanks, text, rest, rfl, hspaced, hrest⟩ := h
  have hstart : skipBlanks (blanks.bytes ++ (text ++ rest)) = text ++ rest := by
    rw [blanks.skipBlanks_append, hspaced.grammatical.skipBlanks_append]
  have hskip : skipValue (text ++ rest) = .ok rest := hspaced.skipValue .empty hrest
  refine ⟨text, ?_, hspaced⟩
  simp [Json.written?, hstart, hskip, Except.toOption]

/-- What is written at a place of a text is a text of what stands at that place of the value. -/
theorem Begins.writtenAt? {path : List Step} (h : Begins v s) (hat : v.at? path = some u) :
    ∃ text, Json.writtenAt? path s = some text ∧ Spaced u text := by
  obtain ⟨t, ht, hbegins⟩ := h.exists_textAt? hat
  rw [Json.writtenAt?, ht]
  exact hbegins.written?

/-- A printed value begins its text. -/
theorem begins_print {layout : Layout} (hlayout : layout.Blank) (v : Value) (place : Nat) :
    Begins v (Utf8.encode (v.print layout place)) :=
  ⟨.empty, _, [], (List.append_nil _).symm, spaced_print hlayout v place, endsNumber_nil⟩

end Json

end TraceArchive
