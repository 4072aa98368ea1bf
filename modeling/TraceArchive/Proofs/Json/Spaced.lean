import TraceArchive.Proofs.Json.Grammar
import TraceArchive.Proofs.Json.Nesting
import TraceArchive.Proofs.Json.Printed
import TraceArchive.Proofs.Json.Quoted
/-!
Values written with blanks of any kind between their parts.  `Spaced` lists how a value can be
written so, its words, numbers and strings as they are printed.  Such a text is grammatical, and it
writes one value only; and what is printed in a layout of blanks is such a text.
-/

namespace TraceArchive

namespace Json

variable {s rest : Bytes} {first : Bool} {v v' : Value} {t t' : Bytes}

/-- An item as it is written: a part of an array and the value that its text writes. -/
structure WrittenItem extends Piece where
  value : Value

/-- A member as it is written: like an item, but with its name in quotes and the colon in front of
the value. -/
structure WrittenMember extends WrittenItem where
  name : String
  afterName : Blanks
  afterColon : Blanks

/-- The member as a part of an object. -/
def WrittenMember.named (m : WrittenMember) : NamedPiece where
  lead := m.lead
  before := m.before
  name := Utf8.encode (quoted m.name)
  afterName := m.afterName
  afterColon := m.afterColon
  text := m.text

/-- The text writes the value: what has no bracket as it is printed, and brackets with any blanks
around what they hold. -/
inductive Spaced : Value → Bytes → Prop
  | scalar {v : Value} (hflat : v.levels = 0) : Spaced v (Utf8.encode v.compact)
  | array {items : List WrittenItem} (last : Blanks)
      (hitems : ∀ x ∈ items, Spaced x.value x.text) :
      Spaced (.array (items.map (·.value)))
        (0x5B :: piecesText 0x5D true last (items.map (·.toPiece)))
  | object {members : List WrittenMember} (last : Blanks)
      (hmembers : ∀ m ∈ members, Spaced m.value m.text) :
      Spaced (.object (members.map fun m => (m.name, m.value)))
        (0x7B :: piecesText 0x7D true last (members.map (·.named.piece)))

/-- The text writes a plain value with blanks between its parts: strings are escaped and numbers
written as the printer does it, no object repeats a name, and none begins with `embeddedName`. -/
def Canonical (t : Bytes) : Prop :=
  ∃ v : Value, v.Plain ∧ Spaced v t

/-! ## Texts of values are grammatical -/

theorem quotes_quoted (text : String) : Quotes text (Utf8.encode (quoted text)) := by
  refine ⟨_, spelled_escaped text.toList, ?_⟩
  change 0x22 :: Utf8.encode (text.toList.flatMap escapeChar ++ ['"']) = _
  rw [Utf8.encode_append]
  rfl

theorem isNumber_text (n : Number) : IsNumber (Utf8.encode n.text) := by
  obtain ⟨l, hformed, htext, _⟩ := n.exists_literal
  obtain ⟨b, r, hencode, _, hread⟩ := Literal.literalFrom_text hformed endsNumber_nil
  obtain ⟨text, hall, hnumber⟩ := exists_isNumber (skipNumber_of_literalFrom hread).1
  rw [List.append_nil] at hencode hall
  rwa [← htext, hencode, hall]

theorem Spaced.grammatical (h : Spaced v t) : Grammatical t := by
  induction h with
  | @scalar v hflat =>
      cases v with
      | null => exact .word (by decide +kernel)
      | bool b => cases b <;> exact .word (by decide +kernel)
      | number n => exact .number (isNumber_text n)
      | string s => exact .string (quotes_quoted s).isString
      | array items => cases hflat
      | object members => cases hflat
  | array last hitems ih => exact .array last (List.forall_mem_map.mpr ih)
  | @object members last hmembers ih =>
      have hnames : ∀ m ∈ members.map (·.named), IsString m.name :=
        List.forall_mem_map.mpr fun m _ => (quotes_quoted m.name).isString
      have hobject := Grammatical.object last hnames (List.forall_mem_map.mpr ih)
      rwa [List.map_map] at hobject

/-- A text of a value starts with a byte that is neither blank nor a closing bracket. -/
theorem Spaced.head (h : Spaced v t) : ∃ b r, t = b :: r ∧ isBlank b = false ∧ b ≠ 0x5D :=
  h.grammatical.head

/-- A text of a value is passed over to its end. -/
theorem Spaced.skipValue (h : Spaced v t) (blanks : Blanks) (hrest : EndsNumber rest) :
    Json.skipValue (blanks.bytes ++ (t ++ rest)) = .ok rest :=
  (skipValue_eq_ok hrest).mpr ⟨t, h.grammatical, blanks, rfl⟩

/-! ## Parts of texts of values -/

/-- The items of an array are found in turn. -/
theorem items_written {items : List WrittenItem} (h : ∀ x ∈ items, Spaced x.value x.text)
    (last : Blanks) (rest : Bytes) :
    ItemsBy (Stands (· ∈ items) (·.text)) true
      (piecesText 0x5D true last (items.map (·.toPiece)) ++ rest) items rest :=
  items_pieces (fun x hx => (h x hx).head) (fun _ hx => hx) true last rest

/-- The members of an object are found in turn. -/
theorem members_written (members : List WrittenMember) (last : Blanks) (rest : Bytes) :
    MembersBy (Gives string)
      (Stands (· ∈ members) fun m => m.afterColon.bytes ++ m.text) true
      (piecesText 0x7D true last (members.map (·.named.piece)) ++ rest)
      (members.map fun m => (m.name, m)) rest := by
  have hnames : ∀ m ∈ members.map fun m => (m.name, m), ∃ body,
      m.2.named.name = 0x22 :: body ∧ ∀ later, Gives string (body ++ later) m.1 later :=
    List.forall_mem_map.mpr fun m _ => (quotes_quoted m.name).string
  have hfound := members_pieces (P := (· ∈ members)) hnames
    (List.forall_mem_map.mpr fun _ hm => hm) true last rest
  rwa [List.map_map] at hfound

theorem takes_items {items : List WrittenItem} (h : ∀ x ∈ items, Spaced x.value x.text) :
    Takes (Stands (· ∈ items) (·.text)) :=
  takes_stands fun x hx => (h x hx).grammatical.ne_nil

theorem takes_members {members : List WrittenMember} (h : ∀ m ∈ members, Spaced m.value m.text) :
    Takes (Stands (· ∈ members) fun m => m.afterColon.bytes ++ m.text) :=
  takes_stands fun m hm => List.append_ne_nil_of_right_ne_nil _ (h m hm).grammatical.ne_nil

/-! ## A text writes one value -/

/-- What a text of the value begins with; for a number any digit or a minus sign. -/
def Value.opener : Value → UInt8
  | .null => 0x6E
  | .bool true => 0x74
  | .bool false => 0x66
  | .number _ => 0x30
  | .string _ => 0x22
  | .array _ => 0x5B
  | .object _ => 0x7B

theorem Value.opener_eq_bracket (h : v.opener = 0x5B) : ∃ items, v = .array items := by
  rcases v with _ | (_ | _) | _ | _ | items | _
  case array => exact ⟨items, rfl⟩
  all_goals exact absurd h (by simp [opener])

theorem Value.opener_eq_brace (h : v.opener = 0x7B) : ∃ members, v = .object members := by
  rcases v with _ | (_ | _) | _ | _ | _ | members
  case object => exact ⟨members, rfl⟩
  all_goals exact absurd h (by simp [opener])

theorem Value.levels_eq_zero_iff : v.levels = 0 ↔ v.opener ≠ 0x5B ∧ v.opener ≠ 0x7B := by
  rcases v with _ | (_ | _) | _ | _ | _ | _ <;> simp [opener, levels]

/-- What value a first byte shows. -/
def openerOf (b : UInt8) : UInt8 :=
  if b = 0x2D || isDigit b then 0x30 else b

theorem Spaced.opener (h : Spaced v t) : ∃ b r, t = b :: r ∧ openerOf b = v.opener := by
  cases h with
  | @scalar v hflat =>
      cases v with
      | null => exact ⟨_, _, rfl, rfl⟩
      | bool b => cases b <;> exact ⟨_, _, rfl, rfl⟩
      | number n =>
          obtain ⟨b, r, htext, hhead⟩ := (isNumber_text n).head
          exact ⟨b, r, htext, if_pos (by simpa using hhead)⟩
      | string s => exact ⟨_, _, rfl, rfl⟩
      | array items => cases hflat
      | object members => cases hflat
  | array => exact ⟨_, _, rfl, rfl⟩
  | object => exact ⟨_, _, rfl, rfl⟩

/-- Values that are written alike are of one kind. -/
theorem Spaced.opener_eq (h : Spaced v t) (h' : Spaced v' t) : v.opener = v'.opener := by
  obtain ⟨b, r, rfl, hb⟩ := h.opener
  obtain ⟨b', r', htext, hb'⟩ := h'.opener
  obtain ⟨rfl, _⟩ := List.cons.inj htext
  exact hb.symm.trans hb'

/-- A text of a value ends where one of another ends, if both begin the same text. -/
theorem Spaced.append_inj (h : Spaced v t) (h' : Spaced v' t') {rest' : Bytes}
    (hrest : EndsNumber rest) (hrest' : EndsNumber rest') (heq : t ++ rest = t' ++ rest') :
    t = t' ∧ rest = rest' := by
  have hskip := h.skipValue .empty hrest
  rw [heq, h'.skipValue .empty hrest'] at hskip
  obtain rfl : rest' = rest := Except.ok.inj hskip
  exact ⟨List.append_cancel_right heq, rfl⟩

theorem Spaced.of_flat (h : Spaced v t) (hflat : v.levels = 0) :
    t = Utf8.encode v.compact := by
  cases h with
  | scalar => rfl
  | array => cases hflat
  | object => cases hflat

theorem Spaced.of_array {xs : List Value} (h : Spaced (.array xs) t) :
    ∃ (items : List WrittenItem) (last : Blanks), (∀ x ∈ items, Spaced x.value x.text) ∧
      xs = items.map (·.value) ∧ t = 0x5B :: piecesText 0x5D true last (items.map (·.toPiece)) := by
  cases h with
  | scalar hflat => cases hflat
  | array last hitems => exact ⟨_, last, hitems, rfl, rfl⟩

theorem Spaced.of_object {ms : List (String × Value)} (h : Spaced (.object ms) t) :
    ∃ (members : List WrittenMember) (last : Blanks), (∀ m ∈ members, Spaced m.value m.text) ∧
      ms = members.map (fun m => (m.name, m.value)) ∧
      t = 0x7B :: piecesText 0x7D true last (members.map (·.named.piece)) := by
  cases h with
  | scalar hflat => cases hflat
  | object last hmembers => exact ⟨_, last, hmembers, rfl, rfl⟩

/-- Values without brackets are the same if they are printed alike. -/
theorem Value.eq_of_flat (hflat : v.levels = 0) (hflat' : v'.levels = 0)
    (hkind : v.opener = v'.opener) (h : Utf8.encode v.compact = Utf8.encode v'.compact) :
    v = v' := by
  cases v with
  | null => rcases v' with _ | (_ | _) | _ | _ | _ | _ <;> first | rfl | simp [opener] at hkind
  | bool b =>
      cases b <;> rcases v' with _ | (_ | _) | _ | _ | _ | _ <;>
        first | rfl | simp [opener] at hkind
  | number n =>
      rcases v' with _ | (_ | _) | n' | _ | _ | _
      case number =>
        have htext : Utf8.encode n.text ++ [] = Utf8.encode n'.text ++ [] := congrArg (· ++ []) h
        rw [(Number.text_append_inj endsNumber_nil endsNumber_nil htext).1]
      all_goals simp [opener] at hkind
  | string s =>
      rcases v' with _ | (_ | _) | _ | s' | _ | _
      case string =>
        obtain ⟨body, hbody, hread⟩ := (quotes_quoted s).string
        obtain ⟨body', hbody', hread'⟩ := (quotes_quoted s').string
        obtain ⟨_, rfl⟩ := List.cons.inj (hbody.symm.trans (Eq.trans h hbody'))
        obtain ⟨rfl, _⟩ := Prod.mk.inj (Except.ok.inj ((hread []).symm.trans (hread' [])))
        rfl
      all_goals simp [opener] at hkind
  | array items => cases hflat
  | object members => cases hflat

/-- No text writes two values. -/
theorem Spaced.unique (h : Spaced v t) (h' : Spaced v' t) : v = v' := by
  induction h generalizing v' with
  | @scalar v hflat =>
      have hkind := (Spaced.scalar hflat).opener_eq h'
      have hflat' : v'.levels = 0 := by
        rw [Value.levels_eq_zero_iff, ← hkind]
        exact Value.levels_eq_zero_iff.mp hflat
      exact Value.eq_of_flat hflat hflat' hkind (h'.of_flat hflat')
  | @array items last hitems ih =>
      obtain ⟨_, rfl⟩ := Value.opener_eq_bracket ((Spaced.array last hitems).opener_eq h').symm
      obtain ⟨items', last', hitems', rfl, htext⟩ := h'.of_array
      have hfound := items_written hitems last []
      rw [(List.cons.inj htext).2] at hfound
      have hvalues : ∀ s x y left left', Stands (· ∈ items) (·.text) s x left →
          Stands (· ∈ items') (·.text) s y left' → x.value = y.value ∧ left = left' := by
        rintro s x y left left' ⟨hx, hleft, rfl⟩ ⟨hy, hleft', heq⟩
        obtain ⟨hsame, rfl⟩ := (hitems x hx).append_inj (hitems' y hy) hleft hleft' heq
        exact ⟨ih x hx (hsame ▸ hitems' y hy), rfl⟩
      have hrelated := (hfound.related (items_written hitems' last' []) hvalues).1
      have hsame : List.Forall₂ Eq (items.map (·.value)) (items'.map (·.value)) :=
        List.forall₂_map_left_iff.mpr (List.forall₂_map_right_iff.mpr hrelated)
      rw [List.forall₂_eq_eq_eq] at hsame
      rw [hsame]
  | @object members last hmembers ih =>
      obtain ⟨_, rfl⟩ := Value.opener_eq_brace ((Spaced.object last hmembers).opener_eq h').symm
      obtain ⟨members', last', hmembers', rfl, htext⟩ := h'.of_object
      have hfound := members_written members last []
      rw [(List.cons.inj htext).2] at hfound
      have hnames : ∀ s (k k' : String) left left', Gives string s k left →
          Gives string s k' left' → k = k' ∧ left = left' :=
        fun _ _ _ _ _ h h' => Prod.mk.inj (Except.ok.inj (h.symm.trans h'))
      have hvalues : ∀ s (m m' : WrittenMember) left left',
          Stands (· ∈ members) (fun m => m.afterColon.bytes ++ m.text) s m left →
          Stands (· ∈ members') (fun m => m.afterColon.bytes ++ m.text) s m' left' →
          m.value = m'.value ∧ left = left' := by
        rintro s m m' left left' ⟨hm, hleft, rfl⟩ ⟨hm', hleft', heq⟩
        have hfront := congrArg skipBlanks heq
        rw [List.append_assoc, List.append_assoc, m.afterColon.skipBlanks_append,
          m'.afterColon.skipBlanks_append, (hmembers m hm).grammatical.skipBlanks_append,
          (hmembers' m' hm').grammatical.skipBlanks_append] at hfront
        obtain ⟨hsame, rfl⟩ := (hmembers m hm).append_inj (hmembers' m' hm') hleft hleft' hfront
        exact ⟨ih m hm (hsame ▸ hmembers' m' hm'), rfl⟩
      have hrelated := (hfound.related (members_written members' last' []) hnames hvalues).1
      rw [List.forall₂_map_left_iff, List.forall₂_map_right_iff] at hrelated
      have hsame : List.Forall₂ Eq (members.map fun m => (m.name, m.value))
          (members'.map fun m => (m.name, m.value)) :=
        List.forall₂_map_left_iff.mpr (List.forall₂_map_right_iff.mpr
          (hrelated.imp fun _ _ h => Prod.ext h.1 h.2))
      rw [List.forall₂_eq_eq_eq] at hsame
      rw [hsame]

/-- A text of a value is not continued to one of another. -/
theorem Spaced.eq_of_append (h : Spaced v t) (h' : Spaced v' t') {rest' : Bytes}
    (hrest : EndsNumber rest) (hrest' : EndsNumber rest') (heq : t ++ rest = t' ++ rest') :
    v = v' ∧ rest = rest' := by
  obtain ⟨rfl, hsame⟩ := h.append_inj h' hrest hrest' heq
  exact ⟨h.unique h', hsame⟩

/-! ## What is printed -/

variable {layout : Layout} {place : Nat}

/-- An item as a layout prints it. -/
def printedItem (hlayout : layout.Blank) (place : Nat) (x : Value) : WrittenItem where
  lead := .empty
  before := .ofChars _ (hlayout.beforeItem (place + 1))
  text := Utf8.encode (x.print layout (place + 1))
  value := x

/-- A member as a layout prints it. -/
def printedMember (hlayout : layout.Blank) (place : Nat) (m : String × Value) : WrittenMember where
  toWrittenItem := printedItem hlayout place m.2
  name := m.1
  afterName := .empty
  afterColon := .ofChars _ hlayout.afterColon

theorem encode_separator (first : Bool) : Utf8.encode (separator first) = comma first := by
  cases first <;> rfl

theorem piecesText_printedItem (hlayout : layout.Blank) {items : List Value}
    (h : first = false ∨ items ≠ []) :
    piecesText 0x5D first (.ofChars _ (hlayout.beforeItem place))
        (items.map fun x => (printedItem hlayout place x).toPiece) =
      Utf8.encode (Value.itemsTail layout place first items) := by
  induction items generalizing first with
  | nil =>
      obtain rfl : first = false := h.resolve_right (absurd rfl)
      simp [piecesText, Value.itemsTail, Blanks.ofChars]
      rfl
  | cons x xs ih =>
      rw [List.map_cons, piecesText, ih (Or.inl rfl), ← encode_separator]
      simp [Value.itemsTail, printedItem, Blanks.ofChars]

theorem piecesText_printedMember (hlayout : layout.Blank) {members : List (String × Value)}
    (h : first = false ∨ members ≠ []) :
    piecesText 0x7D first (.ofChars _ (hlayout.beforeItem place))
        (members.map fun m => (printedMember hlayout place m).named.piece) =
      Utf8.encode (Value.membersTail layout place first members) := by
  induction members generalizing first with
  | nil =>
      obtain rfl : first = false := h.resolve_right (absurd rfl)
      simp [piecesText, Value.membersTail, Blanks.ofChars]
      rfl
  | cons m ms ih =>
      rw [List.map_cons, piecesText, ih (Or.inl rfl), ← encode_separator]
      simp [Value.membersTail, printedMember, printedItem, Blanks.ofChars, WrittenMember.named,
        NamedPiece.piece, NamedPiece.valued, Utf8.encodeChar_of_ascii (c := ':') (by decide)]

/-- What is printed in a layout of blanks writes the value. -/
theorem spaced_print (hlayout : layout.Blank) (v : Value) (place : Nat) :
    Spaced v (Utf8.encode (v.print layout place)) := by
  induction v using Value.inductionOn generalizing place with
  | null => exact .scalar rfl
  | bool b => cases b <;> exact .scalar rfl
  | number n => exact .scalar rfl
  | string s => exact .scalar rfl
  | array items ih =>
      cases items with
      | nil => exact Spaced.array .empty (List.forall_mem_nil _)
      | cons x xs =>
          have hitems : ∀ y ∈ (x :: xs).map (printedItem hlayout place), Spaced y.value y.text :=
            List.forall_mem_map.mpr fun y hy => ih y hy (place + 1)
          have harray := Spaced.array (.ofChars _ (hlayout.beforeItem place)) hitems
          rw [List.map_map, List.map_map] at harray
          have hvalues : (x :: xs).map ((·.value) ∘ printedItem hlayout place) = x :: xs :=
            List.map_id'' (fun _ => rfl) (x :: xs)
          rw [hvalues] at harray
          rw [Value.print_array]
          change Spaced _ (0x5B :: Utf8.encode (Value.itemsTail layout place true (x :: xs)))
          rw [← piecesText_printedItem hlayout (Or.inr (List.cons_ne_nil x xs))]
          exact harray
  | object members ih =>
      cases members with
      | nil => exact Spaced.object .empty (List.forall_mem_nil _)
      | cons m ms =>
          have hmembers : ∀ n ∈ (m :: ms).map (printedMember hlayout place),
              Spaced n.value n.text :=
            List.forall_mem_map.mpr fun n hn => ih n hn (place + 1)
          have hobject := Spaced.object (.ofChars _ (hlayout.beforeItem place)) hmembers
          rw [List.map_map, List.map_map] at hobject
          have hvalues :
              (m :: ms).map ((fun m => (m.name, m.value)) ∘ printedMember hlayout place) =
                m :: ms :=
            List.map_id'' (fun _ => rfl) (m :: ms)
          rw [hvalues] at hobject
          rw [Value.print_object]
          change Spaced _ (0x7B :: Utf8.encode (Value.membersTail layout place true (m :: ms)))
          rw [← piecesText_printedMember hlayout (Or.inr (List.cons_ne_nil m ms))]
          exact hobject

/-- Both written forms write the value. -/
theorem spaced_of_mem {text : List Char} (h : text ∈ [v.pretty, v.compact]) :
    Spaced v (Utf8.encode text) := by
  rcases List.mem_pair.mp h with rfl | rfl
  · exact spaced_print Layout.pretty_blank v 0
  · exact spaced_print Layout.compact_blank v 0

/-- Of two printed values at the beginning of one text, neither goes on where the other ends. -/
theorem print_append_inj (hlayout : layout.Blank) {rest' : Bytes} (hrest : EndsNumber rest)
    (hrest' : EndsNumber rest')
    (h : Utf8.encode (v.print layout place) ++ rest =
      Utf8.encode (v'.print layout place) ++ rest') : v = v' ∧ rest = rest' :=
  (spaced_print hlayout v place).eq_of_append (spaced_print hlayout v' place) hrest hrest' h

theorem Value.print_injective (hlayout : layout.Blank) (place : Nat) :
    Function.Injective (print layout place) := by
  intro v v' h
  have hspaced := spaced_print hlayout v place
  exact hspaced.unique (h ▸ spaced_print hlayout v' place)

end Json

end TraceArchive
