import TraceArchive.Proofs.Json.Document
import TraceArchive.Proofs.Json.Tokens
import TraceArchive.Proofs.Json.Walks
/-!
The grammar of values.  `Grammatical` texts are the words, strings and numbers, and brackets around
such texts, to any depth: names and strings need not be text, and numbers may be of any size.  A
value is passed over exactly if a grammatical text stands in front.
-/

namespace TraceArchive

namespace Json

variable {α σ κ : Type} {s mid rest text : Bytes} {first : Bool} {close b : UInt8}
  {depth fuel : Nat} {dangling : DanglingComma}

/-! ## Brackets as they are written -/

/-- The comma in front of a part that is not the first. -/
def comma (first : Bool) : Bytes :=
  if first then [] else [0x2C]

/-- A part of a bracket: blanks, the comma if it is not the first part, blanks again and its text.
-/
structure Piece where
  lead : Blanks
  before : Blanks
  text : Bytes

/-- What follows an opening bracket, from its first part or from a later one up to the closing byte.
-/
def piecesText (close : UInt8) (first : Bool) (last : Blanks) : List Piece → Bytes
  | [] => last.bytes ++ [close]
  | x :: xs =>
    x.lead.bytes ++ (comma first ++ (x.before.bytes
      ++ (x.text ++ piecesText close false last xs)))

/-- A part of an object: the text of a value behind a name and a colon. -/
structure NamedPiece where
  lead : Blanks
  before : Blanks
  name : Bytes
  afterName : Blanks
  afterColon : Blanks
  text : Bytes

/-- What stands behind the name. -/
def NamedPiece.valued (m : NamedPiece) : Bytes :=
  m.afterName.bytes ++ 0x3A :: (m.afterColon.bytes ++ m.text)

def NamedPiece.piece (m : NamedPiece) : Piece :=
  ⟨m.lead, m.before, m.name ++ m.valued⟩

/-- The texts of values, by the grammar alone. -/
inductive Grammatical : Bytes → Prop
  | word {text : Bytes} (h : text ∈ [0x6E :: nullTail, 0x74 :: trueTail, 0x66 :: falseTail]) :
      Grammatical text
  | number {text : Bytes} (h : IsNumber text) : Grammatical text
  | string {text : Bytes} (h : IsString text) : Grammatical text
  | array {items : List Piece} (last : Blanks) (hitems : ∀ x ∈ items, Grammatical x.text) :
      Grammatical (0x5B :: piecesText 0x5D true last items)
  | object {members : List NamedPiece} (last : Blanks) (hnames : ∀ m ∈ members, IsString m.name)
      (hvalues : ∀ m ∈ members, Grammatical m.text) :
      Grammatical (0x7B :: piecesText 0x7D true last (members.map (·.piece)))

/-- The text stands in front of the rest, behind blanks. -/
def Front (text rest s : Bytes) : Prop :=
  ∃ blanks : Blanks, s = blanks.bytes ++ (text ++ rest)

theorem IsNumber.head (h : IsNumber text) :
    ∃ b r, text = b :: r ∧ (b = 0x2D ∨ isDigit b = true) := by
  cases h with
  | unsigned h =>
      obtain ⟨b, r, htext, hb⟩ := h.head
      exact ⟨b, r, htext, .inr hb⟩
  | negative h => exact ⟨_, _, rfl, .inl rfl⟩

/-- A text of a value starts with a byte that is neither blank nor a closing bracket. -/
theorem Grammatical.head (h : Grammatical text) :
    ∃ b r, text = b :: r ∧ isBlank b = false ∧ b ≠ 0x5D := by
  cases h with
  | word h =>
      simp only [List.mem_cons, List.not_mem_nil, or_false] at h
      rcases h with rfl | rfl | rfl <;> exact ⟨_, _, rfl, by decide, by decide⟩
  | number h =>
      obtain ⟨b, r, rfl, hb⟩ := h.head
      refine ⟨b, r, rfl, isBlank_of_number hb, ?_⟩
      rintro rfl
      revert hb
      decide
  | string h =>
      cases h with
      | quoted => exact ⟨_, _, rfl, by decide, by decide⟩
  | array => exact ⟨_, _, rfl, by decide, by decide⟩
  | object => exact ⟨_, _, rfl, by decide, by decide⟩

/-! ## Parts that are found -/

theorem NextAt.exists_blanks (h : NextAt first s mid) :
    ∃ lead before : Blanks, s = lead.bytes ++ (comma first ++ (before.bytes ++ mid)) := by
  cases first with
  | true =>
      obtain rfl : skipBlanks s = mid := h
      obtain ⟨lead, hlead⟩ := Json.exists_blanks s
      exact ⟨lead, .empty, hlead⟩
  | false =>
      obtain ⟨r, hcomma, rfl⟩ := h
      obtain ⟨lead, rfl⟩ := (skipBlanks_eq_cons (by decide)).mp hcomma
      obtain ⟨before, hbefore⟩ := Json.exists_blanks r
      exact ⟨lead, before, congrArg (fun r => lead.bytes ++ 0x2C :: r) hbefore⟩

/-- Where items are walked, and each has a text, those texts are the parts of an array. -/
theorem exists_pieces {P : Bytes → Prop} {step : σ → Bytes → Except Fault (σ × Bytes)}
    (hstep : ∀ gathered s found, step gathered s = .ok found →
      ∃ text, P text ∧ Front text found.2 s)
    {gathered : σ} {found : σ × Bytes}
    (h : foldItems dangling step fuel first gathered s = .ok found) :
    ∃ pieces last, (∀ x ∈ pieces, P x.text) ∧
      s = piecesText 0x5D first last pieces ++ found.2 := by
  induction fuel generalizing first gathered s with
  | zero => cases h
  | succ fuel ih =>
      rw [foldItems] at h
      obtain ⟨next, hnext, h⟩ := bind_eq_ok.mp h
      cases next with
      | closed rest =>
          obtain rfl := Except.ok.inj h
          obtain ⟨last, rfl⟩ := (skipBlanks_eq_cons (by decide)).mp (nextItem_eq_closed.mp hnext)
          exact ⟨[], last, List.forall_mem_nil _, by simp [piecesText]⟩
      | more mid =>
          obtain ⟨_, _, hnext⟩ := nextItem_eq_more.mp hnext
          obtain ⟨lead, before, hs⟩ := hnext.exists_blanks
          obtain ⟨later, hlater, h⟩ := bind_eq_ok.mp h
          obtain ⟨text, htext, blanks, hmid⟩ := hstep gathered mid later hlater
          obtain ⟨pieces, last, hpieces, hleft⟩ := ih h
          refine ⟨⟨lead, before.append blanks, text⟩ :: pieces, last,
            List.forall_mem_cons.mpr ⟨htext, hpieces⟩, ?_⟩
          rw [hs, hmid, hleft]
          simp only [piecesText, Blanks.append, List.append_assoc]

/-- Where members are walked, and each has a name and a text, those are the parts of an object. -/
theorem exists_namedPieces {N : κ → Bytes → Prop} {P : Bytes → Prop}
    {name : Bytes → Except Fault (κ × Bytes)} {step : σ → κ → Bytes → Except Fault (σ × Bytes)}
    (hname : ∀ s found, name s = .ok found →
      ∃ bytes, N found.1 bytes ∧ 0x22 :: s = bytes ++ found.2)
    (hstep : ∀ gathered key s found, step gathered key s = .ok found →
      ∃ valued text, colon s = .ok valued ∧ P text ∧ Front text found.2 valued)
    {gathered : σ} {found : σ × Bytes}
    (h : foldMembers dangling name step fuel first gathered s = .ok found) :
    ∃ (members : List (κ × NamedPiece)) (last : Blanks),
      (∀ m ∈ members, N m.1 m.2.name ∧ P m.2.text) ∧
        s = piecesText 0x7D first last (members.map (·.2.piece)) ++ found.2 := by
  induction fuel generalizing first gathered s with
  | zero => cases h
  | succ fuel ih =>
      rw [foldMembers] at h
      obtain ⟨next, hnext, h⟩ := bind_eq_ok.mp h
      cases next with
      | closed rest =>
          obtain rfl := Except.ok.inj h
          obtain ⟨last, rfl⟩ := (skipBlanks_eq_cons (by decide)).mp (nextName_eq_closed.mp hnext)
          exact ⟨[], last, List.forall_mem_nil _, by simp [piecesText]⟩
      | more quoted =>
          obtain ⟨lead, before, hs⟩ := (nextName_eq_more.mp hnext).exists_blanks
          obtain ⟨⟨key, named⟩, hkey, h⟩ := bind_eq_ok.mp h
          obtain ⟨later, hlater, h⟩ := bind_eq_ok.mp h
          obtain ⟨bytes, hbytes, hquoted⟩ := hname quoted _ hkey
          obtain ⟨valued, text, hcolon, htext, afterColon, hvalued⟩ :=
            hstep gathered key named later hlater
          obtain ⟨afterName, hnamed⟩ :=
            (skipBlanks_eq_cons (by decide)).mp (colon_eq_ok.mp hcolon)
          obtain ⟨members, last, hmembers, hleft⟩ := ih h
          refine ⟨(key, ⟨lead, before, bytes, afterName, afterColon, text⟩) :: members, last,
            List.forall_mem_cons.mpr ⟨⟨hbytes, htext⟩, hmembers⟩, ?_⟩
          rw [hs, hquoted]
          simp only [hnamed, hvalued, hleft, List.map_cons, piecesText, NamedPiece.piece,
            NamedPiece.valued, List.append_assoc, List.cons_append]

/-! ## Parts that are walked -/

/-- What stands in front of an item shows the item, whose first byte is no blank. -/
theorem nextAt_of_head {lead before : Blanks} {r : Bytes} (hs : s = b :: r)
    (hb : isBlank b = false) :
    NextAt first (lead.bytes ++ (comma first ++ (before.bytes ++ s))) s := by
  have hskip : skipBlanks s = s := by rw [hs, skipBlanks_cons hb]
  cases first with
  | true => simp [NextAt, comma, hskip]
  | false =>
      refine ⟨before.bytes ++ s, ?_, ?_⟩
      · rw [Blanks.skipBlanks_append]
        exact skipBlanks_cons (by decide) _
      · rw [Blanks.skipBlanks_append, hskip]

theorem endsNumber_piecesText (hclose : EndsNumber (close :: rest)) (last : Blanks)
    (pieces : List Piece) : EndsNumber (piecesText close false last pieces ++ rest) := by
  cases pieces with
  | nil =>
      rw [piecesText, List.append_assoc]
      exact last.endsNumber_append hclose
  | cons x pieces =>
      rw [piecesText, List.append_assoc]
      refine x.lead.endsNumber_append ?_
      rintro b ⟨⟩
      decide

theorem endsNumber_close (h : close = 0x5D ∨ close = 0x7D) (rest : Bytes) :
    EndsNumber (close :: rest) := by
  rintro b ⟨⟩
  rcases h with rfl | rfl <;> decide

theorem length_text_le_piecesText {pieces : List Piece} {x : Piece} (hx : x ∈ pieces)
    (close : UInt8) (first : Bool) (last : Blanks) :
    x.text.length ≤ (piecesText close first last pieces).length := by
  induction pieces generalizing first with
  | nil => cases hx
  | cons y pieces ih =>
      simp only [piecesText, List.length_append]
      rcases List.mem_cons.mp hx with rfl | hx
      · omega
      · have hlater := ih hx false
        omega

theorem skipBlanks_piecesText (hclose : isBlank close = false) (first : Bool) (last : Blanks)
    (rest : Bytes) : skipBlanks (piecesText close first last [] ++ rest) = close :: rest := by
  rw [piecesText, List.append_assoc, last.skipBlanks_append]
  exact skipBlanks_cons hclose rest

/-- An array that does not end goes on with its next item. -/
theorem nextItem_piecesText {x : Piece}
    (hhead : ∃ b r, x.text = b :: r ∧ isBlank b = false ∧ b ≠ 0x5D) (dangling : DanglingComma)
    (first : Bool) (last : Blanks) (pieces : List Piece) (rest : Bytes) :
    nextItem dangling first (piecesText 0x5D first last (x :: pieces) ++ rest) =
      .ok (.more (x.text ++ (piecesText 0x5D false last pieces ++ rest))) := by
  obtain ⟨b, r, htext, hblank, hopen⟩ := hhead
  rw [nextItem_eq_more, htext]
  refine ⟨List.cons_ne_nil _ _, fun heq => hopen (Option.some.inj heq), ?_⟩
  simp only [piecesText, List.append_assoc, htext]
  exact nextAt_of_head rfl hblank

/-- An object that does not end goes on with its next name. -/
theorem nextName_piecesText {m : NamedPiece} {body : Bytes} (hname : m.name = 0x22 :: body)
    (dangling : DanglingComma) (first : Bool) (last : Blanks) (pieces : List Piece)
    (rest : Bytes) :
    nextName dangling first (piecesText 0x7D first last (m.piece :: pieces) ++ rest) =
      .ok (.more (body ++ (m.valued ++ (piecesText 0x7D false last pieces ++ rest)))) := by
  rw [nextName_eq_more]
  simp only [piecesText, NamedPiece.piece, List.append_assoc, hname, List.cons_append]
  exact nextAt_of_head rfl (by decide)

theorem colon_valued (m : NamedPiece) (later : Bytes) :
    colon (m.valued ++ later) = .ok (m.afterColon.bytes ++ (m.text ++ later)) := by
  rw [colon_eq_ok, NamedPiece.valued, List.append_assoc, m.afterName.skipBlanks_append,
    List.cons_append, List.append_assoc]
  exact skipBlanks_cons (by decide) _

/-- The text of a part stands in front, and a number would end where it does. -/
def Stands (P : α → Prop) (text : α → Bytes) (s : Bytes) (x : α) (rest : Bytes) : Prop :=
  P x ∧ EndsNumber rest ∧ s = text x ++ rest

theorem takes_stands {P : α → Prop} {text : α → Bytes} (h : ∀ x, P x → text x ≠ []) :
    Takes (Stands P text) := by
  rintro s x left ⟨hx, _, rfl⟩
  have hsome := List.length_pos_iff.mpr (h x hx)
  rw [List.length_append]
  omega

/-- The parts of an array are found in turn. -/
theorem items_pieces {P : α → Prop} {f : α → Piece}
    (hhead : ∀ x, P x → ∃ b r, (f x).text = b :: r ∧ isBlank b = false ∧ b ≠ 0x5D) {xs : List α}
    (hxs : ∀ x ∈ xs, P x) (first : Bool) (last : Blanks) (rest : Bytes) :
    ItemsBy (Stands P fun x => (f x).text) first
      (piecesText 0x5D first last (xs.map f) ++ rest) xs rest := by
  induction xs generalizing first with
  | nil => exact .closed (skipBlanks_piecesText (by decide) first last rest)
  | cons x xs ih =>
      obtain ⟨hx, hlater⟩ := List.forall_mem_cons.mp hxs
      have hmore := nextItem_piecesText (hhead x hx) .building first last (xs.map f) rest
      obtain ⟨hsome, hopen, hnext⟩ := nextItem_eq_more.mp hmore
      have hends := endsNumber_piecesText (endsNumber_close (.inl rfl) rest) last (xs.map f)
      exact .more hsome hopen hnext ⟨hx, hends, rfl⟩ (ih hlater false)

/-- The parts of an object are found in turn, each behind its name. -/
theorem members_pieces {Named : Bytes → κ → Bytes → Prop} {P : α → Prop} {f : α → NamedPiece}
    {ms : List (κ × α)}
    (hname : ∀ m ∈ ms, ∃ body, (f m.2).name = 0x22 :: body ∧
      ∀ later, Named (body ++ later) m.1 later)
    (hms : ∀ m ∈ ms, P m.2) (first : Bool) (last : Blanks) (rest : Bytes) :
    MembersBy Named (Stands P fun x => (f x).afterColon.bytes ++ (f x).text) first
      (piecesText 0x7D first last (ms.map fun m => (f m.2).piece) ++ rest) ms rest := by
  induction ms generalizing first with
  | nil => exact .closed (skipBlanks_piecesText (by decide) first last rest)
  | cons m ms ih =>
      obtain ⟨⟨body, hbody, hread⟩, hnames⟩ := List.forall_mem_cons.mp hname
      obtain ⟨hm, hlater⟩ := List.forall_mem_cons.mp hms
      have hmore := nextName_piecesText hbody .building first last
        (ms.map fun m => (f m.2).piece) rest
      have hends := endsNumber_piecesText (endsNumber_close (.inr rfl) rest) last
        (ms.map fun m => (f m.2).piece)
      exact .more (nextName_eq_more.mp hmore) (hread _) (colon_valued (f m.2) _)
        ⟨hm, hends, (List.append_assoc _ _ _).symm⟩ (ih hnames hlater false)

/-! ## Passing over values -/

/-- Passes over an item of an array. -/
def skipItem (depth : Nat) (_ : Unit) (s : Bytes) : Except Fault (Unit × Bytes) := do
  return ((), ← skipNested depth s)

/-- Passes over a name. -/
def skipName (s : Bytes) : Except Fault (Unit × Bytes) := do
  return ((), ← skipString s)

/-- Passes over a member of an object behind its name. -/
def skipMember (depth : Nat) (_ _ : Unit) (s : Bytes) : Except Fault (Unit × Bytes) := do
  return ((), ← skipNested depth (← colon s))

theorem skipItem_eq_ok {found : Unit × Bytes} :
    skipItem depth () s = .ok found ↔ skipNested depth s = .ok found.2 := by
  rw [skipItem]
  cases skipNested depth s <;> simp [bind, Except.bind, pure, Except.pure, Prod.ext_iff]

theorem skipName_eq_ok {found : Unit × Bytes} :
    skipName s = .ok found ↔ skipString s = .ok found.2 := by
  rw [skipName]
  cases skipString s <;> simp [bind, Except.bind, pure, Except.pure, Prod.ext_iff]

theorem skipMember_eq_ok {found : Unit × Bytes} :
    skipMember depth () () s = .ok found ↔
      ∃ valued, colon s = .ok valued ∧ skipNested depth valued = .ok found.2 := by
  rw [skipMember]
  cases colon s with
  | error fault => simp [bind, Except.bind]
  | ok valued =>
      simp only [bind, Except.bind, Except.ok.injEq, exists_eq_left']
      exact skipItem_eq_ok

theorem exists_of_map_eq_ok {ε α β : Type} {f : α → β} {reading : Except ε α} {b : β}
    (h : reading.map f = .ok b) : ∃ a, reading = .ok a ∧ f a = b := by
  cases reading with
  | error e => cases h
  | ok a => exact ⟨a, rfl, Except.ok.inj h⟩

theorem isBlank_of_skipBlanks {r : Bytes} (h : skipBlanks s = b :: r) : isBlank b = false := by
  by_contra hblank
  have hskip := skipBlanks_skipBlanks s
  rw [h, skipBlanks, List.dropWhile_cons_of_pos (by simpa using hblank)] at hskip
  have hle := length_skipBlanks_le r
  rw [skipBlanks, hskip, List.length_cons] at hle
  exact absurd hle (Nat.not_succ_le_self r.length)

theorem skipNested_skipBlanks (depth : Nat) (s : Bytes) :
    skipNested depth (skipBlanks s) = skipNested depth s := by
  rw [skipNested.eq_def, skipNested.eq_def depth s]
  simp only [skipBlanks_skipBlanks]

/-- What is passed over by its first byte. -/
theorem skipNested_cons {r : Bytes} (hb : isBlank b = false) :
    skipNested depth (b :: r) =
      if b = 0x6E then word nullTail r
      else if b = 0x74 then word trueTail r
      else if b = 0x66 then word falseTail r
      else if b = 0x2D || isDigit b then skipNumber b r
      else if b = 0x22 then skipString r
      else if b = 0x5B then
        match depth with
        | 0 => faultPast .tooDeep (b :: r)
        | depth + 1 =>
          (foldItems .skipping (skipItem depth) (r.length + 1) true () r).map Prod.snd
      else if b = 0x7B then
        match depth with
        | 0 => faultPast .tooDeep (b :: r)
        | depth + 1 =>
          (foldMembers .skipping skipName (skipMember depth) (r.length + 1) true () r).map Prod.snd
      else faultPast .expectedValue (b :: r) := by
  rw [skipNested.eq_def]
  simp only [skipBlanks_cons hb]
  cases depth <;> rfl

/-- What is passed over with so many brackets is a text of the grammar. -/
def SkipsGrammatical (depth : Nat) : Prop :=
  ∀ s rest, skipNested depth s = .ok rest → ∃ text, Grammatical text ∧ Front text rest s

theorem SkipsGrammatical.array (ih : SkipsGrammatical depth)
    (h : (foldItems .skipping (skipItem depth) fuel true () s).map Prod.snd = .ok rest) :
    ∃ text, Grammatical text ∧ 0x5B :: s = text ++ rest := by
  obtain ⟨found, hfold, rfl⟩ := exists_of_map_eq_ok h
  obtain ⟨pieces, last, hpieces, rfl⟩ := exists_pieces
    (fun _ s found hfound => ih s found.2 (skipItem_eq_ok.mp hfound)) hfold
  exact ⟨_, .array last hpieces, rfl⟩

theorem SkipsGrammatical.object (ih : SkipsGrammatical depth)
    (h : (foldMembers .skipping skipName (skipMember depth) fuel true () s).map Prod.snd =
      .ok rest) :
    ∃ text, Grammatical text ∧ 0x7B :: s = text ++ rest := by
  obtain ⟨found, hfold, rfl⟩ := exists_of_map_eq_ok h
  obtain ⟨members, last, hmembers, rfl⟩ := exists_namedPieces (N := fun _ => IsString)
    (fun s found hfound => skipString_eq_ok_iff.mp (skipName_eq_ok.mp hfound))
    (fun _ _ s found hfound => by
      obtain ⟨valued, hcolon, hskip⟩ := skipMember_eq_ok.mp hfound
      obtain ⟨text, htext, hfront⟩ := ih valued found.2 hskip
      exact ⟨valued, text, hcolon, htext, hfront⟩) hfold
  have hobject : Grammatical
      (0x7B :: piecesText 0x7D true last ((members.map (·.2)).map (·.piece))) :=
    .object last (List.forall_mem_map.mpr fun m hm => (hmembers m hm).1)
      (List.forall_mem_map.mpr fun m hm => (hmembers m hm).2)
  rw [List.map_map] at hobject
  exact ⟨_, hobject, rfl⟩

/-- What is passed over is a text of the grammar, however deep brackets may nest. -/
theorem skipsGrammatical (depth : Nat) : SkipsGrammatical depth := by
  induction depth using Nat.strong_induction_on with
  | h depth ih =>
      intro s rest h
      obtain ⟨blanks, hblanks⟩ := exists_blanks s
      suffices hfront : ∃ text, Grammatical text ∧ skipBlanks s = text ++ rest by
        obtain ⟨text, htext, hs⟩ := hfront
        exact ⟨text, htext, blanks, hs ▸ hblanks⟩
      rw [← skipNested_skipBlanks] at h
      cases hs : skipBlanks s with
      | nil =>
          rw [hs] at h
          cases depth <;> cases h
      | cons b r =>
          rw [hs, skipNested_cons (isBlank_of_skipBlanks hs)] at h
          split_ifs at h with hnull htrue hfalse hnumber hquote hbracket hbrace
          · rw [hnull, word_eq_ok.mp h]
            exact ⟨0x6E :: nullTail, .word (by simp), rfl⟩
          · rw [htrue, word_eq_ok.mp h]
            exact ⟨0x74 :: trueTail, .word (by simp), rfl⟩
          · rw [hfalse, word_eq_ok.mp h]
            exact ⟨0x66 :: falseTail, .word (by simp), rfl⟩
          · obtain ⟨text, htext, hnumber⟩ := exists_isNumber h
            exact ⟨text, .number hnumber, htext⟩
          · obtain ⟨text, hstring, htext⟩ := skipString_eq_ok_iff.mp h
            exact ⟨text, .string hstring, hquote ▸ htext⟩
          · cases depth with
            | zero => cases h
            | succ depth => exact hbracket ▸ (ih depth (Nat.lt_succ_self depth)).array h
          · cases depth with
            | zero => cases h
            | succ depth => exact hbrace ▸ (ih depth (Nat.lt_succ_self depth)).object h
          · cases h

theorem NamedPiece.length_text_le (m : NamedPiece) : m.text.length ≤ m.piece.text.length := by
  simp only [piece, valued, List.length_append, List.length_cons]
  omega

theorem skipNested_blanks_append (blanks : Blanks) (s : Bytes) :
    skipNested depth (blanks.bytes ++ s) = skipNested depth s := by
  rw [← skipNested_skipBlanks, blanks.skipBlanks_append, skipNested_skipBlanks]

theorem takes_skipName : Takes (Gives skipName) :=
  fun _ _ _ h => (skipString_eq_ok.mp (skipName_eq_ok.mp h)).length_lt

theorem IsString.skipName {bytes : Bytes} (h : IsString bytes) :
    ∃ body, bytes = 0x22 :: body ∧ ∀ later, Json.skipName (body ++ later) = .ok ((), later) := by
  obtain ⟨hbody⟩ := h
  refine ⟨_, rfl, fun later => skipName_eq_ok.mpr (skipString_eq_ok.mpr ?_)⟩
  simpa using hbody.append later

theorem Grammatical.ne_nil (h : Grammatical text) : text ≠ [] := by
  obtain ⟨b, r, htext, _⟩ := h.head
  exact htext ▸ List.cons_ne_nil b r

/-! ## Values that are passed over -/

theorem skipNested_word (h : text ∈ [0x6E :: nullTail, 0x74 :: trueTail, 0x66 :: falseTail])
    (rest : Bytes) : skipNested depth (text ++ rest) = .ok rest := by
  simp only [List.mem_cons, List.not_mem_nil, or_false] at h
  rcases h with rfl | rfl | rfl
  · rw [List.cons_append, skipNested_cons (by decide), if_pos rfl]
    exact word_eq_ok.mpr rfl
  · rw [List.cons_append, skipNested_cons (by decide), if_neg (by decide), if_pos rfl]
    exact word_eq_ok.mpr rfl
  · rw [List.cons_append, skipNested_cons (by decide), if_neg (by decide), if_neg (by decide),
      if_pos rfl]
    exact word_eq_ok.mpr rfl

theorem IsNumber.skipNested (h : IsNumber text) (hrest : EndsNumber rest) :
    Json.skipNested depth (text ++ rest) = .ok rest := by
  obtain ⟨b, r, htext, hb, hskip⟩ := h.skip hrest
  obtain ⟨hnull, htrue, hfalse, _⟩ := ne_of_number hb
  rw [htext, skipNested_cons (isBlank_of_number hb), if_neg hnull, if_neg htrue, if_neg hfalse,
    if_pos (by simpa using hb), hskip]

theorem IsString.skipNested (h : IsString text) (rest : Bytes) :
    Json.skipNested depth (text ++ rest) = .ok rest := by
  obtain ⟨hbody⟩ := h
  rw [List.cons_append, skipNested_cons (by decide)]
  exact skipString_eq_ok.mpr (by simpa using hbody.append rest)

/-- An array is passed over if its items are, with one bracket less. -/
theorem skipNested_array {items : List Piece} (hitems : ∀ x ∈ items, Grammatical x.text)
    (hskip : ∀ x ∈ items, ∀ later, EndsNumber later →
      skipNested depth (x.text ++ later) = .ok later) (last : Blanks) (rest : Bytes) :
    skipNested (depth + 1) (0x5B :: (piecesText 0x5D true last items ++ rest)) = .ok rest := by
  have hfound := items_pieces (P := (· ∈ items)) (f := id) (fun x hx => (hitems x hx).head)
    (fun _ hx => hx) true last rest
  rw [List.map_id] at hfound
  have htakes := takes_stands fun x (hx : x ∈ items) => (hitems x hx).ne_nil
  have hwalk : (foldItems .skipping (skipItem depth) _ true () _).toOption = _ :=
    hfound.fold htakes (fun _ _ => some ()) ?_ (Nat.lt_succ_self _) ()
  · rw [foldlM_unit] at hwalk
    rw [skipNested_cons (by decide)]
    change (foldItems .skipping (skipItem depth) _ true () _).map Prod.snd = .ok rest
    exact (congrArg _ (toOption_eq_some.mp hwalk)).trans rfl
  · rintro _ mid x left _ ⟨hx, hleft, rfl⟩
    apply toOption_eq_some.mpr
    apply skipItem_eq_ok.mpr
    exact hskip x hx left hleft

/-- An object is passed over if its values are, with one bracket less. -/
theorem skipNested_object {members : List NamedPiece} (hnames : ∀ m ∈ members, IsString m.name)
    (hvalues : ∀ m ∈ members, Grammatical m.text)
    (hskip : ∀ m ∈ members, ∀ later, EndsNumber later →
      skipNested depth (m.text ++ later) = .ok later) (last : Blanks) (rest : Bytes) :
    skipNested (depth + 1)
      (0x7B :: (piecesText 0x7D true last (members.map (·.piece)) ++ rest)) = .ok rest := by
  have hread : ∀ m ∈ members.map fun m => ((), m), ∃ body,
      m.2.name = 0x22 :: body ∧ ∀ later, Gives skipName (body ++ later) m.1 later :=
    List.forall_mem_map.mpr fun m hm => (hnames m hm).skipName
  have hfound := members_pieces (P := (· ∈ members)) (f := id) hread
    (List.forall_mem_map.mpr fun _ hm => hm) true last rest
  rw [List.map_map] at hfound
  have htakes := takes_stands fun m (hm : m ∈ members) =>
    List.append_ne_nil_of_right_ne_nil m.afterColon.bytes (hvalues m hm).ne_nil
  have hwalk : (foldMembers .skipping skipName (skipMember depth) _ true () _).toOption = _ :=
    hfound.fold takes_skipName htakes id (fun _ _ => some ()) (fun _ _ _ h => h) ?_
      (Nat.lt_succ_self _) ()
  · rw [foldlM_unit] at hwalk
    rw [skipNested_cons (by decide)]
    change (foldMembers .skipping skipName (skipMember depth) _ true () _).map Prod.snd = .ok rest
    exact (congrArg _ (toOption_eq_some.mp hwalk)).trans rfl
  · rintro _ _ named valued m left _ _ hcolon ⟨hm, hleft, rfl⟩
    apply toOption_eq_some.mpr
    apply skipMember_eq_ok.mpr
    refine ⟨_, hcolon, ?_⟩
    rw [List.append_assoc, skipNested_blanks_append]
    exact hskip m hm left hleft

/-- A text of the grammar is passed over, if brackets may nest as deep as it is long. -/
theorem Grammatical.skip (h : Grammatical text) (hdepth : text.length ≤ depth)
    (hrest : EndsNumber rest) : skipNested depth (text ++ rest) = .ok rest := by
  induction h generalizing depth rest with
  | word h => exact skipNested_word h rest
  | number h => exact h.skipNested hrest
  | string h => exact h.skipNested rest
  | @array items last hitems ih =>
      obtain ⟨depth, rfl⟩ := Nat.exists_eq_add_of_le' (Nat.le_trans (Nat.le_add_left 1 _) hdepth)
      refine skipNested_array hitems ?_ last rest
      intro x hx later hlater
      have hlength := length_text_le_piecesText hx 0x5D true last
      exact ih x hx (hlength.trans (Nat.le_of_succ_le_succ hdepth)) hlater
  | @object members last hnames hvalues ih =>
      obtain ⟨depth, rfl⟩ := Nat.exists_eq_add_of_le' (Nat.le_trans (Nat.le_add_left 1 _) hdepth)
      refine skipNested_object hnames hvalues ?_ last rest
      intro m hm later hlater
      have hpiece := List.mem_map_of_mem (f := NamedPiece.piece) hm
      have hlength := length_text_le_piecesText hpiece 0x7D true last
      have htext := m.length_text_le.trans hlength
      exact ih m hm (htext.trans (Nat.le_of_succ_le_succ hdepth)) hlater

/-- A value is passed over up to where one of the grammar ends that is not broken off. -/
theorem skipValue_eq_ok (hrest : EndsNumber rest) :
    skipValue s = .ok rest ↔ ∃ text, Grammatical text ∧ Front text rest s := by
  constructor
  · exact skipsGrammatical s.length s rest
  · rintro ⟨text, htext, blanks, rfl⟩
    rw [skipValue, skipNested_blanks_append]
    refine htext.skip ?_ hrest
    simp only [List.length_append]
    omega

theorem Grammatical.skipBlanks_append (h : Grammatical text) (rest : Bytes) :
    skipBlanks (text ++ rest) = text ++ rest := by
  obtain ⟨b, r, rfl, hb, _⟩ := h.head
  exact skipBlanks_cons hb (r ++ rest)

/-- A text of the grammar is one that is passed over to its end and begins with no blank. -/
theorem grammatical_iff :
    Grammatical text ↔ (skipValue text).toOption = some [] ∧ skipBlanks text = text := by
  rw [toOption_eq_some, skipValue_eq_ok endsNumber_nil]
  constructor
  · intro h
    have hskip := h.skipBlanks_append []
    rw [List.append_nil] at hskip
    exact ⟨⟨text, h, .empty, by simp⟩, hskip⟩
  · rintro ⟨⟨found, hfound, blanks, heq⟩, hskip⟩
    rw [← hskip, heq, blanks.skipBlanks_append, hfound.skipBlanks_append, List.append_nil]
    exact hfound

instance (text : Bytes) : Decidable (Grammatical text) :=
  decidable_of_iff _ grammatical_iff.symm

example : Grammatical (Utf8.ofString "[1E999, \x7b\"\\ud800\": -0.0e-0\x7d]") ∧
    ¬ Grammatical (Utf8.ofString "[01]") := by
  decide +kernel

/-! ## Strings among the values -/

theorem Quotes.grammatical {t : String} (h : Quotes t text) : Grammatical text :=
  .string h.isString

theorem Grammatical.isString {r : Bytes} (h : Grammatical (0x22 :: r)) : IsString (0x22 :: r) := by
  cases h with
  | word h => revert h; simp
  | number h =>
      obtain ⟨b, r', heq, hb⟩ := h.head
      obtain ⟨rfl, _⟩ := List.cons.inj heq
      exact absurd hb (by decide)
  | string h => exact h

/-- A string is read where one that is written for a text stands in front. -/
theorem stringOf_eq_ok {expected t : String} :
    stringOf expected s = .ok (t, rest) ↔ ∃ bytes, Quotes t bytes ∧ Front bytes rest s := by
  rw [stringOf.eq_def]
  constructor
  · intro h
    obtain ⟨blanks, hblanks⟩ := exists_blanks s
    cases hs : skipBlanks s with
    | nil =>
        simp only [hs] at h
        cases h
    | cons b r =>
        simp only [hs] at h
        split at h
        · rename_i hquote
          obtain ⟨bytes, hbytes, heq⟩ := string_eq_ok_iff.mp h
          refine ⟨bytes, hbytes, blanks, ?_⟩
          rw [← heq, ← hquote, ← hs, ← hblanks]
        · exact absurd h (mismatch_ne_ok expected (b :: r) (t, rest))
  · rintro ⟨bytes, hbytes, blanks, rfl⟩
    obtain ⟨body, rfl, hread⟩ := hbytes.string
    have hskip : skipBlanks (0x22 :: (body ++ rest)) = 0x22 :: (body ++ rest) :=
      skipBlanks_cons (by decide) _
    rw [blanks.skipBlanks_append, List.cons_append, hskip]
    exact hread rest

/-- Of a value in front, the text is read that it is written for. -/
theorem Grammatical.stringOf (h : Grammatical text) (expected : String) (blanks : Blanks)
    (rest : Bytes) :
    (Json.stringOf expected (blanks.bytes ++ (text ++ rest))).toOption =
      (textOf? text).map (·, rest) := by
  apply Option.ext
  rintro ⟨t, left⟩
  rw [toOption_eq_some, stringOf_eq_ok, Option.map_eq_some_iff]
  constructor
  · rintro ⟨bytes, hbytes, before, heq⟩
    have hfront := congrArg skipBlanks heq
    rw [blanks.skipBlanks_append, before.skipBlanks_append, h.skipBlanks_append,
      hbytes.grammatical.skipBlanks_append] at hfront
    have hstring : IsString text := by
      obtain ⟨b, r, rfl, _⟩ := h.head
      obtain ⟨spelling, _, rfl⟩ := hbytes
      obtain ⟨rfl, _⟩ := List.cons.inj hfront
      exact h.isString
    obtain ⟨hsame, rfl⟩ := hstring.append_inj hbytes.isString hfront
    exact ⟨t, textOf?_eq_some.mpr (hsame ▸ hbytes), rfl⟩
  · rintro ⟨t, ht, heq⟩
    obtain ⟨rfl, rfl⟩ := Prod.mk.inj heq
    exact ⟨text, textOf?_eq_some.mp ht, blanks, rfl⟩

/-! ## Values as they are written -/

/-- A text of the grammar is kept as it is written. -/
theorem Grammatical.rawValue {text : String} (h : Grammatical (Utf8.ofString text))
    (blanks : Blanks) (hrest : EndsNumber rest) :
    Json.rawValue (blanks.bytes ++ (Utf8.ofString text ++ rest)) = .ok (text, rest) := by
  have hskip : skipValue (Utf8.ofString text ++ rest) = .ok rest :=
    (skipValue_eq_ok hrest).mpr ⟨_, h, .empty, rfl⟩
  have htake : (Utf8.ofString text ++ rest).take
      ((Utf8.ofString text ++ rest).length - rest.length) = Utf8.ofString text := by
    rw [List.length_append, Nat.add_sub_cancel, List.take_left]
  rw [Json.rawValue]
  simp only [blanks.skipBlanks_append, h.skipBlanks_append, hskip]
  change (do
    let text ← plainText ((Utf8.ofString text ++ rest).take
      ((Utf8.ofString text ++ rest).length - rest.length)) rest
    return (String.ofList text, rest) : Except Fault (String × Bytes)) = _
  rw [htake, Utf8.ofString, plainText_encode]
  exact congrArg (fun t => Except.ok (t, rest)) (String.ofList_toList)

end Json

end TraceArchive
