import Galley.Json.ShapeReader
import Galley.Proofs.Json.Reordered
import Galley.Proofs.Json.RoundTrip
import Galley.Proofs.Json.Shape

/-!
# Shapes read from text

Data of a well-formed shape are read straight back from the written form of their JSON, in every
layout. The order of the fields is kept in the text, so a record is read field by field; nothing has
to be skipped, and no field is met twice. The side that reads a table puts it in order, so the side
that writes it may use any order: data are read back also from the written form of data that are the
same but for the order of their tables.

Main results:

* `Shape.read_reordered`, `Shape.read_written` — data are read back, with any text behind them that
  does not go on with a number.
* `Shape.parse_reordered`, `Shape.parse_written` — a text that holds the written form and blanks is
  read as the data.
-/

namespace Galley.Json

variable {L : Layout} {fuel : Nat}

-- ---------------------------------------------------------------------------
-- Leaves
-- ---------------------------------------------------------------------------

theorem onFirst_blanks {α : Type} (next : Char → Reader α) {gap : List Char}
    (hGap : ∀ c ∈ gap, isBlank c = true) (cs : List Char) :
    onFirst next (gap ++ cs) = onFirst next cs := by
  rw [onFirst, onFirst, skipBlank_append hGap]

theorem onFirst_cons {α : Type} (next : Char → Reader α) {c : Char} (hc : isBlank c = false)
    (rest : List Char) : onFirst next (c :: rest) = next c rest := by
  rw [onFirst, skipBlank_cons hc]

/-- Blanks before data are passed over. -/
theorem Shape.read_blanks (shape : Shape) (levels : Nat) {gap : List Char}
    (hGap : ∀ c ∈ gap, isBlank c = true) (cs : List Char) :
    shape.read fuel levels (gap ++ cs) = shape.read fuel levels cs := by
  cases shape with
  | json => exact readValue_blanks hGap fuel levels cs
  | nullable inner => simp only [Shape.read, skipBlank_append hGap]
  | choice names => rw [Shape.read, readChoice, readChoice, skipBlank_append hGap]
  | _ => exact onFirst_blanks _ hGap cs

/-- A written string is read by what is asked of it. -/
theorem readTextAs_printString {α : Type} {expected : String}
    {ofText : String → Except Mismatch α} {s : String} {x : α} (hText : ofText s = .ok x)
    (hFuel : (printString s).length ≤ fuel) (rest : List Char) :
    readTextAs fuel expected ofText (printString s ++ rest) = .ok (x, rest) := by
  have hQuote : printString s ++ rest = '"' :: ((printString s).tail ++ rest) := rfl
  rw [hQuote, readTextAs, onFirst_cons _ (by decide), if_pos rfl,
    readString_printString s fuel rest hFuel]
  show atRest rest (ofText s) = _
  rw [hText]
  rfl

/-- A written natural number is read by what is asked of it. -/
theorem readNumberAs_printInteger {α : Type} {expected : String}
    {ofNumber : Number → Except Mismatch α} {n : Nat} {x : α} (hWord : n < Word.values64)
    (hNumber : ofNumber (.integer (n : Int)) = .ok x) {rest : List Char} (hRest : NoNumber rest) :
    readNumberAs fuel expected ofNumber (printInteger (n : Int) ++ rest) = .ok (x, rest) := by
  have hPrinted : printInteger (n : Int) = Nat.toDigits 10 n := by
    rw [printInteger, if_neg (by omega), Int.natAbs_natCast]
  have hRead := readNumber_toDigits hWord false (by simp) hRest
  obtain ⟨c, cs, hDigits⟩ :=
    List.exists_cons_of_ne_nil (Nat.toDigits_ne_nil : Nat.toDigits 10 n ≠ [])
  have hDigit : c.isDigit = true :=
    Text.isDigit_of_mem_toDigits (n := n) (by rw [hDigits]; exact List.mem_cons_self)
  have hStart : startsScalar c = true := by rw [startsScalar, hDigit, Bool.or_true]
  rw [hDigits, List.cons_append] at hRead
  rw [hPrinted, hDigits, List.cons_append, readNumberAs,
    onFirst_cons _ (not_blank_of_startsScalar hStart)]
  have hMinus : c ≠ '-' := by
    rintro rfl
    exact absurd hDigit (by decide)
  rw [if_neg hMinus, if_pos hDigit, hRead]
  show atRest rest (ofNumber (.integer (n : Int))) = _
  rw [hNumber]
  rfl

/-- A written flag is read. -/
theorem readFlag_printBool (b : Bool) (rest : List Char) :
    readFlag fuel (printBool b ++ rest) = .ok (b, rest) := by
  cases b <;> rfl

/-- A choice is read from its written name, if the names differ. -/
theorem readChoice_printString {names : List String} (hNames : names.Nodup)
    (i : Fin names.length) (levels : Nat) (hFuel : (printString (names.get i)).length ≤ fuel)
    (rest : List Char) :
    readChoice fuel names levels (printString (names.get i) ++ rest) = .ok (i, rest) := by
  have hQuote : printString (names.get i) ++ rest =
      '"' :: ((printString (names.get i)).tail ++ rest) := rfl
  rw [hQuote, readChoice, skipBlank_cons (by decide)]
  show (readString fuel _ >>= _) = _
  rw [readString_printString _ fuel rest hFuel]
  show atRest rest (choiceOfText names (names.get i)) = _
  rw [choiceOfText_get hNames]
  rfl

-- ---------------------------------------------------------------------------
-- Absent data
-- ---------------------------------------------------------------------------

/-- The text of data that are not `null` does not start like `null`. -/
theorem Shape.written_encode_eq_cons {shape : Shape} (hNull : shape.admitsNull = false)
    (x : shape.Value) (level : Nat) :
    ∃ c cs, written L level (shape.encode x) = c :: cs ∧ isBlank c = false ∧ c ≠ 'n' := by
  have hString : ∀ s : String, ∃ c cs, printString s = c :: cs ∧ isBlank c = false ∧ c ≠ 'n' :=
    fun s => ⟨'"', (printString s).tail, rfl, by decide, by decide⟩
  have hNatural : ∀ n : Nat, ∃ c cs, printInteger (n : Int) = c :: cs ∧ isBlank c = false ∧
      c ≠ 'n' := by
    intro n
    obtain ⟨c, cs, hPrinted, hFirst⟩ := printInteger_eq_cons (n : Int)
    refine ⟨c, cs, hPrinted, ?_⟩
    rcases hFirst with rfl | hDigit
    · decide
    · have hStart : startsScalar c = true := by rw [startsScalar, hDigit, Bool.or_true]
      refine ⟨not_blank_of_startsScalar hStart, ?_⟩
      rintro rfl
      exact absurd hDigit (by decide)
  cases shape with
  | json => exact Bool.noConfusion hNull
  | nullable inner => exact Bool.noConfusion hNull
  | text => exact hString x
  | uuid => exact hString _
  | instant => exact hString _
  | choice names => exact hString _
  | flag =>
    cases x
    · exact ⟨'f', _, rfl, by decide, by decide⟩
    · exact ⟨'t', _, rfl, by decide, by decide⟩
  | word32 => exact hNatural _
  | word64 => exact hNatural _
  | list item => exact ⟨'[', _, rfl, by decide, by decide⟩
  | table value => exact ⟨'{', _, rfl, by decide, by decide⟩
  | record name fields => exact ⟨'{', _, rfl, by decide, by decide⟩

/-- What does not start like null is read as what it is. -/
theorem Shape.read_nullable {inner : Shape} {levels : Nat} {c : Char} {cs : List Char}
    (hBlank : isBlank c = false) (hc : c ≠ 'n') :
    (Shape.nullable inner).read fuel levels (c :: cs) =
      (inner.read fuel levels (c :: cs)).map fun (x, rest) => (some x, rest) := by
  simp only [Shape.read, skipBlank_cons hBlank]
  split
  · next h => exact absurd (List.cons.inj h).1 hc
  · rfl

-- ---------------------------------------------------------------------------
-- Fields
-- ---------------------------------------------------------------------------

/-- Members of other names leave a field alone. -/
theorem Fields.takes_skip {name : String} {presence : Presence} {shape : Shape} {rest : Fields}
    {levels : Nat} {text : Json → List Char} (slot : Option shape.Value) {ms : List (String × Json)}
    {slots final : rest.Slots} (hNames : ∀ m ∈ ms, name ≠ m.1)
    (hTakes : TakesMembers (rest.readMember fuel levels) L.space text slots ms final) :
    TakesMembers ((Fields.cons name presence shape rest).readMember fuel levels) L.space text
      (slot, slots) ms (slot, final) := by
  induction hTakes with
  | nil => exact .nil _
  | cons take _ ih =>
    refine .cons (fun behind hBehind => ?_) (ih fun m hm => hNames m (List.mem_cons_of_mem _ hm))
    rw [Fields.readMember, if_neg (hNames _ List.mem_cons_self)]
    show Except.map _ _ = _
    rw [take behind hBehind]
    rfl

/-- A field is taken where it has not been taken before; then the other fields are. -/
theorem Fields.takes_cons {name : String} {presence : Presence} {shape : Shape} {rest : Fields}
    {levels : Nat} {text : Json → List Char} {j : Json} {x : shape.Value}
    {ms : List (String × Json)} {slots final : rest.Slots} (hNames : ∀ m ∈ ms, name ≠ m.1)
    (hRead : ∀ behind, NoNumber behind →
      shape.read fuel levels (text j ++ behind) = .ok (x, behind))
    (hTakes : TakesMembers (rest.readMember fuel levels) L.space text slots ms final) :
    TakesMembers ((Fields.cons name presence shape rest).readMember fuel levels) L.space text
      (none, slots) ((name, j) :: ms) (some x, final) := by
  refine .cons (fun behind hBehind => ?_) (takes_skip (some x) hNames hTakes)
  rw [Fields.readMember, if_pos rfl]
  refine underName_colon _ ?_
  rw [shape.read_blanks levels L.space_blank, hRead behind hBehind]
  rfl

-- ---------------------------------------------------------------------------
-- Lists and objects
-- ---------------------------------------------------------------------------

/-- A list is read item by item, with a level less. -/
theorem Shape.read_list (item : Shape) (levels : Nat) (rest : List Char) :
    (Shape.list item).read fuel (levels + 1) ('[' :: rest) =
      readItems (item.read fuel levels) fuel 0 rest := by
  rfl

/-- A table is read member by member and put in order. -/
theorem Shape.read_table (value : Shape) (levels : Nat) (rest : List Char) :
    (Shape.table value).read fuel (levels + 1) ('{' :: rest) =
      readMembers (insertRead (value.read fuel levels)) fuel true [] rest := by
  rfl

/-- A record is read member by member; then its slots are looked at. -/
theorem Shape.read_record (name : String) (fields : Fields) (levels : Nat) (rest : List Char) :
    (Shape.record name fields).read fuel (levels + 1) ('{' :: rest) =
      (readMembers (fields.readMember fuel levels) fuel true fields.emptySlots rest).bind
        fun (slots, rest) => atRest rest (fields.collect slots) := by
  rfl

mutual

/-- **Data are read back from the written form of reordered data.** -/
theorem Shape.read_reordered (L : Layout) (fuel : Nat) : ∀ (shape : Shape) {x y : shape.Value},
    shape.Reorders x y → ∀ (level levels : Nat) (rest : List Char),
      shape.isWellFormed = true → shape.Holds x → (shape.encode y).isRealFree = true →
      (shape.encode y).depth ≤ levels → (written L level (shape.encode y)).length < fuel →
      NoNumber rest →
        shape.read fuel levels (written L level (shape.encode y) ++ rest) = .ok (x, rest)
  | .text, _, _, .same _ s, _, _, rest, _, _, _, _, hFuel, _ =>
    readTextAs_printString rfl (Nat.le_of_lt hFuel) rest
  | .flag, _, _, .same _ b, _, _, rest, _, _, _, _, _, _ => readFlag_printBool b rest
  | .word32, _, _, .same _ n, _, _, rest, _, _, _, _, _, hRest =>
    readNumberAs_printInteger (Nat.lt_trans n.toNat_lt (by decide)) (word32OfNumber_toNat n) hRest
  | .word64, _, _, .same _ n, _, _, rest, _, hHolds, _, _, _, hRest => by
    have hWord : n < Word.values64 := by rwa [Shape.Holds] at hHolds
    exact readNumberAs_printInteger hWord (word64OfNumber_nat hWord) hRest
  | .uuid, _, _, .same _ u, _, _, rest, _, _, _, _, hFuel, _ =>
    readTextAs_printString (uuidOfText_toText u) (Nat.le_of_lt hFuel) rest
  | .instant, _, _, .same _ t, _, _, rest, _, _, _, _, hFuel, _ =>
    readTextAs_printString (instantOfText_print t) (Nat.le_of_lt hFuel) rest
  | .json, _, _, .same _ j, level, levels, rest, _, hHolds, hFree, hDepth, hFuel, hRest =>
    readValue_written L fuel hHolds hFree hDepth hFuel hRest
  | .list item, xs, _, .same _ _, level, levels, rest, hWell, hHolds, hFree, hDepth, hFuel, _ => by
    obtain ⟨levels, rfl⟩ := Nat.exists_eq_succ_of_ne_zero (Nat.ne_zero_of_lt hDepth)
    have hLength := length_of_items (Nat.le_of_lt hFuel)
    have hFrees := areRealFree_iff.mp hFree
    have hDepths := depthOfItems_le_iff.mp (Nat.le_of_succ_le_succ hDepth)
    have hMem : ∀ x ∈ xs, item.encode x ∈ xs.map item.encode := fun x hx => List.mem_map_of_mem hx
    have hRead := readItems_written (fun x => written L (level + 1) (item.encode x))
      (L.gap_blank (level + 1)) (L.closing_blank level (xs.map item.encode).isEmpty) xs
      (fun x hx => opens_written L (level + 1) (hFrees _ (hMem x hx)))
      (fun x hx behind hBehind => item.read_reordered L fuel (.same item x) (level + 1) levels
        behind hWell (hHolds x hx) (hFrees _ (hMem x hx)) (hDepths _ (hMem x hx))
        (hLength.2 _ (hMem x hx)) hBehind)
      (by simpa using hLength.1) rest
    rw [Shape.encode, written_array, Shape.read_list, List.map_map]
    exact hRead
  | .table value, xs, ys, h, level, levels, rest, hWell, hHolds, hFree, hDepth, hFuel, _ => by
    obtain ⟨levels, rfl⟩ := Nat.exists_eq_succ_of_ne_zero (Nat.ne_zero_of_lt hDepth)
    have hLength := length_of_members (Nat.le_of_lt hFuel)
    have hFrees := haveRealFree_iff.mp hFree
    have hDepths := depthOfMembers_le_iff.mp (Nat.le_of_succ_le_succ hDepth)
    have hMem : ∀ m ∈ ys, (m.1, value.encode m.2) ∈ ys.map fun m => (m.1, value.encode m.2) :=
      fun m hm => List.mem_map_of_mem hm
    have hTakes := takesMembers_insertAll (fun x => written L (level + 1) (value.encode x))
      (value.read_blanks levels L.space_blank) [] ys
      (fun m hm behind hBehind => value.read_reordered L fuel (.same value m.2) (level + 1) levels
        behind hWell (hHolds.2 m (h.perm.mem_iff.mpr hm)) (hFrees _ (hMem m hm))
        (hDepths _ (hMem m hm)) (hLength.2 _ (hMem m hm)).2 hBehind)
    have hRead := readMembers_written (L.gap_blank (level + 1))
      (L.closing_blank level (ys.map fun m => (m.1, value.encode m.2)).isEmpty) hTakes
      (by simpa using hLength.1) (fun m hm => by simpa using (hLength.2 _ (hMem m hm)).1) rest
    -- the members are put in order as they are read
    rw [insertAll_of_perm hHolds.1 h.perm] at hRead
    rw [Shape.encode, written_object, Shape.read_table, List.map_map]
    exact hRead
  | .nullable _, none, _, .same _ _, _, _, _, _, _, _, _, _, _ => rfl
  | .nullable inner, some x, y, h, level, levels, rest, hWell, hHolds, hFree, hDepth, hFuel,
      hRest => by
    obtain ⟨z, rfl, hInner⟩ := h.of_some
    simp only [Shape.isWellFormed, Bool.and_eq_true, Bool.not_eq_true'] at hWell
    have hRead := inner.read_reordered L fuel hInner level levels rest hWell.1 hHolds hFree hDepth
      hFuel hRest
    obtain ⟨c, cs, hText, hBlank, hc⟩ := Shape.written_encode_eq_cons (L := L) hWell.2 z level
    rw [Shape.encode]
    rw [hText, List.cons_append] at hRead ⊢
    rw [Shape.read_nullable hBlank hc, hRead]
    rfl
  | .choice names, _, _, .same _ i, _, levels, rest, hWell, _, _, _, hFuel, _ =>
    readChoice_printString (of_decide_eq_true hWell) i levels (Nat.le_of_lt hFuel) rest
  | .record name fields, xs, ys, h, level, levels, rest, hWell, hHolds, hFree, hDepth, hFuel,
      _ => by
    obtain ⟨levels, rfl⟩ := Nat.exists_eq_succ_of_ne_zero (Nat.ne_zero_of_lt hDepth)
    have hLength := length_of_members (Nat.le_of_lt hFuel)
    have hTakes := fields.takes_reordered L fuel h.reorder (level + 1) levels hWell hHolds
      (haveRealFree_iff.mp hFree) (depthOfMembers_le_iff.mp (Nat.le_of_succ_le_succ hDepth))
      fun m hm => (hLength.2 m hm).2
    have hRead := readMembers_written (L.gap_blank (level + 1))
      (L.closing_blank level (fields.encode ys).isEmpty) hTakes hLength.1
      (fun m hm => (hLength.2 m hm).1) rest
    rw [Shape.encode, written_object, Shape.read_record, hRead]
    show atRest rest (fields.collect (fields.filledWith xs)) = _
    rw [fields.collect_filledWith xs]
    rfl

/-- The members of a record are taken field by field, each in the order that it is written in. -/
theorem Fields.takes_reordered (L : Layout) (fuel : Nat) : ∀ (fields : Fields)
    {xs ys : fields.Values}, fields.Reorder xs ys → ∀ level levels : Nat,
      fields.areWellFormed = true → fields.Hold xs →
      (∀ m ∈ fields.encode ys, m.2.isRealFree = true) →
      (∀ m ∈ fields.encode ys, m.2.depth ≤ levels) →
      (∀ m ∈ fields.encode ys, (written L level m.2).length < fuel) →
        TakesMembers (fields.readMember fuel levels) L.space (written L level) fields.emptySlots
          (fields.encode ys) (fields.filledWith xs)
  | .nil, _, _, .nil, _, _, _, _, _, _, _ => .nil _
  | .cons name .required shape rest, (x, xs), (y, ys), .required first more, level, levels, hWell,
      hHolds, hFree, hDepth, hFuel => by
    obtain ⟨⟨hShape, hNew⟩, hRest⟩ := Fields.wellFormed_cons hWell
    have hOther := Fields.ne_of_mem_encode hNew ys
    rw [Fields.encode] at hFree hDepth hFuel ⊢
    rw [Fields.filledWith, first.isAbsent_eq]
    split at hFree
    · next hAbsent =>
      rw [if_pos hAbsent] at hDepth hFuel
      rw [if_pos hAbsent, if_pos hAbsent]
      exact Fields.takes_skip none hOther
        (rest.takes_reordered L fuel more level levels hRest hHolds.2 hFree hDepth hFuel)
    · next hPresent =>
      rw [if_neg hPresent] at hDepth hFuel
      rw [if_neg hPresent, if_neg hPresent]
      rw [List.forall_mem_cons] at hFree hDepth hFuel
      exact Fields.takes_cons hOther
        (fun behind hBehind => shape.read_reordered L fuel first level levels behind hShape
          hHolds.1 hFree.1 hDepth.1 hFuel.1 hBehind)
        (rest.takes_reordered L fuel more level levels hRest hHolds.2 hFree.2 hDepth.2 hFuel.2)
  | .cons name .optional shape rest, (some x, xs), (some y, ys), .present first more, level,
      levels, hWell, hHolds, hFree, hDepth, hFuel => by
    obtain ⟨⟨hShape, hNew⟩, hRest⟩ := Fields.wellFormed_cons hWell
    have hOther := Fields.ne_of_mem_encode hNew ys
    have hPresent : ¬ shape.isAbsent y = true := by
      rw [← first.isAbsent_eq, hHolds.1]
      exact Bool.noConfusion
    rw [Fields.encode, if_neg hPresent] at hFree hDepth hFuel
    rw [Fields.encode, if_neg hPresent]
    rw [List.forall_mem_cons] at hFree hDepth hFuel
    exact Fields.takes_cons hOther
      (fun behind hBehind => shape.read_reordered L fuel first level levels behind hShape
        hHolds.2.1 hFree.1 hDepth.1 hFuel.1 hBehind)
      (rest.takes_reordered L fuel more level levels hRest hHolds.2.2 hFree.2 hDepth.2 hFuel.2)
  | .cons name .optional shape rest, (none, xs), (none, ys), .absent more, level, levels, hWell,
      hHolds, hFree, hDepth, hFuel => by
    obtain ⟨⟨-, hNew⟩, hRest⟩ := Fields.wellFormed_cons hWell
    exact Fields.takes_skip none (Fields.ne_of_mem_encode hNew ys)
      (rest.takes_reordered L fuel more level levels hRest hHolds hFree hDepth hFuel)

end

/-- **Data are read back from their own written form.** -/
theorem Shape.read_written (L : Layout) (fuel : Nat) (shape : Shape) (x : shape.Value)
    (level levels : Nat) (rest : List Char) (hWell : shape.isWellFormed = true)
    (hHolds : shape.Holds x) (hFree : (shape.encode x).isRealFree = true)
    (hDepth : (shape.encode x).depth ≤ levels)
    (hFuel : (written L level (shape.encode x)).length < fuel) (hRest : NoNumber rest) :
    shape.read fuel levels (written L level (shape.encode x) ++ rest) = .ok (x, rest) :=
  shape.read_reordered L fuel (.same shape x) level levels rest hWell hHolds hFree hDepth hFuel
    hRest

/-- **A text that holds the written form of reordered data and blanks is read as the data.** -/
theorem Shape.parse_reordered (L : Layout) (level : Nat) {shape : Shape} {x y : shape.Value}
    (h : shape.Reorders x y) (hWell : shape.isWellFormed = true) (hHolds : shape.Holds x)
    (hFree : (shape.encode y).isRealFree = true) (hDepth : (shape.encode y).depth ≤ nestingLimit)
    {text : String} {blanks : List Char}
    (hText : text.toList = written L level (shape.encode y) ++ blanks)
    (hBlanks : ∀ c ∈ blanks, isBlank c = true) : shape.parse text = .ok x := by
  have hEnd : NoNumber blanks := by
    have := noNumber_blanks hBlanks noNumber_nil
    rwa [List.append_nil] at this
  have hFuel : (written L level (shape.encode y)).length < text.toList.length + 1 := by
    rw [hText, List.length_append]
    omega
  refine readText_eq hBlanks ?_
  have hRead := shape.read_reordered L (text.toList.length + 1) h level nestingLimit blanks hWell
    hHolds hFree hDepth hFuel hEnd
  rwa [← hText] at hRead

/-- So is one that holds their own written form. -/
theorem Shape.parse_written (L : Layout) (level : Nat) {shape : Shape} {x : shape.Value}
    (hWell : shape.isWellFormed = true) (hHolds : shape.Holds x)
    (hFree : (shape.encode x).isRealFree = true) (hDepth : (shape.encode x).depth ≤ nestingLimit)
    {text : String} {blanks : List Char}
    (hText : text.toList = written L level (shape.encode x) ++ blanks)
    (hBlanks : ∀ c ∈ blanks, isBlank c = true) : shape.parse text = .ok x :=
  Shape.parse_reordered L level (.same shape x) hWell hHolds hFree hDepth hText hBlanks

end Galley.Json
