import Galley.Proofs.Json.Layout

/-!
# Written values, read back

A valid value without reals is read back from its written form in any layout, with any text behind
it that does not go on with a number. The reader works item by item and member by member, so the
argument does too: `readItems_written` and `readMembers_written` are about lists and objects whose
parts are read by any step, and are used for values here and for shapes elsewhere.

The fuel of a reading bounds the length of the text, so it bounds each part of it.

Main results:

* `readItems_written`, `readMembers_written` — lists and objects are read part by part.
* `readValue_written` — a value is read back, in every layout.
-/

namespace Galley.Json

-- ---------------------------------------------------------------------------
-- Blanks
-- ---------------------------------------------------------------------------

theorem skipBlank_append {gap : List Char} (hGap : ∀ c ∈ gap, isBlank c = true)
    (cs : List Char) : skipBlank (gap ++ cs) = skipBlank cs := by
  rw [skipBlank, List.dropWhile_append_of_pos hGap]
  rfl

/-- Nothing is skipped if no blank is in front. -/
theorem skipBlank_cons {c : Char} (hc : isBlank c = false) (cs : List Char) :
    skipBlank (c :: cs) = c :: cs := by
  simp [skipBlank, hc]

/-- A text that an item can start with: no blank, and no bracket that ends the list. -/
def Opens (text : List Char) : Prop :=
  ∃ c cs, text = c :: cs ∧ isBlank c = false ∧ c ≠ ']'

/-- Nothing is skipped before an item. -/
theorem Opens.skipBlank {text : List Char} (h : Opens text) (rest : List Char) :
    skipBlank (text ++ rest) = text ++ rest := by
  obtain ⟨c, cs, rfl, hc, -⟩ := h
  exact skipBlank_cons hc _

/-- A blank does not go on with a number. -/
theorem noNumber_blanks {gap : List Char} (hGap : ∀ c ∈ gap, isBlank c = true) {rest : List Char}
    (hRest : NoNumber rest) : NoNumber (gap ++ rest) := by
  cases gap with
  | nil => exact hRest
  | cons c gap =>
    have hc := hGap c List.mem_cons_self
    simp only [isBlank, Bool.or_eq_true, beq_iff_eq] at hc
    refine noNumber_cons _ ?_
    obtain ((rfl | rfl) | rfl) | rfl := hc
    all_goals decide

-- ---------------------------------------------------------------------------
-- Parts after the first one
-- ---------------------------------------------------------------------------

section Later

variable {α : Type} {text : α → List Char} {gap closing : List Char}

/-- The written forms of parts, each after a comma and its gap. -/
def later (gap : List Char) (text : α → List Char) (xs : List α) : List Char :=
  xs.flatMap fun x => ',' :: (gap ++ text x)

/-- Behind the first item each one has a comma and a gap in front of it. -/
theorem later_cons (x : α) (xs : List α) :
    later gap text (x :: xs) = ',' :: (gap ++ (text x ++ later gap text xs)) := by
  simp [later]

theorem parted_map_cons (x : α) (xs : List α) :
    parted ((x :: xs).map fun x => gap ++ text x) = gap ++ (text x ++ later gap text xs) := by
  rw [List.map_cons, parted, List.flatMap_map, List.append_assoc]
  rfl

/-- Neither a comma nor the end of a list or an object goes on with a number. -/
theorem noNumber_later (hClosing : ∀ c ∈ closing, isBlank c = true) (xs : List α)
    {behind : List Char} (hBehind : NoNumber behind) :
    NoNumber (later gap text xs ++ (closing ++ behind)) := by
  cases xs with
  | nil => exact noNumber_blanks hClosing hBehind
  | cons y ys => exact noNumber_cons _ (by decide)

end Later

-- ---------------------------------------------------------------------------
-- Lists
-- ---------------------------------------------------------------------------

section Items

variable {α : Type} {item : Reader α} {text : α → List Char} {gap closing : List Char}

/-- The first item is found behind the gap. -/
theorem nextItem_first (hGap : ∀ c ∈ gap, isBlank c = true) {cs : List Char} (hOpens : Opens cs)
    (rest : List Char) : nextItem true (gap ++ (cs ++ rest)) = .ok (true, cs ++ rest) := by
  rw [nextItem, skipBlank_append hGap, hOpens.skipBlank]
  obtain ⟨c, cs, rfl, -, hc⟩ := hOpens
  rw [List.cons_append]
  split
  · next h => cases h
  · next h => exact absurd (List.cons.inj h).1 hc
  · next h => rw [if_pos rfl, h]

theorem nextItem_comma (cs : List Char) :
    nextItem false (',' :: cs) = match skipBlank cs with
      | [] => .error (.here .endInValue [])
      | ']' :: rest => .error (.peeked .trailingComma (']' :: rest))
      | rest => .ok (true, rest) := by
  rfl

theorem nextItem_later (hGap : ∀ c ∈ gap, isBlank c = true) {cs : List Char} (hOpens : Opens cs)
    (rest : List Char) :
    nextItem false (',' :: (gap ++ (cs ++ rest))) = .ok (true, cs ++ rest) := by
  rw [nextItem_comma, skipBlank_append hGap, hOpens.skipBlank]
  obtain ⟨c, cs, rfl, -, hc⟩ := hOpens
  rw [List.cons_append]
  split
  · next h => cases h
  · next h => exact absurd (List.cons.inj h).1 hc
  · rfl

/-- A bracket is found behind the last item. -/
theorem nextItem_end (hClosing : ∀ c ∈ closing, isBlank c = true) (first : Bool)
    (rest : List Char) :
    nextItem first (closing ++ ']' :: rest) = .ok (false, ']' :: rest) := by
  rw [nextItem, skipBlank_append hClosing, skipBlank_cons (by decide)]
  rfl

/-- Items after the first one are read, each from its comma on. -/
theorem readItems_later (hGap : ∀ c ∈ gap, isBlank c = true)
    (hClosing : ∀ c ∈ closing, isBlank c = true) (xs : List α)
    (hOpens : ∀ x ∈ xs, Opens (text x))
    (hItem : ∀ x ∈ xs, ∀ rest, NoNumber rest → item (text x ++ rest) = .ok (x, rest))
    (rest : List Char) :
    ∀ fuel position : Nat, xs.length < fuel →
      readItems item fuel (position + 1) (later gap text xs ++ (closing ++ ']' :: rest)) =
        .ok (xs, rest) := by
  induction xs with
  | nil =>
    intro fuel position hFuel
    obtain ⟨fuel, rfl⟩ := Nat.exists_eq_succ_of_ne_zero (Nat.ne_of_gt hFuel)
    rw [readItems, show (position + 1 == 0) = false from rfl, show later gap text [] = [] from rfl,
      List.nil_append, nextItem_end hClosing]
    rfl
  | cons x xs ih =>
    intro fuel position hFuel
    rw [List.length_cons] at hFuel
    obtain ⟨fuel, rfl⟩ := Nat.exists_eq_succ_of_ne_zero (Nat.ne_zero_of_lt hFuel)
    have hRest : NoNumber (later gap text xs ++ (closing ++ ']' :: rest)) :=
      noNumber_later hClosing xs (noNumber_cons _ (by decide))
    have hTail := ih (fun y hy => hOpens y (List.mem_cons_of_mem _ hy))
      (fun y hy => hItem y (List.mem_cons_of_mem _ hy)) fuel (position + 1) (by omega)
    rw [readItems, show (position + 1 == 0) = false from rfl, later_cons]
    simp only [List.cons_append, List.append_assoc]
    rw [nextItem_later hGap (hOpens x List.mem_cons_self)]
    simp only [hItem x List.mem_cons_self _ hRest]
    rw [hTail]
    rfl

/-- **A written list is read item by item.** -/
theorem readItems_written (text : α → List Char) (hGap : ∀ c ∈ gap, isBlank c = true)
    (hClosing : ∀ c ∈ closing, isBlank c = true) (xs : List α)
    (hOpens : ∀ x ∈ xs, Opens (text x))
    (hItem : ∀ x ∈ xs, ∀ rest, NoNumber rest → item (text x ++ rest) = .ok (x, rest))
    {fuel : Nat} (hFuel : xs.length < fuel) (rest : List Char) :
    readItems item fuel 0 (parted (xs.map fun x => gap ++ text x) ++ (closing ++ ']' :: rest)) =
      .ok (xs, rest) := by
  obtain ⟨fuel, rfl⟩ := Nat.exists_eq_succ_of_ne_zero (Nat.ne_zero_of_lt hFuel)
  cases xs with
  | nil =>
    rw [readItems, List.map_nil, parted, List.nil_append, nextItem_end hClosing]
    rfl
  | cons x xs =>
    rw [List.length_cons] at hFuel
    have hRest : NoNumber (later gap text xs ++ (closing ++ ']' :: rest)) :=
      noNumber_later hClosing xs (noNumber_cons _ (by decide))
    have hTail := readItems_later hGap hClosing xs
      (fun y hy => hOpens y (List.mem_cons_of_mem _ hy))
      (fun y hy => hItem y (List.mem_cons_of_mem _ hy)) rest fuel 0 (by omega)
    rw [readItems, parted_map_cons, List.append_assoc, List.append_assoc,
      show (0 == 0) = true from rfl, nextItem_first hGap (hOpens x List.mem_cons_self)]
    simp only [hItem x List.mem_cons_self _ hRest]
    rw [hTail]
    rfl

end Items

-- ---------------------------------------------------------------------------
-- Objects
-- ---------------------------------------------------------------------------

section Members

variable {σ β : Type} {member : String → σ → Reader σ} {space gap closing : List Char}
  {text : β → List Char}

/-- A step takes members one after another, each from its colon on. -/
inductive TakesMembers (member : String → σ → Reader σ) (space : List Char)
    (text : β → List Char) : σ → List (String × β) → σ → Prop
  | nil (state : σ) : TakesMembers member space text state [] state
  | cons {state next final : σ} {name : String} {value : β} {rest : List (String × β)}
      (take : ∀ behind, NoNumber behind →
        member name state (':' :: (space ++ (text value ++ behind))) = .ok (next, behind))
      (more : TakesMembers member space text next rest final) :
      TakesMembers member space text state ((name, value) :: rest) final

/-- The written form of a member, without its gap. -/
def memberText (space : List Char) (text : β → List Char) (m : String × β) : List Char :=
  printString m.1 ++ ':' :: (space ++ text m.2)

theorem nextName_first (hGap : ∀ c ∈ gap, isBlank c = true) {fuel : Nat} {name : String}
    (hFuel : (printString name).length ≤ fuel) (rest : List Char) :
    nextName fuel true (gap ++ (printString name ++ rest)) = .ok (some name, rest) := by
  have hQuote : printString name ++ rest = '"' :: ((printString name).tail ++ rest) := rfl
  rw [hQuote, nextName, skipBlank_append hGap, skipBlank_cons (by decide)]
  show (readString fuel ((printString name).tail ++ rest) >>= _) = _
  rw [readString_printString name fuel rest hFuel]
  rfl

theorem nextName_comma (fuel : Nat) {cs rest : List Char} (h : skipBlank cs = '"' :: rest) :
    nextName fuel false (',' :: cs) =
      (readString fuel rest).bind fun (name, rest) => .ok (some name, rest) := by
  have hComma : skipBlank (',' :: cs) = ',' :: cs := rfl
  rw [nextName, hComma]
  split
  · next hEnd => cases hEnd
  · next hEnd => cases hEnd
  · next c tail _ hSame =>
    obtain ⟨rfl, rfl⟩ := List.cons.inj hSame
    simp only [Bool.false_eq_true, if_false, if_true, h]
    rfl

theorem nextName_later (hGap : ∀ c ∈ gap, isBlank c = true) {fuel : Nat} {name : String}
    (hFuel : (printString name).length ≤ fuel) (rest : List Char) :
    nextName fuel false (',' :: (gap ++ (printString name ++ rest))) = .ok (some name, rest) := by
  have hSkip : skipBlank (gap ++ (printString name ++ rest)) =
      '"' :: ((printString name).tail ++ rest) := by
    rw [skipBlank_append hGap]
    exact skipBlank_cons (by decide) _
  rw [nextName_comma fuel hSkip, readString_printString name fuel rest hFuel]
  rfl

theorem nextName_end (hClosing : ∀ c ∈ closing, isBlank c = true) (fuel : Nat) (first : Bool)
    (rest : List Char) :
    nextName fuel first (closing ++ '}' :: rest) = .ok (none, '}' :: rest) := by
  rw [nextName, skipBlank_append hClosing, skipBlank_cons (by decide)]
  rfl

/-- Members after the first one are taken, each from its comma on. -/
theorem readMembers_later (hGap : ∀ c ∈ gap, isBlank c = true)
    (hClosing : ∀ c ∈ closing, isBlank c = true) {state final : σ} {ms : List (String × β)}
    (hTakes : TakesMembers member space text state ms final) (rest : List Char) :
    ∀ fuel : Nat, ms.length < fuel →
      (∀ m ∈ ms, (printString m.1).length + ms.length ≤ fuel) →
      readMembers member fuel false state
          (later gap (memberText space text) ms ++ (closing ++ '}' :: rest)) =
        .ok (final, rest) := by
  -- on the members as they are taken, so the state is the one that the member before has left
  induction hTakes with
  | nil state =>
    intro fuel hFuel _
    obtain ⟨fuel, rfl⟩ := Nat.exists_eq_succ_of_ne_zero (Nat.ne_of_gt hFuel)
    rw [readMembers, show later gap (memberText space text) [] = [] from rfl, List.nil_append,
      nextName_end hClosing]
    rfl
  | @cons state next final name value ms take more ih =>
    intro fuel hFuel hNames
    rw [List.length_cons] at hFuel hNames
    obtain ⟨fuel, rfl⟩ := Nat.exists_eq_succ_of_ne_zero (Nat.ne_zero_of_lt hFuel)
    have hRest : NoNumber (later gap (memberText space text) ms ++ (closing ++ '}' :: rest)) :=
      noNumber_later hClosing ms (noNumber_cons _ (by decide))
    have hName : (printString name).length + (ms.length + 1) ≤ fuel + 1 :=
      hNames (name, value) List.mem_cons_self
    have hTail := ih fuel (by omega) fun m hm => by
      have := hNames m (List.mem_cons_of_mem _ hm)
      omega
    rw [readMembers, later_cons, memberText]
    simp only [List.cons_append, List.append_assoc]
    rw [nextName_later hGap (by omega)]
    simp only [take _ hRest]
    exact hTail

/-- **A written object is read member by member.** -/
theorem readMembers_written (hGap : ∀ c ∈ gap, isBlank c = true)
    (hClosing : ∀ c ∈ closing, isBlank c = true) {state final : σ} {ms : List (String × β)}
    (hTakes : TakesMembers member space text state ms final) {fuel : Nat}
    (hFuel : ms.length < fuel) (hNames : ∀ m ∈ ms, (printString m.1).length + ms.length ≤ fuel)
    (rest : List Char) :
    readMembers member fuel true state
        (parted (ms.map fun m => gap ++ memberText space text m) ++ (closing ++ '}' :: rest)) =
      .ok (final, rest) := by
  obtain ⟨fuel, rfl⟩ := Nat.exists_eq_succ_of_ne_zero (Nat.ne_zero_of_lt hFuel)
  cases hTakes with
  | nil =>
    rw [readMembers, List.map_nil, parted, List.nil_append, nextName_end hClosing]
    rfl
  | @cons _ next _ name value ms take more =>
    rw [List.length_cons] at hFuel hNames
    have hRest : NoNumber (later gap (memberText space text) ms ++ (closing ++ '}' :: rest)) :=
      noNumber_later hClosing ms (noNumber_cons _ (by decide))
    have hName : (printString name).length + (ms.length + 1) ≤ fuel + 1 :=
      hNames (name, value) List.mem_cons_self
    have hTail := readMembers_later hGap hClosing more rest fuel (by omega) fun m hm => by
      have := hNames m (List.mem_cons_of_mem _ hm)
      omega
    rw [readMembers, parted_map_cons, memberText]
    simp only [List.cons_append, List.append_assoc]
    rw [nextName_first hGap (by omega)]
    simp only [take _ hRest]
    exact hTail

end Members

-- ---------------------------------------------------------------------------
-- Lengths
-- ---------------------------------------------------------------------------

/-- Texts with a comma each are at least as many characters as texts. -/
theorem length_le_flatMap_comma (texts : List (List Char)) :
    texts.length ≤ (texts.flatMap fun text => ',' :: text).length := by
  induction texts with
  | nil => exact Nat.le_refl _
  | cons text texts ih =>
    rw [List.flatMap_cons, List.length_append, List.length_cons, List.length_cons]
    omega

theorem length_mem_le_flatMap_comma {text : List Char} {texts : List (List Char)}
    (h : text ∈ texts) :
    text.length + texts.length ≤ (texts.flatMap fun text => ',' :: text).length := by
  induction texts with
  | nil => cases h
  | cons first texts ih =>
    have hCount := length_le_flatMap_comma texts
    rw [List.flatMap_cons, List.length_append, List.length_cons, List.length_cons]
    rcases List.mem_cons.mp h with rfl | h
    · omega
    · have := ih h
      omega

/-- Each of some texts parted by commas is shorter than all of them together by at least the number
of the commas. -/
theorem length_mem_le_parted {text : List Char} {texts : List (List Char)} (h : text ∈ texts) :
    text.length + texts.length ≤ (parted texts).length + 1 := by
  cases texts with
  | nil => cases h
  | cons first texts =>
    have := length_mem_le_flatMap_comma h
    rw [List.flatMap_cons, List.length_append, List.length_cons] at this
    rw [parted, List.length_append]
    rw [List.length_cons] at this ⊢
    omega

/-- Texts with commas between them are hardly fewer characters than texts. -/
theorem length_le_parted (texts : List (List Char)) : texts.length ≤ (parted texts).length + 1 := by
  cases texts with
  | nil => exact Nat.zero_le _
  | cons text texts =>
    have := length_mem_le_parted (List.mem_cons_self : text ∈ text :: texts)
    omega

theorem writtenItems_eq_map (L : Layout) (level : Nat) (items : List Json) :
    writtenItems L level items = items.map fun j => L.gap level ++ written L level j := by
  induction items with
  | nil => rfl
  | cons item items ih => rw [writtenItems, ih, List.map_cons]

theorem writtenMembers_eq_map (L : Layout) (level : Nat) (members : List (String × Json)) :
    writtenMembers L level members =
      members.map fun m => L.gap level ++ memberText L.space (written L level) m := by
  induction members with
  | nil => rfl
  | cons m members ih => rw [writtenMembers, ih, List.map_cons, memberText]

/-- What the text of a list has room for. -/
theorem length_of_items {L : Layout} {level : Nat} {items : List Json} {fuel : Nat}
    (h : (written L level (.array items)).length ≤ fuel) :
    items.length < fuel ∧ ∀ item ∈ items, (written L (level + 1) item).length < fuel := by
  rw [written, writtenItems_eq_map] at h
  have hCount := length_le_parted
    (items.map fun j => L.gap (level + 1) ++ written L (level + 1) j)
  simp only [List.length_append, List.length_cons, List.length_map] at h hCount
  refine ⟨by omega, fun item hItem => ?_⟩
  have hText := length_mem_le_parted
    (List.mem_map_of_mem (f := fun j => L.gap (level + 1) ++ written L (level + 1) j) hItem)
  simp only [List.length_append, List.length_map] at hText
  omega

/-- What the text of an object has room for. -/
theorem length_of_members {L : Layout} {level : Nat} {members : List (String × Json)} {fuel : Nat}
    (h : (written L level (.object members)).length ≤ fuel) :
    members.length < fuel ∧ ∀ m ∈ members,
      (printString m.1).length + members.length ≤ fuel ∧
        (written L (level + 1) m.2).length < fuel := by
  rw [written, writtenMembers_eq_map] at h
  have hCount := length_le_parted
    (members.map fun m => L.gap (level + 1) ++ memberText L.space (written L (level + 1)) m)
  simp only [memberText, List.length_append, List.length_cons, List.length_map] at h hCount
  refine ⟨by omega, fun m hm => ?_⟩
  have hText := length_mem_le_parted (List.mem_map_of_mem
    (f := fun m => L.gap (level + 1) ++ memberText L.space (written L (level + 1)) m) hm)
  simp only [memberText, List.length_append, List.length_cons, List.length_map] at hText
  omega

-- ---------------------------------------------------------------------------
-- Values
-- ---------------------------------------------------------------------------

/-- Blanks before a value are passed over. -/
theorem readValue_blanks {gap : List Char} (hGap : ∀ c ∈ gap, isBlank c = true) (fuel levels : Nat)
    (cs : List Char) : readValue fuel levels (gap ++ cs) = readValue fuel levels cs := by
  rw [readValue.eq_def, readValue.eq_def fuel levels cs]
  simp only [skipBlank_append hGap]

/-- A value that opens no level is read in one go. -/
theorem readValue_scalar {c : Char} (hBlank : isBlank c = false) (hList : c ≠ '[')
    (hObject : c ≠ '{') (fuel levels : Nat) (rest : List Char) :
    readValue fuel levels (c :: rest) = readScalar fuel c rest := by
  rw [readValue.eq_def]
  simp only [skipBlank_cons hBlank, if_neg hList, if_neg hObject]

/-- The step that takes a member of an object. -/
def insertRead {α : Type} (value : Reader α) (name : String) (held : List (String × α)) :
    Reader (List (String × α)) := fun cs => do
  let (x, cs) ← underName name value cs
  return (insertMember name x held, cs)

/-- A list is read item by item, with a level less. -/
theorem readValue_list (fuel levels : Nat) (rest : List Char) :
    readValue fuel (levels + 1) ('[' :: rest) =
      (readItems (readValue fuel levels) fuel 0 rest).map fun (items, rest) =>
        (.array items, rest) := by
  have hSkip : skipBlank ('[' :: rest) = '[' :: rest := skipBlank_cons (by decide) rest
  rw [readValue.eq_def]
  simp only [hSkip, if_true]
  cases readItems (readValue fuel levels) fuel 0 rest <;> rfl

theorem readValue_object (fuel levels : Nat) (rest : List Char) :
    readValue fuel (levels + 1) ('{' :: rest) =
      (readMembers (insertRead (readValue fuel levels)) fuel true [] rest).map
        fun (members, rest) => (.object members, rest) := by
  have hSkip : skipBlank ('{' :: rest) = '{' :: rest := skipBlank_cons (by decide) rest
  rw [readValue.eq_def]
  simp only [hSkip, if_true, if_neg (by decide : ('{' : Char) ≠ '[')]
  show (readMembers (insertRead (readValue fuel levels)) fuel true [] rest >>= _) = _
  cases readMembers (insertRead (readValue fuel levels)) fuel true [] rest <;> rfl

/-- A value behind a name and a colon is read under the name. -/
theorem underName_colon {α : Type} {value : Reader α} (name : String) {cs rest : List Char} {x : α}
    (h : value cs = .ok (x, rest)) : underName name value (':' :: cs) = .ok (x, rest) := by
  have hBoth : (readColon (':' :: cs) >>= value) = .ok (x, rest) := h
  rw [underName, hBoth]

/-- The characters that a written scalar can start with. -/
def startsScalar (c : Char) : Bool :=
  c == 'n' || c == 't' || c == 'f' || c == '"' || c == '-' || c.isDigit

/-- A scalar starts neither with a blank nor with a bracket. -/
theorem startsScalar_ne {c d : Char} (hc : startsScalar c = true) (hd : startsScalar d = false) :
    c ≠ d := by
  rintro rfl
  exact Bool.noConfusion (hc.symm.trans hd)

/-- No value starts with a blank. -/
theorem not_blank_of_startsScalar {c : Char} (hc : startsScalar c = true) : isBlank c = false := by
  simp only [isBlank, Bool.or_eq_false_iff, beq_eq_false_iff_ne]
  exact ⟨⟨⟨startsScalar_ne hc (by decide), startsScalar_ne hc (by decide)⟩,
    startsScalar_ne hc (by decide)⟩, startsScalar_ne hc (by decide)⟩

/-- A written scalar is read back from its first character on. -/
theorem readScalar_written (L : Layout) (level : Nat) {j : Json} (hValid : j.isValid = true)
    (hFree : j.isRealFree = true) (hScalar : j.depth = 0) {fuel : Nat}
    (hFuel : (written L level j).length < fuel) :
    ∃ c cs, written L level j = c :: cs ∧ startsScalar c = true ∧
      ∀ rest, NoNumber rest → readScalar fuel c (cs ++ rest) = .ok (j, rest) := by
  cases j with
  | null => exact ⟨'n', _, rfl, rfl, fun _ _ => rfl⟩
  | bool b =>
    cases b with
    | true => exact ⟨'t', _, rfl, rfl, fun _ _ => rfl⟩
    | false => exact ⟨'f', _, rfl, rfl, fun _ _ => rfl⟩
  | number n =>
    cases n with
    | real x => exact Bool.noConfusion hFree
    | integer n =>
      obtain ⟨c, cs, hPrinted, hFirst⟩ := printInteger_eq_cons n
      refine ⟨c, cs, hPrinted, ?_, fun rest => readScalar_printInteger hValid hPrinted fuel⟩
      rcases hFirst with rfl | hDigit
      · rfl
      · rw [startsScalar, hDigit, Bool.or_true]
  | string s =>
    refine ⟨'"', (printString s).tail, rfl, rfl, fun rest _ => ?_⟩
    have hRead := readString_printString s fuel rest (Nat.le_of_lt hFuel)
    rw [readScalar, hRead]
    rfl
  | array items => exact absurd hScalar (Nat.succ_ne_zero _)
  | object members => exact absurd hScalar (Nat.succ_ne_zero _)

/-- A written value can stand in a list. -/
theorem opens_written (L : Layout) (level : Nat) {j : Json} (hFree : j.isRealFree = true) :
    Opens (written L level j) := by
  cases j with
  | null => exact ⟨_, _, rfl, rfl, by decide⟩
  | bool b => cases b <;> exact ⟨_, _, rfl, rfl, by decide⟩
  | number n =>
    cases n with
    | real x => exact Bool.noConfusion hFree
    | integer n =>
      obtain ⟨c, cs, hPrinted, hFirst⟩ := printInteger_eq_cons n
      have hStart : startsScalar c = true := by
        rcases hFirst with rfl | hDigit
        · rfl
        · rw [startsScalar, hDigit, Bool.or_true]
      exact ⟨c, cs, hPrinted, not_blank_of_startsScalar hStart,
        startsScalar_ne hStart (by decide)⟩
  | string s => exact ⟨_, _, rfl, rfl, by decide⟩
  | array items => exact ⟨_, _, rfl, rfl, by decide⟩
  | object members => exact ⟨_, _, rfl, rfl, by decide⟩

/-- Members are taken one after another. -/
theorem takesMembers_insertAll {α : Type} {L : Layout} {value : Reader α} (text : α → List Char)
    (hBlanks : ∀ cs, value (L.space ++ cs) = value cs) :
    ∀ held members : List (String × α),
      (∀ m ∈ members, ∀ rest, NoNumber rest → value (text m.2 ++ rest) = .ok (m.2, rest)) →
      TakesMembers (insertRead value) L.space text held members (insertAll held members)
  | held, [], _ => .nil held
  | held, (name, x) :: members, hValue => by
    have hMore := takesMembers_insertAll text hBlanks (insertMember name x held) members
      fun m hm => hValue m (List.mem_cons_of_mem _ hm)
    refine .cons (fun behind hBehind => ?_) hMore
    have hRead := underName_colon name
      ((hBlanks _).trans (hValue _ List.mem_cons_self behind hBehind))
    rw [insertRead, hRead]
    rfl

/-- The written form of a list, as the reader of lists takes it. -/
theorem written_array (L : Layout) (level : Nat) (items : List Json) (rest : List Char) :
    written L level (.array items) ++ rest =
      '[' :: (parted (items.map fun j => L.gap (level + 1) ++ written L (level + 1) j)
        ++ (L.closing level items.isEmpty ++ ']' :: rest)) := by
  rw [written, writtenItems_eq_map]
  simp only [List.cons_append, List.append_assoc, List.nil_append]

/-- The written form of an object, as the reader of objects takes it. -/
theorem written_object (L : Layout) (level : Nat) (members : List (String × Json))
    (rest : List Char) :
    written L level (.object members) ++ rest =
      '{' :: (parted (members.map fun m =>
          L.gap (level + 1) ++ memberText L.space (written L (level + 1)) m)
        ++ (L.closing level members.isEmpty ++ '}' :: rest)) := by
  rw [written, writtenMembers_eq_map]
  simp only [List.cons_append, List.append_assoc, List.nil_append]

/-- **A written value is read back**, in every layout and with any text behind it that does not go
on with a number. -/
theorem readValue_written (L : Layout) (fuel : Nat) {j : Json} (hValid : j.isValid = true)
    (hFree : j.isRealFree = true) {level levels : Nat} (hDepth : j.depth ≤ levels)
    (hFuel : (written L level j).length < fuel) {rest : List Char} (hRest : NoNumber rest) :
    readValue fuel levels (written L level j ++ rest) = .ok (j, rest) := by
  induction j using inductionOn generalizing level levels rest with
  | scalar j hScalar =>
    obtain ⟨c, cs, hText, hStart, hRead⟩ := readScalar_written L level hValid hFree hScalar hFuel
    rw [hText, List.cons_append, readValue_scalar (not_blank_of_startsScalar hStart)
      (startsScalar_ne hStart (by decide)) (startsScalar_ne hStart (by decide)), hRead rest hRest]
  | array items ih =>
    obtain ⟨levels, rfl⟩ := Nat.exists_eq_succ_of_ne_zero (Nat.ne_zero_of_lt hDepth)
    have hLength := length_of_items (Nat.le_of_lt hFuel)
    have hFrees := areRealFree_iff.mp hFree
    have hDepths := depthOfItems_le_iff.mp (Nat.le_of_succ_le_succ hDepth)
    have hOpens : ∀ j ∈ items, Opens (written L (level + 1) j) := fun j hj =>
      opens_written L (level + 1) (hFrees j hj)
    have hItems : ∀ j ∈ items, ∀ rest, NoNumber rest →
        readValue fuel levels (written L (level + 1) j ++ rest) = .ok (j, rest) :=
      fun j hj _ hRest => ih j hj (areValid_iff.mp hValid j hj) (hFrees j hj) (hDepths j hj)
        (hLength.2 j hj) hRest
    have hRead := readItems_written (written L (level + 1)) (L.gap_blank (level + 1))
      (L.closing_blank level items.isEmpty) items hOpens hItems hLength.1 rest
    rw [written_array, readValue_list, hRead]
    rfl
  | object members ih =>
    obtain ⟨levels, rfl⟩ := Nat.exists_eq_succ_of_ne_zero (Nat.ne_zero_of_lt hDepth)
    have hLength := length_of_members (Nat.le_of_lt hFuel)
    rw [isValid, Bool.and_eq_true, decide_eq_true_eq] at hValid
    have hFrees := haveRealFree_iff.mp hFree
    have hDepths := depthOfMembers_le_iff.mp (Nat.le_of_succ_le_succ hDepth)
    have hMembers : ∀ m ∈ members, ∀ rest, NoNumber rest →
        readValue fuel levels (written L (level + 1) m.2 ++ rest) = .ok (m.2, rest) :=
      fun m hm _ hRest => ih m hm (haveValid_iff.mp hValid.2 m hm) (hFrees m hm) (hDepths m hm)
        (hLength.2 m hm).2 hRest
    have hTakes := takesMembers_insertAll (L := L) (written L (level + 1))
      (readValue_blanks L.space_blank fuel levels) [] members hMembers
    rw [insertAll_of_perm hValid.1 (.refl _)] at hTakes
    have hRead := readMembers_written (L.gap_blank (level + 1))
      (L.closing_blank level members.isEmpty) hTakes hLength.1
      (fun m hm => (hLength.2 m hm).1) rest
    rw [written_object, readValue_object, hRead]
    rfl

-- ---------------------------------------------------------------------------
-- Whole texts
-- ---------------------------------------------------------------------------

/-- A reading of a value that leaves nothing but blanks is the reading of the text. -/
theorem readText_eq {α : Type} {value : Nat → Reader α} {text blanks : List Char} {x : α}
    (hBlanks : ∀ c ∈ blanks, isBlank c = true)
    (hRead : value (text.length + 1) text = .ok (x, blanks)) : readText value text = .ok x := by
  have hSkip : skipBlank blanks = [] := by
    have := skipBlank_append hBlanks []
    rwa [List.append_nil] at this
  rw [readText, hRead]
  show (readEnd blanks >>= _) = _
  rw [readEnd, hSkip]
  rfl

end Galley.Json
