import Galley.Proofs.Text.Digits
import Galley.Render.Placeholder
import Mathlib.Data.List.Induction
import Mathlib.Data.List.Nodup

/-!
# Where placeholders stand

A placeholder is told from the text around it by its form alone (`IsWellFormed`): double braces,
blanks, a dot or none, a name, blanks, double braces. At one place of a text no more than one
placeholder can begin, since neither a blank nor a brace goes on a name, and a name starts with
neither a blank nor a dot.

`Cut` tells how a source falls apart into literal texts and placeholders, without a word on how they
are found: each placeholder is the first one in what is left of the source. There is one way to cut
a source, and it is the one that `pieces` goes, so substitution and the list of names can be told
along it.

Main results:

* `match?_eq_some_iff` — a placeholder is found where a text begins with one.
* `Cut.unique`, `exists_cut` — there is one way to cut a source.
* `Cut.pieces` — it is the way of `pieces`.
* `firstUses_foldl` — names are noted in the order of their first use.
* `substitute_along_cut` — what becomes of a source.
-/

namespace Galley.Placeholder

-- ---------------------------------------------------------------------------
-- Forms
-- ---------------------------------------------------------------------------

/-- A name starts with a letter of ASCII or an underscore. -/
def IsNameStart (c : Char) : Prop := ('A' ≤ c ∧ c ≤ 'Z') ∨ ('a' ≤ c ∧ c ≤ 'z') ∨ c = '_'

/-- A name goes on with these, digits and dots. -/
def IsNamePart (c : Char) : Prop := IsNameStart c ∨ ('0' ≤ c ∧ c ≤ '9') ∨ c = '.'

/-- The form of a placeholder. Between the double braces stand blanks, a dot if it is dotted, a
name, and blanks. -/
structure IsWellFormed (p : Placeholder) : Prop where
  before : ∀ c ∈ p.before, Text.isBlank c = true
  name : ∃ first tail, p.name = first :: tail ∧ IsNameStart first ∧ ∀ c ∈ tail, IsNamePart c
  after : ∀ c ∈ p.after, Text.isBlank c = true

/-- No placeholder stands anywhere in a text. -/
def IsPlain (text : List Char) : Prop :=
  ∀ before p after, IsWellFormed p → text ≠ before ++ p.source ++ after

/-- A placeholder behind a literal text is the first one: none begins before it. -/
structure IsFirst (literal : List Char) (p : Placeholder) (rest : List Char) : Prop where
  wellFormed : IsWellFormed p
  least : ∀ before q after, IsWellFormed q →
    literal ++ p.source ++ rest = before ++ q.source ++ after → literal.length ≤ before.length

/-- How a source falls apart: into placeholders, each with the literal text before it and the first
one in what is left of the source, and the literal text behind the last. -/
inductive Cut : List Char → List (List Char × Placeholder) → List Char → Prop
  | plain {last : List Char} (hPlain : IsPlain last) : Cut last [] last
  | hole {literal rest last : List Char} {p : Placeholder} {parts : List (List Char × Placeholder)}
      (hFirst : IsFirst literal p rest) (hRest : Cut rest parts last) :
      Cut (literal ++ p.source ++ rest) ((literal, p) :: parts) last

/-- Names in the order of their first use, none of them twice. -/
structure FirstUses (uses names : List String) : Prop where
  mem_iff : ∀ name, name ∈ names ↔ name ∈ uses
  nodup : names.Nodup
  inOrder : names.Pairwise fun a b => uses.idxOf a < uses.idxOf b

-- ---------------------------------------------------------------------------
-- Characters
-- ---------------------------------------------------------------------------

/-- The test for the first character of a name, told by the grammar. -/
theorem startsName_iff {c : Char} : startsName c = true ↔ IsNameStart c := by
  have hStarts : startsName c =
      (decide ('A' ≤ c ∧ c ≤ 'Z') || (decide ('a' ≤ c) && decide (c ≤ 'z')) || c == '_') := rfl
  rw [hStarts, Bool.or_eq_true, Bool.or_eq_true, Bool.and_eq_true, decide_eq_true_iff,
    decide_eq_true_iff, decide_eq_true_iff, beq_iff_eq, or_assoc, IsNameStart]

/-- The test for its other characters, told by the grammar. -/
theorem continuesName_iff {c : Char} : continuesName c = true ↔ IsNamePart c := by
  have hContinues : continuesName c =
      (startsName c || decide ('0' ≤ c) && decide (c ≤ '9') || c == '.') := rfl
  rw [hContinues, Bool.or_eq_true, Bool.or_eq_true, Bool.and_eq_true, decide_eq_true_iff,
    decide_eq_true_iff, beq_iff_eq, startsName_iff, or_assoc, IsNamePart]

/-- A blank goes on no name. -/
theorem continuesName_eq_false {c : Char} (h : Text.isBlank c = true) :
    continuesName c = false := by
  rw [Bool.eq_false_iff, Ne, continuesName_iff]
  intro hPart
  simp only [IsNamePart, IsNameStart, Char.le_def, UInt32.le_iff_toNat_le] at hPart
  change ((65 ≤ c.toNat ∧ c.toNat ≤ 90) ∨ (97 ≤ c.toNat ∧ c.toNat ≤ 122) ∨ c = '_') ∨
    (48 ≤ c.toNat ∧ c.toNat ≤ 57) ∨ c = '.' at hPart
  simp only [Text.isBlank, Bool.or_eq_true, Bool.and_eq_true, decide_eq_true_eq, beq_iff_eq] at h
  rcases hPart with (hUpper | hLower | rfl) | hDigit | rfl
  · omega
  · omega
  · exact absurd h (by decide)
  · omega
  · exact absurd h (by decide)

theorem continuesName_of_startsName {c : Char} (h : startsName c = true) :
    continuesName c = true := by
  rw [continuesName, h]
  rfl

theorem isBlank_eq_false {c : Char} (h : startsName c = true) : Text.isBlank c = false := by
  rw [Bool.eq_false_iff]
  intro hBlank
  have hNot := continuesName_eq_false hBlank
  rw [continuesName_of_startsName h] at hNot
  exact Bool.noConfusion hNot

theorem ne_dot_of_startsName {c : Char} (h : startsName c = true) : c ≠ '.' := by
  rintro rfl
  exact absurd h (by decide)

/-- Behind a name stand blanks and braces, so nothing goes on it. -/
theorem head_after {after : List Char} (hAfter : ∀ c ∈ after, Text.isBlank c = true)
    (rest : List Char) : ∀ c ∈ (after ++ '}' :: rest).head?, continuesName c = false := by
  intro c hc
  cases after with
  | nil =>
    obtain rfl : '}' = c := Option.some.inj hc
    decide
  | cons blank after =>
    obtain rfl : blank = c := Option.some.inj hc
    exact continuesName_eq_false (hAfter _ List.mem_cons_self)

-- ---------------------------------------------------------------------------
-- What is found at the start of a text
-- ---------------------------------------------------------------------------

theorem source_append (p : Placeholder) (rest : List Char) :
    p.source ++ rest = '{' :: '{' :: (p.before ++ ((if p.dotted then ['.'] else []) ++
      (p.name ++ (p.after ++ '}' :: '}' :: rest)))) := by
  simp [source]

/-- A name and what stands behind it are found. -/
theorem matchName_of_isWellFormed {p : Placeholder} (h : IsWellFormed p) (rest : List Char) :
    matchName p.before p.dotted (p.name ++ (p.after ++ '}' :: '}' :: rest)) = some p := by
  obtain ⟨first, tail, hName, hFirst, hTail⟩ := h.name
  have hBrace : ∀ c ∈ ('}' :: '}' :: rest).head?, Text.isBlank c = false := by
    rintro c ⟨⟩
    decide
  obtain ⟨hTakeName, hDropName⟩ := Text.span_append
    (fun c hc => continuesName_iff.mpr (hTail c hc)) (head_after h.after ('}' :: rest))
  obtain ⟨hTakeAfter, hDropAfter⟩ := Text.span_append h.after hBrace
  rw [hName, List.cons_append, matchName, if_pos (startsName_iff.mpr hFirst)]
  simp only [hTakeName, hDropName, hTakeAfter, hDropAfter]
  rw [← hName]

/-- What is found as a name and the end of a placeholder stands there. -/
theorem matchName_eq_some {before cs : List Char} {dotted : Bool} {p : Placeholder}
    (hBefore : ∀ c ∈ before, Text.isBlank c = true) (h : matchName before dotted cs = some p) :
    IsWellFormed p ∧ p.before = before ∧ p.dotted = dotted ∧
      ∃ rest, cs = p.name ++ (p.after ++ '}' :: '}' :: rest) := by
  cases cs with
  | nil => cases h
  | cons first cs =>
    rw [matchName] at h
    split at h
    · next hFirst =>
      simp only at h
      split at h
      · next rest hRest =>
        cases h
        refine ⟨⟨hBefore, ⟨first, _, rfl, startsName_iff.mp hFirst, ?_⟩, ?_⟩, rfl, rfl, rest, ?_⟩
        · exact fun c hc => continuesName_iff.mp (List.all_eq_true.mp List.all_takeWhile c hc)
        · exact List.all_eq_true.mp List.all_takeWhile
        · rw [← hRest, List.takeWhile_append_dropWhile, List.cons_append,
            List.takeWhile_append_dropWhile]
      · cases h
    · cases h

/-- **A placeholder is found at the start of a text exactly when the text starts with it.** -/
theorem match?_eq_some_iff {text : List Char} {p : Placeholder} :
    match? text = some p ↔ IsWellFormed p ∧ ∃ rest, text = p.source ++ rest := by
  constructor
  · intro h
    rw [match?.eq_def] at h
    split at h
    · next cs =>
      have hBlank : ∀ c ∈ cs.takeWhile Text.isBlank, Text.isBlank c = true :=
        List.all_eq_true.mp List.all_takeWhile
      simp only at h
      split at h
      · next named hNamed =>
        obtain ⟨hp, hBefore, hDotted, rest, rfl⟩ := matchName_eq_some hBlank h
        refine ⟨hp, rest, ?_⟩
        rw [source_append, hBefore, hDotted, if_pos rfl, List.singleton_append, ← hNamed,
          List.takeWhile_append_dropWhile]
      · obtain ⟨hp, hBefore, hDotted, rest, hNamed⟩ := matchName_eq_some hBlank h
        refine ⟨hp, rest, ?_⟩
        rw [source_append, hBefore, hDotted, if_neg Bool.false_ne_true, List.nil_append, ← hNamed,
          List.takeWhile_append_dropWhile]
    · cases h
  · rintro ⟨hp, rest, rfl⟩
    obtain ⟨first, tail, hName, hFirst, -⟩ := hp.name
    have hStarts := startsName_iff.mpr hFirst
    have hFound := matchName_of_isWellFormed hp rest
    rw [source_append, match?]
    generalize hNamed : p.name ++ (p.after ++ '}' :: '}' :: rest) = named at hFound ⊢
    cases hDotted : p.dotted with
    -- the blanks end at the dot
    | true =>
      have hDot : ∀ c ∈ ('.' :: named).head?, Text.isBlank c = false := by
        rintro c ⟨⟩
        decide
      obtain ⟨hTake, hDrop⟩ := Text.span_append hp.before hDot
      rw [if_pos rfl, List.singleton_append]
      simp only [hTake, hDrop]
      rw [← hDotted, hFound]
    -- the blanks end at the name, which does not start with a dot
    | false =>
      have hHead : ∀ c ∈ named.head?, c = first := by
        rw [← hNamed, hName]
        rintro c ⟨⟩
        rfl
      have hName : ∀ c ∈ named.head?, Text.isBlank c = false := by
        intro c hc
        rw [hHead c hc]
        exact isBlank_eq_false hStarts
      obtain ⟨hTake, hDrop⟩ := Text.span_append hp.before hName
      rw [if_neg Bool.false_ne_true, List.nil_append]
      simp only [hTake, hDrop]
      split
      · exact absurd (hHead '.' rfl).symm (ne_dot_of_startsName hStarts)
      · rw [← hDotted, hFound]

/-- **Nothing else is written the same**: a placeholder can be told from the text behind it. -/
theorem source_append_inj {p q : Placeholder} {rest rest' : List Char} (hp : IsWellFormed p)
    (hq : IsWellFormed q) (h : p.source ++ rest = q.source ++ rest') : p = q ∧ rest = rest' := by
  have hFound : match? (p.source ++ rest) = some p := match?_eq_some_iff.mpr ⟨hp, rest, rfl⟩
  rw [h, match?_eq_some_iff.mpr ⟨hq, rest', rfl⟩] at hFound
  cases hFound
  exact ⟨rfl, List.append_cancel_left h⟩

/-- A placeholder of the right form is found in its own text. -/
theorem isWellFormed_iff {p : Placeholder} : IsWellFormed p ↔ match? p.source = some p := by
  rw [match?_eq_some_iff]
  exact ⟨fun hp => ⟨hp, [], (List.append_nil _).symm⟩, And.left⟩

instance (p : Placeholder) : Decidable (IsWellFormed p) := decidable_of_iff _ isWellFormed_iff.symm

/-- None is found at the start of a text that starts with none. -/
theorem match?_eq_none_iff {text : List Char} :
    match? text = none ↔ ∀ p rest, IsWellFormed p → text ≠ p.source ++ rest := by
  rw [Option.eq_none_iff_forall_ne_some]
  constructor
  · intro h p rest hp hText
    exact h p (match?_eq_some_iff.mpr ⟨hp, rest, hText⟩)
  · intro h p hFound
    obtain ⟨hp, rest, hText⟩ := match?_eq_some_iff.mp hFound
    exact h p rest hp hText

-- ---------------------------------------------------------------------------
-- Cuts, character by character
-- ---------------------------------------------------------------------------

theorem isPlain_nil : IsPlain [] := by
  intro before p after _ hText
  rw [List.append_assoc, source_append] at hText
  simp at hText

/-- No placeholder stands in a text if none begins with its first character and none stands in
what follows. -/
theorem isPlain_cons {c : Char} {text : List Char} :
    IsPlain (c :: text) ↔ match? (c :: text) = none ∧ IsPlain text := by
  rw [match?_eq_none_iff]
  constructor
  · intro h
    refine ⟨fun p rest hp => h [] p rest hp, fun before p after hp hText => ?_⟩
    exact h (c :: before) p after hp (by rw [hText]; rfl)
  · rintro ⟨hHere, hBehind⟩ before p after hp hText
    cases before with
    | nil => exact hHere p after hp hText
    | cons d before => exact hBehind before p after hp (List.cons.inj hText).2

/-- A placeholder stays the first one behind a character with which none begins. -/
theorem isFirst_cons {c : Char} {literal rest : List Char} {p : Placeholder} :
    IsFirst (c :: literal) p rest ↔
      match? (c :: (literal ++ p.source ++ rest)) = none ∧ IsFirst literal p rest := by
  rw [match?_eq_none_iff]
  constructor
  · intro h
    refine ⟨fun q after hq hText => ?_, h.wellFormed, fun before q after hq hText => ?_⟩
    · exact absurd (h.least [] q after hq hText) (Nat.not_succ_le_zero _)
    · exact Nat.le_of_succ_le_succ
        (h.least (c :: before) q after hq (congrArg (List.cons c) hText))
  · rintro ⟨hHere, hBehind⟩
    refine ⟨hBehind.wellFormed, fun before q after hq hText => ?_⟩
    cases before with
    | nil => exact absurd hText (hHere q after hq)
    | cons d before =>
      exact Nat.succ_le_succ (hBehind.least before q after hq (List.cons.inj hText).2)

/-- A placeholder at the very start is the first one. -/
theorem isFirst_nil {p : Placeholder} {rest : List Char} : IsFirst [] p rest ↔ IsWellFormed p :=
  ⟨IsFirst.wellFormed, fun hp => ⟨hp, fun _ _ _ _ _ => Nat.zero_le _⟩⟩

instance decidableIsPlain : (text : List Char) → Decidable (IsPlain text)
  | [] => isTrue isPlain_nil
  | _ :: text =>
    have := decidableIsPlain text
    decidable_of_iff _ isPlain_cons.symm

instance decidableIsFirst : (literal : List Char) → (p : Placeholder) → (rest : List Char) →
    Decidable (IsFirst literal p rest)
  | [], _, _ => decidable_of_iff _ isFirst_nil.symm
  | _ :: literal, p, rest =>
    have := decidableIsFirst literal p rest
    decidable_of_iff _ isFirst_cons.symm

/-- A cut goes on over a character with which no placeholder begins. -/
theorem Cut.cons {c : Char} {source last : List Char} {parts : List (List Char × Placeholder)}
    (hNone : match? (c :: source) = none) (h : Cut source parts last) :
    ∃ parts last, Cut (c :: source) parts last := by
  cases h with
  | plain hPlain => exact ⟨[], _, .plain (isPlain_cons.mpr ⟨hNone, hPlain⟩)⟩
  | hole hFirst hRest => exact ⟨_, last, .hole (isFirst_cons.mpr ⟨hNone, hFirst⟩) hRest⟩

theorem length_lt_source_append (p : Placeholder) (rest : List Char) :
    rest.length < (p.source ++ rest).length := by
  rw [List.length_append, source, List.cons_append]
  simp

/-- **Every text has a cut.** -/
theorem exists_cut (source : List Char) : ∃ parts last, Cut source parts last := by
  -- by its length, since a placeholder is taken off as a whole
  induction hLength : source.length using Nat.strongRecOn generalizing source with
  | ind length ih =>
    subst hLength
    cases source with
    | nil => exact ⟨[], [], .plain isPlain_nil⟩
    | cons c source =>
      cases hFound : match? (c :: source) with
      | none =>
        obtain ⟨parts, last, hCut⟩ := ih source.length (Nat.lt_succ_self _) source rfl
        exact hCut.cons hFound
      | some p =>
        obtain ⟨hp, rest, hSource⟩ := match?_eq_some_iff.mp hFound
        rw [hSource] at ih ⊢
        obtain ⟨parts, last, hCut⟩ := ih _ (length_lt_source_append p rest) rest rfl
        exact ⟨([], p) :: parts, last, .hole (isFirst_nil.mpr hp) hCut⟩

/-- **There is one first placeholder** in a text, if there is one. -/
theorem IsFirst.unique {literal literal' rest rest' : List Char} {p p' : Placeholder}
    (h : IsFirst literal p rest) (h' : IsFirst literal' p' rest')
    (hText : literal ++ p.source ++ rest = literal' ++ p'.source ++ rest') :
    literal = literal' ∧ p = p' ∧ rest = rest' := by
  have hLength : literal.length = literal'.length :=
    Nat.le_antisymm (h.least literal' p' rest' h'.wellFormed hText)
      (h'.least literal p rest h.wellFormed hText.symm)
  rw [List.append_assoc, List.append_assoc] at hText
  obtain ⟨hLiteral, hBehind⟩ := List.append_inj hText hLength
  exact ⟨hLiteral, source_append_inj h.wellFormed h'.wellFormed hBehind⟩

/-- **There is one way to cut a source.** -/
theorem Cut.unique {source last last' : List Char} {parts parts' : List (List Char × Placeholder)}
    (h : Cut source parts last) (h' : Cut source parts' last') :
    parts = parts' ∧ last = last' := by
  induction h generalizing parts' with
  | plain hPlain =>
    cases h' with
    | plain _ => exact ⟨rfl, rfl⟩
    | hole hFirst' _ => exact absurd rfl (hPlain _ _ _ hFirst'.wellFormed)
  | @hole literal rest last p parts hFirst hRest ih =>
    generalize hSource : literal ++ p.source ++ rest = source at h'
    cases h' with
    | plain hPlain => exact absurd hSource.symm (hPlain _ _ _ hFirst.wellFormed)
    | hole hFirst' hRest' =>
      obtain ⟨rfl, rfl, rfl⟩ := hFirst.unique hFirst' hSource
      obtain ⟨rfl, rfl⟩ := ih hRest'
      exact ⟨rfl, rfl⟩

-- ---------------------------------------------------------------------------
-- Pieces
-- ---------------------------------------------------------------------------

/-- Pieces cut off so far stay, and characters to be skipped do not count. -/
theorem piecesOnto_eq (done : List Piece) (skip : Nat) (source : List Char) :
    piecesOnto done skip source = done.reverse ++ pieces (source.drop skip) := by
  rw [pieces]
  induction source generalizing done skip with
  | nil => simp [piecesOnto]
  | cons c source ih =>
    cases skip with
    | succ skip =>
      rw [piecesOnto, ih]
      rfl
    | zero =>
      rw [List.drop_zero, piecesOnto, piecesOnto]
      cases match? (c :: source) with
      | none => simp [ih (.literal c :: done), ih [.literal c]]
      | some p => simp [ih (.hole p :: done), ih [.hole p]]

/-- A placeholder at the start of a source is its first piece. -/
theorem pieces_hole {p : Placeholder} (hp : IsWellFormed p) (rest : List Char) :
    pieces (p.source ++ rest) = .hole p :: pieces rest := by
  have hFound : match? (p.source ++ rest) = some p := match?_eq_some_iff.mpr ⟨hp, rest, rfl⟩
  have hLength : (p.source.length - 1) + 1 = p.source.length := by
    rw [source, List.cons_append]
    rfl
  cases hSource : p.source ++ rest with
  | nil => rw [source_append] at hSource; cases hSource
  | cons c cs =>
    have hRest : cs.drop (p.source.length - 1) = rest := by
      rw [← List.drop_succ_cons (a := c), hLength, ← hSource, List.drop_left]
    rw [hSource] at hFound
    rw [pieces, piecesOnto, hFound]
    show piecesOnto [.hole p] (p.source.length - 1) cs = _
    rw [piecesOnto_eq, hRest]
    rfl

/-- A character with which no placeholder begins is a piece of its own. -/
theorem pieces_literal {c : Char} {source : List Char} (hNone : match? (c :: source) = none) :
    pieces (c :: source) = .literal c :: pieces source := by
  rw [pieces, piecesOnto, hNone]
  show piecesOnto [.literal c] 0 source = _
  rw [piecesOnto_eq, List.drop_zero]
  rfl

/-- A text without placeholders comes apart into its characters. -/
theorem pieces_of_isPlain {text : List Char} (h : IsPlain text) :
    pieces text = text.map .literal := by
  induction text with
  | nil => rfl
  | cons c text ih =>
    obtain ⟨hNone, hRest⟩ := isPlain_cons.mp h
    rw [pieces_literal hNone, ih hRest, List.map_cons]

/-- The pieces of a text up to its first placeholder and behind it. -/
theorem pieces_of_isFirst {literal rest : List Char} {p : Placeholder}
    (h : IsFirst literal p rest) :
    pieces (literal ++ p.source ++ rest) = literal.map .literal ++ .hole p :: pieces rest := by
  induction literal with
  | nil => exact pieces_hole h.wellFormed rest
  | cons c literal ih =>
    obtain ⟨hNone, hBehind⟩ := isFirst_cons.mp h
    rw [List.cons_append, List.cons_append, pieces_literal hNone, ih hBehind, List.map_cons,
      List.cons_append]

/-- **The pieces of a source are those of its cut.** -/
theorem Cut.pieces {source last : List Char} {parts : List (List Char × Placeholder)}
    (h : Cut source parts last) :
    pieces source = parts.flatMap (fun part => part.1.map .literal ++ [.hole part.2]) ++
      last.map .literal := by
  induction h with
  | plain hPlain => exact pieces_of_isPlain hPlain
  | hole hFirst _ ih => rw [pieces_of_isFirst hFirst, ih]; simp

-- ---------------------------------------------------------------------------
-- Names
-- ---------------------------------------------------------------------------

/-- Noting one more use keeps names in the order of their first use. -/
theorem FirstUses.noteName {uses names : List String} (h : FirstUses uses names) (name : String) :
    FirstUses (uses ++ [name]) (noteName names name) := by
  have hEarlier : ∀ a ∈ names, (uses ++ [name]).idxOf a = uses.idxOf a := fun a ha =>
    List.idxOf_append_of_mem ((h.mem_iff a).mp ha)
  have hInOrder : names.Pairwise fun a b =>
      (uses ++ [name]).idxOf a < (uses ++ [name]).idxOf b := by
    refine h.inOrder.imp_of_mem fun {a b} ha hb hLt => ?_
    rw [hEarlier a ha, hEarlier b hb]
    exact hLt
  -- a use of a known name comes too late to matter
  rw [Placeholder.noteName]
  split
  · next hSeen =>
    refine ⟨fun a => ?_, h.nodup, hInOrder⟩
    rw [List.mem_append, List.mem_singleton, h.mem_iff]
    refine ⟨.inl, ?_⟩
    rintro (ha | rfl)
    · exact ha
    · exact (h.mem_iff a).mp hSeen
  · next hNew =>
    refine ⟨fun a => ?_, ?_, ?_⟩
    · rw [List.mem_append, List.mem_append, h.mem_iff]
    · rw [List.nodup_append]
      refine ⟨h.nodup, List.nodup_singleton name, fun a ha b hb hEq => ?_⟩
      rw [hEq, List.mem_singleton.mp hb] at ha
      exact hNew ha
    · rw [List.pairwise_append]
      refine ⟨hInOrder, List.pairwise_singleton _ name, fun a ha b hb => ?_⟩
      have hUnused : name ∉ uses := fun hUsed => hNew ((h.mem_iff name).mpr hUsed)
      rw [List.mem_singleton.mp hb, hEarlier a ha, List.idxOf_append_of_notMem hUnused,
        List.idxOf_cons_self]
      exact List.idxOf_lt_length_of_mem ((h.mem_iff a).mp ha)

/-- **Names are noted in the order of their first use.** -/
theorem firstUses_foldl (uses : List String) : FirstUses uses (uses.foldl noteName []) := by
  induction uses using List.reverseRecOn with
  | nil => exact ⟨fun _ => Iff.rfl, List.nodup_nil, .nil⟩
  | append_singleton uses name ih =>
    rw [List.foldl_concat]
    exact ih.noteName name

-- ---------------------------------------------------------------------------
-- What becomes of a source
-- ---------------------------------------------------------------------------

theorem flatMap_fill_literal (values : Variables) (text : List Char) :
    (text.map Piece.literal).flatMap (Piece.fill values) = text := by
  rw [List.flatMap_map]
  exact List.flatMap_singleton' text

theorem filterMap_key?_literal (text : List Char) :
    (text.map Piece.literal).filterMap Piece.key? = [] := by
  rw [List.filterMap_map]
  exact List.filterMap_none text

/-- What the pieces of a cut become. -/
theorem Cut.fill {source last : List Char} {parts : List (List Char × Placeholder)}
    (h : Cut source parts last) (values : Variables) :
    (Placeholder.pieces source).flatMap (Piece.fill values) =
      parts.flatMap (fun part => part.1 ++ (valueOf values part.2.key).toList) ++ last := by
  rw [h.pieces, List.flatMap_append, flatMap_fill_literal, List.flatMap_assoc]
  congr 2
  funext part
  rw [List.flatMap_append, flatMap_fill_literal, List.flatMap_singleton]
  rfl

/-- The names that the pieces of a cut use. -/
theorem Cut.keys {source last : List Char} {parts : List (List Char × Placeholder)}
    (h : Cut source parts last) :
    (Placeholder.pieces source).filterMap Piece.key? = parts.map fun part => part.2.key := by
  rw [h.pieces, List.filterMap_append, filterMap_key?_literal, List.append_nil,
    List.filterMap_flatMap, ← List.flatMap_pure_eq_map]
  congr 1
  funext part
  rw [List.filterMap_append, filterMap_key?_literal]
  rfl

/-- **What becomes of a source.** It falls apart in one way into literal texts and placeholders,
each placeholder the first one behind the placeholder before it. Substitution keeps the literal
texts and puts the value of its name for each placeholder, nothing if there is none, and the names
are those of the placeholders in the order of their first use. -/
theorem substitute_along_cut (source : String) (values : Variables) :
    ∃ parts last, Cut source.toList parts last ∧
      (∀ parts' last', Cut source.toList parts' last' → parts' = parts ∧ last' = last) ∧
      (substitute source values).toList =
        parts.flatMap (fun part =>
          part.1 ++ ((values.lookup (String.ofList part.2.name)).getD "").toList) ++ last ∧
      FirstUses (parts.map fun part => String.ofList part.2.name) (names source) := by
  obtain ⟨parts, last, hCut⟩ := exists_cut source.toList
  refine ⟨parts, last, hCut, fun parts' last' hCut' => hCut'.unique hCut, ?_, ?_⟩
  · rw [substitute, String.toList_ofList]
    exact hCut.fill values
  · rw [names, hCut.keys]
    exact firstUses_foldl _

/-- In `{{{ .a }}} {{1}} {{b}}!` a third brace and a name that starts with a digit are left alone,
and the value `{{b}}` that is put for `a` is not looked at again. -/
theorem substitute_along_cut_of_near_misses :
    let source := "\x7b\x7b\x7b .a \x7d\x7d\x7d \x7b\x7b1\x7d\x7d \x7b\x7bb\x7d\x7d!"
    let values : Variables := [("a", "\x7b\x7bb\x7d\x7d")]
    let a : Placeholder := ⟨[' '], true, ['a'], [' ']⟩
    let b : Placeholder := ⟨[], false, ['b'], []⟩
    let between := "\x7d \x7b\x7b1\x7d\x7d ".toList
    (∀ parts last, Cut source.toList parts last →
      parts = [(['{'], a), (between, b)] ∧ last = ['!']) ∧
      substitute source values = "\x7b\x7b\x7bb\x7d\x7d\x7d \x7b\x7b1\x7d\x7d !" ∧
      FirstUses ["a", "b"] (names source) := by
  intro source values a b between
  have hSecond : IsFirst between b ['!'] := by decide +kernel
  have hFirst : IsFirst ['{'] a (between ++ b.source ++ ['!']) := by decide +kernel
  have hCut : Cut (['{'] ++ a.source ++ (between ++ b.source ++ ['!'])) _ ['!'] :=
    .hole hFirst (.hole hSecond (.plain (by decide +kernel)))
  have hSource : ['{'] ++ a.source ++ (between ++ b.source ++ ['!']) = source.toList := by
    decide +kernel
  rw [hSource] at hCut
  obtain ⟨parts, last, -, hUnique, hFilled, hUses⟩ := substitute_along_cut source values
  obtain ⟨rfl, rfl⟩ := hUnique _ _ hCut
  exact ⟨hUnique, String.toList_inj.mp (hFilled.trans (by decide +kernel)), hUses⟩

end Galley.Placeholder
