import Galley.Proofs.Patch.Apply
import Galley.Proofs.Text.Block

/-!
# Texts in pieces

A text under change is told by its pieces: the lines that were kept, and in place of each block that
a hunk has taken, the hunk. The pieces give both texts, the one before (`Piece.before`) and the one
after (`Piece.after`), and since they come one after another, blocks of different hunks have no line
in common.

The image that hunks are searched in is the image of the pieces. Lines that a hunk has produced are
marked, so a match never holds one of them; and as every hunk but the last one leaves some line
behind, a match does not reach over the place of a hunk either. So whatever is found consists of
kept lines that stood together in the text from the start.

Main results:

* `exists_split` — where a block matches, it is a stretch of kept pieces.
* `applyHunk_ok` — a hunk that is applied takes the place of such a stretch.
* `locate_isSome` — a hunk is found if its old side is such a stretch.
* `applyHunks_ok` — hunks that are applied to a text, one after another.
* `applyHunks_planned` — hunks that have their places in a text and occur nowhere else.
-/

namespace Galley.Patch

/-- A piece of a text that hunks have been applied to: a line that was kept, or a hunk that has
taken the place of its old side. -/
inductive Piece where
  | kept (line : Line)
  | changed (hunk : Hunk)
  deriving DecidableEq

namespace Piece

/-- The lines of a piece before the change. -/
def before : Piece → List Line
  | kept line => [line]
  | changed hunk => hunk.before

/-- The lines of a piece after the change. -/
def after : Piece → List Line
  | kept line => [line]
  | changed hunk => hunk.after

/-- The hunk of a piece. -/
def hunk? : Piece → Option Hunk
  | kept _ => none
  | changed hunk => some hunk

/-- A piece as it stands in an image: what a hunk has produced is marked. -/
def image : Piece → Image
  | kept line => Image.ofLines [line]
  | changed hunk => Image.patched hunk.after

/-- A piece with its change taken back. -/
def undone (p : Piece) : List Piece := p.before.map kept

end Piece

/-- The image of pieces. -/
def imageOf (pieces : List Piece) : Image := pieces.flatMap Piece.image

/-- A line that was kept is shown in both texts. -/
theorem shown_of_mem_kept {xs : List Line} :
    ∀ p ∈ xs.map Piece.kept, p.before ≠ [] ∧ p.after ≠ [] := by
  intro p hp
  obtain ⟨line, -, rfl⟩ := List.mem_map.mp hp
  exact ⟨List.cons_ne_nil _ _, List.cons_ne_nil _ _⟩

/-- A piece that is taken back has lines on both sides. -/
theorem shown_of_mem_undone {pieces : List Piece} :
    ∀ p ∈ pieces.flatMap Piece.undone, p.before ≠ [] ∧ p.after ≠ [] := by
  intro p hp
  obtain ⟨_, -, hp⟩ := List.mem_flatMap.mp hp
  exact shown_of_mem_kept p hp

section pieces

variable (xs : List Line) (pieces more : List Piece)

@[simp] theorem before_kept : (xs.map Piece.kept).flatMap Piece.before = xs := by
  induction xs <;> simp_all [Piece.before]

@[simp] theorem after_kept : (xs.map Piece.kept).flatMap Piece.after = xs := by
  induction xs <;> simp_all [Piece.after]

@[simp] theorem hunks_kept : (xs.map Piece.kept).filterMap Piece.hunk? = [] := by
  induction xs <;> simp_all [Piece.hunk?]

@[simp] theorem imageOf_append : imageOf (pieces ++ more) = imageOf pieces ++ imageOf more :=
  List.flatMap_append

@[simp] theorem imageOf_kept : imageOf (xs.map .kept) = Image.ofLines xs := by
  rw [imageOf, List.flatMap_map, Image.ofLines, List.map_eq_flatMap]
  rfl

@[simp] theorem toLines_imageOf : (imageOf pieces).toLines = pieces.flatMap Piece.after := by
  induction pieces with
  | nil => rfl
  | cons p pieces ih =>
    rw [imageOf, List.flatMap_cons, Image.toLines_append, ← imageOf, ih, List.flatMap_cons]
    cases p with
    | kept line => rfl
    | changed hunk => rw [Piece.image, Image.toLines_patched, Piece.after]

/-- Kept pieces among others bring just the lines that they keep. -/
theorem before_around :
    (pieces ++ xs.map Piece.kept ++ more).flatMap Piece.before =
      pieces.flatMap Piece.before ++ xs ++ more.flatMap Piece.before := by
  rw [List.flatMap_append, List.flatMap_append, before_kept]

/-- The change of pieces taken back: the lines of the text before. -/
theorem undone_eq : pieces.flatMap Piece.undone = (pieces.flatMap Piece.before).map .kept := by
  rw [List.map_flatMap]
  rfl

end pieces

-- ---------------------------------------------------------------------------
-- Matches
-- ---------------------------------------------------------------------------

/-- Lines that a hunk has produced match nothing. -/
theorem startsWith_patched {produced : List Line} (hSome : produced ≠ []) (image : Image)
    {block : List Line} (hBlock : block ≠ []) :
    Image.startsWith (Image.patched produced ++ image) block = false := by
  obtain ⟨x, xs, rfl⟩ := List.exists_cons_of_ne_nil hSome
  obtain ⟨y, ys, rfl⟩ := List.exists_cons_of_ne_nil hBlock
  simp [Image.patched, Image.startsWith]

/-- A block that matches at the start of an image is the first of its pieces. -/
theorem exists_rest {pieces : List Piece} (hShown : ∀ p ∈ pieces, p.after ≠ []) {block : List Line}
    (h : Image.startsWith (imageOf pieces) block = true) :
    ∃ back, pieces = block.map .kept ++ back := by
  induction block generalizing pieces with
  | nil => exact ⟨pieces, rfl⟩
  | cons line block ih =>
    cases pieces with
    | nil => cases h
    | cons p pieces =>
      obtain ⟨hFirst, hRest⟩ := List.forall_mem_cons.mp hShown
      cases p with
      | kept line' =>
        have hBoth : (line' == line && !false && Image.startsWith (imageOf pieces) block) = true :=
          h
        rw [Bool.and_eq_true, Bool.and_eq_true] at hBoth
        obtain ⟨back, rfl⟩ := ih hRest hBoth.2
        obtain rfl := eq_of_beq hBoth.1.1
        exact ⟨back, rfl⟩
      | changed hunk =>
        have hNever := startsWith_patched hFirst (imageOf pieces) (List.cons_ne_nil line block)
        cases h.symm.trans hNever

/-- **A block that matches is a stretch of kept pieces.** For the empty block, which matches
everywhere, this needs that there are no other pieces. -/
theorem exists_split {pieces : List Piece} {block : List Line}
    (hShown : ∀ p ∈ pieces, p.after ≠ [])
    (hEmpty : block = [] → ∀ p ∈ pieces, p.hunk? = none) :
    ∀ {i : Nat}, i ≤ (imageOf pieces).length →
      Image.startsWith ((imageOf pieces).drop i) block = true →
        ∃ front back, pieces = front ++ block.map .kept ++ back ∧ (imageOf front).length = i := by
  -- on the pieces: a match starts with the first piece, inside of it, or behind it
  induction pieces with
  | nil =>
    intro i hi h
    obtain rfl : i = 0 := Nat.le_zero.mp hi
    obtain ⟨back, hBack⟩ := exists_rest hShown h
    exact ⟨[], back, hBack, rfl⟩
  | cons p pieces ih =>
    intro i hi h
    obtain ⟨hFirst, hRest⟩ := List.forall_mem_cons.mp hShown
    have hImage : imageOf (p :: pieces) = p.image ++ imageOf pieces := List.flatMap_cons
    by_cases hStart : i = 0
    · subst hStart
      obtain ⟨back, hBack⟩ := exists_rest hShown h
      exact ⟨[], back, hBack, rfl⟩
    by_cases hInside : i < p.image.length
    · -- a match that starts inside of a piece: only a hunk is that long
      exfalso
      cases p with
      | kept line =>
        have hOne : i < 1 := hInside
        omega
      | changed hunk =>
        have hBlock : block ≠ [] := fun hNil => nomatch hEmpty hNil _ List.mem_cons_self
        have hLeft : hunk.after.drop i ≠ [] := by
          have hLength : i < (Image.patched hunk.after).length := hInside
          rw [Image.length_patched] at hLength
          exact List.ne_nil_of_length_pos (by rw [List.length_drop]; omega)
        have hDrop : (imageOf (.changed hunk :: pieces)).drop i =
            Image.patched (hunk.after.drop i) ++ imageOf pieces := by
          rw [hImage, List.drop_append_of_le_length (Nat.le_of_lt hInside)]
          exact congrArg (· ++ _) List.map_drop.symm
        rw [hDrop, startsWith_patched hLeft _ hBlock] at h
        cases h
    · rw [hImage, List.length_append] at hi
      rw [hImage, List.drop_append, List.drop_eq_nil_of_le (by omega), List.nil_append] at h
      obtain ⟨front, back, rfl, hFront⟩ := ih hRest
        (fun hNil q hq => hEmpty hNil q (List.mem_cons_of_mem _ hq)) (by omega) h
      refine ⟨p :: front, back, rfl, ?_⟩
      rw [show imageOf (p :: front) = p.image ++ imageOf front from List.flatMap_cons,
        List.length_append, hFront]
      omega

-- ---------------------------------------------------------------------------
-- The search
-- ---------------------------------------------------------------------------

/-- Interleaving loses nothing. -/
theorem mem_interleave {α : Type} {x : α} {xs ys : List α} :
    x ∈ interleave xs ys ↔ x ∈ xs ∨ x ∈ ys := by
  fun_induction interleave xs ys with
  | case1 ys => simp
  | case2 first xs ys ih => rw [List.mem_cons, ih, List.mem_cons, or_assoc, or_comm (a := x ∈ ys)]

/-- Every place of an image is tried, and none behind it. -/
theorem mem_candidates {start length i : Nat} (h : start ≤ length) :
    i ∈ candidates start length ↔ i = start ∨ i < length := by
  rw [candidates, List.mem_cons, mem_interleave, List.mem_reverse, List.mem_range,
    List.mem_range'_1]
  omega

/-- A hunk that is found matches where it was found. -/
theorem locate_ok {image : Image} {hunk : Hunk} {i : Nat} (h : locate image hunk = some i) :
    i ≤ image.length ∧ Image.startsWith (image.drop i) hunk.before = true := by
  have hStart : min (hunk.newStart - 1) image.length ≤ image.length := Nat.min_le_right ..
  rw [locate] at h
  have hTried := (mem_candidates hStart).mp (List.mem_of_find?_eq_some h)
  have hMatch := List.find?_some h
  exact ⟨by omega, hMatch⟩

/-- **A hunk is found** if its old side stands somewhere untouched. -/
theorem locate_isSome {hunk : Hunk} (hSome : hunk.before ≠ []) (front back : List Piece) :
    (locate (imageOf (front ++ hunk.before.map .kept ++ back)) hunk).isSome = true := by
  rw [locate, List.find?_isSome]
  refine ⟨(imageOf front).length, ?_, ?_⟩
  · refine (mem_candidates (Nat.min_le_right ..)).mpr (.inr ?_)
    have hLength := List.length_pos_iff.mpr hSome
    simp only [imageOf_append, imageOf_kept, List.length_append, Image.length_ofLines]
    omega
  · rw [imageOf_append, imageOf_append, imageOf_kept, List.append_assoc, List.drop_left]
    exact Image.startsWith_ofLines ..

/-- **A hunk that is applied** takes the place of a stretch of kept pieces. -/
theorem applyHunk_ok {pieces : List Piece} {hunk : Hunk} {image : Image}
    (hShown : ∀ p ∈ pieces, p.after ≠ [])
    (hEmpty : hunk.before = [] → ∀ p ∈ pieces, p.hunk? = none)
    (h : applyHunk (imageOf pieces) hunk = some image) :
    ∃ front back, pieces = front ++ hunk.before.map .kept ++ back ∧
      image = imageOf (front ++ .changed hunk :: back) := by
  rw [applyHunk] at h
  obtain ⟨i, hFound, hImage⟩ := Option.bind_eq_some_iff.mp h
  obtain ⟨hi, hMatch⟩ := locate_ok hFound
  obtain ⟨front, back, rfl, rfl⟩ := exists_split hShown hEmpty hi hMatch
  refine ⟨front, back, rfl, ?_⟩
  cases hImage
  simp only [imageOf_append, imageOf_kept, List.append_assoc, List.take_left]
  rw [← List.drop_drop, List.drop_left, List.drop_left' (Image.length_ofLines _)]
  rfl

-- ---------------------------------------------------------------------------
-- Hunks in a row
-- ---------------------------------------------------------------------------

/-- Hunks of which every one but the first expects some line, and every one but the last leaves some
line behind. The hunks of a script are of this kind: between two of them there is context of
both. -/
structure Anchored (hunks : List Hunk) : Prop where
  before : ∀ hunk ∈ hunks.tail, hunk.before ≠ []
  after : ∀ hunk ∈ hunks.dropLast, hunk.after ≠ []

theorem forall_mem_dropLast_cons {α : Type} {P : α → Prop} {x : α} {xs : List α} :
    (∀ y ∈ (x :: xs).dropLast, P y) ↔ (xs ≠ [] → P x) ∧ ∀ y ∈ xs.dropLast, P y := by
  cases xs with
  | nil => simp
  | cons next more => simp

/-- The hunks behind the first one. None of them expects nothing, and if there are any, the first
one leaves some line behind. -/
theorem Anchored.rest {hunk : Hunk} {hunks : List Hunk} (h : Anchored (hunk :: hunks)) :
    Anchored hunks ∧ (hunks ≠ [] → hunk.after ≠ []) := by
  obtain ⟨hFirst, hRest⟩ := forall_mem_dropLast_cons.mp h.after
  exact ⟨⟨fun h' hh => h.before h' (List.mem_of_mem_tail hh), hRest⟩, hFirst⟩

/-- A hunk among pieces that all leave some line behind. -/
theorem after_ne_nil_around {front back : List Piece} {hunk : Hunk}
    (h : ∀ p ∈ front ++ hunk.before.map .kept ++ back, p.after ≠ []) (hHunk : hunk.after ≠ []) :
    ∀ p ∈ front ++ .changed hunk :: back, p.after ≠ [] := by
  rw [List.forall_mem_append, List.forall_mem_append] at h
  exact List.forall_mem_append.mpr ⟨h.1.1, List.forall_mem_cons.mpr ⟨hHunk, h.2⟩⟩

/-- **Hunks that are applied one after another** take the places of stretches of kept pieces. -/
theorem applyHunks_ok {hunks : List Hunk} :
    ∀ {applied : Nat} {pieces : List Piece} {image : Image}, Anchored hunks →
      (hunks ≠ [] → ∀ p ∈ pieces, p.after ≠ []) →
      (∀ hunk ∈ hunks.head?, hunk.before = [] → ∀ p ∈ pieces, p.hunk? = none) →
      applyHunks applied (imageOf pieces) hunks = .ok image →
        ∃ ended, image = imageOf ended ∧
          ended.flatMap Piece.before = pieces.flatMap Piece.before ∧
          (ended.filterMap Piece.hunk?).Perm (pieces.filterMap Piece.hunk? ++ hunks) := by
  -- on the hunks that are left; the pieces between two of them only ever get more hunks
  induction hunks with
  | nil =>
    intro applied pieces image _ _ _ h
    cases h
    exact ⟨pieces, rfl, rfl, by rw [List.append_nil]⟩
  | cons hunk hunks ih =>
    intro applied pieces image hAnchored hShown hEmpty h
    rw [applyHunks] at h
    split at h
    · next between hFirst =>
      have hShown := hShown (List.cons_ne_nil _ _)
      obtain ⟨front, back, rfl, rfl⟩ := applyHunk_ok hShown (hEmpty hunk rfl) hFirst
      obtain ⟨hRest, hAfter⟩ := hAnchored.rest
      obtain ⟨ended, hImage, hBefore, hHunks⟩ := ih hRest
        (fun hMore => after_ne_nil_around hShown (hAfter hMore))
        (fun next hNext hNil =>
          absurd hNil (hAnchored.before next (List.mem_of_mem_head? hNext))) h
      refine ⟨ended, hImage, hBefore.trans ?_, hHunks.trans ?_⟩
      · rw [before_around, List.flatMap_append, List.flatMap_cons, Piece.before, List.append_assoc]
      · simp only [List.filterMap_append, List.filterMap_cons, hunks_kept, Piece.hunk?,
          List.append_assoc]
        exact (List.perm_middle.symm.append_left _).trans (.refl _)
    · cases h

/-- Two beginnings of the same pieces that hold as many lines of the text before are the same. -/
theorem beginning_unique {pieces front front' back back' : List Piece}
    (hShown : ∀ p ∈ pieces, p.before ≠ []) (h : pieces = front ++ back)
    (h' : pieces = front' ++ back')
    (hLength : (front.flatMap Piece.before).length = (front'.flatMap Piece.before).length) :
    front = front' := by
  have hNone : ∀ ps : List Piece, (∀ p ∈ ps, p ∈ pieces) →
      (ps.flatMap Piece.before).length = 0 → ps = [] := by
    intro ps hMem hNil
    refine List.eq_nil_iff_forall_not_mem.mpr fun p hp => hShown p (hMem p hp) ?_
    exact List.flatMap_eq_nil_iff.mp (List.length_eq_zero_iff.mp hNil) p hp
  rcases List.append_eq_append_iff.mp (h.symm.trans h') with
    ⟨more, hMore, -⟩ | ⟨more, hMore, -⟩
  · rw [hMore, List.flatMap_append, List.length_append] at hLength
    have hNil := hNone more
      (fun p hp => by rw [h', hMore]; exact List.mem_append_left _ (List.mem_append_right _ hp))
      (by omega)
    rw [hMore, hNil, List.append_nil]
  · rw [hMore, List.flatMap_append, List.length_append] at hLength
    have hNil := hNone more
      (fun p hp => by rw [h, hMore]; exact List.mem_append_left _ (List.mem_append_right _ hp))
      (by omega)
    rw [hMore, hNil, List.append_nil]

/-- A hunk that has its place in a text is applied there if its old side occurs only once. -/
theorem applyHunk_planned {text : List Line} {front back : List Piece} {hunk : Hunk}
    (hText : text = (front ++ hunk.before.map Piece.kept ++ back).flatMap Piece.before)
    (hBefore : ∀ p ∈ front ++ back, p.before ≠ []) (hAfter : ∀ p ∈ front ++ back, p.after ≠ [])
    (hSome : hunk.before ≠ []) (hOnce : Text.OccursOnce hunk.before text) :
    applyHunk (imageOf (front ++ hunk.before.map .kept ++ back)) hunk =
      some (imageOf (front ++ .changed hunk :: back)) := by
  obtain ⟨i, hFound⟩ := Option.isSome_iff_exists.mp (locate_isSome hSome front back)
  have hShown : ∀ p ∈ front ++ hunk.before.map .kept ++ back, p.before ≠ [] ∧ p.after ≠ [] := by
    rw [List.forall_mem_append] at hBefore hAfter
    rw [List.forall_mem_append, List.forall_mem_append]
    exact ⟨⟨fun p hp => ⟨hBefore.1 p hp, hAfter.1 p hp⟩, shown_of_mem_kept⟩,
      fun p hp => ⟨hBefore.2 p hp, hAfter.2 p hp⟩⟩
  cases hApplied : applyHunk (imageOf (front ++ hunk.before.map .kept ++ back)) hunk with
  | none =>
    rw [applyHunk, hFound] at hApplied
    cases hApplied
  | some image =>
    obtain ⟨front', back', hSame, rfl⟩ := applyHunk_ok (fun p hp => (hShown p hp).2)
      (fun hNil => absurd hNil hSome) hApplied
    -- the place that was found is an occurrence in the text, and there is only one
    have hFront : front = front' :=
      beginning_unique (fun p hp => (hShown p hp).1) (List.append_assoc ..)
        (hSame.trans (List.append_assoc ..))
        (hOnce.length_unique (hText.trans (before_around ..))
          (hText.trans ((congrArg _ hSame).trans (before_around ..))))
    subst hFront
    rw [List.append_cancel_left hSame]

/-- **Hunks that have their places in a text** are all applied there, if the old side of each occurs
only once in the text. In front stand the pieces that are done; in those behind, the hunks are still
to be applied. -/
theorem applyHunks_planned {text : List Line} {rest : List Piece} :
    ∀ {applied : Nat} {front : List Piece},
      text = (front ++ rest).flatMap Piece.before →
      (∀ p ∈ front ++ rest, p.before ≠ []) →
      (rest.filterMap Piece.hunk? ≠ [] → ∀ p ∈ front, p.after ≠ []) →
      (∀ hunk ∈ (rest.filterMap Piece.hunk?).dropLast, hunk.after ≠ []) →
      (∀ hunk ∈ rest.filterMap Piece.hunk?, Text.OccursOnce hunk.before text) →
        applyHunks applied (imageOf (front ++ rest.flatMap Piece.undone))
          (rest.filterMap Piece.hunk?) = .ok (imageOf (front ++ rest)) := by
  induction rest with
  | nil =>
    intro applied front _ _ _ _ _
    rfl
  | cons p rest ih =>
    intro applied front hText hBefore hDone hAfter hOnce
    have hFront : front ++ p :: rest = (front ++ [p]) ++ rest := by
      rw [List.append_assoc, List.singleton_append]
    rw [hFront] at hText hBefore
    cases p with
    | kept line =>
      rw [hFront, ← ih hText hBefore ?_ hAfter hOnce]
      · rw [List.flatMap_cons, Piece.undone, ← List.append_assoc]
        rfl
      · exact fun hMore => List.forall_mem_append.mpr
          ⟨hDone hMore, List.forall_mem_singleton.mpr (List.cons_ne_nil _ _)⟩
    | changed hunk =>
      have hHere : applyHunk (imageOf (front ++ (Piece.changed hunk :: rest).flatMap Piece.undone))
          hunk = some (imageOf ((front ++ [.changed hunk]) ++ rest.flatMap Piece.undone)) := by
        have hUndone : front ++ (Piece.changed hunk :: rest).flatMap Piece.undone =
            front ++ hunk.before.map .kept ++ rest.flatMap Piece.undone := by
          rw [List.flatMap_cons, ← List.append_assoc]
          rfl
        rw [hUndone, List.append_assoc front [.changed hunk], List.singleton_append]
        have hOccurs : Text.OccursOnce hunk.before text := hOnce hunk List.mem_cons_self
        refine applyHunk_planned ?_ ?_ ?_ (hBefore (.changed hunk) (by simp)) hOccurs
        · rw [hText]
          simp only [List.flatMap_append, List.flatMap_singleton, before_kept, undone_eq,
            Piece.before]
        · exact List.forall_mem_append.mpr
            ⟨fun p hp => hBefore p (List.mem_append_left _ (List.mem_append_left _ hp)),
              fun p hp => (shown_of_mem_undone p hp).1⟩
        · exact List.forall_mem_append.mpr
            ⟨hDone (List.cons_ne_nil _ _), fun p hp => (shown_of_mem_undone p hp).2⟩
      have hHunks : (Piece.changed hunk :: rest).filterMap Piece.hunk? =
          hunk :: rest.filterMap Piece.hunk? := rfl
      rw [hHunks] at hAfter hOnce hDone ⊢
      obtain ⟨hLeaves, hAfter⟩ := forall_mem_dropLast_cons.mp hAfter
      rw [applyHunks, hHere, hFront]
      -- a hunk that others come after leaves some line behind
      exact ih hText hBefore
        (fun hMore => List.forall_mem_append.mpr
          ⟨hDone (List.cons_ne_nil _ _), List.forall_mem_singleton.mpr (hLeaves hMore)⟩)
        hAfter fun h hh => hOnce h (List.mem_cons_of_mem _ hh)

end Galley.Patch
