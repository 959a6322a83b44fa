/-!
# Edit scripts

An *edit script* turns one sequence into another by stretches that are kept, deleted or inserted.
A script carries the elements themselves, so both sequences can be read off it: what it keeps and
deletes is the old side (`Script.before`), what it keeps and inserts the new one (`Script.after`).

The script is found by Myers' divide and conquer. A common prefix and a common suffix are kept; of
what is left between them, `Frontier.midpoint` gives a point that a shortest script passes through,
and the two parts before and after it are aligned on their own. That the sides come out right does
not depend on the point: any cut inside the two sequences gives a script between them.

*Compaction* then moves every deletion, and after them every insertion, as far up and then as far
down as the elements around it allow, so that neighbouring edits of one kind meet and become one.
-/

namespace Galley.Patch

variable {α : Type} [DecidableEq α]

/-- One stretch of an edit script. -/
inductive Edit (α : Type) where
  | keep (xs : List α)
  | delete (xs : List α)
  | insert (xs : List α)
  deriving Repr, DecidableEq

namespace Edit

/-- The elements that the stretch stands for in the old sequence. -/
def before : Edit α → List α
  | keep xs => xs
  | delete xs => xs
  | insert _ => []

/-- The elements that the stretch stands for in the new sequence. -/
def after : Edit α → List α
  | keep xs => xs
  | delete _ => []
  | insert xs => xs

/-- The elements that the stretch carries. -/
def elements : Edit α → List α
  | keep xs => xs
  | delete xs => xs
  | insert xs => xs

/-- The stretch with its elements in reverse order. -/
def reversed : Edit α → Edit α
  | keep xs => keep xs.reverse
  | delete xs => delete xs.reverse
  | insert xs => insert xs.reverse

end Edit

/-- An edit script, from the first stretch to the last. -/
abbrev Script (α : Type) := List (Edit α)

namespace Script

/-- The old sequence of a script. -/
def before (script : Script α) : List α := script.flatMap Edit.before

/-- The new sequence of a script. -/
def after (script : Script α) : List α := script.flatMap Edit.after

end Script

/-! ## Common ends -/

/-- Cuts the longest common prefix off two sequences: the prefix and the two remainders. -/
def cutPrefix : List α → List α → List α × List α × List α
  | a :: as, b :: bs =>
    if a = b then
      let (common, rest) := cutPrefix as bs
      (a :: common, rest)
    else ([], a :: as, b :: bs)
  | as, bs => ([], as, bs)

/-- The longest common prefix joined with a remainder is the sequence it was cut off. -/
theorem cutPrefix_append (xs ys : List α) :
    (cutPrefix xs ys).1 ++ (cutPrefix xs ys).2.1 = xs
      ∧ (cutPrefix xs ys).1 ++ (cutPrefix xs ys).2.2 = ys := by
  induction xs generalizing ys with
  | nil => simp [cutPrefix]
  | cons a as ih =>
    cases ys with
    | nil => simp [cutPrefix]
    | cons b bs =>
      by_cases h : a = b
      · subst h
        simp only [cutPrefix, if_true, List.cons_append]
        exact ⟨by rw [(ih bs).1], by rw [(ih bs).2]⟩
      · simp [cutPrefix, h]

/-- Cuts the longest common suffix off two sequences: the suffix and the two remainders. -/
def cutSuffix (xs ys : List α) : List α × List α × List α :=
  let (common, as, bs) := cutPrefix xs.reverse ys.reverse
  (common.reverse, as.reverse, bs.reverse)

/-- A remainder joined with the longest common suffix is the sequence it was cut off. -/
theorem append_cutSuffix (xs ys : List α) :
    (cutSuffix xs ys).2.1 ++ (cutSuffix xs ys).1 = xs
      ∧ (cutSuffix xs ys).2.2 ++ (cutSuffix xs ys).1 = ys := by
  have h := cutPrefix_append xs.reverse ys.reverse
  simp only [cutSuffix, ← List.reverse_append]
  exact ⟨by rw [h.1, List.reverse_reverse], by rw [h.2, List.reverse_reverse]⟩

/-! ## The midpoint of a shortest script

Two sequences of lengths `n` and `m` span a grid: a step right deletes an element, a step down
inserts one, and a diagonal step keeps an element that both have. Two searches run towards each
other, one from the start and one, on the reversed sequences, from the end. After `d` edits each
knows, for every diagonal, the furthest point it can reach; the search ends when they meet. -/

/-- The furthest column reached on each diagonal `k`, that is, on the points `(x, x - k)`. -/
structure Frontier where
  reach : Array Nat
  origin : Nat

namespace Frontier

/-- The frontier of a search that may spend fewer than `limit` edits; it has reached nothing. -/
def start (limit : Nat) : Frontier := ⟨Array.replicate (2 * limit + 1) 0, limit⟩

/-- The furthest column on diagonal `k`. -/
def get (f : Frontier) (k : Int) : Nat := f.reach.getD (k + f.origin).toNat 0

/-- Records column `x` on diagonal `k`. -/
def set (f : Frontier) (k : Int) (x : Nat) : Frontier :=
  { f with reach := f.reach.setIfInBounds (k + f.origin).toNat x }

/-- How many elements agree from position `i` of the one and `j` of the other on. -/
def agreeing (old new : Array α) (i j : Nat) : Nat :=
  if h : i < old.size ∧ j < new.size then
    if old[i] = new[j] then agreeing old new (i + 1) (j + 1) + 1 else 0
  else 0
termination_by old.size - i

/-- The diagonals that a search can stand on after `d` edits, from the rightmost on. -/
def diagonals (d : Nat) : List Int := (List.range (d + 1)).map fun i : Nat => (d : Int) - 2 * i

/-- One run along a diagonal: where it starts and how many elements agree there. -/
structure Run where
  x : Nat
  y : Nat
  length : Nat

/-- Takes a search one edit further, diagonal by diagonal, and stops at the first run that
`meets` accepts. -/
def sweep (old new : Array α) (d : Nat) (meets : Int → Nat → Bool) :
    List Int → Frontier → Frontier × Option Run
  | [], f => (f, none)
  | k :: ks, f =>
    let x :=
      if k = -d ∨ (k ≠ d ∧ f.get (k - 1) < f.get (k + 1)) then f.get (k + 1)
      else f.get (k - 1) + 1
    let y := ((x : Int) - k).toNat
    let length := agreeing old new x y
    let f := f.set k (x + length)
    if meets k (x + length) then (f, some ⟨x, y, length⟩) else sweep old new d meets ks f

/-- Runs the two searches for at most `rounds` more edits each. They can only meet in the forward
half of a round when the two lengths differ by an odd number, and only in the backward half when
they differ by an even one. -/
def search (old new oldReversed newReversed : Array α) :
    (rounds : Nat) → (d : Nat) → Frontier → Frontier → Option (Nat × Nat)
  | 0, _, _, _ => none
  | rounds + 1, d, forward, backward =>
    let n := old.size
    let delta : Int := n - new.size
    let odd := delta % 2 ≠ 0
    let meetsBackward (k : Int) (x : Nat) : Bool :=
      odd && (k - delta).natAbs < d && n ≤ x + backward.get (delta - k)
    match sweep old new d meetsBackward (diagonals d) forward with
    | (_, some run) => some (run.x, run.y)
    | (forward, none) =>
      let meetsForward (k : Int) (x : Nat) : Bool :=
        !odd && (k - delta).natAbs ≤ d && n ≤ x + forward.get (delta - k)
      match sweep oldReversed newReversed d meetsForward (diagonals d) backward with
      | (_, some run) => some (n - (run.x + run.length), new.size - (run.y + run.length))
      | (backward, none) => search old new oldReversed newReversed rounds (d + 1) forward backward

/-- A point that a shortest script between the two sequences passes through. -/
def midpoint (old new : List α) : Option (Nat × Nat) :=
  let limit := (old.length + new.length + 1) / 2 + 1
  search old.toArray new.toArray old.reverse.toArray new.reverse.toArray limit 0
    (start limit) (start limit)

end Frontier

/-! ## Alignment -/

/-- A keep, left out when it keeps nothing. -/
def Edit.keeping (xs : List α) : Script α := if xs = [] then [] else [.keep xs]

/-- An edit script from `old` to `new`. A midpoint that leaves one side whole makes no progress;
there the whole block is replaced. -/
def align (old new : List α) : Script α :=
  let ends := cutPrefix old new
  let inner := cutSuffix ends.2.1 ends.2.2
  let olds := inner.2.1
  let news := inner.2.2
  let middle : Script α :=
    if olds = [] then [.insert news]
    else if news = [] then [.delete olds]
    else match Frontier.midpoint olds news with
      | none => [.delete olds, .insert news]
      | some (x, y) =>
        if _inside : 0 < x + y ∧ x + y < olds.length + news.length
            ∧ x ≤ olds.length ∧ y ≤ news.length then
          align (olds.take x) (news.take y) ++ align (olds.drop x) (news.drop y)
        else [.delete olds, .insert news]
  Edit.keeping ends.1 ++ middle ++ Edit.keeping inner.1
termination_by old.length + new.length
decreasing_by
  all_goals
    have hp := cutPrefix_append old new
    have hs := append_cutSuffix (cutPrefix old new).2.1 (cutPrefix old new).2.2
    have h1 := congrArg List.length hp.1
    have h2 := congrArg List.length hp.2
    have h3 := congrArg List.length hs.1
    have h4 := congrArg List.length hs.2
    simp only [List.length_append] at h1 h2 h3 h4
    simp only [olds, news, inner, ends] at _inside ⊢
    simp only [List.length_take, List.length_drop]
    omega

/-! ## Compaction -/

/-- The two kinds of edit that compaction moves. -/
inductive EditKind where
  | deletion
  | insertion
  deriving DecidableEq, Repr

/-- The edit of a kind. -/
def EditKind.edit : EditKind → List α → Edit α
  | deletion, xs => .delete xs
  | insertion, xs => .insert xs

/-- The kind of an edit and its elements; a keep has none. -/
def Edit.kind? : Edit α → Option (EditKind × List α)
  | keep _ => none
  | delete xs => some (.deletion, xs)
  | insert xs => some (.insertion, xs)

/-- A script with one edit picked out; the stretches around it are listed nearest first. -/
structure Cursor (α : Type) where
  above : List (Edit α)
  kind : EditKind
  edit : List α
  below : List (Edit α)

namespace Cursor

/-- The script read backwards, with the same edit picked out. -/
def reversed (c : Cursor α) : Cursor α :=
  ⟨c.below.map Edit.reversed, c.kind, c.edit.reverse, c.above.map Edit.reversed⟩

/-- Puts elements that were kept above the edit below it. -/
def keepBelow (xs : List α) : List (Edit α) → List (Edit α)
  | .keep ys :: rest => .keep (xs ++ ys) :: rest
  | rest => .keep xs :: rest

/-- The stretches of a list and the elements that they carry, counted together. -/
def weight : List (Edit α) → Nat
  | [] => 0
  | e :: rest => e.elements.length + 1 + weight rest

/-- Moves the edit up as far as possible: past as many kept elements as equal its own last ones,
past an edit of the other kind, and into an edit of its own kind. -/
def shiftUp (kind : EditKind) (above : List (Edit α)) (edit : List α) (below : List (Edit α)) :
    Cursor α :=
  match above with
  | [] => ⟨[], kind, edit, below⟩
  | .keep xs :: above =>
    let cut := cutSuffix edit xs
    if xs = [] then shiftUp kind above edit below
    else if _stuck : cut.1 = [] then ⟨.keep xs :: above, kind, edit, below⟩
    else if cut.2.2 = [] then shiftUp kind above (cut.1 ++ cut.2.1) (keepBelow cut.1 below)
    else shiftUp kind (.keep cut.2.2 :: above) (cut.1 ++ cut.2.1) (keepBelow cut.1 below)
  | .delete xs :: above =>
    if kind = .deletion then shiftUp kind above (xs ++ edit) below
    else shiftUp kind above edit (.delete xs :: below)
  | .insert xs :: above =>
    if kind = .insertion then shiftUp kind above (xs ++ edit) below
    else shiftUp kind above edit (.insert xs :: below)
termination_by weight above
decreasing_by
  all_goals simp only [weight, Edit.elements]
  all_goals try omega
  have := congrArg List.length (append_cutSuffix edit xs).2
  have := List.length_pos_iff.2 _stuck
  simp only [List.length_append, cut] at *
  omega

/-- Moves the picked edit up as far as possible. -/
def raise (c : Cursor α) : Cursor α := shiftUp c.kind c.above c.edit c.below

/-- Moves the picked edit down as far as possible: up, in the script read backwards. -/
def lower (c : Cursor α) : Cursor α := c.reversed.raise.reversed

end Cursor

/-- Moves every edit of one kind up and then down, from the first to the last; `above` has been
visited. The fuel bounds the number of stretches still to visit. -/
def settle (kind : EditKind) : (fuel : Nat) → (above below : List (Edit α)) → Script α
  | 0, above, below => above.reverse ++ below
  | _ + 1, above, [] => above.reverse
  | fuel + 1, above, e :: below =>
    match e.kind? with
    | some (k, xs) =>
      if k = kind then
        let c := (Cursor.mk above kind xs below).raise.lower
        settle kind fuel (c.kind.edit c.edit :: c.above) c.below
      else settle kind fuel (e :: above) below
    | none => settle kind fuel (e :: above) below

/-- Compacts a script: first its deletions, then its insertions. -/
def compact (script : Script α) : Script α :=
  let visit (kind : EditKind) (script : Script α) : Script α :=
    settle kind (2 * Cursor.weight script + 1) [] script
  visit .insertion (visit .deletion script)

/-- The compacted edit script from `old` to `new`. -/
def Script.between (old new : List α) : Script α := compact (align old new)

end Galley.Patch
