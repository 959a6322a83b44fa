import Galley.Proofs.Render.Placeholder

/-!
# What values have to do with the result

Substitution reads no value but those of the names of the source, so two sets of values that agree
on these give the same text. The other way round, each name that is reported as missing matters: a
value for it makes the text longer, by as much at each of its uses, so no two uses can make up for
each other. Hence the report of what is missing names just the unset names that the result waits
for.

Main results:

* `mem_names` — the names of a source are those in its pieces.
* `substitute_congr` — values for other names do not matter.
* `length_fill_cons` — how much a new value adds.
* `missing_iff_matters` — what is reported as missing is what matters.
-/

namespace Galley.Placeholder

-- ---------------------------------------------------------------------------
-- Values
-- ---------------------------------------------------------------------------

theorem valueOf_cons_self (name value : String) (values : Variables) :
    valueOf ((name, value) :: values) name = value := by
  rw [valueOf, List.lookup_cons_self]
  rfl

theorem valueOf_cons_of_ne {name other : String} (hNe : other ≠ name) (value : String)
    (values : Variables) : valueOf ((name, value) :: values) other = valueOf values other := by
  have hBeq : (other == name) = false := beq_eq_false_iff_ne.mpr hNe
  rw [valueOf, valueOf, List.lookup_cons, hBeq]

/-- A variable that is not set stands for nothing. -/
theorem valueOf_of_unset {values : Variables} {name : String} (hUnset : values.lookup name = none) :
    valueOf values name = "" := by
  rw [valueOf, hUnset]
  rfl

-- ---------------------------------------------------------------------------
-- Only the names of a source are read
-- ---------------------------------------------------------------------------

/-- The names of a source are those in its pieces. -/
theorem mem_names {source name : String} :
    name ∈ names source ↔ ∃ p, .hole p ∈ pieces source.toList ∧ p.key = name := by
  rw [names, (firstUses_foldl _).mem_iff, List.mem_filterMap]
  constructor
  · rintro ⟨piece, hPiece, hKey⟩
    cases piece with
    | literal c => cases hKey
    | hole p => exact ⟨p, hPiece, Option.some.inj hKey⟩
  · rintro ⟨p, hPiece, rfl⟩
    exact ⟨.hole p, hPiece, rfl⟩

/-- **Values for names that are not in a source do not matter.** -/
theorem substitute_congr {source : String} {values values' : Variables}
    (hAgree : ∀ name ∈ names source, valueOf values name = valueOf values' name) :
    substitute source values = substitute source values' := by
  rw [substitute, substitute]
  congr 1
  apply List.flatMap_congr
  intro piece hPiece
  cases piece with
  | literal c => rfl
  | hole p =>
    show (valueOf values p.key).toList = (valueOf values' p.key).toList
    rw [hAgree p.key (mem_names.mpr ⟨p, hPiece, rfl⟩)]

-- ---------------------------------------------------------------------------
-- Every use of a name shows
-- ---------------------------------------------------------------------------

/-- How often a name is used. -/
def uses (name : String) (pieces : List Piece) : Nat :=
  pieces.countP fun piece => piece.key? == some name

/-- A name that is reported is used. -/
theorem uses_pos {source name : String} (hName : name ∈ names source) :
    0 < uses name (pieces source.toList) := by
  obtain ⟨p, hPiece, hKey⟩ := mem_names.mp hName
  rw [uses, List.countP_pos_iff]
  exact ⟨.hole p, hPiece, by rw [Piece.key?, hKey, beq_self_eq_true]⟩

/-- A value for an unset name is added at each use of the name, and nothing else changes. -/
theorem length_fill_cons {values : Variables} {name : String}
    (hUnset : values.lookup name = none) (value : String) (pieces : List Piece) :
    (pieces.flatMap (Piece.fill ((name, value) :: values))).length =
      (pieces.flatMap (Piece.fill values)).length + uses name pieces * value.toList.length := by
  induction pieces with
  | nil => simp [uses]
  | cons piece pieces ih =>
    rw [uses] at ih ⊢
    rw [List.flatMap_cons, List.flatMap_cons, List.length_append, List.length_append, ih]
    cases piece with
    | literal c =>
      rw [List.countP_cons_of_neg (by simp [Piece.key?])]
      show 1 + _ = 1 + _ + _
      omega
    | hole p =>
      by_cases hKey : p.key = name
      · rw [List.countP_cons_of_pos (by simp [Piece.key?, hKey]), Nat.add_mul, Piece.fill,
          Piece.fill, hKey, valueOf_cons_self, valueOf_of_unset hUnset, String.toList_empty,
          List.length_nil]
        omega
      · rw [List.countP_cons_of_neg (by simp [Piece.key?, hKey]), Piece.fill, Piece.fill,
          valueOf_cons_of_ne hKey]
        omega

/-- A value for an unset name of a source shows in the result. -/
theorem substitute_cons_ne {source name value : String} {values : Variables}
    (hUnset : values.lookup name = none) (hName : name ∈ names source) (hValue : value ≠ "") :
    substitute source ((name, value) :: values) ≠ substitute source values := by
  intro hSame
  have hLength := length_fill_cons hUnset value (pieces source.toList)
  rw [substitute, substitute, String.ofList_inj] at hSame
  rw [hSame] at hLength
  have hUses := uses_pos hName
  have hSome : 0 < value.toList.length :=
    List.length_pos_iff.mpr fun hEmpty => hValue (String.toList_eq_nil_iff.mp hEmpty)
  have := Nat.mul_pos hUses hSome
  omega

/-- A value for a name that is not in the source does not. -/
theorem substitute_cons_of_not_mem {source name : String} (hName : name ∉ names source)
    (value : String) (values : Variables) :
    substitute source ((name, value) :: values) = substitute source values := by
  apply substitute_congr
  intro other hOther
  apply valueOf_cons_of_ne
  rintro rfl
  exact hName hOther

/-- An unset name is reported as missing if it is in the source. -/
theorem mem_missing_of_unset {source name : String} {values : Variables}
    (hUnset : values.lookup name = none) : name ∈ missing source values ↔ name ∈ names source := by
  rw [missing, List.mem_filter, hUnset]
  exact and_iff_left rfl

/-- **What is reported as missing is what matters.** Two sets of values that agree on the names of
a source give the same text. An unset name is reported as missing exactly when some value for it
would change the text, which is exactly when every value but the empty one would. -/
theorem missing_iff_matters (source : String) (values : Variables) :
    (∀ values', (∀ name ∈ names source, valueOf values name = valueOf values' name) →
      substitute source values = substitute source values') ∧
    ∀ name, values.lookup name = none →
      (name ∈ missing source values ↔ ∃ value, value ≠ "" ∧
        substitute source ((name, value) :: values) ≠ substitute source values) ∧
      (name ∈ missing source values ↔ ∀ value, value ≠ "" →
        substitute source ((name, value) :: values) ≠ substitute source values) := by
  refine ⟨fun values' hAgree => substitute_congr hAgree, fun name hUnset => ?_⟩
  rw [mem_missing_of_unset hUnset]
  have hShows : name ∈ names source → ∀ value, value ≠ "" →
      substitute source ((name, value) :: values) ≠ substitute source values :=
    fun hName value hValue => substitute_cons_ne hUnset hName hValue
  have hNamed : ∀ value,
      substitute source ((name, value) :: values) ≠ substitute source values →
        name ∈ names source := fun value hChanged =>
    Decidable.byContradiction fun hName =>
      hChanged (substitute_cons_of_not_mem hName value values)
  have hValue : "x" ≠ "" := by decide
  refine ⟨⟨fun hName => ⟨"x", hValue, hShows hName "x" hValue⟩, ?_⟩, hShows, fun hAll => ?_⟩
  · rintro ⟨value, -, hChanged⟩
    exact hNamed value hChanged
  · exact hNamed "x" (hAll "x" hValue)

/-- A source with two placeholders. -/
def letter : String := "Dear {{ .name }}, see {{shop.url}}"

/-- In a letter with one name set and the other not, a value for a third name changes nothing, and a
value for the unset one does. -/
theorem missing_iff_matters_of_letter :
    missing letter [("name", "Ada")] = ["shop.url"] ∧
      substitute letter [("name", "Ada")] =
        substitute letter [("color", "red"), ("name", "Ada")] ∧
      substitute letter [("shop.url", "{{name}}"), ("name", "Ada")] ≠
        substitute letter [("name", "Ada")] := by
  have hMissing : missing letter [("name", "Ada")] = ["shop.url"] := by decide +kernel
  obtain ⟨hAgree, hMatters⟩ := missing_iff_matters letter [("name", "Ada")]
  refine ⟨hMissing, hAgree _ (by decide +kernel), ?_⟩
  apply (hMatters "shop.url" (by decide)).2.mp
  · rw [hMissing]
    exact List.mem_singleton_self _
  · decide

end Galley.Placeholder
