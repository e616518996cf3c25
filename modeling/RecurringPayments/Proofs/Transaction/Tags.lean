import RecurringPayments.Proofs.Text.Words
import RecurringPayments.Proofs.Transaction.RoundTrip

/-!
Tags in one cell. Whatever the tags are, each gives back its own pieces between separators, trimmed
and without the empty ones, `tagsOfText_joinTags_eq`. So a list of tags comes back whole exactly if
each of its tags does, and what has come back once comes back whole from then on.
-/
namespace RecurringPayments

open Result

theorem Text.splitAt_eq_splitOn (separator : Char) (s : List Char) :
    splitAt separator s = s.splitOn separator := by
  rw [List.splitOn_eq_splitOnP]
  induction s with
  | nil => rfl
  | cons c s ih =>
    obtain ⟨piece, pieces, split⟩ := List.exists_cons_of_ne_nil (splitAt_ne_nil s)
    rw [List.splitOnP_cons_eq_if_modifyHead, ← ih, split]
    by_cases parts : c = separator
    · rw [parts, splitAt_cons_separator, split, if_pos (beq_self_eq_true separator)]
    · rw [splitAt_cons_of_ne parts split, if_neg (by simpa using parts), List.modifyHead_cons]

/-! ### Pieces of tags -/

def tagPieces (tag : String) : List String :=
  (((tag.toList.splitOn tagSeparator).map Text.trim).filter (· ≠ [])).map String.ofList

theorem tagsOfText_append_cons (s t : List Char) :
    tagsOfText (s ++ tagSeparator :: t) = tagsOfText s ++ tagsOfText t := by
  have split : (s ++ tagSeparator :: t).splitOn tagSeparator =
      s.splitOn tagSeparator ++ t.splitOn tagSeparator := by
    simp only [List.splitOn_eq_splitOnP]
    exact List.splitOnP_append_cons s t (beq_self_eq_true tagSeparator)
  simp only [tagsOfText, Text.splitAt_eq_splitOn, split, List.map_append, List.filter_append]

namespace Transaction

/-- Joined tags are read as if each of them stood alone. -/
theorem tagsOfText_joinTags_eq (tags : List (List Char)) :
    tagsOfText (joinTags tags) = tags.flatMap tagsOfText := by
  rw [joinTags]
  induction tags using Text.joinWith.induct with
  | case1 => rfl
  | case2 tag => rw [Text.joinWith, List.flatMap_singleton]
  | case3 tag tags more ih =>
    rw [Text.joinWith.eq_3 _ _ _ more, List.append_assoc, List.singleton_append,
      tagsOfText_append_cons, ih, List.flatMap_cons]

theorem isWholeTag_of_mem_tagsOfText {s tag : List Char} (htag : tag ∈ tagsOfText s) :
    IsWholeTag tag := by
  rw [tagsOfText, List.mem_filter, List.mem_map] at htag
  obtain ⟨⟨piece, hpiece, rfl⟩, nonempty⟩ := htag
  refine ⟨by simpa using nonempty, fun inside => ?_, Text.trim_trim piece⟩
  exact Text.not_mem_splitAt s piece hpiece
    (List.dropWhile_subset _ ((Text.trim_prefix piece).subset inside))

end Transaction

theorem map_ofList_tagsOfText (tag : String) :
    (tagsOfText tag.toList).map String.ofList = tagPieces tag := by
  have kept : (fun piece : List Char => !piece.isEmpty) = (decide <| · ≠ []) := by
    funext piece
    cases piece <;> rfl
  rw [tagsOfText, tagPieces, Text.splitAt_eq_splitOn, kept]

theorem isWholeTag_of_mem_tagPieces {tag piece : String} (hpiece : piece ∈ tagPieces tag) :
    IsWholeTag piece.toList := by
  rw [← map_ofList_tagsOfText, List.mem_map] at hpiece
  obtain ⟨s, hs, rfl⟩ := hpiece
  rw [String.toList_ofList]
  exact Transaction.isWholeTag_of_mem_tagsOfText hs

theorem flatMap_tagPieces_of_whole {tags : List String}
    (whole : ∀ tag ∈ tags, IsWholeTag tag.toList) : tags.flatMap tagPieces = tags := by
  have pieces : ∀ tag ∈ tags, tagPieces tag = [tag] := by
    intro tag htag
    have alone : ∀ s ∈ [tag.toList], IsWholeTag s := by simpa using whole tag htag
    have read := Transaction.tagsOfText_joinTags alone
    rw [← map_ofList_tagsOfText]
    change (tagsOfText (Transaction.joinTags [tag.toList])).map String.ofList = _
    rw [read, List.map_singleton, String.ofList_toList]
  rw [List.flatMap_congr pieces, List.flatMap_singleton']

theorem flatMap_tagPieces_eq_self_iff {tags : List String} :
    tags.flatMap tagPieces = tags ↔ ∀ tag ∈ tags, IsWholeTag tag.toList := by
  refine ⟨fun same tag htag => ?_, flatMap_tagPieces_of_whole⟩
  rw [← same] at htag
  obtain ⟨whole, -, piece⟩ := List.mem_flatMap.mp htag
  exact isWholeTag_of_mem_tagPieces piece

/-! ### Written and read -/

variable {α : Type} [Scalar α]

namespace Transaction

def rereadTags (t : Transaction α) : Except Fault (List (Value α)) := do
  return tagsOfCell (← t.tagsCell)

def withTags (t : Transaction α) (tags : List String) : Transaction α :=
  { t with tags := tags.map .text }

theorem rereadTags_eq (t : Transaction α) (tags : List String) :
    (t.withTags tags).rereadTags = .ok ((tags.flatMap tagPieces).map .text) := by
  have texts : (t.withTags tags).tags = tags.map .text := rfl
  rw [rereadTags, tagsCell_eq texts, tagTexts_eq texts, ok_bind, pure_eq]
  change Except.ok ((tagsOfText (String.ofList _).toList).map _) = _
  have each : (tags.map String.toList).flatMap (fun tag => (tagsOfText tag).map String.ofList) =
      tags.flatMap tagPieces := by
    rw [List.flatMap_map]
    exact List.flatMap_congr fun tag _ => map_ofList_tagsOfText tag
  rw [String.toList_ofList, tagsOfText_joinTags_eq, ← each, List.map_flatMap, List.map_flatMap]
  simp only [List.map_map, Function.comp_def]

/-- Whatever texts the tags of a transaction are, their cell is read as the pieces of each, in
order. These are the tags themselves exactly if every tag is whole, that is not empty, without a
separator and without blanks around it; and tags that have been read once are written and read
without a change. -/
theorem rereadTags_givesPieces (t : Transaction α) (tags : List String) :
    (t.withTags tags).rereadTags = .ok ((tags.flatMap tagPieces).map .text) ∧
      ((t.withTags tags).rereadTags = .ok (t.withTags tags).tags ↔
        ∀ tag ∈ tags, IsWholeTag tag.toList) ∧
      (t.withTags (tags.flatMap tagPieces)).rereadTags =
        .ok (t.withTags (tags.flatMap tagPieces)).tags := by
  have injective : Function.Injective (Value.text (α := α)) := fun _ _ same => Value.text.inj same
  have again : (tags.flatMap tagPieces).flatMap tagPieces = tags.flatMap tagPieces := by
    refine flatMap_tagPieces_of_whole fun piece hpiece => ?_
    obtain ⟨tag, -, own⟩ := List.mem_flatMap.mp hpiece
    exact isWholeTag_of_mem_tagPieces own
  refine ⟨rereadTags_eq t tags, ?_, ?_⟩
  · rw [rereadTags_eq, Except.ok.injEq, withTags, injective.list_map.eq_iff]
    exact flatMap_tagPieces_eq_self_iff
  · rw [rereadTags_eq, again, withTags]

end Transaction

end RecurringPayments
