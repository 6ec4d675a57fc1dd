import Songbook.Plan

/-!
# Plans of questions

A question is planned without what it replaces: for songs the filter and the order of the
descriptor, for albums its filter.
-/

namespace Songbook

namespace Plan

variable (catalog : Catalog) {descriptor : Descriptor} {question : Question}

theorem songStages_of_question (h : descriptor.question = some question)
    (filter : Option Filter) :
    songStages catalog { descriptor with filter } = songStages catalog descriptor := by
  simp only [songStages, h]

/-- The songs of a question are planned without filter and order. -/
theorem forSongs_of_question (h : descriptor.question = some question)
    (sort : Option (List SortKey)) (filter : Option Filter) :
    forSongs catalog { descriptor with sort, filter } = forSongs catalog descriptor := by
  simp only [forSongs, h]
  rfl

/-- The albums of a question are planned without filter. -/
theorem forAlbums_of_question (h : descriptor.question = some question) (defaultField : String)
    (filter : Option Filter) :
    forAlbums catalog defaultField { descriptor with filter } =
      forAlbums catalog defaultField descriptor := by
  rw [forAlbums, songStages_of_question catalog h, forAlbums]
  rfl

end Plan

end Songbook
